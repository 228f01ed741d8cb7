import Interop.Shell.Builtin.Basic

/-!
# Jobs

What goes on in the background has a number, which is free again when somebody has waited for
its end and something else is started.  The shell learns about ends whenever it waits.  Signals
go to jobs and to the shell itself.
-/

namespace Interop.Shell

namespace Job

def isRunning (now : Span) (j : Job) : Bool :=
  match j.finish with
  | none => true
  | some (time, _) => decide (now.nanos < time.nanos)

def fate (j : Job) : Fate := (j.finish.map Prod.snd).getD (.code 0)

def freeSlot : Nat → Nat → List Job → Nat × List Job
  | 0, n, jobs => (n, jobs)
  | fuel + 1, n, jobs =>
    match jobs.find? fun j => j.slot == n with
    | none => (n, jobs)
    | some j =>
      if j.isCollected && j.isAwaited then (n, jobs.filter fun j => j.slot != n)
      else freeSlot fuel (n + 1) jobs

end Job

namespace Act

def takeSlot : Act Nat := fun s =>
  let (n, jobs) := Job.freeSlot (s.jobs.length + 1) 1 s.jobs
  .ok (n, { s with jobs })

def collectJobs : Act Unit :=
  modify fun s =>
    if s.jobs.isEmpty then s
    else
      let now := s.world.elapsed
      { s with jobs := s.jobs.map fun j =>
          if j.isRunning now then j else { j with isCollected := true } }

def announceEnd (time : Span) : Act Unit := do
  let s ← get
  if (trapFor? s Signal.child).any fun action => !action.isEmpty then
    modifyWorld fun w =>
      { w with dispatches := w.dispatches ++
          [{ number := w.dispatches.length, time, toGroup := false, receiver := s.pid
             signal := Signal.child }] }

def attend (body : Act Unit) : Act Fate := do
  let _ ← takeSlot
  let fate ← spawn body
  collectJobs
  announceEnd (← get).world.elapsed
  return fate

def addJob (pid width : Nat) (finish : Option (Span × Fate)) : Act Unit := do
  let slot ← takeSlot
  let job : Job := { slot, pid, width, finish, isCollected := false, isAwaited := false }
  modify fun s => { s with jobs := job :: s.jobs, lastJob := some (pid + width - 1) }

def changeJob (slot : Nat) (f : Job → Job) : Act Unit :=
  modify fun s => { s with jobs := s.jobs.map fun j => if j.slot == slot then f j else j }

def forgetJob (slot : Nat) : Act Unit :=
  modify fun s => { s with jobs := s.jobs.filter fun j => j.slot != slot }

end Act

namespace Builtin

/-! ## Finding jobs -/

def jobOf (text : String) : Act Job := do
  let jobs := (← get).jobs
  let found (job? : Option Job) (problem : String) : Act Job :=
    match job? with
    | some j => return j
    | none => Act.fail problem
  match text.toList with
  | ['%'] | ['%', '%'] | ['%', '+'] => found jobs.head? "No current job"
  | ['%', '-'] => found jobs.tail.head? "No previous job"
  | '%' :: cs =>
    let n := if cs.all Char.isDigit then some (valueOf 10 cs) else none
    found (jobs.find? fun j => some j.slot == n) ("No such job: " ++ text)
  | _ => Act.fail ("No such job: " ++ text)

def mourn (fate : Fate) : Act Unit :=
  match fate with
  | .signal n =>
    if n == Signal.int || n == Signal.pipe then return ()
    else Act.complainRaw (Signal.description n ++ "\n")
  | _ => return ()

/-! ## Waiting -/

/-- Waits until a time, unless a signal with a trap comes before: its number then. -/
def waitFor (until? : Option Span) : Act (Option Nat) := do
  let s ← get
  let trapped := (Act.arrived s until?).find? fun d =>
    (Act.trapFor? s d.signal).any fun action => !action.isEmpty
  match trapped with
  | some d =>
    Act.waitUntil d.time
    return some d.signal
  | none =>
    match until? with
    | some time =>
      Act.waitUntil time
      return none
    | none =>
      Act.waitForever

def waitForAll : Act Unit := do
  let s ← get
  let endless := s.jobs.any fun j => j.finish.isNone
  let last := (s.jobs.filterMap fun j => j.finish.map Prod.fst).foldl OpenFile.laterOf
    s.world.elapsed
  match ← waitFor (if endless then none else some last) with
  | some signal => Act.setStatus (128 + signal)
  | none =>
    Act.collectJobs
    modify fun s => { s with jobs := s.jobs.map fun j => { j with isAwaited := true } }
    Act.setStatus 0

def waitForJob (j : Job) : Act Unit := do
  match ← waitFor (j.finish.map Prod.fst) with
  | some signal => Act.setStatus (128 + signal)
  | none =>
    if !j.isCollected then mourn j.fate
    Act.collectJobs
    Act.changeJob j.slot fun j => { j with isAwaited := true }
    Act.setStatus j.fate.status

def wait : Builtin := fun args => do
  let (_, words) ← options "" args
  if words.isEmpty then waitForAll
  else
    words.forM fun word => do
      if word.startsWith "%" then waitForJob (← jobOf word)
      else
        let pid ← number word
        match (← get).jobs.find? fun j => j.pid + j.width - 1 == pid with
        | some j => waitForJob j
        | none => Act.setStatus 127

/-! ## Showing jobs -/

def stateOf (now : Span) (j : Job) : String :=
  if j.isRunning now then "Running"
  else
    match j.fate with
    | .signal signal => Signal.description signal
    | .code 0 | .endless => "Done"
    | .code code => "Done(" ++ toString code ++ ")"

/-- A text with blanks up to a width, and at least one. -/
def filled (width : Nat) (text : String) : String :=
  text ++ String.ofList (List.replicate (max 1 (width - text.length)) ' ')

def showJob (long onlyPid : Bool) (j : Job) : Act Unit := do
  let s ← get
  let rank := if (s.jobs.head?.map Job.slot) == some j.slot then "+"
    else if (s.jobs.tail.head?.map Job.slot) == some j.slot then "-"
    else " "
  if onlyPid then Act.say (toString j.pid ++ "\n")
  else
    let lead := "[" ++ toString j.slot ++ "] " ++ rank ++ " "
    let state := stateOf s.world.elapsed j
    if long then
      let further (n : Nat) : String :=
        " |\n" ++ filled 33 ("      " ++ toString (j.pid + n + 1) ++ " ")
      Act.say (filled 33 (lead ++ toString j.pid ++ " " ++ state) ++
        String.join ((List.range (j.width - 1)).map further) ++ "\n")
    else
      let bars := String.join (List.replicate (j.width - 1) " | ")
      Act.say (filled 33 (lead ++ state) ++ bars ++ "\n")
    if !j.isRunning s.world.elapsed then Act.forgetJob j.slot

def jobs : Builtin := fun args => do
  let (given, words) ← options "lp" args
  let long := Shell.Options.has given 'l'
  let onlyPid := (given.getLast?.map GivenOption.letter) == some 'p'
  if words.isEmpty then
    Act.collectJobs
    (← get).jobs.forM (showJob long onlyPid)
  else words.forM fun word => do showJob long onlyPid (← jobOf word)
  Act.setStatus 0

def resume : Builtin := fun args => do
  let (_, words) ← options "" args
  let name := words.headD "%"
  let _ ← jobOf name
  let shown := if words.isEmpty then "(null)" else name
  Act.fail ("job " ++ shown ++ " not created under job control")

/-! ## Sending signals -/

def killUsage : String :=
  "Usage: kill [-s sigspec | -signum | -sigspec] [pid | job]... or\nkill -l [exitstatus]"

/-- Time until a signal reaches another process. -/
def transit : Nat := 20000

def underWay (w : World) (receiver signal : Nat) : Dispatch :=
  { number := 0, time := ⟨w.elapsed.nanos + transit⟩, toGroup := false, receiver, signal }

def isForeseen (w : World) (d : Dispatch) : Bool :=
  (w.dispatches.take w.foreseen).any fun other => { other with number := d.number } == d

def firstProcess : Nat := 1

/-- Sends a signal to a process; whether there is such a process. -/
def signalTo (receiver signal : Nat) : Act Bool := do
  let s ← get
  if receiver == s.pid || receiver == s.shellPid || receiver == s.parent || receiver == 0 then
    if signal != 0 then
      Act.send .zero false (if receiver == 0 then s.pid else receiver) signal
    return true
  else if receiver == firstProcess then return true
  else
    match s.jobs.find? fun j => j.pid ≤ receiver && receiver < j.pid + j.width with
    | none => return false
    | some j =>
      if j.isCollected then return false
      else
        let d := underWay s.world receiver signal
        if signal != 0 && j.isRunning d.time && !isForeseen s.world d && s.world.late.isNone then
          Act.modifyWorld fun w => { w with late := some d }
        return true

def killArguments (args : List String) : Act (Nat × List String) := do
  match args with
  | arg :: rest =>
    if arg == "--" then return (Signal.terminate, rest)
    else
      match arg.toList with
      | '-' :: 's' :: cs =>
        if cs.isEmpty then
          match rest with
          | [] => Act.fail "No arg for -s option"
          | name :: rest =>
            match Signal.number? name false with
            | some signal => return (signal, rest)
            | none => Act.fail ("invalid signal number or name: " ++ name)
        else
          match Signal.number? (String.ofList cs) false with
          | some signal => return (signal, rest)
          | none => Act.fail ("invalid signal number or name: " ++ String.ofList cs)
      | '-' :: c :: cs =>
        match Signal.number? (String.ofList (c :: cs)) false with
        | some signal => return (signal, if rest.head? == some "--" then rest.tail else rest)
        | none => Act.fail ("Illegal option -" ++ c.toString)
      | _ => return (Signal.terminate, arg :: rest)
  | [] => return (Signal.terminate, [])

def signalList : String :=
  "0\n" ++ String.join ((List.range (Signal.count - 1)).map fun n => Signal.name (n + 1) ++ "\n")

/-- Whether what an argument of `kill` names gets a signal.  Groups of processes are looked for
under the numbers of jobs, and there are none. -/
def signalNamed (signal : Nat) (text : String) : Act Bool := do
  if text.startsWith "%" then
    let _ ← jobOf text
    return false
  else if text.startsWith "-" then
    let _ ← number (text.drop 1).toString
    return false
  else signalTo (← number text) signal

def kill : Builtin := fun args => do
  if args.head? == some "-l" then
    match args.tail with
    | [] =>
      Act.say signalList
      Act.setStatus 0
    | text :: _ =>
      let n ← number text
      let signal := if 128 < n then n - 128 else n
      if 0 < signal && signal < Signal.count then
        Act.say (Signal.name signal ++ "\n")
        Act.setStatus 0
      else Act.fail ("invalid signal number or exit status: " ++ text)
  else
    let (signal, receivers) ← killArguments args
    if receivers.isEmpty then Act.fail killUsage
    else
      Act.setStatus 0
      receivers.forM fun text => do
        if !(← signalNamed signal text) then
          Act.warn "No such process\n"
          Act.setStatus 1

end Builtin

end Interop.Shell
