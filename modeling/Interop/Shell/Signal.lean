import Interop.Shell.State

/-!
# Signals

A signal has a number, and most have a name and a description.  What it does to a process
depends on what the process has set up: it is ignored, it runs a trap, or it ends the process.
Signals to a shell are noticed between commands; one that ends a process does so at the time at
which it arrives.
-/

namespace Interop.Shell

namespace Signal

/-- The names of signals from number 1 on; some have none. -/
def names : List String :=
  ["HUP", "INT", "QUIT", "ILL", "TRAP", "ABRT", "BUS", "FPE", "KILL", "USR1", "SEGV", "USR2",
    "PIPE", "ALRM", "TERM", "", "CHLD", "CONT", "STOP", "TSTP", "TTIN", "TTOU", "URG", "XCPU",
    "XFSZ", "VTALRM", "PROF", "WINCH", "IO", "PWR", "SYS", "", "", "RTMIN"] ++
    ((List.range 15).map fun n => "RTMIN+" ++ toString (n + 1)) ++
    ((List.range 14).map fun n => "RTMAX-" ++ toString (14 - n)) ++ ["RTMAX"]

def name (number : Nat) : String :=
  if number == 0 then "EXIT"
  else
    match names[number - 1]? with
    | some "" | none => toString number
    | some name => name

def descriptions : List String :=
  ["Hangup", "Interrupt", "Quit", "Illegal instruction", "Trace/breakpoint trap", "Aborted",
    "Bus error", "Floating point exception", "Killed", "User defined signal 1",
    "Segmentation fault", "User defined signal 2", "Broken pipe", "Alarm clock", "Terminated",
    "Stack fault", "Child exited", "Continued", "Stopped (signal)", "Stopped",
    "Stopped (tty input)", "Stopped (tty output)", "Urgent I/O condition",
    "CPU time limit exceeded", "File size limit exceeded", "Virtual timer expired",
    "Profiling timer expired", "Window changed", "I/O possible", "Power failure",
    "Bad system call"]

def description (number : Nat) : String :=
  match descriptions[number - 1]? with
  | some text => text
  | none =>
    if 34 ≤ number then "Real-time signal " ++ toString (number - 34)
    else "Unknown signal " ++ toString number

def count : Nat := 65

/-- The number of a signal with a name, or that a number is; zero stands for the end of the
shell where that is allowed. -/
def number? (text : String) (orEnd : Bool) : Option Nat :=
  let cs := text.toList
  if !cs.isEmpty && cs.all Char.isDigit then
    match text.toNat? with
    | some n => if n < count then some n else none
    | none => none
  else
    let upper := text.map Char.toUpper
    if orEnd && upper == "EXIT" then some 0
    else if upper.isEmpty then none
    else (names.findIdx? fun name => name == upper).map (· + 1)

def int : Nat := 2

def kill : Nat := 9

def pipe : Nat := 13

def terminate : Nat := 15

def child : Nat := 17

def isFirm (number : Nat) : Bool := number == kill || number == 19

/-- Signals that do nothing unless a trap says otherwise. -/
def isHarmless (number : Nat) : Bool := [17, 18, 23, 28].contains number

def isStop (number : Nat) : Bool := [19, 20, 21, 22].contains number

end Signal

namespace Act

def trapFor? (s : State) (signal : Nat) : Option String :=
  if Signal.isFirm signal then none
  else (s.traps.find? fun entry => entry.1 == signal).map Prod.snd

def isIgnored (s : State) (signal : Nat) : Bool :=
  match trapFor? s signal with
  | some action => action.isEmpty
  | none => Signal.isHarmless signal

def concerns (s : State) (d : Dispatch) : Bool :=
  !s.noticed.contains d.number &&
    (if d.toGroup then s.group == d.receiver && s.pid != d.receiver && s.born.nanos ≤ d.time.nanos
      else s.pid == d.receiver)

/-- The signals for a process that have arrived until some time, the earliest first. -/
def arrived (s : State) (limit : Option Span) : List Dispatch :=
  let found := s.world.dispatches.filter fun d =>
    concerns s d && limit.all fun limit => d.time.nanos ≤ limit.nanos
  found.mergeSort fun a b => a.time.nanos ≤ b.time.nanos

def send (delay : Span) (toGroup : Bool) (receiver signal : Nat) : Act Unit :=
  modifyWorld fun w =>
    let d : Dispatch :=
      { number := w.dispatches.length, time := ⟨w.elapsed.nanos + delay.nanos⟩, toGroup, receiver
        signal }
    { w with dispatches := w.dispatches ++ [d] }

def noticeOne (d : Dispatch) : Act Unit :=
  modify fun s => { s with noticed := d.number :: s.noticed }

/-- Ends the process by a signal at the time at which it has arrived.  What was written later
comes from others. -/
def dieOf (d : Dispatch) : Act Unit := do
  noticeOne d
  modifyWorld fun w =>
    { w with
      elapsed := d.time
      changes := w.changes.map fun change =>
        if d.time.nanos < change.after.nanos then { change with stray := true } else change }
  if Signal.isStop d.signal then leave .endless else leave (.killed d.signal)

def isLethal (s : State) (d : Dispatch) : Bool :=
  (trapFor? s d.signal).isNone && !Signal.isHarmless d.signal

/-- Ends a process that waits for something without an end: by a signal, if one comes. -/
def waitForever {α : Type} : Act α := do
  let s ← get
  match (arrived s none).find? (isLethal s) with
  | some d => dieOf d
  | none => pure ()
  leave .endless

/-- Runs a program that runs no traps to its end, unless a signal ends it before. -/
def mortally (act : Act Unit) : Act Unit := do
  let check : Act Unit := do
    let s ← get
    match (arrived s (some s.world.elapsed)).find? (isLethal s) with
    | some d => dieOf d
    | none => return ()
  let ends (flow : Flow) : Act Unit := do
    if flow == .endless then waitForever
    else
      check
      leave flow
  catchLeave act ends
  check

/-- Notices signals that have arrived: those that are ignored are forgotten, those that end the
process do so, and the actions of others are given back. -/
def notice : Nat → List (Nat × String) → Act (List (Nat × String))
  | 0, found => return found.reverse
  | fuel + 1, found => do
    let s ← get
    if s.world.dispatches.length == s.noticed.length then return found.reverse
    else
      match arrived s (some s.world.elapsed) with
      | [] => return found.reverse
      | d :: _ =>
        if isIgnored s d.signal then
          noticeOne d
          notice fuel found
        else
          match trapFor? s d.signal with
          | some action =>
            noticeOne d
            notice fuel ((d.signal, action) :: found)
          | none =>
            dieOf d
            return found.reverse

/-! ## Processes -/

/-- The state that a process begins with: it runs no traps and knows no jobs. -/
def childOf (s : State) : State :=
  { s with
    world := { s.world with nextPid := s.world.nextPid + 1 }
    pid := s.world.nextPid
    parent := s.pid
    born := s.world.elapsed
    noticed := []
    traps := s.traps.filter fun entry => entry.2.isEmpty
    jobs := [] }

/-- Does something in a process of its own, and waits for it: how it has ended, unless it comes
back with something. -/
def fork {α : Type} (body : Act α) : Act (Except Fate α) := fun s =>
  let finish (t : State) (result : Except Fate α) :=
    Except.ok (result, { s with world := t.world })
  match body (childOf s) with
  | .ok (a, t) => finish t (.ok a)
  | .error ⟨flow, t⟩ =>
    match flow with
    | .killed signal => finish t (.error (.signal signal))
    | .endless => finish t (.error .endless)
    | _ => finish t (.error (.code (t.status % 256)))

def spawn (body : Act Unit) : Act Fate := do
  let result ← fork do
    body
    (leave .exits : Act Unit)
  match result with
  | .error fate => return fate
  | .ok () => return .code 0

end Act

end Interop.Shell
