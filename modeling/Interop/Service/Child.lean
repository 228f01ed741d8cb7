import Interop.Disk.Journal

/-!
# Children

A machine launches programs, and each becomes a child: it changes what is on the disk, and ends
by itself or by a signal.  Whoever launched a child remembers its pid to send it signals, until
its end has been collected or it was killed: after that the number may belong to a stranger.
-/

namespace Interop

inductive Ending
  | code (number : Nat)
  | signal (number : Nat)
  deriving DecidableEq, Repr, Inhabited

namespace Ending

def killNumber : Nat := 9

def killed : Ending := .signal killNumber

def signalNames : List String :=
  ["SIGHUP", "SIGINT", "SIGQUIT", "SIGILL", "SIGTRAP", "SIGABRT", "SIGBUS", "SIGFPE", "SIGKILL",
    "SIGUSR1", "SIGSEGV", "SIGUSR2", "SIGPIPE", "SIGALRM", "SIGTERM", "SIGSTKFLT", "SIGCHLD",
    "SIGCONT", "SIGSTOP", "SIGTSTP", "SIGTTIN", "SIGTTOU", "SIGURG", "SIGXCPU", "SIGXFSZ",
    "SIGVTALRM", "SIGPROF", "SIGWINCH", "SIGIO", "SIGPWR", "SIGSYS"]

def signalLabel (number : Nat) : String :=
  match (none :: signalNames.map some)[number]? with
  | some (some name) => " (" ++ name ++ ")"
  | _ => ""

def text : Ending → String
  | .code number => s!"exit code {number}"
  | .signal number => s!"terminated by signal (signal: {number}" ++ signalLabel number ++ ")"

end Ending

inductive Channel
  | output
  | errors
  deriving DecidableEq, Repr, Inhabited

structure Course where
  changes : List Change
  finish : Option (Span × Ending)
  deriving DecidableEq, Repr, Inhabited

structure Work where
  course : List Span → Course
  linger : Span
  /-- Why nobody can find out about its end, if so. -/
  lost : Option String

structure Invocation where
  program : String
  args : List String
  directory : String
  output : String
  errors : String
  deriving DecidableEq, Repr, Inhabited

structure Scene where
  disk : Disk
  coming : List Change
  deriving DecidableEq, Repr, Inhabited

structure Machine where
  disk : Disk
  launch : Scene → Invocation → Except String Work

structure Child where
  pid : Nat
  begun : Instant
  work : Work
  requests : List Span
  course : Course
  cut : Option (Instant × Ending)
  remembered : Bool
  collected : Option Ending
  struck : Bool

namespace Child

def ofWork (pid : Nat) (begun : Instant) (work : Work) : Child :=
  { pid, begun, work, requests := [], course := work.course [], cut := none, remembered := true
    collected := none, struck := false }

/-! ## The end of a child -/

/-- When and how it ends when nobody disturbs it. -/
def ownFinish? (c : Child) : Option (Instant × Ending) :=
  c.course.finish.map fun (length, ending) => (length.after c.begun, ending)

def finish? (c : Child) : Option (Instant × Ending) :=
  match c.cut, c.ownFinish? with
  | none, own => own
  | some cut, none => some cut
  | some cut, some own => some (if own.1 ≤ cut.1 then own else cut)

def ending? (now : Instant) (c : Child) : Option Ending :=
  match c.finish? with
  | some (time, ending) => if time ≤ now then some ending else none
  | none => none

def forget (c : Child) : Child := { c with remembered := false }

/-- Collects the end, if it has come and can be found out; the pid is forgotten then. -/
def collect (now : Instant) (c : Child) : Child :=
  match c.work.lost, c.ending? now with
  | none, some ending => { c.forget with collected := some ending }
  | _, _ => c

/-- When a wait that began at `since` ends: at once if nobody can find out about the end. -/
def awaited? (since : Instant) (c : Child) : Option Instant :=
  match c.work.lost with
  | some _ => some since
  | none => c.finish?.map fun finish => max since finish.1

/-! ## Signals -/

def terminate (now : Instant) (c : Child) : Child :=
  if !c.remembered || c.cut.isSome || (c.ending? now).isSome then c
  else
    let requests := c.requests ++ [.between c.begun now]
    { c with requests, course := c.work.course requests }

/-- Kills a child, unless it has ended or is killed already. -/
def strike (now : Instant) (c : Child) : Child :=
  if c.cut.isSome || (c.ending? now).isSome then { c with struck := true }
  else { c with cut := some (c.work.linger.after now, .killed), struck := true }

/-! ## What it does -/

/-- The changes that it makes, each with its instant.  What it has left behind goes on after
its end. -/
def changes (c : Child) : List (Instant × Change) :=
  let timed := c.course.changes.map fun change => (change.after.after c.begun, change)
  match c.cut with
  | none => timed
  | some (time, _) => timed.filter fun entry => entry.2.stray || entry.1 ≤ time

end Child

abbrev Crew := List Child

namespace Crew

def collectInOrder (now : Instant) : Crew → Crew
  | [] => []
  | c :: rest =>
    if c.work.lost.isNone && (c.ending? now).isSome then
      c.collect now :: collectInOrder now rest
    else c :: rest

/-- When waits for all children, one after another, end: at once with the first child that
cannot be waited for. -/
def allAwaited? (since : Instant) : Crew → Option Instant
  | [] => some since
  | c :: rest =>
    match c.awaited? since with
    | none => none
    | some time => if c.work.lost.isSome then some time else allAwaited? time rest

def lost? (crew : Crew) : Option String := crew.findSome? fun c => c.work.lost

def firstEnded? (now : Instant) (position : Nat) :
    Crew → Except String (Option (Nat × Ending))
  | [] => .ok none
  | c :: rest =>
    match c.work.lost, c.ending? now with
    | some reason, _ => .error reason
    | none, some ending => .ok (some (position, ending))
    | none, none => firstEnded? now (position + 1) rest

def terminate (now : Instant) (crew : Crew) : Crew := crew.map (Child.terminate now)

def strikeAll (now : Instant) (crew : Crew) : Crew :=
  crew.map fun c => (c.strike now).forget

/-- Kills children one after another from the instant `since`, and waits for each before its
pid is forgotten.  Given back are the children, the number of those that are done with, and the
instant at which the last of these was. -/
def strikeInOrder (now since : Instant) : Crew → Crew × Nat × Instant
  | [] => ([], 0, since)
  | c :: rest =>
    let c := c.strike since
    match c.awaited? since with
    | none => (c :: rest, 0, since)
    | some time =>
      if now < time then (c :: rest, 0, since)
      else
        let (rest, count, since) := strikeInOrder now time rest
        ((c.collect now).forget :: rest, count + 1, since)

def allStruck (since : Instant) : Crew → Instant
  | [] => since
  | c :: rest => allStruck (((c.strike since).awaited? since).getD since) rest

def changes (crew : Crew) : List (Instant × Change) := crew.flatMap Child.changes

end Crew

end Interop
