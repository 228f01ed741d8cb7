import Interop.Span

/-!
# Clockwork

Tasks take turns on one thread under a virtual clock.  One of them is the main task: a round
begins with its turn if it can run, and then the others that can run take turns first in, first
out.  The clock stands still as long as a task can run, and then jumps to the next alarm.
Alarms go off at whole milliseconds, rounded up; those of one millisecond in the order in which
they were set.
-/

namespace Interop

/-- An alarm of a task.  One of kind zero stays as it is from turn to turn; others are set anew
whenever the task has got on. -/
structure Alarm where
  task : Nat
  kind : Nat
  time : Instant
  deriving DecidableEq, Repr, Inhabited

structure Clockwork where
  now : Instant
  isCalled : Bool
  isRoundStart : Bool
  turns : Nat
  queue : List Nat
  alarms : List Alarm
  deriving DecidableEq, Repr, Inhabited

structure Turn (σ : Type) where
  state : σ
  woken : List Nat
  alarms : List (Nat × Instant)
  isFresh : Bool

namespace Clockwork

def mainTask : Nat := 0

def roundLength : Nat := 61

def start : Clockwork :=
  { now := 0, isCalled := true, isRoundStart := true, turns := 0, queue := [], alarms := [] }

def tick (time : Instant) : Instant := (time + 999999) / 1000000 * 1000000

/-- Makes a task able to run; one that already is keeps its place. -/
def wake (c : Clockwork) (task : Nat) : Clockwork :=
  if task = mainTask then { c with isCalled := true }
  else if c.queue.contains task then c
  else { c with queue := c.queue ++ [task] }

def wakeAll (c : Clockwork) (tasks : List Nat) : Clockwork := tasks.foldl wake c

/-- Sets all alarms of a task.  One that it had already keeps its place, unless the task has got
on. -/
def setAlarms (c : Clockwork) (task : Nat) (isFresh : Bool) (alarms : List (Nat × Instant)) :
    Clockwork :=
  let wanted := alarms.map fun (kind, time) => Alarm.mk task kind time
  let stays (a : Alarm) : Bool :=
    a.task != task || (wanted.contains a && (a.kind == 0 || !isFresh))
  let kept := c.alarms.filter stays
  { c with alarms := kept ++ wanted.filter fun a => !kept.contains a }

def nextTick (c : Clockwork) : Option Instant := (c.alarms.map fun a => tick a.time).min?

def beginRound (c : Clockwork) : Clockwork := { c with isRoundStart := true, turns := 0 }

def advance? (c : Clockwork) : Option Clockwork :=
  match c.nextTick with
  | none => none
  | some time =>
    let now := max c.now time
    let due := c.alarms.filter fun a => tick a.time ≤ now
    some <| wakeAll
      { c with now, alarms := c.alarms.filter fun a => now < tick a.time }
      (due.map Alarm.task)

def endTurn {σ : Type} (c : Clockwork) (task : Nat) (turn : Turn σ) : Clockwork :=
  ({ c with isRoundStart := false }.wakeAll turn.woken).setAlarms task turn.isFresh turn.alarms

def next? (c : Clockwork) : Option (Nat × Clockwork) :=
  if c.isRoundStart && c.isCalled then some (mainTask, { c with isCalled := false })
  else
    match c.queue with
    | [] => none
    | task :: queue =>
      if c.turns < roundLength then some (task, { c with queue, turns := c.turns + 1 }) else none

def nextRound? (c : Clockwork) : Option Clockwork :=
  if c.isCalled || !c.queue.isEmpty then some c.beginRound else c.advance?.map beginRound

/-- Lets tasks take turns until the goal is reached or nothing is left to do, at most `fuel`
turns and rounds. -/
def run {σ : Type} (poll : Instant → Nat → σ → Turn σ) (goal : σ → Bool) :
    Nat → Clockwork → σ → Clockwork × σ
  | 0, c, state => (c, state)
  | fuel + 1, c, state =>
    if goal state then (c, state)
    else
      match c.next? with
      | some (task, c) =>
        let turn := poll c.now task state
        run poll goal fuel (endTurn c task turn) turn.state
      | none =>
        match c.nextRound? with
        | none => (c, state)
        | some c => run poll goal fuel c state

end Clockwork

end Interop
