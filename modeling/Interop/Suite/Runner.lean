import Interop.Clockwork
import Interop.Service.Fleet
import Interop.Suite

/-!
# Running a suite

The order of moves that a single thread under a virtual clock produces: the scheduler, the
jobs and the executions are tasks that take turns first in, first out, and every task goes as
far as it can in its turn.  Beside them run tasks that abort the suite or return nodes after a
while.
-/

namespace Interop

inductive Aside
  | lend (lease : Lease) (length : Span)
  | abort (reason : AbortReason) (length : Span)

/-- How long it takes until it happens. -/
def Aside.length : Aside → Span
  | .lend _ length | .abort _ length => length.asSleep

structure Staging where
  suite : Suite
  fleet : Fleet
  asides : List Aside

namespace Staging

def patience : Nat := 10000000

/-! ## Tasks -/

def schedulerTask : Nat := Clockwork.mainTask

def jobTask (slot : Nat) : Nat := 3 * slot + 1

def executionTask (slot : Nat) : Nat := 3 * slot + 2

def asideTask (index : Nat) : Nat := 3 * index + 3

def woken (st : Staging) : List Nat :=
  (st.suite.pool.waiters.filter Waiter.woken).map fun waiter => executionTask waiter.ticket

def jobIndex? (st : Staging) (slot : Nat) : Option Nat :=
  Controller.positionFrom (fun job : Job => job.slot == slot) 0 st.suite.jobs

def execution? (st : Staging) (index : Nat) : Option Execution :=
  match st.suite.jobs[index]? with
  | some job =>
    match job.phase with
    | .running e => some e
    | _ => none
  | none => none

/-! ## Executions -/

def passOn (now : Instant) (slot : Nat) (before after : Execution) (f : Fleet) : Fleet :=
  let notes := after.notes.take (after.notes.length - before.notes.length)
  let f := { f with trace := notes ++ f.trace }
  let f := if !before.isClosing && after.isClosing then f.abandon slot else f
  f.forward now slot before.controller after.controller

def play (now : Instant) (index : Nat) (move : CaseMove) (st : Staging) : Staging :=
  let suite := st.suite.step now (.play index move)
  match st.execution? index, { st with suite }.execution? index with
  | some before, some after =>
    let slot := st.suite.jobs[index]?.elim 0 Job.slot
    { st with suite, fleet := passOn now slot before after st.fleet }
  | _, _ => { st with suite }

def refresh (now : Instant) (index slot : Nat) (st : Staging) : Staging :=
  let fleet := st.fleet.catchUp now slot
  let exposures := (fleet.ofOwner slot).map Service.exposure
  (exposures.foldl
    (fun state exposure => (state.1 + 1, state.2.play now index (.observe state.1 exposure)))
    (0, { st with fleet })).2

def nextMove? (now : Instant) (slot : Nat) (e : Execution) (st : Staging) :
    Option (CaseMove × Staging) :=
  let expiry : Option (CaseMove × Staging) :=
    if !e.isClosing && decide (e.deadline ≤ now) then some (.expire, st) else none
  match e.stage with
  | .working purpose operation =>
    match st.fleet.nextAnswer? now slot slot st.suite.pool operation.wait with
    | some (answer, fleet) => some (.answer answer, { st with fleet })
    | none =>
      if purpose.limit?.any fun limit => decide (limit.1 ≤ now) then
        some (.giveUp, { st with fleet := st.fleet.abandon slot })
      else expiry
  | .sleeping wake _ => if wake ≤ now then some (.wake, st) else expiry
  | _ => none

/-- Lets an execution go on as far as it can; whether it has got on. -/
def pursue (now : Instant) (index slot : Nat) : Nat → Bool → Staging → Bool × Staging
  | 0, moved, st => (moved, st)
  | fuel + 1, moved, st =>
    let st := st.refresh now index slot
    match st.execution? index with
    | none => (moved, st)
    | some e =>
      match st.nextMove? now slot e with
      | none => (moved, st)
      | some (move, st) => pursue now index slot fuel true (st.play now index move)

/-- When an execution is to be looked at again: for what it waits for, and at its limit. -/
def alarmsOf (slot : Nat) (e : Execution) (f : Fleet) : List (Nat × Instant) :=
  let own := match e.stage with
    | .working purpose operation =>
      f.alarms slot operation.wait ++ (purpose.limit?.map fun limit => (3, limit.1)).toList
    | .sleeping wake _ => [(1, wake)]
    | _ => []
  if e.isClosing then own else own ++ [(0, e.deadline)]

def executionTurn (now : Instant) (slot : Nat) (st : Staging) : Turn Staging :=
  match st.jobIndex? slot with
  | none => ⟨st, [], [], false⟩
  | some index =>
    let st := (st.refresh now index slot).play now index .enter
    let (moved, st) := pursue now index slot patience false st
    let st := st.play now index .park
    let st := { st with fleet := st.fleet.begin now }
    match st.execution? index with
    | none => ⟨st, st.woken, [], moved⟩
    | some e =>
      if e.isOver then ⟨st, st.woken ++ [jobTask slot], [], moved⟩
      else ⟨st, st.woken, alarmsOf slot e st.fleet, moved⟩

/-! ## Jobs and the scheduler -/

def advance (index : Nat) : Nat → Suite → Suite
  | 0, s => s
  | fuel + 1, s =>
    match s.jobs[index]? with
    | none => s
    | some job =>
      let moved := s.advance index
      match job.phase, moved.jobs[index]? with
      | .running _, some ⟨_, _, _, .running _⟩ => s
      | .ended, _ => s
      | _, _ => advance index fuel moved

def jobSteps : Nat := 6

def isEnded (s : Suite) (index : Nat) : Bool :=
  match s.jobs[index]? with
  | some job => job.phase.isEnded
  | none => false

/-- A turn of a job: it begins its execution, or concludes. -/
def jobTurn (slot : Nat) (st : Staging) : Turn Staging :=
  match st.jobIndex? slot with
  | none => ⟨st, [], [], false⟩
  | some index =>
    let fresh := st.execution? index |>.isNone
    let st := { st with suite := advance index jobSteps st.suite }
    let woken :=
      if isEnded st.suite index then [schedulerTask]
      else if fresh then [executionTask slot]
      else []
    ⟨st, woken, [], false⟩

def isBlocked (s : Suite) : Bool :=
  match s.scheduler with
  | .queue _ => s.signal.reason.isNone && s.permits == 0
  | .join => !s.jobs.all fun job => job.phase.isEnded
  | .done _ => true
  | _ => false

def schedule (now : Instant) : Nat → Suite → Suite
  | 0, s => s
  | fuel + 1, s => if isBlocked s then s else schedule now fuel (s.step now .schedule)

def schedulerTurn (now : Instant) (st : Staging) : Turn Staging :=
  let suite := schedule now patience st.suite
  let fresh := suite.jobs.drop st.suite.jobs.length
  ⟨{ st with suite }, fresh.map fun job => jobTask job.slot, [], false⟩

/-! ## Beside the suite -/

/-- The tasks that hear an abort: the scheduler while it waits for a permit, and the
executions that are not closing. -/
def hearers (s : Suite) : List Nat :=
  let scheduler := match s.scheduler with
    | .queue _ => [schedulerTask]
    | _ => []
  scheduler ++ s.jobs.filterMap fun job =>
    match job.phase with
    | .running e => if e.isClosing then none else some (executionTask job.slot)
    | _ => none

/-- A turn of something beside the suite: its time runs from the beginning. -/
def asideTurn (now : Instant) (index : Nat) (st : Staging) : Turn Staging :=
  match st.asides[index]? with
  | none => ⟨st, [], [], false⟩
  | some aside =>
    if aside.length.nanos > now then ⟨st, [], [(1, aside.length.after 0)], false⟩
    else
      match aside with
      | .lend lease _ =>
        let st := { st with suite := st.suite.step now (.giveBack lease) }
        ⟨st, st.woken, [], false⟩
      | .abort reason _ =>
        let heard := if st.suite.signal.reason.isSome then [] else hearers st.suite
        ⟨{ st with suite := st.suite.step now (.abort reason) }, heard, [], false⟩

def turn (now : Instant) (task : Nat) (st : Staging) : Turn Staging :=
  if task = schedulerTask then schedulerTurn now st
  else if task % 3 = 1 then jobTurn (task / 3) st
  else if task % 3 = 2 then executionTurn now (task / 3) st
  else asideTurn now (task / 3 - 1) st

/-! ## Runs -/

def lend (count : Nat) (length : Span) (st : Staging) : Staging :=
  match st.suite.pool.tryAcquire count with
  | none => st
  | some (lease, pool) =>
    { st with
      suite := { st.suite with pool }
      asides := st.asides ++ [.lend lease length] }

/-- Aborts the suite after a while; at once without any. -/
def abortAfter (length : Span) (reason : AbortReason) (st : Staging) : Staging :=
  if length.isZero then { st with suite := st.suite.step 0 (.abort reason) }
  else { st with asides := st.asides ++ [.abort reason length] }

def withWatchdog (st : Staging) : Staging :=
  match st.suite.config.suiteTimeout with
  | none => st
  | some length => { st with asides := st.asides ++ [.abort .suiteTimeout length] }

def ofSuite (suite : Suite) (launcher : Launcher) (network : Network) : Staging :=
  { suite, fleet := .ofLauncher launcher network, asides := [] }

def onDisk (disk : Disk) (st : Staging) : Staging := { st with fleet := { st.fleet with disk } }

/-- Runs the suite to its end; the time that it took, and everything as it is then. -/
def run (st : Staging) : Instant × Staging :=
  let st := st.withWatchdog
  let tasks := schedulerTask :: (List.range st.asides.length).map asideTask
  let clock := Clockwork.start.wakeAll tasks
  let (clock, st) := Clockwork.run turn (fun st => st.suite.isDone) patience clock st
  (clock.now, st)

end Staging

end Interop
