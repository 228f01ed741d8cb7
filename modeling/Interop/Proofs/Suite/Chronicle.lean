import Interop.Proofs.Execution.Strides
import Interop.Proofs.Matrix.Odometer
import Interop.Suite

/-!
# The chronicle of a suite

A chronicle is a suite together with what its executions have done: the slots of those that
have begun and every move that one of them has made.  A suite that moves on writes its
chronicle; nothing of the suite depends on it.
-/

namespace Interop

/-- The cases of all tests in generation order. -/
def generation (tests : List Test) : List (Test × TestCase) :=
  tests.flatMap fun test => test.matrix.cases.map fun case => (test, case)

def CaseRecord.skipped (test : Test) (case : TestCase) (reason : String) : CaseRecord :=
  .ofOutcome test.name case (.skipped reason)

namespace Suite

def begins? (s : Suite) : SuiteMove → Option Nat
  | .advance index =>
    match s.jobs[index]? with
    | some job =>
      match job.phase with
      | .admitted => some job.slot
      | _ => none
    | none => none
  | _ => none

def beat? (now : Instant) (s : Suite) : SuiteMove → Option (Nat × Execution.Beat)
  | .play index move =>
    match s.jobs[index]? with
    | some job =>
      match job.phase with
      | .running _ => some (job.slot, ⟨now, s.signal, move, s.pool⟩)
      | _ => none
    | none => none
  | _ => none

end Suite

structure Chronicle where
  suite : Suite
  begun : List Nat
  beats : List (Nat × Execution.Beat)

namespace Chronicle

def ofTests (config : Config) (cores : Nat) (tests : List Test) : Chronicle :=
  ⟨.ofTests config cores tests, [], []⟩

def step (c : Chronicle) (now : Instant) (move : SuiteMove) : Chronicle :=
  { suite := c.suite.step now move
    begun := (c.suite.begins? move).toList ++ c.begun
    beats := (c.suite.beat? now move).toList ++ c.beats }

def run (c : Chronicle) (moves : List (Instant × SuiteMove)) : Chronicle :=
  moves.foldl (fun c move => c.step move.1 move.2) c

def beatsOf (c : Chronicle) (slot : Nat) : List Execution.Beat :=
  ((c.beats.filter fun entry => entry.1 == slot).map Prod.snd).reverse

theorem beatsOf_cons (s : Suite) (begun : List Nat) (beats : List (Nat × Execution.Beat))
    (slot other : Nat) (b : Execution.Beat) :
    beatsOf ⟨s, begun, (slot, b) :: beats⟩ other =
      if slot = other then beatsOf ⟨s, begun, beats⟩ other ++ [b]
      else beatsOf ⟨s, begun, beats⟩ other := by
  by_cases same : slot = other <;> simp [beatsOf, same]

/-- The execution of a case by the moves that are recorded for its slot. -/
def execution (c : Chronicle) (slot : Nat) (test : Test) (case : TestCase) : Execution :=
  (Execution.ofCase c.suite.config test case).run slot (c.beatsOf slot)

theorem suite_run (c : Chronicle) (moves : List (Instant × SuiteMove)) :
    (c.run moves).suite = moves.foldl (fun s move => s.step move.1 move.2) c.suite := by
  induction moves generalizing c with
  | nil => rfl
  | cons move moves ih => exact ih (c.step move.1 move.2)

/-! ## One slot -/

structure SameAt (c c' : Chronicle) (slot : Nat) : Prop where
  config : c'.suite.config = c.suite.config
  slots : c'.suite.reporter.slots[slot]? = c.suite.reporter.slots[slot]?
  begun : c'.begun.count slot = c.begun.count slot
  beats : c'.beatsOf slot = c.beatsOf slot

private theorem SameAt.execution {c c' : Chronicle} {slot : Nat} (same : SameAt c c' slot)
    (test : Test)
    (case : TestCase) : c'.execution slot test case = c.execution slot test case := by
  rw [Chronicle.execution, Chronicle.execution, same.config, same.beats]

inductive Stands (c : Chronicle) (job : Job) : Prop
  | admitted (phase : job.phase = .admitted)
      (reserved : c.suite.reporter.slots[job.slot]? = some (.reserved job.test.name job.case))
      (never : c.begun.count job.slot = 0) (still : c.beatsOf job.slot = [])
  | running (phase : job.phase = .running (c.execution job.slot job.test job.case))
      (reserved : c.suite.reporter.slots[job.slot]? = some (.reserved job.test.name job.case))
      (once : c.begun.count job.slot = 1)
  | recorded (record : CaseRecord)
      (phase : job.phase = .recorded record ∨ job.phase = .flagged record)
      (reserved : c.suite.reporter.slots[job.slot]? = some (.reserved job.test.name job.case))
      (once : c.begun.count job.slot = 1)
      (verdict : Suite.Job.verdict? job (c.execution job.slot job.test job.case) = some record)
  | submitted (record : CaseRecord) (phase : job.phase = .submitted ∨ job.phase = .ended)
      (filled : c.suite.reporter.slots[job.slot]? = some (.done record))
      (once : c.begun.count job.slot = 1)
      (verdict : Suite.Job.verdict? job (c.execution job.slot job.test job.case) = some record)

theorem Stands.congr {c c' : Chronicle} {job : Job} (stands : Stands c job)
    (same : SameAt c c' job.slot) : Stands c' job := by
  cases stands with
  | admitted phase reserved never still =>
      exact .admitted phase (same.slots.trans reserved) (same.begun.trans never)
        (same.beats.trans still)
  | running phase reserved once =>
      exact .running (by rw [same.execution, phase]) (same.slots.trans reserved)
        (same.begun.trans once)
  | recorded record phase reserved once verdict =>
      exact .recorded record phase (same.slots.trans reserved) (same.begun.trans once)
        (by rw [same.execution, verdict])
  | submitted record phase filled once verdict =>
      exact .submitted record phase (same.slots.trans filled) (same.begun.trans once)
        (by rw [same.execution, verdict])

theorem Stands.inside {c : Chronicle} {job : Job} (stands : Stands c job) :
    job.slot < c.suite.reporter.len := by
  cases stands with
  | admitted _ found | running _ found | recorded _ _ found | submitted _ _ found =>
      exact (List.getElem?_eq_some_iff.mp found).1

end Chronicle

end Interop
