import Interop.Proofs.Execution.Sharing
import Interop.Proofs.Suite.Turns
import Mathlib.Data.List.Perm.Subperm

/-!
# Cases that execute at once

A case has a permit from its admission until its record is filed.  Whatever it occupies, nodes
of the test bed or services that still run, it occupies while it has that permit: before it is
admitted nothing was provisioned for it, and once its execution is over nothing is left.
-/

namespace Interop

def Controller.Runs (c : Controller) (id : Nat) : Prop :=
  ∃ handle, c.handles[id]? = some handle ∧ handle.state ≠ .stopped ∧ .killNow id ∉ c.requests

namespace Execution

/-- The execution has nodes, an operation in progress or a service that runs. -/
def Occupied (e : Execution) : Prop :=
  e.held ≠ [] ∨ e.operation?.isSome = true ∨ ∃ id, e.controller.Runs id

private theorem settled_run {e : Execution} (orderly : e.Orderly e.operation?)
    (settled : e.controller.Settled) (ticket : Nat) (beats : List Beat) :
    (e.run ticket beats).controller.Settled := by
  induction beats generalizing e with
  | nil => exact settled
  | cons b beats ih =>
      refine ih (orderly.step b.now ticket b.signal b.move b.pool) ?_
      refine (step_advances b.now ticket b.signal b.move orderly b.pool).keeps
        (P := fun m => m.execution.controller.Settled)
        (fun stride => stride.lasting Site.lasting_settled) ?_ settled
      intro _ settled
      rw [controller_abandoned]
      exact settled

private theorem not_occupied_ofCase (config : Config) (test : Test) (case : TestCase) :
    ¬ (ofCase config test case).Occupied := by
  rintro (holds | busy | ⟨id, handle, found, -⟩)
  · exact holds rfl
  · exact Bool.false_ne_true busy
  · simp [ofCase, Controller.ofSettings] at found

private theorem not_occupied_of_isOver {e : Execution} (orderly : e.Orderly e.operation?)
    (settled : e.controller.Settled) (ended : e.isOver = true) : ¬ e.Occupied := by
  have idle := Sharing.operation?_of_isOver ended
  rintro (holds | busy | ⟨id, handle, found, active, untold⟩)
  · obtain ⟨unowned, -⟩ := Sharing.leases_of_isOver orderly settled ended
    exact holds (by simp [held, Controller.held, unowned, idle, inHand])
  · rw [idle] at busy
    exact Bool.false_ne_true busy
  · obtain ⟨-, stopped | ⟨-, told⟩⟩ := Sharing.service_of_isOver orderly settled ended found
    · exact active stopped
    · exact untold told

end Execution

namespace Chronicle

variable {gen : List (Test × TestCase)} {c : Chronicle}

private theorem isOver_of_verdict? {job : Job} {e : Execution} {record : CaseRecord}
    (verdict : Suite.Job.verdict? job e = some record) : e.isOver = true := by
  unfold Suite.Job.verdict? at verdict
  split at verdict
  · next closed => exact Execution.isOver_of_closed closed
  · next broken => exact Execution.isOver_of_panicked broken
  · cases verdict

private theorem execution_of_unplayed {slot : Nat} (still : c.beatsOf slot = []) (test : Test)
    (case : TestCase) :
    c.execution slot test case = .ofCase c.suite.config test case := by
  rw [execution, still]
  rfl

private theorem not_occupied_of_verdict? {job : Job} {record : CaseRecord} {slot : Nat}
    {test : Test}
    {case : TestCase}
    (verdict : Suite.Job.verdict? job (c.execution slot test case) = some record) :
    ¬ (c.execution slot test case).Occupied := by
  have fresh := Execution.orderly_ofCase c.suite.config test case
  refine Execution.not_occupied_of_isOver (fresh.run slot _) ?_ (isOver_of_verdict? verdict)
  exact Execution.settled_run fresh (by simp [Controller.Settled, Execution.ofCase,
    Controller.ofSettings]) slot _

theorem Sound.running_of_occupied (sound : Sound gen c) {slot : Nat} {test : Test}
    {case : TestCase} (planned : gen[slot]? = some (test, case))
    (occupied : (c.execution slot test case).Occupied) :
    ∃ job ∈ c.suite.jobs, job.slot = slot ∧ job.test = test ∧ job.case = case ∧
      job.phase = .running (c.execution slot test case) := by
  by_cases engaged : ∃ job ∈ c.suite.jobs, job.slot = slot
  · obtain ⟨job, mem, rfl⟩ := engaged
    obtain ⟨planned', stands⟩ := sound.jobs job mem
    cases planned.symm.trans planned'
    cases stands with
    | admitted phase reserved never still =>
        rw [execution_of_unplayed still] at occupied
        exact absurd occupied (Execution.not_occupied_ofCase _ _ _)
    | running phase => exact ⟨job, mem, rfl, rfl, rfl, phase⟩
    | recorded record phase reserved once verdict =>
        exact absurd occupied (not_occupied_of_verdict? verdict)
    | submitted record phase filled once verdict =>
        exact absurd occupied (not_occupied_of_verdict? verdict)
  · have jobless : ∀ job ∈ c.suite.jobs, job.slot ≠ slot :=
      fun job mem same => engaged ⟨job, mem, same⟩
    rw [execution_of_unplayed (sound.unplayed slot jobless).2] at occupied
    exact absurd occupied (Execution.not_occupied_ofCase _ _ _)

private theorem Sound.balanced_run (sound : Sound gen c) {p : Nat} (balanced : c.suite.Balanced p)
    (moves : List (Instant × SuiteMove)) : (c.run moves).suite.Balanced p := by
  induction moves generalizing c with
  | nil => exact balanced
  | cons move moves ih =>
      exact ih (sound.step move.1 move.2) (balanced.turn (sound.turn move.1 move.2))

/-- The slots of the cases that were admitted and have not returned their permit. -/
def permitted (c : Chronicle) : List Nat := (c.suite.jobs.filter Job.isLive).map Job.slot

private theorem Sound.nodup_permitted (sound : Sound gen c) : c.permitted.Nodup :=
  sound.distinct.sublist (List.filter_sublist.map Job.slot)

private theorem Sound.mem_permitted_of_occupied (sound : Sound gen c) {slot : Nat} {test : Test}
    {case : TestCase} (planned : gen[slot]? = some (test, case))
    (occupied : (c.execution slot test case).Occupied) : slot ∈ c.permitted := by
  obtain ⟨job, mem, rfl, -, -, running⟩ := sound.running_of_occupied planned occupied
  refine List.mem_map_of_mem (List.mem_filter.mpr ⟨mem, ?_⟩)
  rw [Job.isLive, running]
  rfl

/-- Whatever the order of moves, and however cases end: the permits are those that are free, the
one that the scheduler may have in its hands, and one for each case that was admitted and is not
filed.  A case that has nodes, an operation in progress or a service that runs is one of these,
and its execution goes on; so no more of them are there at once than permits. -/
theorem occupied_of_run (config : Config) (cores : Nat) (tests : List Test)
    (moves : List (Instant × SuiteMove)) :
    let c := (ofTests config cores tests).run moves
    let p := max 1 (config.parallelism.getD cores)
    c.suite.permits + c.suite.scheduler.permits + c.permitted.length = p ∧
    c.permitted.Nodup ∧
    (∀ slot test case, (generation tests)[slot]? = some (test, case) →
      (c.execution slot test case).Occupied →
      slot ∈ c.permitted ∧ ∃ job ∈ c.suite.jobs, job.slot = slot ∧
        job.phase = .running (c.execution slot test case)) ∧
    (∀ slots : List Nat, slots.Nodup →
      (∀ slot ∈ slots, ∃ test case, (generation tests)[slot]? = some (test, case) ∧
        (c.execution slot test case).Occupied) →
      slots.length + c.suite.scheduler.permits ≤ p) := by
  intro c p
  have start := sound_ofTests config cores tests
  have sound := start.run moves
  have balanced : c.suite.Balanced p :=
    start.balanced_run (Suite.balanced_ofTests config cores tests) moves
  have counted : c.suite.permits + c.suite.scheduler.permits + c.permitted.length = p := by
    rw [permitted, List.length_map, ← List.countP_eq_length_filter]
    exact balanced
  refine ⟨counted, sound.nodup_permitted, ?_, ?_⟩
  · intro slot test case planned occupied
    obtain ⟨job, mem, same, -, -, running⟩ := sound.running_of_occupied planned occupied
    exact ⟨sound.mem_permitted_of_occupied planned occupied, job, mem, same, running⟩
  · intro slots distinct all
    have among : slots ⊆ c.permitted := by
      intro slot mem
      obtain ⟨test, case, planned, occupied⟩ := all slot mem
      exact sound.mem_permitted_of_occupied planned occupied
    have fewer := (List.subperm_of_subset distinct among).length_le
    omega

end Chronicle

end Interop
