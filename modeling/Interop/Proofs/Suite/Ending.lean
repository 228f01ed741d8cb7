import Interop.Proofs.Suite.Slots
import Mathlib.Algebra.Ring.Nat

/-!
# The end of a suite

No call of the reporter fails, at no point of a run.  Once the scheduler is done, every case of
the generation has one record at its place, from its only execution or because it was skipped.
A run can always be led to that point: what is left to do of a suite that is aborted gets less
with every step of the scheduler and, while it waits for the jobs, with a step of one of them.
-/

namespace Interop

/-! ## What is left to do -/

def Phase.left : Phase → Nat
  | .admitted => 6
  | .running e => if e.isOver then 4 else 5
  | .recorded _ => 3
  | .flagged _ => 2
  | .submitted => 1
  | .ended => 0

def Scheduler.left : Scheduler → Nat
  | .screen _ => 14
  | .screenTrip _ => 13
  | .queue _ => 12
  | .review _ _ => 11
  | .reviewTrip _ _ => 10
  | .skip _ _ _ => 4
  | .submit _ _ _ => 3
  | .choose => 2
  | .join => 1
  | .done _ => 0

namespace Suite

def left (s : Suite) : Nat :=
  (s.plan.map fun entry => 16 * entry.2.toList.length + 1).sum + s.scheduler.left +
    (s.jobs.map fun job => job.phase.left).sum

theorem scheduler_of_result? {s : Suite} {result : Except ReportError Report}
    (done : s.result? = some result) : s.scheduler = .done result := by
  unfold result? at done
  split at done
  · next scheduler =>
      cases done
      exact scheduler
  · cases done

private theorem sum_left_modify_lt {jobs : List Job} {index : Nat} {job : Job} {phase : Phase}
    (found : jobs[index]? = some job) (less : phase.left < job.phase.left) :
    ((jobs.modify index fun j => { j with phase }).map fun job => job.phase.left).sum <
      (jobs.map fun job => job.phase.left).sum := by
  induction jobs generalizing index with
  | nil => cases found
  | cons first jobs ih =>
      cases index with
      | zero =>
          cases found
          simpa using less
      | succ index => simpa using ih found

theorem left_setPhase_lt {s : Suite} {index : Nat} {job : Job} {phase : Phase}
    (found : s.jobs[index]? = some job) (less : phase.left < job.phase.left) :
    (s.setPhase index phase).left < s.left :=
  Nat.add_lt_add_left (sum_left_modify_lt found less) _

private theorem left_advance_lt {s : Suite} {index : Nat} {job : Job}
    (found : s.jobs[index]? = some job)
    (active : job.phase ≠ .ended)
    (ended : ∀ e, job.phase = .running e → e.isOver = true) :
    (s.advance index).left < s.left := by
  simp only [advance, found]
  split
  · next current =>
      refine left_setPhase_lt found ?_
      simp only [current, Phase.left]
      split <;> omega
  · next e current =>
      have ended := ended e current
      split
      · exact left_setPhase_lt found (by simp [current, Phase.left, ended])
      · next none =>
          unfold Execution.isOver at ended
          unfold Job.verdict? at none
          split at ended <;> simp_all
  · next current =>
      exact left_setPhase_lt (s := { s with tripped := _ }) found
        (by simp [current, Phase.left])
  · next record current =>
      have less : Phase.submitted.left < job.phase.left := by simp [current, Phase.left]
      cases s.reporter.submit job.slot record with
      | ok reporter => exact left_setPhase_lt (s := { s with reporter }) found less
      | error => exact left_setPhase_lt found less
  · next current =>
      exact left_setPhase_lt (s := { s with permits := _ }) found
        (by simp [current, Phase.left])
  · next current => exact absurd current active

private theorem left_breakDown_lt {s : Suite} {index : Nat} {job : Job} {e : Execution}
    (found : s.jobs[index]? = some job) (current : job.phase = .running e)
    (live : e.isOver = false) (now : Instant) :
    (s.play now index (.breakDown none)).left < s.left := by
  simp only [play, found, current, Execution.step, live, Bool.false_eq_true, if_false]
  refine left_setPhase_lt (s := { s with pool := _ }) found ?_
  have ended := Execution.isOver_of_panicked (e.stage_breakDown job.slot none s.pool)
  simp [current, Phase.left, live, ended]

private theorem left_choose_lt {s : Suite} (idle : s.scheduler = .choose)
    (reached : ∀ entry ∈ s.plan, ∃ position, entry.2 = .reached entry.1.matrix position) :
    s.choose.left < s.left := by
  unfold choose
  split
  · simp [left, idle, Scheduler.left]
  · next test expansion rest planned =>
      obtain ⟨position, rfl⟩ : ∃ position, expansion = .reached test.matrix position :=
        reached (test, expansion) (planned ▸ List.mem_cons_self)
      rcases Expansion.next_reached_cases test.matrix position with ⟨next, none⟩ | ⟨next, some⟩
      · simp only [next, left, idle, planned, none, List.map_cons, List.sum_cons]
        omega
      · simp only [next, left, idle, planned, some, List.map_cons, List.sum_cons, List.length_cons,
          Scheduler.left]
        omega

private theorem left_schedule_lt {s : Suite} (now : Instant)
    (reached : ∀ entry ∈ s.plan, ∃ position, entry.2 = .reached entry.1.matrix position)
    (aborted : s.signal.reason.isSome = true) (undone : s.isDone = false)
    (joins : s.scheduler = .join → ∀ job ∈ s.jobs, job.phase.isEnded = true) :
    (s.schedule now).left < s.left := by
  obtain ⟨reason, aborted⟩ := Option.isSome_iff_exists.mp aborted
  cases scheduler : s.scheduler with
  | choose => simpa only [schedule, scheduler] using left_choose_lt scheduler reached
  | screen | queue | review =>
      simp [schedule, left, scheduler, aborted, Scheduler.left]
  | screenTrip =>
      simp only [schedule, scheduler]
      split <;> simp [left, scheduler, Scheduler.left]
  | reviewTrip k permit =>
      simp only [schedule, scheduler]
      split
      · simp [left, scheduler, Scheduler.left]
      · split <;> simp [engage, left, scheduler, Scheduler.left, Phase.left]
        omega
  | skip slot =>
      simp only [schedule, scheduler]
      split <;> simp [left, scheduler, Scheduler.left]
  | submit slot record permit =>
      simp only [schedule, scheduler]
      split
      · simp [left, scheduler, Scheduler.left]
      · cases permit <;> simp [returnPermit, left, scheduler, Scheduler.left]
  | join =>
      simp only [schedule, scheduler, List.all_eq_true.mpr (joins scheduler), if_true]
      simp [left, scheduler, Scheduler.left]
  | done => simp [isDone, result?, scheduler] at undone

private theorem exists_left_lt_of_job {s : Suite} {job : Job} (mem : job ∈ s.jobs)
    (active : job.phase ≠ .ended) (now : Instant) : ∃ move, (s.step now move).left < s.left := by
  obtain ⟨index, found⟩ := List.mem_iff_getElem?.mp mem
  cases current : job.phase with
  | running e =>
      cases live : e.isOver with
      | true =>
          refine ⟨.advance index, left_advance_lt found active ?_⟩
          intro e' current'
          cases current.symm.trans current'
          exact live
      | false => exact ⟨.play index (.breakDown none), left_breakDown_lt found current live now⟩
  | admitted | recorded | flagged | submitted | ended =>
      refine ⟨.advance index, left_advance_lt found active ?_⟩
      intro e current'
      cases current.symm.trans current'

private theorem aborted_step {s : Suite} (aborted : s.signal.reason.isSome = true) (now : Instant)
    (move : SuiteMove) : (s.step now move).signal.reason.isSome = true := by
  cases move with
  | schedule =>
      simp only [step, schedule, choose, engage, returnPermit]
      repeat' split
      all_goals exact aborted
  | advance index =>
      simp only [step, advance, setPhase]
      repeat' split
      all_goals exact aborted
  | play index move =>
      simp only [step, play, setPhase]
      repeat' split
      all_goals exact aborted
  | abort reason => simp [step]
  | giveBack lease => exact aborted

end Suite

namespace Chronicle

/-- How the record of a case came about. -/
inductive Origin (c : Chronicle) (slot : Nat) (test : Test) (case : TestCase) :
    CaseRecord → Prop
  | executed {record : CaseRecord} (once : c.begun.count slot = 1)
      (closed : (c.execution slot test case).stage = .closed record) :
      Origin c slot test case record
  | panicked {message : String} (once : c.begun.count slot = 1)
      (broken : (c.execution slot test case).stage = .panicked message) :
      Origin c slot test case (.ofOutcome test.name case (.error "panic" message))
  | skipped (reason : String) (never : c.begun.count slot = 0) (still : c.beatsOf slot = []) :
      Origin c slot test case (.skipped test case reason)

variable {gen : List (Test × TestCase)} {c : Chronicle}

/-! ## The calls of the reporter -/

theorem Sound.origin_of_job (sound : Sound gen c) {job : Job} (mem : job ∈ c.suite.jobs)
    (ended : job.phase = .ended) : ∃ record,
      c.suite.reporter.slots[job.slot]? = some (.done record) ∧ record.test = job.test.name ∧
        record.case = job.case ∧ Origin c job.slot job.test job.case record := by
  obtain ⟨_, stands⟩ := sound.jobs job mem
  cases stands with
  | submitted record _ filled once verdict =>
      have concerns := (Execution.concerns_ofCase c.suite.config job.test job.case).run
        (Execution.orderly_ofCase ..) job.slot (c.beatsOf job.slot)
      refine ⟨record, filled, ?_⟩
      unfold Suite.Job.verdict? at verdict
      split at verdict
      · next closed =>
          cases verdict
          obtain ⟨named, cased⟩ := concerns.record_eq closed
          exact ⟨named, cased, .executed once closed⟩
      · next broken =>
          cases verdict
          exact ⟨rfl, rfl, .panicked once broken⟩
      · cases verdict
  | admitted current | running current => cases current.symm.trans ended
  | recorded _ current => rcases current with current | current <;> cases current.symm.trans ended

theorem Sound.origin (sound : Sound gen c) (idle : c.suite.scheduler.slot? = none)
    (ended : ∀ job ∈ c.suite.jobs, job.phase = .ended) {slot : Nat}
    (inside : slot < c.suite.reporter.len) : ∃ test case record,
      gen[slot]? = some (test, case) ∧ c.suite.reporter.slots[slot]? = some (.done record) ∧
        record.test = test.name ∧ record.case = case ∧ Origin c slot test case record := by
  by_cases engaged : ∃ job ∈ c.suite.jobs, job.slot = slot
  · obtain ⟨job, mem, rfl⟩ := engaged
    obtain ⟨record, filled, origin⟩ := sound.origin_of_job mem (ended job mem)
    exact ⟨job.test, job.case, record, (sound.jobs job mem).1, filled, origin⟩
  · rcases sound.filled slot inside with engaged' | held | ⟨test, case, reason, planned, filled⟩
    · exact absurd engaged' engaged
    · cases idle.symm.trans held
    · obtain ⟨never, still⟩ := sound.unplayed slot fun job mem same => engaged ⟨job, mem, same⟩
      exact ⟨test, case, _, planned, filled, rfl, rfl, .skipped reason never still⟩

private theorem Sound.len_eq (sound : Sound gen c) (idle : c.suite.scheduler.slot? = none)
    (ended : ∀ job ∈ c.suite.jobs, job.phase = .ended) (through : c.suite.plan = []) :
    c.suite.reporter.len = gen.length := by
  have planned := sound.plan
  rw [through] at planned
  -- A slot behind the last case would have a record, and so a case.
  refine Nat.le_antisymm (Nat.le_of_not_lt fun beyond => ?_) (List.drop_eq_nil_iff.mp planned)
  obtain ⟨test, case, record, found, -⟩ := sound.origin idle ended beyond
  exact Nat.lt_irrefl _ (List.getElem?_eq_some_iff.mp found).1

theorem Sound.report (sound : Sound gen c) {result : Except ReportError Report}
    (done : c.suite.scheduler = .done result) : ∃ report, result = .ok report ∧
      report.records.length = gen.length ∧
      ∀ slot test case, gen[slot]? = some (test, case) → ∃ record,
        report.records[slot]? = some record ∧ record.test = test.name ∧ record.case = case ∧
          Origin c slot test case record := by
  have order := sound.scheduler
  rw [done] at order
  obtain ⟨through, ended, elapsed, rfl⟩ := order
  have idle : c.suite.scheduler.slot? = none := congrArg Scheduler.slot? done
  have len := sound.len_eq idle ended through
  have told := Reporter.map_done_records (sound.pending_eq_zero idle ended)
  refine ⟨_, rfl, ?_, ?_⟩
  · rw [← len, Reporter.len, ← congrArg List.length told, List.length_map]
  · intro slot test case planned
    have inside : slot < c.suite.reporter.len := len ▸ (List.getElem?_eq_some_iff.mp planned).1
    obtain ⟨test', case', record, planned', filled, origin⟩ := sound.origin idle ended inside
    cases planned.symm.trans planned'
    rw [← told, List.getElem?_map] at filled
    obtain ⟨record', found, same⟩ := Option.map_eq_some_iff.mp filled
    cases same
    exact ⟨record, found, origin⟩

/-! ## The way to the end -/

/-- A suite that is aborted has a move that gets it on, as long as it is not done. -/
theorem Sound.progress (sound : Sound gen c) (aborted : c.suite.signal.reason.isSome = true)
    (undone : c.suite.isDone = false) (now : Instant) :
    ∃ move, (c.step now move).suite.left < c.suite.left := by
  by_cases blocked : c.suite.scheduler = .join ∧ ∃ job ∈ c.suite.jobs, job.phase.isEnded = false
  · obtain ⟨-, job, mem, active⟩ := blocked
    refine Suite.exists_left_lt_of_job mem ?_ now
    intro ended
    rw [ended] at active
    cases active
  · refine ⟨.schedule, Suite.left_schedule_lt now sound.reached aborted undone ?_⟩
    intro joining job mem
    exact eq_true_of_ne_false fun active => blocked ⟨joining, job, mem, active⟩

private theorem Sound.ends_of_aborted (sound : Sound gen c)
    (aborted : c.suite.signal.reason.isSome = true) :
    ∃ more, (c.run more).suite.isDone = true := by
  induction left : c.suite.left using Nat.strongRecOn generalizing c with
  | ind budget ih =>
      cases done : c.suite.isDone with
      | true => exact ⟨[], done⟩
      | false =>
          -- The next move makes what is left smaller and does not lift the abort.
          obtain ⟨move, less⟩ := sound.progress aborted done 0
          have aborted' := Suite.aborted_step aborted 0 move
          obtain ⟨more, ended⟩ := ih _ (left ▸ less) (sound.step 0 move) aborted' rfl
          exact ⟨(0, move) :: more, ended⟩

theorem Sound.ends (sound : Sound gen c) : ∃ more, (c.run more).suite.isDone = true := by
  have aborted : (c.step 0 (.abort .interrupt)).suite.signal.reason.isSome = true := by
    change (c.suite.signal.abort .interrupt).reason.isSome = true
    simp
  obtain ⟨more, ended⟩ := (sound.step 0 (.abort .interrupt)).ends_of_aborted aborted
  exact ⟨(0, .abort .interrupt) :: more, ended⟩

/-! ## The outcome of a run -/

end Chronicle

end Interop
