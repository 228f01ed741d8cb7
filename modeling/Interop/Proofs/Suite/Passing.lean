import Interop.Proofs.Execution.Returns
import Interop.Proofs.Suite.Aborting

/-!
# When a run passes

The summary of a report counts its records, and the exit code says whether all of them passed.
As every case has one record, from its only execution or because it was skipped, the exit code
is 0 exactly when every case was executed and its program returned without an error before
anything else decided on the outcome, and nothing broke down.
-/

namespace Interop

/-! ## Summaries -/

namespace Summary

private theorem count_add (s : Summary) (kind other : OutcomeKind) :
    (s.add kind).count other = s.count other + (kind == other).toNat := by
  cases kind <;> cases other <;> rfl

def Consistent (s : Summary) : Prop := s.pass + s.fail + s.error + s.timeout + s.skipped = s.total

private theorem Consistent.add {s : Summary} (consistent : s.Consistent) (kind : OutcomeKind) :
    (s.add kind).Consistent := by
  unfold Consistent at *
  cases kind <;> simp only [Summary.add] <;> omega

theorem foldl_add (records : List CaseRecord) (s : Summary) :
    let after := records.foldl (fun s record => s.add record.outcome.kind) s
    (∀ kind, after.count kind =
      s.count kind + records.countP fun record => record.outcome.kind == kind) ∧
    after.total = s.total + records.length ∧ (s.Consistent → after.Consistent) := by
  induction records generalizing s with
  | nil => exact ⟨fun _ => rfl, rfl, id⟩
  | cons record records ih =>
      obtain ⟨counts, total, consistent⟩ := ih (s.add record.outcome.kind)
      refine ⟨?_, ?_, fun before => consistent (before.add record.outcome.kind)⟩
      · intro kind
        have later := counts kind
        rw [count_add] at later
        rw [List.foldl_cons, later, List.countP_cons]
        cases record.outcome.kind == kind with
        | false => simp
        | true =>
            simp only [Bool.toNat_true, if_true]
            omega
      · have one : (s.add record.outcome.kind).total = s.total + 1 := by
          cases record.outcome.kind <;> rfl
        rw [List.foldl_cons, total, one, List.length_cons]
        omega

theorem count_ofRecords (records : List CaseRecord) (kind : OutcomeKind) :
    (ofRecords records).count kind =
      records.countP fun record => record.outcome.kind == kind := by
  have counts := (foldl_add records empty).1 kind
  have nothing : empty.count kind = 0 := by cases kind <;> rfl
  rwa [nothing, Nat.zero_add] at counts

theorem total_ofRecords (records : List CaseRecord) :
    (ofRecords records).total = records.length :=
  (foldl_add records empty).2.1.trans (Nat.zero_add _)

private theorem consistent_ofRecords (records : List CaseRecord) : (ofRecords records).Consistent :=
  (foldl_add records empty).2.2 rfl

end Summary

namespace Report

private theorem allPassed_iff {report : Report} :
    report.allPassed = true ↔ ∀ record ∈ report.records, record.outcome.isPass = true := by
  have passed : report.summary.pass =
      report.records.countP fun record => record.outcome.isPass :=
    Summary.count_ofRecords report.records .pass
  have total : report.summary.total = report.records.length :=
    Summary.total_ofRecords report.records
  rw [allPassed, passed, total, beq_iff_eq, List.countP_eq_length]

private theorem exitCode_eq_zero
    {report : Report} : report.exitCode = 0 ↔ report.allPassed = true := by
  unfold exitCode
  split <;> simp_all

private theorem exitCode_eq_one
    {report : Report} : report.exitCode = 1 ↔ ¬report.allPassed = true := by
  unfold exitCode
  split <;> simp_all

end Report

/-! ## Cases -/

namespace Chronicle

/-- The case was executed, its program returned without an error before anything else decided
on the outcome, and nothing broke down. -/
structure Passes (c : Chronicle) (slot : Nat) (test : Test) (case : TestCase) : Prop where
  executed : c.begun.count slot = 1
  returned : Execution.decision? slot (.ofCase c.suite.config test case) (c.beatsOf slot) =
    some (.returned (.ok ()))
  unbroken : ∀ message, (c.execution slot test case).stage ≠ .panicked message

/-- What keeps a case from passing. -/
inductive Falls (c : Chronicle) (slot : Nat) (test : Test) (case : TestCase) : Prop
  | skipped (never : c.begun.count slot = 0)
  | failed (error : CaseError)
      (returned : Execution.decision? slot (.ofCase c.suite.config test case) (c.beatsOf slot) =
        some (.returned (.error error)))
  | late (decided : Execution.decision? slot (.ofCase c.suite.config test case) (c.beatsOf slot) =
      some .late)
  | aborted (reason : AbortReason)
      (decided : Execution.decision? slot (.ofCase c.suite.config test case) (c.beatsOf slot) =
        some (.aborted reason))
  | panicked (message : String)
      (broken : (c.execution slot test case).stage = .panicked message)

variable {gen : List (Test × TestCase)} {c : Chronicle} {slot : Nat} {test : Test}
  {case : TestCase} {record : CaseRecord}

theorem Falls.not_passes (falls : Falls c slot test case) : ¬Passes c slot test case := by
  intro passes
  cases falls with
  | skipped never => cases never.symm.trans passes.executed
  | failed error returned => cases returned.symm.trans passes.returned
  | late decided => cases decided.symm.trans passes.returned
  | aborted reason decided => cases decided.symm.trans passes.returned
  | panicked message broken => exact passes.unbroken message broken

theorem Origin.passes_or_falls (origin : Origin c slot test case record) :
    record.outcome.isPass = true ∧ Passes c slot test case ∨
      record.outcome.isPass = false ∧ Falls c slot test case := by
  cases origin with
  | executed once closed =>
      obtain ⟨decision, decided, outcome⟩ :=
        Execution.decision?_of_closed c.suite.config test case slot closed
      rw [outcome]
      cases decision with
      | returned result =>
          cases result with
          | ok _ =>
              refine .inl ⟨rfl, once, decided, ?_⟩
              intro message broken
              cases closed.symm.trans broken
          | error error => exact .inr ⟨Decision.isPass_toOutcome error, .failed error decided⟩
      | late => exact .inr ⟨rfl, .late decided⟩
      | aborted reason => exact .inr ⟨by cases reason <;> rfl, .aborted reason decided⟩
  | panicked once broken => exact .inr ⟨rfl, .panicked _ broken⟩
  | skipped reason never => exact .inr ⟨rfl, .skipped never⟩

private theorem Origin.isPass_iff (origin : Origin c slot test case record) :
    record.outcome.isPass = true ↔ Passes c slot test case := by
  rcases origin.passes_or_falls with ⟨passed, passes⟩ | ⟨failed, falls⟩
  · exact iff_of_true passed passes
  · exact iff_of_false (by simp [failed]) falls.not_passes

private theorem Origin.falls_iff (origin : Origin c slot test case record) :
    Falls c slot test case ↔ ¬Passes c slot test case := by
  rcases origin.passes_or_falls with ⟨-, passes⟩ | ⟨-, falls⟩
  · exact iff_of_false (fun falls => falls.not_passes passes) (not_not_intro passes)
  · exact iff_of_true falls falls.not_passes

/-! ## Runs -/

theorem Sound.allPassed_iff (sound : Sound gen c) {report : Report}
    (done : c.suite.result? = some (.ok report)) :
    report.allPassed = true ↔
      ∀ slot test case, gen[slot]? = some (test, case) → Passes c slot test case := by
  obtain ⟨report', same, length, told⟩ := sound.report (Suite.scheduler_of_result? done)
  cases same
  rw [Report.allPassed_iff]
  constructor
  · intro passed slot test case planned
    obtain ⟨record, found, -, -, origin⟩ := told slot test case planned
    exact origin.isPass_iff.mp (passed record (List.mem_of_getElem? found))
  · intro passes record mem
    -- Every record stands at the place of a case.
    obtain ⟨slot, found⟩ := List.mem_iff_getElem?.mp mem
    have inside : slot < gen.length := length ▸ (List.getElem?_eq_some_iff.mp found).1
    have planned : gen[slot]? = some (gen[slot].1, gen[slot].2) := List.getElem?_eq_getElem inside
    obtain ⟨record', found', -, -, origin⟩ := told slot _ _ planned
    cases found.symm.trans found'
    exact origin.isPass_iff.mpr (passes slot _ _ planned)

private theorem Sound.exists_falls (sound : Sound gen c) {report : Report}
    (done : c.suite.result? = some (.ok report)) :
    ¬report.allPassed = true ↔
      ∃ slot test case, gen[slot]? = some (test, case) ∧ Falls c slot test case := by
  obtain ⟨report', same, -, told⟩ := sound.report (Suite.scheduler_of_result? done)
  cases same
  rw [sound.allPassed_iff done]
  constructor
  · intro some_falls
    simp only [not_forall] at some_falls
    obtain ⟨slot, test, case, planned, fails⟩ := some_falls
    obtain ⟨record, -, -, -, origin⟩ := told slot test case planned
    exact ⟨slot, test, case, planned, origin.falls_iff.mpr fails⟩
  · rintro ⟨slot, test, case, planned, falls⟩ all
    exact falls.not_passes (all slot test case planned)

/-- Whatever the tests, whoever aborts the run and whatever breaks down in it: the exit code of
its report is 0 exactly if every case of every test passed, and 1 exactly if something kept one
of them from it.  Every run can be led to its report.  In every report the counts are those of the
records. -/
theorem exitCode_of_run (config : Config) (cores : Nat) (tests : List Test)
    (moves : List (Instant × SuiteMove)) :
    let c := (ofTests config cores tests).run moves
    (∀ result, c.suite.result? = some result → ∃ report, result = .ok report ∧
      (report.exitCode = 0 ↔ ∀ slot test case,
        (generation tests)[slot]? = some (test, case) → Passes c slot test case) ∧
      (report.exitCode = 1 ↔ ∃ slot test case,
        (generation tests)[slot]? = some (test, case) ∧ Falls c slot test case)) ∧
    (∃ more report, (c.run more).suite.result? = some (.ok report)) ∧
    c.suite.config = config ∧
    ∀ records : List CaseRecord,
      let s := Summary.ofRecords records
      (∀ kind, s.count kind = records.countP fun record => record.outcome.kind == kind) ∧
        s.pass + s.fail + s.error + s.timeout + s.skipped = s.total ∧
        s.total = records.length := by
  intro c
  have lawful := (lawful_ofTests config cores tests).run moves
  refine ⟨?_, ?_, lawful.config_eq, fun records => ⟨Summary.count_ofRecords records,
    Summary.consistent_ofRecords records, Summary.total_ofRecords records⟩⟩
  · intro result done
    obtain ⟨report, rfl, -⟩ := lawful.sound.report (Suite.scheduler_of_result? done)
    refine ⟨report, rfl, ?_, ?_⟩
    · rw [Report.exitCode_eq_zero]
      exact lawful.sound.allPassed_iff done
    · rw [Report.exitCode_eq_one]
      exact lawful.sound.exists_falls done
  · obtain ⟨more, ended⟩ := lawful.sound.ends
    obtain ⟨result, done⟩ := Option.isSome_iff_exists.mp ended
    obtain ⟨report, rfl, -⟩ :=
      (lawful.run more).sound.report (Suite.scheduler_of_result? done)
    exact ⟨more, report, done⟩

/-- A case has its server until the time that is given, from which on the scheduler goes on. -/
def attended (job : Nat) (last : CaseMove) (time : Instant) : List (Instant × SuiteMove) :=
  let starting := [.enter, .answer (.materialized (.ok ⟨[⟨"host", 10800⟩], []⟩)),
    .answer (.acknowledged (.ok ()))]
  let ending := [last, .answer (.acknowledged (.ok ()))]
  List.replicate 6 (0, .schedule) ++ [(0, .advance job)] ++
    starting.map (fun move => (0, .play job move)) ++
    ending.map (fun move => (time, .play job move)) ++
    List.replicate 4 (time, .advance job) ++ [(time, .schedule)]

def oneByOne (last : CaseMove) (time : Instant) : List (Instant × SuiteMove) :=
  attended 0 (.answer (.probed (.ok true))) 0 ++ attended 1 last time ++
    List.replicate 2 (time, .schedule)

theorem exitCode_of_two :
    let tests := [Test.lone .idle, Test.lone .idle]
    let good := (ofTests .standard 4 tests).run (oneByOne (.answer (.probed (.ok true))) 0)
    let bad := (ofTests .standard 4 tests).run (oneByOne .expire 1000000000)
    (∃ report, good.suite.result? = some (.ok report) ∧ report.exitCode = 0 ∧
        ∀ slot test case, (generation tests)[slot]? = some (test, case) →
          Passes good slot test case) ∧
      ∃ report, bad.suite.result? = some (.ok report) ∧ report.exitCode = 1 ∧
        ∃ slot test case, (generation tests)[slot]? = some (test, case) ∧
          Falls bad slot test case := by
  intro tests good bad
  have passed : (good.suite.result?.bind Except.toOption).map Report.exitCode = some 0 := by
    decide +kernel
  have failed : (bad.suite.result?.bind Except.toOption).map Report.exitCode = some 1 := by
    decide +kernel
  obtain ⟨report, ended, zero⟩ := Option.map_eq_some_iff.mp passed
  obtain ⟨report', ended', one⟩ := Option.map_eq_some_iff.mp failed
  obtain ⟨result, done, fine⟩ := Option.bind_eq_some_iff.mp ended
  obtain ⟨result', done', fine'⟩ := Option.bind_eq_some_iff.mp ended'
  obtain ⟨_, rfl, passes, -⟩ := (exitCode_of_run .standard 4 tests _).1 result done
  obtain ⟨_, rfl, -, falls⟩ := (exitCode_of_run .standard 4 tests _).1 result' done'
  cases fine
  cases fine'
  exact ⟨⟨report, done, zero, passes.mp zero⟩, report', done', one, falls.mp one⟩

end Chronicle

end Interop
