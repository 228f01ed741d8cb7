import Interop.Proofs.Suite.FailFast

/-!
# Reports that do not depend on the schedule

Without fail-fast and without an abort every case is executed, and its place in the report has
the outcome of its own execution.  So where that outcome is a function of the test and the case,
the tests, cases and outcomes of the report are those of the generation under this function: for
every number of permits and in whatever order the scheduler and the executions take their moves.
What one case does shows at no place but its own.
-/

namespace Interop

/-- The outcome that an execution has come to; one that broke down has an error. -/
def Execution.verdict? (e : Execution) : Option Outcome :=
  match e.stage with
  | .closed record => some record.outcome
  | .panicked message => some (.error "panic" message)
  | _ => none

namespace Chronicle

variable {gen : List (Test × TestCase)} {c : Chronicle} {slot : Nat} {test : Test}
  {case : TestCase} {record : CaseRecord}

private theorem Origin.verdict? (origin : Origin c slot test case record)
    (once : c.begun.count slot = 1) :
    (c.execution slot test case).verdict? = some record.outcome := by
  cases origin with
  | executed _ closed => simp [Execution.verdict?, closed]
  | panicked _ broken => simp [Execution.verdict?, broken, CaseRecord.ofOutcome]
  | skipped reason never => cases never.symm.trans once

/-- Without fail-fast nothing is skipped in a run that nobody aborts. -/
theorem Steady.begun_eq_one {config : Config} {cores : Nat} (steady : Steady config cores gen c)
    {report : Report} (done : c.suite.result? = some (.ok report))
    (patient : config.failFast = false) (inside : slot < report.records.length) :
    c.begun.count slot = 1 := by
  have reported := steady.sound.reported done
  have untripped : c.suite.tripped = false := by
    by_contra tripped
    have failFast := (steady.exists_failed reported (eq_true_of_ne_false tripped)).1
    cases patient.symm.trans failFast
  rw [steady.length_eq_of_untripped reported untripped] at inside
  exact (steady.sound.executed steady.calm.numbered reported inside).1

end Chronicle

/-- A run to the end, without fail-fast and without an abort. -/
structure FullRun (tests : List Test) where
  config : Config
  cores : Nat
  moves : List (Instant × SuiteMove)
  report : Report
  patient : config.failFast = false
  calm : ∀ move ∈ moves, ∀ reason, move.2 ≠ .abort reason
  done : ((Chronicle.ofTests config cores tests).run moves).suite.result? = some (.ok report)

namespace FullRun

variable {tests tests' : List Test} {slot : Nat} {test : Test} {case : TestCase}

def chronicle (r : FullRun tests) : Chronicle :=
  (Chronicle.ofTests r.config r.cores tests).run r.moves

/-- What the report says of the outcomes. -/
def entries (r : FullRun tests) : List (String × TestCase × Outcome) :=
  r.report.records.map fun record => (record.test, record.case, record.outcome)

/-- What the function makes of all cases, in generation order. -/
def expected (f : Test → TestCase → Outcome) (tests : List Test) :
    List (String × TestCase × Outcome) :=
  (generation tests).map fun entry => (entry.1.name, entry.2, f entry.1 entry.2)

/-- The case at that place comes to what the function says, if it comes to an end. -/
def Determined (r : FullRun tests) (f : Test → TestCase → Outcome) (slot : Nat) : Prop :=
  ∀ test case, (generation tests)[slot]? = some (test, case) →
    ∀ outcome ∈ (r.chronicle.execution slot test case).verdict?, outcome = f test case

private theorem length_entries (r : FullRun tests) : r.entries.length =
    (generation tests).length := by
  have steady := (Chronicle.steady_ofTests r.config r.cores tests).run r.calm
  obtain ⟨report, same, length, -⟩ := steady.sound.report (Suite.scheduler_of_result? r.done)
  cases same
  rw [entries, List.length_map, length]

private theorem exists_entry (r : FullRun tests)
    (planned : (generation tests)[slot]? = some (test, case)) :
    ∃ outcome, r.entries[slot]? = some (test.name, case, outcome) ∧
      (r.chronicle.execution slot test case).verdict? = some outcome := by
  have steady := (Chronicle.steady_ofTests r.config r.cores tests).run r.calm
  obtain ⟨report, same, -, told⟩ := steady.sound.report (Suite.scheduler_of_result? r.done)
  cases same
  obtain ⟨record, found, named, cased, origin⟩ := told slot test case planned
  have once := steady.begun_eq_one r.done r.patient (List.getElem?_eq_some_iff.mp found).1
  refine ⟨record.outcome, ?_, origin.verdict? once⟩
  rw [entries, List.getElem?_map, found, Option.map_some, named, cased]

theorem entry_eq (r : FullRun tests) {f : Test → TestCase → Outcome}
    (determined : r.Determined f slot) : r.entries[slot]? = (expected f tests)[slot]? := by
  rw [expected, List.getElem?_map]
  cases planned : (generation tests)[slot]? with
  | none =>
      refine List.getElem?_eq_none ?_
      rw [r.length_entries]
      exact List.getElem?_eq_none_iff.mp planned
  | some entry =>
      obtain ⟨outcome, found, verdict⟩ := r.exists_entry planned
      rw [found, determined entry.1 entry.2 planned outcome verdict]
      rfl

private theorem entries_eq (r : FullRun tests) {f : Test → TestCase → Outcome}
    (determined : ∀ slot, r.Determined f slot) : r.entries = expected f tests :=
  List.ext_getElem? fun slot => r.entry_eq (determined slot)

/-- Where the outcome of an execution is a function of the test and the case, the report of every
full run says what this function makes of the cases in generation order: for every number of
permits and every order of moves.  When one case changes what it does, and even if it does
anything whatever then, the report changes at its place only. -/
theorem entries_of_determined (f : Test → TestCase → Outcome) (tests : List Test) :
    (∀ r : FullRun tests, (∀ slot, r.Determined f slot) → r.entries = expected f tests) ∧
    (∀ r r' : FullRun tests, (∀ slot, r.Determined f slot) → (∀ slot, r'.Determined f slot) →
      r'.entries = r.entries) ∧
    ∀ (r : FullRun tests) (tests' : List Test) (r' : FullRun tests') (changed : Nat),
      (∀ slot ≠ changed, r.Determined f slot ∧ r'.Determined f slot ∧
        (expected f tests')[slot]? = (expected f tests)[slot]?) →
      ∀ slot ≠ changed, r'.entries[slot]? = r.entries[slot]? := by
  refine ⟨fun r determined => r.entries_eq determined, ?_, ?_⟩
  · intro r r' determined determined'
    rw [r.entries_eq determined, r'.entries_eq determined']
  · intro r tests' r' changed alike slot other
    obtain ⟨determined, determined', same⟩ := alike slot other
    rw [r.entry_eq determined, r'.entry_eq determined', same]

/-! ## Two schedules of the same tests -/

/-- A case without a template. -/
def faulty : Test := { Test.lone .idle with template := fun _ => .error (.assertion "no") }

/-- A case without services. -/
def bare : Test := { Test.lone .idle with template := fun _ => .ok [] }

def anticipated (test : Test) (case : TestCase) : Outcome :=
  match test.template case with
  | .ok _ => .pass
  | .error error => error.toOutcome

def admission : List SuiteMove := List.replicate 6 .schedule

def execution (job : Nat) : List SuiteMove :=
  [.advance job, .play job .enter, .advance job, .advance job, .advance job, .advance job]

def inTurn : List SuiteMove :=
  admission ++ execution 0 ++ [.schedule] ++ admission ++ execution 1 ++
    List.replicate 4 .schedule

def reversed : List SuiteMove :=
  admission ++ [.schedule] ++ admission ++ execution 1 ++ execution 0 ++
    List.replicate 4 .schedule

def withPermits (count : Nat) : Config := { Config.standard with parallelism := some count }

private theorem calm_inTurn : ∀ move ∈ inTurn.map fun move => ((0 : Instant), move), ∀ reason,
    move.2 ≠ .abort reason := by
  simp [inTurn, admission, execution]

private theorem calm_reversed : ∀ move ∈ reversed.map fun move => ((0 : Instant), move), ∀ reason,
    move.2 ≠ .abort reason := by
  simp [reversed, admission, execution]

private theorem generation_uneven :
    generation [faulty, bare] = [(faulty, ⟨0, []⟩), (bare, ⟨0, []⟩)] := rfl

private theorem determined_uneven {r : FullRun [faulty, bare]}
    (first : (r.chronicle.execution 0 faulty ⟨0, []⟩).verdict? = some (.fail "no"))
    (second : (r.chronicle.execution 1 bare ⟨0, []⟩).verdict? = some .pass) (slot : Nat) :
    r.Determined anticipated slot := by
  intro test case planned outcome verdict
  rw [generation_uneven] at planned
  match slot with
  | 0 =>
      cases planned
      cases first.symm.trans verdict
      rfl
  | 1 =>
      cases planned
      cases second.symm.trans verdict
      rfl
  | slot + 2 => cases planned

theorem entries_of_uneven :
    ∃ r r' : FullRun [faulty, bare],
      r.config.permits r.cores = 1 ∧ r'.config.permits r'.cores = 2 ∧ r'.entries = r.entries ∧
        r.entries = [("lone", ⟨0, []⟩, .fail "no"), ("lone", ⟨0, []⟩, .pass)] := by
  let r : FullRun [faulty, bare] :=
    { config := withPermits 1, cores := 4, moves := inTurn.map fun move => (0, move), report := _,
      patient := rfl, calm := calm_inTurn, done := rfl }
  let r' : FullRun [faulty, bare] :=
    { config := withPermits 2, cores := 4, moves := reversed.map fun move => (0, move),
      report := _, patient := rfl, calm := calm_reversed, done := rfl }
  have determined : ∀ slot, r.Determined anticipated slot :=
    determined_uneven (by decide +kernel) (by decide +kernel)
  have determined' : ∀ slot, r'.Determined anticipated slot :=
    determined_uneven (by decide +kernel) (by decide +kernel)
  obtain ⟨one, two, -⟩ := entries_of_determined anticipated [faulty, bare]
  exact ⟨r, r', rfl, rfl, two r r' determined determined', one r determined⟩

end FullRun

end Interop
