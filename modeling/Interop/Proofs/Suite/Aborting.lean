import Interop.Proofs.Execution.Heeding
import Interop.Proofs.Suite.Admission

/-!
# Aborted suites

Once a suite was aborted it keeps the reason, and all that comes of the abort names it: the
executions that are cut off or that had not begun, and the cases that were not admitted.  What
was reported before stays.
-/

namespace Interop

def Scheduler.listens? : Scheduler → Option Nat
  | .screen k | .queue k | .review k _ => some k.slot
  | _ => none

def Scheduler.weighs : Scheduler → Bool
  | .screen _ | .screenTrip _ | .review _ _ | .reviewTrip _ _ => true
  | _ => false

private theorem Scheduler.slot?_of_listens? {scheduler : Scheduler} {slot : Nat}
    (listens : scheduler.listens? = some slot) : scheduler.slot? = some slot := by
  cases scheduler with
  | screen | queue | review => exact listens
  | choose | screenTrip | reviewTrip | skip | submit | join | done => cases listens

theorem AbortReason.skipReason_ne (reason : AbortReason) :
    reason.skipReason ≠ Suite.failFastReason ∧ reason.skipReason ≠ Suite.abortedReason := by
  cases reason <;> decide

private theorem Outcome.exists_of_kind_eq_skipped {outcome : Outcome}
    (skipped : outcome.kind = .skipped) :
    ∃ text, outcome = .skipped text := by
  cases outcome with
  | skipped text => exact ⟨text, rfl⟩
  | pass | fail | error | timeout => cases skipped

namespace Suite

variable {now : Instant} {s s' : Suite} {move : SuiteMove}

theorem Refuses.weighs {text : String} (refuses : s.Refuses text) :
    s.scheduler.weighs = true := by
  cases refuses with
  | aborted stood | tripped stood =>
      rcases stood with stood | ⟨permit, stood⟩ <;> rw [stood] <;> rfl
  | denied stood => rw [stood]; rfl

private theorem Turn.scheduler_eq (turn : Turn now s move s') (other : move ≠ .schedule) :
    s'.scheduler = s.scheduler := by
  cases turn with
  | stays | aborts | gives | begins | plays | records | flags | submits | frees => rfl
  | drains | joins | takes | screens | queues | yields | enters | reviews | engages | refuses
  | notes | fills | ends => exact absurd rfl other

/-! ## Cases that are not admitted -/

def Unscreened (s : Suite) (slot : Nat) : Prop :=
  s.reporter.len ≤ slot ∨ s.scheduler.listens? = some slot

def Weighing (s : Suite) (slot : Nat) : Prop :=
  ∃ k : Candidate, k.slot = slot ∧ (s.scheduler = .screenTrip k ∨ s.scheduler = .reviewTrip k true)

inductive Barred (P : String → Prop) (slot : Nat) (s : Suite) : Prop
  | unscreened (early : s.Unscreened slot)
  | weighed {k : Candidate} (stood : s.scheduler = .screenTrip k) (here : k.slot = slot)
      (fits : P failFastReason)
  | refused {text : String} {permit : Bool} (stood : s.scheduler = .skip slot text permit)
      (fits : P text)
  | noted {record : CaseRecord} {permit : Bool} {text : String}
      (stood : s.scheduler = .submit slot record permit)
      (outcome : record.outcome = .skipped text) (fits : P text)
  | filed {record : CaseRecord} {text : String}
      (filed : s.reporter.slots[slot]? = some (.done record))
      (outcome : record.outcome = .skipped text) (fits : P text)

namespace Barred

variable {P : String → Prop} {slot : Nat} {reason : AbortReason}

private theorem ahead (turn : Turn now s move s') (beyond : s.reporter.len ≤ slot) :
    s'.Unscreened slot := by
  cases turn with
  | takes test case plan free =>
      rcases Nat.lt_or_eq_of_le beyond with beyond | rfl
      · exact .inl (by simpa [Reporter.len_reserve] using Nat.succ_le_of_lt beyond)
      · exact .inr rfl
  | fills | submits => exact .inl (by simpa [setPhase, Reporter.len] using beyond)
  | stays | drains | joins | screens | queues | yields | enters | reviews | engages | refuses
  | notes | ends | aborts | gives | begins | plays | records | flags | frees => exact .inl beyond

private theorem listening (turn : Turn now s .schedule s') (told : s.signal.reason = some reason)
    (fits : P reason.skipReason) (listens : s.scheduler.listens? = some slot) :
    s'.Barred P slot := by
  cases turn with
  | stays => exact .unscreened (.inr listens)
  | screens _ quiet | reviews _ quiet => cases quiet.symm.trans told
  | yields stood | enters stood =>
      rw [stood] at listens
      exact .unscreened (.inr listens)
  | refuses held permits cause =>
      cases cause with
      | aborted stood told' =>
          cases told.symm.trans told'
          rcases stood with stood | ⟨permit, stood⟩
          all_goals
            rw [stood] at held listens
            cases held.symm.trans listens
            exact .refused rfl fits
      | tripped stood =>
          rcases stood with stood | ⟨permit, stood⟩
          all_goals
            rw [stood] at listens
            cases listens
      | denied stood =>
          rw [stood] at listens
          cases listens
  | drains _ stood | joins stood | takes _ _ _ stood | queues stood | engages stood
  | notes _ stood | fills stood | ends _ stood =>
      rw [stood] at listens
      cases listens

private theorem weighing {k : Candidate} (turn : Turn now s .schedule s')
    (stood : s.scheduler = .screenTrip k) (here : k.slot = slot) (fits : P failFastReason) :
    s'.Barred P slot := by
  cases turn with
  | stays => exact .weighed stood here fits
  | queues stood' =>
      cases stood.symm.trans stood'
      exact .unscreened (.inr (congrArg some here))
  | refuses held permits cause =>
      rw [stood] at held
      obtain rfl := here.symm.trans (Option.some.inj held)
      cases cause with
      | tripped => exact .refused rfl fits
      | aborted stood' =>
          rcases stood' with stood' | ⟨permit, stood'⟩ <;> cases stood.symm.trans stood'
      | denied stood' => cases stood.symm.trans stood'
  | drains _ stood' | joins stood' | takes _ _ _ stood' | screens stood' | yields stood'
  | enters stood' | reviews stood' | engages stood' | notes _ stood' | fills stood'
  | ends _ stood' => cases stood.symm.trans stood'

private theorem refusing {text : String} {permit : Bool} (turn : Turn now s .schedule s')
    (stood : s.scheduler = .skip slot text permit) (fits : P text) : s'.Barred P slot := by
  cases turn with
  | stays => exact .refused stood fits
  | notes record stood' noted =>
      cases stood.symm.trans stood'
      exact .noted rfl (Reporter.outcome_of_skippedRecord noted) fits
  | refuses held permits cause =>
      have weighs := cause.weighs
      rw [stood] at weighs
      cases weighs
  | drains _ stood' | joins stood' | takes _ _ _ stood' | screens stood' | queues stood'
  | yields stood' | enters stood' | reviews stood' | engages stood' | fills stood'
  | ends _ stood' => cases stood.symm.trans stood'

private theorem noting {record : CaseRecord} {text : String} {permit : Bool}
    (turn : Turn now s .schedule s') (stood : s.scheduler = .submit slot record permit)
    (outcome : record.outcome = .skipped text) (fits : P text) (inside : slot < s.reporter.len) :
    s'.Barred P slot := by
  cases turn with
  | stays => exact .noted stood outcome fits
  | fills stood' =>
      cases stood.symm.trans stood'
      exact .filed (List.getElem?_set_self inside) outcome fits
  | refuses held permits cause =>
      have weighs := cause.weighs
      rw [stood] at weighs
      cases weighs
  | drains _ stood' | joins stood' | takes _ _ _ stood' | screens stood' | queues stood'
  | yields stood' | enters stood' | reviews stood' | engages stood' | notes _ stood'
  | ends _ stood' => cases stood.symm.trans stood'

/-- A case that is not admitted stays so, whatever the suite does. -/
theorem turn (barred : s.Barred P slot) (turn : Turn now s move s')
    (told : s.signal.reason = some reason) (fits : P reason.skipReason)
    (inside : s.scheduler.slot? = some slot → slot < s.reporter.len)
    (kept : ∀ record, s.reporter.slots[slot]? = some (.done record) →
      s'.reporter.slots[slot]? = some (.done record)) : s'.Barred P slot := by
  by_cases scheduled : move = .schedule
  · -- One lemma above for each place where the case can be.
    subst scheduled
    cases barred with
    | unscreened early =>
        rcases early with beyond | listens
        · exact .unscreened (ahead turn beyond)
        · exact listening turn told fits listens
    | weighed stood here fitting => exact weighing turn stood here fitting
    | refused stood fitting => exact refusing turn stood fitting
    | noted stood outcome fitting =>
        exact noting turn stood outcome fitting (inside (by rw [stood]; rfl))
    | filed filed outcome fitting => exact .filed (kept _ filed) outcome fitting
  · have same := turn.scheduler_eq scheduled
    cases barred with
    | unscreened early =>
        rcases early with beyond | listens
        · exact .unscreened (ahead turn beyond)
        · exact .unscreened (.inr (same ▸ listens))
    | weighed stood here fitting => exact .weighed (same.trans stood) here fitting
    | refused stood fitting => exact .refused (same.trans stood) fitting
    | noted stood outcome fitting => exact .noted (same.trans stood) outcome fitting
    | filed filed outcome fitting => exact .filed (kept _ filed) outcome fitting

end Barred

end Suite

namespace Chronicle

variable {gen : List (Test × TestCase)} {c : Chronicle}

/-! ## What stays -/

private theorem Sound.filed_turn (sound : Sound gen c) {now : Instant} {move : SuiteMove}
    {s' : Suite}
    (turn : Suite.Turn now c.suite move s') {slot : Nat} {record : CaseRecord}
    (filed : c.suite.reporter.slots[slot]? = some (.done record)) :
    s'.reporter.slots[slot]? = some (.done record) := by
  -- A slot that is written now was only reserved until now.
  cases turn with
  | takes => exact Reporter.done_reserve.mpr filed
  | @fills other _ _ stood =>
      have order := sound.scheduler
      rw [stood] at order
      obtain ⟨test, case, text, waiting, -⟩ := order
      have apart : other ≠ slot := by
        rintro rfl
        cases waiting.2.1.symm.trans filed
      exact (List.getElem?_set_ne apart).trans filed
  | @submits index job _ found stood =>
      obtain ⟨-, stands⟩ := sound.jobs job (List.mem_of_getElem? found)
      have apart : job.slot ≠ slot := by
        rintro rfl
        cases (stands.of_flagged stood).1.symm.trans filed
      exact (List.getElem?_set_ne apart).trans filed
  | stays | drains | joins | screens | queues | yields | enters | reviews | engages | refuses
  | notes | ends | aborts | gives | begins | plays | records | flags | frees => exact filed

private theorem mem_slots_turn {now : Instant} {s s' : Suite} {move : SuiteMove}
    (turn : Suite.Turn now s move s') {slot : Nat} (mem : slot ∈ s.jobs.map Job.slot) :
    slot ∈ s'.jobs.map Job.slot := by
  cases turn with
  | engages => simpa [Suite.engage] using Or.inl (List.mem_map.mp mem)
  | begins | plays | records | flags | submits | frees =>
      simpa only [Suite.setPhase, map_slot_modify] using mem
  | stays | drains | joins | takes | screens | queues | yields | enters | reviews | refuses
  | notes | fills | ends | aborts | gives => exact mem

theorem beatsOf_step (c : Chronicle) (now : Instant) (move : SuiteMove) (slot : Nat) :
    ∃ later, (c.step now move).beatsOf slot = c.beatsOf slot ++ later ∧
      ∀ b ∈ later, b.signal = c.suite.signal := by
  cases beat : c.suite.beat? now move with
  | none => exact ⟨[], by simp [step, beat, beatsOf], List.forall_mem_nil _⟩
  | some entry =>
      obtain ⟨other, b⟩ := entry
      have signal : b.signal = c.suite.signal := by
        unfold Suite.beat? at beat
        repeat' split at beat
        all_goals cases beat
        rfl
      simp only [step, beat, Option.toList_some, List.singleton_append, beatsOf_cons]
      split
      · exact ⟨[b], rfl, by simpa using signal⟩
      · exact ⟨[], (List.append_nil _).symm, List.forall_mem_nil _⟩

/-! ## Runs -/

private theorem kind_ne_skipped_of_verdict? {job : Job} {record : CaseRecord} {slot : Nat}
    {test : Test}
    {case : TestCase}
    (verdict : Suite.Job.verdict? job (c.execution slot test case) = some record) :
    record.outcome.kind ≠ .skipped := by
  unfold Suite.Job.verdict? at verdict
  split at verdict
  · next closed =>
      cases verdict
      exact kind_ne_skipped_of_closed closed
  · cases verdict
    nofun
  · cases verdict

structure Lawful (config : Config) (gen : List (Test × TestCase)) (c : Chronicle) : Prop where
  sound : Sound gen c
  config_eq : c.suite.config = config
  grounded : c.suite.Grounded
  gapless : c.suite.Gapless
  heard : ∀ {slot : Nat} {b : Execution.Beat} {reason : AbortReason}, b ∈ c.beatsOf slot →
    b.signal.reason = some reason → c.suite.signal.reason = some reason

theorem lawful_ofTests (config : Config) (cores : Nat) (tests : List Test) :
    Lawful config (generation tests) (ofTests config cores tests) where
  sound := sound_ofTests config cores tests
  config_eq := rfl
  grounded := Suite.grounded_ofTests config cores tests
  gapless := Suite.gapless_ofTests config cores tests
  heard mem := absurd mem List.not_mem_nil

namespace Lawful

variable {config : Config}

theorem step (h : Lawful config gen c) (now : Instant) (move : SuiteMove) :
    Lawful config gen (c.step now move) := by
  have turn := h.sound.turn now move
  refine ⟨h.sound.step now move, turn.config_eq.trans h.config_eq, ?_,
    h.gapless.turn h.grounded turn, ?_⟩
  · refine h.grounded.turn turn ?_
    intro job mem record flagged
    obtain ⟨-, stands⟩ := h.sound.jobs job mem
    exact kind_ne_skipped_of_verdict? (stands.of_flagged flagged).2
  · intro slot b reason mem heard
    obtain ⟨later, same, signal⟩ := c.beatsOf_step now move slot
    rw [same] at mem
    rcases List.mem_append.mp mem with mem | mem
    · exact turn.told (h.heard mem heard)
    · exact turn.told (signal b mem ▸ heard)

theorem run (h : Lawful config gen c) (moves : List (Instant × SuiteMove)) :
    Lawful config gen (c.run moves) := by
  induction moves generalizing c with
  | nil => exact h
  | cons move moves ih => exact ih (h.step move.1 move.2)

end Lawful

structure Follows (reason : AbortReason) (c c' : Chronicle) : Prop where
  told : c'.suite.signal.reason = some reason
  filed : ∀ {slot : Nat} {record : CaseRecord},
    c.suite.reporter.slots[slot]? = some (.done record) →
    c'.suite.reporter.slots[slot]? = some (.done record)
  admitted : ∀ {slot : Nat}, slot ∈ c.suite.jobs.map Job.slot → slot ∈ c'.suite.jobs.map Job.slot
  beats : ∀ slot, ∃ later, c'.beatsOf slot = c.beatsOf slot ++ later ∧
    ∀ b ∈ later, b.signal.reason = some reason
  barred : ∀ {P : String → Prop} {slot : Nat}, P reason.skipReason →
    c.suite.Barred P slot → c'.suite.Barred P slot

namespace Follows

variable {config : Config} {c' : Chronicle} {reason : AbortReason}

private theorem refl (told : c.suite.signal.reason = some reason) : Follows reason c c where
  told := told
  filed := id
  admitted := id
  beats _ := ⟨[], (List.append_nil _).symm, List.forall_mem_nil _⟩
  barred _ := id

private theorem step (follows : Follows reason c c') (lawful : Lawful config gen c') (now : Instant)
    (move : SuiteMove) : Follows reason c (c'.step now move) := by
  have turn := lawful.sound.turn now move
  refine ⟨turn.told follows.told, ?_, ?_, ?_, ?_⟩
  · exact fun filed => lawful.sound.filed_turn turn (follows.filed filed)
  · exact fun mem => mem_slots_turn turn (follows.admitted mem)
  · intro slot
    obtain ⟨before, same, told⟩ := follows.beats slot
    obtain ⟨later, same', signal⟩ := c'.beatsOf_step now move slot
    refine ⟨before ++ later, by rw [same', same, List.append_assoc], ?_⟩
    intro b mem
    rcases List.mem_append.mp mem with mem | mem
    · exact told b mem
    · rw [signal b mem, follows.told]
  · intro P slot fits barred
    refine (follows.barred fits barred).turn turn follows.told fits ?_ ?_
    · intro held
      exact lawful.gapless.latest held ▸ Nat.lt_succ_self slot
    · exact fun record filed => lawful.sound.filed_turn turn filed

private theorem run (follows : Follows reason c c') (lawful : Lawful config gen c')
    (moves : List (Instant × SuiteMove)) : Follows reason c (c'.run moves) := by
  induction moves generalizing c' with
  | nil => exact follows
  | cons move moves ih =>
      exact ih (follows.step lawful move.1 move.2) (lawful.step move.1 move.2)

end Follows

def produced? (c c' : Chronicle) (slot : Nat) (test : Test) (case : TestCase) : Option Outcome :=
  let e := c.execution slot test case
  (e.run slot (e.turn ((c'.beatsOf slot).drop (c.beatsOf slot).length))).settled?

namespace Follows

variable {config : Config} {c' : Chronicle} {reason : AbortReason} {slot : Nat} {test : Test}
  {case : TestCase} {outcome : Outcome}

private theorem settled (follows : Follows reason c c') (same : c'.suite.config = c.suite.config)
    (settled : (c'.execution slot test case).settled? = some outcome) :
    outcome = (produced? c c' slot test case).getD reason.outcome := by
  -- From `c` on, the execution was moved by the later beats only.
  obtain ⟨later, beats, told⟩ := follows.beats slot
  have went : c'.execution slot test case = (c.execution slot test case).run slot later := by
    rw [execution, same, beats, Execution.run_append]
    rfl
  rw [went] at settled
  rw [produced?, beats, List.drop_left]
  exact Execution.settled_of_aborted (fun b mem _ => told b mem) settled

private theorem spared (follows : Follows reason c c') (test : Test) (case : TestCase)
    (unentered : ∀ b ∈ c.beatsOf slot, b.move ≠ .enter) :
    Execution.Spared (c'.suite.config.settings test.numNodes) (c'.execution slot test case) ∧
      ∀ outcome, (c'.execution slot test case).settled? = some outcome →
        outcome = reason.outcome := by
  obtain ⟨later, beats, told⟩ := follows.beats slot
  have tells : Execution.Tells reason (c'.beatsOf slot) := by
    intro b mem enters
    rw [beats] at mem
    rcases List.mem_append.mp mem with mem | mem
    · exact absurd enters (unentered b mem)
    · exact told b mem
  refine ⟨(Execution.spared_ofCase _ test case).run slot tells, ?_⟩
  intro outcome settled
  exact Execution.eq_of_resting rfl rfl tells settled

end Follows

theorem Lawful.barred {config : Config} (lawful : Lawful config gen c) {P : String → Prop}
    {slot : Nat} (jobless : slot ∉ c.suite.jobs.map Job.slot)
    (unweighed : ∀ k, c.suite.scheduler = .reviewTrip k true → k.slot ≠ slot)
    (flagged : ∀ k, c.suite.scheduler = .screenTrip k → k.slot = slot → P Suite.failFastReason)
    (fits : ∀ text, c.suite.Grounds text → P text) : c.suite.Barred P slot := by
  rcases Nat.lt_or_ge slot c.suite.reporter.len with inside | beyond
  · have warranted := lawful.grounded.warranted
    rcases lawful.sound.filled slot inside with
      ⟨job, mem, same⟩ | held | ⟨test, case, text, -, filed⟩
    · exact absurd (same ▸ List.mem_map_of_mem mem) jobless
    · cases stood : c.suite.scheduler with
      | choose | join | done =>
          rw [stood] at held
          cases held
      | screen k | queue k | review k =>
          rw [stood] at held
          exact .unscreened (.inr (by rw [stood]; exact held))
      | screenTrip k =>
          rw [stood] at held
          have here := Option.some.inj held
          exact .weighed stood here (flagged k stood here)
      | reviewTrip k permit =>
          rw [stood] at held warranted
          obtain rfl : permit = true := warranted
          exact absurd (Option.some.inj held) (unweighed k stood)
      | skip other text permit =>
          rw [stood] at held warranted
          cases held
          exact .refused stood (fits text warranted)
      | submit other record permit =>
          rw [stood] at held warranted
          cases held
          obtain ⟨text, outcome, grounds⟩ := warranted
          exact .noted stood outcome (fits text grounds)
    · exact .filed filed rfl (fits text (lawful.grounded.told filed rfl))
  · exact .unscreened (.inl beyond)

/-! ## The report -/

theorem Reported.of_barred {report : Report} (reported : Reported c report) {P : String → Prop}
    {slot : Nat} {record : CaseRecord} (barred : c.suite.Barred P slot)
    (found : report.records[slot]? = some record) :
    ∃ text, record.outcome = .skipped text ∧ P text := by
  have idle := reported.idle
  have filed := reported.getElem?_iff.mpr found
  cases barred with
  | unscreened early =>
      rcases early with beyond | listens
      · exact absurd (List.getElem?_eq_some_iff.mp filed).1 (Nat.not_lt_of_le beyond)
      · rw [Scheduler.slot?_of_listens? listens] at idle
        cases idle
  | weighed stood | refused stood | noted stood =>
      rw [stood] at idle
      cases idle
  | filed filed' outcome fits =>
      cases filed.symm.trans filed'
      exact ⟨_, outcome, fits⟩

/-- The record of a case in the report of `c'`, where `c` had already been aborted for that
reason. -/
structure Heeded (config : Config) (reason : AbortReason) (c c' : Chronicle) (slot : Nat)
    (test : Test) (case : TestCase) (record : CaseRecord) : Prop where
  filed : ∀ before, c.suite.reporter.slots[slot]? = some (.done before) → record = before
  admitted : slot ∈ c.suite.jobs.map Job.slot → c'.begun.count slot = 1
  refused : slot ∉ c.suite.jobs.map Job.slot →
    (∀ k, c.suite.scheduler = .reviewTrip k true → k.slot ≠ slot) → c'.begun.count slot = 0
  executed : c'.begun.count slot = 1 →
    (∀ message, (c'.execution slot test case).stage ≠ .panicked message) →
    (c'.execution slot test case).settled? = some record.outcome ∧
      record.outcome = (produced? c c' slot test case).getD reason.outcome ∧
      Execution.Verdict (test.timeout.getD config.caseTimeout) (· = reason) record.outcome
  /-- A skipped case names the reason, or the flag: then the scheduler had looked at the signal
  for it before the abort, and the flag had been set or was just to be looked at. -/
  skipped : c'.begun.count slot = 0 →
    record = .skipped test case reason.skipReason ∨
      record = .skipped test case Suite.failFastReason ∧ ¬ c.suite.Unscreened slot ∧
        (c.suite.tripped = true ∨ c.suite.Weighing slot)

/-- A case names the flag only if it was set before the abort, or if the scheduler was about to
look at it for that case. -/
theorem Lawful.tripped_or_weighing {config : Config} {c' : Chronicle} {reason : AbortReason}
    {report : Report} (lawful : Lawful config gen c) (follows : Follows reason c c')
    (reported : Reported c' report) {slot : Nat} {record : CaseRecord}
    (found : report.records[slot]? = some record)
    (outcome : record.outcome = .skipped Suite.failFastReason)
    (jobless : slot ∉ c.suite.jobs.map Job.slot) :
    c.suite.tripped = true ∨ c.suite.Weighing slot := by
  by_cases weighing : c.suite.Weighing slot
  · exact .inr weighing
  · refine .inl ?_
    have barred : c.suite.Barred (fun text => text = Suite.failFastReason →
        c.suite.tripped = true) slot := by
      refine lawful.barred jobless ?_ ?_ ?_
      · exact fun k stood here => weighing ⟨k, here, .inr stood⟩
      · exact fun k stood here => absurd ⟨k, here, .inl stood⟩ weighing
      · rintro text (⟨reason', -, rfl⟩ | ⟨tripped, -⟩) same
        · exact absurd same reason'.skipReason_ne.1
        · exact tripped
    have fits : reason.skipReason = Suite.failFastReason → c.suite.tripped = true :=
      fun same => absurd same reason.skipReason_ne.1
    obtain ⟨text, outcome', tripped⟩ := reported.of_barred (follows.barred fits barred) found
    exact tripped (Outcome.skipped.inj (outcome'.symm.trans outcome))

private theorem Lawful.heeded {config : Config} {c' : Chronicle} {reason : AbortReason}
    {report : Report}
    (lawful : Lawful config gen c) (lawful' : Lawful config gen c')
    (follows : Follows reason c c') (done : c'.suite.result? = some (.ok report)) {slot : Nat}
    {test : Test} {case : TestCase} {record : CaseRecord}
    (planned : gen[slot]? = some (test, case)) (found : report.records[slot]? = some record) :
    Heeded config reason c c' slot test case record := by
  have reported := lawful'.sound.reported done
  obtain ⟨report', same, -, origins⟩ := lawful'.sound.report (Suite.scheduler_of_result? done)
  cases same
  obtain ⟨record', found', -, -, origin⟩ := origins slot test case planned
  cases found.symm.trans found'
  have admitted : slot ∈ c.suite.jobs.map Job.slot → c'.begun.count slot = 1 := by
    intro mem
    obtain ⟨job, engaged, rfl⟩ := List.mem_map.mp (follows.admitted mem)
    exact lawful'.sound.begun_of_ended engaged (reported.ended job engaged)
  refine ⟨?_, admitted, ?_, ?_, ?_⟩
  · intro before filed
    have found' := reported.getElem?_iff.mp (follows.filed filed)
    exact Option.some.inj (found.symm.trans found')
  · intro jobless unweighed
    have barred := lawful.barred (P := fun _ => True) jobless unweighed
      (fun _ _ _ => True.intro) (fun _ _ => True.intro)
    obtain ⟨text, outcome, -⟩ := reported.of_barred (follows.barred True.intro barred) found
    have skipped : record.outcome.kind = .skipped := by rw [outcome]; rfl
    have ran := origin.kind_ne_skipped
    cases origin with
    | executed once | panicked once => exact absurd skipped (ran once)
    | skipped text never => exact never
  · intro once unbroken
    cases origin with
    | executed _ closed =>
        have settled : (c'.execution slot test case).settled? = some record.outcome := by
          simp [Execution.settled?, closed]
        refine ⟨settled, ?_, ?_⟩
        · exact follows.settled (lawful'.config_eq.trans lawful.config_eq.symm) settled
        · rw [← lawful'.config_eq]
          refine Execution.verdict_of_closed _ test case slot ?_ closed
          intro b mem reason' told
          exact Option.some.inj ((lawful'.heard mem told).symm.trans follows.told)
    | panicked _ broken => exact absurd broken (unbroken _)
    | skipped text never =>
        rw [never] at once
        cases once
  · intro never
    cases origin with
    | executed once | panicked once =>
        rw [never] at once
        cases once
    | skipped text =>
        rcases lawful'.grounded.told (reported.getElem?_iff.mpr found) rfl with
          ⟨reason', told, rfl⟩ | ⟨-, rfl⟩
        · cases told.symm.trans follows.told
          exact .inl rfl
        · refine .inr ⟨rfl, ?_, ?_⟩
          · intro early
            -- Whatever the scheduler still has to look at is skipped for the abort.
            have barred := follows.barred (P := (· = reason.skipReason)) rfl (.unscreened early)
            obtain ⟨text, outcome, rfl⟩ := reported.of_barred barred found
            exact absurd (Outcome.skipped.inj outcome).symm reason.skipReason_ne.1
          · refine lawful.tripped_or_weighing follows reported found rfl ?_
            intro mem
            cases never.symm.trans (admitted mem)

/-- Once a run was aborted, whoever did it and whatever was under way: the reason stays.  An
execution that begins its first turn later takes nothing and comes to the outcome of the abort;
every other one ends with what it has come to at the end of the turn that was under way, or
with that outcome.  Cases that were not admitted are skipped and name the reason, or the flag
where the scheduler had looked at the signal before; they come last in the report, and never with
the text that names neither.  What was reported before stays. -/
theorem aborted_of_run (config : Config) (cores : Nat) (tests : List Test)
    (moves : List (Instant × SuiteMove)) {reason : AbortReason}
    (aborted : ((ofTests config cores tests).run moves).suite.signal.reason = some reason)
    (more : List (Instant × SuiteMove)) :
    let c := (ofTests config cores tests).run moves
    let c' := c.run more
    c'.suite.signal.reason = some reason ∧
    (∀ slot test case, (∀ b ∈ c.beatsOf slot, b.move ≠ .enter) →
      (c'.execution slot test case).controller = .ofSettings (config.settings test.numNodes) ∧
      ∀ outcome, (c'.execution slot test case).settled? = some outcome →
        outcome = reason.outcome) ∧
    ∀ report, c'.suite.result? = some (.ok report) →
      (∃ executed skipped, report.records = executed ++ skipped ∧
        (∀ record ∈ executed, record.outcome.kind ≠ .skipped) ∧
        (∀ record ∈ skipped, record.outcome = .skipped reason.skipReason ∨
          record.outcome = .skipped Suite.failFastReason) ∧
        ∀ slot, c'.begun.count slot = if slot < executed.length then 1 else 0) ∧
      (∀ record ∈ report.records, record.outcome ≠ .skipped Suite.abortedReason) ∧
      ∀ slot test case record, (generation tests)[slot]? = some (test, case) →
        report.records[slot]? = some record → Heeded config reason c c' slot test case record := by
  intro c c'
  have lawful := (lawful_ofTests config cores tests).run moves
  have lawful' := lawful.run more
  have follows := (Follows.refl aborted).run lawful more
  refine ⟨follows.told, ?_, ?_⟩
  · intro slot test case unentered
    obtain ⟨spared, settled⟩ := follows.spared test case unentered
    rw [lawful'.config_eq] at spared
    exact ⟨spared.controller, settled⟩
  · intro report done
    have reported := lawful'.sound.reported done
    obtain ⟨ran, refused, counted⟩ := lawful'.sound.parts lawful'.gapless.numbered reported
    have texts : ∀ record ∈ report.records, ∀ text, record.outcome = .skipped text →
        text = reason.skipReason ∨ text = Suite.failFastReason := by
      intro record mem text outcome
      obtain ⟨slot, found⟩ := List.mem_iff_getElem?.mp mem
      rcases lawful'.grounded.told (reported.getElem?_iff.mpr found) outcome with
        ⟨reason', told, same⟩ | ⟨-, same⟩
      · cases told.symm.trans follows.told
        exact .inl same
      · exact .inr same
    refine ⟨⟨_, _, (List.take_append_drop c'.suite.jobs.length report.records).symm, ran, ?_,
      counted⟩, ?_, fun slot test case record => lawful.heeded lawful' follows done⟩
    · intro record mem
      obtain ⟨text, outcome⟩ := Outcome.exists_of_kind_eq_skipped (refused record mem)
      rcases texts record (List.mem_of_mem_drop mem) text outcome with rfl | rfl
      · exact .inl outcome
      · exact .inr outcome
    · intro record mem outcome
      rcases texts record mem _ outcome with same | same
      · exact reason.skipReason_ne.2 same.symm
      · exact absurd same (by decide)

def pair : List Test := [.lone .idle, .lone .idle]

/-- The first case waits for its server and the second one for a permit when the run is
interrupted; that its time is over comes too late. -/
def interrupted : List (Instant × SuiteMove) :=
  let moves := List.replicate 6 SuiteMove.schedule ++
    [.advance 0, .play 0 .enter, .play 0 .park] ++ List.replicate 4 .schedule ++
    [.abort .interrupt, .abort .suiteTimeout]
  moves.map fun move => (0, move)

def windingUp : List (Instant × SuiteMove) :=
  let moves := SuiteMove.play 0 .enter :: List.replicate 4 (.advance 0) ++
    List.replicate 9 .schedule
  moves.map fun move => (0, move)

theorem aborted_of_interrupted :
    ((ofTests oneAtATime 4 pair).run interrupted).suite.signal.reason = some .interrupt ∧
      ∃ report, (((ofTests oneAtATime 4 pair).run interrupted).run windingUp).suite.result? =
          some (.ok report) ∧
        report.records.map CaseRecord.outcome =
          [AbortReason.interrupt.outcome, .skipped AbortReason.interrupt.skipReason] ∧
        ∀ slot test case record, (generation pair)[slot]? = some (test, case) →
          report.records[slot]? = some record →
          Heeded oneAtATime .interrupt ((ofTests oneAtATime 4 pair).run interrupted)
            (((ofTests oneAtATime 4 pair).run interrupted).run windingUp) slot test case
            record := by
  have aborted : ((ofTests oneAtATime 4 pair).run interrupted).suite.signal.reason =
      some .interrupt := by decide +kernel
  have told : ((((ofTests oneAtATime 4 pair).run interrupted).run windingUp).suite.result?.bind
      Except.toOption).map (fun report => report.records.map CaseRecord.outcome) =
        some [AbortReason.interrupt.outcome, .skipped AbortReason.interrupt.skipReason] := by
    decide +kernel
  obtain ⟨report, ended, outcomes⟩ := Option.map_eq_some_iff.mp told
  obtain ⟨result, done, fine⟩ := Option.bind_eq_some_iff.mp ended
  obtain rfl : result = .ok report := by
    cases result with
    | ok other => exact congrArg Except.ok (Option.some.inj fine)
    | error => cases fine
  obtain ⟨-, -, reports⟩ := aborted_of_run oneAtATime 4 pair interrupted aborted windingUp
  exact ⟨aborted, report, done, outcomes, (reports report done).2.2⟩

end Chronicle

end Interop
