import Interop.Proofs.Suite.FailFast

/-!
# Admission and refusal

Whoever aborts a suite, and whenever: a case is refused because of the abort or because another
one did not pass, and its record names the reason.  Once a case was refused all later ones are,
so the jobs have the first cases of the generation.
-/

namespace Interop

def Scheduler.isShut (tripped : Bool) : Scheduler → Bool
  | .choose | .screen _ | .skip _ _ _ | .submit _ _ _ | .join | .done _ => true
  | .screenTrip _ => tripped
  | .queue _ | .review _ _ | .reviewTrip _ _ => false

theorem Reporter.outcome_of_skippedRecord {r : Reporter} {slot : Nat} {text : String}
    {record : CaseRecord} (noted : r.skippedRecord slot text = .ok record) :
    record.outcome = .skipped text := by
  unfold Reporter.skippedRecord at noted
  split at noted <;> cases noted
  rfl

namespace Suite

variable {now : Instant} {s s' : Suite} {move : SuiteMove}

/-! ## Grounds -/

def Grounds (s : Suite) (text : String) : Prop :=
  (∃ reason, s.signal.reason = some reason ∧ text = reason.skipReason) ∨
    s.tripped = true ∧ text = failFastReason

def Warrants (s : Suite) : Scheduler → Prop
  | .skip _ text _ => s.Grounds text
  | .submit _ record _ => ∃ text, record.outcome = .skipped text ∧ s.Grounds text
  | .review _ permit => permit = false → s.signal.reason.isSome = true
  | .reviewTrip _ permit => permit = true
  | _ => True

structure Grounded (s : Suite) : Prop where
  warranted : s.Warrants s.scheduler
  told : ∀ {slot : Nat} {record : CaseRecord} {text : String},
    s.reporter.slots[slot]? = some (.done record) → record.outcome = .skipped text → s.Grounds text

theorem grounded_ofTests (config : Config) (cores : Nat) (tests : List Test) :
    (ofTests config cores tests).Grounded := ⟨True.intro, nofun⟩

private theorem Grounds.cause {text : String} (grounds : s.Grounds text) :
    s.signal.reason.isSome = true ∨ s.tripped = true := by
  rcases grounds with ⟨reason, told, -⟩ | ⟨tripped, -⟩
  · exact .inl (by simp [told])
  · exact .inr tripped

private theorem Refuses.grounds {text : String} (refuses : s.Refuses text)
    (warranted : s.Warrants s.scheduler) : s.Grounds text := by
  cases refuses with
  | aborted stood told => exact .inl ⟨_, told, rfl⟩
  | tripped stood trips => exact .inr ⟨trips, rfl⟩
  | denied stood =>
      rw [stood] at warranted
      exact absurd warranted Bool.false_ne_true

theorem Turn.told (turn : Turn now s move s') {reason : AbortReason}
    (told : s.signal.reason = some reason) : s'.signal.reason = some reason := by
  cases turn with
  | aborts later => simp [told]
  | stays | drains | joins | takes | screens | queues | yields | enters | reviews | engages
  | refuses | notes | fills | ends | begins | plays | records | flags | submits | frees
  | gives => exact told

private theorem Turn.isSome_reason (turn : Turn now s move s')
    (aborted : s.signal.reason.isSome = true) : s'.signal.reason.isSome = true := by
  obtain ⟨reason, told⟩ := Option.isSome_iff_exists.mp aborted
  simp [turn.told told]

theorem Grounds.turn {text : String} (grounds : s.Grounds text) (turn : Turn now s move s') :
    s'.Grounds text := by
  rcases grounds with ⟨reason, told, same⟩ | ⟨tripped, same⟩
  · exact .inl ⟨reason, turn.told told, same⟩
  · exact .inr ⟨(turn.frozen tripped).1, same⟩

private theorem Warrants.turn {scheduler : Scheduler} (warrants : s.Warrants scheduler)
    (turn : Turn now s move s') : s'.Warrants scheduler := by
  cases scheduler with
  | skip => exact Grounds.turn warrants turn
  | submit =>
      obtain ⟨text, outcome, grounds⟩ := warrants
      exact ⟨text, outcome, grounds.turn turn⟩
  | review k permit => exact fun denied => turn.isSome_reason (warrants denied)
  | reviewTrip => exact warrants
  | choose | screen | screenTrip | queue | join | done => exact True.intro

theorem Grounded.turn (h : s.Grounded) (turn : Turn now s move s')
    (executed : ∀ job ∈ s.jobs, ∀ record, job.phase = .flagged record →
      record.outcome.kind ≠ .skipped) : s'.Grounded := by
  have before := h.warranted
  have told : s'.reporter.slots = s.reporter.slots → ∀ {slot : Nat} {record : CaseRecord}
      {text : String}, s'.reporter.slots[slot]? = some (.done record) →
      record.outcome = .skipped text → s'.Grounds text := by
    intro same slot record text filed outcome
    exact (h.told (same ▸ filed) outcome).turn turn
  have same := turn
  cases turn with
  | stays | aborts | gives | begins | plays | records | flags | frees =>
      exact ⟨before.turn same, told rfl⟩
  | drains | joins | screens | queues | ends | engages => exact ⟨True.intro, told rfl⟩
  | yields stood aborted => exact ⟨fun _ => aborted, told rfl⟩
  | enters => exact ⟨nofun, told rfl⟩
  | @reviews k permit stood quiet =>
      refine ⟨?_, told rfl⟩
      rw [stood] at before
      change permit = true
      by_contra denied
      have aborted := before (eq_false_of_ne_true denied)
      rw [quiet] at aborted
      cases aborted
  | refuses held permits cause => exact ⟨cause.grounds before, told rfl⟩
  | @notes slot text permit record stood noted =>
      rw [stood] at before
      exact ⟨⟨text, Reporter.outcome_of_skippedRecord noted, before⟩, told rfl⟩
  | takes test case plan free =>
      refine ⟨True.intro, ?_⟩
      intro slot record text filed outcome
      exact (h.told (Reporter.done_reserve.mp filed) outcome).turn same
  | @fills slot record permit stood jobless =>
      refine ⟨True.intro, ?_⟩
      intro place filed text there outcome
      rw [stood] at before
      obtain ⟨text', outcome', grounds⟩ := before
      by_cases here : slot = place
      · subst here
        have inside : slot < s.reporter.slots.length := by
          simpa using (List.getElem?_eq_some_iff.mp there).1
        rw [List.getElem?_set_self inside] at there
        cases there
        cases outcome.symm.trans outcome'
        exact grounds.turn same
      · rw [List.getElem?_set_ne here] at there
        exact (h.told there outcome).turn same
  | @submits index job record found stood inside =>
      refine ⟨before.turn same, ?_⟩
      intro place filed text there outcome
      by_cases here : job.slot = place
      · subst here
        simp only [setPhase] at there
        rw [List.getElem?_set_self inside] at there
        cases there
        have ran := executed job (List.mem_of_getElem? found) record stood
        rw [outcome] at ran
        exact absurd rfl ran
      · simp only [setPhase] at there
        rw [List.getElem?_set_ne here] at there
        exact (h.told there outcome).turn same

/-! ## The gate -/

def Shut (s : Suite) : Prop :=
  (s.signal.reason.isSome = true ∨ s.tripped = true) ∧ s.scheduler.isShut s.tripped = true

theorem Shut.turn (shut : s.Shut) (turn : Turn now s move s') :
    s'.Shut ∧ s'.jobs.map Job.slot = s.jobs.map Job.slot := by
  obtain ⟨cause, shut⟩ := shut
  cases turn with
  | stays | gives => exact ⟨⟨cause, shut⟩, rfl⟩
  | aborts reason => exact ⟨⟨.inl (by simp), shut⟩, rfl⟩
  | drains | joins | takes | refuses | notes | fills | ends => exact ⟨⟨cause, rfl⟩, rfl⟩
  | screens stood quiet =>
      have tripped : s.tripped = true := by
        rcases cause with aborted | tripped
        · rw [quiet] at aborted
          cases aborted
        · exact tripped
      exact ⟨⟨cause, tripped⟩, rfl⟩
  | queues stood untripped =>
      rw [stood] at shut
      cases untripped.symm.trans shut
  | yields stood | enters stood | reviews stood | engages stood =>
      rw [stood] at shut
      cases shut
  | begins | plays | records | submits | frees =>
      exact ⟨⟨cause, shut⟩, Chronicle.map_slot_modify _ _ _⟩
  | @flags index job record found stood =>
      refine ⟨⟨cause.imp_right ?_, ?_⟩, Chronicle.map_slot_modify _ _ _⟩
      · intro tripped
        simp [setPhase, tripped]
      · simp only [setPhase]
        cases scheduler : s.scheduler with
        | screenTrip k =>
            rw [scheduler] at shut
            have tripped : s.tripped = true := shut
            simp [Scheduler.isShut, tripped]
        | queue | review | reviewTrip =>
            rw [scheduler] at shut
            cases shut
        | choose | screen | skip | submit | join | done => rfl

/-- The jobs have the first slots.  As long as the gate is open there are no others, save the one
that the scheduler has. -/
structure Gapless (s : Suite) : Prop where
  numbered : s.jobs.map Job.slot = List.range s.jobs.length
  latest : ∀ {slot : Nat}, s.scheduler.slot? = some slot → s.reporter.len = slot + 1
  level : s.Shut ∨ s.reporter.len = s.jobs.length + s.scheduler.slot?.toList.length

theorem gapless_ofTests (config : Config) (cores : Nat) (tests : List Test) :
    (ofTests config cores tests).Gapless := ⟨rfl, nofun, .inr rfl⟩

private theorem Gapless.still (h : s.Gapless) (turn : Turn now s move s')
    (jobs : s'.jobs.map Job.slot = s.jobs.map Job.slot)
    (len : s'.reporter.len = s.reporter.len)
    (held : s'.scheduler.slot? = s.scheduler.slot?) : s'.Gapless := by
  have length : s'.jobs.length = s.jobs.length := by
    simpa using congrArg List.length jobs
  refine ⟨?_, ?_, ?_⟩
  · rw [jobs, length, h.numbered]
  · intro slot held'
    rw [len]
    exact h.latest (held ▸ held')
  · rw [len, length, held]
    exact h.level.imp_left fun shut => (shut.turn turn).1

theorem Gapless.turn (h : s.Gapless) (grounded : s.Grounded) (turn : Turn now s move s') :
    s'.Gapless := by
  have same := turn
  cases turn with
  | stays => exact h
  | aborts | gives => exact h.still same rfl rfl rfl
  | drains plan free => exact h.still same rfl rfl (by rw [free])
  | joins free => exact h.still same rfl rfl (by rw [free]; rfl)
  | screens stood | queues stood | yields stood | enters stood | reviews stood
  | notes _ stood | ends _ stood => exact h.still same rfl rfl (by rw [stood]; rfl)
  | refuses held => exact h.still same rfl rfl held.symm
  | begins | plays | records | flags | frees =>
      exact h.still same (Chronicle.map_slot_modify _ _ _) rfl rfl
  | submits => exact h.still same (Chronicle.map_slot_modify _ _ _) (List.length_set ..) rfl
  | takes test case plan free =>
      refine ⟨h.numbered, ?_, ?_⟩
      · intro slot held
        obtain rfl : s.reporter.len = slot := Option.some.inj held
        exact s.reporter.len_reserve test.name case
      · refine h.level.imp (fun shut => (shut.turn same).1) ?_
        intro level
        rw [free] at level
        rw [Reporter.len_reserve, level]
        rfl
  | @engages k stood untripped =>
      have latest : s.reporter.len = k.slot + 1 := h.latest (by rw [stood]; rfl)
      have level : s.reporter.len = s.jobs.length + 1 := by
        rcases h.level with ⟨-, shut⟩ | level
        · rw [stood] at shut
          cases shut
        · rwa [stood] at level
      have next : k.slot = s.jobs.length := by omega
      refine ⟨?_, ?_, .inr ?_⟩
      · simp only [engage, List.map_append, List.map_cons, List.map_nil, List.length_append,
          List.length_singleton]
        rw [h.numbered, List.range_succ, next]
      · intro slot held
        cases held
      · simp only [engage, List.length_append, List.length_singleton]
        rw [latest, next]
        rfl
  | @fills slot record permit stood jobless =>
      -- Whoever skips a case has grounds to skip all later ones.
      have cause : s.signal.reason.isSome = true ∨ s.tripped = true := by
        have warranted := grounded.warranted
        rw [stood] at warranted
        obtain ⟨text, -, grounds⟩ := warranted
        exact grounds.cause
      refine ⟨h.numbered, ?_, .inl ⟨cause, rfl⟩⟩
      intro slot held
      cases held

end Suite

end Interop
