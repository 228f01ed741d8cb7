import Interop.Proofs.Execution.Verdicts
import Interop.Proofs.Suite.Turns
import Mathlib.Data.List.Perm.Basic

/-!
# Failing fast

As long as nobody aborts a suite, cases are refused only because one of them did not pass, and
from then on all are.  So the jobs have the first cases of the generation, the skipped ones are
the rest, and a case that did not pass is among the first.
-/

namespace Interop

def Scheduler.isRefusing : Scheduler → Bool
  | .skip _ _ _ | .submit _ _ _ => true
  | _ => false

def Scheduler.isDenied : Scheduler → Bool
  | .review _ permit | .reviewTrip _ permit => !permit
  | _ => false

theorem Reporter.done_reserve {r : Reporter} {test : String} {case : TestCase} {slot : Nat}
    {record : CaseRecord} :
    (r.reserve test case).1.slots[slot]? = some (.done record) ↔
      r.slots[slot]? = some (.done record) := by
  simp only [Reporter.reserve, List.getElem?_append]
  split
  · rfl
  · next beyond =>
      rw [List.getElem?_eq_none (Nat.le_of_not_lt beyond)]
      rcases slot - r.slots.length with _ | place <;> simp

/-- The outcome of the job has been weighed, and that is its record. -/
def Job.Weighed (r : Reporter) (job : Job) (record : CaseRecord) : Prop :=
  job.phase = .flagged record ∨
    (job.phase = .submitted ∨ job.phase = .ended) ∧ r.slots[job.slot]? = some (.done record)

namespace Job

variable {r : Reporter} {job : Job} {record : CaseRecord}

theorem not_weighed_of_running {phase : Phase}
    (early : phase = .admitted ∨ (∃ e, phase = .running e) ∨ ∃ record, phase = .recorded record) :
    ¬ { job with phase }.Weighed r record := by
  rintro (flagged | ⟨filed | ended, -⟩)
  · rcases early with rfl | ⟨e, rfl⟩ | ⟨record, rfl⟩ <;> cases flagged
  · rcases early with rfl | ⟨e, rfl⟩ | ⟨record, rfl⟩ <;> cases filed
  · rcases early with rfl | ⟨e, rfl⟩ | ⟨record, rfl⟩ <;> cases ended

private theorem weighed_reserve {test : String} {case : TestCase} :
    job.Weighed (r.reserve test case).1 record ↔ job.Weighed r record := by
  rw [Weighed, Reporter.done_reserve, Weighed]

end Job

namespace Suite

/-- A suite that nobody has aborted. -/
structure Calm (s : Suite) : Prop where
  quiet : s.signal.reason = none
  permitted : s.scheduler.isDenied = false
  numbered : s.jobs.map Job.slot = List.range s.jobs.length
  latest : ∀ {slot : Nat}, s.scheduler.slot? = some slot → s.reporter.len = slot + 1
  level : s.tripped = false → s.reporter.len = s.jobs.length + s.scheduler.slot?.toList.length
  refusing : s.scheduler.isRefusing = true → s.tripped = true
  armed : s.tripped = true → s.config.failFast = true ∧
    ∃ job ∈ s.jobs, ∃ record, job.Weighed s.reporter record ∧ record.outcome.isPass = false
  fires : s.config.failFast = true → ∀ job ∈ s.jobs, ∀ record,
    job.Weighed s.reporter record → record.outcome.isPass = false → s.tripped = true

private theorem calm_ofTests (config : Config) (cores : Nat) (tests : List Test) :
    (ofTests config cores tests).Calm where
  quiet := rfl
  permitted := rfl
  numbered := rfl
  latest held := by cases held
  level _ := rfl
  refusing skips := by cases skips
  armed tripped := by cases tripped
  fires _ job mem := by cases mem

namespace Calm

variable {now : Instant} {s s' : Suite} {move : SuiteMove}

private theorem reschedule (h : s.Calm) (quiet : s'.signal = s.signal)
    (permitted : s'.scheduler.isDenied = false) (config : s'.config = s.config)
    (jobs : s'.jobs = s.jobs) (reporter : s'.reporter = s.reporter)
    (tripped : s'.tripped = s.tripped) (held : s'.scheduler.slot? = s.scheduler.slot?)
    (refusing : s'.scheduler.isRefusing = true → s.tripped = true) : s'.Calm where
  quiet := by rw [quiet, h.quiet]
  permitted := permitted
  numbered := by rw [jobs, h.numbered]
  latest found := by
    rw [reporter]
    exact h.latest (held ▸ found)
  level untripped := by
    rw [reporter, jobs, held]
    exact h.level (tripped ▸ untripped)
  refusing skips := tripped ▸ refusing skips
  armed := by
    rw [tripped, config, jobs, reporter]
    exact h.armed
  fires := by
    rw [tripped, config, jobs, reporter]
    exact h.fires

private theorem mem_modify_self {jobs : List Job} {index : Nat} {job : Job} (phase : Phase)
    (found : jobs[index]? = some job) :
    { job with phase } ∈ jobs.modify index fun j => { j with phase } := by
  refine List.mem_of_getElem? (i := index) ?_
  simp [found]

private theorem mem_modify_of_mem {jobs : List Job} {index : Nat} {job job' : Job} (phase : Phase)
    (distinct : (jobs.map Job.slot).Nodup) (found : jobs[index]? = some job) (mem : job' ∈ jobs) :
    job' = job ∨ job' ∈ (jobs.modify index fun j => { j with phase }) ∧ job'.slot ≠ job.slot := by
  obtain ⟨place, there⟩ := List.mem_iff_getElem?.mp mem
  by_cases here : index = place
  · subst here
    exact .inl (Option.some.inj (there.symm.trans found))
  · refine .inr ⟨List.mem_of_getElem? (i := place) (by simp [there, here]), ?_⟩
    intro same
    have inside : place < (jobs.map Job.slot).length := by
      simpa using (List.getElem?_eq_some_iff.mp there).1
    refine here ((List.getElem?_inj inside distinct).mp ?_).symm
    simp [found, there, same]

theorem advance (h : s.Calm) {index : Nat} {job : Job} {phase : Phase}
    (found : s.jobs[index]? = some job) (signal : s'.signal = s.signal)
    (scheduler : s'.scheduler = s.scheduler) (config : s'.config = s.config)
    (jobs : s'.jobs = s.jobs.modify index fun j => { j with phase })
    (len : s'.reporter.len = s.reporter.len)
    (others : ∀ slot ≠ job.slot, s'.reporter.slots[slot]? = s.reporter.slots[slot]?)
    (rises : s.tripped = true → s'.tripped = true)
    (kept : ∀ record, job.Weighed s.reporter record →
      { job with phase }.Weighed s'.reporter record)
    (armed : s'.tripped = true → s.tripped = true ∨ s.config.failFast = true ∧
      ∃ record, { job with phase }.Weighed s'.reporter record ∧ record.outcome.isPass = false)
    (fires : s.config.failFast = true → ∀ record, { job with phase }.Weighed s'.reporter record →
      record.outcome.isPass = false → s'.tripped = true) : s'.Calm := by
  have slots : s'.jobs.map Job.slot = s.jobs.map Job.slot := by
    rw [jobs, Chronicle.map_slot_modify]
  have length : s'.jobs.length = s.jobs.length := by rw [jobs, List.length_modify]
  have distinct : (s.jobs.map Job.slot).Nodup := h.numbered ▸ List.nodup_range
  have same : ∀ {job' : Job}, job'.slot ≠ job.slot → ∀ record,
      job'.Weighed s'.reporter record ↔ job'.Weighed s.reporter record := by
    intro job' apart record
    rw [Job.Weighed, others job'.slot apart, Job.Weighed]
  have lower : s'.tripped = false → s.tripped = false := by
    intro untripped
    by_contra tripped
    rw [rises (eq_true_of_ne_false tripped)] at untripped
    cases untripped
  refine ⟨by rw [signal, h.quiet], by rw [scheduler, h.permitted], ?_, ?_, ?_, ?_, ?_, ?_⟩
  · rw [slots, length, h.numbered]
  · intro slot held
    rw [len]
    exact h.latest (scheduler ▸ held)
  · intro untripped
    rw [len, length, scheduler]
    exact h.level (lower untripped)
  · intro skips
    exact rises (h.refusing (scheduler ▸ skips))
  · intro tripped
    rw [config, jobs]
    have here := mem_modify_self phase found
    rcases armed tripped with before | ⟨failFast, record, weighed, failed⟩
    · obtain ⟨failFast, job', mem, record, weighed, failed⟩ := h.armed before
      refine ⟨failFast, ?_⟩
      rcases mem_modify_of_mem phase distinct found mem with rfl | ⟨mem, apart⟩
      · exact ⟨_, here, record, kept record weighed, failed⟩
      · exact ⟨job', mem, record, (same apart record).mpr weighed, failed⟩
    · exact ⟨failFast, _, here, record, weighed, failed⟩
  · intro failFast job' mem record weighed failed
    rw [config] at failFast
    rw [jobs] at mem
    rcases Chronicle.mem_modify_phase distinct found mem with rfl | ⟨mem, apart⟩
    · exact fires failFast record weighed failed
    · exact rises (h.fires failFast job' mem record ((same apart record).mp weighed) failed)

private theorem takes (h : s.Calm) (free : s.scheduler = .choose) (test : Test) (case : TestCase)
    (plan : List (Test × Expansion)) :
    { s with
      reporter := (s.reporter.reserve test.name case).1
      plan
      scheduler := .screen ⟨s.reporter.len, test, case⟩ }.Calm := by
  refine ⟨h.quiet, rfl, h.numbered, ?_, ?_,
    fun refuses => absurd refuses Bool.false_ne_true, ?_, ?_⟩
  · intro slot held
    obtain rfl : s.reporter.len = slot := Option.some.inj held
    exact s.reporter.len_reserve test.name case
  · intro untripped
    have level := h.level untripped
    rw [free] at level
    rw [Reporter.len_reserve, level]
    rfl
  · intro tripped
    obtain ⟨failFast, job, mem, record, before, failed⟩ := h.armed tripped
    exact ⟨failFast, job, mem, record, Job.weighed_reserve.mpr before, failed⟩
  · intro failFast job mem record after failed
    exact h.fires failFast job mem record (Job.weighed_reserve.mp after) failed

private theorem engages (h : s.Calm) {k : Candidate} (stood : s.scheduler = .reviewTrip k true)
    (untripped : s.tripped = false) : (s.engage k).Calm := by
  have held : s.scheduler.slot? = some k.slot := by rw [stood]; rfl
  have latest := h.latest held
  have level := h.level untripped
  rw [held] at level
  have next : k.slot = s.jobs.length := by
    simp only [Option.toList_some, List.length_singleton] at level
    omega
  refine ⟨h.quiet, rfl, ?_, by simp [engage, Scheduler.slot?], ?_,
    fun refuses => absurd refuses Bool.false_ne_true, ?_, ?_⟩
  · simp only [engage, List.map_append, List.map_cons, List.map_nil, List.length_append,
      List.length_singleton]
    rw [h.numbered, List.range_succ, next]
  · intro _
    simp only [engage, List.length_append, List.length_singleton]
    rw [level]
    rfl
  · intro tripped
    rw [show s.tripped = true from tripped] at untripped
    cases untripped
  · intro failFast job mem record weighed failed
    rcases List.mem_append.mp mem with mem | mem
    · exact h.fires failFast job mem record weighed failed
    · rw [List.mem_singleton.mp mem] at weighed
      rcases weighed with flagged | ⟨filed | ended, -⟩
      · cases flagged
      · cases filed
      · cases ended

private theorem fills (h : s.Calm) {slot : Nat} {record : CaseRecord} {permit : Bool}
    (stood : s.scheduler = .submit slot record permit)
    (jobless : ∀ job ∈ s.jobs, job.slot ≠ slot) :
    { s with
      reporter := ⟨s.reporter.slots.set slot (.done record)⟩
      permits := s.permits + permit.toNat
      scheduler := .choose }.Calm := by
  have tripped := h.refusing (by rw [stood]; rfl)
  have same : ∀ job ∈ s.jobs, ∀ record',
      job.Weighed ⟨s.reporter.slots.set slot (.done record)⟩ record' ↔
        job.Weighed s.reporter record' := by
    intro job mem record'
    rw [Job.Weighed, List.getElem?_set_ne (jobless job mem).symm, Job.Weighed]
  refine ⟨h.quiet, rfl, h.numbered, by simp [Scheduler.slot?], ?_,
    fun refuses => absurd refuses Bool.false_ne_true, ?_, ?_⟩
  · intro untripped
    rw [tripped] at untripped
    cases untripped
  · intro _
    obtain ⟨failFast, job, mem, record', weighed, failed⟩ := h.armed tripped
    exact ⟨failFast, job, mem, record', (same job mem record').mpr weighed, failed⟩
  · intro _ _ _ _ _ _
    exact tripped

private theorem proceeds (h : s.Calm) {index : Nat} {job : Job} {phase : Phase}
    (found : s.jobs[index]? = some job) (signal : s'.signal = s.signal)
    (scheduler : s'.scheduler = s.scheduler) (config : s'.config = s.config)
    (jobs : s'.jobs = s.jobs.modify index fun j => { j with phase })
    (reporter : s'.reporter = s.reporter) (tripped : s'.tripped = s.tripped)
    (before : ∀ record, ¬job.Weighed s.reporter record)
    (after : ∀ record, ¬{ job with phase }.Weighed s.reporter record) : s'.Calm := by
  refine h.advance found signal scheduler config jobs (by rw [reporter]) ?_ ?_ ?_ ?_ ?_
  · exact fun _ _ => by rw [reporter]
  · exact fun before => tripped.trans before
  · exact fun record weighed => absurd weighed (before record)
  · exact fun after => .inl (tripped.symm.trans after)
  · intro _ record weighed
    rw [reporter] at weighed
    exact absurd weighed (after record)

private theorem flags (h : s.Calm) {index : Nat} {job : Job} {record : CaseRecord}
    (found : s.jobs[index]? = some job) (stood : job.phase = .recorded record) :
    ({ s with tripped := s.tripped || (s.config.failFast && !record.outcome.isPass) }.setPhase
      index (.flagged record)).Calm := by
  refine h.advance found rfl rfl rfl rfl rfl (fun _ _ => rfl) ?_ ?_ ?_ ?_
  · intro tripped
    simp [setPhase, tripped]
  · intro record weighed
    exact absurd weighed (Job.not_weighed_of_running (.inr (.inr ⟨_, stood⟩)))
  · intro tripped
    have cause : s.tripped = true ∨ s.config.failFast = true ∧ record.outcome.isPass = false := by
      simpa [setPhase] using tripped
    exact cause.imp_right fun cause => ⟨cause.1, record, .inl rfl, cause.2⟩
  · intro failFast record' weighed failed
    rcases weighed with flagged | ⟨filed | ended, -⟩
    · cases flagged
      simp [setPhase, failFast, failed]
    · cases filed
    · cases ended

private theorem submits (h : s.Calm) {index : Nat} {job : Job} {record : CaseRecord}
    (found : s.jobs[index]? = some job) (stood : job.phase = .flagged record)
    (inside : job.slot < s.reporter.len) :
    ({ s with reporter := ⟨s.reporter.slots.set job.slot (.done record)⟩ }.setPhase index
      .submitted).Calm := by
  have filed : (s.reporter.slots.set job.slot (.done record))[job.slot]? =
      some (.done record) := List.getElem?_set_self inside
  refine h.advance found rfl rfl rfl rfl (List.length_set ..) ?_ id ?_ .inl ?_
  · intro slot apart
    exact List.getElem?_set_ne apart.symm
  · rintro record' (flagged | ⟨filed' | ended, -⟩)
    · cases stood.symm.trans flagged
      exact .inr ⟨.inl rfl, filed⟩
    · cases stood.symm.trans filed'
    · cases stood.symm.trans ended
  · rintro failFast record' (flagged | ⟨-, there⟩) failed
    · cases flagged
    · cases filed.symm.trans there
      exact h.fires failFast job (List.mem_of_getElem? found) record (.inl stood) failed

private theorem frees (h : s.Calm) {index : Nat} {job : Job} (found : s.jobs[index]? = some job)
    (stood : job.phase = .submitted) :
    ({ s with permits := s.permits + 1 }.setPhase index .ended).Calm := by
  refine h.advance found rfl rfl rfl rfl rfl (fun _ _ => rfl) id ?_ .inl ?_
  · rintro record (flagged | ⟨-, there⟩)
    · cases stood.symm.trans flagged
    · exact .inr ⟨.inr rfl, there⟩
  · rintro failFast record (flagged | ⟨-, there⟩) failed
    · cases flagged
    · exact h.fires failFast job (List.mem_of_getElem? found) record
        (.inr ⟨.inl stood, there⟩) failed

private theorem turn (h : s.Calm) (turn : Turn now s move s')
    (calm : ∀ reason, move ≠ .abort reason) :
    s'.Calm := by
  have spares : ∀ {P : Prop}, false = true → P := fun refuses => absurd refuses Bool.false_ne_true
  cases turn with
  | stays => exact h
  | aborts reason => exact absurd rfl (calm reason)
  | gives lease => exact h.reschedule rfl h.permitted rfl rfl rfl rfl rfl h.refusing
  | drains plan free => exact h.reschedule rfl rfl rfl rfl rfl rfl (by rw [free]) spares
  | joins free => exact h.reschedule rfl rfl rfl rfl rfl rfl (by rw [free]; rfl) spares
  | takes test case plan free => exact h.takes free test case plan
  | screens stood quiet => exact h.reschedule rfl rfl rfl rfl rfl rfl (by rw [stood]; rfl) spares
  | queues stood untripped => exact h.reschedule rfl rfl rfl rfl rfl rfl (by rw [stood]; rfl) spares
  | yields stood aborted =>
      rw [h.quiet] at aborted
      cases aborted
  | enters stood free => exact h.reschedule rfl rfl rfl rfl rfl rfl (by rw [stood]; rfl) spares
  | reviews stood quiet =>
      have permitted := h.permitted
      rw [stood] at permitted
      exact h.reschedule rfl permitted rfl rfl rfl rfl (by rw [stood]; rfl) spares
  | engages stood untripped => exact h.engages stood untripped
  | refuses held permits cause =>
      refine h.reschedule rfl rfl rfl rfl rfl rfl held.symm fun _ => ?_
      cases cause with
      | aborted stood told => cases h.quiet.symm.trans told
      | tripped stood trips => exact trips
      | denied stood =>
          have permitted := h.permitted
          rw [stood] at permitted
          cases permitted
  | notes record stood =>
      refine h.reschedule rfl rfl rfl rfl rfl rfl (by rw [stood]; rfl) fun _ => ?_
      exact h.refusing (by rw [stood]; rfl)
  | fills stood jobless => exact h.fills stood jobless
  | ends result stood => exact h.reschedule rfl rfl rfl rfl rfl rfl (by rw [stood]; rfl) spares
  | begins found stood =>
      exact h.proceeds found rfl rfl rfl rfl rfl rfl
        (fun _ => Job.not_weighed_of_running (.inl stood))
        (fun _ => Job.not_weighed_of_running (.inr (.inl ⟨_, rfl⟩)))
  | plays move found stood =>
      exact h.proceeds found rfl rfl rfl rfl rfl rfl
        (fun _ => Job.not_weighed_of_running (.inr (.inl ⟨_, stood⟩)))
        (fun _ => Job.not_weighed_of_running (.inr (.inl ⟨_, rfl⟩)))
  | records found stood verdict =>
      exact h.proceeds found rfl rfl rfl rfl rfl rfl
        (fun _ => Job.not_weighed_of_running (.inr (.inl ⟨_, stood⟩)))
        (fun _ => Job.not_weighed_of_running (.inr (.inr ⟨_, rfl⟩)))
  | flags found stood => exact h.flags found stood
  | submits found stood inside => exact h.submits found stood inside
  | frees found stood => exact h.frees found stood

end Calm

/-! ## The flag -/

theorem Turn.frozen {now : Instant} {s s' : Suite} {move : SuiteMove} (turn : Turn now s move s')
    (tripped : s.tripped = true) :
    s'.tripped = true ∧ s'.jobs.map Job.slot = s.jobs.map Job.slot := by
  cases turn with
  | engages stood untripped =>
      rw [tripped] at untripped
      cases untripped
  | begins | plays | records | submits | frees =>
      exact ⟨tripped, Chronicle.map_slot_modify _ _ _⟩
  | flags =>
      refine ⟨?_, Chronicle.map_slot_modify _ _ _⟩
      simp [setPhase, tripped]
  | stays | drains | joins | takes | screens | queues | yields | enters | reviews | refuses | notes
  | fills | ends | aborts | gives => exact ⟨tripped, rfl⟩

private theorem Turn.trips {p : Nat} {now : Instant} {s s' : Suite} {move : SuiteMove}
    (turn : Turn now s move s') (balanced : s.Balanced p) (untripped : s.tripped = false)
    (tripped : s'.tripped = true) :
    ∃ index job record, move = .advance index ∧ s.jobs[index]? = some job ∧
      job.phase = .recorded record ∧ record.outcome.isPass = false ∧
      (s.jobs.eraseIdx index).countP Job.isLive + 1 ≤ p := by
  have fixed : s'.tripped ≠ s.tripped := by
    rw [untripped, tripped]
    exact Bool.noConfusion
  cases turn with
  | @flags index job record found stood =>
      have failed : s.config.failFast = true ∧ record.outcome.isPass = false := by
        simpa [setPhase, untripped] using tripped
      refine ⟨index, job, record, rfl, found, stood, failed.2, ?_⟩
      obtain ⟨inside, rfl⟩ := List.getElem?_eq_some_iff.mp found
      have counted := (List.getElem_cons_eraseIdx_perm inside).countP_eq Job.isLive
      rw [List.countP_cons_of_pos (by rw [Job.isLive, stood]; rfl)] at counted
      unfold Balanced at balanced
      omega
  | stays | drains | joins | takes | screens | queues | yields | enters | reviews | engages
  | refuses | notes | fills | ends | begins | plays | records | submits | frees | aborts
  | gives => exact absurd rfl fixed

/-! ## One case at a time -/

def Solo (s : Suite) : Prop :=
  ∀ (index : Nat) (job : Job), s.jobs[index]? = some job → index + 1 < s.jobs.length →
    job.phase = .ended ∧ ∃ record, s.reporter.slots[job.slot]? = some (.done record) ∧
      record.outcome.isPass = true

namespace Solo

variable {now : Instant} {s s' : Suite} {move : SuiteMove}

private theorem advance (h : s.Solo) (calm : s.Calm) {index : Nat} {job : Job} {phase : Phase}
    (found : s.jobs[index]? = some job) (live : job.phase ≠ .ended)
    (jobs : s'.jobs = s.jobs.modify index fun j => { j with phase })
    (others : ∀ slot ≠ job.slot, s'.reporter.slots[slot]? = s.reporter.slots[slot]?) :
    s'.Solo := by
  intro place job' there before
  rw [jobs, List.length_modify] at before
  rw [jobs, List.getElem?_modify] at there
  by_cases here : index = place
  · subst here
    exact absurd (h index job found before).1 live
  · simp only [here, if_false, Option.map_eq_map, Option.map_id'] at there
    obtain ⟨ended, record, filed, passed⟩ := h place job' there before
    have apart : job'.slot ≠ job.slot := by
      intro same
      have distinct : (s.jobs.map Job.slot).Nodup := calm.numbered ▸ List.nodup_range
      have inside : place < (s.jobs.map Job.slot).length := by
        simpa using (List.getElem?_eq_some_iff.mp there).1
      refine here ((List.getElem?_inj inside distinct).mp ?_).symm
      simp [found, there, same]
    exact ⟨ended, record, (others job'.slot apart).trans filed, passed⟩

private theorem turn (h : s.Solo) (calm : s.Calm) (balanced : s.Balanced 1)
    (failFast : s.config.failFast = true)
    (filed : ∀ job ∈ s.jobs, job.phase = .ended → ∃ record,
      s.reporter.slots[job.slot]? = some (.done record))
    (turn : Turn now s move s') : s'.Solo := by
  cases turn with
  | stays | drains | joins | screens | queues | yields | enters | reviews | refuses | notes | ends
  | aborts | gives => exact h
  | takes test case plan free =>
      intro index job found before
      obtain ⟨ended, record, there, passed⟩ := h index job found before
      have inside := (List.getElem?_eq_some_iff.mp there).1
      exact ⟨ended, record, (List.getElem?_append_left inside).trans there, passed⟩
  | fills stood jobless =>
      intro index job found before
      obtain ⟨ended, record, there, passed⟩ := h index job found before
      have apart := jobless job (List.mem_of_getElem? found)
      exact ⟨ended, record, (List.getElem?_set_ne apart.symm).trans there, passed⟩
  | @engages k stood untripped =>
      -- The scheduler has the only permit, so every other case has ended, and passed.
      intro index job found before
      simp only [engage, List.length_append, List.length_singleton] at before
      simp only [engage, List.getElem?_append_left (Nat.lt_of_add_lt_add_right before)] at found
      have mem := List.mem_of_getElem? found
      have nobody : s.jobs.countP Job.isLive = 0 := by
        unfold Balanced at balanced
        rw [stood] at balanced
        simp only [Scheduler.permits, Bool.toNat_true] at balanced
        omega
      have ended : job.phase = .ended :=
        Chronicle.phase_of_isEnded
          (by simpa [Job.isLive] using List.countP_eq_zero.mp nobody job mem)
      obtain ⟨record, there⟩ := filed job mem ended
      refine ⟨ended, record, there, ?_⟩
      by_contra failed
      have tripped := calm.fires failFast job mem record (.inr ⟨.inr ended, there⟩)
        (eq_false_of_ne_true failed)
      rw [tripped] at untripped
      cases untripped
  | begins found stood | plays move found stood | records found stood verdict
  | flags found stood | frees found stood =>
      exact h.advance calm found (by simp [stood]) rfl fun _ _ => rfl
  | submits found stood inside =>
      exact h.advance calm found (by simp [stood]) rfl
        fun slot apart => List.getElem?_set_ne apart.symm

end Solo

theorem Turn.config_eq {now : Instant} {s s' : Suite} {move : SuiteMove}
    (turn : Turn now s move s') : s'.config = s.config := by
  cases turn <;> rfl

end Suite

namespace Chronicle

variable {gen : List (Test × TestCase)} {c : Chronicle}

private theorem Sound.filed (sound : Sound gen c) {job : Job} (mem : job ∈ c.suite.jobs)
    (ended : job.phase = .ended) :
    ∃ record, c.suite.reporter.slots[job.slot]? = some (.done record) := by
  obtain ⟨record, there, -⟩ := sound.origin_of_job mem ended
  exact ⟨record, there⟩

/-- The frozen jobs stay the same, whatever comes. -/
theorem Sound.frozen (sound : Sound gen c) (tripped : c.suite.tripped = true)
    (moves : List (Instant × SuiteMove)) :
    (c.run moves).suite.jobs.map Job.slot = c.suite.jobs.map Job.slot := by
  induction moves generalizing c with
  | nil => rfl
  | cons move moves ih =>
      obtain ⟨still, same⟩ := (sound.turn move.1 move.2).frozen tripped
      exact (ih (sound.step move.1 move.2) still).trans same

/-- A run of a suite that nobody has aborted. -/
structure Steady (config : Config) (cores : Nat) (gen : List (Test × TestCase)) (c : Chronicle) :
    Prop where
  sound : Sound gen c
  config_eq : c.suite.config = config
  calm : c.suite.Calm
  balanced : c.suite.Balanced (config.permits cores)
  solo : config.failFast = true → config.permits cores = 1 → c.suite.Solo

namespace Steady

variable {config : Config} {cores : Nat}

private theorem step (h : Steady config cores gen c) (now : Instant) {move : SuiteMove}
    (calm : ∀ reason, move ≠ .abort reason) : Steady config cores gen (c.step now move) := by
  have turn := h.sound.turn now move
  refine ⟨h.sound.step now move, turn.config_eq.trans h.config_eq, h.calm.turn turn calm,
    h.balanced.turn turn, ?_⟩
  intro failFast alone
  have balanced := h.balanced
  rw [alone] at balanced
  exact (h.solo failFast alone).turn h.calm balanced (h.config_eq ▸ failFast)
    (fun job mem ended => h.sound.filed mem ended) turn

theorem run (h : Steady config cores gen c) {moves : List (Instant × SuiteMove)}
    (calm : ∀ move ∈ moves, ∀ reason, move.2 ≠ .abort reason) :
    Steady config cores gen (c.run moves) := by
  induction moves generalizing c with
  | nil => exact h
  | cons move moves ih =>
      refine ih (h.step move.1 (calm move List.mem_cons_self)) ?_
      intro later mem
      exact calm later (List.mem_cons_of_mem move mem)

end Steady

theorem steady_ofTests (config : Config) (cores : Nat) (tests : List Test) :
    Steady config cores (generation tests) (ofTests config cores tests) := by
  refine ⟨sound_ofTests config cores tests, rfl, Suite.calm_ofTests config cores tests,
    Suite.balanced_ofTests config cores tests, ?_⟩
  intro _ _ index job found
  simp [ofTests, Suite.ofTests] at found

/-! ## The report -/

theorem Sound.begun_of_ended (sound : Sound gen c) {job : Job} (mem : job ∈ c.suite.jobs)
    (ended : job.phase = .ended) : c.begun.count job.slot = 1 := by
  obtain ⟨-, stands⟩ := sound.jobs job mem
  cases stands with
  | submitted record phase filled once => exact once
  | admitted phase | running phase => cases phase.symm.trans ended
  | recorded record phase => rcases phase with phase | phase <;> cases phase.symm.trans ended

theorem kind_ne_skipped_of_closed {slot : Nat} {test : Test} {case : TestCase}
    {record : CaseRecord} (closed : (c.execution slot test case).stage = .closed record) :
    record.outcome.kind ≠ .skipped :=
  (Execution.verdict_of_closed c.suite.config test case slot
    (fun _ _ _ _ => True.intro) closed).kind_ne_skipped

theorem Origin.kind_ne_skipped {slot : Nat} {test : Test} {case : TestCase} {record : CaseRecord}
    (origin : Origin c slot test case record) (once : c.begun.count slot = 1) :
    record.outcome.kind ≠ .skipped := by
  cases origin with
  | executed _ closed => exact kind_ne_skipped_of_closed closed
  | panicked => nofun
  | skipped reason never =>
      rw [never] at once
      cases once

structure Reported (c : Chronicle) (report : Report) : Prop where
  ended : ∀ job ∈ c.suite.jobs, job.phase = .ended
  idle : c.suite.scheduler.slot? = none
  told : report.records.map Slot.done = c.suite.reporter.slots

theorem Sound.reported (sound : Sound gen c) {report : Report}
    (done : c.suite.result? = some (.ok report)) : Reported c report := by
  have order := sound.scheduler
  have scheduler := Suite.scheduler_of_result? done
  rw [scheduler] at order
  obtain ⟨-, ended, elapsed, same⟩ := order
  have idle : c.suite.scheduler.slot? = none := congrArg Scheduler.slot? scheduler
  cases same
  exact ⟨ended, idle, Reporter.map_done_records (sound.pending_eq_zero idle ended)⟩

theorem Reported.getElem?_iff {report : Report} (reported : Reported c report) {slot : Nat}
    {record : CaseRecord} : c.suite.reporter.slots[slot]? = some (.done record) ↔
      report.records[slot]? = some record := by
  rw [← reported.told, List.getElem?_map]
  cases report.records[slot]? <;> simp

/-! ### Jobs that have the first slots -/

section Numbered

variable {report : Report} (sound : Sound gen c)
  (numbered : c.suite.jobs.map Job.slot = List.range c.suite.jobs.length)

include numbered in
theorem job_at {slot : Nat} (inside : slot < c.suite.jobs.length) :
    ∃ job, c.suite.jobs[slot]? = some job ∧ job.slot = slot := by
  refine ⟨c.suite.jobs[slot], List.getElem?_eq_getElem inside, ?_⟩
  have numbered := congrArg (fun slots => slots[slot]?) numbered
  simpa [inside] using numbered

include sound numbered

theorem Sound.executed (reported : Reported c report) {slot : Nat}
    (inside : slot < c.suite.jobs.length) :
    c.begun.count slot = 1 ∧
      ∃ record, report.records[slot]? = some record ∧ record.outcome.kind ≠ .skipped := by
  obtain ⟨job, found, rfl⟩ := job_at numbered inside
  have mem := List.mem_of_getElem? found
  have ended := reported.ended job mem
  have once := sound.begun_of_ended mem ended
  obtain ⟨record, filed, -, -, origin⟩ := sound.origin_of_job mem ended
  exact ⟨once, record, reported.getElem?_iff.mp filed, origin.kind_ne_skipped once⟩

private theorem Sound.skipped (reported : Reported c report) {slot : Nat}
    (beyond : c.suite.jobs.length ≤ slot) :
    c.begun.count slot = 0 ∧
      ∀ record, report.records[slot]? = some record → record.outcome.kind = .skipped := by
  have jobless : ∀ job ∈ c.suite.jobs, job.slot ≠ slot := by
    intro job mem same
    have mem' := List.mem_map_of_mem (f := Job.slot) mem
    rw [numbered, same, List.mem_range] at mem'
    omega
  refine ⟨(sound.unplayed slot jobless).1, ?_⟩
  intro record found
  have filed := reported.getElem?_iff.mpr found
  rcases sound.filled slot (List.getElem?_eq_some_iff.mp filed).1 with
    ⟨job, mem, same⟩ | held | ⟨test, case, reason, -, done⟩
  · exact absurd same (jobless job mem)
  · cases reported.idle.symm.trans held
  · cases filed.symm.trans done
    rfl

private theorem Sound.length_jobs_le (reported : Reported c report) :
    c.suite.jobs.length ≤ report.records.length := by
  cases count : c.suite.jobs.length with
  | zero => exact Nat.zero_le _
  | succ last =>
      obtain ⟨-, record, found, -⟩ :=
        sound.executed numbered reported (show last < c.suite.jobs.length by omega)
      exact (List.getElem?_eq_some_iff.mp found).1

theorem Sound.parts (reported : Reported c report) :
    (∀ record ∈ report.records.take c.suite.jobs.length, record.outcome.kind ≠ .skipped) ∧
      (∀ record ∈ report.records.drop c.suite.jobs.length, record.outcome.kind = .skipped) ∧
      ∀ slot, c.begun.count slot =
        if slot < (report.records.take c.suite.jobs.length).length then 1 else 0 := by
  refine ⟨?_, ?_, ?_⟩
  · intro record mem
    obtain ⟨slot, found⟩ := List.mem_iff_getElem?.mp mem
    have inside := (List.getElem?_eq_some_iff.mp found).1
    rw [List.length_take] at inside
    rw [List.getElem?_take_of_lt (by omega)] at found
    obtain ⟨-, record', found', kind⟩ :=
      sound.executed numbered reported (show slot < c.suite.jobs.length by omega)
    cases found.symm.trans found'
    exact kind
  · intro record mem
    obtain ⟨place, found⟩ := List.mem_iff_getElem?.mp mem
    rw [List.getElem?_drop] at found
    exact (sound.skipped numbered reported (Nat.le_add_right _ place)).2 record found
  · intro slot
    rw [List.length_take, Nat.min_eq_left (sound.length_jobs_le numbered reported)]
    split
    · next inside => exact (sound.executed numbered reported inside).1
    · next beyond => exact (sound.skipped numbered reported (Nat.le_of_not_lt beyond)).1

end Numbered

namespace Steady

variable {config : Config} {cores : Nat} {report : Report}

private theorem passed (h : Steady config cores gen c) (reported : Reported c report)
    (failFast : config.failFast = true) (alone : config.permits cores = 1) {slot : Nat}
    (before : slot + 1 < c.suite.jobs.length) {record : CaseRecord}
    (found : report.records[slot]? = some record) : record.outcome.isPass = true := by
  obtain ⟨job, there, rfl⟩ := job_at h.calm.numbered (Nat.lt_of_succ_lt before)
  obtain ⟨-, record', filed, passed⟩ := h.solo failFast alone job.slot job there before
  cases (reported.getElem?_iff.mp filed).symm.trans found
  exact passed

theorem length_eq_of_untripped (h : Steady config cores gen c) (reported : Reported c report)
    (untripped : c.suite.tripped = false) : report.records.length = c.suite.jobs.length := by
  have level := h.calm.level untripped
  rw [reported.idle] at level
  have told := congrArg List.length reported.told
  rw [List.length_map] at told
  exact told.trans level

theorem exists_failed (h : Steady config cores gen c) (reported : Reported c report)
    (tripped : c.suite.tripped = true) :
    config.failFast = true ∧
      ∃ record ∈ report.records.take c.suite.jobs.length, record.outcome.isPass = false := by
  obtain ⟨failFast, job, mem, record, weighed, failed⟩ := h.calm.armed tripped
  refine ⟨h.config_eq ▸ failFast, record, ?_, failed⟩
  have ended := reported.ended job mem
  rcases weighed with flagged | ⟨-, filed⟩
  · cases flagged.symm.trans ended
  · have inside : job.slot < c.suite.jobs.length := by
      have mem' := List.mem_map_of_mem (f := Job.slot) mem
      rwa [h.calm.numbered, List.mem_range] at mem'
    refine List.mem_of_getElem? (i := job.slot) ?_
    rw [List.getElem?_take_of_lt inside]
    exact reported.getElem?_iff.mp filed

/-- With one permit, at most one executed case has not passed, and it was the last one. -/
theorem passed_then_odd (h : Steady config cores gen c) (reported : Reported c report)
    (failFast : config.failFast = true) (alone : config.permits cores = 1) :
    ∃ passed odd, report.records.take c.suite.jobs.length = passed ++ odd ∧ odd.length ≤ 1 ∧
      (∀ record ∈ passed, record.outcome.isPass = true) ∧
      ∀ record ∈ odd, record.outcome.isPass = false := by
  have early : ∀ record ∈ report.records.take (c.suite.jobs.length - 1),
      record.outcome.isPass = true := by
    intro record mem
    obtain ⟨slot, found⟩ := List.mem_iff_getElem?.mp mem
    have before := (List.getElem?_eq_some_iff.mp found).1
    rw [List.length_take] at before
    rw [List.getElem?_take_of_lt (by omega)] at found
    exact h.passed reported failFast alone (by omega) found
  cases count : c.suite.jobs.length with
  | zero => exact ⟨[], [], by simp⟩
  | succ last =>
      rw [count, Nat.add_sub_cancel] at early
      obtain ⟨-, record, found, -⟩ :=
        h.sound.executed h.calm.numbered reported (show last < c.suite.jobs.length by omega)
      have split : report.records.take (last + 1) = report.records.take last ++ [record] := by
        rw [List.take_add_one, found]
        rfl
      cases outcome : record.outcome.isPass with
      | false => exact ⟨_, [record], split, by simp, early, by simp [outcome]⟩
      | true =>
          refine ⟨_, [], (List.append_nil _).symm, by simp, ?_, nofun⟩
          rw [split]
          intro other mem
          rcases List.mem_append.mp mem with mem | mem
          · exact early other mem
          · rw [List.mem_singleton.mp mem]
            exact outcome

end Steady

/-- Whatever the order of moves, as long as nobody aborts the suite: the cases that were
executed come first in the report and the skipped ones after them.  A case is skipped only with
fail-fast on and after one that was executed and did not pass; with one permit that is the last
executed case, and all before it passed.  A case that did not pass has set the flag before its
record is submitted and its permit returned.  When the flag is set at most `p - 1` other cases
have a permit, and from then on no case is admitted. -/
theorem skipped_of_run (config : Config) (cores : Nat) (tests : List Test)
    (moves : List (Instant × SuiteMove))
    (calm : ∀ move ∈ moves, ∀ reason, move.2 ≠ .abort reason) :
    let c := (ofTests config cores tests).run moves
    let p := config.permits cores
    (∀ report, c.suite.result? = some (.ok report) → ∃ executed skipped,
      report.records = executed ++ skipped ∧
      (∀ record ∈ executed, record.outcome.kind ≠ .skipped) ∧
      (∀ record ∈ skipped, record.outcome.kind = .skipped) ∧
      (∀ slot, c.begun.count slot = if slot < executed.length then 1 else 0) ∧
      (skipped ≠ [] → config.failFast = true ∧
        ∃ record ∈ executed, record.outcome.isPass = false) ∧
      (config.failFast = true → p = 1 → ∃ passed odd, executed = passed ++ odd ∧
        odd.length ≤ 1 ∧ (∀ record ∈ passed, record.outcome.isPass = true) ∧
        ∀ record ∈ odd, record.outcome.isPass = false)) ∧
    (config.failFast = true → ∀ job ∈ c.suite.jobs, ∀ record,
      job.Weighed c.suite.reporter record → record.outcome.isPass = false →
        c.suite.tripped = true) ∧
    (∀ now move, c.suite.tripped = false → (c.step now move).suite.tripped = true →
      ∃ index job record, move = .advance index ∧ c.suite.jobs[index]? = some job ∧
        job.phase = .recorded record ∧ record.outcome.isPass = false ∧
        (c.suite.jobs.eraseIdx index).countP Job.isLive + 1 ≤ p) ∧
    (c.suite.tripped = true → ∀ more,
      (c.run more).suite.jobs.map Job.slot = c.suite.jobs.map Job.slot) := by
  intro c p
  have steady := (steady_ofTests config cores tests).run calm
  refine ⟨?_, ?_, ?_, fun tripped more => steady.sound.frozen tripped more⟩
  · intro report done
    have reported := steady.sound.reported done
    obtain ⟨ran, refused, counted⟩ := steady.sound.parts steady.calm.numbered reported
    refine ⟨_, _, (List.take_append_drop c.suite.jobs.length report.records).symm, ran, refused,
      counted, ?_, fun failFast alone => steady.passed_then_odd reported failFast alone⟩
    intro rest
    cases tripped : c.suite.tripped with
    | true => exact steady.exists_failed reported tripped
    | false =>
        have all := steady.length_eq_of_untripped reported tripped
        exact absurd (List.drop_eq_nil_of_le (Nat.le_of_eq all)) rest
  · intro failFast
    rw [← steady.config_eq] at failFast
    exact steady.calm.fires failFast
  · intro now move untripped tripped
    exact (steady.sound.turn now move).trips steady.balanced untripped tripped

/-- Two cases, neither of which gets past its template. -/
def hopeless : List Test :=
  [{ Test.lone .idle with template := fun _ => .error (.assertion "no") },
    { Test.lone .idle with template := fun _ => .error (.assertion "no") }]

/-- The scheduler admits the first case; its job does all it can; the scheduler goes on. -/
def inTurn : List SuiteMove :=
  List.replicate 6 .schedule ++ [.advance 0, .play 0 .enter] ++ List.replicate 4 (.advance 0) ++
    List.replicate 9 .schedule

def oneAtATime : Config := { Config.standard with parallelism := some 1, failFast := true }

theorem skipped_of_hopeless :
    (∀ move ∈ inTurn.map fun move => (0, move), ∀ reason, move.2 ≠ .abort reason) ∧
      let c := (ofTests oneAtATime 4 hopeless).run (inTurn.map fun move => (0, move))
      ∃ report, c.suite.result? = some (.ok report) ∧
        report.records.map (fun record => record.outcome.kind) = [.fail, .skipped] ∧
        (∃ executed skipped, report.records = executed ++ skipped ∧ skipped ≠ [] ∧
          ∃ record ∈ executed, record.outcome.isPass = false) ∧
        ∀ more, (c.run more).suite.jobs.map Job.slot = [0] := by
  have calm : ∀ move ∈ inTurn.map fun move => ((0 : Instant), move), ∀ reason,
      move.2 ≠ .abort reason := by
    simp [inTurn]
  refine ⟨calm, ?_⟩
  obtain ⟨reports, -, -, frozen⟩ := skipped_of_run oneAtATime 4 hopeless _ calm
  obtain ⟨report, done, kinds⟩ : ∃ report,
      ((ofTests oneAtATime 4 hopeless).run (inTurn.map fun move => (0, move))).suite.result? =
        some (.ok report) ∧
      report.records.map (fun record => record.outcome.kind) = [.fail, .skipped] := ⟨_, rfl, rfl⟩
  refine ⟨report, done, kinds, ?_, fun more => (frozen rfl more).trans rfl⟩
  obtain ⟨executed, skipped, split, ran, -, -, cause, -⟩ := reports report done
  have rest : skipped ≠ [] := by
    rintro rfl
    have mem : OutcomeKind.skipped ∈ report.records.map fun record => record.outcome.kind := by
      simp [kinds]
    rw [split, List.append_nil] at mem
    obtain ⟨record, mem, kind⟩ := List.mem_map.mp mem
    exact ran record mem kind
  exact ⟨executed, skipped, split, rest, (cause rest).2⟩

end Chronicle

end Interop
