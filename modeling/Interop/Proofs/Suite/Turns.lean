import Interop.Proofs.Suite.Ending

/-!
# The turns of a suite

`Suite.Turn` lists once what a move can do to a suite in which no call of the reporter fails.
From it follows where the permits are: each is free, in the hands of the scheduler, or with a
job that has not ended.
-/

namespace Interop

/-- The permits in the hands of the scheduler. -/
def Scheduler.permits : Scheduler → Nat
  | .review _ permit | .reviewTrip _ permit | .skip _ _ permit | .submit _ _ permit =>
    permit.toNat
  | _ => 0

def Job.isLive (job : Job) : Bool := !job.phase.isEnded

namespace Suite

inductive Refuses (s : Suite) : String → Prop
  | aborted {k : Candidate} {reason : AbortReason}
      (stood : s.scheduler = .screen k ∨ ∃ permit, s.scheduler = .review k permit)
      (told : s.signal.reason = some reason) : Refuses s reason.skipReason
  | tripped {k : Candidate}
      (stood : s.scheduler = .screenTrip k ∨ ∃ permit, s.scheduler = .reviewTrip k permit)
      (trips : s.tripped = true) : Refuses s failFastReason
  | denied {k : Candidate} (stood : s.scheduler = .reviewTrip k false) : Refuses s abortedReason

inductive Turn (now : Instant) (s : Suite) : SuiteMove → Suite → Prop
  | stays (move : SuiteMove) : Turn now s move s
  | drains (plan : List (Test × Expansion)) (free : s.scheduler = .choose) :
      Turn now s .schedule { s with plan, scheduler := .choose }
  | joins (free : s.scheduler = .choose) : Turn now s .schedule { s with scheduler := .join }
  | takes (test : Test) (case : TestCase) (plan : List (Test × Expansion))
      (free : s.scheduler = .choose) :
      Turn now s .schedule
        { s with
          reporter := (s.reporter.reserve test.name case).1
          plan
          scheduler := .screen ⟨s.reporter.len, test, case⟩ }
  | screens {k : Candidate} (stood : s.scheduler = .screen k) (quiet : s.signal.reason = none) :
      Turn now s .schedule { s with scheduler := .screenTrip k }
  | queues {k : Candidate} (stood : s.scheduler = .screenTrip k) (untripped : s.tripped = false) :
      Turn now s .schedule { s with scheduler := .queue k }
  | yields {k : Candidate} (stood : s.scheduler = .queue k)
      (aborted : s.signal.reason.isSome = true) :
      Turn now s .schedule { s with scheduler := .review k false }
  | enters {k : Candidate} (stood : s.scheduler = .queue k) (free : 0 < s.permits) :
      Turn now s .schedule { s with permits := s.permits - 1, scheduler := .review k true }
  | reviews {k : Candidate} {permit : Bool} (stood : s.scheduler = .review k permit)
      (quiet : s.signal.reason = none) :
      Turn now s .schedule { s with scheduler := .reviewTrip k permit }
  | engages {k : Candidate} (stood : s.scheduler = .reviewTrip k true)
      (untripped : s.tripped = false) : Turn now s .schedule (s.engage k)
  | refuses {slot : Nat} {reason : String} {permit : Bool}
      (held : s.scheduler.slot? = some slot) (permits : s.scheduler.permits = permit.toNat)
      (cause : Refuses s reason) :
      Turn now s .schedule { s with scheduler := .skip slot reason permit }
  | notes {slot : Nat} {reason : String} {permit : Bool} (record : CaseRecord)
      (stood : s.scheduler = .skip slot reason permit)
      (noted : s.reporter.skippedRecord slot reason = .ok record) :
      Turn now s .schedule { s with scheduler := .submit slot record permit }
  | fills {slot : Nat} {record : CaseRecord} {permit : Bool}
      (stood : s.scheduler = .submit slot record permit)
      (jobless : ∀ job ∈ s.jobs, job.slot ≠ slot) :
      Turn now s .schedule
        { s with
          reporter := ⟨s.reporter.slots.set slot (.done record)⟩
          permits := s.permits + permit.toNat
          scheduler := .choose }
  | ends (result : Except ReportError Report) (stood : s.scheduler = .join) :
      Turn now s .schedule { s with scheduler := .done result }
  | begins {index : Nat} {job : Job} (found : s.jobs[index]? = some job)
      (stood : job.phase = .admitted) :
      Turn now s (.advance index) (s.setPhase index (.running (.ofCase s.config job.test job.case)))
  | plays {index : Nat} {job : Job} {e : Execution} (move : CaseMove)
      (found : s.jobs[index]? = some job) (stood : job.phase = .running e) :
      Turn now s (.play index move)
        ({ s with pool := (e.step now job.slot s.signal move s.pool).2 }.setPhase index
          (.running (e.step now job.slot s.signal move s.pool).1))
  | records {index : Nat} {job : Job} {e : Execution} {record : CaseRecord}
      (found : s.jobs[index]? = some job) (stood : job.phase = .running e)
      (verdict : Job.verdict? job e = some record) :
      Turn now s (.advance index) (s.setPhase index (.recorded record))
  | flags {index : Nat} {job : Job} {record : CaseRecord} (found : s.jobs[index]? = some job)
      (stood : job.phase = .recorded record) :
      Turn now s (.advance index)
        ({ s with tripped := s.tripped || (s.config.failFast && !record.outcome.isPass) }.setPhase
          index (.flagged record))
  | submits {index : Nat} {job : Job} {record : CaseRecord} (found : s.jobs[index]? = some job)
      (stood : job.phase = .flagged record) (inside : job.slot < s.reporter.len) :
      Turn now s (.advance index)
        ({ s with reporter := ⟨s.reporter.slots.set job.slot (.done record)⟩ }.setPhase index
          .submitted)
  | frees {index : Nat} {job : Job} (found : s.jobs[index]? = some job)
      (stood : job.phase = .submitted) :
      Turn now s (.advance index)
        ({ s with permits := s.permits + 1 }.setPhase index .ended)
  | aborts (reason : AbortReason) :
      Turn now s (.abort reason) { s with signal := s.signal.abort reason }
  | gives (lease : Lease) :
      Turn now s (.giveBack lease) { s with pool := s.pool.release lease }

end Suite

namespace Chronicle

variable {gen : List (Test × TestCase)} {c : Chronicle}

theorem Stands.of_flagged {job : Job} {record : CaseRecord} (stands : Stands c job)
    (stood : job.phase = .flagged record) :
    c.suite.reporter.slots[job.slot]? = some (.reserved job.test.name job.case) ∧
      Suite.Job.verdict? job (c.execution job.slot job.test job.case) = some record := by
  cases stands with
  | recorded record' phase reserved once verdict =>
      rcases phase with phase | phase <;> cases phase.symm.trans stood
      exact ⟨reserved, verdict⟩
  | admitted phase | running phase => cases phase.symm.trans stood
  | submitted record phase => rcases phase with phase | phase <;> cases phase.symm.trans stood

private theorem Stands.submit_eq {job : Job} {record : CaseRecord} (stands : Stands c job)
    (stood : job.phase = .flagged record) :
    c.suite.reporter.submit job.slot record =
      .ok ⟨c.suite.reporter.slots.set job.slot (.done record)⟩ := by
  have reserved := (stands.of_flagged stood).1
  exact Reporter.submit_eq_ok.mpr ⟨Reporter.refusal?_eq_none.mpr ⟨_, _, reserved⟩, rfl⟩

private theorem Sound.turn_schedule (sound : Sound gen c) (now : Instant) :
    Suite.Turn now c.suite .schedule (c.suite.schedule now) := by
  have order := sound.scheduler
  cases stood : c.suite.scheduler with
  | choose =>
      simp only [Suite.schedule, stood, Suite.choose]
      split
      · exact .joins stood
      · split
        · exact .drains _ stood
        · exact .takes _ _ _ stood
  | screen k =>
      simp only [Suite.schedule, stood]
      split
      · next reason aborted =>
          exact .refuses (by rw [stood]; rfl) (by rw [stood]; rfl) (.aborted (.inl stood) aborted)
      · next quiet => exact .screens stood quiet
  | screenTrip k =>
      simp only [Suite.schedule, stood]
      split
      · next tripped =>
          exact .refuses (by rw [stood]; rfl) (by rw [stood]; rfl) (.tripped (.inl stood) tripped)
      · next untripped => exact .queues stood (by simpa using untripped)
  | queue k =>
      simp only [Suite.schedule, stood]
      split
      · next aborted => exact .yields stood aborted
      · split
        · next free => exact .enters stood free
        · exact .stays _
  | review k permit =>
      simp only [Suite.schedule, stood]
      split
      · next reason aborted =>
          exact .refuses (by rw [stood]; rfl) (by rw [stood]; rfl)
            (.aborted (.inr ⟨permit, stood⟩) aborted)
      · next quiet => exact .reviews stood quiet
  | reviewTrip k permit =>
      simp only [Suite.schedule, stood]
      split
      · next tripped =>
          exact .refuses (by rw [stood]; rfl) (by rw [stood]; rfl)
            (.tripped (.inr ⟨permit, stood⟩) tripped)
      · next untripped =>
          cases permit with
          | true => exact .engages stood (by simpa using untripped)
          | false =>
              exact .refuses (by rw [stood]; rfl) (by rw [stood]; rfl) (.denied stood)
  | skip slot reason permit =>
      rw [stood] at order
      obtain ⟨test, case, waiting⟩ := order
      have noted : c.suite.reporter.skippedRecord slot reason =
          .ok (.ofOutcome test.name case (.skipped reason)) := by
        simp only [Reporter.skippedRecord, waiting.2.1]
      simp only [Suite.schedule, stood, noted]
      exact .notes _ stood noted
  | submit slot record permit =>
      rw [stood] at order
      obtain ⟨test, case, reason, waiting, -⟩ := order
      have fills : Suite.Turn now c.suite .schedule _ := .fills stood waiting.2.2
      simp only [Suite.schedule, stood, waiting.submit_eq, Suite.returnPermit]
      cases permit <;> exact fills
  | join =>
      simp only [Suite.schedule, stood]
      split
      · exact .ends _ stood
      · exact .stays _
  | done result =>
      simp only [Suite.schedule, stood]
      exact .stays _

private theorem Sound.turn_advance (sound : Sound gen c) (now : Instant) (index : Nat) :
    Suite.Turn now c.suite (.advance index) (c.suite.advance index) := by
  unfold Suite.advance
  split
  · exact .stays _
  · next job found =>
      obtain ⟨_, stands⟩ := sound.jobs job (List.mem_of_getElem? found)
      split
      · next stood => exact .begins found stood
      · next stood =>
          split
          · next verdict => exact .records found stood verdict
          · exact .stays _
      · next stood => exact .flags found stood
      · next record stood =>
          rw [stands.submit_eq stood]
          exact .submits found stood stands.inside
      · next stood => exact .frees found stood
      · exact .stays _

theorem Sound.turn (sound : Sound gen c) (now : Instant) (move : SuiteMove) :
    Suite.Turn now c.suite move (c.suite.step now move) := by
  cases move with
  | schedule => exact sound.turn_schedule now
  | advance index => exact sound.turn_advance now index
  | play index move =>
      simp only [Suite.step, Suite.play]
      split
      · exact .stays _
      · next job found =>
          split
          · next stood => exact .plays move found stood
          · exact .stays _
  | abort reason => exact .aborts reason
  | giveBack lease => exact .gives lease

end Chronicle

/-! ## Permits -/

namespace Suite

private theorem countP_isLive_modify {jobs : List Job} {index : Nat} {job : Job} (phase : Phase)
    (found : jobs[index]? = some job) :
    (jobs.modify index fun j => { j with phase }).countP Job.isLive + job.isLive.toNat =
      jobs.countP Job.isLive + (!phase.isEnded).toNat := by
  induction jobs generalizing index with
  | nil => cases found
  | cons first rest ih =>
      cases index with
      | zero =>
          obtain rfl : first = job := Option.some.inj found
          simp only [List.modify_zero_cons, List.countP_cons, Job.isLive]
          by_cases gone : phase.isEnded = true <;>
            by_cases before : first.phase.isEnded = true <;> simp [gone, before]
      | succ index =>
          have later := ih found
          simp only [List.modify_succ_cons, List.countP_cons]
          omega

def Balanced (p : Nat) (s : Suite) : Prop :=
  s.permits + s.scheduler.permits + s.jobs.countP Job.isLive = p

theorem Balanced.turn {p : Nat} {now : Instant} {s s' : Suite} {move : SuiteMove}
    (h : s.Balanced p) (turn : Turn now s move s') : s'.Balanced p := by
  unfold Balanced at h ⊢
  -- A job that gets on without an end keeps its permit.
  have goesOn : ∀ {index : Nat} {job : Job} (phase : Phase), s.jobs[index]? = some job →
      job.phase.isEnded = false → phase.isEnded = false →
      (s.jobs.modify index fun j => { j with phase }).countP Job.isLive =
        s.jobs.countP Job.isLive := by
    intro index job phase found live live'
    have counted := countP_isLive_modify phase found
    rw [Job.isLive, live, live'] at counted
    exact Nat.add_right_cancel counted
  cases turn with
  | stays | aborts | gives => exact h
  | drains plan free => rw [free] at h; exact h
  | joins free | takes _ _ _ free => rw [free] at h; exact h
  | screens stood | queues stood | yields stood | reviews stood | notes _ stood | ends _ stood =>
      rw [stood] at h
      exact h
  | @enters k stood free =>
      rw [stood] at h
      simp only [Scheduler.permits, Bool.toNat_true] at h ⊢
      omega
  | @engages k stood untripped =>
      rw [stood] at h
      simp only [engage, Scheduler.permits, List.countP_append] at h ⊢
      have one : [(⟨k.slot, k.test, k.case, .admitted⟩ : Job)].countP Job.isLive = 1 := rfl
      rw [one]
      simp only [Bool.toNat_true] at h
      omega
  | refuses held permits cause =>
      rw [permits] at h
      exact h
  | fills stood jobless =>
      rw [stood] at h
      simp only [Scheduler.permits] at h ⊢
      omega
  | begins found stood | plays move found stood | records found stood verdict
  | flags found stood | submits found stood inside =>
      simp only [setPhase]
      rw [goesOn _ found (by rw [stood]; rfl) rfl]
      exact h
  | @frees index job found stood =>
      have counted := countP_isLive_modify .ended found
      simp only [Job.isLive, stood, Phase.isEnded, Bool.not_false, Bool.not_true, Bool.toNat_true,
        Bool.toNat_false] at counted
      simp only [setPhase]
      omega

theorem balanced_ofTests (config : Config) (cores : Nat) (tests : List Test) :
    (ofTests config cores tests).Balanced (config.permits cores) := rfl

end Suite

end Interop
