import Interop.Proofs.Suite.Chronicle

/-!
# One record per case

Every slot of the report is in the hands of the scheduler, belongs to one job, or holds the
record of a case that was skipped.  So a slot is filled once, by its job or by the scheduler,
and when the scheduler is done every case has its record at its place.
-/

namespace Interop

def Scheduler.slot? : Scheduler → Option Nat
  | .screen k | .screenTrip k | .queue k | .review k _ | .reviewTrip k _ => some k.slot
  | .skip slot _ _ | .submit slot _ _ => some slot
  | .choose | .join | .done _ => none

namespace Chronicle

def remaining (plan : List (Test × Expansion)) : List (Test × TestCase) :=
  plan.flatMap fun entry => entry.2.toList.map fun case => (entry.1, case)

def Waiting (gen : List (Test × TestCase)) (c : Chronicle) (slot : Nat) (test : Test)
    (case : TestCase) : Prop :=
  gen[slot]? = some (test, case) ∧
    c.suite.reporter.slots[slot]? = some (.reserved test.name case) ∧
    ∀ job ∈ c.suite.jobs, job.slot ≠ slot

theorem Waiting.submit_eq {gen : List (Test × TestCase)} {c : Chronicle} {slot : Nat}
    {test : Test} {case : TestCase} (waiting : Waiting gen c slot test case)
    (record : CaseRecord) :
    c.suite.reporter.submit slot record =
      .ok ⟨c.suite.reporter.slots.set slot (.done record)⟩ := by
  refine Reporter.submit_eq_ok.mpr ⟨?_, rfl⟩
  exact Reporter.refusal?_eq_none.mpr ⟨test.name, case, waiting.2.1⟩

def InOrder (gen : List (Test × TestCase)) (c : Chronicle) : Scheduler → Prop
  | .choose => True
  | .screen k | .screenTrip k | .queue k | .review k _ | .reviewTrip k _ =>
    Waiting gen c k.slot k.test k.case
  | .skip slot _ _ => ∃ test case, Waiting gen c slot test case
  | .submit slot record _ =>
    ∃ test case reason, Waiting gen c slot test case ∧ record = .skipped test case reason
  | .join => c.suite.plan = []
  | .done result =>
    c.suite.plan = [] ∧ (∀ job ∈ c.suite.jobs, job.phase = .ended) ∧
      ∃ elapsed, result = .ok ⟨c.suite.reporter.slots.filterMap Slot.record?, elapsed⟩

structure Sound (gen : List (Test × TestCase)) (c : Chronicle) : Prop where
  plan : gen.drop c.suite.reporter.len = remaining c.suite.plan
  reached : ∀ entry ∈ c.suite.plan, ∃ position, entry.2 = .reached entry.1.matrix position
  distinct : (c.suite.jobs.map Job.slot).Nodup
  jobs : ∀ job ∈ c.suite.jobs, gen[job.slot]? = some (job.test, job.case) ∧ Stands c job
  unplayed : ∀ slot, (∀ job ∈ c.suite.jobs, job.slot ≠ slot) →
    c.begun.count slot = 0 ∧ c.beatsOf slot = []
  scheduler : InOrder gen c c.suite.scheduler
  filled : ∀ slot < c.suite.reporter.len, (∃ job ∈ c.suite.jobs, job.slot = slot) ∨
    c.suite.scheduler.slot? = some slot ∨
    ∃ test case reason, gen[slot]? = some (test, case) ∧
      c.suite.reporter.slots[slot]? = some (.done (.skipped test case reason))

theorem sound_ofTests (config : Config) (cores : Nat) (tests : List Test) :
    Sound (generation tests) (ofTests config cores tests) where
  plan := by
    simp only [ofTests, Suite.ofTests, Reporter.empty, Reporter.len, List.length_nil,
      List.drop_zero, generation, remaining, List.flatMap_map]
    rfl
  reached := by
    intro entry mem
    obtain ⟨test, -, rfl⟩ := List.mem_map.mp mem
    exact ⟨0, Expansion.expand_eq_reached test.matrix⟩
  distinct := List.nodup_nil
  jobs := by simp [ofTests, Suite.ofTests]
  unplayed _ _ := ⟨rfl, rfl⟩
  scheduler := trivial
  filled slot inside := absurd inside (Nat.not_lt_zero slot)

variable {gen : List (Test × TestCase)} {c c' : Chronicle}

/-! ## The scheduler -/

theorem Sound.reschedule (sound : Sound gen c) (same : ∀ slot, SameAt c c' slot)
    (len : c'.suite.reporter.len = c.suite.reporter.len) (plan : c'.suite.plan = c.suite.plan)
    (jobs : c'.suite.jobs = c.suite.jobs) (order : InOrder gen c' c'.suite.scheduler)
    (held : c'.suite.scheduler.slot? = c.suite.scheduler.slot?) : Sound gen c' where
  plan := by rw [len, plan, sound.plan]
  reached := plan ▸ sound.reached
  distinct := jobs ▸ sound.distinct
  jobs job mem := by
    obtain ⟨planned, stands⟩ := sound.jobs job (jobs ▸ mem)
    exact ⟨planned, stands.congr (same job.slot)⟩
  unplayed slot free := by
    rw [(same slot).begun, (same slot).beats]
    exact sound.unplayed slot (jobs ▸ free)
  scheduler := order
  filled slot inside := by
    rw [jobs, held, (same slot).slots]
    exact sound.filled slot (len ▸ inside)

private theorem Sound.passOn (sound : Sound gen c) {scheduler : Scheduler} (permits : Nat)
    (order : InOrder gen c scheduler) (held : c.suite.scheduler.slot? = scheduler.slot?) :
    Sound gen ⟨{ c.suite with permits, scheduler }, c.begun, c.beats⟩ :=
  sound.reschedule (fun _ => ⟨rfl, rfl, rfl, rfl⟩) rfl rfl rfl
    (by cases scheduler <;> exact order) held.symm

private theorem Sound.reserve {test : Test} {case : TestCase} {plan : List (Test × Expansion)}
    (sound : Sound gen c) (idle : c.suite.scheduler = .choose)
    (comes : gen.drop c.suite.reporter.len = (test, case) :: remaining plan)
    (reached : ∀ entry ∈ plan, ∃ position, entry.2 = .reached entry.1.matrix position) :
    Sound gen
      ⟨{ c.suite with
          reporter := (c.suite.reporter.reserve test.name case).1
          plan
          scheduler := .screen ⟨(c.suite.reporter.reserve test.name case).2, test, case⟩ },
        c.begun, c.beats⟩ := by
  have planned : gen[c.suite.reporter.len]? = some (test, case) := by
    have first := congrArg (fun cases => cases[0]?) comes
    simpa [List.getElem?_drop] using first
  have kept : ∀ slot < c.suite.reporter.len,
      (c.suite.reporter.reserve test.name case).1.slots[slot]? =
        c.suite.reporter.slots[slot]? := fun _ inside => List.getElem?_append_left inside
  refine ⟨?_, reached, sound.distinct, ?_, sound.unplayed, ⟨planned, ?_, ?_⟩, ?_⟩
  · have rest := congrArg List.tail comes
    simpa using rest
  · intro job mem
    obtain ⟨planned, stands⟩ := sound.jobs job mem
    exact ⟨planned, stands.congr ⟨rfl, kept job.slot stands.inside, rfl, rfl⟩⟩
  · simp [Reporter.reserve, Reporter.len]
  · exact fun job mem => Nat.ne_of_lt (sound.jobs job mem).2.inside
  · intro slot inside
    rcases Nat.lt_succ_iff_lt_or_eq.mp (by simpa using inside) with before | rfl
    · rcases sound.filled slot before with engaged | held | ⟨test', case', reason, planned', done⟩
      · exact .inl engaged
      · rw [idle] at held
        cases held
      · exact .inr (.inr ⟨test', case', reason, planned', (kept slot before).trans done⟩)
    · exact .inr (.inl rfl)

private theorem Sound.choose (sound : Sound gen c) (idle : c.suite.scheduler = .choose) :
    Sound gen ⟨c.suite.choose, c.begun, c.beats⟩ := by
  have plan := sound.plan
  have reached := sound.reached
  unfold Suite.choose
  split
  · next empty =>
      exact sound.reschedule (fun _ => ⟨rfl, rfl, rfl, rfl⟩) rfl rfl rfl empty (by rw [idle]; rfl)
  · next test expansion rest planned =>
      rw [planned] at plan reached
      obtain ⟨position, rfl⟩ : ∃ position, expansion = .reached test.matrix position :=
        reached (test, expansion) List.mem_cons_self
      have reached' : ∀ entry ∈ rest, ∃ position, entry.2 = .reached entry.1.matrix position :=
        fun entry mem => reached entry (List.mem_cons_of_mem _ mem)
      rcases Expansion.next_reached_cases test.matrix position with ⟨next, none⟩ | ⟨next, some⟩
      · simp only [next]
        refine ⟨?_, reached', sound.distinct, ?_, sound.unplayed, ?_, sound.filled⟩
        · simpa [remaining, none] using plan
        · intro job mem
          obtain ⟨planned, stands⟩ := sound.jobs job mem
          exact ⟨planned, stands.congr ⟨rfl, rfl, rfl, rfl⟩⟩
        · change InOrder gen _ c.suite.scheduler
          rw [idle]
          trivial
      · simp only [next]
        exact sound.reserve idle (by simpa [remaining, some] using plan)
          (List.forall_mem_cons.mpr ⟨⟨position + 1, rfl⟩, reached'⟩)

private theorem Sound.engage {k : Candidate} (sound : Sound gen c)
    (waiting : Waiting gen c k.slot k.test k.case)
    (held : c.suite.scheduler.slot? = some k.slot) :
    Sound gen ⟨c.suite.engage k, c.begun, c.beats⟩ := by
  obtain ⟨planned, reserved, jobless⟩ := waiting
  obtain ⟨never, still⟩ := sound.unplayed k.slot jobless
  refine ⟨sound.plan, sound.reached, ?_, ?_, ?_, trivial, ?_⟩
  · have absent : k.slot ∉ c.suite.jobs.map Job.slot := by simpa using jobless
    simpa [Suite.engage, List.nodup_append, sound.distinct] using absent
  · intro job mem
    rcases List.mem_append.mp mem with mem | mem
    · obtain ⟨planned, stands⟩ := sound.jobs job mem
      exact ⟨planned, stands.congr ⟨rfl, rfl, rfl, rfl⟩⟩
    · rw [List.mem_singleton.mp mem]
      exact ⟨planned, .admitted rfl reserved never still⟩
  · exact fun slot free => sound.unplayed slot fun job mem => free job (List.mem_append_left _ mem)
  · intro slot inside
    rcases sound.filled slot inside with ⟨job, mem, same⟩ | same | skipped
    · exact .inl ⟨job, List.mem_append_left _ mem, same⟩
    · rw [held] at same
      exact .inl ⟨_, List.mem_append_right _ List.mem_cons_self, Option.some.inj same⟩
    · exact .inr (.inr skipped)

private theorem Sound.submit {slot : Nat} {test : Test} {case : TestCase} (reason : String)
    (permits : Nat) (sound : Sound gen c) (waiting : Waiting gen c slot test case)
    (held : c.suite.scheduler.slot? = some slot) :
    Sound gen
      ⟨{ c.suite with
          reporter := ⟨c.suite.reporter.slots.set slot (.done (.skipped test case reason))⟩
          permits
          scheduler := .choose },
        c.begun, c.beats⟩ := by
  obtain ⟨planned, reserved, jobless⟩ := waiting
  have inside := (List.getElem?_eq_some_iff.mp reserved).1
  refine ⟨?_, sound.reached, sound.distinct, ?_, sound.unplayed, trivial, ?_⟩
  · simpa [Reporter.len] using sound.plan
  · intro job mem
    obtain ⟨planned, stands⟩ := sound.jobs job mem
    have other := List.getElem?_set_ne (a := .done (.skipped test case reason))
      (l := c.suite.reporter.slots) (jobless job mem).symm
    exact ⟨planned, stands.congr ⟨rfl, other, rfl, rfl⟩⟩
  · intro slot' inside'
    by_cases same : slot = slot'
    · subst same
      exact .inr (.inr ⟨test, case, reason, planned, List.getElem?_set_self inside⟩)
    · have inside' : slot' < c.suite.reporter.len := by simpa [Reporter.len] using inside'
      rcases sound.filled slot' inside' with
        engaged | held' | ⟨test', case', reason', planned', done⟩
      · exact .inl engaged
      · exact absurd (Option.some.inj (held.symm.trans held')) same
      · exact .inr (.inr ⟨test', case', reason', planned', by
          simpa [List.getElem?_set_ne same] using done⟩)

theorem Sound.pending_eq_zero (sound : Sound gen c) (idle : c.suite.scheduler.slot? = none)
    (ended : ∀ job ∈ c.suite.jobs, job.phase = .ended) : c.suite.reporter.pending = 0 := by
  refine List.countP_eq_zero.mpr ?_
  intro entry mem
  -- An open slot would be one of the scheduler or of a job that goes on.
  obtain ⟨slot, found⟩ := List.mem_iff_getElem?.mp mem
  have inside := (List.getElem?_eq_some_iff.mp found).1
  rcases sound.filled slot inside with ⟨job, mem, rfl⟩ | held | ⟨_, _, _, _, done⟩
  · obtain ⟨_, stands⟩ := sound.jobs job mem
    have gone := ended job mem
    cases stands with
    | admitted phase => cases phase.symm.trans gone
    | running phase => cases phase.symm.trans gone
    | recorded record phase =>
        rcases phase with phase | phase <;> cases phase.symm.trans gone
    | submitted record phase filled =>
        cases found.symm.trans filled
        exact Bool.false_ne_true
  · cases idle.symm.trans held
  · cases found.symm.trans done
    exact Bool.false_ne_true

theorem phase_of_isEnded {phase : Phase} (h : phase.isEnded = true) : phase = .ended := by
  cases phase <;> first | rfl | cases h

private theorem Sound.schedule (sound : Sound gen c) (now : Instant) :
    Sound gen ⟨c.suite.schedule now, c.begun, c.beats⟩ := by
  have order := sound.scheduler
  cases scheduler : c.suite.scheduler with
  | choose => simpa only [Suite.schedule, scheduler] using sound.choose scheduler
  | screen k | screenTrip k | review k =>
      have held := congrArg Scheduler.slot? scheduler
      rw [scheduler] at order
      simp only [Suite.schedule, scheduler]
      split
      · exact sound.passOn _ ⟨k.test, k.case, order⟩ held
      · exact sound.passOn _ order held
  | queue k =>
      have held := congrArg Scheduler.slot? scheduler
      rw [scheduler] at order
      simp only [Suite.schedule, scheduler]
      split
      · exact sound.passOn _ order held
      · split
        · exact sound.passOn _ order held
        · exact sound
  | reviewTrip k permit =>
      have held := congrArg Scheduler.slot? scheduler
      rw [scheduler] at order
      simp only [Suite.schedule, scheduler]
      split
      · exact sound.passOn _ ⟨k.test, k.case, order⟩ held
      · split
        · exact sound.engage order held
        · exact sound.passOn _ ⟨k.test, k.case, order⟩ held
  | skip slot reason permit =>
      have held := congrArg Scheduler.slot? scheduler
      rw [scheduler] at order
      obtain ⟨test, case, waiting⟩ := order
      simp only [Suite.schedule, scheduler, Reporter.skippedRecord, waiting.2.1]
      exact sound.passOn _ ⟨test, case, reason, waiting, rfl⟩ held
  | submit slot record permit =>
      have held := congrArg Scheduler.slot? scheduler
      rw [scheduler] at order
      obtain ⟨test, case, reason, waiting, rfl⟩ := order
      simp only [Suite.schedule, scheduler, waiting.submit_eq, Suite.returnPermit]
      split
      · exact sound.submit reason _ waiting held
      · exact sound.submit reason _ waiting held
  | join =>
      have idle := congrArg Scheduler.slot? scheduler
      rw [scheduler] at order
      simp only [Suite.schedule, scheduler]
      split
      · next all =>
          have ended : ∀ job ∈ c.suite.jobs, job.phase = .ended :=
            fun job mem => phase_of_isEnded (List.all_eq_true.mp all job mem)
          refine sound.passOn _ ⟨order, ended, .between 0 now, ?_⟩ idle
          simp [Reporter.finalize, sound.pending_eq_zero idle ended]
      · exact sound
  | done result =>
      simp only [Suite.schedule, scheduler]
      exact sound

/-! ## Jobs -/

theorem mem_modify_phase {jobs : List Job} {index : Nat} {job job' : Job} {phase : Phase}
    (distinct : (jobs.map Job.slot).Nodup) (found : jobs[index]? = some job)
    (mem : job' ∈ jobs.modify index fun j => { j with phase }) :
    job' = { job with phase } ∨ job' ∈ jobs ∧ job'.slot ≠ job.slot := by
  obtain ⟨place, there⟩ := List.mem_iff_getElem?.mp mem
  rw [List.getElem?_modify] at there
  by_cases here : index = place
  · subst here
    simp only [found, if_true, Option.map_eq_map, Option.map_some, Option.some.injEq] at there
    exact .inl there.symm
  · simp only [here, if_false, Option.map_eq_map, Option.map_id'] at there
    refine .inr ⟨List.mem_of_getElem? there, ?_⟩
    intro same
    have inside : index < (jobs.map Job.slot).length := by
      simpa using (List.getElem?_eq_some_iff.mp found).1
    refine here ((List.getElem?_inj inside distinct).mp ?_)
    rw [List.getElem?_map, List.getElem?_map, found, there, Option.map_some, Option.map_some, same]

theorem map_slot_modify (jobs : List Job) (index : Nat) (phase : Phase) :
    (jobs.modify index fun j => { j with phase }).map Job.slot = jobs.map Job.slot := by
  induction jobs generalizing index with
  | nil => simp
  | cons job jobs ih => cases index <;> simp [ih]

private theorem InOrder.transfer {scheduler : Scheduler} (order : InOrder gen c scheduler)
    (waiting : ∀ {slot test case}, Waiting gen c slot test case → Waiting gen c' slot test case)
    (plan : c'.suite.plan = c.suite.plan) (undone : ∀ result, scheduler ≠ .done result) :
    InOrder gen c' scheduler := by
  cases scheduler with
  | choose => trivial
  | screen | screenTrip | queue | review | reviewTrip => exact waiting order
  | skip =>
      obtain ⟨test, case, order⟩ := order
      exact ⟨test, case, waiting order⟩
  | submit =>
      obtain ⟨test, case, reason, order, record⟩ := order
      exact ⟨test, case, reason, waiting order, record⟩
  | join => exact plan.trans order
  | done result => exact absurd rfl (undone result)

/-- One job gets on; nothing changes for the slots of others. -/
theorem Sound.setPhase {index : Nat} {job : Job} {phase : Phase} (sound : Sound gen c)
    (found : c.suite.jobs[index]? = some job) (active : job.phase ≠ .ended)
    (plan : c'.suite.plan = c.suite.plan) (scheduler : c'.suite.scheduler = c.suite.scheduler)
    (len : c'.suite.reporter.len = c.suite.reporter.len)
    (jobs : c'.suite.jobs = c.suite.jobs.modify index fun j => { j with phase })
    (same : ∀ slot ≠ job.slot, SameAt c c' slot) (stands : Stands c' { job with phase }) :
    Sound gen c' := by
  have mem := List.mem_of_getElem? found
  have slots : c'.suite.jobs.map Job.slot = c.suite.jobs.map Job.slot := by
    rw [jobs, map_slot_modify]
  have free : ∀ {slot}, (∀ job' ∈ c'.suite.jobs, job'.slot ≠ slot) ↔
      ∀ job' ∈ c.suite.jobs, job'.slot ≠ slot := by
    intro slot
    rw [← List.forall_mem_map (P := fun other => other ≠ slot), slots, List.forall_mem_map]
  -- The slots of the scheduler and of skipped cases have no job: this move does not touch them.
  have other : ∀ {slot}, (∀ job' ∈ c.suite.jobs, job'.slot ≠ slot) → slot ≠ job.slot :=
    fun jobless => (jobless job mem).symm
  have waiting : ∀ {slot test case}, Waiting gen c slot test case →
      Waiting gen c' slot test case := by
    rintro slot test case ⟨planned, reserved, jobless⟩
    exact ⟨planned, (same slot (other jobless)).slots.trans reserved, free.mpr jobless⟩
  refine ⟨?_, plan ▸ sound.reached, slots ▸ sound.distinct, ?_, ?_, ?_, ?_⟩
  · rw [len, plan, sound.plan]
  · intro job' mem'
    rcases mem_modify_phase sound.distinct found (jobs ▸ mem') with rfl | ⟨mem', apart⟩
    · exact ⟨(sound.jobs job mem).1, stands⟩
    · obtain ⟨planned, stands'⟩ := sound.jobs job' mem'
      exact ⟨planned, stands'.congr (same job'.slot apart)⟩
  · intro slot jobless
    have jobless := free.mp jobless
    rw [(same slot (other jobless)).begun, (same slot (other jobless)).beats]
    exact sound.unplayed slot jobless
  · rw [scheduler]
    refine sound.scheduler.transfer waiting plan ?_
    intro result done
    have order := sound.scheduler
    rw [done] at order
    exact active (order.2.1 job mem)
  · intro slot inside
    by_cases engaged : slot ∈ c'.suite.jobs.map Job.slot
    · exact .inl (List.mem_map.mp engaged)
    · have jobless := engaged
      simp only [slots, List.mem_map, not_exists, not_and] at jobless
      rcases sound.filled slot (len ▸ inside) with
        ⟨job', mem', at_⟩ | held | ⟨_, _, _, planned, done⟩
      · exact absurd at_ (jobless job' mem')
      · exact .inr (.inl (scheduler ▸ held))
      · exact .inr (.inr ⟨_, _, _, planned, (same slot (other jobless)).slots.trans done⟩)

private theorem Sound.advance (sound : Sound gen c) (now : Instant) (index : Nat) :
    Sound gen (c.step now (.advance index)) := by
  cases found : c.suite.jobs[index]? with
  | none =>
      simp only [step, Suite.step, Suite.advance, Suite.begins?, Suite.beat?, found]
      exact sound
  | some job =>
      obtain ⟨_, stands⟩ := sound.jobs job (List.mem_of_getElem? found)
      have inside := stands.inside
      cases stands with
      | admitted current reserved never still =>
          simp only [step, Suite.step, Suite.advance, Suite.begins?, Suite.beat?, found, current]
          refine sound.setPhase found (by simp [current]) rfl rfl rfl rfl ?_
            (.running ?_ reserved ?_)
          · intro other apart
            exact ⟨rfl, rfl, List.count_cons_of_ne apart.symm, rfl⟩
          · -- No move is recorded for the slot yet.
            have first : c.execution job.slot job.test job.case =
                .ofCase c.suite.config job.test job.case := by
              rw [execution, still]
              rfl
            exact congrArg Phase.running first.symm
          · exact List.count_cons_self.trans (congrArg (· + 1) never)
      | running current reserved once =>
          simp only [step, Suite.step, Suite.advance, Suite.begins?, Suite.beat?, found, current]
          split
          · next record verdict =>
              exact sound.setPhase found (by simp [current]) rfl rfl rfl rfl
                (fun _ _ => ⟨rfl, rfl, rfl, rfl⟩)
                (.recorded record (.inl rfl) reserved once verdict)
          · exact sound
      | recorded record current reserved once verdict =>
          rcases current with current | current
          · simp only [step, Suite.step, Suite.advance, Suite.begins?, Suite.beat?, found, current]
            exact sound.setPhase found (by simp [current]) rfl rfl rfl rfl
              (fun _ _ => ⟨rfl, rfl, rfl, rfl⟩) (.recorded record (.inr rfl) reserved once verdict)
          · have submits : c.suite.reporter.submit job.slot record =
                .ok ⟨c.suite.reporter.slots.set job.slot (.done record)⟩ :=
              Reporter.submit_eq_ok.mpr
                ⟨Reporter.refusal?_eq_none.mpr ⟨job.test.name, job.case, reserved⟩, rfl⟩
            simp only [step, Suite.step, Suite.advance, Suite.begins?, Suite.beat?, found, current,
              submits]
            refine sound.setPhase found (by simp [current]) rfl rfl (List.length_set ..) rfl ?_
              (.submitted record (.inl rfl) (List.getElem?_set_self inside) once verdict)
            exact fun other apart => ⟨rfl, List.getElem?_set_ne apart.symm, rfl, rfl⟩
      | submitted record current filled once verdict =>
          rcases current with current | current
          · simp only [step, Suite.step, Suite.advance, Suite.begins?, Suite.beat?, found, current]
            exact sound.setPhase found (by simp [current]) rfl rfl rfl rfl
              (fun _ _ => ⟨rfl, rfl, rfl, rfl⟩) (.submitted record (.inr rfl) filled once verdict)
          · simp only [step, Suite.step, Suite.advance, Suite.begins?, Suite.beat?, found, current]
            exact sound

private theorem Sound.play (sound : Sound gen c) (now : Instant) (index : Nat) (move : CaseMove) :
    Sound gen (c.step now (.play index move)) := by
  cases found : c.suite.jobs[index]? with
  | none =>
      simp only [step, Suite.step, Suite.play, Suite.begins?, Suite.beat?, found]
      exact sound
  | some job =>
      obtain ⟨_, stands⟩ := sound.jobs job (List.mem_of_getElem? found)
      cases stands with
      | running current reserved once =>
          simp only [step, Suite.step, Suite.play, Suite.begins?, Suite.beat?, found, current]
          refine sound.setPhase found (by simp [current]) rfl rfl rfl rfl ?_
            (.running ?_ reserved once)
          · intro other apart
            exact ⟨rfl, rfl, rfl, (beatsOf_cons ..).trans (if_neg apart.symm)⟩
          · refine congrArg Phase.running ?_
            simp only [execution, Option.toList_some, Option.toList_none, List.nil_append,
              List.singleton_append, beatsOf_cons, if_true, Execution.run_concat]
            rfl
      | admitted current =>
          simp only [step, Suite.step, Suite.play, Suite.begins?, Suite.beat?, found, current]
          exact sound
      | recorded _ current | submitted _ current =>
          rcases current with current | current
          · simp only [step, Suite.step, Suite.play, Suite.begins?, Suite.beat?, found, current]
            exact sound
          · simp only [step, Suite.step, Suite.play, Suite.begins?, Suite.beat?, found, current]
            exact sound

theorem Sound.step (sound : Sound gen c) (now : Instant) (move : SuiteMove) :
    Sound gen (c.step now move) := by
  cases move with
  | schedule => exact sound.schedule now
  | advance index => exact sound.advance now index
  | play index move => exact sound.play now index move
  | abort | giveBack =>
      refine sound.reschedule (fun _ => ⟨rfl, rfl, rfl, rfl⟩) rfl rfl rfl ?_ rfl
      have order := sound.scheduler
      change InOrder gen _ c.suite.scheduler
      cases held : c.suite.scheduler <;> rw [held] at order <;> exact order

theorem Sound.run (sound : Sound gen c) (moves : List (Instant × SuiteMove)) :
    Sound gen (c.run moves) := by
  induction moves generalizing c with
  | nil => exact sound
  | cons move moves ih => exact ih (sound.step move.1 move.2)

end Chronicle

end Interop
