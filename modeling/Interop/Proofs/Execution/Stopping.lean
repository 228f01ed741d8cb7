import Interop.Proofs.Execution.Strides
import Interop.Proofs.Lifecycle.Tally

/-!
# Stopping every service of a case

The teardown asks every service to stop that is not stopped.  A service that the body has
stopped before is left alone, unless that stop was cut off, by the limit of the case, by the abort
signal or by the body itself: it is then asked once more.
-/

namespace Interop

namespace Execution

def interruption? (now : Instant) (move : CaseMove) (before after : Execution) : Option Nat :=
  if cutsOff now move before after then
    before.operation?.bind fun operation => operation.wait.stops?
  else none

/-- The services whose stops were cut off in a run, the last one first. -/
def interruptions (ticket : Nat) (e : Execution) : List Beat → List Nat
  | [] => []
  | b :: beats =>
    interruptions ticket (e.beat ticket b) beats ++
      (interruption? b.now b.move e (e.beat ticket b)).toList

/-- How often the body has given up in a run what it waited for. -/
def surrendered (ticket : Nat) (e : Execution) : List Beat → Nat
  | [] => 0
  | b :: beats => (surrenders b.now b.move e).toNat + surrendered ticket (e.beat ticket b) beats

variable {ticket : Nat} {e : Execution}

/-! ## At most one stop is cut off but by the body -/

private theorem isClosing_answer (now : Instant) (ticket : Nat) (a : Answer) (p : Pool)
    (closing : e.isClosing = true) : (answer now ticket a e p).1.isClosing = true := by
  unfold answer
  cases stage : e.stage with
  | working purpose operation =>
      simp only [isClosing, stage] at closing
      cases purpose with
      | close outcome =>
          simp only
          split
          · rfl
          · next completion _ _ =>
              cases completion with
              | tornDown problems => rfl
              | reserved | provisioned | started | startedAll | ran | stopped | panicked =>
                  simp [complete, isClosing]
      | reserve | provision | startAll | control | stopEarly => cases closing
  | fresh | sleeping | closed | panicked => exact closing

theorem giveUp_of_isClosing (now : Instant) (ticket : Nat) (p : Pool)
    (closing : e.isClosing = true) : giveUp now ticket e p = (e, p) := by
  unfold giveUp
  cases stage : e.stage with
  | working purpose operation =>
      simp only [isClosing, stage] at closing
      cases purpose with
      | close outcome => rfl
      | reserve | provision | startAll | control | stopEarly => cases closing
  | fresh | sleeping | closed | panicked => rfl

private theorem surrenders_of_isClosing (now : Instant) (move : CaseMove)
    (closing : e.isClosing = true) :
    surrenders now move e = false := by
  unfold surrenders
  split
  · next purpose operation working =>
      simp only [isClosing, working] at closing
      cases purpose with
      | close outcome => simp [Purpose.limit?]
      | reserve | provision | startAll | control | stopEarly => cases closing
  · rfl

theorem isClosing_step (now : Instant) (signal : AbortSignal) (move : CaseMove) (p : Pool)
    (closing : e.isClosing = true) : (e.step now ticket signal move p).1.isClosing = true := by
  cases move with
  | enter =>
      simp only [step]
      split
      · exact closing
      · unfold enter
        rw [if_pos (by exact closing)]
        exact closing
  | answer a =>
      simp only [step]
      split
      · exact isClosing_answer now ticket a p closing
      · exact closing
  | wake =>
      simp only [step]
      split
      · next sleeping => simp [isClosing, sleeping] at closing
      · exact closing
  | expire =>
      simp only [step]
      split
      · exact closing
      · simp [closing]
  | observe | park => exact closing
  | breakDown message =>
      simp only [step]
      split
      · exact closing
      · simp [isClosing, stage_breakDown]
  | giveUp =>
      simp only [step, giveUp_of_isClosing _ _ _ closing, ite_self]
      exact closing

private theorem interruption?_of_isClosing (b : Beat) (closing : e.isClosing = true) :
    interruption? b.now b.move e (e.beat ticket b) = none := by
  have uncut : isCut b.move e (e.beat ticket b) = false := by
    cases b.move <;> simp [isCut, closing]
  simp [interruption?, cutsOff, uncut, surrenders_of_isClosing _ _ closing]

private theorem interruptions_of_isClosing (beats : List Beat) (closing : e.isClosing = true) :
    interruptions ticket e beats = [] := by
  induction beats generalizing e with
  | nil => rfl
  | cons b beats ih =>
      rw [interruptions, interruption?_of_isClosing b closing, Option.toList_none,
        List.append_nil]
      exact ih (isClosing_step b.now b.signal b.move b.pool closing)

private theorem length_interruptions_le (ticket : Nat) (e : Execution) (beats : List Beat) :
    (interruptions ticket e beats).length ≤ 1 + surrendered ticket e beats := by
  induction beats generalizing e with
  | nil => exact Nat.zero_le _
  | cons b beats ih =>
      have one : (interruption? b.now b.move e (e.beat ticket b)).toList.length ≤ 1 :=
        Option.length_toList_le
      cases cut : isCut b.move e (e.beat ticket b) with
      | false =>
          have rest := ih (e.beat ticket b)
          rw [interruptions, surrendered, List.length_append]
          cases gives : surrenders b.now b.move e with
          | false =>
              have none_here : interruption? b.now b.move e (e.beat ticket b) = none := by
                simp [interruption?, cutsOff, cut, gives]
              simpa [none_here] using rest
          | true =>
              rw [Bool.toNat_true]
              omega
      | true =>
          have closing : (e.beat ticket b).isClosing = true := by
            unfold isCut at cut
            split at cut <;> simp_all
          rw [interruptions, interruptions_of_isClosing beats closing, List.nil_append]
          exact Nat.le_trans one (Nat.le_add_right 1 _)

/-! ## How often services are asked -/

/-- Of an execution that has ended, only its attention and what its services show changes. -/
theorem step_of_isOver (now : Instant) (ticket : Nat) (signal : AbortSignal) (move : CaseMove)
    (p : Pool) (ended : e.isOver = true) : ∃ attentive controller,
      (e.step now ticket signal move p).1 = { e with attentive, controller } ∧
        (controller = e.controller ∨
          ∃ service exposure, controller = e.controller.observe service exposure) := by
  have closing : e.isClosing = true := by
    unfold isOver at ended
    unfold isClosing
    split <;> simp_all
  have still : (∃ attentive controller, e = { e with attentive, controller } ∧
      (controller = e.controller ∨
        ∃ service exposure, controller = e.controller.observe service exposure)) :=
    ⟨e.attentive, e.controller, rfl, .inl rfl⟩
  cases move with
  | enter =>
      simp only [step]
      split
      · exact still
      · unfold enter
        rw [if_pos (by exact closing)]
        exact ⟨true, e.controller, rfl, .inl rfl⟩
  | answer a =>
      simp only [step]
      split
      · unfold answer
        split
        · next working => simp [isOver, working] at ended
        · exact still
      · exact still
  | wake =>
      simp only [step]
      split
      · next sleeping => simp [isOver, sleeping] at ended
      · exact still
  | expire =>
      simp only [step]
      split
      · exact still
      · rw [closing, Bool.not_true, Bool.and_false, Bool.false_and]
        exact still
  | observe service exposure =>
      exact ⟨e.attentive, _, rfl, .inr ⟨service, exposure, rfl⟩⟩
  | park => exact ⟨false, e.controller, rfl, .inl rfl⟩
  | breakDown message =>
      simp only [step, ended, if_true]
      exact still
  | giveUp =>
      simp only [step, giveUp_of_isClosing _ _ _ closing, ite_self]
      exact still

theorem stage_step_of_isOver (now : Instant) (signal : AbortSignal) (move : CaseMove) (p : Pool)
    (ended : e.isOver = true) : (e.step now ticket signal move p).1.stage = e.stage := by
  obtain ⟨attentive, controller, same, -⟩ := step_of_isOver now ticket signal move p ended
  rw [same]

def Counts (cuts : List Nat) (m : Moment) : Prop := Tally cuts m.execution.controller m.wait?

private theorem Counts.abandoned {cuts : List Nat} {p : Pool} (h : Counts cuts (e.moment p))
    (ticket : Nat) :
    Counts ((e.operation?.bind fun operation => operation.wait.stops?).toList ++ cuts)
      (e.abandoned ticket p) := by
  unfold Execution.abandoned
  split
  · next idle =>
      rw [moment, idle] at h
      rw [idle]
      exact h
  · next operation current =>
      rw [moment, current] at h
      rw [current]
      exact Tally.cancel ticket (s := ⟨p, e.controller⟩) h

def Tallied (cuts : List Nat) (e : Execution) : Prop :=
  (∃ message, e.stage = .panicked message) ∨
    ∀ p, Counts cuts (e.moment p)

private theorem Tallied.step {cuts : List Nat} (h : Tallied cuts e)
    (orderly : e.Orderly e.operation?)
    (b : Beat) :
    Tallied ((interruption? b.now b.move e (e.beat ticket b)).toList ++ cuts)
      (e.beat ticket b) := by
  rcases h with ⟨message, broken⟩ | h
  · refine .inl ⟨message, ?_⟩
    exact (stage_step_of_isOver b.now b.signal b.move b.pool (isOver_of_panicked broken)).trans
      broken
  · cases step_advances b.now ticket b.signal b.move orderly b.pool with
    | goesOn settles uncut =>
        have unbroken : interruption? b.now b.move e (e.beat ticket b) = none := by
          -- A cut without a drop finds nothing in progress, so it leaves no stop in the middle.
          unfold interruption?
          split
          · next cut => rw [uncut cut, Option.bind_none]
          · rfl
        rw [unbroken]
        exact .inr fun _ => settles.keeps (P := Counts cuts)
          (fun stride => stride.lasting (Tally.lasting cuts)) (h b.pool)
    | drops live settles ending =>
        have kept := settles.keeps (P := Counts _)
          (fun stride => stride.lasting (Tally.lasting _)) ((h b.pool).abandoned ticket)
        rcases ending with cut | broken
        · rw [show interruption? b.now b.move e (e.beat ticket b) = _ from if_pos cut]
          exact .inr fun _ => kept
        · exact .inl broken

private theorem Tallied.run {cuts : List Nat} (h : Tallied cuts e)
    (orderly : e.Orderly e.operation?)
    (ticket : Nat) (beats : List Beat) :
    Tallied (interruptions ticket e beats ++ cuts) (e.run ticket beats) := by
  induction beats generalizing e cuts with
  | nil => exact h
  | cons b beats ih =>
      rw [interruptions, List.append_assoc]
      exact ih (h.step orderly b) (orderly.step b.now ticket b.signal b.move b.pool)

private theorem tallied_ofCase (config : Config) (test : Test) (case : TestCase) :
    Tallied [] (ofCase config test case) := by
  refine .inr fun p => ⟨?_, ?_, nofun⟩
  · intro id state found
    simp [moment, ofCase, Controller.ofSettings, Controller.states] at found
  · intro id _
    exact ⟨rfl, List.not_mem_nil⟩

/-- When a case has ended with its teardown, each of its services was asked to stop once, and
once more for each time that its stop was cut off before.  Once at most that was not done by the
body itself.  Nothing else was asked to stop. -/
theorem count_stop_of_closed (config : Config) (test : Test) (case : TestCase) (ticket : Nat)
    (beats : List Beat) {record : CaseRecord}
    (closed : ((ofCase config test case).run ticket beats).stage = .closed record) :
    let cuts := interruptions ticket (ofCase config test case) beats
    let c := ((ofCase config test case).run ticket beats).controller
    (∀ id < c.handles.length, c.requests.count (.stop id) = 1 + cuts.count id) ∧
      (∀ id, c.handles.length ≤ id → .stop id ∉ c.requests) ∧
      cuts.length ≤ 1 + surrendered ticket (ofCase config test case) beats := by
  intro cuts c
  have orderly := orderly_ofCase config test case
  have tallied := (tallied_ofCase config test case).run orderly ticket beats
  obtain ⟨stopped, _⟩ := (orderly.run ticket beats).closed closed
  have tally : Counts cuts (((ofCase config test case).run ticket beats).moment default) := by
    rcases tallied with ⟨message, broken⟩ | tally
    · cases closed.symm.trans broken
    · rw [List.append_nil] at tally
      exact tally default
  have idle : ((ofCase config test case).run ticket beats).operation? = none := by
    simp [operation?, closed]
  refine ⟨?_, ?_, length_interruptions_le ticket _ beats⟩
  · intro id inside
    have found := List.getElem?_eq_getElem inside
    have counted := tally.counted (Controller.getElem?_states found)
    rw [if_pos (stopped id _ found), Moment.wait?, moment, idle] at counted
    exact counted
  · intro id beyond
    have missing : c.states[id]? = none := by simpa [Controller.states] using beyond
    exact List.count_eq_zero.mp (tally.unknown missing).1

/-! ## A stop that is cut off -/

/-- The body stops the only service, and the limit of the case passes before that is done. -/
def lateStop : List Beat :=
  [⟨0, .quiet, .enter, .ofHosts ["one"]⟩,
    ⟨0, .quiet, .answer (.materialized (.ok ⟨[], []⟩)), .ofHosts ["one"]⟩,
    ⟨0, .quiet, .answer (.acknowledged (.ok ())), .ofHosts ["one"]⟩,
    ⟨0, .quiet, .answer (.probed (.ok true)), .ofHosts ["one"]⟩,
    ⟨1000000000, .quiet, .expire, .ofHosts ["one"]⟩,
    ⟨1000000000, .quiet, .answer (.acknowledged (.ok ())), .ofHosts ["one"]⟩]

def stoppingEarly : Execution :=
  ofCase .standard (.lone (.asks (.stopEarly 0 none) fun _ => .idle)) ⟨0, []⟩

theorem asked_twice :
    (∃ record, (stoppingEarly.run 0 lateStop).stage = .closed record) ∧
      (stoppingEarly.run 0 lateStop).controller.handles.length = 1 ∧
      (stoppingEarly.run 0 lateStop).controller.requests.count (.stop 0) = 2 :=
  ⟨⟨_, rfl⟩, rfl, by decide⟩

theorem count_stop_of_late_stop :
    interruptions 0 stoppingEarly lateStop = [0] ∧
      (stoppingEarly.run 0 lateStop).controller.requests.count (.stop 0) =
        1 + (interruptions 0 stoppingEarly lateStop).count 0 := by
  obtain ⟨record, closed⟩ : ∃ record, (stoppingEarly.run 0 lateStop).stage = .closed record :=
    ⟨_, rfl⟩
  exact ⟨rfl, (count_stop_of_closed _ _ _ 0 lateStop closed).1 0 (by decide)⟩

end Execution

end Interop
