import Interop.Proofs.Execution.Stopping
import Interop.Proofs.Execution.Verdicts

/-!
# How an execution heeds an abort

An execution looks at the abort signal when one of its turns begins.  Once a run was aborted,
what an execution has come to by the end of the turn under way is what it ends with; one that
has come to nothing by then is cut off and has the outcome of the abort.  One that has not even
begun takes nothing.
-/

namespace Interop

def CaseMove.parks : CaseMove → Bool
  | .park => true
  | _ => false

namespace Execution

def turn (e : Execution) (beats : List Beat) : List Beat :=
  if e.attentive then beats.takeWhile fun b => !b.move.parks else []

variable {now : Instant} {ticket : Nat} {signal : AbortSignal} {e : Execution} {p : Pool}
  {outcome : Outcome} {reason : AbortReason}

/-! ## What is settled -/

theorem settled?_conclude (now : Instant) (ticket : Nat) (outcome : Outcome) (e : Execution)
    (p : Pool) : (conclude now ticket outcome e p).1.settled? = some outcome := by
  have closing := Site.issue_teardown_closing now ticket ⟨p, e.controller⟩
  unfold conclude
  split
  · rfl
  · rfl
  · next completion site other issued =>
      rw [issued] at closing
      cases completion with
      | tornDown problems => exact absurd rfl (other problems)
      | reserved | provisioned | started | startedAll | ran | stopped | panicked =>
          exact closing.elim

theorem settled?_cut (now : Instant) (ticket : Nat) (outcome : Outcome) (e : Execution)
    (p : Pool) : (cut now ticket outcome e p).1.settled? = some outcome := by
  unfold cut
  split <;> exact settled?_conclude now ticket outcome _ _

theorem isClosing_of_settled? (h : e.settled? = some outcome) : e.isClosing = true := by
  unfold settled? at h
  unfold isClosing
  split at h <;> simp_all

theorem settled?_of_not_isClosing (h : e.isClosing = false) : e.settled? = none := by
  unfold isClosing at h
  unfold settled?
  split at h <;> simp_all

theorem stage_of_isClosing (closing : e.isClosing = true) (unset : e.settled? = none) :
    ∃ message, e.stage = .panicked message := by
  unfold isClosing at closing
  unfold settled? at unset
  split at closing <;> simp_all

private theorem settled?_answer (a : Answer) (h : e.settled? = some outcome) :
    (answer now ticket a e p).1.settled? = some outcome := by
  unfold answer
  split
  · next purpose operation working =>
      cases purpose with
      | close settled =>
          obtain rfl : settled = outcome := by simpa [settled?, working] using h
          split
          · rfl
          · next completion _ _ =>
              cases completion with
              | tornDown problems => rfl
              | reserved | provisioned | started | startedAll | ran | stopped | panicked =>
                  simp [complete, settled?, working]
      | reserve | provision | startAll | control | stopEarly =>
          simp [settled?, working] at h
  · exact h

/-- The outcome is settled, or the execution has broken down. -/
def Rules (outcome : Outcome) (e : Execution) : Prop :=
  e.settled? = some outcome ∨ ∃ message, e.stage = .panicked message

theorem Rules.eq {settled : Outcome} (rules : Rules outcome e)
    (h : e.settled? = some settled) : settled = outcome := by
  rcases rules with settled' | ⟨message, broken⟩
  · exact Option.some.inj (h.symm.trans settled')
  · simp [settled?, broken] at h

theorem Rules.step (rules : Rules outcome e) (now : Instant) (ticket : Nat)
    (signal : AbortSignal) (move : CaseMove) (p : Pool) :
    Rules outcome (e.step now ticket signal move p).1 := by
  rcases rules with settled | ⟨message, broken⟩
  · have closing := isClosing_of_settled? settled
    cases move with
    | enter =>
        simp only [Execution.step]
        split
        · exact .inl settled
        · unfold enter
          rw [if_pos (by exact closing)]
          exact .inl settled
    | answer a =>
        simp only [Execution.step]
        split
        · exact .inl (settled?_answer a settled)
        · exact .inl settled
    | wake =>
        simp only [Execution.step]
        split
        · next sleeping => simp [settled?, sleeping] at settled
        · exact .inl settled
    | expire =>
        simp only [Execution.step]
        split
        · exact .inl settled
        · rw [closing, Bool.not_true, Bool.and_false, Bool.false_and]
          exact .inl settled
    | observe | park => exact .inl settled
    | breakDown message =>
        simp only [Execution.step]
        split
        · exact .inl settled
        · exact .inr ⟨_, stage_breakDown ticket message e p⟩
    | giveUp =>
        simp only [Execution.step, giveUp_of_isClosing _ _ _ closing, ite_self]
        exact .inl settled
  · refine .inr ⟨message, ?_⟩
    exact (stage_step_of_isOver now signal move p (isOver_of_panicked broken)).trans broken

theorem Rules.run (rules : Rules outcome e) (ticket : Nat) (beats : List Beat) :
    Rules outcome (e.run ticket beats) := by
  induction beats generalizing e with
  | nil => exact rules
  | cons b beats ih => exact ih (rules.step b.now ticket b.signal b.move b.pool)

/-! ## Aborted executions -/

def Tells (reason : AbortReason) (beats : List Beat) : Prop :=
  ∀ b ∈ beats, b.move = .enter → b.signal.reason = some reason

private theorem Tells.of_append {before later : List Beat} (told : Tells reason (before ++ later)) :
    Tells reason later := fun b mem => told b (List.mem_append_right before mem)

def Heeds (reason : AbortReason) (e : Execution) : Prop :=
  e.attentive = false ∧ e.isClosing = false ∨ Rules reason.outcome e

private theorem settled?_enter (live : e.isClosing = false) (told : signal.reason = some reason)
    (now : Instant) (ticket : Nat) (p : Pool) :
    (enter now ticket signal e p).1.settled? = some reason.outcome := by
  have live : { e with attentive := true }.isClosing = false := live
  simp only [enter, live, told, Bool.false_eq_true, if_false]
  cases e.stage with
  | fresh => exact settled?_conclude now ticket _ _ p
  | working | sleeping | closed | panicked => exact settled?_cut now ticket _ _ p

private theorem Heeds.step (heeds : Heeds reason e) {move : CaseMove}
    (told : move = .enter → signal.reason = some reason) (now : Instant) (ticket : Nat)
    (p : Pool) : Heeds reason (e.step now ticket signal move p).1 := by
  rcases heeds with ⟨resting, live⟩ | rules
  · have still : Heeds reason e := .inl ⟨resting, live⟩
    cases move with
    | enter =>
        simp only [Execution.step, resting, Bool.false_eq_true, if_false]
        exact .inr (.inl (settled?_enter live (told rfl) now ticket p))
    | answer =>
        simp only [Execution.step, resting, Bool.false_eq_true, if_false]
        exact still
    | wake =>
        simp only [Execution.step, resting, Bool.false_and, Bool.false_eq_true, if_false]
        split <;> exact still
    | expire =>
        simp only [Execution.step, resting, Bool.false_and, Bool.false_eq_true, if_false]
        split <;> exact still
    | observe => exact .inl ⟨resting, live⟩
    | park => exact .inl ⟨rfl, live⟩
    | breakDown message =>
        simp only [Execution.step]
        split
        · exact still
        · exact .inr (.inr ⟨_, stage_breakDown ticket message e p⟩)
    | giveUp =>
        simp only [Execution.step, resting, Bool.false_eq_true, if_false]
        exact still
  · exact .inr (rules.step now ticket signal move p)

private theorem Heeds.run (heeds : Heeds reason e) (ticket : Nat) {beats : List Beat}
    (told : Tells reason beats) : Heeds reason (e.run ticket beats) := by
  induction beats generalizing e with
  | nil => exact heeds
  | cons b beats ih =>
      have now := heeds.step (told b List.mem_cons_self) b.now ticket b.pool
      exact ih now fun later mem => told later (List.mem_cons_of_mem b mem)

theorem eq_of_resting (resting : e.attentive = false) (unset : e.settled? = none) {ticket : Nat}
    {beats : List Beat} (told : Tells reason beats)
    (settled : (e.run ticket beats).settled? = some outcome) : outcome = reason.outcome := by
  have heeds : Heeds reason e := by
    cases closing : e.isClosing with
    | true => exact .inr (.inr (stage_of_isClosing closing unset))
    | false => exact .inl ⟨resting, closing⟩
  rcases heeds.run ticket told with ⟨-, live⟩ | rules
  · cases (settled?_of_not_isClosing live).symm.trans settled
  · exact rules.eq settled

/-- Once it was aborted, an execution comes to what it has come to at the end of the turn under
way, or else to the abort. -/
theorem settled_of_aborted {beats : List Beat} (told : Tells reason beats)
    (settled : (e.run ticket beats).settled? = some outcome) :
    outcome = (e.run ticket (e.turn beats)).settled?.getD reason.outcome := by
  cases resting : e.attentive with
  | false =>
      have none_left : e.turn beats = [] := by simp [turn, resting]
      rw [none_left]
      cases met : e.settled? with
      | none =>
          have same := eq_of_resting resting met told settled
          simpa [run, met] using same
      | some before =>
          have same := (Rules.run (.inl met) ticket beats).eq settled
          simpa [run, met] using same
  | true =>
      -- What is left after the turn under way begins with its end.
      have split : (beats.takeWhile fun b => !b.move.parks) ++
          (beats.dropWhile fun b => !b.move.parks) = beats := List.takeWhile_append_dropWhile
      have within : e.turn beats = beats.takeWhile fun b => !b.move.parks := by
        simp [turn, resting]
      rw [← within] at split
      have parks := List.head?_dropWhile_not (fun b : Beat => !b.move.parks) beats
      generalize beats.dropWhile (fun b => !b.move.parks) = rest at split parks
      rw [← split, run_append] at settled
      cases met : (e.run ticket (e.turn beats)).settled? with
      | some before => exact (Rules.run (.inl met) ticket rest).eq settled
      | none =>
          cases rest with
          | nil => cases met.symm.trans settled
          | cons b rest =>
              simp only [List.head?_cons, Bool.not_eq_false'] at parks
              have still : ((e.run ticket (e.turn beats)).beat ticket b).attentive = false ∧
                  ((e.run ticket (e.turn beats)).beat ticket b).settled? = none := by
                unfold beat
                cases move : b.move with
                | park => exact ⟨rfl, met⟩
                | enter | answer | wake | expire | observe | breakDown | giveUp =>
                    rw [move] at parks
                    cases parks
              have after : Tells reason rest := by
                rw [← split] at told
                exact fun later mem => told.of_append later (List.mem_cons_of_mem b mem)
              exact eq_of_resting still.1 still.2 after settled

/-! ## Executions that had not begun -/

structure Spared (settings : Settings) (e : Execution) : Prop where
  controller : e.controller = .ofSettings settings
  stands : e.stage = .fresh ∨ e.isOver = true

private theorem conclude_of_spared {settings : Settings} (h : e.controller = .ofSettings settings)
    (now : Instant) (ticket : Nat) (outcome : Outcome) (p : Pool) :
    conclude now ticket outcome e p =
      ({ e with stage := .closed (e.record now outcome []) }, p) := by
  obtain ⟨test, case, limit, overflowChecks, controller, began, warnings, notes, attentive,
    stage⟩ := e
  obtain rfl : controller = .ofSettings settings := h
  rfl

private theorem Spared.step {settings : Settings} (spared : Spared settings e) {move : CaseMove}
    (told : move = .enter → signal.reason = some reason) (now : Instant) (ticket : Nat)
    (p : Pool) : Spared settings (e.step now ticket signal move p).1 := by
  have shown (service : Nat) (exposure : Exposure) :
      e.controller.observe service exposure = .ofSettings settings := by
    rw [spared.controller]
    simp [Controller.observe, Controller.modifyHandle, Controller.ofSettings]
  rcases spared.stands with fresh | ended
  · cases move with
    | enter =>
        simp only [Execution.step]
        split
        · exact spared
        · simp only [enter, fresh, told rfl]
          rw [conclude_of_spared (by exact spared.controller)]
          exact ⟨spared.controller, .inr rfl⟩
    | answer a =>
        simp only [Execution.step, answer, fresh]
        split <;> exact spared
    | giveUp =>
        simp only [Execution.step, giveUp, fresh, ite_self]
        exact spared
    | wake | expire =>
        simp only [Execution.step, fresh]
        exact spared
    | observe service exposure => exact ⟨shown service exposure, .inl fresh⟩
    | park => exact ⟨spared.controller, .inl fresh⟩
    | breakDown message =>
        simp only [Execution.step]
        split
        · exact spared
        · simp only [breakDown, fresh, collapse, Site.drop_eq, spared.controller]
          exact ⟨rfl, .inr rfl⟩
  · obtain ⟨attentive, controller, same, kept⟩ :=
      step_of_isOver now ticket signal move p ended
    rw [same]
    refine ⟨?_, .inr ended⟩
    rcases kept with rfl | ⟨service, exposure, rfl⟩
    · exact spared.controller
    · exact shown service exposure

theorem Spared.run {settings : Settings} (spared : Spared settings e) (ticket : Nat)
    {beats : List Beat} (told : Tells reason beats) : Spared settings (e.run ticket beats) := by
  induction beats generalizing e with
  | nil => exact spared
  | cons b beats ih =>
      have now := spared.step (told b List.mem_cons_self) b.now ticket b.pool
      exact ih now fun later mem => told later (List.mem_cons_of_mem b mem)

theorem spared_ofCase (config : Config) (test : Test) (case : TestCase) :
    Spared (config.settings test.numNodes) (ofCase config test case) := ⟨rfl, .inl rfl⟩

end Execution

end Interop
