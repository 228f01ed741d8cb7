import Interop.Proofs.Execution.Returns

/-!
# Regardless of warnings

The warnings that a case has kept are for its record only.  Whatever they are at a time, the case
goes on in the same way, ends in the same way, and its record says the same of everything else.
-/

namespace Interop

namespace Execution

def Akin (e e' : Execution) : Prop := ∃ warnings, e' = { e with warnings }

inductive Alike (e e' : Execution) : Prop
  | unended (akin : Akin e e')
  | ended {record : CaseRecord} (stage : e.stage = .closed record) (warnings : List Warning)
      (messages : List String)
      (same : e' = { e with warnings, stage := .closed { record with warnings := messages } })

def Agree (r r' : Execution × Pool) : Prop := Alike r.1 r'.1 ∧ r.2 = r'.2

variable {e e' : Execution} {p : Pool} {now : Instant} {ticket : Nat}

theorem Akin.agree (akin : Akin e e') (p : Pool) : Agree (e, p) (e', p) := ⟨.unended akin, rfl⟩

theorem Akin.keepWarning (akin : Akin e e') (completion : Completion) :
    Akin (e.keepWarning completion) (e'.keepWarning completion) := by
  obtain ⟨warnings, rfl⟩ := akin
  unfold Execution.keepWarning
  split
  · exact ⟨_, rfl⟩
  · exact ⟨warnings, rfl⟩

theorem Akin.closed (akin : Akin e e') (now : Instant) (outcome : Outcome)
    (problems : List Warning) (p : Pool) :
    Agree (Execution.closed now outcome problems e, p)
      (Execution.closed now outcome problems e', p) := by
  obtain ⟨warnings, rfl⟩ := akin
  exact ⟨.ended rfl warnings _ rfl, rfl⟩

theorem Akin.conclude (akin : Akin e e') (now : Instant) (ticket : Nat) (outcome : Outcome)
    (p : Pool) :
    Agree (conclude now ticket outcome e p) (conclude now ticket outcome e' p) := by
  obtain ⟨warnings, rfl⟩ := akin
  unfold Execution.conclude
  dsimp only
  split
  · exact Akin.agree ⟨warnings, rfl⟩ _
  · next site _ =>
      exact Akin.closed (e := { e with controller := site.controller }) ⟨warnings, rfl⟩ now
        outcome _ _
  · exact Akin.agree ⟨warnings, rfl⟩ _

theorem Akin.collapse (akin : Akin e e') (message : Option String) (p : Pool) :
    Agree (collapse message e p) (collapse message e' p) := by
  obtain ⟨warnings, rfl⟩ := akin
  exact Akin.agree ⟨warnings, rfl⟩ _

theorem Akin.play (akin : Akin e e') (now : Instant) (ticket : Nat) (body : Body) (p : Pool) :
    Agree (play now ticket body e p) (play now ticket body e' p) := by
  induction body generalizing e e' p with
  | ends result => cases result <;> exact akin.conclude now ticket _ p
  | panics message => exact akin.collapse message p
  | asks act next ih =>
      cases act with
      | look =>
          obtain ⟨warnings, rfl⟩ := akin
          exact ih _ ⟨warnings, rfl⟩ p
      | note line =>
          obtain ⟨warnings, rfl⟩ := akin
          exact ih _ (e := { e with notes := line :: e.notes }) ⟨warnings, rfl⟩ p
      | sleep length =>
          unfold Execution.play
          split
          · exact ih _ akin p
          · obtain ⟨warnings, rfl⟩ := akin
            exact Akin.agree ⟨warnings, rfl⟩ _
      | control command limit =>
          obtain ⟨warnings, rfl⟩ := akin
          unfold Execution.play
          dsimp only
          split
          · exact Akin.agree ⟨warnings, rfl⟩ _
          · exact Akin.collapse ⟨warnings, rfl⟩ _ _
          · exact ih _ ⟨warnings, rfl⟩ _
      | stopEarly service limit =>
          obtain ⟨warnings, rfl⟩ := akin
          unfold Execution.play
          dsimp only
          split
          · exact Akin.agree ⟨warnings, rfl⟩ _
          · next completion site _ => exact ih _ (Akin.keepWarning ⟨warnings, rfl⟩ completion) _

private theorem Akin.startServices (akin : Akin e e') (now : Instant) (ticket : Nat) (p : Pool) :
    Agree (startServices now ticket e p) (startServices now ticket e' p) := by
  obtain ⟨warnings, rfl⟩ := akin
  unfold Execution.startServices
  dsimp only
  split
  · exact Akin.agree ⟨warnings, rfl⟩ _
  · exact Akin.conclude ⟨warnings, rfl⟩ now ticket _ _
  · exact Akin.collapse ⟨warnings, rfl⟩ _ _
  · exact Akin.play ⟨warnings, rfl⟩ now ticket _ _

theorem Akin.provisionAll (akin : Akin e e') (now : Instant) (ticket : Nat)
    (pending : List Descriptor) (p : Pool) :
    Agree (provisionAll now ticket pending e p) (provisionAll now ticket pending e' p) := by
  induction pending generalizing e e' p with
  | nil => exact akin.startServices now ticket p
  | cons d pending ih =>
      obtain ⟨warnings, rfl⟩ := akin
      unfold Execution.provisionAll
      dsimp only
      split
      · exact Akin.agree ⟨warnings, rfl⟩ _
      · exact Akin.conclude ⟨warnings, rfl⟩ now ticket _ _
      · exact Akin.collapse ⟨warnings, rfl⟩ _ _
      · exact ih ⟨warnings, rfl⟩ _

private theorem Akin.complete (akin : Akin e e') (purpose : Purpose) (completion : Completion)
    (now : Instant) (ticket : Nat) (p : Pool) :
    Agree (complete now ticket purpose completion e p)
      (complete now ticket purpose completion e' p) := by
  obtain ⟨warnings, rfl⟩ := akin
  have akin : Akin e { e with warnings } := ⟨warnings, rfl⟩
  unfold Execution.complete
  split
  · exact akin.closed now _ _ p
  · exact akin.agree p
  · exact akin.collapse _ p
  · exact akin.conclude now ticket _ p
  · exact akin.conclude now ticket _ p
  · exact akin.conclude now ticket _ p
  · exact akin.provisionAll now ticket _ p
  · exact akin.provisionAll now ticket _ p
  · exact akin.play now ticket _ p
  · exact akin.play now ticket _ p
  · exact (akin.keepWarning _).play now ticket _ p

private theorem Akin.reserveNodes (akin : Akin e e') (now : Instant) (ticket count : Nat)
    (ds : List Descriptor) (p : Pool) :
    Agree (reserveNodes now ticket count ds e p) (reserveNodes now ticket count ds e' p) := by
  obtain ⟨warnings, rfl⟩ := akin
  unfold Execution.reserveNodes
  dsimp only
  split
  · exact Akin.agree ⟨warnings, rfl⟩ _
  · exact Akin.conclude ⟨warnings, rfl⟩ now ticket _ _
  · exact Akin.collapse ⟨warnings, rfl⟩ _ _
  · exact Akin.provisionAll ⟨warnings, rfl⟩ now ticket _ _

private theorem Akin.begin (akin : Akin e e') (now : Instant) (ticket : Nat) (p : Pool) :
    Agree (begin now ticket e p) (begin now ticket e' p) := by
  obtain ⟨warnings, rfl⟩ := akin
  have plan : ({ e with warnings } : Execution).plan = e.plan := rfl
  unfold Execution.begin
  rw [plan]
  split
  · exact Akin.conclude ⟨warnings, rfl⟩ now ticket _ p
  · dsimp only
    split
    · exact Akin.collapse ⟨warnings, rfl⟩ _ p
    · exact Akin.reserveNodes ⟨warnings, rfl⟩ now ticket _ _ p

private theorem Akin.answer (akin : Akin e e') (now : Instant) (ticket : Nat) (given : Answer)
    (p : Pool) : Agree (answer now ticket given e p) (answer now ticket given e' p) := by
  obtain ⟨warnings, rfl⟩ := akin
  unfold Execution.answer
  dsimp only
  split
  · split
    · exact Akin.agree ⟨warnings, rfl⟩ _
    · exact Akin.complete ⟨warnings, rfl⟩ _ _ now ticket _
  · exact Akin.agree ⟨warnings, rfl⟩ p

private theorem Akin.giveUp (akin : Akin e e') (now : Instant) (ticket : Nat) (p : Pool) :
    Agree (giveUp now ticket e p) (giveUp now ticket e' p) := by
  obtain ⟨warnings, rfl⟩ := akin
  have akin : Akin e { e with warnings } := ⟨warnings, rfl⟩
  unfold Execution.giveUp
  dsimp only
  split
  · split
    · split
      · exact Akin.play ⟨warnings, rfl⟩ now ticket _ _
      · exact akin.agree p
    · exact akin.agree p
  · exact akin.agree p

private theorem Akin.cut (akin : Akin e e') (now : Instant) (ticket : Nat) (outcome : Outcome)
    (p : Pool) : Agree (cut now ticket outcome e p) (cut now ticket outcome e' p) := by
  obtain ⟨warnings, rfl⟩ := akin
  unfold Execution.cut
  dsimp only
  split
  · exact Akin.conclude ⟨warnings, rfl⟩ now ticket outcome _
  · exact Akin.conclude ⟨warnings, rfl⟩ now ticket outcome p

private theorem Akin.breakDown (akin : Akin e e') (ticket : Nat) (message : Option String)
    (p : Pool) :
    Agree (breakDown ticket message e p) (breakDown ticket message e' p) := by
  obtain ⟨warnings, rfl⟩ := akin
  unfold Execution.breakDown
  dsimp only
  split
  · exact Akin.agree ⟨warnings, rfl⟩ _
  · exact Akin.agree ⟨warnings, rfl⟩ _

private theorem Akin.step (akin : Akin e e') (now : Instant) (ticket : Nat) (signal : AbortSignal)
    (move : CaseMove) (p : Pool) :
    Agree (e.step now ticket signal move p) (e'.step now ticket signal move p) := by
  obtain ⟨warnings, rfl⟩ := akin
  have akin : Akin e { e with warnings } := ⟨warnings, rfl⟩
  cases move with
  | enter =>
      simp only [Execution.step]
      split
      · exact akin.agree p
      · unfold enter
        have closing : ({ e with warnings, attentive := true } : Execution).isClosing =
          { e with attentive := true }.isClosing := rfl
        dsimp only
        rw [closing]
        split
        · exact Akin.agree ⟨warnings, rfl⟩ p
        · split
          · exact Akin.conclude ⟨warnings, rfl⟩ now ticket _ p
          · exact Akin.begin ⟨warnings, rfl⟩ now ticket p
          · exact Akin.cut ⟨warnings, rfl⟩ now ticket _ p
          · exact Akin.agree ⟨warnings, rfl⟩ p
  | observe | park => exact Akin.agree ⟨warnings, rfl⟩ p
  | breakDown message =>
      have settled : ({ e with warnings } : Execution).isOver = e.isOver := rfl
      simp only [Execution.step, settled]
      split
      · exact akin.agree p
      · exact akin.breakDown ticket message p
  | answer given =>
      simp only [Execution.step]
      split
      · exact akin.answer now ticket given p
      · exact akin.agree p
  | wake =>
      simp only [Execution.step]
      split
      · split
        · exact akin.play now ticket _ p
        · exact akin.agree p
      · exact akin.agree p
  | expire =>
      have closing : ({ e with warnings } : Execution).isClosing = e.isClosing := rfl
      have deadline : ({ e with warnings } : Execution).deadline = e.deadline := rfl
      simp only [Execution.step, closing, deadline]
      split
      · exact akin.agree p
      · split
        · exact akin.cut now ticket _ p
        · exact akin.agree p
  | giveUp =>
      simp only [Execution.step]
      split
      · exact akin.giveUp now ticket p
      · exact akin.agree p

theorem Akin.run {record : CaseRecord} (akin : Akin e e') {ticket : Nat} {beats : List Beat}
    (closed : (e.run ticket beats).stage = .closed record) :
    ∃ messages, (e'.run ticket beats).stage = .closed { record with warnings := messages } := by
  induction beats generalizing e e' with
  | nil =>
      obtain ⟨warnings, rfl⟩ := akin
      exact ⟨record.warnings, closed⟩
  | cons b beats ih =>
      obtain ⟨alike, -⟩ := akin.step b.now ticket b.signal b.move b.pool
      cases alike with
      | unended akin => exact ih akin closed
      | @ended earlier stage warnings messages same =>
          have ended : (e.beat ticket b).isOver = true := isOver_of_closed stage
          have stays : (e.run ticket (b :: beats)).stage = .closed earlier :=
            (stage_run_of_isOver ended ticket beats).trans stage
          cases closed.symm.trans stays
          have stage' : (e'.beat ticket b).stage = .closed { record with warnings := messages } :=
            congrArg Execution.stage same
          refine ⟨messages, ?_⟩
          exact (stage_run_of_isOver (isOver_of_closed stage') ticket beats).trans stage'

end Execution

end Interop
