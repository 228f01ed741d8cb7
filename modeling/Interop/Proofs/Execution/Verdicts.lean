import Interop.Proofs.Execution.Strides

/-!
# The verdicts of executions

What is settled when a teardown begins is what the record says in the end.  It is a pass, the
outcome of an error on the way or in the body, the limit of the case or the reason of an abort;
so nothing that was executed is reported as skipped.
-/

namespace Interop

namespace Execution

/-- What an execution under that limit can come to, if it heard of those aborts only. -/
inductive Verdict (limit : Span) (heard : AbortReason → Prop) : Outcome → Prop
  | passed : Verdict limit heard .pass
  | failed (error : CaseError) : Verdict limit heard error.toOutcome
  | late : Verdict limit heard (.timeout ("case exceeded " ++ limit.limitText))
  | aborted {reason : AbortReason} (told : heard reason) : Verdict limit heard reason.outcome

theorem Verdict.kind_ne_skipped {limit : Span} {heard : AbortReason → Prop} {outcome : Outcome}
    (verdict : Verdict limit heard outcome) : outcome.kind ≠ .skipped := by
  cases verdict with
  | passed => nofun
  | failed error =>
      unfold CaseError.toOutcome
      split <;> nofun
  | late => nofun
  | @aborted reason => cases reason <;> nofun

/-- The outcome of the execution, once it is settled. -/
def settled? (e : Execution) : Option Outcome :=
  match e.stage with
  | .working (.close outcome) _ => some outcome
  | .closed record => some record.outcome
  | _ => none

structure Judged (limit : Span) (heard : AbortReason → Prop) (e : Execution) : Prop where
  limited : e.limit = limit
  verdict : ∀ {outcome : Outcome}, e.settled? = some outcome → Verdict limit heard outcome

namespace Judged

variable {limit : Span} {heard : AbortReason → Prop} {e : Execution} {now : Instant}
  {ticket : Nat} {p : Pool}

theorem unsettled (limited : e.limit = limit) (unset : e.settled? = none) :
    Judged limit heard e := by
  refine ⟨limited, ?_⟩
  intro outcome settled
  cases unset.symm.trans settled

theorem carried (h : Judged limit heard e) (controller : Controller) (began : Instant)
    (notes : List String) (attentive : Bool) :
    Judged limit heard { e with controller, began, notes, attentive } :=
  ⟨h.limited, h.verdict⟩

theorem conclude (h : Judged limit heard e) {outcome : Outcome}
    (verdict : Verdict limit heard outcome) (now : Instant) (ticket : Nat) (p : Pool) :
    Judged limit heard (Execution.conclude now ticket outcome e p).1 := by
  unfold Execution.conclude
  split
  · refine ⟨h.limited, ?_⟩
    intro outcome' settled
    obtain rfl : outcome = outcome' := Option.some.inj settled
    exact verdict
  · refine ⟨h.limited, ?_⟩
    intro outcome' settled
    obtain rfl : outcome = outcome' := Option.some.inj settled
    exact verdict
  · exact ⟨h.limited, h.verdict⟩

theorem concludeWith (h : Judged limit heard e) (error : CaseError) (now : Instant) (ticket : Nat)
    (p : Pool) : Judged limit heard (Execution.concludeWith now ticket error e p).1 :=
  h.conclude (.failed error) now ticket p

theorem keepWarning (h : Judged limit heard e) (completion : Completion) :
    Judged limit heard (e.keepWarning completion) := by
  unfold Execution.keepWarning
  split
  · exact ⟨h.limited, h.verdict⟩
  · exact h

theorem play (h : Judged limit heard e) (now : Instant) (ticket : Nat) (body : Body) (p : Pool) :
    Judged limit heard (Execution.play now ticket body e p).1 := by
  induction body generalizing e p with
  | ends result =>
      cases result with
      | ok _ => exact h.conclude .passed now ticket p
      | error error => exact h.concludeWith error now ticket p
  | panics message => exact unsettled h.limited rfl
  | asks act next ih =>
      cases act with
      | look => exact ih _ h p
      | note line => exact ih _ (h.carried _ _ _ _) p
      | sleep length =>
          unfold Execution.play
          split
          · exact ih _ h p
          · exact unsettled h.limited rfl
      | control command limit =>
          unfold Execution.play
          split
          · exact unsettled h.limited rfl
          · exact unsettled h.limited rfl
          · exact ih _ (h.carried _ _ _ _) _
      | stopEarly service limit =>
          unfold Execution.play
          split
          · exact unsettled h.limited rfl
          · exact ih _ ((h.carried _ _ _ _).keepWarning _) _

private theorem startServices (h : Judged limit heard e) (now : Instant) (ticket : Nat) (p : Pool) :
    Judged limit heard (Execution.startServices now ticket e p).1 := by
  unfold Execution.startServices
  split
  · exact unsettled h.limited rfl
  · exact (h.carried _ _ _ _).concludeWith _ now ticket _
  · exact unsettled h.limited rfl
  · exact (h.carried _ _ _ _).play now ticket _ _

theorem provisionAll (h : Judged limit heard e) (now : Instant) (ticket : Nat)
    (pending : List Descriptor) (p : Pool) :
    Judged limit heard (Execution.provisionAll now ticket pending e p).1 := by
  induction pending generalizing e p with
  | nil => exact h.startServices now ticket p
  | cons d pending ih =>
      unfold Execution.provisionAll
      split
      · exact unsettled h.limited rfl
      · exact (h.carried _ _ _ _).concludeWith _ now ticket _
      · exact unsettled h.limited rfl
      · exact ih (h.carried _ _ _ _) _

private theorem begin (h : Judged limit heard e) (now : Instant) (ticket : Nat) (p : Pool) :
    Judged limit heard (Execution.begin now ticket e p).1 := by
  unfold Execution.begin
  split
  · exact h.concludeWith _ now ticket p
  · split
    · exact unsettled h.limited rfl
    · unfold Execution.reserveNodes
      split
      · exact unsettled h.limited rfl
      · exact (h.carried _ _ _ _).concludeWith _ now ticket _
      · exact unsettled h.limited rfl
      · exact (h.carried _ _ _ _).provisionAll now ticket _ _

private theorem complete (h : Judged limit heard e) {purpose : Purpose}
    (closing : ∀ {outcome : Outcome}, purpose = .close outcome → Verdict limit heard outcome)
    (now : Instant) (ticket : Nat) (completion : Completion) (p : Pool) :
    Judged limit heard (Execution.complete now ticket purpose completion e p).1 := by
  unfold Execution.complete
  split
  · next outcome problems =>
      refine ⟨h.limited, ?_⟩
      intro outcome' settled
      obtain rfl : outcome = outcome' := Option.some.inj settled
      exact closing rfl
  · exact h
  · exact unsettled h.limited rfl
  · exact h.concludeWith _ now ticket p
  · exact h.concludeWith _ now ticket p
  · exact h.concludeWith _ now ticket p
  · exact h.provisionAll now ticket _ p
  · exact h.provisionAll now ticket _ p
  · exact h.play now ticket _ p
  · exact h.play now ticket _ p
  · exact (h.keepWarning _).play now ticket _ p

private theorem answer (h : Judged limit heard e) (now : Instant) (ticket : Nat) (a : Answer)
    (p : Pool) :
    Judged limit heard (Execution.answer now ticket a e p).1 := by
  unfold Execution.answer
  split
  · next purpose operation working =>
      have closing : ∀ {outcome : Outcome}, purpose = .close outcome →
          Verdict limit heard outcome := by
        rintro outcome rfl
        exact h.verdict (by simp [settled?, working])
      split
      · refine ⟨h.limited, ?_⟩
        intro outcome settled
        cases purpose with
        | close outcome' =>
            obtain rfl : outcome' = outcome := Option.some.inj settled
            exact closing rfl
        | reserve | provision | startAll | control | stopEarly => cases settled
      · exact (h.carried _ _ _ _).complete closing now ticket _ _
  · exact h

theorem cut (h : Judged limit heard e) {outcome : Outcome} (verdict : Verdict limit heard outcome)
    (now : Instant) (ticket : Nat) (p : Pool) :
    Judged limit heard (Execution.cut now ticket outcome e p).1 := by
  unfold Execution.cut
  split
  · exact (h.carried _ _ _ _).conclude verdict now ticket _
  · exact h.conclude verdict now ticket p

private theorem giveUp (h : Judged limit heard e) (now : Instant) (ticket : Nat) (p : Pool) :
    Judged limit heard (Execution.giveUp now ticket e p).1 := by
  unfold Execution.giveUp
  split
  · split
    · split
      · exact (h.carried _ _ _ _).play now ticket _ _
      · exact h
    · exact h
  · exact h

private theorem enter (h : Judged limit heard e) (now : Instant) (ticket : Nat)
    {signal : AbortSignal}
    (told : ∀ reason, signal.reason = some reason → heard reason) (p : Pool) :
    Judged limit heard (Execution.enter now ticket signal e p).1 := by
  unfold Execution.enter
  simp only
  split
  · exact ⟨h.limited, h.verdict⟩
  · split
    · exact (h.carried _ _ _ _).conclude (.aborted (told _ (by assumption))) now ticket p
    · exact (h.carried _ _ _ _).begin now ticket p
    · exact (h.carried _ _ _ _).cut (.aborted (told _ (by assumption))) now ticket p
    · exact ⟨h.limited, h.verdict⟩

theorem step (h : Judged limit heard e) (now : Instant) (ticket : Nat) {signal : AbortSignal}
    (told : ∀ reason, signal.reason = some reason → heard reason) (move : CaseMove) (p : Pool) :
    Judged limit heard (Execution.step now ticket signal move e p).1 := by
  cases move with
  | enter =>
      simp only [Execution.step]
      split
      · exact h
      · exact h.enter now ticket told p
  | observe | park => exact ⟨h.limited, h.verdict⟩
  | breakDown message =>
      simp only [Execution.step]
      split
      · exact h
      · unfold breakDown
        split <;> exact unsettled h.limited rfl
  | answer a =>
      simp only [Execution.step]
      split
      · exact h.answer now ticket a p
      · exact h
  | wake =>
      simp only [Execution.step]
      split
      · split
        · exact h.play now ticket _ p
        · exact h
      · exact h
  | expire =>
      simp only [Execution.step]
      split
      · exact h
      · split
        · refine h.cut ?_ now ticket p
          rw [limitOutcome, h.limited]
          exact .late
        · exact h
  | giveUp =>
      simp only [Execution.step]
      split
      · exact h.giveUp now ticket p
      · exact h

private theorem run (h : Judged limit heard e) (ticket : Nat) {beats : List Beat}
    (told : ∀ b ∈ beats, ∀ reason, b.signal.reason = some reason → heard reason) :
    Judged limit heard (e.run ticket beats) := by
  induction beats generalizing e with
  | nil => exact h
  | cons b beats ih =>
      refine ih (h.step b.now ticket (told b List.mem_cons_self) b.move b.pool) ?_
      exact fun later mem => told later (List.mem_cons_of_mem b mem)

end Judged

private theorem judged_ofCase (heard : AbortReason → Prop) (config : Config) (test : Test)
    (case : TestCase) :
    Judged (test.timeout.getD config.caseTimeout) heard (ofCase config test case) :=
  .unsettled rfl rfl

/-- The record of an execution has one of the verdicts, whatever moves it. -/
theorem verdict_of_closed (config : Config) (test : Test) (case : TestCase) (ticket : Nat)
    {beats : List Beat} {heard : AbortReason → Prop}
    (told : ∀ b ∈ beats, ∀ reason, b.signal.reason = some reason → heard reason)
    {record : CaseRecord}
    (closed : ((ofCase config test case).run ticket beats).stage = .closed record) :
    Verdict (test.timeout.getD config.caseTimeout) heard record.outcome :=
  ((judged_ofCase heard config test case).run ticket told).verdict (by simp [settled?, closed])

end Execution

end Interop
