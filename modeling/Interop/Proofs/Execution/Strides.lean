import Interop.Execution
import Interop.Proofs.Lifecycle.Closing
import Mathlib.Logic.Relation

/-!
# The strides of an execution

A single move can take an execution through many operations: the rest of the way to the body,
whatever the body asks for that needs no waiting, the beginning of the teardown.  `Stride` lists
once what happens on the way.  Every move is a sequence of strides, after the operation in
progress was dropped where the move cuts it off; so what every stride keeps, every execution
keeps.
-/

namespace Interop

def Purpose.isClose : Purpose → Bool
  | .close _ => true
  | _ => false

namespace Execution

def operation? (e : Execution) : Option Operation :=
  match e.stage with
  | .working _ operation => some operation
  | _ => none

/-- An execution in the course of a move.  While nothing is in progress the stage is the one
that was left. -/
structure Moment where
  execution : Execution
  pool : Pool
  operation : Option Operation

def moment (e : Execution) (p : Pool) : Moment := ⟨e, p, e.operation?⟩

def abandoned (ticket : Nat) (e : Execution) (p : Pool) : Moment :=
  match e.operation? with
  | none => ⟨e, p, none⟩
  | some operation =>
    let site := Site.cancel ticket operation ⟨p, e.controller⟩
    ⟨{ e with controller := site.controller }, site.pool, none⟩

theorem controller_abandoned (ticket : Nat) (e : Execution) (p : Pool) :
    (e.abandoned ticket p).execution.controller = e.controller := by
  unfold abandoned
  split
  · rfl
  · exact Site.controller_cancel _ _ _

def closed (now : Instant) (outcome : Outcome) (problems : List Warning) (e : Execution) :
    Execution :=
  { e with stage := .closed (e.record now outcome problems) }

inductive Stride (now : Instant) (ticket : Nat) : Moment → Moment → Prop
  | jots (e : Execution) (p : Pool) (operation : Option Operation) (began : Instant)
      (warnings : List Warning) (notes : List String) (attentive : Bool) :
      Stride now ticket ⟨e, p, operation⟩
        ⟨{ e with began, warnings, notes, attentive }, p, operation⟩
  | observes (e : Execution) (p : Pool) (operation : Option Operation) (service : Nat)
      (exposure : Exposure) :
      Stride now ticket ⟨e, p, operation⟩
        ⟨{ e with controller := e.controller.observe service exposure }, p, operation⟩
  | sleeps (e : Execution) (p : Pool) (wake : Instant) (next : Reply → Body) :
      Stride now ticket ⟨e, p, none⟩ ⟨{ e with stage := .sleeping wake next }, p, none⟩
  | waits {e : Execution} {p : Pool} {command : Command} {purpose : Purpose}
      {operation : Operation} {site : Site}
      (issued : Site.issue now ticket command ⟨p, e.controller⟩ = (.waiting operation, site))
      (closing : purpose.isClose = true → command = .teardown) :
      Stride now ticket ⟨e, p, none⟩
        ⟨{ e with controller := site.controller, stage := .working purpose operation },
          site.pool, some operation⟩
  | finishes {e : Execution} {p : Pool} {command : Command} {completion : Completion}
      {site : Site} (live : e.isOver = false)
      (issued : Site.issue now ticket command ⟨p, e.controller⟩ = (.finished completion, site)) :
      Stride now ticket ⟨e, p, none⟩
        ⟨{ e with controller := site.controller }, site.pool, none⟩
  | closesAtOnce {e : Execution} {p : Pool} {problems : List Warning} {site : Site}
      (outcome : Outcome)
      (issued : Site.issue now ticket .teardown ⟨p, e.controller⟩ =
        (.finished (.tornDown problems), site)) :
      Stride now ticket ⟨e, p, none⟩
        ⟨closed now outcome problems { e with controller := site.controller }, site.pool, none⟩
  | resumes {e : Execution} {p : Pool} {purpose : Purpose} {operation later : Operation}
      {answer : Answer} {site : Site} (working : e.stage = .working purpose operation)
      (resumed : Site.resume now ticket operation answer ⟨p, e.controller⟩ =
        (.waiting later, site)) :
      Stride now ticket ⟨e, p, some operation⟩
        ⟨{ e with controller := site.controller, stage := .working purpose later },
          site.pool, some later⟩
  | completes {e : Execution} {p : Pool} {purpose : Purpose} {operation : Operation}
      {answer : Answer} {completion : Completion} {site : Site}
      (working : e.stage = .working purpose operation)
      (resumed : Site.resume now ticket operation answer ⟨p, e.controller⟩ =
        (.finished completion, site)) :
      Stride now ticket ⟨e, p, some operation⟩
        ⟨{ e with controller := site.controller }, site.pool, none⟩
  | closes {e : Execution} {p : Pool} {outcome : Outcome} {operation : Operation}
      {answer : Answer} {problems : List Warning} {site : Site}
      (working : e.stage = .working (.close outcome) operation)
      (resumed : Site.resume now ticket operation answer ⟨p, e.controller⟩ =
        (.finished (.tornDown problems), site)) :
      Stride now ticket ⟨e, p, some operation⟩
        ⟨closed now outcome problems { e with controller := site.controller }, site.pool, none⟩
  | collapses (e : Execution) (p : Pool) (message : Option String) :
      Stride now ticket ⟨e, p, none⟩
        ⟨(collapse message e p).1, (collapse message e p).2, none⟩

def Settles (now : Instant) (ticket : Nat) (m : Moment) (r : Execution × Pool) : Prop :=
  Relation.ReflTransGen (Stride now ticket) m (r.1.moment r.2)

variable {now : Instant} {ticket : Nat} {e : Execution} {p : Pool}

theorem Settles.head {m m' : Moment} {r : Execution × Pool} (stride : Stride now ticket m m')
    (settles : Settles now ticket m' r) : Settles now ticket m r :=
  Relation.ReflTransGen.head stride settles

theorem Settles.single {m : Moment} {r : Execution × Pool}
    (stride : Stride now ticket m (r.1.moment r.2)) : Settles now ticket m r :=
  Relation.ReflTransGen.single stride

theorem Settles.keeps {P : Moment → Prop} {m : Moment} {r : Execution × Pool}
    (settles : Settles now ticket m r)
    (kept : ∀ {m m'}, Stride now ticket m m' → P m → P m') (h : P m) : P (r.1.moment r.2) := by
  unfold Settles at settles
  -- The last moment has to vary, as the induction shortens the way from its end.
  generalize r.1.moment r.2 = after at settles ⊢
  induction settles with
  | refl => exact h
  | tail _ stride ih => exact kept stride ih

/-! ## The end -/

theorem conclude_settles (now : Instant) (ticket : Nat) (outcome : Outcome) (e : Execution)
    (p : Pool) : Settles now ticket ⟨e, p, none⟩ (conclude now ticket outcome e p) := by
  have closing := Site.issue_teardown_closing now ticket ⟨p, e.controller⟩
  unfold conclude
  split
  · next issued => exact .single (.waits issued fun _ => rfl)
  · next issued => exact .single (.closesAtOnce outcome issued)
  · next completion site other issued =>
      rw [issued] at closing
      cases completion with
      | tornDown problems => exact absurd rfl (other problems)
      | reserved | provisioned | started | startedAll | ran | stopped | panicked =>
          exact closing.elim

theorem isClosing_conclude (now : Instant) (ticket : Nat) (outcome : Outcome) (e : Execution)
    (p : Pool) : (conclude now ticket outcome e p).1.isClosing = true := by
  have closing := Site.issue_teardown_closing now ticket ⟨p, e.controller⟩
  unfold conclude
  split
  · rfl
  · rfl
  · next completion site other issued =>
      rw [issued] at closing
      cases completion with
      | tornDown problems => exact absurd rfl (other problems)
      | reserved | provisioned | started | startedAll | ran | stopped | panicked =>
          exact closing.elim

/-! ## The body -/

theorem isOver_keepWarning (e : Execution) (completion : Completion) :
    (e.keepWarning completion).isOver = e.isOver := by
  unfold keepWarning
  split <;> rfl

theorem keepWarning_settles {completion : Completion} {r : Execution × Pool}
    (settles : Settles now ticket ⟨e.keepWarning completion, p, none⟩ r) :
    Settles now ticket ⟨e, p, none⟩ r := by
  refine .head ?_ settles
  unfold keepWarning
  split <;> exact .jots e p none _ _ _ _

theorem play_settles (now : Instant) (ticket : Nat) (body : Body) (e : Execution) (p : Pool)
    (live : e.isOver = false) : Settles now ticket ⟨e, p, none⟩ (play now ticket body e p) := by
  induction body generalizing e p with
  | ends result =>
      cases result with
      | ok _ => exact conclude_settles now ticket _ e p
      | error error => exact conclude_settles now ticket _ e p
  | panics message => exact .single (.collapses e p message)
  | asks act next ih =>
      cases act with
      | look => exact ih _ e p live
      | note line => exact .head (.jots e p none _ _ _ _) (ih _ _ p live)
      | sleep length =>
          unfold play
          split
          · exact ih _ e p live
          · exact .single (.sleeps e p _ next)
      | control command limit =>
          unfold play
          split
          · next issued => exact .single (.waits issued (by simp [Purpose.isClose]))
          · next issued => exact .head (.finishes live issued) (.single (.collapses _ _ _))
          · next issued => exact .head (.finishes live issued) (ih _ _ _ live)
      | stopEarly service limit =>
          unfold play
          split
          · next issued => exact .single (.waits issued (by simp [Purpose.isClose]))
          · next issued =>
              refine .head (.finishes live issued) (keepWarning_settles (ih _ _ _ ?_))
              rw [isOver_keepWarning]
              exact live

/-! ## The way to the body -/

private theorem startServices_settles (now : Instant) (ticket : Nat) (e : Execution) (p : Pool)
    (live : e.isOver = false) :
    Settles now ticket ⟨e, p, none⟩ (startServices now ticket e p) := by
  unfold startServices
  split
  · next issued => exact .single (.waits issued (by simp [Purpose.isClose]))
  · next issued => exact .head (.finishes live issued) (conclude_settles now ticket _ _ _)
  · next issued => exact .head (.finishes live issued) (.single (.collapses _ _ _))
  · next issued => exact .head (.finishes live issued) (play_settles now ticket _ _ _ live)

theorem provisionAll_settles (now : Instant) (ticket : Nat) (pending : List Descriptor)
    (e : Execution) (p : Pool) (live : e.isOver = false) :
    Settles now ticket ⟨e, p, none⟩ (provisionAll now ticket pending e p) := by
  induction pending generalizing e p with
  | nil => exact startServices_settles now ticket e p live
  | cons d pending ih =>
      unfold provisionAll
      split
      · next issued => exact .single (.waits issued (by simp [Purpose.isClose]))
      · next issued => exact .head (.finishes live issued) (conclude_settles now ticket _ _ _)
      · next issued => exact .head (.finishes live issued) (.single (.collapses _ _ _))
      · next issued => exact .head (.finishes live issued) (ih _ _ live)

private theorem begin_settles (now : Instant) (ticket : Nat) (e : Execution) (p : Pool)
    (live : e.isOver = false) : Settles now ticket ⟨e, p, none⟩ (begin now ticket e p) := by
  unfold begin
  split
  · exact conclude_settles now ticket _ e p
  · next ds _ =>
      split
      · exact .single (.collapses e p _)
      · unfold reserveNodes
        split
        · next issued => exact .single (.waits issued (by simp [Purpose.isClose]))
        · next issued => exact .head (.finishes live issued) (conclude_settles now ticket _ _ _)
        · next issued => exact .head (.finishes live issued) (.single (.collapses _ _ _))
        · next issued =>
            exact .head (.finishes live issued) (provisionAll_settles now ticket ds _ _ live)

/-! ## Moves -/

private theorem complete_settles {purpose : Purpose} {operation : Operation} {answer : Answer}
    {completion : Completion} {site : Site} (working : e.stage = .working purpose operation)
    (closes : purpose.isClose = true → operation.Closes e.controller)
    (resumed : Site.resume now ticket operation answer ⟨p, e.controller⟩ =
      (.finished completion, site)) :
    Settles now ticket ⟨e, p, some operation⟩
      (complete now ticket purpose completion { e with controller := site.controller }
        site.pool) := by
  have live : { e with controller := site.controller }.isOver = false := by
    simp [isOver, working]
  have done : Stride now ticket _ _ := .completes working resumed
  cases purpose with
  | close outcome =>
      have closing := Site.resume_closing (closes rfl) now ticket answer (s := ⟨p, e.controller⟩)
      rw [resumed] at closing
      cases completion with
      | tornDown problems => exact .single (.closes working resumed)
      | reserved | provisioned | started | startedAll | ran | stopped | panicked =>
          exact closing.elim
  | reserve ds =>
      refine .head done ?_
      cases completion with
      | reserved result =>
          cases result with
          | error error => exact conclude_settles now ticket _ _ _
          | ok _ => exact provisionAll_settles now ticket ds _ _ live
      | panicked message => exact .single (.collapses _ _ _)
      | provisioned | started | startedAll | ran | stopped | tornDown =>
          exact provisionAll_settles now ticket ds _ _ live
  | provision ds =>
      refine .head done ?_
      cases completion with
      | provisioned result =>
          cases result with
          | error error => exact conclude_settles now ticket _ _ _
          | ok _ => exact provisionAll_settles now ticket ds _ _ live
      | panicked message => exact .single (.collapses _ _ _)
      | reserved | started | startedAll | ran | stopped | tornDown =>
          exact provisionAll_settles now ticket ds _ _ live
  | startAll =>
      refine .head done ?_
      cases completion with
      | startedAll result =>
          cases result with
          | error error => exact conclude_settles now ticket _ _ _
          | ok _ => exact play_settles now ticket _ _ _ live
      | panicked message => exact .single (.collapses _ _ _)
      | reserved | provisioned | started | ran | stopped | tornDown =>
          exact play_settles now ticket _ _ _ live
  | control next limit =>
      refine .head done ?_
      cases completion with
      | panicked message => exact .single (.collapses _ _ _)
      | reserved | provisioned | started | startedAll | ran | stopped | tornDown =>
          exact play_settles now ticket _ _ _ live
  | stopEarly next limit =>
      refine .head done ?_
      have goes : ({ e with controller := site.controller }.keepWarning completion).isOver =
          false := by
        rw [isOver_keepWarning]
        exact live
      cases completion with
      | panicked message => exact .single (.collapses _ _ _)
      | reserved | provisioned | started | startedAll | ran | stopped | tornDown =>
          exact keepWarning_settles (play_settles now ticket _ _ _ goes)

/-- With the operation in progress: a teardown has everything that is left on its list, and an
execution that has ended has nothing left. -/
structure Orderly (e : Execution) (operation : Option Operation) : Prop where
  closes : ∀ {outcome current}, e.stage = .working (.close outcome) current →
    operation = some current → current.Closes e.controller
  closed : ∀ {record}, e.stage = .closed record → e.controller.Closed
  dropped : ∀ {message}, e.stage = .panicked message → e.controller.Dropped

private theorem answer_settles (now : Instant) (ticket : Nat) (a : Answer)
    (orderly : e.Orderly e.operation?) (p : Pool) :
    Settles now ticket (e.moment p) (answer now ticket a e p) := by
  unfold answer
  split
  · next purpose operation working =>
      have current : e.operation? = some operation := by simp [operation?, working]
      rw [moment, current]
      split
      · next resumed => exact .single (.resumes working resumed)
      · next resumed =>
          refine complete_settles working ?_ resumed
          intro closing
          cases purpose with
          | close outcome => exact orderly.closes working current
          | reserve | provision | startAll | control | stopEarly => cases closing
  · exact .refl

def isCut (move : CaseMove) (before after : Execution) : Bool :=
  match move with
  | .enter | .expire => !before.isClosing && after.isClosing
  | _ => false

def surrenders (now : Instant) (move : CaseMove) (e : Execution) : Bool :=
  match move, e.stage with
  | .giveUp, .working purpose _ =>
    e.attentive && purpose.limit?.any fun bound => decide (bound.1 ≤ now)
  | _, _ => false

def cutsOff (now : Instant) (move : CaseMove) (before after : Execution) : Bool :=
  isCut move before after || surrenders now move before

theorem cut_settles (now : Instant) (ticket : Nat) (outcome : Outcome) (e : Execution)
    (p : Pool) : Settles now ticket (e.abandoned ticket p) (cut now ticket outcome e p) := by
  cases working : e.stage with
  | working purpose operation =>
      simp only [cut, abandoned, operation?, working]
      exact conclude_settles now ticket outcome _ _
  | fresh | sleeping | closed | panicked =>
      simp only [cut, abandoned, operation?, working]
      exact conclude_settles now ticket outcome e p

theorem isClosing_cut (now : Instant) (ticket : Nat) (outcome : Outcome) (e : Execution)
    (p : Pool) : (cut now ticket outcome e p).1.isClosing = true := by
  unfold cut
  split <;> exact isClosing_conclude now ticket outcome _ _

private theorem breakDown_settles (now : Instant) (ticket : Nat) (message : Option String)
    (e : Execution) (p : Pool) :
    Settles now ticket (e.abandoned ticket p) (breakDown ticket message e p) := by
  cases working : e.stage with
  | working purpose operation =>
      simp only [breakDown, abandoned, operation?, working]
      exact .single (.collapses _ _ message)
  | fresh | sleeping | closed | panicked =>
      simp only [breakDown, abandoned, operation?, working]
      exact .single (.collapses e p message)

theorem stage_breakDown (ticket : Nat) (message : Option String) (e : Execution) (p : Pool) :
    (breakDown ticket message e p).1.stage = .panicked (message.getD nameless) := by
  unfold breakDown
  split <;> rfl

theorem isOver_of_closed {record : CaseRecord} (h : e.stage = .closed record) :
    e.isOver = true := by
  simp [isOver, h]

theorem isOver_of_panicked {message : String} (h : e.stage = .panicked message) :
    e.isOver = true := by
  simp [isOver, h]

theorem isOver_of_not_isClosing (h : e.isClosing = false) : e.isOver = false := by
  unfold isClosing at h
  unfold isOver
  split <;> simp_all

/-- What a move comes to: strides from where the execution is, or from where it is once the
operation in progress was dropped. -/
inductive Advances (now : Instant) (ticket : Nat) (move : CaseMove) (e : Execution) (p : Pool)
    (r : Execution × Pool) : Prop
  | goesOn (settles : Settles now ticket (e.moment p) r)
      (uncut : cutsOff now move e r.1 = true → e.operation? = none)
  | drops (live : e.isOver = false) (settles : Settles now ticket (e.abandoned ticket p) r)
      (ending : cutsOff now move e r.1 = true ∨ ∃ message, r.1.stage = .panicked message)

private theorem jots_abandoned (ticket : Nat) (e : Execution) (p : Pool) (attentive : Bool) :
    Stride now ticket (e.abandoned ticket p) ({ e with attentive }.abandoned ticket p) := by
  cases working : e.operation? with
  | none =>
      have same : { e with attentive }.operation? = none := working
      simp only [abandoned, working, same]
      exact .jots e p none _ _ _ _
  | some operation =>
      have same : { e with attentive }.operation? = some operation := working
      simp only [abandoned, working, same]
      exact .jots _ _ none _ _ _ _

private theorem surrenders_of_inattentive (absent : ¬ e.attentive = true) (now : Instant)
    (move : CaseMove) : surrenders now move e = false := by
  unfold surrenders
  split
  · simp [absent]
  · rfl

private theorem giveUp_advances (now : Instant) (ticket : Nat) (attentive : e.attentive = true)
    (p : Pool) : Advances now ticket .giveUp e p (giveUp now ticket e p) := by
  have stays : surrenders now .giveUp e = false →
      Advances now ticket .giveUp e p (e, p) := fun kept =>
    .goesOn .refl (by simp [cutsOff, isCut, kept])
  unfold giveUp
  split
  · next purpose operation working =>
      split
      · next limit next limited =>
          split
          · next passed =>
              refine .drops (by simp [isOver, working]) ?_ (.inl ?_)
              · simp only [abandoned, operation?, working]
                exact play_settles now ticket _ _ _ (by simp [isOver])
              · simp [cutsOff, surrenders, working, attentive, limited, passed]
          · next early => exact stays (by simp [surrenders, working, limited, early])
      · next unlimited => exact stays (by simp [surrenders, working, unlimited])
  · next idle => exact stays (by unfold surrenders; split <;> simp_all)

private theorem enter_advances (now : Instant) (ticket : Nat) (signal : AbortSignal) (e : Execution)
    (p : Pool) : Advances now ticket .enter e p (enter now ticket signal e p) := by
  have looked : Settles now ticket (e.moment p) ({ e with attentive := true }, p) :=
    .single (.jots e p e.operation? _ _ _ _)
  have unmoved : cutsOff now .enter e { e with attentive := true } = true →
      e.operation? = none := by
    intro h
    have : (!e.isClosing && e.isClosing || false) = true := h
    simp at this
  unfold enter
  simp only
  split
  · exact .goesOn looked unmoved
  · next opening =>
      have opening : e.isClosing = false := eq_false_of_ne_true opening
      split
      · next fresh _ =>
          have idle : e.operation? = none := by
            have : e.stage = .fresh := fresh
            simp [operation?, this]
          refine .goesOn ?_ fun _ => idle
          rw [moment, idle]
          exact .head (.jots e p none _ _ _ _) (conclude_settles now ticket _ _ p)
      · next fresh _ =>
          have fresh : e.stage = .fresh := fresh
          have idle : e.operation? = none := by simp [operation?, fresh]
          refine .goesOn ?_ fun _ => idle
          rw [moment, idle]
          exact .head (.jots e p none _ _ _ _)
            (begin_settles now ticket _ p (by simp [isOver, fresh]))
      · refine .drops (isOver_of_not_isClosing opening) ?_ (.inl ?_)
        · exact .head (jots_abandoned ticket e p true) (cut_settles now ticket _ _ p)
        · simp only [cutsOff, isCut, opening, isClosing_cut, Bool.not_false, Bool.and_self,
            Bool.true_or]
      · exact .goesOn looked unmoved

theorem step_advances (now : Instant) (ticket : Nat) (signal : AbortSignal) (move : CaseMove)
    (orderly : e.Orderly e.operation?) (p : Pool) :
    Advances now ticket move e p (step now ticket signal move e p) := by
  cases move with
  | enter =>
      simp only [step]
      split
      · exact .goesOn .refl (by simp [cutsOff, isCut, surrenders])
      · exact enter_advances now ticket signal e p
  | observe service exposure =>
      exact .goesOn (.single (.observes e p e.operation? service exposure))
        (by simp [cutsOff, isCut, surrenders])
  | breakDown message =>
      simp only [step]
      split
      · exact .goesOn .refl (by simp [cutsOff, isCut, surrenders])
      · next live =>
          exact .drops (by simpa using live) (breakDown_settles now ticket message e p)
            (.inr ⟨_, stage_breakDown ticket message e p⟩)
  | park =>
      exact .goesOn (.single (.jots e p e.operation? _ _ _ _))
        (by simp [cutsOff, isCut, surrenders])
  | answer a =>
      simp only [step]
      split
      · exact .goesOn (answer_settles now ticket a orderly p) (by simp [cutsOff, isCut, surrenders])
      · exact .goesOn .refl (by simp [cutsOff, isCut, surrenders])
  | wake =>
      simp only [step]
      split
      · next wake next sleeping =>
          split
          · refine .goesOn ?_ (by simp [cutsOff, isCut, surrenders])
            rw [moment, show e.operation? = none by simp [operation?, sleeping]]
            exact play_settles now ticket _ e p (by simp [isOver, sleeping])
          · exact .goesOn .refl (by simp [cutsOff, isCut, surrenders])
      · exact .goesOn .refl (by simp [cutsOff, isCut, surrenders])
  | expire =>
      simp only [step]
      split
      · exact .goesOn .refl (by simp [cutsOff, isCut, surrenders])
      · split
        · next due =>
            have opening : e.isClosing = false := by simp_all
            refine .drops (isOver_of_not_isClosing opening) (cut_settles now ticket _ e p) (.inl ?_)
            simp only [cutsOff, isCut, opening, isClosing_cut, Bool.not_false, Bool.and_self,
              Bool.true_or]
        · exact .goesOn .refl (by simp [cutsOff, isCut, surrenders])
  | giveUp =>
      simp only [step]
      split
      · next attentive => exact giveUp_advances now ticket attentive p
      · next absent =>
          exact .goesOn .refl (by simp [cutsOff, isCut, surrenders_of_inattentive absent])

theorem Advances.keeps {P : Moment → Prop} {move : CaseMove} {r : Execution × Pool}
    (advances : Advances now ticket move e p r)
    (kept : ∀ {m m'}, Stride now ticket m m' → P m → P m')
    (dropped : e.isOver = false → P (e.moment p) → P (e.abandoned ticket p))
    (h : P (e.moment p)) : P (r.1.moment r.2) := by
  cases advances with
  | goesOn settles => exact settles.keeps kept h
  | drops live settles => exact settles.keeps kept (dropped live h)

/-! ## The order of the end -/

private theorem Orderly.observe {operation : Option Operation} (orderly : e.Orderly operation)
    (service : Nat) (exposure : Exposure) :
    { e with controller := e.controller.observe service exposure }.Orderly operation where
  closes working current := by
    obtain ⟨rest, warnings, id, goal, stopping, covered⟩ := orderly.closes working current
    exact ⟨rest, warnings, id, goal, stopping,
      fun other absent => (covered other absent).observe service exposure⟩
  closed ended := by
    obtain ⟨stopped, unreserved⟩ := orderly.closed ended
    exact ⟨fun id => (stopped id).observe service exposure, unreserved⟩
  dropped broken := (orderly.dropped broken).observe service exposure

private theorem Stride.orderly {m m' : Moment} (stride : Stride now ticket m m')
    (h : m.execution.Orderly m.operation) : m'.execution.Orderly m'.operation := by
  cases stride with
  | jots => exact ⟨h.closes, h.closed, h.dropped⟩
  | observes e p operation service exposure => exact h.observe service exposure
  | sleeps e p wake next => exact ⟨nofun, nofun, nofun⟩
  | @waits e p command purpose operation site issued closing =>
      refine ⟨?_, nofun, nofun⟩
      intro outcome current working _
      cases working
      obtain rfl := closing rfl
      have := Site.issue_teardown_closing now ticket ⟨p, e.controller⟩
      rwa [issued] at this
  | @finishes e p command completion site live issued =>
      refine ⟨nofun, ?_, ?_⟩
      · intro record ended
        cases live.symm.trans (isOver_of_closed ended)
      · intro message ended
        cases live.symm.trans (isOver_of_panicked ended)
  | @closesAtOnce e p problems site outcome issued =>
      refine ⟨nofun, fun _ => ?_, nofun⟩
      have := Site.issue_teardown_closing now ticket ⟨p, e.controller⟩
      rwa [issued] at this
  | @resumes e p purpose operation later answer site working resumed =>
      refine ⟨?_, nofun, nofun⟩
      intro outcome current closing _
      cases closing
      have := Site.resume_closing (s := ⟨p, e.controller⟩) (h.closes working rfl) now ticket answer
      rwa [resumed] at this
  | completes working resumed =>
      refine ⟨nofun, ?_, ?_⟩
      · intro record ended
        cases working.symm.trans ended
      · intro message ended
        cases working.symm.trans ended
  | @closes e p outcome operation answer problems site working resumed =>
      refine ⟨nofun, fun _ => ?_, nofun⟩
      have := Site.resume_closing (s := ⟨p, e.controller⟩) (h.closes working rfl) now ticket answer
      rwa [resumed] at this
  | collapses e p message => exact ⟨nofun, nofun, fun _ => Site.dropped_drop ⟨p, e.controller⟩⟩

private theorem Orderly.abandoned {ticket : Nat} (orderly : e.Orderly e.operation?)
    (live : e.isOver = false) (p : Pool) :
    (e.abandoned ticket p).execution.Orderly (e.abandoned ticket p).operation := by
  unfold Execution.abandoned
  split
  · next idle => exact idle ▸ orderly
  · refine ⟨nofun, ?_, ?_⟩
    · intro record ended
      cases live.symm.trans (isOver_of_closed ended)
    · intro message ended
      cases live.symm.trans (isOver_of_panicked ended)

theorem Orderly.step (orderly : e.Orderly e.operation?) (now : Instant) (ticket : Nat)
    (signal : AbortSignal) (move : CaseMove) (p : Pool) :
    (e.step now ticket signal move p).1.Orderly (e.step now ticket signal move p).1.operation? :=
  (step_advances now ticket signal move orderly p).keeps
    (P := fun m => m.execution.Orderly m.operation) Stride.orderly
    (fun live orderly => orderly.abandoned live p) orderly

theorem orderly_ofCase (config : Config) (test : Test) (case : TestCase) :
    (ofCase config test case).Orderly (ofCase config test case).operation? :=
  ⟨nofun, nofun, nofun⟩

/-! ## The controller and the pool -/

def Moment.site (m : Moment) : Site := ⟨m.pool, m.execution.controller⟩

def Moment.wait? (m : Moment) : Option Wait := m.operation.map Operation.wait

theorem Stride.lasting {J : Site → Option Wait → Prop} (lasting : Site.Lasting J) {m m' : Moment}
    (stride : Stride now ticket m m') (h : J m.site m.wait?) : J m'.site m'.wait? := by
  cases stride with
  | jots | sleeps => exact h
  | observes e p operation service exposure => exact lasting.observe service exposure h
  | @waits e p command _ _ _ issued =>
      have := lasting.issue now ticket command h
      rwa [Moment.site, issued] at this
  | @finishes e p command _ _ _ issued =>
      have := lasting.issue now ticket command h
      rwa [Moment.site, issued] at this
  | closesAtOnce outcome issued =>
      have := lasting.issue now ticket .teardown h
      rwa [Moment.site, issued] at this
  | @resumes e p _ operation _ answer _ _ resumed =>
      have := lasting.resume now ticket operation answer h
      rwa [Moment.site, resumed] at this
  | @completes e p _ operation answer _ _ _ resumed =>
      have := lasting.resume now ticket operation answer h
      rwa [Moment.site, resumed] at this
  | @closes e p _ operation answer _ _ _ resumed =>
      have := lasting.resume now ticket operation answer h
      rwa [Moment.site, resumed] at this
  | collapses => exact lasting.drop h

/-! ## Runs -/

/-- One move of an execution, with the circumstances under which it comes.  Between two moves
the pool may have changed in any way. -/
structure Beat where
  now : Instant
  signal : AbortSignal
  move : CaseMove
  pool : Pool

def beat (ticket : Nat) (e : Execution) (b : Beat) : Execution :=
  (e.step b.now ticket b.signal b.move b.pool).1

def run (ticket : Nat) (e : Execution) (beats : List Beat) : Execution :=
  beats.foldl (beat ticket) e

theorem run_append (ticket : Nat) (e : Execution) (beats more : List Beat) :
    e.run ticket (beats ++ more) = (e.run ticket beats).run ticket more :=
  List.foldl_append

theorem run_concat (ticket : Nat) (e : Execution) (beats : List Beat) (b : Beat) :
    e.run ticket (beats ++ [b]) = (e.run ticket beats).beat ticket b :=
  run_append ticket e beats [b]

theorem Orderly.run (orderly : e.Orderly e.operation?) (ticket : Nat) (beats : List Beat) :
    (e.run ticket beats).Orderly (e.run ticket beats).operation? := by
  induction beats generalizing e with
  | nil => exact orderly
  | cons b beats ih => exact ih (orderly.step b.now ticket b.signal b.move b.pool)

/-! ## What an execution is about -/

structure Concerns (test : Test) (case : TestCase) (e : Execution) : Prop where
  test_eq : e.test = test
  case_eq : e.case = case
  record_eq : ∀ {record : CaseRecord}, e.stage = .closed record →
    record.test = test.name ∧ record.case = case

private theorem Stride.concerns {test : Test} {case : TestCase} {m m' : Moment}
    (stride : Stride now ticket m m') (h : Concerns test case m.execution) :
    Concerns test case m'.execution := by
  obtain ⟨rfl, rfl, record⟩ := h
  cases stride with
  | jots | observes | finishes | completes => exact ⟨rfl, rfl, record⟩
  | sleeps | waits | resumes | collapses => exact ⟨rfl, rfl, nofun⟩
  | closesAtOnce | closes =>
      refine ⟨rfl, rfl, ?_⟩
      intro record ended
      cases ended
      exact ⟨rfl, rfl⟩

theorem Concerns.run {test : Test} {case : TestCase} (h : Concerns test case e)
    (orderly : e.Orderly e.operation?) (ticket : Nat) (beats : List Beat) :
    Concerns test case (e.run ticket beats) := by
  induction beats generalizing e with
  | nil => exact h
  | cons b beats ih =>
      refine ih ?_ (orderly.step b.now ticket b.signal b.move b.pool)
      refine (step_advances b.now ticket b.signal b.move orderly b.pool).keeps
        (P := fun m => Concerns test case m.execution) Stride.concerns ?_ h
      intro _ h
      unfold abandoned
      split
      · exact h
      · exact ⟨h.test_eq, h.case_eq, h.record_eq⟩

theorem concerns_ofCase (config : Config) (test : Test) (case : TestCase) :
    Concerns test case (ofCase config test case) := ⟨rfl, rfl, nofun⟩

end Execution

/-- A test with one service, which every case starts before its body. -/
def Test.lone (body : Body) : Test :=
  { name := "lone"
    matrix := .empty
    numNodes := none
    timeout := some (.ofSeconds 1)
    template := fun _ => .ok [.server "server" .dev]
    body := fun _ => body }

/-- A server, another one that needs its address, and an application that is run against the
second one, the other way round. -/
def threeServices : List Descriptor :=
  [(Descriptor.clientApplication "app" .dev "Main").withEndpointParam "upstream" "front",
    ((Descriptor.server "front" .dev).withNodes 2).withEndpointParam "upstream" "base",
    .server "base" .dev]

def Test.trio (body : Body) : Test :=
  { Test.lone body with
    name := "trio"
    numNodes := some 4
    template := fun _ => .ok threeServices }

/-- A test whose services need two nodes more than there are machine words. -/
def Test.overflowing (numNodes : Option Nat) : Test :=
  { Test.lone .idle with
    name := "overflowing"
    numNodes
    template := fun _ =>
      .ok [(Descriptor.server "b" .dev).withNodes 3,
        (Descriptor.server "a" .dev).withNodes Span.maxWord] }

end Interop
