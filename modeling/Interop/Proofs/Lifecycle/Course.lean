import Interop.Proofs.Lifecycle.Commons

/-!
# The course of an operation

An operation of a controller is followed beside what would be there if it had never been asked
for and everything else had gone the same way.  Its course says where it can stand and what it
has done to the controller by then; the answers that come keep to the course, so an operation
that brings an error ends where its course can end.
-/

namespace Interop

/-! ## Results -/

def Progress.completion? : Progress → Option Completion
  | .waiting _ => none
  | .finished completion => some completion

def Completion.error? : Completion → Option LifecycleError
  | .reserved (.error e) | .provisioned (.error e) | .started (.error e)
  | .startedAll (.error e) | .ran (.error e) => some e
  | .reserved (.ok _) | .provisioned (.ok _) | .started (.ok _) | .startedAll (.ok _)
  | .ran (.ok _) | .stopped _ | .tornDown _ | .panicked _ => none

namespace CommonsMove

/-- Nothing that the controller is told: a service shows something, or others move. -/
def isForeign : CommonsMove → Bool
  | .observe _ _ | .others _ => true
  | .issue _ _ _ | .answer _ _ _ | .cancel _ => false

/-- Neither a new operation nor the end of the present one is asked for. -/
def attends : CommonsMove → Bool
  | .issue _ _ _ | .cancel _ => false
  | .answer _ _ _ | .observe _ _ | .others _ => true

end CommonsMove

namespace Commons

def returned? (m : Commons) : CommonsMove → Option Completion
  | .issue now ticket command =>
    match m.duty.operation with
    | none => (m.duty.site.issue now ticket command).1.completion?
    | some _ => none
  | .answer now ticket answer =>
    match m.duty.operation with
    | some operation => (m.duty.site.resume now ticket operation answer).1.completion?
    | none => none
  | .cancel _ | .observe _ _ | .others _ => none

def returns (m : Commons) : List CommonsMove → List Completion
  | [] => []
  | move :: moves => (m.returned? move).toList ++ (m.step move).returns moves

def Heard (moves : List CommonsMove) (answer : Answer) : Prop :=
  ∃ now ticket, .answer now ticket answer ∈ moves

def alter (m : Commons) (f : Controller → Controller) : Commons :=
  { m with duty := { m.duty with site := m.duty.site.modify f } }

theorem issue_of_idle {m : Commons} (idle : m.duty.operation = none) (now : Instant)
    (ticket : Nat) (command : Command) :
    m.step (.issue now ticket command) =
        { m with duty := .ofProgress (m.duty.site.issue now ticket command) } ∧
      m.returned? (.issue now ticket command) =
        (m.duty.site.issue now ticket command).1.completion? := by
  simp only [step, Duty.step, returned?, idle, and_self]

private theorem answer_of_busy {m : Commons} {operation : Operation}
    (busy : m.duty.operation = some operation) (now : Instant) (ticket : Nat)
    (answer : Answer) :
    m.step (.answer now ticket answer) =
        { m with duty := .ofProgress (m.duty.site.resume now ticket operation answer) } ∧
      m.returned? (.answer now ticket answer) =
        (m.duty.site.resume now ticket operation answer).1.completion? := by
  simp only [step, Duty.step, returned?, busy, and_self]

theorem answer_of_idle {m : Commons} (idle : m.duty.operation = none) (now : Instant)
    (ticket : Nat) (answer : Answer) :
    m.step (.answer now ticket answer) = m ∧ m.returned? (.answer now ticket answer) = none := by
  simp only [step, Duty.step, returned?, idle, and_self]

theorem operation_run_foreign (m : Commons) (moves : List CommonsMove) :
    (m.run (moves.filter CommonsMove.isForeign)).duty.operation = m.duty.operation := by
  induction moves generalizing m with
  | nil => rfl
  | cons move moves ih =>
      cases move with
      | issue | answer | cancel => exact ih m
      | observe | others => exact ih _

theorem keeps_run_foreign {K : Controller → Prop} (m : Commons)
    (observes : ∀ c service exposure, K c → K (c.observe service exposure))
    (moves : List CommonsMove) (h : K m.controller) :
    K (m.run (moves.filter CommonsMove.isForeign)).controller := by
  induction moves generalizing m with
  | nil => exact h
  | cons move moves ih =>
      cases move with
      | issue | answer | cancel => exact ih m h
      | observe service exposure => exact ih _ (observes _ service exposure h)
      | others move => exact ih _ h

theorem others_run_alone (m : Commons) {moves : List CommonsMove}
    (alone : ∀ move ∈ moves, ∀ other, move ≠ .others other) : (m.run moves).others = m.others := by
  induction moves generalizing m with
  | nil => rfl
  | cons move moves ih =>
      have alone' : ∀ move ∈ moves, ∀ other, move ≠ .others other :=
        fun other mem => alone other (List.mem_cons_of_mem _ mem)
      cases move with
      | issue | answer | cancel | observe => exact ih _ alone'
      | others move => exact absurd rfl (alone _ List.mem_cons_self move)

/-- Answers that nobody waits for change nothing. -/
theorem run_of_idle {m : Commons} (idle : m.duty.operation = none) {more : List CommonsMove}
    (attended : ∀ move ∈ more, move.attends = true) :
    m.run more = m.run (more.filter CommonsMove.isForeign) := by
  induction more generalizing m with
  | nil => rfl
  | cons move more ih =>
      have attended' : ∀ move ∈ more, move.attends = true :=
        fun other mem => attended other (List.mem_cons_of_mem _ mem)
      cases move with
      | issue | cancel => cases attended _ List.mem_cons_self
      | answer now ticket answer =>
          have same := (answer_of_idle idle now ticket answer).1
          show (m.step _).run more = _
          rw [same]
          exact ih idle attended'
      | observe service exposure | others other => exact ih idle attended'

theorem run_of_refused {m : Commons} (idle : m.duty.operation = none) {now : Instant}
    {ticket : Nat} {command : Command} {completion last : Completion}
    (refused : m.duty.site.issue now ticket command = (.finished completion, m.duty.site))
    {more : List CommonsMove} (attended : ∀ move ∈ more, move.attends = true)
    (returned : m.returns (.issue now ticket command :: more) = [last]) :
    completion = last ∧
      m.run (.issue now ticket command :: more) = m.run (more.filter CommonsMove.isForeign) := by
  obtain ⟨led, result⟩ := issue_of_idle idle now ticket command
  rw [refused] at led result
  have same : m.step (.issue now ticket command) = m := by
    rw [led]
    obtain ⟨⟨site, operation⟩, others⟩ := m
    obtain rfl : operation = none := idle
    rfl
  refine ⟨?_, ?_⟩
  · rw [returns, result] at returned
    exact (List.cons.inj returned).1
  · show (m.step _).run more = _
    rw [same]
    exact run_of_idle idle attended

/-! ## Beside each other -/

/-- Two that go the same way, but that the second has an operation in progress or behind it,
which has done something to its controller and, unless it is frugal, to the pool. -/
structure Beside (frugal : Prop) (p : Progress) (f : Controller → Controller)
    (still m : Commons) : Prop where
  operation : m.duty.operation = p.operation?
  controller : m.controller = f still.controller
  tenancy : frugal → m.tenancy = still.tenancy

variable {frugal : Prop} {p : Progress} {f : Controller → Controller} {still m : Commons}

private theorem Beside.foreign (h : Beside frugal p f still m)
    (commutes : ∀ c service exposure,
      (f c).observe service exposure = f (c.observe service exposure))
    {move : CommonsMove} (foreign : move.isForeign = true) :
    Beside frugal p f (still.step move) (m.step move) := by
  cases move with
  | issue | answer | cancel => cases foreign
  | observe service exposure =>
      refine ⟨h.operation, ?_, h.tenancy⟩
      show m.controller.observe service exposure = f (still.controller.observe service exposure)
      rw [h.controller, commutes]
  | others move =>
      refine ⟨h.operation, h.controller, ?_⟩
      -- The others find the same pool, so they come to the same.
      intro sparing
      show (m.tenancy.step move).2 = (still.tenancy.step move).2
      rw [h.tenancy sparing]

theorem Beside.of_progress {r : Progress × Site} (tenancy : frugal → m.tenancy = still.tenancy)
    (changed : r.2.controller = f still.controller) (spared : frugal → r.2.pool = m.pool) :
    Beside frugal r.1 f still { m with duty := .ofProgress r } := by
  refine ⟨rfl, changed, ?_⟩
  intro sparing
  rw [← tenancy sparing]
  simp only [Commons.tenancy, pool, Duty.ofProgress, spared sparing]

theorem Beside.eq_alter {completion : Completion}
    (h : Beside True (.finished completion) f still m) (idle : still.duty.operation = none) :
    m = still.alter f := by
  obtain ⟨⟨⟨pool, controller⟩, operation⟩, others⟩ := m
  obtain ⟨⟨⟨pool', controller'⟩, operation'⟩, others'⟩ := still
  obtain rfl : operation' = none := idle
  obtain rfl : operation = none := h.operation
  obtain rfl : controller = f controller' := h.controller
  have tenancy := h.tenancy trivial
  simp only [Commons.tenancy, Commons.pool, Tenancy.mk.injEq] at tenancy
  obtain ⟨rfl, rfl⟩ := tenancy
  rfl

/-- Where an operation has led: it stands as it can stand, or it is over without an error. -/
def Arrives (frugal : Prop) (Stands : Progress → (Controller → Controller) → Prop)
    (c : Controller) (pool : Pool) (r : Progress × Site) : Prop :=
  (∃ f, Stands r.1 f ∧ r.2.controller = f c ∧ (frugal → r.2.pool = pool)) ∨
    ∃ completion, r.1 = .finished completion ∧ completion.error? = none

/-- Where an operation can stand that brings an error or is not over, and what it has done to the
controller.  What it goes by does not change while it is in progress. -/
structure Course (heard : Answer → Prop) (frugal : Prop) (Knows : Controller → Prop)
    (Stands : Progress → (Controller → Controller) → Prop) : Prop where
  observes : ∀ {c}, Knows c → ∀ service exposure, Knows (c.observe service exposure)
  commutes : ∀ {p f}, Stands p f → ∀ c service exposure,
    (f c).observe service exposure = f (c.observe service exposure)
  answers : ∀ {operation f c answer}, Stands (.waiting operation) f → Knows c → heard answer →
    ∀ now ticket pool,
      Arrives frugal Stands c pool (Site.resume now ticket operation answer ⟨pool, f c⟩)

/-- An operation stands within its course beside what would be there without it, and this is
what it has brought. -/
inductive Along (frugal : Prop) (Knows : Controller → Prop)
    (Stands : Progress → (Controller → Controller) → Prop) (still m : Commons)
    (brought : List Completion) : Prop
  | stands {p : Progress} {f : Controller → Controller} (stands : Stands p f)
      (known : Knows still.controller) (beside : Beside frugal p f still m)
      (results : brought = p.completion?.toList)

namespace Course

variable {heard : Answer → Prop} {Knows : Controller → Prop}
  {Stands : Progress → (Controller → Controller) → Prop} {brought : List Completion}

/-- An answer leaves an operation within its course, unless it ends it without an error. -/
theorem answer (course : Course heard frugal Knows Stands)
    (along : Along frugal Knows Stands still m brought) {answer : Answer} (told : heard answer)
    (now : Instant) (ticket : Nat) :
    (∃ completion, m.returned? (.answer now ticket answer) = some completion ∧
      completion.error? = none) ∨
    Along frugal Knows Stands still (m.step (.answer now ticket answer))
      (brought ++ (m.returned? (.answer now ticket answer)).toList) := by
  obtain @⟨p, f, stands, known, beside, results⟩ := along
  cases p with
  | finished completion =>
      -- The operation is over, so nobody waits for the answer.
      obtain ⟨same, silent⟩ := answer_of_idle beside.operation now ticket answer
      rw [same, silent]
      exact .inr (.stands stands known beside (by simpa using results))
  | waiting operation =>
      obtain rfl : brought = [] := results
      obtain ⟨led, returned⟩ := answer_of_busy beside.operation now ticket answer
      rw [led, returned]
      have here : (⟨m.pool, f still.controller⟩ : Site) = m.duty.site := by
        rw [← beside.controller]
        rfl
      have arrives := course.answers stands known told now ticket m.pool
      rw [here] at arrives
      rcases arrives with ⟨f', stands', changed, spared⟩ | ⟨completion, ended, fine⟩
      · exact .inr (.stands stands' known (.of_progress beside.tenancy changed spared) rfl)
      · refine .inl ⟨completion, ?_, fine⟩
        rw [ended]
        rfl

private theorem foreign (course : Course heard frugal Knows Stands)
    (along : Along frugal Knows Stands still m brought) {move : CommonsMove}
    (foreign : move.isForeign = true) :
    Along frugal Knows Stands (still.step move) (m.step move) brought := by
  obtain ⟨stands, known, beside, results⟩ := along
  have beside' := beside.foreign (course.commutes stands) foreign
  cases move with
  | issue | answer | cancel => cases foreign
  | observe service exposure =>
      exact .stands stands (course.observes known service exposure) beside' results
  | others move => exact .stands stands known beside' results

/-- An operation keeps to its course until it ends without an error. -/
theorem run (course : Course heard frugal Knows Stands) {more : List CommonsMove}
    (along : Along frugal Knows Stands still m brought)
    (attended : ∀ move ∈ more, move.attends = true)
    (listens : ∀ answer, Heard more answer → heard answer) :
    (∃ completion ∈ m.returns more, completion.error? = none) ∨
      Along frugal Knows Stands (still.run (more.filter CommonsMove.isForeign)) (m.run more)
        (brought ++ m.returns more) := by
  -- The induction is on the moves; that the operation stands within its course is what they keep.
  induction more generalizing still m brought with
  | nil =>
      rw [returns, List.append_nil]
      exact .inr along
  | cons move more ih =>
      have attended' : ∀ move ∈ more, move.attends = true :=
        fun other mem => attended other (List.mem_cons_of_mem _ mem)
      have listens' : ∀ answer, Heard more answer → heard answer := by
        rintro answer ⟨now, ticket, mem⟩
        exact listens answer ⟨now, ticket, List.mem_cons_of_mem _ mem⟩
      cases move with
      | issue | cancel => cases attended _ List.mem_cons_self
      | observe service exposure => exact ih (course.foreign along rfl) attended' listens'
      | others move => exact ih (course.foreign along rfl) attended' listens'
      | answer now ticket answer =>
          have told : heard answer := listens answer ⟨now, ticket, List.mem_cons_self⟩
          rw [returns, ← List.append_assoc]
          rcases course.answer along told now ticket with ⟨completion, ended, fine⟩ | along'
          · refine .inl ⟨completion, ?_, fine⟩
            rw [ended]
            exact List.mem_append_left _ (List.mem_singleton.mpr rfl)
          · rcases ih along' attended' listens' with ⟨completion, mem, fine⟩ | along''
            · exact .inl ⟨completion, List.mem_append_right _ mem, fine⟩
            · exact .inr along''

theorem fate (course : Course heard frugal Knows Stands) (idle : m.duty.operation = none)
    (known : Knows m.controller) {now : Instant} {ticket : Nat} {command : Command}
    (begun : Arrives frugal Stands m.controller m.pool (m.duty.site.issue now ticket command))
    {more : List CommonsMove} (attended : ∀ move ∈ more, move.attends = true)
    (listens : ∀ answer, Heard more answer → heard answer) {completion : Completion}
    (returned : m.returns (.issue now ticket command :: more) = [completion])
    {e : LifecycleError} (failed : completion.error? = some e) :
    ∃ f, Stands (.finished completion) f ∧
      Beside frugal (.finished completion) f (m.run (more.filter CommonsMove.isForeign))
        (m.run (.issue now ticket command :: more)) := by
  obtain ⟨led, result⟩ := issue_of_idle idle now ticket command
  have failing : ∀ other ∈ m.returns (.issue now ticket command :: more),
      other.error? ≠ none := by
    intro other mem
    rw [returned] at mem
    rw [List.mem_singleton.mp mem, failed]
    nofun
  rw [returns, result] at failing returned
  rcases begun with ⟨f, stands, changed, spared⟩ | ⟨other, ended, fine⟩
  · have beside := Beside.of_progress (m := m) (fun _ => rfl) changed spared
    rw [← led] at beside
    rcases course.run (.stands stands known beside rfl) attended listens with
      ⟨other, mem, fine⟩ | @⟨p', f', stands', -, beside', results⟩
    · exact absurd fine (failing other (List.mem_append_right _ mem))
    · rw [returned] at results
      cases p' with
      | waiting operation => cases results
      | finished last =>
          cases results
          exact ⟨f', stands', beside'⟩
  · refine absurd fine (failing other (List.mem_append_left _ ?_))
    rw [ended]
    exact List.mem_singleton.mpr rfl

end Course

end Commons

end Interop
