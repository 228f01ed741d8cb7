import Interop.Proofs.Descriptor.Feasibility
import Interop.Proofs.Execution.Heeding
import Interop.Proofs.Execution.Reserving
import Interop.Proofs.Lifecycle.Ledger

/-!
# What a case provisions

On its way to the body a case orders its services, reserves their nodes and provisions one
after the other.  As long as nothing cuts it off, no wait for nodes times out and the launcher
accepts whatever it is given, all of that succeeds exactly when the services can be provisioned
together (`Descriptor.Feasible`).  The numbers have to be within reach for that: the node counts
add up to a machine word, and the clock can show until when the case would wait for nodes.
Otherwise the case ends with an error of provisioning; it starts no service, and its body does not
run.
-/

namespace Interop

open Descriptor (Acceptable Admissible Feasible dependencyOrder feasible_iff)

namespace Controller

structure Holds (c : Controller) (numNodes : Option Nat) (done : List Descriptor) : Prop where
  provisioned : c.handles.map Handle.descriptor = done
  assigned : c.nodesAssigned = Descriptor.totalNodes done
  budget : c.settings.nodeBudget = numNodes

variable {c : Controller} {numNodes : Option Nat} {done : List Descriptor}

private theorem Blank.holds (blank : c.Blank numNodes) : c.Holds numNodes [] :=
  ⟨by simp [blank.handles], blank.assigned, blank.budget⟩

private theorem Holds.names (holds : c.Holds numNodes done) :
    c.handles.map Handle.name = done.map Descriptor.name := by
  rw [← holds.provisioned, List.map_map]
  rfl

private theorem Holds.observe (holds : c.Holds numNodes done) (service : Nat)
    (exposure : Exposure) :
    (c.observe service exposure).Holds numNodes done := by
  have kept : (c.observe service exposure).handles.map Handle.descriptor =
      c.handles.map Handle.descriptor := c.plans_modifyHandle service fun _ => rfl
  exact ⟨kept.trans holds.provisioned, holds.assigned, holds.budget⟩

private theorem Holds.refusal?_eq_none (holds : c.Holds numNodes done) {d : Descriptor} :
    Site.refusal? c d = none ↔ Acceptable numNodes done d := by
  have names := holds.names
  constructor
  · intro accepted
    obtain ⟨fresh, known⟩ := Site.known_of_accepted accepted
    rw [names] at fresh known
    refine ⟨?_, fresh, known, ?_⟩
    · cases valid : d.validate with
      | error e => simp [Site.refusal?, valid] at accepted
      | ok _ => rfl
    · intro budget declared
      rw [← holds.assigned]
      exact Site.affordable_of_accepted accepted (holds.budget.trans declared)
  · intro acceptable
    have fresh : (c.lookup d.name).toOption.isSome = false := by
      refine Bool.eq_false_iff.mpr fun found => acceptable.fresh ?_
      rw [← names]
      exact isSome_lookup.mp found
    have known : d.dependsOn.find? (fun name => (c.lookup name).toOption.isNone) = none := by
      refine List.find?_eq_none.mpr ?_
      intro name uses
      have there := acceptable.known name uses
      rw [← names] at there
      rw [Option.isNone_iff_eq_none, ← ne_eq, ← Option.isSome_iff_ne_none]
      exact isSome_lookup.mpr there
    have affordable := acceptable.declared
    rw [← holds.assigned, ← holds.budget] at affordable
    simp only [Site.refusal?, acceptable.consistent, fresh, Bool.false_eq_true, if_false, known]
    cases declared : c.settings.nodeBudget with
    | none => rfl
    | some budget => exact if_neg (Nat.not_lt.mpr (affordable budget declared))

end Controller

/-! ## Reserving and provisioning -/

namespace Site

variable {now : Instant} {ticket count : Nat} {s : Site} {numNodes : Option Nat}
  {done : List Descriptor} {d : Descriptor}

private theorem issue_reserve_of_lt (short : s.pool.capacity < count) (now : Instant)
    (ticket : Nat) :
    s.issue now ticket (.reserve count) =
      (.finished (.reserved (.error (.provision
        (.insufficientCapacity count s.pool.capacity)))), s) := by
  have positive : count ≠ 0 := by omega
  simp [issue, reserve, positive, excess?, short, follow]

private theorem eq_ok_of_issue_reserve (fits : count ≤ s.pool.capacity)
    (shown : s.controller.settings.provisionTimeout.after now ≤ s.controller.settings.horizon)
    {completion : Completion} {site : Site}
    (issued : s.issue now ticket (.reserve count) = (.finished completion, site)) :
    completion = .reserved (.ok ()) := by
  simp only [issue, reserve] at issued
  split at issued
  · exact (Progress.finished.inj (congrArg Prod.fst issued)).symm
  · have enough : s.excess? count = none := if_neg (Nat.not_lt.mpr fits)
    have deadline : s.provisionDeadline? now =
        some (s.controller.settings.provisionTimeout.after now) := Span.after?_of_le shown
    rw [enough, deadline] at issued
    rcases attempt_cases s ticket count with ⟨lease, pool, -, same⟩ | same
    · simp only [same, follow] at issued
      exact (Progress.finished.inj (congrArg Prod.fst issued)).symm
    · simp [same, follow] at issued

private theorem eq_ok_of_resume_reservation {deadline : Instant} {a : Answer} (lasts : a ≠ .elapsed)
    {completion : Completion} {site : Site}
    (resumed : s.resume now ticket ⟨.alone, .reservation count deadline⟩ a =
      (.finished completion, site)) : completion = .reserved (.ok ()) := by
  cases a with
  | elapsed => exact absurd rfl lasts
  | woken =>
      simp only [resume, continueWith] at resumed
      rcases attempt_cases s ticket count with ⟨lease, pool, -, same⟩ | same
      · simp only [same, follow] at resumed
        exact (Progress.finished.inj (congrArg Prod.fst resumed)).symm
      · simp [same, follow] at resumed
  | materialized | acknowledged | probed | ran => cases resumed

theorem resume_reservation_of_le (enough : count ≤ s.pool.available)
    (now : Instant) (ticket : Nat) (deadline : Instant) :
    ∃ completion site, s.resume now ticket ⟨.alone, .reservation count deadline⟩ .woken =
      (.finished completion, site) := by
  obtain ⟨⟨lease, pool⟩, granted⟩ : ∃ r, (s.pool.enlist ticket count).tryAcquire count = some r :=
    Option.isSome_iff_exists.mp (Pool.isSome_tryAcquire.mpr enough)
  simp [resume, continueWith, attempt, Pool.attempt, Pool.look, granted, follow]

private theorem Reserving.holds {c : Controller} {progress : Progress} {site : Site}
    (reserving : Reserving count c (progress, site)) (holds : c.Holds numNodes done) :
    site.controller.Holds numNodes done := by
  cases reserving with
  | nothing | refused | broken | waits => exact holds
  | granted => exact ⟨holds.provisioned, holds.assigned, holds.budget⟩

private theorem holds_of_materializing (holds : s.controller.Holds numNodes done)
    {held lease rest : Lease}
    (accepted : refusal? s.controller d = none) (reserved : s.controller.reservation = some held)
    (parted : held.splitOff d.nodeCount = some (lease, rest)) (now : Instant) (ticket : Nat) :
    (s.issue now ticket (.provision d)).2.controller.Holds numNodes done := by
  have drawn : s.drawReserved d.nodeCount =
      some (lease, s.modify fun c => { c with reservation := some rest }) := by
    simp [drawReserved, reserved, parted]
  simp only [issue, provision, accepted, drawn]
  exact ⟨holds.provisioned, holds.assigned, holds.budget⟩

private theorem holds_adopt (holds : s.controller.Holds numNodes done) (now : Instant)
    (d : Descriptor)
    (lease : Lease) (exposure : Exposure) :
    (s.adopt now d lease exposure).2.controller.Holds numNodes (done ++ [d]) where
  provisioned := by
    simp [adopt, modify, Controller.record, Handle.fresh, holds.provisioned]
  assigned := by
    simp [adopt, modify, Controller.record, Descriptor.totalNodes_append, Descriptor.totalNodes,
      holds.assigned]
  budget := holds.budget

end Site

/-! ## Unhindered runs -/

def CaseMove.hinders : CaseMove → Bool
  | .expire | .breakDown _ | .answer .elapsed | .answer (.materialized (.error _)) => true
  | .enter | .answer _ | .wake | .observe _ _ | .park | .giveUp => false

namespace Execution

/-- The services are not all provisioned yet, and nothing has gone wrong. -/
def isPreparing (e : Execution) : Bool :=
  match e.stage with
  | .fresh | .working (.reserve _) _ | .working (.provision _) _ => true
  | _ => false

structure Beat.Smooth (capacity : Nat) (e : Execution) (b : Beat) : Prop where
  quiet : b.signal.reason = none
  unhindered : b.move.hinders = false
  balanced : ∃ held, b.pool.Balanced held
  size : b.pool.capacity = capacity
  /-- The clock can show until when a case that begins now waits for nodes. -/
  shown : e.isFresh = true →
    e.controller.settings.provisionTimeout.after b.now ≤ e.controller.settings.horizon

/-- Nothing gets in the way of the case until its services are provisioned. -/
def Unhindered (capacity ticket : Nat) : Execution → List Beat → Prop
  | _, [] => True
  | e, b :: beats =>
    (e.isPreparing = true → b.Smooth capacity e) ∧
      Unhindered capacity ticket (e.beat ticket b) beats

/-- What the case begins in a run. -/
def items (ticket : Nat) : Execution → List Beat → List Item
  | _, [] => []
  | e, b :: beats =>
    (Account.step b.now ticket b.signal b.move e b.pool).items ++
      items ticket (e.beat ticket b) beats

end Execution

/-- Nothing is started or run. -/
def Command.prepares : Command → Bool
  | .reserve _ | .provision _ | .teardown => true
  | .start _ | .startAll | .run _ | .stop _ => false

/-- The case goes on to start its services, and has provisioned these. -/
def Item.Launches (ds : List Descriptor) (item : Item) : Prop :=
  item.own = true ∧ item.command = .startAll ∧
    (item.before.controller.handles.map Handle.descriptor).Perm ds

instance (ds : List Descriptor) (item : Item) : Decidable (item.Launches ds) :=
  inferInstanceAs (Decidable (_ ∧ _ ∧ _))

def Item.Prepares (item : Item) : Prop := item.own = true ∧ item.command.prepares = true

namespace Execution

variable {capacity : Nat} {numNodes : Option Nat} {ds : List Descriptor} {e : Execution}
  {p : Pool} {now : Instant} {ticket : Nat}

/-! ## After the services are provisioned -/

theorem isPreparing_of_isClosing (closing : e.isClosing = true) : e.isPreparing = false := by
  unfold isClosing at closing
  unfold isPreparing
  split <;> simp_all

theorem isPreparing_conclude (now : Instant) (ticket : Nat) (outcome : Outcome) (e : Execution)
    (p : Pool) : (conclude now ticket outcome e p).1.isPreparing = false :=
  isPreparing_of_isClosing (isClosing_conclude now ticket outcome e p)

theorem isPreparing_play (now : Instant) (ticket : Nat) (body : Body) (e : Execution) (p : Pool) :
    (play now ticket body e p).1.isPreparing = false := by
  induction body generalizing e p with
  | ends result => cases result <;> exact isPreparing_conclude now ticket _ e p
  | panics message => rfl
  | asks act next ih =>
      cases act with
      | look => exact ih _ e p
      | note line => exact ih _ _ p
      | sleep length =>
          unfold play
          split
          · exact ih _ e p
          · rfl
      | control command limit =>
          unfold play
          split
          · rfl
          · rfl
          · exact ih _ _ _
      | stopEarly service limit =>
          unfold play
          split
          · rfl
          · exact ih _ _ _

theorem isPreparing_startServices (now : Instant) (ticket : Nat) (e : Execution) (p : Pool) :
    (startServices now ticket e p).1.isPreparing = false := by
  unfold startServices
  split
  · rfl
  · exact isPreparing_conclude now ticket _ _ _
  · rfl
  · exact isPreparing_play now ticket _ _ _

private theorem isPreparing_answer (gone : e.isPreparing = false) (now : Instant) (ticket : Nat)
    (a : Answer) (p : Pool) : (answer now ticket a e p).1.isPreparing = false := by
  unfold answer
  split
  · next purpose operation working =>
      split
      · cases purpose with
        | reserve | provision => simp [isPreparing, working] at gone
        | startAll | control | stopEarly | close => rfl
      · next completion site _ =>
          cases purpose with
          | reserve | provision => simp [isPreparing, working] at gone
          | startAll =>
              cases completion with
              | startedAll result =>
                  cases result with
                  | error error => exact isPreparing_conclude now ticket _ _ _
                  | ok _ => exact isPreparing_play now ticket _ _ _
              | panicked message => rfl
              | reserved | provisioned | started | ran | stopped | tornDown =>
                  exact isPreparing_play now ticket _ _ _
          | control next limit =>
              cases completion with
              | panicked message => rfl
              | reserved | provisioned | started | startedAll | ran | stopped | tornDown =>
                  exact isPreparing_play now ticket _ _ _
          | stopEarly next limit =>
              cases completion with
              | panicked message => rfl
              | reserved | provisioned | started | startedAll | ran | stopped | tornDown =>
                  exact isPreparing_play now ticket _ _ _
          | close outcome =>
              cases completion with
              | tornDown problems => rfl
              | reserved | provisioned | started | startedAll | ran | stopped | panicked =>
                  exact gone
  · exact gone

/-- What is done with provisioning never comes back to it. -/
theorem isPreparing_step (gone : e.isPreparing = false) (now : Instant) (ticket : Nat)
    (signal : AbortSignal) (move : CaseMove) (p : Pool) :
    (e.step now ticket signal move p).1.isPreparing = false := by
  have cut_gone (outcome : Outcome) (e : Execution) :
      (cut now ticket outcome e p).1.isPreparing = false :=
    isPreparing_of_isClosing (isClosing_cut now ticket outcome e p)
  cases move with
  | enter =>
      simp only [step]
      split
      · exact gone
      · unfold enter
        simp only
        split
        · exact gone
        · split
          · exact isPreparing_conclude now ticket _ _ p
          · next fresh _ => simp [isPreparing, fresh] at gone
          · exact cut_gone _ _
          · exact gone
  | observe | park => exact gone
  | breakDown message =>
      simp only [step]
      split
      · exact gone
      · simp [isPreparing, stage_breakDown]
  | answer a =>
      simp only [step]
      split
      · exact isPreparing_answer gone now ticket a p
      · exact gone
  | wake =>
      simp only [step]
      split
      · split
        · exact isPreparing_play now ticket _ e p
        · exact gone
      · exact gone
  | expire =>
      simp only [step]
      split
      · exact gone
      · split
        · exact cut_gone _ e
        · exact gone
  | giveUp =>
      simp only [step]
      split
      · unfold giveUp
        split
        · split
          · split
            · exact isPreparing_play now ticket _ _ _
            · exact gone
          · exact gone
        · exact gone
      · exact gone

/-! ## On the way -/

theorem plan_of_made (made : e.test.template e.case = .ok ds) :
    e.plan = (dependencyOrder ds).mapError .provision := by
  simp [plan, made, bind, Except.bind]

inductive Underway (numNodes : Option Nat) (capacity : Nat) (ds : List Descriptor)
    (e : Execution) : Prop
  | fresh (stage : e.stage = .fresh) (declared : e.test.numNodes = numNodes)
      (made : e.test.template e.case = .ok ds)
      (countable : Descriptor.totalNodes ds ≤ Span.maxWord)
      (blank : e.controller.Blank numNodes) (unnoted : e.notes = [])
  | reserving {order : List Descriptor} {deadline : Instant}
      (stage : e.stage = .working (.reserve order)
        ⟨.alone, .reservation (wantedOf numNodes (Descriptor.totalNodes order)) deadline⟩)
      (ordered : dependencyOrder ds = .ok order)
      (fits : wantedOf numNodes (Descriptor.totalNodes order) ≤ capacity)
      (blank : e.controller.Blank numNodes) (unnoted : e.notes = [])
  | provisioning {done pending : List Descriptor} {d : Descriptor} {lease : Lease}
      (stage : e.stage = .working (.provision pending) ⟨.alone, .materialization d lease⟩)
      (ordered : dependencyOrder ds = .ok (done ++ d :: pending))
      (fits : wantedOf numNodes (Descriptor.totalNodes (done ++ d :: pending)) ≤ capacity)
      (admissible : Admissible numNodes (done ++ [d]))
      (holds : e.controller.Holds numNodes done)
      (stocked : e.controller.Stocked (e.controller.nodesAssigned + d.nodeCount) pending)
      (unnoted : e.notes = [])

inductive Passage (numNodes : Option Nat) (capacity : Nat) (ds : List Descriptor) (e : Execution)
    (items : List Item) : Prop
  | underway (underway : Underway numNodes capacity ds e)
      (prepares : ∀ item ∈ items, item.Prepares)
  | failed (infeasible : ¬Feasible numNodes capacity ds)
      (prepares : ∀ item ∈ items, item.Prepares) (unnoted : e.notes = [])
      (cause : ProvisionError) (rules : Rules (.error "provision" cause.message) e)
  | launched (feasible : Feasible numNodes capacity ds) (item : Item) (mem : item ∈ items)
      (launches : item.Launches ds) (gone : e.isPreparing = false)

theorem underway_ofCase (config : Config) {test : Test} {case : TestCase}
    (made : test.template case = .ok ds) (countable : Descriptor.totalNodes ds ≤ Span.maxWord) :
    Underway test.numNodes capacity ds (ofCase config test case) :=
  .fresh rfl rfl made countable (Controller.blank_ofSettings config test.numNodes) rfl

namespace Underway

private theorem carried (underway : Underway numNodes capacity ds e) (began : Instant)
    (attentive : Bool) : Underway numNodes capacity ds { e with began, attentive } := by
  cases underway with
  | fresh stage declared made countable blank unnoted =>
      exact .fresh stage declared made countable blank unnoted
  | reserving stage ordered fits blank unnoted =>
      exact .reserving stage ordered fits blank unnoted
  | provisioning stage ordered fits admissible holds stocked unnoted =>
      exact .provisioning stage ordered fits admissible holds stocked unnoted

private theorem observe (underway : Underway numNodes capacity ds e) (service : Nat)
    (exposure : Exposure) :
    Underway numNodes capacity ds
      { e with controller := e.controller.observe service exposure } := by
  cases underway with
  | fresh stage declared made countable blank unnoted =>
      exact .fresh stage declared made countable (blank.observe service exposure) unnoted
  | reserving stage ordered fits blank unnoted =>
      exact .reserving stage ordered fits (blank.observe service exposure) unnoted
  | provisioning stage ordered fits admissible holds stocked unnoted =>
      exact .provisioning stage ordered fits admissible (holds.observe service exposure) stocked
        unnoted

theorem of_fresh (underway : Underway numNodes capacity ds e) (fresh : e.stage = .fresh) :
    e.test.numNodes = numNodes ∧ e.test.template e.case = .ok ds ∧
      Descriptor.totalNodes ds ≤ Span.maxWord ∧ e.controller.Blank numNodes ∧ e.notes = [] := by
  cases underway with
  | fresh _ declared made countable blank unnoted =>
      exact ⟨declared, made, countable, blank, unnoted⟩
  | reserving stage | provisioning stage => cases fresh.symm.trans stage

theorem unnoted (underway : Underway numNodes capacity ds e) : e.notes = [] := by
  cases underway with
  | fresh _ _ _ _ _ unnoted | reserving _ _ _ _ unnoted | provisioning _ _ _ _ _ _ unnoted =>
      exact unnoted

theorem isPreparing (underway : Underway numNodes capacity ds e) : e.isPreparing = true := by
  cases underway with
  | fresh stage | reserving stage | provisioning stage => simp [Execution.isPreparing, stage]

theorem isClosing (underway : Underway numNodes capacity ds e) : e.isClosing = false := by
  cases underway with
  | fresh stage | reserving stage | provisioning stage => simp [Execution.isClosing, stage]

end Underway

theorem Passage.prepend {before items : List Item} (passage : Passage numNodes capacity ds e items)
    (prepares : ∀ item ∈ before, item.Prepares) :
    Passage numNodes capacity ds e (before ++ items) := by
  have all (later : ∀ item ∈ items, item.Prepares) : ∀ item ∈ before ++ items, item.Prepares :=
    fun item mem => (List.mem_append.mp mem).elim (prepares item) (later item)
  cases passage with
  | underway underway later => exact .underway underway (all later)
  | failed infeasible later unnoted cause rules =>
      exact .failed infeasible (all later) unnoted cause rules
  | launched feasible item mem launches gone =>
      exact .launched feasible item (List.mem_append_right before mem) launches gone

theorem Passage.after {items : List Item} (passage : Passage numNodes capacity ds e items)
    {item : Item} (prepares : item.Prepares) : Passage numNodes capacity ds e (item :: items) :=
  passage.prepend (List.forall_mem_singleton.mpr prepares)

theorem Underway.passage (underway : Underway numNodes capacity ds e) :
    Passage numNodes capacity ds e [] :=
  .underway underway (List.forall_mem_nil _)

end Execution

namespace Account

open Execution (Passage Underway wantedOf wantedNodes? Beat)

variable {capacity : Nat} {numNodes : Option Nat} {ds : List Descriptor} {e : Execution}
  {p : Pool} {now : Instant} {ticket : Nat}

private theorem mem_serve (now : Instant) (ticket : Nat) (purpose : Purpose) (command : Command)
    (next : Completion → Execution → Pool → Account) (e : Execution) (p : Pool) :
    ⟨purpose.isOwn, command, ⟨p, e.controller⟩, Site.issue now ticket command ⟨p, e.controller⟩⟩ ∈
      (serve now ticket purpose command next e p).items := by
  unfold serve
  rcases Site.issue now ticket command ⟨p, e.controller⟩ with ⟨operation | completion, site⟩ <;>
    exact List.mem_cons_self

theorem prepares_conclude (now : Instant) (ticket : Nat) (outcome : Outcome) (e : Execution)
    (p : Pool) : ∀ item ∈ (conclude now ticket outcome e p).items, item.Prepares := by
  unfold conclude serve
  rcases Site.issue now ticket .teardown ⟨p, e.controller⟩ with ⟨operation | completion, site⟩ <;>
    simp [Account.after, Account.silent, Item.Prepares, Purpose.isOwn, Command.prepares]

private theorem notes_conclude (now : Instant) (ticket : Nat) (outcome : Outcome) (e : Execution)
    (p : Pool) : (Execution.conclude now ticket outcome e p).1.notes = e.notes := by
  unfold Execution.conclude
  split <;> rfl

theorem conclude_passage (infeasible : ¬Feasible numNodes capacity ds) (unnoted : e.notes = [])
    (cause : ProvisionError) (now : Instant) (ticket : Nat) (p : Pool) :
    Passage numNodes capacity ds
      (conclude now ticket (.error "provision" cause.message) e p).execution
      (conclude now ticket (.error "provision" cause.message) e p).items := by
  have same := result_conclude now ticket (.error "provision" cause.message) e p
  refine .failed infeasible (prepares_conclude now ticket _ e p) ?_ cause (.inl ?_)
  · rw [← unnoted, ← notes_conclude now ticket (.error "provision" cause.message) e p, ← same]
    rfl
  · rw [← Execution.settled?_conclude now ticket (.error "provision" cause.message) e p, ← same]
    rfl

private theorem startServices_passage (feasible : Feasible numNodes capacity ds)
    (provisioned : (e.controller.handles.map Handle.descriptor).Perm ds) (now : Instant)
    (ticket : Nat) (p : Pool) :
    Passage numNodes capacity ds (startServices now ticket e p).execution
      (startServices now ticket e p).items := by
  refine .launched feasible _ (mem_serve now ticket .startAll .startAll _ e p)
    ⟨rfl, rfl, provisioned⟩ ?_
  rw [← Execution.isPreparing_startServices now ticket e p, ← result_startServices]
  rfl

/-- The services that are left are provisioned one after another, unless one is refused. -/
theorem provisionAll_passage {done pending : List Descriptor}
    (ordered : dependencyOrder ds = .ok (done ++ pending))
    (fits : wantedOf numNodes (Descriptor.totalNodes (done ++ pending)) ≤ capacity)
    (admissible : Admissible numNodes done) (holds : e.controller.Holds numNodes done)
    (stocked : e.controller.Stocked e.controller.nodesAssigned pending) (unnoted : e.notes = [])
    (now : Instant) (ticket : Nat) (p : Pool) :
    Passage numNodes capacity ds (provisionAll now ticket pending e p).execution
      (provisionAll now ticket pending e p).items := by
  cases pending with
  | nil =>
      rw [List.append_nil] at ordered fits
      refine startServices_passage (feasible_iff.mpr ⟨done, ordered, fits, admissible⟩) ?_ now
        ticket p
      rw [holds.provisioned]
      exact (Descriptor.dependencyOrder_arranged ordered).1
  | cons d pending =>
      unfold provisionAll
      rcases Site.issue_provision (s := ⟨p, e.controller⟩) stocked now ticket with
        ⟨cause, refused, issued⟩ |
          ⟨held, lease, rest, site, accepted, reserved, parted, issued, -, -, stocked⟩
      · have infeasible : ¬Feasible numNodes capacity ds := by
          intro feasible
          obtain ⟨order, ordered', -, admissible⟩ := feasible_iff.mp feasible
          cases ordered.symm.trans ordered'
          have accepted := holds.refusal?_eq_none.mpr (admissible done d pending rfl)
          cases refused.symm.trans accepted
        rw [serve_of_finished issued]
        refine (conclude_passage infeasible unnoted cause now ticket p).after ?_
        exact ⟨rfl, rfl⟩
      · rw [serve_of_waiting issued]
        have next := Site.holds_of_materializing holds accepted reserved parted now ticket
        rw [issued] at next
        have acceptable := holds.refusal?_eq_none.mp accepted
        refine Passage.after (Underway.passage ?_) ⟨rfl, rfl⟩
        exact .provisioning rfl ordered fits
          (Descriptor.admissible_concat.mpr ⟨admissible, acceptable⟩) next stocked unnoted

theorem complete_reserve_passage {order : List Descriptor} {completion : Completion} {site : Site}
    (ordered : dependencyOrder ds = .ok order)
    (fits : wantedOf numNodes (Descriptor.totalNodes order) ≤ capacity)
    (blank : e.controller.Blank numNodes) (unnoted : e.notes = [])
    (reserving : Site.Reserving (wantedOf numNodes (Descriptor.totalNodes order)) e.controller
      (.finished completion, site))
    (granted : completion = .reserved (.ok ())) (now : Instant) (ticket : Nat) :
    Passage numNodes capacity ds
      (complete now ticket (.reserve order) completion { e with controller := site.controller }
        site.pool).execution
      (complete now ticket (.reserve order) completion { e with controller := site.controller }
        site.pool).items := by
  have holds := reserving.holds blank.holds
  subst granted
  rcases reserving.stocked blank with (⟨error, failed⟩ | ⟨message, failed⟩) | ⟨-, stocked⟩
  · cases failed
  · cases failed
  · exact provisionAll_passage (e := { e with controller := site.controller }) ordered
      fits Descriptor.admissible_nil holds stocked unnoted now ticket site.pool

private theorem reserveNodes_passage {order : List Descriptor}
    (ordered : dependencyOrder ds = .ok order)
    (blank : e.controller.Blank numNodes) (unnoted : e.notes = []) {held : List Node}
    (balanced : p.Balanced held) (size : p.capacity = capacity)
    (shown : e.controller.settings.provisionTimeout.after now ≤ e.controller.settings.horizon)
    (ticket : Nat) :
    Passage numNodes capacity ds
      (reserveNodes now ticket (wantedOf numNodes (Descriptor.totalNodes order)) order e
        p).execution
      (reserveNodes now ticket (wantedOf numNodes (Descriptor.totalNodes order)) order e
        p).items := by
  unfold reserveNodes
  by_cases fits : wantedOf numNodes (Descriptor.totalNodes order) ≤ p.capacity
  · have reserving := Site.issue_reserve (s := ⟨p, e.controller⟩) balanced now ticket
      (wantedOf numNodes (Descriptor.totalNodes order))
    rcases issued : Site.issue now ticket
        (.reserve (wantedOf numNodes (Descriptor.totalNodes order)))
        ⟨p, e.controller⟩ with ⟨operation | completion, site⟩
    · rw [issued] at reserving
      rw [serve_of_waiting issued]
      cases reserving
      refine Passage.after (Underway.passage ?_) ⟨rfl, rfl⟩
      exact .reserving rfl ordered (size ▸ fits) blank unnoted
    · rw [issued] at reserving
      rw [serve_of_finished issued]
      have granted := Site.eq_ok_of_issue_reserve (s := ⟨p, e.controller⟩) fits shown issued
      exact (complete_reserve_passage ordered (size ▸ fits) blank unnoted reserving granted now
        ticket).after ⟨rfl, rfl⟩
  · have issued := Site.issue_reserve_of_lt (s := ⟨p, e.controller⟩) (Nat.lt_of_not_le fits)
      now ticket
    have infeasible : ¬Feasible numNodes capacity ds := by
      intro feasible
      obtain ⟨order', ordered', fits', -⟩ := feasible_iff.mp feasible
      cases ordered.symm.trans ordered'
      exact fits (size.symm ▸ fits')
    rw [serve_of_finished issued]
    exact (conclude_passage infeasible unnoted _ now ticket p).after ⟨rfl, rfl⟩

private theorem begin_passage (declared : e.test.numNodes = numNodes)
    (made : e.test.template e.case = .ok ds) (countable : Descriptor.totalNodes ds ≤ Span.maxWord)
    (blank : e.controller.Blank numNodes) (unnoted : e.notes = []) {held : List Node}
    (balanced : p.Balanced held) (size : p.capacity = capacity)
    (shown : e.controller.settings.provisionTimeout.after now ≤ e.controller.settings.horizon)
    (ticket : Nat) :
    Passage numNodes capacity ds (begin now ticket e p).execution (begin now ticket e p).items := by
  unfold begin
  rw [Execution.plan_of_made made]
  cases ordered : dependencyOrder ds with
  | error cause =>
      refine conclude_passage ?_ unnoted cause now ticket p
      intro feasible
      obtain ⟨order, ordered', -⟩ := feasible_iff.mp feasible
      cases ordered.symm.trans ordered'
  | ok order =>
      have same := Descriptor.totalNodes_perm (Descriptor.dependencyOrder_arranged ordered).1
      simp only [Except.mapError, declared,
        Execution.wantedNodes?_of_le (same.trans_le countable)]
      exact reserveNodes_passage ordered blank unnoted balanced size shown ticket

theorem giveUp_of_isPreparing (preparing : e.isPreparing = true) :
    giveUp now ticket e p = silent (e, p) := by
  unfold giveUp
  split
  · next purpose operation working =>
      cases purpose with
      | reserve | provision => rfl
      | startAll | control | stopEarly | close =>
          simp [Execution.isPreparing, working] at preparing
  · rfl

private theorem giveUp_of_isClosing (closing : e.isClosing = true) :
    giveUp now ticket e p = silent (e, p) := by
  unfold giveUp
  split
  · next purpose operation working =>
      cases purpose with
      | close => rfl
      | reserve | provision | startAll | control | stopEarly =>
          simp [Execution.isClosing, working] at closing
  · rfl

private theorem answer_passage (underway : Underway numNodes capacity ds e) {held : List Node}
    (balanced : p.Balanced held) {a : Answer} (unhindered : (CaseMove.answer a).hinders = false)
    (now : Instant) (ticket : Nat) :
    Passage numNodes capacity ds (answer now ticket a e p).execution
      (answer now ticket a e p).items := by
  cases underway with
  | fresh stage declared made countable blank unnoted =>
      simp only [answer, stage]
      exact Underway.passage (.fresh stage declared made countable blank unnoted)
  | @reserving order deadline stage ordered fits blank unnoted =>
      have reserving := Site.resume_reservation (s := ⟨p, e.controller⟩) balanced now ticket
        (wantedOf numNodes (Descriptor.totalNodes order)) deadline a
      rcases resumed : Site.resume now ticket
          ⟨.alone, .reservation (wantedOf numNodes (Descriptor.totalNodes order)) deadline⟩ a
          ⟨p, e.controller⟩ with ⟨later | completion, site⟩
      · rw [resumed] at reserving
        rw [answer_of_waiting stage resumed]
        cases reserving
        exact Underway.passage (.reserving rfl ordered fits blank unnoted)
      · rw [resumed] at reserving
        rw [answer_of_finished stage resumed]
        refine complete_reserve_passage ordered fits blank unnoted reserving ?_ now ticket
        refine Site.eq_ok_of_resume_reservation ?_ resumed
        rintro rfl
        cases unhindered
  | @provisioning done pending d lease stage ordered fits admissible holds stocked unnoted =>
      cases a with
      | materialized result =>
          cases result with
          | error cause => cases unhindered
          | ok exposure =>
              have next := Site.holds_adopt (s := ⟨p, e.controller⟩) holds now d lease exposure
              have there : done ++ d :: pending = (done ++ [d]) ++ pending := by simp
              rw [there] at ordered fits
              rw [answer_of_finished stage rfl]
              exact provisionAll_passage
                (e := { e with
                  controller := (Site.adopt now d lease exposure ⟨p, e.controller⟩).2.controller })
                ordered fits admissible next stocked unnoted now ticket p
      | woken | elapsed | acknowledged | probed | ran =>
          rw [answer_of_waiting stage rfl]
          exact Underway.passage (.provisioning rfl ordered fits admissible holds stocked unnoted)

private theorem step_passage (underway : Underway numNodes capacity ds e) {b : Beat}
    (smooth : b.Smooth capacity e) (ticket : Nat) :
    Passage numNodes capacity ds
      (step b.now ticket b.signal b.move e b.pool).execution
      (step b.now ticket b.signal b.move e b.pool).items := by
  obtain ⟨now, signal, move, p⟩ := b
  obtain ⟨quiet, unhindered, ⟨held, balanced⟩, size, shown⟩ := smooth
  have still : Passage numNodes capacity ds e [] := underway.passage
  cases move with
  | enter =>
      simp only [step]
      split
      · exact still
      · unfold enter
        have live : { e with attentive := true }.isClosing = false := underway.isClosing
        have quiet : signal.reason = none := quiet
        simp only [live, quiet, Bool.false_eq_true, if_false]
        split
        · contradiction
        · next fresh _ =>
            obtain ⟨declared, made, countable, blank, unnoted⟩ := underway.of_fresh fresh
            exact begin_passage (e := { e with began := now, attentive := true }) declared made
              countable blank unnoted balanced size (shown (Execution.isFresh_of_stage fresh))
              ticket
        · contradiction
        · exact (underway.carried e.began true).passage
  | observe service exposure => exact (underway.observe service exposure).passage
  | park => exact (underway.carried e.began false).passage
  | breakDown message => cases unhindered
  | answer a =>
      simp only [step]
      split
      · exact answer_passage underway balanced unhindered now ticket
      · exact still
  | wake =>
      simp only [step]
      split
      · next sleeping =>
          have preparing := underway.isPreparing
          simp [Execution.isPreparing, sleeping] at preparing
      · exact still
  | expire => cases unhindered
  | giveUp =>
      simp only [step, giveUp_of_isPreparing underway.isPreparing, ite_self]
      exact still

private theorem step_of_isClosing (closing : e.isClosing = true) (now : Instant) (ticket : Nat)
    (signal : AbortSignal) (move : CaseMove) (p : Pool) :
    (step now ticket signal move e p).items = [] ∧
      (step now ticket signal move e p).execution.notes = e.notes := by
  cases move with
  | enter =>
      simp only [step]
      split
      · exact ⟨rfl, rfl⟩
      · unfold enter
        rw [if_pos (by exact closing)]
        exact ⟨rfl, rfl⟩
  | observe | park => exact ⟨rfl, rfl⟩
  | breakDown message =>
      refine ⟨rfl, ?_⟩
      simp only [step, Account.silent, Execution.step]
      split
      · rfl
      · unfold Execution.breakDown
        split <;> rfl
  | answer a =>
      simp only [step]
      split
      · unfold answer
        split
        · next purpose operation working =>
            split
            · exact ⟨rfl, rfl⟩
            · next completion site _ =>
                cases purpose with
                | close outcome => cases completion <;> exact ⟨rfl, rfl⟩
                | reserve | provision | startAll | control | stopEarly =>
                    simp [Execution.isClosing, working] at closing
        · exact ⟨rfl, rfl⟩
      · exact ⟨rfl, rfl⟩
  | wake =>
      simp only [step]
      split
      · next sleeping => simp [Execution.isClosing, sleeping] at closing
      · exact ⟨rfl, rfl⟩
  | expire =>
      simp only [step]
      split
      · exact ⟨rfl, rfl⟩
      · rw [closing, Bool.not_true, Bool.and_false, Bool.false_and]
        exact ⟨rfl, rfl⟩
  | giveUp =>
      simp only [step, giveUp_of_isClosing closing, ite_self]
      exact ⟨rfl, rfl⟩

end Account

/-! ## Runs -/

namespace Execution

variable {capacity : Nat} {numNodes : Option Nat} {ds : List Descriptor} {e : Execution}
  {ticket : Nat}

theorem beat_eq (ticket : Nat) (e : Execution) (b : Beat) :
    e.beat ticket b = (Account.step b.now ticket b.signal b.move e b.pool).execution :=
  (congrArg Prod.fst (Account.result_step b.now ticket b.signal b.move e b.pool)).symm

theorem Rules.isClosing {outcome : Outcome} (rules : Rules outcome e) : e.isClosing = true := by
  rcases rules with settled | ⟨message, broken⟩
  · exact isClosing_of_settled? settled
  · simp [Execution.isClosing, broken]

theorem Passage.beat {before : List Item} (passage : Passage numNodes capacity ds e before)
    {b : Beat} (smooth : e.isPreparing = true → b.Smooth capacity e) (ticket : Nat) :
    Passage numNodes capacity ds (e.beat ticket b)
      (before ++ (Account.step b.now ticket b.signal b.move e b.pool).items) := by
  cases passage with
  | underway underway prepares =>
      rw [beat_eq]
      exact (Account.step_passage underway (smooth underway.isPreparing) ticket).prepend prepares
  | failed infeasible prepares unnoted cause rules =>
      obtain ⟨nothing, same⟩ :=
        Account.step_of_isClosing rules.isClosing b.now ticket b.signal b.move b.pool
      rw [nothing, List.append_nil]
      refine .failed infeasible prepares ?_ cause
        (rules.step b.now ticket b.signal b.move b.pool)
      rw [beat_eq, same, unnoted]
  | launched feasible item mem launches gone =>
      exact .launched feasible item (List.mem_append_left _ mem) launches
        (isPreparing_step gone b.now ticket b.signal b.move b.pool)

theorem Passage.run {before : List Item} (passage : Passage numNodes capacity ds e before)
    {beats : List Beat} (unhindered : Unhindered capacity ticket e beats) :
    Passage numNodes capacity ds (e.run ticket beats) (before ++ e.items ticket beats) := by
  induction beats generalizing e before with
  | nil => rwa [items, List.append_nil]
  | cons b beats ih =>
      have next := ih (passage.beat unhindered.1 ticket) unhindered.2
      rwa [List.append_assoc] at next

end Execution

end Interop
