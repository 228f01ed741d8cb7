import Interop.Execution
import Interop.Proofs.Lifecycle.Custody

/-!
# The stock of a case

A case reserves the nodes of its services before it provisions the first one.  From then on
its reservation holds exactly what it would take for the services that are left, under what is
left of its budget.  So a service that is not refused finds its nodes there and never has to
look for them in the pool.
-/

namespace Interop

namespace Execution

/-- The number of nodes that a case takes is the one that its services come to, when its sum fits
into a machine word or is checked. -/
theorem wantedNodes?_eq_some {checked : Bool} {numNodes : Option Nat} {ds : List Descriptor}
    {count : Nat} (counted : wantedNodes? checked numNodes ds = some count)
    (exact_sum : checked = true ∨ Descriptor.totalNodes ds ≤ Span.maxWord) :
    count = wantedOf numNodes (Descriptor.totalNodes ds) := by
  unfold wantedNodes? Descriptor.wordTotal? at counted
  by_cases fits : Descriptor.totalNodes ds ≤ Span.maxWord
  · simpa [fits] using counted.symm
  · rcases exact_sum with rfl | fits'
    · simp [fits] at counted
    · exact absurd fits' fits

theorem wantedNodes?_of_le {checked : Bool} {numNodes : Option Nat} {ds : List Descriptor}
    (fits : Descriptor.totalNodes ds ≤ Span.maxWord) :
    wantedNodes? checked numNodes ds = some (wantedOf numNodes (Descriptor.totalNodes ds)) := by
  simp [wantedNodes?, Descriptor.wordTotal?, fits]

end Execution

namespace Controller

def Stocked (c : Controller) (assigned : Nat) (ds : List Descriptor) : Prop :=
  c.unassigned =
    Execution.wantedOf (c.settings.nodeBudget.map (· - assigned)) (Descriptor.totalNodes ds)

structure Blank (c : Controller) (numNodes : Option Nat) : Prop where
  handles : c.handles = []
  reservation : c.reservation = none
  assigned : c.nodesAssigned = 0
  budget : c.settings.nodeBudget = numNodes

variable {c : Controller} {numNodes : Option Nat}

theorem blank_ofSettings (config : Config) (numNodes : Option Nat) :
    (ofSettings (config.settings numNodes)).Blank numNodes := ⟨rfl, rfl, rfl, rfl⟩

theorem Blank.held (blank : c.Blank numNodes) : c.held = [] := by
  simp [Controller.held, leases, blank.handles, blank.reservation]

theorem Blank.observe (blank : c.Blank numNodes) (service : Nat) (exposure : Exposure) :
    (c.observe service exposure).Blank numNodes :=
  ⟨by simp [Controller.observe, modifyHandle, blank.handles], blank.reservation, blank.assigned,
    blank.budget⟩

private theorem Blank.stocked (blank : c.Blank numNodes) {ds : List Descriptor} {after : Controller}
    (settings : after.settings = c.settings) (assigned : after.nodesAssigned = c.nodesAssigned)
    (taken : after.unassigned = Execution.wantedOf numNodes (Descriptor.totalNodes ds)) :
    after.Stocked after.nodesAssigned ds := by
  have whole : numNodes.map (· - 0) = numNodes := by simp
  rw [Stocked, settings, assigned, blank.assigned, blank.budget, whole]
  exact taken

private theorem positive_of_accepted {d : Descriptor} (accepted : Site.refusal? c d = none) :
    0 < d.nodeCount := by
  by_contra empty
  have zero : d.nodeCount = 0 := by omega
  have invalid : ∃ e, d.validate = .error e := by
    unfold Descriptor.validate Descriptor.defect?
    by_cases unnamed : d.name.isEmpty = true <;> simp [unnamed, zero]
  obtain ⟨e, invalid⟩ := invalid
  simp [Site.refusal?, invalid] at accepted

/-- A service that is not refused finds its nodes in the reservation, and what remains is the
stock for the services after it. -/
theorem Stocked.draw {d : Descriptor} {pending : List Descriptor}
    (stocked : c.Stocked c.nodesAssigned (d :: pending))
    (accepted : Site.refusal? c d = none) :
    ∃ held lease rest, c.reservation = some held ∧
      held.splitOff d.nodeCount = some (lease, rest) ∧
      { c with reservation := some rest }.Stocked (c.nodesAssigned + d.nodeCount) pending := by
  have positive := positive_of_accepted accepted
  have enough : d.nodeCount ≤ c.unassigned ∧
      c.unassigned - d.nodeCount = Execution.wantedOf
        (c.settings.nodeBudget.map (· - (c.nodesAssigned + d.nodeCount)))
        (Descriptor.totalNodes pending) := by
    rw [stocked]
    cases declared : c.settings.nodeBudget with
    | none => simp [Execution.wantedOf, Descriptor.totalNodes]
    | some budget =>
        -- The service fits into both sides of the minimum, and both go down by its nodes.
        have affordable := Site.affordable_of_accepted accepted declared
        simp only [Execution.wantedOf, Descriptor.totalNodes, Option.map_some]
        omega
  cases reserved : c.reservation with
  | none =>
      -- Without a reservation there would be nothing for a service that needs a node at least.
      simp only [unassigned, reserved] at enough
      omega
  | some held =>
      simp only [unassigned, reserved, Lease.size] at enough
      have parted : held.splitOff d.nodeCount =
          some (⟨held.nodes.take d.nodeCount⟩, ⟨held.nodes.drop d.nodeCount⟩) :=
        if_neg (Nat.not_lt.mpr enough.1)
      refine ⟨held, _, _, rfl, parted, ?_⟩
      simp only [Stocked, unassigned, Lease.size, List.length_drop]
      exact enough.2

end Controller

namespace Site

variable {now : Instant} {ticket : Nat} {s : Site}

/-! ## The reservation of a case -/

inductive Reserving (count : Nat) (c : Controller) : Progress × Site → Prop
  | nothing (empty : count = 0) (pool : Pool) :
      Reserving count c (.finished (.reserved (.ok ())), ⟨pool, c⟩)
  | granted {lease : Lease} (size : lease.size = count) (pool : Pool) :
      Reserving count c (.finished (.reserved (.ok ())), Site.keep ⟨pool, c⟩ lease)
  | refused (e : LifecycleError) (pool : Pool) :
      Reserving count c (.finished (.reserved (.error e)), ⟨pool, c⟩)
  /-- The clock cannot show until when the case would wait. -/
  | broken (message : String) (pool : Pool) :
      Reserving count c (.finished (.panicked message), ⟨pool, c⟩)
  | waits (deadline : Instant) (pool : Pool) :
      Reserving count c (.waiting ⟨.alone, .reservation count deadline⟩, ⟨pool, c⟩)

theorem issue_reserve {held : List Node} (balanced : s.pool.Balanced held) (now : Instant)
    (ticket count : Nat) : Reserving count s.controller (s.issue now ticket (.reserve count)) := by
  simp only [issue, reserve]
  split
  · next empty => exact .nothing empty s.pool
  · split
    · exact .refused _ s.pool
    · split
      · exact .broken _ s.pool
      · rcases attempt_cases s ticket count with ⟨lease, pool, granted, same⟩ | same
        · rw [same]
          exact .granted (size_of_granted balanced granted) _
        · rw [same]
          exact .waits _ _

theorem resume_reservation {held : List Node} (balanced : s.pool.Balanced held) (now : Instant)
    (ticket count : Nat) (deadline : Instant) (answer : Answer) :
    Reserving count s.controller
      (s.resume now ticket ⟨.alone, .reservation count deadline⟩ answer) := by
  cases answer with
  | woken =>
      simp only [resume, continueWith]
      rcases attempt_cases s ticket count with ⟨lease, pool, granted, same⟩ | same
      · rw [same]
        exact .granted (size_of_granted balanced granted) _
      · rw [same]
        exact .waits _ _
  | elapsed => exact .refused _ _
  | materialized | acknowledged | probed | ran => exact .waits deadline s.pool

/-- Whatever the reservation of a case that has nothing comes to: unless it fails, breaks down or
has to wait, the case is stocked. -/
theorem Reserving.stocked {numNodes : Option Nat} {ds : List Descriptor} {c : Controller}
    (blank : c.Blank numNodes) {site : Site} {completion : Completion}
    (reserving : Reserving (Execution.wantedOf numNodes (Descriptor.totalNodes ds)) c
      (.finished completion, site)) :
    ((∃ e, completion = .reserved (.error e)) ∨ ∃ message, completion = .panicked message) ∨
      (completion = .reserved (.ok ()) ∧
        site.controller.Stocked site.controller.nodesAssigned ds) := by
  cases reserving with
  | nothing empty pool =>
      refine .inr ⟨rfl, blank.stocked rfl rfl ?_⟩
      simp [Controller.unassigned, blank.reservation, empty]
  | granted size pool =>
      refine .inr ⟨rfl, blank.stocked rfl rfl ?_⟩
      simp [Site.keep, Site.modify, Controller.unassigned, blank.reservation, size]
  | refused e pool => exact .inl (.inl ⟨e, rfl⟩)
  | broken message pool => exact .inl (.inr ⟨message, rfl⟩)

/-! ## The services of a case -/

/-- A service of a stocked case is refused, or it gets all its nodes from the reservation and
the pool stays as it is. -/
theorem issue_provision {d : Descriptor} {pending : List Descriptor}
    (stocked : s.controller.Stocked s.controller.nodesAssigned (d :: pending)) (now : Instant)
    (ticket : Nat) :
    (∃ e, refusal? s.controller d = some e ∧
      s.issue now ticket (.provision d) =
        (.finished (.provisioned (.error (.provision e))), s)) ∨
    ∃ held lease rest site, refusal? s.controller d = none ∧
      s.controller.reservation = some held ∧
      held.splitOff d.nodeCount = some (lease, rest) ∧
      s.issue now ticket (.provision d) =
        (.waiting ⟨.alone, .materialization d lease⟩, site) ∧
      site.pool = s.pool ∧ site.controller.reservation = some rest ∧
      site.controller.Stocked (site.controller.nodesAssigned + d.nodeCount) pending := by
  cases refused : refusal? s.controller d with
  | some e =>
      refine .inl ⟨e, rfl, ?_⟩
      simp [issue, provision, refused, follow]
  | none =>
      obtain ⟨held, lease, rest, reserved, parted, left⟩ := stocked.draw refused
      refine .inr ⟨held, lease, rest,
        (materialize d lease (s.modify fun c => { c with reservation := some rest })).2, rfl,
        reserved, parted, ?_, rfl, rfl, left⟩
      simp [issue, provision, refused, drawReserved, reserved, parted, materialize, follow]

inductive Materializing (d : Descriptor) (lease : Lease) (c : Controller) :
    Progress × Site → Prop
  | waits (pool : Pool) :
      Materializing d lease c (.waiting ⟨.alone, .materialization d lease⟩, ⟨pool, c⟩)
  | adopted {site : Site} (id : Nat) (settings : site.controller.settings = c.settings)
      (reservation : site.controller.reservation = c.reservation)
      (assigned : site.controller.nodesAssigned = c.nodesAssigned + d.nodeCount) :
      Materializing d lease c (.finished (.provisioned (.ok id)), site)
  | declined (e : LifecycleError) (pool : Pool) :
      Materializing d lease c (.finished (.provisioned (.error e)), ⟨pool, c⟩)

theorem resume_materialization (now : Instant) (ticket : Nat) (d : Descriptor) (lease : Lease)
    (answer : Answer) (s : Site) :
    Materializing d lease s.controller
      (s.resume now ticket ⟨.alone, .materialization d lease⟩ answer) := by
  cases answer with
  | materialized result =>
      cases result with
      | ok exposure => exact .adopted _ rfl rfl rfl
      | error e => exact .declined _ _
  | woken | elapsed | acknowledged | probed | ran => exact .waits s.pool

end Site

/-! ## Operations that look for no nodes -/

def Command.seeks : Command → Bool
  | .reserve _ | .provision _ => true
  | .start _ | .startAll | .run _ | .stop _ | .teardown => false

def Still (w : Option Wait) : Prop := ∀ wait ∈ w, wait.seeks? = none

theorem still_none : Still none := by simp [Still]

namespace Site

variable {now : Instant} {ticket : Nat} {s : Site}

theorem still_start (now : Instant) (id : Nat) (s : Site) : Still (s.start now id).1.wait? := by
  unfold start
  split
  · exact still_none
  · exact still_none
  · dsimp only
    split <;> simp [Leg.wait?, Still, Wait.seeks?]

private theorem still_run (now : Instant) (id : Nat) (s : Site) : Still (s.run now id).1.wait? := by
  unfold run
  split <;> simp [Leg.wait?, Still, Wait.seeks?]

theorem still_stop (now : Instant) (id : Nat) (s : Site) : Still (s.stop now id).1.wait? := by
  unfold stop
  split
  · exact still_none
  · split <;> simp [Leg.wait?, Still, Wait.seeks?]

theorem still_startFrom (now : Instant) (next : Nat) (signals : List ReadySignal) (s : Site) :
    Still (s.startFrom now next signals).1.wait? := by
  unfold startFrom
  split
  · exact still_none
  · next id _ =>
      have still := still_start now id s
      split
      · next same =>
          rw [same] at still
          exact still
      · exact still_none
      · exact still_none

theorem still_teardownFrom (now : Instant) (warnings : List Warning) (order : List Nat)
    (s : Site) : Still (s.teardownFrom now warnings order).1.wait? := by
  induction order generalizing s warnings with
  | nil => exact still_none
  | cons id rest ih =>
      have still := still_stop now id s
      unfold teardownFrom
      split
      · next same =>
          rw [same] at still
          exact still
      · exact ih _ _
      · exact ih _ _

theorem still_follow (now : Instant) (goal : Goal) {leg : Leg} (s : Site)
    (still : Still leg.wait?) : Still (follow now goal leg s).1.wait? := by
  unfold follow
  split
  · exact still
  · split
    · exact still_startFrom now _ _ s
    · exact still_none
    · exact still_teardownFrom now _ _ s
    · exact still_none

private theorem still_issue {command : Command} (quiet : command.seeks = false) (now : Instant)
    (ticket : Nat) (s : Site) : Still (s.issue now ticket command).1.wait? := by
  cases command with
  | reserve | provision => cases quiet
  | start id => exact still_follow now .alone _ (still_start now id s)
  | startAll => exact still_startFrom now 0 [] s
  | run id => exact still_follow now .alone _ (still_run now id s)
  | stop id => exact still_follow now .alone _ (still_stop now id s)
  | teardown => exact still_teardownFrom now [] _ s

theorem still_of_issued {command : Command} {operation : Operation} {site : Site}
    (issued : s.issue now ticket command = (.waiting operation, site))
    (quiet : command.seeks = false) : operation.wait.seeks? = none := by
  have still := still_issue quiet now ticket s
  rw [issued] at still
  exact still _ rfl

private theorem still_of_moves {wait : Wait} {w : Option Wait} {s' : Site}
    (still : wait.seeks? = none)
    (moves : Moves now ticket (some wait) s w s') : Still w := by
  cases moves with
  | stays => simpa [Still] using still
  | queues before after same =>
      obtain rfl := same wait rfl
      simpa [Still] using still
  | places before granted => simp [Still, Wait.seeks?]
  | probes | pauses | kills => simp [Still, Wait.seeks?]
  | misses | reserves | givesUp | adopts | declines | lapses | readies | completes | fails
  | releases => exact still_none

private theorem still_resume {operation : Operation} (still : operation.wait.seeks? = none)
    (now : Instant) (ticket : Nat) (answer : Answer) (s : Site) :
    Still (s.resume now ticket operation answer).1.wait? :=
  still_follow now operation.goal _
    (still_of_moves still (continueWith_leads now ticket operation.wait answer s))

theorem still_of_resumed {operation later : Operation} {answer : Answer} {site : Site}
    (resumed : s.resume now ticket operation answer = (.waiting later, site))
    (before : operation.wait.seeks? = none) : later.wait.seeks? = none := by
  have still := still_resume before now ticket answer s
  rw [resumed] at still
  exact still _ rfl

end Site

end Interop
