import Interop.Proofs.Descriptor.Arrangement
import Interop.Proofs.Lifecycle.Careers
import Interop.Proofs.Lifecycle.Custody
import Interop.Proofs.Pool.Tenancy

/-!
# A controller among others

A controller on duty draws from a pool on which any number of other tasks draw too.  Whatever
it is told, wherever its operations are dropped, and whatever the others do in between, its
books stay in order: names, dependencies and the start order fit together, the nodes assigned
are those of its services and within the budget, and a service has exactly its nodes until it is
stopped.
-/

namespace Interop

/-- A controller on duty, and the leases that others have of its pool. -/
structure Commons where
  duty : Duty
  others : List Lease

inductive CommonsMove
  | issue (now : Instant) (ticket : Nat) (command : Command)
  | answer (now : Instant) (ticket : Nat) (answer : Answer)
  | cancel (ticket : Nat)
  | observe (service : Nat) (exposure : Exposure)
  | others (move : TenancyMove)

namespace Commons

def ofSettings (settings : Settings) (hosts : List String) : Commons :=
  ⟨.ofSettings settings (.ofHosts hosts), []⟩

def controller (m : Commons) : Controller := m.duty.controller

def pool (m : Commons) : Pool := m.duty.site.pool

def tenancy (m : Commons) : Tenancy := ⟨m.pool, m.others⟩

def step (m : Commons) : CommonsMove → Commons
  | .issue now ticket command => { m with duty := m.duty.step (.issue now ticket command) }
  | .answer now ticket answer => { m with duty := m.duty.step (.answer now ticket answer) }
  | .cancel ticket => { m with duty := m.duty.step (.cancel ticket) }
  | .observe service exposure => { m with duty := m.duty.step (.observe service exposure) }
  | .others move =>
    { duty := m.duty.step (.share (m.tenancy.step move).2.pool)
      others := (m.tenancy.step move).2.leases }

def run (m : Commons) (moves : List CommonsMove) : Commons := moves.foldl step m

private theorem exists_duty_step (m : Commons) (move : CommonsMove) :
    ∃ move', (m.step move).duty = m.duty.step move' := by
  cases move with
  | issue now ticket command => exact ⟨.issue now ticket command, rfl⟩
  | answer now ticket answer => exact ⟨.answer now ticket answer, rfl⟩
  | cancel ticket => exact ⟨.cancel ticket, rfl⟩
  | observe service exposure => exact ⟨.observe service exposure, rfl⟩
  | others move => exact ⟨.share (m.tenancy.step move).2.pool, rfl⟩

private theorem exists_duty_run (m : Commons) (moves : List CommonsMove) :
    ∃ moves', (m.run moves).duty = m.duty.run moves' := by
  induction moves generalizing m with
  | nil => exact ⟨[], rfl⟩
  | cons move moves ih =>
      obtain ⟨first, same⟩ := m.exists_duty_step move
      obtain ⟨rest, same'⟩ := ih (m.step move)
      refine ⟨first :: rest, ?_⟩
      rw [same] at same'
      exact same'

end Commons

/-! ## The budget -/

/-- The nodes of all services ever provisioned were counted, and with those of a service that is
to be added they are within the budget. -/
structure Budgeted (settings : Settings) (c : Controller) (w : Option Wait) : Prop where
  unchanged : c.settings = settings
  assigned : c.nodesAssigned = Descriptor.totalNodes (c.handles.map Handle.descriptor)
  within : ∀ budget, settings.nodeBudget = some budget → c.nodesAssigned ≤ budget
  room : ∀ d, w.bind Wait.places? = some d → ∀ budget, settings.nodeBudget = some budget →
    d.nodeCount ≤ budget - c.nodesAssigned

namespace Budgeted

variable {now : Instant} {ticket : Nat} {settings : Settings} {c c' : Controller}
  {w w' : Option Wait}

theorem still (h : Budgeted settings c w) (same : c'.settings = c.settings)
    (assigned : c'.nodesAssigned = c.nodesAssigned)
    (plans : c'.handles.map Handle.descriptor = c.handles.map Handle.descriptor)
    (places : w'.bind Wait.places? = w.bind Wait.places? ∨ w'.bind Wait.places? = none) :
    Budgeted settings c' w' := by
  constructor
  · exact same.trans h.unchanged
  · rw [assigned, plans]
    exact h.assigned
  · rw [assigned]
    exact h.within
  · intro d placed
    rw [assigned]
    rcases places with same | none
    · exact h.room d (same ▸ placed)
    · rw [none] at placed
      cases placed

private theorem accept (h : Budgeted settings c w) {d : Descriptor}
    (accepted : Site.refusal? c d = none) (same : c'.settings = c.settings)
    (assigned : c'.nodesAssigned = c.nodesAssigned)
    (plans : c'.handles.map Handle.descriptor = c.handles.map Handle.descriptor)
    (places : ∀ d', w'.bind Wait.places? = some d' → d' = d) : Budgeted settings c' w' := by
  constructor
  · exact same.trans h.unchanged
  · rw [assigned, plans]
    exact h.assigned
  · rw [assigned]
    exact h.within
  · intro d' placed budget declared
    obtain rfl := places d' placed
    rw [assigned]
    exact Site.affordable_of_accepted accepted (h.unchanged ▸ declared)

private theorem adopt {s : Site} {d : Descriptor} {lease : Lease} {exposure : Exposure}
    (h : Budgeted settings s.controller (some (.materialization d lease))) :
    Budgeted settings (s.adopt now d lease exposure).2.controller none := by
  constructor
  · exact h.unchanged
  · have assigned := h.assigned
    simp only [Site.adopt, Site.modify, Controller.record, List.map_append,
      Descriptor.totalNodes_append]
    simp [Descriptor.totalNodes, Handle.fresh, assigned]
  · intro budget declared
    have within := h.within budget declared
    have room := h.room d rfl budget declared
    simp only [Site.adopt, Site.modify, Controller.record]
    omega
  · intro d placed
    cases placed

private theorem moves {s s' : Site} (h : Budgeted settings s.controller w)
    (moves : Site.Moves now ticket w s w' s') : Budgeted settings s'.controller w' := by
  cases moves with
  | stays => exact h
  | misses | givesUp | declines | reserves => exact h.still rfl rfl rfl (.inr rfl)
  | @queues _ wait count s before after same accepted fits =>
      cases w with
      | some x =>
          obtain rfl := same x rfl
          exact h.still rfl rfl rfl (.inl rfl)
      | none =>
          cases placed : wait.places? with
          | none =>
              refine h.still rfl rfl rfl ?_
              simp [placed]
          | some d =>
              refine h.accept (accepted rfl d placed) rfl rfl rfl ?_
              simp [placed]
  | @places _ d s lease pool before granted accepted =>
      cases w with
      | some x =>
          obtain ⟨deadline, rfl⟩ := before x rfl
          exact h.still rfl rfl rfl (.inl rfl)
      | none =>
          refine h.accept (accepted rfl) rfl rfl rfl ?_
          simp [Wait.places?]
  | @draws d s drawn lease accepted taken =>
      obtain ⟨held, rest, -, -, rfl⟩ := Site.drawReserved_eq_some taken
      refine h.accept accepted rfl rfl rfl ?_
      simp [Wait.places?, Option.bind]
  | adopts => exact h.adopt
  | @starts id | @breaks id | @runs id | @readies id | @completes id | @fails _ id
  | @releases _ id =>
      exact h.still rfl rfl (Controller.plans_modifyHandle _ id fun _ => rfl) (.inr rfl)
  | probes | pauses | lapses | stops | kills => exact h.still rfl rfl rfl (.inr rfl)

private theorem lasting (settings : Settings) :
    Site.Lasting fun s w => Budgeted settings s.controller w where
  moves moves h := h.moves moves
  dropReservation {s} h := by
    unfold Site.dropReservation
    split
    · exact h
    · exact h.still rfl rfl rfl (.inr rfl)
  drop {s} h := by
    rw [Site.drop_eq]
    exact h.still rfl rfl (by simp) (.inr rfl)
  observe {s w} service exposure h :=
    h.still rfl rfl (s.controller.plans_modifyHandle service fun _ => rfl) (.inl rfl)

end Budgeted

/-! ## The nodes of each service -/

/-- Every service has its nodes until it is stopped, and so has a service that is to be added. -/
structure Equipped (c : Controller) (w : Option Wait) : Prop where
  sized : ∀ {d : Descriptor} {lease : Lease}, w = some (.materialization d lease) →
    lease.size = d.nodeCount
  owned : ∀ handle ∈ c.handles, handle.state ≠ .stopped →
    ∃ lease, handle.lease = some lease ∧ lease.size = handle.descriptor.nodeCount

namespace Equipped

variable {now : Instant} {ticket : Nat} {c c' : Controller} {w w' : Option Wait}

theorem still (h : Equipped c w) (handles : c'.handles = c.handles)
    (sized : ∀ {d : Descriptor} {lease : Lease}, w' = some (.materialization d lease) →
      lease.size = d.nodeCount) : Equipped c' w' := by
  constructor
  · exact sized
  · rw [handles]
    exact h.owned

/-- A service changes, but not in what it owns; if it is active afterwards it was so before. -/
theorem modify (h : Equipped c w) (id : Nat) {f : Handle → Handle}
    (handles : c'.handles = (c.modifyHandle id f).handles)
    (active : ∀ handle, c.handles[id]? = some handle → (f handle).state ≠ .stopped →
      handle.state ≠ .stopped ∧ (f handle).lease = handle.lease ∧
        (f handle).descriptor = handle.descriptor)
    (sized : ∀ {d : Descriptor} {lease : Lease}, w' = some (.materialization d lease) →
      lease.size = d.nodeCount) : Equipped c' w' := by
  constructor
  · exact sized
  · intro handle mem running
    rw [handles] at mem
    obtain ⟨index, found⟩ := List.mem_iff_getElem?.mp mem
    simp only [Controller.getElem?_modifyHandle, Option.map_eq_some_iff] at found
    obtain ⟨before, present, rfl⟩ := found
    by_cases here : id = index
    · subst here
      rw [if_pos rfl] at running ⊢
      obtain ⟨was, lease, descriptor⟩ := active before present running
      rw [lease, descriptor]
      exact h.owned before (List.mem_of_getElem? present) was
    · rw [if_neg here] at running ⊢
      exact h.owned before (List.mem_of_getElem? present) running

private theorem drive {id : Nat} {before : HandleState} (h : Equipped c w) (state : HandleState)
    (handles : c'.handles = (c.setState id state).handles)
    (stood : c.ledger.states[id]? = some before) (active : before ≠ .stopped)
    (sized : ∀ {d : Descriptor} {lease : Lease}, w' = some (.materialization d lease) →
      lease.size = d.nodeCount) : Equipped c' w' := by
  refine h.modify id handles ?_ sized
  intro handle found _
  have stands := Controller.getElem?_states found
  obtain rfl := Option.some.inj (stands.symm.trans stood)
  exact ⟨active, rfl, rfl⟩

private theorem moves {others : List Node} {s s' : Site} (h : Equipped s.controller w)
    (custody : Custody others s w) (backs : s.controller.ledger.Backs w)
    (moves : Site.Moves now ticket w s w' s') : Equipped s'.controller w' := by
  cases moves with
  | stays => exact h
  | misses | givesUp | declines | reserves | probes | pauses | lapses | stops | kills =>
      exact h.still rfl nofun
  | queues before after =>
      refine h.still rfl ?_
      rintro d lease same
      cases same
      cases after
  | @places _ d s lease pool before granted accepted =>
      refine h.still rfl ?_
      rintro d' lease' same
      cases same
      exact Site.size_of_granted custody.balanced granted
  | @draws d s drawn lease accepted taken =>
      obtain ⟨held, rest, -, parted, rfl⟩ := Site.drawReserved_eq_some taken
      refine h.still rfl ?_
      rintro d' lease' same
      cases same
      exact Lease.size_of_splitOff parted
  | adopts d lease exposure =>
      constructor
      · nofun
      · intro handle mem active
        rcases List.mem_append.mp mem with mem | mem
        · exact h.owned handle mem active
        · rw [List.mem_singleton.mp mem]
          exact ⟨lease, rfl, h.sized rfl⟩
  | starts deadline planned | breaks planned =>
      obtain ⟨handle, found, idle⟩ := Site.provisioned_of_planStart planned
      exact h.drive .starting rfl (Controller.getElem?_states found) (by simp [idle]) nofun
  | runs planned =>
      obtain ⟨handle, found, idle⟩ := Site.provisioned_of_planRun planned
      exact h.drive .running rfl (Controller.getElem?_states found) (by simp [idle]) nofun
  | readies found => exact h.drive .ready rfl (backs.starting rfl) nofun nofun
  | completes found => exact h.drive .completed rfl (backs.running rfl) nofun nofun
  | fails driven found =>
      rcases driven with started | rfl
      · exact h.drive .failed rfl (backs.starting started) nofun nofun
      · exact h.drive .failed rfl (backs.running rfl) nofun nofun
  | @releases _ id handle _ problem stopping found =>
      -- The service that loses its nodes is stopped, and of a stopped one nothing is asked.
      refine h.modify id rfl ?_ nofun
      intro handle _ active
      exact absurd rfl active

end Equipped

/-! ## Everything together -/

structure Housed (nodes others : List Node) (s : Site) (w : Option Wait) : Prop where
  custody : Custody others s w
  backs : s.controller.ledger.Backs w
  equipped : Equipped s.controller w
  nodes : s.pool.nodes = nodes

namespace Housed

variable {nodes others : List Node} {s : Site} {w : Option Wait}

private theorem standing (nodes others : List Node) : Site.Standing (Housed nodes others) where
  moves moves h :=
    ⟨h.custody.moves moves, (Ledger.step_of_moves h.backs moves).2,
      h.equipped.moves h.custody h.backs moves, (Site.lasting_nodes nodes).moves moves h.nodes⟩
  dropReservation {s} h := by
    refine ⟨h.custody.dropReservation, ?_, ?_, (Site.lasting_nodes nodes).dropReservation h.nodes⟩
    · rw [Controller.ledger_dropReservation]
      exact h.backs
    · exact h.equipped.still (Site.dropReservation_handles s) nofun
  observe {s w} service exposure h := by
    refine ⟨(Custody.lasting others).observe service exposure h.custody, ?_, ?_, h.nodes⟩
    · rw [Site.modify, Controller.ledger_observe]
      exact h.backs
    · exact h.equipped.modify service rfl (fun _ _ active => ⟨active, rfl, rfl⟩) h.equipped.sized

private theorem cancel {operation : Operation} (h : Housed nodes others s (some operation.wait))
    (ticket : Nat) : Housed nodes others (Site.cancel ticket operation s) none := by
  refine ⟨h.custody.cancel ticket, .idle _, ?_, ?_⟩
  · refine h.equipped.still ?_ nofun
    rw [Site.controller_cancel]
  · rw [Site.nodes_cancel]
    exact h.nodes

private theorem share {leases : List Lease} {pool : Pool} {c : Controller}
    (h : Housed nodes (leases.flatMap Lease.nodes) ⟨pool, c⟩ w) (move : TenancyMove) :
    Housed nodes ((Tenancy.mk pool leases).step move).2.held
      ⟨((Tenancy.mk pool leases).step move).2.pool, c⟩ w := by
  have moved : ∀ held : List Node,
      (c.held ++ (inHand w ++ held)).Perm (held ++ (c.held ++ inHand w)) := by
    intro held
    rw [← List.append_assoc]
    exact List.perm_append_comm
  have fair : (Tenancy.mk pool leases).Fair (c.held ++ inHand w) :=
    h.custody.balanced.perm (moved _)
  refine ⟨⟨(fair.step move).1.perm (moved _).symm, h.custody.settled⟩, h.backs, ?_, ?_⟩
  · exact h.equipped.still rfl h.equipped.sized
  · exact (Tenancy.nodes_step _ move).trans h.nodes

end Housed

namespace Commons

def Sound (m : Commons) (nodes : List Node) : Prop :=
  Housed nodes (m.others.flatMap Lease.nodes) m.duty.site m.duty.wait?

private theorem Sound.step {m : Commons} {nodes : List Node} (sound : m.Sound nodes)
    (move : CommonsMove) : (m.step move).Sound nodes := by
  obtain ⟨⟨site, operation⟩, others⟩ := m
  have standing := Housed.standing nodes (others.flatMap Lease.nodes)
  cases move with
  | issue now ticket command =>
      cases operation with
      | none => exact standing.issue now ticket command sound
      | some operation => exact sound
  | answer now ticket answer =>
      cases operation with
      | none => exact sound
      | some operation => exact standing.resume now ticket operation answer sound
  | cancel ticket =>
      cases operation with
      | none => exact sound
      | some operation => exact Housed.cancel sound ticket
  | observe service exposure => exact standing.observe service exposure sound
  | others move => exact Housed.share sound move

theorem Sound.run {m : Commons} {nodes : List Node} (sound : m.Sound nodes)
    (moves : List CommonsMove) : (m.run moves).Sound nodes := by
  induction moves generalizing m with
  | nil => exact sound
  | cons move moves ih => exact ih (sound.step move)

theorem sound_ofSettings (settings : Settings) (hosts : List String) :
    (ofSettings settings hosts).Sound (Pool.ofHosts hosts).nodes := by
  refine ⟨⟨Pool.balanced_ofHosts hosts, ?_⟩, .idle _, ⟨nofun, ?_⟩, rfl⟩
  · intro handle mem
    cases mem
  · intro handle mem
    cases mem

theorem budgeted_run (settings : Settings) (pool : Pool) (moves : List DutyMove) :
    Budgeted settings ((Duty.ofSettings settings pool).run moves).controller
      ((Duty.ofSettings settings pool).run moves).wait? := by
  refine Duty.run_keeps (Budgeted.lasting settings)
    (fun h => h.still rfl rfl rfl (.inr rfl)) ?_ moves
  refine ⟨rfl, rfl, ?_, ?_⟩
  · intro budget _
    exact Nat.zero_le budget
  · intro d placed
    cases placed

theorem Sound.balanced {m : Commons} {nodes : List Node} (sound : m.Sound nodes)
    (idle : m.duty.operation = none) :
    m.pool.Balanced (m.controller.held ++ m.others.flatMap Lease.nodes) := by
  have balanced := sound.custody.balanced
  rw [Duty.wait?, idle] at balanced
  exact balanced

private theorem Sound.nodup_ids {m : Commons} {nodes : List Node} (sound : m.Sound nodes) :
    (m.controller.leases.flatMap Lease.ids).Nodup := by
  have distinct := (List.nodup_append.mp sound.custody.balanced.nodup).2.1
  rw [List.map_append] at distinct
  have held := (List.nodup_append.mp distinct).1
  rw [Controller.held, List.map_flatMap] at held
  exact held

private theorem Sound.lease {m : Commons} {nodes : List Node} (sound : m.Sound nodes)
    {handle : Handle}
    (mem : handle ∈ m.controller.handles) :
    (handle.lease.isSome ↔ handle.state ≠ .stopped) ∧
      ∀ lease ∈ handle.lease, lease.size = handle.descriptor.nodeCount := by
  by_cases stopped : handle.state = .stopped
  · have gone := sound.custody.settled handle mem stopped
    simp [gone, stopped]
  · obtain ⟨lease, owned, size⟩ := sound.equipped.owned handle mem stopped
    simp [owned, stopped, size]

private theorem mem_launches {c : Controller} {id : Nat} :
    id ∈ c.launches ↔ ∃ request ∈ c.requests, request.launches? = some id := by
  rw [Controller.launches, List.mem_reverse, List.mem_filterMap]

/-- Whatever a controller is told, wherever its operations are dropped, and whatever others do
with the pool: no two of its services have one name, and what a service depends on was
provisioned before it.  The nodes assigned are those of all services ever provisioned, within
the budget.  A service has a lease of exactly its nodes as long as it is not stopped.  The
start order has each service once that was ever asked to start or to run, or whose start broke
down before that, and no other.  No node is in two leases of the case, or twice in one. -/
theorem books_of_run (settings : Settings) (hosts : List String) (moves : List CommonsMove) :
    let m := (ofSettings settings hosts).run moves
    let c := m.controller
    (c.handles.map Handle.name).Nodup ∧
      (∀ (id : Nat) (handle : Handle) (dependency : String), c.handles[id]? = some handle →
        dependency ∈ handle.descriptor.dependsOn →
        ∃ earlier < id, ∃ other, c.handles[earlier]? = some other ∧ other.name = dependency) ∧
      c.nodesAssigned = Descriptor.totalNodes (c.handles.map Handle.descriptor) ∧
      (∀ more, c.handles.map Handle.descriptor <+:
        (m.run more).controller.handles.map Handle.descriptor) ∧
      (∀ budget, settings.nodeBudget = some budget → c.nodesAssigned ≤ budget) ∧
      (∀ handle ∈ c.handles, (handle.lease.isSome ↔ handle.state ≠ .stopped) ∧
        ∀ lease ∈ handle.lease, lease.size = handle.descriptor.nodeCount) ∧
      c.startOrder.Nodup ∧
      (∀ id ∈ c.startOrder, id < c.handles.length) ∧
      (∀ id, id ∈ c.startOrder ↔
        (∃ request ∈ c.requests, request.launches? = some id) ∨ c.Overdue id) ∧
      (Ledger.launched c.events =
        c.startOrder.filterMap fun id => c.handles[id]?.map Handle.name) ∧
      (∀ lease ∈ c.leases, lease.ids.Nodup) ∧
      c.leases.Pairwise fun one other => one.ids.Disjoint other.ids := by
  intro m c
  have sound : m.Sound (Pool.ofHosts hosts).nodes := (sound_ofSettings settings hosts).run moves
  -- What holds of a duty with a pool that changes in any way holds here.
  obtain ⟨moves', duty⟩ := exists_duty_run (ofSettings settings hosts) moves
  have same : c = ((Duty.ofSettings settings (.ofHosts hosts)).run moves').controller :=
    congrArg Duty.controller duty
  obtain ⟨faithful, ordered⟩ := Duty.ordered_run settings (.ofHosts hosts) moves'
  have budgeted := budgeted_run settings (.ofHosts hosts) moves'
  have launches := Duty.launches_run settings (.ofHosts hosts) moves'
  have accounted := Duty.accounted_run settings (.ofHosts hosts) moves'
  rw [← same] at faithful ordered budgeted launches accounted
  obtain ⟨distinct, apart⟩ := List.nodup_flatMap.mp sound.nodup_ids
  refine ⟨?_, ?_, budgeted.assigned, ?_, budgeted.within, fun handle mem => sound.lease mem,
    ordered.once, ?_, ?_, ?_, distinct, apart⟩
  · rw [← Controller.names_ledger]
    exact faithful.distinct
  · intro id handle dependency found mem
    obtain ⟨earlier, before, d, planned, named⟩ :=
      ordered.founded (Controller.plan_of_handle found) mem
    simp only [Controller.ledger, List.getElem?_map, Option.map_eq_some_iff] at planned
    obtain ⟨other, there, rfl⟩ := planned
    exact ⟨earlier, before, other, there, named⟩
  · intro more
    obtain ⟨more', later⟩ := m.exists_duty_run more
    rw [duty] at later
    have backs := (Duty.faithful_run settings (.ofHosts hosts) moves').1
    have kept := Duty.ledger_keeps (P := fun l => c.ledger.plans <+: l.plans)
      (fun entry old => old.trans entry.plans_prefix) backs (by rw [← same]) more'
    have after : (m.run more).controller = _ := congrArg Duty.controller later
    rw [after]
    exact kept.2
  · intro id mem
    have inside := ordered.inside faithful mem
    rwa [Controller.ledger, List.length_map] at inside
  · intro id
    rw [← mem_launches]
    refine ⟨accounted id, ?_⟩
    rintro (asked | late)
    · exact launches.subset asked
    · exact late.mem_startOrder faithful ordered
  · refine ordered.told.trans (List.filterMap_congr ?_)
    intro id mem
    simp only [Controller.ledger, List.getElem?_map, Option.map_map]
    rfl

end Commons

end Interop
