import Interop.Proofs.Lifecycle.Closing
import Interop.Proofs.Pool.Balance

/-!
# Who has the nodes of a case

A node of a case is in the hands of the operation in progress, with a service or in the
reservation, and in one place only.  A service that is stopped has none.  No leg of an
operation loses a node or takes one that is not its own.
-/

namespace Interop

/-! ## Services -/

private theorem filterMap_lease_modify (handles : List Handle) (id : Nat) {f : Handle → Handle}
    (same : ∀ handle, (f handle).lease = handle.lease) :
    (handles.modify id f).filterMap Handle.lease = handles.filterMap Handle.lease := by
  induction handles generalizing id with
  | nil => simp
  | cons handle rest ih =>
      cases id with
      | zero => simp [List.filterMap_cons, same]
      | succ id => simp [List.filterMap_cons, ih]

private theorem perm_lease_modify {handles : List Handle} {id : Nat} {handle : Handle}
    {f : Handle → Handle} (found : handles[id]? = some handle) (gone : (f handle).lease = none) :
    (handle.lease.toList ++ (handles.modify id f).filterMap Handle.lease).Perm
      (handles.filterMap Handle.lease) := by
  induction handles generalizing id with
  | nil => simp at found
  | cons other rest ih =>
      cases id with
      | zero =>
          obtain rfl : other = handle := by simpa using found
          cases owned : other.lease <;> simp [gone, owned]
      | succ id =>
          have rest := @ih id (by simpa using found)
          rw [List.modify_succ_cons, List.filterMap_cons, List.filterMap_cons]
          cases other.lease with
          | none => exact rest
          | some lease => exact List.perm_middle.trans (rest.cons lease)

namespace Controller

def held (c : Controller) : List Node := c.leases.flatMap Lease.nodes

def Settled (c : Controller) : Prop :=
  ∀ handle ∈ c.handles, handle.state = .stopped → handle.lease = none

private theorem held_eq {c c' : Controller} (handles : c'.handles = c.handles)
    (reservation : c'.reservation = c.reservation) : c'.held = c.held := by
  rw [held, held, leases, leases, handles, reservation]

theorem held_modifyHandle (c : Controller) (id : Nat) {f : Handle → Handle}
    (same : ∀ handle, (f handle).lease = handle.lease) : (c.modifyHandle id f).held = c.held := by
  simp only [held, leases, modifyHandle, filterMap_lease_modify c.handles id same]

@[simp]
theorem held_setState (c : Controller) (id : Nat) (state : HandleState) :
    (c.setState id state).held = c.held :=
  held_modifyHandle c id fun _ => rfl

theorem Settled.modifyHandle {c : Controller} (settled : c.Settled) (id : Nat)
    {f : Handle → Handle}
    (kept : ∀ handle, (handle.state = .stopped → handle.lease = none) →
      (f handle).state = .stopped → (f handle).lease = none) :
    (c.modifyHandle id f).Settled := by
  intro handle mem stopped
  obtain ⟨index, found⟩ := List.mem_iff_getElem?.mp mem
  simp only [getElem?_modifyHandle, Option.map_eq_some_iff] at found
  obtain ⟨before, present, rfl⟩ := found
  have settled := settled before (List.mem_of_getElem? present)
  split at stopped
  · next here =>
      rw [if_pos here]
      exact kept before settled stopped
  · next elsewhere =>
      rw [if_neg elsewhere]
      exact settled stopped

private theorem Settled.setState {c : Controller} (settled : c.Settled) (id : Nat)
    {state : HandleState}
    (active : state ≠ .stopped) : (c.setState id state).Settled :=
  settled.modifyHandle id fun _ _ stopped => absurd stopped active

theorem Closed.leases_eq_nil {c : Controller} (closed : c.Closed) (settled : c.Settled) :
    c.leases = [] := by
  obtain ⟨stopped, unreserved⟩ := closed
  have unowned : ∀ handle ∈ c.handles, handle.lease = none := by
    intro handle mem
    obtain ⟨id, found⟩ := List.mem_iff_getElem?.mp mem
    exact settled handle mem (stopped id handle found)
  simpa [leases, unreserved, List.filterMap_eq_nil_iff] using unowned

theorem Dropped.leases_eq_nil {c : Controller} (dropped : c.Dropped) : c.leases = [] := by
  obtain ⟨unowned, unreserved, -⟩ := dropped
  simpa [leases, unreserved, List.filterMap_eq_nil_iff] using unowned

end Controller

theorem Site.lasting_settled : Site.Lasting fun s _ => s.controller.Settled where
  moves {now ticket w s w' s'} moves h := by
    cases moves with
    | stays | misses | queues | reserves | places | givesUp | declines | probes | pauses | lapses
    | stops | kills => exact h
    | draws accepted taken =>
        obtain ⟨held, rest, -, -, rfl⟩ := Site.drawReserved_eq_some taken
        exact h
    | adopts d lease exposure =>
        intro handle mem stopped
        rcases List.mem_append.mp mem with mem | mem
        · exact h handle mem stopped
        · rw [List.mem_singleton.mp mem] at stopped
          cases stopped
    | @starts id | @breaks id | @readies id | @runs id | @completes id | @fails _ id =>
        exact Controller.Settled.setState h id nofun
    | @releases _ id => exact Controller.Settled.modifyHandle h id fun _ _ _ => rfl
  dropReservation {s} h := by
    unfold Site.dropReservation
    split <;> exact h
  drop {s} _ := fun handle mem _ => (Site.dropped_drop s).1 handle mem
  observe {s w} service exposure h := Controller.Settled.modifyHandle h service fun _ kept => kept

theorem Site.size_of_granted {s : Site} {ticket count : Nat} {held : List Node} {lease : Lease}
    {pool : Pool} (balanced : s.pool.Balanced held)
    (granted : (s.pool.enlist ticket count).tryAcquire count = some (lease, pool)) :
    lease.size = count :=
  ((balanced.of_books (Pool.books_enlist _ _ _)).tryAcquire granted).2

/-! ## Custody -/

theorem Site.lasting_nodes (nodes : List Node) :
    Site.Lasting fun s _ => s.pool.nodes = nodes where
  moves moves h := by
    cases moves with
    | reserves before granted | places before granted =>
        exact (Pool.nodes_eq_of_tryAcquire granted).trans h
    | declines => exact (Pool.nodes_release _ _).trans h
    | releases => exact (Pool.nodes_releaseAll _ _).trans h
    | draws accepted taken =>
        obtain ⟨held, rest, -, -, rfl⟩ := Site.drawReserved_eq_some taken
        exact h
    | stays | misses | queues | givesUp | adopts | starts | breaks | probes | pauses | lapses
    | readies | runs | completes | fails | stops | kills => exact h
  dropReservation {s} h := by
    unfold Site.dropReservation
    split
    · exact h
    · exact (Pool.nodes_release _ _).trans h
  drop {s} h := by
    rw [Site.drop_eq]
    exact (Pool.nodes_releaseAll _ _).trans h
  observe _ _ h := h

theorem Site.nodes_cancel (ticket : Nat) (operation : Operation) (s : Site) :
    (Site.cancel ticket operation s).pool.nodes = s.pool.nodes := by
  unfold Site.cancel
  split
  · rfl
  · rfl
  · exact Pool.nodes_release _ _
  · rfl

def inHand (w : Option Wait) : List Node := w.elim [] Wait.held

structure Custody (others : List Node) (s : Site) (w : Option Wait) : Prop where
  balanced : s.pool.Balanced (s.controller.held ++ (inHand w ++ others))
  settled : s.controller.Settled

namespace Custody

variable {now : Instant} {ticket : Nat} {others : List Node} {s s' : Site} {w w' : Option Wait}

theorem still (h : Custody others s w) (books : s'.pool.books = s.pool.books)
    (held : s'.controller.held = s.controller.held) (hand : inHand w' = inHand w) :
    s'.pool.Balanced (s'.controller.held ++ (inHand w' ++ others)) := by
  rw [held, hand]
  exact h.balanced.of_books books

private theorem drive {id : Nat} {state : HandleState} (h : Custody others s w)
    (pool : s'.pool = s.pool)
    (handles : s'.controller.handles = (s.controller.setState id state).handles)
    (reservation : s'.controller.reservation = s.controller.reservation)
    (hand : inHand w' = inHand w) :
    s'.pool.Balanced (s'.controller.held ++ (inHand w' ++ others)) := by
  refine h.still (congrArg Pool.books pool) ?_ hand
  rw [← Controller.held_setState s.controller id state]
  exact Controller.held_eq handles reservation

private theorem inHand_of_seeks? {count : Nat} (before : ∀ x ∈ w, x.seeks? = some count) :
    inHand w = [] := by
  cases w with
  | none => rfl
  | some x => exact Wait.held_of_seeks? (before x rfl)

private theorem grant {count : Nat} {lease : Lease} {pool : Pool} (h : Custody others s w)
    (empty : inHand w = [])
    (granted : (s.pool.enlist ticket count).tryAcquire count = some (lease, pool)) :
    (pool.leave ticket).Balanced (lease.nodes ++ (s.controller.held ++ others)) := by
  have before := h.balanced
  rw [empty, List.nil_append] at before
  exact ((before.of_books (Pool.books_enlist _ _ _)).tryAcquire granted).1.of_books
    (Pool.books_leave _ _)

private theorem perm_held_keep (s : Site) (lease : Lease) :
    (lease.nodes ++ s.controller.held).Perm (s.keep lease).controller.held := by
  refine List.perm_append_comm.trans ?_
  simp only [Site.keep, Site.modify, Controller.held, Controller.leases]
  cases s.controller.reservation <;> simp [Lease.absorb]

theorem perm_held_drawReserved {count : Nat} {lease : Lease} {drawn : Site}
    (taken : s.drawReserved count = some (lease, drawn)) :
    s.controller.held.Perm (drawn.controller.held ++ lease.nodes) ∧ drawn.pool = s.pool := by
  obtain ⟨held, rest, reserved, parted, rfl⟩ := Site.drawReserved_eq_some taken
  refine ⟨?_, rfl⟩
  simp only [Site.modify, Controller.held, Controller.leases, reserved,
    ← Lease.absorb_of_splitOff parted]
  simpa [Lease.absorb] using List.perm_append_comm.append_left _

private theorem perm_held_adopt (now : Instant) (d : Descriptor) (lease : Lease)
    (exposure : Exposure)
    (s : Site) :
    (s.controller.held ++ lease.nodes).Perm (s.adopt now d lease exposure).2.controller.held := by
  simpa [Site.adopt, Site.modify, Controller.record, Controller.held, Controller.leases,
    Handle.fresh] using
    List.perm_append_comm.append_left _

private theorem perm_held_modifyHandle {c : Controller} {id : Nat} {handle : Handle}
    {f : Handle → Handle} (found : c.handles[id]? = some handle)
    (gone : (f handle).lease = none) :
    (handle.lease.toList.flatMap Lease.nodes ++ (c.modifyHandle id f).held).Perm c.held := by
  have leases := (perm_lease_modify found gone).append_right c.reservation.toList
  have nodes := leases.flatMap_right Lease.nodes
  rwa [List.append_assoc, List.flatMap_append] at nodes

private theorem balanced_moves (h : Custody others s w) (moves : Site.Moves now ticket w s w' s') :
    s'.pool.Balanced (s'.controller.held ++ (inHand w' ++ others)) := by
  cases moves with
  | stays => exact h.balanced
  | misses driven gone => exact h.still rfl rfl (Wait.held_of_service? driven).symm
  | queues before after =>
      refine h.still rfl rfl ?_
      rw [inHand_of_seeks? before]
      exact Wait.held_of_seeks? after
  | @reserves _ count _ lease pool before granted =>
      have empty := inHand_of_seeks? (Wait.seeks?_of_reservation before)
      refine (h.grant empty granted).perm ?_
      rw [← List.append_assoc]
      exact (perm_held_keep _ lease).append_right others
  | @places _ d _ lease pool before granted =>
      have empty := inHand_of_seeks? (Wait.seeks?_of_placement before)
      exact (h.grant empty granted).perm (List.perm_append_comm_assoc _ _ _)
  | @draws d _ drawn lease accepted taken =>
      obtain ⟨held, pool⟩ := perm_held_drawReserved taken
      have after := h.balanced.perm (held.append_right _)
      rw [List.append_assoc] at after
      exact pool ▸ after
  | givesUp sought => exact h.still rfl rfl (Wait.held_of_seeks? sought).symm
  | adopts d lease exposure =>
      have after := (perm_held_adopt now d lease exposure s).append_right others
      rw [List.append_assoc] at after
      exact h.balanced.perm after
  | declines d lease => exact (h.balanced.perm (List.perm_append_comm_assoc _ _ _)).release
  | @starts id | @breaks id | @readies id | @runs id | @completes id =>
      exact h.drive rfl rfl rfl rfl
  | probes deadline started =>
      exact h.still rfl rfl (Wait.held_of_service? (Wait.service?_of_starts? started)).symm
  | pauses | lapses | stops | kills => exact h.still rfl rfl rfl
  | @fails _ id _ _ driven found =>
      refine h.drive rfl rfl rfl ?_
      rcases driven with started | rfl
      · exact (Wait.held_of_service? (Wait.service?_of_starts? started)).symm
      · rfl
  | @releases wait id handle _ problem stopping found =>
      -- What comes back is the lease of the service; the operation itself has nothing in hand.
      have empty : inHand (some wait) = [] :=
        Wait.held_of_service? (Wait.service?_of_stops? stopping)
      have before := h.balanced
      rw [empty, List.nil_append] at before
      refine Pool.Balanced.releaseAll (before.perm ?_)
      rw [← List.append_assoc]
      exact (perm_held_modifyHandle found rfl).symm.append_right others

theorem moves (h : Custody others s w) (moves : Site.Moves now ticket w s w' s') :
    Custody others s' w' :=
  ⟨h.balanced_moves moves, Site.lasting_settled.moves moves h.settled⟩

theorem dropReservation (h : Custody others s none) : Custody others s.dropReservation none := by
  unfold Site.dropReservation
  split
  · exact h
  · next lease reserved =>
      refine ⟨Pool.Balanced.release (h.balanced.perm ?_), h.settled⟩
      simpa [Controller.held, Controller.leases, reserved, inHand] using
        List.perm_append_comm_assoc _ _ _

private theorem drop (h : Custody others s none) : Custody others s.drop none := by
  refine ⟨?_, Site.lasting_settled.drop h.settled⟩
  rw [Controller.held, (Site.dropped_drop s).leases_eq_nil, Site.drop_eq]
  exact h.balanced.releaseAll

theorem lasting (others : List Node) : Site.Lasting (Custody others) where
  moves moves h := h.moves moves
  dropReservation h := h.dropReservation
  drop h := h.drop
  observe service _ h :=
    ⟨h.still rfl (Controller.held_modifyHandle _ service fun _ => rfl) rfl,
      h.settled.modifyHandle service fun _ kept => kept⟩

theorem cancel {operation : Operation} (h : Custody others s (some operation.wait))
    (ticket : Nat) : Custody others (Site.cancel ticket operation s) none := by
  unfold Site.cancel
  cases waits : operation.wait with
  | materialization d lease =>
      rw [waits] at h
      exact ⟨(h.balanced.perm (List.perm_append_comm_assoc _ _ _)).release, h.settled⟩
  | reservation | placement | start | probe | pause | run | stop | kill =>
      rw [waits] at h
      exact ⟨h.still rfl rfl rfl, h.settled⟩

end Custody

end Interop
