import Interop.Proofs.Lifecycle.Closing

/-!
# How often services are asked to stop

A service is asked to stop at most once as long as no stop is cut off: it is asked only while
it is not stopped, and the operation that asks is in progress until it is.  A stop that is cut
off leaves the service as it was, so the next stop asks it again.
-/

namespace Interop

namespace Controller

/-- Where the services stand in their lives. -/
def states (c : Controller) : List HandleState := c.handles.map Handle.state

def stopRequests (c : Controller) (id : Nat) : Nat := c.requests.count (.stop id)

theorem getElem?_states {c : Controller} {id : Nat} {handle : Handle}
    (found : c.handles[id]? = some handle) : c.states[id]? = some handle.state := by
  simp [states, found]

theorem states_modifyHandle (c : Controller) (id : Nat) {f : Handle → Handle}
    {g : HandleState → HandleState} (becomes : ∀ handle, (f handle).state = g handle.state) :
    (c.modifyHandle id f).states = c.states.modify id g := by
  simp only [states, modifyHandle]
  generalize c.handles = handles
  induction handles generalizing id with
  | nil => simp
  | cons handle rest ih => cases id <;> simp [becomes, ih]

end Controller

namespace Site

/-- Only a service that was never driven is started. -/
theorem provisioned_of_planStart {c : Controller} {id : Nat} {name : String} {timeout : Span}
    {params : Params String} (planned : planStart c id = .ok (.go name timeout params)) :
    ∃ handle, c.handles[id]? = some handle ∧ handle.state = .provisioned := by
  unfold planStart Controller.handle at planned
  cases found : c.handles[id]? with
  | none => simp [found, bind, Except.bind] at planned
  | some handle =>
      refine ⟨handle, rfl, ?_⟩
      simp only [found, bind, Except.bind] at planned
      split at planned
      · cases planned
      · assumption
      · cases planned

theorem provisioned_of_planRun {c : Controller} {id : Nat}
    {plan : String × String × Params String} (planned : planRun c id = .ok plan) :
    ∃ handle, c.handles[id]? = some handle ∧ handle.state = .provisioned := by
  unfold planRun Controller.handle at planned
  cases found : c.handles[id]? with
  | none => simp [found, bind, Except.bind] at planned
  | some handle =>
      refine ⟨handle, rfl, ?_⟩
      simp only [found, bind, Except.bind] at planned
      split at planned
      · assumption
      · cases planned

end Site

/-- Every service was asked to stop as often as it was stopped, is being stopped or was left
in the middle of a stop.  What is driven is not stopped. -/
structure Tally (cuts : List Nat) (c : Controller) (w : Option Wait) : Prop where
  counted : ∀ {id : Nat} {state : HandleState}, c.states[id]? = some state →
    c.stopRequests id =
      (if state = .stopped then 1 else 0) + (if w.bind Wait.stops? = some id then 1 else 0) +
        cuts.count id
  unknown : ∀ {id : Nat}, c.states[id]? = none → c.stopRequests id = 0 ∧ id ∉ cuts
  driven : ∀ {id : Nat}, w.bind Wait.service? = some id →
    ∃ state, c.states[id]? = some state ∧ state ≠ .stopped

namespace Tally

variable {now : Instant} {ticket : Nat} {cuts : List Nat} {c c' : Controller}
  {w w' : Option Wait}

theorem still (h : Tally cuts c w) (states : c'.states = c.states)
    (requests : c'.stopRequests = c.stopRequests)
    (stops : w'.bind Wait.stops? = w.bind Wait.stops?)
    (service : w'.bind Wait.service? = w.bind Wait.service? ∨ w'.bind Wait.service? = none) :
    Tally cuts c' w' := by
  refine ⟨?_, ?_, ?_⟩
  · intro id state found
    rw [requests, stops]
    exact h.counted (states ▸ found)
  · intro id missing
    rw [requests]
    exact h.unknown (states ▸ missing)
  · intro id current
    rcases service with same | none
    · rw [states]
      exact h.driven (same ▸ current)
    · rw [none] at current
      cases current

private theorem drive {id : Nat} {before state : HandleState} (h : Tally cuts c w)
    (states : c'.states = c.states.modify id fun _ => state)
    (requests : c'.stopRequests = c.stopRequests)
    (stops : w'.bind Wait.stops? = w.bind Wait.stops?)
    (service : w'.bind Wait.service? = some id ∨ w'.bind Wait.service? = none)
    (found : c.states[id]? = some before) (active : before ≠ .stopped)
    (active' : state ≠ .stopped) : Tally cuts c' w' := by
  refine ⟨?_, ?_, ?_⟩
  · intro other state' found'
    rw [requests, stops]
    rw [states, List.getElem?_modify] at found'
    split at found'
    · next here =>
        subst here
        have counted := h.counted found
        simp only [found, Option.map_eq_map, Option.map_some, Option.some.injEq] at found'
        subst found'
        rw [if_neg active] at counted
        rw [if_neg active', counted]
    · simp only [Option.map_eq_map, Option.map_id'] at found'
      exact h.counted found'
  · intro other missing
    rw [requests]
    refine h.unknown ?_
    simpa [states] using missing
  · intro other current
    rcases service with same | none
    · obtain rfl := Option.some.inj (same.symm.trans current)
      exact ⟨state, by simp [states, found], active'⟩
    · rw [none] at current
      cases current

private theorem driven_of_handle {id : Nat} {handle : Handle} (h : Tally cuts c w)
    (current : w.bind Wait.service? = some id) (found : c.handles[id]? = some handle) :
    c.states[id]? = some handle.state ∧ handle.state ≠ .stopped := by
  have here := Controller.getElem?_states found
  obtain ⟨state, there, active⟩ := h.driven current
  obtain rfl := Option.some.inj (here.symm.trans there)
  exact ⟨here, active⟩

private theorem undriven {count : Nat} (seeks : ∀ x ∈ w, x.seeks? = some count) :
    w.bind Wait.stops? = none ∧ w.bind Wait.service? = none := by
  cases w with
  | none => exact ⟨rfl, rfl⟩
  | some x => exact ⟨Wait.stops?_of_seeks? (seeks x rfl), Wait.service?_of_seeks? (seeks x rfl)⟩

private theorem stopRequests_ask (c : Controller) {request : Request}
    (other : ∀ id, request ≠ .stop id) : (c.ask request).stopRequests = c.stopRequests := by
  funext id
  simp only [Controller.stopRequests, Controller.ask]
  exact List.count_cons_of_ne (other id)

/-- A service is added, which nobody has asked anything. -/
theorem adopt {s : Site} {d : Descriptor} {lease : Lease} {exposure : Exposure}
    (h : Tally cuts s.controller (some (.materialization d lease))) :
    Tally cuts (s.adopt now d lease exposure).2.controller none := by
  have states : (s.adopt now d lease exposure).2.controller.states =
      s.controller.states ++ [.provisioned] := by
    simp [Site.adopt, Site.modify, Controller.states, Handle.fresh]
  refine ⟨?_, ?_, ?_⟩
  · intro id state found
    rw [states, List.getElem?_append] at found
    split at found
    · exact h.counted found
    · next beyond =>
        have missing := h.unknown (List.getElem?_eq_none_iff.mpr (Nat.le_of_not_lt beyond))
        have fresh : state ≠ .stopped := by
          rintro rfl
          simp [List.getElem?_singleton] at found
        have zero : s.controller.stopRequests id = 0 := missing.1
        rw [if_neg fresh, List.count_eq_zero.mpr missing.2]
        exact zero
  · intro id missing
    refine h.unknown (List.getElem?_eq_none_iff.mpr ?_)
    have beyond := List.getElem?_eq_none_iff.mp missing
    rw [states, List.length_append] at beyond
    exact Nat.le_of_add_right_le beyond
  · intro id current
    cases current

private theorem ask {id : Nat} {state : HandleState} (h : Tally cuts c none) (deadline : Instant)
    (found : c.states[id]? = some state) (active : state ≠ .stopped) :
    Tally cuts (c.ask (.stop id)) (some (.stop id deadline)) := by
  have requests : ∀ other, (c.ask (.stop id)).stopRequests other =
      c.stopRequests other + if id = other then 1 else 0 := by
    intro other
    simp [Controller.stopRequests, Controller.ask, List.count_cons]
  refine ⟨?_, ?_, ?_⟩
  · intro other state' found'
    have counted := h.counted found'
    simp only [Option.bind_none, reduceCtorEq, if_false, Nat.add_zero] at counted
    rw [requests, counted]
    simp only [Option.bind_some, Wait.stops?, Option.some.injEq]
    omega
  · intro other missing
    obtain ⟨never, uncut⟩ := h.unknown missing
    have elsewhere : id ≠ other := by
      rintro rfl
      cases found.symm.trans missing
    exact ⟨by rw [requests, never, if_neg elsewhere], uncut⟩
  · intro other current
    obtain rfl : id = other := Option.some.inj current
    exact ⟨state, found, active⟩

private theorem release {id : Nat} {wait : Wait} {state : HandleState}
    (h : Tally cuts c (some wait))
    (states : c'.states = c.states.modify id fun _ => .stopped)
    (requests : c'.stopRequests = c.stopRequests) (stopping : wait.stops? = some id)
    (found : c.states[id]? = some state) (active : state ≠ .stopped) : Tally cuts c' none := by
  refine ⟨?_, ?_, nofun⟩
  · intro other state' found'
    rw [states, List.getElem?_modify] at found'
    rw [requests]
    split at found'
    · next here =>
        subst here
        have counted := h.counted found
        simp only [found, Option.map_eq_map, Option.map_some, Option.some.injEq] at found'
        subst found'
        simpa [stopping, active] using counted
    · next elsewhere =>
        simp only [Option.map_eq_map, Option.map_id'] at found'
        simpa [stopping, elsewhere] using h.counted found'
  · intro other missing
    rw [requests]
    refine h.unknown ?_
    simpa [states] using missing

private theorem moves {s s' : Site} (h : Tally cuts s.controller w)
    (moves : Site.Moves now ticket w s w' s') : Tally cuts s'.controller w' := by
  cases moves with
  | stays => exact h
  | misses driven gone =>
      obtain ⟨state, found, -⟩ := h.driven driven
      simp [Controller.states, gone] at found
  | queues before after =>
      refine h.still rfl rfl ?_ (.inr (Wait.service?_of_seeks? after))
      rw [(undriven before).1]
      exact Wait.stops?_of_seeks? after
  | reserves before granted =>
      exact h.still rfl rfl (undriven (Wait.seeks?_of_reservation before)).1.symm (.inr rfl)
  | places before granted =>
      exact h.still rfl (stopRequests_ask _ fun _ => nofun)
        (undriven (Wait.seeks?_of_placement before)).1.symm (.inr rfl)
  | draws accepted taken =>
      obtain ⟨held, rest, -, -, rfl⟩ := Site.drawReserved_eq_some taken
      exact h.still rfl (stopRequests_ask _ fun _ => nofun) rfl (.inr rfl)
  | givesUp sought => exact h.still rfl rfl (Wait.stops?_of_seeks? sought).symm (.inr rfl)
  | adopts d lease exposure => exact h.adopt
  | declines d lease => exact h.still rfl rfl rfl (.inr rfl)
  | @starts id _ _ _ _ deadline planned =>
      obtain ⟨handle, found, provisioned⟩ := Site.provisioned_of_planStart planned
      exact h.drive (Controller.states_modifyHandle _ id fun _ => rfl)
        (stopRequests_ask _ fun _ => nofun) rfl (.inl rfl)
        (Controller.getElem?_states found) (by simp [provisioned]) nofun
  | @breaks id _ _ _ _ planned =>
      obtain ⟨handle, found, provisioned⟩ := Site.provisioned_of_planStart planned
      exact h.drive (Controller.states_modifyHandle _ id fun _ => rfl) rfl rfl (.inr rfl)
        (Controller.getElem?_states found) (by simp [provisioned]) nofun
  | @probes wait id _ deadline started =>
      refine h.still rfl (stopRequests_ask _ fun _ => nofun) ?_ (.inl ?_)
      · exact (Wait.stops?_of_starts? started).symm
      · exact (Wait.service?_of_starts? started).symm
  | pauses => exact h.still rfl rfl rfl (.inl rfl)
  | lapses => exact h.still rfl rfl rfl (.inr rfl)
  | @readies id deadline handle _ found =>
      obtain ⟨here, active⟩ := h.driven_of_handle rfl found
      exact h.drive (Controller.states_modifyHandle _ id fun _ => rfl) rfl rfl (.inr rfl) here
        active nofun
  | @runs id _ _ _ _ planned =>
      obtain ⟨handle, found, provisioned⟩ := Site.provisioned_of_planRun planned
      exact h.drive (Controller.states_modifyHandle _ id fun _ => rfl)
        (stopRequests_ask _ fun _ => nofun) rfl (.inl rfl)
        (Controller.getElem?_states found) (by simp [provisioned]) nofun
  | @completes id handle _ found =>
      obtain ⟨here, active⟩ := h.driven_of_handle rfl found
      exact h.drive (Controller.states_modifyHandle _ id fun _ => rfl) rfl rfl (.inr rfl) here
        active nofun
  | @fails wait id handle _ driven found =>
      have current : wait.service? = some id ∧ wait.stops? = none := by
        rcases driven with started | rfl
        · exact ⟨Wait.service?_of_starts? started, Wait.stops?_of_starts? started⟩
        · exact ⟨rfl, rfl⟩
      obtain ⟨here, active⟩ := h.driven_of_handle current.1 found
      exact h.drive (Controller.states_modifyHandle _ id fun _ => rfl) rfl current.2.symm
        (.inr rfl) here active nofun
  | @stops id handle s deadline found active =>
      exact h.ask deadline (Controller.getElem?_states found) active
  | kills =>
      exact h.still rfl (stopRequests_ask _ fun _ => nofun) rfl (.inl rfl)
  | @releases wait id handle _ problem stopping found =>
      obtain ⟨here, active⟩ := h.driven_of_handle (Wait.service?_of_stops? stopping) found
      exact h.release (Controller.states_modifyHandle _ id fun _ => rfl) rfl stopping here active

theorem lasting (cuts : List Nat) : Site.Lasting fun s w => Tally cuts s.controller w where
  moves moves h := h.moves moves
  dropReservation {s} h := by
    refine h.still ?_ ?_ rfl (.inl rfl)
    · rw [Controller.states, Site.dropReservation_handles, Controller.states]
    · unfold Site.dropReservation
      split <;> rfl
  drop {s} h := by
    rw [Site.drop_eq]
    refine h.still ?_ ?_ rfl (.inl rfl)
    · simp [Controller.states]
    · funext id
      have absent : .stop id ∉ Site.urgent 0 s.controller.handles := by
        intro mem
        obtain ⟨⟨handle, index⟩, -, told⟩ := List.mem_filterMap.mp mem
        by_cases stopped : handle.state = .stopped <;> simp [stopped] at told
      simp [Controller.stopRequests, List.count_eq_zero.mpr absent]
  observe {s w} service exposure h := by
    have states : (s.controller.observe service exposure).states =
        s.controller.states.modify service id :=
      Controller.states_modifyHandle s.controller service fun _ => rfl
    exact h.still (states.trans (List.modify_id _ _)) rfl rfl (.inl rfl)

theorem cancel {operation : Operation} {s : Site} (ticket : Nat)
    (h : Tally cuts s.controller (some operation.wait)) :
    Tally (operation.wait.stops?.toList ++ cuts) (Site.cancel ticket operation s).controller
      none := by
  rw [Site.controller_cancel]
  refine ⟨?_, ?_, nofun⟩
  · intro id state found
    have counted := h.counted found
    cases stopping : operation.wait.stops? with
    | none => simpa [stopping] using counted
    | some other =>
        simp only [Option.bind_some, stopping, Option.some.injEq] at counted
        simp only [Option.bind_none, reduceCtorEq, if_false, Option.toList_some,
          List.singleton_append, List.count_cons, beq_iff_eq]
        omega
  · intro id missing
    obtain ⟨never, uncut⟩ := h.unknown missing
    refine ⟨never, ?_⟩
    intro mem
    rcases List.mem_append.mp mem with mem | mem
    · have stopping := Option.mem_toList.mp mem
      obtain ⟨state, found, -⟩ := h.driven (Wait.service?_of_stops? stopping)
      cases missing.symm.trans found
    · exact uncut mem

end Tally

end Interop
