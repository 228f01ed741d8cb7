import Interop.Proofs.Lifecycle.Legs

/-!
# The teardown of a case

A teardown stops the services of a case one after another.  While it goes on, every service is
stopped, is being stopped, or is still on the list; so when it ends every service is stopped
and the reservation is gone.
-/

namespace Interop

def Controller.leases (c : Controller) : List Lease :=
  c.handles.filterMap Handle.lease ++ c.reservation.toList

def Controller.Stopped (c : Controller) (id : Nat) : Prop :=
  ∀ handle, c.handles[id]? = some handle → handle.state = .stopped

def Controller.Closed (c : Controller) : Prop := (∀ id, c.Stopped id) ∧ c.reservation = none

theorem Controller.Stopped.observe {c : Controller} {id : Nat} (h : c.Stopped id) (service : Nat)
    (exposure : Exposure) : (c.observe service exposure).Stopped id := by
  intro after found
  simp only [Controller.observe, Controller.getElem?_modifyHandle, Option.map_eq_some_iff] at found
  obtain ⟨before, present, rfl⟩ := found
  split <;> exact h before present

def Controller.Dropped (c : Controller) : Prop :=
  (∀ handle ∈ c.handles, handle.lease = none) ∧ c.reservation = none ∧
    ∀ id, c.Stopped id ∨ .killNow id ∈ c.requests

theorem Controller.Dropped.observe {c : Controller} (h : c.Dropped) (service : Nat)
    (exposure : Exposure) : (c.observe service exposure).Dropped := by
  obtain ⟨unowned, unreserved, told⟩ := h
  refine ⟨?_, unreserved, fun id => (told id).imp_left fun h => h.observe service exposure⟩
  intro handle mem
  obtain ⟨id, found⟩ := List.mem_iff_getElem?.mp mem
  simp only [Controller.observe, Controller.getElem?_modifyHandle, Option.map_eq_some_iff] at found
  obtain ⟨before, present, rfl⟩ := found
  have := unowned before (List.mem_of_getElem? present)
  split <;> exact this

def Operation.Closes (operation : Operation) (c : Controller) : Prop :=
  ∃ rest warnings id, operation.goal = .teardown rest warnings ∧
    operation.wait.stops? = some id ∧ ∀ other ∉ id :: rest, c.Stopped other

namespace Site

def Closing : Progress × Site → Prop
  | (.waiting operation, s) => operation.Closes s.controller
  | (.finished (.tornDown _), s) => s.controller.Closed
  | (.finished _, _) => False

variable {now : Instant} {ticket : Nat} {s : Site}

/-! ## Dropping -/

def urgent (start : Nat) (handles : List Handle) : List Request :=
  (handles.zipIdx start).filterMap fun (handle, id) =>
    if handle.state = .stopped then none else some (.killNow id)

private theorem dropHandles_eq (start : Nat) (handles : List Handle) (s : Site) :
    dropHandles start handles s =
      { pool := s.pool.releaseAll (handles.filterMap Handle.lease)
        controller := { s.controller with
          requests := (urgent start handles).reverse ++ s.controller.requests } } := by
  induction handles generalizing start s with
  | nil => rfl
  | cons handle rest ih =>
      rw [dropHandles, ih]
      by_cases stopped : handle.state = .stopped <;> cases owned : handle.lease <;>
        simp [urgent, stopped, owned, Pool.releaseAll, modify, Controller.ask]

theorem drop_eq (s : Site) :
    s.drop =
      { pool := s.pool.releaseAll s.controller.leases
        controller := { s.controller with
          handles := s.controller.handles.map fun handle => { handle with lease := none }
          requests := (urgent 0 s.controller.handles).reverse ++ s.controller.requests
          reservation := none } } := by
  simp only [drop, dropHandles_eq, dropReservation, Controller.leases]
  cases reserved : s.controller.reservation <;>
    simp [modify, Pool.releaseAll, List.foldl_append]

private theorem killNow_mem_urgent {handles : List Handle} {id : Nat} {handle : Handle}
    (found : handles[id]? = some handle) (active : handle.state ≠ .stopped) :
    .killNow id ∈ urgent 0 handles := by
  refine List.mem_filterMap.mpr ⟨(handle, id), ?_, by simp [active]⟩
  exact List.mem_zipIdx_iff_getElem?.mpr found

theorem dropped_drop (s : Site) : s.drop.controller.Dropped := by
  rw [drop_eq]
  refine ⟨?_, rfl, ?_⟩
  · intro handle mem
    obtain ⟨before, -, rfl⟩ := List.mem_map.mp mem
    rfl
  · intro id
    cases found : s.controller.handles[id]? with
    | none => exact .inl (by simp [Controller.Stopped, found])
    | some handle =>
        by_cases stopped : handle.state = .stopped
        · exact .inl (by simp [Controller.Stopped, found, stopped])
        · refine .inr (List.mem_append_left _ (List.mem_reverse.mpr ?_))
          exact killNow_mem_urgent found stopped

theorem dropReservation_handles (s : Site) :
    s.dropReservation.controller.handles = s.controller.handles := by
  unfold dropReservation
  split <;> rfl

theorem dropReservation_reservation (s : Site) :
    s.dropReservation.controller.reservation = none := by
  unfold dropReservation
  split
  · assumption
  · rfl

private theorem endStop_stopped (now : Instant) (id : Nat) (problem : Option String) (s : Site) :
    ∃ warning after, s.endStop now id problem = (.ends (.stopped warning), after) ∧
      after.controller.Stopped id ∧
      ∀ other, s.controller.Stopped other → after.controller.Stopped other := by
  unfold endStop
  split
  · next gone => exact ⟨none, s, rfl, by simp [Controller.Stopped, gone], fun other h => h⟩
  · next handle found =>
      refine ⟨_, _, rfl, ?_, ?_⟩
      · intro after h
        simp only [Controller.handles_record, Controller.getElem?_modifyHandle, found,
          Option.map_some, if_true, Option.some.injEq] at h
        rw [← h]
      · intro other stopped after h
        simp only [Controller.handles_record, Controller.getElem?_modifyHandle,
          Option.map_eq_some_iff] at h
        obtain ⟨before, present, rfl⟩ := h
        split
        · rfl
        · exact stopped before present

private theorem continueWith_stops {wait : Wait} {id : Nat} (stopping : wait.stops? = some id)
    (now : Instant) (ticket : Nat) (answer : Answer) (s : Site) :
    (∃ later after, s.continueWith now ticket wait answer = (.waits later, after) ∧
      later.stops? = some id ∧ after.controller.handles = s.controller.handles) ∨
    ∃ warning after, s.continueWith now ticket wait answer = (.ends (.stopped warning), after) ∧
      after.controller.Stopped id ∧
      ∀ other, s.controller.Stopped other → after.controller.Stopped other := by
  cases wait with
  | stop service deadline =>
      obtain rfl : service = id := Option.some.inj stopping
      cases answer with
      | acknowledged result =>
          cases result with
          | ok _ => exact .inr (endStop_stopped now service none s)
          | error e => exact .inl ⟨_, _, rfl, rfl, rfl⟩
      | elapsed | woken | materialized | probed | ran => exact .inl ⟨_, _, rfl, rfl, rfl⟩
  | kill service deadline problem =>
      obtain rfl : service = id := Option.some.inj stopping
      cases answer with
      | acknowledged result => cases result <;> exact .inr (endStop_stopped now service _ s)
      | elapsed => exact .inr (endStop_stopped now service _ s)
      | woken | materialized | probed | ran => exact .inl ⟨_, _, rfl, rfl, rfl⟩
  | reservation | placement | materialization | start | probe | pause | run => cases stopping

/-! ## Whole teardowns -/

theorem teardownFrom_closing (now : Instant) (warnings : List Warning) (order : List Nat)
    (s : Site) (covered : ∀ id ∉ order, s.controller.Stopped id) :
    Closing (s.teardownFrom now warnings order) := by
  induction order generalizing s warnings with
  | nil =>
      refine ⟨?_, dropReservation_reservation s⟩
      intro id handle found
      rw [dropReservation_handles] at found
      exact covered id List.not_mem_nil handle found
  | cons id rest ih =>
      -- A service that is not asked to stop is stopped already, or there is none.
      have skipped : ∀ completion after, s.stop now id = (.ends completion, after) →
          ∀ other ∉ rest, after.controller.Stopped other := by
        intro completion after h other absent
        unfold stop at h
        split at h
        · next gone =>
            cases h
            by_cases same : other = id
            · simp [same, Controller.Stopped, gone]
            · exact covered other (by simp [same, absent])
        · next handle found =>
            split at h <;> cases h
            by_cases same : other = id
            · intro handle' found'
              rw [same, found] at found'
              cases found'
              assumption
            · exact covered other (by simp [same, absent])
      unfold teardownFrom
      split
      · next wait after h =>
          unfold stop at h
          split at h
          · cases h
          · split at h <;> cases h
            exact ⟨rest, warnings, id, rfl, rfl, covered⟩
      · next h => exact ih _ _ (skipped _ _ h)
      · next h => exact ih _ _ (skipped _ _ h)

theorem mem_teardownOrder {c : Controller} {id : Nat} (inside : id < c.handles.length) :
    id ∈ teardownOrder c := by
  simp only [teardownOrder, List.mem_append, List.mem_reverse, List.mem_filter, List.mem_range]
  by_cases started : id ∈ c.startOrder
  · exact .inl started
  · exact .inr ⟨inside, by simpa using started⟩

theorem issue_teardown_closing (now : Instant) (ticket : Nat) (s : Site) :
    Closing (s.issue now ticket .teardown) := by
  refine teardownFrom_closing now [] _ s ?_
  intro id absent handle found
  exact absurd (mem_teardownOrder (List.getElem?_eq_some_iff.mp found).1) absent

theorem resume_closing {operation : Operation} (closes : operation.Closes s.controller)
    (now : Instant) (ticket : Nat) (answer : Answer) :
    Closing (s.resume now ticket operation answer) := by
  obtain ⟨rest, warnings, id, goal, stopping, covered⟩ := closes
  rcases continueWith_stops stopping now ticket answer s with
    ⟨later, after, led, still, same⟩ | ⟨warning, after, led, stopped, kept⟩
  · simp only [resume, led, follow]
    refine ⟨rest, warnings, id, goal, still, ?_⟩
    intro other absent handle found
    exact covered other absent handle (same ▸ found)
  · simp only [resume, led, follow, goal]
    refine teardownFrom_closing now _ rest after ?_
    intro other absent
    by_cases same : other = id
    · rwa [same]
    · exact kept other (covered other (by simp [same, absent]))

end Site

end Interop
