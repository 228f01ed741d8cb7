import Interop.Lifecycle.Operation

/-!
# The legs of an operation

Every operation of a controller goes on in legs: from its beginning or from an answer to the
next point where it waits, or to its end.  `Site.Moves` lists once what a leg can do to the
site and to what is waited for.  A property that survives each of these moves survives every
operation, and so does whatever is derived from it.
-/

namespace Interop

/-! ## Waits -/

namespace Wait

def held : Wait → List Node
  | .materialization _ lease => lease.nodes
  | _ => []

def seeks? : Wait → Option Nat
  | .reservation count _ => some count
  | .placement d _ => some d.nodeCount
  | _ => none

def starts? : Wait → Option Nat
  | .start id _ | .probe id _ | .pause id _ _ => some id
  | _ => none

def stops? : Wait → Option Nat
  | .stop id _ | .kill id _ _ => some id
  | _ => none

def places? : Wait → Option Descriptor
  | .placement d _ | .materialization d _ => some d
  | _ => none

def service? : Wait → Option Nat
  | .start id _ | .probe id _ | .pause id _ _ | .run id | .stop id _ | .kill id _ _ => some id
  | _ => none

@[simp]
theorem held_of_seeks? {wait : Wait} {count : Nat} (h : wait.seeks? = some count) :
    wait.held = [] := by
  cases wait <;> first | rfl | cases h

@[simp]
theorem held_of_service? {wait : Wait} {id : Nat} (h : wait.service? = some id) :
    wait.held = [] := by
  cases wait <;> first | rfl | cases h

theorem service?_of_starts? {wait : Wait} {id : Nat} (h : wait.starts? = some id) :
    wait.service? = some id := by
  cases wait <;> first | exact h | cases h

theorem service?_of_stops? {wait : Wait} {id : Nat} (h : wait.stops? = some id) :
    wait.service? = some id := by
  cases wait <;> first | exact h | cases h

theorem stops?_of_seeks? {wait : Wait} {count : Nat} (h : wait.seeks? = some count) :
    wait.stops? = none := by
  cases wait <;> first | rfl | cases h

theorem service?_of_seeks? {wait : Wait} {count : Nat} (h : wait.seeks? = some count) :
    wait.service? = none := by
  cases wait <;> first | rfl | cases h

theorem seeks?_of_reservation {w : Option Wait} {count : Nat}
    (h : ∀ x ∈ w, ∃ deadline, x = .reservation count deadline) :
    ∀ x ∈ w, x.seeks? = some count := by
  intro x current
  obtain ⟨deadline, rfl⟩ := h x current
  rfl

theorem seeks?_of_placement {w : Option Wait} {d : Descriptor}
    (h : ∀ x ∈ w, ∃ deadline, x = .placement d deadline) :
    ∀ x ∈ w, x.seeks? = some d.nodeCount := by
  intro x current
  obtain ⟨deadline, rfl⟩ := h x current
  rfl

theorem stops?_of_starts? {wait : Wait} {id : Nat} (h : wait.starts? = some id) :
    wait.stops? = none := by
  cases wait <;> first | rfl | cases h

end Wait

/-! ## Deadlines -/

namespace Span

variable {d : Span} {horizon start : Instant}

theorem after?_eq_some_iff {time : Instant} :
    d.after? horizon start = some time ↔ d.after start ≤ horizon ∧ d.after start = time := by
  simp [after?]

theorem after?_eq_none_iff : d.after? horizon start = none ↔ horizon < d.after start := by
  simp [after?]

theorem after?_of_le (fits : d.after start ≤ horizon) :
    d.after? horizon start = some (d.after start) := if_pos fits

end Span

/-! ## Handles -/

namespace Controller

@[simp]
theorem handles_record (c : Controller) (now : Instant) (service : String) (kind : EventKind) :
    (c.record now service kind).handles = c.handles := rfl

@[simp]
theorem getElem?_modifyHandle (c : Controller) (id other : Nat) (f : Handle → Handle) :
    (c.modifyHandle id f).handles[other]? =
      c.handles[other]?.map fun handle => if id = other then f handle else handle := by
  simp [modifyHandle, List.getElem?_modify]

end Controller

def Leg.wait? : Leg → Option Wait
  | .waits wait => some wait
  | .ends _ => none

def Progress.operation? : Progress → Option Operation
  | .waiting operation => some operation
  | .finished _ => none

def Progress.wait? (progress : Progress) : Option Wait := progress.operation?.map Operation.wait

namespace Site

/-! ## Moves -/

/-- What a leg can do at an instant, for the owner of a ticket: the wait and the site before
it, the wait and the site after it. -/
inductive Moves (now : Instant) (ticket : Nat) :
    Option Wait → Site → Option Wait → Site → Prop
  | stays (w : Option Wait) (s : Site) : Moves now ticket w s w s
  | misses {wait : Wait} {id : Nat} {s : Site} (driven : wait.service? = some id)
      (gone : s.controller.handles[id]? = none) : Moves now ticket (some wait) s none s
  | queues {w : Option Wait} {wait : Wait} {count : Nat} {s : Site}
      (before : ∀ x ∈ w, x.seeks? = some count) (after : wait.seeks? = some count)
      (same : ∀ x ∈ w, x = wait)
      (accepted : w = none → ∀ d ∈ wait.places?, refusal? s.controller d = none)
      (fits : w = none → count ≤ s.pool.capacity) :
      Moves now ticket w s (some wait) { s with pool := s.pool.enlist ticket count }
  | reserves {w : Option Wait} {count : Nat} {s : Site} {lease : Lease} {pool : Pool}
      (before : ∀ x ∈ w, ∃ deadline, x = .reservation count deadline)
      (granted : (s.pool.enlist ticket count).tryAcquire count = some (lease, pool)) :
      Moves now ticket w s none (Site.keep { s with pool := pool.leave ticket } lease)
  | places {w : Option Wait} {d : Descriptor} {s : Site} {lease : Lease} {pool : Pool}
      (before : ∀ x ∈ w, ∃ deadline, x = .placement d deadline)
      (granted : (s.pool.enlist ticket d.nodeCount).tryAcquire d.nodeCount = some (lease, pool))
      (accepted : w = none → refusal? s.controller d = none) :
      Moves now ticket w s (some (.materialization d lease))
        (Site.modify { s with pool := pool.leave ticket } fun c =>
          c.ask (.materialize d lease.nodes))
  | draws {d : Descriptor} {s drawn : Site} {lease : Lease}
      (accepted : refusal? s.controller d = none)
      (taken : s.drawReserved d.nodeCount = some (lease, drawn)) :
      Moves now ticket none s (some (.materialization d lease))
        (drawn.modify fun c => c.ask (.materialize d lease.nodes))
  | givesUp {wait : Wait} {count : Nat} {s : Site} (sought : wait.seeks? = some count) :
      Moves now ticket (some wait) s none { s with pool := s.pool.leave ticket }
  | adopts (d : Descriptor) (lease : Lease) (exposure : Exposure) (s : Site) :
      Moves now ticket (some (.materialization d lease)) s none (s.adopt now d lease exposure).2
  | declines (d : Descriptor) (lease : Lease) (s : Site) :
      Moves now ticket (some (.materialization d lease)) s none
        { s with pool := s.pool.release lease }
  | starts {id : Nat} {name : String} {timeout : Span} {params : Params String} {s : Site}
      (deadline : Instant) (planned : planStart s.controller id = .ok (.go name timeout params)) :
      Moves now ticket none s (some (.start id deadline))
        (s.modify fun c =>
          (({ c with startOrder := c.startOrder ++ [id] }.record now name .starting).setState id
            .starting).ask (.start id params))
  | breaks {id : Nat} {name : String} {timeout : Span} {params : Params String} {s : Site}
      (planned : planStart s.controller id = .ok (.go name timeout params))
      (late : timeout.after? s.controller.settings.horizon now = none) :
      Moves now ticket none s none
        (s.modify fun c =>
          ({ c with startOrder := c.startOrder ++ [id] }.record now name .starting).setState id
            .starting)
  | probes {wait : Wait} {id : Nat} {s : Site} (deadline : Instant)
      (started : wait.starts? = some id) :
      Moves now ticket (some wait) s (some (.probe id deadline))
        (s.modify fun c => c.ask (.probe id))
  | pauses (id : Nat) (deadline wake : Instant) (s : Site) :
      Moves now ticket (some (.probe id deadline)) s (some (.pause id deadline wake)) s
  | lapses (id : Nat) (deadline : Instant) (s : Site) :
      Moves now ticket (some (.probe id deadline)) s none s
  | readies {id : Nat} {deadline : Instant} {handle : Handle} {s : Site}
      (found : s.controller.handles[id]? = some handle) :
      Moves now ticket (some (.probe id deadline)) s none
        (s.modify fun c => (c.setState id .ready).record now handle.name .ready)
  | runs {id : Nat} {name entryPoint : String} {params : Params String} {s : Site}
      (planned : planRun s.controller id = .ok (name, entryPoint, params)) :
      Moves now ticket none s (some (.run id))
        (s.modify fun c =>
          (({ c with startOrder := c.startOrder ++ [id] }.record now name .running).setState id
            .running).ask (.run id entryPoint params))
  | completes {id : Nat} {handle : Handle} {s : Site}
      (found : s.controller.handles[id]? = some handle) :
      Moves now ticket (some (.run id)) s none
        (s.modify fun c => (c.setState id .completed).record now handle.name .completed)
  | fails {wait : Wait} {id : Nat} {handle : Handle} {s : Site}
      (driven : wait.starts? = some id ∨ wait = .run id)
      (found : s.controller.handles[id]? = some handle) :
      Moves now ticket (some wait) s none
        (s.modify fun c => (c.setState id .failed).record now handle.name .startFailed)
  | stops {id : Nat} {handle : Handle} {s : Site} (deadline : Instant)
      (found : s.controller.handles[id]? = some handle) (active : handle.state ≠ .stopped) :
      Moves now ticket none s (some (.stop id deadline)) (s.modify fun c => c.ask (.stop id))
  | kills (id : Nat) (deadline later : Instant) (problem : String) (s : Site) :
      Moves now ticket (some (.stop id deadline)) s (some (.kill id later problem))
        (s.modify fun c => c.ask (.kill id))
  | releases {wait : Wait} {id : Nat} {handle : Handle} {s : Site} (problem : Option String)
      (stopping : wait.stops? = some id) (found : s.controller.handles[id]? = some handle) :
      Moves now ticket (some wait) s none
        { pool := s.pool.releaseAll handle.lease.toList
          controller :=
            (s.controller.modifyHandle id fun h =>
              { h with state := .stopped, lease := none }).record now handle.name
                (if problem.isSome then .forcedStop else .stopped) }

def Leads (now : Instant) (ticket : Nat) (w : Option Wait) (s : Site) (r : Leg × Site) : Prop :=
  Moves now ticket w s r.1.wait? r.2

variable {now : Instant} {ticket : Nat} {s : Site}

/-! ## Nodes -/

theorem attempt_cases (s : Site) (ticket count : Nat) :
    (∃ lease pool, (s.pool.enlist ticket count).tryAcquire count = some (lease, pool) ∧
      s.attempt ticket count = (some lease, { s with pool := pool.leave ticket })) ∨
    s.attempt ticket count = (none, { s with pool := s.pool.enlist ticket count }) := by
  simp only [attempt, Pool.attempt, Pool.look]
  cases granted : (s.pool.enlist ticket count).tryAcquire count with
  | none => exact .inr rfl
  | some result => exact .inl ⟨result.1, result.2, rfl, rfl⟩

theorem le_capacity_of_excess? {s : Site} {count : Nat} (fits : s.excess? count = none) :
    count ≤ s.pool.capacity := by
  unfold excess? at fits
  split at fits
  · cases fits
  · omega

theorem affordable_of_accepted {c : Controller} {d : Descriptor}
    (accepted : refusal? c d = none)
    {budget : Nat} (declared : c.settings.nodeBudget = some budget) :
    d.nodeCount ≤ budget - c.nodesAssigned := by
  unfold refusal? at accepted
  split at accepted
  · cases accepted
  · split at accepted
    · cases accepted
    · split at accepted
      · cases accepted
      · simp only [declared] at accepted
        split at accepted
        · cases accepted
        · omega

theorem drawReserved_eq_some {s drawn : Site} {count : Nat} {lease : Lease}
    (taken : s.drawReserved count = some (lease, drawn)) :
    ∃ held rest, s.controller.reservation = some held ∧
      held.splitOff count = some (lease, rest) ∧
      drawn = s.modify fun c => { c with reservation := some rest } := by
  simp only [drawReserved, Option.bind_eq_bind, Option.bind_eq_some_iff,
    Option.pure_def, Option.some.injEq, Prod.mk.injEq] at taken
  obtain ⟨held, reserved, ⟨part, rest⟩, parted, rfl, rfl⟩ := taken
  exact ⟨held, rest, reserved, parted, rfl⟩

theorem reserve_leads (now : Instant) (ticket count : Nat) (s : Site) :
    Leads now ticket none s (s.reserve now ticket count) := by
  unfold reserve
  split
  · exact .stays none s
  · split
    · exact .stays none s
    · next fits =>
        split
        · exact .stays none s
        · rcases attempt_cases s ticket count with ⟨lease, pool, granted, same⟩ | same
          · rw [same]
            exact .reserves (by simp) granted
          · rw [same]
            exact .queues (by simp) rfl (by simp) (by simp [Wait.places?])
              fun _ => le_capacity_of_excess? fits

theorem provision_leads (now : Instant) (ticket : Nat) (d : Descriptor) (s : Site) :
    Leads now ticket none s (s.provision now ticket d) := by
  unfold provision
  split
  · exact .stays none s
  · next accepted =>
      split
      · next taken => exact .draws accepted taken
      · split
        · exact .stays none s
        · next fits =>
            split
            · exact .stays none s
            · rcases attempt_cases s ticket d.nodeCount with ⟨lease, pool, granted, same⟩ | same
              · rw [same]
                exact .places (by simp) granted fun _ => accepted
              · rw [same]
                exact .queues (by simp) rfl (by simp) (by simpa [Wait.places?] using accepted)
                  fun _ => le_capacity_of_excess? fits

/-! ## Services -/

section Start

variable {id : Nat} {name : String} {timeout : Span} {params : Params String}

theorem start_of_late (planned : planStart s.controller id = .ok (.go name timeout params))
    (late : timeout.after? s.controller.settings.horizon now = none) :
    s.start now id = (.ends (.panicked Span.beyondHorizon), s.modify fun c =>
      ({ c with startOrder := c.startOrder ++ [id] }.record now name .starting).setState id
        .starting) := by
  have late' : timeout.after? (s.modify fun c =>
      ({ c with startOrder := c.startOrder ++ [id] }.record now name .starting).setState id
        .starting).controller.settings.horizon now = none := late
  simp only [start, planned, late']

theorem start_of_due (planned : planStart s.controller id = .ok (.go name timeout params))
    {deadline : Instant} (due : timeout.after? s.controller.settings.horizon now = some deadline) :
    s.start now id = (.waits (.start id deadline), s.modify fun c =>
      (({ c with startOrder := c.startOrder ++ [id] }.record now name .starting).setState id
        .starting).ask (.start id params)) := by
  have due' : timeout.after? (s.modify fun c =>
      ({ c with startOrder := c.startOrder ++ [id] }.record now name .starting).setState id
        .starting).controller.settings.horizon now = some deadline := due
  simp only [start, planned, due']
  rfl

theorem start_leads (now : Instant) (ticket id : Nat) (s : Site) :
    Leads now ticket none s (s.start now id) := by
  cases planned : planStart s.controller id with
  | error e =>
      simp only [start, planned]
      exact .stays none s
  | ok plan =>
      cases plan with
      | already signal =>
          simp only [start, planned]
          exact .stays none s
      | go name timeout params =>
          cases time : timeout.after? s.controller.settings.horizon now with
          | none =>
              rw [start_of_late planned time]
              exact .breaks planned time
          | some deadline =>
              rw [start_of_due planned time]
              exact .starts deadline planned

end Start

theorem run_leads (now : Instant) (ticket id : Nat) (s : Site) :
    Leads now ticket none s (s.run now id) := by
  unfold run
  split
  · exact .stays none s
  · next planned => exact .runs planned

theorem stop_leads (now : Instant) (ticket id : Nat) (s : Site) :
    Leads now ticket none s (s.stop now id) := by
  unfold stop
  split
  · exact .stays none s
  · next found =>
      split
      · exact .stays none s
      · next active => exact .stops _ found active

theorem failStart_leads {wait : Wait} {id : Nat} (e : LifecycleError)
    (started : wait.starts? = some id) :
    Leads now ticket (some wait) s (s.failStart now id e) := by
  unfold failStart
  split
  · next gone => exact .misses (Wait.service?_of_starts? started) gone
  · next found => exact .fails (.inl started) found

theorem expireStart_leads {wait : Wait} {id : Nat} (started : wait.starts? = some id) :
    Leads now ticket (some wait) s (s.expireStart now id) := by
  unfold expireStart
  split
  · next gone => exact .misses (Wait.service?_of_starts? started) gone
  · exact failStart_leads _ started

private theorem succeedStart_leads (id : Nat) (deadline : Instant) :
    Leads now ticket (some (.probe id deadline)) s (s.succeedStart now id) := by
  unfold succeedStart
  split
  · next gone => exact .misses rfl gone
  · next found => exact .readies found

private theorem pauseProbing_leads (id : Nat) (deadline : Instant) :
    Leads now ticket (some (.probe id deadline)) s (s.pauseProbing now id deadline) := by
  unfold pauseProbing
  split
  · exact expireStart_leads rfl
  · split
    · exact .lapses id deadline s
    · exact .pauses id deadline _ s

private theorem endRun_leads (id : Nat) (result : Except LifecycleError AppOutcome) :
    Leads now ticket (some (.run id)) s (s.endRun now id result) := by
  unfold endRun
  split
  · next gone => exact .misses rfl gone
  · next found =>
      split
      · exact .completes found
      · exact .fails (.inr rfl) found

private theorem endStop_leads {wait : Wait} {id : Nat} (problem : Option String)
    (stopping : wait.stops? = some id) :
    Leads now ticket (some wait) s (s.endStop now id problem) := by
  unfold endStop
  split
  · next gone => exact .misses (Wait.service?_of_stops? stopping) gone
  · next handle found =>
      have : Moves now ticket (some wait) s none _ := .releases problem stopping found
      cases owned : handle.lease with
      | none => simpa [Leads, Leg.wait?, owned, Pool.releaseAll] using this
      | some lease => simpa [Leads, Leg.wait?, owned, Pool.releaseAll] using this

/-! ## Answers -/

theorem continueWith_leads (now : Instant) (ticket : Nat) (wait : Wait) (answer : Answer)
    (s : Site) : Leads now ticket (some wait) s (s.continueWith now ticket wait answer) := by
  unfold continueWith
  split
  · next count deadline =>
      rcases attempt_cases s ticket count with ⟨lease, pool, granted, same⟩ | same
      · rw [same]
        exact .reserves (by simp) granted
      · rw [same]
        exact .queues (by simp [Wait.seeks?]) rfl (by simp) nofun nofun
  · exact .givesUp rfl
  · next d deadline =>
      rcases attempt_cases s ticket d.nodeCount with ⟨lease, pool, granted, same⟩ | same
      · rw [same]
        exact .places (by simp) granted nofun
      · rw [same]
        exact .queues (by simp [Wait.seeks?]) rfl (by simp) nofun nofun
  · exact .givesUp rfl
  · exact .adopts _ _ _ s
  · exact .declines _ _ s
  · exact .probes _ rfl
  · exact failStart_leads _ rfl
  · exact expireStart_leads rfl
  · exact succeedStart_leads _ _
  · exact pauseProbing_leads _ _
  · exact failStart_leads _ rfl
  · exact expireStart_leads rfl
  · exact .probes _ rfl
  · exact endRun_leads _ _
  · exact endStop_leads _ rfl
  · exact .kills _ _ _ _ s
  · exact .kills _ _ _ _ s
  · exact endStop_leads _ rfl
  · exact endStop_leads _ rfl
  · exact endStop_leads _ rfl
  · exact .stays _ s

/-- Dropping an operation concerns the pool only. -/
theorem controller_cancel (ticket : Nat) (operation : Operation) (s : Site) :
    (cancel ticket operation s).controller = s.controller := by
  unfold cancel
  split <;> rfl

/-! ## Whole operations -/

/-- A property of a site and of what is waited for that no leg breaks, nor the end of a
teardown, nor what services show of themselves. -/
structure Standing (J : Site → Option Wait → Prop) : Prop where
  moves : ∀ {now ticket w s w' s'}, Moves now ticket w s w' s' → J s w → J s' w'
  dropReservation : ∀ {s}, J s none → J s.dropReservation none
  observe : ∀ {s w} (service : Nat) (exposure : Exposure), J s w →
    J (s.modify fun c => c.observe service exposure) w

structure Lasting (J : Site → Option Wait → Prop) : Prop where
  moves : ∀ {now ticket w s w' s'}, Moves now ticket w s w' s' → J s w → J s' w'
  dropReservation : ∀ {s}, J s none → J s.dropReservation none
  drop : ∀ {s}, J s none → J s.drop none
  observe : ∀ {s w} (service : Nat) (exposure : Exposure), J s w →
    J (s.modify fun c => c.observe service exposure) w

def Holds (J : Site → Option Wait → Prop) (r : Progress × Site) : Prop := J r.2 r.1.wait?

variable {J : Site → Option Wait → Prop}

theorem Lasting.standing (lasting : Lasting J) : Standing J :=
  ⟨lasting.moves, lasting.dropReservation, lasting.observe⟩

theorem Standing.leads (standing : Standing J) {w : Option Wait} {r : Leg × Site}
    (leads : Leads now ticket w s r) (h : J s w) : J r.2 r.1.wait? :=
  standing.moves leads h

theorem Standing.startFrom (standing : Standing J) (now : Instant) (next : Nat)
    (signals : List ReadySignal) {s : Site} (h : J s none) :
    Holds J (s.startFrom now next signals) := by
  unfold Site.startFrom
  split
  · exact h
  · next id _ =>
      have led := standing.leads (start_leads now 0 id s) h
      split <;> next same => rw [same] at led; exact led

theorem Standing.teardownFrom (standing : Standing J) (now : Instant) (warnings : List Warning)
    (order : List Nat) {s : Site} (h : J s none) :
    Holds J (s.teardownFrom now warnings order) := by
  induction order generalizing s warnings with
  | nil => exact standing.dropReservation h
  | cons id rest ih =>
      have led := standing.leads (stop_leads now 0 id s) h
      unfold Site.teardownFrom
      split
      · next same =>
          rw [same] at led
          exact led
      · next same =>
          rw [same] at led
          exact ih _ led
      · next same =>
          rw [same] at led
          exact ih _ led

theorem Standing.follow (standing : Standing J) (now : Instant) (goal : Goal) {leg : Leg}
    {s : Site} (h : J s leg.wait?) : Holds J (Site.follow now goal leg s) := by
  unfold Site.follow
  split
  · exact h
  · split
    · exact standing.startFrom now _ _ h
    · exact h
    · exact standing.teardownFrom now _ _ h
    · exact h

theorem Standing.issue (standing : Standing J) (now : Instant) (ticket : Nat) (command : Command)
    {s : Site} (h : J s none) : Holds J (s.issue now ticket command) := by
  cases command with
  | startAll => exact standing.startFrom now 0 [] h
  | teardown => exact standing.teardownFrom now [] _ h
  | reserve count =>
      exact standing.follow now .alone (standing.leads (reserve_leads now ticket count s) h)
  | provision d =>
      exact standing.follow now .alone (standing.leads (provision_leads now ticket d s) h)
  | start id => exact standing.follow now .alone (standing.leads (start_leads now ticket id s) h)
  | run id => exact standing.follow now .alone (standing.leads (run_leads now ticket id s) h)
  | stop id => exact standing.follow now .alone (standing.leads (stop_leads now ticket id s) h)

theorem Standing.resume (standing : Standing J) (now : Instant) (ticket : Nat)
    (operation : Operation) (answer : Answer) {s : Site} (h : J s (some operation.wait)) :
    Holds J (s.resume now ticket operation answer) :=
  standing.follow now operation.goal
    (standing.leads (continueWith_leads now ticket operation.wait answer s) h)

theorem Lasting.issue (lasting : Lasting J) (now : Instant) (ticket : Nat) (command : Command)
    {s : Site} (h : J s none) : Holds J (s.issue now ticket command) :=
  lasting.standing.issue now ticket command h

theorem Lasting.resume (lasting : Lasting J) (now : Instant) (ticket : Nat)
    (operation : Operation) (answer : Answer) {s : Site} (h : J s (some operation.wait)) :
    Holds J (s.resume now ticket operation answer) :=
  lasting.standing.resume now ticket operation answer h

end Site

end Interop
