import Interop.Proofs.Lifecycle.Resolution
import Interop.Proofs.Lifecycle.Results

/-!
# Starting the services one after another

The services that are started before the body are started in provisioning order.  There is a
front: those before it are ready, and nobody else was touched.  Whatever a service depends on
comes before it, so when the front has come to a service only two things can be in its way: that
it depends on a service that is not started before the body, and that a service whose address it
needs has none.
-/

namespace Interop

/-! ## The front -/

namespace Descriptor

def isPreStarted (plans : List Descriptor) (id : Nat) : Bool :=
  (plans[id]?.map Descriptor.mode) == some .preStarted

/-- The services below a number that are started before the body, in provisioning order. -/
def preStartedBelow (plans : List Descriptor) (k : Nat) : List Nat :=
  (List.range k).filter (isPreStarted plans)

/-- Where the services stand when those below a number have been started. -/
def frontStates (plans : List Descriptor) (k : Nat) : List HandleState :=
  plans.mapIdx fun id d => if d.mode = .preStarted ∧ id < k then .ready else .provisioned

variable {plans : List Descriptor} {id k m : Nat} {d : Descriptor}

theorem isPreStarted_iff :
    isPreStarted plans id = true ↔ ∃ d, plans[id]? = some d ∧ d.mode = .preStarted := by
  simp [isPreStarted]

theorem getElem?_frontStates (planned : plans[id]? = some d) :
    (frontStates plans k)[id]? =
      some (if d.mode = .preStarted ∧ id < k then .ready else .provisioned) := by
  simp [frontStates, planned]

@[simp]
theorem length_frontStates : (frontStates plans k).length = plans.length := by
  simp [frontStates]

private theorem preStartedBelow_succ_of_not (other : isPreStarted plans k = false) :
    preStartedBelow plans (k + 1) = preStartedBelow plans k := by
  simp [preStartedBelow, List.range_succ, other]

theorem preStartedBelow_succ (mode : isPreStarted plans k = true) :
    preStartedBelow plans (k + 1) = preStartedBelow plans k ++ [k] := by
  simp [preStartedBelow, List.range_succ, mode]

private theorem frontStates_succ_of_not (other : isPreStarted plans k = false) :
    frontStates plans (k + 1) = frontStates plans k := by
  refine List.ext_getElem? fun id => ?_
  cases planned : plans[id]? with
  | none => simp [frontStates, planned]
  | some d =>
      rw [getElem?_frontStates planned, getElem?_frontStates planned]
      have apart : d.mode = .preStarted → id ≠ k := by
        rintro mode rfl
        have there := isPreStarted_iff.mpr ⟨d, planned, mode⟩
        cases there.symm.trans other
      have same : (d.mode = .preStarted ∧ id < k + 1) ↔ (d.mode = .preStarted ∧ id < k) := by
        constructor
        · rintro ⟨mode, before⟩
          have := apart mode
          exact ⟨mode, by omega⟩
        · rintro ⟨mode, before⟩
          exact ⟨mode, by omega⟩
      simp only [same]

private theorem frontStates_succ (mode : isPreStarted plans k = true) :
    frontStates plans (k + 1) = (frontStates plans k).set k .ready := by
  refine List.ext_getElem? fun id => ?_
  obtain ⟨d, planned, started⟩ := isPreStarted_iff.mp mode
  have inside : k < (frontStates plans k).length := by
    rw [length_frontStates]
    exact (List.getElem?_eq_some_iff.mp planned).1
  by_cases here : k = id
  · subst here
    rw [getElem?_frontStates planned, List.getElem?_set_self inside]
    simp [started]
  · rw [List.getElem?_set_ne here]
    cases planned' : plans[id]? with
    | none => simp [frontStates, planned']
    | some e =>
        rw [getElem?_frontStates planned', getElem?_frontStates planned']
        have same : id < k + 1 ↔ id < k := by omega
        simp only [same]

theorem front_skip (later : k ≤ m)
    (others : ∀ id, k ≤ id → id < m → isPreStarted plans id = false) :
    preStartedBelow plans m = preStartedBelow plans k ∧
      frontStates plans m = frontStates plans k := by
  induction m, later using Nat.le_induction with
  | base => exact ⟨rfl, rfl⟩
  | succ m later ih =>
      obtain ⟨same, same'⟩ := ih fun id after before => others id after (by omega)
      have other := others m later (Nat.lt_succ_self m)
      exact ⟨(preStartedBelow_succ_of_not other).trans same,
        (frontStates_succ_of_not other).trans same'⟩

/-- Nothing is in the way of a service: whatever it depends on is started before the body, and
the services whose addresses it needs have one. -/
def Startable (plans : List Descriptor) (exposes : Nat → Prop) (d : Descriptor) : Prop :=
  (∀ dependency ∈ d.dependsOn, ∀ (index : Nat) (e : Descriptor), plans[index]? = some e →
    e.name = dependency → e.mode = .preStarted) ∧
  ∀ key target, (key, .endpointOf target) ∈ d.params → ∀ (index : Nat) (e : Descriptor),
    plans[index]? = some e → e.name = target → exposes index

end Descriptor

open Descriptor (isPreStarted preStartedBelow frontStates Startable)

private theorem Controller.positionFrom_first {α : Type} {p : α → Bool} {start id : Nat}
    {as : List α}
    (found : positionFrom p start as = some id) {j : Nat} {a : α} (before : start + j < id)
    (there : as[j]? = some a) : p a = false := by
  induction as generalizing start j with
  | nil => cases there
  | cons b rest ih =>
      simp only [positionFrom] at found
      split at found
      · next here =>
          cases found
          omega
      · next absent =>
          cases j with
          | zero =>
              obtain rfl : b = a := by simpa using there
              simpa using absent
          | succ j =>
              have there : rest[j]? = some a := by simpa using there
              exact ih found (by omega) there

/-- The services below the front have been started and are ready, and nobody else was touched. -/
structure Front (plans : List Descriptor) (old : List Nat) (k : Nat) (c : Controller) : Prop where
  planned : c.ledger.plans = plans
  stands : c.ledger.states = frontStates plans k
  launched : c.launches = old ++ preStartedBelow plans k

structure Climb (plans : List Descriptor) (old : List Nat) (id : Nat) (c : Controller) :
    Prop where
  mode : isPreStarted plans id = true
  planned : c.ledger.plans = plans
  stands : c.ledger.states = (frontStates plans id).set id .starting
  launched : c.launches = old ++ preStartedBelow plans id ++ [id]

def Controller.Exposing (c : Controller) (exposes : Nat → Prop) : Prop :=
  ∀ (id : Nat) (handle : Handle), c.handles[id]? = some handle → handle.state = .ready →
    (handle.exposure.endpoints ≠ [] ↔ exposes id)

namespace Front

variable {plans : List Descriptor} {old : List Nat} {exposes : Nat → Prop} {c : Controller}
  {id k : Nat} {handle : Handle}

theorem plan (front : Front plans old k c) (found : c.handles[id]? = some handle) :
    plans[id]? = some handle.descriptor := by
  rw [← front.planned]
  exact Controller.plan_of_handle found

theorem ready_iff (front : Front plans old k c) (found : c.handles[id]? = some handle) :
    handle.state = .ready ↔ handle.descriptor.mode = .preStarted ∧ id < k := by
  have state : c.ledger.states[id]? = some handle.state := Controller.getElem?_states found
  rw [front.stands, Descriptor.getElem?_frontStates (front.plan found), Option.some.injEq] at state
  rw [← state]
  split
  · next ahead => exact iff_of_true rfl ahead
  · next behind => exact iff_of_false nofun behind

theorem plan_eq (front : Front plans old k c) (sound : c.Sound) {index index' : Nat}
    {other : Handle} {e : Descriptor} (there : c.handles[index]? = some other)
    (planned : plans[index']? = some e) (named : e.name = other.name) :
    index' = index ∧ e = other.descriptor := by
  have planned' := Controller.plan_of_handle there
  rw [← front.planned] at planned
  obtain rfl := sound.faithful.index_eq planned planned' named
  exact ⟨rfl, Option.some.inj (planned.symm.trans planned')⟩

private theorem startable (front : Front plans old id c) (sound : c.Sound)
    (exposing : c.Exposing exposes) (found : c.handles[id]? = some handle)
    (checked : c.checkDependencies id = .ok ()) {params : Params String}
    (supplied : c.Supplies handle.descriptor params) :
    Startable plans exposes handle.descriptor := by
  refine ⟨?_, ?_⟩
  · intro dependency needed index e planned named
    obtain ⟨index', other, there, named', ready⟩ :=
      Controller.ready_of_checkDependencies found checked dependency needed
    obtain ⟨-, rfl⟩ := front.plan_eq sound there planned (named.trans named'.symm)
    exact ((front.ready_iff there).mp ready).1
  · intro key target asked index e planned named
    obtain ⟨text, yields⟩ := supplied.yields asked
    cases yields with
    | endpoint there ready exposed =>
        obtain ⟨rfl, -⟩ := front.plan_eq sound there planned named
        refine (exposing _ _ there ready).mp ?_
        rw [exposed]
        exact List.cons_ne_nil _ _

private theorem not_startable (front : Front plans old id c) (sound : c.Sound)
    (exposing : c.Exposing exposes) (found : c.handles[id]? = some handle) {e : LifecycleError}
    (hinders : c.Hinders handle e) : ¬ Startable plans exposes handle.descriptor := by
  rintro ⟨dependencies, endpoints⟩
  cases hinders with
  | @unready index other needed there waits =>
      have mode := dependencies _ needed index _ (front.plan there) rfl
      -- What a service depends on joined before it, so the front has passed it.
      obtain ⟨index', before, other', there', named, -⟩ := sound.lookup_dependency found needed
      obtain ⟨rfl, -⟩ := front.plan_eq sound there' (front.plan there) named.symm
      exact waits ((front.ready_iff there).mpr ⟨mode, before⟩)
  | mute asked there ready silent =>
      exact (exposing _ _ there ready).mpr (endpoints _ _ asked _ _ (front.plan there) rfl) silent

theorem eligible (front : Front plans old k c) (later : k ≤ id)
    (mode : isPreStarted plans id = true) : ∃ handle, (c.handles.drop k)[id - k]? = some handle ∧
      (handle.descriptor.mode == .preStarted && handle.state == .provisioned) = true := by
  obtain ⟨d, planned, mode⟩ := Descriptor.isPreStarted_iff.mp mode
  rw [← front.planned] at planned
  obtain ⟨handle, found, rfl⟩ := Controller.handle_of_plan planned
  refine ⟨handle, ?_, ?_⟩
  · rw [List.getElem?_drop, Nat.add_sub_cancel' later]
    exact found
  · have stands : c.ledger.states[id]? = some handle.state := Controller.getElem?_states found
    rw [front.stands, Descriptor.getElem?_frontStates (front.plan found),
      if_neg fun ahead => Nat.not_lt_of_le later ahead.2, Option.some.injEq] at stands
    simp [mode, ← stands]

private theorem skip {m : Nat} (front : Front plans old k c) (later : k ≤ m)
    (others : ∀ id, k ≤ id → id < m → isPreStarted plans id = false) : Front plans old m c := by
  obtain ⟨same, same'⟩ := Descriptor.front_skip later others
  exact ⟨front.planned, same' ▸ front.stands, same ▸ front.launched⟩

private theorem of_none (front : Front plans old k c) (none_left : Site.nextPreStarted c k = none) :
    ∀ id, k ≤ id → isPreStarted plans id = false := by
  intro id later
  by_contra mode
  obtain ⟨handle, there, due⟩ := front.eligible later (by simpa using mode)
  have absent := Controller.positionFrom_eq_none.mp none_left handle (List.mem_of_getElem? there)
  cases due.symm.trans absent

private theorem of_next (front : Front plans old k c) (next : Site.nextPreStarted c k = some id) :
    k ≤ id ∧ ∀ other, k ≤ other → other < id → isPreStarted plans other = false := by
  have later := (Site.preStarted_of_nextPreStarted next).1
  refine ⟨later, ?_⟩
  intro other after before
  by_contra mode
  obtain ⟨handle, there, due⟩ := front.eligible after (by simpa using mode)
  have absent := Controller.positionFrom_first next (by omega) there
  cases due.symm.trans absent

private theorem climb (front : Front plans old id c) (found : c.handles[id]? = some handle)
    (mode : handle.descriptor.mode = .preStarted) (now : Instant) (params : Params String) :
    Climb plans old id
      ((({ c with startOrder := c.startOrder ++ [id] }.record now handle.name .starting).setState id
        .starting).ask (.start id params)) := by
  have written := c.ledger_launch now id handle.name .starting .starting (.start id params)
  have planned := congrArg Ledger.plans written
  have stands := congrArg Ledger.states written
  refine ⟨Descriptor.isPreStarted_iff.mpr ⟨_, front.plan found, mode⟩, ?_, ?_, ?_⟩
  · exact planned.trans front.planned
  · exact stands.trans (congrArg (fun states => states.set id .starting) front.stands)
  · rw [← front.launched]
    exact Controller.launches_ask rfl

end Front

/-! ## Starts that the clock has time for -/

namespace Controller

/-- No start was recorded whose deadline the clock cannot show. -/
def Punctual (c : Controller) : Prop := ∀ id, ¬ c.Overdue id

variable {c c' : Controller} {id : Nat} {handle : Handle}

theorem Punctual.carried (h : c.Punctual) (settings : c'.settings = c.settings)
    (plans : c'.ledger.plans = c.ledger.plans) (events : c'.events = c.events) : c'.Punctual := by
  intro id late
  refine h id (late.mono settings.symm ?_ (events ▸ List.Subset.refl _))
  exact (show c'.handles.map Handle.descriptor = c.handles.map Handle.descriptor from plans) ▸
    List.prefix_rfl

private theorem Punctual.record (h : c.Punctual) (settings : c'.settings = c.settings)
    (plans : c'.ledger.plans = c.ledger.plans) {event : Event}
    (events : c'.events = c.events ++ [event]) (kind : event.kind ≠ .starting) : c'.Punctual := by
  have before : { c' with events := c.events }.Punctual := h.carried settings plans rfl
  intro id ⟨handle, found, told, mem, named, starts, late⟩
  rw [events] at mem
  rcases List.mem_append.mp mem with old | new
  · exact before id ⟨handle, found, told, old, named, starts, late⟩
  · rw [List.mem_singleton.mp new] at starts
    exact absurd starts kind

private theorem Punctual.start (h : c.Punctual) (faithful : c.ledger.Faithful)
    (found : c.handles[id]? = some handle) (settings : c'.settings = c.settings)
    (plans : c'.ledger.plans = c.ledger.plans) {now deadline : Instant}
    (events : c'.events = c.events ++ [⟨handle.name, .starting, now⟩])
    (due : (Site.startupTimeout c handle).after? c.settings.horizon now = some deadline) :
    c'.Punctual := by
  have before : { c' with events := c.events }.Punctual := h.carried settings plans rfl
  intro other ⟨handle', found', told, mem, named, starts, late⟩
  have planned := Controller.plan_of_handle found'
  rw [plans] at planned
  rw [events] at mem
  rcases List.mem_append.mp mem with old | new
  · exact before other ⟨handle', found', told, old, named, starts, late⟩
  · rw [List.mem_singleton.mp new] at named late
    obtain rfl := faithful.index_eq (Controller.plan_of_handle found) planned named
    have same := Option.some.inj (planned.symm.trans (Controller.plan_of_handle found))
    rw [Site.startupTimeout, same, settings] at late
    cases late.symm.trans due

end Controller

private theorem Controller.Exposing.of_launched {c c' : Controller} {exposes : Nat → Prop}
    {id : Nat}
    {handle : Handle} (exposing : c'.Exposing exposes) (found : c.handles[id]? = some handle)
    (idle : handle.state = .provisioned) {state : HandleState}
    (launched : c'.handles = (c.setState id state).handles) : c.Exposing exposes := by
  intro index other there ready
  exact exposing index other (getElem?_of_launched launched found idle there ready) ready

/-- Where the services that are started one after another can have come to when so many were
found ready: the next one is being started, all were started, one could not be, or the start of
one broke down, as the clock cannot show its deadline. -/
inductive Sequel (plans : List Descriptor) (old : List Nat) (exposes : Nat → Prop)
    (count : Nat) : Option Operation → Controller → Option Completion → Prop
  | going {c : Controller} {id : Nat} {wait : Wait} {signals : List ReadySignal}
      (starting : wait.starts? = some id) (climb : Climb plans old id c) (punctual : c.Punctual)
      (counted : (preStartedBelow plans id).length = count)
      (fit : ∀ {k : Nat} {d : Descriptor}, k ≤ id → plans[k]? = some d → d.mode = .preStarted →
        Startable plans exposes d) :
      Sequel plans old exposes count (some ⟨.startAll (id + 1) signals, wait⟩) c none
  | done {c : Controller} (signals : List ReadySignal) (front : Front plans old plans.length c)
      (punctual : c.Punctual)
      (fit : ∀ {k : Nat} {d : Descriptor}, plans[k]? = some d → d.mode = .preStarted →
        Startable plans exposes d) :
      Sequel plans old exposes count none c (some (.startedAll (.ok signals)))
  | stuck {c : Controller} {id : Nat} {d : Descriptor} (e : LifecycleError)
      (planned : plans[id]? = some d) (mode : d.mode = .preStarted)
      (front : Front plans old id c) (punctual : c.Punctual) (unfit : ¬ Startable plans exposes d)
      (fit : ∀ {k : Nat} {d : Descriptor}, k < id → plans[k]? = some d → d.mode = .preStarted →
        Startable plans exposes d) :
      Sequel plans old exposes count none c (some (.startedAll (.error e)))
  | broken {c : Controller} {id : Nat} {d : Descriptor} (planned : plans[id]? = some d)
      (mode : d.mode = .preStarted) (same : c.ledger.plans = plans)
      (stands : c.ledger.states = (frontStates plans id).set id .starting)
      (launched : c.launches = old ++ preStartedBelow plans id) (late : c.Overdue id)
      (fit : ∀ {k : Nat} {d : Descriptor}, k ≤ id → plans[k]? = some d → d.mode = .preStarted →
        Startable plans exposes d) :
      Sequel plans old exposes count none c (some (.panicked Span.beyondHorizon))

namespace Sequel

variable {plans : List Descriptor} {old : List Nat} {exposes : Nat → Prop} {s : Site}
  {count : Nat}

theorem startFrom {k : Nat} (front : Front plans old k s.controller)
    (punctual : s.controller.Punctual) (inside : k ≤ plans.length)
    (counted : (preStartedBelow plans k).length = count) (sound : s.controller.Sound)
    (now : Instant) (signals : List ReadySignal)
    (exposing : (s.startFrom now k signals).2.controller.Exposing exposes)
    (fit : ∀ {id : Nat} {d : Descriptor}, id < k → plans[id]? = some d → d.mode = .preStarted →
      Startable plans exposes d) :
    Sequel plans old exposes count (s.startFrom now k signals).1.operation?
      (s.startFrom now k signals).2.controller (s.startFrom now k signals).1.completion? := by
  cases next : Site.nextPreStarted s.controller k with
  | none =>
      have led : s.startFrom now k signals = (.finished (.startedAll (.ok signals)), s) := by
        simp only [Site.startFrom, next]
      have others := front.of_none next
      rw [led]
      refine .done signals (front.skip inside fun id later _ => others id later) punctual ?_
      intro id d planned mode
      by_cases before : id < k
      · exact fit before planned mode
      · have absent := others id (Nat.le_of_not_lt before)
        cases absent.symm.trans (Descriptor.isPreStarted_iff.mpr ⟨d, planned, mode⟩)
  | some id =>
      obtain ⟨later, others⟩ := front.of_next next
      obtain ⟨-, handle, found, mode, idle⟩ := Site.preStarted_of_nextPreStarted next
      rw [← (Descriptor.front_skip later others).1] at counted
      have front := front.skip later others
      have planned := front.plan found
      have fit : ∀ {j : Nat} {d : Descriptor}, j < id → plans[j]? = some d →
          d.mode = .preStarted → Startable plans exposes d := by
        intro j d before planned mode
        by_cases passed : j < k
        · exact fit passed planned mode
        · have absent := others j (Nat.le_of_not_lt passed) before
          cases absent.symm.trans (Descriptor.isPreStarted_iff.mpr ⟨d, planned, mode⟩)
      rcases sound.planStart_cases found idle mode with ⟨params, go, supplied⟩ | ⟨e, stop, why⟩
      · obtain ⟨handle', found', -, -, -, checked⟩ := Site.checked_of_planStart go
        obtain rfl := Option.some.inj (found.symm.trans found')
        have fit' : Startable plans exposes handle.descriptor → ∀ {j : Nat} {d : Descriptor},
            j ≤ id → plans[j]? = some d → d.mode = .preStarted → Startable plans exposes d := by
          intro startable j d before planned' mode'
          rcases Nat.lt_or_eq_of_le before with earlier | rfl
          · exact fit earlier planned' mode'
          · obtain rfl := Option.some.inj (planned.symm.trans planned')
            exact startable
        have climb := front.climb found mode now params
        cases time : (Site.startupTimeout s.controller handle).after?
            s.controller.settings.horizon now with
        | none =>
            simp only [Site.startFrom, next, Site.start_of_late go time] at exposing ⊢
            have startable := front.startable sound (exposing.of_launched found idle rfl) found
              checked supplied
            refine .broken planned mode climb.planned climb.stands front.launched ?_
              (fit' startable)
            exact .of_start time (Controller.getElem?_setState found .starting) rfl rfl rfl
        | some deadline =>
            simp only [Site.startFrom, next, Site.start_of_due go time] at exposing ⊢
            have startable := front.startable sound (exposing.of_launched found idle rfl) found
              checked supplied
            refine .going rfl climb ?_ counted (fit' startable)
            exact punctual.start sound.faithful found rfl
              (climb.planned.trans front.planned.symm) rfl time
      · have led : s.startFrom now k signals = (.finished (.startedAll (.error e)), s) := by
          simp only [Site.startFrom, next, Site.start, stop]
        rw [led] at exposing ⊢
        exact .stuck e planned mode front punctual
          (front.not_startable sound exposing found why) fit

end Sequel

/-! ## Answers -/

/-- An answer that lets a service get ready in time: its start does not fail, and a probe fails
neither for good nor when the time is up, nor when the clock has no time for a pause. -/
def Wait.Obliged (settings : Settings) (now : Instant) : Wait → Answer → Prop
  | .start _ _, .acknowledged (.error _) | .start _ _, .elapsed => False
  | .probe _ _, .probed (.error _) | .probe _ _, .elapsed => False
  | .probe _ deadline, .probed (.ok false) =>
    now < deadline ∧ settings.pollInterval.after now ≤ settings.horizon
  | _, _ => True

def Wait.settles : Wait → Answer → Bool
  | .probe _ _, .probed (.ok true) => true
  | _, _ => false

private theorem Site.continueWith_obliged {wait : Wait} {id : Nat}
    (starting : wait.starts? = some id)
    {now : Instant} {given : Answer} {s : Site}
    (obliged : wait.Obliged s.controller.settings now given) (ticket : Nat) :
    (wait.settles given = false ∧ ∃ later after,
        s.continueWith now ticket wait given = (.waits later, after) ∧
        later.starts? = some id ∧ after.controller.settings = s.controller.settings ∧
        after.controller.ledger = s.controller.ledger ∧
        after.controller.launches = s.controller.launches) ∨
      ∃ deadline, wait = .probe id deadline ∧ given = .probed (.ok true) := by
  cases wait with
  | start service deadline =>
      obtain rfl : service = id := Option.some.inj starting
      cases given with
      | acknowledged result =>
          cases result with
          | ok _ =>
              exact .inl ⟨rfl, .probe service deadline, _, rfl, rfl, rfl, rfl,
                Controller.launches_ask_of_eq_none rfl⟩
          | error e => exact obliged.elim
      | elapsed => exact obliged.elim
      | woken | materialized | probed | ran =>
          exact .inl ⟨rfl, .start service deadline, s, rfl, rfl, rfl, rfl, rfl⟩
  | probe service deadline =>
      obtain rfl : service = id := Option.some.inj starting
      cases given with
      | probed result =>
          cases result with
          | ok found =>
              cases found with
              | true => exact .inr ⟨deadline, rfl, rfl⟩
              | false =>
                  obtain ⟨early, wakes⟩ := obliged
                  have paused : s.continueWith now ticket (.probe service deadline)
                      (.probed (.ok false)) = (.waits (.pause service deadline
                        (min (s.controller.settings.pollInterval.after now) deadline)), s) := by
                    show s.pauseProbing now service deadline = _
                    rw [Site.pauseProbing, if_neg (Nat.not_le_of_lt early), Span.after?_of_le wakes]
                  exact .inl ⟨rfl, .pause service deadline _, s, paused, rfl, rfl, rfl, rfl⟩
          | error e => exact obliged.elim
      | elapsed => exact obliged.elim
      | woken | materialized | acknowledged | ran =>
          exact .inl ⟨rfl, .probe service deadline, s, rfl, rfl, rfl, rfl, rfl⟩
  | pause service deadline wake =>
      obtain rfl : service = id := Option.some.inj starting
      cases given with
      | elapsed =>
          exact .inl ⟨rfl, .probe service deadline, _, rfl, rfl, rfl, rfl,
            Controller.launches_ask_of_eq_none rfl⟩
      | woken | materialized | acknowledged | probed | ran =>
          exact .inl ⟨rfl, .pause service deadline wake, s, rfl, rfl, rfl, rfl, rfl⟩
  | reservation | placement | materialization | run | stop | kill => cases starting

private theorem Climb.front {plans : List Descriptor} {old : List Nat} {id : Nat} {c : Controller}
    (climb : Climb plans old id c) (now : Instant) (name : String) :
    Front plans old (id + 1) ((c.setState id .ready).record now name .ready) := by
  have written := c.ledger_turn now id (f := fun handle => { handle with state := .ready })
    (fun _ => rfl) (fun _ => rfl) name .ready
  have planned := congrArg Ledger.plans written
  have stands := congrArg Ledger.states written
  refine ⟨planned.trans climb.planned, ?_, ?_⟩
  · refine stands.trans ?_
    change c.ledger.states.set id .ready = _
    rw [climb.stands, List.set_set, Descriptor.frontStates_succ climb.mode]
  · rw [Descriptor.preStartedBelow_succ climb.mode, ← List.append_assoc, ← climb.launched]
    rfl

theorem Climb.carried {plans : List Descriptor} {old : List Nat} {id : Nat}
    {c c' : Controller} (climb : Climb plans old id c) (planned : c'.ledger.plans = c.ledger.plans)
    (stands : c'.ledger.states = c.ledger.states) (launched : c'.launches = c.launches) :
    Climb plans old id c' :=
  ⟨climb.mode, planned.trans climb.planned, stands.trans climb.stands,
    launched.trans climb.launched⟩

private theorem Front.carried {plans : List Descriptor} {old : List Nat} {k : Nat}
    {c c' : Controller}
    (front : Front plans old k c) (planned : c'.ledger.plans = c.ledger.plans)
    (stands : c'.ledger.states = c.ledger.states) (launched : c'.launches = c.launches) :
    Front plans old k c' :=
  ⟨planned.trans front.planned, stands.trans front.stands, launched.trans front.launched⟩

namespace Sequel

variable {plans : List Descriptor} {old : List Nat} {exposes : Nat → Prop} {count : Nat}

theorem resume {s : Site} {operation : Operation}
    (sequel : Sequel plans old exposes count (some operation) s.controller none)
    (kept : s.controller.Kept operation.wait) {now : Instant} {given : Answer}
    (obliged : operation.wait.Obliged s.controller.settings now given) (ticket : Nat)
    (exposing : (s.resume now ticket operation given).2.controller.Exposing exposes) :
    Sequel plans old exposes (count + (operation.wait.settles given).toNat)
      (s.resume now ticket operation given).1.operation?
      (s.resume now ticket operation given).2.controller
      (s.resume now ticket operation given).1.completion? := by
  cases sequel with
  | @going _ id wait signals starting climb punctual counted fit =>
      rcases Site.continueWith_obliged starting obliged ticket with
        ⟨unsettled, later, after, led, still, settings, ledger, launched⟩ | ⟨deadline, rfl, rfl⟩
      · have led : s.resume now ticket ⟨.startAll (id + 1) signals, wait⟩ given =
            (.waiting ⟨.startAll (id + 1) signals, later⟩, after) := by
          simp only [Site.resume, led, Site.follow]
        have planned := congrArg Ledger.plans ledger
        have stands := congrArg Ledger.states ledger
        have events : after.controller.events = s.controller.events :=
          congrArg Ledger.events ledger
        rw [led, unsettled]
        exact .going still (climb.carried planned stands launched)
          (punctual.carried settings planned events) counted fit
      · obtain ⟨d, planned, -⟩ := Descriptor.isPreStarted_iff.mp climb.mode
        have inside := (List.getElem?_eq_some_iff.mp planned).1
        rw [← climb.planned] at planned
        obtain ⟨handle, found, -⟩ := Controller.handle_of_plan planned
        have readies : Site.Moves now ticket (some (.probe id deadline)) s none _ :=
          .readies found
        have sound := (Site.lasting_kept.moves readies kept).sound
        rw [Site.resume_ready found] at exposing ⊢
        have front := climb.front now handle.name
        have still : ((s.controller.setState id .ready).record now handle.name .ready).Punctual :=
          punctual.record rfl (front.planned.trans climb.planned.symm) rfl (by simp)
        refine startFrom front still inside ?_ sound now _ exposing ?_
        · rw [Descriptor.preStartedBelow_succ climb.mode, List.length_append, counted]
          rfl
        · intro k d before planned mode
          exact fit (Nat.le_of_lt_succ before) planned mode

private theorem carried {operation : Option Operation} {c c' : Controller}
    {told : Option Completion}
    (sequel : Sequel plans old exposes count operation c told) (settings : c'.settings = c.settings)
    (ledger : c'.ledger = c.ledger) (launched : c'.launches = c.launches) :
    Sequel plans old exposes count operation c' told := by
  have planned := congrArg Ledger.plans ledger
  have stands := congrArg Ledger.states ledger
  have events : c'.events = c.events := congrArg Ledger.events ledger
  cases sequel with
  | going starting climb punctual counted fit =>
      exact .going starting (climb.carried planned stands launched)
        (punctual.carried settings planned events) counted fit
  | done signals front punctual fit =>
      exact .done signals (front.carried planned stands launched)
        (punctual.carried settings planned events) fit
  | stuck e there mode front punctual unfit fit =>
      exact .stuck e there mode (front.carried planned stands launched)
        (punctual.carried settings planned events) unfit fit
  | broken there mode same stood asked late fit =>
      refine .broken there mode (planned.trans same) (stands.trans stood) (launched.trans asked) ?_
        fit
      refine late.mono settings ?_ (events ▸ List.Subset.refl _)
      exact (show c'.handles.map Handle.descriptor = c.handles.map Handle.descriptor from planned) ▸
        List.prefix_rfl

end Sequel

/-! ## Runs -/

def Duty.Obliges (d : Duty) : DutyMove → Prop
  | .issue _ _ _ | .cancel _ => False
  | .answer now _ given => ∀ wait ∈ d.wait?, wait.Obliged d.controller.settings now given
  | .observe _ _ | .share _ => True

/-- Each service that is started gets ready in time, and the ready ones have addresses as it was
said. -/
def Duty.Obliging (exposes : Nat → Prop) : Duty → List DutyMove → Prop
  | d, [] => d.controller.Exposing exposes
  | d, move :: moves =>
    d.controller.Exposing exposes ∧ d.Obliges move ∧ Obliging exposes (d.step move) moves

theorem Duty.Obliging.exposing {exposes : Nat → Prop} {d : Duty} {moves : List DutyMove}
    (obliging : d.Obliging exposes moves) : d.controller.Exposing exposes := by
  cases moves with
  | nil => exact obliging
  | cons move moves => exact obliging.1

def Duty.settles (d : Duty) : DutyMove → Bool
  | .answer _ _ given => d.wait?.any fun wait => wait.settles given
  | .issue _ _ _ | .cancel _ | .observe _ _ | .share _ => false

/-- How often a service was found ready. -/
def Duty.settled : Duty → List DutyMove → Nat
  | _, [] => 0
  | d, move :: moves => (d.settles move).toNat + settled (d.step move) moves

namespace Sequel

variable {plans : List Descriptor} {old : List Nat} {exposes : Nat → Prop} {count : Nat}
  {d : Duty} {told : Option Completion}

private theorem step (sequel : Sequel plans old exposes count d.operation d.controller told)
    (kept : d.controller.Kept d.wait?) {move : DutyMove} (obliges : d.Obliges move)
    (exposing : (d.step move).controller.Exposing exposes) :
    ∃ told', told'.toList = told.toList ++ (d.result? move).toList.map Prod.snd ∧
      Sequel plans old exposes (count + (d.settles move).toNat) (d.step move).operation
        (d.step move).controller told' := by
  cases move with
  | issue | cancel => cases obliges
  | observe service exposure =>
      exact ⟨told, (List.append_nil _).symm,
        sequel.carried rfl (d.controller.ledger_observe _ _) rfl⟩
  | share pool => exact ⟨told, (List.append_nil _).symm, sequel⟩
  | answer now ticket given =>
      cases busy : d.operation with
      | none =>
          have unsettled : d.settles (.answer now ticket given) = false := by
            simp [Duty.settles, Duty.wait?, busy]
          refine ⟨told, ?_, ?_⟩
          · simp [Duty.result?, busy]
          · rw [unsettled]
            simpa only [Duty.step, busy, Bool.toNat_false, Nat.add_zero] using sequel
      | some operation =>
          obtain ⟨stepped, result⟩ := Duty.answer_of_busy busy now ticket given
          have waits : d.wait? = some operation.wait := by rw [Duty.wait?, busy]; rfl
          have settles : d.settles (.answer now ticket given) = operation.wait.settles given := by
            simp only [Duty.settles, waits, Option.any_some]
          have obliged : operation.wait.Obliged d.controller.settings now given :=
            obliges _ waits
          rw [waits] at kept
          rw [busy] at sequel
          have silent : told = none := by
            cases sequel
            rfl
          subst silent
          rw [stepped] at exposing ⊢
          refine ⟨_, ?_, settles ▸ sequel.resume kept obliged ticket exposing⟩
          rw [result]
          cases (d.site.resume now ticket operation given).1.completion? with
          | none => rfl
          | some completion => rfl

/-- From wherever the services that are started one after another have come to, they come to
what is said there, and report it once. -/
theorem run (sequel : Sequel plans old exposes count d.operation d.controller told)
    (kept : d.controller.Kept d.wait?) {moves : List DutyMove}
    (obliging : d.Obliging exposes moves) :
    ∃ told', told'.toList = told.toList ++ (d.results moves).map Prod.snd ∧
      Sequel plans old exposes (count + d.settled moves) (d.run moves).operation
        (d.run moves).controller told' := by
  induction moves generalizing d count told with
  | nil => exact ⟨told, (List.append_nil _).symm, sequel⟩
  | cons move moves ih =>
      obtain ⟨-, obliges, rest⟩ := obliging
      obtain ⟨told', tells, onward⟩ := sequel.step kept obliges rest.exposing
      obtain ⟨told'', tells', after⟩ :=
        ih onward (Duty.step_keeps Site.lasting_kept (fun h => h.idle) kept move) rest
      refine ⟨told'', ?_, ?_⟩
      · rw [tells', tells, Duty.results, List.map_append, List.append_assoc]
      · rw [Duty.settled, ← Nat.add_assoc]
        exact after

end Sequel

namespace Sequel

variable {plans : List Descriptor} {old : List Nat} {exposes : Nat → Prop} {count : Nat}
  {c : Controller} {told : Option Completion}

theorem planned {operation : Option Operation}
    (sequel : Sequel plans old exposes count operation c told) : c.ledger.plans = plans := by
  cases sequel with
  | going _ climb => exact climb.planned
  | done _ front | stuck _ _ _ front => exact front.planned
  | broken _ _ same => exact same

theorem lt_of_going {operation : Operation}
    (sequel : Sequel plans old exposes count (some operation) c told) :
    told = none ∧ count < (preStartedBelow plans plans.length).length := by
  cases sequel with
  | @going _ id wait signals starting climb punctual counted fit =>
      obtain ⟨d, planned, -⟩ := Descriptor.isPreStarted_iff.mp climb.mode
      have inside := (List.getElem?_eq_some_iff.mp planned).1
      have further :
          (preStartedBelow plans (id + 1)).Sublist (preStartedBelow plans plans.length) :=
        (List.range_sublist.mpr inside).filter _
      have longer := further.length_le
      rw [Descriptor.preStartedBelow_succ climb.mode, List.length_append, counted] at longer
      exact ⟨rfl, longer⟩

end Sequel

/-! ## Before the first service is started -/

structure Controller.Untouched (c : Controller) (operation : Option Operation) : Prop where
  kept : c.Kept (operation.map Operation.wait)
  undriven : ∀ current ∈ operation, current.goal = .alone ∧ current.wait.service? = none
  idle : ∀ handle ∈ c.handles, handle.state = .provisioned
  unasked : c.launches = []

namespace Site

variable {now : Instant} {ticket : Nat} {s s' : Site} {w' : Option Wait}

private theorem Moves.undriven {wait : Wait} (moves : Moves now ticket (some wait) s w' s')
    (undriven : wait.service? = none) : ∀ x ∈ w', x.service? = none := by
  intro x next
  cases moves with
  | stays =>
      obtain rfl : wait = x := by simpa using next
      exact undriven
  | queues before after =>
      obtain rfl := Option.mem_some_iff.mp next
      exact Wait.service?_of_seeks? after
  | places =>
      obtain rfl := Option.mem_some_iff.mp next
      rfl
  | probes deadline started => cases undriven.symm.trans (Wait.service?_of_starts? started)
  | pauses | kills => cases undriven
  | misses | reserves | givesUp | adopts | declines | lapses | readies | completes | fails
  | releases => cases next

private theorem Moves.idle {w : Option Wait} (moves : Moves now ticket w s w' s')
    (undriven : ∀ x ∈ w, x.service? = none) (undriven' : ∀ x ∈ w', x.service? = none)
    (unlaunched : w = none → s'.controller.startOrder = s.controller.startOrder)
    (idle : ∀ handle ∈ s.controller.handles, handle.state = .provisioned)
    (unasked : s.controller.launches = []) :
    (∀ handle ∈ s'.controller.handles, handle.state = .provisioned) ∧
      s'.controller.launches = [] := by
  cases moves with
  | stays | misses | queues | givesUp | declines => exact ⟨idle, unasked⟩
  | reserves => exact ⟨idle, unasked⟩
  | places => exact ⟨idle, (Controller.launches_ask_of_eq_none rfl).trans unasked⟩
  | draws accepted taken =>
      obtain ⟨held, rest, -, -, rfl⟩ := drawReserved_eq_some taken
      exact ⟨idle, (Controller.launches_ask_of_eq_none rfl).trans unasked⟩
  | adopts d lease exposure =>
      refine ⟨?_, unasked⟩
      intro handle mem
      rcases List.mem_append.mp mem with there | fresh
      · exact idle handle there
      · obtain rfl := List.mem_singleton.mp fresh
        rfl
  | starts | runs | stops => cases undriven' _ rfl
  | breaks => simp [modify, Controller.setState, Controller.modifyHandle,
      Controller.record] at unlaunched
  | probes | pauses | kills => cases undriven' _ rfl
  | lapses | readies | completes => cases undriven _ rfl
  | fails driven =>
      rcases driven with started | rfl
      · cases (undriven _ rfl).symm.trans (Wait.service?_of_starts? started)
      · cases undriven _ rfl
  | releases problem stopping =>
      cases (undriven _ rfl).symm.trans (Wait.service?_of_stops? stopping)

structure Unlaunched (s : Site) (r : Leg × Site) : Prop where
  undriven : ∀ x ∈ r.1.wait?, x.service? = none
  startOrder : r.2.controller.startOrder = s.controller.startOrder

theorem Unlaunched.ends (completion : Completion) (s : Site) :
    Unlaunched s (.ends completion, s) :=
  ⟨fun x waits => absurd waits (Option.not_mem_none x), rfl⟩

theorem unlaunched_reserve (now : Instant) (ticket count : Nat) (s : Site) :
    Unlaunched s (s.reserve now ticket count) := by
  unfold reserve
  split
  · exact .ends _ s
  · split
    · exact .ends _ s
    · split
      · exact .ends _ s
      · rcases attempt_cases s ticket count with ⟨lease, pool, -, same⟩ | same
        · rw [same]
          exact ⟨fun x waits => absurd waits (Option.not_mem_none x), rfl⟩
        · rw [same]
          exact ⟨fun x waits => by cases waits; rfl, rfl⟩

theorem unlaunched_provision (now : Instant) (ticket : Nat) (d : Descriptor) (s : Site) :
    Unlaunched s (s.provision now ticket d) := by
  unfold provision
  split
  · exact .ends _ s
  · split
    · next taken =>
        obtain ⟨held, rest, -, -, rfl⟩ := drawReserved_eq_some taken
        exact ⟨fun x waits => by cases waits; rfl, rfl⟩
    · split
      · exact .ends _ s
      · split
        · exact .ends _ s
        · rcases attempt_cases s ticket d.nodeCount with ⟨lease, pool, -, same⟩ | same
          · rw [same]
            exact ⟨fun x waits => by cases waits; rfl, rfl⟩
          · rw [same]
            exact ⟨fun x waits => by cases waits; rfl, rfl⟩

private theorem follow_alone (now : Instant) (leg : Leg) (s : Site) :
    (follow now .alone leg s).2 = s ∧
      (follow now .alone leg s).1.operation? = leg.wait?.map (Operation.mk .alone) := by
  cases leg with
  | waits wait => exact ⟨rfl, rfl⟩
  | ends completion => cases completion <;> exact ⟨rfl, rfl⟩

end Site

namespace Controller.Untouched

open Site (follow Leads)

variable {now : Instant} {ticket : Nat} {s : Site} {operation : Option Operation}

theorem leads (h : s.controller.Untouched operation) {r : Leg × Site}
    (leads : Leads now ticket (operation.map Operation.wait) s r)
    (undriven : ∀ x ∈ r.1.wait?, x.service? = none)
    (unlaunched : operation = none → r.2.controller.startOrder = s.controller.startOrder) :
    (follow now .alone r.1 r.2).2.controller.Untouched
      (follow now .alone r.1 r.2).1.operation? := by
  obtain ⟨same, waits⟩ := Site.follow_alone now r.1 r.2
  rw [same, waits]
  have before : ∀ x ∈ operation.map Operation.wait, x.service? = none := by
    rintro _ current
    obtain ⟨there, progress, rfl⟩ := Option.map_eq_some_iff.mp current
    exact (h.undriven there progress).2
  obtain ⟨idle, unasked⟩ := Site.Moves.idle leads before undriven
    (fun begins => unlaunched (Option.map_eq_none_iff.mp begins)) h.idle h.unasked
  refine ⟨?_, ?_, idle, unasked⟩
  · rw [Option.map_map]
    simpa [Function.comp_def] using Site.lasting_kept.moves leads h.kept
  · intro current next
    obtain ⟨wait, later, rfl⟩ := Option.map_eq_some_iff.mp next
    exact ⟨rfl, undriven wait later⟩

theorem issue_reserve (h : s.controller.Untouched none) (now : Instant) (ticket count : Nat) :
    (s.issue now ticket (.reserve count)).2.controller.Untouched
      (s.issue now ticket (.reserve count)).1.operation? := by
  obtain ⟨undriven, same⟩ := Site.unlaunched_reserve now ticket count s
  exact h.leads (r := s.reserve now ticket count) (Site.reserve_leads now ticket count s) undriven
    fun _ => same

theorem issue_provision (h : s.controller.Untouched none) (now : Instant) (ticket : Nat)
    (d : Descriptor) :
    (s.issue now ticket (.provision d)).2.controller.Untouched
      (s.issue now ticket (.provision d)).1.operation? := by
  obtain ⟨undriven, same⟩ := Site.unlaunched_provision now ticket d s
  exact h.leads (r := s.provision now ticket d) (Site.provision_leads now ticket d s) undriven
    fun _ => same

theorem resume {current : Operation} (h : s.controller.Untouched (some current)) (now : Instant)
    (ticket : Nat) (given : Answer) :
    (s.resume now ticket current given).2.controller.Untouched
      (s.resume now ticket current given).1.operation? := by
  obtain ⟨goal, wait⟩ := current
  obtain ⟨rfl, undriven⟩ := h.undriven _ rfl
  have leads := Site.continueWith_leads now ticket wait given s
  exact h.leads leads (Site.Moves.undriven leads undriven) nofun

theorem observe {c : Controller} (h : c.Untouched operation) (service : Nat)
    (exposure : Exposure) : (c.observe service exposure).Untouched operation where
  kept := Site.lasting_kept.observe (s := ⟨.ofHosts [], c⟩) service exposure h.kept
  undriven := h.undriven
  idle := by
    intro handle mem
    have states := congrArg Ledger.states (c.ledger_observe service exposure)
    have state : handle.state ∈ (c.observe service exposure).ledger.states :=
      List.mem_map_of_mem mem
    rw [states] at state
    obtain ⟨before, there, same⟩ := List.mem_map.mp state
    exact same.symm.trans (h.idle before there)
  unasked := h.unasked

private theorem front {c : Controller} (h : c.Untouched operation) : Front c.ledger.plans
    [] 0 c where
  planned := rfl
  stands := by
    refine List.ext_getElem? fun id => ?_
    simp only [Controller.ledger, Controller.states, frontStates, List.getElem?_map,
      List.getElem?_mapIdx, Nat.not_lt_zero, and_false, if_false, Option.map_map]
    refine Option.map_congr fun handle there => ?_
    exact h.idle handle (List.mem_of_getElem? there)
  launched := h.unasked

private theorem punctual {c : Controller} (h : c.Untouched operation) : c.Punctual := by
  rintro id ⟨handle, found, told, mem, named, starts, -⟩
  have life := h.kept.sound.faithful.lives (Controller.plan_of_handle found)
    (Controller.getElem?_states found)
  rw [h.idle handle (List.mem_of_getElem? found)] at life
  have started : EventKind.starting ∈ historyOf c.events handle.name := by
    refine List.mem_map.mpr ⟨told, List.mem_filter.mpr ⟨mem, ?_⟩, starts⟩
    simpa using named
  rw [show historyOf c.events handle.name = _ from life.of_provisioned] at started
  cases List.mem_singleton.mp started

theorem sequel (h : s.controller.Untouched none) {exposes : Nat → Prop} (now : Instant)
    (ticket : Nat) {moves : List DutyMove}
    (obliging : ((⟨s, none⟩ : Duty).step (.issue now ticket .startAll)).Obliging exposes moves) :
    let begun := (⟨s, none⟩ : Duty).step (.issue now ticket .startAll)
    ∃ told : Option Completion,
      told.toList = ((⟨s, none⟩ : Duty).results (.issue now ticket .startAll :: moves)).map
        Prod.snd ∧
      Sequel s.controller.ledger.plans [] exposes (begun.settled moves)
        (begun.run moves).operation (begun.run moves).controller told := by
  intro begun
  obtain ⟨stepped, result⟩ := Duty.issue_of_idle (d := ⟨s, none⟩) rfl now ticket .startAll
  have kept : begun.controller.Kept begun.wait? :=
    Duty.step_keeps Site.lasting_kept (fun h => h.idle) (d := ⟨s, none⟩) h.kept _
  have sequel : Sequel s.controller.ledger.plans [] exposes 0 begun.operation begun.controller
      (s.startFrom now 0 []).1.completion? :=
    Sequel.startFrom h.front h.punctual (Nat.zero_le _) rfl h.kept.sound now []
      obliging.exposing nofun
  obtain ⟨told, tells, after⟩ := sequel.run kept obliging
  refine ⟨told, ?_, Nat.zero_add (begun.settled moves) ▸ after⟩
  rw [tells, Duty.results, result, List.map_append]
  refine congrArg (· ++ _) ?_
  change _ = ((s.startFrom now 0 []).1.completion?.map (Prod.mk now)).toList.map Prod.snd
  cases (s.startFrom now 0 []).1.completion? <;> rfl

end Controller.Untouched

end Interop
