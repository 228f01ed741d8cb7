import Interop.Proofs.Lifecycle.Tally
import Interop.Proofs.Lifecycle.Duty
import Mathlib.Data.List.Nodup

/-!
# The ledger of a controller

What is planned, where each service stands, which services were driven and what was recorded
make up a ledger.  A leg of an operation writes at most one entry: a service joins, is launched
or takes a turn.  Each entry is made under conditions that `Ledger.Step` lists, so a property
of ledgers that survives every entry holds at every time of a duty.
-/

namespace Interop

/-! ## Looking up -/

namespace Controller

theorem getElem?_of_positionFrom {α : Type} {p : α → Bool} {start id : Nat} {as : List α}
    (found : positionFrom p start as = some id) :
    start ≤ id ∧ ∃ a, as[id - start]? = some a ∧ p a = true := by
  induction as generalizing start with
  | nil => cases found
  | cons a rest ih =>
      simp only [positionFrom] at found
      split at found
      · next here =>
          cases found
          simp [here]
      · obtain ⟨later, b, there, holds⟩ := ih found
        refine ⟨by omega, b, ?_, holds⟩
        rw [show id - start = id - (start + 1) + 1 by omega]
        simpa using there

theorem positionFrom_eq_none {α : Type} {p : α → Bool} {start : Nat} {as : List α} :
    positionFrom p start as = none ↔ ∀ a ∈ as, p a = false := by
  induction as generalizing start with
  | nil => simp [positionFrom]
  | cons a rest ih =>
      simp only [positionFrom]
      split
      · next here => simp [here]
      · next absent => simp [ih, absent]

theorem handle_of_lookup {c : Controller} {name : String} {id : Nat}
    (found : c.lookup name = .ok id) :
    ∃ handle, c.handles[id]? = some handle ∧ handle.name = name := by
  unfold lookup at found
  split at found
  · next position =>
      cases found
      obtain ⟨-, handle, there, same⟩ := getElem?_of_positionFrom position
      exact ⟨handle, there, by simpa using same⟩
  · cases found

theorem isSome_lookup {c : Controller} {name : String} :
    (c.lookup name).toOption.isSome = true ↔ name ∈ c.handles.map Handle.name := by
  unfold lookup
  split
  · next id position =>
      obtain ⟨-, handle, there, same⟩ := getElem?_of_positionFrom position
      have mem := List.mem_map_of_mem (f := Handle.name) (List.mem_of_getElem? there)
      rw [show handle.name = name by simpa using same] at mem
      simpa [Except.toOption] using mem
  · next nobody =>
      have absent := positionFrom_eq_none.mp nobody
      simpa [Except.toOption] using absent

private theorem of_forM_eq_ok {α ε : Type} {f : α → Except ε Unit} {as : List α}
    (done : as.forM f = .ok ()) : ∀ a ∈ as, f a = .ok () := by
  induction as with
  | nil => simp
  | cons a rest ih =>
      have unfolded : (f a >>= fun _ => rest.forM f) = .ok () := done
      cases first : f a with
      | error e =>
          rw [first] at unfolded
          cases unfolded
      | ok _ =>
          rw [first] at unfolded
          intro b mem
          rcases List.mem_cons.mp mem with rfl | mem
          · exact first
          · exact ih unfolded b mem

theorem ready_of_checkDependencies {c : Controller} {id : Nat} {handle : Handle}
    (found : c.handles[id]? = some handle) (checked : c.checkDependencies id = .ok ()) :
    ∀ dependency ∈ handle.descriptor.dependsOn, ∃ (index : Nat) (other : Handle),
      c.handles[index]? = some other ∧ other.name = dependency ∧ other.state = .ready := by
  intro dependency mem
  simp only [checkDependencies, Controller.handle, found, bind, Except.bind] at checked
  have here := of_forM_eq_ok checked dependency mem
  cases looked : c.lookup dependency with
  | error e => simp [looked] at here
  | ok index =>
      obtain ⟨other, there, named⟩ := handle_of_lookup looked
      simp only [looked, there] at here
      split at here
      · next ready => exact ⟨index, other, there, named, ready⟩
      · cases here

end Controller

namespace Site

theorem known_of_accepted {c : Controller} {d : Descriptor} (accepted : refusal? c d = none) :
    d.name ∉ c.handles.map Handle.name ∧
      ∀ dependency ∈ d.dependsOn, dependency ∈ c.handles.map Handle.name := by
  unfold refusal? at accepted
  split at accepted
  · cases accepted
  · split at accepted
    · cases accepted
    · next fresh =>
        refine ⟨fun mem => fresh (Controller.isSome_lookup.mpr mem), ?_⟩
        split at accepted
        · cases accepted
        · next known =>
            intro dependency mem
            have there := List.find?_eq_none.mp known dependency mem
            refine Controller.isSome_lookup.mp ?_
            cases looked : c.lookup dependency with
            | error e => simp [looked, Except.toOption] at there
            | ok index => rfl

theorem checked_of_planStart {c : Controller} {id : Nat} {name : String} {timeout : Span}
    {params : Params String} (planned : planStart c id = .ok (.go name timeout params)) :
    ∃ handle, c.handles[id]? = some handle ∧ handle.state = .provisioned ∧ handle.name = name ∧
      startupTimeout c handle = timeout ∧ c.checkDependencies id = .ok () := by
  obtain ⟨handle, found, provisioned⟩ := provisioned_of_planStart planned
  refine ⟨handle, found, provisioned, ?_⟩
  simp only [planStart, Controller.handle, found, bind, Except.bind, provisioned] at planned
  split at planned
  · cases planned
  · split at planned
    · cases planned
    · next checked =>
        split at planned <;> cases planned
        exact ⟨rfl, rfl, checked⟩

theorem checked_of_planRun {c : Controller} {id : Nat} {name entryPoint : String}
    {params : Params String} (planned : planRun c id = .ok (name, entryPoint, params)) :
    ∃ handle, c.handles[id]? = some handle ∧ handle.state = .provisioned ∧ handle.name = name ∧
      c.checkDependencies id = .ok () := by
  obtain ⟨handle, found, provisioned⟩ := provisioned_of_planRun planned
  refine ⟨handle, found, provisioned, ?_⟩
  simp only [planRun, Controller.handle, found, bind, Except.bind, provisioned,
    if_true] at planned
  split at planned
  · split at planned
    · cases planned
    · split at planned
      · cases planned
      · next checked =>
          split at planned <;> cases planned
          exact ⟨rfl, checked⟩
  · cases planned

end Site

/-! ## Ledgers -/

structure Ledger where
  plans : List Descriptor
  states : List HandleState
  startOrder : List Nat
  events : List Event

def Controller.ledger (c : Controller) : Ledger :=
  ⟨c.handles.map Handle.descriptor, c.states, c.startOrder, c.events⟩

/-- A service that was never driven is driven, and this is recorded. -/
inductive HandleState.Launches : EventKind → HandleState → Prop
  | starting : Launches .starting .starting
  | running : Launches .running .running

inductive HandleState.Turns : HandleState → EventKind → HandleState → Prop
  | readies : Turns .starting .ready .ready
  | completes : Turns .running .completed .completed
  | fails {before : HandleState} (driven : before = .starting ∨ before = .running) :
      Turns before .startFailed .failed
  | stops {before : HandleState} {kind : EventKind} (active : before ≠ .stopped)
      (ended : kind = .stopped ∨ kind = .forcedStop) : Turns before kind .stopped

namespace Ledger

def names (l : Ledger) : List String := l.plans.map Descriptor.name

/-- The service may join: nobody has its name, and what it depends on is there. -/
def Admits (l : Ledger) (d : Descriptor) : Prop :=
  d.name ∉ l.names ∧ ∀ dependency ∈ d.dependsOn, dependency ∈ l.names

def Ready (l : Ledger) (name : String) : Prop :=
  ∃ (id : Nat) (d : Descriptor), l.plans[id]? = some d ∧ d.name = name ∧
    l.states[id]? = some .ready

def join (l : Ledger) (now : Instant) (d : Descriptor) : Ledger :=
  ⟨l.plans ++ [d], l.states ++ [.provisioned], l.startOrder,
    l.events ++ [⟨d.name, .provisioned, now⟩]⟩

def launch (l : Ledger) (now : Instant) (id : Nat) (name : String) (kind : EventKind)
    (after : HandleState) : Ledger :=
  ⟨l.plans, l.states.set id after, l.startOrder ++ [id], l.events ++ [⟨name, kind, now⟩]⟩

def turn (l : Ledger) (now : Instant) (id : Nat) (name : String) (kind : EventKind)
    (after : HandleState) : Ledger :=
  ⟨l.plans, l.states.set id after, l.startOrder, l.events ++ [⟨name, kind, now⟩]⟩

/-- One entry at most. -/
inductive Step (now : Instant) : Ledger → Ledger → Prop
  | stays (l : Ledger) : Step now l l
  | joins {l : Ledger} {d : Descriptor} (admitted : l.Admits d) : Step now l (l.join now d)
  | launches {l : Ledger} {id : Nat} {d : Descriptor} {kind : EventKind} {after : HandleState}
      (edge : HandleState.Launches kind after) (planned : l.plans[id]? = some d)
      (idle : l.states[id]? = some .provisioned)
      (ready : ∀ dependency ∈ d.dependsOn, l.Ready dependency) :
      Step now l (l.launch now id d.name kind after)
  | turns {l : Ledger} {id : Nat} {d : Descriptor} {before after : HandleState}
      {kind : EventKind} (edge : HandleState.Turns before kind after)
      (planned : l.plans[id]? = some d) (stood : l.states[id]? = some before) :
      Step now l (l.turn now id d.name kind after)

theorem Step.plans_prefix {now : Instant} {l l' : Ledger} (entry : Step now l l') :
    l.plans <+: l'.plans := by
  cases entry with
  | joins admitted => exact List.prefix_append _ _
  | stays | launches | turns => exact List.prefix_rfl

theorem Step.events_prefix {now : Instant} {l l' : Ledger} (entry : Step now l l') :
    l.events <+: l'.events := by
  cases entry with
  | stays => exact List.prefix_rfl
  | joins | launches | turns => exact List.prefix_append _ _

structure Backs (l : Ledger) (w : Option Wait) : Prop where
  starting : ∀ {id : Nat}, w.bind Wait.starts? = some id → l.states[id]? = some .starting
  running : ∀ {id : Nat}, w = some (.run id) → l.states[id]? = some .running
  stopping : ∀ {id : Nat}, w.bind Wait.stops? = some id →
    ∃ state, l.states[id]? = some state ∧ state ≠ .stopped
  placing : ∀ {d : Descriptor}, w.bind Wait.places? = some d → l.Admits d

theorem getElem?_launch_self {l : Ledger} {now : Instant} {id : Nat} {name : String}
    {kind : EventKind} {before after : HandleState} (stood : l.states[id]? = some before) :
    (l.launch now id name kind after).states[id]? = some after := by
  obtain ⟨inside, -⟩ := List.getElem?_eq_some_iff.mp stood
  exact List.getElem?_set_self inside

namespace Backs

variable {l : Ledger} {wait : Wait} {id : Nat} {d : Descriptor}

theorem idle (l : Ledger) : l.Backs none := ⟨nofun, nofun, nofun, nofun⟩

private theorem seeking {count : Nat} (seeks : wait.seeks? = some count)
    (admitted : ∀ d ∈ wait.places?, l.Admits d) : l.Backs (some wait) := by
  cases wait with
  | reservation | placement => exact ⟨nofun, nofun, nofun, fun placed => admitted _ placed⟩
  | materialization | start | probe | pause | run | stop | kill => cases seeks

private theorem materializing (lease : Lease) (admitted : l.Admits d) :
    l.Backs (some (.materialization d lease)) := by
  refine ⟨nofun, nofun, nofun, ?_⟩
  intro placed same
  obtain rfl : d = placed := Option.some.inj same
  exact admitted

private theorem launching (started : wait.starts? = some id)
    (stands : l.states[id]? = some .starting) : l.Backs (some wait) := by
  cases wait with
  | start service | probe service | pause service =>
      obtain rfl : service = id := Option.some.inj started
      refine ⟨?_, nofun, nofun, nofun⟩
      intro other same
      obtain rfl : service = other := Option.some.inj same
      exact stands
  | reservation | placement | materialization | run | stop | kill => cases started

private theorem invoking (stands : l.states[id]? = some .running) : l.Backs (some (.run id)) := by
  refine ⟨nofun, ?_, nofun, nofun⟩
  intro other same
  cases same
  exact stands

private theorem ending {state : HandleState} (stopping : wait.stops? = some id)
    (stands : l.states[id]? = some state) (active : state ≠ .stopped) :
    l.Backs (some wait) := by
  cases wait with
  | stop service | kill service =>
      obtain rfl : service = id := Option.some.inj stopping
      refine ⟨nofun, nofun, ?_, nofun⟩
      intro other same
      obtain rfl : service = other := Option.some.inj same
      exact ⟨state, stands, active⟩
  | reservation | placement | materialization | start | probe | pause | run => cases stopping

end Backs

end Ledger

/-! ## Entries -/

namespace Controller

theorem plans_modifyHandle (c : Controller) (id : Nat) {f : Handle → Handle}
    (same : ∀ handle, (f handle).descriptor = handle.descriptor) :
    (c.modifyHandle id f).handles.map Handle.descriptor = c.handles.map Handle.descriptor := by
  simp only [modifyHandle]
  generalize c.handles = handles
  induction handles generalizing id with
  | nil => simp
  | cons handle rest ih => cases id <;> simp [same, ih]

theorem ledger_modifyHandle (c : Controller) (id : Nat) {f : Handle → Handle}
    {state : HandleState} (same : ∀ handle, (f handle).descriptor = handle.descriptor)
    (becomes : ∀ handle, (f handle).state = state) :
    (c.modifyHandle id f).ledger =
      ⟨c.ledger.plans, c.ledger.states.set id state, c.startOrder, c.events⟩ := by
  have states : (c.modifyHandle id f).states = c.states.set id state := by
    rw [List.set_eq_modify]
    exact c.states_modifyHandle id becomes
  simp only [ledger, plans_modifyHandle c id same, states]
  rfl

theorem ledger_launch (c : Controller) (now : Instant) (id : Nat) (name : String)
    (kind : EventKind) (state : HandleState) (request : Request) :
    ((({ c with startOrder := c.startOrder ++ [id] }.record now name kind).setState id state).ask
        request).ledger = c.ledger.launch now id name kind state := by
  have written := ({ c with startOrder := c.startOrder ++ [id] }.record now name
    kind).ledger_modifyHandle id (f := fun handle => { handle with state }) (fun _ => rfl)
    fun _ => rfl
  exact written

theorem ledger_turn (c : Controller) (now : Instant) (id : Nat) {f : Handle → Handle}
    {state : HandleState} (same : ∀ handle, (f handle).descriptor = handle.descriptor)
    (becomes : ∀ handle, (f handle).state = state) (name : String) (kind : EventKind) :
    ((c.modifyHandle id f).record now name kind).ledger = c.ledger.turn now id name kind state := by
  have written := c.ledger_modifyHandle id same becomes
  simp only [ledger, Ledger.mk.injEq] at written
  simp only [ledger, record, Ledger.turn, Ledger.mk.injEq]
  exact ⟨written.1, written.2.1, rfl, rfl⟩

theorem ledger_observe (c : Controller) (service : Nat) (exposure : Exposure) :
    (c.observe service exposure).ledger = c.ledger := by
  have states : (c.observe service exposure).states = c.states := by
    have kept := c.states_modifyHandle (f := fun handle => { handle with exposure }) (g := id)
      service fun _ => rfl
    rwa [List.modify_id] at kept
  have plans : (c.observe service exposure).handles.map Handle.descriptor =
      c.handles.map Handle.descriptor := c.plans_modifyHandle service fun _ => rfl
  simp only [ledger, plans, states]
  rfl

theorem ledger_dropReservation (s : Site) :
    s.dropReservation.controller.ledger = s.controller.ledger := by
  unfold Site.dropReservation
  split <;> rfl

private theorem ledger_drop (s : Site) : s.drop.controller.ledger = s.controller.ledger := by
  simp [Site.drop_eq, ledger, states]

theorem plan_of_handle {c : Controller} {id : Nat} {handle : Handle}
    (found : c.handles[id]? = some handle) :
    c.ledger.plans[id]? = some handle.descriptor := by
  simp [ledger, found]

theorem names_ledger (c : Controller) : c.ledger.names = c.handles.map Handle.name := by
  simp [Ledger.names, ledger, Handle.name]

private theorem admits_of_accepted {c : Controller} {d : Descriptor}
    (accepted : Site.refusal? c d = none) : c.ledger.Admits d := by
  have known := Site.known_of_accepted accepted
  rwa [← names_ledger] at known

private theorem ready_ledger {c : Controller} {id : Nat} {handle : Handle}
    (found : c.handles[id]? = some handle) (checked : c.checkDependencies id = .ok ()) :
    ∀ dependency ∈ handle.descriptor.dependsOn, c.ledger.Ready dependency := by
  intro dependency mem
  obtain ⟨index, other, there, named, ready⟩ :=
    ready_of_checkDependencies found checked dependency mem
  refine ⟨index, other.descriptor, plan_of_handle there, named, ?_⟩
  have stands := getElem?_states there
  rwa [ready] at stands

end Controller

namespace Ledger

variable {now : Instant} {ticket : Nat} {w w' : Option Wait} {s s' : Site}

private theorem turns_of_handle {c : Controller} {id : Nat} {handle : Handle}
    {before after : HandleState} {kind : EventKind} {f : Handle → Handle}
    (edge : HandleState.Turns before kind after) (found : c.handles[id]? = some handle)
    (stood : c.ledger.states[id]? = some before)
    (same : ∀ handle, (f handle).descriptor = handle.descriptor)
    (becomes : ∀ handle, (f handle).state = after) :
    Step now c.ledger ((c.modifyHandle id f).record now handle.name kind).ledger := by
  have entry : Step now c.ledger _ := .turns edge (Controller.plan_of_handle found) stood
  rwa [← c.ledger_turn now id same becomes] at entry

private theorem launches_of_handle {c : Controller} {id : Nat} {handle : Handle}
    {after : HandleState}
    {kind : EventKind} (now : Instant) (edge : HandleState.Launches kind after)
    (found : c.handles[id]? = some handle) (idle : handle.state = .provisioned)
    (checked : c.checkDependencies id = .ok ()) :
    Step now c.ledger (c.ledger.launch now id handle.name kind after) ∧
      (c.ledger.launch now id handle.name kind after).states[id]? = some after := by
  have stood : c.ledger.states[id]? = some .provisioned := by
    have stands := Controller.getElem?_states found
    rwa [idle] at stands
  refine ⟨?_, getElem?_launch_self stood⟩
  exact .launches edge (Controller.plan_of_handle found) stood
    (Controller.ready_ledger found checked)

/-- A leg writes at most one entry, and the ledger backs what is waited for next. -/
theorem step_of_moves (backs : s.controller.ledger.Backs w)
    (moves : Site.Moves now ticket w s w' s') :
    Step now s.controller.ledger s'.controller.ledger ∧ s'.controller.ledger.Backs w' := by
  cases moves with
  | stays => exact ⟨.stays _, backs⟩
  | misses | givesUp | declines => exact ⟨.stays _, .idle _⟩
  | reserves before granted => exact ⟨.stays _, .idle _⟩
  | @queues _ wait count s before after same accepted =>
      refine ⟨.stays _, .seeking after ?_⟩
      intro d placed
      cases w with
      | none => exact Controller.admits_of_accepted (accepted rfl d placed)
      | some x =>
          obtain rfl : x = wait := same x rfl
          exact backs.placing placed
  | @places _ d s lease pool before granted accepted =>
      refine ⟨.stays _, .materializing lease ?_⟩
      cases w with
      | none => exact Controller.admits_of_accepted (accepted rfl)
      | some x =>
          obtain ⟨deadline, rfl⟩ := before x rfl
          exact backs.placing rfl
  | @draws d s drawn lease accepted taken =>
      have admitted := Controller.admits_of_accepted accepted
      obtain ⟨held, rest, -, -, rfl⟩ := Site.drawReserved_eq_some taken
      exact ⟨.stays _, .materializing lease admitted⟩
  | adopts d lease exposure =>
      have joined : (s.adopt now d lease exposure).2.controller.ledger =
          s.controller.ledger.join now d := by
        simp [Site.adopt, Site.modify, Controller.ledger, Controller.states, Controller.record,
          Handle.fresh, join]
      rw [joined]
      exact ⟨.joins (backs.placing rfl), .idle _⟩
  | @starts id name timeout params s deadline planned =>
      obtain ⟨handle, found, idle, rfl, -, checked⟩ := Site.checked_of_planStart planned
      obtain ⟨entry, stands⟩ := launches_of_handle now .starting found idle checked
      rw [← Controller.ledger_launch s.controller now id _ _ _ (.start id params)] at entry stands
      exact ⟨entry, .launching rfl stands⟩
  | @breaks id name timeout params s planned =>
      obtain ⟨handle, found, idle, rfl, -, checked⟩ := Site.checked_of_planStart planned
      obtain ⟨entry, -⟩ := launches_of_handle now .starting found idle checked
      rw [← Controller.ledger_launch s.controller now id _ _ _ (.start id params)] at entry
      exact ⟨entry, .idle _⟩
  | probes deadline started => exact ⟨.stays _, .launching rfl (backs.starting started)⟩
  | pauses => exact ⟨.stays _, .launching rfl (backs.starting rfl)⟩
  | lapses => exact ⟨.stays _, .idle _⟩
  | readies found =>
      refine ⟨?_, .idle _⟩
      exact turns_of_handle .readies found (backs.starting rfl) (fun _ => rfl) fun _ => rfl
  | @runs id name entryPoint params s planned =>
      obtain ⟨handle, found, idle, rfl, checked⟩ := Site.checked_of_planRun planned
      obtain ⟨entry, stands⟩ := launches_of_handle now .running found idle checked
      rw [← Controller.ledger_launch s.controller now id _ _ _
        (.run id entryPoint params)] at entry stands
      exact ⟨entry, .invoking stands⟩
  | completes found =>
      refine ⟨?_, .idle _⟩
      exact turns_of_handle .completes found (backs.running rfl) (fun _ => rfl) fun _ => rfl
  | fails driven found =>
      refine ⟨?_, .idle _⟩
      rcases driven with started | rfl
      · exact turns_of_handle (.fails (.inl rfl)) found (backs.starting started) (fun _ => rfl)
          fun _ => rfl
      · exact turns_of_handle (.fails (.inr rfl)) found (backs.running rfl) (fun _ => rfl)
          fun _ => rfl
  | stops deadline found active =>
      exact ⟨.stays _, .ending rfl (Controller.getElem?_states found) active⟩
  | kills id deadline later problem =>
      obtain ⟨state, stands, active⟩ := backs.stopping rfl
      exact ⟨.stays _, .ending rfl stands active⟩
  | releases problem stopping found =>
      refine ⟨?_, .idle _⟩
      obtain ⟨state, stands, active⟩ := backs.stopping stopping
      refine turns_of_handle (.stops active ?_) found stands (fun _ => rfl) fun _ => rfl
      cases problem with
      | none => exact .inl rfl
      | some text => exact .inr rfl

theorem lasting {P : Ledger → Prop}
    (kept : ∀ {now : Instant} {l l' : Ledger}, Step now l l' → P l → P l') :
    Site.Lasting fun s w => s.controller.ledger.Backs w ∧ P s.controller.ledger where
  moves moves h := by
    obtain ⟨entry, backs⟩ := step_of_moves h.1 moves
    exact ⟨backs, kept entry h.2⟩
  dropReservation {s} h := by
    rw [Controller.ledger_dropReservation]
    exact h
  drop {s} h := by
    rw [Controller.ledger_drop]
    exact h
  observe service exposure h := by
    rw [← Controller.ledger_observe _ service exposure] at h
    exact h

end Ledger

namespace Duty

theorem ledger_keeps {P : Ledger → Prop}
    (kept : ∀ {now : Instant} {l l' : Ledger}, Ledger.Step now l l' → P l → P l') {d : Duty}
    (backs : d.controller.ledger.Backs d.wait?) (h : P d.controller.ledger)
    (moves : List DutyMove) :
    (d.run moves).controller.ledger.Backs (d.run moves).wait? ∧
      P (d.run moves).controller.ledger :=
  run_keeps (K := fun c w => c.ledger.Backs w ∧ P c.ledger) (Ledger.lasting kept)
    (fun h => ⟨.idle _, h.2⟩) ⟨backs, h⟩ moves

end Duty

end Interop
