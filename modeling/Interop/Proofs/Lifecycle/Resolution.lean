import Interop.Proofs.Lifecycle.Careers
import Interop.Proofs.Lifecycle.Teardown

/-!
# What a service is launched with

A descriptor is checked before its service joins, and a service joins after everything that its
descriptor names.  So when a service is to be launched, every name in its descriptor is found,
its parameters name declared dependencies only, and these are looked up once they are ready.
Nothing is left that can go wrong but a dependency that is not ready or that shows no endpoint.
-/

namespace Interop

/-! ## Descriptors -/

namespace Descriptor

variable {d : Descriptor}

theorem sound_of_validate (valid : d.validate = .ok ()) :
    (d.mode = .invokedDirectly → ∃ entryPoint, d.entryPoint = some entryPoint) ∧
      ∀ {key target : String}, (key, .endpointOf target) ∈ d.params → target ∈ d.dependsOn := by
  have sound : d.defect? = none := by
    unfold validate at valid
    split at valid
    · cases valid
    · assumption
  unfold defect? at sound
  split_ifs at sound with unnamed empty missing circular stray
  refine ⟨?_, ?_⟩
  · intro direct
    exact Option.ne_none_iff_exists'.mp fun absent => missing ⟨direct, absent⟩
  · intro key target mem
    by_contra undeclared
    exact stray (List.any_eq_true.mpr ⟨_, mem, by simpa using undeclared⟩)

end Descriptor

private theorem Site.validate_of_accepted {c : Controller} {d : Descriptor}
    (accepted : Site.refusal? c d = none) : d.validate = .ok () := by
  unfold Site.refusal? at accepted
  split at accepted
  · cases accepted
  · assumption

namespace Controller

def Vetted (c : Controller) (w : Option Wait) : Prop :=
  ∀ d ∈ c.handles.map Handle.descriptor ++ (w.bind Wait.places?).toList, d.validate = .ok ()

namespace Vetted

variable {now : Instant} {ticket : Nat} {c c' : Controller} {w w' : Option Wait}

theorem still (h : Vetted c w)
    (plans : c'.handles.map Handle.descriptor = c.handles.map Handle.descriptor)
    (places : ∀ d ∈ w'.bind Wait.places?, w.bind Wait.places? = some d ∨ d.validate = .ok ()) :
    Vetted c' w' := by
  intro d mem
  rw [plans] at mem
  rcases List.mem_append.mp mem with mem | placed
  · exact h d (List.mem_append_left _ mem)
  · rcases places d (Option.mem_toList.mp placed) with before | valid
    · exact h d (List.mem_append_right _ (Option.mem_toList.mpr before))
    · exact valid

theorem settle (h : Vetted c w)
    (plans : c'.handles.map Handle.descriptor = c.handles.map Handle.descriptor)
    (settled : w'.bind Wait.places? = none) : Vetted c' w' := by
  refine h.still plans fun d placed => ?_
  rw [settled] at placed
  exact absurd placed (Option.not_mem_none d)

private theorem moves {s s' : Site} (h : Vetted s.controller w)
    (moves : Site.Moves now ticket w s w' s') : Vetted s'.controller w' := by
  cases moves with
  | stays => exact h
  | misses | reserves | givesUp | declines => exact h.settle rfl rfl
  | @queues _ wait count s before after same accepted =>
      refine h.still rfl ?_
      intro d placed
      cases w with
      | none => exact .inr (Site.validate_of_accepted (accepted rfl d placed))
      | some x =>
          obtain rfl : x = wait := same x rfl
          exact .inl placed
  | @places _ d s lease pool before granted accepted =>
      refine h.still rfl ?_
      intro placed same
      obtain rfl : d = placed := Option.some.inj same
      cases w with
      | none => exact .inr (Site.validate_of_accepted (accepted rfl))
      | some x =>
          obtain ⟨deadline, rfl⟩ := before x rfl
          exact .inl rfl
  | @draws d s drawn lease accepted taken =>
      obtain ⟨held, rest, -, -, rfl⟩ := Site.drawReserved_eq_some taken
      refine h.still rfl ?_
      intro placed same
      obtain rfl : d = placed := Option.some.inj same
      exact .inr (Site.validate_of_accepted accepted)
  | adopts d lease exposure =>
      intro e mem
      refine h e ?_
      simpa [Site.adopt, Site.modify, Handle.fresh, Wait.places?] using mem
  | starts | breaks | runs => exact h.settle (plans_modifyHandle _ _ fun _ => rfl) rfl
  | probes | pauses | lapses | stops | kills => exact h.settle rfl rfl
  | readies | completes | fails | releases =>
      exact h.settle (plans_modifyHandle _ _ fun _ => rfl) rfl

private theorem lasting : Site.Lasting fun s w => Vetted s.controller w where
  moves moves h := h.moves moves
  dropReservation {s} h := by
    refine h.settle ?_ rfl
    rw [Site.dropReservation_handles]
  drop {s} h := by
    refine h.settle ?_ rfl
    simp [Site.drop_eq]
  observe service exposure h :=
    h.still (plans_modifyHandle _ service fun _ => rfl) fun d placed => .inl placed

end Vetted

/-! ## What a launch may rely on -/

/-- What holds of a controller at every time: names are used once, dependencies come first, and
every descriptor was checked. -/
structure Sound (c : Controller) : Prop where
  faithful : c.ledger.Faithful
  ordered : c.ledger.Ordered
  checked : ∀ handle ∈ c.handles, handle.descriptor.validate = .ok ()

/-- The text that a parameter has at the moment: its own, or the address of the first endpoint
of the named service, which is ready. -/
inductive Yields (c : Controller) : ParamValue → String → Prop
  | literal (text : String) : Yields c (.literal text) text
  | endpoint {index : Nat} {other : Handle} {endpoint : Endpoint} {rest : List Endpoint}
      (found : c.handles[index]? = some other) (ready : other.state = .ready)
      (exposed : other.exposure.endpoints = endpoint :: rest) :
      Yields c (.endpointOf other.name) s!"{endpoint.host}:{endpoint.port}"

/-- The texts given are those of the descriptor's parameters, key by key. -/
def Supplies (c : Controller) (d : Descriptor) (given : Params String) : Prop :=
  List.Forall₂ (fun param text => text.1 = param.1 ∧ c.Yields param.2 text.2) d.params given

/-- Why a service cannot be launched at the moment. -/
inductive Hinders (c : Controller) (handle : Handle) : LifecycleError → Prop
  | unready {index : Nat} {other : Handle} (needed : other.name ∈ handle.descriptor.dependsOn)
      (found : c.handles[index]? = some other) (waits : other.state ≠ .ready) :
      Hinders c handle (.dependencyNotReady handle.name other.name)
  | mute {index : Nat} {other : Handle} {key : String}
      (asked : (key, .endpointOf other.name) ∈ handle.descriptor.params)
      (found : c.handles[index]? = some other) (ready : other.state = .ready)
      (silent : other.exposure.endpoints = []) :
      Hinders c handle (.collaborator other.name "service exposes no endpoints")

variable {c : Controller} {id : Nat} {handle : Handle}

theorem handle_of_plan {d : Descriptor} (planned : c.ledger.plans[id]? = some d) :
    ∃ handle, c.handles[id]? = some handle ∧ handle.descriptor = d := by
  simpa [ledger] using planned

private theorem forM_cases {α ε : Type} {f : α → Except ε Unit} {P : ε → Prop} {as : List α}
    (each : ∀ a ∈ as, f a = .ok () ∨ ∃ e, f a = .error e ∧ P e) :
    as.forM f = .ok () ∨ ∃ e, as.forM f = .error e ∧ P e := by
  induction as with
  | nil => exact .inl rfl
  | cons a rest ih =>
      rcases each a List.mem_cons_self with first | ⟨e, first, why⟩
      · have later : (a :: rest).forM f = rest.forM f := by simp [first, bind, Except.bind]
        rw [later]
        exact ih fun b mem => each b (List.mem_cons_of_mem a mem)
      · refine .inr ⟨e, ?_, why⟩
        simp [first, bind, Except.bind]

private theorem mapM_cases {α β ε : Type} {f : α → Except ε β} {P : ε → Prop} {R : α → β → Prop}
    {as : List α} (each : ∀ a ∈ as, (∃ b, f a = .ok b ∧ R a b) ∨ ∃ e, f a = .error e ∧ P e) :
    (∃ bs, as.mapM f = .ok bs ∧ List.Forall₂ R as bs) ∨ ∃ e, as.mapM f = .error e ∧ P e := by
  induction as with
  | nil => exact .inl ⟨[], rfl, .nil⟩
  | cons a rest ih =>
      rcases each a List.mem_cons_self with ⟨b, first, gives⟩ | ⟨e, first, why⟩
      · rcases ih fun a' mem => each a' (List.mem_cons_of_mem a mem) with
          ⟨bs, done, give⟩ | ⟨e, failed, why⟩
        · refine .inl ⟨b :: bs, ?_, .cons gives give⟩
          simp [List.mapM_cons, first, done, bind, Except.bind, pure, Except.pure]
        · refine .inr ⟨e, ?_, why⟩
          simp [List.mapM_cons, first, failed, bind, Except.bind]
      · refine .inr ⟨e, ?_, why⟩
        simp [List.mapM_cons, first, bind, Except.bind]

namespace Sound

theorem lookup (sound : c.Sound) (found : c.handles[id]? = some handle) :
    c.lookup handle.name = .ok id := by
  have known := isSome_lookup.mpr (List.mem_map_of_mem (f := Handle.name)
    (List.mem_of_getElem? found))
  cases looked : c.lookup handle.name with
  | error e => simp [looked, Except.toOption] at known
  | ok index =>
      obtain ⟨other, there, same⟩ := handle_of_lookup looked
      rw [sound.faithful.index_eq (plan_of_handle there) (plan_of_handle found) same]

theorem lookup_dependency (sound : c.Sound) (found : c.handles[id]? = some handle)
    {dependency : String} (needed : dependency ∈ handle.descriptor.dependsOn) :
    ∃ index < id, ∃ other, c.handles[index]? = some other ∧ other.name = dependency ∧
      c.lookup dependency = .ok index := by
  obtain ⟨index, before, plan, planned, named⟩ :=
    sound.ordered.founded (plan_of_handle found) needed
  obtain ⟨other, there, rfl⟩ := handle_of_plan planned
  refine ⟨index, before, other, there, named, ?_⟩
  rw [← named]
  exact sound.lookup there

theorem checkDependencies_cases (sound : c.Sound) (found : c.handles[id]? = some handle) :
    c.checkDependencies id = .ok () ∨
      ∃ e, c.checkDependencies id = .error e ∧ c.Hinders handle e := by
  simp only [checkDependencies, Controller.handle, found]
  refine forM_cases ?_
  intro dependency needed
  obtain ⟨index, -, other, there, rfl, looked⟩ := sound.lookup_dependency found needed
  simp only [looked, there, bind, Except.bind]
  by_cases ready : other.state = .ready
  · exact .inl (if_pos ready)
  · exact .inr ⟨_, if_neg ready, .unready needed there ready⟩

/-- Once the dependencies are ready, a parameter fails only for want of an endpoint. -/
theorem resolveParam_cases (sound : c.Sound) (found : c.handles[id]? = some handle)
    (checked : c.checkDependencies id = .ok ()) {param : String × ParamValue}
    (mem : param ∈ handle.descriptor.params) :
    (∃ text, c.resolveParam param.2 = .ok text ∧ c.Yields param.2 text) ∨
      ∃ e, c.resolveParam param.2 = .error e ∧ c.Hinders handle e := by
  obtain ⟨key, value⟩ := param
  cases value with
  | literal text => exact .inl ⟨text, rfl, .literal text⟩
  | endpointOf target =>
      have valid := sound.checked handle (List.mem_of_getElem? found)
      have declared := (Descriptor.sound_of_validate valid).2 mem
      obtain ⟨index, other, there, rfl, ready⟩ :=
        ready_of_checkDependencies found checked target declared
      have resolved : c.resolveParam (.endpointOf other.name) =
          (c.resolveEndpoint index).map Endpoint.text := by
        simp only [resolveParam, sound.lookup there, bind, Except.bind, Except.map]
        split <;> simp_all [pure, Except.pure]
      rw [resolved]
      cases exposed : other.exposure.endpoints with
      | nil =>
          refine .inr ⟨_, ?_, .mute mem there ready exposed⟩
          simp [resolveEndpoint, resolveEndpoints, Controller.handle, there, ready, exposed, bind,
            Except.bind, Except.map]
      | cons endpoint rest =>
          refine .inl ⟨_, ?_, .endpoint there ready exposed⟩
          simp [resolveEndpoint, resolveEndpoints, Controller.handle, there, ready, exposed, bind,
            Except.bind, Except.map, Endpoint.text]

theorem resolveParams_cases (sound : c.Sound) (found : c.handles[id]? = some handle)
    (checked : c.checkDependencies id = .ok ()) :
    (∃ params, c.resolveParams id = .ok params ∧ c.Supplies handle.descriptor params) ∨
      ∃ e, c.resolveParams id = .error e ∧ c.Hinders handle e := by
  simp only [resolveParams, Controller.handle, found]
  refine mapM_cases ?_
  intro param mem
  rcases sound.resolveParam_cases found checked mem with
    ⟨text, resolved, yields⟩ | ⟨e, failed, hinders⟩
  · exact .inl ⟨(param.1, text), by rw [resolved]; rfl, rfl, yields⟩
  · exact .inr ⟨e, by rw [failed]; rfl, hinders⟩

theorem planStart_cases (sound : c.Sound) (found : c.handles[id]? = some handle)
    (idle : handle.state = .provisioned) (mode : handle.descriptor.mode = .preStarted) :
    (∃ params, Site.planStart c id =
        .ok (.go handle.name (Site.startupTimeout c handle) params) ∧
        c.Supplies handle.descriptor params) ∨
      ∃ e, Site.planStart c id = .error e ∧ c.Hinders handle e := by
  have unfolded : Site.planStart c id = (c.checkDependencies id >>= fun _ =>
      c.resolveParams id >>= fun params =>
        .ok (.go handle.name (Site.startupTimeout c handle) params)) := by
    simp only [Site.planStart, Controller.handle, found, bind, Except.bind, idle, mode]
    rfl
  rw [unfolded]
  rcases sound.checkDependencies_cases found with checked | ⟨e, failed, hinders⟩
  · rcases sound.resolveParams_cases found checked with
      ⟨params, resolved, supplies⟩ | ⟨e, failed, hinders⟩
    · exact .inl ⟨params, by rw [checked, resolved]; rfl, supplies⟩
    · exact .inr ⟨e, by rw [checked, failed]; rfl, hinders⟩
  · exact .inr ⟨e, by rw [failed]; rfl, hinders⟩

theorem planRun_cases (sound : c.Sound) (found : c.handles[id]? = some handle)
    (idle : handle.state = .provisioned) (mode : handle.descriptor.mode = .invokedDirectly) :
    (∃ entryPoint params, handle.descriptor.entryPoint = some entryPoint ∧
        Site.planRun c id = .ok (handle.name, entryPoint, params) ∧
        c.Supplies handle.descriptor params) ∨
      ∃ e, Site.planRun c id = .error e ∧ c.Hinders handle e := by
  have valid := sound.checked handle (List.mem_of_getElem? found)
  obtain ⟨entryPoint, entry⟩ := (Descriptor.sound_of_validate valid).1 mode
  have unfolded : Site.planRun c id = (c.checkDependencies id >>= fun _ =>
      c.resolveParams id >>= fun params => .ok (handle.name, entryPoint, params)) := by
    simp only [Site.planRun, Controller.handle, found, bind, Except.bind, idle, mode, entry]
    rfl
  rw [unfolded]
  rcases sound.checkDependencies_cases found with checked | ⟨e, failed, hinders⟩
  · rcases sound.resolveParams_cases found checked with
      ⟨params, resolved, supplies⟩ | ⟨e, failed, hinders⟩
    · exact .inl ⟨entryPoint, params, entry, by rw [checked, resolved]; rfl, supplies⟩
    · exact .inr ⟨e, by rw [checked, failed]; rfl, hinders⟩
  · exact .inr ⟨e, by rw [failed]; rfl, hinders⟩

private theorem supplies_of_planStart (sound : c.Sound) {name : String} {timeout : Span}
    {params : Params String} (planned : Site.planStart c id = .ok (.go name timeout params)) :
    ∃ handle, c.handles[id]? = some handle ∧ handle.state = .provisioned ∧
      handle.descriptor.mode = .preStarted ∧ c.Supplies handle.descriptor params := by
  obtain ⟨handle, found, idle⟩ := Site.provisioned_of_planStart planned
  refine ⟨handle, found, idle, ?_⟩
  cases mode : handle.descriptor.mode with
  | preStarted =>
      rcases sound.planStart_cases found idle mode with
        ⟨params', planned', supplied⟩ | ⟨e, failed, -⟩
      · cases planned.symm.trans planned'
        exact ⟨rfl, supplied⟩
      · cases planned.symm.trans failed
  | invokedDirectly =>
      simp [Site.planStart, Controller.handle, found, bind, Except.bind, idle, mode] at planned

private theorem supplies_of_planRun (sound : c.Sound) {name entryPoint : String}
    {params : Params String} (planned : Site.planRun c id = .ok (name, entryPoint, params)) :
    ∃ handle, c.handles[id]? = some handle ∧ handle.state = .provisioned ∧
      handle.descriptor.mode = .invokedDirectly ∧
      handle.descriptor.entryPoint = some entryPoint ∧ c.Supplies handle.descriptor params := by
  obtain ⟨handle, found, idle⟩ := Site.provisioned_of_planRun planned
  refine ⟨handle, found, idle, ?_⟩
  cases mode : handle.descriptor.mode with
  | preStarted =>
      simp [Site.planRun, Controller.handle, found, bind, Except.bind, idle, mode] at planned
  | invokedDirectly =>
      rcases sound.planRun_cases found idle mode with
        ⟨entryPoint', params', entry, planned', supplied⟩ | ⟨e, failed, -⟩
      · cases planned.symm.trans planned'
        exact ⟨rfl, entry, supplied⟩
      · cases planned.symm.trans failed

end Sound

/-! ## Requests -/

/-- The requests to start or to run a service, newest first. -/
def launchRequests (c : Controller) : List Request :=
  c.requests.filter fun request => request.launches?.isSome

/-- A request to launch a service in the way of its descriptor, with what its parameters come to
at the moment. -/
inductive Serves (c : Controller) : Request → Prop
  | start {id : Nat} {handle : Handle} {params : Params String}
      (found : c.handles[id]? = some handle) (mode : handle.descriptor.mode = .preStarted)
      (supplied : c.Supplies handle.descriptor params) : Serves c (.start id params)
  | run {id : Nat} {handle : Handle} {entryPoint : String} {params : Params String}
      (found : c.handles[id]? = some handle) (mode : handle.descriptor.mode = .invokedDirectly)
      (entry : handle.descriptor.entryPoint = some entryPoint)
      (supplied : c.Supplies handle.descriptor params) : Serves c (.run id entryPoint params)

/-- Nothing was launched since those requests, or one service was and now drives the wait. -/
def Launches (asked : List Request) (c : Controller) (w : Option Wait) : Prop :=
  c.launchRequests = asked ∨
    w.isSome = true ∧ ∃ request, c.launchRequests = request :: asked ∧ c.Serves request

private theorem Supplies.mono {c' : Controller} {d : Descriptor} {given : Params String}
    (h : c.Supplies d given)
    (kept : ∀ {index : Nat} {other : Handle}, c.handles[index]? = some other →
      other.state = .ready → c'.handles[index]? = some other) : c'.Supplies d given := by
  refine List.Forall₂.imp ?_ h
  rintro param text ⟨same, yields⟩
  refine ⟨same, ?_⟩
  generalize param.2 = value at yields
  generalize text.2 = result at yields
  cases yields with
  | literal => exact .literal _
  | endpoint found ready exposed => exact .endpoint (kept found ready) ready exposed

theorem Supplies.yields {d : Descriptor} {given : Params String} (h : c.Supplies d given)
    {param : String × ParamValue} (mem : param ∈ d.params) : ∃ text, c.Yields param.2 text := by
  unfold Supplies at h
  generalize d.params = params at h mem
  induction h with
  | nil => cases mem
  | cons first _ ih =>
      rcases List.mem_cons.mp mem with rfl | mem
      · exact ⟨_, first.2⟩
      · exact ih mem

theorem getElem?_setState (found : c.handles[id]? = some handle) (state : HandleState) :
    (c.setState id state).handles[id]? = some { handle with state } :=
  (getElem?_modifyHandle c id id _).trans (by simp [found])

theorem getElem?_of_launched {c' : Controller} {state : HandleState}
    (launched : c'.handles = (c.setState id state).handles)
    (found : c.handles[id]? = some handle) (idle : handle.state = .provisioned) {index : Nat}
    {other : Handle} (there : c.handles[index]? = some other) (ready : other.state = .ready) :
    c'.handles[index]? = some other := by
  have apart : id ≠ index := by
    rintro rfl
    obtain rfl := Option.some.inj (found.symm.trans there)
    cases idle.symm.trans ready
  simp [launched, setState, there, apart]

private theorem Supplies.launch {c' : Controller} {d : Descriptor} {given : Params String}
    (h : c.Supplies d given) (found : c.handles[id]? = some handle)
    (idle : handle.state = .provisioned) {state : HandleState}
    (launched : c'.handles = (c.setState id state).handles) : c'.Supplies d given :=
  h.mono fun there ready => getElem?_of_launched launched found idle there ready

def Kept (c : Controller) (w : Option Wait) : Prop :=
  (c.ledger.Backs w ∧ c.ledger.Faithful ∧ c.ledger.Ordered) ∧ c.Vetted w

theorem Kept.sound {w : Option Wait} (h : c.Kept w) : c.Sound := by
  refine ⟨h.1.2.1, h.1.2.2, ?_⟩
  intro handle mem
  exact h.2 _ (List.mem_append_left _ (List.mem_map_of_mem mem))

theorem Kept.idle {w : Option Wait} (h : c.Kept w) : c.Kept none :=
  ⟨⟨.idle _, h.1.2⟩, h.2.settle rfl rfl⟩

end Controller

namespace Site

private theorem Lasting.and {J J' : Site → Option Wait → Prop} (h : Lasting J) (h' : Lasting J') :
    Lasting fun s w => J s w ∧ J' s w where
  moves moves kept := ⟨h.moves moves kept.1, h'.moves moves kept.2⟩
  dropReservation kept := ⟨h.dropReservation kept.1, h'.dropReservation kept.2⟩
  drop kept := ⟨h.drop kept.1, h'.drop kept.2⟩
  observe service exposure kept :=
    ⟨h.observe service exposure kept.1, h'.observe service exposure kept.2⟩

theorem lasting_kept : Lasting fun s w => s.controller.Kept w :=
  (Ledger.lasting Ledger.Ordered.step).and Controller.Vetted.lasting

variable {now : Instant} {ticket : Nat} {s s' : Site} {w w' : Option Wait}

theorem launches_of_moves (kept : s.controller.Kept w) (moves : Moves now ticket w s w' s') :
    s'.controller.Launches s.controller.launchRequests w' := by
  cases moves with
  | stays | misses | queues | reserves | places | givesUp | adopts | declines | breaks | probes
  | pauses | lapses | readies | completes | fails | stops | kills | releases => exact .inl rfl
  | draws accepted taken =>
      obtain ⟨held, rest, -, -, rfl⟩ := drawReserved_eq_some taken
      exact .inl rfl
  | @starts id name timeout params s deadline planned =>
      obtain ⟨handle, found, idle, mode, supplied⟩ := kept.sound.supplies_of_planStart planned
      refine .inr ⟨rfl, .start id params, rfl, ?_⟩
      have there := Controller.getElem?_setState found .starting
      exact .start there mode (supplied.launch found idle rfl)
  | @runs id name entryPoint params s planned =>
      obtain ⟨handle, found, idle, mode, entry, supplied⟩ :=
        kept.sound.supplies_of_planRun planned
      refine .inr ⟨rfl, .run id entryPoint params, rfl, ?_⟩
      have there := Controller.getElem?_setState found .running
      exact .run there mode entry (supplied.launch found idle rfl)

theorem startFrom_launches (kept : s.controller.Kept none) (now : Instant) (next : Nat)
    (signals : List ReadySignal) :
    (s.startFrom now next signals).2.controller.Launches s.controller.launchRequests
      (s.startFrom now next signals).1.wait? := by
  unfold startFrom
  split
  · exact .inl rfl
  · next id _ =>
      have led := launches_of_moves kept (start_leads now 0 id s)
      split <;> next same => rw [same] at led; exact led

theorem teardownFrom_launches (now : Instant) (warnings : List Warning) (order : List Nat)
    (s : Site) :
    (s.teardownFrom now warnings order).2.controller.Launches s.controller.launchRequests
      (s.teardownFrom now warnings order).1.wait? := by
  rcases teardownFrom_cases now warnings order s with
    ⟨-, later, led⟩ | ⟨id, rest, later, deadline, -, -, -, led⟩
  · rw [led]
    refine .inl ?_
    unfold dropReservation
    split <;> rfl
  · rw [led]
    exact .inl rfl

/-- Where a leg has led, a launch is what the operation now waits for; so nothing follows it. -/
theorem follow_launches {asked : List Request} {leg : Leg} (kept : s.controller.Kept leg.wait?)
    (h : s.controller.Launches asked leg.wait?) (now : Instant) (goal : Goal) :
    (follow now goal leg s).2.controller.Launches asked (follow now goal leg s).1.wait? := by
  cases leg with
  | waits wait => exact h
  | ends completion =>
      rcases h with same | ⟨driving, -⟩
      · unfold follow
        rw [← same]
        split
        · next contra => cases contra
        · split
          · exact startFrom_launches kept now _ _
          · exact .inl rfl
          · exact teardownFrom_launches now _ _ _
          · exact .inl rfl
      · cases driving

private theorem issue_launches (kept : s.controller.Kept none) (now : Instant) (ticket : Nat)
    (command : Command) :
    (s.issue now ticket command).2.controller.Launches s.controller.launchRequests
      (s.issue now ticket command).1.wait? := by
  have led : ∀ {r : Leg × Site}, Leads now ticket none s r →
      (follow now .alone r.1 r.2).2.controller.Launches s.controller.launchRequests
        (follow now .alone r.1 r.2).1.wait? := by
    intro r leads
    exact follow_launches (lasting_kept.moves leads kept) (launches_of_moves kept leads) now .alone
  cases command with
  | startAll => exact startFrom_launches kept now 0 []
  | teardown => exact teardownFrom_launches now [] _ s
  | reserve count => exact led (reserve_leads now ticket count s)
  | provision d => exact led (provision_leads now ticket d s)
  | start id => exact led (start_leads now ticket id s)
  | run id => exact led (run_leads now ticket id s)
  | stop id => exact led (stop_leads now ticket id s)

private theorem resume_launches {operation : Operation} (kept : s.controller.Kept operation.wait)
    (now : Instant) (ticket : Nat) (answer : Answer) :
    (s.resume now ticket operation answer).2.controller.Launches s.controller.launchRequests
      (s.resume now ticket operation answer).1.wait? := by
  have leads := continueWith_leads now ticket operation.wait answer s
  exact follow_launches (lasting_kept.moves leads kept) (launches_of_moves kept leads) now
    operation.goal

theorem preStarted_of_nextPreStarted {c : Controller} {start id : Nat}
    (first : nextPreStarted c start = some id) :
    start ≤ id ∧ ∃ handle, c.handles[id]? = some handle ∧
      handle.descriptor.mode = .preStarted ∧ handle.state = .provisioned := by
  obtain ⟨later, handle, there, eligible⟩ := Controller.getElem?_of_positionFrom first
  rw [List.getElem?_drop, Nat.add_sub_cancel' later] at there
  exact ⟨later, handle, there, by simpa using eligible⟩

/-- When the services are not started although some are left, something hinders the next one. -/
theorem hinders_of_startFrom (sound : s.controller.Sound) {now : Instant} {next : Nat}
    {signals : List ReadySignal} {e : LifecycleError}
    (failed : (s.startFrom now next signals).1 = .finished (.startedAll (.error e))) :
    (s.startFrom now next signals).2 = s ∧
      ∃ (id : Nat) (handle : Handle), s.controller.handles[id]? = some handle ∧
        handle.descriptor.mode = .preStarted ∧ handle.state = .provisioned ∧
        s.controller.Hinders handle e := by
  cases first : nextPreStarted s.controller next with
  | none =>
      simp only [startFrom, first] at failed
      cases failed
  | some id =>
      obtain ⟨-, handle, found, mode, idle⟩ := preStarted_of_nextPreStarted first
      rcases sound.planStart_cases found idle mode with ⟨params, planned, -⟩ | ⟨e', planned, why⟩
      · cases time : (startupTimeout s.controller handle).after?
            s.controller.settings.horizon now with
        | none =>
            simp only [startFrom, first, start_of_late planned time] at failed
            cases failed
        | some deadline =>
            simp only [startFrom, first, start_of_due planned time] at failed
            cases failed
      · have led : s.startFrom now next signals = (.finished (.startedAll (.error e')), s) := by
          simp only [startFrom, first, start, planned]
        rw [led] at failed ⊢
        cases failed
        exact ⟨rfl, id, handle, found, mode, idle, why⟩

private theorem issue_start_cases (sound : s.controller.Sound) {id : Nat} {handle : Handle}
    (found : s.controller.handles[id]? = some handle) (now : Instant) (ticket : Nat) :
    (∃ signal, s.issue now ticket (.start id) = (.finished (.started (.ok signal)), s) ∧
        handle.state = .ready) ∨
      (∃ e, s.issue now ticket (.start id) = (.finished (.started (.error e)), s) ∧
        (e = .invalidTransition handle.name "start" handle.state.text ∧
            handle.state ≠ .provisioned ∧ handle.state ≠ .ready ∨
          e = .unsupported "start on a directly invoked service" ∧
            handle.descriptor.mode = .invokedDirectly ∨
          s.controller.Hinders handle e)) ∨
      ∃ params, s.controller.Supplies handle.descriptor params ∧
        ((∃ operation, (s.issue now ticket (.start id)).1 = .waiting operation ∧
            operation.wait.starts? = some id ∧
            (s.issue now ticket (.start id)).2.controller.requests =
              .start id params :: s.controller.requests) ∨
          (s.issue now ticket (.start id)).1 = .finished (.panicked Span.beyondHorizon) ∧
            (startupTimeout s.controller handle).after? s.controller.settings.horizon now = none ∧
            (s.issue now ticket (.start id)).2.controller.requests = s.controller.requests) := by
  have ends : ∀ {e}, planStart s.controller id = .error e →
      s.issue now ticket (.start id) = (.finished (.started (.error e)), s) := by
    intro e planned
    simp only [issue, start, planned, follow]
  cases stands : handle.state with
  | provisioned =>
      cases mode : handle.descriptor.mode with
      | preStarted =>
          rcases sound.planStart_cases found stands mode with
            ⟨params, planned, supplied⟩ | ⟨e, planned, why⟩
          · cases time : (startupTimeout s.controller handle).after?
                s.controller.settings.horizon now with
            | none =>
                refine .inr (.inr ⟨params, supplied, .inr ⟨?_, rfl, ?_⟩⟩)
                · simp only [issue, start_of_late planned time, follow]
                · simp only [issue, start_of_late planned time, follow]
                  rfl
            | some deadline =>
                refine .inr (.inr ⟨params, supplied,
                  .inl ⟨⟨.alone, .start id deadline⟩, ?_, rfl, ?_⟩⟩)
                · simp only [issue, start_of_due planned time, follow]
                · simp only [issue, start_of_due planned time, follow]
                  rfl
          · exact .inr (.inl ⟨e, ends planned, .inr (.inr why)⟩)
      | invokedDirectly =>
          refine .inr (.inl ⟨_, ends ?_, .inr (.inl ⟨rfl, rfl⟩)⟩)
          simp [planStart, Controller.handle, found, bind, Except.bind, stands, mode]
  | ready =>
      refine .inl ⟨⟨handle.name, handle.exposure.endpoints⟩, ?_, rfl⟩
      have planned : planStart s.controller id =
          .ok (.already ⟨handle.name, handle.exposure.endpoints⟩) := by
        simp [planStart, Controller.handle, found, bind, Except.bind, stands, pure, Except.pure]
      simp only [issue, start, planned, follow]
  | starting | running | completed | failed | stopped =>
      refine .inr (.inl ⟨_, ends ?_, .inl ⟨rfl, by decide, by decide⟩⟩)
      simp [planStart, Controller.handle, found, bind, Except.bind, stands]

private theorem issue_run_cases (sound : s.controller.Sound) {id : Nat} {handle : Handle}
    (found : s.controller.handles[id]? = some handle) (now : Instant) (ticket : Nat) :
    (∃ e, s.issue now ticket (.run id) = (.finished (.ran (.error e)), s) ∧
        (e = .invalidTransition handle.name "run" handle.state.text ∧
            handle.state ≠ .provisioned ∨
          e = .unsupported "run on a pre-started service" ∧
            handle.descriptor.mode = .preStarted ∨
          s.controller.Hinders handle e)) ∨
      ∃ operation entryPoint params, (s.issue now ticket (.run id)).1 = .waiting operation ∧
        operation.wait = .run id ∧
        (s.issue now ticket (.run id)).2.controller.requests =
          .run id entryPoint params :: s.controller.requests ∧
        handle.descriptor.entryPoint = some entryPoint ∧
        s.controller.Supplies handle.descriptor params := by
  have ends : ∀ {e}, planRun s.controller id = .error e →
      s.issue now ticket (.run id) = (.finished (.ran (.error e)), s) := by
    intro e planned
    simp only [issue, run, planned, follow]
  by_cases idle : handle.state = .provisioned
  · cases mode : handle.descriptor.mode with
    | preStarted =>
        refine .inl ⟨_, ends ?_, .inr (.inl ⟨rfl, rfl⟩)⟩
        simp [planRun, Controller.handle, found, bind, Except.bind, idle, mode]
    | invokedDirectly =>
        rcases sound.planRun_cases found idle mode with
          ⟨entryPoint, params, entry, planned, supplied⟩ | ⟨e, planned, why⟩
        · have led : (s.issue now ticket (.run id)).1 = .waiting ⟨.alone, .run id⟩ := by
            simp only [issue, run, planned, follow]
          have asked : (s.issue now ticket (.run id)).2.controller.requests =
              .run id entryPoint params :: s.controller.requests := by
            simp only [issue, run, planned, follow]
            rfl
          exact .inr ⟨_, entryPoint, params, led, rfl, asked, entry, supplied⟩
        · exact .inl ⟨e, ends planned, .inr (.inr why)⟩
  · refine .inl ⟨_, ends ?_, .inl ⟨rfl, idle⟩⟩
    simp [planRun, Controller.handle, found, bind, Except.bind, idle]

theorem resume_ready {id : Nat} {handle : Handle}
    (found : s.controller.handles[id]? = some handle) (now : Instant) (ticket next : Nat)
    (signals : List ReadySignal) (deadline : Instant) :
    s.resume now ticket ⟨.startAll next signals, .probe id deadline⟩ (.probed (.ok true)) =
      startFrom now next (signals ++ [⟨handle.name, handle.exposure.endpoints⟩])
        (s.modify fun c => (c.setState id .ready).record now handle.name .ready) := by
  simp only [resume, continueWith, succeedStart, found, follow]

end Site

namespace Duty

theorem kept_run (settings : Settings) (pool : Pool) (moves : List DutyMove) :
    let d := (ofSettings settings pool).run moves
    d.controller.Kept d.wait? := by
  refine run_keeps Site.lasting_kept (fun h => h.idle) ?_ moves
  refine ⟨⟨.idle _, ordered_run settings pool []⟩, ?_⟩
  intro d mem
  cases mem

private theorem launches_step {d : Duty} (kept : d.controller.Kept d.wait?) (move : DutyMove) :
    (d.step move).controller.Launches d.controller.launchRequests (d.step move).wait? := by
  cases move with
  | issue now ticket command =>
      cases busy : d.operation with
      | none =>
          rw [wait?, busy] at kept
          simp only [step, busy]
          exact Site.issue_launches kept now ticket command
      | some operation =>
          simp only [step, busy]
          exact .inl rfl
  | answer now ticket answer =>
      cases busy : d.operation with
      | none =>
          simp only [step, busy]
          exact .inl rfl
      | some operation =>
          rw [wait?, busy] at kept
          simp only [step, busy]
          exact Site.resume_launches kept now ticket answer
  | cancel ticket =>
      cases busy : d.operation with
      | none =>
          simp only [step, busy]
          exact .inl rfl
      | some operation =>
          simp only [step, busy, controller, Site.controller_cancel]
          exact .inl rfl
  | observe | share => exact .inl rfl

/-- Whatever a controller is told to do, and however its operations go or are dropped: the
dependencies and the endpoints that a service's descriptor names are found, and what is to be
run has an entry point.  A start or a run fails at once when it is not due, and otherwise for a
dependency that is not ready or for a ready one without endpoints, and for nothing else.  A
service that is asked to start or to run gets exactly the parameters of its descriptor, the
literal ones as they are and the others with the address of the first endpoint of the service
they name, which is ready.  Where the clock cannot show the deadline of a start, the parameters
are found all the same and the start breaks down before the service is asked.  This also holds of
the services that are started one after another. -/
theorem launch_of_run (settings : Settings) (pool : Pool) (moves : List DutyMove) :
    let d := (ofSettings settings pool).run moves
    let c := d.controller
    (∀ (id : Nat) (handle : Handle), c.handles[id]? = some handle →
      (∀ dependency ∈ handle.descriptor.dependsOn, ∃ index other,
        c.lookup dependency = .ok index ∧ c.handles[index]? = some other ∧
          other.name = dependency) ∧
      (∀ key target, (key, .endpointOf target) ∈ handle.descriptor.params →
        target ∈ handle.descriptor.dependsOn) ∧
      (handle.descriptor.mode = .invokedDirectly →
        ∃ entryPoint, handle.descriptor.entryPoint = some entryPoint) ∧
      (∀ now ticket,
        let r := d.site.issue now ticket (.start id)
        (∃ signal, r = (.finished (.started (.ok signal)), d.site) ∧ handle.state = .ready) ∨
        (∃ e, r = (.finished (.started (.error e)), d.site) ∧
          (e = .invalidTransition handle.name "start" handle.state.text ∧
              handle.state ≠ .provisioned ∧ handle.state ≠ .ready ∨
            e = .unsupported "start on a directly invoked service" ∧
              handle.descriptor.mode = .invokedDirectly ∨
            c.Hinders handle e)) ∨
        ∃ params, c.Supplies handle.descriptor params ∧
          ((∃ operation, r.1 = .waiting operation ∧ operation.wait.starts? = some id ∧
              r.2.controller.requests = .start id params :: c.requests) ∨
            r.1 = .finished (.panicked Span.beyondHorizon) ∧
              (Site.startupTimeout c handle).after? c.settings.horizon now = none ∧
              r.2.controller.requests = c.requests)) ∧
      ∀ now ticket,
        let r := d.site.issue now ticket (.run id)
        (∃ e, r = (.finished (.ran (.error e)), d.site) ∧
          (e = .invalidTransition handle.name "run" handle.state.text ∧
              handle.state ≠ .provisioned ∨
            e = .unsupported "run on a pre-started service" ∧
              handle.descriptor.mode = .preStarted ∨
            c.Hinders handle e)) ∨
        ∃ operation entryPoint params, r.1 = .waiting operation ∧ operation.wait = .run id ∧
          r.2.controller.requests = .run id entryPoint params :: c.requests ∧
          handle.descriptor.entryPoint = some entryPoint ∧
          c.Supplies handle.descriptor params) ∧
      (∀ now ticket e,
        (d.site.issue now ticket .startAll).1 = .finished (.startedAll (.error e)) →
        ∃ handle ∈ c.handles, handle.descriptor.mode = .preStarted ∧
          handle.state = .provisioned ∧ c.Hinders handle e) ∧
      (∀ next signals id deadline now ticket e,
        d.operation = some ⟨.startAll next signals, .probe id deadline⟩ →
        let r := d.site.resume now ticket ⟨.startAll next signals, .probe id deadline⟩
          (.probed (.ok true))
        r.1 = .finished (.startedAll (.error e)) →
        ∃ handle ∈ r.2.controller.handles, handle.descriptor.mode = .preStarted ∧
          handle.state = .provisioned ∧ r.2.controller.Hinders handle e) ∧
      ∀ move, (d.step move).controller.Launches c.launchRequests (d.step move).wait? := by
  intro d c
  have kept : c.Kept d.wait? := kept_run settings pool moves
  have sound := kept.sound
  refine ⟨?_, ?_, ?_, launches_step kept⟩
  · intro id handle found
    have valid := sound.checked handle (List.mem_of_getElem? found)
    obtain ⟨direct, declared⟩ := Descriptor.sound_of_validate valid
    refine ⟨?_, fun key target => declared, direct, Site.issue_start_cases sound found,
      Site.issue_run_cases sound found⟩
    intro dependency needed
    obtain ⟨index, -, other, there, named, looked⟩ := sound.lookup_dependency found needed
    exact ⟨index, other, looked, there, named⟩
  · intro now ticket e failed
    obtain ⟨-, id, handle, found, mode, idle, why⟩ := Site.hinders_of_startFrom sound failed
    exact ⟨handle, List.mem_of_getElem? found, mode, idle, why⟩
  · intro next signals id deadline now ticket e current r failed
    have waits : d.wait? = some (.probe id deadline) := by rw [wait?, current]; rfl
    rw [waits] at kept
    obtain ⟨handle, found, -⟩ :
        ∃ handle, c.handles[id]? = some handle ∧ handle.state = .starting := by
      simpa [Controller.ledger, Controller.states] using kept.1.1.starting rfl
    have readies : Site.Moves now ticket (some (.probe id deadline)) d.site none _ :=
      .readies found
    have after := Site.lasting_kept.moves readies kept
    have led : r = _ := Site.resume_ready found now ticket next signals deadline
    rw [led] at failed
    obtain ⟨still, id', handle', found', mode, idle, why⟩ :=
      Site.hinders_of_startFrom after.sound failed
    rw [led, still]
    exact ⟨handle', List.mem_of_getElem? found', mode, idle, why⟩

end Duty

end Interop
