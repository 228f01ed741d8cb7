import Interop.Proofs.Lifecycle.Precedence

/-!
# The careers of services

A service has one of seven careers, and may be stopped at any point of it.  What was recorded of
a service is the career that it has made so far and tells where the service stands.  Each
service is asked once at most to start or to run, and one that is stopped stays so.
-/

namespace Interop

/-! ## Launches -/

/-- The service that is asked to start or to run. -/
def Request.launches? : Request → Option Nat
  | .start id _ | .run id _ _ => some id
  | _ => none

namespace Controller

/-- The services that were asked to start or to run, in that order. -/
def launches (c : Controller) : List Nat := (c.requests.filterMap Request.launches?).reverse

theorem launches_ask_of_eq_none {c : Controller} {request : Request}
    (h : request.launches? = none) : (c.ask request).launches = c.launches := by
  simp [launches, ask, h]

theorem launches_ask {c : Controller} {request : Request} {id : Nat}
    (h : request.launches? = some id) : (c.ask request).launches = c.launches ++ [id] := by
  simp [launches, ask, h]

private theorem sublist_launches_ask {c : Controller} {request : Request} {order : List Nat}
    {id : Nat}
    (h : request.launches? = some id) (kept : c.launches.Sublist order) :
    (c.ask request).launches.Sublist (order ++ [id]) := by
  rw [launches_ask h]
  exact kept.append_right _

private theorem sublist_launches_ask_of_eq_none {c : Controller} {request : Request}
    {order : List Nat}
    (h : request.launches? = none) (kept : c.launches.Sublist order) :
    (c.ask request).launches.Sublist order := by
  rwa [launches_ask_of_eq_none h]

end Controller

theorem Site.launches_drop (s : Site) : s.drop.controller.launches = s.controller.launches := by
  have urgent : (Site.urgent 0 s.controller.handles).filterMap Request.launches? = [] := by
    refine List.filterMap_eq_nil_iff.mpr fun request mem => ?_
    obtain ⟨⟨handle, id⟩, -, told⟩ := List.mem_filterMap.mp mem
    by_cases stopped : handle.state = .stopped
    · simp [stopped] at told
    · simp only [stopped, if_false, Option.some.injEq] at told
      rw [← told]
      rfl
  rw [Site.drop_eq]
  simp [Controller.launches, urgent]

/-- The start order lists the requests to start or to run; a start that breaks down at once is
on it without a request. -/
theorem Site.lasting_launches :
    Site.Lasting fun s _ => s.controller.launches.Sublist s.controller.startOrder where
  moves {now ticket w s w' s'} moves h := by
    cases moves with
    | stays | misses | queues | reserves | givesUp | adopts | declines | pauses | lapses | readies
    | completes | fails | releases => exact h
    | places | probes | stops | kills => exact Controller.sublist_launches_ask_of_eq_none rfl h
    | draws accepted taken =>
        obtain ⟨held, rest, -, -, rfl⟩ := Site.drawReserved_eq_some taken
        exact Controller.sublist_launches_ask_of_eq_none rfl h
    | starts | runs => exact Controller.sublist_launches_ask rfl h
    | breaks => exact h.trans (List.sublist_append_left _ _)
  dropReservation {s} h := by
    unfold Site.dropReservation
    split <;> exact h
  drop {s} h := by
    rw [Site.launches_drop, Site.drop_eq]
    exact h
  observe _ _ h := h

namespace Controller

/-- The start of the service was recorded when the clock could not show its deadline any more. -/
def Overdue (c : Controller) (id : Nat) : Prop :=
  ∃ handle, c.handles[id]? = some handle ∧ ∃ event ∈ c.events,
    event.service = handle.name ∧ event.kind = .starting ∧
      (Site.startupTimeout c handle).after? c.settings.horizon event.time = none

def Accounted (c : Controller) : Prop := ∀ id ∈ c.startOrder, id ∈ c.launches ∨ c.Overdue id

variable {c c' : Controller} {id : Nat}

theorem Overdue.mono (h : c.Overdue id) (settings : c'.settings = c.settings)
    (plans : c.handles.map Handle.descriptor <+: c'.handles.map Handle.descriptor)
    (events : c.events ⊆ c'.events) : c'.Overdue id := by
  obtain ⟨handle, found, event, mem, told, kind, late⟩ := h
  have planned : (c.handles.map Handle.descriptor)[id]? = some handle.descriptor := by
    simp [found]
  obtain ⟨rest, same⟩ := plans
  have kept : (c'.handles.map Handle.descriptor)[id]? = some handle.descriptor := by
    rw [← same, List.getElem?_append_left (List.getElem?_eq_some_iff.mp planned).1]
    exact planned
  simp only [List.getElem?_map, Option.map_eq_some_iff] at kept
  obtain ⟨handle', found', plan⟩ := kept
  refine ⟨handle', found', event, events mem, ?_, kind, ?_⟩
  · rw [told, Handle.name, Handle.name, plan]
  · rwa [Site.startupTimeout, plan, settings]

theorem Overdue.mem_startOrder (late : c.Overdue id)
    (faithful : c.ledger.Faithful) (ordered : c.ledger.Ordered) : id ∈ c.startOrder := by
  obtain ⟨handle, found, event, mem, named, kind, -⟩ := late
  have told : handle.name ∈ Ledger.launched c.events := by
    refine List.mem_map.mpr ⟨event, List.mem_filter.mpr ⟨mem, ?_⟩, named⟩
    rw [kind]
    rfl
  rw [show Ledger.launched c.events = _ from ordered.told] at told
  obtain ⟨other, driven, plan⟩ := List.mem_filterMap.mp told
  obtain ⟨d, planned, same⟩ := Option.map_eq_some_iff.mp plan
  exact faithful.index_eq planned (Controller.plan_of_handle found) same ▸ driven

private theorem plans_prefix_modifyHandle (c : Controller) (id : Nat) {f : Handle → Handle}
    (same : ∀ handle, (f handle).descriptor = handle.descriptor) :
    c.handles.map Handle.descriptor <+: (c.modifyHandle id f).handles.map Handle.descriptor :=
  (plans_modifyHandle c id same).symm ▸ List.prefix_rfl

theorem Overdue.of_start {handle after : Handle} {now : Instant}
    (late : (Site.startupTimeout c handle).after? c.settings.horizon now = none)
    (found : c'.handles[id]? = some after) (same : after.descriptor = handle.descriptor)
    (settings : c'.settings = c.settings)
    (events : c'.events = c.events ++ [⟨handle.name, .starting, now⟩]) : c'.Overdue id := by
  refine ⟨after, found, ⟨handle.name, .starting, now⟩, ?_, ?_, rfl, ?_⟩
  · rw [events]
    exact List.mem_append_right _ (List.mem_singleton_self _)
  · rw [Handle.name, Handle.name, same]
  · rwa [Site.startupTimeout, same, settings]

theorem Accounted.grow (h : c.Accounted) (settings : c'.settings = c.settings)
    (plans : c.handles.map Handle.descriptor <+: c'.handles.map Handle.descriptor)
    (events : c.events ⊆ c'.events) (asked : c.launches ⊆ c'.launches)
    (order : ∀ id ∈ c'.startOrder, id ∈ c.startOrder ∨ id ∈ c'.launches ∨ c'.Overdue id) :
    c'.Accounted := by
  intro id mem
  rcases order id mem with old | new
  · exact (h id old).imp (fun old => asked old) fun late => late.mono settings plans events
  · exact new

private theorem Accounted.still (h : c.Accounted) (settings : c'.settings = c.settings)
    (plans : c.handles.map Handle.descriptor <+: c'.handles.map Handle.descriptor)
    (events : c.events ⊆ c'.events) (asked : c'.launches = c.launches)
    (order : c'.startOrder = c.startOrder) : c'.Accounted :=
  h.grow settings plans events (asked ▸ List.Subset.refl _) fun _ mem => .inl (order ▸ mem)

private theorem Accounted.launch (h : c.Accounted) (id : Nat) (settings : c'.settings = c.settings)
    (plans : c.handles.map Handle.descriptor <+: c'.handles.map Handle.descriptor)
    (events : c.events ⊆ c'.events) (same : c'.launches = c.launches)
    (order : c'.startOrder = c.startOrder ++ [id]) {request : Request}
    (asks : request.launches? = some id) : (c'.ask request).Accounted := by
  have asked : (c'.ask request).launches = c.launches ++ [id] := by rw [launches_ask asks, same]
  refine h.grow settings plans events (asked ▸ List.subset_append_left _ _) ?_
  intro other mem
  rw [show (c'.ask request).startOrder = _ from order] at mem
  rcases List.mem_append.mp mem with old | new
  · exact .inl old
  · exact .inr (.inl (asked ▸ List.mem_append_right _ new))

end Controller

private theorem Site.lasting_accounted : Site.Lasting fun s _ => s.controller.Accounted where
  moves {now ticket w s w' s'} moves h := by
    have apart : ∀ {c : Controller} {request : Request}, request.launches? = none →
        (c.ask request).launches = c.launches := Controller.launches_ask_of_eq_none
    have told : ∀ event, s.controller.events ⊆ s.controller.events ++ [event] :=
      fun event => List.subset_append_left _ _
    cases moves with
    | stays | misses | queues | reserves | givesUp | declines | pauses | lapses => exact h
    | places | probes | stops | kills =>
        exact h.still rfl List.prefix_rfl (List.Subset.refl _) (apart rfl) rfl
    | draws accepted taken =>
        obtain ⟨held, rest, -, -, rfl⟩ := Site.drawReserved_eq_some taken
        exact h.still rfl List.prefix_rfl (List.Subset.refl _) (apart rfl) rfl
    | adopts d lease exposure =>
        refine h.still rfl ?_ (told _) rfl rfl
        simp [Site.adopt, Site.modify]
    | @readies id | @completes id | @fails _ id | @releases _ id =>
        exact h.still rfl (Controller.plans_prefix_modifyHandle _ id fun _ => rfl) (told _) rfl rfl
    | @starts id | @runs id =>
        refine h.launch id ?_ ?_ ?_ ?_ ?_ ?_
        · rfl
        · exact Controller.plans_prefix_modifyHandle _ id fun _ => rfl
        · exact told _
        all_goals rfl
    | @breaks id name timeout params s planned late =>
        refine h.grow rfl (Controller.plans_prefix_modifyHandle _ id fun _ => rfl) (told _)
          (List.Subset.refl _) ?_
        intro other mem
        rcases List.mem_append.mp mem with old | new
        · exact .inl old
        · obtain rfl := List.mem_singleton.mp new
          obtain ⟨handle, found, -, rfl, rfl, -⟩ := Site.checked_of_planStart planned
          have there := (Controller.getElem?_modifyHandle s.controller other other
            fun handle => { handle with state := .starting }).trans (congrArg _ found)
          exact .inr (.inr (.of_start late there (by simp) rfl rfl))
  dropReservation {s} h := by
    unfold Site.dropReservation
    split <;> exact h
  drop {s} h := by
    refine h.still ?_ ?_ ?_ (Site.launches_drop s) ?_ <;> simp [Site.drop_eq, Function.comp_def]
  observe {s w} service exposure h :=
    h.still rfl (s.controller.plans_prefix_modifyHandle service fun _ => rfl)
      (List.Subset.refl _) rfl rfl

/-! ## Careers -/

/-- What is recorded of a service before it is stopped, with where it stands then. -/
def careers : List (List EventKind × HandleState) :=
  [([.provisioned], .provisioned),
   ([.provisioned, .starting], .starting),
   ([.provisioned, .starting, .ready], .ready),
   ([.provisioned, .starting, .startFailed], .failed),
   ([.provisioned, .running], .running),
   ([.provisioned, .running, .completed], .completed),
   ([.provisioned, .running, .startFailed], .failed)]

def Career (kinds : List EventKind) (state : HandleState) : Prop :=
  (kinds, state) ∈ careers ∨
    state = .stopped ∧ ∃ career ∈ careers,
      kinds = career.1 ++ [.stopped] ∨ kinds = career.1 ++ [.forcedStop]

namespace Life

variable {kinds : List EventKind} {state : HandleState}

private theorem of_running (life : Life kinds .running) : kinds = [.provisioned, .running] := by
  generalize stands : HandleState.running = state at life
  cases life with
  | joins => cases stands
  | launches past edge =>
      cases edge with
      | starting => cases stands
      | running =>
          rw [past.of_provisioned]
          rfl
  | turns past edge => cases edge <;> cases stands

theorem career (life : Life kinds state) : Career kinds state := by
  induction life with
  | joins => exact .inl (by decide)
  | launches past edge =>
      rw [past.of_provisioned]
      cases edge with
      | starting => exact .inl (by decide)
      | running => exact .inl (by decide)
  | @turns kinds before after kind past edge ih =>
      cases edge with
      | readies =>
          rw [past.of_starting]
          exact .inl (by decide)
      | completes =>
          rw [past.of_running]
          exact .inl (by decide)
      | fails driven =>
          rcases driven with rfl | rfl
          · rw [past.of_starting]
            exact .inl (by decide)
          · rw [past.of_running]
            exact .inl (by decide)
      | stops active ended =>
          rcases ih with mem | ⟨stopped, -⟩
          · refine .inr ⟨rfl, _, mem, ?_⟩
            rcases ended with rfl | rfl
            · exact .inl rfl
            · exact .inr rfl
          · exact absurd stopped active

end Life

private theorem Career.state_eq {kinds : List EventKind} {first second : HandleState}
    (one : Career kinds first) (two : Career kinds second) : first = second := by
  have alone : ∀ career ∈ careers, ∀ other ∈ careers,
      career.1 = other.1 → career.2 = other.2 := by decide
  have unended : ∀ career ∈ careers, ∀ other ∈ careers,
      career.1 ≠ other.1 ++ [.stopped] ∧ career.1 ≠ other.1 ++ [.forcedStop] := by decide
  rcases one with mem | ⟨rfl, career, mem, ended⟩ <;>
    rcases two with mem' | ⟨rfl, career', mem', ended'⟩
  · exact alone _ mem _ mem' rfl
  · rcases ended' with same | same
    · exact absurd same (unended _ mem _ mem').1
    · exact absurd same (unended _ mem _ mem').2
  · rcases ended with same | same
    · exact absurd same (unended _ mem' _ mem).1
    · exact absurd same (unended _ mem' _ mem).2
  · rfl

private theorem Career.countP_le {kinds : List EventKind} {state : HandleState}
    (career : Career kinds state) :
    kinds.countP (fun kind => kind == .starting || kind == .running) ≤ 1 := by
  have once : ∀ career ∈ careers,
      career.1.countP (fun kind => kind == .starting || kind == .running) ≤ 1 := by decide
  rcases career with mem | ⟨-, career, mem, rfl | rfl⟩
  · exact once _ mem
  · simpa using once career mem
  · simpa using once career mem

/-! ## Stopped services -/

private theorem HandleState.Turns.ne_stopped {before after : HandleState} {kind : EventKind}
    (edge : Turns before kind after) : before ≠ .stopped := by
  cases edge with
  | readies | completes => nofun
  | fails driven => rcases driven with rfl | rfl <;> nofun
  | stops active => exact active

namespace Ledger

structure Ended (id : Nat) (d : Descriptor) (history : List EventKind) (l : Ledger) : Prop where
  faithful : l.Faithful
  planned : l.plans[id]? = some d
  stopped : l.states[id]? = some .stopped
  told : historyOf l.events d.name = history

private theorem Ended.step {now : Instant} {id : Nat} {d : Descriptor} {history : List EventKind}
    {l l' : Ledger} (entry : Step now l l') (h : l.Ended id d history) :
    l'.Ended id d history := by
  have faithful := h.faithful.step entry
  -- An entry about another service leaves state and history of this one alone.
  have other : ∀ {index : Nat} {e : Descriptor} {before : HandleState}, l.plans[index]? = some e →
      l.states[index]? = some before → before ≠ .stopped → index ≠ id ∧ e.name ≠ d.name := by
    intro index e before there stood active
    have apart : index ≠ id := by
      rintro rfl
      exact active (Option.some.inj (stood.symm.trans h.stopped))
    exact ⟨apart, fun same => apart (h.faithful.index_eq there h.planned same)⟩
  cases entry with
  | stays => exact h
  | @joins e admitted =>
      have inside := (List.getElem?_eq_some_iff.mp h.planned).1
      have inside' := (List.getElem?_eq_some_iff.mp h.stopped).1
      have apart : e.name ≠ d.name := by
        intro same
        exact admitted.1 (same ▸ List.mem_map_of_mem (List.mem_of_getElem? h.planned))
      refine ⟨faithful, ?_, ?_, ?_⟩
      · exact (List.getElem?_append_left inside).trans h.planned
      · exact (List.getElem?_append_left inside').trans h.stopped
      · exact (historyOf_concat_of_ne apart _).trans h.told
  | launches edge there idle ready =>
      obtain ⟨apart, apart'⟩ := other there idle nofun
      refine ⟨faithful, h.planned, ?_, ?_⟩
      · exact (List.getElem?_set_ne apart).trans h.stopped
      · exact (historyOf_concat_of_ne apart' _).trans h.told
  | turns edge there stood =>
      obtain ⟨apart, apart'⟩ := other there stood edge.ne_stopped
      refine ⟨faithful, h.planned, ?_, ?_⟩
      · exact (List.getElem?_set_ne apart).trans h.stopped
      · exact (historyOf_concat_of_ne apart' _).trans h.told

end Ledger

namespace Duty

theorem launches_run (settings : Settings) (pool : Pool) (moves : List DutyMove) :
    ((ofSettings settings pool).run moves).controller.launches.Sublist
      ((ofSettings settings pool).run moves).controller.startOrder :=
  run_keeps (K := fun c _ => c.launches.Sublist c.startOrder) Site.lasting_launches (fun h => h)
    (List.Sublist.refl _) moves

theorem accounted_run (settings : Settings) (pool : Pool) (moves : List DutyMove) :
    ((ofSettings settings pool).run moves).controller.Accounted :=
  run_keeps (K := fun c _ => c.Accounted) Site.lasting_accounted (fun h => h)
    (fun _ mem => absurd mem List.not_mem_nil) moves

private theorem stopped_run (settings : Settings) (pool : Pool) (moves more : List DutyMove)
    {id : Nat}
    {handle : Handle}
    (found : ((ofSettings settings pool).run moves).controller.handles[id]? = some handle)
    (stopped : handle.state = .stopped) :
    ∃ after, ((ofSettings settings pool).run (moves ++ more)).controller.handles[id]? = some after ∧
      after.name = handle.name ∧ after.state = .stopped ∧
      historyOf ((ofSettings settings pool).run (moves ++ more)).controller.events handle.name =
        historyOf ((ofSettings settings pool).run moves).controller.events handle.name := by
  obtain ⟨backs, faithful⟩ := faithful_run settings pool moves
  have stands := Controller.getElem?_states found
  rw [stopped] at stands
  obtain ⟨-, -, planned, stopped', told⟩ := ledger_keeps Ledger.Ended.step backs
    ⟨faithful, Controller.plan_of_handle found, stands, rfl⟩ more
  simp only [Controller.ledger, Controller.states, List.getElem?_map, Option.map_eq_some_iff]
    at planned stopped'
  obtain ⟨after, there, plan⟩ := planned
  obtain ⟨same, there', stopped'⟩ := stopped'
  obtain rfl := Option.some.inj (there.symm.trans there')
  rw [run_append]
  exact ⟨after, there, congrArg Descriptor.name plan, stopped', told⟩

/-- Whatever a controller is told to do, and however its operations go or are dropped: what was
recorded of a service is its career so far and tells where it stands.  No service is started or
run twice, or both started and run, and none that is stopped is touched again. -/
theorem career_of_run (settings : Settings) (pool : Pool) (moves : List DutyMove) :
    let d := (ofSettings settings pool).run moves
    (d.controller.handles.map Handle.name).Nodup ∧
      (∀ event ∈ d.controller.events, ∃ handle ∈ d.controller.handles,
        handle.name = event.service) ∧
      (∀ handle ∈ d.controller.handles,
        let history := historyOf d.controller.events handle.name
        ((history, handle.state) ∈ careers ∨
          handle.state = .stopped ∧ ∃ career ∈ careers,
            history = career.1 ++ [.stopped] ∨ history = career.1 ++ [.forcedStop]) ∧
        history.countP (fun kind => kind == .starting || kind == .running) ≤ 1) ∧
      (∀ first ∈ d.controller.handles, ∀ second ∈ d.controller.handles,
        historyOf d.controller.events first.name = historyOf d.controller.events second.name →
          first.state = second.state) ∧
      (d.controller.requests.filterMap Request.launches?).Nodup ∧
      ∀ (id : Nat) (handle : Handle), d.controller.handles[id]? = some handle →
        handle.state = .stopped → ∀ more, ∃ after,
          (d.run more).controller.handles[id]? = some after ∧
          after.name = handle.name ∧ after.state = .stopped ∧
          historyOf (d.run more).controller.events handle.name =
            historyOf d.controller.events handle.name := by
  intro d
  obtain ⟨faithful, ordered⟩ := ordered_run settings pool moves
  have career : ∀ handle ∈ d.controller.handles,
      Career (historyOf d.controller.events handle.name) handle.state := by
    intro handle mem
    obtain ⟨id, found⟩ := List.mem_iff_getElem?.mp mem
    have life : Life (historyOf d.controller.events handle.name) handle.state :=
      faithful.lives (Controller.plan_of_handle found) (Controller.getElem?_states found)
    exact life.career
  refine ⟨?_, ?_, ?_, ?_, ?_, ?_⟩
  · rw [← Controller.names_ledger]
    exact faithful.distinct
  · intro event mem
    have known := faithful.known event mem
    rw [Controller.names_ledger] at known
    exact List.mem_map.mp known
  · intro handle mem
    exact ⟨career handle mem, (career handle mem).countP_le⟩
  · intro first mem second mem' same
    exact (career first mem).state_eq (same ▸ career second mem')
  · have once : d.controller.startOrder.Nodup := ordered.once
    exact List.nodup_reverse.mp (once.sublist (launches_run settings pool moves))
  · intro id handle found stopped more
    rw [← run_append]
    exact stopped_run settings pool moves more found stopped

end Duty

end Interop
