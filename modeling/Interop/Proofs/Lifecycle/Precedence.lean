import Interop.Proofs.Lifecycle.History

/-!
# The order in which services were driven

A service joins after everything it depends on, and is driven after everything it depends on
was driven.  So going back through the start order, or through the numbers of the services,
meets a service before its dependencies.
-/

namespace Interop

namespace Ledger

def Depends (l : Ledger) (id other : Nat) : Prop :=
  ∃ d e, l.plans[id]? = some d ∧ l.plans[other]? = some e ∧ e.name ∈ d.dependsOn

/-- The services whose start or run was recorded, oldest first. -/
def launched (events : List Event) : List String :=
  (events.filter fun event => event.kind == .starting || event.kind == .running).map Event.service

/-- The start order tells which services were driven, in an order that respects what they
depend on. -/
structure Ordered (l : Ledger) : Prop where
  founded : ∀ {id : Nat} {d : Descriptor} {dependency : String}, l.plans[id]? = some d →
    dependency ∈ d.dependsOn → ∃ earlier < id, ∃ e, l.plans[earlier]? = some e ∧
      e.name = dependency
  driven : ∀ id ∈ l.startOrder, ∃ state, l.states[id]? = some state ∧ state ≠ .provisioned
  listed : ∀ {id : Nat} {state : HandleState}, l.states[id]? = some state →
    state ≠ .provisioned → state ≠ .stopped → id ∈ l.startOrder
  once : l.startOrder.Nodup
  closed : ∀ {id other : Nat}, id ∈ l.startOrder → l.Depends id other → other ∈ l.startOrder
  respects : l.startOrder.Pairwise fun id later => ¬ l.Depends id later
  told : launched l.events =
    l.startOrder.filterMap fun id => l.plans[id]?.map Descriptor.name

namespace Ordered

variable {now : Instant} {l l' : Ledger}

theorem lt_of_depends (h : l.Ordered) (faithful : l.Faithful) {id other : Nat}
    (depends : l.Depends id other) : other < id := by
  obtain ⟨d, e, planned, planned', mem⟩ := depends
  obtain ⟨earlier, before, e', planned'', same⟩ := h.founded planned mem
  obtain rfl := faithful.index_eq planned'' planned' same
  exact before

theorem inside (h : l.Ordered) (faithful : l.Faithful) {id : Nat} (mem : id ∈ l.startOrder) :
    id < l.plans.length := by
  obtain ⟨state, stands, -⟩ := h.driven id mem
  rw [← faithful.aligned]
  exact (List.getElem?_eq_some_iff.mp stands).1

private theorem launched_concat {event : Event}
    (launches : event.kind = .starting ∨ event.kind = .running)
    (events : List Event) : launched (events ++ [event]) = launched events ++ [event.service] := by
  simp [launched, launches]

theorem launched_concat_of_ne {event : Event} (starts : event.kind ≠ .starting)
    (runs : event.kind ≠ .running) (events : List Event) :
    launched (events ++ [event]) = launched events := by
  simp [launched, starts, runs]

private theorem join (h : l.Ordered) (faithful : l.Faithful) {d : Descriptor}
    (admitted : l.Admits d) :
    (l.join now d).Ordered := by
  have after : (l.join now d).Faithful := faithful.join admitted
  have old : ∀ {id : Nat}, id < l.plans.length → (l.join now d).plans[id]? = l.plans[id]? :=
    fun inside => List.getElem?_append_left inside
  have founded : ∀ {id : Nat} {e : Descriptor} {dependency : String},
      (l.join now d).plans[id]? = some e → dependency ∈ e.dependsOn →
      ∃ earlier < id, ∃ e', (l.join now d).plans[earlier]? = some e' ∧ e'.name = dependency := by
    intro id e dependency planned mem
    by_cases inside : id < l.plans.length
    · rw [old inside] at planned
      obtain ⟨earlier, before, e', planned', same⟩ := h.founded planned mem
      exact ⟨earlier, before, e', (old (Nat.lt_trans before inside)).trans planned', same⟩
    · rw [Ledger.join, List.getElem?_append_right (Nat.le_of_not_lt inside)] at planned
      obtain rfl := List.mem_singleton.mp (List.mem_of_getElem? planned)
      obtain ⟨e', there, same⟩ := List.mem_map.mp (admitted.2 dependency mem)
      obtain ⟨earlier, planned'⟩ := List.mem_iff_getElem?.mp there
      have before := (List.getElem?_eq_some_iff.mp planned').1
      exact ⟨earlier, by omega, e', (old before).trans planned', same⟩
  -- What is there already needs nothing of what joins.
  have depends : ∀ {id other : Nat}, id < l.plans.length → (l.join now d).Depends id other →
      l.Depends id other := by
    rintro id other inside ⟨e, e', planned, planned', mem⟩
    obtain ⟨earlier, before, e'', planned'', same⟩ := founded planned mem
    obtain rfl := after.index_eq planned'' planned' same
    rw [old inside] at planned
    rw [old (Nat.lt_trans before inside)] at planned'
    exact ⟨e, e', planned, planned', mem⟩
  refine ⟨founded, ?_, ?_, h.once, ?_, ?_, ?_⟩
  · intro id mem
    obtain ⟨state, stands, driven⟩ := h.driven id mem
    have inside := (List.getElem?_eq_some_iff.mp stands).1
    exact ⟨state, (List.getElem?_append_left inside).trans stands, driven⟩
  · intro id state stands driven active
    simp only [Ledger.join, List.getElem?_append] at stands
    split at stands
    · exact h.listed stands driven active
    · obtain rfl := List.mem_singleton.mp (List.mem_of_getElem? stands)
      exact absurd rfl driven
  · intro id other mem need
    exact h.closed mem (depends (h.inside faithful mem) need)
  · refine h.respects.imp_of_mem ?_
    intro id other mem _ free need
    exact free (depends (h.inside faithful mem) need)
  · have same : ∀ id ∈ l.startOrder, (l.join now d).plans[id]?.map Descriptor.name =
        l.plans[id]?.map Descriptor.name := by
      intro id mem
      rw [old (h.inside faithful mem)]
    refine Eq.trans ?_ (List.filterMap_congr same).symm
    rw [← h.told]
    exact launched_concat_of_ne (by simp) (by simp) l.events

private theorem launch (h : l.Ordered) (faithful : l.Faithful) {id : Nat} {d : Descriptor}
    {kind : EventKind} {after : HandleState} (edge : HandleState.Launches kind after)
    (planned : l.plans[id]? = some d) (idle : l.states[id]? = some .provisioned)
    (ready : ∀ dependency ∈ d.dependsOn, l.Ready dependency) :
    (l.launch now id d.name kind after).Ordered := by
  have fresh : id ∉ l.startOrder := by
    intro mem
    obtain ⟨state, stands, driven⟩ := h.driven id mem
    exact driven (Option.some.inj (stands.symm.trans idle))
  have stands : (l.launch now id d.name kind after).states[id]? = some after :=
    getElem?_launch_self idle
  have elsewhere : ∀ {other : Nat}, id ≠ other →
      (l.launch now id d.name kind after).states[other]? = l.states[other]? :=
    fun apart => List.getElem?_set_ne apart
  refine ⟨h.founded, ?_, ?_, ?_, ?_, ?_, ?_⟩
  · intro other mem
    by_cases here : id = other
    · subst here
      exact ⟨after, stands, by cases edge <;> nofun⟩
    · rw [elsewhere here]
      rcases List.mem_append.mp mem with mem | mem
      · exact h.driven other mem
      · exact absurd (List.mem_singleton.mp mem).symm here
  · intro other state there driven active
    by_cases here : id = other
    · exact List.mem_append_right _ (List.mem_singleton.mpr here.symm)
    · rw [elsewhere here] at there
      exact List.mem_append_left _ (h.listed there driven active)
  · have grown := List.Nodup.concat fresh h.once
    rwa [List.concat_eq_append] at grown
  · intro one other mem need
    refine List.mem_append_left _ ?_
    rcases List.mem_append.mp mem with mem | mem
    · exact h.closed mem need
    · -- What the service needs is ready, so it was driven before.
      obtain rfl := List.mem_singleton.mp mem
      obtain ⟨d', e, planned', planned'', needed⟩ := need
      obtain rfl : d = d' := Option.some.inj (planned.symm.trans planned')
      obtain ⟨index, e', there, same, ready⟩ := ready e.name needed
      obtain rfl := faithful.index_eq there planned'' same
      exact h.listed ready nofun nofun
  · refine List.pairwise_append.mpr ⟨h.respects, List.pairwise_singleton _ _, ?_⟩
    intro one mem other mem' need
    obtain rfl := List.mem_singleton.mp mem'
    exact fresh (h.closed mem need)
  · have launches : kind = .starting ∨ kind = .running := by
      cases edge with
      | starting => exact .inl rfl
      | running => exact .inr rfl
    simp only [Ledger.launch, List.filterMap_append]
    rw [launched_concat launches, h.told]
    simp [planned]

private theorem turn (h : l.Ordered) {id : Nat} {d : Descriptor} {before after : HandleState}
    {kind : EventKind} (edge : HandleState.Turns before kind after)
    (stood : l.states[id]? = some before) : (l.turn now id d.name kind after).Ordered := by
  have stands : (l.states.set id after)[id]? = some after := by
    exact List.getElem?_set_self (List.getElem?_eq_some_iff.mp stood).1
  have elsewhere : ∀ {other : Nat}, id ≠ other →
      (l.states.set id after)[other]? = l.states[other]? := fun apart => List.getElem?_set_ne apart
  refine ⟨h.founded, ?_, ?_, h.once, fun mem need => h.closed mem need, h.respects, ?_⟩
  · intro other mem
    by_cases here : id = other
    · subst here
      exact ⟨after, stands, by cases edge <;> nofun⟩
    · obtain ⟨state, there, driven⟩ := h.driven other mem
      exact ⟨state, (elsewhere here).trans there, driven⟩
  · intro other state there driven active
    by_cases here : id = other
    · subst here
      obtain rfl := Option.some.inj (stands.symm.trans there)
      cases edge with
      | readies | completes => exact h.listed stood nofun nofun
      | fails was =>
          rcases was with rfl | rfl
          · exact h.listed stood nofun nofun
          · exact h.listed stood nofun nofun
      | stops => exact absurd rfl active
    · exact h.listed ((elsewhere here).symm.trans there) driven active
  · have still : kind ≠ .starting ∧ kind ≠ .running := by
      cases edge with
      | readies | completes | fails => exact ⟨nofun, nofun⟩
      | stops active ended => rcases ended with rfl | rfl <;> exact ⟨nofun, nofun⟩
    refine Eq.trans ?_ h.told
    exact launched_concat_of_ne still.1 still.2 l.events

theorem step (entry : Step now l l') (h : l.Faithful ∧ l.Ordered) : l'.Faithful ∧ l'.Ordered := by
  refine ⟨h.1.step entry, ?_⟩
  cases entry with
  | stays => exact h.2
  | joins admitted => exact h.2.join h.1 admitted
  | launches edge planned idle ready => exact h.2.launch h.1 edge planned idle ready
  | turns edge planned stood => exact h.2.turn edge stood

end Ordered

end Ledger

namespace Duty

theorem ordered_run (settings : Settings) (pool : Pool) (moves : List DutyMove) :
    ((ofSettings settings pool).run moves).controller.ledger.Faithful ∧
      ((ofSettings settings pool).run moves).controller.ledger.Ordered := by
  have start : (ofSettings settings pool).controller.ledger.Ordered :=
    ⟨nofun, nofun, nofun, List.nodup_nil, nofun, .nil, rfl⟩
  have faithful := (faithful_run settings pool []).2
  exact (ledger_keeps Ledger.Ordered.step (.idle _) ⟨faithful, start⟩ moves).2

end Duty

end Interop
