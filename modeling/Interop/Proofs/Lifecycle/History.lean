import Interop.Proofs.Lifecycle.Ledger

/-!
# The history of a service

The events that a controller records of one service spell out a path from its joining to where
it stands.  Only one path leads to readiness, so a service that was launched while its
dependencies were ready finds that path, and nothing after it, in the history of each of them.
-/

namespace Interop

/-- What was recorded of a service, oldest first. -/
def historyOf (events : List Event) (name : String) : List EventKind :=
  (events.filter fun event => event.service == name).map Event.kind

theorem historyOf_concat_self (events : List Event) (name : String) (kind : EventKind)
    (now : Instant) :
    historyOf (events ++ [⟨name, kind, now⟩]) name = historyOf events name ++ [kind] := by
  simp [historyOf]

theorem historyOf_concat_of_ne {event : Event} {name : String} (other : event.service ≠ name)
    (events : List Event) : historyOf (events ++ [event]) name = historyOf events name := by
  simp [historyOf, other]

private theorem historyOf_eq_nil {events : List Event} {name : String}
    (unknown : ∀ event ∈ events, event.service ≠ name) : historyOf events name = [] := by
  simpa [historyOf] using unknown

inductive Life : List EventKind → HandleState → Prop
  | joins : Life [.provisioned] .provisioned
  | launches {kinds : List EventKind} {kind : EventKind} {after : HandleState}
      (past : Life kinds .provisioned) (edge : HandleState.Launches kind after) :
      Life (kinds ++ [kind]) after
  | turns {kinds : List EventKind} {before after : HandleState} {kind : EventKind}
      (past : Life kinds before) (edge : HandleState.Turns before kind after) :
      Life (kinds ++ [kind]) after

namespace Life

variable {kinds : List EventKind} {state : HandleState}

theorem of_provisioned (life : Life kinds .provisioned) : kinds = [.provisioned] := by
  generalize stands : HandleState.provisioned = state at life
  cases life with
  | joins => rfl
  | launches past edge => cases edge <;> cases stands
  | turns past edge => cases edge <;> cases stands

theorem of_starting (life : Life kinds .starting) : kinds = [.provisioned, .starting] := by
  generalize stands : HandleState.starting = state at life
  cases life with
  | joins => cases stands
  | launches past edge =>
      cases edge with
      | starting =>
          rw [past.of_provisioned]
          rfl
      | running => cases stands
  | turns past edge => cases edge <;> cases stands

private theorem of_ready (life : Life kinds .ready) : kinds =
    [.provisioned, .starting, .ready] := by
  generalize stands : HandleState.ready = state at life
  cases life with
  | joins => cases stands
  | launches past edge => cases edge <;> cases stands
  | turns past edge =>
      cases edge with
      | readies =>
          rw [past.of_starting]
          rfl
      | completes | fails | stops => cases stands

end Life

theorem exists_of_concat_eq {α : Type} {as before after : List α} {a b : α}
    (split : as ++ [b] = before ++ a :: after) :
    (after = [] ∧ before = as ∧ a = b) ∨ ∃ rest, as = before ++ a :: rest := by
  rcases List.eq_nil_or_concat after with rfl | ⟨rest, last, rfl⟩
  · have same := List.append_inj' split rfl
    simp_all
  · refine .inr ⟨rest, ?_⟩
    have same : as ++ [b] = (before ++ a :: rest) ++ [last] := by
      rw [split]
      simp
    exact (List.append_inj' same rfl).1

namespace Ledger

/-- A service that can be launched after those events: what it depends on has got ready, and
nothing was recorded of it since. -/
def Due (l : Ledger) (before : List Event) (d : Descriptor) : Prop :=
  ∀ dependency ∈ d.dependsOn,
    dependency ∈ l.names ∧ historyOf before dependency = [.provisioned, .starting, .ready]

structure Faithful (l : Ledger) : Prop where
  aligned : l.states.length = l.plans.length
  distinct : l.names.Nodup
  known : ∀ event ∈ l.events, event.service ∈ l.names
  lives : ∀ {id : Nat} {d : Descriptor} {state : HandleState}, l.plans[id]? = some d →
    l.states[id]? = some state → Life (historyOf l.events d.name) state
  due : ∀ {before : List Event} {event : Event} {after : List Event},
    l.events = before ++ event :: after → event.kind = .starting ∨ event.kind = .running →
      ∃ d ∈ l.plans, d.name = event.service ∧ l.Due before d

namespace Faithful

variable {now : Instant} {l l' : Ledger}

theorem index_eq (h : l.Faithful) {id other : Nat} {d e : Descriptor}
    (here : l.plans[id]? = some d) (there : l.plans[other]? = some e) (same : d.name = e.name) :
    id = other := by
  have inside : id < l.names.length := by
    obtain ⟨inside, -⟩ := List.getElem?_eq_some_iff.mp here
    simpa [names] using inside
  refine (List.getElem?_inj inside h.distinct).mp ?_
  simp [names, here, there, same]

private theorem due_of_ready (h : l.Faithful) {d : Descriptor}
    (ready : ∀ dependency ∈ d.dependsOn, l.Ready dependency) : l.Due l.events d := by
  intro dependency mem
  obtain ⟨id, other, planned, rfl, stands⟩ := ready dependency mem
  refine ⟨List.mem_map_of_mem (List.mem_of_getElem? planned), ?_⟩
  exact (h.lives planned stands).of_ready

private theorem record (h : l.Faithful) {id : Nat} {d : Descriptor} {before after : HandleState}
    {kind : EventKind} (planned : l.plans[id]? = some d) (stood : l.states[id]? = some before)
    (life : Life (historyOf l.events d.name ++ [kind]) after)
    (due : kind = .starting ∨ kind = .running → l.Due l.events d)
    (plans : l'.plans = l.plans) (states : l'.states = l.states.set id after)
    (events : l'.events = l.events ++ [⟨d.name, kind, now⟩]) : l'.Faithful := by
  have names : l'.names = l.names := by rw [Ledger.names, plans, Ledger.names]
  refine ⟨?_, ?_, ?_, ?_, ?_⟩
  · rw [states, plans, List.length_set]
    exact h.aligned
  · rw [names]
    exact h.distinct
  · intro event mem
    rw [names]
    rw [events] at mem
    rcases List.mem_append.mp mem with mem | mem
    · exact h.known event mem
    · rw [List.mem_singleton.mp mem]
      exact List.mem_map_of_mem (List.mem_of_getElem? planned)
  · intro other e state planned' stands
    rw [plans] at planned'
    rw [states] at stands
    rw [events]
    by_cases here : id = other
    · subst here
      obtain rfl : d = e := Option.some.inj (planned.symm.trans planned')
      obtain ⟨inside, -⟩ := List.getElem?_eq_some_iff.mp stood
      obtain rfl : after = state := by
        rw [List.getElem?_set_self inside] at stands
        exact Option.some.inj stands
      rw [historyOf_concat_self]
      exact life
    · rw [List.getElem?_set_ne here] at stands
      have apart : d.name ≠ e.name := fun same => here (h.index_eq planned planned' same)
      rw [historyOf_concat_of_ne apart]
      exact h.lives planned' stands
  · intro past event future split launching
    rw [events] at split
    rw [plans]
    rcases exists_of_concat_eq split with ⟨-, rfl, rfl⟩ | ⟨rest, earlier⟩
    · refine ⟨d, List.mem_of_getElem? planned, rfl, ?_⟩
      rw [Due, names]
      exact due launching
    · obtain ⟨e, mem, named, was⟩ := h.due earlier launching
      refine ⟨e, mem, named, ?_⟩
      rw [Due, names]
      exact was

theorem join (h : l.Faithful) {d : Descriptor} (admitted : l.Admits d) :
    (l.join now d).Faithful := by
  have names : (l.join now d).names = l.names ++ [d.name] := by simp [Ledger.names, Ledger.join]
  have fresh : ∀ event ∈ l.events, event.service ≠ d.name := by
    intro event mem same
    exact admitted.1 (same ▸ h.known event mem)
  refine ⟨?_, ?_, ?_, ?_, ?_⟩
  · simp [Ledger.join, h.aligned]
  · rw [names]
    simpa using List.Nodup.concat admitted.1 h.distinct
  · intro event mem
    rw [names]
    rcases List.mem_append.mp mem with mem | mem
    · exact List.mem_append_left _ (h.known event mem)
    · rw [List.mem_singleton.mp mem]
      exact List.mem_append_right _ (List.mem_singleton_self _)
  · intro id e state planned stands
    simp only [Ledger.join, List.getElem?_append] at planned stands
    rw [h.aligned] at stands
    split at planned
    · next inside =>
        rw [if_pos inside] at stands
        have apart : d.name ≠ e.name := by
          intro same
          exact admitted.1 (same ▸ List.mem_map_of_mem (List.mem_of_getElem? planned))
        simp only [Ledger.join]
        rw [historyOf_concat_of_ne apart]
        exact h.lives planned stands
    · next beyond =>
        rw [if_neg beyond] at stands
        obtain rfl := List.mem_singleton.mp (List.mem_of_getElem? planned)
        obtain rfl := List.mem_singleton.mp (List.mem_of_getElem? stands)
        simp only [Ledger.join]
        rw [historyOf_concat_self, historyOf_eq_nil fresh]
        exact .joins
  · intro before event after split launching
    rcases exists_of_concat_eq split with ⟨-, -, rfl⟩ | ⟨rest, earlier⟩
    · rcases launching with same | same <;> cases same
    · obtain ⟨e, mem, named, was⟩ := h.due earlier launching
      refine ⟨e, List.mem_append_left _ mem, named, ?_⟩
      intro dependency needed
      rw [names]
      exact ⟨List.mem_append_left _ (was dependency needed).1, (was dependency needed).2⟩

theorem step (entry : Step now l l') (h : l.Faithful) : l'.Faithful := by
  cases entry with
  | stays => exact h
  | joins admitted => exact h.join admitted
  | launches edge planned idle ready =>
      exact h.record planned idle (.launches (h.lives planned idle) edge)
        (fun _ => h.due_of_ready ready) rfl rfl rfl
  | turns edge planned stood =>
      refine h.record planned stood (.turns (h.lives planned stood) edge) ?_ rfl rfl rfl
      intro launching
      cases edge with
      | readies | completes | fails => rcases launching with same | same <;> cases same
      | stops active ended =>
          rcases ended with rfl | rfl <;> rcases launching with same | same <;> cases same

end Faithful

end Ledger

namespace Duty

theorem faithful_run (settings : Settings) (pool : Pool) (moves : List DutyMove) :
    ((ofSettings settings pool).run moves).controller.ledger.Backs
        ((ofSettings settings pool).run moves).wait? ∧
      ((ofSettings settings pool).run moves).controller.ledger.Faithful := by
  have start : (ofSettings settings pool).controller.ledger.Faithful := by
    refine ⟨rfl, List.nodup_nil, nofun, nofun, ?_⟩
    intro before event after split
    exact absurd split (by simp [ofSettings, controller, Controller.ledger, Controller.ofSettings])
  exact ledger_keeps Ledger.Faithful.step (.idle _) start moves

/-- Whatever a controller is told to do, and however its operations go or are dropped: names
are used once, no event is ever taken back, and at the time when the start or the run of a
service is recorded, each of its dependencies is a service of which just the joining, the start
and the readiness were recorded, and no stop. -/
theorem ready_of_launch (settings : Settings) (pool : Pool) (moves : List DutyMove) :
    let d := (ofSettings settings pool).run moves
    (d.controller.handles.map Handle.name).Nodup ∧
      (∀ move, d.controller.events <+: (d.step move).controller.events) ∧
      ∀ before event after, d.controller.events = before ++ event :: after →
        event.kind = .starting ∨ event.kind = .running →
        ∃ handle ∈ d.controller.handles, handle.name = event.service ∧
          ∀ dependency ∈ handle.descriptor.dependsOn,
            (∃ other ∈ d.controller.handles, other.name = dependency) ∧
            historyOf before dependency = [.provisioned, .starting, .ready] := by
  intro d
  obtain ⟨backs, faithful⟩ := faithful_run settings pool moves
  refine ⟨?_, ?_, ?_⟩
  · rw [← Controller.names_ledger]
    exact faithful.distinct
  · intro move
    have kept := ledger_keeps (P := fun l => d.controller.events <+: l.events)
      (fun entry old => old.trans entry.events_prefix) backs List.prefix_rfl [move]
    exact kept.2
  · intro before event after split launching
    obtain ⟨plan, mem, named, due⟩ := faithful.due split launching
    obtain ⟨handle, there, rfl⟩ := List.mem_map.mp mem
    refine ⟨handle, there, named, ?_⟩
    intro dependency needed
    obtain ⟨known, history⟩ := due dependency needed
    rw [Controller.names_ledger] at known
    obtain ⟨other, mem', same⟩ := List.mem_map.mp known
    exact ⟨⟨other, mem', same⟩, history⟩

end Duty

end Interop
