import Interop.Proofs.Lifecycle.Careers
import Interop.Proofs.Lifecycle.Sequence
import Interop.Proofs.Lifecycle.Teardown

/-!
# Forced stops and their warnings

A stop that goes wrong is forced: an event says so, and a warning names the service.  Only the
end of a stop records that a service is stopped, and it reports a warning just when it was
forced.  So a teardown has one warning for each service that it had to force, in the order in
which it stopped them.
-/

namespace Interop

/-! ## Forced stops -/

/-- The event is the last one of its service. -/
def EventKind.isEnd : EventKind → Bool
  | .stopped | .forcedStop => true
  | .provisioned | .starting | .ready | .startFailed | .running | .completed => false

/-- The services whose stop was forced, oldest first. -/
def forcedIn (events : List Event) : List String :=
  (events.filter fun event => event.kind == .forcedStop).map Event.service

theorem forcedIn_append (events more : List Event) :
    forcedIn (events ++ more) = forcedIn events ++ forcedIn more := by
  simp [forcedIn]

theorem forcedIn_concat_of_ne {event : Event} (other : event.kind ≠ .forcedStop)
    (events : List Event) : forcedIn (events ++ [event]) = forcedIn events := by
  simp [forcedIn, other]

theorem count_forcedIn (events : List Event) (name : String) :
    (forcedIn events).count name = (historyOf events name).count .forcedStop := by
  simp only [forcedIn, historyOf, List.count_eq_countP, List.countP_map, List.countP_filter]
  refine List.countP_congr fun event _ => ?_
  simp [and_comm]

private theorem unended_of_mem_careers :
    ∀ career ∈ careers, career.2 ≠ .stopped ∧ ∀ kind ∈ career.1, kind.isEnd = false := by
  decide

/-- The end of a service that is stopped was recorded last, and once; it says whether the stop
was forced. -/
theorem Career.ended {kinds : List EventKind} (career : Career kinds .stopped) :
    ∃ (past : List EventKind) (final : EventKind), kinds = past ++ [final] ∧
      final.isEnd = true ∧ (∀ kind ∈ past, kind.isEnd = false) ∧
      kinds.count .forcedStop = if final = .forcedStop then 1 else 0 := by
  rcases career with mem | ⟨-, career, mem, ended⟩
  · exact absurd rfl (unended_of_mem_careers _ mem).1
  · have unended := (unended_of_mem_careers career mem).2
    have unforced : career.1.count .forcedStop = 0 := by
      refine List.count_eq_zero.mpr fun mem => ?_
      cases unended _ mem
    rcases ended with rfl | rfl
    · exact ⟨_, _, rfl, rfl, unended, by simp [unforced]⟩
    · exact ⟨_, _, rfl, rfl, unended, by simp [unforced]⟩

/-- The names of these services. -/
def Controller.namesOf (c : Controller) (ids : List Nat) : List String :=
  ids.filterMap fun id => c.handles[id]?.map Handle.name

private theorem Controller.map_name_getElem? (c : Controller) (id : Nat) :
    c.handles[id]?.map Handle.name = c.ledger.plans[id]?.map Descriptor.name := by
  rw [ledger, List.getElem?_map, Option.map_map]
  rfl

private theorem Wait.stops?_of_undriven {wait : Wait} (undriven : wait.service? = none) :
    wait.stops? = none := by
  cases wait <;> first | rfl | cases undriven

theorem Ledger.Backs.handle_of_stops {c : Controller} {wait : Wait} (backs : c.ledger.Backs wait)
    {id : Nat} (stopping : wait.stops? = some id) : ∃ handle, c.handles[id]? = some handle := by
  obtain ⟨state, stands, -⟩ := backs.stopping stopping
  rw [Controller.ledger, Controller.states, List.getElem?_map, Option.map_eq_some_iff] at stands
  obtain ⟨handle, found, -⟩ := stands
  exact ⟨handle, found⟩

/-- The operation stops nobody. -/
structure Operation.Gentle (operation : Operation) : Prop where
  unstopped : operation.wait.stops? = none
  forth : ∀ rest warnings, operation.goal ≠ .teardown rest warnings

def Command.stops : Command → Bool
  | .stop _ | .teardown => true
  | .reserve _ | .provision _ | .start _ | .startAll | .run _ => false

namespace Site

variable {now : Instant} {ticket : Nat} {s s' : Site} {w w' : Option Wait}

theorem Moves.forcedIn_eq (moves : Moves now ticket w s w' s')
    (unstopped : ∀ x ∈ w, x.stops? = none) :
    forcedIn s'.controller.events = forcedIn s.controller.events := by
  cases moves with
  | stays | misses | queues | reserves | places | givesUp | declines | probes | pauses | lapses
  | stops | kills => rfl
  | draws accepted taken =>
      obtain ⟨held, rest, -, -, rfl⟩ := drawReserved_eq_some taken
      rfl
  | adopts d | starts | breaks | readies | runs | completes | fails =>
      refine forcedIn_concat_of_ne ?_ s.controller.events
      nofun
  | releases problem stopping => cases (unstopped _ rfl).symm.trans stopping

private theorem Moves.unstopped {wait : Wait} (moves : Moves now ticket (some wait) s w' s')
    (unstopped : wait.stops? = none) : ∀ x ∈ w', x.stops? = none := by
  intro x next
  cases moves with
  | stays =>
      obtain rfl : wait = x := by simpa using next
      exact unstopped
  | queues before after =>
      obtain rfl := Option.mem_some_iff.mp next
      exact Wait.stops?_of_seeks? after
  | places | probes | pauses =>
      obtain rfl := Option.mem_some_iff.mp next
      rfl
  | kills => cases unstopped
  | misses | reserves | givesUp | adopts | declines | lapses | readies | completes | fails
  | releases => cases next

structure Spares (s : Site) (r : Progress × Site) : Prop where
  forced : forcedIn r.2.controller.events = forcedIn s.controller.events
  gentle : ∀ operation ∈ r.1.operation?, operation.Gentle

theorem Spares.of_finished {r : Progress × Site} (finished : r.1.operation? = none)
    (forced : forcedIn r.2.controller.events = forcedIn s.controller.events) : Spares s r := by
  refine ⟨forced, fun operation goes => ?_⟩
  rw [finished] at goes
  exact absurd goes (Option.not_mem_none operation)

theorem Moves.forcedIn_of_idle (moves : Moves now ticket none s w' s') :
    forcedIn s'.controller.events = forcedIn s.controller.events :=
  moves.forcedIn_eq fun x idle => absurd idle (Option.not_mem_none x)

theorem unstopped_start (now : Instant) (id : Nat) (s : Site) :
    ∀ x ∈ (s.start now id).1.wait?, x.stops? = none := by
  unfold start
  split
  · exact fun x ends => absurd ends (Option.not_mem_none x)
  · exact fun x ends => absurd ends (Option.not_mem_none x)
  · dsimp only
    split
    · exact fun x ends => absurd ends (Option.not_mem_none x)
    · rintro _ ⟨⟩
      rfl

private theorem unstopped_run (now : Instant) (id : Nat) (s : Site) :
    ∀ x ∈ (s.run now id).1.wait?, x.stops? = none := by
  unfold run
  split
  · exact fun x ends => absurd ends (Option.not_mem_none x)
  · rintro _ ⟨⟩
    rfl

theorem spares_startFrom (now : Instant) (next : Nat) (signals : List ReadySignal) (s : Site) :
    Spares s (s.startFrom now next signals) := by
  unfold startFrom
  split
  · exact .of_finished rfl rfl
  · next id _ =>
      have forced := Moves.forcedIn_of_idle (start_leads now 0 id s)
      have unstopped := unstopped_start now id s
      split
      · next same =>
          rw [same] at forced unstopped
          refine ⟨forced, ?_⟩
          rintro _ ⟨⟩
          exact ⟨unstopped _ rfl, nofun⟩
      · next same =>
          rw [same] at forced
          exact .of_finished rfl forced
      · next same =>
          rw [same] at forced
          exact .of_finished rfl forced

theorem spares_follow {goal : Goal} (forth : ∀ rest warnings, goal ≠ .teardown rest warnings)
    {leg : Leg} {after : Site}
    (forced : forcedIn after.controller.events = forcedIn s.controller.events)
    (unstopped : ∀ x ∈ leg.wait?, x.stops? = none) (now : Instant) :
    Spares s (follow now goal leg after) := by
  unfold follow
  split
  · refine ⟨forced, ?_⟩
    rintro _ ⟨⟩
    exact ⟨unstopped _ rfl, forth⟩
  · split
    · obtain ⟨same, gentle⟩ := spares_startFrom now _ _ after
      exact ⟨same.trans forced, gentle⟩
    · exact .of_finished rfl forced
    · exact absurd rfl (forth _ _)
    · exact .of_finished rfl forced

theorem spares_issue {command : Command} (spares : command.stops = false) (now : Instant)
    (ticket : Nat) (s : Site) : Spares s (s.issue now ticket command) := by
  have alone : ∀ {r : Leg × Site}, Leads now ticket none s r →
      (∀ x ∈ r.1.wait?, x.stops? = none) → Spares s (follow now .alone r.1 r.2) :=
    fun leads unstopped => spares_follow (by nofun) (Moves.forcedIn_of_idle leads) unstopped now
  cases command with
  | stop | teardown => cases spares
  | startAll => exact spares_startFrom now 0 [] s
  | reserve count =>
      refine alone (reserve_leads now ticket count s) fun x next => ?_
      exact Wait.stops?_of_undriven ((unlaunched_reserve now ticket count s).undriven x next)
  | provision d =>
      refine alone (provision_leads now ticket d s) fun x next => ?_
      exact Wait.stops?_of_undriven ((unlaunched_provision now ticket d s).undriven x next)
  | start id => exact alone (start_leads now ticket id s) (unstopped_start now id s)
  | run id => exact alone (run_leads now ticket id s) (unstopped_run now id s)

theorem spares_resume {operation : Operation} (gentle : operation.Gentle) (now : Instant)
    (ticket : Nat) (answer : Answer) (s : Site) :
    Spares s (s.resume now ticket operation answer) := by
  have leads := continueWith_leads now ticket operation.wait answer s
  refine spares_follow gentle.forth (Moves.forcedIn_eq leads ?_)
    (Moves.unstopped leads gentle.unstopped) now
  rintro _ ⟨⟩
  exact gentle.unstopped

theorem lasting_length (n : Nat) :
    Lasting fun s w => s.controller.ledger.Backs w ∧ n ≤ s.controller.ledger.plans.length :=
  Ledger.lasting (P := fun l => n ≤ l.plans.length) fun entry inside =>
    inside.trans entry.plans_prefix.length_le

/-! ## Stops -/

structure Ends (now : Instant) (s : Site) (id : Nat) (handle : Handle) (warning : Option Warning)
    (after : Site) : Prop where
  plans : after.controller.ledger.plans = s.controller.ledger.plans
  states : after.controller.ledger.states = s.controller.ledger.states.set id .stopped
  told : ∃ kind : EventKind,
    after.controller.events = s.controller.events ++ [⟨handle.name, kind, now⟩] ∧
      (kind = .stopped ∧ warning = none ∨
        kind = .forcedStop ∧ ∃ text, warning = some ⟨handle.name, text⟩)

private theorem endStop_ends {id : Nat} {handle : Handle}
    (found : s.controller.handles[id]? = some handle) (now : Instant) (problem : Option String) :
    ∃ warning after, s.endStop now id problem = (.ends (.stopped warning), after) ∧
      Ends now s id handle warning after := by
  have written := s.controller.ledger_turn now id
    (f := fun handle => { handle with state := .stopped, lease := none }) (fun _ => rfl)
    (fun _ => rfl) handle.name (if problem.isSome then .forcedStop else .stopped)
  have plans := congrArg Ledger.plans written
  have states := congrArg Ledger.states written
  simp only [endStop, found]
  refine ⟨_, _, rfl, plans, states, _, rfl, ?_⟩
  cases problem with
  | none => exact .inl ⟨rfl, rfl⟩
  | some text => exact .inr ⟨rfl, text, rfl⟩

theorem continueWith_ends {wait : Wait} {id : Nat} (stopping : wait.stops? = some id)
    {handle : Handle} (found : s.controller.handles[id]? = some handle) (now : Instant)
    (ticket : Nat) (answer : Answer) :
    (∃ later after, s.continueWith now ticket wait answer = (.waits later, after) ∧
      later.stops? = some id ∧ after.controller.ledger = s.controller.ledger) ∨
    ∃ warning after, s.continueWith now ticket wait answer = (.ends (.stopped warning), after) ∧
      Ends now s id handle warning after := by
  cases wait with
  | stop service deadline =>
      obtain rfl : service = id := Option.some.inj stopping
      cases answer with
      | acknowledged result =>
          cases result with
          | ok _ => exact .inr (endStop_ends found now none)
          | error e => exact .inl ⟨_, _, rfl, rfl, rfl⟩
      | elapsed | woken | materialized | probed | ran => exact .inl ⟨_, _, rfl, rfl, rfl⟩
  | kill service deadline problem =>
      obtain rfl : service = id := Option.some.inj stopping
      cases answer with
      | acknowledged result => cases result <;> exact .inr (endStop_ends found now _)
      | elapsed => exact .inr (endStop_ends found now _)
      | woken | materialized | probed | ran => exact .inl ⟨_, _, rfl, rfl, rfl⟩
  | reservation | placement | materialization | start | probe | pause | run => cases stopping

theorem stop_cases {id : Nat} {handle : Handle}
    (found : s.controller.handles[id]? = some handle) (now : Instant) :
    (handle.state = .stopped ∧ s.stop now id = (.ends (.stopped none), s)) ∨
      handle.state ≠ .stopped ∧ ∃ deadline, s.stop now id =
        (.waits (.stop id deadline), s.modify fun c => c.ask (.stop id)) := by
  by_cases stopped : handle.state = .stopped
  · exact .inl ⟨stopped, by simp [stop, found, stopped]⟩
  · exact .inr ⟨stopped, s.graceLimit now, by simp [stop, found, stopped]⟩

theorem Ends.forced {id : Nat} {handle : Handle} {warning : Option Warning} {after : Site}
    (ends : Ends now s id handle warning after) :
    forcedIn after.controller.events =
      forcedIn s.controller.events ++ warning.toList.map Warning.service := by
  obtain ⟨kind, events, ⟨rfl, rfl⟩ | ⟨rfl, text, rfl⟩⟩ := ends.told
  · rw [events]
    exact (forcedIn_concat_of_ne (by nofun) _).trans (List.append_nil _).symm
  · rw [events, forcedIn_append]
    rfl

theorem issue_stop_cases {id : Nat} {handle : Handle}
    (found : s.controller.handles[id]? = some handle) (now : Instant) (ticket : Nat) :
    s.issue now ticket (.stop id) = (.finished (.stopped none), s) ∨
      ∃ deadline, s.issue now ticket (.stop id) =
        (.waiting ⟨.alone, .stop id deadline⟩, s.modify fun c => c.ask (.stop id)) := by
  rcases stop_cases found now with ⟨-, led⟩ | ⟨-, deadline, led⟩
  · exact .inl (by simp only [issue, led, follow])
  · exact .inr ⟨deadline, by simp only [issue, led, follow]⟩

theorem resume_stop_cases {wait : Wait} {id : Nat} (stopping : wait.stops? = some id)
    {handle : Handle} (found : s.controller.handles[id]? = some handle) (now : Instant)
    (ticket : Nat) (answer : Answer) :
    (∃ later after, s.resume now ticket ⟨.alone, wait⟩ answer = (.waiting ⟨.alone, later⟩, after) ∧
      later.stops? = some id ∧ after.controller.ledger = s.controller.ledger) ∨
    ∃ warning after,
      s.resume now ticket ⟨.alone, wait⟩ answer = (.finished (.stopped warning), after) ∧
      Ends now s id handle warning after := by
  rcases continueWith_ends stopping found now ticket answer with
    ⟨later, after, led, still, same⟩ | ⟨warning, after, led, ends⟩
  · exact .inl ⟨later, after, by simp only [resume, led, follow], still, same⟩
  · exact .inr ⟨warning, after, by simp only [resume, led, follow], ends⟩

end Site

/-! ## Teardowns -/

/-- Since then the services of that list were stopped, in that order, and those whose stop was
forced have a warning each. -/
structure Ended (old c : Controller) (past : List Nat) (warnings : List Warning) : Prop where
  plans : c.ledger.plans = old.ledger.plans
  told : ∃ ended, c.events = old.events ++ ended ∧ ended.map Event.service = old.namesOf past ∧
    (∀ event ∈ ended, event.kind.isEnd = true) ∧ warnings.map Warning.service = forcedIn ended

namespace Ended

variable {old c : Controller} {past : List Nat} {warnings : List Warning}

private theorem refl (c : Controller) : Ended c c [] [] :=
  ⟨rfl, [], (List.append_nil _).symm, rfl, nofun, rfl⟩

theorem carried (h : Ended old c past warnings) {c' : Controller} (ledger : c'.ledger = c.ledger) :
    Ended old c' past warnings := by
  obtain ⟨plans, ended, events, rest⟩ := h
  have events' : c'.events = c.events := congrArg Ledger.events ledger
  exact ⟨(congrArg Ledger.plans ledger).trans plans, ended, events'.trans events, rest⟩

private theorem concat {s after : Site} (h : Ended old s.controller past warnings) {now : Instant}
    {id : Nat} {handle : Handle} (found : s.controller.handles[id]? = some handle)
    {warning : Option Warning} (ends : Site.Ends now s id handle warning after) :
    Ended old after.controller (past ++ [id]) (warnings ++ warning.toList) := by
  obtain ⟨plans, ended, events, services, final, owed⟩ := h
  have named : old.handles[id]?.map Handle.name = some handle.name := by
    rw [Controller.map_name_getElem?, ← plans, ← Controller.map_name_getElem?, found]
    rfl
  have names : old.namesOf (past ++ [id]) = old.namesOf past ++ [handle.name] := by
    simp [Controller.namesOf, named]
  obtain ⟨kind, events', outcome⟩ := ends.told
  refine ⟨ends.plans.trans plans, ended ++ [⟨handle.name, kind, now⟩], ?_, ?_, ?_, ?_⟩
  · rw [events', events, List.append_assoc]
  · rw [List.map_append, services, names]
    rfl
  · intro event mem
    rcases List.mem_append.mp mem with mem | mem
    · exact final event mem
    · rw [List.mem_singleton.mp mem]
      rcases outcome with ⟨rfl, -⟩ | ⟨rfl, -⟩ <;> rfl
  · rw [List.map_append, owed]
    rcases outcome with ⟨rfl, rfl⟩ | ⟨rfl, text, rfl⟩
    · exact (List.append_nil _).trans (forcedIn_concat_of_ne (by nofun) _).symm
    · rw [forcedIn_append]
      rfl

end Ended

/-- Where a teardown can have come to: it has stopped the first services of its plan, and has
the warnings of those that it had to force. -/
inductive Winding (old : Controller) : Progress → Controller → Prop
  | going {c : Controller} {wait : Wait} {warnings : List Warning} {id : Nat}
      {past rest : List Nat} (stopping : wait.stops? = some id)
      (ended : Ended old c past warnings)
      (ahead : Site.teardownPlan old = past ++ id :: rest.filter c.isActive)
      (once : (id :: rest).Nodup) (known : ∀ other ∈ rest, other < c.ledger.plans.length) :
      Winding old (.waiting ⟨.teardown rest warnings, wait⟩) c
  | finished {c : Controller} {warnings : List Warning}
      (ended : Ended old c (Site.teardownPlan old) warnings) :
      Winding old (.finished (.tornDown warnings)) c

namespace Winding

variable {old : Controller} {s : Site}

theorem teardownFrom (now : Instant) {warnings : List Warning} {past order : List Nat}
    (ended : Ended old s.controller past warnings)
    (ahead : Site.teardownPlan old = past ++ order.filter s.controller.isActive)
    (once : order.Nodup) (known : ∀ id ∈ order, id < s.controller.ledger.plans.length) :
    Winding old (s.teardownFrom now warnings order).1
      (s.teardownFrom now warnings order).2.controller := by
  induction order with
  | nil =>
      rw [List.filter_nil, List.append_nil] at ahead
      rw [Site.teardownFrom]
      exact .finished (ahead ▸ ended.carried (Controller.ledger_dropReservation s))
  | cons id rest ih =>
      have inside := known id List.mem_cons_self
      rw [Controller.ledger, List.length_map] at inside
      have found := List.getElem?_eq_getElem inside
      have known := fun other mem => known other (List.mem_cons_of_mem id mem)
      rcases Site.stop_cases found now with ⟨stopped, led⟩ | ⟨running, deadline, led⟩
      · have still : ¬ s.controller.isActive id = true := by
          rw [Controller.isActive_iff]
          rintro ⟨handle, there, active⟩
          obtain rfl := Option.some.inj (found.symm.trans there)
          exact active stopped
        rw [List.filter_cons_of_neg still] at ahead
        rw [Site.teardownFrom, led]
        exact ih ahead (List.nodup_cons.mp once).2 known
      · have active := Controller.isActive_iff.mpr ⟨_, found, running⟩
        rw [List.filter_cons_of_pos active] at ahead
        rw [Site.teardownFrom, led]
        exact .going rfl (ended.carried rfl) ahead once known

theorem issue (sound : s.controller.Sound) (now : Instant) (ticket : Nat) :
    Winding s.controller (s.issue now ticket .teardown).1
      (s.issue now ticket .teardown).2.controller := by
  refine teardownFrom now (.refl _) rfl (Site.nodup_teardownOrder sound.ordered.once) ?_
  intro id mem
  obtain ⟨handle, found⟩ := Site.handle_of_mem_teardownOrder sound.faithful sound.ordered mem
  exact (List.getElem?_eq_some_iff.mp (Controller.plan_of_handle found)).1

theorem resume {operation : Operation} (h : Winding old (.waiting operation) s.controller)
    (backs : s.controller.ledger.Backs operation.wait) (now : Instant) (ticket : Nat)
    (answer : Answer) :
    Winding old (s.resume now ticket operation answer).1
      (s.resume now ticket operation answer).2.controller := by
  cases h with
  | @going _ wait warnings id past rest stopping ended ahead once known =>
      obtain ⟨handle, found⟩ := backs.handle_of_stops stopping
      rcases Site.continueWith_ends stopping found now ticket answer with
        ⟨later, after, led, still, same⟩ | ⟨warning, after, led, ends⟩
      · have active := Controller.isActive_congr (congrArg Ledger.states same)
        simp only [Site.resume, led, Site.follow]
        refine .going still (ended.carried same) (active ▸ ahead) once ?_
        rw [same]
        exact known
      · -- The stop is over; the service is not on the list, so the list is as it was.
        have same : rest.filter after.controller.isActive = rest.filter s.controller.isActive := by
          refine List.filter_congr ?_
          intro other mem
          have apart : other ≠ id := fun same => (List.nodup_cons.mp once).1 (same ▸ mem)
          simp [Controller.isActive_of_set ends.states, apart]
        simp only [Site.resume, led, Site.follow]
        refine teardownFrom now (ended.concat found ends) ?_ (List.nodup_cons.mp once).2 ?_
        · rw [same, ahead, List.append_assoc]
          rfl
        · rw [ends.plans]
          exact known

theorem carried {progress : Progress} {c c' : Controller} (h : Winding old progress c)
    (ledger : c'.ledger = c.ledger) : Winding old progress c' := by
  cases h with
  | going stopping ended ahead once known =>
      have active := Controller.isActive_congr (congrArg Ledger.states ledger)
      exact .going stopping (ended.carried ledger) (active ▸ ahead) once (ledger ▸ known)
  | finished ended => exact .finished (ended.carried ledger)

end Winding

end Interop
