import Interop.Proofs.Lifecycle.Precedence

/-!
# What a teardown stops, and when

A teardown asks the services that are not stopped to stop, one at a time: the driven ones from
the last one back, then the others from the last one back.  Whatever they answer, each is
stopped after two answers at most, and the next one is asked.
-/

namespace Interop

/-! ## What is asked -/

def Request.stop? : Request → Option Nat
  | .stop id => some id
  | _ => none

namespace Controller

/-- The services that were asked to stop, oldest first. -/
def stopLog (c : Controller) : List Nat := c.requests.reverse.filterMap Request.stop?

/-- The service is there and not stopped. -/
def isActive (c : Controller) (id : Nat) : Bool := c.states[id]?.any fun state => state != .stopped

/-- The one service needs the other. -/
def Depends (c : Controller) (id other : Nat) : Prop :=
  ∃ handle handle', c.handles[id]? = some handle ∧ c.handles[other]? = some handle' ∧
    handle'.name ∈ handle.descriptor.dependsOn

theorem isActive_iff {c : Controller} {id : Nat} :
    c.isActive id = true ↔ ∃ handle, c.handles[id]? = some handle ∧ handle.state ≠ .stopped := by
  simp only [isActive, states, List.getElem?_map]
  cases c.handles[id]? <;> simp

theorem isActive_congr {c c' : Controller} (states : c'.states = c.states) :
    c'.isActive = c.isActive := by
  funext id
  rw [isActive, states, isActive]

theorem isActive_of_set {c c' : Controller} {id : Nat}
    (states : c'.states = c.states.set id .stopped) (other : Nat) :
    c'.isActive other = (c.isActive other && other != id) := by
  rw [isActive, states, isActive]
  by_cases here : id = other
  · subst here
    rw [List.getElem?_set_self']
    cases c.states[id]? <;> simp
  · rw [List.getElem?_set_ne here]
    simp [Ne.symm here]

private theorem stopLog_ask_stop (c : Controller) (id : Nat) :
    (c.ask (.stop id)).stopLog = c.stopLog ++ [id] := by
  simp [stopLog, ask, Request.stop?]

private theorem depends_ledger {c : Controller} {id other : Nat} :
    c.ledger.Depends id other ↔ c.Depends id other := by
  simp only [Ledger.Depends, Depends, ledger, List.getElem?_map, Option.map_eq_some_iff]
  constructor
  · rintro ⟨-, -, ⟨handle, found, rfl⟩, ⟨handle', found', rfl⟩, mem⟩
    exact ⟨handle, handle', found, found', mem⟩
  · rintro ⟨handle, handle', found, found', mem⟩
    exact ⟨_, _, ⟨handle, found, rfl⟩, ⟨handle', found', rfl⟩, mem⟩

end Controller

/-! ## The plan -/

namespace Site

/-- The services that a teardown has to stop, in the order in which it does. -/
def teardownPlan (c : Controller) : List Nat := (teardownOrder c).filter c.isActive

private theorem mem_teardownPlan {c : Controller} {id : Nat} :
    id ∈ teardownPlan c ↔ ∃ handle, c.handles[id]? = some handle ∧ handle.state ≠ .stopped := by
  rw [teardownPlan, List.mem_filter, Controller.isActive_iff]
  constructor
  · exact And.right
  · rintro ⟨handle, found, active⟩
    exact ⟨mem_teardownOrder (List.getElem?_eq_some_iff.mp found).1, handle, found, active⟩

theorem nodup_teardownOrder {c : Controller} (once : c.startOrder.Nodup) :
    (teardownOrder c).Nodup := by
  refine List.nodup_append.mpr ⟨List.nodup_reverse.mpr once, ?_, ?_⟩
  · exact (List.nodup_reverse.mpr List.nodup_range).filter _
  · rintro id mem other mem' rfl
    simp only [List.mem_filter, Bool.not_eq_true', List.contains_eq_mem,
      decide_eq_false_iff_not] at mem'
    exact mem'.2 (List.mem_reverse.mp mem)

theorem handle_of_mem_teardownOrder {c : Controller} (faithful : c.ledger.Faithful)
    (ordered : c.ledger.Ordered) {id : Nat} (mem : id ∈ teardownOrder c) :
    ∃ handle, c.handles[id]? = some handle := by
  have inside : id < c.handles.length := by
    rcases List.mem_append.mp mem with mem | mem
    · have driven := ordered.inside faithful (List.mem_reverse.mp mem)
      rwa [Controller.ledger, List.length_map] at driven
    · exact List.mem_range.mp (List.mem_reverse.mp (List.mem_filter.mp mem).1)
  exact ⟨_, List.getElem?_eq_getElem inside⟩

private theorem sublist_of_pairwise {α : Type} {R : α → α → Prop} {as : List α} {a b : α}
    (ordered : as.Pairwise R) (mem : a ∈ as) (mem' : b ∈ as) (apart : a ≠ b) (free : ¬ R b a) :
    [a, b].Sublist as := by
  induction as with
  | nil => cases mem
  | cons first rest ih =>
      obtain ⟨before, later⟩ := List.pairwise_cons.mp ordered
      rcases List.mem_cons.mp mem with rfl | inside
      · rcases List.mem_cons.mp mem' with rfl | inside'
        · exact absurd rfl apart
        · exact (List.singleton_sublist.mpr inside').cons_cons a
      · rcases List.mem_cons.mp mem' with rfl | inside'
        · exact absurd (before a inside) free
        · exact (ih later inside inside').cons first

/-- Among the driven services, and among the others, whoever needs another is stopped before
it. -/
theorem sublist_teardownPlan {c : Controller} (faithful : c.ledger.Faithful)
    (ordered : c.ledger.Ordered) {id other : Nat} (depends : c.Depends id other)
    (mem : id ∈ teardownPlan c) (mem' : other ∈ teardownPlan c)
    (alike : id ∈ c.startOrder ↔ other ∈ c.startOrder) : [id, other].Sublist (teardownPlan c) := by
  have need := Controller.depends_ledger.mpr depends
  have below := ordered.lt_of_depends faithful need
  have apart : id ≠ other := Nat.ne_of_gt below
  obtain ⟨inside, active⟩ := List.mem_filter.mp mem
  obtain ⟨inside', active'⟩ := List.mem_filter.mp mem'
  have pair : [id, other].filter c.isActive = [id, other] := by simp [active, active']
  rw [teardownPlan, ← pair]
  refine List.Sublist.filter _ ?_
  by_cases started : id ∈ c.startOrder
  · refine .trans ?_ (List.sublist_append_left _ _)
    have back := List.pairwise_reverse.mpr ordered.respects
    exact sublist_of_pairwise back (List.mem_reverse.mpr started)
      (List.mem_reverse.mpr (alike.mp started)) apart (fun free => free need)
  · refine .trans ?_ (List.sublist_append_right _ _)
    have back := (List.pairwise_reverse.mpr (List.pairwise_lt_range (n := c.handles.length))).filter
      fun id => !c.startOrder.contains id
    have rest : ∀ {x}, x ∈ teardownOrder c → x ∉ c.startOrder →
        x ∈ (List.range c.handles.length).reverse.filter fun id => !c.startOrder.contains id := by
      intro x mem idle
      rcases List.mem_append.mp mem with mem | mem
      · exact absurd (List.mem_reverse.mp mem) idle
      · exact mem
    refine sublist_of_pairwise back (rest inside started) (rest inside' ?_) apart ?_
    · exact fun started' => started (alike.mpr started')
    · exact Nat.lt_asymm below

end Site

/-! ## The way through the plan -/

def Wait.patience : Wait → Nat
  | .stop _ _ => 2
  | .kill _ _ _ => 1
  | _ => 0

theorem Wait.one_le_patience {wait : Wait} {id : Nat} (stopping : wait.stops? = some id) :
    1 ≤ wait.patience := by
  cases wait with
  | stop | kill => simp [patience]
  | reservation | placement | materialization | start | probe | pause | run => cases stopping

def Answer.prompts : Answer → Bool
  | .acknowledged _ | .elapsed => true
  | _ => false

namespace Site

variable {now : Instant} {ticket : Nat} {s : Site}

private theorem stop_of_isActive {id : Nat} (now : Instant)
    (active : s.controller.isActive id = true) :
    ∃ deadline, s.stop now id =
      (.waits (.stop id deadline), s.modify fun c => c.ask (.stop id)) := by
  obtain ⟨handle, found, running⟩ := Controller.isActive_iff.mp active
  refine ⟨s.graceLimit now, ?_⟩
  simp [stop, found, running]

private theorem stop_of_not_isActive {id : Nat} (now : Instant)
    (still : ¬ s.controller.isActive id = true) :
    ∃ warning, s.stop now id = (.ends (.stopped warning), s) := by
  unfold stop
  split
  · exact ⟨_, rfl⟩
  · next handle found =>
      split
      · exact ⟨none, rfl⟩
      · next active => exact absurd (Controller.isActive_iff.mpr ⟨handle, found, active⟩) still

/-- The first service on the list that is not stopped is asked to stop; without one the
teardown ends. -/
theorem teardownFrom_cases (now : Instant) (warnings : List Warning) (order : List Nat)
    (s : Site) :
    (order.filter s.controller.isActive = [] ∧
      ∃ later, s.teardownFrom now warnings order =
        (.finished (.tornDown later), s.dropReservation)) ∨
    ∃ id rest later deadline, id :: rest <:+ order ∧
      order.filter s.controller.isActive = id :: rest.filter s.controller.isActive ∧
      s.controller.isActive id = true ∧
      s.teardownFrom now warnings order =
        (.waiting ⟨.teardown rest later, .stop id deadline⟩,
          s.modify fun c => c.ask (.stop id)) := by
  induction order generalizing warnings with
  | nil => exact .inl ⟨rfl, warnings, rfl⟩
  | cons id rest ih =>
      by_cases active : s.controller.isActive id = true
      · obtain ⟨deadline, asked⟩ := stop_of_isActive now active
        refine .inr ⟨id, rest, warnings, deadline, List.suffix_rfl, ?_, active, ?_⟩
        · rw [List.filter_cons_of_pos active]
        · rw [teardownFrom, asked]
      · obtain ⟨warning, skipped⟩ := stop_of_not_isActive now active
        have same : ∃ later, s.teardownFrom now warnings (id :: rest) =
            s.teardownFrom now later rest := by
          rw [teardownFrom, skipped]
          cases warning with
          | none => exact ⟨_, rfl⟩
          | some warning => exact ⟨_, rfl⟩
        obtain ⟨later, same⟩ := same
        rw [same, List.filter_cons_of_neg active]
        rcases ih later with ended | ⟨next, rest', later', deadline, suffix, ahead, led⟩
        · exact .inl ended
        · exact .inr ⟨next, rest', later', deadline, suffix.trans (List.suffix_cons id rest),
            ahead, led⟩

/-- Where all services are stopped, a teardown asks nobody and has nothing to report. -/
theorem teardownFrom_of_stopped (now : Instant) (warnings : List Warning) {order : List Nat}
    (stopped : ∀ id ∈ order, ∃ handle, s.controller.handles[id]? = some handle ∧
      handle.state = .stopped) (unreserved : s.controller.reservation = none) :
    s.teardownFrom now warnings order = (.finished (.tornDown warnings), s) := by
  induction order with
  | nil => simp [teardownFrom, dropReservation, unreserved]
  | cons id rest ih =>
      obtain ⟨handle, found, still⟩ := stopped id List.mem_cons_self
      have skipped : s.stop now id = (.ends (.stopped none), s) := by simp [stop, found, still]
      rw [teardownFrom, skipped]
      exact ih fun other mem => stopped other (List.mem_cons_of_mem id mem)

private theorem stopLog_dropReservation (s : Site) :
    s.dropReservation.controller.stopLog = s.controller.stopLog := by
  unfold dropReservation
  split <;> rfl

private theorem endStop_states (now : Instant) (id : Nat) (problem : Option String) (s : Site) :
    ∃ warning after, s.endStop now id problem = (.ends (.stopped warning), after) ∧
      after.controller.stopLog = s.controller.stopLog ∧
      after.controller.states = s.controller.states.set id .stopped := by
  unfold endStop
  split
  · next gone =>
      refine ⟨none, s, rfl, rfl, ?_⟩
      have beyond : s.controller.states.length ≤ id := by
        simpa [Controller.states] using List.getElem?_eq_none_iff.mp gone
      exact (List.set_eq_of_length_le beyond).symm
  · refine ⟨_, _, rfl, rfl, ?_⟩
    rw [List.set_eq_modify]
    exact Controller.states_modifyHandle s.controller id fun _ => rfl

/-- A service that is being stopped is still being stopped after an answer, with less patience
if the answer prompts it, or is stopped. -/
theorem continueWith_patience {wait : Wait} {id : Nat} (stopping : wait.stops? = some id)
    (now : Instant) (ticket : Nat) (answer : Answer) (s : Site) :
    (∃ later after, s.continueWith now ticket wait answer = (.waits later, after) ∧
      later.stops? = some id ∧ after.controller.stopLog = s.controller.stopLog ∧
      after.controller.states = s.controller.states ∧
      later.patience + answer.prompts.toNat ≤ wait.patience) ∨
    ∃ warning after, s.continueWith now ticket wait answer = (.ends (.stopped warning), after) ∧
      after.controller.stopLog = s.controller.stopLog ∧
      after.controller.states = s.controller.states.set id .stopped := by
  have killed : ∀ problem, (s.kill now id problem).2.controller.stopLog = s.controller.stopLog := by
    intro problem
    simp [kill, modify, Controller.stopLog, Controller.ask, Request.stop?]
  cases wait with
  | stop service deadline =>
      obtain rfl : service = id := Option.some.inj stopping
      cases answer with
      | acknowledged result =>
          cases result with
          | ok _ => exact .inr (endStop_states now service none s)
          | error e =>
              refine .inl ⟨_, _, rfl, rfl, ?_, rfl, Nat.le_refl 2⟩
              exact killed ("graceful stop failed: " ++ e.message)
      | elapsed =>
          refine .inl ⟨_, _, rfl, rfl, ?_, rfl, Nat.le_refl 2⟩
          exact killed ("did not stop within " ++ s.graceText)
      | woken | materialized | probed | ran =>
          exact .inl ⟨_, _, rfl, rfl, rfl, rfl, Nat.le_refl 2⟩
  | kill service deadline problem =>
      obtain rfl : service = id := Option.some.inj stopping
      cases answer with
      | acknowledged result => cases result <;> exact .inr (endStop_states now service _ s)
      | elapsed => exact .inr (endStop_states now service _ s)
      | woken | materialized | probed | ran =>
          exact .inl ⟨_, _, rfl, rfl, rfl, rfl, Nat.le_refl 1⟩
  | reservation | placement | materialization | start | probe | pause | run => cases stopping

end Site

/-- After the stops of `log`, a teardown is on its way through `plan` and needs at most `left`
more answers, or is over. -/
inductive Tearing (log plan : List Nat) (left : Nat) : Option Operation → Controller → Prop
  | going {operation : Operation} {c : Controller} {warnings : List Warning} {id : Nat}
      {past rest : List Nat} (goal : operation.goal = .teardown rest warnings)
      (stopping : operation.wait.stops? = some id) (asked : c.stopLog = log ++ past ++ [id])
      (ahead : plan = past ++ id :: rest.filter c.isActive) (once : (id :: rest).Nodup)
      (covered : ∀ other, c.isActive other = true → other ∈ id :: rest)
      (short : operation.wait.patience + 2 * (rest.filter c.isActive).length ≤ left) :
      Tearing log plan left (some operation) c
  | ended {c : Controller} (asked : c.stopLog = log ++ plan)
      (still : ∀ id, c.isActive id = false) (unreserved : c.reservation = none) :
      Tearing log plan left none c

namespace Tearing

variable {log plan : List Nat} {left : Nat} {now : Instant} {ticket : Nat} {s : Site}

theorem teardownFrom (now : Instant) (warnings : List Warning) (past : List Nat)
    {order : List Nat} (asked : s.controller.stopLog = log ++ past)
    (ahead : plan = past ++ order.filter s.controller.isActive) (once : order.Nodup)
    (covered : ∀ id, s.controller.isActive id = true → id ∈ order)
    (short : 2 * (order.filter s.controller.isActive).length ≤ left) :
    Tearing log plan left (s.teardownFrom now warnings order).1.operation?
      (s.teardownFrom now warnings order).2.controller := by
  rcases Site.teardownFrom_cases now warnings order s with
    ⟨done, later, led⟩ | ⟨id, rest, later, deadline, suffix, first, active, led⟩
  · rw [led]
    rw [done, List.append_nil] at ahead
    have ledger := Controller.ledger_dropReservation s
    have states : s.dropReservation.controller.states = s.controller.states :=
      congrArg Ledger.states ledger
    refine .ended ?_ ?_ (Site.dropReservation_reservation s)
    · rw [Site.stopLog_dropReservation, asked, ahead]
    · intro id
      rw [Controller.isActive_congr states]
      by_contra active
      have mem := List.mem_filter.mpr ⟨covered id (by simpa using active), by simpa using active⟩
      rw [done] at mem
      cases mem
  · rw [led]
    have same : (s.modify fun c => c.ask (.stop id)).controller.isActive =
        s.controller.isActive := rfl
    rw [first] at ahead short
    refine .going rfl rfl ?_ ahead (once.sublist suffix.sublist) ?_ ?_
    · rw [Site.modify, Controller.stopLog_ask_stop, asked]
    · intro other running
      have running : s.controller.isActive other = true := running
      have mem := List.mem_filter.mpr ⟨covered other running, running⟩
      rw [first] at mem
      rcases List.mem_cons.mp mem with rfl | mem
      · exact List.mem_cons_self
      · exact List.mem_cons_of_mem id (List.mem_filter.mp mem).1
    · have two : 2 + 2 * (rest.filter s.controller.isActive).length ≤ left := by
        rw [List.length_cons] at short
        omega
      exact two

private theorem issue (ordered : s.controller.startOrder.Nodup) (now : Instant) (ticket : Nat) :
    Tearing s.controller.stopLog (Site.teardownPlan s.controller)
      (2 * (Site.teardownPlan s.controller).length)
      (s.issue now ticket .teardown).1.operation? (s.issue now ticket .teardown).2.controller := by
  refine teardownFrom now [] [] (by simp) rfl (Site.nodup_teardownOrder ordered) ?_
    (Nat.le_refl _)
  intro id active
  obtain ⟨handle, found, -⟩ := Controller.isActive_iff.mp active
  exact Site.mem_teardownOrder (List.getElem?_eq_some_iff.mp found).1

private theorem resume {operation : Operation}
    (h : Tearing log plan left (some operation) s.controller) (now : Instant) (ticket : Nat)
    (answer : Answer) :
    Tearing log plan (left - answer.prompts.toNat)
      (s.resume now ticket operation answer).1.operation?
      (s.resume now ticket operation answer).2.controller := by
  generalize current : some operation = o at h
  cases h with
  | ended => cases current
  | @going _ _ warnings id past rest goal stopping asked ahead once covered short =>
      obtain rfl := Option.some.inj current
      obtain ⟨absent, once⟩ := List.nodup_cons.mp once
      rcases Site.continueWith_patience stopping now ticket answer s with
        ⟨later, after, led, still, log', states, patience⟩ | ⟨warning, after, led, log', states⟩
      · have active := Controller.isActive_congr states
        simp only [Site.resume, led, Site.follow, Progress.operation?]
        refine .going goal still (log'.trans asked) ?_ (List.nodup_cons.mpr ⟨absent, once⟩) ?_ ?_
        · rw [active]
          exact ahead
        · rw [active]
          exact covered
        · rw [active]
          show later.patience + _ ≤ _
          omega
      · -- The stop is over; the service is not on the list, so the list is as it was.
        have same : rest.filter after.controller.isActive = rest.filter s.controller.isActive := by
          refine List.filter_congr ?_
          intro other mem
          have apart : other ≠ id := fun same => absent (same ▸ mem)
          simp [Controller.isActive_of_set states, apart]
        simp only [Site.resume, led, Site.follow, goal]
        refine teardownFrom now _ (past ++ [id]) ?_ ?_ once ?_ ?_
        · rw [log', asked, List.append_assoc]
        · rw [ahead, same]
          simp
        · intro other running
          rw [Controller.isActive_of_set states] at running
          have mem := covered other (by simp_all)
          rcases List.mem_cons.mp mem with rfl | mem
          · simp at running
          · exact mem
        · have patient := Wait.one_le_patience stopping
          have prompt := Bool.toNat_le answer.prompts
          rw [same]
          omega

end Tearing

/-- An answer that gets a stop on. -/
def DutyMove.prompts : DutyMove → Bool
  | .answer _ _ given => given.prompts
  | _ => false

namespace Tearing

variable {log plan : List Nat} {left : Nat}

private theorem congr {operation : Option Operation} {c c' : Controller}
    (h : Tearing log plan left operation c) (active : c'.isActive = c.isActive)
    (asked' : c'.stopLog = c.stopLog) (reservation : c'.reservation = c.reservation) :
    Tearing log plan left operation c' := by
  cases h with
  | going goal stopping asked ahead once covered short =>
      refine .going goal stopping (asked'.trans asked) ?_ once ?_ ?_ <;> rwa [active]
  | ended asked still unreserved =>
      exact .ended (asked'.trans asked) (by rwa [active]) (reservation.trans unreserved)

private theorem step {d : Duty} (h : Tearing log plan left d.operation d.controller)
    {move : DutyMove}
    (attends : move.attends = true) :
    Tearing log plan (left - move.prompts.toNat) (d.step move).operation
      (d.step move).controller := by
  cases move with
  | issue | cancel => cases attends
  | share pool => exact h
  | observe service exposure =>
      have states : (d.controller.observe service exposure).states = d.controller.states :=
        congrArg Ledger.states (Controller.ledger_observe _ service exposure)
      exact h.congr (Controller.isActive_congr states) rfl rfl
  | answer now ticket given =>
      cases busy : d.operation with
      | none =>
          rw [busy] at h
          simp only [Duty.step, busy]
          cases h with
          | ended asked still unreserved => exact .ended asked still unreserved
      | some operation =>
          rw [busy] at h
          simp only [Duty.step, busy]
          exact Tearing.resume h now ticket given

private theorem run {d : Duty} (h : Tearing log plan left d.operation d.controller)
    {moves : List DutyMove} (attended : ∀ move ∈ moves, move.attends = true) :
    Tearing log plan (left - moves.countP DutyMove.prompts) (d.run moves).operation
      (d.run moves).controller := by
  induction moves generalizing d left with
  | nil => exact h
  | cons move rest ih =>
      have after := h.step (attended move List.mem_cons_self)
      have later := ih after fun move mem => attended move (List.mem_cons_of_mem _ mem)
      have count : (move :: rest).countP DutyMove.prompts =
          move.prompts.toNat + rest.countP DutyMove.prompts := by
        rw [List.countP_cons]
        cases move.prompts <;> simp [Nat.add_comm]
      rw [count, ← Nat.sub_sub]
      exact later

private theorem asked_prefix {operation : Option Operation} {c : Controller}
    (h : Tearing log plan left operation c) :
    ∃ asked, asked <+: plan ∧ c.stopLog = log ++ asked := by
  cases h with
  | @going _ _ _ id past rest goal stopping asked ahead once covered short =>
      refine ⟨past ++ [id], ⟨rest.filter c.isActive, ?_⟩, ?_⟩
      · rw [ahead]
        simp
      · rw [asked, List.append_assoc]
  | ended asked still unreserved => exact ⟨plan, List.prefix_rfl, asked⟩

private theorem eq_none_of_short {operation : Option Operation} {c : Controller}
    (h : Tearing log plan 0 operation c) : operation = none := by
  cases h with
  | going goal stopping asked ahead once covered short =>
      have patient := Wait.one_le_patience stopping
      omega
  | ended => rfl

end Tearing

namespace Duty

/-- Whatever a controller has been told and however its operations went or were dropped, when
it is idle a teardown has a plan: the driven services that are not stopped from the last one
back, then the others that are not stopped from the last one back.  Whatever the services
answer, they are asked to stop in the order of the plan.  Two answers for each are enough to
end the teardown, and when it has ended the whole plan was asked, every service is stopped, and
a second teardown asks nobody and has nothing to report. -/
theorem stopLog_of_teardown (settings : Settings) (pool : Pool) (moves : List DutyMove)
    (idle : ((ofSettings settings pool).run moves).operation = none) (now : Instant)
    (ticket : Nat) (more : List DutyMove) (attended : ∀ move ∈ more, move.attends = true) :
    let d := (ofSettings settings pool).run moves
    let c := d.controller
    let plan := Site.teardownPlan c
    let e := (d.step (.issue now ticket .teardown)).run more
    (plan = c.startOrder.reverse.filter c.isActive ++
        (List.range c.handles.length).reverse.filter fun id =>
          !c.startOrder.contains id && c.isActive id) ∧
      (Ledger.launched c.events =
        c.startOrder.filterMap fun id => c.handles[id]?.map Handle.name) ∧
      plan.Nodup ∧
      (∀ id, id ∈ plan ↔ ∃ handle, c.handles[id]? = some handle ∧ handle.state ≠ .stopped) ∧
      (∀ id other, c.Depends id other → id ∈ plan → other ∈ plan →
        (id ∈ c.startOrder ↔ other ∈ c.startOrder) → [id, other].Sublist plan) ∧
      (∃ asked, asked <+: plan ∧ e.controller.stopLog = c.stopLog ++ asked) ∧
      (2 * plan.length ≤ more.countP DutyMove.prompts → e.operation = none) ∧
      (e.operation = none →
        e.controller.stopLog = c.stopLog ++ plan ∧
        c.handles.map Handle.descriptor <+: e.controller.handles.map Handle.descriptor ∧
        (∀ handle ∈ e.controller.handles, handle.state = .stopped) ∧
        ∀ now ticket, e.site.issue now ticket .teardown = (.finished (.tornDown []), e.site)) := by
  intro d c plan e
  obtain ⟨faithful, ordered⟩ := ordered_run settings pool moves
  have begun : d.step (.issue now ticket .teardown) =
      ofProgress (d.site.issue now ticket .teardown) := by
    simp only [step, d, idle]
  have tearing : Tearing c.stopLog plan (2 * plan.length - more.countP DutyMove.prompts)
      e.operation e.controller := by
    refine Tearing.run ?_ attended
    rw [begun]
    exact Tearing.issue ordered.once now ticket
  have whole : e =
      (ofSettings settings pool).run (moves ++ .issue now ticket .teardown :: more) := by
    rw [run_append]
    rfl
  have last : e.controller.ledger.Faithful ∧ e.controller.ledger.Ordered := by
    rw [whole]
    exact ordered_run settings pool _
  refine ⟨?_, ?_, ?_, fun id => Site.mem_teardownPlan, ?_, tearing.asked_prefix, ?_, ?_⟩
  · simp only [plan, Site.teardownPlan, Site.teardownOrder, List.filter_append,
      List.filter_filter, Bool.and_comm]
  · refine ordered.told.trans (List.filterMap_congr ?_)
    intro id mem
    simp only [Controller.ledger, List.getElem?_map, Option.map_map]
    rfl
  · exact (Site.nodup_teardownOrder ordered.once).filter _
  · intro id other depends mem mem' alike
    exact Site.sublist_teardownPlan faithful ordered depends mem mem' alike
  · intro enough
    rw [Nat.sub_eq_zero_of_le enough] at tearing
    exact tearing.eq_none_of_short
  · intro ended
    rw [ended] at tearing
    cases tearing with
    | ended asked still unreserved =>
        have stopped : ∀ {id : Nat} {handle : Handle}, e.controller.handles[id]? = some handle →
            handle.state = .stopped := by
          intro id handle found
          by_contra active
          have running := Controller.isActive_iff.mpr ⟨handle, found, active⟩
          rw [still id] at running
          cases running
        refine ⟨asked, ?_, ?_, ?_⟩
        · have kept := ledger_keeps (P := fun l => c.ledger.plans <+: l.plans)
            (fun entry old => old.trans entry.plans_prefix)
            (faithful_run settings pool moves).1 List.prefix_rfl
            (.issue now ticket .teardown :: more)
          exact kept.2
        · intro handle mem
          obtain ⟨id, found⟩ := List.mem_iff_getElem?.mp mem
          exact stopped found
        · intro now ticket
          refine Site.teardownFrom_of_stopped now [] ?_ unreserved
          intro id mem
          obtain ⟨handle, found⟩ := Site.handle_of_mem_teardownOrder last.1 last.2 mem
          exact ⟨handle, found, stopped found⟩

/-- A server and another that needs it, neither of them started. -/
def pairing : List DutyMove :=
  [.issue 0 0 (.provision (.server "base" .dev)),
    .answer 0 0 (.materialized (.ok ⟨[], []⟩)),
    .issue 0 0 (.provision { Descriptor.server "top" .dev with dependsOn := ["base"] }),
    .answer 0 0 (.materialized (.ok ⟨[], []⟩))]

/-- The stop and the kill of the one fail; the other stops at once. -/
def stubborn : List DutyMove :=
  [.answer 0 0 (.acknowledged (.error (.unsupported "stop"))), .answer 0 0 .elapsed,
    .answer 0 0 (.acknowledged (.ok ())), .answer 0 0 .elapsed]

theorem stopLog_of_stubborn :
    ((ofSettings .standard (.ofHosts ["one", "two"])).run pairing).operation = none ∧
      (∀ move ∈ stubborn, move.attends = true) ∧
      let c := ((ofSettings .standard (.ofHosts ["one", "two"])).run pairing).controller
      let e := (((ofSettings .standard (.ofHosts ["one", "two"])).run pairing).step
        (.issue 0 0 .teardown)).run stubborn
      c.Depends 1 0 ∧ e.operation = none ∧ e.controller.stopLog = [1, 0] ∧
        ∀ handle ∈ e.controller.handles, handle.state = .stopped := by
  have idle : ((ofSettings .standard (.ofHosts ["one", "two"])).run pairing).operation = none := rfl
  have attended : ∀ move ∈ stubborn, move.attends = true := by simp [stubborn, DutyMove.attends]
  refine ⟨idle, attended, ⟨_, _, rfl, rfl, by decide⟩, ?_⟩
  obtain ⟨-, -, -, -, -, -, ends, ended⟩ :=
    stopLog_of_teardown .standard (.ofHosts ["one", "two"]) pairing idle 0 0 stubborn attended
  have finished := ends (by decide)
  obtain ⟨asked, -, stopped, -⟩ := ended finished
  exact ⟨finished, asked.trans (by decide), stopped⟩

end Duty

end Interop
