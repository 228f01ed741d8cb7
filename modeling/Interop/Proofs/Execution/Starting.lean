import Interop.Proofs.Execution.Launching
import Interop.Proofs.Lifecycle.Sequence

/-!
# How the services of a case are started

When a case goes on to start its services, none of them was driven before: on its way there it
reserves and provisions, and nothing else.  So those that are started before the body are
started from the first one on, and whether all of them get ready is settled by what they depend
on and by the addresses they need.
-/

namespace Interop

open Descriptor (isPreStarted preStartedBelow frontStates Startable)

deriving instance DecidableEq for Completion

def Purpose.prepares : Purpose → Bool
  | .reserve _ | .provision _ => true
  | .startAll | .control _ _ | .stopEarly _ _ | .close _ => false

def Execution.Untouched (e : Execution) : Prop :=
  e.isPreparing = true → e.controller.Untouched e.operation?

def Item.Untouched (item : Item) : Prop :=
  item.own = true → item.command = .startAll → item.before.controller.Untouched none

namespace Account

open Execution (Beat)

structure Untouched (a : Account) : Prop where
  stands : a.execution.Untouched
  begun : ∀ item ∈ a.items, item.Untouched

variable {e : Execution} {p : Pool} {now : Instant} {ticket : Nat}

theorem Untouched.silent {r : Execution × Pool} (stands : r.1.Untouched) :
    Untouched (silent r) :=
  ⟨stands, List.forall_mem_nil _⟩

private theorem Untouched.after {a : Account} (h : a.Untouched) {item : Item}
    (begun : item.Untouched) :
    (a.after item).Untouched :=
  ⟨h.stands, List.forall_mem_cons.mpr ⟨begun, h.begun⟩⟩

/-- To begin an operation: its item, what it leads to when it waits, and what follows when it
does not. -/
theorem Untouched.serve {purpose : Purpose} {command : Command}
    {next : Completion → Execution → Pool → Account}
    (begun : Item.Untouched ⟨purpose.isOwn, command, ⟨p, e.controller⟩,
      Site.issue now ticket command ⟨p, e.controller⟩⟩)
    (waits : ∀ operation site,
      Site.issue now ticket command ⟨p, e.controller⟩ = (.waiting operation, site) →
      { e with controller := site.controller, stage := .working purpose operation }.Untouched)
    (goes : ∀ completion site,
      Site.issue now ticket command ⟨p, e.controller⟩ = (.finished completion, site) →
      (next completion { e with controller := site.controller } site.pool).Untouched) :
    (serve now ticket purpose command next e p).Untouched := by
  rcases issued : Site.issue now ticket command ⟨p, e.controller⟩ with
    ⟨operation | completion, site⟩
  · rw [issued] at begun
    rw [serve_of_waiting issued]
    exact (Untouched.silent (waits operation site issued)).after begun
  · rw [issued] at begun
    rw [serve_of_finished issued]
    exact (goes completion site issued).after begun

theorem untouched_conclude (now : Instant) (ticket : Nat) (outcome : Outcome) (e : Execution)
    (p : Pool) : (conclude now ticket outcome e p).Untouched := by
  refine ⟨?_, ?_⟩
  · have gone := Execution.isPreparing_conclude now ticket outcome e p
    rw [← result_conclude] at gone
    intro preparing
    cases preparing.symm.trans gone
  · intro item mem _ starts
    have prepares := (prepares_conclude now ticket outcome e p item mem).2
    rw [starts] at prepares
    cases prepares

theorem untouched_collapse (message : Option String) (e : Execution) (p : Pool) :
    (silent (Execution.collapse message e p)).Untouched :=
  .silent fun preparing => by cases preparing

theorem untouched_play (now : Instant) (ticket : Nat) (body : Body) (e : Execution) (p : Pool) :
    (play now ticket body e p).Untouched := by
  induction body generalizing e p with
  | ends result => cases result <;> exact untouched_conclude now ticket _ e p
  | panics message => exact untouched_collapse message e p
  | asks act next ih =>
      cases act with
      | look => exact ih _ e p
      | note line => exact ih _ _ p
      | sleep length =>
          unfold play
          split
          · exact ih _ e p
          · exact .silent fun preparing => by cases preparing
      | control command limit =>
          unfold play
          refine .serve ?_ ?_ ?_
          · intro own
            cases own
          · intro _ _ _ preparing
            cases preparing
          · intro completion site _
            split
            · exact untouched_collapse _ _ _
            · exact ih _ _ _
      | stopEarly service limit =>
          refine .serve ?_ ?_ fun _ _ _ => ih _ _ _
          · intro own
            cases own
          · intro _ _ _ preparing
            cases preparing

private theorem untouched_startServices (h : e.controller.Untouched none) (now : Instant)
    (ticket : Nat)
    (p : Pool) : (startServices now ticket e p).Untouched := by
  refine .serve (fun _ _ => h) (fun _ _ _ => nofun) ?_
  intro completion site _
  split
  · exact untouched_conclude now ticket _ _ _
  · exact untouched_collapse _ _ _
  · exact untouched_play now ticket _ _ _

private theorem untouched_provisionAll (now : Instant) (ticket : Nat) (pending : List Descriptor)
    (h : e.controller.Untouched none) (p : Pool) :
    (provisionAll now ticket pending e p).Untouched := by
  induction pending generalizing e p with
  | nil => exact untouched_startServices h now ticket p
  | cons d pending ih =>
      have next := h.issue_provision (s := ⟨p, e.controller⟩) now ticket d
      refine .serve (fun _ starts => by cases starts) ?_ ?_
      · intro operation site issued _
        rwa [issued] at next
      · intro completion site issued
        rw [issued] at next
        split
        · exact untouched_conclude now ticket _ _ _
        · exact untouched_collapse _ _ _
        · exact ih next _

theorem untouched_complete {purpose : Purpose} (completion : Completion)
    (h : purpose.prepares = true → e.controller.Untouched none)
    (resting : purpose.prepares = false → e.isPreparing = false) (now : Instant) (ticket : Nat)
    (p : Pool) : (complete now ticket purpose completion e p).Untouched := by
  have ends : ∀ outcome, (conclude now ticket outcome e p).Untouched :=
    fun outcome => untouched_conclude now ticket outcome e p
  cases purpose with
  | reserve ds =>
      have provisions := untouched_provisionAll now ticket ds (h rfl) p
      cases completion with
      | reserved result =>
          cases result with
          | error error => exact ends _
          | ok _ => exact provisions
      | panicked message => exact untouched_collapse _ e p
      | provisioned | started | startedAll | ran | stopped | tornDown => exact provisions
  | provision ds =>
      have provisions := untouched_provisionAll now ticket ds (h rfl) p
      cases completion with
      | provisioned result =>
          cases result with
          | error error => exact ends _
          | ok _ => exact provisions
      | panicked message => exact untouched_collapse _ e p
      | reserved | started | startedAll | ran | stopped | tornDown => exact provisions
  | startAll =>
      have plays := untouched_play now ticket (e.test.body e.case) e p
      cases completion with
      | startedAll result =>
          cases result with
          | error error => exact ends _
          | ok _ => exact plays
      | panicked message => exact untouched_collapse _ e p
      | reserved | provisioned | started | ran | stopped | tornDown => exact plays
  | control next limit =>
      cases completion with
      | panicked message => exact untouched_collapse _ e p
      | reserved | provisioned | started | startedAll | ran | stopped | tornDown =>
          exact untouched_play now ticket _ e p
  | stopEarly next limit =>
      cases completion with
      | panicked message => exact untouched_collapse _ e p
      | reserved | provisioned | started | startedAll | ran | stopped | tornDown =>
          exact untouched_play now ticket _ _ p
  | close outcome =>
      cases completion with
      | tornDown => exact .silent fun preparing => by cases preparing
      | reserved | provisioned | started | startedAll | ran | stopped | panicked =>
          refine .silent fun preparing => ?_
          cases preparing.symm.trans (resting rfl)

private theorem untouched_answer (h : e.Untouched) (now : Instant) (ticket : Nat) (a : Answer)
    (p : Pool) : (answer now ticket a e p).Untouched := by
  unfold answer
  split
  · next purpose operation working =>
      have busy : e.operation? = some operation := by simp [Execution.operation?, working]
      have preparing : purpose.prepares = e.isPreparing := by
        cases purpose <;> simp [Purpose.prepares, Execution.isPreparing, working]
      have onward : purpose.prepares = true →
          (Site.resume now ticket operation a ⟨p, e.controller⟩).2.controller.Untouched
            (Site.resume now ticket operation a ⟨p, e.controller⟩).1.operation? := by
        intro prepares
        have before := h (preparing ▸ prepares)
        rw [busy] at before
        exact before.resume (s := ⟨p, e.controller⟩) now ticket a
      split
      · next later site resumed =>
          rw [resumed] at onward
          refine .silent fun preparing' => onward ?_
          cases purpose <;> first | rfl | cases preparing'
      · next completion site resumed =>
          rw [resumed] at onward
          refine untouched_complete (e := { e with controller := site.controller }) completion
            onward ?_ now ticket site.pool
          intro resting
          exact preparing ▸ resting
  · exact .silent h

theorem untouched_cut (now : Instant) (ticket : Nat) (outcome : Outcome) (e : Execution)
    (p : Pool) : (cut now ticket outcome e p).Untouched := by
  unfold cut
  split <;> exact untouched_conclude now ticket outcome _ _

private theorem untouched_begin (h : e.controller.Untouched none) (now : Instant) (ticket : Nat)
    (p : Pool) : (begin now ticket e p).Untouched := by
  unfold begin
  split
  · exact untouched_conclude now ticket _ e p
  · split
    · exact untouched_collapse _ e p
    · next count _ =>
        have next := h.issue_reserve (s := ⟨p, e.controller⟩) now ticket count
        refine .serve (fun _ starts => by cases starts) ?_ ?_
        · intro operation site issued _
          rwa [issued] at next
        · intro completion site issued
          rw [issued] at next
          exact untouched_complete (e := { e with controller := site.controller }) completion
            (fun _ => next) (fun resting => by cases resting) now ticket site.pool

private theorem untouched_enter (h : e.Untouched) (now : Instant) (ticket : Nat)
    (signal : AbortSignal)
    (p : Pool) : (enter now ticket signal e p).Untouched := by
  unfold enter
  simp only
  split
  · exact .silent h
  · split
    · exact untouched_conclude now ticket _ _ p
    · next fresh _ =>
        have fresh : e.stage = .fresh := fresh
        have before : e.controller.Untouched e.operation? :=
          h (by simp [Execution.isPreparing, fresh])
        have idle : e.operation? = none := by simp [Execution.operation?, fresh]
        rw [idle] at before
        exact untouched_begin (e := { e with began := now, attentive := true }) before now ticket p
    · exact untouched_cut now ticket _ _ p
    · exact .silent h

private theorem untouched_step (h : e.Untouched) (now : Instant) (ticket : Nat)
    (signal : AbortSignal)
    (move : CaseMove) (p : Pool) : (step now ticket signal move e p).Untouched := by
  cases move with
  | enter =>
      simp only [step]
      split
      · exact .silent h
      · exact untouched_enter h now ticket signal p
  | observe service exposure =>
      exact .silent fun preparing => (h preparing).observe service exposure
  | park => exact .silent h
  | breakDown message =>
      simp only [step, Execution.step]
      split
      · exact .silent h
      · refine .silent fun preparing => ?_
        simp [Execution.isPreparing, Execution.stage_breakDown] at preparing
  | answer a =>
      simp only [step]
      split
      · exact untouched_answer h now ticket a p
      · exact .silent h
  | wake =>
      simp only [step]
      split
      · split
        · exact untouched_play now ticket _ e p
        · exact .silent h
      · exact .silent h
  | expire =>
      simp only [step]
      split
      · exact .silent h
      · split
        · exact untouched_cut now ticket _ e p
        · exact .silent h
  | giveUp =>
      simp only [step]
      split
      · unfold giveUp
        split
        · split
          · split
            · exact untouched_play now ticket _ _ _
            · exact .silent h
          · exact .silent h
        · exact .silent h
      · exact .silent h

end Account

namespace Execution

private theorem untouched_ofCase (config : Config) (test : Test) (case : TestCase) :
    (ofCase config test case).Untouched := fun _ =>
  { kept := Duty.kept_run (config.settings test.numNodes) (.ofHosts []) []
    undriven x idle := absurd idle (Option.not_mem_none x)
    idle := List.forall_mem_nil _
    unasked := rfl }

private theorem Untouched.run {e : Execution} (h : e.Untouched) (ticket : Nat) (beats : List Beat) :
    ∀ item ∈ e.items ticket beats, item.Untouched := by
  induction beats generalizing e with
  | nil => exact List.forall_mem_nil _
  | cons b beats ih =>
      have stepped := Account.untouched_step h b.now ticket b.signal b.move b.pool
      have stands : (e.beat ticket b).Untouched := by
        rw [beat, ← Account.result_step]
        exact stepped.stands
      exact List.forall_mem_append.mpr ⟨stepped.begun, ih stands⟩

/-- When a case starts its services and each one that is asked gets ready in time, all of them are
started exactly if nothing is in the way of any: none that is started before the body depends on
one that is not, those whose addresses they need have one, and the clock can show the deadline of
each start.  Then each of them was started once, in provisioning order, and is ready, and the
others are as they were provisioned.  If something is in the way of one, those before it were
started and are ready, and neither it nor any after it was touched; only where it is the clock, the
start breaks down and leaves its service in the middle.  It is over once as many were found ready
as there are. -/
theorem startsAll_iff_startable (config : Config) {test : Test} {case : TestCase} {ticket : Nat}
    {beats : List Beat} {item : Item}
    (mem : item ∈ (ofCase config test case).items ticket beats) (own : item.own = true)
    (starts : item.command = .startAll) {exposes : Nat → Prop} (now : Instant) (owner : Nat)
    {moves : List DutyMove}
    (obliging : ((⟨item.before, none⟩ : Duty).step (.issue now owner .startAll)).Obliging exposes
      moves) :
    let c := item.before.controller
    let plans := c.handles.map Handle.descriptor
    let idle : Duty := ⟨item.before, none⟩
    let begun := idle.step (.issue now owner .startAll)
    let after := begun.run moves
    let told := (idle.results (.issue now owner .startAll :: moves)).map Prod.snd
    let clear := ∀ d ∈ plans, d.mode = .preStarted → Startable plans exposes d
    (∀ handle ∈ c.handles, handle.state = .provisioned) ∧ c.launches = [] ∧
      after.controller.handles.map Handle.descriptor = plans ∧
      (after.operation ≠ none →
        told = [] ∧ begun.settled moves < (preStartedBelow plans plans.length).length) ∧
      (after.operation = none →
        ((∃ signals, told = [.startedAll (.ok signals)]) ↔ clear ∧ after.controller.Punctual) ∧
        (clear → after.controller.Punctual →
          after.controller.states = frontStates plans plans.length ∧
          after.controller.launches = preStartedBelow plans plans.length) ∧
        (¬clear → after.controller.Punctual → ∃ id d e, plans[id]? = some d ∧
          d.mode = .preStarted ∧ ¬Startable plans exposes d ∧ told = [.startedAll (.error e)] ∧
          after.controller.states = frontStates plans id ∧
          after.controller.launches = preStartedBelow plans id) ∧
        (¬after.controller.Punctual → ∃ id d, plans[id]? = some d ∧ d.mode = .preStarted ∧
          after.controller.Overdue id ∧ told = [.panicked Span.beyondHorizon] ∧
          after.controller.states = (frontStates plans id).set id .starting ∧
          after.controller.launches = preStartedBelow plans id)) := by
  intro c plans idle begun after told clear
  have untouched : c.Untouched none :=
    (untouched_ofCase config test case).run ticket beats item mem own starts
  obtain ⟨report, tells, sequel⟩ := untouched.sequel (s := item.before) now owner obliging
  refine ⟨untouched.idle, untouched.unasked, sequel.planned, ?_, ?_⟩
  · intro busy
    obtain ⟨operation, current⟩ := Option.ne_none_iff_exists'.mp busy
    rw [current] at sequel
    obtain ⟨rfl, fewer⟩ := sequel.lt_of_going
    exact ⟨tells.symm, fewer⟩
  · intro gone
    rw [gone] at sequel
    cases sequel with
    | done signals front punctual fit =>
        have all : clear := by
          intro d there mode
          obtain ⟨id, planned⟩ := List.mem_iff_getElem?.mp there
          exact fit planned mode
        exact ⟨iff_of_true ⟨signals, tells.symm⟩ ⟨all, punctual⟩,
          fun _ _ => ⟨front.stands, front.launched⟩, fun hindered => absurd all hindered,
          fun late => absurd punctual late⟩
    | @stuck _ id d e planned mode front punctual unfit fit =>
        have hindered : ¬clear :=
          fun all => unfit (all d (List.mem_of_getElem? planned) mode)
        refine ⟨iff_of_false ?_ fun all => hindered all.1, fun all => absurd all hindered,
          fun _ _ => ⟨id, d, e, planned, mode, unfit, tells.symm, front.stands, front.launched⟩,
          fun late => absurd punctual late⟩
        rintro ⟨signals, succeeded⟩
        cases tells.trans succeeded
    | @broken _ id d planned mode same stands launched late fit =>
        refine ⟨iff_of_false ?_ fun all => all.2 id late,
          fun _ punctual => absurd late (punctual id),
          fun _ punctual => absurd late (punctual id),
          fun _ => ⟨id, d, planned, mode, late, tells.symm, stands, launched⟩⟩
        rintro ⟨signals, succeeded⟩
        cases tells.trans succeeded

private theorem obliges_of_wait {d : Duty} (wait : Wait) {given : Answer}
    (current : d.wait? = some wait)
    {now : Instant} (obliged : wait.Obliged d.controller.settings now given) (owner : Nat) :
    d.Obliges (.answer now owner given) := by
  intro other waits
  obtain rfl := Option.some.inj (current.symm.trans waits)
  exact obliged

theorem exposing_all {c : Controller}
    (exposed : ∀ handle ∈ c.handles, handle.exposure.endpoints ≠ []) :
    c.Exposing fun _ => True :=
  fun _ handle found _ => iff_of_true (exposed handle (List.mem_of_getElem? found)) trivial

/-- The first service is up at once, the second one is found ready after a pause. -/
def promptly : List DutyMove :=
  [.answer 0 0 (.acknowledged (.ok ())), .answer 0 0 (.probed (.ok true)),
    .answer 0 0 (.acknowledged (.ok ())), .answer 0 0 (.probed (.ok false)),
    .answer 100000000 0 .elapsed, .answer 100000000 0 (.probed (.ok true))]

theorem starts_two_of_three :
    let items := (ofCase .standard (.trio .idle) ⟨0, []⟩).items 0 launchingBeats
    ∃ item ∈ items, item.own = true ∧ item.command = .startAll ∧
      item.before.controller.handles.map Handle.name = ["base", "front", "app"] ∧
      let idle : Duty := ⟨item.before, none⟩
      let begun := idle.step (.issue 0 0 .startAll)
      begun.Obliging (fun _ => True) promptly ∧ (begun.run promptly).operation = none ∧
        (∃ signals, (idle.results (.issue 0 0 .startAll :: promptly)).map Prod.snd =
          [.startedAll (.ok signals)]) ∧
        (begun.run promptly).controller.states = [.ready, .ready, .provisioned] ∧
        (begun.run promptly).controller.launches = [0, 1] := by
  intro items
  let item := items.get ⟨4, by decide +kernel⟩
  let begun := (⟨item.before, none⟩ : Duty).step (.issue 0 0 .startAll)
  have obliging : begun.Obliging (fun _ => True) promptly := by
    refine ⟨exposing_all (by decide +kernel), ?_, exposing_all (by decide +kernel), ?_,
      exposing_all (by decide +kernel), ?_, exposing_all (by decide +kernel), ?_,
      exposing_all (by decide +kernel), ?_, exposing_all (by decide +kernel), ?_,
      exposing_all (by decide +kernel)⟩
    · exact obliges_of_wait (.start 0 60000000000) (by decide +kernel) (by trivial) 0
    · exact obliges_of_wait (.probe 0 60000000000) (by decide +kernel) (by trivial) 0
    · exact obliges_of_wait (.start 1 60000000000) (by decide +kernel) (by trivial) 0
    · exact obliges_of_wait (.probe 1 60000000000) (by decide +kernel)
        (by exact ⟨by decide +kernel, by decide +kernel⟩) 0
    · exact obliges_of_wait (.pause 1 60000000000 100000000) (by decide +kernel)
        (by trivial) 0
    · exact obliges_of_wait (.probe 1 60000000000) (by decide +kernel) (by trivial) 0
  have gone : (begun.run promptly).operation = none := by decide +kernel
  have states : (begun.run promptly).controller.states = [.ready, .ready, .provisioned] := by
    decide +kernel
  let plans := item.before.controller.handles.map Handle.descriptor
  have clear : ∀ d ∈ plans, d.mode = .preStarted →
      Startable plans (fun _ => True) d := by
    have firm : ∀ d ∈ plans, d.mode = .preStarted → ∀ dependency ∈ d.dependsOn, ∀ e ∈ plans,
        e.name = dependency → e.mode = .preStarted := by decide +kernel
    exact fun d mem mode => ⟨fun dependency uses _ e there => firm d mem mode dependency uses e
      (List.mem_of_getElem? there), fun _ _ _ _ _ _ _ => trivial⟩
  have mem : item ∈ items := List.get_mem items _
  have own : item.own = true := by decide +kernel
  have starts : item.command = .startAll := by decide +kernel
  obtain ⟨-, -, -, -, done⟩ := startsAll_iff_startable .standard mem own starts 0 0 obliging
  obtain ⟨succeeds, leaves, -, late⟩ := done gone
  have punctual : (begun.run promptly).controller.Punctual := by
    by_contra overdue
    obtain ⟨id, d, planned, -, -, -, stuck, -⟩ := late overdue
    have length : (frontStates plans id).length = plans.length := by simp [frontStates]
    have middle : .starting ∈ (begun.run promptly).controller.states :=
      stuck ▸ List.mem_set (length ▸ (List.getElem?_eq_some_iff.mp planned).1) _
    rw [states] at middle
    exact absurd middle (by decide)
  exact ⟨item, mem, own, starts, by decide +kernel, obliging, gone,
    succeeds.mpr ⟨clear, punctual⟩, states, (leaves clear punctual).2.trans (by decide +kernel)⟩

/-- A server that nothing is in the way of is not asked to start when the clock cannot show its
deadline: the start breaks down. -/
theorem start_breaks_down :
    let config := { Config.standard with startupTimeout := .ofSeconds Span.maxWord }
    let items := (ofCase config (.lone .idle) ⟨0, []⟩).items 0 (launchingBeats.take 2)
    ∃ item ∈ items, item.own = true ∧ item.command = .startAll ∧
      let plans := item.before.controller.handles.map Handle.descriptor
      let idle : Duty := ⟨item.before, none⟩
      let begun := idle.step (.issue 0 0 .startAll)
      (∀ d ∈ plans, d.mode = .preStarted ∧ Startable plans (fun _ => True) d) ∧
        begun.Obliging (fun _ => True) [] ∧ begun.operation = none ∧
        (idle.results [.issue 0 0 .startAll]).map Prod.snd =
          [.panicked "overflow when adding duration to instant"] ∧
        begun.controller.states = [.starting] ∧ begun.controller.launches = [] := by
  intro config items
  let item := items.get ⟨2, by decide +kernel⟩
  have plans : item.before.controller.handles.map Handle.descriptor = [.server "server" .dev] := by
    decide +kernel
  refine ⟨item, List.get_mem items _, by decide +kernel, by decide +kernel, ?_,
    exposing_all (by decide +kernel), by decide +kernel, by decide +kernel, by decide +kernel,
    by decide +kernel⟩
  rw [plans]
  simp [Startable, Descriptor.server]

end Execution

end Interop
