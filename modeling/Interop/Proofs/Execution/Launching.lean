import Interop.Proofs.Execution.Provisioning

/-!
# Which cases get as far as starting their services

Nothing that a case waits for on its way is out of reach, and each time it is given that it has
less before it; so it gets through with provisioning in one way or the other.  In which of the
two is decided by its services alone: they are started if they can be provisioned together.
-/

namespace Interop

open Descriptor (Feasible dependencyOrder)

private theorem Site.lasting_settings (settings : Settings) :
    Lasting fun s _ => s.controller.settings = settings where
  moves {now ticket w s w' s'} moves h := by
    cases moves with
    | draws accepted taken =>
        obtain ⟨held, rest, -, -, rfl⟩ := drawReserved_eq_some taken
        exact h
    | _ => exact h
  dropReservation {s} h := by
    unfold dropReservation
    split <;> exact h
  drop h := by
    rw [drop_eq]
    exact h
  observe _ _ h := h

namespace Execution

variable {capacity : Nat} {numNodes : Option Nat} {ds : List Descriptor} {e : Execution}
  {ticket : Nat}

/-! ## Getting on -/

/-- How much the case has before it on the way to starting its services: each of them, the
reservation, and the beginning. -/
def ahead (ds : List Descriptor) (e : Execution) : Nat :=
  match e.stage with
  | .fresh => ds.length + 2
  | .working (.reserve _) _ => ds.length + 1
  | .working (.provision pending) _ => pending.length + 1
  | _ => 0

/-- The case is given what it waits for on its way: its first turn, enough nodes, or a service
from the launcher. -/
def serves (e : Execution) (b : Beat) : Bool :=
  match e.stage, b.move with
  | .fresh, .enter => !e.attentive
  | .working (.reserve _) ⟨_, .reservation count _⟩, .answer .woken =>
    e.attentive && decide (count ≤ b.pool.available)
  | .working (.provision _) _, .answer (.materialized (.ok _)) => e.attentive
  | _, _ => false

/-- How often the case is given that in a run. -/
def served (ticket : Nat) : Execution → List Beat → Nat
  | _, [] => 0
  | e, b :: beats => (e.serves b).toNat + served ticket (e.beat ticket b) beats

theorem ahead_eq_zero : ahead ds e = 0 ↔ e.isPreparing = false := by
  unfold ahead isPreparing
  split <;> simp_all

private theorem serves_of_gone (gone : e.isPreparing = false) (b : Beat) : e.serves b = false := by
  unfold serves
  split <;> simp_all [isPreparing]

theorem ahead_concludeWith_le (ds : List Descriptor) (bound : Nat) (now : Instant) (ticket : Nat)
    (error : CaseError) (e : Execution) (p : Pool) :
    ahead ds (concludeWith now ticket error e p).1 ≤ bound :=
  (ahead_eq_zero.mpr (isPreparing_conclude now ticket _ e p)).le.trans (Nat.zero_le bound)

theorem ahead_provisionAll (ds : List Descriptor) (now : Instant) (ticket : Nat)
    (pending : List Descriptor) (e : Execution) (p : Pool) :
    ahead ds (provisionAll now ticket pending e p).1 ≤ pending.length := by
  induction pending generalizing e p with
  | nil => exact (ahead_eq_zero.mpr (isPreparing_startServices now ticket e p)).le
  | cons d pending ih =>
      unfold provisionAll
      split
      · exact Nat.le_refl _
      · exact ahead_concludeWith_le ds _ now ticket _ _ _
      · exact Nat.zero_le _
      · exact (ih _ _).trans (Nat.le_succ _)

private theorem ahead_complete (ds : List Descriptor) {purpose : Purpose}
    {pending : List Descriptor}
    (onward : purpose = .reserve pending ∨ purpose = .provision pending) (completion : Completion)
    (now : Instant) (ticket : Nat) (e : Execution) (p : Pool) :
    ahead ds (complete now ticket purpose completion e p).1 ≤ pending.length := by
  have ended (error : CaseError) :=
    ahead_concludeWith_le ds pending.length now ticket error e p
  have next := ahead_provisionAll ds now ticket pending e p
  rcases onward with rfl | rfl
  · cases completion with
    | reserved result =>
        cases result with
        | error error => exact ended _
        | ok _ => exact next
    | panicked message => exact Nat.zero_le _
    | provisioned | started | startedAll | ran | stopped | tornDown => exact next
  · cases completion with
    | provisioned result =>
        cases result with
        | error error => exact ended _
        | ok _ => exact next
    | panicked message => exact Nat.zero_le _
    | reserved | started | startedAll | ran | stopped | tornDown => exact next

theorem length_order {order : List Descriptor} (ordered : dependencyOrder ds = .ok order) :
    order.length = ds.length :=
  (Descriptor.dependencyOrder_arranged ordered).1.length_eq

private theorem ahead_begin (made : e.test.template e.case = .ok ds) (now : Instant) (ticket : Nat)
    (p : Pool) : ahead ds (begin now ticket e p).1 ≤ ds.length + 1 := by
  unfold begin
  rw [plan_of_made made]
  cases ordered : dependencyOrder ds with
  | error cause => exact ahead_concludeWith_le ds _ now ticket _ e p
  | ok order =>
      simp only [Except.mapError, reserveNodes]
      split
      · exact Nat.zero_le _
      · split
        · exact Nat.le_refl _
        · exact ahead_concludeWith_le ds _ now ticket _ _ _
        · exact Nat.zero_le _
        · rw [← length_order ordered]
          exact (ahead_provisionAll ds now ticket order _ _).trans (Nat.le_succ _)

/-- An answer to what the case waits for on its way: the case goes on waiting, or has less
before it. -/
theorem ahead_answer {purpose : Purpose} {operation : Operation} {pending : List Descriptor}
    (stage : e.stage = .working purpose operation)
    (onward : purpose = .reserve pending ∨ purpose = .provision pending)
    (shorter : pending.length < ahead ds e) {now : Instant} {ticket : Nat} {a : Answer} {p : Pool}
    {served : Bool}
    (done : served = true → ∃ completion site,
      Site.resume now ticket operation a ⟨p, e.controller⟩ = (.finished completion, site)) :
    ahead ds (answer now ticket a e p).1 + served.toNat ≤ ahead ds e := by
  unfold answer
  split
  · next working =>
      cases stage.symm.trans working
      split
      · next later site resumed =>
          have waits : served = false := by
            by_contra given
            obtain ⟨completion, site', finished⟩ := done (by simpa using given)
            cases resumed.symm.trans finished
          rw [waits]
          rcases onward with rfl | rfl <;> simp [ahead, stage]
      · next completion site _ =>
          have less := ahead_complete ds onward completion now ticket
            { e with controller := site.controller } site.pool
          have once := Bool.toNat_le served
          omega
  · next idle => exact absurd stage (idle _ _)

private theorem ahead_beat (underway : Underway numNodes capacity ds e) {b : Beat}
    (smooth : b.Smooth capacity e) (ticket : Nat) :
    ahead ds (e.beat ticket b) + (e.serves b).toNat ≤ ahead ds e := by
  obtain ⟨now, signal, move, p⟩ := b
  obtain ⟨quiet, unhindered, -, -, -⟩ := smooth
  have quiet : signal.reason = none := quiet
  have unserved {after : Execution} (same : after.stage = e.stage)
      (idle : e.serves ⟨now, signal, move, p⟩ = false) :
      ahead ds after + (e.serves ⟨now, signal, move, p⟩).toNat ≤ ahead ds e := by
    rw [idle]
    simp [ahead, same]
  have standing := underway.isPreparing
  cases move with
  | enter =>
      simp only [beat, step]
      cases attentive : e.attentive with
      | true => exact unserved rfl (by cases stage : e.stage <;> simp [serves, stage, attentive])
      | false =>
          have live : { e with attentive := true }.isClosing = false := underway.isClosing
          simp only [enter, live, Bool.false_eq_true, if_false]
          split
          · next told => cases quiet.symm.trans told
          · next fresh _ =>
              obtain ⟨-, made, -, -, -⟩ := underway.of_fresh fresh
              have less := ahead_begin (e := { e with began := now, attentive := true }) made now
                ticket p
              have once := Bool.toNat_le (e.serves ⟨now, signal, .enter, p⟩)
              have before : ahead ds e = ds.length + 2 := by simp [ahead, fresh]
              omega
          · next told _ => cases quiet.symm.trans told
          · exact unserved rfl (by unfold serves; split <;> simp_all)
  | observe | park => exact unserved rfl (by cases stage : e.stage <;> simp [serves, stage])
  | breakDown | expire => cases unhindered
  | giveUp =>
      have nothing : Account.giveUp now ticket e p = .silent (e, p) :=
        Account.giveUp_of_isPreparing standing
      have same := Account.result_giveUp now ticket e p
      rw [nothing] at same
      simp only [beat, step, ← same, Account.result_silent, ite_self]
      exact unserved rfl (by cases stage : e.stage <;> simp [serves, stage])
  | answer a =>
      simp only [beat, step]
      cases attentive : e.attentive with
      | false =>
          refine unserved rfl ?_
          unfold serves
          split <;> simp_all
      | true =>
          rw [if_pos rfl]
          cases underway with
          | fresh stage => exact unserved (by simp [answer, stage]) (by simp [serves, stage])
          | @reserving order deadline stage ordered =>
              refine ahead_answer stage (.inl rfl) ?_ ?_
              · rw [length_order ordered]
                simp [ahead, stage]
              · intro given
                cases a with
                | woken =>
                    have enough :
                        wantedOf numNodes (Descriptor.totalNodes order) ≤ p.available := by
                      simpa [serves, stage, attentive] using given
                    exact Site.resume_reservation_of_le enough now ticket deadline
                | elapsed | materialized | acknowledged | probed | ran =>
                    simp [serves, stage] at given
          | provisioning stage =>
              refine ahead_answer stage (.inr rfl) (by simp [ahead, stage]) ?_
              intro given
              cases a with
              | materialized result =>
                  cases result with
                  | ok exposure => exact ⟨_, _, rfl⟩
                  | error cause => cases unhindered
              | woken | elapsed | acknowledged | probed | ran => simp [serves, stage] at given
  | wake =>
      have awake : ∀ wake next, e.stage ≠ .sleeping wake next := by
        intro wake next sleeping
        simp [isPreparing, sleeping] at standing
      simp only [beat, step]
      exact unserved rfl (by cases stage : e.stage <;> simp [serves, stage])

private theorem gone_run (gone : e.isPreparing = false) (ticket : Nat) (beats : List Beat) :
    (e.run ticket beats).isPreparing = false ∧ served ticket e beats = 0 := by
  induction beats generalizing e with
  | nil => exact ⟨gone, rfl⟩
  | cons b beats ih =>
      obtain ⟨later, nothing⟩ := ih (isPreparing_step gone b.now ticket b.signal b.move b.pool)
      refine ⟨later, ?_⟩
      rw [served, serves_of_gone gone b]
      exact (Nat.zero_add _).trans nothing

theorem Passage.stands {items : List Item} (passage : Passage numNodes capacity ds e items) :
    Underway numNodes capacity ds e ∨ e.isPreparing = false := by
  cases passage with
  | underway underway => exact .inl underway
  | failed _ _ _ _ rules => exact .inr (isPreparing_of_isClosing rules.isClosing)
  | launched _ _ _ _ gone => exact .inr gone

theorem ahead_run (underway : Underway numNodes capacity ds e) {beats : List Beat}
    (unhindered : Unhindered capacity ticket e beats) :
    ahead ds (e.run ticket beats) + served ticket e beats ≤ ahead ds e := by
  induction beats generalizing e with
  | nil => exact Nat.le_refl _
  | cons b beats ih =>
      have smooth := unhindered.1 underway.isPreparing
      have now := ahead_beat underway smooth ticket
      have later : ahead ds ((e.beat ticket b).run ticket beats) +
          served ticket (e.beat ticket b) beats ≤ ahead ds (e.beat ticket b) := by
        rcases (underway.passage.beat (fun _ => smooth) ticket).stands with underway | gone
        · exact ih underway unhindered.2
        · obtain ⟨later, nothing⟩ := gone_run gone ticket beats
          rw [ahead_eq_zero.mpr later, nothing]
          exact Nat.zero_le _
      change ahead ds ((e.beat ticket b).run ticket beats) +
        ((e.serves b).toNat + served ticket (e.beat ticket b) beats) ≤ ahead ds e
      omega

theorem unhindered_append {beats more : List Beat} :
    Unhindered capacity ticket e (beats ++ more) ↔
      Unhindered capacity ticket e beats ∧
        Unhindered capacity ticket (e.run ticket beats) more := by
  induction beats generalizing e with
  | nil => exact (and_iff_right trivial).symm
  | cons b beats ih =>
      have next : Unhindered capacity ticket (e.beat ticket b) (beats ++ more) ↔ _ := ih
      simp only [List.cons_append, Unhindered, next, and_assoc]
      rfl

/-- A move when nothing is amiss and nobody has any node of the pool. -/
def calmly (capacity : Nat) (move : CaseMove) : Beat :=
  ⟨0, .quiet, move, .ofHosts (List.replicate capacity "host")⟩

private theorem smooth_calmly {move : CaseMove} (unhindered : move.hinders = false)
    (shown : e.controller.settings.provisionTimeout.after 0 ≤ e.controller.settings.horizon) :
    (calmly capacity move).Smooth capacity e where
  quiet := rfl
  unhindered := unhindered
  balanced := ⟨[], Pool.balanced_ofHosts _⟩
  size := by simp [calmly, Pool.capacity_ofHosts]
  shown _ := shown

theorem settings_beat (orderly : e.Orderly e.operation?) (ticket : Nat) (b : Beat) :
    (e.beat ticket b).controller.settings = e.controller.settings :=
  (step_advances b.now ticket b.signal b.move orderly b.pool).keeps
    (P := fun m => m.execution.controller.settings = e.controller.settings)
    (fun stride => stride.lasting (Site.lasting_settings e.controller.settings))
    (fun _ same => (congrArg _ (controller_abandoned ticket e b.pool)).trans same) rfl

theorem settings_run (orderly : e.Orderly e.operation?) (ticket : Nat) (beats : List Beat) :
    (e.run ticket beats).controller.settings = e.controller.settings := by
  induction beats generalizing e with
  | nil => rfl
  | cons b beats ih =>
      exact (ih (orderly.step b.now ticket b.signal b.move b.pool)).trans
        (settings_beat orderly ticket b)

theorem unhindered_calmly (orderly : e.Orderly e.operation?)
    (shown : e.controller.settings.provisionTimeout.after 0 ≤ e.controller.settings.horizon)
    {moves : List CaseMove} (calm : ∀ move ∈ moves, move.hinders = false) (ticket : Nat) :
    Unhindered capacity ticket e (moves.map (calmly capacity)) := by
  induction moves generalizing e with
  | nil => trivial
  | cons move moves ih =>
      obtain ⟨first, rest⟩ := List.forall_mem_cons.mp calm
      have next := orderly.step 0 ticket .quiet move (calmly capacity move).pool
      refine ⟨fun _ => smooth_calmly first shown, ih next ?_ rest⟩
      rwa [show (_ : Execution).controller.settings = _ from settings_beat orderly ticket
        (calmly capacity move)]

private theorem beat_enter_calmly (begun : e.stage ≠ .fresh) (live : e.isClosing = false)
    (resting : e.attentive = false) :
    e.beat ticket (calmly capacity .enter) = { e with attentive := true } := by
  have live : { e with attentive := true }.isClosing = false := live
  simp only [beat, calmly, step, resting, Bool.false_eq_true, if_false, enter, live]
  split
  · contradiction
  · exact absurd ‹_› begun
  · contradiction
  · rfl

private theorem Underway.exists_served (underway : Underway numNodes capacity ds e)
    (orderly : e.Orderly e.operation?)
    (shown : e.controller.settings.provisionTimeout.after 0 ≤ e.controller.settings.horizon)
    (ticket : Nat) : ∃ more, Unhindered capacity ticket e more ∧ 0 < served ticket e more := by
  have live : { e with attentive := false }.isClosing = false := underway.isClosing
  have begun : e.stage ≠ .fresh → ({ e with attentive := false }).beat ticket
      (calmly capacity .enter) = { e with attentive := true } :=
    fun begun => beat_enter_calmly begun live rfl
  have calm (last : CaseMove) (unhindered : last.hinders = false) :
      Unhindered capacity ticket e ([.park, .enter, last].map (calmly capacity)) := by
    refine unhindered_calmly orderly shown ?_ ticket
    simp only [List.mem_cons, List.not_mem_nil, or_false, forall_eq_or_imp, forall_eq]
    exact ⟨rfl, rfl, unhindered⟩
  have last (move : CaseMove) : served ticket e ([.park, .enter, move].map (calmly capacity)) =
      (e.serves (calmly capacity .park)).toNat +
        (({ e with attentive := false }.serves (calmly capacity .enter)).toNat +
          (((({ e with attentive := false }).beat ticket (calmly capacity .enter)).serves
            (calmly capacity move)).toNat + 0)) := rfl
  cases underway with
  | fresh stage =>
      refine ⟨_, calm .park rfl, ?_⟩
      rw [last]
      simp [serves, stage, calmly]
  | reserving stage ordered fits =>
      refine ⟨_, calm (.answer .woken) rfl, ?_⟩
      rw [last, begun (by simp [stage])]
      simp [serves, stage, calmly, Pool.available, Pool.ofHosts, fits]
  | provisioning stage =>
      refine ⟨_, calm (.answer (.materialized (.ok ⟨[], []⟩))) rfl, ?_⟩
      rw [last, begun (by simp [stage])]
      simp [serves, stage, calmly]

/-- The case can always be brought past the provisioning of its services. -/
theorem Underway.exists_gone (underway : Underway numNodes capacity ds e)
    (orderly : e.Orderly e.operation?)
    (shown : e.controller.settings.provisionTimeout.after 0 ≤ e.controller.settings.horizon)
    (ticket : Nat) :
    ∃ more, Unhindered capacity ticket e more ∧ (e.run ticket more).isPreparing = false := by
  induction distance : ahead ds e using Nat.strongRecOn generalizing e with
  | ind n ih =>
      obtain ⟨more, unhindered, given⟩ := underway.exists_served orderly shown ticket
      rcases (underway.passage.run unhindered).stands with onward | gone
      · have less := ahead_run underway unhindered
        have same := settings_run orderly ticket more
        obtain ⟨later, calm, gone⟩ := ih (ahead ds (e.run ticket more)) (by omega) onward
          (orderly.run ticket more) (same ▸ shown) rfl
        refine ⟨more ++ later, unhindered_append.mpr ⟨unhindered, calm⟩, ?_⟩
        rwa [run_append]
      · exact ⟨more, unhindered, gone⟩

/-- As long as nothing gets in its way and its nodes add up to a machine word, a case goes on to
start its services, with all of them and no others provisioned, exactly if they can be provisioned
together.  If they cannot, it starts and runs nothing, its body does nothing, and its outcome is an
error of provisioning, unless its teardown breaks down.  It gets that far when it was given what it
waits for once for each service and twice before, and it always can be given that. -/
theorem launches_iff_feasible (config : Config) {test : Test} {case : TestCase}
    {ds : List Descriptor} (made : test.template case = .ok ds)
    (countable : Descriptor.totalNodes ds ≤ Span.maxWord) (capacity ticket : Nat)
    {beats : List Beat} (unhindered : Unhindered capacity ticket (ofCase config test case) beats) :
    let begins := ofCase config test case
    let e := begins.run ticket beats
    let begun := begins.items ticket beats
    (e.isPreparing = false →
      ((∃ item ∈ begun, item.Launches ds) ↔ Feasible test.numNodes capacity ds)) ∧
    (¬Feasible test.numNodes capacity ds →
      (∀ item ∈ begun, item.own = true ∧ item.command.prepares = true) ∧ e.notes = [] ∧
        (e.isPreparing = false →
          ∃ cause : ProvisionError, Rules (.error "provision" cause.message) e)) ∧
    (ds.length + 2 ≤ served ticket begins beats → e.isPreparing = false) ∧
    (config.provisionTimeout.after 0 ≤ config.horizon →
      ∃ more, Unhindered capacity ticket begins (beats ++ more) ∧
        (begins.run ticket (beats ++ more)).isPreparing = false) := by
  intro begins e begun
  have underway : Underway test.numNodes capacity ds begins := underway_ofCase config made countable
  have passage : Passage test.numNodes capacity ds e begun := underway.passage.run unhindered
  refine ⟨?_, ?_, ?_, ?_⟩
  · intro gone
    cases passage with
    | underway underway => simp [underway.isPreparing] at gone
    | failed infeasible prepares =>
        refine iff_of_false ?_ infeasible
        rintro ⟨item, mem, -, launching, -⟩
        have prepares := (prepares item mem).2
        simp [launching, Command.prepares] at prepares
    | launched feasible item mem launches => exact iff_of_true ⟨item, mem, launches⟩ feasible
  · intro infeasible
    cases passage with
    | underway underway prepares =>
        refine ⟨prepares, underway.unnoted, ?_⟩
        intro gone
        simp [underway.isPreparing] at gone
    | failed _ prepares unnoted cause rules => exact ⟨prepares, unnoted, fun _ => ⟨cause, rules⟩⟩
    | launched feasible => exact absurd feasible infeasible
  · intro enough
    have less : ahead ds e + served ticket begins beats ≤ ahead ds begins :=
      ahead_run underway unhindered
    have before : ahead ds begins = ds.length + 2 := rfl
    exact ahead_eq_zero.mp (by omega : ahead ds e = 0)
  · intro shown
    rcases passage.stands with onward | gone
    · have orderly := orderly_ofCase config test case
      have same := settings_run orderly ticket beats
      obtain ⟨more, calm, gone⟩ :=
        onward.exists_gone (orderly.run ticket beats) (same ▸ shown) ticket
      refine ⟨more, unhindered_append.mpr ⟨unhindered, calm⟩, ?_⟩
      rwa [run_append]
    · refine ⟨[], ?_, ?_⟩
      · rwa [List.append_nil]
      · rwa [List.append_nil]

/-- The launcher hands over each of three services, with an address. -/
def launchingBeats : List Beat :=
  let handOver := .answer (.materialized (.ok ⟨[⟨"host", 10800⟩], []⟩))
  [.enter, handOver, handOver, handOver].map (calmly 4)

theorem launches_three_services :
    let begins := ofCase .standard (.trio .idle) ⟨0, []⟩
    Unhindered 4 0 begins launchingBeats ∧ (begins.run 0 launchingBeats).isPreparing = false ∧
      (∃ item ∈ begins.items 0 launchingBeats, item.Launches threeServices) ∧
      Feasible (some 4) 4 threeServices := by
  intro begins
  have unhindered : Unhindered 4 0 begins launchingBeats :=
    unhindered_calmly (orderly_ofCase _ _ _) (by decide +kernel) (by decide) 0
  have gone : (begins.run 0 launchingBeats).isPreparing = false := by decide +kernel
  have launched : ∃ item ∈ begins.items 0 launchingBeats, item.Launches threeServices := by
    decide +kernel
  have made : (Test.trio .idle).template ⟨0, []⟩ = .ok threeServices := rfl
  obtain ⟨launches, -⟩ := launches_iff_feasible .standard made (by decide) 4 0 unhindered
  exact ⟨unhindered, gone, launched, (launches gone).mp launched⟩

/-- Where sums are checked, a case whose services need more nodes than a machine word can count
breaks down before it asks for any. -/
theorem begin_of_uncountable (made : e.test.template e.case = .ok ds) {order : List Descriptor}
    (ordered : dependencyOrder ds = .ok order) (checked : e.overflowChecks = true)
    (beyond : Span.maxWord < Descriptor.totalNodes ds) (now : Instant) (ticket : Nat) (p : Pool) :
    begin now ticket e p = collapse (some Descriptor.beyondWord) e p := by
  have same := Descriptor.totalNodes_perm (Descriptor.dependencyOrder_arranged ordered).1
  have uncounted : wantedNodes? true e.test.numNodes order = none := by
    simp [wantedNodes?, Descriptor.wordTotal?, same, Nat.not_le.mpr beyond]
  simp only [begin, plan_of_made made, ordered, Except.mapError, checked, uncounted]

/-- Services that cannot be provisioned together break the case down instead of failing it when
their nodes cannot be added up, and so do services that can be when the clock cannot show until
when the case would wait. -/
theorem breaks_down_on_the_way :
    (∃ ds, (Test.overflowing (some 2)).template ⟨0, []⟩ = .ok ds ∧ ¬Feasible (some 2) 4 ds ∧
      ((ofCase .standard (.overflowing (some 2)) ⟨0, []⟩).run 0 [calmly 4 .enter]).stage =
        .panicked "attempt to add with overflow") ∧
    ∃ ds, (Test.lone .idle).template ⟨0, []⟩ = .ok ds ∧ Feasible none 4 ds ∧
      ((ofCase { Config.standard with provisionTimeout := .ofSeconds Span.maxWord } (.lone .idle)
        ⟨0, []⟩).run 0 [calmly 4 .enter]).stage =
          .panicked "overflow when adding duration to instant" := by
  refine ⟨⟨_, rfl, ?_, ?_⟩, ⟨_, rfl, ?_, rfl⟩⟩
  · intro feasible
    exact absurd feasible.fits (by decide)
  · let e := { ofCase .standard (.overflowing (some 2)) ⟨0, []⟩ with attentive := true }
    have broken := begin_of_uncountable (e := e) rfl rfl rfl (by decide) 0 0 (calmly 4 .enter).pool
    exact congrArg (fun result => result.1.stage) broken
  · have acceptable : Descriptor.Acceptable none [] (.server "server" .dev) :=
      ⟨rfl, by simp, by simp [Descriptor.server], nofun⟩
    have admissible : Descriptor.Admissible none ([] ++ [.server "server" .dev]) :=
      Descriptor.admissible_concat.mpr ⟨Descriptor.admissible_nil, acceptable⟩
    exact Descriptor.feasible_iff.mpr ⟨_, rfl, by decide, admissible⟩

end Execution

end Interop
