import Interop.Proofs.Execution.Accounts
import Interop.Proofs.Execution.Stock
import Interop.Proofs.Execution.Strides

/-!
# How a case comes by its nodes

A case asks the pool for nodes when it begins, and has none at that time.  What it provisions
then draws on the reservation.  After that only its body can ask for nodes, so under a body
that does not, the case asks once at most and waits for nodes only while it has none.

All of that rests on the sum of the node counts: where that wraps around, the case reserves less
than its services take.
-/

namespace Interop

/-! ## Bodies -/

def Act.seeks : Act → Bool
  | .control command _ => command.seeks
  | .look | .stopEarly _ _ | .sleep _ | .note _ => false

/-- The body neither reserves nor provisions, whatever it is told. -/
def Body.Quiet : Body → Prop
  | .ends _ | .panics _ => True
  | .asks act next => act.seeks = false ∧ ∀ reply, (next reply).Quiet

/-! ## Items -/

namespace Item

/-- The pool is asked for nodes: something is to be reserved, or a service that is not refused
does not find its nodes in the reservation. -/
def acquires (item : Item) : Bool :=
  match item.command with
  | .reserve count => count != 0
  | .provision d =>
    (Site.refusal? item.before.controller d).isNone &&
      (item.before.drawReserved d.nodeCount).isNone
  | .start _ | .startAll | .run _ | .stop _ | .teardown => false

/-- A service that gets as far as needing nodes takes all of them from the reservation, and the
pool stays as it is. -/
def Draws (item : Item) : Prop :=
  ∀ d, item.command = .provision d → Site.refusal? item.before.controller d = none →
    ∃ held lease rest, item.before.controller.reservation = some held ∧
      held.splitOff d.nodeCount = some (lease, rest) ∧
      item.result.1 = .waiting ⟨.alone, .materialization d lease⟩ ∧
      item.result.2.controller.reservation = some rest ∧
      item.result.2.pool = item.before.pool

structure Modest (quiet : Prop) (item : Item) : Prop where
  draws : item.own = true → item.Draws
  spares : item.acquires = true → item.own = false ∧ ¬quiet

variable {quiet : Prop} {item : Item}

theorem acquires_eq_false (still : item.command.seeks = false) : item.acquires = false := by
  unfold acquires
  cases asked : item.command with
  | reserve | provision => simp [Command.seeks, asked] at still
  | start | startAll | run | stop | teardown => rfl

theorem Modest.of_still (still : item.command.seeks = false) : item.Modest quiet where
  draws _ d asked _ := by simp [Command.seeks, asked] at still
  spares acquires := by simp [acquires_eq_false still] at acquires

private theorem Modest.of_body (foreign : item.own = false)
    (still : quiet → item.command.seeks = false) : item.Modest quiet where
  draws own := by simp [foreign] at own
  spares acquires := by
    refine ⟨foreign, fun hushed => ?_⟩
    simp [acquires_eq_false (still hushed)] at acquires

private theorem Draws.acquires_eq_false {d : Descriptor} (draws : item.Draws)
    (asked : item.command = .provision d) : item.acquires = false := by
  simp only [acquires, asked]
  cases refused : Site.refusal? item.before.controller d with
  | some e => rfl
  | none =>
      obtain ⟨held, lease, rest, reserved, parted, -⟩ := draws d asked refused
      simp [Site.drawReserved, reserved, parted]

/-- The case itself asks the pool for nodes. -/
def takes (item : Item) : Bool := item.own && item.acquires

/-- When the case asks the pool it has no nodes, otherwise it draws on what it reserved; a quiet
body leaves the pool alone. -/
structure Frugal (quiet : Prop) (item : Item) : Prop where
  empty : item.takes = true → item.before.controller.held = []
  draws : item.own = true → item.Draws
  hushed : quiet → item.acquires = true → item.own = true

theorem Modest.takes_eq_false (modest : item.Modest quiet) : item.takes = false := by
  cases asks : item.acquires with
  | false => simp [takes, asks]
  | true => simp [takes, (modest.spares asks).1]

theorem Modest.frugal (modest : item.Modest quiet) : item.Frugal quiet where
  empty asks := by simp [modest.takes_eq_false] at asks
  draws := modest.draws
  hushed hushed asks := absurd hushed (modest.spares asks).2

private theorem Modest.of_draws {d : Descriptor} (asked : item.command = .provision d)
    (draws : item.Draws) : item.Modest quiet where
  draws _ := draws
  spares acquires := by simp [draws.acquires_eq_false asked] at acquires

end Item

namespace Execution

def Summable (e : Execution) : Prop :=
  e.overflowChecks = true ∨ ∀ ds, e.plan = .ok ds → Descriptor.totalNodes ds ≤ Span.maxWord

/-! ## Stages -/

/-- Where an execution can be between two moves, with what is known there of its nodes and, if
its body is quiet, of what is left of the body. -/
inductive Poised (quiet : Prop) (e : Execution) : Prop
  | fresh (stage : e.stage = .fresh) (blank : e.controller.Blank e.test.numNodes)
      (summable : e.Summable) (body : quiet → (e.test.body e.case).Quiet)
  | reserving {ds : List Descriptor} {deadline : Instant}
      (stage : e.stage = .working (.reserve ds)
        ⟨.alone, .reservation (wantedOf e.test.numNodes (Descriptor.totalNodes ds)) deadline⟩)
      (blank : e.controller.Blank e.test.numNodes)
      (body : quiet → (e.test.body e.case).Quiet)
  | provisioning {pending : List Descriptor} {d : Descriptor} {lease : Lease}
      (stage : e.stage = .working (.provision pending) ⟨.alone, .materialization d lease⟩)
      (stocked : e.controller.Stocked (e.controller.nodesAssigned + d.nodeCount) pending)
      (body : quiet → (e.test.body e.case).Quiet)
  | starting {operation : Operation} (stage : e.stage = .working .startAll operation)
      (still : operation.wait.seeks? = none) (body : quiet → (e.test.body e.case).Quiet)
  | controlling {operation : Operation} {next : Reply → Body} {limit : Option Instant}
      (stage : e.stage = .working (.control next limit) operation)
      (still : quiet → operation.wait.seeks? = none)
      (body : quiet → ∀ reply, (next reply).Quiet)
  | stopping {operation : Operation} {next : Reply → Body} {limit : Option Instant}
      (stage : e.stage = .working (.stopEarly next limit) operation)
      (still : operation.wait.seeks? = none) (body : quiet → ∀ reply, (next reply).Quiet)
  | sleeping {wake : Instant} {next : Reply → Body} (stage : e.stage = .sleeping wake next)
      (body : quiet → ∀ reply, (next reply).Quiet)
  | closing {outcome : Outcome} {operation : Operation}
      (stage : e.stage = .working (.close outcome) operation)
      (still : operation.wait.seeks? = none)
  | gone (ended : e.isOver = true)

def isFresh (e : Execution) : Bool :=
  match e.stage with
  | .fresh => true
  | _ => false

variable {quiet : Prop} {e : Execution}

theorem isFresh_of_stage (stage : e.stage = .fresh) : e.isFresh = true := by
  simp [isFresh, stage]

theorem isFresh_of_ne (begun : e.stage ≠ .fresh) : e.isFresh = false := by
  unfold isFresh
  split
  · contradiction
  · rfl

theorem poised_ofCase (config : Config) (test : Test) (case : TestCase)
    (summable : (ofCase config test case).Summable) (body : quiet → (test.body case).Quiet) :
    (ofCase config test case).Poised quiet :=
  .fresh rfl (Controller.blank_ofSettings config test.numNodes) summable body

theorem Poised.jots (poised : e.Poised quiet) (began : Instant) (warnings : List Warning)
    (notes : List String) (attentive : Bool) :
    { e with began, warnings, notes, attentive }.Poised quiet := by
  cases poised with
  | fresh stage blank summable body => exact .fresh stage blank summable body
  | reserving stage blank body => exact .reserving stage blank body
  | provisioning stage stocked body => exact .provisioning stage stocked body
  | starting stage still body => exact .starting stage still body
  | controlling stage still body => exact .controlling stage still body
  | stopping stage still body => exact .stopping stage still body
  | sleeping stage body => exact .sleeping stage body
  | closing stage still => exact .closing stage still
  | gone ended => exact .gone ended

private theorem Poised.observe (poised : e.Poised quiet) (service : Nat) (exposure : Exposure) :
    { e with controller := e.controller.observe service exposure }.Poised quiet := by
  cases poised with
  | fresh stage blank summable body =>
      exact .fresh stage (blank.observe service exposure) summable body
  | reserving stage blank body => exact .reserving stage (blank.observe service exposure) body
  | provisioning stage stocked body => exact .provisioning stage stocked body
  | starting stage still body => exact .starting stage still body
  | controlling stage still body => exact .controlling stage still body
  | stopping stage still body => exact .stopping stage still body
  | sleeping stage body => exact .sleeping stage body
  | closing stage still => exact .closing stage still
  | gone ended => exact .gone ended

private theorem Poised.of_fresh (poised : e.Poised quiet) (fresh : e.stage = .fresh) :
    e.controller.Blank e.test.numNodes ∧ e.Summable ∧
      (quiet → (e.test.body e.case).Quiet) := by
  cases poised with
  | fresh _ blank summable body => exact ⟨blank, summable, body⟩
  | gone ended => simp [isOver, fresh] at ended
  | reserving stage | provisioning stage | starting stage | controlling stage | stopping stage
  | sleeping stage | closing stage => cases fresh.symm.trans stage

private theorem Poised.of_sleeping (poised : e.Poised quiet) {wake : Instant} {next : Reply → Body}
    (sleeping : e.stage = .sleeping wake next) (hushed : quiet) (reply : Reply) :
    (next reply).Quiet := by
  cases poised with
  | sleeping stage body =>
      cases sleeping.symm.trans stage
      exact body hushed reply
  | gone ended => simp [isOver, sleeping] at ended
  | fresh stage | reserving stage | provisioning stage | starting stage | controlling stage
  | stopping stage | closing stage => cases sleeping.symm.trans stage

private theorem Poised.of_limit (poised : e.Poised quiet) {purpose : Purpose}
    {operation : Operation}
    (working : e.stage = .working purpose operation) {bound : Instant × (Reply → Body)}
    (limited : purpose.limit? = some bound) (hushed : quiet) (reply : Reply) :
    (bound.2 reply).Quiet := by
  rcases purpose.of_limit? limited with ⟨limit, rfl⟩ | ⟨limit, rfl⟩
  · cases poised with
    | controlling stage still body =>
        cases working.symm.trans stage
        exact body hushed reply
    | gone ended => simp [isOver, working] at ended
    | fresh stage | sleeping stage | reserving stage | provisioning stage | starting stage
    | stopping stage | closing stage => cases working.symm.trans stage
  · cases poised with
    | stopping stage still body =>
        cases working.symm.trans stage
        exact body hushed reply
    | gone ended => simp [isOver, working] at ended
    | fresh stage | sleeping stage | reserving stage | provisioning stage | starting stage
    | controlling stage | closing stage => cases working.symm.trans stage

theorem Poised.blank_of_seeks (poised : e.Poised quiet) (hushed : quiet) {operation : Operation}
    {count : Nat} (working : e.operation? = some operation)
    (seeks : operation.wait.seeks? = some count) : e.controller.Blank e.test.numNodes := by
  cases poised with
  | reserving stage blank body => exact blank
  | fresh stage | sleeping stage => simp [operation?, stage] at working
  | provisioning stage =>
      simp only [operation?, stage, Option.some.injEq] at working
      simp [← working, Wait.seeks?] at seeks
  | starting stage still | stopping stage still | closing stage still =>
      simp only [operation?, stage, Option.some.injEq] at working
      simp [← working, still] at seeks
  | controlling stage still =>
      simp only [operation?, stage, Option.some.injEq] at working
      simp [← working, still hushed] at seeks
  | gone ended =>
      rcases stage : e.stage <;> simp [isOver, operation?, stage] at ended working

end Execution

/-! ## After the reservation -/

namespace Account

open Execution (Poised)

structure Tame (quiet : Prop) (a : Account) : Prop where
  poised : a.execution.Poised quiet
  begun : a.execution.stage ≠ .fresh
  modest : ∀ item ∈ a.items, item.Modest quiet

variable {quiet : Prop} {e : Execution} {p : Pool} {now : Instant} {ticket : Nat}

theorem Tame.silent {r : Execution × Pool} (poised : r.1.Poised quiet)
    (begun : r.1.stage ≠ .fresh) : Tame quiet (silent r) :=
  ⟨poised, begun, by simp [Account.silent]⟩

private theorem Tame.after {a : Account} {item : Item} (tame : Tame quiet a)
    (modest : item.Modest quiet) : Tame quiet (a.after item) :=
  ⟨tame.poised, tame.begun, List.forall_mem_cons.mpr ⟨modest, tame.modest⟩⟩

/-- To begin an operation: its item, what it leads to when it waits, and what follows when it
does not. -/
theorem Tame.serve {purpose : Purpose} {command : Command}
    {next : Completion → Execution → Pool → Account}
    (modest : Item.Modest quiet ⟨purpose.isOwn, command, ⟨p, e.controller⟩,
      Site.issue now ticket command ⟨p, e.controller⟩⟩)
    (waits : ∀ operation site,
      Site.issue now ticket command ⟨p, e.controller⟩ = (.waiting operation, site) →
      { e with controller := site.controller, stage := .working purpose operation }.Poised quiet)
    (goes : ∀ completion site,
      Site.issue now ticket command ⟨p, e.controller⟩ = (.finished completion, site) →
      Tame quiet (next completion { e with controller := site.controller } site.pool)) :
    Tame quiet (serve now ticket purpose command next e p) := by
  rcases issued : Site.issue now ticket command ⟨p, e.controller⟩ with
    ⟨operation | completion, site⟩
  · rw [issued] at modest
    rw [serve_of_waiting issued]
    exact (Tame.silent (waits operation site issued) (by simp)).after modest
  · rw [issued] at modest
    rw [serve_of_finished issued]
    exact (goes completion site issued).after modest

theorem conclude_tame (now : Instant) (ticket : Nat) (outcome : Outcome) (e : Execution)
    (p : Pool) : Tame quiet (conclude now ticket outcome e p) := by
  refine .serve (.of_still rfl) ?_ ?_
  · intro operation site issued
    exact .closing rfl (Site.still_of_issued issued rfl)
  · intro completion site issued
    have closing := Site.issue_teardown_closing now ticket ⟨p, e.controller⟩
    rw [issued] at closing
    cases completion with
    | tornDown problems => exact .silent (.gone rfl) (by simp [Execution.complete])
    | reserved | provisioned | started | startedAll | ran | stopped | panicked =>
        exact closing.elim

theorem collapse_tame (message : Option String) (e : Execution) (p : Pool) :
    Tame quiet (silent (Execution.collapse message e p)) :=
  .silent (.gone rfl) (by simp [Execution.collapse])

theorem play_tame (now : Instant) (ticket : Nat) {body : Body} (hushed : quiet → body.Quiet)
    (e : Execution) (p : Pool) : Tame quiet (play now ticket body e p) := by
  induction body generalizing e p with
  | ends result => cases result <;> exact conclude_tame now ticket _ e p
  | panics message => exact collapse_tame message e p
  | asks act next ih =>
      have follows : ∀ reply, quiet → (next reply).Quiet := fun reply h => (hushed h).2 reply
      cases act with
      | look => exact ih _ (follows _) e p
      | note line => exact ih _ (follows _) _ p
      | sleep length =>
          unfold play
          split
          · exact ih _ (follows _) e p
          · exact .silent (.sleeping rfl fun h reply => follows reply h) (by simp)
      | control command limit =>
          have still : quiet → command.seeks = false := fun h => (hushed h).1
          unfold play
          refine .serve (.of_body rfl still) ?_ ?_
          · intro operation site issued
            exact .controlling rfl (fun h => Site.still_of_issued issued (still h))
              fun h reply => follows reply h
          · intro completion site _
            split
            · exact collapse_tame _ _ _
            · exact ih _ (follows _) _ _
      | stopEarly service limit =>
          refine .serve (.of_still rfl) ?_ fun _ _ _ => ih _ (follows _) _ _
          intro operation site issued
          exact .stopping rfl (Site.still_of_issued issued rfl) fun h reply => follows reply h

private theorem startServices_tame (now : Instant) (ticket : Nat)
    (hushed : quiet → (e.test.body e.case).Quiet) (p : Pool) :
    Tame quiet (startServices now ticket e p) := by
  refine .serve (.of_still rfl) ?_ ?_
  · intro operation site issued
    exact .starting rfl (Site.still_of_issued issued rfl) hushed
  · intro completion site _
    split
    · exact conclude_tame now ticket _ _ _
    · exact collapse_tame _ _ _
    · exact play_tame now ticket hushed _ _

theorem provisionAll_tame (now : Instant) (ticket : Nat) (pending : List Descriptor)
    (stocked : e.controller.Stocked e.controller.nodesAssigned pending)
    (hushed : quiet → (e.test.body e.case).Quiet) (p : Pool) :
    Tame quiet (provisionAll now ticket pending e p) := by
  cases pending with
  | nil => exact startServices_tame now ticket hushed p
  | cons d pending =>
      rcases Site.issue_provision (s := ⟨p, e.controller⟩) stocked now ticket with
        ⟨error, refused, issued⟩ |
          ⟨held, lease, rest, site, accepted, reserved, parted, issued, pool, left, stocked⟩
      · -- A refusal ends the case; none of the services after it is provisioned.
        refine .serve (.of_draws rfl ?_) ?_ ?_
        · intro d' asked accepted
          cases asked
          cases refused.symm.trans accepted
        · intro operation site' waits
          cases issued.symm.trans waits
        · intro completion site' finished
          cases issued.symm.trans finished
          exact conclude_tame now ticket _ _ _
      · refine .serve (.of_draws rfl ?_) ?_ ?_
        · intro d' asked _
          cases asked
          exact ⟨held, lease, rest, reserved, parted, by rw [issued], by rw [issued]; exact left,
            by rw [issued]; exact pool⟩
        · intro operation site' waits
          cases issued.symm.trans waits
          exact .provisioning rfl stocked hushed
        · intro completion site' finished
          cases issued.symm.trans finished

theorem complete_reserve_tame (now : Instant) (ticket : Nat) {ds : List Descriptor}
    {completion : Completion} {site : Site} (blank : e.controller.Blank e.test.numNodes)
    (reserving : Site.Reserving
      (Execution.wantedOf e.test.numNodes (Descriptor.totalNodes ds)) e.controller
      (.finished completion, site))
    (hushed : quiet → (e.test.body e.case).Quiet) :
    Tame quiet
      (complete now ticket (.reserve ds) completion { e with controller := site.controller }
        site.pool) := by
  rcases reserving.stocked blank with (⟨error, rfl⟩ | ⟨message, rfl⟩) | ⟨rfl, stocked⟩
  · exact conclude_tame now ticket _ _ _
  · exact collapse_tame _ _ _
  · exact provisionAll_tame now ticket ds (e := { e with controller := site.controller })
      stocked hushed _

private theorem complete_provision_tame (now : Instant) (ticket : Nat) {d : Descriptor}
    {lease : Lease}
    {pending : List Descriptor} {completion : Completion} {site : Site}
    (stocked : e.controller.Stocked (e.controller.nodesAssigned + d.nodeCount) pending)
    (materializing : Site.Materializing d lease e.controller (.finished completion, site))
    (hushed : quiet → (e.test.body e.case).Quiet) :
    Tame quiet
      (complete now ticket (.provision pending) completion
        { e with controller := site.controller } site.pool) := by
  cases materializing with
  | adopted id settings reservation assigned =>
      refine provisionAll_tame now ticket pending
        (e := { e with controller := site.controller }) ?_ hushed _
      simpa [Controller.Stocked, Controller.unassigned, settings, reservation, assigned]
        using stocked
  | declined error pool => exact conclude_tame now ticket _ _ _

private theorem complete_startAll_tame (now : Instant) (ticket : Nat) (completion : Completion)
    (hushed : quiet → (e.test.body e.case).Quiet) (p : Pool) :
    Tame quiet (complete now ticket .startAll completion e p) := by
  cases completion with
  | startedAll result =>
      cases result with
      | error error => exact conclude_tame now ticket _ e p
      | ok _ => exact play_tame now ticket hushed e p
  | panicked message => exact collapse_tame _ _ _
  | reserved | provisioned | started | ran | stopped | tornDown =>
      exact play_tame now ticket hushed e p

/-- A body that is told something goes on, unless it was told that the operation broke down. -/
theorem complete_control_tame (now : Instant) (ticket : Nat) {next : Reply → Body}
    (limit : Option Instant) (completion : Completion)
    (hushed : quiet → ∀ reply, (next reply).Quiet) (p : Pool) :
    Tame quiet (complete now ticket (.control next limit) completion e p) := by
  cases completion with
  | panicked message => exact collapse_tame _ _ _
  | reserved | provisioned | started | startedAll | ran | stopped | tornDown =>
      exact play_tame now ticket (fun h => hushed h _) e p

private theorem complete_stopEarly_tame (now : Instant) (ticket : Nat) {next : Reply → Body}
    (limit : Option Instant) (completion : Completion)
    (hushed : quiet → ∀ reply, (next reply).Quiet) (p : Pool) :
    Tame quiet (complete now ticket (.stopEarly next limit) completion e p) := by
  cases completion with
  | panicked message => exact collapse_tame _ _ _
  | reserved | provisioned | started | startedAll | ran | stopped | tornDown =>
      exact play_tame now ticket (fun h => hushed h _) _ p

section Answer

variable {purpose : Purpose} {operation : Operation} {a : Answer} {site : Site}

theorem answer_of_waiting (working : e.stage = .working purpose operation) {later : Operation}
    (resumed : Site.resume now ticket operation a ⟨p, e.controller⟩ = (.waiting later, site)) :
    answer now ticket a e p =
      silent ({ e with controller := site.controller, stage := .working purpose later },
        site.pool) := by
  unfold answer
  split
  · next working' =>
      cases working.symm.trans working'
      rw [resumed]
  · next idle => exact absurd working (idle _ _)

theorem answer_of_finished (working : e.stage = .working purpose operation)
    {completion : Completion}
    (resumed : Site.resume now ticket operation a ⟨p, e.controller⟩ =
      (.finished completion, site)) :
    answer now ticket a e p =
      complete now ticket purpose completion { e with controller := site.controller }
        site.pool := by
  unfold answer
  split
  · next working' =>
      cases working.symm.trans working'
      rw [resumed]
  · next idle => exact absurd working (idle _ _)

theorem answer_of_idle (idle : e.operation? = none) :
    answer now ticket a e p = silent (e, p) := by
  unfold answer
  split
  · next working => simp [Execution.operation?, working] at idle
  · rfl

end Answer

/-- An answer to what the case waits for: where that leads when it goes on waiting, and what
follows when it is done. -/
theorem Tame.answer {purpose : Purpose} {operation : Operation} {a : Answer}
    (working : e.stage = .working purpose operation)
    (waits : ∀ later site,
      Site.resume now ticket operation a ⟨p, e.controller⟩ = (.waiting later, site) →
      { e with controller := site.controller, stage := .working purpose later }.Poised quiet)
    (goes : ∀ completion site,
      Site.resume now ticket operation a ⟨p, e.controller⟩ = (.finished completion, site) →
      Tame quiet
        (complete now ticket purpose completion { e with controller := site.controller }
          site.pool)) :
    Tame quiet (answer now ticket a e p) := by
  rcases resumed : Site.resume now ticket operation a ⟨p, e.controller⟩ with
    ⟨later | completion, site⟩
  · rw [answer_of_waiting working resumed]
    exact .silent (waits later site resumed) (by simp)
  · rw [answer_of_finished working resumed]
    exact goes completion site resumed

private theorem answer_tame (poised : e.Poised quiet) (begun : e.stage ≠ .fresh) {held : List Node}
    (balanced : p.Balanced held) (now : Instant) (ticket : Nat) (a : Answer) :
    Tame quiet (answer now ticket a e p) := by
  cases poised with
  | fresh stage => exact absurd stage begun
  | sleeping stage body =>
      rw [answer_of_idle (by simp [Execution.operation?, stage])]
      exact .silent (.sleeping stage body) begun
  | gone ended =>
      have idle : e.operation? = none := by
        rcases stage : e.stage <;> simp_all [Execution.operation?, Execution.isOver]
      rw [answer_of_idle idle]
      exact .silent (.gone ended) begun
  | @reserving ds deadline stage blank body =>
      have reserving := Site.resume_reservation (s := ⟨p, e.controller⟩) balanced now ticket
        (Execution.wantedOf e.test.numNodes (Descriptor.totalNodes ds)) deadline a
      refine .answer stage ?_ ?_
      · intro later site resumed
        rw [resumed] at reserving
        cases reserving
        exact .reserving rfl blank body
      · intro completion site resumed
        rw [resumed] at reserving
        exact complete_reserve_tame now ticket blank reserving body
  | @provisioning pending d lease stage stocked body =>
      have materializing := Site.resume_materialization now ticket d lease a ⟨p, e.controller⟩
      refine .answer stage ?_ ?_
      · intro later site resumed
        rw [resumed] at materializing
        cases materializing
        exact .provisioning rfl stocked body
      · intro completion site resumed
        rw [resumed] at materializing
        exact complete_provision_tame now ticket stocked materializing body
  | starting stage still body =>
      refine .answer stage ?_ ?_
      · intro later site resumed
        exact .starting rfl (Site.still_of_resumed resumed still) body
      · intro completion site _
        exact complete_startAll_tame now ticket completion
          (e := { e with controller := site.controller }) body _
  | controlling stage still body =>
      refine .answer stage ?_ ?_
      · intro later site resumed
        exact .controlling rfl (fun h => Site.still_of_resumed resumed (still h)) body
      · intro completion site _
        exact complete_control_tame now ticket _ completion body _
  | stopping stage still body =>
      refine .answer stage ?_ ?_
      · intro later site resumed
        exact .stopping rfl (Site.still_of_resumed resumed still) body
      · intro completion site _
        exact complete_stopEarly_tame now ticket _ completion body _
  | closing stage still =>
      refine .answer stage ?_ ?_
      · intro later site resumed
        exact .closing rfl (Site.still_of_resumed resumed still)
      · intro completion site _
        cases completion with
        | tornDown problems => exact .silent (.gone rfl) (by simp [Execution.complete])
        | reserved | provisioned | started | startedAll | ran | stopped | panicked =>
            exact .silent (.closing stage still) begun

theorem cut_tame (now : Instant) (ticket : Nat) (outcome : Outcome) (e : Execution) (p : Pool) :
    Tame quiet (cut now ticket outcome e p) := by
  unfold cut
  split <;> exact conclude_tame now ticket outcome _ _

/-! ## Moves -/

/-- What a move comes to: if the case asks the pool for nodes it has not begun before, and it
has begun by then. -/
structure Proper (quiet : Prop) (before : Execution) (a : Account) : Prop where
  poised : a.execution.Poised quiet
  spent : a.items.countP Item.takes + a.execution.isFresh.toNat ≤ before.isFresh.toNat
  frugal : ∀ item ∈ a.items, item.Frugal quiet

variable {before : Execution}

theorem Proper.silent {r : Execution × Pool} (poised : r.1.Poised quiet)
    (same : r.1.stage = before.stage ∨ r.1.stage ≠ .fresh) :
    Proper quiet before (silent r) where
  poised := poised
  spent := by
    rcases same with same | begun
    · simp [Account.silent, Execution.isFresh, same]
    · simp [Account.silent, Execution.isFresh_of_ne begun]
  frugal := by simp [Account.silent]

theorem Tame.countP_takes {a : Account} (tame : Tame quiet a) : a.items.countP Item.takes = 0 := by
  rw [List.countP_eq_zero]
  intro item mem
  simp [(tame.modest item mem).takes_eq_false]

theorem Tame.proper {a : Account} (tame : Tame quiet a) : Proper quiet before a where
  poised := tame.poised
  spent := by simp [tame.countP_takes, Execution.isFresh_of_ne tame.begun]
  frugal item mem := (tame.modest item mem).frugal

private theorem Tame.reserve {a : Account} (tame : Tame quiet a) (fresh : before.stage = .fresh)
    {item : Item} {count : Nat} (asked : item.command = .reserve count) (own : item.own = true)
    (empty : item.before.controller.held = []) : Proper quiet before (a.after item) where
  poised := tame.poised
  spent := by
    have begun : (a.after item).execution.isFresh = false := Execution.isFresh_of_ne tame.begun
    have once : (a.after item).items.countP Item.takes ≤ 1 := by
      simp only [Account.after, List.countP_cons, tame.countP_takes]
      split <;> omega
    simpa [begun, Execution.isFresh_of_stage fresh] using once
  frugal := by
    refine List.forall_mem_cons.mpr ⟨⟨fun _ => empty, ?_, fun _ _ => own⟩, ?_⟩
    · intro _ d provisioned
      cases asked.symm.trans provisioned
    · exact fun item mem => (tame.modest item mem).frugal

private theorem reserveNodes_proper (fresh : before.stage = .fresh)
    (blank : e.controller.Blank e.test.numNodes) (body : quiet → (e.test.body e.case).Quiet)
    {held : List Node} (balanced : p.Balanced held) (now : Instant) (ticket : Nat)
    (ds : List Descriptor) :
    Proper quiet before (reserveNodes now ticket
      (Execution.wantedOf e.test.numNodes (Descriptor.totalNodes ds)) ds e p) := by
  have reserving := Site.issue_reserve (s := ⟨p, e.controller⟩) balanced now ticket
    (Execution.wantedOf e.test.numNodes (Descriptor.totalNodes ds))
  rcases issued : Site.issue now ticket
      (.reserve (Execution.wantedOf e.test.numNodes (Descriptor.totalNodes ds)))
      ⟨p, e.controller⟩ with ⟨operation | completion, site⟩
  · rw [issued] at reserving
    rw [reserveNodes, serve_of_waiting issued]
    cases reserving
    exact (Tame.silent (.reserving rfl blank body) (by simp)).reserve fresh rfl rfl blank.held
  · rw [issued] at reserving
    rw [reserveNodes, serve_of_finished issued]
    exact (complete_reserve_tame now ticket blank reserving body).reserve fresh rfl rfl
      blank.held

private theorem begin_proper (fresh : before.stage = .fresh)
    (blank : e.controller.Blank e.test.numNodes) (summable : e.Summable)
    (body : quiet → (e.test.body e.case).Quiet) {held : List Node} (balanced : p.Balanced held)
    (now : Instant) (ticket : Nat) : Proper quiet before (begin now ticket e p) := by
  unfold begin
  cases planned : e.plan with
  | error error => exact (conclude_tame now ticket _ e p).proper
  | ok ds =>
      cases counted : Execution.wantedNodes? e.overflowChecks e.test.numNodes ds with
      | none => simpa only [counted] using (collapse_tame _ e p).proper
      | some count =>
          simp only [counted]
          obtain rfl := Execution.wantedNodes?_eq_some counted (summable.imp_right (· ds planned))
          exact reserveNodes_proper fresh blank body balanced now ticket ds

private theorem enter_proper (poised : e.Poised quiet) {held : List Node}
    (balanced : p.Balanced held)
    (now : Instant) (ticket : Nat) (signal : AbortSignal) :
    Proper quiet e (enter now ticket signal e p) := by
  have looked : Proper quiet e (silent ({ e with attentive := true }, p)) :=
    .silent (poised.jots _ _ _ true) (.inl rfl)
  unfold enter
  simp only
  split
  · exact looked
  · split
    · exact (conclude_tame now ticket _ _ p).proper
    · next fresh _ =>
        obtain ⟨blank, summable, body⟩ := poised.of_fresh fresh
        exact begin_proper fresh (e := { e with began := now, attentive := true }) blank summable
          body balanced now ticket
    · exact (cut_tame now ticket _ _ p).proper
    · exact looked

theorem step_proper (poised : e.Poised quiet) {held : List Node} (balanced : p.Balanced held)
    (now : Instant) (ticket : Nat) (signal : AbortSignal) (move : CaseMove) :
    Proper quiet e (step now ticket signal move e p) := by
  have unmoved : Proper quiet e (silent (e, p)) := .silent poised (.inl rfl)
  cases move with
  | enter =>
      simp only [step]
      split
      · exact unmoved
      · exact enter_proper poised balanced now ticket signal
  | observe service exposure => exact .silent (poised.observe service exposure) (.inl rfl)
  | park => exact .silent (poised.jots _ _ _ false) (.inl rfl)
  | breakDown message =>
      simp only [step, Execution.step]
      split
      · exact unmoved
      · have broken := Execution.stage_breakDown ticket message e p
        exact .silent (.gone (Execution.isOver_of_panicked broken)) (.inr (by simp [broken]))
  | answer a =>
      simp only [step]
      split
      · by_cases fresh : e.stage = .fresh
        · simpa only [answer, fresh] using unmoved
        · exact (answer_tame poised fresh balanced now ticket a).proper
      · exact unmoved
  | wake =>
      simp only [step]
      split
      · next stage =>
          split
          · exact (play_tame now ticket (fun h => poised.of_sleeping stage h _) e p).proper
          · exact unmoved
      · exact unmoved
  | expire =>
      simp only [step]
      split
      · exact unmoved
      · split
        · exact (cut_tame now ticket _ e p).proper
        · exact unmoved

  | giveUp =>
      simp only [step]
      split
      · unfold giveUp
        split
        · next working =>
            split
            · next limited =>
                split
                · exact (play_tame now ticket (fun h => poised.of_limit working limited h _)
                    _ _).proper
                · exact unmoved
            · exact unmoved
        · exact unmoved
      · exact unmoved

end Account

end Interop
