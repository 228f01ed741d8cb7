import Interop.Proofs.Execution.Provisioning
import Interop.Proofs.Execution.Regardless
import Interop.Proofs.Lifecycle.Forcing

/-!
# The warnings of a case

The problems of early stops are kept by the case, those of its teardown by the teardown, and the
record has the former before the latter.  As long as a body stops services in no other way, at
every time each forced stop has left one warning.  A stop that is cut off has recorded nothing
and reported nothing; the teardown stops that service anew.
-/

namespace Interop

/-! ## Bodies -/

def Reply.known : Reply → Nat
  | .seen c => c.handles.length
  | .done | .completed _ | .gaveUp => 0

def Act.Discreet (known : Nat) : Act → Prop
  | .control command _ => command.stops = false
  | .stopEarly service _ => service < known
  | .look | .sleep _ | .note _ => True

/-- The body stops services ahead of the teardown only, and only such as it has seen. -/
def Body.Discreet : Body → Nat → Prop
  | .ends _, _ | .panics _, _ => True
  | .asks act next, known =>
    act.Discreet known ∧ ∀ reply, (next reply).Discreet (max known reply.known)

namespace Body

theorem Discreet.mono {body : Body} {known more : Nat} (h : body.Discreet known)
    (less : known ≤ more) : body.Discreet more := by
  induction body generalizing known more with
  | ends | panics => trivial
  | asks act next ih =>
      refine ⟨?_, fun reply => ih reply (h.2 reply) (by omega)⟩
      cases act with
      | stopEarly service limit => exact Nat.lt_of_lt_of_le (show service < known from h.1) less
      | look | control | sleep | note => exact h.1

private theorem discreet_stop (service : String) {next : Except CaseError Unit → Body} {known : Nat}
    (h : ∀ result, (next result).Discreet known) : (stop service next).Discreet known := by
  refine ⟨by trivial, fun reply => ?_⟩
  cases reply with
  | done | completed | gaveUp => trivial
  | seen c =>
      have more := Nat.le_max_left known c.handles.length
      cases looked : c.lookup service with
      | error e =>
          simp only [Reply.known, looked, Except.mapError]
          exact (h _).mono more
      | ok id =>
          obtain ⟨handle, found, -⟩ := Controller.handle_of_lookup looked
          have inside := (List.getElem?_eq_some_iff.mp found).1
          simp only [Reply.known, looked, Except.mapError]
          refine ⟨inside.trans_le (Nat.le_max_right known _), fun reply => ?_⟩
          exact (h _).mono (more.trans (Nat.le_max_left _ _))

end Body

/-! ## Books -/

def Purpose.stops : Purpose → Bool
  | .stopEarly _ _ | .close _ => true
  | .reserve _ | .provision _ | .startAll | .control _ _ => false

/-- The case itself tears everything down. -/
def Item.Tears (item : Item) : Prop := item.own = true ∧ item.command = .teardown

namespace Execution

structure Even (e : Execution) (operation : Option Operation) : Prop where
  kept : e.controller.Kept (operation.map Operation.wait)
  owed : e.warnings.map Warning.service = forcedIn e.controller.events
  body : (e.test.body e.case).Discreet 0

def Trusts (e : Execution) (next : Reply → Body) : Prop :=
  ∀ reply, (next reply).Discreet (max e.controller.handles.length reply.known)

def Awaits (e : Execution) : Purpose → Prop
  | .control next _ | .stopEarly next _ => e.Trusts next
  | .reserve _ | .provision _ | .startAll | .close _ => True

inductive Tracked (e : Execution) (items : List Item) : Prop
  | fresh (stage : e.stage = .fresh) (even : e.Even none)
  | sleeping {wake : Instant} {next : Reply → Body} (stage : e.stage = .sleeping wake next)
      (even : e.Even none) (trusts : e.Trusts next)
  | working {purpose : Purpose} {operation : Operation}
      (stage : e.stage = .working purpose operation) (spares : purpose.stops = false)
      (even : e.Even (some operation)) (gentle : operation.Gentle) (awaits : e.Awaits purpose)
  | stopping {next : Reply → Body} {limit : Option Instant} {wait : Wait} {id : Nat}
      (stage : e.stage = .working (.stopEarly next limit) ⟨.alone, wait⟩)
      (stops : wait.stops? = some id) (even : e.Even (some ⟨.alone, wait⟩))
      (trusts : e.Trusts next)
  | closing {outcome : Outcome} {operation : Operation}
      (stage : e.stage = .working (.close outcome) operation) (item : Item) (mem : item ∈ items)
      (tears : item.Tears) (kept : e.controller.Kept operation.wait)
      (early : e.warnings.map Warning.service = forcedIn item.before.controller.events)
      (winding : Winding item.before.controller (.waiting operation) e.controller)
  | closed {record : CaseRecord} {late : List Warning} (stage : e.stage = .closed record)
      (item : Item) (mem : item ∈ items) (tears : item.Tears) (kept : e.controller.Kept none)
      (early : e.warnings.map Warning.service = forcedIn item.before.controller.events)
      (ended : Ended item.before.controller e.controller
        (Site.teardownPlan item.before.controller) late)
      (warned : record.warnings = (e.warnings ++ late).map Warning.message)
      (logged : record.logs = e.controller.events.map fun event => event.describe e.began)
  | panicked {message : String} (stage : e.stage = .panicked message)

variable {e : Execution} {items : List Item}

theorem Tracked.mono {more : List Item} (h : e.Tracked items) (sub : items ⊆ more) :
    e.Tracked more := by
  cases h with
  | fresh stage even => exact .fresh stage even
  | sleeping stage even trusts => exact .sleeping stage even trusts
  | working stage spares even gentle awaits => exact .working stage spares even gentle awaits
  | stopping stage stops even trusts => exact .stopping stage stops even trusts
  | closing stage item mem tears kept early winding =>
      exact .closing stage item (sub mem) tears kept early winding
  | closed stage item mem tears kept early ended warned logged =>
      exact .closed stage item (sub mem) tears kept early ended warned logged
  | panicked stage => exact .panicked stage

/-- Before the teardown the books are even, also when the operation in progress is dropped. -/
theorem Tracked.even (h : e.Tracked items) (live : e.isClosing = false) : e.Even none := by
  cases h with
  | fresh _ even | sleeping _ even => exact even
  | working _ _ even | stopping _ _ even => exact ⟨even.kept.idle, even.owed, even.body⟩
  | closing stage | closed stage | panicked stage => simp [isClosing, stage] at live

private theorem Tracked.of_limit (h : e.Tracked items) {purpose : Purpose} {operation : Operation}
    (working : e.stage = .working purpose operation) {bound : Instant × (Reply → Body)}
    (limited : purpose.limit? = some bound) : e.Trusts bound.2 ∧ e.Even none := by
  have live : e.isClosing = false := by
    rcases purpose.of_limit? limited with ⟨limit, rfl⟩ | ⟨limit, rfl⟩ <;> simp [isClosing, working]
  refine ⟨?_, h.even live⟩
  rcases purpose.of_limit? limited with ⟨limit, rfl⟩ | ⟨limit, rfl⟩
  · cases h with
    | working stage spares even gentle awaits =>
        cases working.symm.trans stage
        exact awaits
    | fresh stage | sleeping stage | stopping stage | closing stage | closed stage
    | panicked stage => cases working.symm.trans stage
  · cases h with
    | stopping stage stops even trusts =>
        cases working.symm.trans stage
        exact trusts
    | working stage spares =>
        cases working.symm.trans stage
        cases spares
    | fresh stage | sleeping stage | closing stage | closed stage | panicked stage =>
        cases working.symm.trans stage

namespace Even

variable {operation : Option Operation} {p : Pool} {progress : Progress} {site : Site}

/-- What an operation that stops nobody leaves of the books. -/
theorem spared (even : e.Even operation) (spares : Site.Spares ⟨p, e.controller⟩ (progress, site))
    (kept : site.controller.Kept progress.wait?) :
    { e with controller := site.controller }.Even progress.operation? :=
  ⟨kept, even.owed.trans spares.forced.symm, even.body⟩

theorem issue (even : e.Even none) {command : Command} (spares : command.stops = false)
    {now : Instant} {ticket : Nat}
    (issued : Site.issue now ticket command ⟨p, e.controller⟩ = (progress, site)) :
    { e with controller := site.controller }.Even progress.operation? := by
  have spared := Site.spares_issue spares now ticket ⟨p, e.controller⟩
  have kept := Site.lasting_kept.issue (s := ⟨p, e.controller⟩) now ticket command even.kept
  rw [issued] at spared kept
  exact even.spared spared kept

private theorem resume {current : Operation} (even : e.Even (some current))
    (gentle : current.Gentle)
    {now : Instant} {ticket : Nat} {given : Answer}
    (resumed : Site.resume now ticket current given ⟨p, e.controller⟩ = (progress, site)) :
    { e with controller := site.controller }.Even progress.operation? := by
  have spared := Site.spares_resume gentle now ticket given ⟨p, e.controller⟩
  have kept := Site.lasting_kept.resume (s := ⟨p, e.controller⟩) now ticket current given
    even.kept
  rw [resumed] at spared kept
  exact even.spared spared kept

end Even

private theorem length_le_issue (kept : e.controller.Kept none) {now : Instant} {ticket : Nat}
    {p : Pool}
    {command : Command} {progress : Progress} {site : Site}
    (issued : Site.issue now ticket command ⟨p, e.controller⟩ = (progress, site)) :
    e.controller.handles.length ≤ site.controller.handles.length := by
  have grown := ((Site.lasting_length e.controller.ledger.plans.length).issue
    (s := ⟨p, e.controller⟩) now ticket command ⟨kept.1.1, Nat.le_refl _⟩).2
  rw [issued] at grown
  simpa [Controller.ledger] using grown

theorem length_le_resume {operation : Operation} (kept : e.controller.Kept operation.wait)
    {now : Instant} {ticket : Nat} {p : Pool} {given : Answer} {progress : Progress} {site : Site}
    (resumed : Site.resume now ticket operation given ⟨p, e.controller⟩ = (progress, site)) :
    e.controller.handles.length ≤ site.controller.handles.length := by
  have grown := ((Site.lasting_length e.controller.ledger.plans.length).resume
    (s := ⟨p, e.controller⟩) now ticket operation given ⟨kept.1.1, Nat.le_refl _⟩).2
  rw [resumed] at grown
  simpa [Controller.ledger] using grown

theorem Trusts.grow {next : Reply → Body} (trusts : e.Trusts next) {after : Execution}
    (more : e.controller.handles.length ≤ after.controller.handles.length) : after.Trusts next :=
  fun reply => (trusts reply).mono (by omega)

theorem Trusts.reply {next : Reply → Body} (trusts : e.Trusts next) (reply : Reply)
    (known : reply.known ≤ e.controller.handles.length) :
    (next reply).Discreet e.controller.handles.length := by
  have discreet := trusts reply
  rwa [Nat.max_eq_left known] at discreet

theorem Awaits.grow {purpose : Purpose} (awaits : e.Awaits purpose) {after : Execution}
    (more : e.controller.handles.length ≤ after.controller.handles.length) :
    after.Awaits purpose := by
  cases purpose with
  | control | stopEarly => exact Trusts.grow awaits more
  | reserve | provision | startAll | close => trivial

/-! ## What does not touch the books -/

theorem Tracked.attend (h : e.Tracked items) (attentive : Bool) :
    { e with attentive }.Tracked items := by
  cases h with
  | fresh stage even => exact .fresh stage ⟨even.kept, even.owed, even.body⟩
  | sleeping stage even trusts =>
      exact .sleeping stage ⟨even.kept, even.owed, even.body⟩ trusts
  | working stage spares even gentle awaits =>
      exact .working stage spares ⟨even.kept, even.owed, even.body⟩ gentle
        (awaits.grow (Nat.le_refl _))
  | stopping stage stops even trusts =>
      exact .stopping stage stops ⟨even.kept, even.owed, even.body⟩ trusts
  | closing stage item mem tears kept early winding =>
      exact .closing stage item mem tears kept early winding
  | closed stage item mem tears kept early ended warned logged =>
      exact .closed stage item mem tears kept early ended warned logged
  | panicked stage => exact .panicked stage

private theorem Tracked.observe (h : e.Tracked items) (service : Nat) (exposure : Exposure) :
    { e with controller := e.controller.observe service exposure }.Tracked items := by
  have ledger := e.controller.ledger_observe service exposure
  have grown : e.controller.handles.length ≤
      (e.controller.observe service exposure).handles.length := by
    simp [Controller.observe, Controller.modifyHandle]
  have kept {w : Option Wait} (kept : e.controller.Kept w) :
      (e.controller.observe service exposure).Kept w :=
    Site.lasting_kept.observe (s := ⟨.ofHosts [], e.controller⟩) service exposure kept
  have observed {operation : Option Operation} (even : e.Even operation) :
      { e with controller := e.controller.observe service exposure }.Even operation :=
    ⟨kept even.kept, even.owed, even.body⟩
  cases h with
  | fresh stage even => exact .fresh stage (observed even)
  | sleeping stage even trusts => exact .sleeping stage (observed even) (trusts.grow grown)
  | working stage spares even gentle awaits =>
      exact .working stage spares (observed even) gentle (awaits.grow grown)
  | stopping stage stops even trusts =>
      exact .stopping stage stops (observed even) (trusts.grow grown)
  | closing stage item mem tears kept' early winding =>
      exact .closing stage item mem tears (kept kept') early (winding.carried ledger)
  | closed stage item mem tears kept' early ended warned logged =>
      exact .closed stage item mem tears (kept kept') early (ended.carried ledger) warned logged
  | panicked stage => exact .panicked stage

end Execution

namespace Account

open Execution (Even Trusts Awaits)

def Tracked (a : Account) : Prop := a.execution.Tracked a.items

variable {e : Execution} {p : Pool} {now : Instant} {ticket : Nat}

private theorem Tracked.after {a : Account} (h : a.Tracked) (item : Item) :
    (a.after item).Tracked :=
  Execution.Tracked.mono h (List.subset_cons_self item a.items)

theorem Tracked.later {a : Account} (h : a.Tracked) (items : List Item) :
    a.execution.Tracked (items ++ a.items) :=
  Execution.Tracked.mono h (List.subset_append_right items a.items)

/-- To begin an operation: what it leads to when it waits, and what follows when it does not. -/
theorem Tracked.serve {purpose : Purpose} {command : Command}
    {next : Completion → Execution → Pool → Account}
    (waits : ∀ operation site,
      Site.issue now ticket command ⟨p, e.controller⟩ = (.waiting operation, site) →
      { e with controller := site.controller, stage := .working purpose operation }.Tracked
        [⟨purpose.isOwn, command, ⟨p, e.controller⟩, (.waiting operation, site)⟩])
    (goes : ∀ completion site,
      Site.issue now ticket command ⟨p, e.controller⟩ = (.finished completion, site) →
      (next completion { e with controller := site.controller } site.pool).Tracked) :
    (serve now ticket purpose command next e p).Tracked := by
  rcases issued : Site.issue now ticket command ⟨p, e.controller⟩ with
    ⟨operation | completion, site⟩
  · rw [serve_of_waiting issued]
    exact waits operation site issued
  · rw [serve_of_finished issued]
    exact (goes completion site issued).after _

theorem tracked_conclude (even : e.Even none) (now : Instant) (ticket : Nat) (outcome : Outcome)
    (p : Pool) : (conclude now ticket outcome e p).Tracked := by
  have winding := Winding.issue (s := ⟨p, e.controller⟩) even.kept.sound now ticket
  have kept := Site.lasting_kept.issue (s := ⟨p, e.controller⟩) now ticket .teardown even.kept
  unfold conclude
  rcases issued : Site.issue now ticket .teardown ⟨p, e.controller⟩ with
    ⟨operation | completion, site⟩
  · rw [issued] at winding kept
    rw [serve_of_waiting issued]
    exact .closing rfl _ List.mem_cons_self ⟨rfl, rfl⟩ kept even.owed winding
  · rw [issued] at winding kept
    rw [serve_of_finished issued]
    cases winding with
    | finished ended =>
        exact .closed rfl _ List.mem_cons_self ⟨rfl, rfl⟩ kept even.owed ended rfl rfl

theorem tracked_play (now : Instant) (ticket : Nat) {body : Body} (even : e.Even none)
    (discreet : body.Discreet e.controller.handles.length) (p : Pool) :
    (play now ticket body e p).Tracked := by
  induction body generalizing e p with
  | ends result => cases result <;> exact tracked_conclude even now ticket _ p
  | panics message => exact .panicked rfl
  | asks act next ih =>
      have trusts : e.Trusts next := discreet.2
      cases act with
      | look => exact ih _ even (trusts.reply (.seen e.controller) (Nat.le_refl _)) p
      | note line =>
          have noted : { e with notes := line :: e.notes }.Even none :=
            ⟨even.kept, even.owed, even.body⟩
          exact ih _ noted (trusts.reply .done (Nat.zero_le _)) p
      | sleep length =>
          unfold play
          split
          · exact ih _ even (trusts.reply .done (Nat.zero_le _)) p
          · exact .sleeping rfl ⟨even.kept, even.owed, even.body⟩ trusts
      | control command limit =>
          have spares : command.stops = false := discreet.1
          unfold play
          refine .serve ?_ ?_
          · intro operation site issued
            have after := even.issue spares issued
            have gentle := (Site.spares_issue spares now ticket ⟨p, e.controller⟩).gentle
            rw [issued] at gentle
            exact .working rfl rfl ⟨after.kept, after.owed, after.body⟩ (gentle _ rfl)
              (trusts.grow (Execution.length_le_issue even.kept issued))
          · intro completion site issued
            have trusts : { e with controller := site.controller }.Trusts next :=
              trusts.grow (Execution.length_le_issue even.kept issued)
            split
            · exact .panicked rfl
            · exact ih (.completed _) (even.issue spares issued)
                (trusts.reply (.completed _) (Nat.zero_le _)) site.pool
      | stopEarly service limit =>
          have found := List.getElem?_eq_getElem (show service < _ from discreet.1)
          refine .serve ?_ ?_
          · intro operation site issued
            have kept := Site.lasting_kept.issue (s := ⟨p, e.controller⟩) now ticket
              (.stop service) even.kept
            rcases Site.issue_stop_cases (s := ⟨p, e.controller⟩) found now ticket with
              led | ⟨deadline, led⟩
            · cases issued.symm.trans led
            · rw [issued] at kept
              cases issued.symm.trans led
              exact .stopping rfl rfl ⟨kept, even.owed, even.body⟩ trusts
          · intro completion site issued
            rcases Site.issue_stop_cases (s := ⟨p, e.controller⟩) found now ticket with
              led | ⟨deadline, led⟩
            · cases issued.symm.trans led
              exact ih _ even (trusts.reply .done (Nat.zero_le _)) p
            · cases issued.symm.trans led

theorem tracked_body (even : e.Even none) (now : Instant) (ticket : Nat) (p : Pool) :
    (play now ticket (e.test.body e.case) e p).Tracked :=
  tracked_play now ticket even (even.body.mono (Nat.zero_le _)) p

/-- An operation that stops nobody, and what it is for. -/
theorem Tracked.serve_spared {purpose : Purpose} {command : Command}
    {next : Completion → Execution → Pool → Account} (even : e.Even none)
    (spares : command.stops = false) (opens : purpose.stops = false)
    (awaits : ∀ {after : Execution}, after.Awaits purpose)
    (goes : ∀ (completion : Completion) (site : Site),
      { e with controller := site.controller }.Even none →
      (next completion { e with controller := site.controller } site.pool).Tracked) :
    (Account.serve now ticket purpose command next e p).Tracked := by
  have gentle := (Site.spares_issue spares now ticket ⟨p, e.controller⟩).gentle
  refine .serve ?_ ?_
  · intro operation site issued
    have after := even.issue spares issued
    rw [issued] at gentle
    exact .working rfl opens ⟨after.kept, after.owed, after.body⟩ (gentle _ rfl) awaits
  · intro completion site issued
    exact goes completion site (even.issue spares issued)

private theorem tracked_startServices (even : e.Even none) (now : Instant) (ticket : Nat)
    (p : Pool) :
    (startServices now ticket e p).Tracked := by
  refine .serve_spared even rfl rfl trivial ?_
  intro completion site even
  split
  · exact tracked_conclude even now ticket _ _
  · exact .panicked rfl
  · exact tracked_body even now ticket _

private theorem tracked_provisionAll (now : Instant) (ticket : Nat) (pending : List Descriptor)
    (even : e.Even none) (p : Pool) : (provisionAll now ticket pending e p).Tracked := by
  induction pending generalizing e p with
  | nil => exact tracked_startServices even now ticket p
  | cons d pending ih =>
      refine .serve_spared even rfl rfl trivial ?_
      intro completion site even
      split
      · exact tracked_conclude even now ticket _ _
      · exact .panicked rfl
      · exact ih even _

/-- What follows when an operation that stops nobody is done. -/
theorem tracked_complete {purpose : Purpose} (completion : Completion) (even : e.Even none)
    (opens : purpose.stops = false) (awaits : e.Awaits purpose) (now : Instant) (ticket : Nat)
    (p : Pool) : (complete now ticket purpose completion e p).Tracked := by
  cases purpose with
  | reserve ds =>
      have provisions := tracked_provisionAll now ticket ds even p
      cases completion with
      | reserved result =>
          cases result with
          | error error => exact tracked_conclude even now ticket _ p
          | ok _ => exact provisions
      | panicked message => exact .panicked rfl
      | provisioned | started | startedAll | ran | stopped | tornDown => exact provisions
  | provision ds =>
      have provisions := tracked_provisionAll now ticket ds even p
      cases completion with
      | provisioned result =>
          cases result with
          | error error => exact tracked_conclude even now ticket _ p
          | ok _ => exact provisions
      | panicked message => exact .panicked rfl
      | reserved | started | startedAll | ran | stopped | tornDown => exact provisions
  | startAll =>
      have plays := tracked_body even now ticket p
      cases completion with
      | startedAll result =>
          cases result with
          | error error => exact tracked_conclude even now ticket _ p
          | ok _ => exact plays
      | panicked message => exact .panicked rfl
      | reserved | provisioned | started | ran | stopped | tornDown => exact plays
  | control next limit =>
      have plays := tracked_play now ticket even
        (Trusts.reply awaits (.completed completion) (Nat.zero_le _)) p
      cases completion with
      | panicked message => exact .panicked rfl
      | reserved | provisioned | started | startedAll | ran | stopped | tornDown => exact plays
  | stopEarly | close => cases opens

private theorem tracked_stopped {next : Reply → Body} {limit : Option Instant} {id : Nat}
    {handle : Handle} {s after : Site} {warning : Option Warning} (even : e.Even none)
    (trusts : e.Trusts next)
    (same : s.controller = e.controller) (ends : Site.Ends now s id handle warning after)
    (kept : after.controller.Kept none) (p : Pool) :
    (complete now ticket (.stopEarly next limit) (.stopped warning)
      { e with controller := after.controller } p).Tracked := by
  have grown : e.controller.handles.length ≤ after.controller.handles.length := by
    have plans := congrArg List.length ends.plans
    rw [same] at plans
    simp only [Controller.ledger, List.length_map] at plans
    exact Nat.le_of_eq plans.symm
  have owed := ends.forced
  rw [same, ← even.owed] at owed
  have trusts : { e with controller := after.controller }.Trusts next := trusts.grow grown
  have discreet := trusts.reply .done (Nat.zero_le _)
  cases warning with
  | none =>
      have even : { e with controller := after.controller }.Even none :=
        ⟨kept, (owed.trans (List.append_nil _)).symm, even.body⟩
      exact tracked_play now ticket even discreet p
  | some warning =>
      have even : { e with
          controller := after.controller, warnings := e.warnings ++ [warning] }.Even none :=
        ⟨kept, (List.map_append).trans owed.symm, even.body⟩
      exact tracked_play now ticket even discreet p

private theorem tracked_begin (even : e.Even none) (now : Instant) (ticket : Nat) (p : Pool) :
    (begin now ticket e p).Tracked := by
  unfold begin
  split
  · exact tracked_conclude even now ticket _ p
  · split
    · exact .panicked rfl
    · refine .serve_spared even rfl rfl trivial ?_
      intro completion site even
      exact tracked_complete completion even rfl (by trivial) now ticket site.pool

theorem cancelled (even : e.Even none) (ticket : Nat) (operation : Operation) (p : Pool) :
    { e with controller := (Site.cancel ticket operation ⟨p, e.controller⟩).controller }.Even
      none := by
  rw [Site.controller_cancel]
  exact even

theorem tracked_cut (even : e.Even none) (now : Instant) (ticket : Nat) (outcome : Outcome)
    (p : Pool) : (cut now ticket outcome e p).Tracked := by
  unfold cut
  split
  · next operation _ => exact tracked_conclude (cancelled even ticket operation p) now ticket _ _
  · exact tracked_conclude even now ticket outcome p

private theorem tracked_giveUp {items : List Item} (h : e.Tracked items) (now : Instant)
    (ticket : Nat)
    (p : Pool) :
    (giveUp now ticket e p).execution.Tracked (items ++ (giveUp now ticket e p).items) := by
  have unmoved : e.Tracked (items ++ []) := by rwa [List.append_nil]
  unfold giveUp
  split
  · next purpose operation working =>
      cases limited : purpose.limit? with
      | none => exact unmoved
      | some bound =>
          obtain ⟨trusts, even⟩ := h.of_limit working limited
          simp only
          split
          · have same := Site.controller_cancel ticket operation ⟨p, e.controller⟩
            have discreet := trusts.reply .gaveUp (Nat.zero_le _)
            refine Tracked.later ?_ items
            exact tracked_play now ticket (cancelled even ticket operation p) (same ▸ discreet) _
          · exact unmoved
  · exact unmoved

section Answer

variable {items : List Item} {operation : Operation}

/-- What an answer to an operation that stops nobody leaves of the books. -/
theorem tracked_answer_spared {purpose : Purpose} (stage : e.stage = .working purpose operation)
    (opens : purpose.stops = false) (even : e.Even (some operation)) (gentle : operation.Gentle)
    (awaits : e.Awaits purpose) (now : Instant) (ticket : Nat) (given : Answer) (p : Pool) :
    (answer now ticket given e p).execution.Tracked
      (items ++ (answer now ticket given e p).items) := by
  rcases resumed : Site.resume now ticket operation given ⟨p, e.controller⟩ with
    ⟨next | completion, site⟩
  · have after := even.resume gentle resumed
    have mild := (Site.spares_resume gentle now ticket given ⟨p, e.controller⟩).gentle
    rw [resumed] at mild
    rw [answer_of_waiting stage resumed]
    exact .working rfl opens ⟨after.kept, after.owed, after.body⟩ (mild _ rfl)
      (awaits.grow (Execution.length_le_resume even.kept resumed))
  · rw [answer_of_finished stage resumed]
    have awaits : { e with controller := site.controller }.Awaits purpose :=
      awaits.grow (Execution.length_le_resume even.kept resumed)
    have after := even.resume gentle resumed
    exact (tracked_complete completion after opens awaits now ticket site.pool).later items

private theorem tracked_answer_stop {next : Reply → Body} {wait : Wait} {id : Nat}
    {limit : Option Instant} (stage : e.stage = .working (.stopEarly next limit) ⟨.alone, wait⟩)
    (stops : wait.stops? = some id)
    (even : e.Even (some ⟨.alone, wait⟩)) (trusts : e.Trusts next) (now : Instant) (ticket : Nat)
    (given : Answer) (p : Pool) :
    (answer now ticket given e p).execution.Tracked
      (items ++ (answer now ticket given e p).items) := by
  have kept := Site.lasting_kept.resume (s := ⟨p, e.controller⟩) now ticket ⟨.alone, wait⟩
    given even.kept
  obtain ⟨handle, found⟩ := even.kept.1.1.handle_of_stops stops
  rcases Site.resume_stop_cases (s := ⟨p, e.controller⟩) stops found now ticket given with
    ⟨still, after, led, stops', same⟩ | ⟨warning, after, led, ends⟩
  · rw [led] at kept
    rw [answer_of_waiting stage led]
    have events : after.controller.events = e.controller.events := congrArg Ledger.events same
    have grown := Execution.length_le_resume even.kept led
    refine .stopping rfl stops' ⟨kept, ?_, even.body⟩ (trusts.grow grown)
    exact even.owed.trans (congrArg forcedIn events.symm)
  · rw [led] at kept
    rw [answer_of_finished stage led]
    have idle : e.Even none := ⟨even.kept.idle, even.owed, even.body⟩
    exact (tracked_stopped idle trusts rfl ends kept _).later items

private theorem tracked_answer_close {outcome : Outcome}
    (stage : e.stage = .working (.close outcome) operation) {item : Item} (mem : item ∈ items)
    (tears : item.Tears) (kept : e.controller.Kept operation.wait)
    (early : e.warnings.map Warning.service = forcedIn item.before.controller.events)
    (winding : Winding item.before.controller (.waiting operation) e.controller) (now : Instant)
    (ticket : Nat) (given : Answer) (p : Pool) :
    (answer now ticket given e p).execution.Tracked
      (items ++ (answer now ticket given e p).items) := by
  have kept' := Site.lasting_kept.resume (s := ⟨p, e.controller⟩) now ticket operation given kept
  have winding := Winding.resume (s := ⟨p, e.controller⟩) winding kept.1.1 now ticket given
  rcases resumed : Site.resume now ticket operation given ⟨p, e.controller⟩ with
    ⟨next | completion, site⟩
  · rw [resumed] at kept' winding
    rw [answer_of_waiting stage resumed]
    exact .closing rfl item (List.mem_append_left _ mem) tears kept' early winding
  · rw [resumed] at kept' winding
    rw [answer_of_finished stage resumed]
    cases winding with
    | finished ended =>
        exact .closed rfl item (List.mem_append_left _ mem) tears kept' early ended rfl rfl

private theorem tracked_answer (h : e.Tracked items) (now : Instant) (ticket : Nat) (given : Answer)
    (p : Pool) :
    (answer now ticket given e p).execution.Tracked
      (items ++ (answer now ticket given e p).items) := by
  have unmoved : e.Tracked (items ++ []) := by rwa [List.append_nil]
  cases h with
  | fresh stage | sleeping stage | closed stage | panicked stage =>
      rw [answer_of_idle (by simp [Execution.operation?, stage])]
      exact unmoved
  | working stage opens even gentle awaits =>
      exact tracked_answer_spared stage opens even gentle awaits now ticket given p
  | stopping stage stops even trusts =>
      exact tracked_answer_stop stage stops even trusts now ticket given p
  | closing stage item mem tears kept early winding =>
      exact tracked_answer_close stage mem tears kept early winding now ticket given p

end Answer

private theorem tracked_enter {items : List Item} (h : e.Tracked items) (now : Instant)
    (ticket : Nat)
    (signal : AbortSignal) (p : Pool) :
    (enter now ticket signal e p).execution.Tracked
      (items ++ (enter now ticket signal e p).items) := by
  have looked : { e with attentive := true }.Tracked (items ++ []) := by
    rw [List.append_nil]
    exact h.attend true
  unfold enter
  simp only
  split
  · exact looked
  · next opening =>
      have even := (h.attend true).even (eq_false_of_ne_true opening)
      have begun : { e with began := now, attentive := true }.Even none :=
        ⟨even.kept, even.owed, even.body⟩
      split
      · exact (tracked_conclude begun now ticket _ p).later items
      · exact (tracked_begin begun now ticket p).later items
      · exact (tracked_cut even now ticket _ p).later items
      · exact looked

private theorem tracked_step {items : List Item} (h : e.Tracked items) (now : Instant)
    (ticket : Nat)
    (signal : AbortSignal) (move : CaseMove) (p : Pool) :
    (step now ticket signal move e p).execution.Tracked
      (items ++ (step now ticket signal move e p).items) := by
  have unmoved : e.Tracked (items ++ []) := by rwa [List.append_nil]
  cases move with
  | enter =>
      simp only [step]
      split
      · exact unmoved
      · exact tracked_enter h now ticket signal p
  | observe service exposure => exact unmoved.observe service exposure
  | park => exact unmoved.attend false
  | breakDown message =>
      simp only [step, Execution.step]
      split
      · exact unmoved
      · exact .panicked (Execution.stage_breakDown ticket message e p)
  | answer given =>
      simp only [step]
      split
      · exact tracked_answer h now ticket given p
      · exact unmoved
  | wake =>
      simp only [step]
      split
      · next sleeping =>
          split
          · cases h with
            | sleeping stage even trusts =>
                cases sleeping.symm.trans stage
                have discreet := trusts.reply .done (Nat.zero_le _)
                exact (tracked_play now ticket even discreet p).later items
            | fresh stage | working stage | stopping stage | closing stage | closed stage
            | panicked stage => cases sleeping.symm.trans stage
          · exact unmoved
      · exact unmoved
  | expire =>
      simp only [step]
      split
      · exact unmoved
      · split
        · next due =>
            have opening : e.isClosing = false := by simp_all
            exact (tracked_cut (h.even opening) now ticket _ p).later items
        · exact unmoved
  | giveUp =>
      simp only [step]
      split
      · exact tracked_giveUp h now ticket p
      · exact unmoved

end Account

namespace Execution

private theorem tracked_ofCase (config : Config) {test : Test} {case : TestCase}
    (discreet : (test.body case).Discreet 0) : (ofCase config test case).Tracked [] :=
  .fresh rfl ⟨Duty.kept_run (config.settings test.numNodes) (.ofHosts []) [], rfl, discreet⟩

private theorem Tracked.run {e : Execution} {items : List Item} (h : e.Tracked items) (ticket : Nat)
    (beats : List Beat) : (e.run ticket beats).Tracked (items ++ e.items ticket beats) := by
  induction beats generalizing e items with
  | nil => rwa [Execution.items, List.append_nil]
  | cons b beats ih =>
      have stepped := Account.tracked_step h b.now ticket b.signal b.move b.pool
      rw [← beat_eq] at stepped
      have onward := ih stepped
      rwa [List.append_assoc] at onward

/-- Whatever the services answer and wherever a case is cut off: when it ends with a record and
its body stops services ahead of the teardown only, the last thing that was recorded of each
service is that it was stopped, and that was recorded once.  The record has one warning for each
service whose stop was forced and none for the others: first those of the stops before the
teardown began, as they came, and then those of the teardown in its order.  Other warnings on
the way would have made no difference to the rest of the record, and the outcome was settled when
the teardown began. -/
theorem warnings_of_closed (config : Config) {test : Test} {case : TestCase}
    (discreet : (test.body case).Discreet 0) (ticket : Nat) (beats : List Beat)
    {record : CaseRecord}
    (closed : ((ofCase config test case).run ticket beats).stage = .closed record) :
    let begins := ofCase config test case
    let e := begins.run ticket beats
    let c := e.controller
    (c.handles.map Handle.name).Nodup ∧
      record.logs = c.events.map (fun event => event.describe e.began) ∧
      (∃ (early late : List Warning) (item : Item) (ended : List Event),
        record.warnings = (early ++ late).map Warning.message ∧
        item ∈ begins.items ticket beats ∧ item.Tears ∧
        let old := item.before.controller
        c.events = old.events ++ ended ∧
        ended.map Event.service = old.namesOf (Site.teardownPlan old) ∧
        (∀ event ∈ ended, event.kind.isEnd = true) ∧
        early.map Warning.service = forcedIn old.events ∧
        late.map Warning.service = forcedIn ended ∧
        (∀ warning ∈ early ++ late, ∃ handle ∈ c.handles, handle.name = warning.service) ∧
        ∀ handle ∈ c.handles, ∃ (past : List EventKind) (final : EventKind),
          historyOf c.events handle.name = past ++ [final] ∧
          final.isEnd = true ∧ (∀ kind ∈ past, kind.isEnd = false) ∧
          ((early ++ late).map Warning.service).count handle.name =
            if final = .forcedStop then 1 else 0) ∧
      ∀ before after, beats = before ++ after →
        (∀ warnings, ∃ messages,
          ({ begins.run ticket before with warnings }.run ticket after).stage =
            .closed { record with warnings := messages }) ∧
        ∀ outcome operation,
          (begins.run ticket before).stage = .working (.close outcome) operation →
            record.outcome = outcome := by
  intro begins e c
  have tracked : e.Tracked ([] ++ begins.items ticket beats) :=
    (tracked_ofCase config discreet).run ticket beats
  obtain ⟨stopped, -⟩ := ((orderly_ofCase config test case).run ticket beats).closed closed
  cases tracked with
  | fresh stage | sleeping stage | working stage | stopping stage | closing stage
  | panicked stage => cases closed.symm.trans stage
  | @closed record late stage item mem tears kept early ended warned logged =>
      cases closed.symm.trans stage
      have faithful : c.ledger.Faithful := kept.sound.faithful
      obtain ⟨-, ended, events, services, final, owed⟩ := ended
      have told : (e.warnings ++ late).map Warning.service = forcedIn c.events := by
        rw [List.map_append, early, owed, events, forcedIn_append]
      refine ⟨?_, logged, ⟨e.warnings, late, item, ended, warned, mem, tears, events, services,
        final, early, owed, ?_, ?_⟩, ?_⟩
      · rw [← Controller.names_ledger]
        exact faithful.distinct
      · intro warning mem
        have forced : warning.service ∈ forcedIn c.events := by
          rw [← told]
          exact List.mem_map_of_mem mem
        obtain ⟨event, mem, named⟩ := List.mem_map.mp forced
        have known := faithful.known event (List.mem_of_mem_filter mem)
        rw [Controller.names_ledger, named] at known
        exact List.mem_map.mp known
      · intro handle mem
        obtain ⟨id, found⟩ := List.mem_iff_getElem?.mp mem
        have life : Life (historyOf c.events handle.name) handle.state :=
          faithful.lives (Controller.plan_of_handle found) (Controller.getElem?_states found)
        rw [stopped id handle found] at life
        obtain ⟨past, final, history, last, unended, count⟩ := life.career.ended
        refine ⟨past, final, history, last, unended, ?_⟩
        rw [told, count_forcedIn]
        exact count
      · rintro before after rfl
        have whole : begins.run ticket (before ++ after) =
            (begins.run ticket before).run ticket after := run_append ticket begins before after
        refine ⟨?_, ?_⟩
        · intro warnings
          rw [whole] at closed
          exact Akin.run ⟨warnings, rfl⟩ closed
        · intro outcome operation closing
          have settled : (begins.run ticket before).settled? = some outcome := by
            simp [settled?, closing]
          have rules : Rules outcome (begins.run ticket before) := .inl settled
          have later := rules.run ticket after
          rw [← whole] at later
          have ends : (begins.run ticket (before ++ after)).stage = .closed record := closed
          exact later.eq (by simp [settled?, ends])

/-- The only service does not end when the body stops it, and is killed. -/
def killing : List Beat :=
  [⟨0, .quiet, .enter, .ofHosts ["one"]⟩,
    ⟨0, .quiet, .answer (.materialized (.ok ⟨[], []⟩)), .ofHosts ["one"]⟩,
    ⟨0, .quiet, .answer (.acknowledged (.ok ())), .ofHosts ["one"]⟩,
    ⟨0, .quiet, .answer (.probed (.ok true)), .ofHosts ["one"]⟩,
    ⟨5, .quiet, .answer (.acknowledged (.error (.unsupported "stop"))), .ofHosts ["one"]⟩,
    ⟨6, .quiet, .answer (.acknowledged (.ok ())), .ofHosts ["one"]⟩]

theorem warned_of_forced_stop :
    let e := (ofCase .standard (.lone (Body.stop "server" fun _ => .idle)) ⟨0, []⟩).run 0 killing
    ∃ record : CaseRecord, e.stage = .closed record ∧ record.outcome = .pass ∧
      ∃ warnings : List Warning, record.warnings = warnings.map Warning.message ∧
        (warnings.map Warning.service).count "server" = 1 := by
  intro e
  have discreet : (Body.stop "server" fun _ => .idle).Discreet 0 :=
    Body.discreet_stop "server" fun _ => trivial
  obtain ⟨record, closed, passed⟩ :
      ∃ record : CaseRecord, e.stage = .closed record ∧ record.outcome = .pass :=
    ⟨_, rfl, by decide⟩
  obtain ⟨-, -, ⟨early, late, _, _, warned, -, -, -, -, -, -, -, -, last⟩, -⟩ :=
    warnings_of_closed .standard discreet 0 killing closed
  obtain ⟨handle, mem, named⟩ : ∃ handle ∈ e.controller.handles, handle.name = "server" :=
    ⟨_, List.mem_cons_self, rfl⟩
  obtain ⟨past, final, history, -, -, counted⟩ := last handle mem
  have recorded : historyOf e.controller.events "server" =
      [.provisioned, .starting, .ready] ++ [.forcedStop] := by decide
  rw [named, recorded] at history
  obtain ⟨-, same⟩ := List.append_inj' history rfl
  obtain rfl := List.singleton_inj.mp same
  rw [named] at counted
  exact ⟨record, closed, passed, early ++ late, warned, counted⟩

end Execution

end Interop
