import Interop.Proofs.Lifecycle.Drive

/-!
# Operations that fail

A provisioning that fails has changed nothing but where nodes of the reservation are.  A start
or a run that fails has changed nothing if the service was never asked; else the service is
launched and failed, and that is all.
-/

namespace Interop

/-! ## Provisioning -/

/-- How far a service has got that is not provisioned yet, and what that has done to a
controller with the given reservation. -/
inductive Provisioning (heard : Answer → Prop) (d : Descriptor) (reservation : Option Lease) :
    Progress → (Controller → Controller) → Prop
  | queues (deadline : Instant) :
      Provisioning heard d reservation (.waiting ⟨.alone, .placement d deadline⟩) id
  | pooled (lease : Lease) :
      Provisioning heard d reservation (.waiting ⟨.alone, .materialization d lease⟩) fun c =>
        c.ask (.materialize d lease.nodes)
  | drawn {held lease rest : Lease} (reserved : reservation = some held)
      (parted : held.splitOff d.nodeCount = some (lease, rest)) :
      Provisioning heard d reservation (.waiting ⟨.alone, .materialization d lease⟩) fun c =>
        Controller.ask { c with reservation := some rest } (.materialize d lease.nodes)
  | refused (e : LifecycleError) :
      Provisioning heard d reservation (.finished (.provisioned (.error e))) id
  | declined {lease : Lease} {f : Controller → Controller} {cause : ProvisionError}
      (before : Provisioning heard d reservation (.waiting ⟨.alone, .materialization d lease⟩) f)
      (told : heard (.materialized (.error cause))) :
      Provisioning heard d reservation (.finished (.provisioned (.error (.provision cause)))) f

namespace Provisioning

variable {heard : Answer → Prop} {d : Descriptor} {reservation : Option Lease}
  {p : Progress} {f : Controller → Controller}

private theorem commutes (h : Provisioning heard d reservation p f) (c : Controller) (service : Nat)
    (exposure : Exposure) : (f c).observe service exposure = f (c.observe service exposure) := by
  induction h with
  | queues | pooled | drawn | refused => rfl
  | declined before told ih => exact ih

private theorem placement (now : Instant) (ticket : Nat) (deadline : Instant) {answer : Answer}
    (c : Controller) (pool : Pool) :
    Commons.Arrives False (Provisioning heard d reservation) c pool
      (Site.resume now ticket ⟨.alone, .placement d deadline⟩ answer ⟨pool, c⟩) := by
  cases answer with
  | woken =>
      simp only [Site.resume, Site.continueWith]
      rcases Site.attempt_cases ⟨pool, c⟩ ticket d.nodeCount with
        ⟨lease, after, granted, same⟩ | same
      · rw [same]
        exact .inl ⟨_, .pooled lease, rfl, False.elim⟩
      · rw [same]
        exact .inl ⟨_, .queues deadline, rfl, False.elim⟩
  | elapsed => exact .inl ⟨_, .refused _, rfl, False.elim⟩
  | materialized | acknowledged | probed | ran =>
      exact .inl ⟨_, .queues deadline, rfl, False.elim⟩

private theorem materialization {lease : Lease} {answer : Answer} (told : heard answer)
    (h : Provisioning heard d reservation (.waiting ⟨.alone, .materialization d lease⟩) f)
    (now : Instant) (ticket : Nat) (c : Controller) (pool : Pool) :
    Commons.Arrives False (Provisioning heard d reservation) c pool
      (Site.resume now ticket ⟨.alone, .materialization d lease⟩ answer ⟨pool, f c⟩) := by
  cases answer with
  | materialized result =>
      cases result with
      | ok exposure => exact .inr ⟨_, rfl, rfl⟩
      | error cause => exact .inl ⟨f, .declined h told, rfl, False.elim⟩
  | woken | elapsed | acknowledged | probed | ran => exact .inl ⟨f, h, rfl, False.elim⟩

private theorem course (heard : Answer → Prop) (d : Descriptor) (reservation : Option Lease) :
    Commons.Course heard False (fun c => c.reservation = reservation)
      (Provisioning heard d reservation) where
  observes known _ _ := known
  commutes h := h.commutes
  answers stands known told now ticket pool := by
    cases stands with
    | queues deadline => exact placement now ticket deadline _ pool
    | pooled lease => exact materialization told (.pooled lease) now ticket _ pool
    | drawn reserved parted =>
        exact materialization told (.drawn reserved parted) now ticket _ pool

private theorem issue (now : Instant) (ticket : Nat) (d : Descriptor) (s : Site) :
    Commons.Arrives False (Provisioning heard d s.controller.reservation) s.controller s.pool
      (s.issue now ticket (.provision d)) := by
  simp only [Site.issue, Site.provision]
  split
  · exact .inl ⟨_, .refused _, rfl, False.elim⟩
  · split
    · next lease drawn taken =>
        obtain ⟨held, rest, reserved, parted, rfl⟩ := Site.drawReserved_eq_some taken
        exact .inl ⟨_, .drawn reserved parted, rfl, False.elim⟩
    · split
      · exact .inl ⟨_, .refused _, rfl, False.elim⟩
      · split
        · exact .inr ⟨_, rfl, rfl⟩
        · rcases Site.attempt_cases s ticket d.nodeCount with ⟨lease, pool, granted, same⟩ | same
          · rw [same]
            exact .inl ⟨_, .pooled lease, rfl, False.elim⟩
          · rw [same]
            exact .inl ⟨_, .queues _, rfl, False.elim⟩

end Provisioning

/-! ## What an error leaves -/

/-- What a service that was not provisioned has done to a controller, with the nodes that went
from the reservation back to the pool. -/
inductive Unplaced (heard : Answer → Prop) (d : Descriptor) (e : LifecycleError) (c : Controller) :
    Lease → Controller → Prop
  /-- The launcher was never asked. -/
  | unasked : Unplaced heard d e c ⟨[]⟩ c
  | pooled {cause : ProvisionError} {lease : Lease} (told : heard (.materialized (.error cause)))
      (same : e = .provision cause) : Unplaced heard d e c ⟨[]⟩ (c.ask (.materialize d lease.nodes))
  | drawn {cause : ProvisionError} {held lease rest : Lease}
      (told : heard (.materialized (.error cause))) (same : e = .provision cause)
      (reserved : c.reservation = some held)
      (parted : held.splitOff d.nodeCount = some (lease, rest)) :
      Unplaced heard d e c lease
        (Controller.ask { c with reservation := some rest } (.materialize d lease.nodes))

private theorem Unplaced.kept {heard : Answer → Prop} {d : Descriptor} {e : LifecycleError}
    {c c' : Controller} {back : Lease} (h : Unplaced heard d e c back c') :
    c'.handles = c.handles ∧ c'.startOrder = c.startOrder ∧ c'.events = c.events ∧
      c'.nodesAssigned = c.nodesAssigned := by
  cases h <;> exact ⟨rfl, rfl, rfl, rfl⟩

private theorem Unplaced.perm_held {heard : Answer → Prop} {d : Descriptor} {e : LifecycleError}
    {c c' : Controller} {back : Lease} (h : Unplaced heard d e c back c') :
    c.held.Perm (back.nodes ++ c'.held) := by
  cases h with
  | unasked | pooled => exact .refl _
  | @drawn cause held lease rest told same reserved parted =>
      have taken : (Site.mk default c).drawReserved d.nodeCount =
          some (back, ⟨default, { c with reservation := some rest }⟩) := by
        simp [Site.drawReserved, Site.modify, reserved, parted]
      exact (Custody.perm_held_drawReserved taken).1.trans List.perm_append_comm

namespace Commons

variable {m : Commons} {now : Instant} {ticket id : Nat} {more : List CommonsMove}
  {e : LifecycleError}

private theorem unplaced_of_error {d : Descriptor} (idle : m.duty.operation = none)
    (attended : ∀ move ∈ more, move.attends = true)
    (returned : m.returns (.issue now ticket (.provision d) :: more) = [.provisioned (.error e)]) :
    let still := m.run (more.filter CommonsMove.isForeign)
    let after := m.run (.issue now ticket (.provision d) :: more)
    after.duty.operation = none ∧
      ∃ back, Unplaced (Heard more) d e still.controller back after.controller := by
  intro still after
  obtain ⟨f, stands, beside⟩ := (Provisioning.course (Heard more) d m.controller.reservation).fate
    idle rfl (Provisioning.issue now ticket d m.duty.site) attended (fun _ spoken => spoken)
    returned rfl
  have known : still.controller.reservation = m.controller.reservation :=
    m.keeps_run_foreign (K := fun c => c.reservation = m.controller.reservation)
      (fun _ _ _ same => same) more rfl
  refine ⟨beside.operation, ?_⟩
  rw [beside.controller]
  cases stands with
  | refused => exact ⟨_, .unasked⟩
  | declined before told =>
      cases before with
      | pooled lease => exact ⟨_, .pooled told rfl⟩
      | drawn reserved parted => exact ⟨_, .drawn told rfl (known.trans reserved) parted⟩

private theorem failed_of_start (idle : m.duty.operation = none)
    (attended : ∀ move ∈ more, move.attends = true)
    (returned : m.returns (.issue now ticket (.start id) :: more) = [.started (.error e)]) :
    let still := m.run (more.filter CommonsMove.isForeign)
    let after := m.run (.issue now ticket (.start id) :: more)
    (Site.planStart m.controller id = .error e ∧ after = still) ∨
      ∃ handle params probes later, m.controller.handles[id]? = some handle ∧
        (Heard more (.acknowledged (.error e)) ∨ Heard more (.probed (.error e)) ∨
          e = .startupTimeout handle.name (Site.startupTimeout m.controller handle)) ∧
        after = still.alter fun c => c.launched id .failed
          [⟨handle.name, .starting, now⟩, ⟨handle.name, .startFailed, later⟩]
          (.replicate probes (.probe id) ++ [.start id params]) := by
  intro still after
  have issued : m.duty.site.issue now ticket (.start id) =
      Site.follow now .alone (m.duty.site.start now id).1 (m.duty.site.start now id).2 := rfl
  cases planned : Site.planStart m.duty.site.controller id with
  | error cause =>
      simp only [Site.start, planned] at issued
      obtain ⟨same, spared⟩ := run_of_refused idle issued attended returned
      cases same
      exact .inl ⟨planned, spared⟩
  | ok plan =>
      cases plan with
      | already signal =>
          simp only [Site.start, planned] at issued
          obtain ⟨same, -⟩ := run_of_refused idle issued attended returned
          cases same
      | go name timeout params =>
          obtain ⟨handle, found, -, rfl, -, -⟩ := Site.checked_of_planStart planned
          let drive := Drive.starting (Heard more) m.controller.settings id handle.descriptor params
          cases time : timeout.after? m.duty.site.controller.settings.horizon now with
          | none =>
              rw [Site.start_of_late planned time] at issued
              have broke := (issue_of_idle idle now ticket (.start id)).2
              rw [returns, broke, issued] at returned
              cases returned
          | some deadline =>
              rw [Site.start_of_due planned time] at issued
              have asked : m.duty.site.issue now ticket (.start id) =
                  (.waiting ⟨.alone, .start id deadline⟩,
                    drive.site now [.start id params] m.controller m.pool) := issued
              obtain ⟨_, _, later, same, blamed, ⟨probes, rfl⟩, led⟩ :=
                Drive.failed (Drive.course_starting _ _ _ _ _ _) idle
                  ⟨rfl, Controller.plan_of_handle found⟩ asked rfl ⟨0, rfl⟩ attended returned rfl
              cases same
              exact .inr ⟨handle, params, probes, later, found, blamed, led⟩

private theorem failed_of_run (idle : m.duty.operation = none)
    (attended : ∀ move ∈ more, move.attends = true)
    (returned : m.returns (.issue now ticket (.run id) :: more) = [.ran (.error e)]) :
    let still := m.run (more.filter CommonsMove.isForeign)
    let after := m.run (.issue now ticket (.run id) :: more)
    (Site.planRun m.controller id = .error e ∧ after = still) ∨
      ∃ handle entryPoint params later, m.controller.handles[id]? = some handle ∧
        Heard more (.ran (.error e)) ∧
        after = still.alter fun c => c.launched id .failed
          [⟨handle.name, .running, now⟩, ⟨handle.name, .startFailed, later⟩]
          [.run id entryPoint params] := by
  intro still after
  have issued : m.duty.site.issue now ticket (.run id) =
      Site.follow now .alone (m.duty.site.run now id).1 (m.duty.site.run now id).2 := rfl
  simp only [Site.run] at issued
  cases planned : Site.planRun m.duty.site.controller id with
  | error cause =>
      rw [planned] at issued
      obtain ⟨same, spared⟩ := run_of_refused idle issued attended returned
      cases same
      exact .inl ⟨planned, spared⟩
  | ok plan =>
      obtain ⟨name, entryPoint, params⟩ := plan
      rw [planned] at issued
      obtain ⟨handle, found, -, rfl, -⟩ := Site.checked_of_planRun planned
      let drive := Drive.running (Heard more) id handle.descriptor entryPoint params
      have asked : m.duty.site.issue now ticket (.run id) =
          (.waiting ⟨.alone, .run id⟩,
            drive.site now [.run id entryPoint params] m.controller m.pool) := issued
      obtain ⟨_, _, later, same, blamed, rfl, led⟩ :=
        Drive.failed (Drive.course_running _ _ _ _ _ _ _) idle
          ⟨rfl, Controller.plan_of_handle found⟩ asked rfl rfl attended returned rfl
      cases same
      exact .inr ⟨handle, entryPoint, params, later, found, blamed, led⟩

/-- A controller with nothing in progress is told to provision, to start or to run a service, and
nothing else until that has brought an error; meanwhile services show what they like of
themselves and others do what they like with the pool.  Compare what is there afterwards with
what would be there without the operation.

A provisioning leaves the services, the start order, the events and the number of assigned nodes
as they are, and each node is free, with the case or with others.  If the launcher refused, the
reservation is without the nodes that the service was to have from it; unless others moved,
these are back in the pool, of which nothing else changed but the peak.

A start or a run was refused, and nothing changed at all; or it asked the service.  Then the
error is that of the service, or the start was late, and all that changed is that this service
failed, is the last of the start order and has two more events. -/
theorem atomic_of_error (settings : Settings) (hosts : List String) (moves : List CommonsMove)
    (idle : ((ofSettings settings hosts).run moves).duty.operation = none) (now : Instant)
    (ticket : Nat) (more : List CommonsMove) (attended : ∀ move ∈ more, move.attends = true) :
    let m := (ofSettings settings hosts).run moves
    let still := m.run (more.filter CommonsMove.isForeign)
    (∀ d e, m.returns (.issue now ticket (.provision d) :: more) = [.provisioned (.error e)] →
      let after := m.run (.issue now ticket (.provision d) :: more)
      after.duty.operation = none ∧
      (after.controller.handles = still.controller.handles ∧
        after.controller.startOrder = still.controller.startOrder ∧
        after.controller.events = still.controller.events ∧
        after.controller.nodesAssigned = still.controller.nodesAssigned) ∧
      (after.pool.free ++
        (after.controller.held ++ after.others.flatMap Lease.nodes).map Node.id).Perm
          (List.range hosts.length) ∧
      ∃ back, Unplaced (Heard more) d e still.controller back after.controller ∧
        ((∀ move ∈ more, ∀ other, move ≠ .others other) →
          after.pool.books = { (m.pool.giveBack back).books with peak := after.pool.peak })) ∧
    (∀ id e, m.returns (.issue now ticket (.start id) :: more) = [.started (.error e)] →
      let after := m.run (.issue now ticket (.start id) :: more)
      (Site.planStart m.controller id = .error e ∧ after = still) ∨
        ∃ handle params probes later, m.controller.handles[id]? = some handle ∧
          (Heard more (.acknowledged (.error e)) ∨ Heard more (.probed (.error e)) ∨
            e = .startupTimeout handle.name (Site.startupTimeout m.controller handle)) ∧
          after = still.alter fun c => c.launched id .failed
            [⟨handle.name, .starting, now⟩, ⟨handle.name, .startFailed, later⟩]
            (.replicate probes (.probe id) ++ [.start id params])) ∧
    (∀ id e, m.returns (.issue now ticket (.run id) :: more) = [.ran (.error e)] →
      let after := m.run (.issue now ticket (.run id) :: more)
      (Site.planRun m.controller id = .error e ∧ after = still) ∨
        ∃ handle entryPoint params later, m.controller.handles[id]? = some handle ∧
          Heard more (.ran (.error e)) ∧
          after = still.alter fun c => c.launched id .failed
            [⟨handle.name, .running, now⟩, ⟨handle.name, .startFailed, later⟩]
            [.run id entryPoint params]) := by
  intro m still
  have sound : m.Sound (Pool.ofHosts hosts).nodes := (sound_ofSettings settings hosts).run moves
  refine ⟨?_, fun id e returned => failed_of_start idle attended returned,
    fun id e returned => failed_of_run idle attended returned⟩
  intro d e returned after
  obtain ⟨ended, back, unplaced⟩ := unplaced_of_error idle attended returned
  have sound' : after.Sound (Pool.ofHosts hosts).nodes := sound.run _
  have balanced := sound'.balanced ended
  refine ⟨ended, unplaced.kept, ?_, back, unplaced, ?_⟩
  · have capacity : after.pool.capacity = hosts.length :=
      (congrArg List.length sound'.nodes).trans (Pool.capacity_ofHosts hosts)
    rw [← capacity]
    exact balanced.partition
  · intro alone
    have held : still.controller.held = m.controller.held := by
      refine m.keeps_run_foreign (K := fun c => c.held = m.controller.held) ?_ more rfl
      intro c service exposure same
      exact (c.held_modifyHandle service (f := fun handle => { handle with exposure }) fun _ =>
        rfl).trans same
    have others : after.others = m.others :=
      others_run_alone (m.step (.issue now ticket (.provision d))) alone
    have moved := unplaced.perm_held
    rw [held] at moved
    have before := (sound.balanced idle).perm (moved.append_right _)
    rw [List.append_assoc] at before
    rw [others] at balanced
    -- Both books balance with the same nodes, so only the peaks can differ.
    exact before.giveBack.books_eq balanced (sound'.nodes.trans sound.nodes.symm)

/-- A server is there, and a node is reserved for another one. -/
def halfway : List CommonsMove :=
  [.issue 0 0 (.provision (.server "base" .dev)), .answer 1 0 (.materialized (.ok ⟨[], []⟩)),
    .issue 2 0 (.reserve 1)]

/-- The launcher refuses, and so does a service. -/
def refusals : List CommonsMove :=
  [.answer 4 0 (.materialized (.error (.unsupported "top" "dev" "gone"))),
    .answer 5 0 (.acknowledged (.error (.startup "base" "broken")))]

theorem atomic_of_refusals :
    let m := (ofSettings .standard (.replicate 2 "host")).run halfway
    let provisioned := m.run (.issue 3 0 (.provision (.server "top" .dev)) :: refusals)
    let started := m.run (.issue 3 0 (.start 0) :: refusals)
    m.duty.operation = none ∧ (∀ move ∈ refusals, move.attends = true) ∧
      m.returns (.issue 3 0 (.provision (.server "top" .dev)) :: refusals) =
        [.provisioned (.error (.provision (.unsupported "top" "dev" "gone")))] ∧
      (∃ back, provisioned.controller.handles = m.controller.handles ∧
        provisioned.pool.books =
          { (m.pool.giveBack back).books with peak := provisioned.pool.peak }) ∧
      m.returns (.issue 3 0 (.start 0) :: refusals) =
        [.started (.error (.startup "base" "broken"))] ∧
      ∃ asked later, started = m.alter fun c => c.launched 0 .failed
        [⟨"base", .starting, 3⟩, ⟨"base", .startFailed, later⟩] asked := by
  intro m provisioned started
  have idle : m.duty.operation = none := rfl
  have attended : ∀ move ∈ refusals, move.attends = true := by
    simp [refusals, CommonsMove.attends]
  obtain ⟨failing, failing', -⟩ :=
    atomic_of_error .standard (.replicate 2 "host") halfway idle 3 0 refusals attended
  have returned : m.returns (.issue 3 0 (.provision (.server "top" .dev)) :: refusals) =
      [.provisioned (.error (.provision (.unsupported "top" "dev" "gone")))] := rfl
  have returned' : m.returns (.issue 3 0 (.start 0) :: refusals) =
      [.started (.error (.startup "base" "broken"))] := rfl
  obtain ⟨-, ⟨handles, -⟩, -, back, -, books⟩ := failing _ _ returned
  refine ⟨idle, attended, returned, ⟨back, handles, books ?_⟩, returned', ?_⟩
  · simp [refusals]
  · rcases failing' _ _ returned' with
      ⟨refused, -⟩ | ⟨handle, params, probes, later, found, -, led⟩
    · cases refused
    · cases found
      exact ⟨_, later, led⟩

end Commons

end Interop
