import Interop.Proofs.Lifecycle.Course

/-!
# Driving a service

A start and a run have one course.  The service is launched when it is asked, whatever is asked
of it later adds requests only, and an error of the service leaves it failed.
-/

namespace Interop

namespace Controller

/-- A service is launched and stands somewhere: what was recorded and asked meanwhile is all
that differs. -/
def launched (c : Controller) (id : Nat) (state : HandleState) (events : List Event)
    (asked : List Request) : Controller :=
  { c.setState id state with
    startOrder := c.startOrder ++ [id]
    events := c.events ++ events
    requests := asked ++ c.requests }

private theorem getElem?_launched (c : Controller) {id : Nat} {handle : Handle}
    (found : c.handles[id]? = some handle) (state : HandleState) (events : List Event)
    (asked : List Request) :
    (c.launched id state events asked).handles[id]? = some { handle with state } := by
  show (c.modifyHandle id fun handle => { handle with state }).handles[id]? = _
  rw [getElem?_modifyHandle, found]
  simp

variable (c : Controller) (id : Nat) (state : HandleState) (events : List Event)
  (asked : List Request)

private theorem observe_launched (service : Nat) (exposure : Exposure) :
    (c.launched id state events asked).observe service exposure =
      (c.observe service exposure).launched id state events asked := by
  have handles : ((c.setState id state).observe service exposure).handles =
      ((c.observe service exposure).setState id state).handles := by
    simp only [observe, setState, modifyHandle]
    -- What a service shows and where it stands are two fields of it.
    by_cases same : id = service
    · rw [same, List.modify_modify_eq, List.modify_modify_eq]
      rfl
    · exact List.modify_modify_ne _ _ _ same
  exact congrArg (fun handles => { c.launched id state events asked with handles }) handles

private theorem turn_launched (now : Instant) (name : String) (kind : EventKind)
    (after : HandleState) :
    ((c.launched id state events asked).setState id after).record now name kind =
      c.launched id after (events ++ [⟨name, kind, now⟩]) asked := by
  simp only [launched, setState, modifyHandle, record, List.append_assoc, List.modify_modify_eq]
  rfl

end Controller

/-- How a service is driven: as what its launch is recorded, what it can have been asked by now,
how it is waited for, and which errors end it. -/
structure Drive where
  id : Nat
  plan : Descriptor
  kind : EventKind
  state : HandleState
  asks : List Request → Prop
  drives : Wait → Prop
  blames : LifecycleError → Prop
  ends : LifecycleError → Completion

namespace Drive

def starting (heard : Answer → Prop) (settings : Settings) (id : Nat) (plan : Descriptor)
    (params : Params String) : Drive where
  id := id
  plan := plan
  kind := .starting
  state := .starting
  asks asked := ∃ probes, asked = .replicate probes (.probe id) ++ [.start id params]
  drives wait := wait.starts? = some id
  blames e := heard (.acknowledged (.error e)) ∨ heard (.probed (.error e)) ∨
    e = .startupTimeout plan.name (plan.startupTimeout.getD settings.startupTimeout)
  ends e := .started (.error e)

def running (heard : Answer → Prop) (id : Nat) (plan : Descriptor) (entryPoint : String)
    (params : Params String) : Drive where
  id := id
  plan := plan
  kind := .running
  state := .running
  asks asked := asked = [.run id entryPoint params]
  drives wait := wait = .run id
  blames e := heard (.ran (.error e))
  ends e := .ran (.error e)

def Knows (drive : Drive) (settings : Settings) (c : Controller) : Prop :=
  c.settings = settings ∧ c.ledger.plans[drive.id]? = some drive.plan

inductive Stands (drive : Drive) (now : Instant) : Progress → (Controller → Controller) → Prop
  | waits {wait : Wait} {asked : List Request} (driven : drive.drives wait)
      (told : drive.asks asked) :
      Stands drive now (.waiting ⟨.alone, wait⟩) fun c =>
        c.launched drive.id drive.state [⟨drive.plan.name, drive.kind, now⟩] asked
  | fails {e : LifecycleError} {asked : List Request} (later : Instant) (blamed : drive.blames e)
      (told : drive.asks asked) :
      Stands drive now (.finished (drive.ends e)) fun c =>
        c.launched drive.id .failed
          [⟨drive.plan.name, drive.kind, now⟩, ⟨drive.plan.name, .startFailed, later⟩] asked

private theorem Stands.of_finished {drive : Drive} {now : Instant} {completion : Completion}
    {f : Controller → Controller} (h : drive.Stands now (.finished completion) f) :
    ∃ e asked later, completion = drive.ends e ∧ drive.blames e ∧ drive.asks asked ∧
      f = fun c => c.launched drive.id .failed
        [⟨drive.plan.name, drive.kind, now⟩, ⟨drive.plan.name, .startFailed, later⟩] asked := by
  cases h with
  | fails later blamed told => exact ⟨_, _, later, rfl, blamed, told, rfl⟩

def site (drive : Drive) (now : Instant) (asked : List Request) (c : Controller) (pool : Pool) :
    Site :=
  ⟨pool, c.launched drive.id drive.state [⟨drive.plan.name, drive.kind, now⟩] asked⟩

variable {drive : Drive} {now later : Instant} {settings : Settings} {heard : Answer → Prop}
  {asked : List Request} {c : Controller} {pool : Pool} {e : LifecycleError}

private theorem Knows.observe (known : drive.Knows settings c) (service : Nat)
    (exposure : Exposure) :
    drive.Knows settings (c.observe service exposure) := by
  refine ⟨known.1, ?_⟩
  rw [Controller.ledger_observe]
  exact known.2

theorem Knows.found (known : drive.Knows settings c) (now : Instant) (asked : List Request)
    (pool : Pool) :
    ∃ handle, (drive.site now asked c pool).controller.handles[drive.id]? = some handle ∧
      handle.descriptor = drive.plan := by
  obtain ⟨-, planned⟩ := known
  simp only [Controller.ledger, List.getElem?_map, Option.map_eq_some_iff] at planned
  obtain ⟨handle, found, plan⟩ := planned
  exact ⟨_, c.getElem?_launched found _ _ _, plan⟩

theorem course (answers : ∀ {wait asked answer c}, drive.drives wait → drive.asks asked →
      drive.Knows settings c → heard answer → ∀ later ticket pool,
        Commons.Arrives True (drive.Stands now) c pool
          (Site.resume later ticket ⟨.alone, wait⟩ answer (drive.site now asked c pool))) :
    Commons.Course heard True (drive.Knows settings) (drive.Stands now) where
  observes known service exposure := known.observe service exposure
  commutes h c service exposure := by
    cases h <;> exact c.observe_launched _ _ _ _ service exposure
  answers stands known spoken later ticket pool := by
    cases stands with
    | waits driven told => exact answers driven told known spoken later ticket pool

theorem arrives_waits {wait : Wait} (driven : drive.drives wait) (told : drive.asks asked) :
    Commons.Arrives True (drive.Stands now) c pool
      (.waiting ⟨.alone, wait⟩, drive.site now asked c pool) :=
  .inl ⟨_, .waits driven told, rfl, fun _ => rfl⟩

theorem arrives_fails (later : Instant) (blamed : drive.blames e) (told : drive.asks asked) :
    Commons.Arrives True (drive.Stands now) c pool
      (.finished (drive.ends e), (drive.site now asked c pool).modify fun c =>
        (c.setState drive.id .failed).record later drive.plan.name .startFailed) := by
  refine .inl ⟨_, .fails later blamed told, ?_, fun _ => rfl⟩
  exact Controller.turn_launched c drive.id drive.state _ asked later _ _ _

/-- A service that was asked for and brought an error is launched and failed, and that is
all. -/
theorem failed {m : Commons} {more : List CommonsMove} {ticket : Nat} {command : Command}
    {wait : Wait} {completion : Completion}
    (course : Commons.Course (Commons.Heard more) True (drive.Knows settings) (drive.Stands now))
    (idle : m.duty.operation = none) (known : drive.Knows settings m.controller)
    (issued : m.duty.site.issue now ticket command =
      (.waiting ⟨.alone, wait⟩, drive.site now asked m.controller m.pool))
    (driven : drive.drives wait) (told : drive.asks asked)
    (attended : ∀ move ∈ more, move.attends = true)
    (returned : m.returns (.issue now ticket command :: more) = [completion])
    (error : completion.error? = some e) :
    ∃ e asked later, completion = drive.ends e ∧ drive.blames e ∧ drive.asks asked ∧
      m.run (.issue now ticket command :: more) =
        (m.run (more.filter CommonsMove.isForeign)).alter fun c => c.launched drive.id .failed
          [⟨drive.plan.name, drive.kind, now⟩, ⟨drive.plan.name, .startFailed, later⟩] asked := by
  have begun : Commons.Arrives True (drive.Stands now) m.controller m.pool
      (m.duty.site.issue now ticket command) := by
    rw [issued]
    exact arrives_waits driven told
  obtain ⟨f, stands, beside⟩ :=
    course.fate idle known begun attended (fun _ spoken => spoken) returned error
  obtain ⟨e, asked, later, same, blamed, told, rfl⟩ := stands.of_finished
  refine ⟨e, asked, later, same, blamed, told, beside.eq_alter ?_⟩
  rw [Commons.operation_run_foreign, idle]

section Starting

variable {id : Nat} {plan : Descriptor} {params : Params String}

theorem arrives_failStart (known : (starting heard settings id plan params).Knows settings c)
    (blamed : (starting heard settings id plan params).blames e)
    (told : (starting heard settings id plan params).asks asked) (later : Instant) (pool : Pool) :
    let s := (starting heard settings id plan params).site now asked c pool
    Commons.Arrives True ((starting heard settings id plan params).Stands now) c pool
      (Site.follow later .alone (s.failStart later id e).1 (s.failStart later id e).2) := by
  intro s
  obtain ⟨handle, found, rfl⟩ := known.found now asked pool
  have failed : s.failStart later id e = (.ends (.started (.error e)),
      s.modify fun c => (c.setState id .failed).record later handle.name .startFailed) := by
    simp only [Site.failStart]
    rw [show s.controller.handles[id]? = some handle from found]
  rw [failed]
  exact arrives_fails later blamed told

private theorem arrives_expireStart
    (known : (starting heard settings id plan params).Knows settings c)
    (told : (starting heard settings id plan params).asks asked) (later : Instant) (pool : Pool) :
    let s := (starting heard settings id plan params).site now asked c pool
    Commons.Arrives True ((starting heard settings id plan params).Stands now) c pool
      (Site.follow later .alone (s.expireStart later id).1 (s.expireStart later id).2) := by
  intro s
  obtain ⟨handle, found, same⟩ := known.found now asked pool
  have expired : s.expireStart later id = s.failStart later id
      (.startupTimeout plan.name (plan.startupTimeout.getD settings.startupTimeout)) := by
    obtain rfl : handle.descriptor = plan := same
    obtain rfl : c.settings = settings := known.1
    simp only [Site.expireStart]
    rw [show s.controller.handles[id]? = some handle from found]
    rfl
  rw [expired]
  exact arrives_failStart known (.inr (.inr rfl)) told later pool

private theorem arrives_succeedStart
    (known : (starting heard settings id plan params).Knows settings c)
    (later : Instant) (pool : Pool) :
    let s := (starting heard settings id plan params).site now asked c pool
    Commons.Arrives True ((starting heard settings id plan params).Stands now) c pool
      (Site.follow later .alone (s.succeedStart later id).1 (s.succeedStart later id).2) := by
  intro s
  obtain ⟨handle, found, -⟩ := known.found now asked pool
  have ready : (s.succeedStart later id).1 =
      .ends (.started (.ok ⟨handle.name, handle.exposure.endpoints⟩)) := by
    simp only [Site.succeedStart]
    rw [show s.controller.handles[id]? = some handle from found]
  rw [ready]
  exact .inr ⟨_, rfl, rfl⟩

private theorem arrives_resume_starting {wait : Wait} {answer : Answer}
    (driven : wait.starts? = some id) (told : (starting heard settings id plan params).asks asked)
    (known : (starting heard settings id plan params).Knows settings c) (spoken : heard answer)
    (later : Instant) (ticket : Nat) (pool : Pool) :
    Commons.Arrives True ((starting heard settings id plan params).Stands now) c pool
      (Site.resume later ticket ⟨.alone, wait⟩ answer
        ((starting heard settings id plan params).site now asked c pool)) := by
  let drive := starting heard settings id plan params
  have stays : Commons.Arrives True (drive.Stands now) c pool
      (.waiting ⟨.alone, wait⟩, drive.site now asked c pool) := arrives_waits driven told
  have probes : ∀ deadline, Commons.Arrives True (drive.Stands now) c pool
      (.waiting ⟨.alone, .probe id deadline⟩, drive.site now (.probe id :: asked) c pool) := by
    intro deadline
    -- One more probe is one more request, and nothing else.
    obtain ⟨probes, rfl⟩ := told
    exact arrives_waits rfl ⟨probes + 1, rfl⟩
  cases wait with
  | start service deadline =>
      obtain rfl : service = id := Option.some.inj driven
      cases answer with
      | acknowledged result =>
          cases result with
          | ok _ => exact probes deadline
          | error e => exact arrives_failStart known (.inl spoken) told later pool
      | elapsed => exact arrives_expireStart known told later pool
      | woken | materialized | probed | ran => exact stays
  | probe service deadline =>
      obtain rfl : service = id := Option.some.inj driven
      cases answer with
      | probed result =>
          cases result with
          | ok ready =>
              cases ready with
              | true => exact arrives_succeedStart known later pool
              | false =>
                  simp only [Site.resume, Site.continueWith, Site.pauseProbing]
                  split
                  · exact arrives_expireStart known told later pool
                  · split
                    · exact .inr ⟨_, rfl, rfl⟩
                    · exact arrives_waits rfl told
          | error e => exact arrives_failStart known (.inr (.inl spoken)) told later pool
      | elapsed => exact arrives_expireStart known told later pool
      | woken | materialized | acknowledged | ran => exact stays
  | pause service deadline wake =>
      obtain rfl : service = id := Option.some.inj driven
      cases answer with
      | elapsed => exact probes deadline
      | woken | materialized | acknowledged | probed | ran => exact stays
  | reservation | placement | materialization | run | stop | kill => cases driven

theorem course_starting (heard : Answer → Prop) (settings : Settings) (id : Nat)
    (plan : Descriptor) (params : Params String) (now : Instant) :
    Commons.Course heard True ((starting heard settings id plan params).Knows settings)
      ((starting heard settings id plan params).Stands now) :=
  course fun driven told known spoken later ticket pool =>
    arrives_resume_starting driven told known spoken later ticket pool

end Starting

section Running

variable {id : Nat} {plan : Descriptor} {entryPoint : String} {params : Params String}

private theorem arrives_resume_running {wait : Wait} {answer : Answer} (driven : wait = .run id)
    (told : (running heard id plan entryPoint params).asks asked)
    (known : (running heard id plan entryPoint params).Knows settings c) (spoken : heard answer)
    (later : Instant) (ticket : Nat) (pool : Pool) :
    Commons.Arrives True ((running heard id plan entryPoint params).Stands now) c pool
      (Site.resume later ticket ⟨.alone, wait⟩ answer
        ((running heard id plan entryPoint params).site now asked c pool)) := by
  subst driven
  obtain ⟨handle, found, rfl⟩ := known.found now asked pool
  cases answer with
  | ran result =>
      simp only [Site.resume, Site.continueWith, Site.endRun]
      rw [show ((running heard id handle.descriptor entryPoint params).site now asked c
        pool).controller.handles[id]? = some handle from found]
      cases result with
      | ok outcome => exact .inr ⟨_, rfl, rfl⟩
      | error e =>
          have blamed : (running heard id handle.descriptor entryPoint params).blames e := spoken
          exact arrives_fails later blamed told
  | woken | elapsed | materialized | acknowledged | probed => exact arrives_waits rfl told

theorem course_running (heard : Answer → Prop) (settings : Settings) (id : Nat)
    (plan : Descriptor) (entryPoint : String) (params : Params String) (now : Instant) :
    Commons.Course heard True ((running heard id plan entryPoint params).Knows settings)
      ((running heard id plan entryPoint params).Stands now) :=
  course fun driven told known spoken later ticket pool =>
    arrives_resume_running driven told known spoken later ticket pool

end Running

end Drive

end Interop
