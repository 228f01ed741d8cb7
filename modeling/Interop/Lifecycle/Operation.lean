import Interop.Lifecycle.Controller

/-!
# Operations that wait

Reserving, provisioning, starting, running and stopping wait for nodes, for services or for
time.  An operation in progress is a value that says what it waits for and what it does when
that comes; it can be continued with an answer, or dropped at any point where it waits.
Everything that it holds meanwhile, such as the nodes of a service that is being
materialized, is part of that value.
-/

namespace Interop

structure Site where
  pool : Pool
  controller : Controller
  deriving DecidableEq, Repr, Inhabited

inductive Wait
  | reservation (count : Nat) (deadline : Instant)
  | placement (descriptor : Descriptor) (deadline : Instant)
  | materialization (descriptor : Descriptor) (lease : Lease)
  | start (service : Nat) (deadline : Instant)
  | probe (service : Nat) (deadline : Instant)
  | pause (service : Nat) (deadline wake : Instant)
  | run (service : Nat)
  | stop (service : Nat) (deadline : Instant)
  | kill (service : Nat) (deadline : Instant) (problem : String)
  deriving DecidableEq, Repr

def Wait.alarm? : Wait → Option Instant
  | .reservation _ deadline | .placement _ deadline | .start _ deadline | .probe _ deadline
  | .stop _ deadline | .kill _ deadline _ => some deadline
  | .pause _ _ wake => some wake
  | .materialization _ _ | .run _ => none

/-- What a finished wait is to be followed by. -/
inductive Goal
  | alone
  | startAll (next : Nat) (signals : List ReadySignal)
  | teardown (rest : List Nat) (warnings : List Warning)
  deriving DecidableEq, Repr

structure Operation where
  goal : Goal
  wait : Wait
  deriving DecidableEq, Repr

inductive Completion
  | reserved (result : Except LifecycleError Unit)
  | provisioned (result : Except LifecycleError Nat)
  | started (result : Except LifecycleError ReadySignal)
  | startedAll (result : Except LifecycleError (List ReadySignal))
  | ran (result : Except LifecycleError AppOutcome)
  | stopped (warning : Option Warning)
  | tornDown (warnings : List Warning)
  | panicked (message : String)

inductive Answer
  | woken
  | elapsed
  | materialized (result : Except ProvisionError Exposure)
  | acknowledged (result : Except LifecycleError Unit)
  | probed (result : Except LifecycleError Bool)
  | ran (result : Except LifecycleError AppOutcome)

/-- Where one step of an operation has led. -/
inductive Leg
  | waits (wait : Wait)
  | ends (completion : Completion)

inductive Progress
  | waiting (operation : Operation)
  | finished (completion : Completion)

inductive Command
  | reserve (count : Nat)
  | provision (descriptor : Descriptor)
  | start (service : Nat)
  | startAll
  | run (service : Nat)
  | stop (service : Nat)
  | teardown
  deriving DecidableEq, Repr

namespace Site

def modify (s : Site) (f : Controller → Controller) : Site :=
  { s with controller := f s.controller }

/-! ## Nodes -/

def keep (s : Site) (lease : Lease) : Site :=
  s.modify fun c =>
    { c with
      reservation := some <|
        match c.reservation with
        | some held => held.absorb lease
        | none => lease }

def attempt (s : Site) (ticket count : Nat) : Option Lease × Site :=
  match s.pool.attempt ticket count with
  | (lease, pool) => (lease, { s with pool })

/-- Why a number of nodes will never be free together. -/
def excess? (s : Site) (count : Nat) : Option ProvisionError :=
  if s.pool.capacity < count then some (.insufficientCapacity count s.pool.capacity) else none

def provisionDeadline? (now : Instant) (s : Site) : Option Instant :=
  s.controller.settings.provisionTimeout.after? s.controller.settings.horizon now

def graceLimit (now : Instant) (s : Site) : Instant :=
  s.controller.settings.gracePeriod.limitAfter s.controller.settings.horizon now

def giveUp (s : Site) (ticket count : Nat) : LifecycleError × Site :=
  (.provision (.capacityTimeout count s.controller.settings.provisionTimeout),
    { s with pool := s.pool.leave ticket })

/-! ## Reserving -/

def reserve (now : Instant) (ticket count : Nat) (s : Site) : Leg × Site :=
  if count = 0 then (.ends (.reserved (.ok ())), s)
  else
    match s.excess? count with
    | some e => (.ends (.reserved (.error (.provision e))), s)
    | none =>
      match s.provisionDeadline? now with
      | none => (.ends (.panicked Span.beyondHorizon), s)
      | some deadline =>
        match s.attempt ticket count with
        | (some lease, s) => (.ends (.reserved (.ok ())), s.keep lease)
        | (none, s) => (.waits (.reservation count deadline), s)

/-! ## Provisioning -/

/-- Why a descriptor cannot be provisioned now, whatever nodes are free. -/
def refusal? (c : Controller) (d : Descriptor) : Option ProvisionError :=
  match d.validate with
  | .error e => some e
  | .ok _ =>
    if (c.lookup d.name).toOption.isSome then some (.duplicateService d.name)
    else
      match d.dependsOn.find? fun name => (c.lookup name).toOption.isNone with
      | some dependency => some (.unknownDependency d.name dependency)
      | none =>
        match c.settings.nodeBudget with
        | none => none
        | some budget =>
          let remaining := budget - c.nodesAssigned
          if remaining < d.nodeCount then
            some (.nodeBudgetExceeded d.name d.nodeCount remaining budget)
          else none

def materialize (d : Descriptor) (lease : Lease) (s : Site) : Leg × Site :=
  (.waits (.materialization d lease), s.modify fun c => c.ask (.materialize d lease.nodes))

def drawReserved (s : Site) (count : Nat) : Option (Lease × Site) := do
  let held ← s.controller.reservation
  let (taken, rest) ← held.splitOff count
  return (taken, s.modify fun c => { c with reservation := some rest })

def provision (now : Instant) (ticket : Nat) (d : Descriptor) (s : Site) : Leg × Site :=
  match refusal? s.controller d with
  | some e => (.ends (.provisioned (.error (.provision e))), s)
  | none =>
    match s.drawReserved d.nodeCount with
    | some (lease, s) => materialize d lease s
    | none =>
      match s.excess? d.nodeCount with
      | some e => (.ends (.provisioned (.error (.provision e))), s)
      | none =>
        match s.provisionDeadline? now with
        | none => (.ends (.panicked Span.beyondHorizon), s)
        | some deadline =>
          match s.attempt ticket d.nodeCount with
          | (some lease, s) => materialize d lease s
          | (none, s) => (.waits (.placement d deadline), s)

def adopt (now : Instant) (d : Descriptor) (lease : Lease) (exposure : Exposure) (s : Site) :
    Leg × Site :=
  (.ends (.provisioned (.ok s.controller.handles.length)),
    s.modify fun c =>
      { c with
        nodesAssigned := c.nodesAssigned + d.nodeCount
        handles := c.handles ++ [Handle.fresh d lease exposure] }.record now d.name .provisioned)

/-! ## Starting -/

def startupTimeout (c : Controller) (handle : Handle) : Span :=
  handle.descriptor.startupTimeout.getD c.settings.startupTimeout

/-- What a start comes to without asking the service: nothing more to do, or its parameters
and the time it has. -/
inductive StartPlan
  | already (signal : ReadySignal)
  | go (name : String) (timeout : Span) (params : Params String)

def planStart (c : Controller) (id : Nat) : Except LifecycleError StartPlan := do
  let handle ← c.handle id
  match handle.state with
  | .ready => return .already ⟨handle.name, handle.exposure.endpoints⟩
  | .provisioned =>
    if handle.descriptor.mode = .invokedDirectly then
      .error (.unsupported "start on a directly invoked service")
    else
      c.checkDependencies id
      return .go handle.name (startupTimeout c handle) (← c.resolveParams id)
  | other => .error (.invalidTransition handle.name "start" other.text)

/-- Starts a service and waits until it is ready. -/
def start (now : Instant) (id : Nat) (s : Site) : Leg × Site :=
  match planStart s.controller id with
  | .error e => (.ends (.started (.error e)), s)
  | .ok (.already signal) => (.ends (.started (.ok signal)), s)
  | .ok (.go name timeout params) =>
    let s := s.modify fun c =>
      ({ c with startOrder := c.startOrder ++ [id] }.record now name .starting).setState id
        .starting
    match timeout.after? s.controller.settings.horizon now with
    | none => (.ends (.panicked Span.beyondHorizon), s)
    | some deadline => (.waits (.start id deadline), s.modify fun c => c.ask (.start id params))

def failStart (now : Instant) (id : Nat) (e : LifecycleError) (s : Site) : Leg × Site :=
  match s.controller.handles[id]? with
  | none => (.ends (.started (.error e)), s)
  | some handle =>
    (.ends (.started (.error e)),
      s.modify fun c => (c.setState id .failed).record now handle.name .startFailed)

def expireStart (now : Instant) (id : Nat) (s : Site) : Leg × Site :=
  match s.controller.handles[id]? with
  | none => (.ends (.started (.error (.unknownService s!"#{id}"))), s)
  | some handle =>
    failStart now id
      (.startupTimeout handle.name (startupTimeout s.controller handle)) s

def succeedStart (now : Instant) (id : Nat) (s : Site) : Leg × Site :=
  match s.controller.handles[id]? with
  | none => (.ends (.started (.error (.unknownService s!"#{id}"))), s)
  | some handle =>
    (.ends (.started (.ok ⟨handle.name, handle.exposure.endpoints⟩)),
      s.modify fun c => (c.setState id .ready).record now handle.name .ready)

def probe (id : Nat) (deadline : Instant) (s : Site) : Leg × Site :=
  (.waits (.probe id deadline), s.modify fun c => c.ask (.probe id))

/-- After a probe that found the service not ready: the deadline has come, or a pause that
does not outlast it. -/
def pauseProbing (now : Instant) (id : Nat) (deadline : Instant) (s : Site) : Leg × Site :=
  if deadline ≤ now then expireStart now id s
  else
    match s.controller.settings.pollInterval.after? s.controller.settings.horizon now with
    | none => (.ends (.panicked Span.beyondHorizon), s)
    | some wake => (.waits (.pause id deadline (min wake deadline)), s)

/-! ## Running -/

def planRun (c : Controller) (id : Nat) :
    Except LifecycleError (String × String × Params String) := do
  let handle ← c.handle id
  if handle.state = .provisioned then
    if handle.descriptor.mode = .invokedDirectly then
      match handle.descriptor.entryPoint with
      | none => .error (.provision (.invalidDescriptor handle.name "missing entry point"))
      | some entryPoint =>
        c.checkDependencies id
        return (handle.name, entryPoint, ← c.resolveParams id)
    else .error (.unsupported "run on a pre-started service")
  else .error (.invalidTransition handle.name "run" handle.state.text)

def run (now : Instant) (id : Nat) (s : Site) : Leg × Site :=
  match planRun s.controller id with
  | .error e => (.ends (.ran (.error e)), s)
  | .ok (name, entryPoint, params) =>
    (.waits (.run id),
      s.modify fun c =>
        (({ c with startOrder := c.startOrder ++ [id] }.record now name .running).setState id
          .running).ask (.run id entryPoint params))

def endRun (now : Instant) (id : Nat) (result : Except LifecycleError AppOutcome) (s : Site) :
    Leg × Site :=
  match s.controller.handles[id]? with
  | none => (.ends (.ran result), s)
  | some handle =>
    match result with
    | .ok outcome =>
      (.ends (.ran (.ok outcome)),
        s.modify fun c => (c.setState id .completed).record now handle.name .completed)
    | .error e =>
      (.ends (.ran (.error e)),
        s.modify fun c => (c.setState id .failed).record now handle.name .startFailed)

/-! ## Stopping -/

/-- Stops a service gracefully; a stopped one is left alone. -/
def stop (now : Instant) (id : Nat) (s : Site) : Leg × Site :=
  match s.controller.handles[id]? with
  | none => (.ends (.stopped (some ⟨s!"#{id}", "unknown service"⟩)), s)
  | some handle =>
    if handle.state = .stopped then (.ends (.stopped none), s)
    else
      (.waits (.stop id (s.graceLimit now)), s.modify fun c => c.ask (.stop id))

def kill (now : Instant) (id : Nat) (problem : String) (s : Site) : Leg × Site :=
  (.waits (.kill id (s.graceLimit now) problem), s.modify fun c => c.ask (.kill id))

/-- Ends a stop: the service is stopped and its nodes go back, whatever went wrong. -/
def endStop (now : Instant) (id : Nat) (problem : Option String) (s : Site) : Leg × Site :=
  match s.controller.handles[id]? with
  | none => (.ends (.stopped none), s)
  | some handle =>
    let kind := if problem.isSome then EventKind.forcedStop else .stopped
    let pool := match handle.lease with
      | some lease => s.pool.release lease
      | none => s.pool
    let controller :=
      (s.controller.modifyHandle id fun h => { h with state := .stopped, lease := none }).record
        now handle.name kind
    (.ends (.stopped (problem.map fun text => ⟨handle.name, text⟩)), ⟨pool, controller⟩)

def graceText (s : Site) : String := s.controller.settings.gracePeriod.short

/-! ## Answers -/

/-- Continues a wait with an answer.  An answer of another kind changes nothing. -/
def continueWith (now : Instant) (ticket : Nat) (wait : Wait) (answer : Answer) (s : Site) :
    Leg × Site :=
  match wait, answer with
  | .reservation count deadline, .woken =>
    match s.attempt ticket count with
    | (some lease, s) => (.ends (.reserved (.ok ())), s.keep lease)
    | (none, s) => (.waits (.reservation count deadline), s)
  | .reservation count _, .elapsed =>
    let (e, s) := s.giveUp ticket count
    (.ends (.reserved (.error e)), s)
  | .placement d deadline, .woken =>
    match s.attempt ticket d.nodeCount with
    | (some lease, s) => materialize d lease s
    | (none, s) => (.waits (.placement d deadline), s)
  | .placement d _, .elapsed =>
    let (e, s) := s.giveUp ticket d.nodeCount
    (.ends (.provisioned (.error e)), s)
  | .materialization d lease, .materialized (.ok exposure) => adopt now d lease exposure s
  | .materialization _ lease, .materialized (.error e) =>
    (.ends (.provisioned (.error (.provision e))), { s with pool := s.pool.release lease })
  | .start id deadline, .acknowledged (.ok _) => probe id deadline s
  | .start id _, .acknowledged (.error e) => failStart now id e s
  | .start id _, .elapsed => expireStart now id s
  | .probe id _, .probed (.ok true) => succeedStart now id s
  | .probe id deadline, .probed (.ok false) => pauseProbing now id deadline s
  | .probe id _, .probed (.error e) => failStart now id e s
  | .probe id _, .elapsed => expireStart now id s
  | .pause id deadline _, .elapsed => probe id deadline s
  | .run id, .ran result => endRun now id result s
  | .stop id _, .acknowledged (.ok _) => endStop now id none s
  | .stop id _, .acknowledged (.error e) =>
    kill now id ("graceful stop failed: " ++ e.message) s
  | .stop id _, .elapsed => kill now id ("did not stop within " ++ s.graceText) s
  | .kill id _ problem, .acknowledged (.ok _) => endStop now id (some problem) s
  | .kill id _ problem, .acknowledged (.error e) =>
    endStop now id (some (problem ++ "; forced kill failed: " ++ e.message)) s
  | .kill id _ problem, .elapsed =>
    endStop now id
      (some (problem ++ "; forced kill failed: kill did not finish within " ++ s.graceText)) s
  | wait, _ => (.waits wait, s)

/-! ## Operations of several steps -/

def nextPreStarted (c : Controller) (start : Nat) : Option Nat :=
  Controller.positionFrom
    (fun handle => handle.descriptor.mode == .preStarted && handle.state == .provisioned)
    start (c.handles.drop start)

def startFrom (now : Instant) (next : Nat) (signals : List ReadySignal) (s : Site) :
    Progress × Site :=
  match nextPreStarted s.controller next with
  | none => (.finished (.startedAll (.ok signals)), s)
  | some id =>
    match s.start now id with
    | (.waits wait, s) => (.waiting ⟨.startAll (id + 1) signals, wait⟩, s)
    | (.ends (.started (.error e)), s) => (.finished (.startedAll (.error e)), s)
    | (.ends completion, s) => (.finished completion, s)

/-- All services, those that were started last first, then the others from the last one on. -/
def teardownOrder (c : Controller) : List Nat :=
  c.startOrder.reverse ++
    (List.range c.handles.length).reverse.filter fun id => !c.startOrder.contains id

def dropReservation (s : Site) : Site :=
  match s.controller.reservation with
  | none => s
  | some lease =>
    { pool := s.pool.release lease
      controller := { s.controller with reservation := none } }

/-- Stops the given services in order; when none is left the reservation goes back. -/
def teardownFrom (now : Instant) (warnings : List Warning) :
    List Nat → Site → Progress × Site
  | [], s => (.finished (.tornDown warnings), s.dropReservation)
  | id :: rest, s =>
    match s.stop now id with
    | (.waits wait, s) => (.waiting ⟨.teardown rest warnings, wait⟩, s)
    | (.ends (.stopped (some warning)), s) => teardownFrom now (warnings ++ [warning]) rest s
    | (.ends _, s) => teardownFrom now warnings rest s

def follow (now : Instant) (goal : Goal) (leg : Leg) (s : Site) : Progress × Site :=
  match leg with
  | .waits wait => (.waiting ⟨goal, wait⟩, s)
  | .ends completion =>
    match goal, completion with
    | .startAll next signals, .started (.ok signal) =>
      startFrom now next (signals ++ [signal]) s
    | .startAll _ _, .started (.error e) => (.finished (.startedAll (.error e)), s)
    | .teardown rest warnings, .stopped warning =>
      teardownFrom now (warnings ++ warning.toList) rest s
    | _, completion => (.finished completion, s)

def issue (now : Instant) (ticket : Nat) (command : Command) (s : Site) : Progress × Site :=
  match command with
  | .startAll => startFrom now 0 [] s
  | .teardown => teardownFrom now [] (teardownOrder s.controller) s
  | .reserve count => let (leg, s) := s.reserve now ticket count; follow now .alone leg s
  | .provision d => let (leg, s) := s.provision now ticket d; follow now .alone leg s
  | .start id => let (leg, s) := s.start now id; follow now .alone leg s
  | .run id => let (leg, s) := s.run now id; follow now .alone leg s
  | .stop id => let (leg, s) := s.stop now id; follow now .alone leg s

def resume (now : Instant) (ticket : Nat) (operation : Operation) (answer : Answer) (s : Site) :
    Progress × Site :=
  let (leg, s) := s.continueWith now ticket operation.wait answer
  follow now operation.goal leg s

/-- Drops an operation where it waits: its ticket and the nodes in its hands go back. -/
def cancel (ticket : Nat) (operation : Operation) (s : Site) : Site :=
  match operation.wait with
  | .reservation _ _ | .placement _ _ => { s with pool := s.pool.leave ticket }
  | .materialization _ lease => { s with pool := s.pool.release lease }
  | _ => s

/-! ## Dropping a controller -/

/-- Drops the handles from a position on: a service that was not stopped is released at once,
and the nodes of each go back. -/
def dropHandles : Nat → List Handle → Site → Site
  | _, [], s => s
  | id, handle :: rest, s =>
    let s := if handle.state = .stopped then s else s.modify fun c => c.ask (.killNow id)
    let s := match handle.lease with
      | some lease => { s with pool := s.pool.release lease }
      | none => s
    dropHandles (id + 1) rest s

def drop (s : Site) : Site :=
  let dropped := (dropHandles 0 s.controller.handles s).dropReservation
  dropped.modify fun c =>
    { c with handles := c.handles.map fun h => { h with lease := none } }

end Site

end Interop
