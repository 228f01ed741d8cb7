import Interop.Clockwork
import Interop.Service.Fleet

/-!
# Benches

A bench is a pool with controllers and services, worked on by errands under a virtual clock.
The errand in the foreground is waited for; the others go on in the background.
-/

namespace Interop

inductive Errand
  | sleep (time : Instant)
  /-- Keeps nodes for a while and returns them; the time begins with the first turn. -/
  | hold (lease : Lease) (length : Span) (time : Option Instant)
  /-- Waits for nodes; the deadline is set in the first turn. -/
  | acquire (count : Nat) (timeout : Span) (deadline : Option Instant)
  | operate (owner : Nat) (operation : Operation)
  | consult (owner : Nat)

inductive Result
  | nothing
  | nodes (result : Except ProvisionError Lease)
  | completion (completion : Completion)
  | answer (answer : Answer)

inductive ErrandState
  | busy (errand : Errand)
  | done (result : Result) (time : Instant)

def ErrandState.isDone : ErrandState → Bool
  | .done _ _ => true
  | .busy _ => false

structure Bench where
  pool : Pool
  controllers : List (Option Controller)
  fleet : Fleet
  tasks : List ErrandState

namespace Bench

def patience : Nat := 1000000

def controller? (b : Bench) (owner : Nat) : Option Controller := (b.controllers[owner]?).join

def setController (b : Bench) (owner : Nat) (c : Option Controller) : Bench :=
  { b with controllers := b.controllers.set owner c }

def refresh (now : Instant) (owner : Nat) (b : Bench) : Bench :=
  let fleet := b.fleet.catchUp now owner
  let b := { b with fleet }
  match b.controller? owner with
  | none => b
  | some c => b.setController owner (some (fleet.showTo owner c))

def onSite {α : Type} (now : Instant) (owner : Nat) (work : Site → α × Site) (b : Bench) :
    Option (α × Bench) :=
  let b := b.refresh now owner
  match b.controller? owner with
  | none => none
  | some c =>
    let (a, site) := work ⟨b.pool, c⟩
    let fleet := b.fleet.forward now owner c site.controller
    some (a, { b.setController owner (some site.controller) with pool := site.pool, fleet })

/-! ## Turns -/

inductive Standing
  | waits (errand : Errand) (alarms : List (Nat × Instant)) (isFresh : Bool)
  | ends (result : Result)

def pursue (now : Instant) (ticket owner : Nat) :
    Nat → Operation → Bench → Standing × Bench
  | 0, operation, b => (.waits (.operate owner operation) [(1, now)] true, b)
  | fuel + 1, operation, b =>
    let b := b.refresh now owner
    match b.fleet.nextAnswer? now owner ticket b.pool operation.wait with
    | none =>
      (.waits (.operate owner operation) (b.fleet.alarms owner operation.wait) true, b)
    | some (answer, fleet) =>
      match { b with fleet }.onSite now owner fun site =>
          site.resume now ticket operation answer with
      | none => (.ends .nothing, b)
      | some (.finished completion, b) => (.ends (.completion completion), b)
      | some (.waiting operation, b) => pursue now ticket owner fuel operation b

def tryNodes (now : Instant) (ticket count : Nat) (timeout : Span) (deadline : Instant)
    (b : Bench) : Standing × Bench :=
  match b.pool.attempt ticket count with
  | (some lease, pool) => (.ends (.nodes (.ok lease)), { b with pool })
  | (none, pool) =>
    if deadline ≤ now then
      (.ends (.nodes (.error (.capacityTimeout count timeout))),
        { b with pool := pool.leave ticket })
    else
      (.waits (.acquire count timeout (some deadline)) [(1, deadline)] true, { b with pool })

def advance (now : Instant) (ticket : Nat) (errand : Errand) (b : Bench) : Standing × Bench :=
  match errand with
  | .sleep time =>
    if time ≤ now then (.ends .nothing, b) else (.waits (.sleep time) [(1, time)] false, b)
  | .hold lease length time =>
    let time := time.getD (length.asSleep.after now)
    if time ≤ now then (.ends .nothing, { b with pool := b.pool.release lease })
    else (.waits (.hold lease length (some time)) [(1, time)] false, b)
  | .acquire count timeout none =>
    if b.pool.capacity < count then
      (.ends (.nodes (.error (.insufficientCapacity count b.pool.capacity))), b)
    else b.tryNodes now ticket count timeout (timeout.after now)
  | .acquire count timeout (some deadline) =>
    if b.pool.isWoken ticket then b.tryNodes now ticket count timeout deadline
    else if deadline ≤ now then
      (.ends (.nodes (.error (.capacityTimeout count timeout))),
        { b with pool := b.pool.leave ticket })
    else (.waits (.acquire count timeout (some deadline)) [(1, deadline)] false, b)
  | .operate owner operation => pursue now ticket owner patience operation b
  | .consult owner =>
    let b := b.refresh now owner
    match b.fleet.deliver? now owner with
    | some (answer, fleet) => (.ends (.answer answer), { b with fleet })
    | none =>
      (.waits (.consult owner) ((b.fleet.due? owner).map fun time => (1, time)).toList false, b)

def woken (b : Bench) : List Nat :=
  (b.pool.waiters.filter Waiter.woken).map Waiter.ticket

def turn (now : Instant) (task : Nat) (b : Bench) : Turn Bench :=
  match b.tasks[task]? with
  | some (.busy errand) =>
    match b.advance now task errand with
    | (.waits errand alarms isFresh, b) =>
      let b := { b with tasks := b.tasks.set task (.busy errand), fleet := b.fleet.begin now }
      ⟨b, b.woken, alarms, isFresh⟩
    | (.ends result, b) =>
      let b := { b with tasks := b.tasks.set task (.done result now) }
      ⟨b, b.woken, [], false⟩
  | _ => ⟨b, b.woken, [], false⟩

def isIdle (b : Bench) : Bool :=
  match b.tasks with
  | task :: _ => task.isDone
  | [] => true

end Bench

structure Session where
  clock : Clockwork
  bench : Bench

namespace Session

def start (hosts : List String) (controllers : List Controller) (launcher : Launcher)
    (network : Network) : Session :=
  { clock := .start
    bench :=
      { pool := .ofHosts hosts, controllers := controllers.map some
        fleet := .ofLauncher launcher network, tasks := [.done .nothing 0] } }

def now (s : Session) : Instant := s.clock.now

def settle (s : Session) : Session := { s with clock := s.clock.wakeAll s.bench.woken }

def await (errand : Errand) (s : Session) : Result × Session :=
  let bench := { s.bench with tasks := s.bench.tasks.set 0 (.busy errand) }
  let turn := bench.turn s.now 0
  let clock := s.clock.endTurn 0 turn
  let (clock, bench) := Clockwork.run Bench.turn Bench.isIdle Bench.patience clock turn.state
  let result := match bench.tasks with
    | .done result _ :: _ => result
    | _ => .nothing
  (result, ⟨clock, bench⟩)

/-- Lets time pass; everything that was started has a turn even if there is none. -/
def sleep (length : Span) (s : Session) : Session :=
  let s := (s.await (.sleep (length.asSleep.after s.now))).2
  { s with bench := { s.bench with fleet := s.bench.fleet.begin s.now } }

/-- Sends an errand into the background; its number. -/
def spawn (errand : Errand) (s : Session) : Nat × Session :=
  let task := s.bench.tasks.length
  (task,
    { clock := s.clock.wake task
      bench := { s.bench with tasks := s.bench.tasks ++ [.busy errand] } })

def acquire (count : Nat) (timeout : Span) (s : Session) :
    Except ProvisionError Lease × Session :=
  match s.await (.acquire count timeout none) with
  | (.nodes result, s) => (result, s)
  | (_, s) => (.error (.capacityTimeout count timeout), s)

def tryAcquire (count : Nat) (s : Session) : Option Lease × Session :=
  match s.bench.pool.tryAcquire count with
  | none => (none, s)
  | some (lease, pool) => (some lease, { s with bench := { s.bench with pool } })

def release (lease : Lease) (s : Session) : Session :=
  settle { s with bench := { s.bench with pool := s.bench.pool.release lease } }

/-- Takes nodes that are free now and returns them after a while; whether there were
enough. -/
def hold (count : Nat) (length : Span) (s : Session) : Bool × Session :=
  match s.tryAcquire count with
  | (none, s) => (false, s)
  | (some lease, s) => (true, (s.spawn (.hold lease length none)).2)

/-- Drops a task; nodes that it had waited for or got go back. -/
def dismiss (task : Nat) (s : Session) : Session :=
  let s := match s.bench.tasks[task]? with
    | some (.busy (.acquire _ _ _)) =>
      { s with bench := { s.bench with pool := s.bench.pool.leave task } }
    | some (.done (.nodes (.ok lease)) _) => s.release lease
    | _ => s
  { s with
    clock := s.clock.setAlarms task false []
    bench := { s.bench with tasks := s.bench.tasks.set task (.done .nothing s.now) } }

/-- Has a controller do something and waits for it; nothing without a controller. -/
def perform (owner : Nat) (command : Command) (s : Session) : Option Completion × Session :=
  match s.bench.onSite s.now owner fun site => site.issue s.now 0 command with
  | none => (none, s)
  | some (.finished completion, bench) => (some completion, settle { s with bench })
  | some (.waiting operation, bench) =>
    match { s with bench }.await (.operate owner operation) with
    | (.completion completion, s) => (some completion, s)
    | (_, s) => (none, s)

/-- Makes a request to a service that belongs to no controller, and waits for the answer; an
immediate release has none. -/
def consult (owner : Nat) (request : Request) (s : Session) : Option Answer × Session :=
  let bench := s.bench.refresh s.now owner
  let bench := { bench with fleet := bench.fleet.accept s.now owner request }
  match request with
  | .killNow _ => (some (.acknowledged (.ok ())), { s with bench })
  | _ =>
    match { s with bench }.await (.consult owner) with
    | (.answer answer, s) => (some answer, s)
    | (_, s) => (none, s)

def exposure? (owner id : Nat) (s : Session) : Option Exposure :=
  ((s.bench.refresh s.now owner).fleet.service? owner id).map Service.exposure

def fileContent? (path : String) (s : Session) : Option String :=
  s.bench.fleet.fileContent? s.now path

def dropController (owner : Nat) (s : Session) : Session :=
  match s.bench.onSite s.now owner fun site => ((), site.drop) with
  | none => s
  | some (_, bench) => settle { s with bench := bench.setController owner none }

def controller? (owner : Nat) (s : Session) : Option Controller :=
  (s.bench.refresh s.now owner).controller? owner

end Session

end Interop
