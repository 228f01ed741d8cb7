import Interop.Service.Commanded
import Interop.Service.Loopback
import Interop.Service.Scripted

/-!
# Fleets

A fleet is all services that a launcher has produced, with the requests that are on their
way.  Every owner of services has at most one request on its way; its answer comes when its
time has passed.  What the services note down about requests is kept in a trace, newest first.
-/

namespace Interop

inductive Launcher
  | scripted (scripts : List Script)
  | loopback (settings : LoopbackSettings)
  | commands (settings : CommandSettings)

inductive Service
  | rehearsed (service : Rehearsed)
  | loopbackServer (service : LoopbackServer)
  | loopbackClient (service : LoopbackClient)
  | commanded (service : Commanded)

namespace Service

def exposure : Service → Exposure
  | .rehearsed r => r.exposure
  | .loopbackServer s => s.exposure
  | .loopbackClient _ => ⟨[], []⟩
  | .commanded s => s.exposure

end Service

structure Call where
  owner : Nat
  request : Request
  due : Option Instant

structure Fleet where
  launcher : Launcher
  network : Network
  disk : Disk
  settled : Instant
  services : List (Nat × List Service)
  calls : List Call
  trace : List String

namespace Fleet

def firstDisk : Launcher → Disk
  | .commands settings => settings.machine.disk
  | .scripted _ | .loopback _ => ⟨[]⟩

def ofLauncher (launcher : Launcher) (network : Network) : Fleet :=
  { launcher, network, disk := firstDisk launcher, settled := 0, services := [], calls := []
    trace := [] }

/-! ## Services of an owner -/

def ofOwner (f : Fleet) (owner : Nat) : List Service :=
  match f.services.find? fun entry => entry.1 == owner with
  | some entry => entry.2
  | none => []

def setOwner (f : Fleet) (owner : Nat) (services : List Service) : Fleet :=
  { f with services :=
      f.services.filter (fun entry => entry.1 != owner) ++ [(owner, services)] }

def service? (f : Fleet) (owner id : Nat) : Option Service := (f.ofOwner owner)[id]?

def setService (f : Fleet) (owner id : Nat) (service : Service) : Fleet :=
  f.setOwner owner ((f.ofOwner owner).set id service)

def note (f : Fleet) (line : String) : Fleet := { f with trace := line :: f.trace }

def target? : Request → Option Nat
  | .materialize _ _ => none
  | .start id _ | .probe id | .run id _ _ | .stop id | .kill id | .killNow id => some id

/-! ## The passing of time -/

def catchUpService (now : Instant) (service : Service) (n : Network) : Service × Network :=
  match service with
  | .loopbackServer s =>
    let (s, n) := s.catchUp now n
    (.loopbackServer s, n)
  | .commanded s => (.commanded (s.progress now), n)
  | other => (other, n)

def catchUp (now : Instant) (owner : Nat) (f : Fleet) : Fleet :=
  let (services, network) := (f.ofOwner owner).foldl
    (fun state service =>
      let (service, n) := catchUpService now service state.2
      (state.1 ++ [service], n))
    ([], f.network)
  { f.setOwner owner services with network }

def changes (f : Fleet) : List (Instant × Change) :=
  let found := f.services.flatMap fun entry =>
    entry.2.flatMap fun service =>
      match service with
      | .commanded s => s.children.changes
      | _ => []
  let fresh := found.filter fun change => f.settled < change.1
  fresh.mergeSort fun a b => a.1 ≤ b.1

def scene (now : Instant) (f : Fleet) : Scene :=
  let isPast (entry : Instant × Change) : Bool := entry.1 ≤ now
  let relative (entry : Instant × Change) : Change :=
    { entry.2 with after := .between now entry.1 }
  let changes := f.changes
  { disk := f.disk.replay ((changes.takeWhile isPast).map Prod.snd)
    coming := (changes.dropWhile isPast).map relative }

def beginOwner (now : Instant) (f : Fleet) (owner : Nat) : Fleet :=
  let (services, network) := (f.ofOwner owner).foldl
    (fun state service =>
      match service with
      | .loopbackServer s =>
        let (s, n) := s.begin now state.2
        (state.1 ++ [.loopbackServer s], n)
      | other => (state.1 ++ [other], state.2))
    ([], f.network)
  { f.setOwner owner services with network }

def begin (now : Instant) (f : Fleet) : Fleet :=
  match f.launcher with
  | .loopback _ => (f.services.map Prod.fst).foldl (beginOwner now) f
  | .scripted _ | .commands _ => f

def pauses (request : Request) (service : Service) : Bool :=
  match service, request with
  | .loopbackServer s, .stop _ => s.isActive
  | .loopbackClient _, .run _ _ params =>
    (params.get? Descriptor.connectionParam).any fun address => !Network.isNumeric address
  | _, _ => false

def showTo (f : Fleet) (owner : Nat) (c : Controller) : Controller :=
  (f.ofOwner owner).foldl
    (fun state service => (state.1 + 1, Controller.observe state.2 state.1 service.exposure))
    (0, c) |>.2

def fileContent? (f : Fleet) (now : Instant) (path : String) : Option String :=
  (Commanded.content? (f.scene now).disk path).map Text.decodeLenient

/-! ## Requests -/

def line? (f : Fleet) (owner : Nat) : Request → Option String
  | .materialize d nodes =>
    match f.launcher with
    | .scripted _ => some (Rehearsed.materializeLine d nodes)
    | _ => none
  | request =>
    match (target? request).bind (f.service? owner) with
    | some (.rehearsed r) => r.line? request
    | _ => none

def answerTime? (now : Instant) (owner : Nat) (f : Fleet) : Request → Option Instant
  | .materialize d _ =>
    match f.launcher with
    | .scripted scripts => some ((Script.select scripts d).materializeTime.asSleep.after now)
    | _ => some now
  | request =>
    match (target? request).bind (f.service? owner) with
    | some (.rehearsed r) => some ((r.duration request).asSleep.after now)
    | some (.commanded s) => s.due? now
    | _ => some now

def touchPeer (request : Request) (service : Service) (n : Network) :
    Service × Network :=
  match service with
  | .rehearsed r => (.rehearsed (r.accept request), n)
  | .loopbackServer s =>
    match request with
    | .start _ _ => (.loopbackServer s.start, n)
    | .stop _ => let (s, n) := s.stop n; (.loopbackServer s, n)
    | .kill _ | .killNow _ => let (s, n) := s.kill n; (.loopbackServer s, n)
    | _ => (.loopbackServer s, n)
  | other => (other, n)

def touch (now : Instant) (owner id : Nat) (request : Request) (f : Fleet) : Fleet :=
  match f.service? owner id with
  | none => f
  | some (.commanded s) =>
    let (s, disk) := s.accept now request (f.scene now)
    { f.setService owner id (.commanded s) with disk, settled := now }
  | some service =>
    let f := if pauses request service then f.begin now else f
    let service := (f.service? owner id).getD service
    let (service, network) := touchPeer request service f.network
    { f.setService owner id service with network }

/-- Takes a request.  An earlier one of the same owner is forgotten, and an immediate release
needs no answer. -/
def accept (now : Instant) (owner : Nat) (f : Fleet) (request : Request) : Fleet :=
  let line := f.line? owner request
  let f := match line with
    | some line => f.note line
    | none => f
  let f := match target? request with
    | none => f
    | some id => f.touch now owner id request
  match request with
  | .killNow _ => f
  | _ =>
    let call : Call := ⟨owner, request, f.answerTime? now owner request⟩
    { f with calls := f.calls.filter (fun other => other.owner != owner) ++ [call] }

def forward (now : Instant) (owner : Nat) (before after : Controller) (f : Fleet) : Fleet :=
  let fresh := after.requests.take (after.requests.length - before.requests.length)
  fresh.reverse.foldl (accept now owner) f

def cancelService : Service → Service
  | .commanded s => .commanded s.cancel
  | other => other

def abandon (f : Fleet) (owner : Nat) : Fleet :=
  let f := { f with calls := f.calls.filter fun call => call.owner != owner }
  f.setOwner owner ((f.ofOwner owner).map cancelService)

/-! ## Answers -/

def launch (now : Instant) (owner : Nat) (d : Descriptor) (nodes : List Node) (f : Fleet) :
    Except ProvisionError Service × Fleet :=
  match f.launcher with
  | .scripted scripts =>
    let script := Script.select scripts d
    match script.refusal with
    | some reason => (.error (.unsupported d.name d.version.text reason), f)
    | none => (.ok (.rehearsed (Rehearsed.ofScript script d nodes)), f)
  | .loopback settings =>
    match d.role with
    | .server =>
      (.ok (.loopbackServer
        (.idle d.version nodes.length settings.accepts settings.startupDelay)), f)
    | .clientApplication => (.ok (.loopbackClient ⟨d.version⟩), f)
  | .commands settings =>
    let tag := s!"{owner}-{(f.ofOwner owner).length}"
    match Commanded.make settings tag d nodes (f.scene now).disk with
    | .ok (s, disk) => (.ok (.commanded s), { f with disk, settled := now })
    | .error e => (.error e, f)

/-- What a loopback service answers; starts, stops and kills always go well. -/
def answerLoopback (ready : Bool) (run : Except LifecycleError AppOutcome) : Request → Answer
  | .probe _ => .probed (.ok ready)
  | .run _ _ _ => .ran run
  | _ => .acknowledged (.ok ())

def answerOf (now : Instant) (request : Request) (service : Service) (f : Fleet) :
    Answer × Service :=
  match service with
  | .rehearsed r => let (answer, r) := r.answer now request; (answer, .rehearsed r)
  | .loopbackServer s =>
    (answerLoopback s.isReady (.error (.unsupported "run")) request, .loopbackServer s)
  | .loopbackClient c =>
    let params := match request with
      | .run _ _ params => params
      | _ => []
    (answerLoopback true (.ok (c.run params f.network)) request, .loopbackClient c)
  | .commanded s =>
    let (answer, s) := s.answer now f.network (f.scene now).disk request
    (answer, .commanded s)

def reply (now : Instant) (owner : Nat) (request : Request) (f : Fleet) : Answer × Fleet :=
  match request with
  | .materialize d nodes =>
    match f.launch now owner d nodes with
    | (.error e, f) => (.materialized (.error e), f)
    | (.ok service, f) =>
      (.materialized (.ok service.exposure),
        f.setOwner owner (f.ofOwner owner ++ [service]))
  | request =>
    match target? request with
    | none => (.acknowledged (.ok ()), f)
    | some id =>
      match f.service? owner id with
      | none => (.acknowledged (.ok ()), f)
      | some service =>
        let (answer, service) := answerOf now request service f
        (answer, f.setService owner id service)

def call? (f : Fleet) (owner : Nat) : Option Call :=
  f.calls.find? fun call => call.owner == owner

def due? (f : Fleet) (owner : Nat) : Option Instant := (f.call? owner).bind Call.due

def deliver? (now : Instant) (owner : Nat) (f : Fleet) : Option (Answer × Fleet) :=
  match f.call? owner with
  | none => none
  | some call =>
    if call.due.any fun time => decide (time ≤ now) then
      let f := { f with calls := f.calls.filter fun other => other.owner != owner }
      some (f.reply now owner call.request)
    else none

/-- What comes next to an operation that waits: nodes that were returned, then the answer of
a service, then the alarm. -/
def nextAnswer? (now : Instant) (owner ticket : Nat) (pool : Pool) (wait : Wait) (f : Fleet) :
    Option (Answer × Fleet) :=
  if pool.isWoken ticket then some (.woken, f)
  else
    match f.deliver? now owner with
    | some found => some found
    | none =>
      match wait.alarm? with
      | none => none
      | some alarm => if alarm ≤ now then some (.elapsed, f.abandon owner) else none

/-- When an operation that waits is to be looked at again: when its answer comes, and when it
gives up. -/
def alarms (owner : Nat) (wait : Wait) (f : Fleet) : List (Nat × Instant) :=
  ((f.due? owner).map fun time => (1, time)).toList ++
    (wait.alarm?.map fun time => (2, time)).toList

end Fleet

end Interop
