import Interop.Lifecycle.Handle
import Interop.Lifecycle.Settings

/-!
# Controllers

A controller owns the services of one case.  This module holds its state and what can be
asked of it without waiting; the operations that wait are in `Interop.Lifecycle.Operation`.
Services are told what to do by requests, which the controller keeps, newest first.
-/

namespace Interop

/-- What a controller asks of a service or of the launcher.  Services are numbered in
provisioning order. -/
inductive Request
  | materialize (descriptor : Descriptor) (nodes : List Node)
  | start (service : Nat) (params : Params String)
  | probe (service : Nat)
  | run (service : Nat) (entryPoint : String) (params : Params String)
  | stop (service : Nat)
  | kill (service : Nat)
  /-- Immediate release of a service that was never stopped. -/
  | killNow (service : Nat)
  deriving DecidableEq, Repr

structure Controller where
  settings : Settings
  handles : List Handle
  startOrder : List Nat
  events : List Event
  requests : List Request
  nodesAssigned : Nat
  reservation : Option Lease
  deriving DecidableEq, Repr, Inhabited

namespace Controller

def ofSettings (settings : Settings) : Controller :=
  { settings, handles := [], startOrder := [], events := [], requests := []
    nodesAssigned := 0, reservation := none }

/-! ## Looking -/

def unassigned (c : Controller) : Nat :=
  match c.reservation with
  | some lease => lease.size
  | none => 0

def positionFrom {α : Type} (p : α → Bool) (start : Nat) : List α → Option Nat
  | [] => none
  | a :: rest => if p a then some start else positionFrom p (start + 1) rest

def lookup (c : Controller) (name : String) : Except LifecycleError Nat :=
  match positionFrom (fun handle => handle.name == name) 0 c.handles with
  | some id => .ok id
  | none => .error (.unknownService name)

def handle (c : Controller) (id : Nat) : Except LifecycleError Handle :=
  match c.handles[id]? with
  | some handle => .ok handle
  | none => .error (.unknownService s!"#{id}")

def state (c : Controller) (id : Nat) : Except LifecycleError HandleState :=
  (c.handle id).map Handle.state

def descriptor (c : Controller) (id : Nat) : Except LifecycleError Descriptor :=
  (c.handle id).map Handle.descriptor

def logFiles (c : Controller) : List String :=
  c.handles.flatMap fun handle => handle.exposure.logFiles

def resolveEndpoints (c : Controller) (id : Nat) : Except LifecycleError (List Endpoint) := do
  let handle ← c.handle id
  if handle.state = .ready then .ok handle.exposure.endpoints
  else .error (.notReady handle.name)

def resolveEndpoint (c : Controller) (id : Nat) : Except LifecycleError Endpoint := do
  let handle ← c.handle id
  match ← c.resolveEndpoints id with
  | endpoint :: _ => .ok endpoint
  | [] => .error (.collaborator handle.name "service exposes no endpoints")

def checkDependencies (c : Controller) (id : Nat) : Except LifecycleError Unit := do
  let handle ← c.handle id
  handle.descriptor.dependsOn.forM fun dependency => do
    let other ← c.handle (← c.lookup dependency)
    if other.state = .ready then .ok ()
    else .error (.dependencyNotReady handle.name dependency)

/-- The text of a parameter: itself, or the first endpoint of the service it names. -/
def resolveParam (c : Controller) : ParamValue → Except LifecycleError String
  | .literal text => .ok text
  | .endpointOf service => do return (← c.resolveEndpoint (← c.lookup service)).text

def resolveParams (c : Controller) (id : Nat) : Except LifecycleError (Params String) := do
  let handle ← c.handle id
  handle.descriptor.params.mapM fun param => do return (param.1, ← c.resolveParam param.2)

/-! ## Recording -/

def record (c : Controller) (now : Instant) (service : String) (kind : EventKind) :
    Controller :=
  { c with events := c.events ++ [⟨service, kind, now⟩] }

def ask (c : Controller) (request : Request) : Controller :=
  { c with requests := request :: c.requests }

def modifyHandle (c : Controller) (id : Nat) (f : Handle → Handle) : Controller :=
  { c with handles := c.handles.modify id f }

def setState (c : Controller) (id : Nat) (state : HandleState) : Controller :=
  c.modifyHandle id fun handle => { handle with state }

def observe (c : Controller) (id : Nat) (exposure : Exposure) : Controller :=
  c.modifyHandle id fun handle => { handle with exposure }

end Controller

end Interop
