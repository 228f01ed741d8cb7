import Interop.Lifecycle.Operation

/-!
# Test bodies

A body is what a test does with the services of a case once those that are started before it
are ready.  It is a tree of requests: each request names what happens next for every reply.
A test declares a matrix, and for each case the services and the body.
-/

namespace Interop

inductive Act
  | look
  | control (command : Command) (limit : Option Span)
  /-- Stops a service ahead of the teardown; a problem becomes a warning of the case.  The stop is
  given up after a while if there is a limit. -/
  | stopEarly (service : Nat) (limit : Option Span)
  | sleep (length : Span)
  | note (line : String)
  deriving DecidableEq, Repr

inductive Reply
  | done
  | seen (controller : Controller)
  | completed (completion : Completion)
  | gaveUp

inductive Body
  | ends (result : Except CaseError Unit)
  | panics (message : Option String)
  | asks (act : Act) (next : Reply → Body)

namespace Body

def idle : Body := .ends (.ok ())

def astray : Body := .panics none

/-! ## Services by name -/

def inspect {α : Type} (read : Controller → Except LifecycleError α)
    (next : Except CaseError α → Body) : Body :=
  .asks .look fun
    | .seen controller => next ((read controller).mapError .lifecycle)
    | _ => astray

def lookup (service : String) (next : Except CaseError Nat → Body) : Body :=
  inspect (fun c => c.lookup service) next

def endpoints (service : String) (next : Except CaseError (List Endpoint) → Body) : Body :=
  inspect (fun c => do c.resolveEndpoints (← c.lookup service)) next

def endpoint (service : String) (next : Except CaseError Endpoint → Body) : Body :=
  inspect (fun c => do c.resolveEndpoint (← c.lookup service)) next

/-- Starts a service; one that is ready already stays as it is. -/
def start (service : String) (next : Except CaseError ReadySignal → Body) : Body :=
  lookup service fun
    | .error e => next (.error e)
    | .ok id =>
      .asks (.control (.start id) none) fun
        | .completed (.started result) => next (result.mapError .lifecycle)
        | _ => astray

def run (service : String) (next : Except CaseError AppOutcome → Body) : Body :=
  lookup service fun
    | .error e => next (.error e)
    | .ok id =>
      .asks (.control (.run id) none) fun
        | .completed (.ran result) => next (result.mapError .lifecycle)
        | _ => astray

def objection (service : String) : AppOutcome → Except CaseError Unit
  | .passed => .ok ()
  | .failed text => .error (.assertion (service ++ ": " ++ text))
  | .exception text => .error (.application (service ++ ": " ++ text))

def runExpectingPass (service : String) (next : Except CaseError Unit → Body) : Body :=
  run service fun result => next (result.bind (objection service))

def stop (service : String) (next : Except CaseError Unit → Body) : Body :=
  lookup service fun
    | .error e => next (.error e)
    | .ok id => .asks (.stopEarly id none) fun _ => next (.ok ())

/-! ## Nodes -/

/-- Reserves nodes; the number of nodes that are reserved and not assigned then. -/
def reserve (count : Nat) (next : Except CaseError Nat → Body) : Body :=
  .asks (.control (.reserve count) none) fun
    | .completed (.reserved (.ok _)) => inspect (fun c => .ok c.unassigned) next
    | .completed (.reserved (.error e)) => next (.error (.lifecycle e))
    | _ => astray

def provision (d : Descriptor) (next : Except CaseError Nat → Body) : Body :=
  .asks (.control (.provision d) none) fun
    | .completed (.provisioned result) => next (result.mapError .lifecycle)
    | _ => astray

def teardown (next : List Warning → Body) : Body :=
  .asks (.control .teardown none) fun
    | .completed (.tornDown warnings) => next warnings
    | _ => astray

end Body

/-! ## Values of a case -/

namespace TestCase

def value (c : TestCase) (axis : String) : Except CaseError String :=
  (c.require axis).mapError .matrix

def version (c : TestCase) (axis : String) : Except CaseError Version := do
  (Version.parse (← c.value axis)).mapError .version

end TestCase

/-! ## Tests -/

structure Test where
  name : String
  matrix : Matrix
  numNodes : Option Nat
  timeout : Option Span
  template : TestCase → Except CaseError (List Descriptor)
  body : TestCase → Body

end Interop
