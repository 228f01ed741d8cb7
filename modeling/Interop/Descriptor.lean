import Interop.Failure
import Interop.Params

/-!
# Service descriptors

A descriptor declares one versioned service of a case: its role, its size, how it is started,
its parameters and the services that have to be ready before it.
-/

namespace Interop

inductive Role
  | server
  | clientApplication
  deriving DecidableEq, Repr, Inhabited

inductive StartupMode
  | preStarted
  | invokedDirectly
  deriving DecidableEq, Repr, Inhabited

inductive ParamValue
  | literal (text : String)
  | endpointOf (service : String)
  deriving DecidableEq, Repr, Inhabited

structure Descriptor where
  name : String
  role : Role
  version : Version
  nodeCount : Nat
  mode : StartupMode
  connector : Option Nat
  entryPoint : Option String
  params : Params ParamValue
  dependsOn : List String
  startupTimeout : Option Span
  deriving DecidableEq, Repr, Inhabited

namespace Descriptor

def defaultPort : Nat := 10800

def connectionParam : String := "thin_client_connection"

/-! ## Building -/

def server (name : String) (version : Version) : Descriptor :=
  { name, role := .server, version, nodeCount := 1, mode := .preStarted
    connector := some defaultPort, entryPoint := none, params := [], dependsOn := []
    startupTimeout := none }

def clientApplication (name : String) (version : Version) (entryPoint : String) : Descriptor :=
  { name, role := .clientApplication, version, nodeCount := 1, mode := .invokedDirectly
    connector := none, entryPoint := some entryPoint, params := [], dependsOn := []
    startupTimeout := none }

def withNodes (d : Descriptor) (count : Nat) : Descriptor := { d with nodeCount := count }

def withMode (d : Descriptor) (mode : StartupMode) : Descriptor := { d with mode }

def withConnector (d : Descriptor) (connector : Option Nat) : Descriptor :=
  { d with connector }

def withParam (d : Descriptor) (key : String) (value : ParamValue) : Descriptor :=
  { d with params := d.params.insert key value }

/-- Declares a service that has to be ready first; a second declaration adds nothing. -/
def after (d : Descriptor) (service : String) : Descriptor :=
  if d.dependsOn.contains service then d
  else { d with dependsOn := d.dependsOn ++ [service] }

def withEndpointParam (d : Descriptor) (key service : String) : Descriptor :=
  (d.after service).withParam key (.endpointOf service)

def withStartupTimeout (d : Descriptor) (timeout : Span) : Descriptor :=
  { d with startupTimeout := some timeout }

/-! ## Checking -/

def defect? (d : Descriptor) : Option String :=
  if d.name.isEmpty then some "name must not be empty"
  else if d.nodeCount = 0 then some "node count must be at least 1"
  else if d.mode = .invokedDirectly ∧ d.entryPoint = none then
    some "directly invoked services need an entry point"
  else if d.dependsOn.contains d.name then some "service cannot depend on itself"
  else if d.params.any (fun param =>
      match param.2 with
      | .literal _ => false
      | .endpointOf target => !d.dependsOn.contains target) then
    some "endpoint parameter must name a declared dependency"
  else none

def totalNodes : List Descriptor → Nat
  | [] => 0
  | d :: ds => d.nodeCount + totalNodes ds

def beyondWord : String := "attempt to add with overflow"

/-- The nodes of all services added up in a machine word; a sum beyond it is nothing where
overflow is checked, and wraps around elsewhere. -/
def wordTotal? (checked : Bool) (ds : List Descriptor) : Option Nat :=
  if totalNodes ds ≤ Span.maxWord then some (totalNodes ds)
  else if checked then none
  else some (totalNodes ds % (Span.maxWord + 1))

def validate (d : Descriptor) : Except ProvisionError Unit :=
  match d.defect? with
  | some reason => .error (.invalidDescriptor d.name reason)
  | none => .ok ()

end Descriptor

end Interop
