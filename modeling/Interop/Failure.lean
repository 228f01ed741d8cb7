import Interop.Outcome
import Interop.Version

/-!
# Failures

What can go wrong with a case: reserving nodes and materializing services, driving services,
and the case as a whole.  Each cause has one message, and a failed case is classified by its
cause.
-/

namespace Interop

/-! ## Provisioning -/

inductive ProvisionError
  | insufficientCapacity (requested total : Nat)
  | capacityTimeout (requested : Nat) (waited : Span)
  | nodeBudgetExceeded (service : String) (requested remaining budget : Nat)
  | invalidDescriptor (service reason : String)
  | unknownDependency (service dependency : String)
  | duplicateService (service : String)
  | unsupported (service version reason : String)
  deriving DecidableEq, Repr

def ProvisionError.code : ProvisionError → String
  | .insufficientCapacity _ _ => "InsufficientCapacity"
  | .capacityTimeout _ _ => "CapacityTimeout"
  | .nodeBudgetExceeded _ _ _ _ => "NodeBudgetExceeded"
  | .invalidDescriptor _ _ => "InvalidDescriptor"
  | .unknownDependency _ _ => "UnknownDependency"
  | .duplicateService _ => "DuplicateService"
  | .unsupported _ _ _ => "Unsupported"

def ProvisionError.message : ProvisionError → String
  | .insufficientCapacity requested total =>
    s!"requested {requested} nodes but the test-bed has {total}"
  | .capacityTimeout requested waited =>
    "timed out after " ++ waited.short ++ s!" waiting for {requested} free nodes"
  | .nodeBudgetExceeded service requested remaining budget =>
    s!"service {service} needs {requested} nodes, only {remaining} of the test's " ++
      s!"{budget} remain"
  | .invalidDescriptor service reason => s!"invalid descriptor for {service}: {reason}"
  | .unknownDependency service dependency =>
    s!"service {service} depends on unknown service {dependency}"
  | .duplicateService service => s!"service {service} is already provisioned"
  | .unsupported service version reason =>
    s!"cannot materialize {service} at version {version}: {reason}"

/-! ## Driving services -/

inductive LifecycleError
  | provision (cause : ProvisionError)
  | startupTimeout (service : String) (timeout : Span)
  | startup (service reason : String)
  | notReady (service : String)
  | dependencyNotReady (service dependency : String)
  | unknownService (service : String)
  | invalidTransition (service action state : String)
  | unsupported (what : String)
  | collaborator (service reason : String)
  | io (reason : String)
  deriving DecidableEq, Repr

namespace LifecycleError

/-- The name of the cause, for programs; a provisioning failure has the name of its own
cause. -/
def code : LifecycleError → String
  | .provision cause => cause.code
  | .startupTimeout _ _ => "StartupTimeout"
  | .startup _ _ => "Startup"
  | .notReady _ => "NotReady"
  | .dependencyNotReady _ _ => "DependencyNotReady"
  | .unknownService _ => "UnknownService"
  | .invalidTransition _ _ _ => "InvalidTransition"
  | .unsupported _ => "Unsupported"
  | .collaborator _ _ => "Collaborator"
  | .io _ => "Io"

def kind : LifecycleError → String
  | .provision _ => "provision"
  | .startupTimeout _ _ => "startup-timeout"
  | .startup _ _ => "startup"
  | .notReady _ => "not-ready"
  | .dependencyNotReady _ _ => "dependency-not-ready"
  | .unknownService _ => "unknown-service"
  | .invalidTransition _ _ _ => "invalid-transition"
  | .unsupported _ => "unsupported"
  | .collaborator _ _ => "collaborator"
  | .io _ => "io"

def message : LifecycleError → String
  | .provision cause => "provisioning failed: " ++ cause.message
  | .startupTimeout service timeout => s!"service {service} not ready after " ++ timeout.short
  | .startup service reason => s!"service {service} failed to start: {reason}"
  | .notReady service => s!"service {service} is not ready"
  | .dependencyNotReady service dependency =>
    s!"service {service} cannot start before {dependency} is ready"
  | .unknownService service => s!"unknown service: {service}"
  | .invalidTransition service action state =>
    s!"cannot {action} service {service} while {state}"
  | .unsupported what => s!"operation not supported: {what}"
  | .collaborator service reason => s!"{service}: {reason}"
  | .io reason => s!"IO error: {reason}"

end LifecycleError

/-- A problem seen while stopping a service.  It never changes an outcome. -/
structure Warning where
  service : String
  text : String
  deriving DecidableEq, Repr, Inhabited

def Warning.message (w : Warning) : String := s!"{w.service}: {w.text}"

/-! ## Cases -/

inductive CaseError
  | assertion (text : String)
  | application (text : String)
  | lifecycle (cause : LifecycleError)
  | provision (cause : ProvisionError)
  | matrix (cause : MatrixError)
  | version (cause : VersionError)
  deriving DecidableEq, Repr

namespace CaseError

def code : CaseError → String
  | .assertion _ => "Assertion"
  | .application _ => "Application"
  | .lifecycle _ => "Lifecycle"
  | .provision _ => "Provision"
  | .matrix _ => "Matrix"
  | .version _ => "Version"

def message : CaseError → String
  | .assertion text => text
  | .application text => s!"application raised: {text}"
  | .lifecycle cause => cause.message
  | .provision cause => cause.message
  | .matrix cause => cause.message
  | .version cause => cause.message

/-- A failed assertion fails the case; anything else is an error of some kind. -/
def toOutcome : CaseError → Outcome
  | .assertion text => .fail text
  | .application text => .error "application" text
  | .lifecycle (.provision cause) | .provision cause => .error "provision" cause.message
  | .lifecycle cause => .error cause.kind cause.message
  | .matrix cause => .error "declaration" cause.message
  | .version cause => .error "declaration" cause.message

end CaseError

end Interop
