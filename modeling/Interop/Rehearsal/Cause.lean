import Interop.Failure
import Interop.Json.Lenient

/-!
# Failures as data

A rehearsal names the failures that it wants by the code of the cause and its fields.
-/

namespace Interop

def Json.code (value : Json) : String := value.textAt "variant"

namespace VersionError

def ofJson (value : Json) : VersionError :=
  match value.code with
  | "Whitespace" => .whitespace (value.textAt "text")
  | _ => .empty

end VersionError

namespace MatrixError

def ofJson (value : Json) : MatrixError :=
  match value.code with
  | "DuplicateAxis" => .duplicateAxis (value.textAt "axis")
  | "MissingAxis" => .missingAxis (value.textAt "axis")
  | _ => .emptyAxisName

end MatrixError

namespace ProvisionError

def ofJson (value : Json) : ProvisionError :=
  let service := value.textAt "service"
  let reason := value.textAt "reason"
  let requested := value.natAt "requested"
  match value.code with
  | "InsufficientCapacity" => .insufficientCapacity requested (value.natAt "total")
  | "CapacityTimeout" => .capacityTimeout requested (value.spanAt "waited")
  | "NodeBudgetExceeded" =>
    .nodeBudgetExceeded service requested (value.natAt "remaining") (value.natAt "budget")
  | "InvalidDescriptor" => .invalidDescriptor service reason
  | "UnknownDependency" => .unknownDependency service (value.textAt "dependency")
  | "DuplicateService" => .duplicateService service
  | _ => .unsupported service (value.textAt "version") reason

end ProvisionError

namespace LifecycleError

def ofJson (value : Json) : LifecycleError :=
  let service := value.textAt "service"
  let reason := value.textAt "reason"
  match value.code with
  | "Provision" => .provision (.ofJson (value.get "inner"))
  | "StartupTimeout" => .startupTimeout service (value.spanAt "timeout")
  | "Startup" => .startup service reason
  | "NotReady" => .notReady service
  | "DependencyNotReady" => .dependencyNotReady service (value.textAt "dependency")
  | "UnknownService" => .unknownService service
  | "InvalidTransition" =>
    .invalidTransition service (value.textAt "action") (value.textAt "state")
  | "Unsupported" => .unsupported (value.textAt "what")
  | "Collaborator" => .collaborator service reason
  | _ => .io reason

end LifecycleError

namespace CaseError

def ofJson (value : Json) : CaseError :=
  let inner := value.get "inner"
  match value.code with
  | "Assertion" => .assertion (value.textAt "text")
  | "Application" => .application (value.textAt "text")
  | "Lifecycle" => .lifecycle (.ofJson inner)
  | "Provision" => .provision (.ofJson inner)
  | "Matrix" => .matrix (.ofJson inner)
  | _ => .version (.ofJson inner)

end CaseError

end Interop
