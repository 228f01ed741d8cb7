import Interop.Descriptor
import Interop.Lifecycle.Event
import Interop.Pool

/-!
# Services of a case

A handle is a provisioned service: its descriptor, its nodes while it has them, what it
shows of itself, and where it stands in its life.
-/

namespace Interop

structure Endpoint where
  host : String
  port : Nat
  deriving DecidableEq, Repr, Inhabited

def Endpoint.text (e : Endpoint) : String := s!"{e.host}:{e.port}"

inductive AppOutcome
  | passed
  | failed (text : String)
  | exception (text : String)
  deriving DecidableEq, Repr, Inhabited

def AppOutcome.isPassed : AppOutcome → Bool
  | .passed => true
  | _ => false

structure ReadySignal where
  service : String
  endpoints : List Endpoint
  deriving DecidableEq, Repr, Inhabited

structure Exposure where
  endpoints : List Endpoint
  logFiles : List String
  deriving DecidableEq, Repr, Inhabited

inductive HandleState
  | provisioned
  | starting
  | ready
  | running
  | completed
  | failed
  | stopped
  deriving DecidableEq, Repr, Inhabited

def HandleState.text : HandleState → String
  | .provisioned => "provisioned"
  | .starting => "starting"
  | .ready => "ready"
  | .running => "running"
  | .completed => "completed"
  | .failed => "failed"
  | .stopped => "stopped"

structure Handle where
  descriptor : Descriptor
  lease : Option Lease
  exposure : Exposure
  state : HandleState
  deriving DecidableEq, Repr, Inhabited

namespace Handle

def name (h : Handle) : String := h.descriptor.name

def fresh (descriptor : Descriptor) (lease : Lease) (exposure : Exposure) : Handle :=
  { descriptor, lease := some lease, exposure, state := .provisioned }

end Handle

end Interop
