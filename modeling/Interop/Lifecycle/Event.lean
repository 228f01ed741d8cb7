import Interop.Span.Seconds

/-!
# Lifecycle events

Every transition of a service is recorded with its instant.  A log line gives the time since
the case began.
-/

namespace Interop

inductive EventKind
  | provisioned
  | starting
  | ready
  | startFailed
  | running
  | completed
  | stopped
  | forcedStop
  deriving DecidableEq, Repr, Inhabited

def EventKind.text : EventKind → String
  | .provisioned => "provisioned"
  | .starting => "starting"
  | .ready => "ready"
  | .startFailed => "start failed"
  | .running => "running"
  | .completed => "completed"
  | .stopped => "stopped"
  | .forcedStop => "stopped (forced)"

structure Event where
  service : String
  kind : EventKind
  time : Instant
  deriving DecidableEq, Repr, Inhabited

namespace Event

def summary (e : Event) : String := e.service ++ " " ++ e.kind.text

/-- The log line of an event; an event before the origin counts as at the origin. -/
def describe (e : Event) (origin : Instant) : String :=
  "+" ++ (Span.between origin e.time).inSeconds ++ " " ++ e.summary

end Event

end Interop
