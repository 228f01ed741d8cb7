import Interop.Span

/-!
# Lifecycle settings

The time limits for the services of one case, and the number of nodes its test declares.
-/

namespace Interop

structure Settings where
  /-- Deadline for readiness after the start, unless a service has its own. -/
  startupTimeout : Span
  pollInterval : Span
  gracePeriod : Span
  provisionTimeout : Span
  nodeBudget : Option Nat
  horizon : Instant
  deriving DecidableEq, Repr, Inhabited

def Settings.standard : Settings :=
  { startupTimeout := .ofSeconds 60, pollInterval := .ofMillis 100
    gracePeriod := .ofSeconds 10, provisionTimeout := .ofSeconds 120, nodeBudget := none
    horizon := Span.lastInstant }

end Interop
