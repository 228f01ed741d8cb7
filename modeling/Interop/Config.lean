import Interop.Lifecycle.Settings

/-!
# Configuration of a run
-/

namespace Interop

structure Config where
  /-- Cases executing at once; the machine's own number when not given. -/
  parallelism : Option Nat
  /-- Limit for one case, unless its test has its own. -/
  caseTimeout : Span
  startupTimeout : Span
  pollInterval : Span
  gracePeriod : Span
  provisionTimeout : Span
  hosts : List String
  failFast : Bool
  suiteTimeout : Option Span
  latestRelease : Option String
  horizon : Instant
  /-- A sum of node counts beyond a machine word breaks the case down instead of wrapping around. -/
  overflowChecks : Bool
  deriving DecidableEq, Repr, Inhabited

namespace Config

def defaultHost : String := "127.0.0.1"

def standard : Config :=
  { parallelism := none
    caseTimeout := .ofSeconds 300
    startupTimeout := .ofSeconds 60
    pollInterval := .ofMillis 100
    gracePeriod := .ofSeconds 10
    provisionTimeout := .ofSeconds 120
    hosts := List.replicate 4 defaultHost
    failFast := false
    suiteTimeout := none
    latestRelease := none
    horizon := Span.lastInstant
    overflowChecks := true }

def withParallelism (c : Config) (count : Nat) : Config :=
  { c with parallelism := some (max count 1) }

def withTestbedSize (c : Config) (count : Nat) : Config :=
  { c with hosts := List.replicate count defaultHost }

def maxPermits : Nat := 2305843009213693951

def permits (c : Config) (cores : Nat) : Nat := max 1 (c.parallelism.getD cores)

def settings (c : Config) (nodeBudget : Option Nat) : Settings :=
  { startupTimeout := c.startupTimeout
    pollInterval := c.pollInterval
    gracePeriod := c.gracePeriod
    provisionTimeout := c.provisionTimeout
    nodeBudget
    horizon := c.horizon }

end Config

end Interop
