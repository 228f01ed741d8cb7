import Interop.Text.Blank

/-!
# Spans of time

A span is a whole number of nanoseconds.  Its short text uses the largest of the units
`s`, `ms`, `µs` and `ns` in which it has an integer part, with an exact decimal fraction.
An instant is the span since the beginning of a run.
-/

namespace Interop

structure Span where
  nanos : Nat
  deriving DecidableEq, Repr, Inhabited

abbrev Instant := Nat

namespace Span

def maxWord : Nat := 18446744073709551615

def zero : Span := ⟨0⟩

def ofSeconds (secs : Nat) : Span := ⟨secs * 1000000000⟩

def ofMillis (millis : Nat) : Span := ⟨millis * 1000000⟩

/-- From seconds and nanoseconds; the nanoseconds may exceed a second. -/
def ofParts (secs nanos : Nat) : Span := ⟨secs * 1000000000 + nanos⟩

def seconds (d : Span) : Nat := d.nanos / 1000000000

def subsecond (d : Span) : Nat := d.nanos % 1000000000

/-- Whole milliseconds, at most the largest 64-bit word. -/
def millis (d : Span) : Nat := min (d.nanos / 1000000) maxWord

def isZero (d : Span) : Bool := d.nanos == 0

/-! ## Short text -/

def fractionDigits (width part : Nat) : List Char :=
  ((Text.padZeros width part).toList.reverse.dropWhile (· == '0')).reverse

def decimal (whole part width : Nat) : String :=
  if part = 0 then toString whole
  else toString whole ++ "." ++ String.ofList (fractionDigits width part)

def short (d : Span) : String :=
  if 1000000000 ≤ d.nanos then decimal d.seconds d.subsecond 9 ++ "s"
  else if 1000000 ≤ d.nanos then decimal (d.nanos / 1000000) (d.nanos % 1000000) 6 ++ "ms"
  else if 1000 ≤ d.nanos then decimal (d.nanos / 1000) (d.nanos % 1000) 3 ++ "µs"
  else toString d.nanos ++ "ns"

def after (d : Span) (start : Instant) : Instant := start + d.nanos

/-- The last instant of a clock with whole seconds of 63 bits that is at zero when the run
begins. -/
def lastInstant : Instant := 9223372036854775808 * 1000000000 - 1

/-- The instant a span after another, unless that is beyond the horizon. -/
def after? (d : Span) (horizon start : Instant) : Option Instant :=
  if d.after start ≤ horizon then some (d.after start) else none

def beyondHorizon : String := "overflow when adding duration to instant"

/-- The longest time that anything sleeps: thirty years of 365 days. -/
def longestSleep : Span := .ofSeconds 946080000

/-- When a limit is reached; one beyond the horizon counts as the longest sleep. -/
def limitAfter (d : Span) (horizon start : Instant) : Instant :=
  (d.after? horizon start).getD (longestSleep.after start)

def asSleep (d : Span) : Span := ⟨min d.nanos longestSleep.nanos⟩

def between (start stop : Instant) : Span := ⟨stop - start⟩

end Span

end Interop
