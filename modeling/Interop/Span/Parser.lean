import Interop.Span
import Interop.Text.Quoted

/-!
# Reading spans

A bare number is a count of seconds.  Anything else is a sequence of numbers with units, as
in `1m30s` or `2 min 5 s`; digits may be separated by blanks, and a number may have a decimal
fraction as long as it stands for a whole number of nanoseconds (of seconds, for hours and
longer units).  Positions in error texts count bytes of the trimmed text.
-/

namespace Interop.Span

/-! ## Units -/

inductive TimeUnit
  | nanosecond
  | microsecond
  | millisecond
  | second
  | minute
  | hour
  | day
  | week
  | month
  | year
  deriving DecidableEq, Repr

def TimeUnit.ofName? (name : String) : Option TimeUnit :=
  if ["nanos", "nsec", "ns"].contains name then some .nanosecond
  else if ["usec", "us", "µs"].contains name then some .microsecond
  else if ["millis", "msec", "ms"].contains name then some .millisecond
  else if ["seconds", "second", "secs", "sec", "s"].contains name then some .second
  else if ["minutes", "minute", "min", "mins", "m"].contains name then some .minute
  else if ["hours", "hour", "hr", "hrs", "h"].contains name then some .hour
  else if ["days", "day", "d"].contains name then some .day
  else if ["weeks", "week", "wk", "wks", "w"].contains name then some .week
  else if ["months", "month", "M"].contains name then some .month
  else if ["years", "year", "yr", "yrs", "y"].contains name then some .year
  else none

/-- Whether a unit is counted in nanoseconds; the longer ones are counted in seconds. -/
def TimeUnit.countsNanos : TimeUnit → Bool
  | .nanosecond | .microsecond | .millisecond => true
  | _ => false

/-- The whole part of a unit: nanoseconds up to milliseconds, seconds above. -/
def TimeUnit.wholeFactor : TimeUnit → Nat
  | .nanosecond => 1
  | .microsecond => 1000
  | .millisecond => 1000000
  | .second => 1
  | .minute => 60
  | .hour => 3600
  | .day => 86400
  | .week => 604800
  | .month => 2630016
  | .year => 31557600

/-! ## Errors -/

inductive ParseError
  | invalidCharacter (offset : Nat)
  | numberExpected (offset : Nat)
  | unitNeeded (value : Nat)
  | unknownUnit (name : String)
  | overflow
  | empty
  deriving DecidableEq, Repr

def ParseError.message : ParseError → String
  | .invalidCharacter offset => s!"invalid character at {offset}"
  | .numberExpected offset => s!"expected number at {offset}"
  | .unitNeeded value =>
    s!"time unit needed, for example {value}sec or {value}ms"
  | .unknownUnit name =>
    "unknown time unit " ++ Text.quoted name ++
      ", supported units: ns, us/µs, ms, sec, min, hours, days, weeks, months, years" ++
      " (and few variations)"
  | .overflow =>
    "number is too large or cannot be represented without a lack of precision" ++
      " (values below 1ns are not supported)"
  | .empty => "value was empty"

/-! ## Words of 64 bits -/

def word (n : Nat) : Except ParseError Nat := if n ≤ maxWord then .ok n else .error .overflow

def exactQuotient (num den : Nat) : Except ParseError Nat :=
  if num % den = 0 then .ok (num / den) else .error .overflow

/-- Adds seconds and nanoseconds to a span; each partial sum has to fit in 64 bits. -/
def accumulate (total : Span) (secs nanos : Nat) : Except ParseError Span := do
  let nanos ← word (total.subsecond + nanos)
  let carry := if 1000000000 < nanos then nanos / 1000000000 else 0
  let nanos := if 1000000000 < nanos then nanos % 1000000000 else nanos
  let secs ← word (secs + carry)
  let secs ← word (total.seconds + secs)
  return ofParts secs nanos

/-- A decimal fraction: its digits read as a number, over a power of ten. -/
structure DecimalFraction where
  digits : Nat
  scale : Nat
  deriving DecidableEq, Repr

def wholePart (unit : TimeUnit) (value : Nat) : Except ParseError (Nat × Nat) := do
  let amount ← word (value * unit.wholeFactor)
  return if unit.countsNanos then (0, amount) else (amount, 0)

def fractionPart (unit : TimeUnit) (f : DecimalFraction) : Except ParseError (Nat × Nat) :=
  match unit with
  | .nanosecond => .error .overflow
  | .microsecond | .millisecond => do
    return (0, ← exactQuotient (← word (f.digits * unit.wholeFactor)) f.scale)
  | .second | .minute => do
    let nanos ← word (f.digits * (unit.wholeFactor * 1000000000))
    return (0, ← exactQuotient nanos f.scale)
  | .hour | .day | .week | .month | .year => do
    return (← exactQuotient (← word (f.digits * unit.wholeFactor)) f.scale, 0)

def addAmount (total : Span) (value : Nat) (fraction : Option DecimalFraction)
    (name : List Char) : Except ParseError Span := do
  match TimeUnit.ofName? (String.ofList name) with
  | none =>
    if name.isEmpty then .error (.unitNeeded value)
    else .error (.unknownUnit (String.ofList name))
  | some unit =>
    let (secs, nanos) ← wholePart unit value
    let total ← accumulate total secs nanos
    match fraction with
    | none => return total
    | some f =>
      let (secs, nanos) ← fractionPart unit f
      accumulate total secs nanos

/-! ## The reader -/

def isUnitChar (c : Char) : Bool :=
  ('a' ≤ c && c ≤ 'z') || ('A' ≤ c && c ≤ 'Z') || c = 'µ'

def digitValue (c : Char) : Nat := c.toNat - '0'.toNat

inductive Reading
  | start
  | whole (value : Nat)
  /-- Behind the point; `last` is where the last accepted character ended. -/
  | fraction (value : Nat) (f : DecimalFraction) (last : Nat)
  | unit (value : Nat) (f : Option DecimalFraction) (name : List Char)
  deriving DecidableEq, Repr

def nextFraction (f : DecimalFraction) (c : Char) : Except ParseError DecimalFraction := do
  let scale ← word (f.scale * 10)
  let digits ← word (f.digits * 10 + digitValue c)
  return ⟨digits, scale⟩

/-- Reads the rest of a text; `offset` is the position of its first byte. -/
def readFrom (reading : Reading) (total : Span) (offset : Nat) :
    List Char → Except ParseError Span
  | [] =>
    match reading with
    | .start => .ok total
    | .whole value => addAmount total value none []
    | .fraction value f last =>
      if f.scale = 1 then .error (.invalidCharacter last) else addAmount total value (some f) []
    | .unit value f name => addAmount total value f name.reverse
  | c :: cs =>
    let next := offset + c.utf8Size
    match reading with
    | .start =>
      if c.isDigit then readFrom (.whole (digitValue c)) total next cs
      else if Text.isBlank c then readFrom .start total next cs
      else .error (.numberExpected offset)
    | .whole value =>
      if c.isDigit then
        match word (value * 10 + digitValue c) with
        | .error e => .error e
        | .ok value => readFrom (.whole value) total next cs
      else if Text.isBlank c then readFrom (.whole value) total next cs
      else if isUnitChar c then readFrom (.unit value none [c]) total next cs
      else if c = '.' then readFrom (.fraction value ⟨0, 1⟩ offset) total next cs
      else .error (.invalidCharacter offset)
    | .fraction value f last =>
      if c.isDigit then
        match nextFraction f c with
        | .error e => .error e
        | .ok f => readFrom (.fraction value f next) total next cs
      else if Text.isBlank c then readFrom (.fraction value f next) total next cs
      else if isUnitChar c then
        if f.scale = 1 then .error (.invalidCharacter last)
        else readFrom (.unit value (some f) [c]) total next cs
      else .error (.invalidCharacter last)
    | .unit value f name =>
      if c.isDigit then
        match addAmount total value f name.reverse with
        | .error e => .error e
        | .ok total => readFrom (.whole (digitValue c)) total next cs
      else if Text.isBlank c then
        match addAmount total value f name.reverse with
        | .error e => .error e
        | .ok total => readFrom .start total next cs
      else if isUnitChar c then readFrom (.unit value f (c :: name)) total next cs
      else .error (.invalidCharacter offset)

/-- Reads numbers with units; an empty or blank text is refused. -/
def parseUnits (cs : List Char) : Except ParseError Span :=
  if (Text.trimStart cs).isEmpty then .error .empty else readFrom .start zero 0 cs

/-- A decimal number of at most 64 bits, with an optional plus sign. -/
def parseWord? (cs : List Char) : Option Nat :=
  let digits := match cs with
    | '+' :: rest => rest
    | _ => cs
  if digits.isEmpty || !digits.all Char.isDigit then none
  else
    let value := digits.foldl (fun n c => n * 10 + digitValue c) 0
    if value ≤ maxWord then some value else none

/-- Reads a span from a command line; the error is the full text shown to the user. -/
def parse (s : String) : Except String Span :=
  let s := Text.trim s
  match parseWord? s.toList with
  | some secs => .ok (ofSeconds secs)
  | none =>
    match parseUnits s.toList with
    | .ok d => .ok d
    | .error e => .error ("invalid duration " ++ Text.quoted s ++ ": " ++ e.message)

end Interop.Span
