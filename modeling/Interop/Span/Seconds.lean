import Interop.Span

/-!
# Seconds with three decimals

A span in seconds is a binary64 number: the whole seconds rounded to 53 bits, plus the
quotient of the nanoseconds by a billion, each operation rounded to nearest with ties to
even.  Its text has three decimals, the exact binary value rounded half to even.  All of it
is computed on exact fractions of natural numbers.
-/

namespace Interop

/-- A non-negative fraction; the denominator is positive in every use. -/
structure Fraction where
  num : Nat
  den : Nat
  deriving DecidableEq, Repr

namespace Fraction

/-- The quotient rounded to the nearest natural number, a tie to the even neighbour. -/
def roundDiv (num den : Nat) : Nat :=
  let quotient := num / den
  let rest := num % den
  if 2 * rest < den then quotient
  else if den < 2 * rest then quotient + 1
  else quotient + quotient % 2

def add (x y : Fraction) : Fraction := ⟨x.num * y.den + y.num * x.den, x.den * y.den⟩

/-- The least number `k` with `num / 2 ^ k < den`, so that the quotient of a fraction above
one has `k` binary digits. -/
def bits (f : Fraction) : Nat :=
  if f.num < f.den then 0 else (f.num / f.den).log2 + 1

def doublings : Nat → Nat → Nat → Nat
  | 0, _, _ => 0
  | fuel + 1, num, den => if den ≤ num then 0 else doublings fuel (2 * num) den + 1

/-- The nearest fraction with 53 significant binary digits, ties to even.  Spans never
reach the range where binary64 loses digits below its least exponent. -/
def toBinary64 (f : Fraction) : Fraction :=
  if f.num = 0 then ⟨0, 1⟩
  else if 53 ≤ f.bits then
    let unit := 1 <<< (f.bits - 53)
    ⟨roundDiv f.num (f.den * unit) * unit, 1⟩
  else
    let places :=
      if 0 < f.bits then 53 - f.bits else 52 + doublings (f.den.log2 + 1) f.num f.den
    let unit := 1 <<< places
    ⟨roundDiv (f.num * unit) f.den, unit⟩

/-- Decimal text with three places, rounded half to even. -/
def thousandths (f : Fraction) : String :=
  let scaled := roundDiv (f.num * 1000) f.den
  toString (scaled / 1000) ++ "." ++ Text.padZeros 3 (scaled % 1000)

end Fraction

namespace Span

def binarySeconds (d : Span) : Fraction :=
  let whole := Fraction.toBinary64 ⟨d.seconds, 1⟩
  let part := Fraction.toBinary64 ⟨d.subsecond, 1000000000⟩
  Fraction.toBinary64 (whole.add part)

def inSeconds (d : Span) : String := d.binarySeconds.thousandths ++ "s"

def limitText (d : Span) : String :=
  if d.subsecond = 0 then toString d.seconds ++ "s" else d.inSeconds

end Span

end Interop
