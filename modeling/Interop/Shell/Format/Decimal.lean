import Interop.Shell.Arithmetic

/-!
# Decimal fractions

Numbers with a point are read as fractions, rounded to binary numbers of some precision, and
written with a given count of digits; a tie goes to the even digit.
-/

namespace Interop.Shell

inductive Decimal
  | finite (negative : Bool) (numerator denominator : Nat)
  | infinite (negative : Bool)
  | undefined (negative : Bool)
  deriving DecidableEq, Repr

instance : Inhabited Decimal := ⟨.finite false 0 1⟩

namespace Decimal

def power (base : Nat) : Nat → Nat
  | 0 => 1
  | n + 1 => base * power base n

/-- The quotient, rounded; a tie goes to the even neighbour. -/
def roundDiv (n d : Nat) : Nat :=
  let q := n / d
  let r := 2 * (n % d)
  if r < d then q else if d < r then q + 1 else if q % 2 = 0 then q else q + 1

def bits (n : Nat) : Nat := if n = 0 then 0 else n.log2 + 1

def roundBits (precision n d : Nat) : Nat × Nat :=
  if n = 0 then (0, 1)
  else
    let up := precision + 2 + bits d - min (bits n) (precision + 2 + bits d)
    let scaled := n <<< up
    let q := scaled / d
    let extra := bits q - precision
    let sticky := if scaled % d = 0 then 0 else 1
    let m := roundDiv (2 * q + sticky) (2 <<< extra)
    (m <<< extra, 1 <<< up)

/-! ## Reading -/

def readExponent (cs : List Char) : Int × List Char :=
  match cs with
  | e :: rest =>
    if e == 'e' || e == 'E' then
      let (negative, digits) := match rest with
        | '-' :: rest => (true, rest)
        | '+' :: rest => (false, rest)
        | rest => (false, rest)
      let found := digits.takeWhile Char.isDigit
      if found.isEmpty then (0, cs)
      else
        let n : Int := min (valueOf 10 found) 5000
        (if negative then -n else n, digits.drop found.length)
    else (0, cs)
  | [] => (0, [])

def readUnsigned (negative : Bool) (cs : List Char) : Option (Decimal × List Char) :=
  let lower := String.ofList (cs.map Char.toLower)
  if lower.startsWith "infinity" then some (.infinite negative, cs.drop 8)
  else if lower.startsWith "inf" then some (.infinite negative, cs.drop 3)
  else if lower.startsWith "nan" then some (.undefined negative, cs.drop 3)
  else
    match cs with
    | '0' :: x :: d :: rest =>
      if (x == 'x' || x == 'X') && isDigitOf 16 d then
        let digits := (d :: rest).takeWhile (isDigitOf 16)
        some (.finite negative (valueOf 16 digits) 1, (d :: rest).drop digits.length)
      else decimal cs
    | cs => decimal cs
where
  decimal (cs : List Char) : Option (Decimal × List Char) :=
    let whole := cs.takeWhile Char.isDigit
    let rest := cs.drop whole.length
    let fraction := match rest with
      | '.' :: rest => rest.takeWhile Char.isDigit
      | _ => []
    if whole.isEmpty && fraction.isEmpty then none
    else
      let rest := match rest with
        | '.' :: rest => rest.drop fraction.length
        | rest => rest
      let (exponent, rest) := readExponent rest
      let digits := valueOf 10 (whole ++ fraction)
      let places : Int := exponent - fraction.length
      let value :=
        if 0 ≤ places then Decimal.finite negative (digits * power 10 places.toNat) 1
        else Decimal.finite negative digits (power 10 (-places).toNat)
      some (value, rest)

def read? (cs : List Char) : Option (Decimal × List Char) :=
  match cs.dropWhile isSpace with
  | '-' :: rest => readUnsigned true rest
  | '+' :: rest => readUnsigned false rest
  | rest => readUnsigned false rest

def rounded (precision : Nat) : Decimal → Decimal
  | .finite negative n d =>
    let (n, d) := roundBits precision n d
    .finite negative n d
  | other => other

/-! ## Writing -/

def padLeft (width : Nat) (text : String) : String :=
  String.ofList (List.replicate (width - text.length) '0') ++ text

def fixed (places n d : Nat) : String :=
  let scaled := roundDiv (n * power 10 places) d
  let unit := power 10 places
  toString (scaled / unit) ++
    (if places = 0 then "" else "." ++ padLeft places (toString (scaled % unit)))

/-- The power of ten of the first digit, found by trying; at most `fuel` steps. -/
def exponentOf : Nat → Int → Nat → Nat → Int
  | 0, e, _, _ => e
  | fuel + 1, e, n, d =>
    if n = 0 then 0
    else if 10 * d ≤ n then exponentOf fuel (e + 1) n (10 * d)
    else if n < d then exponentOf fuel (e - 1) (10 * n) d
    else e

def scientificParts (places n d : Nat) : Nat × Int :=
  let e := exponentOf 6000 0 n d
  let shift : Int := places - e
  let scaled :=
    if 0 ≤ shift then roundDiv (n * power 10 shift.toNat) d
    else roundDiv n (d * power 10 (-shift).toNat)
  if power 10 (places + 1) ≤ scaled then (scaled / 10, e + 1) else (scaled, e)

def exponentText (e : Int) : String :=
  let digits := padLeft 2 (toString e.natAbs)
  "e" ++ (if e < 0 then "-" else "+") ++ digits

def scientific (places n d : Nat) : String :=
  let (scaled, e) := scientificParts places n d
  let unit := power 10 places
  toString (scaled / unit) ++
    (if places = 0 then "" else "." ++ padLeft places (toString (scaled % unit))) ++
    exponentText e

def withoutZeros (text : String) : String :=
  if text.toList.contains '.' then
    let kept := (text.toList.reverse.dropWhile (· == '0')).dropWhile (· == '.')
    String.ofList kept.reverse
  else text

def general (digits : Nat) (keepZeros : Bool) (n d : Nat) : String :=
  let digits := max digits 1
  let (_, e) := scientificParts (digits - 1) n d
  let trim (text : String) := if keepZeros then text else withoutZeros text
  if e < -4 || (digits : Int) ≤ e then
    let text := scientific (digits - 1) n d
    let mantissa := String.ofList (text.toList.takeWhile (· != 'e'))
    trim mantissa ++ exponentText e
  else trim (fixed ((digits : Int) - 1 - e).toNat n d)

end Decimal

end Interop.Shell
