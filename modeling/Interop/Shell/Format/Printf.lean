import Interop.Shell.Format.Decimal
import Interop.Shell.Format.Quoting

/-!
# Formatted output

A format is written with its directives replaced by arguments, again and again until no
argument is left.  The shell and the program of the same name differ in the escape sequences
that they read and in what they complain about.
-/

namespace Interop.Shell

inductive Formatter
  | shell
  | program
  deriving DecidableEq, Repr

structure Formatted where
  output : List Char
  complaints : List String
  stops : Bool
  broken : Bool
  deriving Repr, Inhabited

namespace Printf

structure Directive where
  flags : List Char
  width : Nat
  leftward : Bool
  precision : Option Nat
  deriving Repr

/-! ## Padding -/

def pad (d : Directive) (cs : List Char) : List Char :=
  let fill := List.replicate (d.width - cs.length) ' '
  if d.leftward || d.flags.contains '-' then cs ++ fill else fill ++ cs

def padNumber (d : Directive) (zeros : Bool) (sign digits : List Char) : List Char :=
  if zeros && d.flags.contains '0' && !d.leftward && !d.flags.contains '-' then
    sign ++ List.replicate (d.width - sign.length - digits.length) '0' ++ digits
  else pad d (sign ++ digits)

def signOf (d : Directive) (negative : Bool) : List Char :=
  if negative then ['-']
  else if d.flags.contains '+' then ['+']
  else if d.flags.contains ' ' then [' ']
  else []

/-- Digits, at least as many as the precision says. -/
def digitsOf (d : Directive) (base n : Nat) : List Char :=
  match d.precision with
  | some 0 => if n = 0 then [] else Nat.toDigits base n
  | some places =>
    let digits := Nat.toDigits base n
    List.replicate (places - digits.length) '0' ++ digits
  | none => Nat.toDigits base n

def signed (d : Directive) (n : Int) : List Char :=
  padNumber d d.precision.isNone (signOf d (decide (n < 0))) (digitsOf d 10 n.natAbs)

def unsigned (d : Directive) (letter : Char) (n : Int) : List Char :=
  let word := unsignedWord n
  let base := if letter == 'u' then 10 else if letter == 'o' then 8 else 16
  let digits := digitsOf d base word
  let digits := if letter == 'X' then digits.map Char.toUpper else digits
  let alternate := d.flags.contains '#'
  if base == 8 && alternate && digits.head? != some '0' then
    padNumber d d.precision.isNone [] ('0' :: digits)
  else
    let lead := if base == 16 && alternate && word != 0 then ['0', letter] else []
    padNumber d d.precision.isNone lead digits

def fractional (d : Directive) (letter : Char) (value : Decimal) : List Char :=
  let lower := letter.toLower
  let places := d.precision.getD 6
  let cased (text : String) : List Char :=
    if letter.isUpper then text.toList.map Char.toUpper else text.toList
  match value with
  | .infinite negative => padNumber d false (signOf d negative) (cased "inf")
  | .undefined negative => padNumber d false (signOf d negative) (cased "nan")
  | .finite negative n m =>
    let text :=
      if lower == 'f' then Decimal.fixed places n m
      else if lower == 'e' then Decimal.scientific places n m
      else Decimal.general places (d.flags.contains '#') n m
    padNumber d true (signOf d negative) (cased text)

/-! ## Arguments -/

def about (who : Formatter) (argument problem programProblem : String) : String :=
  match who with
  | .shell => argument ++ ": " ++ problem
  | .program => Quoting.word argument ++ ": " ++ programProblem

def noNumber (who : Formatter) (argument : String) : String :=
  about who argument "expected numeric value" "expected a numeric value"

def notWhole (who : Formatter) (argument : String) : String :=
  about who argument "not completely converted" "value not completely converted"

def outOfRange (who : Formatter) (argument : String) : String :=
  about who argument "Numerical result out of range" "Numerical result out of range"

def quotedCharacter? (argument : String) : Option Int :=
  match argument.toList with
  | '"' :: c :: _ | '\'' :: c :: _ => some (c.toNat : Int)
  | _ => none

def integerOf (who : Formatter) (unsigned : Bool) (argument : String) : Int × List String :=
  match quotedCharacter? argument with
  | some n => (n, [])
  | none =>
    if argument.isEmpty then (0, [])
    else
      match readInteger argument.toList with
      | none => (0, [noNumber who argument])
      | some (n, rest) =>
        let (low, high) : Int × Int :=
          if unsigned then (-18446744073709551615, 18446744073709551615) else (minInt64, maxInt64)
        if n < low || high < n then
          (if unsigned then high else if n < low then low else high, [outOfRange who argument])
        else if rest.isEmpty then (n, [])
        else (n, [notWhole who argument])

def precisionOf : Formatter → Nat
  | .shell => 53
  | .program => 64

def decimalOf (who : Formatter) (argument : String) : Decimal × List String :=
  match quotedCharacter? argument with
  | some n => (.finite false n.natAbs 1, [])
  | none =>
    if argument.isEmpty then (.finite false 0 1, [])
    else
      match Decimal.read? argument.toList with
      | none => (.finite false 0 1, [noNumber who argument])
      | some (value, rest) =>
        (value.rounded (precisionOf who), if rest.isEmpty then [] else [notWhole who argument])

/-! ## Formats -/

/-- Formatting under way: the output comes last character first. -/
structure Run where
  output : List Char
  complaints : List String
  args : List String
  used : Bool

def Run.take (r : Run) : String × Run :=
  match r.args with
  | [] => ("", { r with used := true })
  | arg :: rest => (arg, { r with args := rest, used := true })

def Run.add (r : Run) (cs : List Char) : Run := { r with output := cs.reverse ++ r.output }

def Run.complain (r : Run) (messages : List String) : Run :=
  { r with complaints := r.complaints ++ messages }

def Run.finish (r : Run) (stops broken : Bool) : Formatted :=
  ⟨r.output.reverse, r.complaints, stops, broken⟩

def argumentStyle : Formatter → EscapeStyle
  | .shell => .shellArgument
  | .program => .programArgument

def formatStyle : Formatter → EscapeStyle
  | .shell => .shellFormat
  | .program => .programFormat

def isLengthLetter (c : Char) : Bool := "hlLjzt".toList.contains c

/-- A width or a precision: digits, or a star for an argument. -/
def readSize (who : Formatter) (r : Run) (cs : List Char) : Option Int × Run × List Char :=
  match cs with
  | '*' :: rest =>
    let (arg, r) := r.take
    let (n, complaints) := integerOf who false arg
    (some n, r.complain complaints, rest)
  | cs =>
    let digits := cs.takeWhile Char.isDigit
    if digits.isEmpty then (none, r, cs)
    else (some (valueOf 10 digits : Nat), r, cs.drop digits.length)

def readDirective (who : Formatter) (r : Run) (cs : List Char) :
    Directive × Run × List Char :=
  let flags := cs.takeWhile fun c => "#-+ 0'".toList.contains c
  let (width, r, rest) := readSize who r (cs.drop flags.length)
  let width := width.getD 0
  let leftward := decide (width < 0)
  match rest with
  | '.' :: rest =>
    let (precision, r, rest) := readSize who r rest
    let precision := precision.getD 0
    (⟨flags, width.natAbs, leftward, if precision < 0 then none else some precision.toNat⟩, r, rest)
  | rest => (⟨flags, width.natAbs, leftward, none⟩, r, rest)

def badDirective (who : Formatter) (text : List Char) : String :=
  match who with
  | .shell => String.ofList text ++ ": invalid directive"
  | .program => String.ofList text ++ ": invalid conversion specification"

def pass (who : Formatter) : Nat → Run → List Char → Run × Bool × Bool
  | 0, r, _ => (r, false, false)
  | _ + 1, r, [] => (r, false, false)
  | fuel + 1, r, '\\' :: cs =>
    match Escape.sequence (formatStyle who) cs with
    | (out, true, _) => (r.add out, true, false)
    | (out, false, rest) => pass who fuel (r.add out) rest
  | fuel + 1, r, '%' :: '%' :: rest => pass who fuel (r.add ['%']) rest
  | fuel + 1, r, '%' :: cs =>
    let (d, r, rest) := readDirective who r cs
    let rest' := if who = .program then rest.dropWhile isLengthLetter else rest
    match rest' with
    | [] =>
      let problem := match who with
        | .shell => if rest.isEmpty then "missing format character" else "invalid directive"
        | .program => badDirective who ('%' :: cs)
      (r.complain [problem], false, true)
    | letter :: after =>
      if letter == 'd' || letter == 'i' then
        let (arg, r) := r.take
        let (n, complaints) := integerOf who false arg
        pass who fuel ((r.complain complaints).add (signed d n)) after
      else if "ouxX".toList.contains letter then
        let (arg, r) := r.take
        let (n, complaints) := integerOf who true arg
        pass who fuel ((r.complain complaints).add (unsigned d letter n)) after
      else if "eEfFgG".toList.contains letter then
        let (arg, r) := r.take
        let (value, complaints) := decimalOf who arg
        pass who fuel ((r.complain complaints).add (fractional d letter value)) after
      else if letter == 's' then
        let (arg, r) := r.take
        let cs := match d.precision with
          | some places => arg.toList.take places
          | none => arg.toList
        pass who fuel (r.add (pad d cs)) after
      else if letter == 'c' then
        let (arg, r) := r.take
        let cs := match arg.toList with
          | c :: _ => [c]
          | [] => if who = .program then [Char.ofNat 0] else []
        pass who fuel (r.add (pad d cs)) after
      else if letter == 'b' then
        let (arg, r) := r.take
        let plain := Escape.unescape (argumentStyle who) arg
        let cs := match d.precision with
          | some places => plain.text.take places
          | none => plain.text
        if plain.stops then (r.add cs, true, false) else pass who fuel (r.add (pad d cs)) after
      else if letter == 'q' && who = .program then
        let (arg, r) := r.take
        pass who fuel (r.add (Quoting.whenUnsafe arg).toList) after
      else
        let text := '%' :: cs.take (cs.length - after.length)
        (r.complain [badDirective who text], false, true)
  | fuel + 1, r, c :: cs => pass who fuel (r.add [c]) cs

/-- Passes over a format as long as arguments are left. -/
def passes (who : Formatter) (format : List Char) : Nat → Run → Formatted
  | 0, r => r.finish false false
  | fuel + 1, r =>
    match pass who (format.length + 1) { r with used := false } format with
    | (r, true, _) => r.finish true false
    | (r, _, true) => r.finish true true
    | (r, false, false) =>
      if r.used && !r.args.isEmpty then passes who format fuel r
      else if !r.args.isEmpty && who = .program then
        (r.complain ["warning: ignoring excess arguments, starting with " ++
          Quoting.word (r.args.headD "")]).finish true false
      else r.finish true false

def run (who : Formatter) (format : String) (args : List String) : Formatted :=
  passes who format.toList (args.length + 1) ⟨[], [], args, false⟩

end Printf

end Interop.Shell
