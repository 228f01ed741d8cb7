import Interop.Shell.Format.Printf
import Interop.Shell.Program.Basic
import Interop.Shell.Regex

/-!
# Programs that calculate

Rows of numbers, expressions over numbers and texts, and intervals of time.
-/

namespace Interop.Shell.Program

/-! ## Rows of numbers -/

/-- A decimal number: its digits as one integer, and how many of them follow the point. -/
structure Scaled where
  digits : Int
  places : Nat
  deriving DecidableEq, Repr

def scaled? (text : String) : Option Scaled :=
  let (negative, cs) := match text.toList with
    | '-' :: cs => (true, cs)
    | '+' :: cs => (false, cs)
    | cs => (false, cs)
  let whole := cs.takeWhile Char.isDigit
  let rest := cs.drop whole.length
  let fraction := match rest with
    | '.' :: rest => rest.takeWhile Char.isDigit
    | _ => []
  let rest := match rest with
    | '.' :: rest => rest.drop fraction.length
    | rest => rest
  let (exponent, rest) := Decimal.readExponent rest
  if (whole.isEmpty && fraction.isEmpty) || !rest.isEmpty then none
  else
    let n : Int := valueOf 10 (whole ++ fraction)
    let n := if negative then -n else n
    let places : Int := fraction.length - exponent
    some (if 0 ≤ places then ⟨n, places.toNat⟩ else ⟨n * Decimal.power 10 (-places).toNat, 0⟩)

def Scaled.at (n : Scaled) (places : Nat) : Int :=
  n.digits * Decimal.power 10 (places - n.places)

def scaledText (places : Nat) (n : Int) : String :=
  let unit := Decimal.power 10 places
  let text := toString (n.natAbs / unit) ++
    (if places = 0 then "" else "." ++ Decimal.padLeft places (toString (n.natAbs % unit)))
  if n < 0 then "-" ++ text else text

/-- Numbers from one to another, at most `fuel` of them. -/
def row (step last : Int) : Nat → Int → List Int
  | 0, _ => []
  | fuel + 1, n =>
    if (0 < step && last < n) || (step < 0 && n < last) then []
    else n :: row step last fuel (n + step)

def longestRow : Nat := 200000

def zeroPadded (width : Nat) (text : String) : String :=
  if text.startsWith "-" then "-" ++ Decimal.padLeft (width - 1) (text.drop 1).toString
  else Decimal.padLeft width text

def isNegative (arg : String) : Bool :=
  match arg.toList with
  | '-' :: c :: _ => c.isDigit || c == '.'
  | _ => false

def seqOptions (self : String) (args : List String) : Act (List GivenOption × List String) :=
  let specs : List OptionSpec :=
    [⟨'s', some "separator", true⟩, ⟨'w', some "equal-width", false⟩, ⟨'f', some "format", true⟩]
  let leading := args.takeWhile fun arg => !isNegative arg
  options self specs true 1 (leading ++ (if leading.length < args.length then ["--"] else []) ++
    args.drop leading.length)

def seq : Program := fun self args => do
  let (given, words) ← seqOptions self args
  Act.setStatus 0
  if words.isEmpty then missingOperand self 1
  else if words.length > 3 then
    misuse self ("extra operand " ++ Quoting.word (words[3]?.getD "")) 1
  else
    match words.find? fun word => (scaled? word).isNone with
    | some bad => misuse self ("invalid floating point argument: " ++ Quoting.word bad) 1
    | none =>
      let numbers := words.filterMap scaled?
      let one : Scaled := ⟨1, 0⟩
      let (first, step, last) := match numbers with
        | [last] => (one, one, last)
        | [first, last] => (first, one, last)
        | [first, step, last] => (first, step, last)
        | _ => (one, one, one)
      if step.digits == 0 then
        misuse self ("invalid Zero increment value: " ++ Quoting.word (words[1]?.getD "")) 1
      else
        let places := max first.places step.places
        let common := max places last.places
        let found := row (step.at common) (last.at common) longestRow (first.at common)
        let cutPlaces (n : Int) : Int := n / Decimal.power 10 (common - places)
        let texts := match Options.value? given 'f' with
          | some format => found.map fun n =>
              String.ofList (Printf.run .program format [scaledText common n]).output
          | none => found.map fun n => scaledText places (cutPlaces n)
        let width := (texts.map String.length).foldl max 0
        let texts := if Options.has given 'w' then texts.map (zeroPadded width) else texts
        if !texts.isEmpty then
          out self (((Options.value? given 's').getD "\n").intercalate texts ++ "\n")

/-! ## Expressions -/

/-- A value of an expression is a text; some texts are numbers. -/
def exprInteger? (text : String) : Option Int :=
  match text.toList with
  | '-' :: cs => if cs.isEmpty || !cs.all Char.isDigit then none else some (-(valueOf 10 cs : Int))
  | cs => if cs.isEmpty || !cs.all Char.isDigit then none else some (valueOf 10 cs : Int)

def isNothing (text : String) : Bool := text.isEmpty || exprInteger? text == some 0

structure ExprProblem where
  message : String
  status : Nat

/-- Reading consumes words; the word before is kept for messages. -/
abbrev Calculating := StateT (List String × String) (Except ExprProblem)

namespace Calculating

def refuse {α : Type} (message : String) (status : Nat) : Calculating α :=
  throw ⟨message, status⟩

def take? : Calculating (Option String) := do
  match ← get with
  | ([], _) => return none
  | (word :: rest, _) =>
    set (rest, word)
    return some word

def takeRequired : Calculating String := do
  match ← take? with
  | some word => return word
  | none =>
    let (_, before) ← get
    refuse ("syntax error: missing argument after " ++ Quoting.word before) 2

def operator? (ops : List String) : Calculating (Option String) := do
  match ← get with
  | (word :: rest, _) =>
    if ops.contains word then
      set (rest, word)
      return some word
    else return none
  | ([], _) => return none

def integer (text : String) : Calculating Int :=
  match exprInteger? text with
  | some n => return n
  | none => refuse "non-integer argument" 2

/-- The text that a pattern matches at the beginning: its first group, or how long it is. -/
def matchText (text pattern : String) : Calculating String := do
  match Regex.parse false pattern with
  | .error e => refuse e 2
  | .ok e =>
    let hasGroup := (pattern.splitOn "\\(").length > 1
    match e.matchAt? (Regex.lineOf text false) 0 with
    | none => return if hasGroup then "" else "0"
    | some (stop, caps) =>
      if hasGroup then
        match Regex.capture? caps 1 with
        | some (low, high) => return String.ofList ((text.toList.take high).drop low)
        | none => return ""
      else return toString (Text.characterCount (String.ofList (text.toList.take stop)))

def ofBool (b : Bool) : String := if b then "1" else "0"

def calculate (op a b : String) : Calculating String := do
  let m ← integer a
  let n ← integer b
  match op with
  | "+" => return toString (m + n)
  | "-" => return toString (m - n)
  | "*" => return toString (m * n)
  | op =>
    if n == 0 then refuse "division by zero" 2
    else if op == "/" then return toString (m.tdiv n)
    else return toString (m.tmod n)

def compareValues (op a b : String) : String :=
  let order := match exprInteger? a, exprInteger? b with
    | some m, some n => compare m n
    | _, _ => compare a b
  ofBool <| match op with
    | "=" | "==" => order == .eq
    | "!=" => order != .eq
    | "<" => order == .lt
    | "<=" => order != .gt
    | ">" => order == .gt
    | _ => order != .lt

def operand (whole : Calculating String) : Nat → Calculating String
  | 0 => return ""
  | fuel + 1 => do
    let word ← takeRequired
    match word with
    | "(" =>
      let value ← whole
      match ← get with
      | (")" :: rest, _) =>
        set (rest, ")")
        return value
      | (_, before) =>
        match (← get).1 with
        | [] => refuse ("syntax error: expecting ')' after " ++ Quoting.word before) 2
        | found :: _ => refuse ("syntax error: expecting ')' instead of " ++ Quoting.word found) 2
    | ")" => refuse "syntax error: unexpected ')'" 2
    | "+" => takeRequired
    | "length" => return toString (Text.characterCount (← operand whole fuel))
    | "match" =>
      let text ← operand whole fuel
      matchText text (← operand whole fuel)
    | "index" =>
      let text ← operand whole fuel
      let set := (← operand whole fuel).toList
      return toString ((text.toList.findIdx? fun c => set.contains c).elim 0 (· + 1))
    | "substr" =>
      let text ← operand whole fuel
      let start ← operand whole fuel
      let length ← operand whole fuel
      match exprInteger? start, exprInteger? length with
      | some start, some length =>
        if start ≤ 0 || length ≤ 0 then return ""
        else return String.ofList ((text.toList.drop (start.toNat - 1)).take length.toNat)
      | _, _ => return ""
    | word => return word

def chained (tighter : Calculating String) (ops : List String)
    (join : String → String → String → Calculating String) : Nat → String → Calculating String
  | 0, value => return value
  | fuel + 1, value => do
    match ← operator? ops with
    | none => return value
    | some op =>
      let other ← tighter
      chained tighter ops join fuel (← join op value other)

def level (tighter : Calculating String) (ops : List String)
    (join : String → String → String → Calculating String) : Calculating String := do
  let bound := (← get).1.length + 1
  let value ← tighter
  chained tighter ops join bound value

def expression : Nat → Calculating String
  | 0 => return ""
  | fuel + 1 => do
    let bound := (← get).1.length + 1
    let matches' := level (operand (expression fuel) bound) [":"] fun _ a b => matchText a b
    let products := level matches' ["*", "/", "%"] calculate
    let sums := level products ["+", "-"] calculate
    let comparisons := level sums ["<", "<=", "=", "==", "!=", ">=", ">"] fun op a b =>
      return compareValues op a b
    let both := level comparisons ["&"] fun _ a b =>
      return if isNothing a || isNothing b then "0" else a
    level both ["|"] fun _ a b =>
      return if !isNothing a then a else if isNothing b then "0" else b

end Calculating

def expr : Program := fun self args => do
  let args := if args.head? == some "--" then args.tail else args
  if args.isEmpty then missingOperand self 2
  else
    match (Calculating.expression (args.length + 1)).run (args, "") with
    | .error e => abort self e.message e.status
    | .ok (value, [], _) =>
      out self (value ++ "\n")
      Act.setStatus (if isNothing value then 1 else 0)
    | .ok (_, word :: _, _) =>
      abort self ("syntax error: unexpected argument " ++ Quoting.word word) 2

/-! ## Intervals -/

def unitNanos : List (Char × Nat) :=
  [('s', 1000000000), ('m', 60000000000), ('h', 3600000000000), ('d', 86400000000000)]

/-- A time that nobody waits for, in nanoseconds. -/
def eternity : Nat := 1000000000000000000000000000

def interval? (text : String) : Option Nat :=
  match Decimal.readUnsigned false text.toList with
  | none | some (.undefined _, _) => none
  | some (value, rest) =>
    let unit : Option Nat := match rest with
      | [] => some 1000000000
      | [c] => (unitNanos.find? fun (entry : Char × Nat) => entry.1 == c).map Prod.snd
      | _ => none
    unit.map fun unit =>
      match value with
      | .finite _ n d => min eternity ((n * unit + d - 1) / d)
      | _ => eternity

def sleep : Program := fun self args => do
  let (_, words) ← options self [] false 1 args
  Act.setStatus 0
  if words.isEmpty then missingOperand self 1
  else
    let bad := words.filter fun word => (interval? word).isNone
    if bad.isEmpty then
      Act.wait ⟨(words.filterMap interval?).foldl (· + ·) 0⟩
    else
      bad.forM fun word => complain self ("invalid time interval " ++ Quoting.word word)
      hint self
      finish 1

end Interop.Shell.Program
