import Interop.Shell.Glob

/-!
# Regular expressions

Basic and extended regular expressions, as programs that search lines know them.  Of all
matches that begin at the first place possible the longest one counts.
-/

namespace Interop.Shell

inductive Regex
  | empty
  | any
  | char (c : Char)
  | bracket (negated : Bool) (items : List BracketItem)
  | lineStart
  | lineEnd
  | sequence (a b : Regex)
  | choice (a b : Regex)
  /-- At least and at most so many times. -/
  | times (a : Regex) (low : Nat) (high : Option Nat)
  | group (number : Nat) (a : Regex)
  | back (number : Nat)
  deriving Repr, Inhabited

namespace Regex

/-! ## Reading -/

/-- What is known about the rest of a pattern: its characters and the number of groups. -/
structure Rest where
  chars : List Char
  groups : Nat

abbrev Parsing := StateT Rest (Except String)

def accept (text : String) : Parsing Bool := do
  let r ← get
  if text.toList.isPrefixOf r.chars then
    set { r with chars := r.chars.drop text.length }
    return true
  else return false

def interval (ending : String) : Parsing (Nat × Option Nat) := do
  let number : Parsing (Option Nat) := do
    let r ← get
    let digits := r.chars.takeWhile Char.isDigit
    set { r with chars := r.chars.drop digits.length }
    return (String.ofList digits).toNat?
  let low ← number
  if ← accept "," then
    let high ← number
    if ← accept ending then return (low.getD 0, high) else throw "Unmatched \x7b or \\\x7b"
  else if ← accept ending then return (low.getD 0, some (low.getD 0))
  else throw "Unmatched \x7b or \\\x7b"

def repeated (extended : Bool) : Nat → Regex → Parsing Regex
  | 0, e => return e
  | fuel + 1, e => do
    if ← accept "*" then repeated extended fuel (.times e 0 none)
    else if ← accept (if extended then "+" else "\\+") then
      repeated extended fuel (.times e 1 none)
    else if ← accept (if extended then "?" else "\\?") then
      repeated extended fuel (.times e 0 (some 1))
    else if ← accept (if extended then "\x7b" else "\\\x7b") then
      let (low, high) ← interval (if extended then "\x7d" else "\\\x7d")
      repeated extended fuel (.times e low high)
    else return e

def bracketed : Parsing Regex := do
  let r ← get
  let negated := r.chars.head? == some '^'
  let body := if negated then r.chars.drop 1 else r.chars
  let glyphs : List Glyph := body.map fun c => ⟨c, false⟩
  match Glob.items (glyphs.length + 1) true [] glyphs with
  | some (found, after) =>
    set { r with chars := after.map Glyph.char }
    return .bracket negated found
  | none => throw "Unmatched [, [^, [:, [., or [="

mutual

/-- One expression without what repeats it; nothing at the end of a branch. -/
def atom (extended : Bool) : Nat → Bool → Parsing (Option Regex)
  | 0, _ => return none
  | fuel + 1, first => do
    let openText := if extended then "(" else "\\("
    let closeText := if extended then ")" else "\\)"
    let barText := if extended then "|" else "\\|"
    let r ← get
    if r.chars.isEmpty || barText.toList.isPrefixOf r.chars then return none
    else if closeText.toList.isPrefixOf r.chars then return none
    else if ← accept openText then
      let number := (← get).groups + 1
      modify fun r => { r with groups := number }
      let e ← branches extended fuel
      if ← accept closeText then return some (.group number e)
      else throw "Unmatched ( or \\("
    else if ← accept "[" then return some (← bracketed)
    else if ← accept "." then return some .any
    else if (extended || first) && r.chars.head? == some '^' then
      let _ ← accept "^"
      return some .lineStart
    else if r.chars.head? == some '$' &&
        (extended || r.chars.length == 1 || closeText.toList.isPrefixOf (r.chars.drop 1) ||
          barText.toList.isPrefixOf (r.chars.drop 1)) then
      let _ ← accept "$"
      return some .lineEnd
    else
      match r.chars with
      | '\\' :: c :: rest =>
        set { r with chars := rest }
        if c.isDigit && c != '0' then return some (.back (c.toNat - '0'.toNat))
        else if c == 'n' then return some (.char '\n')
        else if c == 't' then return some (.char '\t')
        else if c == 'w' then
          return some (.bracket false [.kind "alnum", .span '_' '_'])
        else if c == 's' then return some (.bracket false [.kind "space"])
        else return some (.char c)
      | ['\\'] => throw "Trailing backslash"
      | c :: rest =>
        set { r with chars := rest }
        return some (.char c)
      | [] => return none

def branch (extended : Bool) : Nat → Bool → Regex → Parsing Regex
  | 0, _, e => return e
  | fuel + 1, first, e => do
    match ← atom extended fuel first with
    | none => return e
    | some a =>
      let a ← match a with
        | .lineStart => if extended then pure a else pure a
        | a => repeated extended fuel a
      branch extended fuel false (match e with
        | .empty => a
        | e => .sequence e a)

def branches (extended : Bool) : Nat → Parsing Regex
  | 0 => return .empty
  | fuel + 1 => do
    let e ← branch extended fuel true .empty
    if ← accept (if extended then "|" else "\\|") then
      return .choice e (← branches extended fuel)
    else return e

end

def parse (extended : Bool) (text : String) : Except String Regex := do
  let (e, rest) ← (branches extended (3 * text.length + 3)).run ⟨text.toList, 0⟩
  if rest.chars.isEmpty then return e else throw "Unmatched ) or \\)"

/-! ## Matching -/

abbrev Captures := List (Nat × Nat × Nat)

structure Line where
  chars : Array Char
  ignoreCase : Bool

def sameChar (ignoreCase : Bool) (a b : Char) : Bool :=
  a == b || (ignoreCase && a.toLower == b.toLower)

def capture? (caps : Captures) (number : Nat) : Option (Nat × Nat) :=
  (caps.find? fun entry => entry.1 == number).map Prod.snd

/-- Repeats something as long as it gets on. -/
def iterate (step : Nat × Captures → List (Nat × Captures)) :
    Nat → Nat → Option Nat → Nat × Captures → List (Nat × Captures)
  | 0, _, _, state => [state]
  | fuel + 1, low, high, state =>
    let more :=
      if high == some 0 then []
      else
        (step state).flatMap fun next =>
          if next.1 == state.1 && low == 0 then []
          else iterate step fuel (low - 1) (high.map (· - 1)) next
    if low == 0 then more ++ [state] else more

def ends (line : Line) : Regex → Nat × Captures → List (Nat × Captures)
  | .empty, state => [state]
  | .any, (at', caps) => if at' < line.chars.size then [(at' + 1, caps)] else []
  | .char c, (at', caps) =>
    match line.chars[at']? with
    | some d => if sameChar line.ignoreCase c d then [(at' + 1, caps)] else []
    | none => []
  | .bracket negated items, (at', caps) =>
    match line.chars[at']? with
    | some c =>
      let found := items.any (Glob.itemFits c) ||
        (line.ignoreCase &&
          (items.any (Glob.itemFits c.toLower) || items.any (Glob.itemFits c.toUpper)))
      if found != negated then [(at' + 1, caps)] else []
    | none => []
  | .lineStart, (at', caps) => if at' == 0 then [(at', caps)] else []
  | .lineEnd, (at', caps) => if at' == line.chars.size then [(at', caps)] else []
  | .sequence a b, state => (ends line a state).flatMap fun next => ends line b next
  | .choice a b, state => ends line a state ++ ends line b state
  | .times a low high, state => iterate (ends line a) (line.chars.size + low + 2) low high state
  | .group number a, (at', caps) =>
    (ends line a (at', caps)).map fun (stop, caps) => (stop, (number, at', stop) :: caps)
  | .back number, (at', caps) =>
    match capture? caps number with
    | none => []
    | some (start, stop) =>
      let piece := (line.chars.extract start stop).toList
      let here := (line.chars.extract at' (at' + piece.length)).toList
      if piece.length == here.length &&
          (piece.zip here).all fun (a, b) => sameChar line.ignoreCase a b then
        [(at' + piece.length, caps)]
      else []

/-- The longest of some matches; of equally long ones the first. -/
def longest (found : List (Nat × Captures)) : Option (Nat × Captures) :=
  found.foldl
    (fun best next =>
      match best with
      | some b => if b.1 < next.1 then some next else best
      | none => some next)
    none

def matchAt? (e : Regex) (line : Line) (start : Nat) : Option (Nat × Captures) :=
  longest (ends line e (start, []))

/-- The first match from a place on: its beginning, its end and its groups. -/
def search? (e : Regex) (line : Line) (start : Nat) : Option (Nat × Nat × Captures) :=
  ((List.range (line.chars.size + 1 - start)).map (· + start)).findSome? fun place =>
    (e.matchAt? line place).map fun (stop, caps) => (place, stop, caps)

def lineOf (text : String) (ignoreCase : Bool) : Line := ⟨text.toList.toArray, ignoreCase⟩

end Regex

end Interop.Shell
