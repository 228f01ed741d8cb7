/-!
# Patterns

A pattern is compared with a whole text.  A star stands for any characters, a question mark for
one, and brackets for one of those that they name.  Characters that were quoted stand for
themselves.
-/

namespace Interop.Shell

structure Glyph where
  char : Char
  quoted : Bool
  deriving DecidableEq, Repr, Inhabited

def Glyph.isBare (g : Glyph) (c : Char) : Bool := !g.quoted && g.char == c

inductive BracketItem
  | span (low high : Char)
  | kind (name : String)
  deriving DecidableEq, Repr

inductive GlobPiece
  | many
  | one
  | char (c : Char)
  | bracket (negated : Bool) (items : List BracketItem)
  deriving DecidableEq, Repr

abbrev Glob := List GlobPiece

namespace Glob

/-! ## Brackets -/

def isOfKind (name : String) (c : Char) : Bool :=
  match name with
  | "alpha" => c.isAlpha
  | "digit" => c.isDigit
  | "alnum" => c.isAlphanum
  | "upper" => c.isUpper
  | "lower" => c.isLower
  | "space" => c == ' ' || (9 ≤ c.toNat && c.toNat ≤ 13)
  | "blank" => c == ' ' || c == '\t'
  | "punct" => 33 ≤ c.toNat && c.toNat < 127 && !c.isAlphanum
  | "cntrl" => c.toNat < 32 || c.toNat == 127
  | "graph" => 33 ≤ c.toNat && c.toNat < 127
  | "print" => 32 ≤ c.toNat && c.toNat < 127
  | "xdigit" => c.isDigit || ('a' ≤ c && c ≤ 'f') || ('A' ≤ c && c ≤ 'F')
  | _ => false

def itemFits (c : Char) : BracketItem → Bool
  | .span low high => low ≤ c && c ≤ high
  | .kind name => isOfKind name c

def kindName? (gs : List Glyph) : Option (String × List Glyph) :=
  let name := gs.takeWhile fun g => g.char.isAlpha
  match gs.drop name.length with
  | colon :: close :: rest =>
    if colon.char == ':' && close.char == ']' then
      some (String.ofList (name.map Glyph.char), rest)
    else none
  | _ => none

/-- The items up to the closing bracket, with the rest after it.  A bracket that comes first
stands for itself. -/
def items : Nat → Bool → List BracketItem → List Glyph →
    Option (List BracketItem × List Glyph)
  | 0, _, _, _ => none
  | _ + 1, _, _, [] => none
  | fuel + 1, first, done, g :: rest =>
    if g.isBare ']' && !first then some (done.reverse, rest)
    else
      let single (_ : Unit) :=
        match rest with
        | dash :: high :: after =>
          if dash.isBare '-' && !high.isBare ']' then
            items fuel false (.span g.char high.char :: done) after
          else items fuel false (.span g.char g.char :: done) rest
        | _ => items fuel false (.span g.char g.char :: done) rest
      match rest with
      | colon :: after =>
        if g.isBare '[' && colon.isBare ':' then
          match kindName? after with
          | some (name, after) => items fuel false (.kind name :: done) after
          | none => single ()
        else single ()
      | [] => single ()

def bracket? (gs : List Glyph) : Option (GlobPiece × List Glyph) :=
  match gs with
  | g :: rest =>
    let negated := g.isBare '!'
    let body := if negated then rest else g :: rest
    (items (body.length + 1) true [] body).map fun (found, after) =>
      (.bracket negated found, after)
  | [] => none

/-! ## Reading -/

def piecesOf : Nat → List Glyph → Glob
  | 0, _ => []
  | _ + 1, [] => []
  | fuel + 1, g :: rest =>
    if g.isBare '*' then .many :: piecesOf fuel rest
    else if g.isBare '?' then .one :: piecesOf fuel rest
    else if g.isBare '[' then
      match bracket? rest with
      | some (piece, rest) => piece :: piecesOf fuel rest
      | none => .char '[' :: piecesOf fuel rest
    else if g.isBare '\\' then
      match rest with
      | next :: rest => .char next.char :: piecesOf fuel rest
      | [] => [.char '\\']
    else .char g.char :: piecesOf fuel rest

def ofGlyphs (gs : List Glyph) : Glob := piecesOf (gs.length + 1) gs

def isWild (gs : List Glyph) : Bool :=
  (ofGlyphs gs).any fun piece =>
    match piece with
    | .char _ => false
    | _ => true

/-! ## Matching -/

def pieceFits (c : Char) : GlobPiece → Bool
  | .many | .one => true
  | .char d => c == d
  | .bracket negated found => found.any (itemFits c) != negated

def fitsSomeRest (fitsRest : List Char → Bool) : List Char → Bool
  | [] => fitsRest []
  | c :: cs => fitsRest (c :: cs) || fitsSomeRest fitsRest cs

def fits : Glob → List Char → Bool
  | [], cs => cs.isEmpty
  | .many :: ps, cs => fitsSomeRest (fits ps) cs
  | _ :: _, [] => false
  | p :: ps, c :: cs => pieceFits c p && fits ps cs

def dropLead (p : Glob) (longest : Bool) (cs : List Char) : List Char :=
  let lengths := List.range (cs.length + 1)
  match (if longest then lengths.reverse else lengths).find? fun n => p.fits (cs.take n) with
  | some n => cs.drop n
  | none => cs

def dropEnd (p : Glob) (longest : Bool) (cs : List Char) : List Char :=
  let lengths := List.range (cs.length + 1)
  match (if longest then lengths else lengths.reverse).find? fun n => p.fits (cs.drop n) with
  | some n => cs.take n
  | none => cs

end Glob

end Interop.Shell
