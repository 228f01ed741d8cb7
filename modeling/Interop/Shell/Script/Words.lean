import Interop.Shell.Script.Source

/-!
# Reading words

Words are read character by character.  What a character means depends on the zone it is in.
Scripts inside words are read by the reader of scripts.
-/

namespace Interop.Shell

inductive Zone
  /-- Outside of all quotes: a word that ends before a blank or an operator. -/
  | bare
  | quoted
  | operand (quoted : Bool)
  | document
  | expression (depth : Nat)
  deriving DecidableEq, Repr

namespace Zone

def isQuoted : Zone → Bool
  | .bare => false
  | .operand within => within
  | _ => true

def escapes (zone : Zone) (c : Char) : Bool :=
  match zone with
  | .bare | .operand false => true
  | .quoted => "$\x60\"\\".toList.contains c
  | .operand true => "$\x60\"\\\x7d".toList.contains c
  | .document | .expression _ => "$\x60\\".toList.contains c

end Zone

def endsWord (c : Char) : Bool := isBlank c || "\n;&|<>()".toList.contains c

namespace Reading

/-! ## Names of parameters -/

def joinLines : Nat → Reading Unit
  | 0 => return ()
  | fuel + 1 => do if ← accept "\\\n" then joinLines fuel

def runOf (kind : Char → Bool) : Reading String := do
  let cs ← many do
    joinLines (← bound)
    match ← peek? with
    | some c => if kind c then skip; return some c else return none
    | none => return none
  return String.ofList cs

def simpleName? : Reading (Option String) := do
  match ← peek? with
  | none => return none
  | some c =>
    if isNameStart c then return some (← runOf isNamePart)
    else if c.isDigit || isSpecial c then
      skip
      return some c.toString
    else return none

def modifier : Reading Modifier := do
  if ← accept "##" then return .dropLead true
  else if ← accept "#" then return .dropLead false
  else if ← accept "%%" then return .dropEnd true
  else if ← accept "%" then return .dropEnd false
  else
    let forEmpty ← accept ":"
    if ← accept "-" then return .orElse forEmpty
    else if ← accept "=" then return .orAssign forEmpty
    else if ← accept "?" then return .orFail forEmpty
    else if ← accept "+" then return .ifSet forEmpty
    else if !forEmpty && (← peek?) == some '\x7d' then return .plain
    else return .meaningless

def braceHead : Reading (String × Modifier) := do
  match ← peek? with
  | none => return ("", .meaningless)
  | some c =>
    if isNameStart c then
      let name ← runOf isNamePart
      return (name, ← modifier)
    else if c.isDigit then
      let name ← runOf Char.isDigit
      return (name, ← modifier)
    else if c == '#' then
      skip
      match ← peek? with
      | none => return ("#", .plain)
      | some d =>
        if d.isAlphanum || d == '_' then
          let name ← runOf (if d.isDigit then Char.isDigit else isNamePart)
          if (← peek?) == some '\x7d' then return (name, .length)
          else return (name, .meaningless)
        else
          let s ← get
          match s.rest with
          | special :: '\x7d' :: _ =>
            if isSpecial special then
              skip
              return (special.toString, .length)
            else return ("#", ← modifier)
          | _ => return ("#", ← modifier)
    else if isSpecial c then
      skip
      return (c.toString, ← modifier)
    else return ("", .meaningless)

/-! ## Old-style commands -/

/-- The script between backquotes; the first one was skipped. -/
def backquoted (quoted : Bool) : Nat → List Char → Reading String
  | 0, _ => fail .openBackquote
  | fuel + 1, done => do
    match ← next? with
    | none => fail .openBackquote
    | some '\x60' => return String.ofList done.reverse
    | some '\\' =>
      match ← peek? with
      | none => backquoted quoted fuel ('\\' :: done)
      | some c =>
        if c == '\n' then
          skip
          backquoted quoted fuel done
        else if c == '\\' || c == '$' || c == '\x60' || (quoted && c == '"') then
          skip
          backquoted quoted fuel (c :: done)
        else backquoted quoted fuel ('\\' :: done)
    | some c => backquoted quoted fuel (c :: done)

/-! ## Words -/

def singleQuoted : Reading String := do
  let text ← many do
    match ← next? with
    | none => fail .openQuote
    | some '\'' => return none
    | some c => return some c
  return String.ofList text

/-- What reads the scripts inside words: one up to a closing parenthesis, and one that is given
as a text. -/
structure Nested where
  parenthesized : Reading Script
  whole : String → Reading Script

/-- Reads the parts of a word; `parts` are those already read, last first. -/
def parts (nested : Nested) : Nat → Zone → Word → Reading Word
  | 0, _, done => return done
  | fuel + 1, zone, done => do
    match ← peek? with
    | none =>
      match zone with
      | .bare | .document => return done
      | .quoted => fail .openQuote
      | .operand _ => fail .openBrace
      | .expression _ => fail .openExpression
    | some c =>
      if zone == .bare && endsWord c then return done
      skip
      let goOn := parts nested fuel zone
      match c with
      | '\\' =>
        match ← peek? with
        | none => goOn (addText "\\" true done)
        | some '\n' =>
          skip
          goOn done
        | some d =>
          if zone.escapes d then
            skip
            goOn (addText d.toString true done)
          else goOn (addText "\\" true done)
      | '$' =>
        match ← peek? with
        | some '(' =>
          skip
          if ← accept "(" then
            let expression ← parts nested fuel (.expression 0) []
            goOn (.arithmetic expression.reverse zone.isQuoted :: done)
          else
            let script ← nested.parenthesized
            goOn (.command script zone.isQuoted :: done)
        | some '\x7b' =>
          skip
          let (name, modifier) ← braceHead
          let inner := match modifier with
            | .dropLead _ | .dropEnd _ => false
            | _ => zone.isQuoted
          let operand ← parts nested fuel (.operand inner) []
          goOn (.parameter name modifier operand.reverse zone.isQuoted :: done)
        | _ =>
          match ← simpleName? with
          | some name => goOn (.parameter name .plain [] zone.isQuoted :: done)
          | none => goOn (addText "$" zone.isQuoted done)
      | '\x60' =>
        let text ← backquoted zone.isQuoted (← bound) []
        let script ← nested.whole text
        goOn (.command script zone.isQuoted :: done)
      | '"' =>
        match zone with
        | .quoted => return done
        | .bare | .operand false =>
          goOn (← parts nested fuel .quoted (addText "" true done))
        | .operand true => goOn done
        | .expression _ | .document => goOn (addText "\"" true done)
      | '\'' =>
        match zone with
        | .bare | .operand false => goOn (addText (← singleQuoted) true done)
        | _ => goOn (addText "'" true done)
      | '\x7d' =>
        match zone with
        | .operand _ => return done
        | _ => goOn (addText "\x7d" zone.isQuoted done)
      | '(' =>
        match zone with
        | .expression depth =>
          parts nested fuel (.expression (depth + 1)) (addText "(" true done)
        | _ => goOn (addText "(" zone.isQuoted done)
      | ')' =>
        match zone with
        | .expression 0 =>
          if ← accept ")" then return done else goOn (addText ")" true done)
        | .expression (depth + 1) =>
          parts nested fuel (.expression depth) (addText ")" true done)
        | _ => goOn (addText ")" zone.isQuoted done)
      | c => goOn (addText c.toString zone.isQuoted done)

def wordIn (nested : Nested) (zone : Zone) : Reading Word := do
  return (← parts nested (← bound) zone []).reverse

end Reading

end Interop.Shell
