import Interop.Text.Quoted

/-!
# JSON values

Fields of an object keep their order.  The pretty text indents by two spaces and puts every
item and field on a line of its own; the compact text has no blanks.
-/

namespace Interop

inductive Json
  | null
  | bool (value : Bool)
  | nat (value : Nat)
  | number (text : String)
  | str (text : String)
  | arr (items : List Json)
  | obj (fields : List (String × Json))
  deriving Repr, Inhabited

namespace Json

/-! ## Strings -/

def hexPair (n : Nat) : List Char := [Nat.digitChar (n / 16), Nat.digitChar (n % 16)]

def escapeChar (c : Char) : List Char :=
  match c with
  | '"' => ['\\', '"']
  | '\\' => ['\\', '\\']
  | '\x08' => ['\\', 'b']
  | '\x0c' => ['\\', 'f']
  | '\n' => ['\\', 'n']
  | '\r' => ['\\', 'r']
  | '\t' => ['\\', 't']
  | c => if c.toNat < 0x20 then ['\\', 'u', '0', '0'] ++ hexPair c.toNat else [c]

def stringChars (s : String) : List Char := '"' :: s.toList.flatMap escapeChar ++ ['"']

/-! ## Texts -/

def lineBreak (depth : Nat) : List Char := '\n' :: List.replicate (2 * depth) ' '

mutual

def prettyChars (depth : Nat) : Json → List Char
  | .null => "null".toList
  | .bool value => (if value then "true" else "false").toList
  | .nat value => (toString value).toList
  | .number text => text.toList
  | .str text => stringChars text
  | .arr [] => ['[', ']']
  | .arr (item :: items) =>
    '[' :: (lineBreak (depth + 1) ++ prettyChars (depth + 1) item ++
      prettyItems (depth + 1) items ++ lineBreak depth ++ [']'])
  | .obj [] => ['\x7b', '\x7d']
  | .obj ((key, value) :: fields) =>
    '\x7b' :: (lineBreak (depth + 1) ++ stringChars key ++ [':', ' '] ++
      prettyChars (depth + 1) value ++ prettyFields (depth + 1) fields ++
      lineBreak depth ++ ['\x7d'])

def prettyItems (depth : Nat) : List Json → List Char
  | [] => []
  | item :: items =>
    ',' :: (lineBreak depth ++ prettyChars depth item ++ prettyItems depth items)

def prettyFields (depth : Nat) : List (String × Json) → List Char
  | [] => []
  | (key, value) :: fields =>
    ',' :: (lineBreak depth ++ stringChars key ++ [':', ' '] ++ prettyChars depth value ++
      prettyFields depth fields)

end

def pretty (value : Json) : String := String.ofList (prettyChars 0 value)

mutual

def compactChars : Json → List Char
  | .null => "null".toList
  | .bool value => (if value then "true" else "false").toList
  | .nat value => (toString value).toList
  | .number text => text.toList
  | .str text => stringChars text
  | .arr [] => ['[', ']']
  | .arr (item :: items) => '[' :: (compactChars item ++ compactItems items ++ [']'])
  | .obj [] => ['\x7b', '\x7d']
  | .obj ((key, value) :: fields) =>
    '\x7b' :: (stringChars key ++ [':'] ++ compactChars value ++ compactFields fields ++
      ['\x7d'])

def compactItems : List Json → List Char
  | [] => []
  | item :: items => ',' :: (compactChars item ++ compactItems items)

def compactFields : List (String × Json) → List Char
  | [] => []
  | (key, value) :: fields =>
    ',' :: (stringChars key ++ [':'] ++ compactChars value ++ compactFields fields)

end

def compact (value : Json) : String := String.ofList (compactChars value)

/-! ## Reading parts -/

def field? (fields : List (String × Json)) (key : String) : Option Json :=
  (fields.find? fun field => field.1 == key).map Prod.snd

/-- The fields of a structure, unless one of its names is given again. -/
def members? (names : List String) (fields : List (String × Json)) :
    Option (String → Option Json) :=
  if names.all fun name => fields.countP (fun field => field.1 == name) ≤ 1 then
    some (field? fields)
  else none

def text? : Json → Option String
  | .str text => some text
  | _ => none

def natBelow? (bound : Nat) : Json → Option Nat
  | .nat value => if value < bound then some value else none
  | _ => none

def word? (value : Json) : Option Nat := natBelow? 18446744073709551616 value

def optional? {α : Type} (read : Json → Option α) : Option Json → Option (Option α)
  | none => some none
  | some .null => some none
  | some value => (read value).map some

def list? {α : Type} (read : Json → Option α) : Json → Option (List α)
  | .arr items => items.mapM read
  | _ => none

/-- The name of a constant: its text, or an object of that one name with a null value. -/
def constant? : Json → Option String
  | .str name => some name
  | .obj [(name, .null)] => some name
  | _ => none

def ofOption {α : Type} (write : α → Json) : Option α → Json
  | none => .null
  | some a => write a

end Json

end Interop
