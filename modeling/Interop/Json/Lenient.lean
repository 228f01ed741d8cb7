import Interop.Json
import Interop.Span

/-!
# Lenient reading

Parts of a JSON value with a default for everything that is missing or of another kind: no
items, no fields, zero, the empty text, false.
-/

namespace Interop.Json

/-- The field of that name; null when there is none. -/
def get (value : Json) (key : String) : Json :=
  match value with
  | .obj fields => (field? fields key).getD .null
  | _ => .null

def has (value : Json) (key : String) : Bool :=
  match value with
  | .obj fields => (field? fields key).isSome
  | _ => false

def items : Json → List Json
  | .arr items => items
  | _ => []

def item (value : Json) (index : Nat) : Json := value.items.getD index .null

def nat? : Json → Option Nat
  | .nat value => some value
  | _ => none

def toNat (value : Json) : Nat := value.nat?.getD 0

def toText (value : Json) : String := value.text?.getD ""

def toFlag : Json → Bool
  | .bool value => value
  | _ => false

def isNull : Json → Bool
  | .null => true
  | _ => false

def natAt (value : Json) (key : String) : Nat := (value.get key).toNat

def textAt (value : Json) (key : String) : String := (value.get key).toText

def flagAt (value : Json) (key : String) : Bool := (value.get key).toFlag

def itemsAt (value : Json) (key : String) : List Json := (value.get key).items

def textsAt (value : Json) (key : String) : List String := (value.itemsAt key).map toText

/-- A span: milliseconds, or seconds and nanoseconds. -/
def span? : Json → Option Span
  | .nat millis => some (.ofMillis millis)
  | .arr parts => some (.ofParts (parts.getD 0 .null).toNat (parts.getD 1 .null).toNat)
  | _ => none

def toSpan (value : Json) : Span := value.span?.getD .zero

def spanAt (value : Json) (key : String) : Span := (value.get key).toSpan

end Interop.Json
