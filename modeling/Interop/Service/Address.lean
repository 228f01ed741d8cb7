import Interop.Text.Blank

/-!
# Addresses of hosts

A host is written as a number of 32 bits in up to four parts, as a number of 128 bits in groups
of hexadecimal digits, or as a name.  Numbers stand for themselves; of the names only those of
the local host are known, and all others would have to be looked up.
-/

namespace Interop

inductive HostAddress
  | short (value : Nat)
  | long (groups : List Nat)
  deriving DecidableEq, Repr, Inhabited

namespace HostAddress

/-! ## Digits -/

def digit? (base : Nat) (c : Char) : Option Nat :=
  let value :=
    if c.isDigit then c.toNat - '0'.toNat
    else if 'a' ≤ c ∧ c ≤ 'f' then c.toNat - 'a'.toNat + 10
    else if 'A' ≤ c ∧ c ≤ 'F' then c.toNat - 'A'.toNat + 10
    else base
  if value < base then some value else none

/-- The value of some digits; there is at least one. -/
def digits? (base : Nat) (cs : List Char) : Option Nat :=
  if cs.isEmpty then none
  else cs.foldl (fun n? c => n?.bind fun n => (digit? base c).map fun d => base * n + d) (some 0)

/-! ## Numbers of 32 bits -/

/-- A part of a number; its beginning tells the base. -/
def part? (cs : List Char) : Option Nat :=
  match cs with
  | '0' :: 'x' :: rest | '0' :: 'X' :: rest => digits? 16 rest
  | '0' :: c :: rest => digits? 8 (c :: rest)
  | cs => digits? 10 cs

/-- The number of some parts: each but the last is one byte, and the last takes all that is
left. -/
def join? (value room : Nat) : List Nat → Option Nat
  | [] => none
  | [last] => if last < room then some (value * room + last) else none
  | part :: rest => if part < 256 then join? (value * 256 + part) (room / 256) rest else none

def short? (text : String) : Option Nat :=
  let parts := (text.splitOn ".").map String.toList
  if 4 < parts.length then none else (parts.mapM part?).bind (join? 0 4294967296)

def octet? (cs : List Char) : Option Nat :=
  match cs with
  | '0' :: _ :: _ => none
  | cs => if cs.length ≤ 3 then (digits? 10 cs).filter (· < 256) else none

def octets? (text : String) : Option (List Nat) :=
  match ((text.splitOn ".").map String.toList).mapM octet? with
  | some [a, b, c, d] => some [256 * a + b, 256 * c + d]
  | _ => none

/-! ## Numbers of 128 bits -/

def group? (text : String) : Option (List Nat) :=
  if 4 < text.length then none else (digits? 16 text.toList).map fun n => [n]

/-- Groups with colons between them; four bytes may stand at their end. -/
def groups? (isEnd : Bool) (text : String) : Option (List Nat) :=
  if text.isEmpty then some []
  else
    let parts := text.splitOn ":"
    let last (part : String) : Option (List Nat) :=
      if isEnd && part.toList.contains '.' then octets? part else group? part
    match parts.dropLast.mapM group?, last (parts.getLast?.getD "") with
    | some lead, some last => some (lead.flatten ++ last)
    | _, _ => none

/-- Eight groups; two colons stand for one or more groups of zeros. -/
def long? (text : String) : Option (List Nat) :=
  match text.splitOn "::" with
  | [whole] => (groups? true whole).filter fun groups => groups.length == 8
  | [lead, rest] =>
    match groups? false lead, groups? true rest with
    | some lead, some rest =>
      if lead.length + rest.length < 8 then
        some (lead ++ List.replicate (8 - (lead.length + rest.length)) 0 ++ rest)
      else none
    | _, _ => none
  | _ => none

/-- Whether an address means something on its link only. -/
def isLinkLocal (groups : List Nat) : Bool :=
  match groups with
  | first :: _ => first / 64 == 0xFE80 / 64 || (first / 256 == 0xFF && first % 16 == 2)
  | [] => false

/-- The name of the only link. -/
def loopbackLink : String := "lo"

def isLinkNumber (link : String) : Bool := (digits? 10 link.toList).any (· < 4294967296)

def isLink (groups : List Nat) (link : String) : Bool :=
  isLinkNumber link || (isLinkLocal groups && link == loopbackLink)

def linked? (accepts : List Nat → String → Bool) (text : String) : Option (List Nat) :=
  let address := text.toList.takeWhile (· != '%')
  match long? (String.ofList address), text.toList.drop address.length with
  | some groups, [] => some groups
  | some groups, _ :: link => if accepts groups (String.ofList link) then some groups else none
  | none, _ => none

def ofText? (text : String) : Option HostAddress :=
  match short? text with
  | some value => some (.short value)
  | none => (linked? isLink text).map .long

/-! ## Names -/

def localNames : List String := ["localhost"]

def maxLabel : Nat := 63

def maxHostName : Nat := 253

def isNameChar (c : Char) : Bool := c.isAlphanum || c == '-' || c == '_'

def isHostName (text : String) : Bool :=
  let whole := if text.endsWith "." then (text.dropEnd 1).toString else text
  text == "." ||
    (!text.startsWith "-" && whole.length ≤ maxHostName &&
      (whole.splitOn ".").all fun label =>
        !label.isEmpty && label.length ≤ maxLabel && label.all isNameChar)

def isLocalName (text : String) : Bool :=
  localNames.contains (text.map Char.toLower) || text == "*"

/-! ## The local host -/

def isLocal : HostAddress → Bool
  | .short value => value == 0 || value == 2130706433
  | .long groups =>
    groups == [0, 0, 0, 0, 0, 0xFFFF, 0x7F00, 1] || groups == [0, 0, 0, 0, 0, 0xFFFF, 0, 0]

end HostAddress

end Interop
