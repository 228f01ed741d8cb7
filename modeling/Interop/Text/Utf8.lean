/-!
# UTF-8

Text as bytes and back.  Bytes that are no text are read leniently with a replacement
character for every part that begins like a character and breaks off.
-/

namespace Interop.Text

abbrev Bytes := List UInt8

def encode (text : String) : Bytes := text.toList.flatMap String.utf8EncodeChar

/-- What some bytes begin with: a character or the part of one, with its length. -/
inductive Piece
  | whole (c : Char) (length : Nat)
  | broken (length : Nat)
  deriving DecidableEq, Repr

abbrev ByteRange := Nat × Nat

def anyTail : ByteRange := (0x80, 0xBF)

def leadByte? (lead : Nat) : Option (Nat × List ByteRange) :=
  if lead < 0x80 then some (lead, [])
  else if lead < 0xC2 then none
  else if lead < 0xE0 then some (lead - 0xC0, [anyTail])
  else if lead < 0xF0 then
    some (lead - 0xE0,
      [(if lead = 0xE0 then 0xA0 else 0x80, if lead = 0xED then 0x9F else 0xBF), anyTail])
  else if lead < 0xF5 then
    some (lead - 0xF0,
      [(if lead = 0xF0 then 0x90 else 0x80, if lead = 0xF4 then 0x8F else 0xBF), anyTail,
        anyTail])
  else none

def readTail (value length : Nat) : List ByteRange → Bytes → Piece
  | [], _ => .whole (Char.ofNat value) length
  | (low, high) :: ranges, b :: bytes =>
    if low ≤ b.toNat ∧ b.toNat ≤ high then
      readTail (64 * value + (b.toNat - 0x80)) (length + 1) ranges bytes
    else .broken length
  | _ :: _, [] => .broken length

def firstPiece (lead : UInt8) (rest : Bytes) : Piece :=
  match leadByte? lead.toNat with
  | some (value, ranges) => readTail value 1 ranges rest
  | none => .broken 1

/-- The characters of some bytes, and nothing for each broken part.  The first `skip` bytes
belong to a piece that is already read. -/
def piecesFrom (skip : Nat) : Bytes → List (Option Char)
  | [] => []
  | b :: bytes =>
    if skip > 0 then piecesFrom (skip - 1) bytes
    else
      match firstPiece b bytes with
      | .whole c length => some c :: piecesFrom (length - 1) bytes
      | .broken length => none :: piecesFrom (length - 1) bytes

def decode? (bytes : Bytes) : Option String :=
  ((piecesFrom 0 bytes).mapM id).map String.ofList

def replacement : Char := '\uFFFD'

def decodeLenient (bytes : Bytes) : String :=
  String.ofList ((piecesFrom 0 bytes).map fun c => c.getD replacement)

end Interop.Text
