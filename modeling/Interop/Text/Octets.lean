import Interop.Text.Utf8

/-!
# Octet texts

An octet text is a text whose characters stand for bytes, so that what is no text in any
encoding can be handled like one.
-/

namespace Interop.Text

def ofOctet (b : UInt8) : Char := Char.ofNat b.toNat

def ofBytes (bytes : Bytes) : String := String.ofList (bytes.map ofOctet)

def toBytes (octets : String) : Bytes := octets.toList.map fun c => UInt8.ofNat c.toNat

def octets (text : String) : String := ofBytes (encode text)

def characterCount (octets : String) : Nat :=
  (octets.toList.filter fun c => c.toNat / 64 != 2).length

end Interop.Text
