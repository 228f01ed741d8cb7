import Interop.Text.Octets

/-!
# Escape sequences

A backslash begins a sequence that stands for another character.  Which sequences there are
depends on who reads them.
-/

namespace Interop.Shell

structure EscapeStyle where
  quote : Bool
  hex : Bool
  stop : Bool
  zeroLead : Bool
  deriving DecidableEq, Repr

namespace EscapeStyle

def shellFormat : EscapeStyle := ⟨false, false, false, false⟩

def shellArgument : EscapeStyle := ⟨false, false, true, true⟩

def programFormat : EscapeStyle := ⟨true, true, true, false⟩

def programArgument : EscapeStyle := ⟨true, true, true, true⟩

end EscapeStyle

structure Unescaped where
  text : List Char
  stops : Bool
  deriving DecidableEq, Repr

namespace Escape

def isOctal (c : Char) : Bool := '0' ≤ c && c ≤ '7'

def isHex (c : Char) : Bool := c.isDigit || ('a' ≤ c && c ≤ 'f') || ('A' ≤ c && c ≤ 'F')

def hexValue (c : Char) : Nat :=
  if c.isDigit then c.toNat - '0'.toNat
  else if 'a' ≤ c then c.toNat - 'a'.toNat + 10
  else c.toNat - 'A'.toNat + 10

def octalOf (digits : List Char) : Nat :=
  digits.foldl (fun n c => 8 * n + (c.toNat - '0'.toNat)) 0

def hexOf (digits : List Char) : Nat := digits.foldl (fun n c => 16 * n + hexValue c) 0

def octet (n : Nat) : Char := Char.ofNat (n % 256)

def letters : List (Char × Nat) :=
  [('\\', 92), ('a', 7), ('b', 8), ('e', 27), ('f', 12), ('n', 10), ('r', 13), ('t', 9),
    ('v', 11)]

def sequence (style : EscapeStyle) (cs : List Char) : List Char × Bool × List Char :=
  match cs with
  | [] => (['\\'], false, [])
  | c :: rest =>
    let body := if style.zeroLead && c == '0' && rest.head?.any isOctal then rest else cs
    let digits := (body.take 3).takeWhile isOctal
    if !digits.isEmpty then ([octet (octalOf digits)], false, body.drop digits.length)
    else if style.stop && c == 'c' then ([], true, [])
    else if style.quote && c == '"' then (['"'], false, rest)
    else
      let numbered (count : Nat) (decode : Nat → List Char) : List Char × Bool × List Char :=
        let digits := (rest.take count).takeWhile isHex
        if digits.isEmpty then (['\\', c], false, rest)
        else (decode (hexOf digits), false, rest.drop digits.length)
      let character (n : Nat) : List Char := (Text.octets (Char.ofNat n).toString).toList
      if style.hex && c == 'x' then numbered 2 fun n => [octet n]
      else if style.hex && c == 'u' then numbered 4 character
      else if style.hex && c == 'U' then numbered 8 character
      else
        match letters.find? fun entry => entry.1 == c with
        | some (_, n) => ([octet n], false, rest)
        | none => (['\\', c], false, rest)

def unescapeFrom (style : EscapeStyle) : Nat → List Char → List Char → Unescaped
  | 0, done, _ => ⟨done.reverse, false⟩
  | _ + 1, done, [] => ⟨done.reverse, false⟩
  | fuel + 1, done, '\\' :: cs =>
    match sequence style cs with
    | (out, true, _) => ⟨done.reverse ++ out, true⟩
    | (out, false, rest) => unescapeFrom style fuel (out.reverse ++ done) rest
  | fuel + 1, done, c :: cs => unescapeFrom style fuel (c :: done) cs

def unescape (style : EscapeStyle) (text : String) : Unescaped :=
  unescapeFrom style (text.length + 1) [] text.toList

end Escape

end Interop.Shell
