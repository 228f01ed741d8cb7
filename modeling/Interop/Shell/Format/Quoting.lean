import Interop.Shell.Format.Escape

/-!
# Quoting in messages of programs

Programs quote what they complain about: words between typographic quotation marks, names of
files as a shell would read them.
-/

namespace Interop.Shell.Quoting

/-! ## Words -/

def controlLetters : List (Char × Char) :=
  [('\x07', 'a'), ('\x08', 'b'), ('\x0c', 'f'), ('\n', 'n'), ('\r', 'r'), ('\t', 't'),
    ('\x0b', 'v')]

def octalText (n : Nat) : String :=
  let digits := String.ofList (Nat.toDigits 8 n)
  String.ofList (List.replicate (3 - digits.length) '0') ++ digits

def escapeControl (c : Char) : String :=
  match controlLetters.find? fun entry => entry.1 == c with
  | some (_, letter) => "\\" ++ letter.toString
  | none => "\\" ++ octalText c.toNat

def isControl (c : Char) : Bool := c.toNat < 32 || c.toNat == 127

def word (octets : String) : String :=
  let escape (c : Char) : String :=
    if c == '\\' then "\\\\" else if isControl c then escapeControl c else c.toString
  Text.octets "‘" ++ String.join (octets.toList.map escape) ++ Text.octets "’"

/-! ## Names of files -/

def isUnsafe (c : Char) : Bool := " !\"$&'()*;<=>?[\\^\x60|".toList.contains c || isControl c

def isUnsafeFirst (c : Char) : Bool := c == '#' || c == '~'

def segments : List Char → Bool → String → String
  | [], inControl, done => done ++ (if inControl then "'" else "'")
  | c :: cs, inControl, done =>
    if isControl c then
      segments cs true (done ++ (if inControl then "" else "'$'") ++ escapeControl c)
    else
      let text := if c == '\'' then "'\\''" else c.toString
      segments cs false (done ++ (if inControl then "''" else "") ++ text)

def always (name : String) : String :=
  let cs := name.toList
  if cs.any isControl then segments cs false "'"
  else if cs.contains '\'' && !cs.any fun c => "\"$\x60\\!".toList.contains c then
    "\"" ++ name ++ "\""
  else "'" ++ String.join (cs.map fun c => if c == '\'' then "'\\''" else c.toString) ++ "'"

/-- A name, between quotes only if it must be. -/
def whenUnsafe (name : String) : String :=
  if name.isEmpty || name.toList.any isUnsafe || name.toList.head?.any isUnsafeFirst then
    always name
  else name

def beforeColon (name : String) : String :=
  if name.toList.contains ':' then always name else whenUnsafe name

end Interop.Shell.Quoting
