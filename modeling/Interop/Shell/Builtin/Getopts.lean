import Interop.Shell.Builtin.Basic

/-!
# Options of scripts

A script reads its options one after another.  Where it is, is kept from one call to the next:
the number of the next argument, and what was read of the one before it.
-/

namespace Interop.Shell.Builtin

def takesValue? (c : Char) : List Char → Option Bool
  | [] => none
  | q :: ':' :: rest => if q == c then some true else takesValue? c rest
  | q :: rest => if q == c then some false else takesValue? c rest

structure OptionRead where
  letter : Char
  /-- The value for the caller: none leaves it as it was. -/
  value : Option (Option String)
  complaint : Option String
  place : OptionPlace
  status : Nat

def noOption (next : Nat) : OptionRead := ⟨'?', none, none, ⟨next, none⟩, 1⟩

def lettersLeft (words : List String) (place : OptionPlace) : List Char :=
  match place.offset, words[place.next - 2]? with
  | some offset, some word => if place.next ≤ 1 then [] else word.toList.drop offset
  | _, _ => []

def readLetter (specs : List Char) (silent : Bool) (words : List String) (next : Nat) :
    List Char → OptionRead
  | [] => noOption next
  | c :: more =>
    let length := ((words[next - 2]?).getD "").length
    let goesOn : OptionPlace := ⟨next, some (length - more.length)⟩
    let wrong (letter : Char) (text : String) (place : OptionPlace) : OptionRead :=
      if silent then ⟨letter, some (some c.toString), none, place, 0⟩
      else ⟨'?', some none, some text, place, 0⟩
    match takesValue? c specs with
    | none => wrong '?' ("Illegal option -" ++ c.toString) goesOn
    | some false => ⟨c, some (some ""), none, goesOn, 0⟩
    | some true =>
      if !more.isEmpty then ⟨c, some (some (String.ofList more)), none, ⟨next, none⟩, 0⟩
      else
        match words[next - 1]? with
        | some value => ⟨c, some (some value), none, ⟨next + 1, none⟩, 0⟩
        | none => wrong ':' ("No arg for -" ++ c.toString ++ " option") ⟨next, none⟩

def readOption (letters : String) (words : List String) (place : OptionPlace) : OptionRead :=
  let silent := letters.startsWith ":"
  let specs := if silent then letters.toList.drop 1 else letters.toList
  let place := if words.length + 1 < place.next then .beginning else place
  match lettersLeft words place with
  | [] =>
    match words[place.next - 1]?.map String.toList with
    | some ['-', '-'] => noOption (place.next + 1)
    | some ('-' :: c :: cs) => readLetter specs silent words (place.next + 1) (c :: cs)
    | _ => noOption place.next
  | cs => readLetter specs silent words place.next cs

def getopts : Builtin := fun args => do
  match args with
  | letters :: name :: rest =>
    let s ← get
    let words := if rest.isEmpty then s.args else rest
    let read := readOption letters words s.optionPlace
    match read.complaint with
    | some text => Act.complainRaw (text ++ "\n")
    | none => pure ()
    match read.value with
    | some (some value) => Act.assign "OPTARG" value
    | some none =>
      modify fun s => { s with bindings := s.bindings.filter fun v => v.name != "OPTARG" }
    | none => pure ()
    Act.putValue "OPTIND" (toString read.place.next)
    if !isName name then Act.fail (name ++ ": bad variable name")
    Act.putValue name read.letter.toString
    modify fun s => { s with optionPlace := read.place }
    Act.setStatus read.status
  | _ => Act.fail "Usage: getopts optstring var [arg...]"

end Interop.Shell.Builtin
