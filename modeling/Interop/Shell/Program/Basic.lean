import Interop.Shell.Format.Quoting
import Interop.Shell.State

/-!
# What small programs share

A small program takes its own name and arguments, reads and writes streams, and leaves a
status.  Options may stand anywhere among the arguments, and several of one letter each may
share one argument.
-/

namespace Interop.Shell

/-- A program: its name as it was called, and its arguments. -/
abbrev Program := String → List String → Act Unit

/-! ## Options -/

structure OptionSpec where
  letter : Char
  long : Option String
  hasValue : Bool

structure GivenOption where
  letter : Char
  value : String
  deriving Repr, Inhabited

inductive OptionProblem
  | unknownLetter (c : Char)
  | unknownName (text : String)
  | valueMissing (c : Char)
  | nameValueMissing (text : String)
  | valueUnwanted (text : String)

def OptionProblem.message : OptionProblem → String
  | .unknownLetter c => "invalid option -- '" ++ c.toString ++ "'"
  | .unknownName text => "unrecognized option '" ++ text ++ "'"
  | .valueMissing c => "option requires an argument -- '" ++ c.toString ++ "'"
  | .nameValueMissing text => "option '--" ++ text ++ "' requires an argument"
  | .valueUnwanted text => "option '--" ++ text ++ "' doesn't allow an argument"

namespace Options

abbrev Parsed := List GivenOption × List String

/-- The options whose letters are in a text; a colon follows those with a value. -/
def specsOf : List Char → List OptionSpec
  | c :: ':' :: rest => ⟨c, none, true⟩ :: specsOf rest
  | c :: rest => ⟨c, none, false⟩ :: specsOf rest
  | [] => []

def letters (specs : List OptionSpec) : List Char → List GivenOption →
    Except OptionProblem (List GivenOption × Option Char)
  | [], done => .ok (done.reverse, none)
  | c :: cs, done =>
    match specs.find? fun spec => spec.letter == c with
    | none => .error (.unknownLetter c)
    | some spec =>
      if spec.hasValue then
        if cs.isEmpty then .ok (done.reverse, some c)
        else .ok ((⟨c, String.ofList cs⟩ :: done).reverse, none)
      else letters specs cs (⟨c, ""⟩ :: done)

def named? (specs : List OptionSpec) (name : String) : Option OptionSpec :=
  match specs.find? fun spec => spec.long == some name with
  | some spec => some spec
  | none =>
    match specs.filter fun spec => spec.long.any fun long => long.startsWith name with
    | [spec] => some spec
    | _ => none

/-- Separates options from other arguments.  Where they must come first, the first other
argument ends them. -/
def parse (specs : List OptionSpec) (first : Bool) : Nat → List String → Parsed →
    Except OptionProblem Parsed
  | 0, args, (given, others) => .ok (given.reverse, others.reverse ++ args)
  | _ + 1, [], (given, others) => .ok (given.reverse, others.reverse)
  | fuel + 1, arg :: rest, (given, others) =>
    if arg == "--" then .ok (given.reverse, others.reverse ++ rest)
    else if arg.startsWith "--" then
      let body := (arg.drop 2).toString
      let name := String.ofList (body.toList.takeWhile (· != '='))
      let value? := (body.toList.dropWhile (· != '=')).tail?.map String.ofList
      match named? specs name, value? with
      | none, _ => .error (.unknownName arg)
      | some spec, some value =>
        if spec.hasValue then parse specs first fuel rest (⟨spec.letter, value⟩ :: given, others)
        else .error (.valueUnwanted (spec.long.getD name))
      | some spec, none =>
        if spec.hasValue then
          match rest with
          | value :: rest => parse specs first fuel rest (⟨spec.letter, value⟩ :: given, others)
          | [] => .error (.nameValueMissing (spec.long.getD name))
        else parse specs first fuel rest (⟨spec.letter, ""⟩ :: given, others)
    else if arg.startsWith "-" && arg != "-" then
      match letters specs (arg.toList.drop 1) [] with
      | .error e => .error e
      | .ok (found, none) => parse specs first fuel rest (found.reverse ++ given, others)
      | .ok (found, some c) =>
        match rest with
        | value :: rest =>
          parse specs first fuel rest (⟨c, value⟩ :: found.reverse ++ given, others)
        | [] => .error (.valueMissing c)
    else if first then .ok (given.reverse, others.reverse ++ arg :: rest)
    else parse specs first fuel rest (given, arg :: others)

def has (given : List GivenOption) (c : Char) : Bool := given.any fun o => o.letter == c

def value? (given : List GivenOption) (c : Char) : Option String :=
  (given.reverse.find? fun o => o.letter == c).map GivenOption.value

end Options

namespace Program

/-! ## Writing -/

def finish (status : Nat) : Act Unit := do
  Act.setStatus status
  Act.leave .exits

def out (self text : String) : Act Unit := do
  match ← Act.write 1 text with
  | .done => return ()
  | .failed cause =>
    Act.complainRaw (self ++ ": write error: " ++ cause.text ++ "\n")
    finish 1
  | .closed =>
    Act.complainRaw (self ++ ": write error: Bad file descriptor\n")
    finish 1

def complain (self message : String) : Act Unit :=
  Act.complainRaw (self ++ ": " ++ message ++ "\n")

def abort (self message : String) (status : Nat) : Act Unit := do
  complain self message
  finish status

def hint (self : String) : Act Unit :=
  Act.complainRaw ("Try '" ++ self ++ " --help' for more information.\n")

def misuse (self message : String) (status : Nat) : Act Unit := do
  complain self message
  hint self
  finish status

def missingOperand (self : String) (status : Nat) : Act Unit := misuse self "missing operand" status

def options (self : String) (specs : List OptionSpec) (first : Bool) (status : Nat)
    (args : List String) : Act (List GivenOption × List String) := do
  match Options.parse specs first (args.length + 1) args ([], []) with
  | .ok parsed => return parsed
  | .error e =>
    misuse self e.message status
    return ([], [])

/-! ## Reading -/

def contentOf (path : String) : Act (Except DiskError (String × Bool)) := do
  let s ← get
  match s.world.disk.status s.directory path with
  | .error e => return .error e
  | .ok (_, .file content _) => return .ok (content, true)
  | .ok (_, .directory) => return .error .isDirectory
  | .ok (_, .device .zero) | .ok (_, .device .full) =>
    return .ok (String.ofList (List.replicate Act.pipeLimit (Char.ofNat 0)), false)
  | .ok _ => return .ok ("", true)

def inputOf (path : String) : Act (Except DiskError (String × Bool)) := do
  if path == "-" then return .ok (← Act.readAll 0) else contentOf path

/-- The lines of a text; the last one may lack its end. -/
def linesOf (text : String) : List String :=
  if text.isEmpty then []
  else
    let parts := text.splitOn "\n"
    if text.endsWith "\n" then parts.dropLast else parts

def joinLines (lines : List String) : String :=
  String.join (lines.map fun line => line ++ "\n")

end Program

end Interop.Shell
