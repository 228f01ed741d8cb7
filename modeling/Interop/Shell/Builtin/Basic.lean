import Interop.Shell.Program.Processes

/-!
# What commands of the shell share

Arguments of the commands that a shell performs itself, and texts that it could read again.
-/

namespace Interop.Shell

/-- A command of the shell with its arguments; it leaves a status. -/
abbrev Builtin := List String → Act Unit

namespace Builtin

def maxNumber : Nat := 2147483647

def number (text : String) : Act Nat := do
  let cs := text.toList
  if cs.isEmpty || !cs.all Char.isDigit then Act.fail ("Illegal number: " ++ text)
  else
    let n := valueOf 10 cs
    if maxNumber < n then Act.fail ("Illegal number: " ++ text) else return n

/-- The options at the beginning, each of one letter, and the arguments after them.  A colon
follows letters with a value. -/
def options (letters : String) (args : List String) : Act (List GivenOption × List String) := do
  match Shell.Options.parse (Shell.Options.specsOf letters.toList) true (args.length + 1)
      (args.takeWhile fun arg => !arg.startsWith "--" || arg == "--") ([], []) with
  | .ok (given, _) =>
    let rest := skip (args.length + 1) args
    return (given, rest)
  | .error (.unknownLetter c) => Act.fail ("Illegal option -" ++ c.toString)
  | .error (.valueMissing c) => Act.fail ("No arg for -" ++ c.toString ++ " option")
  | .error e => Act.fail e.message
where
  skip : Nat → List String → List String
    | 0, args => args
    | _ + 1, [] => []
    | fuel + 1, arg :: rest =>
      if arg == "--" then rest
      else if arg.startsWith "-" && arg != "-" then
        let specs := Shell.Options.specsOf letters.toList
        match Shell.Options.letters specs (arg.toList.drop 1) [] with
        | .ok (_, some _) => skip fuel (rest.drop 1)
        | _ => skip fuel rest
      else arg :: rest

def quoteFrom : Nat → List Char → List Char
  | 0, _ => []
  | fuel + 1, cs =>
    let plain := cs.takeWhile (· != '\'')
    let rest := cs.drop plain.length
    let marks := rest.takeWhile (· == '\'')
    let after := rest.drop marks.length
    '\'' :: plain ++ '\'' ::
      (if marks.isEmpty then []
        else '"' :: marks ++ '"' :: (if after.isEmpty then [] else quoteFrom fuel after))

def quote (text : String) : String := String.ofList (quoteFrom (text.length + 1) text.toList)

end Builtin

end Interop.Shell
