import Interop.Shell.Script

/-!
# Sources of scripts

A source is the part of a script that has not been read yet, with the number of its line and
with the texts that have been announced and not been found yet.
-/

namespace Interop.Shell

inductive Opening
  | file (stream : Nat) (mode : OpenMode)
  | stream (stream : Nat)
  /-- A text up to a line with its mark; tabs at the beginning of lines may not count. -/
  | document (stream : Nat) (stripped : Bool)
  deriving DecidableEq, Repr, Inhabited

inductive Token
  | finish
  | newline
  | symbol (text : String)
  | redirection (opening : Opening)
  | keyword (text : String)
  | word (w : Word)

namespace Token

instance : Inhabited Token := ⟨.finish⟩

def quoteName (text : String) : String := "\"" ++ text ++ "\""

def name : Token → String
  | .finish => "end of file"
  | .newline => "newline"
  | .symbol text | .keyword text => quoteName text
  | .redirection _ => "redirection"
  | .word _ => "word"

def isSymbol (text : String) : Token → Bool
  | .symbol found => found == text
  | _ => false

def isKeyword (text : String) : Token → Bool
  | .keyword found => found == text
  | _ => false

def isNewline : Token → Bool
  | .newline => true
  | _ => false

def endsList : Token → Bool
  | .finish => true
  | .symbol text => text == ")" || text == ";;"
  | .keyword text =>
    ["do", "done", "elif", "else", "esac", "fi", "then", "\x7d"].contains text
  | _ => false

def keywords : List String :=
  ["!", "case", "do", "done", "elif", "else", "esac", "fi", "for", "if", "in", "then",
    "until", "while", "\x7b", "\x7d"]

end Token

structure Announced where
  number : Nat
  mark : String
  stripped : Bool
  literal : Bool

structure Replacement where
  name : String
  left : Nat
  goesOn : Bool

structure Source where
  rest : List Char
  line : Nat
  pushed : Option Token
  announced : List Announced
  documents : List (Nat × Word)
  nextDocument : Nat
  aliases : List (String × String)
  replaced : List Replacement

instance : Inhabited Source := ⟨⟨[], 1, none, [], [], 0, [], []⟩⟩

/-- A source of which nothing has been read; texts get numbers from `nextDocument` on. -/
def Source.ofText (text : String) (nextDocument : Nat) : Source :=
  ⟨text.toList, 1, none, [], [], nextDocument, [], []⟩

def Source.bound (s : Source) : Nat :=
  (s.rest.length + 2) * s.aliases.foldl (fun total entry => total + entry.2.length) 1

abbrev Reading := StateT Source (Except ScriptError)

namespace Reading

def fail {α : Type} (problem : Misreading) : Reading α := fun s => .error ⟨s.line, problem⟩

def refuse {α : Type} (token : Token) (expected : Option String) : Reading α :=
  fail (.unexpected token.name expected)

def peek? : Reading (Option Char) := fun s => .ok (s.rest.head?, s)

def skip : Reading Unit := fun s =>
  match s.rest with
  | [] => .ok ((), s)
  | c :: rest => .ok ((), { s with rest, line := if c == '\n' then s.line + 1 else s.line })

def next? : Reading (Option Char) := do
  let c ← peek?
  skip
  return c

def accept (text : String) : Reading Bool := fun s =>
  if text.toList.isPrefixOf s.rest then
    .ok (true, { s with
      rest := s.rest.drop text.length
      line := s.line + (text.toList.filter (· == '\n')).length })
  else .ok (false, s)

def bound : Reading Nat := fun s => .ok (s.bound, s)

/-- Repeats something until it gives nothing. -/
def collect {α : Type} (step : Reading (Option α)) : Nat → List α → Reading (List α)
  | 0, done => return done.reverse
  | fuel + 1, done => do
    match ← step with
    | some a => collect step fuel (a :: done)
    | none => return done.reverse

/-- All that something gives until it gives nothing. -/
def many {α : Type} (step : Reading (Option α)) : Reading (List α) := do
  collect step (← bound) []

end Reading

end Interop.Shell
