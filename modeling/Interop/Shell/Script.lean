/-!
# Shell scripts

A script is made of commands, and a command of words.  A word consists of plain text, values of
parameters, output of commands and results of arithmetic, each of which may stand in quotes.
What is quoted is never split into several fields, never a pattern and never a reserved word.
All text is octet text.
-/

namespace Interop.Shell

inductive Modifier
  | plain
  | length
  | orElse (forEmpty : Bool)
  /-- The same, and the parameter has that value from then on. -/
  | orAssign (forEmpty : Bool)
  | orFail (forEmpty : Bool)
  | ifSet (forEmpty : Bool)
  | dropLead (longest : Bool)
  | dropEnd (longest : Bool)
  | meaningless
  deriving DecidableEq, Repr, Inhabited

inductive OpenMode
  | read
  | overwrite
  /-- Replaces a file even where that is forbidden by default. -/
  | force
  | append
  | both
  deriving DecidableEq, Repr, Inhabited

mutual

inductive Part
  | text (content : String) (quoted : Bool)
  | parameter (name : String) (modifier : Modifier) (operand : List Part) (quoted : Bool)
  | command (script : Script) (quoted : Bool)
  | arithmetic (expression : List Part) (quoted : Bool)

inductive Redirection
  | file (stream : Nat) (mode : OpenMode) (path : List Part)
  | stream (stream : Nat) (source : List Part)
  | document (stream : Nat) (number : Nat)

inductive Script
  | skip
  | simple (line : Nat) (assignments : List (String × List Part)) (words : List (List Part))
      (redirections : List Redirection)
  | sequence (first second : Script)
  | both (first second : Script)
  | either (first second : Script)
  | negation (body : Script)
  | pipeline (stages : List Script)
  | background (body : Script)
  | choice (condition positive negative : Script)
  | selection (line : Nat) (subject : List Part)
      (branches : List (List (List Part) × Script))
  /-- Goes on as long as the condition succeeds, or as long as it fails. -/
  | loop (whileFails : Bool) (condition body : Script)
  | each (line : Nat) (name : String) (words : List (List Part)) (body : Script)
  | subshell (line : Nat) (body : Script) (redirections : List Redirection)
  | redirected (line : Nat) (body : Script) (redirections : List Redirection)
  | define (name : String) (body : Script)

end

instance : Inhabited Script := ⟨.skip⟩

abbrev Word := List Part

namespace Part

def bare? : Part → Option String
  | .text content false => some content
  | _ => none

end Part

def Word.bare? (w : Word) : Option String :=
  (List.mapM Part.bare? w).map String.join

def addText (content : String) (quoted : Bool) : Word → Word
  | .text before quoted' :: rest =>
    if quoted' == quoted then .text (before ++ content) quoted :: rest
    else .text content quoted :: .text before quoted' :: rest
  | parts => .text content quoted :: parts

/-! ## Characters -/

def isNameStart (c : Char) : Bool := c.isAlpha || c == '_'

def isNamePart (c : Char) : Bool := c.isAlphanum || c == '_'

def isBlank (c : Char) : Bool := c == ' ' || c == '\t'

def isName (text : String) : Bool :=
  match text.toList with
  | [] => false
  | c :: cs => isNameStart c && cs.all isNamePart

def isSpecial (c : Char) : Bool := "@*#?$!-".toList.contains c

def splitAssignment? (text : String) : Option (String × String) :=
  let cs := text.toList
  let name := String.ofList (cs.takeWhile (· != '='))
  match cs.dropWhile (· != '=') with
  | [] => none
  | _ :: value => if isName name then some (name, String.ofList value) else none

def Word.assignment? : Word → Option (String × Word)
  | .text content false :: rest =>
    (splitAssignment? content).map fun (name, value) =>
      (name, if value.isEmpty then rest else .text value false :: rest)
  | _ => none

/-! ## Errors -/

inductive Misreading
  | openQuote
  | openBrace
  | openExpression
  | openBackquote
  | unexpected (found : String) (expected : Option String)
  | loopVariable
  | functionName
  | descriptor
  deriving DecidableEq, Repr, Inhabited

def Misreading.message : Misreading → String
  | .openQuote => "Unterminated quoted string"
  | .openBrace => "Missing '\x7d'"
  | .openExpression => "Missing '))'"
  | .openBackquote => "EOF in backquote substitution"
  | .unexpected found none => found ++ " unexpected"
  | .unexpected found (some expected) => found ++ " unexpected (expecting " ++ expected ++ ")"
  | .loopVariable => "Bad for loop variable"
  | .functionName => "Bad function name"
  | .descriptor => "Bad fd number"

structure ScriptError where
  line : Nat
  problem : Misreading
  deriving DecidableEq, Repr, Inhabited

def ScriptError.message (e : ScriptError) : String := "Syntax error: " ++ e.problem.message

end Interop.Shell
