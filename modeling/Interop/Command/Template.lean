import Interop.Json
import Interop.Text.Words

/-!
# Command templates

A program and its arguments with placeholders in braces: the version, the node, the host, the
port, the entry point and the work directory.  The placeholders are replaced one after
another, each in the text that the replacements before it left; a placeholder without a value
stays.
-/

namespace Interop.Command

inductive TemplateError
  | empty
  | unbalanced (reason : String)
  deriving DecidableEq, Repr

def TemplateError.code : TemplateError → String
  | .empty => "Empty"
  | .unbalanced _ => "Unbalanced"

def TemplateError.message : TemplateError → String
  | .empty => "empty command line"
  | .unbalanced reason => s!"cannot split command line: {reason}"

structure Template where
  program : String
  args : List String
  deriving DecidableEq, Repr, Inhabited

structure Bindings where
  version : String
  port : Option Nat
  node : Nat
  host : String
  entryPoint : Option String
  workDir : Option String
  deriving DecidableEq, Repr, Inhabited

/-! ## Substitution -/

/-- Replaces every occurrence of `pattern`, from left to right without overlaps.  `skip`
characters belong to an occurrence that is already replaced. -/
def replaceFrom (pattern value : List Char) (skip : Nat) : List Char → List Char
  | [] => []
  | c :: cs =>
    if skip > 0 then replaceFrom pattern value (skip - 1) cs
    else if pattern.isPrefixOf (c :: cs) then
      value ++ replaceFrom pattern value (pattern.length - 1) cs
    else c :: replaceFrom pattern value 0 cs

def replaceAll (pattern value text : String) : String :=
  String.ofList (replaceFrom pattern.toList value.toList 0 text.toList)

def placeholder (name : String) : String := "\x7b" ++ name ++ "\x7d"

def Bindings.pairs (b : Bindings) : List (String × Option String) :=
  [("version", some b.version), ("node", some (toString b.node)), ("host", some b.host),
    ("port", b.port.map toString), ("entry_point", b.entryPoint), ("work_dir", b.workDir)]

def substituteOne (text : String) (pair : String × Option String) : String :=
  match pair.2 with
  | some value => replaceAll (placeholder pair.1) value text
  | none => text

def substitute (b : Bindings) (text : String) : String := b.pairs.foldl substituteOne text

/-! ## Templates -/

namespace Template

def parse (line : String) : Except TemplateError Template :=
  match Text.words line with
  | .error e => .error (.unbalanced e.message)
  | .ok [] => .error .empty
  | .ok (program :: args) => .ok ⟨program, args⟩

def render (t : Template) (b : Bindings) : String × List String :=
  (substitute b t.program, t.args.map (substitute b))

def toJson (t : Template) : Json :=
  .obj [("program", .str t.program), ("args", .arr (t.args.map Json.str))]

end Template

end Interop.Command
