import Interop.Shell.Arithmetic
import Interop.Shell.Glob
import Interop.Shell.State

/-!
# Expansion of words

A word becomes a row of atoms: characters that know whether they were quoted and whether they
may separate fields, and borders between fields.  Fields are cut out of that row, and those that
are patterns are replaced by the paths that they fit.
-/

namespace Interop.Shell

inductive Atom
  | glyph (char : Char) (quoted splits : Bool)
  | border
  | presence
  | absence
  deriving DecidableEq, Repr

namespace Atom

def ofText (text : String) (quoted splits : Bool) : List Atom :=
  text.toList.map fun c => .glyph c quoted splits

def ofValue (text : String) (quoted : Bool) : List Atom :=
  if quoted then .presence :: ofText text true false else ofText text false true

def standardSeparators : String := " \t\n"

def isSpaceOf (separators : List Char) (c : Char) : Bool :=
  (c == ' ' || c == '\t' || c == '\n') && separators.contains c

/-! ## Fields -/

/-- Fields under construction: finished ones, last first, the open one, last character first,
and whether blanks have just ended a field. -/
structure Cutting where
  done : List (List Glyph)
  current : Option (List Glyph)
  spaced : Bool
  absent : Bool

namespace Cutting

def empty : Cutting := ⟨[], none, false, false⟩

def add (k : Cutting) (g : Glyph) : Cutting :=
  { k with current := some (g :: k.current.getD []), spaced := false }

def close (k : Cutting) : Cutting :=
  match k.current with
  | some glyphs =>
    if glyphs.isEmpty && k.absent then { k with current := none, absent := false }
    else { k with done := glyphs.reverse :: k.done, current := none, absent := false }
  | none => { k with absent := false }

/-- A blank ends a field; more blanks change nothing. -/
def space (k : Cutting) : Cutting :=
  if k.current.isSome then { k.close with spaced := true } else k

/-- A separator ends a field, which may be empty unless blanks have ended one just before. -/
def separate (k : Cutting) : Cutting :=
  if k.current.isSome then { k.close with spaced := false }
  else if k.spaced then { k with spaced := false }
  else { k with done := [] :: k.done }

def step (separators : List Char) (k : Cutting) : Atom → Cutting
  | .glyph c quoted splits =>
    if splits && isSpaceOf separators c then k.space
    else if splits && separators.contains c then k.separate
    else k.add ⟨c, quoted⟩
  | .border => { k.close with spaced := false }
  | .presence => { k with current := some (k.current.getD []), spaced := false }
  | .absence => { k with absent := true }

end Cutting

def fields (separators : String) (atoms : List Atom) : List (List Glyph) :=
  (atoms.foldl (Cutting.step separators.toList) .empty).close.done.reverse

def glyphs (separator : List Char) (atoms : List Atom) : List Glyph :=
  atoms.flatMap fun atom =>
    match atom with
    | .glyph c quoted _ => [⟨c, quoted⟩]
    | .border => separator.map fun c => ⟨c, false⟩
    | .presence | .absence => []

end Atom

def Glyph.textOf (gs : List Glyph) : String := String.ofList (gs.map Glyph.char)

namespace Act

/-! ## Parameters -/

def separators : Act String := do
  match ← findVariable? "IFS" with
  | some v => return v.value.getD Atom.standardSeparators
  | none => return Atom.standardSeparators

def joint : Act (List Char) := do return (← separators).toList.take 1

def joined : Act String := do
  return (String.ofList (← joint)).intercalate (← get).args

def parameter? (name : String) : Act (Option String) := do
  let s ← get
  match name with
  | "@" | "*" =>
    let text ← joined
    return if s.args.isEmpty then none else some text
  | "#" => return some (toString s.args.length)
  | "?" => return some (toString s.status)
  | "$" => return some (toString s.shellPid)
  | "!" => return s.lastJob.map toString
  | "-" => return some (State.shownSettings s.settings)
  | "0" => return some s.name
  | _ =>
    match name.toNat? with
    | some 0 => return some s.name
    | some n => return s.args[n - 1]?
    | none => valueOf? name

def needsNoValue (name : String) : Bool := name == "@" || name == "*"

def require (name : String) : Act Unit := do
  if (← get).settings.contains 'u' && !needsNoValue name then
    fail (name ++ ": parameter not set")

def home? (user : String) : Act (Option String) := do
  if user.isEmpty then valueOf? "HOME"
  else if user == "root" then return some "/root"
  else return none

def replaceTilde (w : Word) : Act Word := do
  match w with
  | .text content false :: rest =>
    match content.toList with
    | '~' :: cs =>
      let user := cs.takeWhile (· != '/')
      let after := cs.drop user.length
      if after.isEmpty && !rest.isEmpty then return w
      else
        match ← home? (String.ofList user) with
        | some home => return .text home true :: addText (String.ofList after) false [] ++ rest
        | none => return w
    | _ => return w
  | _ => return w

/-! ## Parts -/

abbrev Output := Script → Act String

mutual

def expandPart (output : Output) : Part → Act (List Atom)
  | .text content quoted =>
    return if quoted then .presence :: Atom.ofText content true false
      else Atom.ofText content false false
  | .command script quoted => do return Atom.ofValue (← output script) quoted
  | .arithmetic expression quoted => do
    let text := Glyph.textOf (Atom.glyphs (← joint) (← expandParts output expression))
    let s ← get
    let lookup (name : String) : Option String :=
      (s.bindings.find? fun v => v.name == name).bind Variable.value
    match Arithmetic.compute lookup text with
    | .error e => fail (e.message text)
    | .ok (n, changes) =>
      changes.reverse.forM fun (name, value) => assign name (toString value)
      return Atom.ofValue (toString n) quoted
  | .parameter name modifier operand quoted => do
    let value ← parameter? name
    let isEmpty := value.all String.isEmpty
    /- The value itself, where arguments are fields of their own. -/
    let own : Act (List Atom) := do
      let args := (← get).args
      if name == "@" && quoted then
        if args.isEmpty then return [.absence]
        else
          return (args.map fun arg => .presence :: Atom.ofText arg true false).intersperse
            [.border] |>.flatten
      else if (name == "@" || name == "*") && !quoted then
        return (args.map fun arg => Atom.ofText arg false true).intersperse [.border] |>.flatten
      else
        if value.isNone then require name
        return Atom.ofValue (value.getD "") quoted
    let instead : Act (List Atom) := do
      let atoms ← expandParts output operand
      return (if quoted then [.presence] else []) ++ atoms.map fun atom =>
        match atom with
        | .glyph c q _ => .glyph c q (!q && !quoted)
        | other => other
    match modifier with
    | .plain => own
    | .length =>
      if value.isNone then require name
      return Atom.ofValue (toString (value.getD "").length) quoted
    | .orElse forEmpty =>
      if value.isNone || (forEmpty && isEmpty) then instead else own
    | .ifSet forEmpty =>
      if value.isNone || (forEmpty && isEmpty) then return Atom.ofValue "" quoted else instead
    | .orAssign forEmpty =>
      if value.isNone || (forEmpty && isEmpty) then
        let text := Glyph.textOf (Atom.glyphs (← joint) (← expandParts output operand))
        if isName name then
          assign name text
          return Atom.ofValue text quoted
        else fail (name ++ ": bad variable name")
      else own
    | .orFail forEmpty =>
      if value.isNone || (forEmpty && isEmpty) then
        let text := Glyph.textOf (Atom.glyphs (← joint) (← expandParts output operand))
        let message :=
          if !operand.isEmpty then text
          else "parameter not set" ++ (if forEmpty then " or null" else "")
        fail (name ++ ": " ++ message)
      else own
    | .dropLead longest => do
      if value.isNone then require name
      let pattern := Glob.ofGlyphs (Atom.glyphs (← joint) (← expandParts output operand))
      let cs := pattern.dropLead longest (value.getD "").toList
      return Atom.ofValue (String.ofList cs) quoted
    | .dropEnd longest => do
      if value.isNone then require name
      let pattern := Glob.ofGlyphs (Atom.glyphs (← joint) (← expandParts output operand))
      let cs := pattern.dropEnd longest (value.getD "").toList
      return Atom.ofValue (String.ofList cs) quoted
    | .meaningless => fail "Bad substitution"

def expandParts (output : Output) : List Part → Act (List Atom)
  | [] => return []
  | part :: rest => do
    let atoms ← expandPart output part
    return atoms ++ (← expandParts output rest)

end

/-! ## Paths -/

def matching (pattern : List Glyph) (d : Disk) (directory : Path) : List String :=
  let glob := Glob.ofGlyphs pattern
  let hidden := (pattern.head?.map Glyph.char) == some '.'
  let names := (d.namesIn directory).filter fun name =>
    (hidden || !name.startsWith ".") && glob.fits name.toList
  names.mergeSort fun a b => a ≤ b

def splitSlashes (gs : List Glyph) : List (List Glyph) :=
  gs.foldr
    (fun g parts =>
      if g.char == '/' then [] :: parts
      else
        match parts with
        | part :: rest => (g :: part) :: rest
        | [] => [[g]])
    [[]]

def pathsFrom (d : Disk) (start : Path) : List (List Glyph) → String → List String
  | [], lead => [lead]
  | part :: rest, lead =>
    let slash := if rest.isEmpty then "" else "/"
    if Glob.isWild part then
      match d.locate true start (if lead.isEmpty then "." else lead) with
      | .ok place =>
        (matching part d place.path).flatMap fun name =>
          let there := lead ++ name
          if rest.isEmpty || d.isDirectory start there then
            pathsFrom d start rest (there ++ slash)
          else []
      | .error _ => []
    else
      let there := lead ++ Glyph.textOf part
      let isThere := part.isEmpty || (d.linkStatus start there).toBool
      if isThere then pathsFrom d start rest (there ++ slash) else []

/-- The paths that a field stands for: those that it fits as a pattern, or itself. -/
def pathsOf (gs : List Glyph) : Act (List String) := do
  let s ← get
  if s.settings.contains 'f' || !Glob.isWild gs then return [Glyph.textOf gs]
  else
    match pathsFrom s.world.disk s.directory (splitSlashes gs) "" with
    | [] => return [Glyph.textOf gs]
    | paths => return paths

/-! ## Words -/

def expandWord (output : Output) (w : Word) : Act (List String) := do
  let atoms ← expandParts output (← replaceTilde w)
  let fields := Atom.fields (← separators) atoms
  return (← fields.mapM pathsOf).flatten

def expandWords (output : Output) (ws : List Word) : Act (List String) := do
  return (← ws.mapM (expandWord output)).flatten

def expandGlyphs (output : Output) (w : Word) : Act (List Glyph) := do
  let atoms ← expandParts output (← replaceTilde w)
  return Atom.glyphs (← joint) atoms

def expandText (output : Output) (w : Word) : Act String := do
  return Glyph.textOf (← expandGlyphs output w)

end Act

end Interop.Shell
