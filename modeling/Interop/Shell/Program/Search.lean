import Interop.Shell.Program.Text
import Interop.Shell.Regex

/-!
# Programs that search

Lines that fit a pattern, and lines that are edited where they fit one.
-/

namespace Interop.Shell.Program

/-! ## Finding lines -/

/-- What is looked for: texts as they are, or expressions. -/
structure Wanted where
  expressions : List Regex
  whole : Bool
  word : Bool
  ignoreCase : Bool

def literally (text : String) : Regex :=
  text.toList.foldl (fun e c => .sequence e (.char c)) .empty

def isWordChar (c : Char) : Bool := c.isAlphanum || c == '_'

def Wanted.find? (w : Wanted) (text : String) (start : Nat) : Option (Nat × Nat) :=
  let line := Regex.lineOf text w.ignoreCase
  let size := line.chars.size
  let fitsWord (low high : Nat) : Bool :=
    !w.word ||
      (!(low != 0 && (line.chars[low - 1]?).any isWordChar) &&
        !(line.chars[high]?).any isWordChar)
  let candidates (e : Regex) : List (Nat × Nat) :=
    ((List.range (size + 1 - start)).map (· + start)).filterMap fun low =>
      let found := (Regex.ends line e (low, [])).filter fun (high, _) =>
        (!w.whole || (low == 0 && high == size)) && fitsWord low high
      (Regex.longest found).map fun (high, _) => (low, high)
  (w.expressions.flatMap candidates).foldl
    (fun best next =>
      match best with
      | some b => if next.1 < b.1 || (next.1 == b.1 && b.2 < next.2) then some next else best
      | none => some next)
    none

def Wanted.all (w : Wanted) (text : String) : Nat → Nat → List String
  | 0, _ => []
  | fuel + 1, start =>
    match w.find? text start with
    | none => []
    | some (low, high) =>
      if low == high then if high < text.length then Wanted.all w text fuel (high + 1) else []
      else String.ofList ((text.toList.take high).drop low) :: Wanted.all w text fuel high

def grepSpecs : List OptionSpec :=
  [⟨'q', some "quiet", false⟩, ⟨'v', some "invert-match", false⟩,
    ⟨'i', some "ignore-case", false⟩, ⟨'c', some "count", false⟩,
    ⟨'n', some "line-number", false⟩, ⟨'o', some "only-matching", false⟩,
    ⟨'E', some "extended-regexp", false⟩, ⟨'F', some "fixed-strings", false⟩,
    ⟨'G', some "basic-regexp", false⟩, ⟨'P', some "perl-regexp", false⟩,
    ⟨'x', some "line-regexp", false⟩,
    ⟨'w', some "word-regexp", false⟩, ⟨'l', some "files-with-matches", false⟩,
    ⟨'L', some "files-without-match", false⟩, ⟨'s', some "no-messages", false⟩,
    ⟨'e', some "regexp", true⟩, ⟨'H', some "with-filename", false⟩,
    ⟨'h', some "no-filename", false⟩, ⟨'m', some "max-count", true⟩, ⟨'a', some "text", false⟩,
    ⟨'y', none, false⟩]

def grepLines (given : List GivenOption) (w : Wanted) (lead name text : String) :
    String × Bool :=
  let has := Options.has given
  let lines := linesOf text
  let numbered := lines.zip ((List.range lines.length).map (· + 1))
  let found := numbered.filter fun (line, _) => (w.find? line 0).isSome != has 'v'
  let found := match (Options.value? given 'm').bind String.toNat? with
    | some count => found.take count
    | none => found
  let output :=
    if has 'q' then ""
    else if has 'l' then if found.isEmpty then "" else name ++ "\n"
    else if has 'L' then if found.isEmpty then name ++ "\n" else ""
    else if has 'c' then lead ++ toString found.length ++ "\n"
    else
      let shown := found.flatMap fun (line, n) =>
        let head := lead ++ (if has 'n' then toString n ++ ":" else "")
        if has 'o' then
          if has 'v' then [] else (w.all line (line.length + 1) 0).map (head ++ ·)
        else [head ++ line]
      joinLines shown
  (output, !found.isEmpty)

def grepWith (variant : Option Char) : Program := fun self args => do
  let (given, words) ← options self grepSpecs false 2 args
  Act.setStatus 0
  let has (c : Char) : Bool := Options.has given c || variant == some c
  let named := (given.filter fun o => o.letter == 'e').map GivenOption.value
  if named.isEmpty && words.isEmpty then
    Act.complainRaw ("Usage: " ++ self ++ " [OPTION]... PATTERNS [FILE]...\n")
    hint self
    finish 2
  else
    let patterns := (if named.isEmpty then words.take 1 else named).flatMap fun p => p.splitOn "\n"
    let paths := if named.isEmpty then words.drop 1 else words
    let parsed := patterns.mapM fun pattern =>
      if has 'F' then .ok (literally pattern) else Regex.parse (has 'E' || has 'P') pattern
    match parsed with
    | .error e => abort self e 2
    | .ok expressions =>
      let w : Wanted :=
        { expressions, whole := has 'x', word := has 'w', ignoreCase := has 'i' || has 'y' }
      let inputs := if paths.isEmpty then ["-"] else paths
      let showNames := (inputs.length > 1 || has 'H') && !has 'h'
      let results ← inputs.mapM fun path => do
        let name := if path == "-" then "(standard input)" else path
        match ← inputOf path with
        | .error e =>
          if !has 's' then complain self (path ++ ": " ++ e.text)
          return (false, true)
        | .ok (text, ends) =>
          let (output, found) :=
            grepLines given w (if showNames then name ++ ":" else "") name text
          out self output
          if !ends && !(found && has 'q') then Act.leave .endless
          return (found, false)
      let found := results.any Prod.fst
      let failed := results.any Prod.snd
      Act.setStatus
        (if found && (has 'q' || !failed) then 0
          else if failed then 2
          else if has 'L' then (if found then 1 else 0)
          else 1)

def grep : Program := grepWith none

/-! ## Editing lines -/

inductive SedAddress
  | line (n : Nat)
  | last
  | pattern (e : Regex) (ignoreCase : Bool)
  | every (first step : Nat)
  deriving Inhabited

inductive SedAction
  | delete
  | print
  | quit (status : Nat)
  | lineNumber
  | substitute (e : Regex) (ignoreCase : Bool) (replacement : String) (all : Bool)
      (number : Nat) (prints : Bool)
  | translate (source target : List Char)
  | append (text : String)
  | insert (text : String)
  | change (text : String)
  | next
  | appendNext
  | hold | holdAppend | recall | recallAppend | exchange
  | nothing
  deriving Inhabited

structure SedCommand where
  first : Option SedAddress
  second : Option SedAddress
  negated : Bool
  action : SedAction
  deriving Inhabited

namespace Sed

/-- The text up to a delimiter that is not escaped, and the rest after it.  An escaped
delimiter stands for itself. -/
def upTo (delimiter : Char) : Nat → List Char → List Char → Option (List Char × List Char)
  | 0, _, _ => none
  | _ + 1, _, [] => none
  | fuel + 1, done, '\\' :: c :: rest =>
    upTo delimiter fuel (if c == delimiter then c :: done else c :: '\\' :: done) rest
  | fuel + 1, done, c :: rest =>
    if c == delimiter then some (done.reverse, rest) else upTo delimiter fuel (c :: done) rest

structure Reader where
  extended : Bool
  latest : Option Regex

structure Problem where
  left : Nat
  message : String

def regexOf (r : Reader) (cs : List Char) (left : Nat) : Except Problem Regex :=
  match cs, r.latest with
  | [], some e => .ok e
  | [], none => .error ⟨left, "no previous regular expression"⟩
  | cs, _ =>
    match Regex.parse r.extended (String.ofList cs) with
    | .ok e => .ok e
    | .error e => .error ⟨left, e⟩

def address? (r : Reader) (cs : List Char) :
    Except Problem (Option SedAddress × List Char × Reader) :=
  match cs with
  | '$' :: rest => .ok (some .last, rest, r)
  | '/' :: rest =>
    match upTo '/' (rest.length + 1) [] rest with
    | none => .error ⟨0, "unterminated address regex"⟩
    | some (body, rest) => do
      let e ← regexOf r body rest.length
      let (fold, rest) := match rest with
        | 'I' :: rest => (true, rest)
        | rest => (false, rest)
      return (some (.pattern e fold), rest, { r with latest := some e })
  | c :: _ =>
    if c.isDigit then
      let digits := cs.takeWhile Char.isDigit
      let n := valueOf 10 digits
      match cs.drop digits.length with
      | '~' :: rest =>
        let more := rest.takeWhile Char.isDigit
        .ok (some (.every n (valueOf 10 more)), rest.drop more.length, r)
      | rest => .ok (some (.line n), rest, r)
    else .ok (none, cs, r)
  | [] => .ok (none, [], r)

/-- The text after a command that takes the rest of its line, without a backslash and a line
feed before it. -/
def textArgument (cs : List Char) : String × List Char :=
  let cs := cs.dropWhile isBlank
  let cs := match cs with
    | '\\' :: rest =>
      match rest.dropWhile isBlank with
      | '\n' :: rest => rest
      | rest => rest
    | cs => cs
  let line := cs.takeWhile (· != '\n')
  (String.ofList line, cs.drop line.length)

def flagsOf (cs : List Char) : List Char × List Char :=
  let flags := cs.takeWhile fun c => c.isDigit || "gpIi".toList.contains c
  (flags, cs.drop flags.length)

def action (r : Reader) (cs : List Char) : Except Problem (SedAction × List Char × Reader) :=
  match cs with
  | [] => .error ⟨0, "missing command"⟩
  | c :: rest =>
    match c with
    | 'd' => .ok (.delete, rest, r)
    | 'p' => .ok (.print, rest, r)
    | '=' => .ok (.lineNumber, rest, r)
    | 'n' => .ok (.next, rest, r)
    | 'N' => .ok (.appendNext, rest, r)
    | 'h' => .ok (.hold, rest, r)
    | 'H' => .ok (.holdAppend, rest, r)
    | 'g' => .ok (.recall, rest, r)
    | 'G' => .ok (.recallAppend, rest, r)
    | 'x' => .ok (.exchange, rest, r)
    | 'q' =>
      let digits := (rest.dropWhile isBlank).takeWhile Char.isDigit
      .ok (.quit (valueOf 10 digits), (rest.dropWhile isBlank).drop digits.length, r)
    | 'a' => let (text, rest) := textArgument rest; .ok (.append text, rest, r)
    | 'i' => let (text, rest) := textArgument rest; .ok (.insert text, rest, r)
    | 'c' => let (text, rest) := textArgument rest; .ok (.change text, rest, r)
    | 's' =>
      match rest with
      | delimiter :: body =>
        match upTo delimiter (body.length + 1) [] body with
        | none => .error ⟨0, "unterminated \x60s' command"⟩
        | some (pattern, after) =>
          match upTo delimiter (after.length + 1) [] after with
          | none => .error ⟨0, "unterminated \x60s' command"⟩
          | some (replacement, after) => do
            let (flags, after) := flagsOf after
            let e ← regexOf r pattern after.length
            let digits := flags.filter Char.isDigit
            return (.substitute e (flags.any fun c => c == 'I' || c == 'i')
                (String.ofList replacement) (flags.contains 'g')
                (if digits.isEmpty then 1 else valueOf 10 digits) (flags.contains 'p'),
              after, { r with latest := some e })
      | [] => .error ⟨0, "unterminated \x60s' command"⟩
    | 'y' =>
      match rest with
      | delimiter :: body =>
        match upTo delimiter (body.length + 1) [] body with
        | none => .error ⟨0, "unterminated \x60y' command"⟩
        | some (source, after) =>
          match upTo delimiter (after.length + 1) [] after with
          | none => .error ⟨0, "unterminated \x60y' command"⟩
          | some (target, after) =>
            if source.length == target.length then .ok (.translate source target, after, r)
            else .error ⟨after.length, "strings for \x60y' command are different lengths"⟩
      | [] => .error ⟨0, "unterminated \x60y' command"⟩
    | c => .error ⟨rest.length, "unknown command: \x60" ++ c.toString ++ "'"⟩

def commands : Nat → Reader → List SedCommand → List Char → Except Problem (List SedCommand)
  | 0, _, done, _ => .ok done.reverse
  | fuel + 1, r, done, cs =>
    let cs := cs.dropWhile fun c => isBlank c || c == '\n' || c == ';'
    if cs.isEmpty then .ok done.reverse
    else do
      let (first, rest, r) ← address? r cs
      let (second, rest, r) ← match first, rest with
        | some _, ',' :: rest => address? r (rest.dropWhile isBlank)
        | _, rest => pure (none, rest, r)
      let rest := rest.dropWhile isBlank
      let negated := rest.head? == some '!'
      let rest := (if negated then rest.drop 1 else rest).dropWhile isBlank
      let (action, rest, r) ← action r rest
      let rest := rest.dropWhile isBlank
      match rest with
      | c :: _ =>
        if c == '\n' || c == ';' || c == '\x7d' then
          commands fuel r (⟨first, second, negated, action⟩ :: done) rest
        else throw ⟨rest.length - 1, "extra characters after command"⟩
      | [] => commands fuel r (⟨first, second, negated, action⟩ :: done) []

def replacement (groups : Nat → List Char) : List Char → List Char
  | '\\' :: c :: rest =>
    if c.isDigit then groups (c.toNat - '0'.toNat) ++ replacement groups rest
    else if c == 'n' then '\n' :: replacement groups rest
    else if c == 't' then '\t' :: replacement groups rest
    else c :: replacement groups rest
  | '&' :: rest => groups 0 ++ replacement groups rest
  | c :: rest => c :: replacement groups rest
  | [] => []

/-- Replaces matches; `number` counts down to the first one to be replaced. -/
def substitute (e : Regex) (line : Regex.Line) (text : List Char) (all : Bool) :
    Nat → Nat → Nat → List Char × Bool
  | 0, _, start => (line.chars.toList.drop start, false)
  | fuel + 1, number, start =>
    match e.search? line start with
    | none => (line.chars.toList.drop start, false)
    | some (low, high, caps) =>
      let chars := line.chars.toList
      let before := (chars.take low).drop start
      let whole := (chars.take high).drop low
      let groups (n : Nat) : List Char :=
        if n == 0 then whole
        else
          match Regex.capture? caps n with
          | some (a, b) => (chars.take b).drop a
          | none => []
      /- An empty match is followed by the next character. -/
      let skipped := if high == low then (chars.drop high).take 1 else []
      let next := high + skipped.length
      let isDone := next ≥ chars.length && high == low || (high == low && low == chars.length)
      if number ≤ 1 then
        let shown := before ++ replacement groups text
        if all && !isDone then
          let (rest, _) := substitute e line text all fuel 1 next
          (shown ++ skipped ++ rest, true)
        else (shown ++ chars.drop high, true)
      else if isDone then (chars.drop start, false)
      else
        let (rest, changed) := substitute e line text all fuel (number - 1) next
        (before ++ whole ++ skipped ++ rest, changed)

/-- The state of an editor: the input, the line, the text kept aside, what follows the line, and
for each command whether its range is open and to which line. -/
structure Editor where
  input : List String
  number : Nat
  line : String
  held : String
  output : String
  after : String
  opened : List (Nat × Nat)
  quits : Option Nat
  deleted : Bool

def addressFits (e : Editor) : SedAddress → Bool
  | .line n => e.number == n
  | .last => e.input.isEmpty
  | .pattern regex fold => (regex.search? (Regex.lineOf e.line fold) 0).isSome
  | .every first step =>
    if step == 0 then e.number == first
    else first ≤ e.number && (e.number - first) % step == 0

/-- Whether a command applies; ranges are opened and closed. -/
def applies (index : Nat) (c : SedCommand) (e : Editor) : Bool × Editor :=
  let result : Bool × Editor :=
    match c.first, c.second with
    | none, _ => (true, e)
    | some a, none => (addressFits e a, e)
    | some a, some b =>
      let isOpen := e.opened.any fun entry => entry.1 == index
      let close := { e with opened := e.opened.filter fun entry => entry.1 != index }
      if isOpen then
        let ends : Bool := match b with
          | .line n => n ≤ e.number
          | b => addressFits e b
        let inside : Bool := match b with
          | .line n => e.number ≤ n
          | _ => true
        (inside, if ends then close else e)
      else if addressFits e a then
        let endsAtOnce : Bool := match b with
          | .line n => n ≤ e.number
          | _ => false
        (true, if endsAtOnce then e else { e with opened := (index, 0) :: e.opened })
      else (false, e)
  (result.1 != c.negated, result.2)

def perform (silent : Bool) (a : SedAction) (e : Editor) : Editor :=
  match a with
  | .delete => { e with deleted := true }
  | .print => { e with output := e.output ++ e.line ++ "\n" }
  | .quit status => { e with quits := some status }
  | .lineNumber => { e with output := e.output ++ toString e.number ++ "\n" }
  | .substitute regex fold text all number prints =>
    let line := Regex.lineOf e.line fold
    let (cs, changed) := substitute regex line text.toList all (line.chars.size + 2) number 0
    if changed then
      let line := String.ofList cs
      { e with line, output := if prints then e.output ++ line ++ "\n" else e.output }
    else e
  | .translate source target =>
    { e with line := e.line.map fun c =>
        match source.findIdx? (· == c) with
        | some i => (target[i]?).getD c
        | none => c }
  | .append text => { e with after := e.after ++ text ++ "\n" }
  | .insert text => { e with output := e.output ++ text ++ "\n" }
  | .change text => { e with output := e.output ++ text ++ "\n", deleted := true }
  | .next =>
    match e.input with
    | [] => { e with quits := some 0 }
    | line :: input =>
      { e with
        output := (if silent then e.output else e.output ++ e.line ++ "\n") ++ e.after
        after := "", line, input, number := e.number + 1 }
  | .appendNext =>
    match e.input with
    | [] => { e with quits := some 0 }
    | line :: input => { e with line := e.line ++ "\n" ++ line, input, number := e.number + 1 }
  | .hold => { e with held := e.line }
  | .holdAppend => { e with held := e.held ++ "\n" ++ e.line }
  | .recall => { e with line := e.held }
  | .recallAppend => { e with line := e.line ++ "\n" ++ e.held }
  | .exchange => { e with line := e.held, held := e.line }
  | .nothing => e

def cycle (silent : Bool) (index : Nat) : List SedCommand → Editor → Editor
  | [], e => e
  | c :: rest, e =>
    if e.deleted || e.quits.isSome then e
    else
      let (fits, e) := applies index c e
      cycle silent (index + 1) rest (if fits then perform silent c.action e else e)

def edit (silent : Bool) (script : List SedCommand) : Nat → Editor → Editor
  | 0, e => e
  | fuel + 1, e =>
    match e.quits, e.input with
    | some _, _ | none, [] => e
    | none, line :: input =>
      let e := cycle silent 0 script
        { e with line, input, number := e.number + 1, deleted := false, after := "" }
      let shown := if silent || e.deleted then "" else e.line ++ "\n"
      edit silent script fuel { e with output := e.output ++ shown ++ e.after }

def start (lines : List String) : Editor :=
  { input := lines, number := 0, line := "", held := "", output := "", after := "", opened := []
    quits := none, deleted := false }

end Sed

def sed : Program := fun self args => do
  let (given, words) ← options self
    [⟨'n', some "quiet", false⟩, ⟨'e', some "expression", true⟩,
      ⟨'E', some "regexp-extended", false⟩, ⟨'r', none, false⟩, ⟨'i', some "in-place", false⟩,
      ⟨'s', some "separate", false⟩, ⟨'u', some "unbuffered", false⟩] false 1 args
  Act.setStatus 0
  let has := Options.has given
  let expressions := (given.filter fun o => o.letter == 'e').map GivenOption.value
  let isFirst := expressions.isEmpty
  if isFirst && words.isEmpty then
    Act.complainRaw ("Usage: " ++ self ++
      " [OPTION]... \x7bscript-only-if-no-other-script\x7d [input-file]...\n")
    finish 1
  else
    let text := if isFirst then words.headD "" else "\n".intercalate expressions
    let paths := if isFirst then words.tail else words
    match Sed.commands (text.length + 1) ⟨has 'E' || has 'r', none⟩ [] text.toList with
    | .error e =>
      abort self ("-e expression #1, char " ++ toString (text.length - e.left) ++ ": " ++
        e.message) 1
    | .ok script =>
      let inputs ← (if paths.isEmpty then ["-"] else paths).mapM fun path => do
        match ← inputOf path with
        | .ok (text, ends) => return (path, some (text, ends))
        | .error e =>
          complain self ("can't read " ++ path ++ ": " ++ e.text)
          spoil 2
          return (path, none)
      let run (texts : List String) : Sed.Editor :=
        let lines := texts.flatMap linesOf
        Sed.edit (has 'n') script (lines.length + 1) (Sed.start lines)
      let finished (texts : List String) (e : Sed.Editor) : String :=
        /- A last line without its end stays without. -/
        match texts.getLast? with
        | some last =>
          if !last.isEmpty && !last.endsWith "\n" && e.input.isEmpty && e.output.endsWith "\n" then
            String.ofList e.output.toList.dropLast
          else e.output
        | none => e.output
      if has 'i' then
        inputs.forM fun (path, content) =>
          match content with
          | none => return ()
          | some (text, _) => do
            let s ← get
            match s.world.disk.save s.directory path (finished [text] (run [text])) with
            | .ok disk => Act.modifyWorld fun w => w.setDisk disk
            | .error e => complain self ("couldn't edit " ++ path ++ ": " ++ e.text)
      else
        let texts := inputs.filterMap fun (_, content) => content.map Prod.fst
        let e := run texts
        out self (finished texts e)
        if inputs.any (fun (_, content) => content.any fun c => !c.2) && e.quits.isNone then
          Act.leave .endless
        match e.quits with
        | some status => if status != 0 then Act.setStatus status
        | none => return ()

end Interop.Shell.Program
