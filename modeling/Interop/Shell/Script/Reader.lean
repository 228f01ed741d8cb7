import Interop.Shell.Script.Words

/-!
# Reading scripts

A script is read line by line, so that its beginning can run before its end is looked at.  A
line ends where all that was begun on it has ended; announced texts follow it.
-/

namespace Interop.Shell

inductive ListKind
  | line
  | body
  | optional
  deriving DecidableEq, Repr

structure Readers where
  list : ListKind → Reading Script
  command : Reading Script

namespace Reading

def push (token : Token) : Reading Unit := modify fun s => { s with pushed := some token }

def skipBlanks : Nat → Reading Unit
  | 0 => return ()
  | fuel + 1 => do
    if ← accept "\\\n" then skipBlanks fuel
    else
      match ← peek? with
      | some c =>
        if isBlank c then
          skip
          skipBlanks fuel
        else if c == '#' then modify fun s => { s with rest := s.rest.dropWhile (· != '\n') }
      | none => return ()

/-! ## Tokens -/

def opening (stream? : Option Nat) : Reading Opening := do
  if ← accept "<<-" then return .document (stream?.getD 0) true
  else if ← accept "<<" then return .document (stream?.getD 0) false
  else if ← accept "<&" then return .stream (stream?.getD 0)
  else if ← accept "<>" then return .file (stream?.getD 0) .both
  else if ← accept "<" then return .file (stream?.getD 0) .read
  else if ← accept ">>" then return .file (stream?.getD 1) .append
  else if ← accept ">&" then return .stream (stream?.getD 1)
  else if ← accept ">|" then return .file (stream?.getD 1) .force
  else
    skip
    return .file (stream?.getD 1) .overwrite

def symbols : List String := ["&&", "||", ";;", "&", "|", ";", "(", ")"]

def symbol? : Reading (Option Token) := do
  let s ← get
  match symbols.find? fun text => text.toList.isPrefixOf s.rest with
  | some text =>
    set { s with rest := s.rest.drop text.length }
    return some (.symbol text)
  | none => return none

def isAngle (c : Char) : Bool := c == '<' || c == '>'

def wholeText (r : Readers) (text : String) : Reading Script := do
  let before ← get
  set { before with rest := text.toList, pushed := none }
  let script ← r.list .optional
  let after ← get
  match after.pushed with
  | some .finish | none =>
    set { after with rest := before.rest, pushed := before.pushed, line := before.line }
    return script
  | some token => refuse token (some Token.finish.name)

def rawToken (nested : Nested) : Reading Token := do
  let s ← get
  match s.pushed with
  | some token =>
    set { s with pushed := none }
    return token
  | none =>
    skipBlanks (← bound)
    match (← get).rest with
    | [] => return .finish
    | '\n' :: _ =>
      skip
      return .newline
    | c :: cs =>
      if isAngle c then return .redirection (← opening none)
      else if c.isDigit && cs.head?.any isAngle then
        skip
        return .redirection (← opening (some (c.toNat - '0'.toNat)))
      else
        match ← symbol? with
        | some token => return token
        | none => return .word (← wordIn nested .bare)

/-! ## Announced texts -/

def documentLines (mark : String) (stripped : Bool) : Nat → String → Reading String
  | 0, done => return done
  | fuel + 1, done => do
    let s ← get
    if s.rest.isEmpty then return done
    else
      let line := s.rest.takeWhile (· != '\n')
      let after := s.rest.drop line.length
      set { s with rest := after.drop 1, line := s.line + (if after.isEmpty then 0 else 1) }
      let text := String.ofList (if stripped then line.dropWhile (· == '\t') else line)
      if text == mark then return done
      else documentLines mark stripped fuel (done ++ text ++ (if after.isEmpty then "" else "\n"))

def document (nested : Nested) (a : Announced) : Reading Unit := do
  let body ← documentLines a.mark a.stripped (← bound) ""
  let word ←
    if a.literal then pure [.text body true]
    else do
      let outside ← get
      set { outside with rest := body.toList, pushed := none }
      let word ← wordIn nested .document
      modify fun s =>
        { s with rest := outside.rest, pushed := outside.pushed, line := outside.line }
      pure word
  modify fun s => { s with documents := (a.number, word) :: s.documents }

def takeDocuments (nested : Nested) : Reading Unit := do
  let announced := (← get).announced
  modify fun s => { s with announced := [] }
  announced.forM (document nested)

def skipNewlines (nested : Nested) : Nat → Token → Reading Token
  | 0, token => return token
  | fuel + 1, .newline => do
    takeDocuments nested
    skipNewlines nested fuel (← rawToken nested)
  | _, token => return token

/-- The text that stands in the place of a word which was just read, where `before` was left to
read before it.  A word inside the text of an alias does not stand for that text again. -/
def aliasText? (s : Source) (before : Nat) (wanted : Bool) (word : String) : Option String :=
  let start := s.rest.length + word.length
  let isInside (r : Replacement) : Bool := decide (r.left < start)
  let follows := s.replaced.any fun r => r.goesOn && r.left < before && !isInside r
  let isOpen := s.replaced.any fun r => r.name == word && isInside r
  if (wanted || follows) && !isOpen then
    (s.aliases.find? fun entry => entry.1 == word).map Prod.snd
  else none

def replaceWord (word text : String) : Reading Unit :=
  modify fun s =>
    let start := s.rest.length + word.length
    let goesOn := (text.toList.getLast?).any isBlank
    { s with
      rest := text.toList ++ s.rest
      replaced := ⟨word, s.rest.length, goesOn⟩ :: s.replaced.filter fun r => r.left < start }

/-- A token, which may be a reserved word or stand for something else, and before which there
may be line ends. -/
def tokenBy (nested : Nested) (keywords aliases newlines : Bool) : Nat → Reading Token
  | 0 => return .finish
  | fuel + 1 => do
    let before := (← get).rest.length
    let first ← rawToken nested
    let found ← if newlines then skipNewlines nested (← bound) first else pure first
    match found with
    | .word w =>
      match Word.bare? w with
      | some text =>
        if keywords && Token.keywords.contains text then return .keyword text
        else
          match aliasText? (← get) before aliases text with
          | some value =>
            replaceWord text value
            tokenBy nested keywords aliases newlines fuel
          | none => return found
      | none => return found
    | _ => return found

def token (nested : Nested) (keywords newlines : Bool) : Reading Token := do
  tokenBy nested keywords keywords newlines (← bound)

def nestedOf (r : Readers) : Nested where
  parenthesized := do
    let outside := (← get).pushed
    modify fun s => { s with pushed := none }
    let script ← r.list .optional
    let closing ← match (← get).pushed with
      | some closing => pure closing
      | none => pure .finish
    if closing.isSymbol ")" then
      modify fun s => { s with pushed := outside }
      return script
    else refuse closing (some (Token.symbol ")").name)
  whole := wholeText r

/-! ## Redirections -/

def plainText (w : Word) : String :=
  String.join (w.map fun part =>
    match part with
    | .text content _ => content
    | .parameter name _ _ _ => "$" ++ name
    | _ => "")

def redirection (nested : Nested) (opening : Opening) : Reading Redirection := do
  match ← token nested false false with
  | .word w =>
    match opening with
    | .file stream mode => return .file stream mode w
    | .stream stream => return .stream stream w
    | .document stream stripped =>
      let s ← get
      let a : Announced :=
        { number := s.nextDocument, mark := plainText w, stripped
          literal := (Word.bare? w).isNone }
      set { s with announced := s.announced ++ [a], nextDocument := s.nextDocument + 1 }
      return .document stream a.number
  | found => refuse found none

def redirection? (nested : Nested) : Reading (Option Redirection) := do
  match ← token nested true false with
  | .redirection opening => return some (← redirection nested opening)
  | found =>
    push found
    return none

/-! ## Simple commands -/

/-- A simple command under construction: what was read, last first. -/
structure Draft where
  assignments : List (String × Word)
  words : List Word
  redirections : List Redirection

def specialNames : List String :=
  [".", ":", "break", "continue", "eval", "exec", "exit", "export", "local", "readonly",
    "return", "set", "shift", "times", "trap", "unset"]

def definition (r : Readers) (name : Word) : Reading Script := do
  let closing ← token (nestedOf r) false false
  if !closing.isSymbol ")" then refuse closing (some (Token.symbol ")").name)
  else
    match Word.bare? name with
    | some text =>
      if isName text && !specialNames.contains text then
        return .define text (← r.command)
      else fail .functionName
    | none => fail .functionName

def simple (r : Readers) (line : Nat) : Nat → Draft → Reading Script
  | 0, _ => return .skip
  | fuel + 1, draft => do
    let begins := draft.words.isEmpty &&
      (!draft.assignments.isEmpty || !draft.redirections.isEmpty)
    match ← tokenBy (nestedOf r) false begins false (← bound) with
    | .word w =>
      match draft.words, Word.assignment? w with
      | [], some assignment =>
        simple r line fuel { draft with assignments := assignment :: draft.assignments }
      | words, _ => simple r line fuel { draft with words := w :: words }
    | .redirection opening =>
      let redirection ← redirection (nestedOf r) opening
      simple r line fuel { draft with redirections := redirection :: draft.redirections }
    | found =>
      match draft with
      | ⟨[], [name], []⟩ =>
        if found.isSymbol "(" then definition r name
        else
          push found
          return .simple line [] [name] []
      | _ =>
        push found
        return .simple line draft.assignments.reverse draft.words.reverse
          draft.redirections.reverse

/-! ## Compound commands -/

def require (nested : Nested) (wanted : Token) (newlines : Bool) : Reading Unit := do
  let found ← token nested newlines newlines
  if found.name == wanted.name then return () else refuse found (some wanted.name)

def choice (r : Readers) : Nat → Reading Script
  | 0 => return .skip
  | fuel + 1 => do
    let nested := nestedOf r
    let condition ← r.list .body
    require nested (.keyword "then") false
    let positive ← r.list .body
    let found ← token nested false false
    if found.isKeyword "elif" then return .choice condition positive (← choice r fuel)
    else if found.isKeyword "else" then
      return .choice condition positive (← r.list .body)
    else
      push found
      return .choice condition positive .skip

def loopBody (r : Readers) (newlines : Bool) : Reading Script := do
  require (nestedOf r) (.keyword "do") newlines
  let body ← r.list .body
  require (nestedOf r) (.keyword "done") false
  return body

def each (r : Readers) (line : Nat) : Reading Script := do
  let nested := nestedOf r
  match ← token nested false false with
  | .word w =>
    match (Word.bare? w).filter isName with
    | none => fail .loopVariable
    | some name =>
      let found ← token nested true true
      if found.isKeyword "in" then
        let words ← many do
          match ← token nested false false with
          | .word w => return some w
          | other =>
            push other
            return none
        let closing ← token nested false false
        if closing.isNewline then takeDocuments nested
        if closing.isNewline || closing.isSymbol ";" then
          return .each line name words (← loopBody r true)
        else refuse closing none
      else
        if !found.isSymbol ";" then push found
        return .each line name [[.parameter "@" .plain [] true]] (← loopBody r true)
  | _ => fail .loopVariable

def wordOf : Token → Word
  | .word w => w
  | .keyword text => [.text text false]
  | _ => []

def patterns (nested : Nested) : Nat → Token → List Word → Reading (List Word)
  | 0, _, done => return done.reverse
  | fuel + 1, first, done => do
    let done := wordOf first :: done
    let found ← token nested false false
    if found.isSymbol "|" then patterns nested fuel (← token nested false false) done
    else if found.isSymbol ")" then return done.reverse
    else refuse found (some (Token.symbol ")").name)

def branches (r : Readers) : Nat → List (List Word × Script) →
    Reading (List (List Word × Script))
  | 0, done => return done.reverse
  | fuel + 1, done => do
    let nested := nestedOf r
    let found ← token nested true true
    if found.isKeyword "esac" then return done.reverse
    else
      let first ← if found.isSymbol "(" then token nested false false else pure found
      let words ← patterns nested (← bound) first []
      let body ← r.list .optional
      let done := (words, body) :: done
      let closing ← token nested true true
      if closing.isKeyword "esac" then return done.reverse
      else if closing.isSymbol ";;" then branches r fuel done
      else refuse closing (some (Token.symbol ";;").name)

def selection (r : Readers) (line : Nat) : Reading Script := do
  let nested := nestedOf r
  match ← token nested false false with
  | .word subject =>
    require nested (.keyword "in") true
    return .selection line subject (← branches r (← bound) [])
  | found => refuse found (some (Token.word []).name)

def redirect (line : Nat) (body : Script) (redirections : List Redirection) : Script :=
  match body, redirections with
  | body, [] => body
  | .subshell line' body [], redirections => .subshell line' body redirections
  | body, redirections => .redirected line body redirections

def command (r : Readers) (keywords newlines : Bool) : Reading Script := do
  let nested := nestedOf r
  let first ← token nested keywords newlines
  let line := (← get).line
  let compound (body : Reading Script) : Reading Script := do
    let body ← body
    return redirect line body (← many (redirection? nested))
  match first with
  | .word _ | .redirection _ =>
    push first
    simple r line (← bound) ⟨[], [], []⟩
  | .symbol "(" =>
    compound do
      let body ← r.list .body
      require nested (.symbol ")") false
      return .subshell line body []
  | .keyword "\x7b" =>
    compound do
      let body ← r.list .body
      require nested (.keyword "\x7d") false
      return body
  | .keyword "if" =>
    compound do
      let body ← choice r (← bound)
      require nested (.keyword "fi") false
      return body
  | .keyword "while" =>
    compound do
      let condition ← r.list .body
      return .loop false condition (← loopBody r false)
  | .keyword "until" =>
    compound do
      let condition ← r.list .body
      return .loop true condition (← loopBody r false)
  | .keyword "for" => compound (each r line)
  | .keyword "case" => compound (selection r line)
  | other => refuse other none

/-! ## Lists of commands -/

def stages (r : Readers) : Nat → List Script → Reading (List Script)
  | 0, done => return done.reverse
  | fuel + 1, done => do
    let found ← token (nestedOf r) false false
    if found.isSymbol "|" then stages r fuel ((← command r true true) :: done)
    else
      push found
      return done.reverse

def pipeline (r : Readers) (keywords newlines : Bool) : Reading Script := do
  let first ← token (nestedOf r) keywords newlines
  let negated := first.isKeyword "!"
  if !negated then push first
  let body ← command r negated false
  let body ← match ← stages r (← bound) [body] with
    | [body] => pure body
    | bodies => pure (.pipeline bodies)
  return if negated then .negation body else body

def alternatives (r : Readers) : Nat → Script → Reading Script
  | 0, done => return done
  | fuel + 1, done => do
    let found ← token (nestedOf r) false false
    if found.isSymbol "&&" then alternatives r fuel (.both done (← pipeline r true true))
    else if found.isSymbol "||" then alternatives r fuel (.either done (← pipeline r true true))
    else
      push found
      return done

def andThen : Option Script → Script → Script
  | none, second => second
  | some first, second => .sequence first second

def listFrom (r : Readers) (kind : ListKind) : Nat → Option Script → Reading (Option Script)
  | 0, done => return done
  | fuel + 1, done => do
    let nested := nestedOf r
    let first ← token nested true (kind != .line)
    match first with
    | .newline =>
      takeDocuments nested
      return some (done.getD .skip)
    | .finish =>
      takeDocuments nested
      push .finish
      return done
    | first =>
      push first
      if (done.isSome && kind != .line || kind == .optional) && first.endsList then return done
      else
        let body ← alternatives r (← bound) (← pipeline r false false)
        let found ← token nested false false
        let done := andThen done (if found.isSymbol "&" then .background body else body)
        match found with
        | .finish =>
          takeDocuments nested
          push .finish
          return some done
        | .newline =>
          push .newline
          listFrom r kind fuel (some done)
        | found =>
          if found.isSymbol "&" || found.isSymbol ";" then listFrom r kind fuel (some done)
          else if kind == .line then refuse found none
          else
            push found
            return some done

def readers : Nat → Readers
  | 0 => ⟨fun _ => fail .openQuote, fail .openQuote⟩
  | depth + 1 =>
    let r := readers depth
    { list := fun kind => do return (← listFrom r kind (← bound) none).getD .skip
      command := command r true true }

def maxDepth : Nat := 500

end Reading

def Source.readLine? (s : Source) : Except ScriptError (Option Script × Source) :=
  Reading.listFrom (Reading.readers Reading.maxDepth) .line s.bound none s

end Interop.Shell
