import Interop.Shell.Condition
import Interop.Shell.Program.Files
import Interop.Shell.Program.Numbers
import Interop.Shell.Signal

/-!
# Programs about processes

Programs that run other programs under changed circumstances, and those that tell something
about the user, the machine or the process.
-/

namespace Interop.Shell

/-- Runs a program with its arguments in the place of the present process, or tells why it
cannot. -/
abbrev Become := List String → Act DiskError

namespace Program

def unrunStatus (e : DiskError) : Nat := if e == .missing then 127 else 126

/-! ## Environment -/

def exported (s : State) : List (String × String) :=
  s.bindings.filterMap fun v =>
    if v.exported then v.value.map fun value => (v.name, value) else none

def exportTo (name value : String) : Act Unit := Act.putVariable ⟨name, some value, true, false⟩

def removeVariable (name : String) : Act Unit :=
  modify fun s => { s with bindings := s.bindings.filter fun v => v.name != name }

def takeAssignments : List String → List (String × String) × List String
  | [] => ([], [])
  | word :: rest =>
    if word.toList.contains '=' then
      let name := word.toList.takeWhile (· != '=')
      let (more, words) := takeAssignments rest
      ((String.ofList name, String.ofList (word.toList.drop (name.length + 1))) :: more, words)
    else ([], word :: rest)

def env (become : Become) : Program := fun self args => do
  let specs : List OptionSpec :=
    [⟨'i', some "ignore-environment", false⟩, ⟨'0', some "null", false⟩,
      ⟨'u', some "unset", true⟩, ⟨'C', some "chdir", true⟩, ⟨'S', some "split-string", true⟩,
      ⟨'v', some "debug", false⟩]
  let (given, words) ← options self specs true 125 args
  let words := ((Options.value? given 'S').map fun text =>
    (text.splitOn " ").filter fun word => !word.isEmpty).getD [] ++ words
  let (bare, words) := match words with
    | "-" :: rest => (true, rest)
    | words => (false, words)
  Act.setStatus 0
  if bare || Options.has given 'i' then modify fun s => { s with bindings := [] }
  (given.filter fun o => o.letter == 'u').forM fun o => removeVariable o.value
  let (assignments, command) := takeAssignments words
  assignments.forM fun (name, value) => exportTo name value
  match Options.value? given 'C' with
  | none => pure ()
  | some path =>
    let s ← get
    match s.world.disk.status s.directory path with
    | .ok (place, .directory) => modify fun s => { s with directory := place }
    | .ok _ =>
      abort self ("cannot change directory to " ++ Quoting.always path ++ ": " ++
        DiskError.notDirectory.text) 125
    | .error e =>
      abort self ("cannot change directory to " ++ Quoting.always path ++ ": " ++ e.text) 125
  let ending := if Options.has given '0' then "\x00" else "\n"
  if command.isEmpty then
    out self (String.join ((exported (← get)).map fun (name, value) =>
      name ++ "=" ++ value ++ ending))
  else if Options.has given '0' then misuse self "cannot specify --null (-0) with command" 125
  else
    let e ← become command
    complain self (Quoting.word (command.headD "") ++ ": " ++ e.text)
    finish (unrunStatus e)

def printenv : Program := fun self args => do
  let (given, names) ← options self [⟨'0', some "null", false⟩] true 2 args
  let ending := if Options.has given '0' then "\x00" else "\n"
  let found := exported (← get)
  if names.isEmpty then
    out self (String.join (found.map fun (name, value) => name ++ "=" ++ value ++ ending))
    Act.setStatus 0
  else
    let values := names.map fun name => (found.find? fun v => v.1 == name).map Prod.snd
    out self (String.join (values.filterMap id |>.map fun value => value ++ ending))
    Act.setStatus (if values.all Option.isSome then 0 else 1)

/-! ## Changed circumstances -/

def adjustments : List String → List String
  | arg :: rest =>
    match arg.toList with
    | '-' :: '-' :: c :: cs =>
      if c.isDigit then ("-n-" ++ String.ofList (c :: cs)) :: adjustments rest else arg :: rest
    | '-' :: c :: cs =>
      if c.isDigit || (c == '+' && cs.head?.any Char.isDigit) then
        ("-n" ++ String.ofList (c :: cs)) :: adjustments rest
      else if arg == "-n" then arg :: rest.take 1 ++ adjustments (rest.drop 1)
      else arg :: rest
    | _ => arg :: rest
  | [] => []
  termination_by args => args.length

def nice (become : Become) : Program := fun self args => do
  let (given, command) ← options self [⟨'n', some "adjustment", true⟩] true 125 (adjustments args)
  Act.setStatus 0
  let wrong := given.find? fun o => (Condition.integer? o.value).isNone
  match wrong, command with
  | some o, _ => abort self ("invalid adjustment " ++ Quoting.word o.value) 125
  | none, [] =>
    if given.isEmpty then out self "0\n"
    else misuse self "a command must be given with an adjustment" 125
  | none, command =>
    let e ← become command
    complain self (Quoting.word (command.headD "") ++ ": " ++ e.text)
    finish (unrunStatus e)

def nohup (become : Become) : Program := fun self args => do
  let (_, command) ← options self [] true 125 args
  if command.isEmpty then missingOperand self 125
  else
    modify fun s => { s with traps := (1, "") :: s.traps.filter fun entry => entry.1 != 1 }
    let e ← become command
    complain self ("failed to run command " ++ Quoting.always (command.headD "") ++ ": " ++ e.text)
    finish (unrunStatus e)

def signalOf? (text : String) : Option Nat :=
  let bare := if (text.map Char.toUpper).startsWith "SIG" then (text.drop 3).toString else text
  Signal.number? bare true

def withdraw (sent : List Nat) : Act Unit :=
  Act.modifyWorld fun w =>
    { w with dispatches := w.dispatches.map fun d =>
        if sent.contains d.number then { d with receiver := 0 } else d }

def timeout (become : Become) : Program := fun self args => do
  let (given, words) ← options self
    [⟨'s', some "signal", true⟩, ⟨'k', some "kill-after", true⟩, ⟨'v', some "verbose", false⟩,
      ⟨'p', some "preserve-status", false⟩, ⟨'g', some "foreground", false⟩] true 125 args
  let signalText := (Options.value? given 's').getD "TERM"
  match Options.value? given 'k' with
  | some text =>
    if (interval? text).isNone then misuse self ("invalid time interval " ++ Quoting.word text) 125
  | none => pure ()
  match signalOf? signalText, words with
  | none, _ => misuse self (Quoting.word signalText ++ ": invalid signal") 125
  | some _, [] | some _, [_] =>
    hint self
    finish 125
  | some signal, text :: command =>
    match interval? text with
    | none => misuse self ("invalid time interval " ++ Quoting.word text) 125
    | some limit =>
      let toGroup := !Options.has given 'g'
      if toGroup then modify fun s => { s with group := s.pid }
      let s ← get
      let began := s.world.elapsed
      let receiver := if toGroup then s.pid else s.world.nextPid
      let last := ((Options.value? given 'k').bind interval?).getD 0
      let first := s.world.dispatches.length
      if limit != 0 then Act.send ⟨limit⟩ toGroup receiver signal
      if limit != 0 && last != 0 then
        Act.send ⟨limit + last⟩ toGroup receiver Signal.kill
      let sent := (List.range ((← get).world.dispatches.length - first)).map (· + first)
      match ← Act.fork (become command) with
      | .ok e =>
        complain self
          ("failed to run command " ++ Quoting.word (command.headD "") ++ ": " ++ e.text)
        withdraw sent
        finish (unrunStatus e)
      | .error fate =>
        let elapsed := (← get).world.elapsed.nanos - began.nanos
        if fate == .endless then
          Act.waitForever
        else
          let isLate := limit != 0 && limit ≤ elapsed
          let isKilled := isLate && (signal == Signal.kill || (last != 0 && limit + last ≤ elapsed))
          withdraw sent
          if isLate && Options.has given 'v' then
            complain self ("sending signal " ++ Signal.name signal ++ " to command " ++
              Quoting.word (command.headD ""))
          if isKilled && toGroup then Act.leave (.killed Signal.kill)
          else
            match fate with
            | .code n => finish (if isLate && !Options.has given 'p' then 124 else n)
            | .signal n =>
              if !isLate then Act.leave (.killed n)
              else if Options.has given 'p' || isKilled then finish (128 + n)
              else finish 124
            | .endless => finish 124

/-! ## Arguments from input -/

inductive ItemProblem
  | openQuote (double : Bool)

/-- Arguments under construction: finished ones, last first, and the open one, last character
first. -/
structure Items where
  done : List String
  current : Option (List Char)

def Items.close (i : Items) : Items :=
  match i.current with
  | some cs => ⟨String.ofList cs.reverse :: i.done, none⟩
  | none => i

def Items.add (i : Items) (cs : List Char) : Items :=
  { i with current := some (cs.reverse ++ i.current.getD []) }

def readItems (lines : Bool) : Nat → List Char → Items → Except ItemProblem (List String)
  | 0, _, i => .ok i.close.done.reverse
  | _ + 1, [], i => .ok i.close.done.reverse
  | fuel + 1, c :: cs, i =>
    if c == '\'' || c == '"' then
      let body := cs.takeWhile (· != c)
      if body.length == cs.length || body.contains '\n' then .error (.openQuote (c == '"'))
      else readItems lines fuel (cs.drop (body.length + 1)) (i.add body)
    else if c == '\\' then readItems lines fuel (cs.drop 1) (i.add (cs.take 1))
    else if c == '\n' || (isBlank c && !lines) then readItems lines fuel cs i.close
    else if isBlank c && i.current.isNone then readItems lines fuel cs i
    else readItems lines fuel cs (i.add [c])

def batches (size : Nat) : Nat → List String → List (List String)
  | 0, _ => []
  | _ + 1, [] => []
  | fuel + 1, items => items.take size :: batches size fuel (items.drop size)

def replaceText (mark value text : String) : String :=
  if mark.isEmpty then text else value.intercalate (text.splitOn mark)

/-- Runs commands one after another; one of them may end this. -/
def runBatches (become : Become) (self : String) (traces : Bool) : List (List String) → Act Unit
  | [] => return ()
  | command :: rest => do
    let name := command.headD ""
    if traces then Act.complainRaw (" ".intercalate command ++ "\n")
    let result ← Act.fork do
      let number ← Act.openFile (.ofTarget (.device .null))
      Act.direct 0 (some number)
      become command
    match result with
    | .ok e => abort self (name ++ ": " ++ e.text) (unrunStatus e)
    | .error .endless => Act.waitForever
    | .error (.signal n) => abort self (name ++ ": terminated by signal " ++ toString n) 125
    | .error (.code 0) => runBatches become self traces rest
    | .error (.code 255) => abort self (name ++ ": exited with status 255; aborting") 124
    | .error (.code _) =>
      Act.setStatus 123
      runBatches become self traces rest

def xargs (become : Become) : Program := fun self args => do
  let (given, words) ← options self
    [⟨'n', some "max-args", true⟩, ⟨'I', some "replace", true⟩, ⟨'0', some "null", false⟩,
      ⟨'r', some "no-run-if-empty", false⟩, ⟨'t', some "verbose", false⟩,
      ⟨'L', some "max-lines", true⟩, ⟨'d', some "delimiter", true⟩, ⟨'P', some "max-procs", true⟩,
      ⟨'s', some "max-chars", true⟩, ⟨'x', some "exit", false⟩, ⟨'p', none, false⟩] true 1 args
  Act.setStatus 0
  let has := Options.has given
  let wrong := given.find? fun o => (o.letter == 'n' || o.letter == 'L') && o.value.toNat?.isNone
  let zero := given.find? fun o => (o.letter == 'n' || o.letter == 'L') && o.value.toNat? == some 0
  match wrong, zero with
  | some o, _ =>
    misuse self ("invalid number \"" ++ o.value ++ "\" for -" ++ o.letter.toString ++ " option") 1
  | none, some o =>
    misuse self ("value 0 for -" ++ o.letter.toString ++ " option should be >= 1") 1
  | none, none =>
    let (text, ends) ← Act.readAll 0
    if !ends then Act.waitForever
    let separator := if has '0' then some (Char.ofNat 0)
      else (Options.value? given 'd').map fun text =>
        match text.toList with
        | ['\\', 'n'] => '\n'
        | ['\\', '0'] => Char.ofNat 0
        | ['\\', 't'] => '\t'
        | c :: _ => c
        | [] => '\n'
    let byLine := has 'I' || has 'L'
    let found : Except ItemProblem (List String) := match separator with
      | some c =>
        let parts := text.splitOn c.toString
        .ok (if parts.getLast? == some "" then parts.dropLast else parts)
      | none => readItems byLine (text.length + 1) text.toList ⟨[], none⟩
    match found with
    | .error (.openQuote double) =>
      abort self ("unmatched " ++ (if double then "double" else "single") ++
        " quote; by default quotes are special to xargs unless you use the -0 option") 1
    | .ok items =>
      let command := if words.isEmpty then ["echo"] else words
      match Options.value? given 'I' with
      | some mark =>
        runBatches become self (has 't')
          (items.map fun item => command.map (replaceText mark item))
      | none =>
        let size := ((Options.value? given 'n').bind String.toNat?).getD
          (((Options.value? given 'L').bind String.toNat?).getD (items.length + 1))
        let groups := batches size (items.length + 1) items
        let groups := if groups.isEmpty && !has 'r' then [[]] else groups
        let split (group : List String) : List String :=
          if has 'L' then group.flatMap fun (line : String) =>
            (line.splitOn " ").filter fun word => !word.isEmpty
          else group
        runBatches become self (has 't') (groups.map fun group => command ++ split group)

/-! ## Looking for programs -/

def standardDirectories : String := "/bin:/usr/bin"

def searchDirectories (s : State) : List String :=
  let path := match s.bindings.find? fun v => v.name == "PATH" with
    | some v => v.value.getD standardDirectories
    | none => standardDirectories
  path.splitOn ":"

def isRunnable (s : State) (path : String) : Bool :=
  match s.world.disk.status s.directory path with
  | .ok (_, .program _) | .ok (_, .file _ true) => true
  | _ => false

def candidates (s : State) (name : String) : List String :=
  if name.toList.contains '/' then [name].filter (isRunnable s)
  else
    let paths := (searchDirectories s).map fun directory =>
      if directory.isEmpty then "./" ++ name else directory ++ "/" ++ name
    if name.isEmpty then [] else paths.filter (isRunnable s)

def which : Program := fun self args => do
  let given := args.takeWhile fun arg => arg.startsWith "-" && arg != "--"
  let names := (args.drop given.length).filter fun arg => arg != "--"
  let letters := given.flatMap fun arg => arg.toList.drop 1
  match letters.find? fun c => c != 'a' && c != 's' with
  | some c =>
    Act.complainRaw ("Illegal option -" ++ c.toString ++ "\n")
    out self "Usage: /usr/bin/which [-as] args\n"
    finish 2
  | none =>
    let s ← get
    let found := names.map (candidates s)
    let shown := found.flatMap fun paths => if letters.contains 'a' then paths else paths.take 1
    if !letters.contains 's' then out self (joinLines shown)
    Act.setStatus (if names.isEmpty || found.any List.isEmpty then 1 else 0)

/-! ## Users and machines -/

def refuseOperands (self : String) (words : List String) (status : Nat) : Act Unit :=
  match words with
  | [] => return ()
  | word :: _ => misuse self ("extra operand " ++ Quoting.word word) status

def fixedLine (line : String) (status : Nat) : Program := fun self args => do
  let (_, words) ← options self [] false status args
  refuseOperands self words status
  out self (line ++ "\n")
  Act.setStatus 0

def users : List (String × Nat) := [("root", 0), ("daemon", 1)]

def identify : Program := fun self args => do
  let (given, names) ← options self
    [⟨'u', some "user", false⟩, ⟨'g', some "group", false⟩, ⟨'G', some "groups", false⟩,
      ⟨'n', some "name", false⟩, ⟨'r', some "real", false⟩, ⟨'z', some "zero", false⟩,
      ⟨'a', none, false⟩] false 1 args
  Act.setStatus 0
  let has := Options.has given
  let name := names.headD "root"
  match users.find? fun user => user.1 == name || toString user.2 == name with
  | none => abort self (Quoting.word name ++ ": no such user") 1
  | some (name, number) =>
    if has 'u' || has 'g' || has 'G' then
      out self ((if has 'n' then name else toString number) ++ "\n")
    else if has 'n' || has 'r' then
      abort self "cannot print only names or real IDs in default format" 1
    else
      let text := toString number ++ "(" ++ name ++ ")"
      out self ("uid=" ++ text ++ " gid=" ++ text ++ " groups=" ++ text ++ "\n")

def uname : Program := fun self args => do
  let (given, words) ← options self (Options.specsOf "asnrvmpio".toList) false 1 args
  refuseOperands self words 1
  Act.setStatus 0
  let shows (c : Char) : Bool :=
    Options.has given 'a' || Options.has given c || (given.isEmpty && c == 's')
  let parts := [('s', "Linux"), ('n', "localhost"), ('r', "6.1.0"), ('v', "#1 SMP"),
    ('m', "x86_64"), ('p', "x86_64"), ('i', "x86_64"), ('o', "GNU/Linux")]
  out self (" ".intercalate ((parts.filter fun part => shows part.1).map Prod.snd) ++ "\n")

def tty : Program := fun self args => do
  let (given, words) ← options self [⟨'s', some "silent", false⟩] false 2 args
  refuseOperands self words 2
  if !Options.has given 's' then out self "not a tty\n"
  Act.setStatus 1

def sync : Program := fun self args => do
  let (_, paths) ← options self [⟨'d', none, false⟩, ⟨'f', none, false⟩] false 1 args
  Act.setStatus 0
  paths.forM fun path => do
    let s ← get
    match s.world.disk.status s.directory path with
    | .ok _ => return ()
    | .error e => note self ("error opening " ++ Quoting.always path ++ ": " ++ e.text) 1

def date : Program := fun self args => do
  let (given, words) ← options self
    [⟨'u', some "utc", false⟩, ⟨'d', some "date", true⟩, ⟨'R', none, false⟩, ⟨'I', none, false⟩]
    false 1 args
  Act.setStatus 0
  let now := (← get).world.elapsed.nanos / 1000000000
  let seconds := match (Options.value? given 'd').map String.toList with
    | some ('@' :: cs) => valueOf 10 cs
    | _ => now
  match words with
  | [] => out self "Thu Jan  1 00:00:00 UTC 1970\n"
  | word :: _ =>
    if word.startsWith "+" then
      let format := (word.drop 1).toString
      let text := replaceText "%s" (toString seconds) format
      out self (replaceText "%%" "%" text ++ "\n")
    else abort self ("invalid date " ++ Quoting.word word) 1

/-! ## Conditions and directories -/

def condition (brackets : Bool) : Program := fun self args => do
  let s ← get
  if brackets && args.getLast? != some "]" then
    abort self ("missing " ++ Quoting.word "]") 2
  else
    let words := if brackets then args.dropLast else args
    match Condition.programHolds ⟨s.world.disk, s.directory⟩ words with
    | .ok holds => Act.setStatus (if holds then 0 else 1)
    | .error message => abort self message 2

def pwd : Program := fun self args => do
  let (_, words) ← options self
    [⟨'L', some "logical", false⟩, ⟨'P', some "physical", false⟩] false 1 args
  if !words.isEmpty then complain self "ignoring non-option arguments"
  out self (placeText (← get).directory ++ "\n")
  Act.setStatus 0

def always (status : Nat) : Program := fun _ _ => Act.setStatus status

/-! ## Searching the disk -/

inductive Search
  | name (pattern : String)
  | kind (letter : Char)
  | path (pattern : String)
  | empty
  | print
  | delete
  | run (command : List String)
  | always (value : Bool)
  | negation (s : Search)
  | both (a b : Search)
  | either (a b : Search)
  deriving Inhabited

namespace Search

def acts : Search → Bool
  | .print | .delete | .run _ => true
  | .negation s => s.acts
  | .both a b | .either a b => a.acts || b.acts
  | _ => false

abbrev Parsing := StateT (List String) (Except String)

def operandOf (option : String) : Parsing String := do
  match ← get with
  | word :: rest =>
    set rest
    return word
  | [] => throw ("missing argument to \x60" ++ option ++ "'")

mutual

def parseEither : Nat → Parsing Search
  | 0 => throw "invalid expression"
  | fuel + 1 => do
    let first ← parseBoth fuel
    match ← get with
    | "-o" :: rest =>
      set rest
      return .either first (← parseEither fuel)
    | _ => return first

def parseBoth : Nat → Parsing Search
  | 0 => throw "invalid expression"
  | fuel + 1 => do
    let first ← parseOne fuel
    match ← get with
    | [] | "-o" :: _ | ")" :: _ => return first
    | "-a" :: rest =>
      set rest
      return .both first (← parseBoth fuel)
    | _ => return .both first (← parseBoth fuel)

def parseOne : Nat → Parsing Search
  | 0 => throw "invalid expression"
  | fuel + 1 => do
    match ← get with
    | [] => return .always true
    | word :: rest =>
      set rest
      match word with
      | "!" | "-not" => return .negation (← parseOne fuel)
      | "(" =>
        let inner ← parseEither fuel
        match ← get with
        | ")" :: rest =>
          set rest
          return inner
        | _ =>
          throw "invalid expression; I was expecting to find a ')' somewhere but did not see one."
      | "-name" => return .name (← operandOf word)
      | "-path" => return .path (← operandOf word)
      | "-type" =>
        let letter ← operandOf word
        match letter.toList with
        | [c] =>
          if "bcdpfls".toList.contains c then return .kind c
          else throw ("Unknown argument to -type: " ++ letter)
        | _ => throw ("Unknown argument to -type: " ++ letter)
      | "-empty" => return .empty
      | "-print" => return .print
      | "-delete" => return .delete
      | "-true" => return .always true
      | "-false" => return .always false
      | "-maxdepth" | "-mindepth" =>
        let _ ← operandOf word
        return .always true
      | "-exec" =>
        let words ← get
        let command := words.takeWhile fun word => word != ";" && word != "+"
        set (words.drop (command.length + 1))
        if command.length == words.length then throw "missing argument to \x60-exec'"
        else return .run command
      | _ =>
        if word.startsWith "-" then throw ("unknown predicate \x60" ++ word ++ "'")
        else throw ("paths must precede expression: \x60" ++ word ++ "'")

end

def holds (become : Become) (self text : String) (place : Path) (entry : Entry) :
    Search → Act Bool
  | .always value => return value
  | .name pattern =>
    return (Glob.ofGlyphs (pattern.toList.map fun c => ⟨c, false⟩)).fits (lastName text).toList
  | .path pattern =>
    return (Glob.ofGlyphs (pattern.toList.map fun c => ⟨c, false⟩)).fits text.toList
  | .kind letter =>
    return match entry with
      | .directory => letter == 'd'
      | .link _ => letter == 'l'
      | .device _ => letter == 'c'
      | _ => letter == 'f'
  | .empty => do
    let d ← disk
    return match entry with
      | .directory => (d.namesIn place).isEmpty
      | .file content _ => content.isEmpty
      | _ => false
  | .print => do
    out self (text ++ "\n")
    return true
  | .delete => do
    Act.modifyWorld fun w => w.setDisk (w.disk.drop place)
    return true
  | .run command => do
    let command := command.map (replaceText "\x7b\x7d" text)
    match ← Act.fork (become command) with
    | .ok e =>
      complain self (Quoting.word (command.headD "") ++ ": " ++ e.text)
      return false
    | .error fate => return fate == .code 0
  | .negation s => do return !(← holds become self text place entry s)
  | .both a b => do
    if ← holds become self text place entry a then holds become self text place entry b
    else return false
  | .either a b => do
    if ← holds become self text place entry a then return true
    else holds become self text place entry b

end Search

def depthOf? (name : String) : List String → Option Nat
  | word :: value :: rest => if word == name then value.toNat? else depthOf? name (value :: rest)
  | _ => none

def find (become : Become) : Program := fun self args => do
  let starts := args.takeWhile fun arg => !arg.startsWith "-" && arg != "(" && arg != "!"
  let words := args.drop starts.length
  let parsed : Except String (Search × List String) :=
    if words.isEmpty then .ok (.always true, [])
    else (Search.parseEither (3 * words.length + 3)).run words
  Act.setStatus 0
  match parsed with
  | .error e => abort self e 1
  | .ok (search, _ :: _) =>
    let _ := search
    abort self "invalid expression; you have used a binary operator '-o' with nothing before it." 1
  | .ok (search, []) =>
    let search := if search.acts then search else .both search .print
    (if starts.isEmpty then ["."] else starts).forM fun start => do
      let s ← get
      match s.world.disk.linkStatus s.directory start with
      | .error e => note self (Quoting.word start ++ ": " ++ e.text) 1
      | .ok (place, entry) =>
        let found := (start, place, entry) :: (descendants s.world.disk start place).reverse.filter
          fun entry => entry.2.1 != place
        let deepFirst := (words.contains "-delete")
        let ordered := if deepFirst then found.reverse else found
        ordered.forM fun (text, path, entry) => do
          let depth := path.length - place.length
          if (depthOf? "-maxdepth" words).all (depth ≤ ·) &&
              (depthOf? "-mindepth" words).all (· ≤ depth) then
            let _ ← search.holds become self text path entry

end Program

end Interop.Shell
