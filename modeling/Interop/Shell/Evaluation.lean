import Interop.Shell.Builtin
import Interop.Shell.Program.Search
import Interop.Shell.Program.Text
import Interop.Shell.Script.Reader
import Interop.Shell.Stream

/-!
# Evaluation

A script is evaluated by the shell itself or, in parts, by processes of their own: subshells,
stages of pipelines, commands in the background and inside words.  Evaluation takes fuel, which
bounds how deep scripts are nested when they run.
-/

namespace Interop.Shell

structure Mode where
  tested : Bool
  last : Bool
  deriving DecidableEq, Repr, Inhabited

abbrev Run := Mode → Script → Act Unit

namespace Evaluation

/-! ## Common parts -/

/-- Does something at the end, however a command is left. -/
def ensuring (body after : Act Unit) : Act Unit := do
  Act.catchLeave body fun flow => do
    after
    Act.leave flow
  after

def isEndless (w : World) : Bool :=
  w.steps == 0 ||
    (w.steps + State.briskness < State.patience && State.longTime.nanos < w.elapsed.nanos)

/-- Counts a step.  A shell that does not rest goes on until a signal arrives. -/
def tick : Act Unit := do
  let s ← get
  if isEndless s.world then Act.waitForever
  else if State.restlessness ≤ s.world.restless then
    match (Act.arrived s none).find? fun d => s.world.elapsed.nanos < d.time.nanos with
    | some d => Act.waitUntil d.time
    | none => Act.waitForever
  else
    Act.modifyWorld fun w => { w with steps := w.steps - 1, restless := w.restless + 1 }

/-- Runs the lines of a source one after another; whether there was a command. -/
def runLines (run : Run) (tested : Bool) : Nat → Source → Bool → Act Bool
  | 0, _, ran => return ran
  | fuel + 1, source, ran => do
    match ({ source with aliases := (← get).aliases } : Source).readLine? with
    | .error e =>
      modify fun s => { s with line := e.line }
      Act.fail e.message
    | .ok (none, _) => return ran
    | .ok (some script, source) =>
      Act.modifyWorld fun w =>
        { w with
          documents := source.documents ++ w.documents
          nextDocument := max w.nextDocument source.nextDocument }
      let isCommand := match script with
        | .skip => false
        | _ => true
      run ⟨tested, false⟩ script
      runLines run tested fuel { source with documents := [] } (ran || isCommand)

def runText (run : Run) (tested : Bool) (text : String) : Act Unit := do
  let s ← get
  let ran ← runLines run tested (text.length + State.patience)
    (Source.ofText text s.world.nextDocument) false
  if !ran then Act.setStatus 0

def checkTraps (run : Run) : Act Unit := do
  let s ← get
  if s.world.dispatches.length == s.noticed.length then return ()
  else
    let actions ← Act.notice (s.world.dispatches.length + 1) []
    actions.forM fun (_, action) => do
      let s ← get
      let status := s.trapStatus.getD s.status
      modify fun s => { s with trapStatus := some status }
      ensuring (runText run false action) (modify fun t => { t with trapStatus := s.trapStatus })
      Act.setStatus status

/-- Ends a shell: the action for its end runs, and the status stays unless that action says
otherwise. -/
def conclude (run : Run) (body : Act Unit) : Act Unit := do
  Act.catchLeave body fun flow =>
    match flow with
    | .killed _ | .endless => Act.leave flow
    | _ => pure ()
  let s ← get
  match s.traps.find? fun entry => entry.1 == 0 with
  | none => Act.leave .exits
  | some (_, action) =>
    modify fun t =>
      { t with
        traps := t.traps.filter fun entry => entry.1 != 0
        trapStatus := some s.status, command := none, loops := 0 }
    Act.catchLeave
      (do
        runText run false action
        Act.setStatus s.status)
      fun flow =>
        match flow with
        | .killed _ | .endless => Act.leave flow
        | .exits | .fails => pure ()
        | _ => Act.setStatus s.status
    Act.leave .exits

def settle (fate : Fate) : Act Unit := do
  match fate with
  | .endless => Act.waitForever
  | fate =>
    Builtin.mourn fate
    Act.setStatus fate.status

def subshell (run : Run) (tested : Bool) (script : Script) : Act Unit :=
  conclude run (run ⟨tested, true⟩ script)

/-! ## Commands inside words -/

def outputOf (run : Run) : Act.Output := fun script => do
  let _ ← Act.takeSlot
  let before ← get
  let number ← Act.openFile { OpenFile.ofTarget .pipe with readable := false }
  let fate ← Act.spawn do
    Act.direct 1 (some number)
    subshell run false script
  Act.modifyWorld fun w =>
    { w with files := w.files.modify number (OpenFile.close w.elapsed (fate == .endless)) }
  let file := ((← get).world.files[number]?).getD (OpenFile.ofTarget .pipe)
  let content := file.content
  Act.waitUntil file.closed
  Act.restore before []
  Act.collectJobs
  Act.announceEnd (← get).world.elapsed
  let status := (← get).status
  settle (if file.endless then .endless else fate)
  modify fun s => { s with substituted := s.status, status }
  let cs := content.toList.filter (· != Char.ofNat 0)
  return String.ofList (cs.reverse.dropWhile (· == '\n')).reverse

def expandString (run : Run) (text : String) : Act String := do
  let reader := Reading.wordIn (Reading.nestedOf (Reading.readers Reading.maxDepth)) .document
  match reader.run (Source.ofText text 0) with
  | .ok (w, _) => Act.expandText (outputOf run) w
  | .error _ => return text

/-! ## Programs -/

def programs (become : Become) : List (String × Program) :=
  [("true", Program.always 0), ("false", Program.always 1), ("echo", Program.echo),
    ("printf", Program.printf), ("yes", Program.yes), ("cat", Program.cat), ("tac", Program.tac),
    ("rev", Program.rev), ("tee", Program.tee), ("head", Program.head), ("tail", Program.tail),
    ("wc", Program.wc), ("tr", Program.tr), ("cut", Program.cut), ("sort", Program.sort),
    ("uniq", Program.uniq), ("nl", Program.nl), ("paste", Program.paste),
    ("grep", Program.grep), ("egrep", Program.grepWith (some 'E')),
    ("fgrep", Program.grepWith (some 'F')), ("sed", Program.sed), ("seq", Program.seq),
    ("expr", Program.expr), ("sleep", Program.sleep), ("ls", Program.ls),
    ("mkdir", Program.mkdir), ("rmdir", Program.rmdir), ("rm", Program.rm),
    ("touch", Program.touch), ("mktemp", Program.mktemp), ("cp", Program.cp), ("mv", Program.mv),
    ("ln", Program.ln), ("readlink", Program.readlink), ("realpath", Program.realpath),
    ("basename", Program.basename), ("dirname", Program.dirname), ("chmod", Program.chmod),
    ("cmp", Program.cmp), ("printenv", Program.printenv), ("which", Program.which),
    ("id", Program.identify), ("whoami", Program.fixedLine "root" 1),
    ("arch", Program.fixedLine "x86_64" 1), ("nproc", Program.fixedLine "8" 1),
    ("hostname", fun self _ => do
      Program.out self "localhost\n"
      Act.setStatus 0),
    ("uname", Program.uname), ("tty", Program.tty), ("sync", Program.sync),
    ("date", Program.date), ("test", Program.condition false), ("[", Program.condition true),
    ("pwd", Program.pwd), ("env", Program.env become), ("nice", Program.nice become),
    ("nohup", Program.nohup become), ("timeout", Program.timeout become),
    ("xargs", Program.xargs become), ("find", Program.find become)]

def shellNames : List String := ["sh", "dash", "bash"]

def initialVariables (s : State) : List Variable :=
  let inherited := s.bindings.filter fun v => v.exported && v.value.isSome && isName v.name
  let own : List Variable :=
    [⟨"IFS", some Atom.standardSeparators, false, false⟩, ⟨"OPTIND", some "1", false, false⟩,
      ⟨"PPID", some (toString s.parent), false, false⟩, ⟨"PS1", some "# ", false, false⟩,
      ⟨"PS2", some "> ", false, false⟩, ⟨"PS4", some "+ ", false, false⟩]
  let standard : List Variable :=
    [⟨"PATH", some State.systemPath, false, false⟩]
  let missing := standard.filter fun v => !inherited.any fun other => other.name == v.name
  let inherited := inherited.filter fun v => !own.any fun other => other.name == v.name
  own ++ missing ++ inherited.map fun v => { v with readOnly := false }

def becomeShell (name : String) : Act Unit := do
  modify fun s =>
    { s with
      shellPid := s.pid, name, args := [], bindings := initialVariables s, functions := []
      aliases := [], status := 0, hashed := [], settings := [], line := 0, command := none
      loops := 0, functionDepth := 0, hidden := [], jobs := [], lastJob := none
      trapStatus := none, substituted := 0, optionPlace := .beginning, outbox := "" }
  let s ← get
  let shown := ((s.bindings.find? fun v => v.name == "PWD").bind Variable.value).getD ""
  let isRight := shown.startsWith "/" && match s.world.disk.status [] shown with
    | .ok (place, .directory) => place == s.directory
    | _ => false
  let logical := if isRight then shown else Program.placeText s.directory
  modify fun s => { s with logical }
  Act.putVariable ⟨"PWD", some logical, true, false⟩

def shellOptions : Nat → List String → Bool → Act (List String × Bool)
  | 0, args, fromArgument => return (args, fromArgument)
  | _ + 1, [], fromArgument => return ([], fromArgument)
  | fuel + 1, arg :: rest, fromArgument => do
    let unknown (text : String) : Act Unit := Act.fail ("Illegal option " ++ text)
    match arg.toList with
    | '-' :: [] | ['-', '-'] => return (rest, fromArgument)
    | sign :: letters =>
      if sign == '-' || sign == '+' then
        let kept := String.ofList (sign :: letters.filter fun c => c != 'c' && c != 'l')
        let isScript := letters.contains 'c'
        let named := letters.contains 'o'
        let _ ← Builtin.readSettings unknown 1 (if named then kept :: rest.take 1 else [kept])
        shellOptions fuel (if named then rest.drop 1 else rest) (fromArgument || isScript)
      else return (arg :: rest, fromArgument)
    | [] => return (arg :: rest, fromArgument)

def runShell (run : Run) (args : List String) : Act Unit := do
  let (words, fromArgument) ← shellOptions (args.length + 1) args false
  if fromArgument then
    match words with
    | [] => Act.fail "-c requires an argument"
    | text :: rest =>
      modify fun s => { s with line := 1 }
      match rest with
      | name :: args => modify fun s => { s with name, args }
      | [] => pure ()
      runText run false text
  else
    match words with
    | file :: args =>
      if (← get).settings.contains 's' then
        modify fun s => { s with args := words }
        fromInput
      else
        match ← Program.contentOf file with
        | .error .isDirectory =>
          modify fun s => { s with name := file, args }
          Act.setStatus 0
        | .error e => Act.fail ("cannot open " ++ file ++ ": " ++ Act.openingText false e)
        | .ok (text, _) =>
          modify fun s => { s with name := file, args, line := 1 }
          runText run false text
    | [] => fromInput
where
  fromInput : Act Unit := do
    let (text, ends) ← Act.readAll 0
    if !ends then Act.waitForever
    Builtin.setSetting true 's'
    modify fun s => { s with line := 1 }
    runText run false text

def shell (run : Run) : Program := fun self args => do
  becomeShell self
  conclude run (runShell run args)

/-! ## Running programs -/

def resolve (s : State) (name : String) : Except DiskError String :=
  if name.toList.contains '/' then
    match s.world.disk.status s.directory name with
    | .error e => .error e
    | .ok _ => if Program.isRunnable s name then .ok name else .error .denied
  else
    match Program.candidates s name with
    | path :: _ => .ok path
    | [] =>
      let paths := (Program.searchDirectories s).map fun directory => directory ++ "/" ++ name
      let found := paths.map fun path => s.world.disk.status s.directory path
      if found.any Except.toBool then .error .denied
      else
        let hard := found.findSome? fun result =>
          match result with
          | .error .missing | .error .notDirectory | .ok _ => none
          | .error e => some e
        .error (hard.getD .missing)

def interpreter? (content : String) : Option (List String) :=
  match content.toList with
  | '#' :: '!' :: rest =>
    let first := (rest.takeWhile (· != '\n')).dropWhile isBlank
    let line := (first.reverse.dropWhile isBlank).reverse
    let program := line.takeWhile fun c => !isBlank c
    let arg := (line.drop program.length).dropWhile isBlank
    some (String.ofList program :: if arg.isEmpty then [] else [String.ofList arg])
  | _ => none

def maxInterpreters : Nat := 5

def execute (run : Run) (become : Become) : Nat → String → List String → Act DiskError
  | 0, _, _ => return .tooManyLinks
  | fuel + 1, path, argv => do
    let s ← get
    let self := argv.headD ""
    let args := argv.tail
    let began : Act Unit := modify fun s =>
      { s with traps := s.traps.filter fun entry => entry.1 != 0 && entry.2.isEmpty }
    match s.world.disk.status s.directory path with
    | .error e => return e
    | .ok (_, .program name) =>
      began
      if shellNames.contains name then shell run self args
      else
        match (programs become).find? fun entry => entry.1 == name with
        | some (_, program) => Act.mortally (program self args)
        | none => return .notExecutable
      Act.leave .exits
    | .ok (_, .file content true) =>
      match interpreter? content with
      | some words => execute run become fuel (words.headD "") (words ++ path :: args)
      | none =>
        began
        shell run self (path :: args)
        Act.leave .exits
    | .ok _ => return .denied

def becomeBy (run : Run) : Nat → Become
  | 0, _ => return .tooManyLinks
  | fuel + 1, argv => do
    match resolve (← get) (argv.headD "") with
    | .error e => return e
    | .ok path => execute run (becomeBy run fuel) maxInterpreters path argv

def maxPrograms : Nat := 40

def become (run : Run) : Become := becomeBy run maxPrograms

def unrunStatus (e : DiskError) : Nat :=
  match e with
  | .missing | .notDirectory | .tooManyLinks => 127
  | _ => 126

def unrunText (e : DiskError) : String :=
  match e with
  | .missing | .notDirectory => "not found"
  | e => e.text

def runProgram (run : Run) (mode : Mode) (argv : List String) : Act Unit := do
  let s ← get
  let name := argv.headD ""
  let isPath := name.toList.contains '/'
  match if isPath then .ok name else resolve s name with
  | .error e =>
    let e := if name.isEmpty then .denied else e
    Act.warn (name ++ ": " ++ unrunText e)
    Act.setStatus 127
  | .ok path =>
    Builtin.remember name path
    let attempt : Act Unit := do
      let e ← become run argv
      Act.warn (name ++ ": " ++ unrunText e)
      Act.setStatus (unrunStatus e)
      Act.leave .exits
    if mode.last && !s.traps.any fun entry => !entry.2.isEmpty then attempt
    else settle (← Act.attend attempt)

/-! ## Commands of the shell that run scripts -/

def scriptText (name : String) : Act String := do
  let s ← get
  let path? :=
    if name.toList.contains '/' then some name
    else
      let places := (Program.searchDirectories s).map fun directory => directory ++ "/" ++ name
      places.find? fun path =>
        match s.world.disk.status s.directory path with
        | .ok (_, .file _ _) | .ok (_, .device _) => true
        | _ => false
  match path? with
  | none => Act.fail (name ++ ": not found")
  | some path =>
    match ← Program.contentOf path with
    | .ok (text, _) => return text
    | .error .isDirectory => return ""
    | .error e => Act.fail ("cannot open " ++ path ++ ": " ++ Act.openingText false e)

def source (run : Run) : Builtin := fun args => do
  match args with
  | [] => Act.setStatus 0
  | name :: _ =>
    let text ← scriptText name
    Act.catchLeave (runText run false text) fun flow =>
      if flow == .returns then pure () else Act.leave flow

def showCommand : Builtin := fun args => do
  let (given, words) ← Builtin.options "pvV" args
  Act.setStatus 0
  match words with
  | [] => pure ()
  | name :: _ =>
    let s ← get
    if Shell.Options.has given 'V' then Builtin.type [name]
    else if Shell.Options.has given 'v' then
      match Builtin.briefly s name with
      | some text =>
        Builtin.lookUp name
        Act.say (text ++ "\n")
      | none => Act.setStatus 127

def builtin? (run : Run) (mode : Mode) (name : String) : Option Builtin :=
  match name with
  | "eval" => some fun args => runText run mode.tested (" ".intercalate args)
  | "." => some (source run)
  | "command" => some showCommand
  | "exec" => some fun args =>
    if args.isEmpty then Act.setStatus 0
    else do
      let e ← become run args
      Act.warn (args.headD "" ++ ": " ++ unrunText e)
      Act.setStatus (unrunStatus e)
      Act.leave .exits
  | name => (Builtin.table.find? fun entry => entry.1 == name).map Prod.snd

/-- Runs a command of the shell.  An error in one that is not special ends only the command. -/
def runBuiltin (isSpecial : Bool) (name : String) (body : Act Unit) : Act Unit := do
  let before := (← get).command
  modify fun s => { s with command := some name, outbox := "" }
  let back : Act Unit := modify fun s => { s with command := before }
  let whole : Act Unit := do
    body
    if !(← Act.sendOut) then
      Act.warn (name ++ ": I/O error")
      Act.setStatus (Nat.lor (← get).status 1)
  Act.catchLeave whole fun flow => do
    back
    let _ ← Act.sendOut
    if flow == .fails && !isSpecial then pure () else Act.leave flow
  back

/-! ## Functions -/

def maxFunctionDepth : Nat := 1000

def callFunction (run : Run) (mode : Mode) (body : Script) (args : List String) : Act Unit := do
  let before ← get
  if maxFunctionDepth ≤ before.functionDepth then
    Act.fail ("Maximum function recursion depth (" ++ toString maxFunctionDepth ++ ") reached")
  else
    modify fun s =>
      { s with
        args, loops := 0, functionDepth := s.functionDepth + 1, optionPlace := .beginning }
    let back : Act Unit := modify fun s =>
      { s with
        args := before.args, loops := before.loops, functionDepth := before.functionDepth
        optionPlace := before.optionPlace }
    Act.catchLeave (run ⟨mode.tested, false⟩ body) fun flow => do
      back
      if flow == .returns then pure () else Act.leave flow
    back

/-! ## Simple commands -/

inductive Meaning
  | function (body : Script)
  | builtin (name : String)
  | program

def meaning (s : State) (skipsFunctions : Bool) (name : String) : Meaning :=
  match s.functions.find? fun f => f.1 == name with
  | some (_, body) =>
    if skipsFunctions then if Builtin.isBuiltin name then .builtin name else .program
    else .function body
  | none => if Builtin.isBuiltin name then .builtin name else .program

/-- Leaves out `command` with its options before another command; whether there was one. -/
def stripCommand : Nat → Bool → List String → List String × Bool
  | 0, stripped, argv => (argv, stripped)
  | fuel + 1, stripped, argv =>
    match argv with
    | "command" :: rest =>
      match skipPath (rest.length + 1) rest with
      | some (name :: args) => stripCommand fuel true (name :: args)
      | _ => (argv, stripped)
    | argv => (argv, stripped)
where
  /-- Leaves out options that only concern where programs are. -/
  skipPath : Nat → List String → Option (List String)
    | 0, args => some args
    | _ + 1, [] => none
    | fuel + 1, arg :: rest =>
      if arg == "--" then some rest
      else if arg.startsWith "-" && arg != "-" then
        if arg.toList.drop 1 |>.all (· == 'p') then skipPath fuel rest else none
      else some (arg :: rest)

def declarers : List String := ["export", "readonly", "local"]

def expandDeclaration (output : Act.Output) (w : Word) : Act (List String) := do
  match Word.assignment? w with
  | some (name, value) =>
    let text ← Act.expandText output value
    return [name ++ "=" ++ text]
  | none => Act.expandWord output w

def expandCommand (output : Act.Output) : List Word → Act (List String)
  | [] => return []
  | w :: rest => do
    let fields ← Act.expandWord output w
    if fields.isEmpty then expandCommand output rest
    else
      let ahead := fields ++ rest.map fun w => (Word.bare? w).getD ""
      let name := ((stripCommand (ahead.length + 1) false ahead).1).headD ""
      let more ← rest.mapM
        (if declarers.contains name then expandDeclaration output else Act.expandWord output)
      return fields ++ more.flatten

def trace (run : Run) (before : State) (parts : List String) : Act Unit := do
  let s ← get
  if s.settings.contains 'x' then
    modify fun s => { s with settings := s.settings.filter (· != 'x') }
    let lead ← match (s.bindings.find? fun v => v.name == "PS4").bind Variable.value with
      | some text => expandString run text
      | none => pure ""
    modify fun t => { t with settings := s.settings, streams := before.streams }
    Act.complainRaw (lead ++ " ".intercalate parts ++ "\n")
    modify fun t => { t with streams := s.streams }

def assignAll (output : Act.Output) (hides : Bool) (assignments : List (String × Word)) :
    Act (List String) :=
  assignments.mapM fun (name, w) => do
    let value ← Act.expandText output w
    if hides then
      Builtin.hide name true
    Act.assign name value
    return name ++ "=" ++ value

def simple (run : Run) (mode : Mode) (line : Nat) (assignments : List (String × Word))
    (words : List Word) (redirections : List Redirection) : Act Unit := do
  tick
  modify fun s => { s with line, substituted := 0 }
  let output := outputOf run
  let fields ← expandCommand output words
  let before ← get
  let (argv, stripped) := stripCommand (fields.length + 1) false fields
  let name := argv.headD ""
  let what := meaning before stripped name
  let isBuiltin := match what with
    | .builtin _ => !argv.isEmpty
    | _ => false
  let isSpecial := isBuiltin && !stripped && Builtin.special.contains name
  let keeps := isBuiltin && name == "exec"
  let isReady ← Act.redirect output redirections
  let body : Act Unit := do
    if !isReady then
      Act.setStatus 2
      if isSpecial then Act.leave .fails
    else if argv.isEmpty then
      let shown ← assignAll output false assignments
      if !shown.isEmpty then trace run before shown
      Act.setStatus (← get).substituted
    else
      let hides := !isSpecial
      if hides then modify fun s => { s with hidden := [] :: s.hidden }
      let whole : Act Unit := do
        let shown ← assignAll output hides assignments
        trace run before (shown ++ fields)
        match what with
        | .function script => callFunction run mode script argv.tail
        | .program => runProgram run mode argv
        | .builtin name =>
          match builtin? run mode name with
          | some builtin => runBuiltin isSpecial name (builtin argv.tail)
          | none => Act.setStatus 127
      if hides then ensuring whole Builtin.reveal else whole
  if keeps && isReady then body else ensuring body (Act.restore before redirections)

/-! ## Compound commands -/

inductive LoopTurn
  | goesOn
  | stops
  deriving DecidableEq

def around (body : Act Unit) : Act (LoopTurn × Bool) :=
  Act.catchLeave
    (do
      body
      return (.goesOn, false))
    fun flow =>
      match flow with
      | .breaks n => if n ≤ 1 then return (.stops, true) else Act.leave (.breaks (n - 1))
      | .continues n => if n ≤ 1 then return (.goesOn, true) else Act.leave (.continues (n - 1))
      | flow => Act.leave flow

def looping (body : Act Unit) : Act Unit := do
  let before := (← get).loops
  modify fun s => { s with loops := before + 1 }
  ensuring body (modify fun s => { s with loops := before })

def loop (run : Run) (mode : Mode) (whileFails : Bool) (condition body : Script) :
    Nat → Nat → Act Unit
  | 0, _ => Act.waitForever
  | rounds + 1, status => do
    match ← around (run ⟨true, false⟩ condition) with
    | (.stops, _) => Act.setStatus status
    | (.goesOn, true) => loop run mode whileFails condition body rounds status
    | (.goesOn, false) =>
      let holds := ((← get).status == 0) != whileFails
      if !holds then Act.setStatus status
      else
        match ← around (run ⟨mode.tested, false⟩ body) with
        | (.stops, _) => return ()
        | (.goesOn, _) => loop run mode whileFails condition body rounds (← get).status

def each (run : Run) (mode : Mode) (name : String) (body : Script) : List String → Act Unit
  | [] => return ()
  | value :: rest => do
    Act.assign name value
    match ← around (run ⟨mode.tested, false⟩ body) with
    | (.stops, _) => return ()
    | (.goesOn, _) => each run mode name body rest

def fitsSome (output : Act.Output) (text : String) : List Word → Act Bool
  | [] => return false
  | w :: rest => do
    let pattern ← Act.expandGlyphs output w
    if (Glob.ofGlyphs pattern).fits text.toList then return true else fitsSome output text rest

def select (run : Run) (mode : Mode) (text : String) :
    List (List Word × Script) → Act Unit
  | [] => Act.setStatus 0
  | (patterns, body) :: rest => do
    if ← fitsSome (outputOf run) text patterns then
      match body with
      | .skip => Act.setStatus 0
      | body => run mode body
    else select run mode text rest

/-! ## Pipelines and jobs -/

def setElapsed (time : Span) : Act Unit :=
  Act.modifyWorld fun w => w.setElapsed time

/-- Whether a stage that goes on forever stops when nobody reads what it writes. -/
def breaksPipe (w : World) (pipe : Option Nat) : Bool :=
  match pipe.bind fun number => w.files[number]? with
  | some file => !file.content.isEmpty
  | none => false

/-- Runs the stages of a pipeline, all from the same time on; how they have ended, and when the
last of them has. -/
def stages (run : Run) (mode : Mode) (start : Span) :
    List Script → Option Nat → Span → List Fate → Act (List Fate × Span)
  | [], _, finish, fates => return (fates.reverse, finish)
  | stage :: rest, input, finish, fates => do
    setElapsed start
    let pipe ← if rest.isEmpty then pure none
      else some <$> Act.openFile (OpenFile.ofTarget .pipe)
    let fate ← Act.spawn do
      match input with
      | some number => Act.direct 0 (some number)
      | none => pure ()
      match pipe with
      | some number => Act.direct 1 (some number)
      | none => pure ()
      subshell run mode.tested stage
    let w := (← get).world
    let stops := fate == .endless && breaksPipe w pipe
    match pipe with
    | some number =>
      Act.modifyWorld fun w =>
        { w with files := w.files.modify number (OpenFile.close w.elapsed (fate == .endless)) }
    | none => pure ()
    let finish := if stops then finish else OpenFile.laterOf finish w.elapsed
    stages run mode start rest pipe finish ((if stops then .code 0 else fate) :: fates)

def pipeline (run : Run) (mode : Mode) (scripts : List Script) : Act Unit := do
  let _ ← Act.takeSlot
  let before ← get
  let (fates, finish) ← stages run mode before.world.elapsed scripts none before.world.elapsed []
  setElapsed finish
  Act.restore before []
  Act.collectJobs
  Act.announceEnd finish
  if fates.contains .endless then Act.waitForever
  else
    fates.dropLast.forM Builtin.mourn
    settle (fates.getLast?.getD (.code 0))

def redirected : Script → List Nat
  | .simple _ _ _ redirections | .subshell _ _ redirections | .redirected _ _ redirections =>
    redirections.map Act.streamOf
  | _ => []

/-- Notes that pipes stay open as long as something in the background has them. -/
def holdPipes (body : Script) (streams : List (Nat × Nat)) (fate : Fate) : Act Unit :=
  Act.modifyWorld fun w =>
    let held := streams.filter fun entry => !(redirected body).contains entry.1
    let hold (files : List OpenFile) (entry : Nat × Nat) : List OpenFile :=
      files.modify entry.2 fun file =>
        if file.target == .pipe && file.writable then
          OpenFile.close w.elapsed (fate == .endless) file
        else file
    { w with files := held.foldl hold w.files }

/-- The world after something was started in the background: what it does from now on is still
to come. -/
def afterLaunch (before after : World) : World :=
  let count := after.changes.length - before.changes.length
  let fresh := (after.changes.take count).map fun change => { change with stray := true }
  { after with
    elapsed := before.elapsed
    restless := before.restless
    files := after.files.take before.files.length
    disk := before.disk
    coming := Change.inOrder (before.coming ++ fresh.reverse)
    changes := fresh ++ after.changes.drop count }.catchUp

def stageCount : Script → Nat
  | .pipeline scripts => scripts.length
  | _ => 1

/-- Performs what is to go on in the background, to its end: how it ends.  It has no input, and
interrupts do not concern it. -/
def perform (run : Run) (body : Script) : Act Fate := do
  let before ← get
  let number ← Act.openFile (.ofTarget (.device .null))
  let settle : Act Unit := do
    Act.direct 0 (some number)
    modify fun s =>
      { s with traps := (2, "") :: (3, "") ::
          s.traps.filter fun entry => entry.1 != 2 && entry.1 != 3 }
  match body with
  | .pipeline scripts =>
    settle
    let start := before.world.elapsed
    let (fates, finish) ← stages run ⟨false, false⟩ start scripts none start []
    setElapsed finish
    let w := (← get).world
    set { before with world := w }
    return if fates.contains .endless then .endless else fates.getLast?.getD (.code 0)
  | body =>
    Act.spawn do
      settle
      subshell run false body

def background (run : Run) (body : Script) : Act Unit := do
  let before ← get
  let fate ← perform run body
  holdPipes body before.streams fate
  let w := (← get).world
  let finish := if fate == .endless then none else some (w.elapsed, fate)
  Act.modifyWorld fun w => afterLaunch before.world w
  Act.addJob before.world.nextPid (stageCount body) finish
  match finish with
  | some (time, _) => Act.announceEnd time
  | none => pure ()
  Act.setStatus 0

/-! ## Scripts -/

def checkFailure (mode : Mode) : Act Unit := do
  let s ← get
  if s.status != 0 && !mode.tested && s.settings.contains 'e' then Act.leave .exits

def evaluate : Nat → Mode → Script → Act Unit
  | 0, _, _ => Act.waitForever
  | fuel + 1, mode, script => do
    let run : Run := evaluate fuel
    let output := outputOf run
    match script with
    | .skip => checkTraps run
    | .simple line assignments words redirections =>
      checkTraps run
      if !(← get).settings.contains 'n' then
        simple run mode line assignments words redirections
        checkTraps run
        checkFailure mode
    | .sequence first second =>
      run ⟨mode.tested, false⟩ first
      run mode second
    | .both first second =>
      run ⟨true, false⟩ first
      if (← get).status == 0 then run mode second
    | .either first second =>
      run ⟨true, false⟩ first
      if (← get).status != 0 then run mode second
    | .negation body =>
      run ⟨true, false⟩ body
      Act.setStatus (if (← get).status == 0 then 1 else 0)
    | .pipeline scripts =>
      checkTraps run
      pipeline run mode scripts
      checkTraps run
      checkFailure mode
    | .background body =>
      checkTraps run
      background run body
    | .choice condition positive negative =>
      run ⟨true, false⟩ condition
      if (← get).status == 0 then run mode positive
      else
        Act.setStatus 0
        run mode negative
    | .selection line subject branches =>
      modify fun s => { s with line }
      let text ← Act.expandText output subject
      select run mode text branches
    | .loop whileFails condition body =>
      looping (loop run mode whileFails condition body (State.patience + 1) 0)
    | .each line name words body =>
      modify fun s => { s with line }
      let values ← Act.expandWords output words
      Act.setStatus 0
      looping (each run mode name body values)
    | .subshell line body redirections =>
      checkTraps run
      modify fun s => { s with line }
      let directions ← redirections.mapM (Act.prepare output)
      let whole : Act Unit := conclude run do
        directions.forM (Act.follow output)
        run ⟨mode.tested, true⟩ body
      let s ← get
      if mode.last && !s.traps.any fun entry => !entry.2.isEmpty then whole
      else settle (← Act.attend whole)
      checkTraps run
      checkFailure mode
    | .redirected line body redirections =>
      modify fun s => { s with line }
      let before ← get
      if ← Act.redirect output redirections then
        ensuring (run ⟨mode.tested, false⟩ body) (Act.restore before redirections)
      else
        Act.restore before redirections
        Act.setStatus 2
    | .define name body =>
      modify fun s =>
        { s with
          functions := (name, body) :: s.functions.filter fun f => f.1 != name
          status := 0 }

def depth : Nat := 100000

def start : Become := become (evaluate depth)

end Evaluation

end Interop.Shell
