import Interop.Shell.Builtin.Getopts
import Interop.Shell.Builtin.Jobs
import Interop.Shell.Expansion
import Interop.Shell.Script.Source

/-!
# Commands of the shell

The commands that a shell performs itself.  An error in one of them ends the shell if the
command is special, and otherwise only the command.
-/

namespace Interop.Shell

namespace Builtin

/-! ## Writing -/

def echo : Builtin := fun args => do
  let (silent, words) := match args with
    | "-n" :: rest => (true, rest)
    | words => (false, words)
  let plain := Escape.unescape .shellArgument (" ".intercalate words)
  Act.say (String.ofList plain.text ++ (if plain.stops || silent then "" else "\n"))
  Act.setStatus 0

def printf : Builtin := fun args => do
  let (_, words) ← options "" args
  match words with
  | [] => Act.fail "usage: printf format [arg ...]"
  | format :: args =>
    let result := Printf.run .shell format args
    Act.say (String.ofList result.output)
    if result.broken then
      result.complaints.dropLast.forM Act.warn
      Act.fail (result.complaints.getLast?.getD "")
    else
      result.complaints.forM Act.warn
      Act.setStatus (if result.complaints.isEmpty then 0 else 1)

/-! ## Conditions -/

def test (brackets : Bool) : Builtin := fun args => do
  if brackets && args.getLast? != some "]" then Act.fail "missing ]"
  else
    let words := if brackets then args.dropLast else args
    let s ← get
    match Condition.shellHolds ⟨s.world.disk, s.directory⟩ (words.length + 1) words with
    | .ok holds => Act.setStatus (if holds then 0 else 1)
    | .error message => Act.fail message

/-! ## Directories -/

def normalize (path : String) : String :=
  let step (done : List String) (name : String) : List String :=
    if name.isEmpty || name == "." then done
    else if name == ".." then done.tail
    else name :: done
  "/" ++ "/".intercalate (((path.splitOn "/").foldl step []).reverse)

def enter (directory : Path) (logical : String) : Act Unit := do
  let before := (← get).logical
  modify fun s => { s with directory, logical }
  Act.assign "OLDPWD" before
  Act.assign "PWD" logical
  modify fun s =>
    { s with bindings := s.bindings.map fun v =>
        if v.name == "PWD" || v.name == "OLDPWD" then { v with exported := true } else v }

def targets (s : State) (target : String) : List (String × Bool) :=
  let isFixed := target.startsWith "/" || target == "." || target == ".." ||
    target.startsWith "./" || target.startsWith "../"
  let searched := if isFixed then []
    else
      match (s.bindings.find? fun v => v.name == "CDPATH").bind Variable.value with
      | some path => (path.splitOn ":").map fun lead =>
          if lead.isEmpty then (target, false) else (lead ++ "/" ++ target, true)
      | none => []
  searched ++ [(target, false)]

def cd : Builtin := fun args => do
  let (given, words) ← options "LP" args
  let s ← get
  let valueOf (name : String) : String :=
    ((s.bindings.find? fun v => v.name == name).bind Variable.value).getD ""
  let target := match words with
    | [] => valueOf "HOME"
    | "-" :: _ => valueOf "OLDPWD"
    | word :: _ => word
  let target := if target.isEmpty then "." else target
  let physical := (given.getLast?.map GivenOption.letter) == some 'P'
  let found := (targets s target).findSome? fun (path, announced) =>
    let joined := if path.startsWith "/" then path else s.logical ++ "/" ++ path
    let logical := normalize joined
    match s.world.disk.status s.directory (if physical then path else logical) with
    | .ok (place, .directory) =>
      if s.world.disk.isDirectory s.directory path then some (place, logical, announced) else none
    | _ => none
  match found with
  | none => Act.fail ("can't cd to " ++ (words.headD target))
  | some (place, logical, announced) =>
    enter place (if physical then Program.placeText place else logical)
    if announced || words.head? == some "-" then Act.say ((← get).logical ++ "\n")
    Act.setStatus 0

def pwd : Builtin := fun args => do
  let (given, _) ← options "LP" args
  let s ← get
  let physical := (given.getLast?.map GivenOption.letter) == some 'P'
  Act.say ((if physical then Program.placeText s.directory else s.logical) ++ "\n")
  Act.setStatus 0

/-! ## Reading -/

def readLogical (raw : Bool) : Nat → List Atom → Act (List Atom × Bool)
  | 0, done => return (done, false)
  | fuel + 1, done => do
    match ← Act.readLine? 0 with
    | none => return (done, false)
    | some (line, isWhole) =>
      let (atoms, continues) := atomsOf raw line.toList
      if continues && isWhole then readLogical raw fuel (done ++ atoms)
      else return (done ++ atoms, isWhole)
where
  atomsOf (raw : Bool) : List Char → List Atom × Bool
    | [] => ([], false)
    | c :: cs =>
      if c == Char.ofNat 0 then atomsOf raw cs
      else if c == '\\' && !raw then
        match cs with
        | [] => ([], true)
        | d :: rest =>
          let (atoms, continues) := atomsOf raw rest
          (.glyph d true false :: atoms, continues)
      else
        let (atoms, continues) := atomsOf raw cs
        (.glyph c false true :: atoms, continues)

def isBlankAtom (separators : List Char) : Atom → Bool
  | .glyph c _ splits => splits && Atom.isSpaceOf separators c
  | _ => false

def isSeparatorAtom (separators : List Char) : Atom → Bool
  | .glyph c _ splits => splits && separators.contains c
  | _ => false

def atomText (atoms : List Atom) : String :=
  String.ofList (atoms.filterMap fun atom =>
    match atom with
    | .glyph c _ _ => some c
    | _ => none)

def firstField (separators : List Char) (atoms : List Atom) : List Atom × List Atom :=
  let atoms := atoms.dropWhile (isBlankAtom separators)
  let field := atoms.takeWhile fun atom => !isSeparatorAtom separators atom
  let rest := (atoms.drop field.length).dropWhile (isBlankAtom separators)
  let rest := match rest with
    | atom :: more =>
      if isSeparatorAtom separators atom then more.dropWhile (isBlankAtom separators) else rest
    | [] => []
  (field, rest)

/-- Gives fields to variables; the last one gets all that is left. -/
def assignFields (separators : List Char) : List String → List Atom → Act Unit
  | [], _ => return ()
  | [name], atoms => do
    let atoms := atoms.dropWhile (isBlankAtom separators)
    let trimmed := (atoms.reverse.dropWhile (isBlankAtom separators)).reverse
    let (field, rest) := firstField separators atoms
    /- A single field may be followed by one separator. -/
    Act.assign name (atomText (if rest.isEmpty then field else trimmed))
  | name :: names, atoms => do
    let (field, rest) := firstField separators atoms
    Act.assign name (atomText field)
    assignFields separators names rest

def read : Builtin := fun args => do
  let (given, names) ← options "rp:" args
  match Shell.Options.value? given 'p' with
  | some _ | none => pure ()
  if names.isEmpty then Act.fail "arg count"
  else
    match names.find? fun name => !isName name with
    | some name => Act.fail (name ++ ": bad variable name")
    | none =>
      let raw := Shell.Options.has given 'r'
      let s ← get
      let (atoms, isWhole) ← readLogical raw (s.world.steps + 1) []
      let separators := (← Act.separators).toList
      assignFields separators names atoms
      Act.setStatus (if isWhole then 0 else 1)

/-! ## Variables -/

def sortedVariables (s : State) : List Variable :=
  s.bindings.mergeSort fun a b => a.name ≤ b.name

def shownVariable (v : Variable) : String :=
  match v.value with
  | some value => v.name ++ "=" ++ quote value
  | none => v.name

def markVariable (mark : Variable → Variable) (arg : String) : Act Unit := do
  let (name, value?) := match arg.toList.dropWhile (· != '=') with
    | [] => (arg, none)
    | _ :: value => (String.ofList (arg.toList.takeWhile (· != '=')), some (String.ofList value))
  if !isName name then Act.fail (name ++ ": bad variable name")
  else
    match value? with
    | some value => Act.assign name value
    | none => pure ()
    match ← Act.findVariable? name with
    | some v => Act.putVariable (mark v)
    | none => Act.putVariable (mark ⟨name, none, false, false⟩)

def declare (word : String) (isMarked : Variable → Bool) (mark : Variable → Variable) : Builtin :=
  fun args => do
    let (_, words) ← options "p" args
    if words.isEmpty then
      let marked := (sortedVariables (← get)).filter isMarked
      Act.say (String.join (marked.map fun v => word ++ " " ++ shownVariable v ++ "\n"))
    else words.forM (markVariable mark)
    Act.setStatus 0

def exportVariables : Builtin :=
  declare "export" Variable.exported fun v => { v with exported := true }

def readonly : Builtin :=
  declare "readonly" Variable.readOnly fun v => { v with readOnly := true }

def unsetVariable (name : String) : Act Unit := do
  if !isName name then Act.fail (name ++ ": bad variable name")
  else
    match ← Act.findVariable? name with
    | none => return ()
    | some v =>
      if v.readOnly then Act.fail (name ++ ": is read only")
      else
        if name == Act.placeName then Act.placeOptions ""
        modify fun s => { s with bindings := s.bindings.filter fun other => other.name != name }

def unset : Builtin := fun args => do
  let (given, names) ← options "vf" args
  if (given.getLast?.map GivenOption.letter) == some 'f' then
    modify fun s => { s with functions := s.functions.filter fun f => !names.contains f.1 }
  else names.forM unsetVariable
  Act.setStatus 0

def hide (name : String) (exported : Bool) : Act Unit :=
  modify fun s =>
    match s.hidden with
    | frame :: rest =>
      if frame.any fun entry => entry.1 == name then s
      else
        let before := s.bindings.find? fun v => v.name == name
        let frame := (name, before) :: frame
        match before with
        | some v =>
          { s with
            hidden := frame :: rest
            bindings := s.bindings.map fun other =>
              if other.name == name then { v with exported := v.exported || exported } else other }
        | none =>
          { s with
            hidden := frame :: rest
            bindings := s.bindings ++ [⟨name, none, exported, false⟩] }
    | [] => s

def settingsName : String := "-"

def localVariables : Builtin := fun args => do
  let s ← get
  if s.functionDepth == 0 then Act.fail "not in a function"
  else
    args.forM fun arg => do
      if arg == settingsName then
        modify fun s =>
          match s.hidden with
          | frame :: rest =>
            { s with hidden :=
                ((settingsName,
                    some ⟨settingsName, some (String.ofList s.settings), false, false⟩) ::
                  frame) :: rest }
          | [] => s
      else
        let name := String.ofList (arg.toList.takeWhile (· != '='))
        if !isName name then Act.fail (name ++ ": bad variable name")
        else
          hide name false
          match arg.toList.dropWhile (· != '=') with
          | _ :: value => Act.assign name (String.ofList value)
          | [] => pure ()
    Act.setStatus 0

def reveal : Act Unit :=
  modify fun s =>
    match s.hidden with
    | frame :: rest =>
      let restore (s : State) (entry : String × Option Variable) : State :=
        if entry.1 == settingsName then
          match entry.2.bind Variable.value with
          | some letters => { s with settings := letters.toList }
          | none => s
        else
          let others := s.bindings.filter fun v => v.name != entry.1
          match entry.2 with
          | some v =>
            if s.bindings.any fun other => other.name == entry.1 then
              { s with bindings := s.bindings.map fun other =>
                  if other.name == entry.1 then v else other }
            else { s with bindings := s.bindings ++ [v] }
          | none => { s with bindings := others }
      { frame.foldl restore s with hidden := rest }
    | [] => s

/-! ## Settings -/

def settingNames : List (String × Char) :=
  [("errexit", 'e'), ("noglob", 'f'), ("ignoreeof", 'I'), ("interactive", 'i'), ("monitor", 'm'),
    ("noexec", 'n'), ("stdin", 's'), ("xtrace", 'x'), ("verbose", 'v'), ("vi", 'V'), ("emacs", 'E'),
    ("noclobber", 'C'), ("allexport", 'a'), ("notify", 'b'), ("nounset", 'u'),
    ("privileged", 'p'), ("nolog", '1'), ("debug", '2')]

def setSetting (on : Bool) (c : Char) : Act Unit := do
  let isRefused := on && c == 'm'
  if isRefused then Act.warn "can't access tty; job control turned off"
  modify fun s =>
    let others := s.settings.filter (· != c)
    { s with settings := if on && !isRefused then c :: others else others }

def settingsTable (asCommands : Bool) (settings : List Char) : String :=
  let line (entry : String × Char) : String :=
    let on := settings.contains entry.2
    if asCommands then "set " ++ (if on then "-o " else "+o ") ++ entry.1 ++ "\n"
    else entry.1 ++ String.ofList (List.replicate (16 - entry.1.length) ' ') ++
      (if on then "on\n" else "off\n")
  (if asCommands then "" else "Current option settings\n") ++
    String.join (settingNames.map line)

/-- Settings by their letters or names, up to the first argument that is none; whether arguments
follow, even none. -/
def readSettings (unknown : String → Act Unit) : Nat → List String → Act (Option (List String))
  | 0, args => return some args
  | _ + 1, [] => return none
  | fuel + 1, arg :: rest => do
    match arg.toList with
    | '-' :: [] => return if rest.isEmpty then none else some rest
    | ['-', '-'] => return some rest
    | sign :: letters =>
      if sign == '-' || sign == '+' then
        let on := sign == '-'
        let plain := letters.filter (· != 'o')
        plain.forM fun c => do
          if settingNames.any fun entry => entry.2 == c && c != 'p' && !c.isDigit then
            setSetting on c
          else unknown (sign.toString ++ c.toString)
        if letters.contains 'o' then
          match rest with
          | [] =>
            Act.say (settingsTable (!on) (← get).settings)
            return none
          | name :: rest =>
            match settingNames.find? fun entry => entry.1 == name with
            | some (_, c) => setSetting on c
            | none => unknown (sign.toString ++ "o " ++ name)
            readSettings unknown fuel rest
        else readSettings unknown fuel rest
      else return some (arg :: rest)
    | [] => return some (arg :: rest)

def set : Builtin := fun args => do
  if args.isEmpty then
    let known := (sortedVariables (← get)).filter fun v => v.value.isSome
    Act.say (String.join (known.map fun v => shownVariable v ++ "\n"))
  else
    let unknown (text : String) : Act Unit := Act.fail ("Illegal option " ++ text)
    match ← readSettings unknown (args.length + 1) args with
    | some args => modify fun s => { s with args, optionPlace := .beginning }
    | none => pure ()
  Act.setStatus 0

def shift : Builtin := fun args => do
  let count ← match args with
    | [] => pure 1
    | text :: _ => number text
  if (← get).args.length < count then Act.fail "can't shift that many"
  else
    modify fun s => { s with args := s.args.drop count, optionPlace := .beginning }
    Act.setStatus 0

/-! ## Ways out -/

def leaveLoops (flow : Nat → Flow) : Builtin := fun args => do
  let count ← match args with
    | [] => pure 1
    | text :: _ => do
      let n ← number text
      if n == 0 then Act.fail ("Illegal number: " ++ text) else pure n
  Act.setStatus 0
  let loops := (← get).loops
  if loops != 0 then Act.leave (flow (min count loops))

def returnFrom : Builtin := fun args => do
  match args with
  | [] => pure ()
  | text :: _ => do
    let n ← number text
    Act.setStatus n
  Act.leave .returns

def exit : Builtin := fun args => do
  match args with
  | [] =>
    match (← get).trapStatus with
    | some status => Act.setStatus status
    | none => pure ()
  | text :: _ => do
    let n ← number text
    Act.setStatus n
  Act.leave .exits

/-! ## Traps -/

def trap : Builtin := fun args => do
  let (_, words) ← options "" args
  match words with
  | [] =>
    let s ← get
    let sorted := s.traps.mergeSort fun a b => a.1 ≤ b.1
    Act.say (String.join (sorted.map fun (signal, action) =>
      "trap -- " ++ quote action ++ " " ++ Signal.name signal ++ "\n"))
    Act.setStatus 0
  | first :: rest =>
    let isNumber := !first.isEmpty && first.toList.all Char.isDigit &&
      (Signal.number? first true).isSome
    let resets := rest.isEmpty || isNumber
    let action := if resets || first == "-" then none else some first
    Act.setStatus 0
    let wanted := if resets then words else rest
    let rec install : List String → Act Unit
      | [] => return ()
      | name :: more => do
        match Signal.number? name true with
        | none =>
          Act.complainRaw ("trap: " ++ name ++ ": bad trap\n")
          Act.setStatus 1
        | some signal =>
          modify fun s =>
            let others := s.traps.filter fun entry => entry.1 != signal
            { s with traps := match action with
                | some action => (signal, action) :: others
                | none => others }
          install more
    install wanted

/-! ## Names of commands -/

def special : List String :=
  [".", ":", "break", "continue", "eval", "exec", "exit", "export", "local", "readonly", "return",
    "set", "shift", "times", "trap", "unset"]

def regular : List String :=
  ["[", "alias", "bg", "cd", "chdir", "command", "echo", "false", "fg", "getopts", "hash", "jobs",
    "kill", "printf", "pwd", "read", "test", "true", "type", "ulimit", "umask", "unalias", "wait"]

def isBuiltin (name : String) : Bool := special.contains name || regular.contains name

def programPath? (s : State) (name : String) : Option String := (Program.candidates s name).head?

def describe (s : State) (name : String) : Except String String :=
  if Token.keywords.contains name then .ok (name ++ " is a shell keyword")
  else
    match s.aliases.find? fun entry => entry.1 == name with
    | some (_, value) => .ok (name ++ " is an alias for " ++ value)
    | none =>
      if s.functions.any fun f => f.1 == name then .ok (name ++ " is a shell function")
      else if special.contains name then .ok (name ++ " is a special shell builtin")
      else if regular.contains name then .ok (name ++ " is a shell builtin")
      else
        match s.hashed.find? fun entry => entry.1 == name with
        | some (_, path) => .ok (name ++ " is a tracked alias for " ++ path)
        | none =>
          match programPath? s name with
          | some path => .ok (name ++ " is " ++ path)
          | none => .error (name ++ ": not found")

def briefly (s : State) (name : String) : Option String :=
  match s.aliases.find? fun entry => entry.1 == name with
  | some (_, value) => some ("alias " ++ name ++ "=" ++ quote value)
  | none =>
    if Token.keywords.contains name || isBuiltin name || s.functions.any fun f => f.1 == name then
      some name
    else programPath? s name

def remember (name path : String) : Act Unit :=
  modify fun s =>
    if name.toList.contains '/' || s.hashed.any fun entry => entry.1 == name then s
    else { s with hashed := s.hashed ++ [(name, path)] }

def lookUp (name : String) : Act Unit := do
  let s ← get
  let isOwn := Token.keywords.contains name || isBuiltin name ||
    (s.functions.any fun f => f.1 == name) || s.aliases.any fun entry => entry.1 == name
  match if isOwn then none else programPath? s name with
  | some path => remember name path
  | none => return ()

def type : Builtin := fun args => do
  let (_, names) ← options "" args
  Act.setStatus 0
  names.forM fun name => do
    match describe (← get) name with
    | .ok line =>
      lookUp name
      Act.say (line ++ "\n")
    | .error line =>
      Act.say (line ++ "\n")
      Act.setStatus 127

def hash : Builtin := fun args => do
  let (given, names) ← options "r" args
  if !given.isEmpty then modify fun s => { s with hashed := [] }
  Act.setStatus 0
  if names.isEmpty && given.isEmpty then
    Act.say (String.join ((← get).hashed.map fun entry => entry.2 ++ "\n"))
  else
    names.forM fun name => do
      let s ← get
      if isBuiltin name || s.functions.any fun f => f.1 == name then return ()
      else
        match programPath? s name with
        | some path => remember name path
        | none =>
          Act.warn (name ++ ": not found")
          Act.setStatus 1

/-! ## Aliases -/

def shownAlias (entry : String × String) : String := entry.1 ++ "=" ++ quote entry.2 ++ "\n"

def setAliases : Builtin := fun args => do
  Act.setStatus 0
  if args.isEmpty then
    Act.say (String.join ((← get).aliases.map shownAlias))
  else
    args.forM fun arg => do
      let name := String.ofList (arg.toList.takeWhile (· != '='))
      match (arg.toList.drop 1).dropWhile (· != '=') with
      | _ :: value =>
        modify fun s =>
          { s with aliases :=
              (s.aliases.filter fun entry => entry.1 != name) ++ [(name, String.ofList value)] }
      | [] =>
        match (← get).aliases.find? fun entry => entry.1 == arg with
        | some entry => Act.say (shownAlias entry)
        | none =>
          Act.complainRaw ("alias: " ++ arg ++ " not found\n")
          Act.setStatus 1

def unalias : Builtin := fun args => do
  let (given, names) ← options "a" args
  Act.setStatus 0
  if !given.isEmpty then modify fun s => { s with aliases := [] }
  else
    names.forM fun name => do
      let s ← get
      if s.aliases.any fun entry => entry.1 == name then
        modify fun s => { s with aliases := s.aliases.filter fun entry => entry.1 != name }
      else
        Act.complainRaw ("unalias: " ++ name ++ " not found\n")
        Act.setStatus 1

/-! ## Limits -/

def maskText (mask : Nat) : String :=
  let digits := String.ofList (Nat.toDigits 8 mask)
  String.ofList (List.replicate (4 - digits.length) '0') ++ digits

def rightsText (bits : Nat) : String :=
  String.ofList (([(4, 'r'), (2, 'w'), (1, 'x')].filter fun entry =>
    bits / entry.1 % 2 == 0).map Prod.snd)

def rightsBits (letters : List Char) : Nat :=
  (if letters.contains 'r' then 4 else 0) + (if letters.contains 'w' then 2 else 0) +
    (if letters.contains 'x' then 1 else 0)

def maskClause? (mask : Nat) (text : String) : Option Nat :=
  let who := text.toList.takeWhile fun c => "ugoa".toList.contains c
  let rest := text.toList.drop who.length
  let shifts := [('u', 64), ('g', 8), ('o', 1)].filter fun entry =>
    who.isEmpty || who.contains 'a' || who.contains entry.1
  match rest with
  | sign :: letters =>
    if !letters.all fun c => "rwxXst".toList.contains c then none
    else
      let bits := rightsBits letters
      let change (mask : Nat) (entry : Char × Nat) : Nat :=
        let before := mask / entry.2 % 8
        let after := if sign == '=' then 7 - bits
          else if sign == '+' then Nat.land before (7 - bits)
          else Nat.lor before bits
        mask - before * entry.2 + after * entry.2
      if "=+-".toList.contains sign then some (shifts.foldl change mask) else none
  | [] => none

def umask : Builtin := fun args => do
  let (given, words) ← options "S" args
  let mask := (← get).mask
  Act.setStatus 0
  match words with
  | [] =>
    if Shell.Options.has given 'S' then
      Act.say ("u=" ++ rightsText (mask / 64) ++ ",g=" ++ rightsText (mask / 8 % 8) ++ ",o=" ++
        rightsText (mask % 8) ++ "\n")
    else Act.say (maskText mask ++ "\n")
  | text :: _ =>
    if text.toList.head?.any Char.isDigit then
      if text.toList.all Escape.isOctal then
        modify fun s => { s with mask := Escape.octalOf text.toList % 512 }
      else Act.fail ("Illegal number: " ++ text)
    else
      match (text.splitOn ",").foldlM maskClause? mask with
      | some mask => modify fun s => { s with mask }
      | none => Act.fail ("Illegal mode: " ++ text)

def ulimit : Builtin := fun args => do
  let (given, words) ← options "HSatfdscmlpnvwr" args
  Act.setStatus 0
  match words with
  | [] =>
    if Shell.Options.has given 'a' then return ()
    else
      let last := given.getLast?.map GivenOption.letter
      Act.say (if last == some 'c' then "0\n" else "unlimited\n")
  | text :: _ =>
    if text == "unlimited" || (!text.isEmpty && text.toList.all Char.isDigit) then return ()
    else Act.fail "bad number"

def times : Builtin := fun _ => do
  Act.say "0m0.000000s 0m0.000000s\n0m0.000000s 0m0.000000s\n"
  Act.setStatus 0

/-! ## The table -/

def table : List (String × Builtin) :=
  [(":", fun _ => Act.setStatus 0), ("true", fun _ => Act.setStatus 0),
    ("false", fun _ => Act.setStatus 1), ("echo", echo), ("printf", printf),
    ("test", test false), ("[", test true), ("cd", cd), ("chdir", cd), ("pwd", pwd),
    ("read", read), ("export", exportVariables), ("readonly", readonly), ("unset", unset),
    ("local", localVariables), ("set", set), ("shift", shift), ("break", leaveLoops .breaks),
    ("continue", leaveLoops .continues), ("return", returnFrom), ("exit", exit), ("trap", trap),
    ("wait", wait), ("jobs", jobs), ("bg", resume), ("fg", resume), ("kill", kill),
    ("type", type), ("hash", hash), ("alias", setAliases), ("unalias", unalias),
    ("umask", umask), ("ulimit", ulimit), ("times", times), ("getopts", getopts)]

end Builtin

end Interop.Shell
