import Interop.Shell.Program.Basic

/-!
# Programs for files

Programs that list, make, copy, move and remove what is on the disk, and those that take paths
apart.
-/

namespace Interop.Shell.Program

/-! ## The disk -/

def disk : Act Disk := do return (← get).world.disk

def change (f : Disk → Path → Except DiskError Disk) : Act (Except DiskError Unit) := do
  let s ← get
  match f s.world.disk s.directory with
  | .ok d =>
    Act.modifyWorld fun w => w.setDisk d
    return .ok ()
  | .error e => return .error e

def note (self message : String) (status : Nat) : Act Unit := do
  complain self message
  Act.setStatus status

def lastName (path : String) : String :=
  let trimmed := path.toList.reverse.dropWhile (· == '/')
  if trimmed.isEmpty then if path.isEmpty then "" else "/"
  else String.ofList (trimmed.takeWhile (· != '/')).reverse

def within (directory name : String) : String :=
  if directory.endsWith "/" then directory ++ name else directory ++ "/" ++ name

def placeText (path : Path) : String := "/" ++ "/".intercalate path

/-! ## Listing -/

def listSpecs : List OptionSpec :=
  Options.specsOf "aAbBcCdDfFgGhHiklLmnNopqQrRsStuUvxXZ1I:T:w:".toList ++
    [⟨'a', some "all", false⟩, ⟨'A', some "almost-all", false⟩, ⟨'d', some "directory", false⟩,
      ⟨'r', some "reverse", false⟩, ⟨'R', some "recursive", false⟩,
      ⟨'F', some "classify", false⟩]

def signOf (has : Char → Bool) : Entry → String
  | .directory => if has 'F' || has 'p' then "/" else ""
  | .link _ => if has 'F' then "@" else ""
  | .file _ true | .program _ => if has 'F' then "*" else ""
  | _ => ""

def rights : Entry → String
  | .directory => "drwxr-xr-x"
  | .link _ => "lrwxrwxrwx"
  | .device _ => "crw-rw-rw-"
  | .file _ true | .program _ => "-rwxr-xr-x"
  | .file _ false => "-rw-r--r--"

def sizeOf : Entry → Nat
  | .file content _ => content.length
  | .link target => target.length
  | .directory => 4096
  | _ => 0

def longLine (has : Char → Bool) (name : String) (entry : Entry) : String :=
  let owner := if has 'n' then "0 0" else "root root"
  let target := match entry with
    | .link target => " -> " ++ target
    | _ => ""
  rights entry ++ " 1 " ++ owner ++ " " ++ toString (sizeOf entry) ++ " Jan  1 00:00 " ++ name ++
    target

def listLines (has : Char → Bool) (entries : List (String × Entry)) : String :=
  let sorted := entries.mergeSort fun a b => a.1 ≤ b.1
  let sorted := if has 'r' then sorted.reverse else sorted
  let shown (entry : String × Entry) : String :=
    let name := if has 'Q' then "\"" ++ entry.1 ++ "\"" else entry.1
    (if has 's' then "0 " else "") ++ name ++ signOf has entry.2
  if has 'l' || has 'n' then
    joinLines (sorted.map fun entry => longLine has (shown entry) entry.2)
  else if sorted.isEmpty then ""
  else if has 'm' then ", ".intercalate (sorted.map shown) ++ "\n"
  else if has 'C' || has 'x' then "  ".intercalate (sorted.map shown) ++ "\n"
  else joinLines (sorted.map shown)

def shownNames (has : Char → Bool) (d : Disk) (path : Path) : List (String × Entry) :=
  let names := (d.namesIn path).filter fun name =>
    has 'a' || has 'A' || has 'f' || !name.startsWith "."
  let dots := if has 'a' || has 'f' then [(".", Entry.directory), ("..", .directory)] else []
  dots ++ names.filterMap fun name => (d.entry? (path ++ [name])).map fun entry => (name, entry)

def listTree (has : Char → Bool) (d : Disk) : Nat → String → Path → Bool → List String
  | 0, _, _, _ => []
  | fuel + 1, text, path, headline =>
    let entries := shownNames has d path
    let total := if has 'l' || has 'n' || has 's' then "total 0\n" else ""
    let own := (if headline then text ++ ":\n" else "") ++ total ++ listLines has entries
    let deeper := if has 'R' then
        ((entries.filter fun entry =>
            entry.2.isDirectory && entry.1 != "." && entry.1 != "..").mergeSort
          fun a b => a.1 ≤ b.1).flatMap fun entry =>
            listTree has d fuel (within text entry.1) (path ++ [entry.1]) true
      else []
    own :: deeper

def ls : Program := fun self args => do
  let (given, paths) ← options self listSpecs false 2 args
  Act.setStatus 0
  let has := Options.has given
  let s ← get
  let d := s.world.disk
  let wanted := if paths.isEmpty then ["."] else paths
  let itself := has 'd'
  let found ← wanted.mapM fun path => do
    let byLink := (has 'l' || has 'F' || itself) && !path.endsWith "/"
    match if byLink then d.linkStatus s.directory path else d.status s.directory path with
    | .ok (place, entry) => return some (path, place, entry)
    | .error e =>
      match d.linkStatus s.directory path with
      | .ok (place, entry) => return some (path, place, entry)
      | .error _ =>
        note self ("cannot access " ++ Quoting.always path ++ ": " ++ e.text) 2
        return none
  let found := found.filterMap id
  let plain := found.filter fun entry => itself || !entry.2.2.isDirectory
  let directories := found.filter fun entry => !itself && entry.2.2.isDirectory
  let sorted := directories.mergeSort fun a b => a.1 ≤ b.1
  let headline := wanted.length > 1 || has 'R'
  let first := listLines has (plain.map fun entry => (entry.1, entry.2.2))
  let blocks := (if plain.isEmpty then [] else [first]) ++
    (if has 'r' then sorted.reverse else sorted).flatMap fun entry =>
      listTree has d (d.entries.length + 1) entry.1 entry.2.1 headline
  out self ("\n".intercalate blocks)

/-! ## Making and removing directories -/

/-- The directories that are missing on the way to a path, with itself, in the order in which
they are made. -/
def missingParents (d : Disk) (start : Path) : Nat → String → List String → List String
  | 0, _, done => done
  | fuel + 1, path, done =>
    if path.isEmpty || d.isDirectory start path then done
    else
      match Disk.parentText? path with
      | some above => missingParents d start fuel above (path :: done)
      | none => path :: done

def mkdir : Program := fun self args => do
  let (given, paths) ← options self
    [⟨'p', some "parents", false⟩, ⟨'v', some "verbose", false⟩, ⟨'m', some "mode", true⟩,
      ⟨'Z', none, false⟩] false 1 args
  Act.setStatus 0
  let has := Options.has given
  if paths.isEmpty then missingOperand self 1
  else
    paths.forM fun path => do
      let s ← get
      let d := s.world.disk
      let missing := if has 'p' then missingParents d s.directory (path.length + 1) path []
        else [path]
      let done ← change fun d start =>
        if has 'p' && !path.isEmpty then d.makeAll start path else d.makeDirectory start path
      match done with
      | .ok () =>
        if has 'v' then
          missing.forM fun path =>
            out self (self ++ ": created directory " ++ Quoting.always path ++ "\n")
      | .error e =>
        let e := if has 'p' && e == .alreadyThere then .alreadyThere else e
        note self ("cannot create directory " ++ Quoting.word path ++ ": " ++ e.text) 1

def removeDirectory (path : String) (d : Disk) (start : Path) : Except DiskError Disk := do
  let (place, entry) ← d.linkStatus start path
  if !entry.isDirectory then .error .notDirectory
  else if lastName path == "." then .error .invalid
  else if !(d.namesIn place).isEmpty then .error .notEmpty
  else return d.drop place

def rmdir : Program := fun self args => do
  let (given, paths) ← options self
    [⟨'p', some "parents", false⟩, ⟨'v', some "verbose", false⟩,
      ⟨'i', some "ignore-fail-on-non-empty", false⟩] false 1 args
  Act.setStatus 0
  let has := Options.has given
  if paths.isEmpty then missingOperand self 1
  else
    let remove (path : String) : Act Bool := do
      if has 'v' then out self (self ++ ": removing directory, " ++ Quoting.always path ++ "\n")
      match ← change (removeDirectory path) with
      | .ok () => return true
      | .error e =>
        if !(has 'i' && e == .notEmpty) then
          note self ("failed to remove " ++ Quoting.always path ++ ": " ++ e.text) 1
        return false
    let rec climb : Nat → String → Act Unit
      | 0, _ => return ()
      | fuel + 1, path => do
        if ← remove path then
          if has 'p' then
            match Disk.parentText? path with
            | some above => if !above.isEmpty && above != "/" then climb fuel above
            | none => return ()
    paths.forM fun path => climb (path.length + 1) path

/-! ## Removing -/

def descendants (d : Disk) (text : String) (place : Path) : List (String × Path × Entry) :=
  let found := (d.below place).mergeSort fun a b => !a.1.lex b.1 fun x y => x < y
  found.map fun (path, entry) =>
    ((path.drop place.length).foldl within text, path, entry)

def rm : Program := fun self args => do
  let specs : List OptionSpec :=
    [⟨'f', some "force", false⟩, ⟨'r', some "recursive", false⟩, ⟨'R', none, false⟩,
      ⟨'v', some "verbose", false⟩, ⟨'d', some "dir", false⟩, ⟨'i', none, false⟩,
      ⟨'I', none, false⟩]
  let (given, paths) ← match Options.parse specs false (args.length + 1) args ([], []) with
    | .ok parsed => pure parsed
    | .error e => do
      complain self e.message
      let s ← get
      match args.find? fun arg => arg.startsWith "-" && arg.length > 1 &&
          (s.world.disk.linkStatus s.directory arg).toBool with
      | some arg =>
        Act.complainRaw ("Try '" ++ self ++ " ./" ++ arg ++ "' to remove the file " ++
          Quoting.always arg ++ ".\n")
      | none => pure ()
      hint self
      finish 1
      pure ([], [])
  Act.setStatus 0
  let has := Options.has given
  let deep := has 'r' || has 'R'
  if paths.isEmpty then
    if has 'f' then return () else missingOperand self 1
  else
    paths.forM fun path => do
      let s ← get
      let d := s.world.disk
      let cannot (e : DiskError) : Act Unit :=
        note self ("cannot remove " ++ Quoting.always path ++ ": " ++ e.text) 1
      match d.linkStatus s.directory path with
      | .error e =>
        if has 'f' && (e == .missing || e == .notDirectory) then return () else cannot e
      | .ok (place, .directory) =>
        let name := lastName path
        if deep && (name == "." || name == "..") then
          note self ("refusing to remove '.' or '..' directory: skipping " ++
            Quoting.always path) 1
        else if deep && place.isEmpty then
          note self "it is dangerous to operate recursively on '/'" 1
          complain self "use --no-preserve-root to override this failsafe"
        else if deep then
          (descendants d path place).forM fun (text, path, entry) => do
            Act.modifyWorld fun w => w.setDisk (w.disk.drop path)
            if has 'v' then
              out self ("removed " ++ (if entry.isDirectory then "directory " else "") ++
                Quoting.always text ++ "\n")
        else if has 'd' then
          match ← change (removeDirectory path) with
          | .ok () => return ()
          | .error e => cannot e
        else cannot .isDirectory
      | .ok (place, _) =>
        Act.modifyWorld fun w => w.setDisk (w.disk.drop place)
        if has 'v' then out self ("removed " ++ Quoting.always path ++ "\n")

/-! ## Making files -/

def touch : Program := fun self args => do
  let (given, paths) ← options self
    [⟨'c', some "no-create", false⟩, ⟨'a', none, false⟩, ⟨'m', none, false⟩,
      ⟨'f', none, false⟩, ⟨'h', some "no-dereference", false⟩, ⟨'t', none, true⟩,
      ⟨'d', some "date", true⟩, ⟨'r', some "reference", true⟩] false 1 args
  Act.setStatus 0
  if paths.isEmpty then misuse self "missing file operand" 1
  else
    paths.forM fun path => do
      let s ← get
      match s.world.disk.status s.directory path with
      | .ok _ => return ()
      | .error e =>
        if Options.has given 'c' then return ()
        else if path.endsWith "/" then
          note self ("setting times of " ++ Quoting.always path ++ ": " ++ e.text) 1
        else
          match ← change fun d start => d.save start path "" with
          | .ok () => return ()
          | .error e => note self ("cannot touch " ++ Quoting.always path ++ ": " ++ e.text) 1

def mktemp : Program := fun self args => do
  let (given, words) ← options self
    [⟨'d', some "directory", false⟩, ⟨'u', some "dry-run", false⟩, ⟨'q', some "quiet", false⟩,
      ⟨'p', some "tmpdir", true⟩, ⟨'t', none, false⟩] false 1 args
  Act.setStatus 0
  let has := Options.has given
  let template := words.headD "tmp.XXXXXXXXXX"
  let root := Options.value? given 'p'
  let marks := (template.toList.reverse.takeWhile (· == 'X')).length
  if marks < 3 then
    if has 'q' then Act.setStatus 1
    else note self ("too few X's in template " ++ Quoting.word template) 1
  else
    let s ← get
    let digits := toString (s.world.nextPid + s.world.disk.entries.length)
    let filled := String.ofList (template.toList.take (template.length - marks)) ++
      String.ofList ((digits.toList ++ List.replicate marks 'x').take marks)
    let directory := match root with
      | some root => some root
      | none => if words.isEmpty || has 't' then some "/tmp" else none
    let place (name : String) : String := match directory with
      | some directory => within directory name
      | none => name
    let path := place filled
    let done ← if has 'u' then pure (.ok ())
      else change fun d start =>
        if has 'd' then d.makeDirectory start path else d.save start path ""
    match done with
    | .ok () => out self (path ++ "\n")
    | .error e =>
      let kind := if has 'd' then "directory" else "file"
      note self ("failed to create " ++ kind ++ " via template " ++
        Quoting.word (place template) ++ ": " ++ e.text) 1

/-! ## Copying and moving -/

/-- Where something goes: into a directory under its own name, or to the path itself. -/
def destination (d : Disk) (start : Path) (source target : String) (plainly : Bool) : String :=
  if !plainly && d.isDirectory start target then within target (lastName source) else target

def copyFile (d : Disk) (start : Path) (content : String) (executable : Bool) (target : String) :
    Except DiskError Disk := do
  let place ← d.placeFile start target
  match place.entry with
  | some (.device .full) => if content.isEmpty then return d else .error .noSpace
  | some (.device _) => return d
  | some (.file _ before) => return d.put place.path (.file content before)
  | _ => return d.put place.path (.file content executable)

def copyTree (d : Disk) (place target : Path) : Disk :=
  (d.below place).foldl
    (fun d entry => d.put (target ++ entry.1.drop place.length) entry.2) d

/-- The operands of a program that copies: the sources and the target. -/
def operands (self : String) (given : List GivenOption) (paths : List String) :
    Act (List String × String) := do
  match Options.value? given 't', paths with
  | some target, sources => return (sources, target)
  | none, [] =>
    misuse self "missing file operand" 1
    return ([], "")
  | none, [source] =>
    misuse self ("missing destination file operand after " ++ Quoting.always source) 1
    return ([], "")
  | none, paths => return (paths.dropLast, paths.getLast?.getD "")

def requireDirectory (self : String) (sources : List String) (target : String) : Act Unit := do
  let s ← get
  if sources.length > 1 && !s.world.disk.isDirectory s.directory target then
    let e := match s.world.disk.status s.directory target with
      | .ok _ => DiskError.notDirectory
      | .error e => e
    abort self ("target " ++ Quoting.always target ++ ": " ++ e.text) 1

def copySpecs : List OptionSpec :=
  [⟨'r', some "recursive", false⟩, ⟨'R', none, false⟩, ⟨'a', some "archive", false⟩,
    ⟨'v', some "verbose", false⟩, ⟨'f', some "force", false⟩, ⟨'i', some "interactive", false⟩,
    ⟨'n', some "no-clobber", false⟩, ⟨'p', none, false⟩, ⟨'u', some "update", false⟩,
    ⟨'d', none, false⟩, ⟨'P', none, false⟩, ⟨'L', none, false⟩, ⟨'T', none, false⟩,
    ⟨'t', some "target-directory", true⟩, ⟨'Z', none, false⟩]

def copyOne (self : String) (has : Char → Bool) (target source : String) : Act Unit := do
  let s ← get
  let d := s.world.disk
  let start := s.directory
  let goal := destination d start source target (has 'T')
  let report : Act Unit := do
    if has 'v' then out self (Quoting.always source ++ " -> " ++ Quoting.always goal ++ "\n")
  match d.status start source with
  | .error e => note self ("cannot stat " ++ Quoting.always source ++ ": " ++ e.text) 1
  | .ok (place, .directory) =>
    if !(has 'r' || has 'R' || has 'a') then
      note self ("-r not specified; omitting directory " ++ Quoting.always source) 1
    else
      match d.locate true start goal with
      | .error e =>
        note self ("cannot create directory " ++ Quoting.always goal ++ ": " ++ e.text) 1
      | .ok ⟨there, entry⟩ =>
        if place.isPrefixOf there then
          note self ("cannot copy a directory, " ++ Quoting.always source ++ ", into itself, " ++
            Quoting.always goal) 1
        else
          match entry with
          | none | some .directory =>
            Act.modifyWorld fun w => w.setDisk (copyTree w.disk place there)
            if has 'v' then
              ((descendants d source place).reverse.forM fun (text, path, _) =>
                out self (Quoting.always text ++ " -> " ++
                  Quoting.always ((path.drop place.length).foldl within goal) ++ "\n"))
          | some _ =>
            note self ("cannot overwrite non-directory " ++ Quoting.always goal ++
              " with directory " ++ Quoting.always source) 1
  | .ok (place, entry) =>
    let (content, executable) := match entry with
      | .file content executable => (content, executable)
      | .program name => ("\x7fELF" ++ name, true)
      | _ => ("", false)
    match d.status start goal with
    | .ok (there, found) =>
      if there == place then
        note self (Quoting.always source ++ " and " ++ Quoting.always goal ++
          " are the same file") 1
      else if found.isDirectory then
        note self ("cannot overwrite directory " ++ Quoting.always goal ++ " with non-directory") 1
      else if has 'n' then return ()
      else
        match ← change fun d start => copyFile d start content executable goal with
        | .ok () => report
        | .error e =>
          note self ("error writing " ++ Quoting.always goal ++ ": " ++ e.text) 1
    | .error .notDirectory =>
      note self ("cannot stat " ++ Quoting.always goal ++ ": " ++ DiskError.notDirectory.text) 1
    | .error _ =>
      match ← change fun d start => copyFile d start content executable goal with
      | .ok () => report
      | .error e =>
        let e := if goal.endsWith "/" then .notDirectory else e
        note self ("cannot create regular file " ++ Quoting.always goal ++ ": " ++ e.text) 1

def cp : Program := fun self args => do
  let (given, paths) ← options self copySpecs false 1 args
  Act.setStatus 0
  let (sources, target) ← operands self given paths
  requireDirectory self sources target
  sources.forM (copyOne self (Options.has given) target)

def moveOne (self : String) (has : Char → Bool) (target source : String) : Act Unit := do
  let s ← get
  let d := s.world.disk
  let start := s.directory
  let goal := destination d start source target (has 'T')
  match d.linkStatus start source with
  | .error e => note self ("cannot stat " ++ Quoting.always source ++ ": " ++ e.text) 1
  | .ok (place, entry) =>
    let cannot (e : DiskError) : Act Unit :=
      note self ("cannot move " ++ Quoting.always source ++ " to " ++ Quoting.always goal ++ ": " ++
        e.text) 1
    match d.locate false start goal with
    | .error e => cannot e
    | .ok ⟨there, found⟩ =>
      let move : Act Unit := do
        Act.modifyWorld fun w =>
          let moved := w.disk.below place
          let d := moved.foldl (fun d entry => d.drop entry.1) w.disk
          let put (d : Disk) (entry : Path × Entry) : Disk :=
            d.put (there ++ entry.1.drop place.length) entry.2
          w.setDisk (moved.foldl put d)
        if has 'v' then
          out self ("renamed " ++ Quoting.always source ++ " -> " ++ Quoting.always goal ++ "\n")
      match found with
      | none =>
        if entry.isDirectory && place.isPrefixOf there then
          note self ("cannot move " ++ Quoting.always source ++ " to a subdirectory of itself, " ++
            Quoting.always goal) 1
        else
          match d.checkParent there with
          | .error e => cannot e
          | .ok () => if goal.endsWith "/" && !entry.isDirectory then cannot .notDirectory else move
      | some before =>
        if there == place then
          note self (Quoting.always source ++ " and " ++ Quoting.always goal ++
            " are the same file") 1
        else if entry.isDirectory && place.isPrefixOf there then
          note self ("cannot move " ++ Quoting.always source ++ " to a subdirectory of itself, " ++
            Quoting.always goal) 1
        else if has 'n' then return ()
        else if before.isDirectory && !entry.isDirectory then
          note self ("cannot overwrite directory " ++ Quoting.always goal ++
            " with non-directory") 1
        else if !before.isDirectory && entry.isDirectory then
          note self ("cannot overwrite non-directory " ++ Quoting.always goal ++
            " with directory " ++ Quoting.always source) 1
        else if before.isDirectory && !(d.namesIn there).isEmpty then cannot .notEmpty
        else move

def mv : Program := fun self args => do
  let (given, paths) ← options self copySpecs false 1 args
  Act.setStatus 0
  let (sources, target) ← operands self given paths
  requireDirectory self sources target
  sources.forM (moveOne self (Options.has given) target)

/-! ## Links -/

def linkOne (self : String) (has : Char → Bool) (goal source : String) : Act Unit := do
  let s ← get
  let d := s.world.disk
  let soft := has 's'
  let kind := if soft then "symbolic link" else "hard link"
  match if soft then .ok ([], Entry.link source) else d.status s.directory source with
  | .error e => note self ("failed to access " ++ Quoting.always source ++ ": " ++ e.text) 1
  | .ok (_, .directory) =>
    note self (Quoting.beforeColon source ++ ": hard link not allowed for directory") 1
  | .ok (_, entry) =>
    let failed (e : DiskError) : Act Unit :=
      let detail := if soft then if source.isEmpty then " -> ''" else ""
        else if e == .alreadyThere then "" else " => " ++ Quoting.always source
      note self ("failed to create " ++ kind ++ " " ++ Quoting.always goal ++ detail ++ ": " ++
        e.text) 1
    match d.locate false s.directory goal with
    | .error e => failed e
    | .ok ⟨there, found⟩ =>
      if source.isEmpty then failed .missing
      else if found.isSome && !has 'f' then failed .alreadyThere
      else
        match d.checkParent there with
        | .error e => failed e
        | .ok () =>
          Act.modifyWorld fun w => w.setDisk (w.disk.put there entry)
          if has 'v' then
            out self (Quoting.always goal ++ (if soft then " -> " else " => ") ++
              Quoting.always source ++ "\n")

def ln : Program := fun self args => do
  let (given, paths) ← options self
    [⟨'s', some "symbolic", false⟩, ⟨'f', some "force", false⟩, ⟨'n', none, false⟩,
      ⟨'v', some "verbose", false⟩, ⟨'T', none, false⟩, ⟨'r', some "relative", false⟩] false 1 args
  Act.setStatus 0
  let has := Options.has given
  match paths with
  | [] => misuse self "missing file operand" 1
  | [source] => linkOne self has (within "." (lastName source)) source
  | paths =>
    let target := paths.getLast?.getD ""
    let sources := paths.dropLast
    requireDirectory self sources target
    sources.forM fun source => do
      let s ← get
      let isLink := match s.world.disk.linkStatus s.directory target with
        | .ok (_, .link _) => true
        | _ => false
      let plainly := has 'T' || (has 'n' && isLink)
      linkOne self has (destination s.world.disk s.directory source target plainly) source

def readlink : Program := fun self args => do
  let (given, paths) ← options self
    [⟨'f', some "canonicalize", false⟩, ⟨'e', some "canonicalize-existing", false⟩,
      ⟨'m', some "canonicalize-missing", false⟩, ⟨'n', some "no-newline", false⟩,
      ⟨'q', some "quiet", false⟩, ⟨'s', some "silent", false⟩, ⟨'v', some "verbose", false⟩,
      ⟨'z', some "zero", false⟩] false 1 args
  Act.setStatus 0
  let has := Options.has given
  if paths.isEmpty then missingOperand self 1
  else
    paths.forM fun path => do
      let s ← get
      let d := s.world.disk
      let found : Except DiskError String :=
        if has 'f' || has 'e' || has 'm' then
          match d.locate true s.directory path with
          | .ok ⟨there, entry⟩ =>
            if has 'e' && entry.isNone then .error .missing else .ok (placeText there)
          | .error e => .error e
        else
          match d.linkStatus s.directory path with
          | .ok (_, .link target) => .ok target
          | .ok _ => .error .invalid
          | .error e => .error e
      match found with
      | .ok text => out self (text ++ (if has 'n' then "" else "\n"))
      | .error e =>
        if has 'v' then complain self (Quoting.beforeColon path ++ ": " ++ e.text)
        Act.setStatus 1

def realpath : Program := fun self args => do
  let (given, paths) ← options self
    [⟨'e', some "canonicalize-existing", false⟩, ⟨'m', some "canonicalize-missing", false⟩,
      ⟨'q', some "quiet", false⟩, ⟨'s', some "strip", false⟩, ⟨'z', some "zero", false⟩,
      ⟨'L', none, false⟩, ⟨'P', none, false⟩] false 1 args
  Act.setStatus 0
  let has := Options.has given
  if paths.isEmpty then missingOperand self 1
  else
    paths.forM fun path => do
      let s ← get
      match s.world.disk.locate true s.directory path with
      | .ok ⟨there, entry⟩ =>
        if has 'e' && entry.isNone then
          note self (Quoting.beforeColon path ++ ": " ++ DiskError.missing.text) 1
        else out self (placeText there ++ "\n")
      | .error e =>
        if has 'q' then Act.setStatus 1
        else note self (Quoting.beforeColon path ++ ": " ++ e.text) 1

/-! ## Names -/

/-- A name without an ending, unless nothing would be left. -/
def withoutEnding (ending name : String) : String :=
  if ending != name && !ending.isEmpty && name.endsWith ending then
    String.ofList (name.toList.take (name.length - ending.length))
  else name

def basename : Program := fun self args => do
  let (given, names) ← options self
    [⟨'a', some "multiple", false⟩, ⟨'s', some "suffix", true⟩, ⟨'z', some "zero", false⟩]
    true 1 args
  Act.setStatus 0
  let finish := if Options.has given 'z' then "\x00" else "\n"
  let many := Options.has given 'a' || Options.has given 's'
  match names with
  | [] => missingOperand self 1
  | names =>
    if many then
      let ending := (Options.value? given 's').getD ""
      out self (String.join (names.map fun name => withoutEnding ending (lastName name) ++ finish))
    else
      match names with
      | [name] => out self (lastName name ++ finish)
      | [name, ending] => out self (withoutEnding ending (lastName name) ++ finish)
      | _ => misuse self ("extra operand " ++ Quoting.word (names[2]?.getD "")) 1

def directoryOf (path : String) : String :=
  let above := (path.toList.reverse.dropWhile (· == '/')).dropWhile (· != '/')
  let trimmed := above.dropWhile (· == '/')
  if !trimmed.isEmpty then String.ofList trimmed.reverse
  else if path.startsWith "/" then "/"
  else "."

def dirname : Program := fun self args => do
  let (given, names) ← options self [⟨'z', some "zero", false⟩] true 1 args
  Act.setStatus 0
  let finish := if Options.has given 'z' then "\x00" else "\n"
  if names.isEmpty then missingOperand self 1
  else out self (String.join (names.map fun name => directoryOf name ++ finish))

/-! ## Rights -/

def isRightsLetter (c : Char) : Bool := "rwxXst".toList.contains c

/-- Whether something is executable after one clause of a mode; nothing if that has no meaning. -/
def clause? (before : Bool) (text : String) : Option Bool :=
  let cs := text.toList.dropWhile fun c => "ugoa".toList.contains c
  match cs with
  | '+' :: letters =>
    if letters.all isRightsLetter then some (before || letters.contains 'x') else none
  | '-' :: letters =>
    if letters.all isRightsLetter then some (before && !letters.contains 'x') else none
  | '=' :: letters => if letters.all isRightsLetter then some (letters.contains 'x') else none
  | _ => none

def executableUnder? (mode : String) (before : Bool) : Option Bool :=
  let cs := mode.toList
  if !cs.isEmpty && cs.all Escape.isOctal then
    if Escape.octalOf cs ≤ 4095 then some (cs.any fun c => (c.toNat - '0'.toNat) % 2 == 1)
    else none
  else
    (mode.splitOn ",").foldlM clause? before

def isMinusMode (arg : String) : Bool :=
  match arg.toList with
  | '-' :: cs => !cs.isEmpty && cs.all isRightsLetter
  | _ => false

def chmod : Program := fun self args => do
  let minus := args.filter isMinusMode
  let (given, words) ← options self
    [⟨'R', some "recursive", false⟩, ⟨'v', some "verbose", false⟩, ⟨'f', some "quiet", false⟩,
      ⟨'c', some "changes", false⟩] false 1 (args.filter fun arg => !isMinusMode arg)
  let words := minus ++ words
  Act.setStatus 0
  match words with
  | [] => missingOperand self 1
  | [mode] => misuse self ("missing operand after " ++ Quoting.word mode) 1
  | mode :: paths =>
    if (executableUnder? mode false).isNone then
      misuse self ("invalid mode: " ++ Quoting.word mode) 1
    else
      paths.forM fun path => do
        let s ← get
        match s.world.disk.status s.directory path with
        | .error e =>
          if Options.has given 'f' then Act.setStatus 1
          else note self ("cannot access " ++ Quoting.always path ++ ": " ++ e.text) 1
        | .ok (place, entry) =>
          let targets := if Options.has given 'R' then s.world.disk.below place
            else [(place, entry)]
          let put (d : Disk) (target : Path × Entry) : Disk :=
            match target.2 with
            | .file content before =>
              d.put target.1 (.file content ((executableUnder? mode before).getD before))
            | _ => d
          Act.modifyWorld fun w => w.setDisk (targets.foldl put w.disk)

/-! ## Comparing -/

/-- How two texts differ: the number of the first byte that does, and its line. -/
def firstDifference : Nat → Nat → List Char → List Char → Option (Nat × Nat × Bool × Bool)
  | byte, line, a :: as, b :: bs =>
    if a == b then firstDifference (byte + 1) (if a == '\n' then line + 1 else line) as bs
    else some (byte, line, false, false)
  | _, _, [], [] => none
  | byte, line, [], _ => some (byte, line, true, false)
  | byte, line, _, [] => some (byte, line, false, true)

def cmp : Program := fun self args => do
  let (given, paths) ← options self
    [⟨'s', some "quiet", false⟩, ⟨'l', some "verbose", false⟩, ⟨'b', none, false⟩] false 2 args
  Act.setStatus 0
  let silent := Options.has given 's'
  match paths with
  | [] =>
    complain self ("missing operand after '" ++ self ++ "'")
    complain self ("Try '" ++ self ++ " --help' for more information.")
    finish 2
  | first :: rest =>
    let second := rest.headD "-"
    let read (path : String) : Act (Option String) := do
      match ← inputOf path with
      | .ok (text, _) => return some text
      | .error e =>
        note self (path ++ ": " ++ e.text) 2
        return none
    match ← read first with
    | none => return ()
    | some a =>
      match ← read second with
      | none => return ()
      | some b =>
        match firstDifference 1 1 a.toList b.toList with
        | none => return ()
        | some (byte, line, endsFirst, endsSecond) =>
          Act.setStatus 1
          if silent then return ()
          else if endsFirst || endsSecond then
            let (path, text) := if endsFirst then (first, a) else (second, b)
            if text.isEmpty then complain self ("EOF on " ++ path ++ " which is empty")
            else
              let isWhole := text.endsWith "\n"
              complain self ("EOF on " ++ path ++ " after byte " ++ toString (byte - 1) ++
                (if isWhole then ", line " ++ toString (line - 1)
                  else ", in line " ++ toString line))
          else
            out self (first ++ " " ++ second ++ " differ: byte " ++ toString byte ++ ", line " ++
              toString line ++ "\n")

end Interop.Shell.Program
