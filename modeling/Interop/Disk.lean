import Interop.Text.Utf8

/-!
# Disks

A disk holds directories, files, devices, programs and links under their paths.  A path that is
written down is followed name by name, through links, from the root or from a directory.  All
names and contents are octet texts: texts whose characters are bytes.
-/

namespace Interop

/-- The names from the root down to an entry; the root itself has none. -/
abbrev Path := List String

inductive Device
  | null
  | zero
  | full
  | stream (number : Nat)
  deriving DecidableEq, Repr, Inhabited

inductive Entry
  | directory
  | file (content : String) (executable : Bool)
  | device (device : Device)
  | program (name : String)
  | link (target : String)
  deriving DecidableEq, Repr, Inhabited

namespace Entry

def isDirectory : Entry → Bool
  | .directory => true
  | _ => false

def blank : Entry := .file "" false

end Entry

inductive DiskError
  | notPermitted
  | missing
  | tooManyArguments
  | notExecutable
  | denied
  | alreadyThere
  | notDirectory
  | isDirectory
  | invalid
  | noSpace
  | nameTooLong
  | notEmpty
  | tooManyLinks
  deriving DecidableEq, Repr, Inhabited

namespace DiskError

def text : DiskError → String
  | .notPermitted => "Operation not permitted"
  | .missing => "No such file or directory"
  | .tooManyArguments => "Argument list too long"
  | .notExecutable => "Exec format error"
  | .denied => "Permission denied"
  | .alreadyThere => "File exists"
  | .notDirectory => "Not a directory"
  | .isDirectory => "Is a directory"
  | .invalid => "Invalid argument"
  | .noSpace => "No space left on device"
  | .nameTooLong => "File name too long"
  | .notEmpty => "Directory not empty"
  | .tooManyLinks => "Too many levels of symbolic links"

def number : DiskError → Nat
  | .notPermitted => 1
  | .missing => 2
  | .tooManyArguments => 7
  | .notExecutable => 8
  | .denied => 13
  | .alreadyThere => 17
  | .notDirectory => 20
  | .isDirectory => 21
  | .invalid => 22
  | .noSpace => 28
  | .nameTooLong => 36
  | .notEmpty => 39
  | .tooManyLinks => 40

def message (e : DiskError) : String := s!"{e.text} (os error {e.number})"

end DiskError

structure Disk where
  entries : List (Path × Entry)
  deriving DecidableEq, Repr, Inhabited

namespace Disk

/-! ## Entries -/

/-- The entry under a path; the root is always there. -/
def entry? (d : Disk) (path : Path) : Option Entry :=
  match path with
  | [] => some .directory
  | _ => (d.entries.find? fun entry => entry.1 == path).map Prod.snd

def replaceIn (path : Path) (entry : Entry) : List (Path × Entry) → List (Path × Entry)
  | [] => [(path, entry)]
  | first :: rest =>
    if first.1 == path then (path, entry) :: rest else first :: replaceIn path entry rest

def put (d : Disk) (path : Path) (entry : Entry) : Disk := ⟨replaceIn path entry d.entries⟩

theorem entry?_put_of_ne (d : Disk) {path other : Path} (entry : Entry) (apart : path ≠ other) :
    Disk.entry? (d.put path entry) other = d.entry? other := by
  have same (entries : List (Path × Entry)) :
      (replaceIn path entry entries).find? (fun e => e.1 == other) =
        entries.find? fun e => e.1 == other := by
    induction entries with
    | nil => simp [replaceIn, apart]
    | cons first rest ih =>
        unfold replaceIn
        split
        · next here => simp [beq_iff_eq.mp here, apart]
        · simp only [List.find?_cons, ih]
  cases other with
  | nil => rfl
  | cons => simp only [put, Disk.entry?, same]

def drop (d : Disk) (path : Path) : Disk := ⟨d.entries.filter fun entry => entry.1 != path⟩

def namesIn (d : Disk) (path : Path) : List String :=
  d.entries.filterMap fun entry =>
    match entry.1.getLast? with
    | some name => if entry.1.dropLast == path then some name else none
    | none => none

def below (d : Disk) (path : Path) : List (Path × Entry) :=
  d.entries.filter fun entry => path.isPrefixOf entry.1

/-! ## Following paths -/

def maxName : Nat := 255

def maxPath : Nat := 4096

def maxLinks : Nat := 40

structure Place where
  path : Path
  entry : Option Entry
  deriving DecidableEq, Repr

def isEnd (names : List String) : Bool := names.all String.isEmpty

/-- Walks from a directory along names.  A link at the end is followed only when asked for, and
everything but the last name has to be a directory. -/
def walk (d : Disk) (follow : Bool) (links : Nat) (here : Path) (names : List String) :
    Except DiskError Place :=
  match names with
  | [] => .ok ⟨here, d.entry? here⟩
  | name :: rest =>
    if name.isEmpty || name == "." then walk d follow links here rest
    else if name == ".." then walk d follow links here.dropLast rest
    else if maxName < name.length then .error .nameTooLong
    else
      let there := here ++ [name]
      match d.entry? there with
      | none => if isEnd rest then .ok ⟨there, none⟩ else .error .missing
      | some .directory => walk d follow links there rest
      | some (.link target) =>
        if rest.isEmpty && !follow then .ok ⟨there, some (.link target)⟩
        else
          match links with
          | 0 => .error .tooManyLinks
          | links + 1 =>
            walk d follow links (if target.startsWith "/" then [] else here)
              (target.splitOn "/" ++ rest)
      | some other => if rest.isEmpty then .ok ⟨there, some other⟩ else .error .notDirectory
  termination_by (links, names.length)

def locate (d : Disk) (follow : Bool) (start : Path) (text : String) : Except DiskError Place :=
  if text.isEmpty then .error .missing
  else if maxPath ≤ text.length then .error .nameTooLong
  else d.walk follow maxLinks (if text.startsWith "/" then [] else start) (text.splitOn "/")

def status (d : Disk) (start : Path) (text : String) : Except DiskError (Path × Entry) := do
  let place ← d.locate true start text
  match place.entry with
  | some entry => return (place.path, entry)
  | none => .error .missing

def linkStatus (d : Disk) (start : Path) (text : String) : Except DiskError (Path × Entry) := do
  let place ← d.locate false start text
  match place.entry with
  | some entry => return (place.path, entry)
  | none => .error .missing

def isDirectory (d : Disk) (start : Path) (text : String) : Bool :=
  match d.status start text with
  | .ok (_, entry) => entry.isDirectory
  | .error _ => false

/-! ## Changes -/

def processes : Path := ["proc"]

def checkParent (d : Disk) (path : Path) : Except DiskError Unit :=
  if path.dropLast == processes then .error .missing
  else
    match d.entry? path.dropLast with
    | some .directory => .ok ()
    | some _ => .error .notDirectory
    | none => .error .missing

def makeDirectory (d : Disk) (start : Path) (text : String) : Except DiskError Disk := do
  let place ← d.locate false start text
  match place.entry with
  | some _ => .error .alreadyThere
  | none =>
    d.checkParent place.path
    return d.put place.path .directory

def parentText? (text : String) : Option String :=
  let trimmed := text.toList.reverse.dropWhile (· == '/')
  match trimmed.dropWhile (· != '/') with
  | [] => if trimmed.isEmpty then none else some ""
  | rest =>
    let above := rest.dropWhile (· == '/')
    some (if above.isEmpty then "/" else String.ofList above.reverse)

/-- Makes a directory and those above it that are not there; what is a directory already is left
alone. -/
def makeAllFrom : Nat → Path → String → Disk → Except DiskError Disk
  | 0, _, _, _ => .error .nameTooLong
  | fuel + 1, start, text, d =>
    if text.isEmpty then .ok d
    else
      match d.makeDirectory start text with
      | .ok d => .ok d
      | .error .missing =>
        match parentText? text with
        | none => .error .missing
        | some above => do
          let d ← makeAllFrom fuel start above d
          match d.makeDirectory start text with
          | .ok d => return d
          | .error e => if d.isDirectory start text then return d else .error e
      | .error e => if d.isDirectory start text then .ok d else .error e

def makeAll (d : Disk) (start : Path) (text : String) : Except DiskError Disk :=
  makeAllFrom (text.length + 1) start text d

/-- The place at which a file can be written: there already, or new in a directory. -/
def placeFile (d : Disk) (start : Path) (text : String) : Except DiskError Place := do
  let place ← d.locate true start text
  match place.entry with
  | some .directory => .error .isDirectory
  | some _ => return place
  | none =>
    if text.endsWith "/" then .error .isDirectory
    else
      d.checkParent place.path
      return place

def save (d : Disk) (start : Path) (text content : String) : Except DiskError Disk := do
  let place ← d.placeFile start text
  match place.entry with
  | some (.device .full) => .error .noSpace
  | some (.device _) => return d
  | some (.file _ executable) => return d.put place.path (.file content executable)
  | _ => return d.put place.path (.file content false)

end Disk

end Interop
