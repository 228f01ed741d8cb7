import Interop.Disk
import Interop.Span

/-!
# Journals of disks

What a program does to a disk is kept as a list of changes, each some time after the beginning
of the program.  A disk at a later time is what the changes until then make of the disk at the
beginning; a change says what becomes of one path, so changes of several programs can be put
in the order of their times.
-/

namespace Interop

inductive Alteration
  | put (entry : Entry)
  | drop
  | extend (text : String)
  deriving DecidableEq, Repr, Inhabited

structure Change where
  after : Span
  path : Path
  alteration : Alteration
  stray : Bool
  deriving DecidableEq, Repr, Inhabited

namespace Disk

def alter (d : Disk) (path : Path) : Alteration → Disk
  | .put entry => d.put path entry
  | .drop => d.drop path
  | .extend text =>
    match d.entry? path with
    | some (.file content executable) => d.put path (.file (content ++ text) executable)
    | _ => d

def replay (d : Disk) (changes : List Change) : Disk :=
  changes.foldl (fun d change => d.alter change.path change.alteration) d

def alterations : List (Path × Entry) → List (Path × Entry) → List (Path × Alteration)
  | [], fresh => fresh.map fun entry => (entry.1, .put entry.2)
  | old :: rest, [] => (old.1, .drop) :: alterations rest []
  | old :: rest, new :: fresh =>
    if old.1 != new.1 then (old.1, .drop) :: alterations rest (new :: fresh)
    else if old.2 == new.2 then alterations rest fresh
    else (new.1, .put new.2) :: alterations rest fresh

end Disk

namespace Change

/-- Changes in the order of their times; those of one time stay as they are. -/
def inOrder (changes : List Change) : List Change :=
  changes.mergeSort fun a b => a.after.nanos ≤ b.after.nanos

def combine (change : Change) (later : List Change) : List Change :=
  match change, later with
  | ⟨after, path, .extend text, stray⟩, ⟨time, place, .extend more, other⟩ :: rest =>
    if after == time && path == place && stray == other then
      ⟨time, place, .extend (text ++ more), other⟩ :: rest
    else change :: later
  | change, later => change :: later

def combined (changes : List Change) : List Change := changes.foldr combine []

end Change

end Interop
