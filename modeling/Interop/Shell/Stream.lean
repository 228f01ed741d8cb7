import Interop.Shell.Expansion
import Interop.Shell.Signal

/-!
# Streams of commands

A command may have its streams directed to files, to other streams or to texts of the script.
What is to be opened is worked out first; then streams are directed one after another, up to
the first that cannot be.
-/

namespace Interop.Shell

inductive Direction
  | file (stream : Nat) (mode : OpenMode) (path : String)
  | stream (stream : Nat) (source : Option Nat)
  | text (stream : Nat) (word : Word)

namespace Act

def prepare (output : Output) : Redirection → Act Direction
  | .file stream mode w => do
    let text ← expandText output w
    return .file stream mode text
  | .stream stream w => do
    let text ← expandText output w
    match text.toList with
    | ['-'] => return .stream stream none
    | [c] =>
      if c.isDigit then return .stream stream (some (c.toNat - '0'.toNat))
      else fail (Misreading.message .descriptor |> ("Syntax error: " ++ ·))
    | _ => fail ("Syntax error: " ++ Misreading.message .descriptor)
  | .document stream number => do
    let s ← get
    match s.world.documents.find? fun entry => entry.1 == number with
    | some (_, w) => return .text stream w
    | none => return .text stream []

def openingText (creates : Bool) (e : DiskError) : String :=
  match e with
  | .missing | .notDirectory => if creates then "Directory nonexistent" else "No such file"
  | e => e.text

def freshFile (target : Target) (mode : OpenMode) : OpenFile :=
  { OpenFile.ofTarget target with
    appends := mode == .append
    readable := mode == .read || mode == .both
    writable := mode != .read }

/-- Opens what is at a place; the number of the open file. -/
def openPlace (mode : OpenMode) (guarded : Bool) (path : Path) (entry : Option Entry) :
    Act (Except DiskError Nat) := do
  let opened (target : Target) : Act (Except DiskError Nat) := do
    return .ok (← openFile (freshFile target mode))
  match entry with
  | some (.device device) => opened (.device device)
  | some .directory =>
    if mode == .read then opened (.file path) else return .error .isDirectory
  | some (.file _ _) =>
    if guarded && mode == .overwrite then return .error .alreadyThere
    else
      if mode == .overwrite || mode == .force then emptyFile path
      opened (.file path)
  | some _ => if mode == .read then opened (.file path) else return .error .denied
  | none =>
    if mode == .read then return .error .missing
    else
      let s ← get
      match s.world.disk.checkParent path with
      | .error e => return .error e
      | .ok () =>
        modifyWorld fun w => w.setDisk (w.disk.put path .blank)
        opened (.file path)

/-- Opens a path; the number of the open file. -/
def openPath (mode : OpenMode) (path : String) : Act (Except DiskError Nat) := do
  let s ← get
  let guarded := s.settings.contains 'C'
  match s.world.disk.locate true s.directory path with
  | .error e => return .error e
  | .ok ⟨place, some (.device (.stream n))⟩ =>
    match ← file? n with
    | none => return .error .missing
    | some (number, file) =>
      match file.target with
      | .pipe => return .ok number
      | .device device => openPlace mode guarded place (some (.device device))
      | .file path => openPlace mode guarded path (s.world.disk.entry? path)
  | .ok ⟨place, entry⟩ =>
    if entry.isNone && path.endsWith "/" && mode != .read then return .error .isDirectory
    else openPlace mode guarded place entry

def follow (output : Output) : Direction → Act Unit
  | .file stream mode path => do
    match ← openPath mode path with
    | .ok number => direct stream (some number)
    | .error e =>
      let creates := mode != .read
      fail ("cannot " ++ (if creates then "create " else "open ") ++ path ++ ": " ++
        openingText creates e)
  | .stream stream none => direct stream none
  | .stream stream (some source) => do
    match (← get).streams.find? fun entry => entry.1 == source with
    | some (_, number) => direct stream (some number)
    | none => fail (toString source ++ ": Bad file descriptor")
  | .text stream word => do
    let content ← expandText output word
    let now := (← get).world.elapsed
    let number ← openFile
      { OpenFile.ofTarget .pipe with writable := false, content, closed := now }
    direct stream (some number)

/-- Directs streams, up to the first that cannot be: whether there was none. -/
def redirect (output : Output) (rs : List Redirection) : Act Bool := do
  let directions ← rs.mapM (prepare output)
  catchLeave
    (do
      directions.forM (follow output)
      return true)
    fun flow => if flow == .fails then return false else leave flow

def streamOf : Redirection → Nat
  | .file stream _ _ | .stream stream _ | .document stream _ => stream

/-- Puts the streams of some redirections back to what they were, and closes files that nobody
uses any more. -/
def restore (before : State) (rs : List Redirection) : Act Unit :=
  modify fun s =>
    let touched := rs.map streamOf
    let kept := s.streams.filter fun entry => !touched.contains entry.1
    let streams := kept ++ before.streams.filter fun entry => touched.contains entry.1
    let needed := (streams.map fun entry => entry.2 + 1).foldl max before.world.files.length
    { s with streams, world := { s.world with files := s.world.files.take needed } }

end Act

end Interop.Shell
