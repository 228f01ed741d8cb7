import Interop.Disk.Journal
import Interop.Shell.Script
import Interop.Text.Octets

/-!
# The state of a shell

A shell lives in a world that it shares with everything that it starts: the disk, the open
files and the time that has passed.  The rest, such as variables and traps, is its own, and a
shell that it starts gets a copy.  Whatever changes on the disk is kept with its time.
-/

namespace Interop.Shell

/-! ## Open files -/

inductive Target
  | file (path : Path)
  | device (device : Device)
  | pipe
  deriving DecidableEq, Repr, Inhabited

/-- An open file; streams may share one. -/
structure OpenFile where
  target : Target
  offset : Nat
  appends : Bool
  readable : Bool
  writable : Bool
  pursues : Bool
  content : String
  pieces : List (Span × String)
  closed : Span
  endless : Bool
  deriving Repr, Inhabited

namespace OpenFile

def ofTarget (target : Target) : OpenFile :=
  { target, offset := 0, appends := false, readable := true, writable := true, pursues := false
    content := "", pieces := [], closed := .zero, endless := false }

def receive (time : Span) (text : String) (file : OpenFile) : OpenFile :=
  { file with content := file.content ++ text, pieces := (time, text) :: file.pieces }

def isInOrder : List (Span × String) → Bool
  | newer :: older :: rest => older.1.nanos ≤ newer.1.nanos && isInOrder (older :: rest)
  | _ => true

def laterOf (a b : Span) : Span := if a.nanos < b.nanos then b else a

/-- Closes a pipe for a writer: what it holds is now in the order in which it was written. -/
def close (time : Span) (endless : Bool) (file : OpenFile) : OpenFile :=
  let file := { file with closed := laterOf file.closed time, endless := file.endless || endless }
  if isInOrder file.pieces then file
  else
    let sorted := file.pieces.reverse.mergeSort fun a b => a.1.nanos ≤ b.1.nanos
    { file with content := String.join (sorted.map Prod.snd), pieces := sorted.reverse }

def arrivalFrom (closed : Span) : Nat → List (Span × String) → Span
  | _, [] => closed
  | size, (time, text) :: rest =>
    if size ≤ text.length then time else arrivalFrom closed (size - text.length) rest

def arrival (file : OpenFile) (size : Nat) : Span :=
  arrivalFrom file.closed size file.pieces.reverse

end OpenFile

/-! ## Ways to leave -/

inductive Fate
  | code (number : Nat)
  | signal (number : Nat)
  | endless
  deriving DecidableEq, Repr, Inhabited

def Fate.status : Fate → Nat
  | .code number => number
  | .signal number => 128 + number
  | .endless => 0

inductive Flow
  | exits
  /-- The shell ends with the last status because of an error. -/
  | fails
  | killed (signal : Nat)
  | breaks (levels : Nat)
  | continues (levels : Nat)
  | returns
  | endless
  deriving DecidableEq, Repr, Inhabited

/-! ## What a shell has -/

structure Variable where
  name : String
  value : Option String
  exported : Bool
  readOnly : Bool
  deriving DecidableEq, Repr, Inhabited

structure Job where
  slot : Nat
  pid : Nat
  width : Nat
  finish : Option (Span × Fate)
  isCollected : Bool
  isAwaited : Bool
  deriving Repr, Inhabited

structure OptionPlace where
  next : Nat
  offset : Option Nat
  deriving DecidableEq, Repr, Inhabited

def OptionPlace.beginning : OptionPlace := ⟨1, none⟩

structure Dispatch where
  number : Nat
  time : Span
  toGroup : Bool
  receiver : Nat
  signal : Nat
  deriving DecidableEq, Repr, Inhabited

abbrev Letters := List Char

structure World where
  disk : Disk
  elapsed : Span
  files : List OpenFile
  coming : List Change
  changes : List Change
  documents : List (Nat × Word)
  nextDocument : Nat
  nextPid : Nat
  /-- Signals that are sent, in order; the first of them were known from the beginning. -/
  dispatches : List Dispatch
  foreseen : Nat
  late : Option Dispatch
  steps : Nat
  restless : Nat

namespace World

def note (w : World) (path : Path) (alteration : Alteration) : World :=
  { w with changes := ⟨w.elapsed, path, alteration, false⟩ :: w.changes }

def setDisk (w : World) (disk : Disk) : World :=
  let found := Disk.alterations w.disk.entries disk.entries
  found.foldl (fun w alteration => w.note alteration.1 alteration.2) { w with disk }

def extend (w : World) (path : Path) (text : String) : World :=
  { w with disk := w.disk.alter path (.extend text) }.note path (.extend text)

def catchUp (w : World) : World :=
  match w.coming with
  | [] => w
  | coming =>
    let isDue (c : Change) : Bool := c.after.nanos ≤ w.elapsed.nanos
    { w with
      disk := w.disk.replay (coming.takeWhile isDue)
      coming := coming.dropWhile isDue }

def setElapsed (w : World) (elapsed : Span) : World := { w with elapsed }.catchUp

end World

structure State where
  world : World
  pid : Nat
  parent : Nat
  shellPid : Nat
  group : Nat
  born : Span
  noticed : List Nat
  name : String
  args : List String
  bindings : List Variable
  functions : List (String × Script)
  aliases : List (String × String)
  status : Nat
  directory : Path
  logical : String
  mask : Nat
  hashed : List (String × String)
  streams : List (Nat × Nat)
  /-- Signals with what is done about them; zero stands for the end of the shell. -/
  traps : List (Nat × String)
  settings : Letters
  line : Nat
  command : Option String
  loops : Nat
  functionDepth : Nat
  hidden : List (List (String × Option Variable))
  jobs : List Job
  lastJob : Option Nat
  trapStatus : Option Nat
  substituted : Nat
  optionPlace : OptionPlace
  outbox : String

structure Departure where
  flow : Flow
  state : State

abbrev Act := StateT State (Except Departure)

namespace State

def firstPid : Nat := 4242

def settingLetters : List Char := "ubaCEVvxsnmiIfe".toList

def shownSettings (settings : List Char) : String :=
  String.ofList (settingLetters.filter settings.contains)

def patience : Nat := 1000000

/-- Steps without time passing after which time passes until a request arrives. -/
def restlessness : Nat := 120000

def briskness : Nat := 3000

def longTime : Span := .ofSeconds 60

def systemPath : String :=
  "/usr/local/sbin:/usr/local/bin:/usr/sbin:/usr/bin:/sbin:/bin"

def environment : List Variable :=
  [⟨"HOME", some "/root", true, false⟩, ⟨"LANG", some "C.UTF-8", true, false⟩,
    ⟨"PATH", some systemPath, true, false⟩]

end State

/-! ## Leaving -/

namespace Act

def leave {α : Type} (flow : Flow) : Act α := fun s => .error ⟨flow, s⟩

def catchLeave {α : Type} (act : Act α) (handle : Flow → Act α) : Act α := fun s =>
  match act s with
  | .ok result => .ok result
  | .error ⟨flow, s⟩ => handle flow s

def setStatus (status : Nat) : Act Unit := modify fun s => { s with status }

def modifyWorld (f : World → World) : Act Unit := modify fun s => { s with world := f s.world }

def file? (stream : Nat) : Act (Option (Nat × OpenFile)) := do
  let s ← get
  match s.streams.find? fun entry => entry.1 == stream with
  | none => return none
  | some (_, number) => return (s.world.files[number]?).map fun file => (number, file)

/-! ## Writing -/

def pipeLimit : Nat := 1000000

def overlay (content : String) (offset : Nat) (text : String) : String :=
  let cs := content.toList
  let lead := cs.take offset ++ List.replicate (offset - cs.length) (Char.ofNat 0)
  String.ofList (lead ++ text.toList ++ cs.drop (offset + text.length))

def writeFile (number : Nat) (file : OpenFile) (path : Path) (text : String) : Act Unit :=
  modifyWorld fun w =>
    match w.disk.entry? path with
    | some (.file content executable) =>
      let size := content.length
      let isAtEnd := file.appends || size ≤ file.offset
      let gap := if file.appends || file.pursues then 0 else file.offset - size
      let moved := { file with offset := file.offset + text.length, pursues := isAtEnd }
      let w := { w with files := w.files.set number moved }
      if isAtEnd then
        w.extend path (String.ofList (List.replicate gap (Char.ofNat 0)) ++ text)
      else w.setDisk (w.disk.put path (.file (overlay content file.offset text) executable))
    | _ => { w with files := w.files.set number { file with offset := file.offset + text.length } }

def emptyFile (path : Path) : Act Unit :=
  modifyWorld fun w =>
    match w.disk.entry? path with
    | some (.file content executable) =>
      if content.isEmpty then w
      else
        let leave (file : OpenFile) : OpenFile :=
          if file.target == .file path then { file with pursues := false } else file
        { w with files := w.files.map leave }.setDisk (w.disk.put path (.file "" executable))
    | _ => w

inductive Written
  | done
  | failed (cause : DiskError)
  | closed
  deriving DecidableEq

def write (stream : Nat) (text : String) : Act Written := do
  match ← file? stream with
  | none => return .closed
  | some (number, file) =>
    if !file.writable then return .closed
    else if text.isEmpty then return .done
    else
      match file.target with
      | .file path =>
        writeFile number file path text
        return .done
      | .device .full => return .failed .noSpace
      | .device _ => return .done
      | .pipe =>
        if pipeLimit < file.content.utf8ByteSize then leave (.killed 13)
        else
          modifyWorld fun w =>
            { w with files := w.files.modify number (OpenFile.receive w.elapsed text) }
          return .done

/-- Writes to the stream for errors, whatever comes of it. -/
def complainRaw (text : String) : Act Unit := do
  let _ ← write 2 text
  return ()

def messageLead : Act String := do
  let s ← get
  let command := match s.command with
    | some command => command ++ ": "
    | none => ""
  return s!"{s.name}: {s.line}: " ++ command

def warn (message : String) : Act Unit := do
  complainRaw ((← messageLead) ++ message ++ "\n")

def failWith {α : Type} (status : Nat) (message : String) : Act α := do
  warn message
  setStatus status
  leave .fails

def fail {α : Type} (message : String) : Act α := failWith 2 message

def say (text : String) : Act Unit := modify fun s => { s with outbox := s.outbox ++ text }

/-- Sends out what a command of the shell has written; whether that has worked. -/
def sendOut : Act Bool := do
  let text := (← get).outbox
  modify fun s => { s with outbox := "" }
  match ← write 1 text with
  | .done => return true
  | _ => return text.isEmpty

/-! ## Reading -/

def restOf (file : OpenFile) : Act (List Char) := do
  match file.target with
  | .file path =>
    match (← get).world.disk.entry? path with
    | some (.file content _) => return content.toList.drop file.offset
    | _ => return []
  | .device .zero | .device .full => return List.replicate pipeLimit (Char.ofNat 0)
  | .device _ => return []
  | .pipe => return file.content.toList.drop file.offset

def isEndless (file : OpenFile) : Bool :=
  match file.target with
  | .device .zero | .device .full => true
  | .pipe => file.endless
  | _ => false

/-- Lets time pass until an instant. -/
def waitUntil (time : Span) : Act Unit :=
  modifyWorld fun w =>
    if w.elapsed.nanos < time.nanos then { w with restless := 0 }.setElapsed time else w

def advance (number count : Nat) (toEnd : Bool) : Act Unit := do
  match (← get).world.files[number]? with
  | none => return ()
  | some file =>
    if file.target == .pipe then
      waitUntil (if toEnd then file.closed else file.arrival (file.offset + count))
    modifyWorld fun w =>
      { w with files := w.files.modify number fun f => { f with offset := f.offset + count } }

/-- A line from a stream without its end, and whether it had one; nothing if the stream cannot
be read. -/
def readLine? (stream : Nat) : Act (Option (String × Bool)) := do
  match ← file? stream with
  | none => return none
  | some (number, file) =>
    if !file.readable then return none
    else
      let rest ← restOf file
      let line := rest.takeWhile (· != '\n')
      let isWhole := line.length < rest.length
      if !isWhole && isEndless file then leave .endless
      else
        advance number (line.length + if isWhole then 1 else 0) !isWhole
        return some (String.ofList line, isWhole)

def readAll (stream : Nat) : Act (String × Bool) := do
  match ← file? stream with
  | none => return ("", true)
  | some (number, file) =>
    if !file.readable then return ("", true)
    else
      let rest ← restOf file
      advance number rest.length true
      return (String.ofList rest, !isEndless file)

/-! ## Streams -/

/-- Opens a file; its number. -/
def openFile (file : OpenFile) : Act Nat := fun s =>
  .ok (s.world.files.length,
    { s with world := { s.world with files := s.world.files ++ [file] } })

def direct (stream : Nat) (number : Option Nat) : Act Unit :=
  modify fun s =>
    let others := s.streams.filter fun entry => entry.1 != stream
    { s with
      streams := match number with
        | some number => (stream, number) :: others
        | none => others }

/-! ## Time -/

def wait (length : Span) : Act Unit :=
  modifyWorld fun w =>
    { w with restless := 0 }.setElapsed ⟨w.elapsed.nanos + length.nanos⟩

/-! ## Variables -/

def findVariable? (name : String) : Act (Option Variable) := do
  return (← get).bindings.find? fun v => v.name == name

def putVariable (v : Variable) : Act Unit :=
  modify fun s =>
    { s with
      bindings :=
        if s.bindings.any fun other => other.name == v.name then
          s.bindings.map fun other => if other.name == v.name then v else other
        else s.bindings ++ [v] }

/-- Gives a variable a value, unless it must not change. -/
def putValue (name value : String) : Act Unit := do
  match ← findVariable? name with
  | none =>
    putVariable ⟨name, some value, (← get).settings.contains 'a', false⟩
  | some v =>
    if v.readOnly then fail (name ++ ": is read only")
    else putVariable { v with value := some value }

def placeName : String := "OPTIND"

def placeOptions (value : String) : Act Unit := do
  let cs := value.toList
  if cs.isEmpty || !cs.all Char.isDigit then fail ("Illegal number: " ++ value)
  else modify fun s => { s with optionPlace := ⟨max 1 (value.toNat?.getD 1), none⟩ }

def assign (name value : String) : Act Unit := do
  if name == placeName then placeOptions value
  putValue name value

def valueOf? (name : String) : Act (Option String) := do
  return (← findVariable? name).bind Variable.value

end Act

end Interop.Shell
