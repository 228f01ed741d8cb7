import Interop.Command.Template
import Interop.Service.Child
import Interop.Service.Network
import Interop.Text.Octets
import Interop.Text.Quoted

/-!
# Commanded services

A commanded service launches one child per node from a command template.  A server is ready
when every node accepts connections on the connector's port plus the node's number, which keeps
services of concurrent cases on distinct ports.  An application runs once per node, and its
exit code decides the outcome: 0 passed, 1 failed, anything else an exception.  Parameters are
appended to the command line as `key=value`.
-/

namespace Interop

structure CommandSettings where
  machine : Machine
  server : Option Command.Template
  client : Option Command.Template
  workRoot : Option String
  latestRelease : Option String

namespace CommandSettings

def temporaryRoot : String := "/tmp"

def template? (s : CommandSettings) : Role → Option Command.Template
  | .server => s.server
  | .clientApplication => s.client

end CommandSettings

inductive Pending
  | nothing
  | refused (cause : LifecycleError)
  | awaits (position : Nat)
  | drains
  | strikes (position : Nat) (since : Instant)
  deriving DecidableEq, Repr

structure Commanded where
  machine : Machine
  name : String
  role : Role
  version : String
  template : Command.Template
  nodes : List Node
  basePort : Option Nat
  workDir : String
  children : Crew
  logFiles : List String
  pending : Pending

namespace Commanded

/-! ## Making -/

def roleName : Role → String
  | .server => "Server"
  | .clientApplication => "ClientApplication"

def nulByte : String := "file name contained an unexpected NUL byte"

def makeRoot (s : CommandSettings) (disk : Disk) : Except String Disk :=
  match s.workRoot with
  | none => .ok disk
  | some root =>
    if root.toList.contains (Char.ofNat 0) then .error nulByte
    else (disk.makeAll [] (Text.octets root)).mapError DiskError.message

def makeWorkDir (path : String) (disk : Disk) : Except String Disk :=
  let reason := if path.toList.contains (Char.ofNat 0) then some nulByte else none
  match reason, disk.makeDirectory [] (Text.octets path) with
  | none, .ok disk => .ok disk
  | none, .error e => .error (e.message ++ " at path " ++ Text.quoted path)
  | some reason, _ => .error (reason ++ " at path " ++ Text.quoted path)

def make (s : CommandSettings) (tag : String) (d : Descriptor) (nodes : List Node)
    (disk : Disk) : Except ProvisionError (Commanded × Disk) :=
  let version := (d.version.resolve s.latestRelease).text
  match s.template? d.role with
  | none =>
    .error (.unsupported d.name version s!"no command configured for {roleName d.role} services")
  | some template =>
    let workDir := s.workRoot.getD CommandSettings.temporaryRoot ++ "/" ++ d.name ++ "-" ++ tag
    match (makeRoot s disk).bind (makeWorkDir workDir) with
    | .error reason =>
      .error (.unsupported d.name version ("cannot create work directory: " ++ reason))
    | .ok disk =>
      .ok
        ({ machine := s.machine, name := d.name, role := d.role, version, template, nodes
           basePort := d.connector, workDir, children := [], logFiles := [], pending := .nothing },
          disk)

/-! ## Ports -/

def port? (s : Commanded) (node : Node) : Option Nat :=
  s.basePort.bind fun base =>
    if base + node.id ≤ Network.maxPort then some (base + node.id) else none

/-- The endpoints of a server; those of nodes without a port are left out. -/
def endpoints (s : Commanded) : List Endpoint :=
  match s.role with
  | .server => s.nodes.filterMap fun node => (s.port? node).map fun port => ⟨node.host, port⟩
  | .clientApplication => []

def exposure (s : Commanded) : Exposure := ⟨s.endpoints, s.logFiles⟩

/-! ## Log files -/

def logName (s : Commanded) (index : Nat) : Channel → String
  | .output => s!"{s.name}-{index}.out"
  | .errors => s!"{s.name}-{index}.err"

def logPath (s : Commanded) (index : Nat) (channel : Channel) : String :=
  s.workDir ++ "/" ++ s.logName index channel

def content? (disk : Disk) (path : String) : Option Text.Bytes :=
  match disk.status [] (Text.octets path) with
  | .ok (_, .file content _) => some (Text.toBytes content)
  | _ => none

def tailLines : Nat := 5

def errorTail (disk : Disk) (index : Nat) (s : Commanded) : String :=
  match (content? disk (s.logPath index .errors)).bind Text.decode? with
  | some text => Text.lastLines tailLines text
  | none => ""

def withTail (disk : Disk) (index : Nat) (s : Commanded) (message : String) : String :=
  let tail := s.errorTail disk index
  if tail.isEmpty then message else message ++ ": " ++ tail

/-! ## Launching -/

def bindings (s : Commanded) (node : Node) (entryPoint : Option String) : Command.Bindings :=
  { version := s.version, port := s.port? node, node := node.id, host := node.host
    entryPoint, workDir := some s.workDir }

def invocation (s : Commanded) (index : Nat) (node : Node) (entryPoint : Option String)
    (params : Params String) : Invocation :=
  let (program, args) := s.template.render (s.bindings node entryPoint)
  { program, args := args ++ params.map fun param => param.1 ++ "=" ++ param.2
    directory := Text.octets s.workDir
    output := Text.octets (s.logPath index .output)
    errors := Text.octets (s.logPath index .errors) }

/-- Makes the log files for a node; what was in them is gone. -/
def makeLogs (index : Nat) (s : Commanded) (disk : Disk) : Except LifecycleError Disk :=
  let make (channel : Channel) (disk : Disk) : Except LifecycleError Disk :=
    (disk.save [] (Text.octets (s.logPath index channel)) "").mapError fun e => .io e.message
  (make .output disk).bind (make .errors)

/-- Launches the child for a node.  The log files stay whatever comes of it. -/
def spawn (now : Instant) (entryPoint : Option String) (params : Params String) (index : Nat)
    (node : Node) (scene : Scene) (s : Commanded) : Except LifecycleError Commanded × Disk :=
  let invocation := s.invocation index node entryPoint params
  match s.makeLogs index scene.disk with
  | .error cause => (.error cause, scene.disk)
  | .ok disk =>
    match s.machine.launch { scene with disk } invocation with
    | .error reason =>
      (.error (.startup s.name ("failed to spawn " ++ invocation.program ++ ": " ++ reason)), disk)
    | .ok work =>
      (.ok
        { s with
          children := s.children ++ [Child.ofWork s.children.length now work]
          logFiles := s.logFiles ++ [s.logPath index .output, s.logPath index .errors] },
        disk)

def spawnAll (now : Instant) (params : Params String) (index : Nat) :
    List Node → Scene → Commanded → Commanded × Disk
  | [], scene, s => (s, scene.disk)
  | node :: nodes, scene, s =>
    match s.spawn now none params index node scene with
    | (.ok s, disk) => spawnAll now params (index + 1) nodes { scene with disk } s
    | (.error cause, disk) => ({ s with pending := .refused cause }, disk)

def launchRun (now : Instant) (entryPoint : String) (params : Params String) (scene : Scene)
    (s : Commanded) : Commanded × Disk :=
  let position := s.children.length
  match s.nodes[position]? with
  | none =>
    ({ s with pending := .refused (.invalidTransition s.name "run" "exhausted") }, scene.disk)
  | some node =>
    match s.spawn now (some entryPoint) params position node scene with
    | (.ok s, disk) => ({ s with pending := .awaits position }, disk)
    | (.error cause, disk) => ({ s with pending := .refused cause }, disk)

/-! ## Requests -/

def progress (now : Instant) (s : Commanded) : Commanded :=
  match s.pending with
  | .nothing | .refused _ => s
  | .awaits position => { s with children := s.children.modify position (Child.collect now) }
  | .drains => { s with children := s.children.collectInOrder now }
  | .strikes position since =>
    let (rest, count, since) := Crew.strikeInOrder now since (s.children.drop position)
    { s with
      children := s.children.take position ++ rest
      pending := .strikes (position + count) since }

def accept (now : Instant) (request : Request) (scene : Scene) (s : Commanded) :
    Commanded × Disk :=
  let s := { s with pending := .nothing }
  match request with
  | .start _ params => s.spawnAll now params 0 s.nodes scene
  | .run _ entryPoint params => s.launchRun now entryPoint params scene
  | .stop _ =>
    ({ s with children := s.children.terminate now, pending := .drains }, scene.disk)
  | .kill _ => ({ s with pending := .strikes 0 now }.progress now, scene.disk)
  | .killNow _ => ({ s with children := s.children.strikeAll now }, scene.disk)
  | .probe _ | .materialize _ _ => (s, scene.disk)

def cancel (s : Commanded) : Commanded := { s with pending := .nothing }

def due? (now : Instant) (s : Commanded) : Option Instant :=
  match s.pending with
  | .nothing | .refused _ => some now
  | .awaits position =>
    match s.children[position]? with
    | none => some now
    | some child => child.awaited? now
  | .drains => s.children.allAwaited? now
  | .strikes position since =>
    some (max now (Crew.allStruck since (s.children.drop position)))

def outcomeOf (disk : Disk) (index : Nat) (ending : Ending) (s : Commanded) : AppOutcome :=
  match ending with
  | .code 0 => .passed
  | .code 1 => .failed (s.withTail disk index ending.text)
  | _ => .exception (s.withTail disk index ending.text)

def accepts (s : Commanded) (n : Network) : Bool :=
  s.endpoints.all fun e => (n.connect e.host e.port).toBool

/-- Looks whether a child has ended, and otherwise whether all endpoints can be reached. -/
def probe (now : Instant) (n : Network) (disk : Disk) (s : Commanded) :
    Except LifecycleError Bool × Commanded :=
  match s.children.firstEnded? now 0 with
  | .error reason => (.error (.io reason), s)
  | .ok none => (.ok (s.accepts n), s)
  | .ok (some (position, ending)) =>
    let message := s!"node {position} exited during startup: " ++ ending.text
    (.error (.startup s.name (s.withTail disk position message)),
      { s with children := s.children.modify position (Child.collect now) })

/-- The result of the last request when it was only to be done. -/
def done (s : Commanded) : Except LifecycleError Unit :=
  match s.pending with
  | .refused cause => .error cause
  | .drains =>
    match s.children.lost? with
    | some reason => .error (.io reason)
    | none => .ok ()
  | _ => .ok ()

def ran (now : Instant) (disk : Disk) (s : Commanded) : Except LifecycleError AppOutcome :=
  match s.pending with
  | .refused cause => .error cause
  | .awaits position =>
    match s.children[position]? with
    | none => .ok .passed
    | some child =>
      match child.work.lost, child.ending? now with
      | some reason, _ => .error (.io reason)
      | none, some ending => .ok (s.outcomeOf disk position ending)
      | none, none => .ok .passed
  | _ => .ok .passed

def answer (now : Instant) (n : Network) (disk : Disk) (request : Request) (s : Commanded) :
    Answer × Commanded :=
  let s := s.progress now
  match request with
  | .probe _ => let (ready, s) := s.probe now n disk; (.probed ready, s.cancel)
  | .run _ _ _ => (.ran (s.ran now disk), s.cancel)
  | _ => (.acknowledged s.done, s.cancel)

end Commanded

end Interop
