import Interop.Proofs.Service.Following

/-!
# The endpoints of a server

A server listens, for each of its nodes, on the port of its connector plus the node's number.
A node whose port would be past the last one there is has no endpoint, and readiness does not
depend on it.
-/

namespace Interop

/-- The address of a node for the connector with that port. -/
def Node.endpointAt (port : Nat) (node : Node) : Endpoint := ⟨node.host, port + node.id⟩

/-- The connector has a port left for the node. -/
def Node.Fits (port : Nat) (node : Node) : Prop := port + node.id ≤ Network.maxPort

instance (port : Nat) (node : Node) : Decidable (node.Fits port) :=
  inferInstanceAs (Decidable (port + node.id ≤ Network.maxPort))

namespace Commanded

/-- The service is in the life of a server that was made on these nodes, with a connector on
that port. -/
inductive Serves (port : Nat) (nodes : List Node) : Commanded → Prop
  | life {settings : CommandSettings} {tag : String} {d : Descriptor} {disk disk' : Disk}
      {made : Commanded} (server : d.role = .server) (connector : d.connector = some port)
      (launched : make settings tag d nodes disk = .ok (made, disk'))
      (moves : List CommandedMove) : Serves port nodes (made.run moves)

namespace Serves

variable {port : Nat} {nodes : List Node} {s : Commanded}

theorem step (serves : Serves port nodes s) (move : CommandedMove) :
    Serves port nodes (s.step move) := by
  obtain ⟨server, connector, launched, moves⟩ := serves
  have longer := Serves.life server connector launched (moves ++ [move])
  rwa [run, List.foldl_append] at longer

private theorem role_eq (serves : Serves port nodes s) : s.role = .server := by
  obtain ⟨server, -, launched, moves⟩ := serves
  exact (continues_run _ moves).role_eq.trans ((eq_of_make launched).1.trans server)

private theorem nodes_eq (serves : Serves port nodes s) : s.nodes = nodes := by
  obtain ⟨-, -, launched, moves⟩ := serves
  exact (continues_run _ moves).nodes_eq.trans (eq_of_make launched).2.1

private theorem basePort_eq (serves : Serves port nodes s) : s.basePort = some port := by
  obtain ⟨-, connector, launched, moves⟩ := serves
  exact (continues_run _ moves).basePort_eq.trans ((eq_of_make launched).2.2.1.trans connector)

private theorem port?_eq (serves : Serves port nodes s) (node : Node) :
    s.port? node = if node.Fits port then some (port + node.id) else none := by
  rw [port?, serves.basePort_eq]
  rfl

theorem endpoints_eq (serves : Serves port nodes s) :
    s.endpoints = (nodes.filter fun node => node.Fits port).map (Node.endpointAt port) := by
  have one (node : Node) : (s.port? node).map (fun port => (⟨node.host, port⟩ : Endpoint)) =
      if node.Fits port then some (node.endpointAt port) else none := by
    rw [serves.port?_eq]
    split <;> rfl
  simp only [endpoints, serves.role_eq, serves.nodes_eq, one, ← List.filterMap_eq_map,
    List.filterMap_filter, decide_eq_true_eq, Function.comp_apply]

theorem mem_endpoints (serves : Serves port nodes s) {e : Endpoint} :
    e ∈ s.endpoints ↔ ∃ node ∈ nodes, node.Fits port ∧ node.endpointAt port = e := by
  simp [serves.endpoints_eq, and_assoc]

theorem length_endpoints (serves : Serves port nodes s) :
    s.endpoints.length = nodes.length ↔ ∀ node ∈ nodes, node.Fits port := by
  simp [serves.endpoints_eq, List.length_filter_eq_length_iff]

private theorem endpoints_eq_map_iff (serves : Serves port nodes s) :
    s.endpoints = nodes.map (Node.endpointAt port) ↔ ∀ node ∈ nodes, node.Fits port := by
  refine ⟨fun whole => ?_, fun fits => ?_⟩
  · refine serves.length_endpoints.mp ?_
    rw [whole, List.length_map]
  · rw [serves.endpoints_eq, List.filter_eq_self.mpr (by simpa using fits)]

private theorem accepts_iff (serves : Serves port nodes s) (network : Network) :
    s.accepts network = true ↔ ∀ node ∈ nodes, node.Fits port →
      (network.connect node.host (port + node.id)).toBool = true := by
  simp [accepts, serves.endpoints_eq, Node.endpointAt, Decidable.imp_iff_not_or]

end Serves

/-! ## A server on any nodes -/

def workshop : Disk := ⟨[(["tmp"], .directory)]⟩

/-- A program that runs until it is killed. -/
def restlessWork : Work := ⟨fun _ => ⟨[], none⟩, .zero, none⟩

/-- A program that ends after five seconds. -/
def nap : Work := ⟨fun _ => ⟨[], some (.ofSeconds 5, .code 0)⟩, .zero, none⟩

def sleepers (work : Work) : CommandSettings :=
  { machine := ⟨workshop, fun _ _ => .ok work⟩, server := some ⟨"sleep", ["5"]⟩, client := none
    workRoot := none, latestRelease := none }

def sleeper (work : Work) (port : Nat) (nodes : List Node) : Commanded :=
  { machine := (sleepers work).machine, name := "base", role := .server, version := "dev"
    template := ⟨"sleep", ["5"]⟩, nodes, basePort := some port, workDir := "/tmp/base-0"
    children := [], logFiles := [], pending := .nothing }

def furnished : Disk := workshop.put ["tmp", "base-0"] .directory

private theorem makeDirectory_workshop :
    workshop.makeDirectory [] (Text.octets "/tmp/base-0") = .ok furnished := by
  have names : "/tmp/base-0".splitOn "/" = ["", "tmp", "base-0"] := by
    simp +decide [String.splitOn, String.splitOnAux]
  have octets : Text.octets "/tmp/base-0" = "/tmp/base-0" := by decide +kernel
  have above : workshop.entry? ["tmp"] = some .directory := by decide
  have free : workshop.entry? ["tmp", "base-0"] = none := by decide
  have place : workshop.walk false Disk.maxLinks [] ["", "tmp", "base-0"] =
      .ok ⟨["tmp", "base-0"], none⟩ := by
    simp +decide [Disk.walk, above, free]
  rw [octets, Disk.makeDirectory, Disk.locate, names, if_neg (by decide), if_neg (by decide),
    ite_self, place]
  rfl

theorem make_sleeper (work : Work) (port : Nat) (nodes : List Node) :
    make (sleepers work) "0" ((Descriptor.server "base" .dev).withConnector (some port)) nodes
        workshop =
      .ok (sleeper work port nodes, furnished) := by
  have directory : makeWorkDir "/tmp/base-0" workshop = .ok furnished := by
    rw [makeWorkDir, makeDirectory_workshop]
    rfl
  have path : CommandSettings.temporaryRoot ++ "/" ++ "base" ++ "-" ++ "0" = "/tmp/base-0" := by
    decide
  have version : (Version.dev.resolve none).text = "dev" := by decide
  simp only [make, makeRoot, sleepers, CommandSettings.template?, Descriptor.server,
    Descriptor.withConnector, Option.getD_none, path, version, Except.bind, directory]
  rfl

theorem serves_sleeper (work : Work) (port : Nat) (nodes : List Node) :
    Serves port nodes (sleeper work port nodes) :=
  .life rfl rfl (make_sleeper work port nodes) []

/-! ## Its start -/

structure LogPath (text name : String) : Prop where
  parts : text.splitOn "/" = ["", "tmp", "base-0", name]
  proper : text.isEmpty = false ∧ text.length < Disk.maxPath ∧ text.endsWith "/" = false
  named : name.isEmpty = false ∧ name ≠ "." ∧ name ≠ ".." ∧ name.length ≤ Disk.maxName

variable {work : Work} {port index : Nat} {nodes : List Node} {disk disk' : Disk}

theorem LogPath.locate {text name : String} (path : LogPath text name)
    (tmp : disk.entry? ["tmp"] = some .directory)
    (base : disk.entry? ["tmp", "base-0"] = some .directory)
    (there : disk.entry? ["tmp", "base-0", name] = none ∨
      disk.entry? ["tmp", "base-0", name] = some .directory) :
    disk.locate true [] text =
      .ok ⟨["tmp", "base-0", name], disk.entry? ["tmp", "base-0", name]⟩ := by
  obtain ⟨parts, ⟨long, short, -⟩, named, here, above, narrow⟩ := path
  rw [Disk.locate, parts, if_neg (by simp [long]), if_neg (Nat.not_le.mpr short), ite_self]
  have inside : ¬ Disk.maxName < name.length := Nat.not_lt.mpr narrow
  rcases there with free | taken
  · simp +decide [Disk.walk, tmp, base, free, named, here, above, inside]
  · simp +decide [Disk.walk, tmp, base, taken, named, here, above, inside]

private theorem LogPath.save_free {text name : String} (path : LogPath text name)
    (tmp : disk.entry? ["tmp"] = some .directory)
    (base : disk.entry? ["tmp", "base-0"] = some .directory)
    (free : disk.entry? ["tmp", "base-0", name] = none) :
    disk.save [] text "" = .ok (disk.put ["tmp", "base-0", name] .blank) := by
  have place := path.locate tmp base (.inl free)
  rw [free] at place
  simp +decide [Disk.save, Disk.placeFile, place, path.proper.2.2, Disk.checkParent, base, bind,
    Except.bind, pure, Except.pure, Entry.blank]

structure LogNames (index : Nat) (out err : String) : Prop where
  output : ∀ work port nodes,
    Text.octets ((sleeper work port nodes).logPath index .output) = "/tmp/base-0/" ++ out
  errors : ∀ work port nodes,
    Text.octets ((sleeper work port nodes).logPath index .errors) = "/tmp/base-0/" ++ err
  outputPath : LogPath ("/tmp/base-0/" ++ out) out
  errorsPath : LogPath ("/tmp/base-0/" ++ err) err

theorem logNames_zero : LogNames 0 "base-0.out" "base-0.err" := by
  constructor
  · intro work port nodes
    change Text.octets "/tmp/base-0/base-0.out" = _
    decide +kernel
  · intro work port nodes
    change Text.octets "/tmp/base-0/base-0.err" = _
    decide +kernel
  · exact ⟨by simp +decide [String.splitOn, String.splitOnAux], by decide +kernel, by decide⟩
  · exact ⟨by simp +decide [String.splitOn, String.splitOnAux], by decide +kernel, by decide⟩

theorem logNames_one : LogNames 1 "base-1.out" "base-1.err" := by
  constructor
  · intro work port nodes
    change Text.octets "/tmp/base-0/base-1.out" = _
    decide +kernel
  · intro work port nodes
    change Text.octets "/tmp/base-0/base-1.err" = _
    decide +kernel
  · exact ⟨by simp +decide [String.splitOn, String.splitOnAux], by decide +kernel, by decide⟩
  · exact ⟨by simp +decide [String.splitOn, String.splitOnAux], by decide +kernel, by decide⟩

def withLogs (out err : String) (disk : Disk) : Disk :=
  (disk.put ["tmp", "base-0", out] .blank).put ["tmp", "base-0", err] .blank

theorem LogNames.launchFor_eq {out err : String} (names : LogNames index out err)
    (tmp : disk.entry? ["tmp"] = some .directory)
    (base : disk.entry? ["tmp", "base-0"] = some .directory)
    (free : disk.entry? ["tmp", "base-0", out] = none)
    (free' : disk.entry? ["tmp", "base-0", err] = none) (apart : out ≠ err)
    (node : Node) :
    (sleeper work port nodes).launchFor none [] index node ⟨disk, []⟩ =
      (.ok work, withLogs out err disk) := by
  have logs : (sleeper work port nodes).makeLogs index disk =
      .ok (withLogs out err disk) := by
    simp only [makeLogs, names.output, names.errors, names.outputPath.save_free tmp base free]
    rw [Except.mapError.eq_def, Except.bind, names.errorsPath.save_free]
    · rfl
    all_goals rw [Disk.entry?_put_of_ne]
    all_goals first | assumption | simp [apart]
  simp only [launchFor, logs]
  rfl

/-- The server after its start. -/
def started (work : Work) (port : Nat) (nodes : List Node) : Commanded :=
  (sleeper work port nodes).step (.accept 0 (.start 0 []) ⟨furnished, []⟩)

theorem serves_started (work : Work) (port : Nat) (nodes : List Node) :
    Serves port nodes (started work port nodes) :=
  (serves_sleeper work port nodes).step _

private theorem launchFor_first (node : Node) :
    (sleeper work port nodes).launchFor none [] 0 node ⟨furnished, []⟩ =
      (.ok work, withLogs "base-0.out" "base-0.err" furnished) :=
  logNames_zero.launchFor_eq (by decide) (by decide) (by decide) (by decide) (by decide) node

private theorem launchFor_second (node : Node) :
    (sleeper work port nodes).launchFor none [] 1 node
        ⟨withLogs "base-0.out" "base-0.err" furnished, []⟩ =
      (.ok work,
        withLogs "base-1.out" "base-1.err" (withLogs "base-0.out" "base-0.err" furnished)) :=
  logNames_one.launchFor_eq (by decide) (by decide) (by decide) (by decide) (by decide) node

/-- Every child of a server on at most two nodes is launched. -/
theorem children_started (few : nodes.length ≤ 2) :
    (started work port nodes).children = Crew.ofWorks 0 0 (nodes.map fun _ => work) := by
  have children := (spawnAll_eq 0 [] 0 nodes ⟨furnished, []⟩ (sleeper work port nodes)).1
  have launched (s : Commanded) (rest : Scene) (index : Nat) :
      s.launchAll [] index [] rest = ([], none) := rfl
  change (spawnAll 0 [] 0 nodes ⟨furnished, []⟩ (sleeper work port nodes)).1.children = _
  rw [children]
  rcases nodes with _ | ⟨first, _ | ⟨second, _ | ⟨third, rest⟩⟩⟩
  · rw [launched]
    rfl
  · rw [launchAll_of_ok _ (launchFor_first first), launched]
    rfl
  · rw [launchAll_of_ok _ (launchFor_first first), launchAll_of_ok _ (launchFor_second second),
      launched]
    rfl
  · simp at few

end Commanded

/-! ## Readiness -/

private theorem Crew.firstEnded?_eq_none {now : Instant} (position : Nat) {crew : Crew} :
    crew.firstEnded? now position = .ok none ↔
      ∀ child ∈ crew, child.work.lost = none ∧ child.ending? now = none := by
  induction crew generalizing position with
  | nil => simp [Crew.firstEnded?]
  | cons child rest ih =>
      unfold Crew.firstEnded?
      split <;> simp_all

namespace Commanded

private theorem probe_eq_true {now : Instant} {network : Network} {disk : Disk} {s : Commanded} :
    (s.probe now network disk).1 = .ok true ↔
      (∀ child ∈ s.children, child.work.lost = none ∧ child.ending? now = none) ∧
        s.accepts network = true := by
  rw [← Crew.firstEnded?_eq_none 0]
  unfold probe
  split <;> simp_all

private theorem answer_probe (id : Nat) (asked now : Instant) (scene : Scene) (network : Network)
    (disk : Disk) (s : Commanded) :
    ((s.accept asked (.probe id) scene).1.answer now network disk (.probe id)).1 =
      .probed (s.cancel.probe now network disk).1 := by
  rw [answer]
  rfl

theorem Serves.answer_probe_iff {port : Nat} {nodes : List Node} {s : Commanded}
    (serves : Serves port nodes s) (id : Nat) (asked now : Instant) (scene : Scene)
    (network : Network) (disk : Disk) :
    ((s.accept asked (.probe id) scene).1.answer now network disk (.probe id)).1 =
        .probed (.ok true) ↔
      (∀ child ∈ s.children, child.work.lost = none ∧ child.ending? now = none) ∧
        ∀ node ∈ nodes, node.Fits port →
          (network.connect node.host (port + node.id)).toBool = true := by
  have free : Serves port nodes s.cancel := serves.step .cancel
  rw [answer_probe, Answer.probed.injEq, probe_eq_true, free.accepts_iff]
  rfl

/-- A server says that it is ready, whenever in its life it is asked, if and only if no child is
found to have ended and every node with an endpoint lets a connection through.  Its endpoints
are those of the nodes on which the connector's port plus the number of the node is a port, in
the order of the nodes: one per node if and only if that is so for all of them. -/
theorem ready_iff_of_serves {port : Nat} {nodes : List Node} {s : Commanded}
    (serves : Serves port nodes s) :
    s.endpoints = (nodes.filter fun node => node.Fits port).map (Node.endpointAt port) ∧
      (s.endpoints = nodes.map (Node.endpointAt port) ↔ ∀ node ∈ nodes, node.Fits port) ∧
      (s.endpoints.length = nodes.length ↔ ∀ node ∈ nodes, node.Fits port) ∧
      ∀ (id : Nat) (asked now : Instant) (scene : Scene) (network : Network) (disk : Disk),
        ((s.accept asked (.probe id) scene).1.answer now network disk (.probe id)).1 =
            .probed (.ok true) ↔
          (∀ child ∈ s.children, child.work.lost = none ∧ child.ending? now = none) ∧
            ∀ node ∈ nodes, node.Fits port →
              (network.connect node.host (port + node.id)).toBool = true :=
  ⟨serves.endpoints_eq, serves.endpoints_eq_map_iff, serves.length_endpoints,
    serves.answer_probe_iff⟩

/-- Two nodes of the local host. -/
def twins : List Node := [⟨0, "127.0.0.1"⟩, ⟨1, "127.0.0.1"⟩]

/-- A network on which somebody listens on some ports of the local host. -/
def listening (ports : List Nat) : Network :=
  { Network.connected with listeners := ports.map fun port => ⟨port, id⟩ }

private theorem connect_twins (ports : List Nat) (port : Nat) :
    ((listening ports).connect "127.0.0.1" port).toBool = ports.contains port := by
  have parts : "127.0.0.1".splitOn "." = ["127", "0", "0", "1"] := by
    simp +decide [String.splitOn, String.splitOnAux]
  have known : HostAddress.ofText? "127.0.0.1" = some (.short 2130706433) := by
    rw [HostAddress.ofText?, HostAddress.short?, parts]
    rfl
  have resolved : Network.resolve "127.0.0.1" = .ok (some (.short 2130706433)) := by
    rw [Network.resolve, if_neg (by decide), known]
  have near : HostAddress.isLocal (.short 2130706433) = true := by decide
  simp only [Network.connect, resolved, bind, Except.bind, Network.reach, listening,
    Network.connected, Option.all_some, near, Bool.and_true, Bool.not_true, Bool.false_eq_true,
    if_false]
  have some_iff : ((ports.map fun port => (⟨port, id⟩ : Socket)).find?
      fun socket => socket.port == port).isSome = ports.contains port := by
    rw [Bool.eq_iff_iff]
    simp
  rw [← some_iff]
  split <;> simp_all [Except.toBool]

/-- What a server answers when it is asked whether it is ready. -/
def readiness (s : Commanded) (now : Instant) (network : Network) : Answer :=
  ((s.accept now (.probe 0) ⟨furnished, []⟩).1.answer now network furnished (.probe 0)).1

/-- The children of two nodes end after five seconds.  The server is ready before, once both ports
are listened on, and not ready after. -/
theorem ready_of_twins :
    let s := started nap 10800 twins
    Serves 10800 twins s ∧
      s.children = [Child.ofWork 0 0 nap, Child.ofWork 1 0 nap] ∧
      s.endpoints = [⟨"127.0.0.1", 10800⟩, ⟨"127.0.0.1", 10801⟩] ∧
      readiness s 0 (listening [10800, 10801]) = .probed (.ok true) ∧
      readiness s 0 (listening [10800]) ≠ .probed (.ok true) ∧
      readiness s 5000000000 (listening [10800, 10801]) ≠ .probed (.ok true) := by
  intro s
  have serves : Serves 10800 twins s := serves_started nap 10800 twins
  have children : s.children = [Child.ofWork 0 0 nap, Child.ofWork 1 0 nap] :=
    children_started (by decide)
  obtain ⟨-, whole, -, ready⟩ := ready_iff_of_serves serves
  refine ⟨serves, children, whole.mpr (by decide), (ready ..).mpr ⟨?_, ?_⟩, ?_, ?_⟩
  · rw [children]
    decide
  · simp [twins, connect_twins]
  · intro early
    have open' := ((ready ..).mp early).2 ⟨1, "127.0.0.1"⟩ (by decide) (by decide)
    rw [connect_twins] at open'
    cases open'
  · intro late
    have alive := ((ready ..).mp late).1
    rw [children] at alive
    exact absurd alive (by decide)

/-- The port of the connector is the last one, and the only node has the number 1.  With its child
at work, the server is ready without an endpoint, on a network without any connection. -/
theorem ready_of_narrow :
    let s := started restlessWork 65535 [⟨1, "127.0.0.1"⟩]
    Serves 65535 [⟨1, "127.0.0.1"⟩] s ∧ s.children = [Child.ofWork 0 0 restlessWork] ∧
      s.endpoints = [] ∧ readiness s 0 .isolated = .probed (.ok true) ∧
      ∀ host port, (Network.isolated.connect host port).toBool = false := by
  intro s
  have serves : Serves 65535 [⟨1, "127.0.0.1"⟩] s := serves_started ..
  have children : s.children = [Child.ofWork 0 0 restlessWork] := children_started (by decide)
  refine ⟨serves, children, serves.endpoints_eq, (serves.answer_probe_iff ..).mpr ⟨?_, ?_⟩, ?_⟩
  · rw [children]
    decide
  · simp [Node.Fits, Network.maxPort]
  · intro host port
    simp only [Network.connect, bind, Except.bind]
    cases Network.resolve host <;> rfl

end Commanded

end Interop
