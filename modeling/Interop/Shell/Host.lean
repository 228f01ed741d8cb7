import Interop.Service.Child
import Interop.Shell.Evaluation

/-!
# A host with a shell

The machine for rehearsals.  Its disk has the usual directories, the shell and the small
programs.  What a launched program does is worked out at once for all time to come, and again
whenever it is asked to terminate: it takes a moment to begin and another one to end.
-/

namespace Interop.Shell.Host

/-! ## The disk -/

def directories : List String :=
  ["bin", "boot", "dev", "dev/pts", "dev/shm", "etc", "etc/apt", "etc/default", "etc/profile.d",
    "etc/skel", "etc/ssl", "home", "lib", "media", "mnt", "opt", "proc", "proc/self",
    "proc/self/fd", "root", "run", "sbin", "srv", "sys", "tmp", "usr", "usr/bin", "usr/games",
    "usr/include", "usr/lib", "usr/lib64", "usr/local", "usr/local/bin", "usr/local/etc",
    "usr/local/lib", "usr/local/sbin", "usr/local/share", "usr/sbin", "usr/share", "usr/src",
    "var", "var/cache", "var/lib", "var/local", "var/log", "var/mail", "var/opt", "var/spool",
    "var/tmp"]

def links : List (String × String) :=
  [("bin", "usr/bin"), ("lib", "usr/lib"), ("lib64", "usr/lib64"), ("sbin", "usr/sbin"),
    ("dev/fd", "/proc/self/fd"), ("dev/stdin", "/proc/self/fd/0"),
    ("dev/stdout", "/proc/self/fd/1"), ("dev/stderr", "/proc/self/fd/2"), ("var/run", "/run"),
    ("var/lock", "/run/lock"), ("usr/bin/sh", "dash"), ("etc/mtab", "/proc/mounts"),
    ("etc/os-release", "../usr/lib/os-release")]

def accounts : List String :=
  ["root:x:0:0:root:/root:/bin/bash", "daemon:x:1:1:daemon:/usr/sbin:/usr/sbin/nologin",
    "bin:x:2:2:bin:/bin:/usr/sbin/nologin", "sys:x:3:3:sys:/dev:/usr/sbin/nologin",
    "nobody:x:65534:65534:nobody:/nonexistent:/usr/sbin/nologin"]

def files : List (String × String) :=
  [("etc/passwd", Program.joinLines accounts),
    ("etc/group", "root:x:0:\ndaemon:x:1:\nbin:x:2:\nsys:x:3:\nnogroup:x:65534:\n"),
    ("etc/shadow", "root:*:19000:0:99999:7:::\n"),
    ("etc/hosts", "127.0.0.1\tlocalhost\n::1\tlocalhost ip6-localhost ip6-loopback\n"),
    ("etc/hostname", "localhost\n"), ("etc/resolv.conf", ""),
    ("etc/shells", "# /etc/shells: valid login shells\n/bin/sh\n/usr/bin/sh\n/bin/bash\n"),
    ("etc/profile", ""), ("etc/fstab", ""), ("etc/environment", ""), ("etc/issue", ""),
    ("etc/motd", ""), ("etc/nsswitch.conf", "hosts:          files dns\n"),
    ("etc/services", ""), ("etc/protocols", ""), ("etc/bash.bashrc", ""),
    ("etc/ld.so.conf", ""), ("etc/localtime", ""), ("etc/debian_version", ""),
    ("usr/lib/os-release", ""), ("proc/mounts", ""), ("proc/version", ""),
    ("proc/cpuinfo", ""), ("proc/meminfo", ""), ("proc/uptime", ""), ("proc/loadavg", ""),
    ("root/.bashrc", ""), ("root/.profile", "")]

def devices : List (String × Device) :=
  [("dev/null", .null), ("dev/zero", .zero), ("dev/full", .full), ("dev/random", .zero),
    ("dev/urandom", .zero), ("proc/self/fd/0", .stream 0), ("proc/self/fd/1", .stream 1),
    ("proc/self/fd/2", .stream 2), ("proc/self/fd/3", .stream 3), ("proc/self/fd/4", .stream 4)]

def programNames : List String :=
  let become : Become := fun _ => return .missing
  ["dash", "bash"] ++ (Evaluation.programs become).map Prod.fst

def disk : Disk :=
  let place (text : String) : Path := text.splitOn "/"
  let linked := links.map Prod.fst
  let rooms := directories.filter fun name => !linked.contains name
  ⟨rooms.map (fun name => (place name, Entry.directory)) ++
    links.map (fun link => (place link.1, .link link.2)) ++
    files.map (fun file => (place file.1, .file file.2 false)) ++
    devices.map (fun device => (place device.1, .device device.2)) ++
    programNames.map fun name => (["usr", "bin", name], .program name)⟩

/-! ## What a program does -/

def beginning : Span := .ofMillis 1

def ending : Span := .ofMillis 1

def linger : Span := ⟨100000⟩

def later (a b : Span) : Span := ⟨a.nanos + b.nanos⟩

def ownTime (time : Span) : Span := ⟨time.nanos - beginning.nanos⟩

def launcherPid : Nat := 4000

def numbered : Nat → List Dispatch → List Dispatch
  | _, [] => []
  | n, d :: rest => { d with number := n } :: numbered (n + 1) rest

def initial (scene : Scene) (i : Invocation) (dispatches : List Dispatch) : State :=
  let directory : Path := match scene.disk.status [] i.directory with
    | .ok (path, _) => path
    | .error _ => []
  let log (path : String) : OpenFile :=
    match scene.disk.status [] path with
    | .ok (place, .file _ _) => OpenFile.ofTarget (.file place)
    | _ => OpenFile.ofTarget (.device .null)
  let coming := scene.coming.map fun change => { change with after := ownTime change.after }
  { world :=
      { disk := scene.disk, elapsed := .zero
        files := [OpenFile.ofTarget (.device .null), log i.output, log i.errors]
        coming, changes := [], documents := [], nextDocument := 0
        nextPid := State.firstPid + 1, dispatches, foreseen := dispatches.length, late := none
        steps := State.patience, restless := 0 }
    pid := State.firstPid, parent := launcherPid, shellPid := State.firstPid
    group := launcherPid, born := .zero, noticed := [], name := i.program, args := []
    bindings := State.environment, functions := [], aliases := [], status := 0, directory
    logical := Program.placeText directory, mask := 18, hashed := []
    streams := [(0, 0), (1, 1), (2, 2)], traps := [], settings := [], line := 0
    command := none, loops := 0, functionDepth := 0, hidden := [], jobs := [], lastJob := none
    trapStatus := none, substituted := 0, optionPlace := .beginning, outbox := "" }

/-- How a program has gone: why it could not begin, or how it was left. -/
abbrev Performance := Except DiskError Departure

def performOnce (scene : Scene) (i : Invocation) (dispatches : List Dispatch) : Performance :=
  match Evaluation.start (Text.octets i.program :: i.args.map Text.octets)
      (initial scene i dispatches) with
  | .ok (e, _) => .error e
  | .error departure => .ok departure

def rehearsals : Nat := 30

/-- Performs a program.  Where a signal turns out to concern something that had run before it
was sent, all is done again with the signal known from the beginning. -/
def perform (scene : Scene) (i : Invocation) : Nat → List Dispatch → Performance
  | 0, dispatches => performOnce scene i (numbered 0 dispatches)
  | fuel + 1, dispatches =>
    match performOnce scene i (numbered 0 dispatches) with
    | .error e => .error e
    | .ok departure =>
      match departure.state.world.late with
      | none => .ok departure
      | some d => perform scene i fuel (dispatches ++ [d])

def request (time : Span) : Dispatch :=
  { number := 0, time := ownTime time, toGroup := false, receiver := State.firstPid
    signal := Signal.terminate }

def finishOf (flow : Flow) (s : State) : Option (Span × Ending) :=
  let spent := later beginning s.world.elapsed
  match flow with
  | .endless => none
  | .killed signal => some (later spent linger, .signal signal)
  | _ => some (later spent ending, .code (s.status % 256))

def courseOf : Performance → Course
  | .error _ => { changes := [], finish := none }
  | .ok ⟨flow, s⟩ =>
    let changes := Change.combined (Change.inOrder s.world.changes.reverse)
    { changes := changes.map fun change => { change with after := later beginning change.after }
      finish := finishOf flow s }

/-- The course of a program that is asked to terminate at some times; `undisturbed` is how it
goes when it is not asked. -/
def course (scene : Scene) (i : Invocation) (undisturbed : Course) (requests : List Span) :
    Course :=
  if requests.isEmpty then undisturbed
  else courseOf (perform scene i rehearsals (requests.map request))

/-! ## Launching -/

def maxArgument : Nat := 131072

def maxArguments : Nat := 2096000

def isTooLong (i : Invocation) : Bool :=
  let sizes := (i.program :: i.args).map fun arg => arg.utf8ByteSize + 1
  sizes.any (fun size => maxArgument < size) ||
    maxArguments < sizes.foldl (fun total size => total + size + 8) 0

def refusal? (scene : Scene) (i : Invocation) : Option DiskError :=
  let s := initial scene i []
  match Evaluation.resolve s (Text.octets i.program) with
  | .error e => some e
  | .ok path =>
    if isTooLong i then some .tooManyArguments
    else
      match scene.disk.status s.directory path with
      | .ok (_, .file content _) =>
        if (Evaluation.interpreter? content).isSome then none else some .notExecutable
      | _ => none

def nulByte : String := "nul byte found in provided data"

def launch (scene : Scene) (i : Invocation) : Except String Work :=
  if (i.program :: i.args).any fun arg => arg.toList.contains (Char.ofNat 0) then .error nulByte
  else
    match refusal? scene i with
    | some e => .error e.message
    | none =>
      match perform scene i rehearsals [] with
      | .error e => .error e.message
      | performance =>
        let undisturbed := courseOf performance
        .ok { course := course scene i undisturbed, linger, lost := none }

end Interop.Shell.Host

namespace Interop.Shell

def host : Machine := { disk := Host.disk, launch := Host.launch }

end Interop.Shell
