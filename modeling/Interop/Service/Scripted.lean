import Interop.Lifecycle.Operation

/-!
# Scripted services

Services without substance, for rehearsing a suite.  A script says how long each request to a
service takes and how it ends; the first script that matches a descriptor is used.  Every
request leaves a line in the trace.
-/

namespace Interop

inductive RunScript
  | ends (outcome : AppOutcome)
  | breaks (reason : String)
  deriving DecidableEq, Repr, Inhabited

structure Script where
  /-- The name of the services that follow the script; any when not given. -/
  service : Option String
  version : Option String
  params : List (String × String)
  materializeTime : Span
  refusal : Option String
  endpoints : Option (List Endpoint)
  startTime : Span
  startError : Option String
  probeTime : Span
  probeError : Option String
  probeErrorFrom : Nat
  neverReady : Bool
  readyTime : Span
  runTime : Span
  run : RunScript
  stopTime : Span
  stopError : Option String
  killTime : Span
  killError : Option String
  logFiles : List String
  bare : Bool
  deriving Repr, Inhabited

namespace Script

def smooth : Script :=
  { service := none, version := none, params := []
    materializeTime := .zero, refusal := none, endpoints := none
    startTime := .zero, startError := none
    probeTime := .zero, probeError := none, probeErrorFrom := 0
    neverReady := false, readyTime := .zero
    runTime := .zero, run := .ends .passed
    stopTime := .zero, stopError := none, killTime := .zero, killError := none
    logFiles := [], bare := false }

def hasParam (d : Descriptor) (key value : String) : Bool :=
  match d.params.get? key with
  | some (.literal text) => text == value
  | _ => false

def matches? (s : Script) (d : Descriptor) : Bool :=
  (s.service.all fun name => name == d.name) &&
  (s.version.all fun text => text == d.version.text) &&
  s.params.all fun (key, value) => hasParam d key value

def select (scripts : List Script) (d : Descriptor) : Script :=
  (scripts.find? fun s => s.matches? d).getD smooth

end Script

structure Rehearsed where
  script : Script
  name : String
  nodes : List Node
  started : Option Instant
  probes : Nat
  deriving Repr, Inhabited

namespace Rehearsed

def ofScript (script : Script) (d : Descriptor) (nodes : List Node) : Rehearsed :=
  { script, name := d.name, nodes, started := none, probes := 0 }

def exposure (r : Rehearsed) : Exposure :=
  { endpoints := r.script.endpoints.getD
      (r.nodes.map fun node => ⟨node.host, Descriptor.defaultPort + node.id⟩)
    logFiles := if r.script.bare then [] else r.script.logFiles }

def paramText (params : Params String) : List String :=
  params.map fun param => param.1 ++ "=" ++ param.2

def materializeLine (d : Descriptor) (nodes : List Node) : String :=
  s!"materialize {d.name} {d.version.text} on " ++ ",".intercalate (nodes.map Node.label)

def line? (r : Rehearsed) : Request → Option String
  | .materialize d nodes => some (materializeLine d nodes)
  | .start _ params => some (" ".intercalate (["start", r.name] ++ paramText params))
  | .probe _ => some s!"probe {r.name} {r.probes + 1}"
  | .run _ entryPoint params =>
    if r.script.bare then none
    else some (" ".intercalate (["run", r.name, entryPoint] ++ paramText params))
  | .stop _ => some s!"stop {r.name}"
  | .kill _ => if r.script.bare then none else some s!"kill {r.name}"
  | .killNow _ => if r.script.bare then none else some s!"kill_now {r.name}"

def duration (r : Rehearsed) : Request → Span
  | .materialize _ _ => r.script.materializeTime
  | .start _ _ => r.script.startTime
  | .probe _ => r.script.probeTime
  | .run _ _ _ => if r.script.bare then .zero else r.script.runTime
  | .stop _ => r.script.stopTime
  | .kill _ => if r.script.bare then .zero else r.script.killTime
  | .killNow _ => .zero

def accept (r : Rehearsed) : Request → Rehearsed
  | .probe _ => { r with probes := r.probes + 1 }
  | _ => r

def acknowledge (r : Rehearsed) : Option String → Except LifecycleError Unit
  | some reason => .error (.collaborator r.name reason)
  | none => .ok ()

def isReady (r : Rehearsed) (now : Instant) : Bool :=
  !r.script.neverReady &&
    r.started.any fun instant => decide (r.script.readyTime.after instant ≤ now)

def probe (r : Rehearsed) (now : Instant) : Except LifecycleError Bool :=
  match r.script.probeError with
  | some reason =>
    if r.script.probeErrorFrom ≤ r.probes then .error (.startup r.name reason)
    else .ok (r.isReady now)
  | none => .ok (r.isReady now)

def run (r : Rehearsed) : Except LifecycleError AppOutcome :=
  if r.script.bare then .error (.unsupported "run")
  else
    match r.script.run with
    | .ends outcome => .ok outcome
    | .breaks reason => .error (.collaborator r.name reason)

def answer (r : Rehearsed) (now : Instant) : Request → Answer × Rehearsed
  | .materialize d _ =>
    match r.script.refusal with
    | some reason => (.materialized (.error (.unsupported d.name d.version.text reason)), r)
    | none => (.materialized (.ok r.exposure), r)
  | .start _ _ =>
    match r.script.startError with
    | some reason => (.acknowledged (.error (.startup r.name reason)), r)
    | none => (.acknowledged (.ok ()), { r with started := some now })
  | .probe _ => (.probed (r.probe now), r)
  | .run _ _ _ => (.ran r.run, r)
  | .stop _ => (.acknowledged (r.acknowledge r.script.stopError), r)
  | .kill _ =>
    (.acknowledged (r.acknowledge (if r.script.bare then none else r.script.killError)), r)
  | .killNow _ => (.acknowledged (.ok ()), r)

end Rehearsed

end Interop
