import Interop.Body.Scripted
import Interop.Catalog.ThinClient
import Interop.Config
import Interop.Rehearsal.Cause
import Interop.Service.Scripted

/-!
# Rehearsals as data

Axes, cases, services, bodies and tests as JSON values.  A service is written as the calls
that build its descriptor; where a text may depend on the case it can name an axis instead.
-/

namespace Interop

/-! ## Axes and cases -/

def Axis.ofJson (value : Json) : Axis :=
  let name := (value.item 0).toText
  match value.item 1 with
  | .arr values => ⟨name, (values.map Json.toText).toArray⟩
  | values => ⟨name, (Array.range (values.natAt "count")).map toString⟩

def Matrix.ofJson (value : Json) : Except MatrixError Matrix :=
  Matrix.ofAxes (value.items.map Axis.ofJson)

def TestCase.ofPairs (value : Json) : TestCase :=
  ⟨value.natAt "ordinal",
    (value.itemsAt "assignments").map fun a => ⟨(a.item 0).toText, (a.item 1).toText⟩⟩

namespace Rehearsal

def textOf (case : TestCase) (value : Json) : Except CaseError String :=
  if value.has "axis" then case.value (value.textAt "axis") else .ok value.toText

def conditions (value : Json) : List (String × String) :=
  match value.get "when" with
  | .obj fields => fields.map fun field => (field.1, field.2.toText)
  | _ => []

/-! ## Services -/

/-- Adds a parameter: a text, the endpoint of a service, or such an endpoint without the
dependency that goes with it. -/
def addParam (case : TestCase) (d : Descriptor) (param : Json) : Except CaseError Descriptor :=
  let key := (param.item 0).toText
  let value := param.item 1
  if value.has "endpoint" then .ok (d.withEndpointParam key (value.textAt "endpoint"))
  else if value.has "dangling" then
    .ok (d.withParam key (.endpointOf (value.textAt "dangling")))
  else do return d.withParam key (.literal (← textOf case value))

def newDescriptor (value : Json) (version : Version) : Descriptor :=
  let name := value.textAt "name"
  if value.textAt "role" == "client" then
    .clientApplication name version ((value.get "entry").text?.getD "Main")
  else .server name version

def change {α : Type} (value : Json) (key : String) (f : α → Json → α) (a : α) : α :=
  if value.has key then f a (value.get key) else a

def modeOf (text : String) : StartupMode :=
  if text == "invoked-directly" then .invokedDirectly else .preStarted

def finish (value : Json) (d : Descriptor) : Descriptor :=
  let d := (value.textsAt "depends_on").foldl Descriptor.after d
  let d := match (value.get "startup_timeout").span? with
    | some timeout => d.withStartupTimeout timeout
    | none => d
  let d := if value.flagAt "no_entry" then { d with entryPoint := none } else d
  match (value.get "set_entry").text? with
  | some entry => { d with entryPoint := some entry }
  | none => d

def descriptor (case : TestCase) (value : Json) : Except CaseError Descriptor := do
  if value.has "fail" then throw (.ofJson (value.get "fail"))
  let version ← (Version.parse (← textOf case (value.get "version"))).mapError .version
  let d := newDescriptor value version
  let d := change value "nodes" (fun d n => d.withNodes n.toNat) d
  let d := change value "mode" (fun d m => d.withMode (modeOf m.toText)) d
  let d := change value "connector" (fun d port => d.withConnector port.nat?) d
  return finish value (← (value.itemsAt "params").foldlM (addParam case) d)

/-- The services of a case, in order; the first one that cannot be described decides. -/
def template (services : List Json) (case : TestCase) : Except CaseError (List Descriptor) :=
  (services.filter fun service =>
    (conditions service).all fun condition => case.get? condition.1 == some condition.2).mapM
      (descriptor case)

end Rehearsal

def RunScript.ofJson (value : Json) : RunScript :=
  if value.has "failed" then .ends (.failed (value.textAt "failed"))
  else if value.has "exception" then .ends (.exception (value.textAt "exception"))
  else if value.has "error" then .breaks (value.textAt "error")
  else .ends .passed

/-- Keys and values that follow each other as pairs; a last key without a value is left out. -/
def pairUp : List String → List (String × String)
  | key :: value :: rest => (key, value) :: pairUp rest
  | _ => []

/-- A script; times are in milliseconds. -/
def Script.ofJson (value : Json) : Script :=
  let text (key : String) : Option String := (value.get key).text?
  { service := text "service"
    version := text "version"
    params := pairUp (value.textsAt "param")
    materializeTime := value.spanAt "materialize_ms"
    refusal := text "refuse"
    endpoints := if value.has "endpoints" then
        some ((value.itemsAt "endpoints").map fun e => ⟨(e.item 0).toText, (e.item 1).toNat⟩)
      else none
    startTime := value.spanAt "start_ms"
    startError := text "start_error"
    probeTime := value.spanAt "probe_ms"
    probeError := text "probe_error"
    probeErrorFrom := value.natAt "probe_error_at"
    neverReady := value.flagAt "never_ready"
    readyTime := value.spanAt "ready_ms"
    runTime := value.spanAt "run_ms"
    run := .ofJson (value.get "run")
    stopTime := value.spanAt "stop_ms"
    stopError := text "stop_error"
    killTime := value.spanAt "kill_ms"
    killError := text "kill_error"
    logFiles := value.textsAt "logs"
    bare := value.flagAt "bare" }

/-! ## Bodies and tests -/

def Deed.ofJson (case : TestCase) (value : Json) : Deed :=
  let text := value.textAt "arg"
  match value.textAt "do" with
  | "start" => .start text
  | "run" => .run text
  | "run_expecting_pass" => .runExpectingPass text
  | "stop" => .stop text
  | "endpoint" => .endpoint text
  | "endpoints" => .endpoints text
  | "handle" => .handle text
  | "value" => .value text
  | "version" => .version text
  | "ensure" => .ensure (value.flagAt "that") text
  | "ensure_value" => .ensureValue text (value.textAt "that")
  | "sleep" => .sleep (value.spanAt "ms")
  | "fail" => .fail (.ofJson (value.get "error"))
  | "panic" => .panic (if value.textAt "payload" == "number" then none else some text)
  | "reserve" => .reserve (value.natAt "count")
  | "provision" => .provision (Rehearsal.descriptor case (value.get "service"))
  | "teardown" => .teardown
  | _ => .case

def Action.ofJson (case : TestCase) (value : Json) : Action :=
  { only := Rehearsal.conditions value
    deed := .ofJson case value
    catches := value.flagAt "catch" }

/-- A test with scripted services and a scripted body, unless it uses those of the thin client
test; or that test itself. -/
def Test.ofJson (value : Json) : Except MatrixError Test :=
  if value.text? == some "builtin" then ThinClient.test
  else do
    return {
      name := value.textAt "name"
      matrix := ← Matrix.ofJson (value.get "axes")
      numNodes := (value.get "num_nodes").nat?
      timeout := (value.get "timeout").span?
      template :=
        if value.flagAt "thin_client_services" then ThinClient.descriptors
        else Rehearsal.template (value.itemsAt "services")
      body :=
        if value.flagAt "thin_client_body" then ThinClient.body
        else fun case =>
          Body.ofActions case ((value.itemsAt "body").map (Action.ofJson case)) }

/-! ## Configuration -/

/-- Changes one setting: its name and its value. -/
def Config.change (c : Config) (setting : Json) : Config :=
  let value := setting.item 1
  match (setting.item 0).toText with
  | "parallelism" => c.withParallelism value.toNat
  | "case_timeout" => { c with caseTimeout := value.toSpan }
  | "startup_timeout" => { c with startupTimeout := value.toSpan }
  | "poll" => { c with pollInterval := value.toSpan }
  | "grace" => { c with gracePeriod := value.toSpan }
  | "provision_timeout" => { c with provisionTimeout := value.toSpan }
  | "size" => c.withTestbedSize value.toNat
  | "nodes" => { c with hosts := value.items.map Json.toText }
  | "fail_fast" => { c with failFast := value.toFlag }
  | "suite_timeout" => { c with suiteTimeout := value.span? }
  | "latest_release" => { c with latestRelease := some value.toText }
  | _ => c

def Config.ofChanges (settings : Json) : Config := settings.items.foldl Config.change .standard

/-- Settings for one case; what is missing is as usual. -/
def Settings.ofJson (value : Json) : Settings :=
  let span (key : String) (usual : Span) : Span := (value.get key).span?.getD usual
  let usual := Settings.standard
  { startupTimeout := span "startup_timeout" usual.startupTimeout
    pollInterval := span "poll" usual.pollInterval
    gracePeriod := span "grace" usual.gracePeriod
    provisionTimeout := span "provision_timeout" usual.provisionTimeout
    nodeBudget := (value.get "node_budget").nat?
    horizon := usual.horizon }

end Interop
