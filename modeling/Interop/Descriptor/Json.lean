import Interop.Descriptor

/-!
# Serialized descriptors

A descriptor is written as an object of all its fields.  When it is read back, a structure may
also be given as the list of its fields in order, the optional fields may be missing or null,
and a version text is read like any other version.
-/

namespace Interop

/-! ## Constants -/

def Role.text : Role → String
  | .server => "server"
  | .clientApplication => "client-application"

def Role.ofText? : String → Option Role
  | "server" => some .server
  | "client-application" => some .clientApplication
  | _ => none

def StartupMode.text : StartupMode → String
  | .preStarted => "pre-started"
  | .invokedDirectly => "invoked-directly"

def StartupMode.ofText? : String → Option StartupMode
  | "pre-started" => some .preStarted
  | "invoked-directly" => some .invokedDirectly
  | _ => none

/-! ## Parts -/

def Version.toJson (v : Version) : Json := .str v.text

def Version.ofJson? (value : Json) : Option Version :=
  match value with
  | .str text => (Version.parse text).toOption
  | _ => none

def Span.toJson (d : Span) : Json :=
  .obj [("secs", .nat d.seconds), ("nanos", .nat d.subsecond)]

/-- Nanoseconds beyond a second are carried into the seconds, which must stay within 64
bits. -/
def Span.ofWords? (secs nanos : Json) : Option Span := do
  let secs ← secs.word?
  let nanos ← Json.natBelow? 4294967296 nanos
  if secs + nanos / 1000000000 ≤ Span.maxWord then some (Span.ofParts secs nanos) else none

def Span.ofJson? : Json → Option Span
  | .obj fields =>
    if fields.all fun field => field.1 == "secs" || field.1 == "nanos" then do
      let member ← Json.members? ["secs", "nanos"] fields
      Span.ofWords? (← member "secs") (← member "nanos")
    else none
  | .arr [secs, nanos] => Span.ofWords? secs nanos
  | _ => none

def ParamValue.toJson : ParamValue → Json
  | .literal text => .obj [("Literal", .str text)]
  | .endpointOf service => .obj [("EndpointOf", .str service)]

def ParamValue.ofJson? : Json → Option ParamValue
  | .obj [("Literal", .str text)] => some (.literal text)
  | .obj [("EndpointOf", .str service)] => some (.endpointOf service)
  | _ => none

def connectorToJson (port : Nat) : Json := .obj [("port", .nat port)]

def connectorOfJson? : Json → Option Nat
  | .obj fields => do Json.natBelow? 65536 (← (← Json.members? ["port"] fields) "port")
  | .arr [port] => Json.natBelow? 65536 port
  | _ => none

def paramsToJson (params : Params ParamValue) : Json :=
  .obj (params.map fun param => (param.1, param.2.toJson))

def paramsOfJson? : Json → Option (Params ParamValue)
  | .obj fields => do
    let params ← fields.mapM fun field => do return (field.1, ← ParamValue.ofJson? field.2)
    return Params.ofList params
  | _ => none

/-! ## Descriptors -/

namespace Descriptor

def toJson (d : Descriptor) : Json :=
  .obj [("name", .str d.name), ("role", .str d.role.text), ("version", d.version.toJson),
    ("node_count", .nat d.nodeCount), ("startup_mode", .str d.mode.text),
    ("client_connector", Json.ofOption connectorToJson d.connector),
    ("entry_point", Json.ofOption Json.str d.entryPoint),
    ("params", paramsToJson d.params), ("depends_on", .arr (d.dependsOn.map Json.str)),
    ("startup_timeout", Json.ofOption Span.toJson d.startupTimeout)]

/-- Reads a descriptor from its fields: the required ones, then the optional ones. -/
def ofFields? (name role version nodeCount mode params dependsOn : Json)
    (connector entryPoint startupTimeout : Option Json) : Option Descriptor := do
  return {
    name := ← name.text?
    role := ← Role.ofText? (← role.constant?)
    version := ← Version.ofJson? version
    nodeCount := ← nodeCount.word?
    mode := ← StartupMode.ofText? (← mode.constant?)
    connector := ← Json.optional? connectorOfJson? connector
    entryPoint := ← Json.optional? Json.text? entryPoint
    params := ← paramsOfJson? params
    dependsOn := ← dependsOn.list? Json.text?
    startupTimeout := ← Json.optional? Span.ofJson? startupTimeout }

def keys : List String :=
  ["name", "role", "version", "node_count", "startup_mode", "client_connector", "entry_point",
    "params", "depends_on", "startup_timeout"]

def ofJson? : Json → Option Descriptor
  | .obj fields => do
    let member ← Json.members? keys fields
    ofFields? (← member "name") (← member "role") (← member "version") (← member "node_count")
      (← member "startup_mode") (← member "params") (← member "depends_on")
      (member "client_connector") (member "entry_point") (member "startup_timeout")
  | .arr [name, role, version, nodeCount, mode, connector, entryPoint, params, dependsOn,
      startupTimeout] =>
    ofFields? name role version nodeCount mode params dependsOn (some connector)
      (some entryPoint) (some startupTimeout)
  | _ => none

end Descriptor

end Interop
