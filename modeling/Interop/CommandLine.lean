import Interop.Config
import Interop.Service.Fleet
import Interop.Span.Parser

/-!
# The command line

Arguments are read from left to right.  An option takes its value from its own argument after
an equals sign, or from the next argument unless that begins with a dash.  A value is judged
when the next option is met or the arguments end, but an argument that belongs to nothing is
refused before it.  Options that were not given take their values from variables of the
environment.
-/

namespace Interop

/-- Why a command line was not accepted, or what it asks for instead of a run. -/
inductive UsageError
  | unknownArgument
  | invalidValue
  | valueValidation
  | argumentConflict
  | tooManyValues
  | displayHelp
  | displayVersion
  deriving DecidableEq, Repr

def UsageError.code : UsageError → String
  | .unknownArgument => "UnknownArgument"
  | .invalidValue => "InvalidValue"
  | .valueValidation => "ValueValidation"
  | .argumentConflict => "ArgumentConflict"
  | .tooManyValues => "TooManyValues"
  | .displayHelp => "DisplayHelp"
  | .displayVersion => "DisplayVersion"

inductive Backend
  | loopback
  | commands
  deriving DecidableEq, Repr, Inhabited

namespace Backend

def word : Backend → String
  | .loopback => "loopback"
  | .commands => "process"

def code : Backend → String
  | .loopback => "Loopback"
  | .commands => "Process"

def ofWord? (text : String) : Option Backend :=
  [Backend.loopback, .commands].find? fun backend => backend.word == text

end Backend

/-! ## Options -/

structure Options where
  list : Bool
  filter : Option String
  backend : Backend
  parallelism : Option Nat
  caseTimeout : Option Span
  startupTimeout : Option Span
  gracePeriod : Option Span
  provisionTimeout : Option Span
  suiteTimeout : Option Span
  hosts : List String
  testbedSize : Option Nat
  failFast : Bool
  latestRelease : Option String
  report : Option String
  serverCommand : Option String
  clientCommand : Option String
  workDir : Option String
  deriving DecidableEq, Repr, Inhabited

namespace Options

def standard : Options :=
  { list := false, filter := none, backend := .loopback, parallelism := none
    caseTimeout := none, startupTimeout := none, gracePeriod := none, provisionTimeout := none
    suiteTimeout := none, hosts := [], testbedSize := none, failFast := false
    latestRelease := none, report := none, serverCommand := none, clientCommand := none
    workDir := none }

/-- The configuration of the run; hosts go before the size of the test bed. -/
def config (o : Options) : Config :=
  let c := Config.standard
  let c := match o.parallelism with
    | some count => c.withParallelism count
    | none => c
  let c := if !o.hosts.isEmpty then { c with hosts := o.hosts }
    else
      match o.testbedSize with
      | some size => c.withTestbedSize size
      | none => c
  { c with
    caseTimeout := o.caseTimeout.getD c.caseTimeout
    startupTimeout := o.startupTimeout.getD c.startupTimeout
    gracePeriod := o.gracePeriod.getD c.gracePeriod
    provisionTimeout := o.provisionTimeout.getD c.provisionTimeout
    failFast := o.failFast, suiteTimeout := o.suiteTimeout, latestRelease := o.latestRelease }

def requireTemplate (flag : String) : Option String → Except String Command.Template
  | none => .error ("--backend " ++ Backend.commands.word ++ " requires " ++ flag)
  | some line => (Command.Template.parse line).mapError fun e => flag ++ ": " ++ e.message

def launcher (machine : Machine) (o : Options) : Except String Launcher :=
  match o.backend with
  | .loopback => .ok (.loopback .standard)
  | .commands => do
    let server ← requireTemplate "--server-cmd" o.serverCommand
    let client ← requireTemplate "--client-cmd" o.clientCommand
    return .commands
      { machine, server := some server, client := some client, workRoot := o.workDir
        latestRelease := o.latestRelease }

end Options

/-! ## Flags -/

abbrev Setter := String → Options → Except UsageError Options

namespace Setter

def text (set : Options → String → Options) : Setter := fun value o => .ok (set o value)

def path (set : Options → String → Options) : Setter := fun value o =>
  if value.isEmpty then .error .invalidValue else .ok (set o value)

def number (set : Options → Nat → Options) : Setter := fun value o =>
  match Span.parseWord? value.toList with
  | some n => .ok (set o n)
  | none => .error .valueValidation

def span (set : Options → Span → Options) : Setter := fun value o =>
  match Span.parse value with
  | .ok d => .ok (set o d)
  | .error _ => .error .valueValidation

def truth (set : Options → Bool → Options) : Setter := fun value o =>
  if value = "true" then .ok (set o true)
  else if value = "false" then .ok (set o false)
  else .error .invalidValue

def backend : Setter := fun value o =>
  match Backend.ofWord? value with
  | some backend => .ok { o with backend }
  | none => .error .invalidValue

def hosts : Setter := fun value o => .ok { o with hosts := o.hosts ++ value.splitOn "," }

end Setter

structure Flag where
  name : String
  variableName : Option String
  isSwitch : Bool
  isRepeatable : Bool
  set : Setter

namespace Flag

/-- An option with a value that is given at most once. -/
def option (name variableName : String) (set : Setter) : Flag :=
  { name, variableName := some variableName, isSwitch := false, isRepeatable := false, set }

def all : List Flag :=
  [{ name := "list", variableName := none, isSwitch := true, isRepeatable := false
     set := Setter.truth fun o list => { o with list } },
    option "filter" "COMPAT_FILTER" (Setter.text fun o t => { o with filter := some t }),
    option "backend" "COMPAT_BACKEND" Setter.backend,
    option "parallelism" "COMPAT_PARALLELISM"
      (Setter.number fun o n => { o with parallelism := some n }),
    option "case-timeout" "COMPAT_CASE_TIMEOUT"
      (Setter.span fun o d => { o with caseTimeout := some d }),
    option "startup-timeout" "COMPAT_STARTUP_TIMEOUT"
      (Setter.span fun o d => { o with startupTimeout := some d }),
    option "grace-period" "COMPAT_GRACE_PERIOD"
      (Setter.span fun o d => { o with gracePeriod := some d }),
    option "provision-timeout" "COMPAT_PROVISION_TIMEOUT"
      (Setter.span fun o d => { o with provisionTimeout := some d }),
    option "suite-timeout" "COMPAT_SUITE_TIMEOUT"
      (Setter.span fun o d => { o with suiteTimeout := some d }),
    { option "nodes" "COMPAT_NODES" Setter.hosts with isRepeatable := true },
    option "testbed-size" "COMPAT_TESTBED_SIZE"
      (Setter.number fun o n => { o with testbedSize := some n }),
    { option "fail-fast" "COMPAT_FAIL_FAST" (Setter.truth fun o failFast => { o with failFast })
      with isSwitch := true },
    option "latest-release" "COMPAT_LATEST_RELEASE"
      (Setter.text fun o t => { o with latestRelease := some t }),
    option "report" "COMPAT_REPORT" (Setter.path fun o t => { o with report := some t }),
    option "server-cmd" "COMPAT_SERVER_CMD"
      (Setter.text fun o t => { o with serverCommand := some t }),
    option "client-cmd" "COMPAT_CLIENT_CMD"
      (Setter.text fun o t => { o with clientCommand := some t }),
    option "work-dir" "COMPAT_WORK_DIR" (Setter.path fun o t => { o with workDir := some t })]

def find? (name : String) : Option Flag := all.find? fun flag => flag.name == name

end Flag

/-! ## Reading arguments -/

/-- The options so far, the names of those given, and the one that still has to be judged with
its value, if that has come. -/
structure Reading where
  options : Options
  given : List String
  pending : Option (Flag × Option String)

namespace Reading

def start : Reading := ⟨.standard, [], none⟩

def assign (flag : Flag) (value : String) (r : Reading) : Except UsageError Reading :=
  if r.given.contains flag.name && !flag.isRepeatable then .error .argumentConflict
  else do
    let options ← flag.set value r.options
    return { r with options, given := flag.name :: r.given }

def settle (r : Reading) : Except UsageError Reading :=
  match r.pending with
  | none => .ok r
  | some (_, none) => .error .invalidValue
  | some (flag, some value) => { r with pending := none }.assign flag value

/-- Judges the open option before something else is shown instead of a run. -/
def interrupt (e : UsageError) (r : Reading) : Except UsageError Reading := do
  let _ ← r.settle
  throw e

def readFlag (flag : Flag) (value : Option String) (r : Reading) : Except UsageError Reading := do
  if flag.isSwitch then
    match value with
    | some _ => throw .tooManyValues
    | none => (← r.settle).assign flag "true"
  else
    let r ← r.settle
    match value with
    | some value => r.assign flag value
    | none => return { r with pending := some (flag, none) }

def readLong (name : String) (value : Option String) (r : Reading) :
    Except UsageError Reading :=
  match Flag.find? name with
  | some flag => r.readFlag flag value
  | none =>
    let shown := if name = "help" then some UsageError.displayHelp
      else if name = "version" then some .displayVersion
      else none
    match shown, value with
    | none, _ => .error .unknownArgument
    | some _, some _ => .error .tooManyValues
    | some e, none => r.interrupt e

def readShort (letter : Char) (r : Reading) : Except UsageError Reading :=
  if letter = 'h' then r.interrupt .displayHelp
  else if letter = 'V' then r.interrupt .displayVersion
  else .error .unknownArgument

/-- Reads an argument without dashes: the value of the open option. -/
def readValue (value : String) (r : Reading) : Except UsageError Reading :=
  match r.pending with
  | some (flag, none) => .ok { r with pending := some (flag, some value) }
  | _ => .error .unknownArgument

def splitFlag (cs : List Char) : String × Option String :=
  let name := String.ofList (cs.takeWhile (· != '='))
  match cs.dropWhile (· != '=') with
  | [] => (name, none)
  | _ :: value => (name, some (String.ofList value))

def readArg (arg : String) (r : Reading) : Except UsageError Reading :=
  match arg.toList with
  | '-' :: '-' :: cs => let (name, value) := splitFlag cs; r.readLong name value
  | '-' :: c :: _ => r.readShort c
  | _ => r.readValue arg

def readAll : List String → Reading → Except UsageError Reading
  | [], r => r.settle
  | "--" :: rest, r => if rest.isEmpty then r.settle else .error .unknownArgument
  | arg :: rest, r => do readAll rest (← r.readArg arg)

end Reading

/-- The value of a variable; the last one counts. -/
def lookupVariable (environment : List (String × String)) (name : String) : Option String :=
  (environment.reverse.find? fun pair => pair.1 == name).map Prod.snd

def Reading.complete (environment : List (String × String)) (r : Reading) :
    Except UsageError Options :=
  Flag.all.foldlM
    (fun options flag =>
      if r.given.contains flag.name then .ok options
      else
        match flag.variableName.bind (lookupVariable environment) with
        | some value => flag.set value options
        | none => .ok options)
    r.options

def Options.read (args : List String) (environment : List (String × String)) :
    Except UsageError Options := do
  (← Reading.start.readAll args).complete environment

end Interop
