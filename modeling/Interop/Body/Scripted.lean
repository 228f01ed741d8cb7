import Interop.Body

/-!
# Scripted bodies

A list of actions as a body.  Each action leaves a line in the trace that says what came of
it; an error ends the body unless the action catches it.
-/

namespace Interop

inductive Deed
  | start (service : String)
  | run (service : String)
  | runExpectingPass (service : String)
  | stop (service : String)
  | endpoint (service : String)
  | endpoints (service : String)
  | handle (service : String)
  | value (axis : String)
  | version (axis : String)
  | ensure (holds : Bool) (message : String)
  | ensureValue (axis expected : String)
  | sleep (length : Span)
  | fail (error : CaseError)
  | panic (message : Option String)
  | reserve (count : Nat)
  | provision (descriptor : Except CaseError Descriptor)
  | teardown
  | case

namespace Deed

def name : Deed → String
  | .start _ => "start"
  | .run _ => "run"
  | .runExpectingPass _ => "run_expecting_pass"
  | .stop _ => "stop"
  | .endpoint _ => "endpoint"
  | .endpoints _ => "endpoints"
  | .handle _ => "handle"
  | .value _ => "value"
  | .version _ => "version"
  | .ensure _ _ => "ensure"
  | .ensureValue _ _ => "ensure_value"
  | .sleep _ => "sleep"
  | .fail _ => "fail"
  | .panic _ => "panic"
  | .reserve _ => "reserve"
  | .provision _ => "provision"
  | .teardown => "teardown"
  | .case => "case"

def endpointsText (endpoints : List Endpoint) : String :=
  ",".intercalate (endpoints.map Endpoint.text)

def outcomeText (outcome : AppOutcome) : String :=
  let passed := ("passed", Json.bool outcome.isPassed)
  Json.compact <| .obj <| match outcome with
    | .passed => [passed]
    | .failed text => [("failed", .str text), passed]
    | .exception text => [("exception", .str text), passed]

def ensured (holds : Bool) (message : String) : Except CaseError String :=
  if holds then .ok "held" else .error (.assertion message)

def perform (case : TestCase) (deed : Deed) (next : Except CaseError String → Body) : Body :=
  match deed with
  | .start service =>
    Body.start service fun result =>
      next (result.map fun signal => signal.service ++ " at " ++ endpointsText signal.endpoints)
  | .run service => Body.run service fun result => next (result.map outcomeText)
  | .runExpectingPass service =>
    Body.runExpectingPass service fun result => next (result.map fun _ => "passed")
  | .stop service => Body.stop service fun result => next (result.map fun _ => "stopped")
  | .endpoint service => Body.endpoint service fun result => next (result.map Endpoint.text)
  | .endpoints service => Body.endpoints service fun result => next (result.map endpointsText)
  | .handle service =>
    Body.lookup service fun result =>
      next (.ok (if result.toOption.isSome then "true" else "false"))
  | .value axis => next (case.value axis)
  | .version axis => next ((case.version axis).map Version.text)
  | .ensure holds message => next (ensured holds message)
  | .ensureValue axis expected =>
    next ((case.value axis).bind fun value =>
      ensured (value == expected) (axis ++ " is not " ++ expected))
  | .sleep length => .asks (.sleep length) fun _ => next (.ok "slept")
  | .fail error => next (.error error)
  | .panic message => .panics message
  | .reserve count =>
    Body.reserve count fun result => next (result.map fun n => s!"unassigned {n}")
  | .provision (.error e) => next (.error e)
  | .provision (.ok d) => Body.provision d fun result => next (result.map fun _ => "provisioned")
  | .teardown =>
    Body.teardown fun warnings => next (.ok ("; ".intercalate (warnings.map Warning.message)))
  | .case => next (.ok case.label)

end Deed

structure Action where
  only : List (String × String)
  deed : Deed
  catches : Bool

def Action.applies (a : Action) (case : TestCase) : Bool :=
  a.only.all fun condition => case.get? condition.1 == some condition.2

def Body.ofActions (case : TestCase) : List Action → Body
  | [] => .idle
  | action :: rest =>
    if action.applies case then
      action.deed.perform case fun
        | .ok result =>
          .asks (.note ("body " ++ action.deed.name ++ " -> " ++ result)) fun _ =>
            ofActions case rest
        | .error e =>
          .asks (.note ("body " ++ action.deed.name ++ " failed: " ++ e.message)) fun _ =>
            if action.catches then ofActions case rest else .ends (.error e)
    else ofActions case rest

end Interop
