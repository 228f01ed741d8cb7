import Interop.Json
import Interop.Matrix

/-!
# Outcomes and records

Every case of a run ends in exactly one outcome.  A record keeps it together with the
case, its duration, its teardown warnings and its log lines.
-/

namespace Interop

inductive OutcomeKind
  | pass
  | fail
  | error
  | timeout
  | skipped
  deriving DecidableEq, Repr

def OutcomeKind.name : OutcomeKind → String
  | .pass => "PASS"
  | .fail => "FAIL"
  | .error => "ERROR"
  | .timeout => "TIMEOUT"
  | .skipped => "SKIPPED"

inductive Outcome
  | pass
  | fail (reason : String)
  /-- The test bed or the harness failed; the kind is a short label. -/
  | error (kind message : String)
  | timeout (reason : String)
  /-- The case was never started. -/
  | skipped (reason : String)
  deriving DecidableEq, Repr, Inhabited

namespace Outcome

def kind : Outcome → OutcomeKind
  | .pass => .pass
  | .fail _ => .fail
  | .error _ _ => .error
  | .timeout _ => .timeout
  | .skipped _ => .skipped

def isPass (o : Outcome) : Bool := o.kind == .pass

def diagnostic? : Outcome → Option String
  | .pass => none
  | .fail reason | .timeout reason | .skipped reason => some reason
  | .error kind message => some s!"{kind}: {message}"

def label (o : Outcome) : String :=
  match o.diagnostic? with
  | some text => o.kind.name ++ "(" ++ text ++ ")"
  | none => o.kind.name

/-! ## Serialized form -/

def fields (o : Outcome) : List (String × Json) :=
  ("outcome", Json.str o.kind.name) ::
    match o with
    | .pass => []
    | .fail reason | .timeout reason | .skipped reason => [("reason", .str reason)]
    | .error kind message => [("kind", .str kind), ("message", .str message)]

def toJson (o : Outcome) : Json := .obj o.fields

def ofPayload? (tag : String) (payload : Nat → String → Option String) (complete : Nat → Bool) :
    Option Outcome :=
  if tag = "PASS" then some .pass
  else if tag = "FAIL" then
    if complete 1 then (payload 0 "reason").map .fail else none
  else if tag = "TIMEOUT" then
    if complete 1 then (payload 0 "reason").map .timeout else none
  else if tag = "SKIPPED" then
    if complete 1 then (payload 0 "reason").map .skipped else none
  else if tag = "ERROR" then
    if complete 2 then do return .error (← payload 0 "kind") (← payload 1 "message") else none
  else none

/-- Reads the serialized form: an object with the tag and the payload, unknown fields
ignored, or a list that begins with the tag and has the payload in order. -/
def ofJson? : Json → Option Outcome
  | .obj fields => do
    let text? (name : String) : Option String := do
      (← (← Json.members? [name] fields) name).text?
    ofPayload? (← text? "outcome") (fun _ => text?) fun _ => true
  | .arr (tag :: payload) => do
    ofPayload? (← tag.text?) (fun index _ => payload[index]?.bind Json.text?)
      fun size => payload.length == size
  | _ => none

end Outcome

structure CaseRecord where
  test : String
  case : TestCase
  outcome : Outcome
  duration : Span
  warnings : List String
  logs : List String
  logFiles : List String
  deriving DecidableEq, Repr, Inhabited

namespace CaseRecord

def ofOutcome (test : String) (case : TestCase) (outcome : Outcome) : CaseRecord :=
  { test, case, outcome, duration := .zero, warnings := [], logs := [], logFiles := [] }

def label (r : CaseRecord) : String := r.test ++ "[" ++ r.case.label ++ "]"

end CaseRecord

end Interop
