import Interop.Matrix.Json
import Interop.Outcome
import Interop.Span.Seconds

/-!
# Reports

A report is the list of the records of a run in generation order, with their counts by kind
and the time the run took.  It is written as lines of text for people and as JSON for
programs.
-/

namespace Interop

structure Summary where
  total : Nat
  pass : Nat
  fail : Nat
  error : Nat
  timeout : Nat
  skipped : Nat
  deriving DecidableEq, Repr, Inhabited

namespace Summary

def empty : Summary := ⟨0, 0, 0, 0, 0, 0⟩

def add (s : Summary) (kind : OutcomeKind) : Summary :=
  let s := { s with total := s.total + 1 }
  match kind with
  | .pass => { s with pass := s.pass + 1 }
  | .fail => { s with fail := s.fail + 1 }
  | .error => { s with error := s.error + 1 }
  | .timeout => { s with timeout := s.timeout + 1 }
  | .skipped => { s with skipped := s.skipped + 1 }

def ofRecords (records : List CaseRecord) : Summary :=
  records.foldl (fun s r => s.add r.outcome.kind) empty

def count (s : Summary) : OutcomeKind → Nat
  | .pass => s.pass
  | .fail => s.fail
  | .error => s.error
  | .timeout => s.timeout
  | .skipped => s.skipped

def text (s : Summary) : String :=
  s!"{s.total} cases: {s.pass} passed, {s.fail} failed, {s.error} errors, " ++
    s!"{s.timeout} timed out, {s.skipped} skipped"

def toJson (s : Summary) : Json :=
  .obj [("total", .nat s.total), ("pass", .nat s.pass), ("fail", .nat s.fail),
    ("error", .nat s.error), ("timeout", .nat s.timeout), ("skipped", .nat s.skipped)]

end Summary

structure Report where
  records : List CaseRecord
  elapsed : Span
  deriving DecidableEq, Repr, Inhabited

namespace CaseRecord

def listField (name : String) (items : List String) : List (String × Json) :=
  if items.isEmpty then [] else [(name, .arr (items.map Json.str))]

def toJson (r : CaseRecord) : Json :=
  .obj ([("test", .str r.test), ("case", r.case.toJson)] ++ r.outcome.fields ++
    [("duration_ms", .nat r.duration.millis)] ++ listField "warnings" r.warnings ++
    listField "logs" r.logs ++ listField "log_files" r.logFiles)

def lines (r : CaseRecord) : List String :=
  let head := Text.padRight 8 r.outcome.kind.name ++ " " ++ r.label ++ " (" ++
    r.duration.inSeconds ++ ")"
  let tail := match r.outcome.diagnostic? with
    | some text => " - " ++ Text.firstLine text
    | none => ""
  (head ++ tail) :: r.warnings.map fun warning => "         warning: " ++ warning

end CaseRecord

namespace Report

def summary (r : Report) : Summary := Summary.ofRecords r.records

/-- Whether every case passed; true for a run without cases. -/
def allPassed (r : Report) : Bool := r.summary.pass == r.summary.total

/-- Exit code 0 when every case passed and 1 otherwise. -/
def exitCode (r : Report) : Nat := if r.allPassed then 0 else 1

def closingLine (r : Report) : String := r.summary.text ++ " in " ++ r.elapsed.inSeconds

def text (r : Report) : String :=
  String.join (((r.records.flatMap CaseRecord.lines) ++ [r.closingLine]).map (· ++ "\n"))

def toJson (r : Report) : Json :=
  .obj [("summary", r.summary.toJson), ("elapsed_ms", .nat r.elapsed.millis),
    ("records", .arr (r.records.map CaseRecord.toJson))]

def json (r : Report) : String := r.toJson.pretty

end Report

end Interop
