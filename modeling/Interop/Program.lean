import Interop.Catalog
import Interop.CommandLine
import Interop.Suite.Runner
import Interop.Text.Quoted

/-!
# The program

A run of the program from its arguments to its exit code: it lists the tests, or runs them and
reports.  Whatever is wrong with the command line or the configuration ends it before any case.
-/

namespace Interop

structure Surroundings where
  args : List String
  environment : List (String × String)
  cores : Nat
  machine : Machine
  network : Network

structure Conclusion where
  output : String
  complaint : String
  report : Option (String × String)
  exitCode : Nat
  deriving DecidableEq, Repr, Inhabited

namespace Program

def name : String := "compat-matrix"

def release : String := "0.1.0"

def usageCode : Nat := 2

def failureCode : Nat := 1

def complaintLine (message : String) : String := "ERROR: " ++ message ++ "\n"

def refusal (message : String) : Conclusion :=
  { output := "", complaint := complaintLine message, report := none, exitCode := usageCode }

def breakdownCode : Nat := 101

def breakdown : Conclusion :=
  { output := "", complaint := "there are not so many permits\n", report := none
    exitCode := breakdownCode }

def usageLine : String := "Usage: " ++ name ++ " [OPTIONS]\n"

def helpText : String :=
  usageLine ++ String.join (Flag.all.map fun flag => "  --" ++ flag.name ++ "\n")

def usageConclusion : UsageError → Conclusion
  | .displayHelp => { output := helpText, complaint := "", report := none, exitCode := 0 }
  | .displayVersion =>
    { output := name ++ " " ++ release ++ "\n", complaint := "", report := none, exitCode := 0 }
  | e =>
    { output := "", complaint := "error: " ++ e.code ++ "\n" ++ usageLine, report := none
      exitCode := usageCode }

/-! ## Listing -/

def listing (t : Test) : String :=
  let cases := (t.matrix.caseCount.map toString).getD "too many"
  let nodes := (t.numNodes.map toString).getD "any"
  s!"{t.name} ({cases} cases, {nodes} nodes)\n" ++
    String.join (t.matrix.cases.map fun case => "  " ++ case.label ++ "\n")

/-! ## Running -/

def reported (o : Options) (r : Report) : Conclusion :=
  { output := r.text, complaint := "", report := o.report.map fun path => (path, r.json)
    exitCode := r.exitCode }

/-- Runs tests; what is left, with the disk at the end. -/
def runTests (s : Surroundings) (o : Options) (tests : List Test) (launcher : Launcher) :
    Conclusion × Disk :=
  let suite := Suite.ofTests o.config s.cores tests
  let (time, staging) := ((Staging.ofSuite suite launcher s.network).onDisk s.machine.disk).run
  let conclusion := match staging.suite.result? with
    | some (.ok report) => reported o report
    | some (.error e) =>
      { output := "", complaint := complaintLine e.message, report := none
        exitCode := failureCode }
    | none => { output := "", complaint := "", report := none, exitCode := failureCode }
  (conclusion, (staging.fleet.scene time).disk)

/-- Runs the selected tests, unless something speaks against it. -/
def runSelected (s : Surroundings) (o : Options) (tests : List Test) : Conclusion × Disk :=
  if tests.isEmpty then
    (refusal ("no test matches " ++ Text.quoted (o.filter.getD "")), s.machine.disk)
  else if o.config.hosts.isEmpty then
    (refusal "test-bed needs at least one node", s.machine.disk)
  else
    match o.launcher s.machine with
    | .error message => (refusal message, s.machine.disk)
    | .ok launcher =>
      if Config.maxPermits < o.config.permits s.cores then (breakdown, s.machine.disk)
      else runTests s o tests launcher

def perform (s : Surroundings) (o : Options) : Conclusion × Disk :=
  match Registry.vacant.installBuiltin.bind Registry.current with
  | .error e => (refusal e.message, s.machine.disk)
  | .ok catalog =>
    let tests := catalog.select o.filter
    if o.list then
      ({ output := String.join (tests.map listing), complaint := "", report := none
         exitCode := 0 }, s.machine.disk)
    else runSelected s o tests

/-- A run of the program; what it leaves, with the disk at its end. -/
def run (s : Surroundings) : Conclusion × Disk :=
  match Options.read s.args s.environment with
  | .error e => (usageConclusion e, s.machine.disk)
  | .ok o => perform s o

end Program

def Conclusion.unreported (path reason : String) (c : Conclusion) : Conclusion :=
  { c with
    complaint := c.complaint ++
      Program.complaintLine ("failed to write report to " ++ path ++ ": " ++ reason)
    report := none, exitCode := Program.failureCode }

namespace Program

def runOn (s : Surroundings) : Conclusion × Disk :=
  let (c, disk) := run s
  match c.report with
  | none => (c, disk)
  | some (path, text) =>
    match disk.save [] (Text.octets path) (Text.octets text) with
    | .ok disk => (c, disk)
    | .error e => (c.unreported path e.message, disk)

end Program

end Interop
