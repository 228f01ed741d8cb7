import Interop.Program
import Interop.Shell.Host

/-!
# The command line program

Gathers the arguments and the variables of the environment, runs the program, and passes on
what it leaves.
-/

namespace Interop.Program

def readEnvironment : IO (List (String × String)) :=
  (Flag.all.filterMap Flag.variableName).filterMapM fun name => do
    return (← IO.getEnv name).map fun value => (name, value)

/-- Writes the report; what is left when that fails. -/
def saveReport (c : Conclusion) : IO Conclusion :=
  match c.report with
  | none => return c
  | some (path, text) =>
    try
      IO.FS.writeFile path text
      return c
    catch e => return c.unreported path (toString e)

end Interop.Program

open Interop in
def main (args : List String) : IO UInt32 := do
  let environment ← Program.readEnvironment
  let (c, _) := Program.run
    { args, environment, cores := 4, machine := Shell.host, network := .connected }
  let c ← Program.saveReport c
  (← IO.getStdout).putStr c.output
  (← IO.getStderr).putStr c.complaint
  return c.exitCode.toUInt32
