import Interop.Json
import Interop.Matrix

/-!
# Serialized cases

A case is written as its ordinal and the list of its assignments, and read back from that
form; the parts may also be given as lists in order.
-/

namespace Interop

def Assignment.toJson (a : Assignment) : Json :=
  .obj [("axis", .str a.axis), ("value", .str a.value)]

def Assignment.ofJson? : Json → Option Assignment
  | .obj fields => do
    let member ← Json.members? ["axis", "value"] fields
    return ⟨← (← member "axis").text?, ← (← member "value").text?⟩
  | .arr [.str axis, .str value] => some ⟨axis, value⟩
  | _ => none

def TestCase.toJson (c : TestCase) : Json :=
  .obj [("ordinal", .nat c.ordinal),
    ("assignments", .arr (c.assignments.map Assignment.toJson))]

def TestCase.ofJson? : Json → Option TestCase
  | .obj fields => do
    let member ← Json.members? ["ordinal", "assignments"] fields
    return ⟨← (← member "ordinal").word?, ← (← member "assignments").list? Assignment.ofJson?⟩
  | .arr [ordinal, assignments] => do
    return ⟨← ordinal.word?, ← assignments.list? Assignment.ofJson?⟩
  | _ => none

end Interop
