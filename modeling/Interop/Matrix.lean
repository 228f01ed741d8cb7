import Interop.Span

/-!
# Version matrices

A matrix declares the dimensions along which a test varies: axes with distinct, non-empty
names and ordered values.  A case assigns one value to every axis.
-/

namespace Interop

/-! ## Declarations -/

structure Axis where
  name : String
  values : Array String
  deriving DecidableEq, Repr, Inhabited

def Axis.size (axis : Axis) : Nat := axis.values.size

def Axis.isEmpty (axis : Axis) : Bool := axis.values.isEmpty

inductive MatrixError
  | duplicateAxis (name : String)
  | emptyAxisName
  | missingAxis (name : String)
  deriving DecidableEq, Repr

def MatrixError.code : MatrixError → String
  | .duplicateAxis _ => "DuplicateAxis"
  | .emptyAxisName => "EmptyAxisName"
  | .missingAxis _ => "MissingAxis"

def MatrixError.message : MatrixError → String
  | .duplicateAxis name => s!"duplicate axis: {name}"
  | .emptyAxisName => "axis name must not be empty"
  | .missingAxis name => s!"test case has no value for axis {name}"

structure Matrix where
  axes : List Axis
  deriving DecidableEq, Repr, Inhabited

namespace Matrix

def empty : Matrix := ⟨[]⟩

def push (m : Matrix) (axis : Axis) : Except MatrixError Matrix :=
  if axis.name.isEmpty then .error .emptyAxisName
  else if m.axes.any (fun other => other.name == axis.name) then
    .error (.duplicateAxis axis.name)
  else .ok ⟨m.axes ++ [axis]⟩

/-- Declares all axes in order; the first refused one decides. -/
def ofAxes (axes : List Axis) : Except MatrixError Matrix := axes.foldlM push empty

def declare (axis : Axis) : ExceptT MatrixError (StateM Matrix) Unit := do
  let m ← get
  if axis.name.isEmpty then throw .emptyAxisName
  else if m.axes.any (fun other => other.name == axis.name) then
    throw (.duplicateAxis axis.name)
  else set (⟨m.axes ++ [axis]⟩ : Matrix)

def attempts (axes : List Axis) : StateM Matrix (List (Except MatrixError Unit)) :=
  axes.mapM fun axis => (declare axis).run

def boundedProduct (x y : Nat) : Option Nat :=
  if x * y ≤ Span.maxWord then some (x * y) else none

/-- The number of cases, unless a product of leading axes leaves the 64-bit words. -/
def caseCount (m : Matrix) : Option Nat :=
  m.axes.foldlM (fun count axis => boundedProduct count axis.size) 1

def product (axes : List Axis) : Nat := axes.foldr (fun axis count => axis.size * count) 1

end Matrix

/-! ## Cases -/

structure Assignment where
  axis : String
  value : String
  deriving DecidableEq, Repr, Inhabited

/-- One combination of values.  The ordinal is its position in the expansion and tells
repeated combinations apart. -/
structure TestCase where
  ordinal : Nat
  assignments : List Assignment
  deriving DecidableEq, Repr, Inhabited

namespace TestCase

def get? (c : TestCase) (axis : String) : Option String :=
  (c.assignments.find? fun a => a.axis == axis).map Assignment.value

def require (c : TestCase) (axis : String) : Except MatrixError String :=
  match c.get? axis with
  | some value => .ok value
  | none => .error (.missingAxis axis)

def id (c : TestCase) : String :=
  ".".intercalate (c.assignments.map fun a => a.axis ++ "=" ++ a.value)

def label (c : TestCase) : String :=
  if c.assignments.isEmpty then s!"#{c.ordinal}" else c.id

end TestCase

end Interop
