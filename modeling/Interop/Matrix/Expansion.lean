import Interop.Matrix

/-!
# Expanding a matrix

The cases of a matrix are enumerated like the readings of an odometer with one wheel per
axis, the last wheel fastest.  Only the case at hand is built.  Beside it stands the reading
at a given position computed by division, digit by digit.
-/

namespace Interop

/-- An enumeration in progress: one index per axis, the number of cases returned, the total
when it is known, and whether every wheel has wrapped. -/
structure Expansion where
  axes : List Axis
  indices : List Nat
  yielded : Nat
  total : Option Nat
  finished : Bool
  deriving DecidableEq, Repr, Inhabited

namespace Expansion

/-- A fresh enumeration; one with an axis without values is finished at once. -/
def ofMatrix (m : Matrix) : Expansion :=
  { axes := m.axes
    indices := m.axes.map fun _ => 0
    yielded := 0
    total := m.caseCount
    finished := m.axes.any Axis.isEmpty }

def assignmentsAt : List Axis → List Nat → List Assignment
  | axis :: axes, index :: indices =>
    ⟨axis.name, axis.values.getD index ""⟩ :: assignmentsAt axes indices
  | _, _ => []

def current (e : Expansion) : TestCase := ⟨e.yielded, assignmentsAt e.axes e.indices⟩

/-- Turns the last wheel by one; a wheel that wraps turns the one before it.  Nothing when
every wheel has wrapped. -/
def turn : List Axis → List Nat → Option (List Nat)
  | axis :: axes, index :: indices =>
    match turn axes indices with
    | some turned => some (index :: turned)
    | none =>
      if index + 1 < axis.size then some ((index + 1) :: axes.map fun _ => 0) else none
  | _, _ => none

def advance (e : Expansion) : Expansion :=
  match turn e.axes e.indices with
  | some indices => { e with indices, yielded := e.yielded + 1 }
  | none =>
    { e with
      indices := e.axes.map fun _ => 0
      yielded := e.yielded + 1
      finished := true }

def next (e : Expansion) : Option TestCase × Expansion :=
  if e.finished then (none, e) else (some e.current, e.advance)

theorem next_of_finished {e : Expansion} (h : e.finished = true) : e.next = (none, e) := by
  simp [next, h]

/-- Bounds on the number of cases still to come.  Without a known total the lower bound is
the largest word and there is no upper bound. -/
def sizeHint (e : Expansion) : Nat × Option Nat :=
  if e.finished then (0, some 0)
  else
    match e.total with
    | some total => (total - e.yielded, some (total - e.yielded))
    | none => (Span.maxWord, none)

/-! ## Walking -/

def skip : Nat → Expansion → Expansion
  | 0, e => e
  | count + 1, e => if e.finished then e else skip count e.advance

def nth (e : Expansion) (index : Nat) : Option TestCase × Expansion := (e.skip index).next

def take : Nat → Expansion → List TestCase × Expansion
  | 0, e => ([], e)
  | count + 1, e =>
    match e.next with
    | (none, e) => ([], e)
    | (some c, e) =>
      let (rest, e) := take count e
      (c :: rest, e)

/-- A bound on the number of cases still to come that always holds. -/
def bound (e : Expansion) : Nat := Matrix.product e.axes

def toList (e : Expansion) : List TestCase := (e.take (e.bound + 1)).1

def countFrom : Nat → Nat → Expansion → Nat
  | 0, seen, _ => seen
  | fuel + 1, seen, e => if e.finished then seen else countFrom fuel (seen + 1) e.advance

def count (e : Expansion) : Nat := countFrom (e.bound + 1) 0 e

def lastFrom : Nat → Option TestCase → Expansion → Option TestCase × Expansion
  | 0, seen, e => (seen, e)
  | fuel + 1, seen, e =>
    if e.finished then (seen, e) else lastFrom fuel (some e.current) e.advance

def last (e : Expansion) : Option TestCase × Expansion := lastFrom (e.bound + 1) none e

/-! ## Positions -/

/-- The reading at a position: for each axis the quotient by the product of the later
lengths, modulo its own length. -/
def indicesAt : List Axis → Nat → List Nat
  | [], _ => []
  | axis :: axes, position =>
    (position / Matrix.product axes % axis.size) :: indicesAt axes position

@[simp]
theorem length_indicesAt (axes : List Axis) (position : Nat) :
    (indicesAt axes position).length = axes.length := by
  induction axes with
  | nil => rfl
  | cons axis axes ih => simp [indicesAt, ih]

def caseAt (axes : List Axis) (position : Nat) : TestCase :=
  ⟨position, assignmentsAt axes (indicesAt axes position)⟩

end Expansion

namespace Matrix

def expand (m : Matrix) : Expansion := Expansion.ofMatrix m

def cases (m : Matrix) : List TestCase := m.expand.toList

end Matrix

end Interop
