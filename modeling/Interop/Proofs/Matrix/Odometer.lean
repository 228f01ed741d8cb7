import Interop.Matrix.Expansion

/-!
# The odometer and its readings

An expansion turns wheels; a position has a reading that is computed by division.  The two
agree: after any number of cases the wheels show the reading of that number, and the expansion
is finished after as many cases as the lengths of the axes multiply to.
-/

namespace Interop

namespace Expansion

open Interop.Matrix (product)

@[simp]
theorem product_nil : product [] = 1 := rfl

@[simp]
theorem product_cons (axis : Axis) (axes : List Axis) :
    product (axis :: axes) = axis.size * product axes := rfl

theorem product_eq_zero {axes : List Axis} :
    product axes = 0 ↔ axes.any Axis.isEmpty = true := by
  induction axes with
  | nil => simp
  | cons axis axes ih =>
      rw [product_cons, Nat.mul_eq_zero, ih]
      simp [Axis.size, Axis.isEmpty]

theorem indicesAt_zero (axes : List Axis) : indicesAt axes 0 = axes.map fun _ => 0 := by
  induction axes with
  | nil => rfl
  | cons axis axes ih => simp [indicesAt, ih]

theorem indicesAt_mod (axes : List Axis) (position : Nat) :
    indicesAt axes (position % product axes) = indicesAt axes position := by
  induction axes generalizing position with
  | nil => rfl
  | cons axis axes ih =>
      simp only [indicesAt, product_cons, List.cons.injEq]
      refine ⟨?_, ?_⟩
      · rw [Nat.mul_comm, Nat.mod_mul_right_div_self, Nat.mod_mod]
      · rw [← ih, Nat.mod_mul_left_mod, ih]

/-! ## One position on -/

theorem succ_within {position columns : Nat} (within : position % columns + 1 < columns) :
    (position + 1) / columns = position / columns ∧
      (position + 1) % columns = position % columns + 1 := by
  have split := Nat.div_add_mod position columns
  have next : position + 1 = columns * (position / columns) + (position % columns + 1) := by omega
  have positive : 0 < columns := by omega
  constructor
  · rw [next, Nat.mul_add_div positive, Nat.div_eq_of_lt within, Nat.add_zero]
  · rw [next, Nat.mul_add_mod, Nat.mod_eq_of_lt within]

theorem succ_wrapping {position columns : Nat} (wraps : position % columns + 1 = columns) :
    position + 1 = columns * (position / columns + 1) := by
  have split := Nat.div_add_mod position columns
  rw [Nat.mul_add_one]
  omega

private theorem indicesAt_succ_within {axis : Axis} {axes : List Axis} {position : Nat}
    (within : position % product axes + 1 < product axes) :
    indicesAt (axis :: axes) (position + 1) =
      position / product axes % axis.size :: indicesAt axes (position % product axes + 1) := by
  obtain ⟨row, column⟩ := succ_within within
  rw [indicesAt, row, ← indicesAt_mod axes (position + 1), column]

private theorem indicesAt_succ_wrapping {axis : Axis} {axes : List Axis} {position : Nat}
    (wraps : position % product axes + 1 = product axes) :
    indicesAt (axis :: axes) (position + 1) =
      (position / product axes + 1) % axis.size :: axes.map fun _ => 0 := by
  have positive : 0 < product axes := by omega
  have zeros : indicesAt axes (position + 1) = axes.map fun _ => 0 := by
    rw [← indicesAt_mod, succ_wrapping wraps, Nat.mul_mod_right, indicesAt_zero]
  rw [indicesAt, zeros, succ_wrapping wraps, Nat.mul_div_cancel_left _ positive]

private theorem turn_indicesAt (axes : List Axis) {position : Nat}
    (inside : position < product axes) :
    turn axes (indicesAt axes position) =
      if position + 1 < product axes then some (indicesAt axes (position + 1)) else none := by
  induction axes generalizing position with
  | nil =>
      obtain rfl : position = 0 := by simpa using inside
      rfl
  | cons axis axes ih =>
      rw [product_cons] at inside ⊢
      have positive : 0 < product axes :=
        Nat.pos_of_ne_zero fun none => by simp [none] at inside
      have first : position / product axes < axis.size :=
        Nat.div_lt_of_lt_mul (by rwa [Nat.mul_comm])
      have low := Nat.mod_lt position positive
      have turned := ih low
      rw [indicesAt_mod] at turned
      rw [indicesAt, Nat.mod_eq_of_lt first, turn, turned]
      by_cases within : position % product axes + 1 < product axes
      · -- Only later wheels turn.
        have bound : position + 1 < axis.size * product axes := by
          rw [← Nat.div_lt_iff_lt_mul positive, (succ_within within).1]
          exact first
        rw [if_pos within, if_pos bound, indicesAt_succ_within within, Nat.mod_eq_of_lt first]
      · -- All later wheels wrap.
        have wraps : position % product axes + 1 = product axes := by omega
        have bound : position + 1 < axis.size * product axes ↔
            position / product axes + 1 < axis.size := by
          rw [← Nat.div_lt_iff_lt_mul positive, succ_wrapping wraps,
            Nat.mul_div_cancel_left _ positive]
        rw [if_neg within, indicesAt_succ_wrapping wraps]
        by_cases more : position / product axes + 1 < axis.size
        · simp only [more, bound.2 more, if_true, Nat.mod_eq_of_lt]
        · simp only [more, mt bound.1 more, if_false]

/-! ## The enumeration -/

def reached (m : Matrix) (position : Nat) : Expansion :=
  { axes := m.axes
    indices :=
      if position < product m.axes then indicesAt m.axes position else m.axes.map fun _ => 0
    yielded := position
    total := m.caseCount
    finished := decide (product m.axes ≤ position) }

theorem expand_eq_reached (m : Matrix) : m.expand = reached m 0 := by
  have finished : m.axes.any Axis.isEmpty = decide (product m.axes ≤ 0) := by
    rw [Bool.eq_iff_iff, decide_eq_true_iff, Nat.le_zero, product_eq_zero]
  simp [Matrix.expand, ofMatrix, reached, finished, indicesAt_zero]

theorem next_reached (m : Matrix) {position : Nat} (inside : position < product m.axes) :
    (reached m position).next = (some (caseAt m.axes position), reached m (position + 1)) := by
  have unfinished : ¬ product m.axes ≤ position := Nat.not_le_of_lt inside
  have turned := turn_indicesAt m.axes inside
  simp only [next, advance, current, caseAt, reached, inside, unfinished, decide_false, if_true,
    Bool.false_eq_true, if_false, turned]
  by_cases more : position + 1 < product m.axes
  · simp [more, Nat.not_le_of_lt more]
  · simp [more, Nat.le_of_not_lt more]

theorem next_reached_of_le (m : Matrix) {position : Nat} (beyond : product m.axes ≤ position) :
    (reached m position).next = (none, reached m position) :=
  next_of_finished (by simpa [reached] using beyond)

private theorem take_reached (m : Matrix) (count position : Nat) :
    ((reached m position).take count).1 =
      (List.range' position (min count (product m.axes - position))).map (caseAt m.axes) := by
  induction count generalizing position with
  | zero => simp [take]
  | succ count ih =>
      by_cases inside : position < product m.axes
      · have split : min (count + 1) (product m.axes - position) =
            min count (product m.axes - (position + 1)) + 1 := by omega
        simp only [take, next_reached m inside]
        rw [ih, split, List.range'_succ, List.map_cons]
      · have none : product m.axes - position = 0 := by omega
        simp [take, next_reached_of_le m (Nat.le_of_not_lt inside), none]

theorem toList_reached (m : Matrix) (position : Nat) :
    (reached m position).toList =
      (List.range' position (product m.axes - position)).map (caseAt m.axes) := by
  have bound : (reached m position).bound = product m.axes := rfl
  rw [toList, take_reached, bound]
  congr 2
  omega

theorem next_reached_cases (m : Matrix) (position : Nat) :
    ((reached m position).next = (none, reached m position) ∧
      (reached m position).toList = []) ∨
    (reached m position).next = (some (caseAt m.axes position), reached m (position + 1)) ∧
      (reached m position).toList =
        caseAt m.axes position :: (reached m (position + 1)).toList := by
  by_cases inside : position < product m.axes
  · refine .inr ⟨next_reached m inside, ?_⟩
    have split : product m.axes - position = product m.axes - (position + 1) + 1 := by omega
    rw [toList_reached, toList_reached, split, List.range'_succ, List.map_cons]
  · have none : product m.axes - position = 0 := by omega
    exact .inl ⟨next_reached_of_le m (Nat.le_of_not_lt inside), by simp [toList_reached, none]⟩

end Expansion

namespace Matrix

theorem cases_eq (m : Matrix) :
    m.cases = (List.range (product m.axes)).map (Expansion.caseAt m.axes) := by
  rw [cases, Expansion.expand_eq_reached, Expansion.toList_reached, List.range_eq_range',
    Nat.sub_zero]

end Matrix

end Interop
