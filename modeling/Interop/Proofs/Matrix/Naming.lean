import Interop.Proofs.Matrix.Enumeration
import Mathlib.Data.List.Nodup

/-!
# Axes told apart by their names

However a matrix is built, its axes have names that are not empty and all different, since an
axis that would break this is refused and leaves the matrix as it was.  So a case has one value
for each axis, and looking a name up finds the value of the axis of that name.
-/

namespace Interop

namespace Matrix

/-! ## Declaring axes -/

structure WellNamed (m : Matrix) : Prop where
  named : ∀ axis ∈ m.axes, axis.name ≠ ""
  distinct : (m.axes.map Axis.name).Nodup

theorem wellNamed_empty : empty.WellNamed := ⟨nofun, .nil⟩

theorem wellNamed_concat {m : Matrix} {axis : Axis} :
    WellNamed ⟨m.axes ++ [axis]⟩ ↔
      m.WellNamed ∧ axis.name ≠ "" ∧ axis.name ∉ m.axes.map Axis.name := by
  constructor
  · rintro ⟨named, distinct⟩
    rw [List.map_append, List.nodup_append_comm] at distinct
    obtain ⟨free, distinct⟩ := List.nodup_cons.1 distinct
    exact ⟨⟨fun other mem => named other (List.mem_append_left _ mem), distinct⟩,
      named axis (List.mem_append_right _ (List.mem_singleton_self _)), free⟩
  · rintro ⟨⟨named, distinct⟩, filled, free⟩
    refine ⟨fun other mem => ?_, ?_⟩
    · rcases List.mem_append.1 mem with old | new
      · exact named other old
      · rw [List.mem_singleton.1 new]
        exact filled
    · rw [List.map_append, List.nodup_append_comm]
      exact List.nodup_cons.2 ⟨free, distinct⟩

private theorem isTaken_iff {axes : List Axis} {name : String} :
    axes.any (fun other => other.name == name) = true ↔ name ∈ axes.map Axis.name := by
  simp only [List.any_eq_true, beq_iff_eq, List.mem_map]

theorem push_cases (m : Matrix) (axis : Axis) :
    (axis.name = "" ∧ m.push axis = .error .emptyAxisName) ∨
    (axis.name ≠ "" ∧ axis.name ∈ m.axes.map Axis.name ∧
      m.push axis = .error (.duplicateAxis axis.name)) ∨
    (axis.name ≠ "" ∧ axis.name ∉ m.axes.map Axis.name ∧
      m.push axis = .ok ⟨m.axes ++ [axis]⟩) := by
  by_cases empty : axis.name = ""
  · exact .inl ⟨empty, by simp [push, empty]⟩
  have named : axis.name.isEmpty = false := by simpa using empty
  by_cases taken : axis.name ∈ m.axes.map Axis.name
  · refine .inr (.inl ⟨empty, taken, ?_⟩)
    rw [push, named, isTaken_iff.2 taken]
    rfl
  · refine .inr (.inr ⟨empty, taken, ?_⟩)
    have free := mt isTaken_iff.1 taken
    rw [push, named, if_neg Bool.false_ne_true, if_neg free]

theorem run_declare (m : Matrix) (axis : Axis) :
    (declare axis).run.run m =
      match m.push axis with
      | .ok m' => (.ok (), m')
      | .error e => (.error e, m) := by
  rw [push]
  change StateT.run (ExceptT.run (if _ then _ else if _ then _ else _)) m = _
  split
  · rfl
  split <;> rfl

theorem declare_cases (m : Matrix) (axis : Axis) :
    (axis.name = "" ∧ (declare axis).run.run m = (.error .emptyAxisName, m)) ∨
    (axis.name ≠ "" ∧ axis.name ∈ m.axes.map Axis.name ∧
      (declare axis).run.run m = (.error (.duplicateAxis axis.name), m)) ∨
    (axis.name ≠ "" ∧ axis.name ∉ m.axes.map Axis.name ∧
      (declare axis).run.run m = (.ok (), ⟨m.axes ++ [axis]⟩)) := by
  rw [run_declare]
  rcases push_cases m axis with ⟨empty, refused⟩ | ⟨named, taken, refused⟩ | ⟨named, free, done⟩
  · exact .inl ⟨empty, by rw [refused]⟩
  · exact .inr (.inl ⟨named, taken, by rw [refused]⟩)
  · exact .inr (.inr ⟨named, free, by rw [done]⟩)

private theorem WellNamed.declare {m : Matrix} (well : m.WellNamed) (axis : Axis) :
    WellNamed ((declare axis).run.run m).2 := by
  rcases declare_cases m axis with ⟨-, same⟩ | ⟨-, -, same⟩ | ⟨named, free, done⟩
  · rwa [same]
  · rwa [same]
  · rw [done]
    exact wellNamed_concat.2 ⟨well, named, free⟩

theorem run_attempts_cons (m : Matrix) (axis : Axis) (axes : List Axis) :
    ((attempts (axis :: axes)).run m).2 =
      ((attempts axes).run ((declare axis).run.run m).2).2 := by
  rw [attempts, List.mapM_cons]
  rfl

theorem WellNamed.attempts {m : Matrix} (well : m.WellNamed) (axes : List Axis) :
    WellNamed ((attempts axes).run m).2 := by
  induction axes generalizing m with
  | nil => exact well
  | cons axis axes ih =>
      rw [run_attempts_cons]
      exact ih (well.declare axis)

private theorem WellNamed.of_append {axes more : List Axis} (well : WellNamed ⟨axes ++ more⟩) :
    WellNamed ⟨axes⟩ := by
  obtain ⟨named, distinct⟩ := well
  rw [List.map_append] at distinct
  exact ⟨fun axis mem => named axis (List.mem_append_left _ mem), distinct.of_append_left⟩

private theorem push_eq_ok {m m' : Matrix} (well : m.WellNamed) {axis : Axis} :
    m.push axis = .ok m' ↔ m' = ⟨m.axes ++ [axis]⟩ ∧ m'.WellNamed := by
  rcases push_cases m axis with ⟨empty, refused⟩ | ⟨named, taken, refused⟩ | ⟨named, free, done⟩
  · rw [refused]
    constructor
    · rintro ⟨⟩
    · rintro ⟨rfl, all⟩
      exact absurd empty (wellNamed_concat.1 all).2.1
  · rw [refused]
    constructor
    · rintro ⟨⟩
    · rintro ⟨rfl, all⟩
      exact absurd taken (wellNamed_concat.1 all).2.2
  · rw [done]
    constructor
    · rintro ⟨⟩
      exact ⟨rfl, wellNamed_concat.2 ⟨well, named, free⟩⟩
    · rintro ⟨rfl, -⟩
      rfl

private theorem foldlM_push {m m' : Matrix} (well : m.WellNamed) {axes : List Axis} :
    axes.foldlM push m = .ok m' ↔ m' = ⟨m.axes ++ axes⟩ ∧ m'.WellNamed := by
  induction axes generalizing m with
  | nil =>
      rw [List.append_nil]
      constructor
      · rintro ⟨⟩
        exact ⟨rfl, well⟩
      · rintro ⟨rfl, -⟩
        rfl
  | cons axis axes ih =>
      have whole : m.axes ++ axis :: axes = m.axes ++ [axis] ++ axes := by simp
      rw [List.foldlM_cons, whole]
      constructor
      · intro done
        cases first : m.push axis with
        | error e =>
            rw [first] at done
            cases done
        | ok next =>
            rw [first] at done
            obtain ⟨rfl, longer⟩ := (push_eq_ok well).1 first
            exact (ih longer).1 done
      · rintro ⟨rfl, all⟩
        rw [(push_eq_ok well).2 ⟨rfl, all.of_append⟩]
        exact (ih all.of_append).2 ⟨rfl, all⟩

theorem ofAxes_eq_ok {axes : List Axis} {m : Matrix} :
    ofAxes axes = .ok m ↔ m = ⟨axes⟩ ∧ m.WellNamed :=
  foldlM_push wellNamed_empty

private theorem run_attempts_of_foldlM {m m' : Matrix} {axes : List Axis}
    (done : axes.foldlM push m = .ok m') : ((attempts axes).run m).2 = m' := by
  induction axes generalizing m with
  | nil =>
      cases done
      rfl
  | cons axis axes ih =>
      rw [run_attempts_cons, run_declare]
      rw [List.foldlM_cons] at done
      cases first : m.push axis with
      | error e =>
          rw [first] at done
          cases done
      | ok next =>
          rw [first] at done
          exact ih done

end Matrix

/-! ## Looking a name up -/

namespace TestCase

private theorem get?_eq_none {c : TestCase} {name : String} :
    c.get? name = none ↔ name ∉ c.assignments.map Assignment.axis := by
  rw [get?, Option.map_eq_none_iff, List.find?_eq_none]
  simp only [beq_iff_eq, List.mem_map, not_exists, not_and]

private theorem find?_of_mem {assignments : List Assignment}
    (distinct : (assignments.map Assignment.axis).Nodup) {a : Assignment} (mem : a ∈ assignments) :
    assignments.find? (fun b => b.axis == a.axis) = some a := by
  induction assignments with
  | nil => cases mem
  | cons first rest ih =>
      obtain ⟨free, distinct⟩ := List.nodup_cons.1 distinct
      rcases List.mem_cons.1 mem with rfl | later
      · exact List.find?_cons_of_pos (beq_self_eq_true _)
      · have other : first.axis ≠ a.axis := fun same =>
          free (same ▸ List.mem_map_of_mem later)
        rw [List.find?_cons_of_neg (by simpa using other)]
        exact ih distinct later

theorem get?_eq_some {c : TestCase} (distinct : (c.assignments.map Assignment.axis).Nodup)
    {name value : String} : c.get? name = some value ↔ ⟨name, value⟩ ∈ c.assignments := by
  constructor
  · intro found
    obtain ⟨⟨axis, value⟩, first, rfl⟩ := Option.map_eq_some_iff.1 found
    obtain rfl : axis = name := by simpa using List.find?_some first
    exact List.mem_of_find?_eq_some first
  · intro mem
    rw [get?, find?_of_mem distinct mem]
    rfl

private theorem require_eq_ok {c : TestCase} {name value : String} :
    c.require name = .ok value ↔ c.get? name = some value := by
  rw [require]
  cases c.get? name <;> simp

private theorem require_eq_error {c : TestCase} {name : String} {e : MatrixError} :
    c.require name = .error e ↔ e = .missingAxis name ∧ c.get? name = none := by
  rw [require]
  cases c.get? name <;> simp [eq_comm]

end TestCase

namespace Expansion

open Interop.Matrix (product)

private theorem map_axis_assignmentsAt {axes : List Axis} {indices : List Nat}
    (h : indices.length = axes.length) :
    (assignmentsAt axes indices).map Assignment.axis = axes.map Axis.name := by
  induction axes generalizing indices with
  | nil => rfl
  | cons axis axes ih =>
      cases indices with
      | nil => simp at h
      | cons index indices =>
          rw [assignmentsAt, List.map_cons, List.map_cons, ih (by simpa using h)]

theorem map_axis_caseAt (axes : List Axis) (position : Nat) :
    (caseAt axes position).assignments.map Assignment.axis = axes.map Axis.name :=
  map_axis_assignmentsAt (length_indicesAt axes position)

private theorem get?_caseAt {m : Matrix} (well : m.WellNamed) {position i : Nat} {axis : Axis}
    (inside : position < product m.axes) (declared : m.axes[i]? = some axis) :
    ∃ index value, (indicesAt m.axes position)[i]? = some index ∧
      axis.values[index]? = some value ∧ (caseAt m.axes position).get? axis.name = some value := by
  obtain ⟨value, selected, assigned⟩ := getElem?_caseAt inside declared
  have distinct := well.distinct
  rw [← map_axis_caseAt m.axes position] at distinct
  refine ⟨_, value, ?_, selected,
    (TestCase.get?_eq_some distinct).2 (List.mem_of_getElem? assigned)⟩
  rw [getElem?_indicesAt, declared, Option.map_some]

/-- The matrix that any attempts to declare axes lead to, the next attempt, and its cases. -/
theorem get?_of_attempts (axes : List Axis) :
    let m : Matrix := ((Matrix.attempts axes).run Matrix.empty).2
    -- It is the matrix of the axes, if they can all be declared at once.
    (∀ m', Matrix.ofAxes axes = .ok m' → m = m') ∧
    -- The names are not empty and all different.
    (∀ axis ∈ m.axes, axis.name ≠ "") ∧ (m.axes.map Axis.name).Nodup ∧
    -- An axis that would break this is refused and leaves the matrix, any other one is added.
    (∀ axis : Axis,
      (axis.name = "" → (Matrix.declare axis).run.run m = (.error .emptyAxisName, m)) ∧
      (axis.name ≠ "" → axis.name ∈ m.axes.map Axis.name →
        (Matrix.declare axis).run.run m = (.error (.duplicateAxis axis.name), m)) ∧
      (axis.name ≠ "" → axis.name ∉ m.axes.map Axis.name →
        (Matrix.declare axis).run.run m = (.ok (), ⟨m.axes ++ [axis]⟩))) ∧
    ∀ j c, (m.expand.behind j).next.1 = some c →
      -- The name of an axis has the value of that axis at the index that the wheels show.
      (∀ (i : Nat) (axis : Axis), m.axes[i]? = some axis → ∃ index value,
        (m.expand.behind j).indices[i]? = some index ∧ axis.values[index]? = some value ∧
        c.get? axis.name = some value ∧ c.require axis.name = .ok value) ∧
      -- Any other name has none.
      (∀ name e, c.require name = .error e ↔
        e = .missingAxis name ∧ ∀ axis ∈ m.axes, axis.name ≠ name) ∧
      -- There is one assignment for each axis, and each is found.
      c.assignments.map Assignment.axis = m.axes.map Axis.name ∧
      ∀ a ∈ c.assignments, c.get? a.axis = some a.value := by
  intro m
  have well : m.WellNamed := Matrix.wellNamed_empty.attempts axes
  refine ⟨fun m' => Matrix.run_attempts_of_foldlM, well.named, well.distinct, fun axis => ?_,
    fun j c returned => ?_⟩
  · rcases Matrix.declare_cases m axis with
      ⟨empty, same⟩ | ⟨named, taken, same⟩ | ⟨named, free, done⟩
    · exact ⟨fun _ => same, fun named => absurd empty named, fun named => absurd empty named⟩
    · exact ⟨fun empty => absurd empty named, fun _ _ => same, fun _ free => absurd taken free⟩
    · exact ⟨fun empty => absurd empty named, fun _ taken => absurd taken free, fun _ _ => done⟩
  · obtain ⟨inside, rfl⟩ := eq_caseAt returned
    have names := map_axis_caseAt m.axes j
    refine ⟨fun i axis declared => ?_, fun name e => ?_, names, fun a mem => ?_⟩
    · obtain ⟨index, value, shown, selected, found⟩ := get?_caseAt well inside declared
      rw [indices_behind_expand m inside]
      exact ⟨index, value, shown, selected, found, TestCase.require_eq_ok.2 found⟩
    · rw [TestCase.require_eq_error, TestCase.get?_eq_none, names]
      simp only [List.mem_map, not_exists, not_and]
    · exact (TestCase.get?_eq_some (names ▸ well.distinct)).2 mem

end Expansion

end Interop
