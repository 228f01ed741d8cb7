import Interop.Proofs.Matrix.Odometer
import Mathlib.Algebra.BigOperators.Group.List.Basic
import Mathlib.Data.List.Count
import Mathlib.Data.List.Lex
import Mathlib.Data.List.TakeWhile

/-!
# What an expansion returns, call by call

The calls of `next` on a fresh expansion are numbered from zero.  The call of a number shows
the digits of that number in the mixed radix whose digits have the lengths of the axes, the
last axis being the lowest digit.  All combinations are shown, each once and in lexicographic
order, and the size hint tells how many are left.
-/

namespace Interop

namespace Expansion

open Interop.Matrix (product boundedProduct)

/-! ## Calls -/

/-- The enumeration behind a number of calls of `next`, whatever they returned. -/
def behind (e : Expansion) (calls : Nat) : Expansion := (fun e => e.next.2)^[calls] e

@[simp]
theorem behind_zero (e : Expansion) : e.behind 0 = e := rfl

theorem behind_succ (e : Expansion) (calls : Nat) :
    e.behind (calls + 1) = (e.behind calls).next.2 :=
  Function.iterate_succ_apply' _ _ _

private theorem behind_of_finished {e : Expansion} (h : e.finished = true) (calls : Nat) :
    e.behind calls = e := by
  induction calls with
  | zero => rfl
  | succ calls ih => rw [behind_succ, ih, next_of_finished h]

private theorem next_eq_none {e : Expansion} : e.next.1 = none ↔ e.finished = true := by
  cases h : e.finished <;> simp [next, h]

private theorem next_behind_of_none {e : Expansion} (h : e.next.1 = none) (calls : Nat) :
    (e.behind calls).next.1 = none := by
  rw [behind_of_finished (next_eq_none.1 h)]
  exact h

theorem behind_expand (m : Matrix) (calls : Nat) :
    m.expand.behind calls = reached m (min calls (product m.axes)) := by
  induction calls with
  | zero => simp [expand_eq_reached]
  | succ calls ih =>
      rw [behind_succ, ih]
      by_cases inside : calls < product m.axes
      · rw [Nat.min_eq_left (Nat.le_of_lt inside), next_reached m inside, Nat.min_eq_left inside]
      · have beyond : product m.axes ≤ calls := Nat.le_of_not_lt inside
        rw [Nat.min_eq_right beyond, next_reached_of_le m (Nat.le_refl _),
          Nat.min_eq_right (Nat.le_succ_of_le beyond)]

theorem next_behind_expand (m : Matrix) {calls : Nat} (inside : calls < product m.axes) :
    (m.expand.behind calls).next.1 = some (caseAt m.axes calls) := by
  rw [behind_expand, Nat.min_eq_left (Nat.le_of_lt inside), next_reached m inside]

theorem next_behind_expand_of_le (m : Matrix) {calls : Nat} (beyond : product m.axes ≤ calls) :
    (m.expand.behind calls).next.1 = none := by
  rw [behind_expand, Nat.min_eq_right beyond, next_reached_of_le m (Nat.le_refl _)]

theorem indices_behind_expand (m : Matrix) {calls : Nat} (inside : calls < product m.axes) :
    (m.expand.behind calls).indices = indicesAt m.axes calls := by
  rw [behind_expand, Nat.min_eq_left (Nat.le_of_lt inside)]
  simp [reached, inside]

/-! ## Digits -/

theorem product_eq_prod (axes : List Axis) : product axes = (axes.map Axis.size).prod := by
  induction axes with
  | nil => rfl
  | cons axis axes ih => rw [product_cons, ih, List.map_cons, List.prod_cons]

theorem getElem?_indicesAt (axes : List Axis) (position i : Nat) :
    (indicesAt axes position)[i]? =
      axes[i]?.map fun axis => position / product (axes.drop (i + 1)) % axis.size := by
  induction axes generalizing i with
  | nil => rfl
  | cons axis axes ih =>
      cases i with
      | zero => rfl
      | succ i => simpa [indicesAt] using ih i

private theorem getElem?_assignmentsAt (axes : List Axis) (indices : List Nat) (i : Nat) :
    (assignmentsAt axes indices)[i]? =
      axes[i]?.bind fun axis =>
        indices[i]?.map fun index => ⟨axis.name, axis.values.getD index ""⟩ := by
  induction axes generalizing indices i with
  | nil => rfl
  | cons axis axes ih =>
      cases indices with
      | nil => cases i <;> simp [assignmentsAt]
      | cons index indices =>
          cases i with
          | zero => rfl
          | succ i => simpa [assignmentsAt] using ih indices i

theorem length_assignmentsAt {axes : List Axis} {indices : List Nat}
    (h : indices.length = axes.length) : (assignmentsAt axes indices).length = axes.length := by
  induction axes generalizing indices with
  | nil => rfl
  | cons axis axes ih =>
      cases indices with
      | nil => simp at h
      | cons index indices => simpa [assignmentsAt] using ih (by simpa using h)

theorem product_pos_of_lt {axes : List Axis} {position : Nat} (inside : position < product axes) :
    0 < product axes :=
  Nat.lt_of_le_of_lt (Nat.zero_le _) inside

theorem size_pos_of_mem {axes : List Axis} (positive : 0 < product axes) {axis : Axis}
    (mem : axis ∈ axes) : 0 < axis.size := by
  refine Nat.pos_of_ne_zero fun zero => Nat.ne_of_gt positive (product_eq_zero.2 ?_)
  exact List.any_eq_true.2 ⟨axis, mem, Array.isEmpty_iff_size_eq_zero.2 zero⟩

theorem getElem?_caseAt {axes : List Axis} {position i : Nat} {axis : Axis}
    (inside : position < product axes) (declared : axes[i]? = some axis) :
    ∃ value, axis.values[position / product (axes.drop (i + 1)) % axis.size]? = some value ∧
      (caseAt axes position).assignments[i]? = some ⟨axis.name, value⟩ := by
  have positive := size_pos_of_mem (product_pos_of_lt inside) (List.mem_of_getElem? declared)
  have low := Nat.mod_lt (position / product (axes.drop (i + 1))) positive
  refine ⟨_, Array.getElem?_eq_getElem low, ?_⟩
  rw [caseAt, getElem?_assignmentsAt, getElem?_indicesAt, declared]
  simp only [Option.bind_some, Option.map_some, Option.some.injEq, Assignment.mk.injEq, true_and]
  exact (Array.getElem_eq_getD "").symm

/-! ## Combinations -/

def Within (axes : List Axis) (indices : List Nat) : Prop :=
  List.Forall₂ (fun (axis : Axis) index => index < axis.size) axes indices

private theorem within_indicesAt {axes : List Axis} (positive : 0 < product axes) (position : Nat) :
    Within axes (indicesAt axes position) := by
  induction axes with
  | nil => exact .nil
  | cons axis axes ih =>
      refine .cons (Nat.mod_lt _ ?_) (ih ?_)
      · exact Nat.pos_of_mul_pos_right positive
      · exact Nat.pos_of_mul_pos_left positive

theorem indicesAt_row {axis : Axis} {axes : List Axis} {row column : Nat}
    (high : row < axis.size) (low : column < product axes) :
    indicesAt (axis :: axes) (product axes * row + column) = row :: indicesAt axes column := by
  have quotient : (product axes * row + column) / product axes = row := by
    rw [Nat.mul_add_div (product_pos_of_lt low), Nat.div_eq_of_lt low, Nat.add_zero]
  have rest : indicesAt axes (product axes * row + column) = indicesAt axes column := by
    rw [← indicesAt_mod, Nat.mul_add_mod, indicesAt_mod]
  rw [indicesAt, quotient, rest, Nat.mod_eq_of_lt high]

def positionOf : List Axis → List Nat → Nat
  | _ :: axes, index :: indices => product axes * index + positionOf axes indices
  | _, _ => 0

theorem positionOf_lt {axes : List Axis} {indices : List Nat} (within : Within axes indices) :
    positionOf axes indices < product axes := by
  induction within with
  | nil => exact Nat.one_pos
  | @cons axis index axes indices low rest ih =>
      have row : product axes * (index + 1) ≤ product axes * axis.size :=
        Nat.mul_le_mul_left _ low
      rw [Nat.mul_add_one] at row
      rw [positionOf, product_cons, Nat.mul_comm axis.size]
      omega

private theorem indicesAt_positionOf {axes : List Axis} {indices : List Nat}
    (within : Within axes indices) : indicesAt axes (positionOf axes indices) = indices := by
  induction within with
  | nil => rfl
  | cons low rest ih => rw [positionOf, indicesAt_row low (positionOf_lt rest), ih]

theorem lex_indicesAt {axes : List Axis} {first second : Nat} (before : first < second)
    (inside : second < product axes) :
    List.Lex (· < ·) (indicesAt axes first) (indicesAt axes second) := by
  induction axes generalizing first second with
  | nil =>
      have one : second < 1 := inside
      omega
  | cons axis axes ih =>
      rw [product_cons] at inside
      have positive : 0 < product axes := Nat.pos_of_mul_pos_left (Nat.zero_lt_of_lt inside)
      have high : second / product axes < axis.size :=
        Nat.div_lt_of_lt_mul (by rwa [Nat.mul_comm])
      have ordered : first / product axes ≤ second / product axes :=
        Nat.div_le_div_right (Nat.le_of_lt before)
      rw [indicesAt, indicesAt, Nat.mod_eq_of_lt high,
        Nat.mod_eq_of_lt (Nat.lt_of_le_of_lt ordered high)]
      rcases Nat.lt_or_eq_of_le ordered with less | same
      · exact .rel less
      · -- The first wheel shows the same, so the later ones tell the positions apart.
        have apart : first % product axes < second % product axes := by
          have one := Nat.div_add_mod first (product axes)
          have two := Nat.div_add_mod second (product axes)
          rw [same] at one
          omega
        rw [same, ← indicesAt_mod axes first, ← indicesAt_mod axes second]
        exact .cons (ih apart (Nat.mod_lt _ positive))

private theorem indicesAt_inj {axes : List Axis} {first second : Nat} (one : first < product axes)
    (two : second < product axes) (same : indicesAt axes first = indicesAt axes second) :
    first = second := by
  have apart (indices : List Nat) : ¬ List.Lex (· < ·) indices indices :=
    List.lex_irrefl Nat.lt_irrefl indices
  rcases Nat.lt_trichotomy first second with before | equal | after
  · exact absurd (same ▸ lex_indicesAt before two) (apart _)
  · exact equal
  · exact absurd (same ▸ lex_indicesAt after one) (apart _)

/-! ## Values -/

/-- All ways to take one value from each axis, values listed twice taken twice. -/
def choices : List Axis → List (List Assignment)
  | [] => [[]]
  | axis :: axes =>
    axis.values.toList.flatMap fun value => (choices axes).map (⟨axis.name, value⟩ :: ·)

private theorem range_mul (rows columns : Nat) :
    List.range (rows * columns) =
      (List.range rows).flatMap fun row =>
        (List.range columns).map fun column => columns * row + column := by
  induction rows with
  | zero => simp
  | succ rows ih =>
      rw [Nat.add_one_mul, List.range_add, ih, List.range_succ, List.flatMap_append,
        List.flatMap_singleton, Nat.mul_comm rows]

private theorem toList_values (axis : Axis) :
    axis.values.toList = (List.range axis.size).map (axis.values.getD · "") := by
  refine List.ext_getElem (by simp [Axis.size]) fun i _ high => ?_
  have inside : i < axis.values.size := by simpa [Axis.size] using high
  simp [inside]

theorem map_assignmentsAt (axes : List Axis) :
    (List.range (product axes)).map (fun j => assignmentsAt axes (indicesAt axes j)) =
      choices axes := by
  induction axes with
  | nil => rfl
  | cons axis axes ih =>
      rw [product_cons, range_mul, List.map_flatMap, choices, ← ih, toList_values,
        List.flatMap_map]
      refine List.flatMap_congr fun row high => ?_
      rw [List.map_map, List.map_map]
      refine List.map_congr_left fun column low => ?_
      simp only [Function.comp_apply]
      rw [indicesAt_row (List.mem_range.1 high) (List.mem_range.1 low), assignmentsAt]

/-- The axes, in order, bound to the given values. -/
def assign : List Axis → List String → List Assignment :=
  List.zipWith fun axis value => ⟨axis.name, value⟩

private theorem count_map_cons (axis value other : String) (rest : List Assignment)
    (lists : List (List Assignment)) :
    (lists.map (⟨axis, other⟩ :: ·)).count (⟨axis, value⟩ :: rest) =
      if other = value then lists.count rest else 0 := by
  by_cases same : other = value
  · subst same
    rw [if_pos rfl]
    exact List.count_map_of_injective _ _ List.cons_injective _
  · rw [if_neg same, List.count_eq_zero]
    simp [same]

private theorem count_flatMap_cons (axis value : String) (rest : List Assignment)
    (others : List String) (lists : List (List Assignment)) :
    (others.flatMap fun other => lists.map (⟨axis, other⟩ :: ·)).count (⟨axis, value⟩ :: rest) =
      others.count value * lists.count rest := by
  induction others with
  | nil => simp
  | cons other others ih =>
      rw [List.flatMap_cons, List.count_append, ih, count_map_cons, List.count_cons]
      by_cases same : other = value <;> simp [same, Nat.add_mul, Nat.add_comm]

/-- Among the choices stand those with given values as often as the axes list these values
in all. -/
theorem count_choices {axes : List Axis} {values : List String}
    (h : values.length = axes.length) :
    (choices axes).count (assign axes values) =
      (List.zipWith (fun (axis : Axis) value => axis.values.toList.count value)
        axes values).prod := by
  induction axes generalizing values with
  | nil => simp [choices, assign]
  | cons axis axes ih =>
      cases values with
      | nil => simp at h
      | cons value values =>
          have rest := ih (by simpa using h)
          rw [List.zipWith_cons_cons, List.prod_cons, ← rest]
          exact count_flatMap_cons _ _ _ _ _

/-! ## Counts -/

/-- The axes before the first one without values. -/
def leading (axes : List Axis) : List Axis := axes.takeWhile fun axis => !axis.isEmpty

theorem leading_cons_of_isEmpty {axis : Axis} (empty : axis.isEmpty = true) (axes : List Axis) :
    leading (axis :: axes) = [] := by
  simp [leading, empty]

private theorem leading_cons_of_not_isEmpty {axis : Axis} (some : axis.isEmpty = false)
    (axes : List Axis) : leading (axis :: axes) = axis :: leading axes := by
  simp [leading, some]

theorem size_eq_zero {axis : Axis} : axis.size = 0 ↔ axis.isEmpty = true := by
  simp [Axis.size, Axis.isEmpty]

theorem product_pos_iff {axes : List Axis} :
    0 < product axes ↔ ∀ axis ∈ axes, axis.isEmpty = false := by
  rw [Nat.pos_iff_ne_zero, ne_eq, product_eq_zero, Bool.not_eq_true, List.any_eq_false]
  simp

theorem filled_of_mem_leading {axes : List Axis} :
    ∀ axis ∈ leading axes, axis.isEmpty = false := by
  intro axis mem
  simpa using List.mem_takeWhile_imp mem

/-- The running product leaves the words as soon as a product of leading axes does; from an
axis without values on it is zero. -/
theorem foldlM_boundedProduct (axes : List Axis) {start : Nat} (fits : start ≤ Span.maxWord) :
    axes.foldlM (fun count axis => boundedProduct count axis.size) start =
      if start * product (leading axes) ≤ Span.maxWord then some (start * product axes)
      else none := by
  induction axes generalizing start with
  | nil => simp [leading, fits]
  | cons axis axes ih =>
      rw [List.foldlM_cons, product_cons]
      cases empty : axis.isEmpty with
      | true =>
          have low : start * 0 ≤ Span.maxWord := Nat.zero_le _
          rw [boundedProduct, size_eq_zero.2 empty, if_pos low, Option.bind_eq_bind,
            Option.bind_some, ih low, leading_cons_of_isEmpty empty]
          simp [fits]
      | false =>
          rw [leading_cons_of_not_isEmpty empty, product_cons, ← Nat.mul_assoc, ← Nat.mul_assoc,
            boundedProduct]
          by_cases inside : start * axis.size ≤ Span.maxWord
          · rw [if_pos inside, Option.bind_eq_bind, Option.bind_some, ih inside]
          · -- The leading axes have a combination, so the product stays as large.
            have above := Nat.le_mul_of_pos_right (start * axis.size)
              (product_pos_iff.2 (@filled_of_mem_leading axes))
            rw [if_neg inside, if_neg (by omega), Option.bind_eq_bind, Option.bind_none]

theorem caseCount_eq (m : Matrix) :
    m.caseCount =
      if product (leading m.axes) ≤ Span.maxWord then some (product m.axes) else none := by
  rw [Matrix.caseCount, foldlM_boundedProduct m.axes (by decide), Nat.one_mul, Nat.one_mul]

theorem eq_product_of_caseCount {m : Matrix} {count : Nat} (h : m.caseCount = some count) :
    count = product m.axes := by
  rw [caseCount_eq] at h
  split at h
  · exact (Option.some.inj h).symm
  · cases h

/-! ## Size hints -/

theorem sizeHint_behind_expand_eq (m : Matrix) (calls : Nat) :
    (m.expand.behind calls).sizeHint =
      if product m.axes ≤ calls then (0, some 0)
      else match m.caseCount with
        | some total => (total - calls, some (total - calls))
        | none => (Span.maxWord, none) := by
  rw [behind_expand]
  by_cases spent : product m.axes ≤ calls
  · simp [sizeHint, reached, spent]
  · have within := Nat.min_eq_left (Nat.le_of_not_le spent)
    cases known : m.caseCount <;> simp [sizeHint, reached, within, spent, known]

private theorem sizeHint_behind_expand {m : Matrix} {count : Nat} (known : m.caseCount = some count)
    {calls : Nat} (within : calls ≤ count) :
    (m.expand.behind calls).sizeHint = (count - calls, some (count - calls)) := by
  obtain rfl := eq_product_of_caseCount known
  rw [sizeHint_behind_expand_eq, known]
  split
  · next spent => rw [Nat.le_antisymm within spent, Nat.sub_self]
  · rfl

private theorem yielded_le_total {m : Matrix} {calls total : Nat}
    (known : (m.expand.behind calls).total = some total) :
    (m.expand.behind calls).yielded ≤ total := by
  rw [behind_expand] at known ⊢
  obtain rfl := eq_product_of_caseCount known
  exact Nat.min_le_right _ _

/-! ## The whole enumeration -/

theorem isSome_next_behind_expand (m : Matrix) (calls : Nat) :
    (m.expand.behind calls).next.1.isSome = true ↔ calls < product m.axes := by
  by_cases inside : calls < product m.axes
  · simp [next_behind_expand m inside, inside]
  · simp [next_behind_expand_of_le m (Nat.le_of_not_lt inside), inside]

theorem eq_caseAt {m : Matrix} {calls : Nat} {c : TestCase}
    (h : (m.expand.behind calls).next.1 = some c) :
    calls < product m.axes ∧ c = caseAt m.axes calls := by
  have inside := (isSome_next_behind_expand m calls).1 (Option.isSome_of_mem h)
  rw [next_behind_expand m inside] at h
  exact ⟨inside, (Option.some.inj h).symm⟩

/-- The wheels show the combinations of indices that lie within the axes, and each of them
before exactly one of the calls that return a case. -/
theorem existsUnique_behind_expand (m : Matrix) (indices : List Nat) :
    Within m.axes indices ↔
      ∃! j, j < product m.axes ∧ (m.expand.behind j).indices = indices := by
  refine ⟨fun within => ⟨positionOf m.axes indices, ?_, ?_⟩, ?_⟩
  · have inside := positionOf_lt within
    exact ⟨inside, by rw [indices_behind_expand m inside, indicesAt_positionOf within]⟩
  · rintro j ⟨inside, shown⟩
    rw [indices_behind_expand m inside] at shown
    refine indicesAt_inj inside (positionOf_lt within) ?_
    rw [shown, indicesAt_positionOf within]
  · rintro ⟨j, ⟨inside, rfl⟩, -⟩
    rw [indices_behind_expand m inside]
    exact within_indicesAt (product_pos_of_lt inside) j

private theorem lex_behind_expand (m : Matrix) {first second : Nat} (before : first < second)
    (inside : second < product m.axes) :
    List.Lex (· < ·) (m.expand.behind first).indices (m.expand.behind second).indices := by
  rw [indices_behind_expand m (Nat.lt_trans before inside), indices_behind_expand m inside]
  exact lex_indicesAt before inside

private theorem next_behind_expand_eq (m : Matrix) (calls : Nat) :
    (m.expand.behind calls).next.1 = m.cases[calls]? := by
  rw [Matrix.cases_eq]
  by_cases inside : calls < product m.axes
  · simp [next_behind_expand m inside, inside]
  · have beyond := Nat.le_of_not_lt inside
    rw [next_behind_expand_of_le m beyond, eq_comm, List.getElem?_eq_none]
    simpa using beyond

private theorem count_cases (m : Matrix) {values : List String}
    (h : values.length = m.axes.length) :
    (m.cases.map TestCase.assignments).count (assign m.axes values) =
      (List.zipWith (fun (axis : Axis) value => axis.values.toList.count value)
        m.axes values).prod := by
  rw [← count_choices h, ← map_assignmentsAt, Matrix.cases_eq, List.map_map]
  rfl

/-- What the calls of `next` on a fresh expansion return and what its size hints say. -/
theorem expand_enumerates (m : Matrix) :
    -- A call returns a case exactly below the number of combinations, and the case of a call
    -- carries its number and the values at its digits.
    (∀ j, (m.expand.behind j).next.1.isSome = true ↔ j < (m.axes.map Axis.size).prod) ∧
    (∀ j c, (m.expand.behind j).next.1 = some c →
      c = ⟨j, assignmentsAt m.axes (m.expand.behind j).indices⟩ ∧
      c.assignments.length = m.axes.length ∧
      ∀ i axis, m.axes[i]? = some axis → ∃ value,
        axis.values[j / ((m.axes.drop (i + 1)).map Axis.size).prod % axis.size]? = some value ∧
        c.assignments[i]? = some ⟨axis.name, value⟩) ∧
    -- Every combination of indices appears once, in lexicographic order.
    (∀ indices, List.Forall₂ (fun (axis : Axis) index => index < axis.size) m.axes indices ↔
      ∃! j, j < (m.axes.map Axis.size).prod ∧ (m.expand.behind j).indices = indices) ∧
    (∀ j k, j < k → k < (m.axes.map Axis.size).prod →
      List.Lex (· < ·) (m.expand.behind j).indices (m.expand.behind k).indices) ∧
    -- The calls return the cases of the matrix, values listed twice taken twice.
    (∀ j, (m.expand.behind j).next.1 = m.cases[j]?) ∧
    (∀ values : List String, values.length = m.axes.length →
      (m.cases.map TestCase.assignments).count (assign m.axes values) =
        (List.zipWith (fun (axis : Axis) value => axis.values.toList.count value)
          m.axes values).prod) ∧
    -- No axes give one case, an axis without values none, and the end is final.
    (m.axes = [] → m.cases = [⟨0, []⟩]) ∧
    ((∃ axis ∈ m.axes, axis.size = 0) → ∀ j, (m.expand.behind j).next.1 = none) ∧
    (∀ e : Expansion, e.next.1 = none → ∀ calls, (e.behind calls).next.1 = none) ∧
    -- The hint is exact when the number of cases is known, and no total is ever passed.
    (∀ count, m.caseCount = some count → count = (m.axes.map Axis.size).prod ∧
      ∀ j ≤ count, (m.expand.behind j).sizeHint = (count - j, some (count - j))) ∧
    (∀ j total, (m.expand.behind j).total = some total →
      (m.expand.behind j).yielded ≤ total) := by
  simp only [← product_eq_prod]
  refine ⟨isSome_next_behind_expand m, ?_, existsUnique_behind_expand m,
    fun j k => lex_behind_expand m, next_behind_expand_eq m, fun values => count_cases m, ?_, ?_,
    fun e => next_behind_of_none, ?_, fun j total => yielded_le_total⟩
  · intro j c returned
    obtain ⟨inside, rfl⟩ := eq_caseAt returned
    refine ⟨?_, length_assignmentsAt (length_indicesAt m.axes j),
      fun i axis => getElem?_caseAt inside⟩
    rw [indices_behind_expand m inside, caseAt]
  · intro none
    rw [Matrix.cases_eq, none]
    rfl
  · rintro ⟨axis, mem, empty⟩ j
    have zero : product m.axes = 0 :=
      product_eq_zero.2 (List.any_eq_true.2 ⟨axis, mem, Array.isEmpty_iff_size_eq_zero.2 empty⟩)
    exact next_behind_expand_of_le m (zero ▸ Nat.zero_le j)
  · intro count known
    exact ⟨eq_product_of_caseCount known, fun j => sizeHint_behind_expand known⟩

end Expansion

end Interop
