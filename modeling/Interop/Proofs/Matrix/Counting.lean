import Interop.Proofs.Matrix.Naming

/-!
# How many cases there are

The number of cases is computed before there are any, as a running product of the lengths of the
axes, and from it the hints on how many are still to come.  Here both are compared with what the
calls of `next` return.  The number is right whenever it is given.  It is missing when the axes
before the first one without values have too many combinations, also for a matrix that has no
case at all.  A hint is right as long as it is taken from a number; without one its lower bound
does not go down, and is too high when the cases are about to end.
-/

namespace Interop

namespace Expansion

open Interop.Matrix (product)

/-! ## What is still to come -/

/-- Exactly the next `count` calls return a case. -/
def Yields (e : Expansion) (count : Nat) : Prop :=
  ∀ calls, (e.behind calls).next.1.isSome = true ↔ calls < count

private theorem Yields.unique {e : Expansion} {count other : Nat} (one : e.Yields count)
    (two : e.Yields other) : count = other := by
  have same (calls : Nat) : calls < count ↔ calls < other := (one calls).symm.trans (two calls)
  have below := same count
  have above := same other
  omega

private theorem behind_behind (e : Expansion) (calls more : Nat) :
    (e.behind calls).behind more = e.behind (calls + more) := by
  rw [behind, behind, behind, Nat.add_comm, Function.iterate_add_apply]

theorem yields_behind_expand (m : Matrix) (calls : Nat) :
    (m.expand.behind calls).Yields (product m.axes - calls) := by
  intro more
  rw [behind_behind, isSome_next_behind_expand]
  omega

private theorem yields_behind_expand_iff {m : Matrix} {calls count : Nat} :
    (m.expand.behind calls).Yields count ↔ count = product m.axes - calls := by
  constructor
  · exact fun other => other.unique (yields_behind_expand m calls)
  · rintro rfl
    exact yields_behind_expand m calls

theorem yields_expand (m : Matrix) : m.expand.Yields (product m.axes) :=
  yields_behind_expand m 0

private theorem length_choices (axes : List Axis) : (choices axes).length = product axes := by
  rw [← map_assignmentsAt, List.length_map, List.length_range]

/-! ## Axes in another order -/

theorem product_perm {axes axes' : List Axis} (same : axes.Perm axes') :
    product axes = product axes' := by
  rw [product_eq_prod, product_eq_prod, (same.map Axis.size).prod_eq]

private theorem product_le_of_sublist {axes axes' : List Axis} (sub : axes.Sublist axes')
    (filled : ∀ axis ∈ axes', axis.isEmpty = false) : product axes ≤ product axes' := by
  induction sub with
  | slnil => exact Nat.le_refl _
  | @cons axes axes' axis _ ih =>
      have some : 0 < axis.size := size_pos_of_mem (product_pos_iff.2 filled) List.mem_cons_self
      rw [product_cons]
      exact (ih fun axis mem => filled axis (List.mem_cons_of_mem _ mem)).trans
        (Nat.le_mul_of_pos_left _ some)
  | @cons_cons axes axes' axis _ ih =>
      rw [product_cons, product_cons]
      exact Nat.mul_le_mul_left _ (ih fun axis mem => filled axis (List.mem_cons_of_mem _ mem))

/-- The axes that have values. -/
def withValues (axes : List Axis) : List Axis := axes.filter fun axis => !axis.isEmpty

theorem filled_of_mem_withValues {axes : List Axis} :
    ∀ axis ∈ withValues axes, axis.isEmpty = false := by
  intro axis mem
  simpa using (List.mem_filter.1 mem).2

theorem leading_append {axes : List Axis} (filled : ∀ axis ∈ axes, axis.isEmpty = false)
    (rest : List Axis) : leading (axes ++ rest) = axes ++ leading rest :=
  List.takeWhile_append_of_pos fun axis mem => by simp [filled axis mem]

theorem leading_eq_self {axes : List Axis} (filled : ∀ axis ∈ axes, axis.isEmpty = false) :
    leading axes = axes := by
  simpa [leading] using leading_append filled []

private theorem product_leading_le (axes : List Axis) : product (leading axes) ≤ product
    (withValues axes) := by
  have sub : (leading axes).Sublist (withValues axes) := by
    have all : withValues (leading axes) = leading axes :=
      List.filter_eq_self.2 fun axis mem => by simp [filled_of_mem_leading axis mem]
    rw [← all]
    exact (List.takeWhile_sublist _).filter _
  exact product_le_of_sublist sub filled_of_mem_withValues

private theorem exists_leading_eq_withValues (axes : List Axis) :
    ∃ axes' : List Axis, axes'.Perm axes ∧ leading axes' = withValues axes := by
  refine ⟨withValues axes ++ axes.filter Axis.isEmpty, ?_, ?_⟩
  · simpa [withValues] using List.filter_append_perm (fun axis : Axis => !axis.isEmpty) axes
  · have none : leading (axes.filter Axis.isEmpty) = [] := by
      refine List.takeWhile_eq_nil_iff.2 fun inside => ?_
      simpa using (List.mem_filter.1 (List.get_mem _ ⟨0, inside⟩)).2
    rw [leading_append filled_of_mem_withValues, none, List.append_nil]

/-! ## The number of cases -/

theorem caseCount_eq_some {m : Matrix} {count : Nat} :
    m.caseCount = some count ↔
      product (leading m.axes) ≤ Span.maxWord ∧ count = product m.axes := by
  rw [caseCount_eq]
  split
  · next fits => simp [fits, eq_comm]
  · next above => simp [above]

theorem caseCount_eq_none {m : Matrix} :
    m.caseCount = none ↔ Span.maxWord < product (leading m.axes) := by
  rw [caseCount_eq]
  split
  · next fits => simpa using fits
  · next above => simpa using above

theorem product_eq_zero_of_mem {axes : List Axis} {axis : Axis} (mem : axis ∈ axes)
    (empty : axis.isEmpty = true) : product axes = 0 :=
  product_eq_zero.2 (List.any_eq_true.2 ⟨axis, mem, empty⟩)

private theorem yields_zero_of_mem {m : Matrix} {axis : Axis} (mem : axis ∈ m.axes)
    (empty : axis.isEmpty = true) : m.expand.Yields 0 := by
  have whole := yields_expand m
  rwa [product_eq_zero_of_mem mem empty] at whole

/-- In every order of the axes the number of cases, which is zero, is known, unless the axes with
values have too many combinations. -/
theorem caseCount_perm_eq_zero {m : Matrix} (none : product m.axes = 0) :
    (∀ m' : Matrix, m'.axes.Perm m.axes → m'.caseCount = some 0) ↔
      product (withValues m.axes) ≤ Span.maxWord := by
  constructor
  · intro known
    obtain ⟨axes, same, front⟩ := exists_leading_eq_withValues m.axes
    have fits := (caseCount_eq_some.1 (known ⟨axes⟩ same)).1
    rwa [front] at fits
  · intro fits m' same
    have within : product (withValues m'.axes) ≤ Span.maxWord := by
      rwa [withValues, product_perm (same.filter _)]
    exact caseCount_eq_some.2
      ⟨(product_leading_le m'.axes).trans within, by rw [product_perm same, none]⟩

/-- What the number of cases says about the full product, and when there is none. -/
theorem caseCount_counts (m : Matrix) :
    -- The calls of `next` return as many cases as there are choices of one value for each axis.
    m.expand.Yields (choices m.axes).length ∧
    (choices m.axes).length = (m.axes.map Axis.size).prod ∧
    -- A number is the right one, and it is missing exactly when the axes before the first one
    -- without values have too many combinations.
    (∀ count, m.caseCount = some count ↔
      count = (choices m.axes).length ∧ (choices (leading m.axes)).length ≤ Span.maxWord) ∧
    (m.caseCount = none ↔ Span.maxWord < (choices (leading m.axes)).length) ∧
    -- When every axis has values, only the number decides, and the order of the axes does not.
    ((∀ axis ∈ m.axes, axis.isEmpty = false) →
      (∀ count, m.caseCount = some count ↔
        count = (choices m.axes).length ∧ count ≤ Span.maxWord) ∧
      (m.caseCount = none ↔ Span.maxWord < (choices m.axes).length) ∧
      ∀ m' : Matrix, m'.axes.Perm m.axes → m'.caseCount = m.caseCount) ∧
    -- When an axis has none, there is no case, but in some order of the axes that is not known if
    -- the other axes have too many combinations.
    ((∃ axis ∈ m.axes, axis.isEmpty = true) →
      (choices m.axes).length = 0 ∧
      ((∀ m' : Matrix, m'.axes.Perm m.axes → m'.caseCount = some 0) ↔
        (choices (withValues m.axes)).length ≤ Span.maxWord)) := by
  simp only [length_choices]
  refine ⟨yields_expand m, product_eq_prod m.axes, fun count => ?_, caseCount_eq_none, ?_, ?_⟩
  · rw [caseCount_eq_some, and_comm]
  · intro filled
    have all := leading_eq_self filled
    refine ⟨fun count => ?_, ?_, fun m' same => ?_⟩
    · rw [caseCount_eq_some, all]
      constructor
      · rintro ⟨fits, rfl⟩
        exact ⟨rfl, fits⟩
      · rintro ⟨rfl, fits⟩
        exact ⟨fits, rfl⟩
    · rw [caseCount_eq_none, all]
    · have all' := leading_eq_self fun axis mem => filled axis (same.subset mem)
      rw [caseCount_eq, caseCount_eq, all, all', product_perm same]
  · rintro ⟨axis, mem, empty⟩
    have none := product_eq_zero_of_mem mem empty
    exact ⟨none, caseCount_perm_eq_zero none⟩

/-- An axis with the given number of values, each the name of its position. -/
def numbered (name : String) (size : Nat) : Axis := ⟨name, (Array.range size).map toString⟩

@[simp]
theorem size_numbered (name : String) (size : Nat) : (numbered name size).size = size := by
  simp [numbered, Axis.size]

@[simp]
theorem name_numbered (name : String) (size : Nat) : (numbered name size).name = name := rfl

private theorem product_map_numbered (names : List String) (size : Nat) :
    product (names.map (numbered · size)) = size ^ names.length := by
  induction names with
  | nil => rfl
  | cons name names ih =>
      rw [List.map_cons, product_cons, ih, size_numbered, List.length_cons, Nat.pow_succ']

/-- Axes with one combination more than a word can count. -/
def wide : List Axis := ["axis0", "axis1", "axis2", "axis3"].map (numbered · 65536)

theorem product_wide : product wide = Span.maxWord + 1 := product_map_numbered _ 65536

theorem filled_of_mem_wide : ∀ axis ∈ wide, axis.isEmpty = false :=
  product_pos_iff.1 (product_wide ▸ Nat.succ_pos _)

/-- Behind too many combinations an axis without values goes unnoticed, before them it does
not. -/
theorem caseCount_of_wide :
    (∃ m, Matrix.ofAxes (wide ++ [numbered "none" 0]) = .ok m ∧ m.expand.Yields 0 ∧
      m.caseCount = none) ∧
    ∃ m, Matrix.ofAxes (numbered "none" 0 :: wide) = .ok m ∧ m.expand.Yields 0 ∧
      m.caseCount = some 0 := by
  have empty : (numbered "none" 0).isEmpty = true := size_eq_zero.1 (size_numbered _ _)
  have behind : numbered "none" 0 ∈ wide ++ [numbered "none" 0] :=
    List.mem_append_right _ (List.mem_singleton_self _)
  have before : numbered "none" 0 ∈ numbered "none" 0 :: wide := List.mem_cons_self
  refine ⟨⟨⟨wide ++ [numbered "none" 0]⟩, Matrix.ofAxes_eq_ok.2 ⟨rfl, by decide, by decide⟩,
    yields_zero_of_mem behind empty, caseCount_eq_none.2 ?_⟩,
    ⟨numbered "none" 0 :: wide⟩, Matrix.ofAxes_eq_ok.2 ⟨rfl, by decide, by decide⟩,
    yields_zero_of_mem before empty,
    caseCount_eq_some.2 ⟨?_, (product_eq_zero_of_mem before empty).symm⟩⟩
  · rw [leading_append filled_of_mem_wide, leading_cons_of_isEmpty empty, List.append_nil,
      product_wide]
    exact Nat.lt_succ_self _
  · rw [leading_cons_of_isEmpty empty]
    decide

/-! ## Hints -/

/-- What a hint says about the number of cases still to come, behind any number of calls. -/
theorem sizeHint_bounds (m : Matrix) (calls : Nat) :
    ∃ rest, (∀ count, (m.expand.behind calls).Yields count ↔ count = rest) ∧
      -- An upper bound is the number itself.
      (∀ high, (m.expand.behind calls).sizeHint.2 = some high → high = rest) ∧
      -- The lower bound holds, unless the number of cases was not known and those still to come
      -- are fewer than the largest word, but not none.
      ((m.expand.behind calls).sizeHint.1 ≤ rest ↔
        (m.caseCount = none → rest = 0 ∨ Span.maxWord ≤ rest)) ∧
      -- The hint is exact when the number of cases was known, and at the end.
      ((∃ count, m.caseCount = some count) ∨ rest = 0 →
        (m.expand.behind calls).sizeHint = (rest, some rest)) ∧
      (m.caseCount = none → rest ≠ 0 →
        (m.expand.behind calls).sizeHint = (Span.maxWord, none) ∧
        Span.maxWord < calls + rest) := by
  refine ⟨product m.axes - calls, fun count => yields_behind_expand_iff, ?_⟩
  rw [sizeHint_behind_expand_eq]
  split
  · next spent =>
      have gone : product m.axes - calls = 0 := Nat.sub_eq_zero_of_le spent
      simp [gone]
  · next going =>
      cases known : m.caseCount with
      | some count =>
          obtain rfl := eq_product_of_caseCount known
          simp
      | none =>
          -- Cases to come mean that no axis is empty, so there are more than a word can count.
          have positive : 0 < product m.axes := by omega
          have many := caseCount_eq_none.1 known
          rw [leading_eq_self (product_pos_iff.1 positive)] at many
          have left : product m.axes - calls ≠ 0 := by omega
          refine ⟨nofun, ⟨fun low _ => .inr low, fun bound => (bound rfl).resolve_left left⟩,
            ?_, fun _ _ => ⟨rfl, by omega⟩⟩
          rintro (⟨count, unknown⟩ | gone)
          · cases unknown
          · exact absurd gone left

/-- Behind two calls there is one case less to come than the hint says at least. -/
theorem sizeHint_of_wide :
    ∃ m, Matrix.ofAxes wide = .ok m ∧ (m.expand.behind 2).sizeHint = (Span.maxWord, none) ∧
      (m.expand.behind 2).Yields (Span.maxWord - 1) := by
  have known : Matrix.caseCount ⟨wide⟩ = none := by
    rw [caseCount_eq_none, leading_eq_self filled_of_mem_wide, product_wide]
    exact Nat.lt_succ_self _
  refine ⟨⟨wide⟩, Matrix.ofAxes_eq_ok.2 ⟨rfl, by decide, by decide⟩, ?_, ?_⟩
  · rw [sizeHint_behind_expand_eq, product_wide, known]
    rfl
  · have rest := yields_behind_expand ⟨wide⟩ 2
    rwa [product_wide] at rest

end Expansion

end Interop
