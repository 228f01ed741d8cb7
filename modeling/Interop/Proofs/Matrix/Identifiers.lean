import Interop.Proofs.Matrix.Naming

/-!
# Cases told apart by their identifiers

An identifier spells the axes of a case with their values, and only the text that comes next
tells where a value ends.  A value that holds such a text takes over what another case of the same
matrix has in its next axis, so the two cases have one identifier.  Here it is said exactly when
that happens, and that it takes a point before an equals sign in a value in front of the last axis.
-/

namespace Interop

namespace TestCase

/-! ## Spelling assignments -/

def trail : List Assignment → String
  | [] => ""
  | a :: rest => "." ++ (a.axis ++ "=" ++ (a.value ++ trail rest))

private theorem toList_trail_cons (a : Assignment) (rest : List Assignment) :
    (trail (a :: rest)).toList =
      '.' :: (a.axis.toList ++ '=' :: (a.value ++ trail rest).toList) := by
  simp [trail]

private theorem trail_append (front rest : List Assignment) :
    trail (front ++ rest) = trail front ++ trail rest := by
  induction front with
  | nil => rw [List.nil_append, trail, String.empty_append]
  | cons a front ih => simp only [List.cons_append, trail, ih, String.append_assoc]

theorem trail_cons_inj {axis value other : String} {rest rest' : List Assignment} :
    trail (⟨axis, value⟩ :: rest) = trail (⟨axis, other⟩ :: rest') ↔
      value ++ trail rest = other ++ trail rest' := by
  simp only [trail, String.append_right_inj]

private theorem point_append_intercalate (a : Assignment) (rest : List Assignment) :
    "." ++ ".".intercalate ((a :: rest).map fun a => a.axis ++ "=" ++ a.value) =
      trail (a :: rest) := by
  induction rest generalizing a with
  | nil => simp [trail]
  | cons b rest ih =>
      have later := ih b
      rw [List.map_cons] at later
      rw [List.map_cons, List.map_cons, String.intercalate_cons_cons, String.append_assoc, later]
      simp only [trail, String.append_assoc]

private theorem id_eq_iff_trail {c d : TestCase}
    (even : c.assignments.length = d.assignments.length) :
    c.id = d.id ↔ trail c.assignments = trail d.assignments := by
  rw [id, id]
  cases front : c.assignments with
  | nil =>
      have none : d.assignments = [] := List.eq_nil_of_length_eq_zero (by rw [← even, front]; rfl)
      simp [none]
  | cons a rest =>
      obtain ⟨b, rest', back⟩ := List.exists_cons_of_length_pos
        (show 0 < d.assignments.length by rw [← even, front]; exact Nat.zero_lt_succ _)
      rw [back, ← point_append_intercalate, ← point_append_intercalate, String.append_right_inj]

/-! ## Boundaries that move -/

/-- Up to some axis the two agree.  There the second one has a longer value, and the text by which
it is longer is one with which the first one goes on behind that axis. -/
def Shifted (one other : List Assignment) : Prop :=
  ∃ front axis value moved rest rest',
    one = front ++ ⟨axis, value⟩ :: rest ∧ other = front ++ ⟨axis, value ++ moved⟩ :: rest' ∧
      moved ≠ "" ∧ trail rest = moved ++ trail rest'

namespace Shifted

variable {one other : List Assignment}

private theorem cons (a : Assignment) (shifted : Shifted one other) :
    Shifted (a :: one) (a :: other) := by
  obtain ⟨front, axis, value, moved, rest, rest', rfl, rfl, some, goes⟩ := shifted
  exact ⟨a :: front, axis, value, moved, rest, rest', rfl, rfl, some, goes⟩

private theorem trail_eq (shifted : Shifted one other) : trail one = trail other := by
  obtain ⟨front, axis, value, moved, rest, rest', rfl, rfl, -, goes⟩ := shifted
  rw [trail_append, trail_append, String.append_right_inj, trail_cons_inj, goes,
    String.append_assoc]

private theorem ne (shifted : Shifted one other) : one ≠ other := by
  obtain ⟨front, axis, value, moved, rest, rest', rfl, rfl, some, -⟩ := shifted
  intro same
  injection List.append_cancel_left same with first
  injection first with _ longer
  rw [← String.append_empty (s := value), String.append_assoc, String.append_right_inj,
    String.empty_append] at longer
  exact some longer.symm

end Shifted

private theorem append_eq_append {value other rest rest' : String}
    (same : value ++ rest = other ++ rest') :
    (∃ moved, other = value ++ moved ∧ rest = moved ++ rest') ∨
      ∃ moved, value = other ++ moved ∧ rest' = moved ++ rest := by
  have chars := congrArg String.toList same
  rw [String.toList_append, String.toList_append, List.append_eq_append_iff] at chars
  rcases chars with ⟨moved, longer, goes⟩ | ⟨moved, longer, goes⟩
  · refine .inl ⟨String.ofList moved, String.toList_inj.mp ?_, String.toList_inj.mp ?_⟩
    · rw [String.toList_append, String.toList_ofList, longer]
    · rw [String.toList_append, String.toList_ofList, goes]
  · refine .inr ⟨String.ofList moved, String.toList_inj.mp ?_, String.toList_inj.mp ?_⟩
    · rw [String.toList_append, String.toList_ofList, longer]
    · rw [String.toList_append, String.toList_ofList, goes]

private theorem trail_cons_cases {axis value other : String} {rest rest' : List Assignment}
    (same : trail (⟨axis, value⟩ :: rest) = trail (⟨axis, other⟩ :: rest')) :
    value = other ∧ trail rest = trail rest' ∨
      Shifted (⟨axis, value⟩ :: rest) (⟨axis, other⟩ :: rest') ∨
      Shifted (⟨axis, other⟩ :: rest') (⟨axis, value⟩ :: rest) := by
  rcases append_eq_append (trail_cons_inj.mp same) with
    ⟨moved, rfl, goes⟩ | ⟨moved, rfl, goes⟩
  · by_cases none : moved = ""
    · exact .inl (by simpa [none] using goes)
    · exact .inr (.inl ⟨[], axis, value, moved, rest, rest', rfl, rfl, none, goes⟩)
  · by_cases none : moved = ""
    · exact .inl (by simpa [none] using goes.symm)
    · exact .inr (.inr ⟨[], axis, other, moved, rest', rest, rfl, rfl, none, goes⟩)

private theorem trail_eq_iff {one other : List Assignment}
    (named : one.map Assignment.axis = other.map Assignment.axis) :
    trail one = trail other ↔ one = other ∨ Shifted one other ∨ Shifted other one := by
  refine ⟨fun same => ?_, ?_⟩
  · induction one generalizing other with
    | nil => exact .inl (List.map_eq_nil_iff.mp named.symm).symm
    | cons a one ih =>
        cases other with
        | nil => cases named
        | cons b other =>
            obtain ⟨axis, value⟩ := a
            obtain ⟨axis', value'⟩ := b
            obtain ⟨rfl, later⟩ : axis = axis' ∧ _ := List.cons.inj named
            rcases trail_cons_cases same with ⟨rfl, goes⟩ | shifted
            · exact (ih later goes).imp (congrArg _) (.imp (.cons _) (.cons _))
            · exact .inr shifted
  · rintro (rfl | shifted | shifted)
    · rfl
    · exact shifted.trail_eq
    · exact shifted.trail_eq.symm

/-! ## Values that hold no boundary -/

/-- No point stands in the text before an equals sign. -/
def Seamless (value : String) : Prop := ¬ ['.', '='].Sublist value.toList

instance (value : String) : Decidable (Seamless value) :=
  inferInstanceAs (Decidable (¬ ['.', '='].Sublist value.toList))

private theorem idxOf_append_cons_self (c : Char) (front rest : List Char) :
    (front ++ c :: rest).idxOf c = front.idxOf c := by
  rw [List.idxOf_append, List.idxOf_cons_self, Nat.zero_add]
  split
  · rfl
  · next free => exact (List.idxOf_eq_length free).symm

private theorem sublist_of_moved {axis value other : String} {rest rest' : List Assignment}
    {moved : String} (some : moved ≠ "")
    (goes : trail (⟨axis, value⟩ :: rest) = moved ++ trail (⟨axis, other⟩ :: rest')) :
    ['.', '='].Sublist moved.toList := by
  have chars := congrArg String.toList goes
  rw [String.toList_append, toList_trail_cons, toList_trail_cons] at chars
  dsimp only at chars
  cases split : moved.toList with
  | nil => exact absurd (String.toList_eq_nil_iff.mp split) some
  | cons c cs =>
      rw [split, List.cons_append, List.cons.injEq] at chars
      obtain ⟨rfl, chars⟩ := chars
      refine .cons_cons _ (List.singleton_sublist.mpr ?_)
      by_contra free
      -- Otherwise the first equals sign of both texts is in the name of the axis or behind it,
      -- but the name comes later in the second one.
      have first := congrArg (List.idxOf '=') chars
      rw [idxOf_append_cons_self, List.idxOf_append, if_neg free,
        List.idxOf_cons_ne _ (by decide), idxOf_append_cons_self] at first
      omega

private theorem Shifted.exists_value {one other : List Assignment}
    (named : one.map Assignment.axis = other.map Assignment.axis) (shifted : Shifted one other) :
    ∃ i a, i + 1 < other.length ∧ other[i]? = some a ∧ ¬ Seamless a.value := by
  obtain ⟨front, axis, value, moved, rest, rest', rfl, rfl, some, goes⟩ := shifted
  rw [List.map_append, List.map_append, List.append_cancel_left_eq] at named
  obtain ⟨-, named⟩ := List.cons.inj named
  cases rest with
  | nil =>
      rw [List.map_eq_nil_iff.mp named.symm] at goes
      exact absurd (by simpa [trail] using goes.symm) some
  | cons next rest =>
      cases rest' with
      | nil => cases named
      | cons next' rest' =>
          obtain ⟨name, value'⟩ := next
          obtain ⟨name', value''⟩ := next'
          obtain ⟨rfl, -⟩ : name = name' ∧ _ := List.cons.inj named
          refine ⟨front.length, ⟨axis, value ++ moved⟩, by simp, by simp, not_not.mpr ?_⟩
          rw [String.toList_append]
          exact (sublist_of_moved some goes).trans (List.sublist_append_right _ _)

/-! ## The same values -/

/-- The two cases have the same value for every axis. -/
def AgreeOn (axes : List Axis) (c d : TestCase) : Prop :=
  ∀ axis ∈ axes, c.get? axis.name = d.get? axis.name

private theorem assignments_eq_map {m : Matrix} (well : m.WellNamed) {c : TestCase}
    (names : c.assignments.map Assignment.axis = m.axes.map Axis.name) :
    c.assignments = m.axes.map fun axis => ⟨axis.name, (c.get? axis.name).getD ""⟩ := by
  have found : ∀ a ∈ c.assignments, (⟨a.axis, (c.get? a.axis).getD ""⟩ : Assignment) = a := by
    intro a mem
    rw [(get?_eq_some (names ▸ well.distinct)).mpr mem]
    rfl
  calc c.assignments
      = c.assignments.map fun a => ⟨a.axis, (c.get? a.axis).getD ""⟩ :=
        ((List.map_congr_left found).trans (List.map_id' _)).symm
    _ = (c.assignments.map Assignment.axis).map fun name => ⟨name, (c.get? name).getD ""⟩ := by
        rw [List.map_map]
        rfl
    _ = m.axes.map fun axis => ⟨axis.name, (c.get? axis.name).getD ""⟩ := by
        rw [names, List.map_map]
        rfl

private theorem agreeOn_iff {m : Matrix} (well : m.WellNamed) {c d : TestCase}
    (names : c.assignments.map Assignment.axis = m.axes.map Axis.name)
    (names' : d.assignments.map Assignment.axis = m.axes.map Axis.name) :
    AgreeOn m.axes c d ↔ c.assignments = d.assignments := by
  constructor
  · intro agree
    rw [assignments_eq_map well names, assignments_eq_map well names']
    refine List.map_congr_left fun axis declared => ?_
    rw [agree axis declared]
  · intro same axis _
    rw [get?, get?, same]

end TestCase

namespace Expansion

open TestCase (AgreeOn Seamless Shifted)
open Interop.Matrix (product)

private theorem seamless_of_caseAt {m : Matrix} {position i : Nat} {a : Assignment}
    (seamless : ∀ axis ∈ m.axes.dropLast, ∀ value ∈ axis.values, Seamless value)
    (inside : position < product m.axes)
    (early : i + 1 < (caseAt m.axes position).assignments.length)
    (assigned : (caseAt m.axes position).assignments[i]? = some a) : Seamless a.value := by
  rw [caseAt, length_assignmentsAt (length_indicesAt m.axes position)] at early
  have declared : m.axes[i]? = some m.axes[i] := List.getElem?_eq_getElem _
  obtain ⟨value, selected, assigned'⟩ := getElem?_caseAt inside declared
  obtain rfl := Option.some.inj (assigned.symm.trans assigned')
  have front : m.axes[i] ∈ m.axes.dropLast := by
    rw [← List.getElem_dropLast (by simpa using Nat.lt_sub_of_add_lt early)]
    exact List.getElem_mem _
  exact seamless _ front value (Array.mem_of_getElem? selected)

/-- When two cases of any matrix have the same identifier. -/
theorem id_eq_iff_of_attempts (axes : List Axis) :
    let m : Matrix := ((Matrix.attempts axes).run Matrix.empty).2
    ∀ j k c d, (m.expand.behind j).next.1 = some c → (m.expand.behind k).next.1 = some d →
      -- They have the same values, or at one axis a text moves from one value to the next.
      (c.id = d.id ↔ AgreeOn m.axes c d ∨
        Shifted c.assignments d.assignments ∨ Shifted d.assignments c.assignments) ∧
      (Shifted c.assignments d.assignments ∨ Shifted d.assignments c.assignments →
        ¬ AgreeOn m.axes c d) ∧
      -- No text moves if no value in front of the last axis has a point before an equals sign.
      ((∀ axis ∈ m.axes.dropLast, ∀ value ∈ axis.values, Seamless value) →
        (c.id = d.id ↔ AgreeOn m.axes c d)) := by
  intro m j k c d returned returned'
  have well : m.WellNamed := Matrix.wellNamed_empty.attempts axes
  obtain ⟨inside, rfl⟩ := eq_caseAt returned
  obtain ⟨inside', rfl⟩ := eq_caseAt returned'
  have names := map_axis_caseAt m.axes j
  have names' := map_axis_caseAt m.axes k
  have named := names.trans names'.symm
  have even : (caseAt m.axes j).assignments.length = (caseAt m.axes k).assignments.length := by
    simpa using congrArg List.length named
  have agree := TestCase.agreeOn_iff well names names'
  have exact : (caseAt m.axes j).id = (caseAt m.axes k).id ↔ _ :=
    (TestCase.id_eq_iff_trail even).trans (TestCase.trail_eq_iff named)
  rw [← agree] at exact
  refine ⟨exact, ?_, fun seamless => exact.trans (or_iff_left ?_)⟩
  · rw [agree]
    rintro (shifted | shifted)
    · exact shifted.ne
    · exact shifted.ne.symm
  · rintro (shifted | shifted)
    · obtain ⟨i, a, early, assigned, moves⟩ := shifted.exists_value named
      exact moves (seamless_of_caseAt seamless inside' early assigned)
    · obtain ⟨i, a, early, assigned, moves⟩ := shifted.exists_value named.symm
      exact moves (seamless_of_caseAt seamless inside early assigned)

/-- Two versions, of which one is a beginning of the other. -/
def releases : Matrix :=
  ((Matrix.attempts [⟨"server", #["2.16", "2.16.0"]⟩, ⟨"client", #["a=1", "dev"]⟩]).run
    Matrix.empty).2

theorem id_ne_of_releases :
    ∃ c d, (releases.expand.behind 1).next.1 = some c ∧
      (releases.expand.behind 3).next.1 = some d ∧
      (∀ axis ∈ releases.axes.dropLast, ∀ value ∈ axis.values, Seamless value) ∧
      c.get? "server" = some "2.16" ∧ d.get? "server" = some "2.16.0" ∧ c.id ≠ d.id := by
  let c : TestCase := ⟨1, [⟨"server", "2.16"⟩, ⟨"client", "dev"⟩]⟩
  let d : TestCase := ⟨3, [⟨"server", "2.16.0"⟩, ⟨"client", "dev"⟩]⟩
  have returned : (releases.expand.behind 1).next.1 = some c := by decide +kernel
  have returned' : (releases.expand.behind 3).next.1 = some d := by decide +kernel
  have seamless : ∀ axis ∈ releases.axes.dropLast, ∀ value ∈ axis.values, Seamless value := by
    decide +kernel
  refine ⟨c, d, returned, returned', seamless, by decide, by decide, fun same => ?_⟩
  have agree := ((id_eq_iff_of_attempts _ 1 3 c d returned returned').2.2 seamless).mp same
  have server : c.get? "server" = d.get? "server" :=
    agree ⟨"server", #["2.16", "2.16.0"]⟩ (by decide)
  revert server
  decide

/-- Two axes of which the first one has a value that holds the boundary between them. -/
def crossed : Matrix :=
  ((Matrix.attempts [⟨"a", #["1", "1.b=2"]⟩, ⟨"b", #["2.b=3", "3"]⟩]).run Matrix.empty).2

/-- Two cases with different values for both axes have one identifier. -/
theorem id_of_crossed :
    ∃ c d, (crossed.expand.behind 0).next.1 = some c ∧
      (crossed.expand.behind 3).next.1 = some d ∧
      c.get? "a" = some "1" ∧ c.get? "b" = some "2.b=3" ∧
      d.get? "a" = some "1.b=2" ∧ d.get? "b" = some "3" ∧
      c.id = "a=1.b=2.b=3" ∧ d.id = "a=1.b=2.b=3" :=
  ⟨⟨0, [⟨"a", "1"⟩, ⟨"b", "2.b=3"⟩]⟩, ⟨3, [⟨"a", "1.b=2"⟩, ⟨"b", "3"⟩]⟩, by decide +kernel⟩

end Expansion

end Interop
