import Interop.Text.Blank
import Mathlib.Data.List.DropRight

/-!
# Trimming

A text is what trimming takes from its beginning, what trimming leaves and what it takes from
the end.  Only blank characters are taken, and the rest neither begins nor ends with one.
-/

namespace Interop.Text

private theorem dropWhile_blank {cs : List Char} (first : ∀ c ∈ cs.head?, isBlank c = false) :
    cs.dropWhile isBlank = cs := by
  cases cs with
  | nil => rfl
  | cons c cs => simp [first c rfl]

private theorem trimChars_of_ends {cs : List Char} (first : ∀ c ∈ cs.head?, isBlank c = false)
    (last : ∀ c ∈ cs.getLast?, isBlank c = false) : trimChars cs = cs := by
  have reversed : ∀ c ∈ cs.reverse.head?, isBlank c = false := by simpa using last
  rw [trimChars, trimStart, dropWhile_blank first, trimEnd, dropWhile_blank reversed,
    List.reverse_reverse]

theorem trim_of_ends {s : String} (first : ∀ c ∈ s.toList.head?, isBlank c = false)
    (last : ∀ c ∈ s.toList.getLast?, isBlank c = false) : trim s = s := by
  rw [trim, trimChars_of_ends first last, String.ofList_toList]

theorem trim_of_solid {s : String} (solid : ∀ c ∈ s.toList, isBlank c = false) : trim s = s :=
  trim_of_ends (fun c mem => solid c (List.mem_of_head? mem))
    fun c mem => solid c (List.mem_of_getLast? mem)

/-! ## What goes and what stays -/

@[simp]
theorem toList_trim (s : String) : (trim s).toList = trimChars s.toList := String.toList_ofList

theorem exists_append_trimChars (cs : List Char) :
    ∃ before after, cs = before ++ trimChars cs ++ after ∧
      (∀ c ∈ before, isBlank c = true) ∧ ∀ c ∈ after, isBlank c = true := by
  refine ⟨cs.takeWhile isBlank, (trimStart cs).rtakeWhile isBlank, ?_,
    fun c mem => List.mem_takeWhile_imp mem, fun c mem => List.mem_rtakeWhile_imp mem⟩
  have rest : trimChars cs ++ (trimStart cs).rtakeWhile isBlank = trimStart cs :=
    List.rdropWhile_append_rtakeWhile
  rw [List.append_assoc, rest, trimStart, List.takeWhile_append_dropWhile]

theorem head?_trimChars {cs : List Char} : ∀ c ∈ (trimChars cs).head?, isBlank c = false := by
  intro c first
  obtain ⟨rest, whole⟩ : trimChars cs <+: trimStart cs := List.rdropWhile_prefix _ _
  have before : c ∈ (trimStart cs).head? := by
    rw [← whole, List.head?_append, Option.mem_def.1 first]
    rfl
  have stays := List.head?_dropWhile_not isBlank cs
  rw [← trimStart, Option.mem_def.1 before] at stays
  exact stays

theorem getLast?_trimChars {cs : List Char} :
    ∀ c ∈ (trimChars cs).getLast?, isBlank c = false := by
  intro c last
  obtain ⟨filled, rfl⟩ := List.mem_getLast?_eq_getLast last
  exact Bool.eq_false_iff.2 (List.rdropWhile_last_not isBlank (trimStart cs) filled)

private theorem trimChars_eq_nil {cs : List Char} :
    trimChars cs = [] ↔ ∀ c ∈ cs, isBlank c = true := by
  constructor
  · intro none
    obtain ⟨before, after, whole, left, right⟩ := exists_append_trimChars cs
    rw [none, List.append_nil] at whole
    intro c mem
    rw [whole] at mem
    exact (List.mem_append.1 mem).elim (left c) (right c)
  · intro blank
    have none : trimStart cs = [] := List.dropWhile_eq_nil_iff.2 blank
    rw [trimChars, none]
    rfl

theorem trim_eq_empty {s : String} : trim s = "" ↔ ∀ c ∈ s.toList, isBlank c = true := by
  rw [← trimChars_eq_nil, ← toList_trim, String.toList_eq_nil_iff]

end Interop.Text
