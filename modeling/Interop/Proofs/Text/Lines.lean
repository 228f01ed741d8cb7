import Interop.Text.Blank
import Mathlib.Algebra.Ring.Nat
import Mathlib.Data.List.Count

/-!
# Lines

Texts that are written with a line feed behind each of them are read back as lines.  Each text
gives one line, and one more for every line feed that is in it; a carriage return at the end of a
line is lost.
-/

namespace Interop.Text

/-! ## Line feeds -/

@[irreducible]
def breaks (s : String) : Nat := s.toList.count '\n'

theorem breaks_eq_zero {s : String} : breaks s = 0 ↔ '\n' ∉ s.toList := by
  rw [breaks, List.count_eq_zero]

@[simp]
theorem breaks_append (s t : String) : breaks (s ++ t) = breaks s + breaks t := by
  simp only [breaks, String.toList_append, List.count_append]

@[simp]
theorem breaks_empty : breaks "" = 0 := breaks_eq_zero.2 (by simp)

theorem breaks_ofList {cs : List Char} : breaks (String.ofList cs) = cs.count '\n' := by
  rw [breaks, String.toList_ofList]

private theorem breaks_of_isDigit {s : String} (digits : ∀ c ∈ s.toList, c.isDigit = true) :
    breaks s = 0 := by
  rw [breaks_eq_zero]
  exact fun mem => absurd (digits _ mem) (by decide)

theorem breaks_toString (n : Nat) : breaks (toString n) = 0 := by
  refine breaks_of_isDigit fun c mem => ?_
  have digits : c ∈ Nat.toDigits 10 n := by simpa using mem
  exact Nat.isDigit_of_mem_toDigits (by decide) (by decide) digits

theorem breaks_intercalate {glue : String} (whole : breaks glue = 0) (parts : List String) :
    breaks (glue.intercalate parts) = (parts.map breaks).sum := by
  induction parts with
  | nil => exact breaks_empty
  | cons part parts ih =>
      cases parts with
      | nil => simp
      | cons other parts =>
          rw [String.intercalate_cons_cons, breaks_append, breaks_append, ih, whole]
          simp

/-! ## Pieces -/

theorem pieces_cons (c : Char) (cs : List Char) :
    pieces (c :: cs) = if c = '\n' then [] :: pieces cs else (pieces cs).modifyHead (c :: ·) := by
  have filled : pieces cs ≠ [] := by
    cases cs with
    | nil => exact List.cons_ne_nil _ _
    | cons d cs =>
        rw [pieces]
        split
        · exact List.cons_ne_nil _ _
        · split <;> exact List.cons_ne_nil _ _
  obtain ⟨piece, rest, split⟩ := List.exists_cons_of_ne_nil filled
  rw [pieces, split]
  rfl

theorem length_pieces (cs : List Char) : (pieces cs).length = cs.count '\n' + 1 := by
  induction cs with
  | nil => rfl
  | cons c cs ih =>
      rw [pieces_cons, List.count_cons]
      split
      · next feed => simp [feed, ih]
      · next other => simp [other, ih]

theorem pieces_ne_nil (cs : List Char) : pieces cs ≠ [] :=
  List.ne_nil_of_length_pos (length_pieces cs ▸ Nat.succ_pos _)

private theorem pieces_append_feed (front rest : List Char) :
    pieces (front ++ '\n' :: rest) = pieces front ++ pieces rest := by
  induction front with
  | nil => rw [List.nil_append, pieces_cons, if_pos rfl]; rfl
  | cons c front ih =>
      rw [List.cons_append, pieces_cons, pieces_cons, ih]
      split
      · rfl
      · obtain ⟨piece, more, split⟩ := List.exists_cons_of_ne_nil (pieces_ne_nil front)
        rw [split]
        rfl

theorem pieces_append {front : List Char} (whole : '\n' ∉ front) (rest : List Char) :
    pieces (front ++ rest) = (pieces rest).modifyHead (front ++ ·) := by
  induction front with
  | nil => exact (congrFun List.modifyHead_id _).symm
  | cons c front ih =>
      have apart : c ≠ '\n' := fun feed => whole (feed ▸ List.mem_cons_self)
      rw [List.cons_append, pieces_cons, if_neg apart,
        ih fun mem => whole (List.mem_cons_of_mem _ mem), List.modifyHead_modifyHead]
      rfl

private theorem pieces_of_not_mem {cs : List Char} (whole : '\n' ∉ cs) : pieces cs = [cs] := by
  have := pieces_append whole []
  rwa [List.append_nil, pieces, List.modifyHead_cons, List.append_nil] at this

private theorem not_mem_of_mem_pieces {cs piece : List Char}
    (mem : piece ∈ pieces cs) : '\n' ∉ piece := by
  induction cs generalizing piece with
  | nil => rw [List.mem_singleton.1 mem]; exact List.not_mem_nil
  | cons c cs ih =>
      rw [pieces_cons] at mem
      split at mem
      · rcases List.mem_cons.1 mem with rfl | mem
        · exact List.not_mem_nil
        · exact ih mem
      · next other =>
          obtain ⟨first, rest, split⟩ := List.exists_cons_of_ne_nil (pieces_ne_nil cs)
          rw [split, List.modifyHead_cons] at mem
          rw [split] at ih
          rcases List.mem_cons.1 mem with rfl | mem
          · simpa [Ne.symm other] using ih List.mem_cons_self
          · exact ih (List.mem_cons_of_mem _ mem)

/-! ## Carriage returns -/

private theorem dropReturn_prefix (line : List Char) : dropReturn line <+: line := by
  rw [dropReturn]
  split
  · next rest reversed =>
      have whole := congrArg List.reverse reversed
      rw [List.reverse_reverse, List.reverse_cons] at whole
      exact ⟨['\r'], whole.symm⟩
  · exact List.prefix_refl _

/-- A carriage return goes only from the end. -/
theorem dropReturn_append (front : List Char) {rest : List Char} (filled : rest ≠ []) :
    dropReturn (front ++ rest) = front ++ dropReturn rest := by
  obtain ⟨last, others, reversed⟩ :=
    List.exists_cons_of_ne_nil (fun none => filled (List.reverse_eq_nil_iff.1 none))
  rw [dropReturn, dropReturn, List.reverse_append, reversed, List.cons_append]
  have whole : rest = others.reverse ++ [last] := by
    rw [← List.reverse_cons, ← reversed, List.reverse_reverse]
  by_cases ends : last = '\r'
  · subst ends
    simp
  · split
    · next same => exact absurd (List.cons.inj same).1 ends
    · split
      · next same => exact absurd (List.cons.inj same).1 ends
      · rfl

/-- A line as it is read back. -/
def withoutReturn (s : String) : String := String.ofList (dropReturn s.toList)

/-! ## Lines -/

private theorem mem_linesOfPieces {ps : List (List Char)} {line : List Char}
    (mem : line ∈ linesOfPieces ps) : ∃ piece ∈ ps, line <+: piece := by
  induction ps with
  | nil => cases mem
  | cons piece ps ih =>
      cases ps with
      | nil =>
          rw [linesOfPieces] at mem
          split at mem
          · cases mem
          · exact ⟨piece, List.mem_cons_self, List.mem_singleton.1 mem ▸ List.prefix_refl _⟩
      | cons other ps =>
          rcases List.mem_cons.1 mem with rfl | mem
          · exact ⟨piece, List.mem_cons_self, dropReturn_prefix piece⟩
          · obtain ⟨piece', mem', start⟩ := ih mem
            exact ⟨piece', List.mem_cons_of_mem _ mem', start⟩

private theorem breaks_of_mem_lines {s line : String} (mem : line ∈ lines s) : breaks line = 0 := by
  obtain ⟨cs, found, rfl⟩ := List.mem_map.1 mem
  obtain ⟨piece, mem, start⟩ := mem_linesOfPieces found
  rw [breaks_ofList, List.count_eq_zero]
  exact fun feed => not_mem_of_mem_pieces mem (start.subset feed)

@[simp]
theorem breaks_firstLine (s : String) : breaks (firstLine s) = 0 := by
  rw [firstLine]
  cases split : lines s with
  | nil => exact breaks_empty
  | cons line rest => exact breaks_of_mem_lines (split ▸ List.mem_cons_self)

private theorem linesOfPieces_concat (ps : List (List Char)) :
    linesOfPieces (ps ++ [[]]) = ps.map dropReturn := by
  induction ps with
  | nil => rfl
  | cons piece ps ih =>
      have filled : ps ++ [[]] ≠ [] :=
        List.append_ne_nil_of_right_ne_nil ps (List.cons_ne_nil [] [])
      obtain ⟨other, rest, split⟩ := List.exists_cons_of_ne_nil filled
      rw [List.cons_append, List.map_cons, ← ih, split]
      rfl

def linesWithin (s : String) : List String :=
  (pieces s.toList).map fun piece => String.ofList (dropReturn piece)

theorem length_linesWithin (s : String) : (linesWithin s).length = breaks s + 1 := by
  rw [linesWithin, List.length_map, length_pieces, breaks]

theorem linesWithin_of_breaks {s : String} (whole : breaks s = 0) :
    linesWithin s = [withoutReturn s] := by
  rw [linesWithin, pieces_of_not_mem (breaks_eq_zero.1 whole)]
  rfl

theorem linesWithin_blank {s : String} (whole : breaks s = 0) (t : String) :
    ∃ first rest, linesWithin (s ++ " " ++ t) = first :: rest ∧ s.toList <+: first.toList := by
  have behind : pieces (' ' :: t.toList) = (pieces t.toList).modifyHead (' ' :: ·) := by
    rw [pieces_cons, if_neg (by decide)]
  obtain ⟨piece, more, split⟩ := List.exists_cons_of_ne_nil (pieces_ne_nil t.toList)
  refine ⟨String.ofList (dropReturn (s.toList ++ ' ' :: piece)),
    more.map fun piece => String.ofList (dropReturn piece), ?_, ?_⟩
  · rw [linesWithin, String.append_assoc, String.toList_append,
      pieces_append (breaks_eq_zero.1 whole), String.toList_append]
    change List.map _ (List.modifyHead _ (pieces (' ' :: t.toList))) = _
    rw [behind, split]
    rfl
  · rw [String.toList_ofList, dropReturn_append _ (List.cons_ne_nil _ _)]
    exact List.prefix_append _ _

theorem lines_join (texts : List String) :
    lines (String.join (texts.map (· ++ "\n"))) = texts.flatMap linesWithin := by
  have split : pieces (String.join (texts.map (· ++ "\n"))).toList =
      texts.flatMap (fun text => pieces text.toList) ++ [[]] := by
    rw [String.toList_join, List.flatMap_map]
    induction texts with
    | nil => rfl
    | cons text texts ih =>
        rw [List.flatMap_cons, List.flatMap_cons, List.append_assoc, ← ih, String.toList_append,
          List.append_assoc]
        exact pieces_append_feed _ _
  rw [lines, split, linesOfPieces_concat, List.map_map, List.map_flatMap]
  rfl

end Interop.Text
