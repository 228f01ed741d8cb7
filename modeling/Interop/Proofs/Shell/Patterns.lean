import Interop.Shell.Glob
import Mathlib.Data.List.Forall2

/-!
# What patterns fit

A pattern fits exactly the texts that can be cut into parts, one for each of its pieces, such that
every piece means its part.  A pattern of quoted characters fits nothing but itself.  What is cut
off at the beginning or the end of a text is the shortest or the longest part that fits.
-/

namespace Interop.Shell

def GlobPiece.Means : GlobPiece → List Char → Prop
  | .many, _ => True
  | .one, part => ∃ c, part = [c]
  | .char c, part => part = [c]
  | .bracket negated items, part =>
    ∃ c, part = [c] ∧ ((∃ item ∈ items, Glob.itemFits c item = true) ↔ negated = false)

namespace Glob

def Means (p : Glob) (text : List Char) : Prop :=
  ∃ parts, List.Forall₂ GlobPiece.Means p parts ∧ parts.flatten = text

variable {p : Glob} {piece : GlobPiece} {c : Char} {cs : List Char}

private theorem means_cons :
    Means (piece :: p) cs ↔ ∃ part rest, piece.Means part ∧ Means p rest ∧ part ++ rest = cs := by
  constructor
  · rintro ⟨_, matched, rfl⟩
    obtain ⟨part, parts, first, others, rfl⟩ := List.forall₂_cons_left_iff.mp matched
    exact ⟨part, parts.flatten, first, ⟨parts, others, rfl⟩, rfl⟩
  · rintro ⟨part, _, first, ⟨parts, others, rfl⟩, rfl⟩
    exact ⟨part :: parts, .cons first others, rfl⟩

private theorem means_nil : Means [] cs ↔ cs = [] := by
  constructor
  · rintro ⟨parts, matched, rfl⟩
    cases matched
    rfl
  · rintro rfl
    exact ⟨[], .nil, rfl⟩

private theorem fitsSomeRest_iff {fitsRest : List Char → Bool} :
    fitsSomeRest fitsRest cs = true ↔ ∃ front rest, front ++ rest = cs ∧ fitsRest rest = true := by
  induction cs with
  | nil => simp [fitsSomeRest]
  | cons c cs ih =>
      rw [fitsSomeRest, Bool.or_eq_true, ih]
      constructor
      · rintro (whole | ⟨front, rest, rfl, fits⟩)
        · exact ⟨[], c :: cs, rfl, whole⟩
        · exact ⟨c :: front, rest, rfl, fits⟩
      · rintro ⟨front, rest, same, fits⟩
        cases front with
        | nil => exact .inl (same ▸ fits)
        | cons d front =>
            cases same
            exact .inr ⟨front, rest, rfl, fits⟩

private theorem means_iff_pieceFits (single : piece ≠ .many) {part : List Char} :
    piece.Means part ↔ ∃ c, part = [c] ∧ pieceFits c piece = true := by
  cases piece with
  | many => exact absurd rfl single
  | one => simp [GlobPiece.Means, pieceFits]
  | char d => simp [GlobPiece.Means, pieceFits]
  | bracket negated items =>
      refine exists_congr fun c => and_congr_right fun _ => ?_
      rw [pieceFits, bne_iff_ne, ← List.any_eq_true]
      cases items.any (itemFits c) <;> cases negated <;> decide

private theorem fits_cons (single : piece ≠ .many) :
    fits (piece :: p) (c :: cs) = (pieceFits c piece && fits p cs) := by
  cases piece <;> first | exact absurd rfl single | rfl

theorem fits_iff_means : p.fits cs = true ↔ p.Means cs := by
  induction p generalizing cs with
  | nil => simp [fits, means_nil]
  | cons piece p ih =>
      rw [means_cons]
      by_cases star : piece = .many
      · subst star
        rw [fits, fitsSomeRest_iff]
        simp only [GlobPiece.Means, true_and, ih]
        exact ⟨fun ⟨front, rest, same, fits⟩ => ⟨front, rest, fits, same⟩,
          fun ⟨front, rest, fits, same⟩ => ⟨front, rest, same, fits⟩⟩
      · simp only [means_iff_pieceFits star]
        cases cs with
        | nil =>
            have none : fits (piece :: p) [] = false := by
              cases piece <;> first | exact absurd rfl star | rfl
            simp [none]
        | cons c cs =>
            rw [fits_cons star, Bool.and_eq_true, ih]
            constructor
            · rintro ⟨fit, rest⟩
              exact ⟨[c], cs, ⟨c, rfl, fit⟩, rest, rfl⟩
            · rintro ⟨_, rest, ⟨d, rfl, fit⟩, means, same⟩
              cases same
              exact ⟨fit, means⟩

/-! ## Quoted characters -/

private theorem piecesOf_quoted {gs : List Glyph} (quoted : ∀ g ∈ gs, g.quoted = true) {fuel : Nat}
    (enough : gs.length < fuel) : piecesOf fuel gs = gs.map fun g => .char g.char := by
  induction gs generalizing fuel with
  | nil => cases fuel <;> rfl
  | cons g gs ih =>
      obtain ⟨fuel, rfl⟩ := Nat.exists_eq_succ_of_ne_zero (Nat.ne_of_gt (Nat.zero_lt_of_lt enough))
      have bare (c : Char) : g.isBare c = false := by
        simp [Glyph.isBare, quoted g List.mem_cons_self]
      have rest := ih (fun g mem => quoted g (List.mem_cons_of_mem _ mem))
        (Nat.lt_of_succ_lt_succ enough)
      simp [piecesOf, bare, rest]

theorem fits_ofGlyphs_of_quoted {gs : List Glyph} (quoted : ∀ g ∈ gs, g.quoted = true) :
    (ofGlyphs gs).fits cs = true ↔ cs = gs.map Glyph.char := by
  rw [ofGlyphs, piecesOf_quoted quoted (Nat.lt_succ_self _)]
  induction gs generalizing cs with
  | nil => simp [fits]
  | cons g gs ih =>
      cases cs with
      | nil => simp [fits]
      | cons c cs =>
          simp [fits, pieceFits, @ih cs fun g mem => quoted g (List.mem_cons_of_mem _ mem)]

/-! ## Cutting off -/

private theorem best_of_find? {α : Type} {l : List α} {better : α → α → Prop} {holds : α → Bool}
    {best : α} (sorted : l.Pairwise better) (found : l.find? holds = some best) {other : α}
    (mem : other ∈ l) (also : holds other = true) : other = best ∨ better best other := by
  obtain ⟨-, before, after, rfl, none⟩ := List.find?_eq_some_iff_append.mp found
  rcases List.mem_append.mp mem with mem | mem
  · have refused := none other mem
    simp [also] at refused
  · rcases List.mem_cons.mp mem with rfl | mem
    · exact .inl rfl
    · exact .inr ((List.pairwise_cons.mp (List.pairwise_append.mp sorted).2.1).1 other mem)

def firstOf (downwards : Bool) (size : Nat) (holds : Nat → Bool) : Option Nat :=
  let all := List.range (size + 1)
  (if downwards then all.reverse else all).find? holds

variable {downwards : Bool} {size n : Nat} {holds : Nat → Bool}

private theorem mem_numbers {m : Nat} :
    m ∈ (if downwards then (List.range (size + 1)).reverse else List.range (size + 1)) ↔
      m ≤ size := by
  cases downwards <;> simp only [List.mem_reverse, List.mem_range, Nat.lt_succ_iff, reduceIte,
    Bool.false_eq_true]

private theorem firstOf_eq_some (found : firstOf downwards size holds = some n) :
    n ≤ size ∧ holds n = true ∧
      ∀ m ≤ size, holds m = true → if downwards then m ≤ n else n ≤ m := by
  refine ⟨mem_numbers.mp (List.mem_of_find?_eq_some found), List.find?_some found, ?_⟩
  intro m within also
  have mem : m ∈ (if downwards then _ else _) := mem_numbers.mpr within
  cases downwards with
  | false =>
      rcases best_of_find? List.pairwise_lt_range found mem also with rfl | less
      · exact Nat.le_refl _
      · exact Nat.le_of_lt less
  | true =>
      have sorted := List.pairwise_reverse.mpr (List.pairwise_lt_range (n := size + 1))
      rcases best_of_find? sorted found mem also with rfl | less
      · exact Nat.le_refl _
      · exact Nat.le_of_lt less

private theorem firstOf_eq_none (none : firstOf downwards size holds = none) {m : Nat}
    (within : m ≤ size) : holds m = false :=
  eq_false_of_ne_true (List.find?_eq_none.mp none m (mem_numbers.mpr within))

/-- A beginning that fits is cut off, the longest or the shortest one; without any, the text stays
as it is. -/
theorem dropLead_cases (p : Glob) (longest : Bool) (cs : List Char) :
    (∃ lead, lead ++ p.dropLead longest cs = cs ∧ p.Means lead ∧
      ∀ lead' rest, lead' ++ rest = cs → p.Means lead' →
        if longest then lead'.length ≤ lead.length else lead.length ≤ lead'.length) ∨
      p.dropLead longest cs = cs ∧ ∀ lead rest, lead ++ rest = cs → ¬p.Means lead := by
  have cut (lead rest : List Char) (same : lead ++ rest = cs) :
      lead.length ≤ cs.length ∧ cs.take lead.length = lead := by
    subst same
    simp
  have dropped : p.dropLead longest cs =
      (firstOf longest cs.length fun n => p.fits (cs.take n)).elim cs cs.drop := by
    unfold dropLead
    dsimp only
    split
    · next n found =>
        have first : firstOf longest cs.length (fun n => p.fits (cs.take n)) = some n := found
        rw [first, Option.elim_some]
    · next found =>
        have first : firstOf longest cs.length (fun n => p.fits (cs.take n)) = none := found
        rw [first, Option.elim_none]
  rw [dropped]
  cases found : firstOf longest cs.length fun n => p.fits (cs.take n) with
  | some n =>
      obtain ⟨within, fits, best⟩ := firstOf_eq_some found
      refine .inl ⟨cs.take n, List.take_append_drop n cs, fits_iff_means.mp fits, ?_⟩
      intro lead' rest same means
      obtain ⟨inside, taken⟩ := cut lead' rest same
      have compared := best lead'.length inside (by rw [taken]; exact fits_iff_means.mpr means)
      rwa [List.length_take_of_le within]
  | none =>
      refine .inr ⟨rfl, fun lead rest same means => ?_⟩
      obtain ⟨inside, taken⟩ := cut lead rest same
      have refused := firstOf_eq_none found inside
      rw [taken, fits_iff_means.mpr means] at refused
      cases refused

theorem dropEnd_cases (p : Glob) (longest : Bool) (cs : List Char) :
    (∃ tail, p.dropEnd longest cs ++ tail = cs ∧ p.Means tail ∧
      ∀ rest tail', rest ++ tail' = cs → p.Means tail' →
        if longest then tail'.length ≤ tail.length else tail.length ≤ tail'.length) ∨
      p.dropEnd longest cs = cs ∧ ∀ rest tail, rest ++ tail = cs → ¬p.Means tail := by
  have cut (rest tail : List Char) (same : rest ++ tail = cs) :
      rest.length ≤ cs.length ∧ cs.drop rest.length = tail ∧
        tail.length = cs.length - rest.length := by
    subst same
    simp
  have dropped : p.dropEnd longest cs =
      (firstOf (!longest) cs.length fun n => p.fits (cs.drop n)).elim cs cs.take := by
    have lengths : (if longest then List.range (cs.length + 1)
        else (List.range (cs.length + 1)).reverse) =
        if !longest then (List.range (cs.length + 1)).reverse else List.range (cs.length + 1) := by
      cases longest <;> rfl
    unfold dropEnd
    dsimp only
    rw [lengths]
    split
    · next n found =>
        have first : firstOf (!longest) cs.length (fun n => p.fits (cs.drop n)) = some n := found
        rw [first, Option.elim_some]
    · next found =>
        have first : firstOf (!longest) cs.length (fun n => p.fits (cs.drop n)) = none := found
        rw [first, Option.elim_none]
  rw [dropped]
  cases found : firstOf (!longest) cs.length fun n => p.fits (cs.drop n) with
  | some n =>
      obtain ⟨within, fits, best⟩ := firstOf_eq_some found
      refine .inl ⟨cs.drop n, List.take_append_drop n cs, fits_iff_means.mp fits, ?_⟩
      intro rest tail' same means
      obtain ⟨inside, taken, size⟩ := cut rest tail' same
      have compared := best rest.length inside (by rw [taken]; exact fits_iff_means.mpr means)
      rw [List.length_drop, size]
      cases longest <;> simp at compared ⊢ <;> omega
  | none =>
      refine .inr ⟨rfl, fun rest tail same means => ?_⟩
      obtain ⟨inside, taken, -⟩ := cut rest tail same
      have refused := firstOf_eq_none found inside
      rw [taken, fits_iff_means.mpr means] at refused
      cases refused

end Glob

end Interop.Shell
