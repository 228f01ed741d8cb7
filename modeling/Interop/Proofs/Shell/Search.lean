import Interop.Shell.Regex

/-!
# What searches find

An expression leads from one place of a line to others.  Where it does not refer back to its groups
the ends that are tried for a beginning are exactly the places to which it leads, and repetitions
that do not get on are left out without loss.  A search finds the first beginning from which an end
can be reached, with the farthest of its ends.
-/

namespace Interop.Shell.Regex

def Chain (leads : Nat → Nat → Prop) : Nat → Nat → Nat → Prop
  | 0, i, j => i = j
  | n + 1, i, j => ∃ k, leads i k ∧ Chain leads n k j

def Names (line : Line) (items : List BracketItem) (c : Char) : Prop :=
  ∃ d, (d = c ∨ line.ignoreCase = true ∧ (d = c.toLower ∨ d = c.toUpper)) ∧
    ∃ item ∈ items, Glob.itemFits d item = true

def Leads (line : Line) : Regex → Nat → Nat → Prop
  | .empty, i, j => j = i
  | .any, i, j => i < line.chars.size ∧ j = i + 1
  | .char c, i, j =>
    ∃ d, line.chars[i]? = some d ∧ sameChar line.ignoreCase c d = true ∧ j = i + 1
  | .bracket negated items, i, j =>
    ∃ c, line.chars[i]? = some c ∧ (Names line items c ↔ negated = false) ∧ j = i + 1
  | .lineStart, i, j => i = 0 ∧ j = i
  | .lineEnd, i, j => i = line.chars.size ∧ j = i
  | .sequence a b, i, j => ∃ k, a.Leads line i k ∧ b.Leads line k j
  | .choice a b, i, j => a.Leads line i j ∨ b.Leads line i j
  | .times a low high, i, j =>
    ∃ n, low ≤ n ∧ (∀ most ∈ high, n ≤ most) ∧ Chain (a.Leads line) n i j
  | .group _ a, i, j => a.Leads line i j
  | .back _, _, _ => False

def Plain : Regex → Prop
  | .sequence a b | .choice a b => a.Plain ∧ b.Plain
  | .times a _ _ | .group _ a => a.Plain
  | .back _ => False
  | .empty | .any | .char _ | .bracket _ _ | .lineStart | .lineEnd => True

variable {line : Line} {e : Regex} {i j : Nat}

/-! ## Places -/

private theorem lt_of_getElem? {c : Char} (found : line.chars[i]? = some c) :
    i < line.chars.size :=
  (Array.getElem?_eq_some_iff.mp found).1

private theorem within_of_chain {leads : Nat → Nat → Prop} {size : Nat}
    (within : ∀ i j, i ≤ size → leads i j → i ≤ j ∧ j ≤ size) {n : Nat} (inside : i ≤ size)
    (chain : Chain leads n i j) : i ≤ j ∧ j ≤ size := by
  induction n generalizing i with
  | zero =>
      cases chain
      exact ⟨Nat.le_refl _, inside⟩
  | succ n ih =>
      obtain ⟨k, first, rest⟩ := chain
      obtain ⟨forward, inside⟩ := within i k inside first
      obtain ⟨onward, inside⟩ := ih inside rest
      exact ⟨Nat.le_trans forward onward, inside⟩

private theorem Leads.within (leads : e.Leads line i j) (inside : i ≤ line.chars.size) :
    i ≤ j ∧ j ≤ line.chars.size := by
  induction e generalizing i j with
  | empty =>
      cases leads
      exact ⟨Nat.le_refl _, inside⟩
  | any =>
      obtain ⟨less, rfl⟩ := leads
      exact ⟨Nat.le_succ _, less⟩
  | char c =>
      obtain ⟨d, found, -, rfl⟩ := leads
      exact ⟨Nat.le_succ _, lt_of_getElem? found⟩
  | bracket negated items =>
      obtain ⟨c, found, -, rfl⟩ := leads
      exact ⟨Nat.le_succ _, lt_of_getElem? found⟩
  | lineStart | lineEnd =>
      obtain ⟨-, rfl⟩ := leads
      exact ⟨Nat.le_refl _, inside⟩
  | sequence a b first second =>
      obtain ⟨k, one, two⟩ := leads
      obtain ⟨forward, inside⟩ := first one inside
      obtain ⟨onward, inside⟩ := second two inside
      exact ⟨Nat.le_trans forward onward, inside⟩
  | choice a b first second =>
      rcases leads with leads | leads
      · exact first leads inside
      · exact second leads inside
  | times a low high ih =>
      obtain ⟨n, -, -, chain⟩ := leads
      exact within_of_chain (fun i j inside leads => ih leads inside) inside chain
  | group number a ih => exact ih leads inside
  | back number => exact leads.elim

/-! ## Repetitions -/

section Repetitions

variable {step : Nat × Captures → List (Nat × Captures)} {leads : Nat → Nat → Prop} {size : Nat}

private theorem mem_iterate {fuel low : Nat} {high : Option Nat} {state next : Nat × Captures} :
    next ∈ iterate step (fuel + 1) low high state ↔
      (high ≠ some 0 ∧ ∃ middle ∈ step state, ¬(middle.1 = state.1 ∧ low = 0) ∧
        next ∈ iterate step fuel (low - 1) (high.map (· - 1)) middle) ∨ low = 0 ∧ next = state := by
  have more : next ∈ (if high == some 0 then [] else (step state).flatMap fun next =>
      if next.1 == state.1 && low == 0 then []
      else iterate step fuel (low - 1) (high.map (· - 1)) next) ↔
      high ≠ some 0 ∧ ∃ middle ∈ step state, ¬(middle.1 = state.1 ∧ low = 0) ∧
        next ∈ iterate step fuel (low - 1) (high.map (· - 1)) middle := by
    by_cases none : high = some 0
    · simp [none]
    · rw [if_neg (by simpa using none), List.mem_flatMap, and_iff_right none]
      refine exists_congr fun middle => and_congr_right fun _ => ?_
      by_cases still : middle.1 = state.1 ∧ low = 0
      · simp [still]
      · rw [if_neg (by simpa using still), and_iff_right still]
  rw [iterate]
  by_cases done : low = 0
  · rw [if_pos (beq_iff_eq.mpr done), List.mem_append, List.mem_singleton, more, and_iff_right done]
  · rw [if_neg (by simpa using done), more, or_iff_left fun both => done both.1]

private theorem mem_iterate_iff (within : ∀ i j, i ≤ size → leads i j → i ≤ j ∧ j ≤ size)
    (steps : ∀ i caps j, i ≤ size → ((∃ caps', (j, caps') ∈ step (i, caps)) ↔ leads i j))
    {fuel low : Nat} {high : Option Nat} {caps : Captures} (inside : i ≤ size)
    (enough : low + (size - i) < fuel) :
    (∃ caps', (j, caps') ∈ iterate step fuel low high (i, caps)) ↔
      ∃ n, low ≤ n ∧ (∀ most ∈ high, n ≤ most) ∧ Chain leads n i j := by
  induction fuel generalizing i low high caps with
  | zero => omega
  | succ fuel ih =>
      constructor
      · rintro ⟨caps', mem⟩
        rcases mem_iterate.mp mem with ⟨some_left, ⟨k, caps⟩, first, gets, mem⟩ | ⟨rfl, same⟩
        · have forward := (steps i _ k inside).mp ⟨caps, first⟩
          obtain ⟨less, inside'⟩ := within i k inside forward
          obtain ⟨n, least, most, chain⟩ := (ih inside' (by omega)).mp ⟨caps', mem⟩
          refine ⟨n + 1, by omega, ?_, k, forward, chain⟩
          rintro bound rfl
          have pos : bound ≠ 0 := fun zero => some_left (congrArg some zero)
          have fewer := most (bound - 1) rfl
          omega
        · cases same
          exact ⟨0, Nat.le_refl _, fun _ _ => Nat.zero_le _, rfl⟩
      · rintro ⟨n, least, most, chain⟩
        induction n with
        | zero =>
            cases chain
            exact ⟨caps, mem_iterate.mpr (.inr ⟨by omega, rfl⟩)⟩
        | succ n shorter =>
            obtain ⟨k, forward, chain⟩ := chain
            by_cases still : k = i ∧ low = 0
            · obtain ⟨rfl, rfl⟩ := still
              exact shorter (Nat.zero_le _)
                (fun bound given => Nat.le_of_succ_le (most bound given))
                chain
            · obtain ⟨caps', first⟩ := (steps i caps k inside).mpr forward
              obtain ⟨less, inside'⟩ := within i k inside forward
              have fewer : ∀ bound ∈ high.map (· - 1), n ≤ bound := by
                intro bound given
                obtain ⟨more, inHigh, rfl⟩ := Option.map_eq_some_iff.mp given
                exact Nat.le_sub_one_of_lt (most more inHigh)
              obtain ⟨last, mem⟩ := (@ih k (low - 1) (high.map (· - 1)) caps' inside'
                (by omega)).mpr ⟨n, by omega, fewer, chain⟩
              refine ⟨last, mem_iterate.mpr (.inl ⟨?_, _, first, still, mem⟩)⟩
              rintro rfl
              exact absurd (most 0 rfl) (by omega)

end Repetitions

/-! ## Ends -/

private theorem any_iff_names {items : List BracketItem} {c : Char} :
    (items.any (Glob.itemFits c) || (line.ignoreCase &&
      (items.any (Glob.itemFits c.toLower) || items.any (Glob.itemFits c.toUpper)))) = true ↔
      Names line items c := by
  simp only [Names, Bool.or_eq_true, Bool.and_eq_true, List.any_eq_true]
  constructor
  · rintro (fits | ⟨ignore, fits | fits⟩)
    · exact ⟨c, .inl rfl, fits⟩
    · exact ⟨c.toLower, .inr ⟨ignore, .inl rfl⟩, fits⟩
    · exact ⟨c.toUpper, .inr ⟨ignore, .inr rfl⟩, fits⟩
  · rintro ⟨d, rfl | ⟨ignore, rfl | rfl⟩, fits⟩
    · exact .inl fits
    · exact .inr ⟨ignore, .inl fits⟩
    · exact .inr ⟨ignore, .inr fits⟩

/-- Repetitions lead at most as far as the line goes, which is what bounds their number. -/
theorem mem_ends_iff (plain : e.Plain) (inside : i ≤ line.chars.size) (caps : Captures) :
    (∃ caps', (j, caps') ∈ ends line e (i, caps)) ↔ e.Leads line i j := by
  induction e generalizing i j caps with
  | empty => simp [ends, Leads]
  | any => by_cases less : i < line.chars.size <;> simp [ends, Leads, less]
  | char c =>
      simp only [ends, Leads]
      cases found : line.chars[i]? with
      | none => simp
      | some d => by_cases same : sameChar line.ignoreCase c d = true <;> simp [same]
  | bracket negated items =>
      simp only [ends, Leads]
      cases found : line.chars[i]? with
      | none => simp
      | some d =>
          have named : (items.any (Glob.itemFits d) || (line.ignoreCase &&
              (items.any (Glob.itemFits d.toLower) || items.any (Glob.itemFits d.toUpper)))) =
              true ↔ Names line items d := any_iff_names
          by_cases names : Names line items d
          · cases negated <;> simp [named.mpr names, names]
          · cases negated <;> simp [Bool.eq_false_iff.mpr (mt named.mp names), names]
  | lineStart => by_cases zero : i = 0 <;> simp [ends, Leads, zero]
  | lineEnd => by_cases last : i = line.chars.size <;> simp [ends, Leads, last]
  | sequence a b first second =>
      simp only [ends, List.mem_flatMap, Leads, Prod.exists]
      constructor
      · rintro ⟨caps', k, middle, one, two⟩
        have forward := (first plain.1 inside caps).mp ⟨middle, one⟩
        exact ⟨k, forward, (second plain.2 (forward.within inside).2 middle).mp ⟨caps', two⟩⟩
      · rintro ⟨k, forward, onward⟩
        obtain ⟨middle, one⟩ := (first plain.1 inside caps).mpr forward
        obtain ⟨caps', two⟩ := (second plain.2 (forward.within inside).2 middle).mpr onward
        exact ⟨caps', k, middle, one, two⟩
  | choice a b first second =>
      simp only [ends, List.mem_append, exists_or, Leads, first plain.1 inside caps,
        second plain.2 inside caps]
  | times a low high ih =>
      exact mem_iterate_iff (fun i j inside leads => leads.within inside)
        (fun i caps j inside => ih plain inside caps) inside (by omega)
  | group number a ih =>
      rw [Leads, ← ih plain inside caps]
      simp only [ends, List.mem_map, Prod.mk.injEq, Prod.exists]
      constructor
      · rintro ⟨-, stop, inner, mem, rfl, -⟩
        exact ⟨inner, mem⟩
      · rintro ⟨inner, mem⟩
        exact ⟨_, j, inner, mem, rfl, rfl⟩
  | back number => exact plain.elim

/-! ## Searches -/

private def better (best : Option (Nat × Captures)) (next : Nat × Captures) :
    Option (Nat × Captures) :=
  match best with
  | some b => if b.1 < next.1 then some next else best
  | none => some next

private theorem foldl_better {found : List (Nat × Captures)} {b : Nat × Captures} :
    ∃ last, found.foldl better (some b) = some last ∧ (last = b ∨ last ∈ found) ∧ b.1 ≤ last.1 ∧
      ∀ other ∈ found, other.1 ≤ last.1 := by
  induction found generalizing b with
  | nil => exact ⟨b, rfl, .inl rfl, Nat.le_refl _, by simp⟩
  | cons next found ih =>
      by_cases less : b.1 < next.1
      · obtain ⟨last, eq, source, above, most⟩ := @ih next
        refine ⟨last, by rw [List.foldl_cons, better, if_pos less, eq], ?_, by omega, ?_⟩
        · exact .inr (source.elim (· ▸ List.mem_cons_self) (List.mem_cons_of_mem _))
        · exact List.forall_mem_cons.mpr ⟨above, most⟩
      · obtain ⟨last, eq, source, above, most⟩ := @ih b
        refine ⟨last, by rw [List.foldl_cons, better, if_neg less, eq],
          source.imp_right (List.mem_cons_of_mem _), above, ?_⟩
        exact List.forall_mem_cons.mpr ⟨by omega, most⟩

private theorem longest_eq_foldl (found : List (Nat × Captures)) :
    longest found = found.foldl better none := rfl

private theorem longest_eq_none {found : List (Nat × Captures)} :
    longest found = none ↔ found = [] := by
  cases found with
  | nil => simp [longest]
  | cons next found =>
      obtain ⟨last, eq, -⟩ := @foldl_better found next
      have eq : longest (next :: found) = some last := eq
      simp [eq]

private theorem longest_eq_some {found : List (Nat × Captures)} {last : Nat × Captures}
    (eq : longest found = some last) : last ∈ found ∧ ∀ other ∈ found, other.1 ≤ last.1 := by
  cases found with
  | nil => cases eq
  | cons next found =>
      obtain ⟨last', eq', source, above, most⟩ := @foldl_better found next
      obtain rfl : last' = last := Option.some.inj (eq'.symm.trans eq)
      refine ⟨source.elim (· ▸ List.mem_cons_self) (List.mem_cons_of_mem _), ?_⟩
      exact List.forall_mem_cons.mpr ⟨above, most⟩

private theorem matchAt?_eq_none {place : Nat} (plain : e.Plain)
    (inside : place ≤ line.chars.size) :
    e.matchAt? line place = none ↔ ∀ stop, ¬e.Leads line place stop := by
  rw [matchAt?, longest_eq_none, List.eq_nil_iff_forall_not_mem]
  constructor
  · intro nothing stop leads
    obtain ⟨caps, mem⟩ := (mem_ends_iff plain inside []).mpr leads
    exact nothing _ mem
  · rintro nowhere ⟨stop, caps⟩ mem
    exact nowhere stop ((mem_ends_iff plain inside []).mp ⟨caps, mem⟩)

private theorem findSome?_range {α : Type} {f : Nat → Option α} {n : Nat} {a : α}
    (found : (List.range n).findSome? f = some a) :
    ∃ i, i < n ∧ f i = some a ∧ ∀ j, j < i → f j = none := by
  obtain ⟨front, i, back, split, eq, before⟩ := List.findSome?_eq_some_iff.mp found
  have length := congrArg List.length split
  rw [List.length_range, List.length_append, List.length_cons] at length
  have get : ∀ j, j < n → (front ++ i :: back)[j]? = some j := by
    intro j less
    rw [← split, List.getElem?_range less]
  obtain rfl : i = front.length := by
    simpa using get front.length (by omega)
  refine ⟨_, by omega, eq, fun j less => before j ?_⟩
  have atJ := get j (by omega)
  rw [List.getElem?_append_left less] at atJ
  exact List.mem_of_getElem? atJ

/-- A search finds the first place from which the expression leads anywhere, and the farthest place
to which it leads from there. -/
theorem search?_eq_some {start place stop : Nat} {caps : Captures} (plain : e.Plain)
    (found : e.search? line start = some (place, stop, caps)) :
    start ≤ place ∧ place ≤ line.chars.size ∧ e.Leads line place stop ∧
      (∀ other, e.Leads line place other → other ≤ stop) ∧
      ∀ earlier, start ≤ earlier → earlier < place → ∀ other, ¬e.Leads line earlier other := by
  rw [search?, List.findSome?_map] at found
  obtain ⟨offset, less, here, before⟩ := findSome?_range found
  simp only [Function.comp_apply] at here before
  obtain ⟨⟨stop', caps'⟩, longest, same⟩ := Option.map_eq_some_iff.mp here
  cases same
  obtain ⟨mem, farthest⟩ := longest_eq_some longest
  have inside : offset + start ≤ line.chars.size := by omega
  refine ⟨by omega, inside, (mem_ends_iff plain inside []).mp ⟨_, mem⟩, ?_, ?_⟩
  · intro other leads
    obtain ⟨caps, mem⟩ := (mem_ends_iff plain inside []).mpr leads
    exact farthest _ mem
  · intro earlier after sooner
    have nothing := Option.map_eq_none_iff.mp (before (earlier - start) (by omega))
    rw [Nat.sub_add_cancel after] at nothing
    exact (matchAt?_eq_none plain (by omega)).mp nothing

theorem search?_eq_none {start : Nat} (plain : e.Plain) :
    e.search? line start = none ↔
      ∀ place, start ≤ place → place ≤ line.chars.size → ∀ stop, ¬e.Leads line place stop := by
  simp only [search?, List.findSome?_eq_none_iff, List.mem_map, List.mem_range,
    Option.map_eq_none_iff, forall_exists_index, and_imp, forall_apply_eq_imp_iff₂]
  constructor
  · intro nothing place after inside
    have here := nothing (place - start) (by omega)
    rw [Nat.sub_add_cancel after] at here
    exact (matchAt?_eq_none plain inside).mp here
  · intro nowhere offset less
    exact (matchAt?_eq_none plain (by omega)).mpr (nowhere _ (by omega) (by omega))

end Interop.Shell.Regex
