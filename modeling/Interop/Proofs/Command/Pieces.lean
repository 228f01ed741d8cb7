import Interop.Command.Template
import Mathlib.Data.List.Infix
import Mathlib.Data.List.Nodup

/-!
# Placeholders in a text

A text is read as a list of pieces: single characters, and the placeholders that rules have a
value for.  Placeholders begin and end with a brace and have none inside, so they never overlap,
and reading finds each of them.  Replacing one placeholder all over the text fills its pieces, as
long as it stands nowhere else in the text.
-/

namespace Interop.Command

/-- A placeholder that has a value. -/
structure Rule where
  name : String
  value : String
  deriving DecidableEq, Repr

namespace Rule

def pattern (r : Rule) : List Char := (placeholder r.name).toList

def Plain (r : Rule) : Prop := ∀ c ∈ r.name.toList, c ≠ '\x7b' ∧ c ≠ '\x7d'

theorem pattern_eq (r : Rule) : r.pattern = '\x7b' :: (r.name.toList ++ ['\x7d']) := by
  simp [pattern, placeholder]

theorem pattern_ne_nil (r : Rule) : r.pattern ≠ [] := by
  rw [pattern_eq]
  exact List.cons_ne_nil _ _

theorem length_pattern_pos (r : Rule) : 0 < r.pattern.length :=
  List.length_pos_of_ne_nil r.pattern_ne_nil

/-! ## Placeholders do not overlap -/

private theorem takeWhile_name {r : Rule} (plain : r.Plain) (rest : List Char) :
    (r.name.toList ++ '\x7d' :: rest).takeWhile (· != '\x7d') = r.name.toList := by
  rw [List.takeWhile_append_of_pos fun c mem => by simpa using (plain c mem).2]
  simp

private theorem name_eq_of_begins {r s : Rule} {text : List Char} (plain : r.Plain)
    (plain' : s.Plain)
    (here : r.pattern <+: text) (there : s.pattern <+: text) : r.name = s.name := by
  obtain ⟨rest, rfl⟩ := here
  obtain ⟨rest', same⟩ := there
  rw [pattern_eq, pattern_eq] at same
  simp only [List.cons_append, List.append_assoc, List.nil_append, List.cons.injEq,
    true_and] at same
  rw [← String.toList_inj, ← takeWhile_name plain rest, ← same, takeWhile_name plain' rest']

private theorem eq_nil_or_append_of_overlap {r s : Rule} {rest before after : List Char}
    (plain : r.Plain)
    (same : r.pattern ++ rest = before ++ s.pattern ++ after) :
    before = [] ∨ ∃ before', before = r.pattern ++ before' ∧
      rest = before' ++ s.pattern ++ after := by
  rw [List.append_assoc] at same
  rcases List.append_eq_append_iff.1 same with ⟨before', rfl, rest⟩ | ⟨inside, whole, begins⟩
  · exact .inr ⟨before', rfl, by rw [rest, List.append_assoc]⟩
  · cases before with
    | nil => exact .inl rfl
    | cons c before =>
        cases inside with
        | nil =>
            rw [List.append_nil] at whole
            refine .inr ⟨[], by rw [List.append_nil, whole], ?_⟩
            simp_all
        | cons d inside =>
            -- The brace that begins the second placeholder would be in the name of the first.
            have brace : d = '\x7b' := by
              simp only [pattern_eq, List.cons_append, List.cons.injEq] at begins
              exact begins.1.symm
            rw [pattern_eq, List.cons_append, List.cons.injEq] at whole
            have mem : d ∈ r.name.toList ++ ['\x7d'] := by simp [whole.2]
            rcases List.mem_append.1 mem with mem | mem
            · exact absurd brace (plain d mem).1
            · simp [brace] at mem

end Rule

/-! ## Pieces -/

inductive Piece
  | char (c : Char)
  | slot (rule : Rule)
  deriving DecidableEq, Repr

namespace Piece

def spelled : Piece → List Char
  | .char c => [c]
  | .slot rule => rule.pattern

def filledBy (done : List Rule) : Piece → List Char
  | .char c => [c]
  | .slot rule => if rule ∈ done then rule.value.toList else rule.pattern

def fill (rule : Rule) : Piece → List Piece
  | .char c => [.char c]
  | .slot other => if other = rule then rule.value.toList.map .char else [.slot other]

private theorem length_spelled_pos (p : Piece) : 0 < p.spelled.length := by
  cases p with
  | char c => exact Nat.one_pos
  | slot rule => exact rule.length_pattern_pos

end Piece

def spell (pieces : List Piece) : List Char := pieces.flatMap Piece.spelled

def fillAll (rule : Rule) (pieces : List Piece) : List Piece := pieces.flatMap (Piece.fill rule)

@[simp]
theorem spell_nil : spell [] = [] := rfl

@[simp]
theorem spell_cons (piece : Piece) (pieces : List Piece) :
    spell (piece :: pieces) = piece.spelled ++ spell pieces := rfl

@[simp]
theorem spell_append (pieces more : List Piece) :
    spell (pieces ++ more) = spell pieces ++ spell more := List.flatMap_append

@[simp]
theorem spell_map_char (cs : List Char) : spell (cs.map .char) = cs := by
  induction cs with
  | nil => rfl
  | cons c cs ih => rw [List.map_cons, spell_cons, ih, Piece.spelled, List.singleton_append]

/-! ## Replacing one placeholder -/

private theorem replaceFrom_length (pattern value front rest : List Char) :
    replaceFrom pattern value front.length (front ++ rest) = replaceFrom pattern value 0 rest := by
  induction front with
  | nil => rfl
  | cons c front ih =>
      rw [List.length_cons, List.cons_append, replaceFrom, if_pos (Nat.succ_pos _)]
      exact ih

private theorem replaceFrom_pattern {pattern : List Char} (filled : pattern ≠ [])
    (value rest : List Char) :
    replaceFrom pattern value 0 (pattern ++ rest) = value ++ replaceFrom pattern value 0 rest := by
  obtain ⟨c, cs, rfl⟩ := List.exists_cons_of_ne_nil filled
  have here : (c :: cs).isPrefixOf (c :: (cs ++ rest)) = true :=
    List.isPrefixOf_iff_prefix.2 (List.prefix_append (c :: cs) rest)
  rw [List.cons_append, replaceFrom, if_neg (Nat.lt_irrefl 0), if_pos here, List.length_cons,
    Nat.add_sub_cancel, replaceFrom_length]

private theorem replaceFrom_append {pattern front rest : List Char} (value : List Char)
    (none : ∀ before after, front ++ rest = before ++ pattern ++ after →
      front.length ≤ before.length) :
    replaceFrom pattern value 0 (front ++ rest) = front ++ replaceFrom pattern value 0 rest := by
  induction front with
  | nil => rfl
  | cons c front ih =>
      have apart : ¬ pattern.isPrefixOf (c :: (front ++ rest)) = true := by
        intro here
        obtain ⟨after, same⟩ := List.isPrefixOf_iff_prefix.1 here
        exact absurd (none [] after same.symm) (by simp)
      rw [List.cons_append, replaceFrom, if_neg (Nat.lt_irrefl 0), if_neg apart, ih,
        List.cons_append]
      intro before after same
      have := none (c :: before) after (by rw [List.cons_append, same]; rfl)
      simpa using this

def Owned (rule : Rule) (pieces : List Piece) : Prop :=
  ∀ before after, spell pieces = before ++ rule.pattern ++ after →
    ∃ front rest, pieces = front ++ .slot rule :: rest ∧ spell front = before

private theorem Owned.tail {rule : Rule} {piece : Piece} {pieces : List Piece}
    (owned : Owned rule (piece :: pieces)) : Owned rule pieces := by
  intro before after same
  obtain ⟨front, rest, split, spelled⟩ := owned (piece.spelled ++ before) after (by
    rw [spell_cons, same, List.append_assoc, List.append_assoc, List.append_assoc])
  cases front with
  | nil =>
      have filled := piece.length_spelled_pos
      simp only [spell_nil, List.nil_eq_append_iff] at spelled
      rw [spelled.1] at filled
      cases filled
  | cons other front =>
      obtain ⟨rfl, rfl⟩ := List.cons.inj split
      exact ⟨front, rest, rfl, List.append_cancel_left spelled⟩

private theorem Owned.length_le {rule : Rule} {piece : Piece} {pieces : List Piece}
    (owned : Owned rule (piece :: pieces)) (apart : piece ≠ .slot rule)
    {before after : List Char} (same : spell (piece :: pieces) = before ++ rule.pattern ++ after) :
    piece.spelled.length ≤ before.length := by
  obtain ⟨front, rest, split, rfl⟩ := owned before after same
  cases front with
  | nil => exact absurd (List.cons.inj split).1 apart
  | cons other front =>
      obtain ⟨rfl, rfl⟩ := List.cons.inj split
      simp

theorem replaceFrom_spell {rule : Rule} {pieces : List Piece} (owned : Owned rule pieces) :
    replaceFrom rule.pattern rule.value.toList 0 (spell pieces) =
      spell (fillAll rule pieces) := by
  induction pieces with
  | nil => rfl
  | cons piece pieces ih =>
      have rest := ih owned.tail
      by_cases own : piece = .slot rule
      · subst own
        rw [spell_cons, Piece.spelled, replaceFrom_pattern rule.pattern_ne_nil, rest]
        simp [fillAll, Piece.fill]
      · have copied : replaceFrom rule.pattern rule.value.toList 0 (piece.spelled ++ spell pieces) =
            piece.spelled ++ replaceFrom rule.pattern rule.value.toList 0 (spell pieces) :=
          replaceFrom_append _ fun before after same => owned.length_le own same
        rw [spell_cons, copied, rest]
        cases piece with
        | char c => simp [fillAll, Piece.fill]
        | slot other =>
            have apart : other ≠ rule := fun same => own (congrArg Piece.slot same)
            simp [fillAll, Piece.fill, apart]

/-! ## Reading -/

def readFrom (rules : List Rule) (skip : Nat) : List Char → List Piece
  | [] => []
  | c :: cs =>
    if skip > 0 then readFrom rules (skip - 1) cs
    else
      match rules.find? fun rule => rule.pattern.isPrefixOf (c :: cs) with
      | some rule => .slot rule :: readFrom rules (rule.pattern.length - 1) cs
      | none => .char c :: readFrom rules 0 cs

def read (rules : List Rule) (text : String) : List Piece := readFrom rules 0 text.toList

private theorem readFrom_length (rules : List Rule) (front rest : List Char) :
    readFrom rules front.length (front ++ rest) = readFrom rules 0 rest := by
  induction front with
  | nil => rfl
  | cons c front ih =>
      rw [List.length_cons, List.cons_append, readFrom, if_pos (Nat.succ_pos _)]
      exact ih

private theorem readFrom_cases (rules : List Rule) (c : Char) (cs : List Char) :
    (∃ rule ∈ rules, ∃ rest, c :: cs = rule.pattern ++ rest ∧
      readFrom rules 0 (c :: cs) = .slot rule :: readFrom rules 0 rest) ∨
    (∀ rule ∈ rules, ¬ rule.pattern <+: c :: cs) ∧
      readFrom rules 0 (c :: cs) = .char c :: readFrom rules 0 cs := by
  rw [readFrom, if_neg (Nat.lt_irrefl 0)]
  cases found : rules.find? fun rule => rule.pattern.isPrefixOf (c :: cs) with
  | some rule =>
      obtain ⟨rest, whole⟩ := List.isPrefixOf_iff_prefix.1
        (List.find?_some (p := fun rule : Rule => rule.pattern.isPrefixOf (c :: cs)) found)
      refine .inl ⟨rule, List.mem_of_find?_eq_some found, rest, whole.symm, ?_⟩
      have tail : cs = rule.pattern.tail ++ rest := by
        rw [← List.tail_append_of_ne_nil rule.pattern_ne_nil, whole, List.tail_cons]
      simp only
      rw [tail, ← List.length_tail, readFrom_length]
  | none =>
      refine .inr ⟨fun rule mem here => ?_, rfl⟩
      exact List.find?_eq_none.1 found rule mem (List.isPrefixOf_iff_prefix.2 here)

theorem readFrom_induction (rules : List Rule) {motive : List Char → Prop} (nil : motive [])
    (slot : ∀ rule ∈ rules, ∀ rest,
      readFrom rules 0 (rule.pattern ++ rest) = .slot rule :: readFrom rules 0 rest →
      motive rest → motive (rule.pattern ++ rest))
    (char : ∀ c cs, (∀ rule ∈ rules, ¬ rule.pattern <+: c :: cs) →
      readFrom rules 0 (c :: cs) = .char c :: readFrom rules 0 cs → motive cs → motive (c :: cs))
    (text : List Char) : motive text := by
  induction size : text.length using Nat.strong_induction_on generalizing text with
  | _ length ih =>
      cases text with
      | nil => exact nil
      | cons c cs =>
          rcases readFrom_cases rules c cs with ⟨rule, mem, rest, whole, pieces⟩ | ⟨none, pieces⟩
          · have shorter : rest.length < length := by
              have filled := rule.length_pattern_pos
              rw [whole, List.length_append] at size
              omega
            rw [whole] at pieces ⊢
            exact slot rule mem rest pieces (ih rest.length shorter rest rfl)
          · have shorter : cs.length < length := by
              rw [List.length_cons] at size
              omega
            exact char c cs none pieces (ih cs.length shorter cs rfl)

theorem spell_readFrom (rules : List Rule) (text : List Char) :
    spell (readFrom rules 0 text) = text := by
  induction text using readFrom_induction rules with
  | nil => rfl
  | slot rule mem rest pieces ih => rw [pieces, spell_cons, ih, Piece.spelled]
  | char c cs none pieces ih => rw [pieces, spell_cons, ih, Piece.spelled, List.singleton_append]

structure Proper (rules : List Rule) : Prop where
  plain : ∀ rule ∈ rules, rule.Plain
  distinct : (rules.map Rule.name).Nodup

private theorem Proper.eq_of_name {rules : List Rule} (proper : Proper rules) {r s : Rule}
    (mem : r ∈ rules)
    (mem' : s ∈ rules) (same : r.name = s.name) : r = s :=
  List.inj_on_of_nodup_map proper.distinct mem mem' same

theorem Proper.owned_readFrom {rules : List Rule} (proper : Proper rules) {rule : Rule}
    (mem : rule ∈ rules) (text : List Char) : Owned rule (readFrom rules 0 text) := by
  intro before after same
  rw [spell_readFrom] at same
  induction text using readFrom_induction rules generalizing before with
  | nil =>
      have := congrArg List.length same
      have filled := rule.length_pattern_pos
      simp only [List.length_nil, List.length_append] at this
      omega
  | slot other found rest pieces ih =>
      rcases Rule.eq_nil_or_append_of_overlap (proper.plain other found) same with
        rfl | ⟨before', rfl, behind⟩
      · have here : rule.pattern <+: other.pattern ++ rest := ⟨after, same.symm⟩
        have name := Rule.name_eq_of_begins (proper.plain rule mem) (proper.plain other found) here
          (List.prefix_append _ _)
        obtain rfl := proper.eq_of_name mem found name
        exact ⟨[], _, pieces, rfl⟩
      · obtain ⟨front, rest', split, spelled⟩ := ih before' behind
        refine ⟨.slot other :: front, rest', ?_, ?_⟩
        · rw [pieces, split, List.cons_append]
        · rw [spell_cons, spelled, Piece.spelled]
  | char c cs none pieces ih =>
      cases before with
      | nil => exact absurd ⟨after, same.symm⟩ (none rule mem)
      | cons d before =>
          obtain ⟨rfl, behind⟩ := List.cons.inj same
          obtain ⟨front, rest, split, spelled⟩ := ih before behind
          refine ⟨.char c :: front, rest, ?_, ?_⟩
          · rw [pieces, split, List.cons_append]
          · rw [spell_cons, spelled, Piece.spelled, List.singleton_append]

end Interop.Command
