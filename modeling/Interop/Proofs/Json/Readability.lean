import Interop.Json
import Mathlib.Data.List.Basic

/-!
# Pretty texts are uniquely readable

No two values have the same pretty text, as long as their numbers are natural numbers.  More
than that, the text of a value tells where it ends, so that whatever holds values one after
another tells them apart as well.
-/

namespace Interop.Json

/-! ## Strings -/

def hexValue (c : Char) : Nat := if c.isDigit then c.toNat - 48 else c.toNat - 87

def readChar? : List Char → Option (Char × List Char)
  | '\\' :: 'u' :: '0' :: '0' :: high :: low :: rest =>
    some (Char.ofNat (16 * hexValue high + hexValue low), rest)
  | '\\' :: 'b' :: rest => some ('\x08', rest)
  | '\\' :: 'f' :: rest => some ('\x0c', rest)
  | '\\' :: 'n' :: rest => some ('\n', rest)
  | '\\' :: 'r' :: rest => some ('\r', rest)
  | '\\' :: 't' :: rest => some ('\t', rest)
  | '\\' :: c :: rest => some (c, rest)
  | c :: rest => some (c, rest)
  | [] => none

private theorem hexValue_hexPair : ∀ n < 32,
    16 * hexValue (Nat.digitChar (n / 16)) + hexValue (Nat.digitChar (n % 16)) = n := by
  decide

private theorem readChar?_escapeChar (c : Char) (rest : List Char) :
    readChar? (escapeChar c ++ rest) = some (c, rest) := by
  unfold escapeChar
  split
  all_goals try rfl
  next _ quote slash _ _ _ _ _ =>
  split
  · next control =>
      have value := hexValue_hexPair c.toNat control
      simp only [hexPair, List.cons_append, List.nil_append, readChar?, value, Char.ofNat_toNat]
  · rw [List.singleton_append]
    unfold readChar?
    split <;> simp_all

private theorem escapeChar_inj {c d : Char} {rest rest' : List Char}
    (same : escapeChar c ++ rest = escapeChar d ++ rest') : c = d ∧ rest = rest' := by
  have read := congrArg readChar? same
  rw [readChar?_escapeChar, readChar?_escapeChar] at read
  simpa using read

private theorem escapeChar_ne_quote (c : Char) (rest rest' : List Char) :
    escapeChar c ++ rest ≠ '"' :: rest' := by
  unfold escapeChar
  split <;> simp_all
  split <;> simp_all

private theorem escaped_inj {cs ds rest rest' : List Char}
    (same : cs.flatMap escapeChar ++ '"' :: rest = ds.flatMap escapeChar ++ '"' :: rest') :
    cs = ds ∧ rest = rest' := by
  induction cs generalizing ds with
  | nil =>
      cases ds with
      | nil => exact ⟨rfl, List.tail_eq_of_cons_eq same⟩
      | cons d ds =>
          rw [List.flatMap_cons, List.append_assoc] at same
          exact absurd same.symm (escapeChar_ne_quote d _ _)
  | cons c cs ih =>
      cases ds with
      | nil =>
          rw [List.flatMap_cons, List.append_assoc] at same
          exact absurd same (escapeChar_ne_quote c _ _)
      | cons d ds =>
          rw [List.flatMap_cons, List.flatMap_cons, List.append_assoc, List.append_assoc] at same
          obtain ⟨rfl, tail⟩ := escapeChar_inj same
          obtain ⟨rfl, last⟩ := ih tail
          exact ⟨rfl, last⟩

theorem stringChars_inj {s t : String} {rest rest' : List Char}
    (same : stringChars s ++ rest = stringChars t ++ rest') : s = t ∧ rest = rest' := by
  simp only [stringChars, List.cons_append, List.append_assoc, List.nil_append,
    List.cons.injEq, true_and] at same
  obtain ⟨chars, same⟩ := escaped_inj same
  exact ⟨String.toList_injective chars, same⟩

/-! ## Numbers -/

/-- What may follow a number: something that does not go on with a digit. -/
def Ends (rest : List Char) : Prop := ∀ c ∈ rest.head?, c.isDigit = false

private theorem ends_cons {c : Char} {rest : List Char} (solid : c.isDigit = false) : Ends
    (c :: rest) := by
  intro d first
  cases first
  exact solid

theorem toList_text (n : Nat) : (toString n).toList = Nat.toDigits 10 n := by
  rw [Nat.toString_eq_repr, Nat.repr_eq_ofList_toDigits, String.toList_ofList]

theorem isDigit_of_mem_text {n : Nat} {c : Char} (mem : c ∈ (toString n).toList) :
    c.isDigit = true := by
  rw [toList_text] at mem
  exact Nat.isDigit_of_mem_toDigits (by decide) (by decide) mem

private theorem takeWhile_text {n : Nat} {rest : List Char} (ends : Ends rest) :
    ((toString n).toList ++ rest).takeWhile Char.isDigit = (toString n).toList := by
  rw [List.takeWhile_append_of_pos fun c => isDigit_of_mem_text]
  cases rest with
  | nil => simp
  | cons c rest => simp [ends c rfl]

private theorem text_inj {n m : Nat} {rest rest' : List Char} (ends : Ends rest)
    (ends' : Ends rest')
    (same : (toString n).toList ++ rest = (toString m).toList ++ rest') : n = m ∧ rest = rest' := by
  have digits := congrArg (List.takeWhile Char.isDigit) same
  rw [takeWhile_text ends, takeWhile_text ends'] at digits
  refine ⟨?_, ?_⟩
  · rw [toList_text, toList_text] at digits
    calc n = Nat.ofDigitChars 10 (Nat.toDigits 10 n) 0 := Nat.ofDigitChars_ten_toDigits.symm
      _ = Nat.ofDigitChars 10 (Nat.toDigits 10 m) 0 := by rw [digits]
      _ = m := Nat.ofDigitChars_ten_toDigits
  · rw [digits] at same
    exact List.append_cancel_left same

/-! ## Lists of entries -/

variable {α : Type}

def following (depth : Nat) (write : α → List Char) (entries : List α) : List Char :=
  entries.flatMap fun entry => ',' :: (lineBreak depth ++ write entry)

def block (opening closing : Char) (depth : Nat) (write : α → List Char) : List α → List Char
  | [] => [opening, closing]
  | entry :: entries =>
    opening :: (lineBreak (depth + 1) ++ write entry ++ following (depth + 1) write entries ++
      lineBreak depth ++ [closing])

def Separates (write : α → List Char) (a b : α) : Prop :=
  ∀ rest rest', Ends rest → Ends rest' → write a ++ rest = write b ++ rest' → a = b ∧ rest = rest'

theorem ends_following {depth : Nat} {write : α → List Char} (entries : List α)
    (rest : List Char) : Ends (following depth write entries ++ '\n' :: rest) := by
  cases entries with
  | nil => exact ends_cons rfl
  | cons entry entries => exact ends_cons rfl

private theorem following_inj {depth : Nat} {write : α → List Char} {as bs : List α}
    (separates : ∀ a ∈ as, ∀ b ∈ bs, Separates write a b) {rest rest' : List Char}
    (same : following depth write as ++ '\n' :: rest = following depth write bs ++ '\n' :: rest') :
    as = bs ∧ rest = rest' := by
  induction as generalizing bs with
  | nil =>
      cases bs with
      | nil => exact ⟨rfl, List.tail_eq_of_cons_eq same⟩
      | cons b bs => cases List.head_eq_of_cons_eq same
  | cons a as ih =>
      cases bs with
      | nil => cases List.head_eq_of_cons_eq same
      | cons b bs =>
          simp only [following, List.flatMap_cons, List.cons_append, List.append_assoc,
            List.cons.injEq, true_and, List.append_cancel_left_eq] at same
          obtain ⟨rfl, more⟩ := separates a List.mem_cons_self b List.mem_cons_self _ _
            (ends_following as _) (ends_following bs _) same
          obtain ⟨rfl, last⟩ := ih (fun c mem d mem' => separates c (List.mem_cons_of_mem _ mem) d
            (List.mem_cons_of_mem _ mem')) more
          exact ⟨rfl, last⟩

private theorem block_inj {opening closing : Char} {depth : Nat} {write : α → List Char}
    {as bs : List α}
    (visible : closing ≠ '\n') (separates : ∀ a ∈ as, ∀ b ∈ bs, Separates write a b)
    {rest rest' : List Char}
    (same : block opening closing depth write as ++ rest =
      block opening closing depth write bs ++ rest') : as = bs ∧ rest = rest' := by
  cases as with
  | nil =>
      cases bs with
      | nil => simpa [block] using same
      | cons b bs => simp [block, lineBreak, visible] at same
  | cons a as =>
      cases bs with
      | nil => simp [block, lineBreak, Ne.symm visible] at same
      | cons b bs =>
          have line : ∀ rest, lineBreak depth ++ rest =
            '\n' :: (List.replicate (2 * depth) ' ' ++ rest) := fun _ => rfl
          simp only [block, List.cons_append, List.append_assoc, List.cons.injEq, true_and,
            List.append_cancel_left_eq, List.nil_append, line] at same
          obtain ⟨rfl, more⟩ := separates a List.mem_cons_self b List.mem_cons_self _ _
            (ends_following as _) (ends_following bs _) same
          obtain ⟨rfl, last⟩ := following_inj (fun c mem d mem' =>
            separates c (List.mem_cons_of_mem _ mem) d (List.mem_cons_of_mem _ mem')) more
          refine ⟨rfl, ?_⟩
          simpa using last

/-! ## Values -/

def fieldChars (depth : Nat) (field : String × Json) : List Char :=
  stringChars field.1 ++ [':', ' '] ++ prettyChars depth field.2

private theorem prettyItems_eq (depth : Nat) (items : List Json) :
    prettyItems depth items = following depth (prettyChars depth) items := by
  induction items with
  | nil => simp [prettyItems, following]
  | cons item items ih => simp [prettyItems, following, ih]

private theorem prettyFields_eq (depth : Nat) (fields : List (String × Json)) :
    prettyFields depth fields = following depth (fieldChars depth) fields := by
  induction fields with
  | nil => simp [prettyFields, following]
  | cons field fields ih =>
      obtain ⟨key, value⟩ := field
      simp [prettyFields, following, fieldChars, ih]

private theorem prettyChars_arr (depth : Nat) (items : List Json) :
    prettyChars depth (.arr items) = block '[' ']' depth (prettyChars (depth + 1)) items := by
  cases items <;> simp [prettyChars, block, prettyItems_eq]

private theorem prettyChars_obj (depth : Nat) (fields : List (String × Json)) :
    prettyChars depth (.obj fields) =
      block '\x7b' '\x7d' depth (fieldChars (depth + 1)) fields := by
  cases fields <;> simp [prettyChars, block, prettyFields_eq, fieldChars]

inductive Plain : Json → Prop
  | null : Plain .null
  | bool (value : Bool) : Plain (.bool value)
  | nat (value : Nat) : Plain (.nat value)
  | str (text : String) : Plain (.str text)
  | arr {items : List Json} (plain : ∀ item ∈ items, Plain item) : Plain (.arr items)
  | obj {fields : List (String × Json)} (plain : ∀ field ∈ fields, Plain field.2) :
    Plain (.obj fields)

def kindOf (c : Char) : Nat :=
  if c.isDigit then 0
  else match c with
    | 'n' => 1
    | 't' | 'f' => 2
    | '"' => 3
    | '[' => 4
    | _ => 5

def kind : Json → Nat
  | .nat _ | .number _ => 0
  | .null => 1
  | .bool _ => 2
  | .str _ => 3
  | .arr _ => 4
  | .obj _ => 5

private theorem exists_head {v : Json} (plain : Plain v) (depth : Nat) :
    ∃ c rest, prettyChars depth v = c :: rest ∧ kindOf c = kind v := by
  cases plain with
  | null => exact ⟨_, _, rfl, rfl⟩
  | bool value => cases value <;> exact ⟨_, _, rfl, rfl⟩
  | nat n =>
      simp only [prettyChars]
      cases digits : (toString n).toList with
      | nil =>
          have filled : 0 < (Nat.toDigits 10 n).length := Nat.length_toDigits_pos
          rw [← toList_text, digits] at filled
          cases filled
      | cons c rest =>
          have digit := isDigit_of_mem_text (digits ▸ List.mem_cons_self)
          exact ⟨c, rest, rfl, by simp [kindOf, digit, kind]⟩
  | str text => exact ⟨_, _, rfl, rfl⟩
  | @arr items plain => cases items <;> exact ⟨_, _, rfl, rfl⟩
  | @obj fields plain => cases fields <;> exact ⟨_, _, rfl, rfl⟩

private theorem kind_eq {a b : Json} (plain : Plain a) (plain' : Plain b) {depth : Nat}
    {rest rest' : List Char} (same : prettyChars depth a ++ rest = prettyChars depth b ++ rest') :
    kind a = kind b := by
  obtain ⟨c, text, head, told⟩ := exists_head plain depth
  obtain ⟨d, text', head', told'⟩ := exists_head plain' depth
  rw [head, head'] at same
  rw [← told, ← told', List.head_eq_of_cons_eq same]

private theorem fieldChars_inj {f g : String × Json} {depth : Nat}
    (separates : Separates (prettyChars depth) f.2 g.2) : Separates (fieldChars depth) f g := by
  intro rest rest' ends ends' same
  obtain ⟨key, value⟩ := f
  obtain ⟨key', value'⟩ := g
  simp only [fieldChars, List.append_assoc] at same
  obtain ⟨rfl, more⟩ := stringChars_inj same
  obtain ⟨rfl, last⟩ := separates rest rest' ends ends' (List.append_cancel_left more)
  exact ⟨rfl, last⟩

/-- By induction on the first value; the depth changes on the way down. -/
theorem prettyChars_inj {a b : Json} (plain : Plain a) (plain' : Plain b) (depth : Nat) :
    Separates (prettyChars depth) a b := by
  induction plain generalizing b depth with
  | null =>
      intro rest rest' _ _ same
      have kinds := kind_eq .null plain' same
      cases plain' with
      | null => exact ⟨rfl, List.append_cancel_left same⟩
      | _ => cases kinds
  | bool value =>
      intro rest rest' _ _ same
      have kinds := kind_eq (.bool value) plain' same
      cases plain' with
      | bool value' =>
          cases value <;> cases value' <;> simp_all [prettyChars]
      | _ => cases kinds
  | nat n =>
      intro rest rest' ends ends' same
      have kinds := kind_eq (.nat n) plain' same
      cases plain' with
      | nat m =>
          obtain ⟨rfl, last⟩ := text_inj ends ends' (by simpa only [prettyChars] using same)
          exact ⟨rfl, last⟩
      | _ => cases kinds
  | str text =>
      intro rest rest' _ _ same
      have kinds := kind_eq (.str text) plain' same
      cases plain' with
      | str other =>
          obtain ⟨rfl, last⟩ := stringChars_inj (by simpa only [prettyChars] using same)
          exact ⟨rfl, last⟩
      | _ => cases kinds
  | @arr items plain ih =>
      intro rest rest' _ _ same
      have kinds := kind_eq (.arr plain) plain' same
      cases plain' with
      | @arr others plain' =>
          rw [prettyChars_arr, prettyChars_arr] at same
          obtain ⟨rfl, last⟩ := block_inj (by decide)
            (fun item mem other mem' => ih item mem (plain' other mem') (depth + 1)) same
          exact ⟨rfl, last⟩
      | _ => cases kinds
  | @obj fields plain ih =>
      intro rest rest' _ _ same
      have kinds := kind_eq (.obj plain) plain' same
      cases plain' with
      | @obj others plain' =>
          rw [prettyChars_obj, prettyChars_obj] at same
          obtain ⟨rfl, last⟩ := block_inj (by decide)
            (fun field mem other mem' =>
              fieldChars_inj (ih field mem (plain' other mem') (depth + 1))) same
          exact ⟨rfl, last⟩
      | _ => cases kinds

theorem pretty_inj {a b : Json} (plain : Plain a) (plain' : Plain b) :
    a.pretty = b.pretty ↔ a = b := by
  constructor
  · intro same
    have chars := String.ofList_injective same
    refine (prettyChars_inj plain plain' 0 [] [] ?_ ?_ (by rw [chars])).1
    · exact nofun
    · exact nofun
  · rintro rfl
    rfl

end Interop.Json
