import Interop.Proofs.Command.Pieces
import Mathlib.Data.List.Pairwise

/-!
# Rendering templates

Rendering replaces the placeholders that have values one after another, and each replacement sees
what the ones before it have put into the text.  One pass over the template, which replaces all of
them and looks at no value again, gives the same as long as no placeholder arises from a value
before its turn comes.  That is so for every template when no value can overlap with a placeholder
that is replaced later, and then the order does not matter.
-/

namespace Interop.Command

/-! ## Together and in turn -/

/-- Replaces the placeholders of all rules in one pass from left to right.  `skip` characters
belong to a placeholder that is already replaced. -/
def replaceTogetherFrom (rules : List Rule) (skip : Nat) : List Char → List Char
  | [] => []
  | c :: cs =>
    if skip > 0 then replaceTogetherFrom rules (skip - 1) cs
    else
      match rules.find? fun rule => rule.pattern.isPrefixOf (c :: cs) with
      | some rule =>
        rule.value.toList ++ replaceTogetherFrom rules (rule.pattern.length - 1) cs
      | none => c :: replaceTogetherFrom rules 0 cs

def replaceTogether (rules : List Rule) (text : String) : String :=
  String.ofList (replaceTogetherFrom rules 0 text.toList)

def replaceInTurn (order : List Rule) (text : String) : String :=
  order.foldl (fun text rule => replaceAll (placeholder rule.name) rule.value text) text

private theorem toList_replaceInTurn (order : List Rule) (text : String) :
    (replaceInTurn order text).toList =
      order.foldl (fun cs rule => replaceFrom rule.pattern rule.value.toList 0 cs) text.toList := by
  induction order generalizing text with
  | nil => rfl
  | cons rule order ih =>
      rw [replaceInTurn, List.foldl_cons, ← replaceInTurn, ih, replaceAll, String.toList_ofList]
      rfl

private theorem replaceTogetherFrom_eq (rules : List Rule) (skip : Nat) (text : List Char) :
    replaceTogetherFrom rules skip text =
      (readFrom rules skip text).flatMap (Piece.filledBy rules) := by
  induction text generalizing skip with
  | nil => rfl
  | cons c cs ih =>
      rw [replaceTogetherFrom, readFrom]
      split
      · exact ih _
      · cases found : rules.find? fun rule => rule.pattern.isPrefixOf (c :: cs) with
        | some rule =>
            simp only [List.flatMap_cons]
            rw [ih, Piece.filledBy, if_pos (List.mem_of_find?_eq_some found)]
        | none =>
            simp only [List.flatMap_cons]
            rw [ih, Piece.filledBy, List.singleton_append]

/-! ## Placeholders of the template only -/

/-- Each placeholder, when its turn comes, stands only where it stood from the beginning. -/
def Undisturbed : List Rule → List Piece → Prop
  | [], _ => True
  | rule :: order, pieces => Owned rule pieces ∧ Undisturbed order (fillAll rule pieces)

private theorem flatMap_filledBy_fill (rule : Rule) (order : List Rule) (piece : Piece) :
    (piece.fill rule).flatMap (Piece.filledBy order) = piece.filledBy (rule :: order) := by
  cases piece with
  | char c => rfl
  | slot other =>
      by_cases same : other = rule
      · have copied (cs : List Char) :
            (cs.map Piece.char).flatMap (Piece.filledBy order) = cs := by
          induction cs with
          | nil => rfl
          | cons c cs ih =>
              rw [List.map_cons, List.flatMap_cons, ih, Piece.filledBy, List.singleton_append]
        simp [Piece.fill, Piece.filledBy, same, copied]
      · simp [Piece.fill, Piece.filledBy, same]

private theorem Undisturbed.foldl_replaceFrom {order : List Rule} {pieces : List Piece}
    (undisturbed : Undisturbed order pieces) :
    order.foldl (fun cs rule => replaceFrom rule.pattern rule.value.toList 0 cs) (spell pieces) =
      pieces.flatMap (Piece.filledBy order) := by
  induction order generalizing pieces with
  | nil =>
      refine List.flatMap_congr fun piece _ => ?_
      cases piece <;> simp [Piece.spelled, Piece.filledBy]
  | cons rule order ih =>
      obtain ⟨owned, later⟩ := undisturbed
      rw [List.foldl_cons, replaceFrom_spell owned, ih later, fillAll, List.flatMap_assoc]
      exact List.flatMap_congr fun piece _ => flatMap_filledBy_fill rule order piece

private theorem replaceInTurn_eq {order rules : List Rule} {text : String} (same : order.Perm rules)
    (undisturbed : Undisturbed order (read rules text)) :
    replaceInTurn order text = replaceTogether rules text := by
  have filled := undisturbed.foldl_replaceFrom
  rw [read, spell_readFrom] at filled
  rw [← String.toList_inj, toList_replaceInTurn, filled, replaceTogether, String.toList_ofList,
    replaceTogetherFrom_eq]
  refine List.flatMap_congr fun piece _ => ?_
  cases piece <;> simp [Piece.filledBy, same.mem_iff]

/-! ## Values that make no placeholder -/

/-- Whatever stands around the value, no occurrence of the pattern has a part in it. -/
def KeepsClear (value pattern : List Char) : Prop :=
  ∀ left right before after, left ++ value ++ right = before ++ pattern ++ after →
    (before ++ pattern).length ≤ left.length ∨ (left ++ value).length ≤ before.length

private theorem Owned.replace {rule other : Rule} {front rest : List Piece}
    (owned : Owned rule (front ++ .slot other :: rest)) (apart : other ≠ rule)
    (clear : KeepsClear other.value.toList rule.pattern) :
    Owned rule (front ++ other.value.toList.map .char ++ rest) := by
  intro before after same
  simp only [spell_append, spell_map_char] at same
  have filled := rule.length_pattern_pos
  have filled' := other.length_pattern_pos
  rcases clear _ _ _ _ same with inFront | behind
  · -- The occurrence lies in front of the value.
    obtain ⟨between, whole⟩ : before ++ rule.pattern <+: spell front :=
      List.prefix_of_prefix_length_le ⟨after, same.symm⟩
        ⟨other.value.toList ++ spell rest, (List.append_assoc ..).symm⟩ inFront
    obtain ⟨front', rest', split, rfl⟩ := owned before (between ++ spell (.slot other :: rest)) (by
      rw [spell_append, ← whole, List.append_assoc])
    rcases List.append_eq_append_iff.1 split with ⟨more, rfl, _⟩ | ⟨more, rfl, begins⟩
    · simp only [spell_append, List.length_append] at inFront
      omega
    · cases more with
      | nil =>
          simp only [List.append_nil, List.length_append] at inFront
          omega
      | cons piece more =>
          obtain ⟨rfl, -⟩ := List.cons.inj begins
          exact ⟨front', more ++ other.value.toList.map .char ++ rest, by simp, rfl⟩
  · -- The occurrence lies behind it.
    obtain ⟨between, rfl⟩ : spell front ++ other.value.toList <+: before :=
      List.prefix_of_prefix_length_le ⟨spell rest, same⟩ ⟨_, (List.append_assoc ..).symm⟩ behind
    have tail : spell rest = between ++ rule.pattern ++ after := by
      simpa only [List.append_assoc, List.append_cancel_left_eq] using same
    obtain ⟨front', rest', split, spelled⟩ :=
      owned (spell front ++ other.pattern ++ between) after (by
        rw [spell_append, spell_cons, tail, Piece.spelled]
        simp only [List.append_assoc])
    rcases List.append_eq_append_iff.1 split with ⟨more, rfl, begins⟩ | ⟨more, rfl, _⟩
    · cases more with
      | nil => exact absurd (Piece.slot.inj (List.cons.inj begins).1) apart
      | cons piece more =>
          obtain ⟨rfl, rfl⟩ := List.cons.inj begins
          refine ⟨front ++ other.value.toList.map .char ++ more, rest', by simp, ?_⟩
          simp only [spell_append, spell_cons, Piece.spelled, List.append_assoc,
            List.append_cancel_left_eq] at spelled
          simp [spelled]
    · have := congrArg List.length spelled
      simp only [spell_append, List.length_append] at this
      omega

private theorem Owned.fillAll {rule other : Rule} (apart : other ≠ rule)
    (clear : KeepsClear other.value.toList rule.pattern) {front pieces : List Piece}
    (owned : Owned rule (front ++ pieces)) : Owned rule (front ++ fillAll other pieces) := by
  induction pieces generalizing front with
  | nil => exact owned
  | cons piece pieces ih =>
      rw [Command.fillAll, List.flatMap_cons, ← Command.fillAll, ← List.append_assoc]
      refine ih ?_
      by_cases same : piece = .slot other
      · rw [same] at owned ⊢
        rw [Piece.fill, if_pos rfl]
        exact owned.replace apart clear
      · have kept : piece.fill other = [piece] := by
          cases piece with
          | char c => rfl
          | slot rule => exact if_neg fun equal => same (congrArg Piece.slot equal)
        rw [kept, List.append_assoc, List.singleton_append]
        exact owned

private theorem undisturbed_of_clear {order : List Rule} {pieces : List Piece}
    (distinct : order.Nodup)
    (owned : ∀ rule ∈ order, Owned rule pieces)
    (clear : order.Pairwise fun rule later => KeepsClear rule.value.toList later.pattern) :
    Undisturbed order pieces := by
  induction order generalizing pieces with
  | nil => trivial
  | cons rule order ih =>
      obtain ⟨fresh, distinct⟩ := List.nodup_cons.1 distinct
      obtain ⟨first, clear⟩ := List.pairwise_cons.1 clear
      refine ⟨owned rule List.mem_cons_self, ih distinct (fun later mem => ?_) clear⟩
      have apart : rule ≠ later := fun same => fresh (same ▸ mem)
      have before : Owned later ([] ++ pieces) := owned later (List.mem_cons_of_mem _ mem)
      exact before.fillAll apart (first later mem)

private theorem mem_of_overlap {left value right before after : List Char} {c : Char}
    (same : left ++ value ++ right = before ++ c :: after) (starts : left.length ≤ before.length)
    (ends : before.length < (left ++ value).length) : c ∈ value := by
  have here : (left ++ value ++ right)[before.length]? = some c := by simp [same]
  rw [List.getElem?_append_left ends, List.getElem?_append_right starts] at here
  exact List.mem_of_getElem? here

/-- A value without braces overlaps with a placeholder only inside its name. -/
theorem keepsClear_of_plain {value : List Char} {rule : Rule}
    (plain : ∀ c ∈ value, c ≠ '\x7b' ∧ c ≠ '\x7d') (apart : ¬ value <:+: rule.name.toList) :
    KeepsClear value rule.pattern := by
  intro left right before after same
  rw [Rule.pattern_eq] at same ⊢
  have opened : left ++ value ++ right =
      before ++ '\x7b' :: (rule.name.toList ++ '\x7d' :: after) := by simp [same]
  have closed : left ++ value ++ right =
      (before ++ '\x7b' :: rule.name.toList) ++ '\x7d' :: after := by simp [same]
  by_contra overlap
  simp only [List.length_append, List.length_cons, List.length_nil, not_or, Nat.not_le] at overlap
  -- Neither brace is in the value, so the value lies between them.
  have early : before.length < left.length := by
    by_contra late
    exact (plain _ (mem_of_overlap opened (by omega) (by simp; omega))).1 rfl
  have late : (left ++ value).length ≤ (before ++ '\x7b' :: rule.name.toList).length := by
    by_contra early
    exact (plain _ (mem_of_overlap closed (by simp; omega) (by omega))).2 rfl
  obtain ⟨front, rfl⟩ : before ++ ['\x7b'] <+: left :=
    List.prefix_of_prefix_length_le ⟨rule.name.toList ++ '\x7d' :: after, by simp [opened]⟩
      ⟨value ++ right, (List.append_assoc ..).symm⟩ (by simp; omega)
  have within : before ++ ['\x7b'] ++ front ++ value <+: before ++ '\x7b' :: rule.name.toList :=
    List.prefix_of_prefix_length_le ⟨right, rfl⟩ ⟨_, closed.symm⟩ late
  simp only [List.append_assoc, List.cons_append, List.nil_append, List.prefix_append_right_inj,
    List.cons_prefix_cons, true_and] at within
  exact apart ((List.suffix_append front value).isInfix.trans within.isInfix)

private theorem pairwise_keepsClear {order : List Rule}
    (plain : ∀ rule ∈ order, ∀ c ∈ rule.value.toList, c ≠ '\x7b' ∧ c ≠ '\x7d')
    (apart : ∀ rule ∈ order, ∀ other ∈ order, ¬ rule.value.toList <:+: other.name.toList) :
    order.Pairwise fun rule later => KeepsClear rule.value.toList later.pattern :=
  List.pairwise_of_forall_mem_list fun rule mem other mem' =>
    keepsClear_of_plain (plain rule mem) (apart rule mem other mem')

/-! ## Templates -/

/-- The placeholders that have values, in the order in which they are replaced. -/
def Bindings.rules (b : Bindings) : List Rule :=
  b.pairs.filterMap fun pair => pair.2.map (Rule.mk pair.1)

private theorem map_name_filterMap_sublist (pairs : List (String × Option String)) :
    ((pairs.filterMap fun pair => pair.2.map (Rule.mk pair.1)).map Rule.name).Sublist
      (pairs.map Prod.fst) := by
  induction pairs with
  | nil => exact .slnil
  | cons pair pairs ih =>
      obtain ⟨name, _ | value⟩ := pair
      · exact ih.cons name
      · exact ih.cons_cons name

private theorem Bindings.proper_rules (b : Bindings) : Proper b.rules := by
  have sub := map_name_filterMap_sublist b.pairs
  refine ⟨fun rule mem => ?_, sub.nodup (by simp [pairs])⟩
  have known : rule.name ∈ b.pairs.map Prod.fst := sub.subset (List.mem_map_of_mem mem)
  have plain : ∀ name ∈ b.pairs.map Prod.fst, ∀ c ∈ name.toList, c ≠ '\x7b' ∧ c ≠ '\x7d' := by
    simp [pairs]
  exact plain _ known

private theorem substitute_eq (b : Bindings) (text : String) :
    substitute b text = replaceInTurn b.rules text := by
  rw [substitute, replaceInTurn, Bindings.rules]
  generalize b.pairs = pairs
  induction pairs generalizing text with
  | nil => rfl
  | cons pair pairs ih =>
      obtain ⟨name, _ | value⟩ := pair
      · exact ih _
      · exact ih _

namespace Template

/-- All texts of a template. -/
def texts (t : Template) : List String := t.program :: t.args

def renderInTurn (t : Template) (order : List Rule) : String × List String :=
  (replaceInTurn order t.program, t.args.map (replaceInTurn order))

def renderTogether (t : Template) (rules : List Rule) : String × List String :=
  (replaceTogether rules t.program, t.args.map (replaceTogether rules))

/-- When rendering agrees with one pass over the template. -/
theorem render_together (t : Template) (b : Bindings) :
    -- The placeholders with values are replaced in a fixed order, one after another.
    t.render b = t.renderInTurn b.rules ∧
    -- In every order the result is that of one pass, as long as each placeholder, when its turn
    -- comes, stands only where it stands in the template.
    (∀ order, order.Perm b.rules → (∀ text ∈ t.texts, Undisturbed order (read b.rules text)) →
      t.renderInTurn order = t.renderTogether b.rules) ∧
    -- So it does in every template when no value can overlap with a placeholder that is replaced
    -- after it.
    (∀ order, order.Perm b.rules →
      (order.Pairwise fun rule later => KeepsClear rule.value.toList later.pattern) →
      (∀ text ∈ t.texts, Undisturbed order (read b.rules text)) ∧
        t.renderInTurn order = t.renderTogether b.rules) ∧
    -- When no value can overlap with another placeholder, the order does not matter.
    ((∀ rule ∈ b.rules, ∀ other ∈ b.rules, rule ≠ other →
        KeepsClear rule.value.toList other.pattern) →
      ∀ order, order.Perm b.rules → t.renderInTurn order = t.render b) := by
  have proper := b.proper_rules
  have fixed : t.render b = t.renderInTurn b.rules := by
    simp [render, renderInTurn, substitute_eq]
  have agree : ∀ order, order.Perm b.rules →
      (∀ text ∈ t.texts, Undisturbed order (read b.rules text)) →
      t.renderInTurn order = t.renderTogether b.rules := by
    intro order same undisturbed
    refine Prod.ext ?_ ?_
    · exact replaceInTurn_eq same (undisturbed _ List.mem_cons_self)
    · refine List.map_congr_left fun text mem => ?_
      exact replaceInTurn_eq same (undisturbed _ (List.mem_cons_of_mem _ mem))
  have distinct : ∀ order : List Rule, order.Perm b.rules → order.Nodup := fun order same =>
    same.nodup_iff.2 (.of_map Rule.name proper.distinct)
  have clears : ∀ order, order.Perm b.rules →
      (order.Pairwise fun rule later => KeepsClear rule.value.toList later.pattern) →
      ∀ text ∈ t.texts, Undisturbed order (read b.rules text) := by
    intro order same clear text _
    exact undisturbed_of_clear (distinct order same)
      (fun rule mem => proper.owned_readFrom (same.subset mem) text.toList) clear
  refine ⟨fixed, agree, fun order same clear => ?_, fun clear order same => ?_⟩
  · have undisturbed := clears order same clear
    exact ⟨undisturbed, agree order same undisturbed⟩
  · have all : ∀ order : List Rule, order.Perm b.rules →
        t.renderInTurn order = t.renderTogether b.rules := by
      intro order same
      refine agree order same (clears order same ((distinct order same).pairwise_of_forall_ne ?_))
      exact fun rule mem other mem' => clear rule (same.subset mem) other (same.subset mem')
    rw [fixed, all order same, all b.rules (.refl _)]

def startScript : Template :=
  ⟨"/opt/ignite-\x7bversion\x7d/bin/ignite.sh", ["--port=\x7bport\x7d", "\x7bentry_point\x7d"]⟩

def secondNode : Bindings :=
  { version := "2.16.0", port := some 10801, node := 1, host := "10.0.0.2", entryPoint := none
    workDir := some "/tmp/case" }

private theorem rules_secondNode : secondNode.rules =
    [⟨"version", "2.16.0"⟩, ⟨"node", "1"⟩, ⟨"host", "10.0.0.2"⟩, ⟨"port", "10801"⟩,
      ⟨"work_dir", "/tmp/case"⟩] := by
  decide

/-- None of these values is a part of a name, so even in the opposite order they are filled in as
in one pass. -/
theorem render_of_secondNode :
    (secondNode.rules.reverse.Pairwise fun rule later =>
      KeepsClear rule.value.toList later.pattern) ∧
    startScript.renderInTurn secondNode.rules.reverse =
      startScript.renderTogether secondNode.rules ∧
    startScript.render secondNode =
      ("/opt/ignite-2.16.0/bin/ignite.sh", ["--port=10801", "\x7bentry_point\x7d"]) := by
  have clear : secondNode.rules.reverse.Pairwise fun rule later =>
      KeepsClear rule.value.toList later.pattern := by
    rw [rules_secondNode]
    refine pairwise_keepsClear ?_ ?_
    · simp
    · decide +kernel
  exact ⟨clear, ((render_together _ _).2.2.1 _ (List.reverse_perm _) clear).2, by decide +kernel⟩

/-- A version that is the placeholder of the host, and nothing else that matters. -/
def nested : Bindings :=
  { version := "\x7bhost\x7d", port := none, node := 0, host := "10.0.0.1", entryPoint := none
    workDir := none }

/-- What the version brings is replaced in its turn, alone or with the braces around it, but not
in one pass, and not when the turn of the host comes first. -/
theorem render_of_nested :
    (Template.mk "\x7bversion\x7d" []).render nested = ("10.0.0.1", []) ∧
    (Template.mk "\x7bversion\x7d" []).renderTogether nested.rules = ("\x7bhost\x7d", []) ∧
    (Template.mk "\x7bversion\x7d" []).renderInTurn nested.rules.reverse = ("\x7bhost\x7d", []) ∧
    let joined := { nested with version := "host" }
    (Template.mk "\x7b\x7bversion\x7d\x7d" []).render joined = ("10.0.0.1", []) ∧
    (Template.mk "\x7b\x7bversion\x7d\x7d" []).renderTogether joined.rules =
      ("\x7bhost\x7d", []) := by
  decide +kernel

end Template

end Interop.Command
