import Interop.Descriptor.Order
import Mathlib.Logic.Relation
import Mathlib.Order.WellFoundedSet

/-!
# Arrangements of services

Services are arranged when each comes after the services of the list that it depends on.  The
dependency order is an arrangement of its list.  It fails only when it is left with services
each of which depends on another one of them; so it exists for every list without a cycle.
-/

namespace Interop.Descriptor

/-- Every service comes after those of the list that it depends on. -/
def Arranged (ds : List Descriptor) : Prop :=
  ∀ before d after, ds = before ++ d :: after →
    ∀ name ∈ d.dependsOn, name ∈ ds.map Descriptor.name → name ∈ before.map Descriptor.name

def Depends (ds : List Descriptor) (name other : String) : Prop :=
  ∃ d ∈ ds, d.name = name ∧ other ∈ d.dependsOn

def Acyclic (ds : List Descriptor) : Prop := ∀ name, ¬Relation.TransGen (Depends ds) name name

theorem totalNodes_append (ds ds' : List Descriptor) :
    totalNodes (ds ++ ds') = totalNodes ds + totalNodes ds' := by
  induction ds with
  | nil => simp [totalNodes]
  | cons d ds ih => simp only [List.cons_append, totalNodes, ih, Nat.add_assoc]

theorem totalNodes_perm {ds ds' : List Descriptor} (same : ds.Perm ds') :
    totalNodes ds = totalNodes ds' := by
  induction same with
  | nil => rfl
  | cons d _ ih => simp only [totalNodes, ih]
  | swap d d' ds =>
      simp only [totalNodes]
      omega
  | trans _ _ ih ih' => exact ih.trans ih'

/-! ## Placing one service -/

theorem isPlaceable_iff {names placed : List String} {d : Descriptor} :
    isPlaceable names placed d = true ↔ ∀ name ∈ d.dependsOn, name ∈ names → name ∈ placed := by
  simp only [isPlaceable, List.all_eq_true, Bool.or_eq_true, List.contains_iff_mem,
    Bool.not_eq_true', ← Bool.not_eq_true]
  exact forall₂_congr fun name _ => by tauto

private theorem holds_of_extractFirst? {α : Type} {p : α → Bool} {as rest : List α} {a : α}
    (h : extractFirst? p as = some (a, rest)) : p a = true := by
  induction as generalizing rest with
  | nil => cases h
  | cons b bs ih =>
      simp only [extractFirst?] at h
      split at h
      · next holds =>
          cases h
          exact holds
      · obtain ⟨⟨c, cs⟩, found, same⟩ := Option.map_eq_some_iff.mp h
        cases same
        exact ih found

theorem extractFirst?_eq_none {α : Type} {p : α → Bool} {as : List α} :
    extractFirst? p as = none ↔ ∀ a ∈ as, p a = false := by
  induction as with
  | nil => simp [extractFirst?]
  | cons a as ih =>
      simp only [extractFirst?]
      split
      · next holds => simp [holds]
      · next fails => simp [ih, fails]

/-! ## Placing all services -/

private theorem arranged_of_placeAll {names placed : List String} {fuel : Nat}
    {pending order : List Descriptor} (enough : pending.length ≤ fuel)
    (placing : placeAll names fuel pending placed = .ok order) :
    order.Perm pending ∧ ∀ before d after, order = before ++ d :: after →
      ∀ name ∈ d.dependsOn, name ∈ names → name ∈ placed ∨ name ∈ before.map Descriptor.name := by
  induction fuel generalizing pending placed order with
  | zero =>
      obtain rfl := List.eq_nil_of_length_eq_zero (Nat.le_zero.mp enough)
      cases placing
      simp
  | succ fuel ih =>
      cases pending with
      | nil =>
          cases placing
          simp
      | cons first rest =>
          simp only [placeAll] at placing
          split at placing
          · cases placing
          · next d pending found =>
              have whole := perm_of_extractFirst? found
              have fits : pending.length ≤ fuel := by
                have := whole.length_eq
                simp only [List.length_cons] at this enough
                omega
              cases placed' : placeAll names fuel pending (d.name :: placed) with
              | error e =>
                  rw [placed'] at placing
                  cases placing
              | ok later =>
                  rw [placed'] at placing
                  cases placing
                  obtain ⟨same, ordered⟩ := ih fits placed'
                  refine ⟨(same.cons d).trans whole, ?_⟩
                  intro before d' after split name mem known
                  cases before with
                  | nil =>
                      cases split
                      exact .inl (isPlaceable_iff.mp (holds_of_extractFirst? found) name mem known)
                  | cons first before =>
                      cases split
                      rcases ordered before d' after rfl name mem known with there | there
                      · rcases List.mem_cons.mp there with rfl | there
                        · exact .inr List.mem_cons_self
                        · exact .inl there
                      · exact .inr (List.mem_cons_of_mem _ there)

theorem dependencyOrder_arranged {ds order : List Descriptor}
    (ordered : dependencyOrder ds = .ok order) : order.Perm ds ∧ Arranged order := by
  obtain ⟨same, arranged⟩ := arranged_of_placeAll (Nat.le_refl _) ordered
  refine ⟨same, ?_⟩
  intro before d after split name mem known
  have known : name ∈ ds.map Descriptor.name := (same.map Descriptor.name).subset known
  simpa using arranged before d after split name mem known

/-- What is left when no service can be placed: each depends on another one of the rest. -/
theorem stuck_of_placeAll {names placed : List String} {fuel : Nat} {pending : List Descriptor}
    {e : ProvisionError} (enough : pending.length ≤ fuel)
    (covered : ∀ name ∈ names, name ∈ placed ∨ name ∈ pending.map Descriptor.name)
    (failed : placeAll names fuel pending placed = .error e) :
    ∃ rest, rest ≠ [] ∧ (∀ d ∈ rest, d ∈ pending) ∧
      ∀ d ∈ rest, ∃ d' ∈ rest, d'.name ∈ d.dependsOn := by
  induction fuel generalizing pending placed e with
  | zero =>
      obtain rfl := List.eq_nil_of_length_eq_zero (Nat.le_zero.mp enough)
      cases failed
  | succ fuel ih =>
      cases pending with
      | nil => cases failed
      | cons first rest =>
          simp only [placeAll] at failed
          split at failed
          · next nobody =>
              refine ⟨first :: rest, by simp, fun d mem => mem, ?_⟩
              intro d mem
              have unplaceable := extractFirst?_eq_none.mp nobody d mem
              by_contra alone
              refine Bool.false_ne_true (unplaceable.symm.trans (isPlaceable_iff.mpr ?_))
              intro name depends known
              rcases covered name known with there | there
              · exact there
              · obtain ⟨d', mem', rfl⟩ := List.mem_map.mp there
                exact absurd ⟨d', mem', depends⟩ alone
          · next d pending found =>
              have whole := perm_of_extractFirst? found
              have fits : pending.length ≤ fuel := by
                have := whole.length_eq
                simp only [List.length_cons] at this enough
                omega
              have covered' : ∀ name ∈ names,
                  name ∈ d.name :: placed ∨ name ∈ pending.map Descriptor.name := by
                intro name known
                rcases covered name known with there | there
                · exact .inl (List.mem_cons_of_mem _ there)
                · have there := (whole.map Descriptor.name).symm.subset there
                  rcases List.mem_cons.mp there with rfl | there
                  · exact .inl List.mem_cons_self
                  · exact .inr there
              cases placed' : placeAll names fuel pending (d.name :: placed) with
              | ok later =>
                  rw [placed'] at failed
                  cases failed
              | error e' =>
                  obtain ⟨left, some, inside, stuck⟩ := ih fits covered' placed'
                  exact ⟨left, some,
                    fun d mem => whole.subset (List.mem_cons_of_mem _ (inside d mem)), stuck⟩

/-! ## Cycles -/

private theorem exists_transGen_self {α : Type} {r : α → α → Prop} {as : List α}
    (nonempty : as ≠ [])
    (onward : ∀ a ∈ as, ∃ b ∈ as, r a b) : ∃ a, Relation.TransGen r a a := by
  by_contra acyclic
  have irrefl : ∀ a, ¬Relation.TransGen r a a := fun a cycle => acyclic ⟨a, cycle⟩
  have : IsStrictOrder α (Function.swap (Relation.TransGen r)) :=
    { irrefl := irrefl
      trans := fun _ _ _ first second => second.trans first }
  have founded : {a | a ∈ as}.WellFoundedOn (Function.swap (Relation.TransGen r)) :=
    (List.finite_toSet as).wellFoundedOn
  obtain ⟨first, mem⟩ := List.exists_mem_of_ne_nil as nonempty
  obtain ⟨last, -, least⟩ := founded.has_min Set.univ ⟨⟨first, mem⟩, trivial⟩
  obtain ⟨next, mem', related⟩ := onward last.1 last.2
  exact least ⟨next, mem'⟩ trivial (.single related)

theorem Acyclic.exists_dependencyOrder {ds : List Descriptor} (acyclic : Acyclic ds) :
    ∃ order, dependencyOrder ds = .ok order := by
  cases ordered : dependencyOrder ds with
  | ok order => exact ⟨order, rfl⟩
  | error e =>
      obtain ⟨rest, some, inside, stuck⟩ := stuck_of_placeAll (Nat.le_refl _) (by simp) ordered
      have onward : ∀ name ∈ rest.map Descriptor.name,
          ∃ other ∈ rest.map Descriptor.name, Depends ds name other := by
        intro name mem
        obtain ⟨d, left, rfl⟩ := List.mem_map.mp mem
        obtain ⟨d', left', depends⟩ := stuck d left
        exact ⟨d'.name, List.mem_map_of_mem left', d, inside d left, rfl, depends⟩
      obtain ⟨name, cycle⟩ := exists_transGen_self (by simpa using some) onward
      exact absurd cycle (acyclic name)

end Interop.Descriptor
