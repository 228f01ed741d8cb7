import Interop.Proofs.Descriptor.Arrangement
import Mathlib.Data.List.FinRange
import Mathlib.Data.List.Lex
import Mathlib.Order.Bounds.Defs

/-!
# How far placing gets, and in which order

Services of a list are told apart by their positions, since descriptors and even whole services
may repeat.  Placing goes on as long as some pending service can be placed and takes the first
such one.  So it ends with the largest set of positions that can be placed at all, and when
nothing is left over, with the first arrangement in lexicographic order of positions.
-/

namespace Interop.Descriptor

variable {ds : List Descriptor} {names placed : List String}

/-- The services at these positions, each once, in an order that puts each after everything of
the list that it depends on. -/
def Placing (ds : List Descriptor) (positions : List (Fin ds.length)) : Prop :=
  positions.Nodup ∧ ∀ before d after, positions.map ds.get = before ++ d :: after →
    ∀ name ∈ d.dependsOn, name ∈ ds.map Descriptor.name → name ∈ before.map Descriptor.name

/-- The positions of a set can be placed in some order. -/
def Placeable (ds : List Descriptor) (set : Set (Fin ds.length)) : Prop :=
  ∃ positions, Placing ds positions ∧ set = {i | i ∈ positions}

/-- Depends on no service of the list. -/
def isFree (ds : List Descriptor) (d : Descriptor) : Bool :=
  d.dependsOn.all fun name => !(ds.map Descriptor.name).contains name

/-! ## Orders that follow what is placed -/

def Follows (names placed : List String) (order : List Descriptor) : Prop :=
  ∀ before d after, order = before ++ d :: after →
    isPlaceable names (before.map Descriptor.name ++ placed) d = true

theorem isPlaceable_mono {more : List String} {d : Descriptor} (sub : placed ⊆ more)
    (fits : isPlaceable names placed d = true) : isPlaceable names more d = true := by
  rw [isPlaceable_iff] at fits ⊢
  intro name uses known
  exact sub (fits name uses known)

theorem isPlaceable_perm {more : List String} (same : placed.Perm more) (d : Descriptor) :
    isPlaceable names placed d = isPlaceable names more d := by
  rw [Bool.eq_iff_iff]
  exact ⟨isPlaceable_mono same.subset, isPlaceable_mono same.symm.subset⟩

private theorem isPlaceable_of_isFree {d : Descriptor} (free : isFree ds d = true) :
    isPlaceable (ds.map Descriptor.name) placed d = true := by
  rw [isPlaceable_iff]
  intro name uses known
  simp only [isFree, List.all_eq_true] at free
  simpa [known] using free name uses

theorem follows_cons {d : Descriptor} {rest : List Descriptor} :
    Follows names placed (d :: rest) ↔
      isPlaceable names placed d = true ∧ Follows names (d.name :: placed) rest := by
  have moved : ∀ before : List Descriptor, ((d :: before).map Descriptor.name ++ placed).Perm
      (before.map Descriptor.name ++ d.name :: placed) := fun _ => List.perm_middle.symm
  constructor
  · intro follows
    refine ⟨follows [] d rest rfl, ?_⟩
    intro before d' after split
    rw [← isPlaceable_perm (moved before)]
    exact follows (d :: before) d' after (by simp [split])
  · rintro ⟨fits, follows⟩ before d' after split
    cases before with
    | nil =>
        cases split
        exact fits
    | cons first before =>
        cases split
        rw [isPlaceable_perm (moved before)]
        exact follows before d' after rfl

theorem follows_iff {order : List Descriptor} :
    Follows names [] order ↔ ∀ before d after, order = before ++ d :: after →
      ∀ name ∈ d.dependsOn, name ∈ names → name ∈ before.map Descriptor.name := by
  simp only [Follows, isPlaceable_iff, List.append_nil]

private theorem placing_iff {positions : List (Fin ds.length)} :
    Placing ds positions ↔
      positions.Nodup ∧ Follows (ds.map Descriptor.name) [] (positions.map ds.get) := by
  rw [Placing, follows_iff]

theorem arranged_iff {order : List Descriptor} (same : order.Perm ds) :
    Arranged order ↔ Follows (ds.map Descriptor.name) [] order := by
  simp only [Arranged, follows_iff, (same.map Descriptor.name).mem_iff]

/-- A set of names that has the name of every service that can be placed after it is as large
as an order can make it. -/
theorem Follows.isPlaceable {order : List Descriptor} (follows : Follows names [] order)
    (closed : ∀ d ∈ order, isPlaceable names placed d = true → d.name ∈ placed) :
    ∀ d ∈ order, isPlaceable names placed d = true := by
  -- The last service goes after the others, all of which are named already.
  induction order using List.reverseRecOn with
  | nil => simp
  | append_singleton order last ih =>
      have earlier : Follows names [] order := by
        intro before d after split
        exact follows before d (after ++ [last]) (by simp [split])
      have fit := ih earlier fun d mem => closed d (List.mem_append_left _ mem)
      have sub : order.map Descriptor.name ++ [] ⊆ placed := by
        intro name mem
        simp only [List.append_nil, List.mem_map] at mem
        obtain ⟨d, mem, rfl⟩ := mem
        exact closed d (List.mem_append_left _ mem) (fit d mem)
      intro d mem
      rcases List.mem_append.mp mem with mem | mem
      · exact fit d mem
      · rw [List.mem_singleton.mp mem]
        exact isPlaceable_mono sub (follows order last [] rfl)

/-! ## Placing as a relation -/

/-- From the names placed on, the pending positions are placed in an order, and some are left
over. -/
inductive Places (ds : List Descriptor) :
    List String → List (Fin ds.length) → List (Fin ds.length) → List (Fin ds.length) → Prop
  | halts {placed : List String} {pending : List (Fin ds.length)}
      (stuck : ∀ i ∈ pending, isPlaceable (ds.map Descriptor.name) placed (ds.get i) = false) :
      Places ds placed pending [] pending
  | goes {placed : List String} {before after order left : List (Fin ds.length)}
      {i : Fin ds.length}
      (skipped : ∀ j ∈ before, isPlaceable (ds.map Descriptor.name) placed (ds.get j) = false)
      (fits : isPlaceable (ds.map Descriptor.name) placed (ds.get i) = true)
      (later : Places ds ((ds.get i).name :: placed) (before ++ after) order left) :
      Places ds placed (before ++ i :: after) (i :: order) left

def settle (ds : List Descriptor) (order : List (Fin ds.length)) :
    List (Fin ds.length) → Except ProvisionError (List Descriptor)
  | [] => .ok (order.map ds.get)
  | first :: _ => .error (.invalidDescriptor (ds.get first).name "dependency cycle")

private theorem extractFirst?_append {α : Type} {p : α → Bool} {before after : List α} {a : α}
    (skipped : ∀ b ∈ before, p b = false) (holds : p a = true) :
    extractFirst? p (before ++ a :: after) = some (a, before ++ after) := by
  induction before with
  | nil => simp [extractFirst?, holds]
  | cons b before ih =>
      have later := ih fun c mem => skipped c (List.mem_cons_of_mem b mem)
      simp [extractFirst?, skipped b List.mem_cons_self, later]

/-- The first element that satisfies a predicate, unless none does. -/
theorem split_or_none {α : Type} (p : α → Bool) (as : List α) :
    (∀ a ∈ as, p a = false) ∨
      ∃ before a after, as = before ++ a :: after ∧ (∀ b ∈ before, p b = false) ∧ p a = true := by
  cases found : as.find? p with
  | none =>
      left
      simpa using found
  | some a =>
      obtain ⟨holds, before, after, rfl, skipped⟩ := List.find?_eq_some_iff_append.mp found
      exact .inr ⟨before, a, after, rfl, by simpa using skipped, holds⟩

private theorem placeAll_of_some {fuel : Nat} {pending rest : List Descriptor} {d : Descriptor}
    (found : extractFirst? (isPlaceable names placed) pending = some (d, rest)) :
    placeAll names (fuel + 1) pending placed =
      (placeAll names fuel rest (d.name :: placed)).map (d :: ·) := by
  cases pending with
  | nil => cases found
  | cons first others =>
      simp only [placeAll, found]
      rfl

private theorem exists_places (ds : List Descriptor) (pending : List (Fin ds.length))
    (placed : List String) : ∃ order left, Places ds placed pending order left ∧
      ∀ fuel, pending.length ≤ fuel →
        placeAll (ds.map Descriptor.name) fuel (pending.map ds.get) placed =
          settle ds order left := by
  induction size : pending.length generalizing pending placed with
  | zero =>
      obtain rfl := List.eq_nil_of_length_eq_zero size
      refine ⟨[], [], .halts (by simp), ?_⟩
      intro fuel _
      cases fuel <;> rfl
  | succ size' ih =>
      rcases split_or_none (fun i => isPlaceable (ds.map Descriptor.name) placed (ds.get i)) pending
        with stuck | ⟨before, i, after, rfl, skipped, fits⟩
      · refine ⟨[], pending, .halts stuck, ?_⟩
        intro fuel enough
        obtain ⟨fuel, rfl⟩ := Nat.exists_eq_add_of_le' enough
        cases pending with
        | nil => cases size
        | cons first rest =>
            have nobody : extractFirst? (isPlaceable (ds.map Descriptor.name) placed)
                ((first :: rest).map ds.get) = none := by
              rw [extractFirst?_eq_none]
              simpa using stuck
            rw [List.map_cons] at nobody ⊢
            simp only [placeAll, nobody, settle]
      · have shorter : (before ++ after).length = size' := by
          simp only [List.length_append, List.length_cons] at size ⊢
          omega
        obtain ⟨order, left, later, result⟩ :=
          ih (before ++ after) ((ds.get i).name :: placed) shorter
        refine ⟨i :: order, left, .goes skipped fits later, ?_⟩
        intro fuel enough
        obtain ⟨fuel, rfl⟩ := Nat.exists_eq_add_of_le' enough
        have found : extractFirst? (isPlaceable (ds.map Descriptor.name) placed)
            ((before ++ i :: after).map ds.get) =
              some (ds.get i, (before ++ after).map ds.get) := by
          rw [List.map_append, List.map_cons, List.map_append]
          exact extractFirst?_append (by simpa using skipped) fits
        rw [← Nat.add_assoc, placeAll_of_some found, result _ (Nat.le_add_left _ _)]
        cases left <;> rfl

/-! ## What is placed and what is left over -/

namespace Places

variable {pending order left : List (Fin ds.length)}

theorem perm (places : Places ds placed pending order left) : (order ++ left).Perm pending := by
  induction places with
  | halts stuck => exact .refl _
  | goes skipped fits later ih => exact (ih.cons _).trans List.perm_middle.symm

private theorem left_sublist
    (places : Places ds placed pending order left) : left.Sublist pending := by
  induction places with
  | halts stuck => exact .refl _
  | goes skipped fits later ih =>
      exact ih.trans ((List.Sublist.refl _).append (List.sublist_cons_self _ _))

private theorem follows (places : Places ds placed pending order left) :
    Follows (ds.map Descriptor.name) placed (order.map ds.get) := by
  induction places with
  | halts stuck =>
      intro before d after split
      simp at split
  | goes skipped fits later ih =>
      rw [List.map_cons]
      exact follows_cons.mpr ⟨fits, ih⟩

theorem stuck (places : Places ds placed pending order left) {i : Fin ds.length}
    (mem : i ∈ left) : isPlaceable (ds.map Descriptor.name)
      (order.map (fun j => (ds.get j).name) ++ placed) (ds.get i) = false := by
  induction places with
  | halts stuck => exact stuck i mem
  | goes skipped fits later ih =>
      rw [← ih mem]
      exact isPlaceable_perm List.perm_middle.symm _

theorem mem_of_fits (places : Places ds placed pending order left) {i : Fin ds.length}
    (mem : i ∈ pending) (fits : isPlaceable (ds.map Descriptor.name)
      (order.map (fun j => (ds.get j).name) ++ placed) (ds.get i) = true) : i ∈ order := by
  rcases List.mem_append.mp (places.perm.symm.subset mem) with placed | beyond
  · exact placed
  · rw [places.stuck beyond] at fits
    cases fits

theorem fits (places : Places ds [] pending order left) {others : List Descriptor}
    (sub : ∀ d ∈ others, ∃ i ∈ pending, ds.get i = d)
    (follows : Follows (ds.map Descriptor.name) [] others) :
    ∀ d ∈ others, isPlaceable (ds.map Descriptor.name)
      (order.map (fun j => (ds.get j).name) ++ []) d = true := by
  refine follows.isPlaceable ?_
  intro d mem fits
  obtain ⟨i, inside, rfl⟩ := sub d mem
  rw [List.append_nil]
  exact List.mem_map_of_mem (places.mem_of_fits inside fits)

private theorem subset_order (places : Places ds [] pending order left)
    {positions : List (Fin ds.length)} (sub : positions ⊆ pending)
    (follows : Follows (ds.map Descriptor.name) [] (positions.map ds.get)) :
    positions ⊆ order := by
  intro i mem
  refine places.mem_of_fits (sub mem) (places.fits ?_ follows _ (List.mem_map_of_mem mem))
  intro d there
  obtain ⟨j, inside, rfl⟩ := List.mem_map.mp there
  exact ⟨j, sub inside, rfl⟩

private theorem le (places : Places ds placed pending order [])
    (ascending : pending.Pairwise (· < ·))
    {positions : List (Fin ds.length)} (same : positions.Perm pending)
    (follows : Follows (ds.map Descriptor.name) placed (positions.map ds.get)) :
    order ≤ positions := by
  generalize nothing : ([] : List (Fin ds.length)) = left at places
  induction places generalizing positions with
  | halts stuck =>
      subst nothing
      rw [same.eq_nil]
  | @goes placed before after order left i skipped fits later ih =>
      cases positions with
      | nil => simp at same
      | cons first rest =>
          obtain ⟨fits', follows⟩ := follows_cons.mp follows
          -- Nothing before the service taken can be placed, so no arrangement begins there.
          have chosen : first = i ∨ first ∈ after := by
            have mem := same.subset List.mem_cons_self
            rcases List.mem_append.mp mem with mem | mem
            · rw [skipped first mem] at fits'
              cases fits'
            · exact List.mem_cons.mp mem
          rcases chosen with rfl | later'
          · have ascending' : (before ++ after).Pairwise (· < ·) :=
              ascending.sublist ((List.Sublist.refl _).append (List.sublist_cons_self _ _))
            have same' := (same.trans List.perm_middle).cons_inv
            exact List.cons_le_cons first (ih ascending' same' follows nothing)
          · have less : i < first :=
              (List.pairwise_cons.mp (List.pairwise_append.mp ascending).2.1).1 first later'
            exact le_of_lt (.rel less)

private theorem filter_isFree (places : Places ds placed pending order left) :
    order.filter (fun i => isFree ds (ds.get i)) =
      pending.filter fun i => isFree ds (ds.get i) := by
  have unplaceable : ∀ {placed : List String} {js : List (Fin ds.length)},
      (∀ j ∈ js, isPlaceable (ds.map Descriptor.name) placed (ds.get j) = false) →
      js.filter (fun i => isFree ds (ds.get i)) = [] := by
    intro placed js skipped
    rw [List.filter_eq_nil_iff]
    intro j mem free
    have blocked := skipped j mem
    rw [isPlaceable_of_isFree free] at blocked
    cases blocked
  induction places with
  | halts stuck => exact (unplaceable stuck).symm
  | @goes placed before after order left i skipped fits later ih =>
      rw [List.filter_append, unplaceable skipped] at ih ⊢
      simp only [List.filter_cons, ih, List.nil_append]

private theorem eq_of_follows (places : Places ds placed pending order left)
    (follows : Follows (ds.map Descriptor.name) placed (pending.map ds.get)) :
    order = pending ∧ left = [] := by
  induction places with
  | @halts placed pending stuck =>
      cases pending with
      | nil => exact ⟨rfl, rfl⟩
      | cons first rest =>
          have fits := (follows_cons.mp follows).1
          rw [stuck first List.mem_cons_self] at fits
          cases fits
  | @goes placed before after order left i skipped fits later ih =>
      cases before with
      | nil =>
          obtain ⟨same, rfl⟩ := ih (follows_cons.mp follows).2
          exact ⟨congrArg (i :: ·) same, rfl⟩
      | cons first rest =>
          have fits' := (follows_cons.mp follows).1
          rw [skipped first List.mem_cons_self] at fits'
          cases fits'

end Places

/-! ## The dependency order -/

theorem dependencyOrder_eq (ds : List Descriptor) :
    ∃ order left, Places ds [] (List.finRange ds.length) order left ∧
      (∀ rounds, ds.length ≤ rounds →
        placeAll (ds.map Descriptor.name) rounds ds [] = settle ds order left) ∧
      dependencyOrder ds = settle ds order left := by
  obtain ⟨order, left, places, result⟩ := exists_places ds (List.finRange ds.length) []
  rw [List.length_finRange, List.map_get_finRange] at result
  exact ⟨order, left, places, result, result ds.length (Nat.le_refl _)⟩

namespace Places

variable {order left : List (Fin ds.length)}

private theorem left_eq_nil (places : Places ds [] (List.finRange ds.length) order left)
    {other : List Descriptor} (same : other.Perm ds) (arranged : Arranged other) : left = [] := by
  cases left with
  | nil => rfl
  | cons first rest =>
      have inside : ∀ d ∈ other, ∃ i ∈ List.finRange ds.length, ds.get i = d := by
        intro d mem
        obtain ⟨i, there⟩ := List.get_of_mem (same.subset mem)
        exact ⟨i, List.mem_finRange i, there⟩
      have fits := places.fits inside ((arranged_iff same).mp arranged) (ds.get first)
        (same.symm.subset (List.get_mem ds first))
      rw [places.stuck List.mem_cons_self] at fits
      cases fits

theorem nodup (places : Places ds [] (List.finRange ds.length) order left) :
    (order ++ left).Nodup :=
  places.perm.nodup_iff.mpr (List.nodup_finRange _)

private theorem isGreatest (places : Places ds [] (List.finRange ds.length) order left) :
    IsGreatest {set | Placeable ds set} {i | i ∈ order} := by
  constructor
  · refine ⟨order, placing_iff.mpr ⟨?_, places.follows⟩, rfl⟩
    exact (List.nodup_append.mp places.nodup).1
  · rintro set ⟨positions, placing, rfl⟩
    apply places.subset_order
    · intro i _
      exact List.mem_finRange i
    · exact (placing_iff.mp placing).2

private theorem isLeast_left {first : Fin ds.length} {rest : List (Fin ds.length)}
    (places : Places ds [] (List.finRange ds.length) order (first :: rest)) :
    IsLeast {i | i ∉ {i | i ∈ order}} first := by
  have apart := (List.nodup_append.mp places.nodup).2.2
  constructor
  · intro placed
    exact apart first placed first List.mem_cons_self rfl
  · intro i outside
    have ascending := (List.pairwise_lt_finRange ds.length).sublist places.left_sublist
    rcases List.mem_append.mp (places.perm.symm.subset (List.mem_finRange i)) with placed | beyond
    · exact absurd placed outside
    · rcases List.mem_cons.mp beyond with rfl | later
      · exact le_refl i
      · exact le_of_lt ((List.pairwise_cons.mp ascending).1 i later)

end Places

private theorem arranged_positions {positions : List (Fin ds.length)}
    (same : positions.Perm (List.finRange ds.length)) :
    Arranged (positions.map ds.get) ↔
      Follows (ds.map Descriptor.name) [] (positions.map ds.get) := by
  have same' := same.map ds.get
  rw [List.map_get_finRange] at same'
  exact arranged_iff same'

private theorem dependencyOrder_of_arranged
    (arranged : Arranged ds) : dependencyOrder ds = .ok ds := by
  obtain ⟨order, left, places, -, result⟩ := dependencyOrder_eq ds
  have follows : Follows (ds.map Descriptor.name) [] ((List.finRange ds.length).map ds.get) := by
    rw [List.map_get_finRange]
    exact (arranged_iff (.refl ds)).mp arranged
  obtain ⟨rfl, rfl⟩ := places.eq_of_follows follows
  rw [result, settle, List.map_get_finRange]

/-- For every list, placing ends after as many rounds as the list has services.  It succeeds
exactly when some permutation of the list puts each service after everything of the list that
it depends on, and the result is such a permutation.  Otherwise there is a largest set of
positions that can be placed, and the error names the first service outside it. -/
theorem dependencyOrder_complete (ds : List Descriptor) :
    (∀ rounds, ds.length ≤ rounds →
      placeAll (ds.map Descriptor.name) rounds ds [] = dependencyOrder ds) ∧
    ((∃ order, dependencyOrder ds = .ok order) ↔ ∃ order, order.Perm ds ∧ Arranged order) ∧
    (∀ order, dependencyOrder ds = .ok order → order.Perm ds ∧ Arranged order) ∧
    ((¬∃ order, order.Perm ds ∧ Arranged order) →
      ∃ largest first, IsGreatest {set | Placeable ds set} largest ∧
        IsLeast {i | i ∉ largest} first ∧
        dependencyOrder ds =
          .error (.invalidDescriptor (ds.get first).name "dependency cycle")) := by
  obtain ⟨order, left, places, rounds, result⟩ := dependencyOrder_eq ds
  have sound : ∀ result', dependencyOrder ds = .ok result' →
      result'.Perm ds ∧ Arranged result' := fun _ ok => dependencyOrder_arranged ok
  refine ⟨?_, ⟨?_, ?_⟩, sound, ?_⟩
  · intro many enough
    rw [rounds many enough, result]
  · rintro ⟨other, ok⟩
    exact ⟨other, sound other ok⟩
  · rintro ⟨other, same, arranged⟩
    rw [result, places.left_eq_nil same arranged]
    exact ⟨_, rfl⟩
  · intro impossible
    cases stuck : left with
    | nil => exact absurd ⟨_, sound _ (by rw [result, stuck, settle])⟩ impossible
    | cons first rest =>
        rw [stuck] at places result
        exact ⟨{i | i ∈ order}, first, places.isGreatest, places.isLeast_left, result⟩

/-- The service that the error names need not be on a cycle. -/
example : dependencyOrder
    [{ server "top" .dev with dependsOn := ["base"] },
      { server "base" .dev with dependsOn := ["base"] }] =
    .error (.invalidDescriptor "top" "dependency cycle") := by
  decide

/-- Where the dependency order exists it is the first of all arrangements, read as sequences of
positions; services that depend on none of the list stay in the order in which they were; and
what is arranged stays as it is, as does the result. -/
theorem dependencyOrder_stable (ds : List Descriptor) :
    (∀ order, dependencyOrder ds = .ok order →
      (∃ positions : List (Fin ds.length),
        IsLeast {js | js.Perm (List.finRange ds.length) ∧ Arranged (js.map ds.get)} positions ∧
        order = positions.map ds.get ∧
        (positions.filter fun i => isFree ds (ds.get i)).Pairwise (· < ·)) ∧
      dependencyOrder order = .ok order) ∧
    (Arranged ds → dependencyOrder ds = .ok ds) := by
  refine ⟨?_, dependencyOrder_of_arranged⟩
  intro result ok
  obtain ⟨positions, left, places, -, settled⟩ := dependencyOrder_eq ds
  rw [ok] at settled
  have arranged := (dependencyOrder_arranged ok).2
  refine ⟨?_, dependencyOrder_of_arranged arranged⟩
  cases left with
  | cons first rest => cases settled
  | nil =>
      obtain rfl : result = positions.map ds.get := Except.ok.inj settled
      have same : positions.Perm (List.finRange ds.length) := by simpa using places.perm
      refine ⟨positions, ⟨⟨same, arranged⟩, ?_⟩, rfl, ?_⟩
      · rintro js ⟨same', arranged'⟩
        have follows := (arranged_positions same').mp arranged'
        exact places.le (List.pairwise_lt_finRange _) same' follows
      · rw [places.filter_isFree]
        exact (List.pairwise_lt_finRange _).filter _

end Interop.Descriptor
