import Interop.Execution
import Interop.Proofs.Descriptor.Arrangement

/-!
# Services that can be provisioned together

A list of services can be provisioned on so many nodes when each of its services is consistent
in itself, their names tell them apart, they depend only on each other and not in a circle, and
their nodes are there and do not exceed what the test declares.  That is the case exactly when
the list has a dependency order, the nodes taken for it are there, and no service is refused
after the ones before it in that order.
-/

namespace Interop.Descriptor

structure Feasible (numNodes : Option Nat) (capacity : Nat) (ds : List Descriptor) : Prop where
  consistent : ∀ d ∈ ds, d.validate = .ok ()
  distinct : (ds.map Descriptor.name).Nodup
  known : ∀ d ∈ ds, ∀ name ∈ d.dependsOn, name ∈ ds.map Descriptor.name
  acyclic : Acyclic ds
  fits : totalNodes ds ≤ capacity
  declared : ∀ budget, numNodes = some budget → totalNodes ds ≤ budget

structure Acceptable (numNodes : Option Nat) (done : List Descriptor) (d : Descriptor) : Prop where
  consistent : d.validate = .ok ()
  fresh : d.name ∉ done.map Descriptor.name
  known : ∀ name ∈ d.dependsOn, name ∈ done.map Descriptor.name
  declared : ∀ budget, numNodes = some budget → d.nodeCount ≤ budget - totalNodes done

def Admissible (numNodes : Option Nat) (ds : List Descriptor) : Prop :=
  ∀ done d pending, ds = done ++ d :: pending → Acceptable numNodes done d

variable {numNodes : Option Nat} {capacity : Nat} {ds order : List Descriptor}

theorem admissible_nil : Admissible numNodes [] := by
  intro done d pending split
  simp at split

theorem admissible_concat {d : Descriptor} :
    Admissible numNodes (ds ++ [d]) ↔ Admissible numNodes ds ∧ Acceptable numNodes ds d := by
  constructor
  · intro admissible
    refine ⟨?_, admissible ds d [] rfl⟩
    intro done d' pending split
    exact admissible done d' (pending ++ [d]) (by rw [split, List.append_assoc]; rfl)
  · rintro ⟨admissible, acceptable⟩ done d' pending split
    rcases List.eq_nil_or_concat pending with rfl | ⟨pending, last, rfl⟩
    · obtain ⟨rfl, same⟩ := List.append_inj' split rfl
      cases same
      exact acceptable
    · have same : ds ++ [d] = (done ++ d' :: pending) ++ [last] := by simpa using split
      obtain ⟨rfl, -⟩ := List.append_inj' same rfl
      exact admissible done d' pending rfl

/-! ## From an order to the list -/

private theorem Admissible.distinct (admissible : Admissible numNodes ds) :
    (ds.map Descriptor.name).Nodup := by
  induction ds using List.reverseRecOn with
  | nil => exact List.nodup_nil
  | append_singleton ds d ih =>
      obtain ⟨admissible, acceptable⟩ := admissible_concat.mp admissible
      rw [List.map_append, List.nodup_append]
      refine ⟨ih admissible, List.nodup_singleton _, ?_⟩
      rintro name mem _ last rfl
      rw [List.map_singleton, List.mem_singleton] at last
      exact acceptable.fresh (last ▸ mem)

theorem Admissible.declared (admissible : Admissible numNodes ds) {budget : Nat}
    (declared : numNodes = some budget) : totalNodes ds ≤ budget := by
  induction ds using List.reverseRecOn with
  | nil => exact Nat.zero_le _
  | append_singleton ds d ih =>
      obtain ⟨admissible, acceptable⟩ := admissible_concat.mp admissible
      have before := ih admissible
      have more := acceptable.declared budget declared
      rw [totalNodes_append]
      simp only [totalNodes]
      omega

private theorem Admissible.known (admissible : Admissible numNodes ds) {d : Descriptor}
    (mem : d ∈ ds)
    {name : String} (depends : name ∈ d.dependsOn) : name ∈ ds.map Descriptor.name := by
  obtain ⟨before, after, rfl⟩ := List.append_of_mem mem
  rw [List.map_append]
  exact List.mem_append_left _ ((admissible before d after rfl).known name depends)

private theorem Arranged.idxOf_lt (arranged : Arranged ds)
    (distinct : (ds.map Descriptor.name).Nodup)
    (known : ∀ d ∈ ds, ∀ name ∈ d.dependsOn, name ∈ ds.map Descriptor.name) {name other : String}
    (depends : Depends ds name other) :
    (ds.map Descriptor.name).idxOf other < (ds.map Descriptor.name).idxOf name := by
  obtain ⟨d, mem, rfl, uses⟩ := depends
  have there := known d mem other uses
  obtain ⟨before, after, rfl⟩ := List.append_of_mem mem
  have earlier := arranged before d after rfl other uses there
  rw [List.map_append, List.map_cons] at distinct ⊢
  have absent : d.name ∉ before.map Descriptor.name := by
    intro again
    exact (List.nodup_append.mp distinct).2.2 _ again _ List.mem_cons_self rfl
  rw [List.idxOf_append_of_mem earlier, List.idxOf_append_of_notMem absent, List.idxOf_cons_self]
  exact List.idxOf_lt_length_of_mem earlier

private theorem Arranged.acyclic (arranged : Arranged ds)
    (distinct : (ds.map Descriptor.name).Nodup)
    (known : ∀ d ∈ ds, ∀ name ∈ d.dependsOn, name ∈ ds.map Descriptor.name) : Acyclic ds := by
  have descends : ∀ {name other}, Relation.TransGen (Depends ds) name other →
      (ds.map Descriptor.name).idxOf other < (ds.map Descriptor.name).idxOf name := by
    intro name other way
    induction way with
    | single depends => exact arranged.idxOf_lt distinct known depends
    | tail _ depends ih => exact (arranged.idxOf_lt distinct known depends).trans ih
  exact fun name cycle => Nat.lt_irrefl _ (descends cycle)

/-! ## The same services in another order -/

private theorem depends_perm (same : order.Perm ds) : Depends order = Depends ds := by
  funext name other
  simp only [Depends, same.mem_iff]

private theorem Feasible.perm (feasible : Feasible numNodes capacity ds) (same : order.Perm ds) :
    Feasible numNodes capacity order where
  consistent d mem := feasible.consistent d (same.subset mem)
  distinct := (same.map _).nodup_iff.mpr feasible.distinct
  known d mem name uses := (same.map _).symm.subset (feasible.known d (same.subset mem) name uses)
  acyclic := by
    unfold Acyclic
    rw [depends_perm same]
    exact feasible.acyclic
  fits := (totalNodes_perm same).trans_le feasible.fits
  declared budget declared := (totalNodes_perm same).trans_le (feasible.declared budget declared)

private theorem Feasible.admissible (feasible : Feasible numNodes capacity ds)
    (arranged : Arranged ds) :
    Admissible numNodes ds := by
  intro before d after split
  have mem : d ∈ ds := by simp [split]
  refine ⟨feasible.consistent d mem, ?_, ?_, ?_⟩
  · have distinct := feasible.distinct
    rw [split, List.map_append, List.map_cons] at distinct
    intro again
    exact (List.nodup_append.mp distinct).2.2 _ again _ List.mem_cons_self rfl
  · intro name uses
    exact arranged before d after split name uses (feasible.known d mem name uses)
  · intro budget declared
    have within := feasible.declared budget declared
    rw [split, totalNodes_append] at within
    simp only [totalNodes] at within
    omega

private theorem Admissible.wantedOf_eq (admissible : Admissible numNodes ds) :
    Execution.wantedOf numNodes (totalNodes ds) = totalNodes ds := by
  cases declared : numNodes with
  | none => rfl
  | some budget => exact Nat.min_eq_left (admissible.declared declared)

/-- The services can be provisioned exactly when they can be ordered, their nodes are there, and
in this order none is refused. -/
theorem feasible_iff : Feasible numNodes capacity ds ↔ ∃ order, dependencyOrder ds = .ok order ∧
    Execution.wantedOf numNodes (totalNodes order) ≤ capacity ∧ Admissible numNodes order := by
  constructor
  · intro feasible
    obtain ⟨order, ordered⟩ := feasible.acyclic.exists_dependencyOrder
    obtain ⟨same, arranged⟩ := dependencyOrder_arranged ordered
    have feasible := feasible.perm same
    have admissible := feasible.admissible arranged
    exact ⟨order, ordered, admissible.wantedOf_eq.trans_le feasible.fits, admissible⟩
  · rintro ⟨order, ordered, fits, admissible⟩
    obtain ⟨same, arranged⟩ := dependencyOrder_arranged ordered
    have known : ∀ d ∈ order, ∀ name ∈ d.dependsOn, name ∈ order.map Descriptor.name :=
      fun d mem name uses => admissible.known mem uses
    refine Feasible.perm ⟨?_, admissible.distinct, known,
      arranged.acyclic admissible.distinct known, admissible.wantedOf_eq.symm.trans_le fits,
      fun budget declared => admissible.declared declared⟩ same.symm
    intro d mem
    obtain ⟨before, after, split⟩ := List.append_of_mem mem
    exact (admissible before d after split).consistent

end Interop.Descriptor
