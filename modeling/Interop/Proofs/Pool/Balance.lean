import Interop.Pool
import Mathlib.Data.List.Perm.Basic

/-!
# The books of a pool

A pool keeps the free nodes and a count of the nodes on lease, and never sees the leases again
until they come back.  Its books balance with a list of nodes when the free nodes and the nodes
of the list together are the nodes of the pool, each once.  Every operation of the pool keeps
the balance; who waits has no part in it.
-/

namespace Interop

def Lease.ids (l : Lease) : List Nat := l.nodes.map Node.id

namespace Pool

/-- The pool without those who wait. -/
def books (p : Pool) : Pool := { p with waiters := [] }

structure Balanced (p : Pool) (held : List Node) : Prop where
  numbered : ∀ (id : Nat) (node : Node), p.nodes[id]? = some node → node.id = id
  genuine : ∀ node ∈ held, p.nodes[node.id]? = some node
  ascending : p.free.Pairwise (· < ·)
  partition : (p.free ++ held.map Node.id).Perm (List.range p.capacity)
  inUse_eq : p.inUse = held.length
  inUse_le_peak : p.inUse ≤ p.peak
  peak_le : p.peak ≤ p.capacity

/-! ## Waiting changes no books -/

@[simp]
theorem books_leave (p : Pool) (ticket : Nat) : (p.leave ticket).books = p.books := rfl

@[simp]
theorem books_enlist (p : Pool) (ticket count : Nat) : (p.enlist ticket count).books = p.books :=
  rfl

@[simp]
theorem books_announce (p : Pool) : p.announce.books = p.books := rfl

theorem Balanced.of_books {p q : Pool} {held : List Node} (h : p.Balanced held)
    (same : q.books = p.books) : q.Balanced held := by
  obtain ⟨nodes, free, inUse, peak, waiters⟩ := p
  obtain ⟨nodes', free', inUse', peak', waiters'⟩ := q
  simp only [books, mk.injEq] at same
  obtain ⟨rfl, rfl, rfl, rfl, -⟩ := same
  exact ⟨h.numbered, h.genuine, h.ascending, h.partition, h.inUse_eq, h.inUse_le_peak, h.peak_le⟩

theorem Balanced.perm {p : Pool} {held held' : List Node} (h : p.Balanced held)
    (same : held.Perm held') : p.Balanced held' where
  numbered := h.numbered
  genuine := fun node mem => h.genuine node (same.mem_iff.mpr mem)
  ascending := h.ascending
  partition := ((same.map Node.id).append_left p.free).symm.trans h.partition
  inUse_eq := by rw [h.inUse_eq, same.length_eq]
  inUse_le_peak := h.inUse_le_peak
  peak_le := h.peak_le

theorem perm_flatMap_eraseIdx {α : Type} {owners : List α} {index : Nat} {owner : α}
    (nodes : α → List Node) (found : owners[index]? = some owner) :
    (nodes owner ++ (owners.eraseIdx index).flatMap nodes).Perm (owners.flatMap nodes) := by
  obtain ⟨inside, rfl⟩ := List.getElem?_eq_some_iff.mp found
  exact (List.getElem_cons_eraseIdx_perm inside).flatMap_right nodes

theorem Balanced.nodup {p : Pool} {held : List Node} (h : p.Balanced held) :
    (p.free ++ held.map Node.id).Nodup :=
  h.partition.nodup_iff.mpr List.nodup_range

theorem Balanced.length_eq {p : Pool} {held : List Node} (h : p.Balanced held) :
    p.free.length + held.length = p.capacity := by
  simpa using h.partition.length_eq

theorem Balanced.books_eq {p q : Pool} {held : List Node} (h : p.Balanced held)
    (h' : q.Balanced held) (nodes : q.nodes = p.nodes) :
    q.books = { p.books with peak := q.peak } := by
  have free : q.free = p.free := by
    have range := h'.partition
    rw [capacity, nodes] at range
    have same := (List.perm_append_right_iff _).mp (range.trans h.partition.symm)
    exact same.eq_of_pairwise (fun _ _ _ _ one other => absurd one (Nat.lt_asymm other))
      h'.ascending h.ascending
  simp only [books, nodes, free, h.inUse_eq, h'.inUse_eq]

theorem Balanced.apart {p : Pool} {held others : List Node} {node : Node}
    (h : p.Balanced (held ++ others)) (mem : node ∈ others) : node ∉ held ∧ node.id ∉ p.free := by
  have distinct := h.nodup
  rw [List.map_append, List.nodup_append, List.nodup_append] at distinct
  obtain ⟨-, ⟨-, -, owners⟩, free⟩ := distinct
  have listed : node.id ∈ others.map Node.id := List.mem_map_of_mem mem
  refine ⟨?_, ?_⟩
  · intro mem'
    exact owners _ (List.mem_map_of_mem mem') _ listed rfl
  · intro mem'
    exact free _ mem' _ (List.mem_append_right _ listed) rfl

/-! ## The nodes stay the same -/

theorem nodes_eq_of_tryAcquire {p q : Pool} {count : Nat} {lease : Lease}
    (granted : p.tryAcquire count = some (lease, q)) : q.nodes = p.nodes := by
  unfold tryAcquire at granted
  split at granted
  · cases granted
  · cases granted
    rfl

@[simp]
theorem nodes_release (p : Pool) (lease : Lease) : (p.release lease).nodes = p.nodes := by
  unfold release
  split <;> rfl

@[simp]
theorem nodes_releaseAll (p : Pool) (leases : List Lease) :
    (p.releaseAll leases).nodes = p.nodes := by
  induction leases generalizing p with
  | nil => rfl
  | cons lease leases ih => exact (ih (p.release lease)).trans (nodes_release p lease)

/-! ## A new pool -/

private theorem getElem?_numberFrom (hosts : List String) (start index : Nat) (node : Node)
    (h : (numberFrom start hosts)[index]? = some node) : node.id = start + index := by
  induction hosts generalizing start index with
  | nil => simp [numberFrom] at h
  | cons host hosts ih =>
      cases index with
      | zero =>
          simp only [numberFrom, List.getElem?_cons_zero, Option.some.injEq] at h
          simp [← h]
      | succ index =>
          have := ih (start + 1) index (by simpa [numberFrom] using h)
          omega

@[simp]
theorem length_numberFrom (hosts : List String) (start : Nat) :
    (numberFrom start hosts).length = hosts.length := by
  induction hosts generalizing start with
  | nil => rfl
  | cons host hosts ih => simp [numberFrom, ih]

@[simp]
theorem capacity_ofHosts (hosts : List String) : (ofHosts hosts).capacity = hosts.length := by
  simp [ofHosts, capacity]

theorem balanced_ofHosts (hosts : List String) : (ofHosts hosts).Balanced [] where
  numbered := by
    intro id node h
    simpa using getElem?_numberFrom hosts 0 id node h
  genuine := by simp
  ascending := List.pairwise_lt_range
  partition := by simp [ofHosts, capacity]
  inUse_eq := rfl
  inUse_le_peak := Nat.le_refl _
  peak_le := Nat.zero_le _

/-! ## Leasing -/

theorem tryAcquire_eq_some {p q : Pool} {count : Nat} {lease : Lease}
    (h : p.tryAcquire count = some (lease, q)) :
    count ≤ p.free.length ∧
      lease = ⟨(p.free.take count).filterMap fun id => p.nodes[id]?⟩ ∧
      q = { p with
            free := p.free.drop count
            inUse := p.inUse + count
            peak := max p.peak (p.inUse + count) } := by
  unfold tryAcquire at h
  split at h
  · cases h
  · next enough =>
      simp only [Option.some.injEq, Prod.mk.injEq] at h
      simp only [available, Nat.not_lt] at enough
      exact ⟨enough, h.1.symm, h.2.symm⟩

private theorem map_id_filterMap {p : Pool}
    (numbered : ∀ (id : Nat) (node : Node), p.nodes[id]? = some node → node.id = id)
    {ids : List Nat} (exist : ∀ id ∈ ids, id < p.capacity) :
    (ids.filterMap fun id => p.nodes[id]?).map Node.id = ids := by
  induction ids with
  | nil => rfl
  | cons id ids ih =>
      have inside : id < p.nodes.length := exist id (by simp)
      have found := List.getElem?_eq_getElem inside
      rw [List.filterMap_cons_some found, List.map_cons, numbered id _ found,
        ih fun other mem => exist other (by simp [mem])]

theorem Balanced.tryAcquire {p q : Pool} {held : List Node} {count : Nat} {lease : Lease}
    (h : p.Balanced held) (granted : p.tryAcquire count = some (lease, q)) :
    q.Balanced (lease.nodes ++ held) ∧ lease.size = count := by
  obtain ⟨enough, rfl, rfl⟩ := tryAcquire_eq_some granted
  have exist : ∀ id ∈ p.free.take count, id < p.capacity := by
    intro id mem
    exact List.mem_range.mp (h.partition.subset (by simp [List.mem_of_mem_take mem]))
  have ids := map_id_filterMap h.numbered exist
  have size : ((p.free.take count).filterMap fun id => p.nodes[id]?).length = count := by
    rw [← List.length_map (f := Node.id), ids, List.length_take_of_le enough]
  have total := h.length_eq
  refine ⟨⟨h.numbered, ?_, h.ascending.drop, ?_, ?_, Nat.le_max_right _ _, ?_⟩, size⟩
  · intro node mem
    rcases List.mem_append.mp mem with mem | mem
    · obtain ⟨id, -, found⟩ := List.mem_filterMap.mp mem
      rw [h.numbered id node found]
      exact found
    · exact h.genuine node mem
  · rw [List.map_append, ids]
    refine List.Perm.trans ?_ h.partition
    rw [← List.append_assoc]
    refine List.Perm.append_right _ ?_
    exact List.perm_append_comm.trans (by rw [List.take_append_drop])
  · simp only [List.length_append, size, h.inUse_eq]
    omega
  · have := h.peak_le
    have := h.inUse_eq
    simp only [capacity] at *
    omega

/-! ## Coming back -/

private theorem perm_insertId {id : Nat} {ids : List Nat} (fresh : id ∉ ids) :
    (insertId id ids).Perm (id :: ids) := by
  induction ids with
  | nil => exact .refl _
  | cons other rest ih =>
      simp only [List.mem_cons, not_or] at fresh
      simp only [insertId]
      split
      · exact .refl _
      · rw [if_neg fresh.1]
        exact ((ih fresh.2).cons other).trans (.swap id other rest)

private theorem foldl_insertId {nodes : List Node} {free : List Nat}
    (ascending : free.Pairwise (· < ·)) (fresh : (free ++ nodes.map Node.id).Nodup) :
    (nodes.foldl (fun free node => insertId node.id free) free).Pairwise (· < ·) ∧
      (nodes.foldl (fun free node => insertId node.id free) free).Perm
        (free ++ nodes.map Node.id) := by
  induction nodes generalizing free with
  | nil => simpa using ascending
  | cons node nodes ih =>
      have moved : (free ++ (node :: nodes).map Node.id).Perm
          (node.id :: free ++ nodes.map Node.id) := by
        simp
      have absent : node.id ∉ free := by
        have := moved.nodup_iff.mp fresh
        simp only [List.cons_append, List.nodup_cons, List.mem_append, not_or] at this
        exact this.1.1
      have inserted := (perm_insertId absent).append_right (nodes.map Node.id)
      obtain ⟨ascends, same⟩ := ih (pairwise_insertId node.id ascending)
        (inserted.nodup_iff.mpr (moved.nodup_iff.mp fresh))
      exact ⟨ascends, same.trans (inserted.trans moved.symm)⟩

theorem Balanced.giveBack {p : Pool} {lease : Lease} {held : List Node}
    (h : p.Balanced (lease.nodes ++ held)) : (p.giveBack lease).Balanced held := by
  have apart : (p.free ++ lease.nodes.map Node.id).Nodup := by
    have := h.nodup
    rw [List.map_append, ← List.append_assoc] at this
    exact (List.nodup_append.mp this).1
  obtain ⟨ascends, same⟩ := foldl_insertId h.ascending apart
  have counted := h.inUse_eq
  rw [List.length_append] at counted
  refine ⟨h.numbered, ?_, ascends, ?_, ?_, ?_, h.peak_le⟩
  · intro node mem
    exact h.genuine node (by simp [mem])
  · refine (same.append_right (held.map Node.id)).trans ?_
    rw [List.append_assoc, ← List.map_append]
    exact h.partition
  · simp only [Pool.giveBack, Lease.size]
    omega
  · have := h.inUse_le_peak
    simp only [Pool.giveBack]
    omega

theorem Balanced.release {p : Pool} {lease : Lease} {held : List Node}
    (h : p.Balanced (lease.nodes ++ held)) : (p.release lease).Balanced held := by
  unfold Pool.release
  split
  · next empty =>
      simpa [List.isEmpty_iff.mp empty] using h
  · exact h.giveBack.of_books (books_announce _)

theorem Balanced.releaseAll {p : Pool} {leases : List Lease} {held : List Node}
    (h : p.Balanced (leases.flatMap Lease.nodes ++ held)) :
    (p.releaseAll leases).Balanced held := by
  induction leases generalizing p with
  | nil => exact h
  | cons lease leases ih =>
      rw [List.flatMap_cons, List.append_assoc] at h
      exact ih h.release

end Pool

end Interop
