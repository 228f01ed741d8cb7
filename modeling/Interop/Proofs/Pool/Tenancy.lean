import Interop.Proofs.Pool.Balance
import Mathlib.Data.List.Nodup
import Mathlib.Order.Bounds.Defs

/-!
# Leases from one pool

Any number of tasks lease nodes from one pool, wait for nodes, give up, join and split leases
and drop them.  Nothing orders their moves.  Whoever acquires nodes first sees whether the pool
is large enough and joins the line, then looks, and looks again whenever it is woken; a dropped
lease first gives its nodes back and wakes the line afterwards, and an empty one does neither.

The books of the pool balance with the leases that are alive, whatever the order of the moves.
-/

namespace Interop

/-- A pool with the leases that are alive, in no particular order. -/
structure Tenancy where
  pool : Pool
  leases : List Lease

inductive TenancyMove
  | tryAcquire (count : Nat)
  /-- A task joins the line, unless the pool is too small for it. -/
  | call (ticket count : Nat)
  | look (ticket count : Nat)
  | giveUp (ticket : Nat)
  | absorb (keeper other : Nat)
  | splitOff (lease count : Nat)
  | drop (lease : Nat)
  | announce

namespace TenancyMove

def count? : TenancyMove → Option Nat
  | .tryAcquire count | .look _ count => some count
  | _ => none

/-- The move is part of asking for nodes. -/
def isRequest : TenancyMove → Bool
  | .tryAcquire _ | .call _ _ | .look _ _ | .giveUp _ => true
  | _ => false

end TenancyMove

namespace Tenancy

def ofHosts (hosts : List String) : Tenancy := ⟨.ofHosts hosts, []⟩

def held (t : Tenancy) : List Node := t.leases.flatMap Lease.nodes

def welcome (t : Tenancy) : Option Lease × Pool → Option Lease × Tenancy
  | (some lease, pool) => (some lease, ⟨pool, lease :: t.leases⟩)
  | (none, pool) => (none, { t with pool })

/-- One move, and the lease that it grants. -/
def step (t : Tenancy) : TenancyMove → Option Lease × Tenancy
  | .tryAcquire count =>
    match t.pool.tryAcquire count with
    | some (lease, pool) => t.welcome (some lease, pool)
    | none => (none, t)
  | .call ticket count =>
    if t.pool.capacity < count then (none, t)
    else (none, { t with pool := t.pool.enlist ticket count })
  | .look ticket count => t.welcome (t.pool.look ticket count)
  | .giveUp ticket => (none, { t with pool := t.pool.leave ticket })
  | .absorb keeper other =>
    match t.leases[keeper]?, (t.leases.eraseIdx keeper)[other]? with
    | some lease, some more =>
      (none, { t with
        leases := lease.absorb more :: (t.leases.eraseIdx keeper).eraseIdx other })
    | _, _ => (none, t)
  | .splitOff index count =>
    match t.leases[index]? with
    | some lease =>
      match lease.splitOff count with
      | some (taken, rest) =>
        (none, { t with leases := taken :: rest :: t.leases.eraseIdx index })
      | none => (none, t)
    | none => (none, t)
  | .drop index =>
    match t.leases[index]? with
    | some lease =>
      (none,
        { pool := if lease.nodes.isEmpty then t.pool else t.pool.giveBack lease
          leases := t.leases.eraseIdx index })
    | none => (none, t)
  | .announce => (none, { t with pool := t.pool.announce })

def run (t : Tenancy) (moves : List TenancyMove) : Tenancy :=
  moves.foldl (fun t move => (t.step move).2) t

/-- All states of a run, the first and the last one included. -/
def trail (t : Tenancy) : List TenancyMove → List Tenancy
  | [] => [t]
  | move :: moves => t :: trail (t.step move).2 moves

/-! ## One move -/

def Fair (t : Tenancy) (others : List Node) : Prop := t.pool.Balanced (t.held ++ others)

theorem fair_ofHosts (hosts : List String) : (ofHosts hosts).Fair [] :=
  Pool.balanced_ofHosts hosts

variable {others : List Node}

private theorem Fair.grant {t : Tenancy} {count : Nat} {lease : Lease} {pool : Pool}
    (fair : t.Fair others) (granted : t.pool.tryAcquire count = some (lease, pool)) :
    (mk pool (lease :: t.leases)).Fair others ∧ pool.peak = max t.pool.peak pool.inUse := by
  refine ⟨?_, ?_⟩
  · have := (Pool.Balanced.tryAcquire fair granted).1
    rwa [← List.append_assoc] at this
  · obtain ⟨-, -, rfl⟩ := Pool.tryAcquire_eq_some granted
    rfl

theorem look_eq (p : Pool) (ticket count : Nat) :
    p.look ticket count =
      match p.tryAcquire count with
      | some (lease, q) => (some lease, q.leave ticket)
      | none => (none, p) := rfl

theorem Fair.step {t : Tenancy} (fair : t.Fair others) (move : TenancyMove) :
    (t.step move).2.Fair others ∧
      (t.step move).2.pool.peak = max t.pool.peak (t.step move).2.pool.inUse := by
  have low := fair.inUse_le_peak
  -- A move that leases nothing leaves the peak where it is.
  have still : t.pool.peak = max t.pool.peak t.pool.inUse := by omega
  cases move with
  | tryAcquire count =>
      simp only [Tenancy.step]
      split
      · next lease pool granted =>
          exact fair.grant granted
      · exact ⟨fair, still⟩
  | call ticket count =>
      simp only [Tenancy.step]
      split
      · exact ⟨fair, still⟩
      · exact ⟨Pool.Balanced.of_books fair (Pool.books_enlist _ _ _), still⟩
  | look ticket count =>
      simp only [Tenancy.step, look_eq]
      split
      · next lease pool granted =>
          obtain ⟨fair, peak⟩ := fair.grant granted
          exact ⟨Pool.Balanced.of_books fair (Pool.books_leave _ _), peak⟩
      · exact ⟨fair, still⟩
  | giveUp ticket => exact ⟨Pool.Balanced.of_books fair (Pool.books_leave _ _), still⟩
  | absorb keeper other =>
      simp only [Tenancy.step]
      split
      · next lease more found foundMore =>
          refine ⟨Pool.Balanced.perm fair (.append_right others ?_), still⟩
          refine (Pool.perm_flatMap_eraseIdx Lease.nodes found).symm.trans ?_
          have apart := Pool.perm_flatMap_eraseIdx Lease.nodes foundMore
          simpa [held, Lease.absorb] using apart.symm.append_left lease.nodes
      · exact ⟨fair, still⟩
  | splitOff index count =>
      simp only [Tenancy.step]
      split
      · next lease found =>
          split
          · next taken rest parted =>
              refine ⟨Pool.Balanced.perm fair (.append_right others ?_), still⟩
              have whole := Lease.absorb_of_splitOff parted
              refine (Pool.perm_flatMap_eraseIdx Lease.nodes found).symm.trans ?_
              simp [held, ← whole, Lease.absorb]
          · exact ⟨fair, still⟩
      · exact ⟨fair, still⟩
  | drop index =>
      simp only [Tenancy.step]
      split
      · next lease found =>
          have moved := (Pool.perm_flatMap_eraseIdx Lease.nodes found).symm.append_right others
          have apart := Pool.Balanced.perm fair moved
          rw [List.append_assoc] at apart
          split
          · next empty =>
              rw [List.isEmpty_iff.mp empty] at apart
              exact ⟨apart, still⟩
          · refine ⟨apart.giveBack, ?_⟩
            simp only [Pool.giveBack]
            omega
      · exact ⟨fair, still⟩
  | announce => exact ⟨Pool.Balanced.of_books fair (Pool.books_announce _), still⟩

/-- What is granted has the size that was asked for and belongs to the leases from then on. -/
theorem Fair.granted {t t' : Tenancy} {move : TenancyMove} {lease : Lease} (fair : t.Fair others)
    (h : t.step move = (some lease, t')) :
    move.count? = some lease.size ∧ t'.leases = lease :: t.leases := by
  cases move with
  | tryAcquire count =>
      simp only [Tenancy.step] at h
      split at h
      · next found pool granted =>
          obtain ⟨rfl, rfl⟩ : found = lease ∧ _ = t' := by simpa [welcome] using h
          exact ⟨congrArg some (Pool.Balanced.tryAcquire fair granted).2.symm, rfl⟩
      · cases h
  | look ticket count =>
      simp only [Tenancy.step, look_eq] at h
      split at h
      · next found pool granted =>
          obtain ⟨rfl, rfl⟩ : found = lease ∧ _ = t' := by simpa [welcome] using h
          exact ⟨congrArg some (Pool.Balanced.tryAcquire fair granted).2.symm, rfl⟩
      · cases h
  | call ticket count =>
      simp only [Tenancy.step] at h
      split at h <;> cases h
  | absorb keeper other =>
      simp only [Tenancy.step] at h
      split at h <;> cases h
  | splitOff index count =>
      simp only [Tenancy.step] at h
      repeat' split at h
      all_goals cases h
  | drop index =>
      simp only [Tenancy.step] at h
      split at h <;> cases h
  | giveUp ticket => cases h
  | announce => cases h

private theorem step_of_not_granted {t t' : Tenancy} {move : TenancyMove}
    (asks : move.isRequest = true)
    (h : t.step move = (none, t')) : t'.pool.books = t.pool.books ∧ t'.leases = t.leases := by
  cases move with
  | tryAcquire count =>
      simp only [Tenancy.step] at h
      split at h
      · cases h
      · cases h
        exact ⟨rfl, rfl⟩
  | call ticket count =>
      simp only [Tenancy.step] at h
      split at h <;> cases h <;> exact ⟨rfl, rfl⟩
  | look ticket count =>
      simp only [Tenancy.step, look_eq] at h
      split at h <;> cases h
      exact ⟨rfl, rfl⟩
  | giveUp ticket =>
      cases h
      exact ⟨rfl, rfl⟩
  | absorb | splitOff | drop | announce => cases asks

/-! ## Runs -/

theorem Fair.run {t : Tenancy} (fair : t.Fair others) (moves : List TenancyMove) :
    (t.run moves).Fair others := by
  induction moves generalizing t with
  | nil => exact fair
  | cons move moves ih => exact ih (fair.step move).1

theorem nodes_step (t : Tenancy) (move : TenancyMove) :
    (t.step move).2.pool.nodes = t.pool.nodes := by
  cases move with
  | tryAcquire count =>
      simp only [step]
      split
      · next granted => exact Pool.nodes_eq_of_tryAcquire granted
      · rfl
  | look ticket count =>
      simp only [step, look_eq]
      split
      · next lease pool granted => exact Pool.nodes_eq_of_tryAcquire (q := pool) granted
      · rfl
  | drop index =>
      simp only [step]
      split
      · split <;> rfl
      · rfl
  | call | absorb | splitOff =>
      simp only [step]
      repeat' split
      all_goals rfl
  | giveUp | announce => rfl

private theorem capacity_run (t : Tenancy) (moves : List TenancyMove) :
    (t.run moves).pool.capacity = t.pool.capacity := by
  induction moves generalizing t with
  | nil => rfl
  | cons move moves ih => exact (ih _).trans (congrArg List.length (nodes_step t move))

/-- The peak is the largest number of nodes on lease in any state of the run, unless it was
higher before. -/
theorem Fair.isGreatest_peak {t : Tenancy} (fair : t.Fair others) (moves : List TenancyMove) :
    IsGreatest {n | n = t.pool.peak ∨ ∃ u ∈ t.trail moves, u.pool.inUse = n}
      (t.run moves).pool.peak := by
  induction moves generalizing t with
  | nil =>
      refine ⟨.inl rfl, ?_⟩
      rintro n (rfl | ⟨u, mem, rfl⟩)
      · exact Nat.le_refl _
      · rw [List.mem_singleton.mp mem]
        exact fair.inUse_le_peak
  | cons move moves ih =>
      obtain ⟨next, peak⟩ := fair.step move
      obtain ⟨reached, highest⟩ := ih next
      have low := fair.inUse_le_peak
      have above : max t.pool.peak (t.step move).2.pool.inUse ≤
          ((t.step move).2.run moves).pool.peak := peak ▸ highest (.inl rfl)
      refine ⟨?_, ?_⟩
      · rcases reached with h | ⟨u, mem, h⟩
        · rcases Nat.le_total (t.step move).2.pool.inUse t.pool.peak with le | le
          · exact .inl (by change ((t.step move).2.run moves).pool.peak = _; omega)
          · refine .inr ⟨(t.step move).2, List.mem_cons_of_mem _ ?_, ?_⟩
            · cases moves <;> simp [trail]
            · change _ = ((t.step move).2.run moves).pool.peak
              omega
        · exact .inr ⟨u, List.mem_cons_of_mem _ mem, h⟩
      · rintro n (rfl | ⟨u, mem, rfl⟩)
        · exact Nat.le_trans (Nat.le_max_left _ _) above
        · rcases List.mem_cons.mp mem with rfl | mem
          · exact Nat.le_trans low (Nat.le_trans (Nat.le_max_left _ _) above)
          · exact highest (.inr ⟨u, mem, rfl⟩)

private theorem Fair.size_le_inUse {t : Tenancy} (fair : t.Fair others) {lease : Lease}
    (mem : lease ∈ t.leases) : lease.size ≤ t.pool.inUse := by
  rw [fair.inUse_eq, List.length_append]
  exact Nat.le_add_right_of_le (List.sublist_flatten_of_mem (List.mem_map_of_mem mem)).length_le

private theorem Fair.pairwise_disjoint {t : Tenancy} (fair : t.Fair others) :
    t.leases.Pairwise fun one other => ∀ node ∈ one.nodes, node ∉ other.nodes := by
  have distinct : (t.held ++ others).Nodup := .of_map Node.id (List.nodup_append.mp fair.nodup).2.1
  have distinct : t.held.Nodup := (List.nodup_append.mp distinct).1
  refine (List.nodup_flatMap.mp distinct).2.imp ?_
  intro one other apart node mem
  exact apart mem

/-- In every state of every run, the free nodes and the nodes of the leases that are alive are
the nodes of the pool, each once.  The counters tell how many are on lease and how many were at
most; a request gets what it asks for or changes nothing; and no lease is larger than the count
from which it will be subtracted. -/
theorem partition_of_run (hosts : List String) (moves : List TenancyMove) :
    let t := (ofHosts hosts).run moves
    (t.pool.free ++ t.leases.flatMap Lease.ids).Perm (List.range hosts.length) ∧
      (∀ lease ∈ t.leases, ∀ node ∈ lease.nodes, t.pool.nodes[node.id]? = some node) ∧
      t.pool.inUse = hosts.length - t.pool.free.length ∧
      t.pool.inUse ≤ t.pool.peak ∧ t.pool.peak ≤ hosts.length ∧
      IsGreatest {n | ∃ u ∈ (ofHosts hosts).trail moves, u.pool.inUse = n} t.pool.peak ∧
      (∀ count, (t.step (.tryAcquire count)).1.isSome ↔ count ≤ t.pool.free.length) ∧
      (∀ ticket count, (t.step (.look ticket count)).1.isSome ↔ count ≤ t.pool.free.length) ∧
      (∀ move lease t', t.step move = (some lease, t') →
        move.count? = some lease.size ∧ t'.leases = lease :: t.leases) ∧
      (∀ move t', move.isRequest = true → t.step move = (none, t') →
        t'.pool.books = t.pool.books ∧ t'.leases = t.leases) ∧
      (∀ lease ∈ t.leases, lease.size ≤ t.pool.inUse) ∧
      t.leases.Pairwise fun one other => ∀ node ∈ one.nodes, node ∉ other.nodes := by
  intro t
  have fair : t.Fair [] := (fair_ofHosts hosts).run moves
  have capacity : t.pool.capacity = hosts.length := by
    rw [capacity_run]
    exact Pool.capacity_ofHosts hosts
  have total := fair.length_eq
  have counted := fair.inUse_eq
  refine ⟨?_, ?_, by omega, fair.inUse_le_peak, capacity ▸ fair.peak_le, ?_, ?_, ?_,
    fun move lease t' h => fair.granted h, fun move t' asks h => step_of_not_granted asks h,
    fun lease mem => fair.size_le_inUse mem, fair.pairwise_disjoint⟩
  · have := fair.partition
    rwa [held, List.append_nil, List.map_flatMap, capacity] at this
  · intro lease mem node within
    exact fair.genuine node (List.mem_append_left _ (List.mem_flatMap.mpr ⟨lease, mem, within⟩))
  · have greatest := (fair_ofHosts hosts).isGreatest_peak moves
    convert greatest using 1
    ext n
    constructor
    · exact .inr
    · rintro (rfl | reached)
      · exact ⟨ofHosts hosts, by cases moves <;> simp [trail], rfl⟩
      · exact reached
  · intro count
    refine Iff.trans ?_ (Pool.isSome_tryAcquire (p := t.pool))
    simp only [step]
    cases t.pool.tryAcquire count <;> rfl
  · intro ticket count
    refine Iff.trans ?_ (Pool.isSome_tryAcquire (p := t.pool))
    simp only [step, look_eq]
    cases t.pool.tryAcquire count <;> rfl

end Tenancy

end Interop
