import Interop.Text.Blank

/-!
# The node pool

The nodes of a test bed are the only thing that concurrent cases share.  Nodes are leased all
or nothing, lowest numbers first.  Whoever finds too few free nodes waits; a release first
inserts the returned nodes and then wakes everyone who waits, and a woken waiter tries again
from the end of the line.
-/

namespace Interop

structure Node where
  id : Nat
  host : String
  deriving DecidableEq, Repr, Inhabited

def Node.label (n : Node) : String := s!"{n.host}#{n.id}"

structure Lease where
  nodes : List Node
  deriving DecidableEq, Repr, Inhabited

namespace Lease

def size (l : Lease) : Nat := l.nodes.length

def absorb (l other : Lease) : Lease := ⟨l.nodes ++ other.nodes⟩

/-- Moves the first `count` nodes into a lease of their own: the part taken and the rest.
The nodes never pass through the pool. -/
def splitOff (l : Lease) (count : Nat) : Option (Lease × Lease) :=
  if l.size < count then none else some (⟨l.nodes.take count⟩, ⟨l.nodes.drop count⟩)

theorem size_of_splitOff {l taken rest : Lease} {count : Nat}
    (h : l.splitOff count = some (taken, rest)) : taken.size = count := by
  unfold splitOff at h
  split at h
  · cases h
  · cases h
    simp only [size] at *
    simp
    omega

theorem absorb_of_splitOff {l taken rest : Lease} {count : Nat}
    (h : l.splitOff count = some (taken, rest)) : taken.absorb rest = l := by
  unfold splitOff at h
  split at h
  · cases h
  · cases h
    simp [absorb]

end Lease

/-- Someone who waits for nodes: a ticket, the number of nodes wanted, and whether a release
has been announced since the ticket was drawn. -/
structure Waiter where
  ticket : Nat
  count : Nat
  woken : Bool
  deriving DecidableEq, Repr, Inhabited

structure Pool where
  nodes : List Node
  free : List Nat
  /-- Nodes on lease, counted apart from the free ones. -/
  inUse : Nat
  peak : Nat
  waiters : List Waiter
  deriving DecidableEq, Repr, Inhabited

namespace Pool

def numberFrom : Nat → List String → List Node
  | _, [] => []
  | id, host :: hosts => ⟨id, host⟩ :: numberFrom (id + 1) hosts

def ofHosts (hosts : List String) : Pool :=
  { nodes := numberFrom 0 hosts
    free := List.range hosts.length
    inUse := 0, peak := 0, waiters := [] }

def capacity (p : Pool) : Nat := p.nodes.length

def available (p : Pool) : Nat := p.free.length

/-- Inserts a number into an ascending list; one that is there already adds nothing. -/
def insertId (id : Nat) : List Nat → List Nat
  | [] => [id]
  | other :: rest =>
    if id < other then id :: other :: rest
    else if id = other then other :: rest
    else other :: insertId id rest

private theorem mem_insertId {id x : Nat}
    {ids : List Nat} : x ∈ insertId id ids ↔ x = id ∨ x ∈ ids := by
  induction ids with
  | nil => simp [insertId]
  | cons other rest ih =>
    simp only [insertId]
    split
    · simp
    · split
      · simp_all
      · simp only [List.mem_cons, ih]
        exact or_left_comm

theorem pairwise_insertId (id : Nat) {ids : List Nat} (h : ids.Pairwise (· < ·)) :
    (insertId id ids).Pairwise (· < ·) := by
  induction ids with
  | nil => simp [insertId]
  | cons other rest ih =>
    have ⟨least, ascending⟩ := List.pairwise_cons.mp h
    simp only [insertId]
    split
    · refine List.pairwise_cons.mpr ⟨?_, h⟩
      intro x hx
      rcases List.mem_cons.mp hx with rfl | hx
      · assumption
      · have := least x hx
        omega
    · split
      · exact h
      · refine List.pairwise_cons.mpr ⟨?_, ih ascending⟩
        intro x hx
        rcases mem_insertId.mp hx with rfl | hx
        · omega
        · exact least x hx

/-! ## Leasing -/

def tryAcquire (p : Pool) (count : Nat) : Option (Lease × Pool) :=
  if p.available < count then none
  else
    let taken := p.free.take count
    let inUse := p.inUse + count
    some (⟨taken.filterMap fun id => p.nodes[id]?⟩,
      { p with free := p.free.drop count, inUse, peak := max p.peak inUse })

theorem isSome_tryAcquire {p : Pool} {count : Nat} :
    (p.tryAcquire count).isSome ↔ count ≤ p.available := by
  unfold tryAcquire
  split <;> simp <;> omega

def giveBack (p : Pool) (lease : Lease) : Pool :=
  { p with
    free := lease.nodes.foldl (fun free node => insertId node.id free) p.free
    inUse := p.inUse - lease.size }

def announce (p : Pool) : Pool :=
  { p with waiters := p.waiters.map fun waiter => { waiter with woken := true } }

def release (p : Pool) (lease : Lease) : Pool :=
  if lease.nodes.isEmpty then p else (p.giveBack lease).announce

def releaseAll (p : Pool) (leases : List Lease) : Pool := leases.foldl release p

/-! ## Waiting -/

def leave (p : Pool) (ticket : Nat) : Pool :=
  { p with waiters := p.waiters.filter fun waiter => waiter.ticket != ticket }

/-- Draws a ticket at the end of the line; an earlier one of the same number is given back. -/
def enlist (p : Pool) (ticket count : Nat) : Pool :=
  let p := p.leave ticket
  { p with waiters := p.waiters ++ [⟨ticket, count, false⟩] }

def isWoken (p : Pool) (ticket : Nat) : Bool :=
  p.waiters.any fun waiter => waiter.ticket == ticket && waiter.woken

/-- Looks for nodes as the owner of a ticket, and gives the ticket back when there are
enough. -/
def look (p : Pool) (ticket count : Nat) : Option Lease × Pool :=
  match p.tryAcquire count with
  | some (lease, p) => (some lease, p.leave ticket)
  | none => (none, p)

/-- One attempt of a waiting owner: draws a ticket before it looks, so that no release between
the look and the wait is missed. -/
def attempt (p : Pool) (ticket count : Nat) : Option Lease × Pool :=
  (p.enlist ticket count).look ticket count

def summary (p : Pool) : String :=
  "NodePool \x7b capacity: " ++ toString p.capacity ++ ", available: " ++
    toString p.available ++ " \x7d"

end Pool

end Interop
