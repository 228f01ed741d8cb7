import Interop.Proofs.Execution.Sharing
import Interop.Proofs.Service.Endpoints

/-!
# Ports on a shared pool

Servers of any cases run on nodes of one pool at the same time.  Nodes that are on lease have
different numbers, so servers with the same connector port never have an endpoint in common.
With different connector ports they may: the port of one and the number of its node then add up
to what the other one has on the same host.
-/

namespace Interop

/-! ## Leases -/

def Wait.lease? : Wait → Option Lease
  | .materialization _ lease => some lease
  | _ => none

private theorem Wait.flatMap_lease?
    (wait : Wait) : wait.lease?.toList.flatMap Lease.nodes = wait.held := by
  cases wait <;> simp [Wait.lease?, Wait.held]

def Execution.leases (e : Execution) : List Lease :=
  e.controller.leases ++ ((e.operation?.map Operation.wait).bind Wait.lease?).toList

private theorem Execution.flatMap_leases
    (e : Execution) : e.leases.flatMap Lease.nodes = e.held := by
  rw [Execution.leases, Execution.held, List.flatMap_append, Controller.held]
  cases e.operation? with
  | none => rfl
  | some operation => rw [Option.map_some, Option.bind_some, Wait.flatMap_lease?]; rfl

/-! ## Endpoints -/

namespace Commanded.Serves

variable {p q : Nat} {one other : List Node} {a b : Commanded}

private theorem nodup_endpoints (distinct : (one.map Node.id).Nodup) (serves : Serves p one a) :
    a.endpoints.Nodup := by
  rw [serves.endpoints_eq]
  refine List.Nodup.of_map Endpoint.port ?_
  -- The ports are the numbers of the nodes that fit, all moved by the port of the connector.
  have ports : ((one.filter fun node => node.Fits p).map (Node.endpointAt p)).map Endpoint.port =
      ((one.filter fun node => node.Fits p).map Node.id).map (p + ·) := by
    simp [Node.endpointAt]
  rw [ports]
  exact (distinct.sublist (List.filter_sublist.map Node.id)).map fun _ _ => Nat.add_left_cancel

/-- Two servers have an endpoint in common if and only if two of their nodes have the host and
the port in common. -/
theorem common_iff (serves : Serves p one a) (serves' : Serves q other b) :
    (∃ e ∈ a.endpoints, e ∈ b.endpoints) ↔
      ∃ m ∈ one, ∃ n ∈ other, m.host = n.host ∧ p + m.id = q + n.id ∧ m.Fits p := by
  simp only [serves.mem_endpoints, serves'.mem_endpoints]
  constructor
  · rintro ⟨e, ⟨m, mem, fits, rfl⟩, n, mem', -, same⟩
    obtain ⟨host, port⟩ : n.host = m.host ∧ q + n.id = p + m.id := Endpoint.mk.inj same
    exact ⟨m, mem, n, mem', host.symm, port.symm, fits⟩
  · rintro ⟨m, mem, n, mem', host, port, fits⟩
    refine ⟨m.endpointAt p, ⟨m, mem, fits, rfl⟩, n, mem', ?_, ?_⟩
    · rwa [Node.Fits, ← port]
    · rw [Node.endpointAt, Node.endpointAt, host, port]

end Commanded.Serves

/-! ## Leases that are alive -/

namespace Sharing

/-- The leases that are alive, of the cases and of the others. -/
def alive (s : Sharing) : List Lease := s.cases.flatMap Execution.leases ++ s.leases

theorem flatMap_alive (s : Sharing) :
    s.alive.flatMap Lease.nodes =
      s.cases.flatMap Execution.held ++ s.leases.flatMap Lease.nodes := by
  rw [alive, List.flatMap_append, List.flatMap_assoc]
  simp only [Execution.flatMap_leases]

variable {s : Sharing}

theorem Sound.nodup_ids (sound : s.Sound) : (s.alive.flatMap Lease.ids).Nodup := by
  have distinct := (List.nodup_append.mp sound.balanced.nodup).2.1
  rwa [← flatMap_alive, List.map_flatMap] at distinct

private theorem Sound.pairwise_ids (sound : s.Sound) :
    s.alive.Pairwise fun one other => ∀ m ∈ one.nodes, ∀ n ∈ other.nodes, m.id ≠ n.id := by
  refine (List.nodup_flatMap.mp sound.nodup_ids).2.imp ?_
  intro one other apart m mem n mem' same
  exact apart (List.mem_map_of_mem mem) (same ▸ List.mem_map_of_mem mem')

private theorem Sound.id_lt (sound : s.Sound) {lease : Lease} (mem : lease ∈ s.alive) {node : Node}
    (within : node ∈ lease.nodes) : node.id < s.pool.capacity := by
  have held : node ∈ s.alive.flatMap Lease.nodes := List.mem_flatMap.mpr ⟨lease, mem, within⟩
  rw [flatMap_alive] at held
  exact (List.getElem?_eq_some_iff.mp (sound.balanced.genuine node held)).1

/-- In every state of every run, whatever servers live on the leases that are alive: two of them
have an endpoint in common if and only if they have nodes on one host whose numbers make up for
the difference of their connector ports.  That cannot be when the connector ports are the same,
nor when the size of the pool lies between them.  The endpoints of one server are distinct. -/
theorem common_endpoint_iff (hosts : List String) (moves : List SharingMove) :
    let s := (ofHosts hosts).run moves
    (s.alive.Pairwise fun one other => ∀ (p q : Nat) (a b : Commanded),
      Commanded.Serves p one.nodes a → Commanded.Serves q other.nodes b →
        ((∃ e ∈ a.endpoints, e ∈ b.endpoints) ↔
          ∃ m ∈ one.nodes, ∃ n ∈ other.nodes,
            m.host = n.host ∧ p + m.id = q + n.id ∧ m.Fits p) ∧
        (p = q ∨ p + hosts.length ≤ q ∨ q + hosts.length ≤ p →
          ∀ e ∈ a.endpoints, e ∉ b.endpoints)) ∧
      ∀ lease ∈ s.alive, ∀ (p : Nat) (a : Commanded),
        Commanded.Serves p lease.nodes a → a.endpoints.Nodup := by
  intro s
  have sound : s.Sound := ((sound_ofHosts hosts).run moves).1
  have capacity : s.pool.capacity = hosts.length := capacity_run hosts moves
  refine ⟨?_, fun lease mem p a serves => serves.nodup_endpoints ?_⟩
  · refine sound.pairwise_ids.imp_of_mem ?_
    intro one other mem mem' apart p q a b serves serves'
    have common := serves.common_iff serves'
    refine ⟨common, fun far e shown shown' => ?_⟩
    obtain ⟨m, within, n, within', -, port, -⟩ := common.mp ⟨e, shown, shown'⟩
    have differ := apart m within n within'
    have low := sound.id_lt mem within
    have low' := sound.id_lt mem' within'
    rw [capacity] at low low'
    omega
  · exact (List.nodup_flatMap.mp sound.nodup_ids).1 lease mem

/-- Two leases of one node each, on one host. -/
def neighbours : Sharing :=
  (ofHosts ["127.0.0.1", "127.0.0.1"]).run [.lend (.tryAcquire 1), .lend (.tryAcquire 1)]

theorem apart_of_neighbours :
    neighbours.alive = [⟨[⟨1, "127.0.0.1"⟩]⟩, ⟨[⟨0, "127.0.0.1"⟩]⟩] ∧
      ∃ a b, Commanded.Serves 10800 [⟨1, "127.0.0.1"⟩] a ∧
        Commanded.Serves 10800 [⟨0, "127.0.0.1"⟩] b ∧
        a.endpoints ≠ [] ∧ ∀ e ∈ a.endpoints, e ∉ b.endpoints := by
  have alive : neighbours.alive = [⟨[⟨1, "127.0.0.1"⟩]⟩, ⟨[⟨0, "127.0.0.1"⟩]⟩] := rfl
  have serves := Commanded.serves_sleeper Commanded.restlessWork 10800 [⟨1, "127.0.0.1"⟩]
  have serves' := Commanded.serves_sleeper Commanded.restlessWork 10800 [⟨0, "127.0.0.1"⟩]
  have apart : neighbours.alive.Pairwise _ := (common_endpoint_iff _ _).1
  rw [alive] at apart
  have pair := (List.pairwise_cons.mp apart).1 _ (List.mem_singleton.mpr rfl) _ _ _ _ serves serves'
  refine ⟨alive, _, _, serves, serves', ?_, pair.2 (.inl rfl)⟩
  simp [serves.endpoints_eq, Node.Fits, Network.maxPort]

/-- The connector of the server on the first node is one above that on the second node. -/
theorem common_endpoint_of_neighbours :
    neighbours.alive = [⟨[⟨1, "127.0.0.1"⟩]⟩, ⟨[⟨0, "127.0.0.1"⟩]⟩] ∧
      ∃ a b, Commanded.Serves 10800 [⟨1, "127.0.0.1"⟩] a ∧
        Commanded.Serves 10801 [⟨0, "127.0.0.1"⟩] b ∧
        a.endpoints = [⟨"127.0.0.1", 10801⟩] ∧ b.endpoints = [⟨"127.0.0.1", 10801⟩] := by
  refine ⟨rfl, _, _, Commanded.serves_sleeper Commanded.restlessWork _ _,
    Commanded.serves_sleeper Commanded.restlessWork _ _, ?_, ?_⟩
  · exact (Commanded.serves_sleeper Commanded.restlessWork _ _).endpoints_eq
  · exact (Commanded.serves_sleeper Commanded.restlessWork _ _).endpoints_eq

end Sharing

end Interop
