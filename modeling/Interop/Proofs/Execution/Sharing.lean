import Interop.Proofs.Execution.Strides
import Interop.Proofs.Lifecycle.Custody
import Interop.Proofs.Pool.Tenancy

/-!
# Cases that share a pool

Any number of cases draw their nodes from one pool, beside others who lease nodes from it.
They move in any order, and every move of a case may be the one that cuts it off or breaks it
down.  A node of the pool is free, with one case or with one of the others, and a case that is
over has none.
-/

namespace Interop

/-- The nodes that a case has anywhere. -/
def Execution.held (e : Execution) : List Node :=
  e.controller.held ++ inHand (e.operation?.map Operation.wait)

structure Sharing where
  pool : Pool
  cases : List Execution
  leases : List Lease

inductive SharingMove
  | enrol (config : Config) (test : Test) (case : TestCase)
  | play (index : Nat) (now : Instant) (signal : AbortSignal) (move : CaseMove)
  | lend (move : TenancyMove)

namespace Sharing

def ofHosts (hosts : List String) : Sharing := ⟨.ofHosts hosts, [], []⟩

def step (s : Sharing) : SharingMove → Sharing
  | .enrol config test case => { s with cases := s.cases ++ [.ofCase config test case] }
  | .play index now signal move =>
    match s.cases[index]? with
    | some e =>
      let (e, pool) := e.step now index signal move s.pool
      { s with pool, cases := s.cases.set index e }
    | none => s
  | .lend move =>
    let t := ((Tenancy.mk s.pool s.leases).step move).2
    { s with pool := t.pool, leases := t.leases }

def run (s : Sharing) (moves : List SharingMove) : Sharing := moves.foldl step s

/-- The nodes that the others and all cases but one have. -/
def heldBut (s : Sharing) (index : Nat) : List Node :=
  (s.cases.eraseIdx index).flatMap Execution.held ++ s.leases.flatMap Lease.nodes

/-! ## One case -/

variable {others : List Node} {e : Execution} {p : Pool}

def Keeps (others : List Node) (m : Execution.Moment) : Prop := Custody others m.site m.wait?

private theorem Keeps.abandoned (h : Keeps others (e.moment p)) (ticket : Nat) :
    Keeps others (e.abandoned ticket p) := by
  unfold Execution.abandoned
  split
  · next idle =>
      rw [Execution.moment, idle] at h
      exact h
  · next operation current =>
      rw [Execution.moment, current] at h
      exact h.cancel ticket

private theorem Keeps.step (h : Keeps others (e.moment p)) (orderly : e.Orderly e.operation?)
    (now : Instant) (ticket : Nat) (signal : AbortSignal) (move : CaseMove) :
    let r := e.step now ticket signal move p
    Keeps others (r.1.moment r.2) :=
  (Execution.step_advances now ticket signal move orderly p).keeps (P := Keeps others)
    (fun stride => stride.lasting (Custody.lasting others)) (fun _ h => h.abandoned ticket) h

theorem Keeps.balanced (h : Keeps others (e.moment p)) : p.Balanced (e.held ++ others) := by
  have := Custody.balanced h
  rwa [← List.append_assoc] at this

theorem nodes_abandoned (ticket : Nat) (e : Execution) (p : Pool) :
    (e.abandoned ticket p).pool.nodes = p.nodes := by
  unfold Execution.abandoned
  split
  · rfl
  · exact Site.nodes_cancel _ _ _

/-! ## All cases -/

structure Sound (s : Sharing) : Prop where
  balanced : s.pool.Balanced (s.cases.flatMap Execution.held ++ s.leases.flatMap Lease.nodes)
  orderly : ∀ e ∈ s.cases, e.Orderly e.operation? ∧ e.controller.Settled

theorem sound_ofHosts (hosts : List String) : (ofHosts hosts).Sound :=
  ⟨Pool.balanced_ofHosts hosts, by simp [ofHosts]⟩

variable {s : Sharing} {index : Nat}

theorem perm_heldBut (found : s.cases[index]? = some e) :
    (e.held ++ s.heldBut index).Perm
      (s.cases.flatMap Execution.held ++ s.leases.flatMap Lease.nodes) := by
  rw [heldBut, ← List.append_assoc]
  exact (Pool.perm_flatMap_eraseIdx Execution.held found).append_right _

theorem Sound.keeps (sound : s.Sound) (found : s.cases[index]? = some e) :
    Keeps (s.heldBut index) (e.moment s.pool) := by
  refine ⟨?_, (sound.orderly e (List.mem_of_getElem? found)).2⟩
  have := sound.balanced.perm (perm_heldBut found).symm
  rwa [Execution.held, List.append_assoc] at this

theorem heldBut_play (s : Sharing) (index : Nat) (now : Instant) (signal : AbortSignal)
    (move : CaseMove) :
    (s.step (.play index now signal move)).heldBut index = s.heldBut index := by
  simp only [step]
  split
  · simp [heldBut, List.eraseIdx_set_eq]
  · rfl

theorem Sound.step (sound : s.Sound) (move : SharingMove) : (s.step move).Sound := by
  cases move with
  | enrol config test case =>
      refine ⟨?_, ?_⟩
      · simpa [Sharing.step, Execution.held, Execution.ofCase, Execution.operation?, inHand,
          Controller.ofSettings, Controller.held, Controller.leases] using sound.balanced
      · intro e mem
        rcases List.mem_append.mp mem with mem | mem
        · exact sound.orderly e mem
        · rw [List.mem_singleton.mp mem]
          refine ⟨Execution.orderly_ofCase config test case, ?_⟩
          simp [Controller.Settled, Execution.ofCase, Controller.ofSettings]
  | play index now signal move =>
      have others := heldBut_play s index now signal move
      simp only [Sharing.step] at others ⊢
      split at others
      · next e found =>
          obtain ⟨orderly, _⟩ := sound.orderly e (List.mem_of_getElem? found)
          have kept := (sound.keeps found).step orderly now index signal move
          have inside := (List.getElem?_eq_some_iff.mp found).1
          refine ⟨?_, ?_⟩
          · have parts := perm_heldBut (List.getElem?_set_self
              (a := (e.step now index signal move s.pool).1) inside)
              (s := ⟨(e.step now index signal move s.pool).2, _, s.leases⟩)
            rw [others] at parts
            exact kept.balanced.perm parts
          · intro e' mem
            rcases List.mem_or_eq_of_mem_set mem with mem | rfl
            · exact sound.orderly e' mem
            · exact ⟨orderly.step now index signal move s.pool, Custody.settled kept⟩
      · exact sound
  | lend move =>
      have fair : (Tenancy.mk s.pool s.leases).Fair (s.cases.flatMap Execution.held) :=
        sound.balanced.perm List.perm_append_comm
      exact ⟨Pool.Balanced.perm (fair.step move).1 List.perm_append_comm, sound.orderly⟩

theorem Sound.nodes_step (sound : s.Sound) (move : SharingMove) :
    (s.step move).pool.nodes = s.pool.nodes := by
  cases move with
  | enrol => rfl
  | play index now signal move =>
      simp only [Sharing.step]
      split
      · next e found =>
          obtain ⟨orderly, _⟩ := sound.orderly e (List.mem_of_getElem? found)
          exact (Execution.step_advances now index signal move orderly s.pool).keeps
            (P := fun m => m.pool.nodes = s.pool.nodes)
            (fun stride => stride.lasting (Site.lasting_nodes s.pool.nodes))
            (fun _ h => (nodes_abandoned index e s.pool).trans h) rfl
      · rfl
  | lend move => exact Tenancy.nodes_step _ move

theorem Sound.run (sound : s.Sound) (moves : List SharingMove) :
    (s.run moves).Sound ∧ (s.run moves).pool.nodes = s.pool.nodes := by
  induction moves generalizing s with
  | nil => exact ⟨sound, rfl⟩
  | cons move moves ih =>
      obtain ⟨next, nodes⟩ := ih (sound.step move)
      exact ⟨next, nodes.trans (sound.nodes_step move)⟩

theorem capacity_run (hosts : List String) (moves : List SharingMove) :
    ((ofHosts hosts).run moves).pool.capacity = hosts.length := by
  rw [Pool.capacity, ((sound_ofHosts hosts).run moves).2]
  exact Pool.capacity_ofHosts hosts

/-! ## Cases that are over -/

theorem operation?_of_isOver (ended : e.isOver = true) : e.operation? = none := by
  unfold Execution.isOver at ended
  unfold Execution.operation?
  split <;> simp_all

theorem stage_of_isOver (ended : e.isOver = true) :
    (∃ record, e.stage = .closed record) ∨ ∃ message, e.stage = .panicked message := by
  cases stage : e.stage with
  | closed record => exact .inl ⟨record, rfl⟩
  | panicked message => exact .inr ⟨message, rfl⟩
  | fresh | working | sleeping => simp [Execution.isOver, stage] at ended

theorem service_of_isOver (orderly : e.Orderly e.operation?) (settled : e.controller.Settled)
    (ended : e.isOver = true) {id : Nat} {handle : Handle}
    (found : e.controller.handles[id]? = some handle) :
    handle.lease = none ∧
      (handle.state = .stopped ∨
        (∃ message, e.stage = .panicked message) ∧ .killNow id ∈ e.controller.requests) := by
  have mem := List.mem_of_getElem? found
  rcases stage_of_isOver ended with ⟨record, stage⟩ | ⟨message, stage⟩
  · have stopped := (orderly.closed stage).1 id handle found
    exact ⟨settled handle mem stopped, .inl stopped⟩
  · obtain ⟨unowned, -, told⟩ := orderly.dropped stage
    refine ⟨unowned handle mem, ?_⟩
    rcases told id with stopped | told
    · exact .inl (stopped handle found)
    · exact .inr ⟨⟨message, stage⟩, told⟩

theorem leases_of_isOver (orderly : e.Orderly e.operation?) (settled : e.controller.Settled)
    (ended : e.isOver = true) : e.controller.leases = [] ∧ e.controller.reservation = none := by
  rcases stage_of_isOver ended with ⟨record, stage⟩ | ⟨message, stage⟩
  · have closed := orderly.closed stage
    exact ⟨closed.leases_eq_nil settled, closed.2⟩
  · have dropped := orderly.dropped stage
    exact ⟨dropped.leases_eq_nil, dropped.2.1⟩

/-- Between two states that balance, a node changes hands only through the free ones. -/
theorem mem_held_or_free {p q : Pool} {held held' others : List Node} {node : Node}
    (before : p.Balanced (held ++ others)) (after : q.Balanced (held' ++ others))
    (nodes : q.nodes = p.nodes) (mem : node ∈ held) : node ∈ held' ∨ node.id ∈ q.free := by
  have genuine := before.genuine node (List.mem_append_left _ mem)
  have inside : node.id < q.capacity := by
    rw [Pool.capacity, nodes]
    exact (List.getElem?_eq_some_iff.mp genuine).1
  have there := after.partition.symm.subset (List.mem_range.mpr inside)
  rcases List.mem_append.mp there with free | held
  · exact .inr free
  · obtain ⟨other, mem', same⟩ := List.mem_map.mp held
    have genuine' := after.genuine other mem'
    rw [nodes, same, genuine] at genuine'
    obtain rfl : node = other := Option.some.inj genuine'
    rcases List.mem_append.mp mem' with mem' | mem'
    · exact .inl mem'
    · -- The node would have been with the case and with others at once.
      exact absurd mem (before.apart mem').1

/-- In every state of every run, whatever a move of a case does or cuts off: a node of the case
stays with the case or is free again, and no node of the others becomes free.  Once the case is
over each of its services is stopped, or was told to go at once because the case broke down;
nothing is reserved or in progress, and only nodes of the others are on lease. -/
theorem returned_of_isOver (hosts : List String) (moves : List SharingMove) {index : Nat}
    {e : Execution} (found : ((ofHosts hosts).run moves).cases[index]? = some e) :
    let s := (ofHosts hosts).run moves
    (∀ now signal move e', (s.step (.play index now signal move)).cases[index]? = some e' →
      (∀ node ∈ e.held,
        node ∈ e'.held ∨ node.id ∈ (s.step (.play index now signal move)).pool.free) ∧
      (∀ node ∈ s.heldBut index,
        node ∉ e'.held ∧ node.id ∉ (s.step (.play index now signal move)).pool.free) ∧
      (s.step (.play index now signal move)).heldBut index = s.heldBut index) ∧
    (e.isOver = true →
      (∀ id handle, e.controller.handles[id]? = some handle → handle.lease = none ∧
        (handle.state = .stopped ∨
          (∃ message, e.stage = .panicked message) ∧ .killNow id ∈ e.controller.requests)) ∧
      e.controller.reservation = none ∧ e.operation? = none ∧
      (s.pool.free ++ (s.heldBut index).map Node.id).Perm (List.range hosts.length) ∧
      s.pool.inUse = (s.heldBut index).length) := by
  intro s
  have sound := ((sound_ofHosts hosts).run moves).1
  have balanced := (sound.keeps found).balanced
  refine ⟨?_, ?_⟩
  · intro now signal move e' found'
    have others := heldBut_play s index now signal move
    have after := ((sound.step (.play index now signal move)).keeps found').balanced
    rw [others] at after
    exact ⟨fun node mem => mem_held_or_free balanced after (sound.nodes_step _) mem,
      fun node mem => after.apart mem, others⟩
  · intro ended
    have mem := List.mem_of_getElem? found
    obtain ⟨orderly, settled⟩ := sound.orderly e mem
    obtain ⟨unowned, unreserved⟩ := leases_of_isOver orderly settled ended
    have idle := operation?_of_isOver ended
    have empty : e.held = [] := by simp [Execution.held, Controller.held, unowned, idle, inHand]
    rw [empty, List.nil_append] at balanced
    have partition := balanced.partition
    rw [capacity_run] at partition
    exact ⟨fun id handle present => service_of_isOver orderly settled ended present, unreserved,
      idle, partition, balanced.inUse_eq⟩

/-- A case that begins, takes a node for its service and waits for the launcher. -/
def launching : List SharingMove :=
  [.enrol .standard (.lone .idle) ⟨0, []⟩, .play 0 0 .quiet .enter]

/-- The limit of the case passes while its service is materialized. -/
theorem returned_while_launching :
    ((ofHosts ["one", "two"]).run launching).cases.map Execution.held = [[⟨0, "one"⟩]] ∧
      let s := (ofHosts ["one", "two"]).run (launching ++ [.play 0 1000000000 .quiet .expire])
      ∃ e, s.cases[0]? = some e ∧ e.isOver = true ∧ e.controller.reservation = none ∧
        e.operation? = none ∧
        (s.pool.free ++ (s.heldBut 0).map Node.id).Perm (List.range 2) ∧
        s.pool.inUse = (s.heldBut 0).length := by
  refine ⟨rfl, ?_⟩
  obtain ⟨e, found, ended⟩ : ∃ e,
      ((ofHosts ["one", "two"]).run
        (launching ++ [.play 0 1000000000 .quiet .expire])).cases[0]? = some e ∧
      e.isOver = true := ⟨_, rfl, rfl⟩
  exact ⟨e, found, ended, ((returned_of_isOver _ _ found).2 ended).2⟩

end Sharing

end Interop
