import Interop.Proofs.Execution.Reserving
import Interop.Proofs.Execution.Sharing

/-!
# Cases that wait for nodes

Cases that share a pool ask it for nodes when they have none, so none of them holds nodes that
another one is waiting for while it waits itself.  When all of them wait nobody holds anything,
and whoever looks first finds what it wants.
-/

namespace Interop

namespace Execution

/-- The number of nodes that the case waits for. -/
def awaits? (e : Execution) : Option Nat :=
  e.operation?.bind fun operation => operation.wait.seeks?

variable {quiet : Prop} {e : Execution}

private theorem Poised.held_of_awaits? (poised : e.Poised quiet) (hushed : quiet) {count : Nat}
    (waits : e.awaits? = some count) : e.held = [] := by
  obtain ⟨operation, working, seeks⟩ := Option.bind_eq_some_iff.mp waits
  have blank := poised.blank_of_seeks hushed working seeks
  simp [held, blank.held, working, inHand, Wait.held_of_seeks? seeks]

end Execution

/-! ## Nobody waits for more nodes than there are -/

def Within (bound : Nat) (w : Option Wait) : Prop :=
  ∀ wait ∈ w, ∀ count, wait.seeks? = some count → count ≤ bound

private theorem Site.lasting_within (nodes : List Node) :
    Lasting fun s w => s.pool.nodes = nodes ∧ Within nodes.length w where
  moves {now ticket w s w' s'} moves h := by
    refine ⟨(lasting_nodes nodes).moves moves h.1, ?_⟩
    cases moves with
    | stays => exact h.2
    | queues before after same accepted fits =>
        intro wait present count seeks
        cases present
        cases w with
        | none =>
            cases after.symm.trans seeks
            have := fits rfl
            rwa [Pool.capacity, h.1] at this
        | some x =>
            obtain rfl := same x rfl
            exact h.2 _ rfl count seeks
    | places | draws | starts | probes | pauses | runs | stops | kills =>
        intro wait present count seeks
        cases present
        cases seeks
    | misses | reserves | givesUp | adopts | declines | breaks | lapses | readies | completes
    | fails | releases =>
        intro wait present
        cases present
  dropReservation h := ⟨(lasting_nodes nodes).dropReservation h.1, h.2⟩
  drop h := ⟨(lasting_nodes nodes).drop h.1, h.2⟩
  observe _ _ h := h

namespace Execution

variable {e : Execution} {p : Pool}

private theorem within_step (within : Within p.capacity (e.operation?.map Operation.wait))
    (orderly : e.Orderly e.operation?) (now : Instant) (ticket : Nat) (signal : AbortSignal)
    (move : CaseMove) :
    Within p.capacity ((e.step now ticket signal move p).1.operation?.map Operation.wait) := by
  have kept := (step_advances now ticket signal move orderly p).keeps
    (P := fun m => m.site.pool.nodes = p.nodes ∧ Within p.nodes.length m.wait?)
    (fun stride => stride.lasting (Site.lasting_within p.nodes)) ?_ ⟨rfl, within⟩
  · exact kept.2
  · intro _ h
    refine ⟨(Sharing.nodes_abandoned ticket e p).trans h.1, ?_⟩
    unfold abandoned
    split <;> simp [Moment.wait?, Within]

end Execution

namespace Sharing

/-! ## One move -/

def items (s : Sharing) (index : Nat) : SharingMove → List Item
  | .play other now signal move =>
    match s.cases[other]? with
    | some e => if other = index then (Account.step now other signal move e s.pool).items else []
    | none => []
  | .enrol _ _ _ | .lend _ => []

/-- What the case at a position begins in a run. -/
def allItems (s : Sharing) (index : Nat) : List SharingMove → List Item
  | [] => []
  | move :: moves => s.items index move ++ (s.step move).allItems index moves

def unbegun (s : Sharing) (index : Nat) : Nat :=
  s.cases[index]?.elim 1 fun e => e.isFresh.toNat

/-- The cases that are added have quiet bodies. -/
def Hushed (moves : List SharingMove) : Prop :=
  ∀ config test case, .enrol config test case ∈ moves → (test.body case).Quiet

/-- The nodes of each case that is added fit into a machine word, or their sum is checked. -/
def Summable (moves : List SharingMove) : Prop :=
  ∀ config test case, .enrol config test case ∈ moves →
    (Execution.ofCase config test case).Summable

theorem summable_cons {move : SharingMove} {moves : List SharingMove} :
    Summable (move :: moves) ↔ Summable [move] ∧ Summable moves := by
  simp [Summable, forall_and, or_imp]

theorem hushed_cons {move : SharingMove} {moves : List SharingMove} :
    Hushed (move :: moves) ↔ Hushed [move] ∧ Hushed moves := by
  simp [Hushed, forall_and, or_imp]

structure Guarded (quiet : Prop) (s : Sharing) : Prop where
  sound : s.Sound
  poised : ∀ e ∈ s.cases, e.Poised quiet
  within : ∀ e ∈ s.cases, Within s.pool.capacity (e.operation?.map Operation.wait)

variable {quiet : Prop} {s : Sharing} {index : Nat} {e : Execution}

private theorem guarded_ofHosts (quiet : Prop) (hosts : List String) :
    (ofHosts hosts).Guarded quiet :=
  ⟨sound_ofHosts hosts, by simp [ofHosts], by simp [ofHosts]⟩

theorem step_play (found : s.cases[index]? = some e) (now : Instant) (signal : AbortSignal)
    (move : CaseMove) :
    let a := Account.step now index signal move e s.pool
    s.step (.play index now signal move) =
      { s with pool := a.pool, cases := s.cases.set index a.execution } := by
  intro a
  have same : a.result = e.step now index signal move s.pool :=
    Account.result_step now index signal move e s.pool
  simp only [step, found, ← same]
  rfl

theorem Guarded.proper (guarded : s.Guarded quiet) (found : s.cases[index]? = some e)
    (now : Instant) (signal : AbortSignal) (move : CaseMove) :
    Account.Proper quiet e (Account.step now index signal move e s.pool) :=
  Account.step_proper (guarded.poised e (List.mem_of_getElem? found))
    (guarded.sound.keeps found).balanced now index signal move

theorem Guarded.step (guarded : s.Guarded quiet) {move : SharingMove}
    (summable : Summable [move]) (hushed : quiet → Hushed [move]) :
    (s.step move).Guarded quiet := by
  have sound := guarded.sound.step move
  have capacity : (s.step move).pool.capacity = s.pool.capacity :=
    congrArg List.length (guarded.sound.nodes_step move)
  suffices fine : ∀ e ∈ (s.step move).cases, e.Poised quiet ∧
      Within s.pool.capacity (e.operation?.map Operation.wait) from
    ⟨sound, fun e mem => (fine e mem).1, fun e mem => capacity ▸ (fine e mem).2⟩
  have before : ∀ e ∈ s.cases, e.Poised quiet ∧
      Within s.pool.capacity (e.operation?.map Operation.wait) :=
    fun e mem => ⟨guarded.poised e mem, guarded.within e mem⟩
  intro e mem
  cases move with
  | enrol config test case =>
      rcases List.mem_append.mp mem with mem | mem
      · exact before e mem
      · rw [List.mem_singleton.mp mem]
        have here := List.mem_singleton_self (SharingMove.enrol config test case)
        refine ⟨Execution.poised_ofCase config test case (summable config test case here) ?_, by
          simp [Within, Execution.operation?, Execution.ofCase]⟩
        exact fun h => hushed h config test case here
  | lend move => exact before e mem
  | play index now signal move =>
      cases found : s.cases[index]? with
      | none =>
          simp only [Sharing.step, found] at mem
          exact before e mem
      | some current =>
          rw [step_play found] at mem
          rcases List.mem_or_eq_of_mem_set mem with mem | rfl
          · exact before e mem
          · refine ⟨(guarded.proper found now signal move).poised, ?_⟩
            have here := List.mem_of_getElem? found
            have within := Execution.within_step (guarded.within current here)
              (guarded.sound.orderly current here).1 now index signal move
            rwa [← Account.result_step] at within

private theorem Guarded.spent (guarded : s.Guarded quiet) (index : Nat) (move : SharingMove) :
    (s.items index move).countP Item.takes + (s.step move).unbegun index ≤ s.unbegun index := by
  cases move with
  | lend move => simp [items, unbegun, Sharing.step]
  | enrol config test case =>
      simp only [items, List.countP_nil, Nat.zero_add, unbegun, Sharing.step]
      rcases Nat.lt_trichotomy index s.cases.length with inside | rfl | beyond
      · simp [List.getElem?_append_left inside]
      · simp [Execution.isFresh, Execution.ofCase]
      · have absent : (s.cases ++ [.ofCase config test case])[index]? = none :=
          List.getElem?_eq_none (by simpa using Nat.succ_le_of_lt beyond)
        simp [absent, List.getElem?_eq_none (Nat.le_of_lt beyond)]
  | play other now signal move =>
      cases found : s.cases[other]? with
      | none => simp [items, Sharing.step, found]
      | some e =>
          rw [step_play found]
          by_cases here : other = index
          · obtain rfl := here
            have inside := (List.getElem?_eq_some_iff.mp found).1
            simpa only [items, unbegun, found, List.getElem?_set_self inside, if_true,
              Option.elim_some] using (guarded.proper found now signal move).spent
          · simp [items, unbegun, found, here]

private theorem Guarded.frugal (guarded : s.Guarded quiet) (index : Nat) (move : SharingMove) :
    ∀ item ∈ s.items index move, item.Frugal quiet := by
  intro item mem
  cases move with
  | lend | enrol => simp [items] at mem
  | play other now signal move =>
      cases found : s.cases[other]? with
      | none => simp [items, found] at mem
      | some e =>
          simp only [items, found] at mem
          split at mem
          · exact (guarded.proper found now signal move).frugal item mem
          · simp at mem

/-! ## A run -/

private theorem Guarded.run (guarded : s.Guarded quiet) {moves : List SharingMove}
    (summable : Summable moves) (hushed : quiet → Hushed moves) :
    (s.run moves).Guarded quiet := by
  induction moves generalizing s with
  | nil => exact guarded
  | cons move moves ih =>
      obtain ⟨first, rest⟩ := summable_cons.mp summable
      exact ih (guarded.step first fun h => (hushed_cons.mp (hushed h)).1) rest
        fun h => (hushed_cons.mp (hushed h)).2

private theorem Guarded.allItems (guarded : s.Guarded quiet) {moves : List SharingMove}
    (summable : Summable moves) (hushed : quiet → Hushed moves) (index : Nat) :
    (s.allItems index moves).countP Item.takes ≤ s.unbegun index ∧
      ∀ item ∈ s.allItems index moves, item.Frugal quiet := by
  induction moves generalizing s with
  | nil => simp [Sharing.allItems]
  | cons move moves ih =>
      obtain ⟨first, rest⟩ := summable_cons.mp summable
      obtain ⟨spent, frugal⟩ := ih (guarded.step first fun h => (hushed_cons.mp (hushed h)).1) rest
        fun h => (hushed_cons.mp (hushed h)).2
      have here := guarded.spent index move
      refine ⟨?_, ?_⟩
      · simp only [Sharing.allItems, List.countP_append]
        omega
      · intro item mem
        rcases List.mem_append.mp mem with mem | mem
        · exact guarded.frugal index move item mem
        · exact frugal item mem

/-! ## Waiting -/

/-- One case waits for nodes, and the other one has some. -/
def WaitsFor (s : Sharing) (index other : Nat) : Prop :=
  ∃ e e', s.cases[index]? = some e ∧ s.cases[other]? = some e' ∧
    e.awaits?.isSome = true ∧ e'.held ≠ []

theorem Guarded.held_of_awaits? (guarded : s.Guarded quiet) (hushed : quiet) (mem : e ∈ s.cases)
    (waits : e.awaits?.isSome = true) : e.held = [] := by
  obtain ⟨count, waits⟩ := Option.isSome_iff_exists.mp waits
  exact (guarded.poised e mem).held_of_awaits? hushed waits

private theorem Guarded.le_capacity (guarded : s.Guarded quiet) (mem : e ∈ s.cases) {count : Nat}
    (waits : e.awaits? = some count) : count ≤ s.pool.capacity := by
  obtain ⟨operation, working, seeks⟩ := Option.bind_eq_some_iff.mp waits
  exact guarded.within e mem _ (by rw [working]; rfl) count seeks

private theorem Guarded.acyclic (guarded : s.Guarded quiet) (hushed : quiet) (index : Nat) :
    ¬Relation.TransGen s.WaitsFor index index := by
  intro cycle
  obtain ⟨_, ⟨e, _, found, _, waits, _⟩, _⟩ := Relation.TransGen.head'_iff.mp cycle
  obtain ⟨_, _, ⟨_, e', _, found', _, holds⟩⟩ := Relation.TransGen.tail'_iff.mp cycle
  obtain rfl : e = e' := Option.some.inj (found.symm.trans found')
  exact holds (guarded.held_of_awaits? hushed (List.mem_of_getElem? found) waits)

private theorem Guarded.held_eq_nil (guarded : s.Guarded quiet) (hushed : quiet)
    (waiting : ∀ e ∈ s.cases, e.isOver = false → e.awaits?.isSome = true) :
    s.cases.flatMap Execution.held = [] := by
  rw [List.flatMap_eq_nil_iff]
  intro e mem
  cases ended : e.isOver with
  | false => exact guarded.held_of_awaits? hushed mem (waiting e mem ended)
  | true =>
      obtain ⟨orderly, settled⟩ := guarded.sound.orderly e mem
      obtain ⟨unowned, _⟩ := leases_of_isOver orderly settled ended
      simp [Execution.held, Controller.held, unowned, operation?_of_isOver ended, inHand]

/-- A case asks the pool for nodes once at most, when it has none, and what it provisions by
itself takes all its nodes from what it has reserved; that is so for every list of services
whose nodes can be added up, every number of nodes that is declared, and every behaviour of
launchers, services and bodies.

Hence, if the bodies neither reserve nor provision: a case that waits for nodes has none, no
case waits in a circle, and when all cases that are not over wait, every node of the pool is
free but for those that others have leased.  If these have leased none, each of the cases can
be granted what it waits for. -/
theorem no_hold_and_wait (hosts : List String) {moves : List SharingMove}
    (summable : Summable moves) :
    let s := (ofHosts hosts).run moves
    (∀ index,
      let items := (ofHosts hosts).allItems index moves
      items.countP Item.takes ≤ 1 ∧
        ∀ item ∈ items, item.own = true →
          (item.acquires = true → item.before.controller.held = []) ∧
          ∀ d, item.command = .provision d → Site.refusal? item.before.controller d = none →
            ∃ held lease rest, item.before.controller.reservation = some held ∧
              held.splitOff d.nodeCount = some (lease, rest) ∧
              item.result.1 = .waiting ⟨.alone, .materialization d lease⟩ ∧
              item.result.2.controller.reservation = some rest ∧
              item.result.2.pool = item.before.pool) ∧
    (Hushed moves →
      (∀ index, ∀ item ∈ (ofHosts hosts).allItems index moves,
        item.acquires = true → item.own = true) ∧
      (∀ e ∈ s.cases, e.awaits?.isSome = true → e.held = []) ∧
      (∀ index, ¬Relation.TransGen s.WaitsFor index index) ∧
      ((∀ e ∈ s.cases, e.isOver = false → e.awaits?.isSome = true) →
        (s.pool.free ++ (s.leases.flatMap Lease.nodes).map Node.id).Perm
          (List.range hosts.length) ∧
        (s.leases = [] → ∀ e ∈ s.cases, ∀ count, e.awaits? = some count →
          (s.pool.tryAcquire count).isSome = true))) := by
  intro s
  -- What is to be shown of quiet bodies rests on the same invariant as the rest of it.
  have begins := guarded_ofHosts (Hushed moves) hosts
  have guarded : s.Guarded (Hushed moves) := begins.run summable id
  have capacity : s.pool.capacity = hosts.length := capacity_run hosts moves
  refine ⟨?_, ?_⟩
  · intro index items
    obtain ⟨once, frugal⟩ := begins.allItems summable id index
    have last : (ofHosts hosts).unbegun index = 1 := rfl
    refine ⟨last ▸ once, ?_⟩
    intro item mem own
    refine ⟨fun asks => (frugal item mem).empty ?_, (frugal item mem).draws own⟩
    simp [Item.takes, own, asks]
  · intro hushed
    refine ⟨?_, fun e mem => guarded.held_of_awaits? hushed mem, guarded.acyclic hushed, ?_⟩
    · intro index item mem
      exact ((begins.allItems summable id index).2 item mem).hushed hushed
    · intro waiting
      have partition := guarded.sound.balanced.partition
      rw [guarded.held_eq_nil hushed waiting, List.nil_append, capacity] at partition
      refine ⟨partition, ?_⟩
      intro alone e mem count waits
      have all : s.pool.free.length = hosts.length := by simpa [alone] using partition.length_eq
      have fits := guarded.le_capacity mem waits
      rw [Pool.isSome_tryAcquire, Pool.available, all, ← capacity]
      exact fits

/-- A run in which sums of node counts wrap around. -/
def wrapping : Config := { Config.standard with overflowChecks := false }

/-- Others take all nodes, two cases with two services each join the line, and then the nodes come
back. -/
def queueing : List SharingMove :=
  let test : Test :=
    { Test.lone .idle with
      template := fun _ => .ok [.server "server" .dev, .server "other" .dev] }
  [.lend (.tryAcquire 2), .enrol wrapping test ⟨0, []⟩, .enrol .standard test ⟨1, []⟩,
    .play 0 0 .quiet .enter, .play 1 0 .quiet .enter, .lend (.drop 0)]

theorem no_hold_and_wait_queueing :
    let s := (ofHosts ["one", "two"]).run queueing
    s.cases.map Execution.awaits? = [some 2, some 2] ∧ Summable queueing ∧ Hushed queueing ∧
      ((ofHosts ["one", "two"]).allItems 0 queueing).countP Item.takes = 1 ∧
      (s.pool.free ++ (s.leases.flatMap Lease.nodes).map Node.id).Perm [0, 1] ∧
      ∀ e ∈ s.cases, e.held = [] ∧ (s.pool.tryAcquire 2).isSome = true := by
  intro s
  have waits : s.cases.map Execution.awaits? = [some 2, some 2] := rfl
  have summable : Summable queueing := by
    intro config test case mem
    simp only [queueing, List.mem_cons, SharingMove.enrol.injEq, reduceCtorEq, false_or,
      List.not_mem_nil, or_false] at mem
    rcases mem with ⟨rfl, rfl, rfl⟩ | ⟨rfl, -, -⟩
    · refine .inr fun ds planned => ?_
      obtain rfl := Except.ok.inj planned
      decide
    · exact .inl rfl
  have hushed : Hushed queueing := by
    intro config test case mem
    simp only [queueing, List.mem_cons, SharingMove.enrol.injEq, reduceCtorEq, false_or,
      List.not_mem_nil, or_false] at mem
    rcases mem with ⟨-, rfl, -⟩ | ⟨-, rfl, -⟩ <;> trivial
  have each : ∀ e ∈ s.cases, e.awaits? = some 2 := by
    intro e mem
    have := List.mem_map_of_mem (f := Execution.awaits?) mem
    simpa [waits] using this
  obtain ⟨-, hence⟩ := no_hold_and_wait ["one", "two"] summable
  obtain ⟨-, empty, -, together⟩ := hence hushed
  obtain ⟨free, granted⟩ := together fun e mem _ => by rw [each e mem]; rfl
  refine ⟨waits, summable, hushed, rfl, free,
    fun e mem => ⟨empty e mem (by rw [each e mem]; rfl), ?_⟩⟩
  exact granted rfl e mem 2 (each e mem)

/-- Where the sum wraps around the case reserves two nodes, then asks the pool for the three of the
first service, and waits for these while it holds the two. -/
theorem holds_and_waits_when_wrapping :
    let moves : List SharingMove :=
      [.enrol wrapping (.overflowing none) ⟨0, []⟩, .play 0 0 .quiet .enter]
    let s := (ofHosts ["one", "two", "three", "four"]).run moves
    Hushed moves ∧ s.cases.map Execution.awaits? = [some 3] ∧
      s.cases.map (fun e => e.held.length) = [2] ∧ s.pool.free.length = 2 ∧
      ((ofHosts ["one", "two", "three", "four"]).allItems 0 moves).countP Item.takes = 2 := by
  intro moves s
  refine ⟨?_, rfl, rfl, rfl, rfl⟩
  intro config test case mem
  simp only [moves, List.mem_cons, SharingMove.enrol.injEq, reduceCtorEq, List.not_mem_nil,
    or_false] at mem
  obtain ⟨-, rfl, -⟩ := mem
  trivial

end Sharing

end Interop
