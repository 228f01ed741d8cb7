import Interop.Proofs.Service.Endpoints

/-!
# Pids that a service remembers

A pid belongs to a child until its end is collected; afterwards the system may give the number to a
stranger.  So a service remembers the pid of a child just until then, or until it has tried to kill
it, and sends signals to remembered pids only.  A stop that went well and a kill leave none behind,
and a start that is refused at a node leaves the children of the nodes before it to be stopped.
-/

namespace Interop

/-! ## Waiting -/

namespace Child

variable {c : Child} {now since later time : Instant}

theorem isSome_ending?_iff :
    (c.ending? now).isSome ↔ ∃ finish, c.finish? = some finish ∧ finish.1 ≤ now := by
  unfold ending?
  split
  · next time ending found =>
      rw [found]
      split <;> simp_all
  · next found => simp [found]

@[simp]
theorem work_collect (now : Instant) (c : Child) : (c.collect now).work = c.work := by
  unfold collect
  split <;> rfl

@[simp]
theorem finish?_collect (now : Instant) (c : Child) : (c.collect now).finish? = c.finish? := by
  unfold collect
  split <;> rfl

@[simp]
theorem awaited?_collect (now since : Instant) (c : Child) :
    (c.collect now).awaited? since = c.awaited? since := by
  rw [awaited?, awaited?, work_collect, finish?_collect]

theorem le_of_awaited? (awaited : c.awaited? since = some time) : since ≤ time := by
  unfold awaited? at awaited
  split at awaited
  · cases awaited
    exact Nat.le_refl _
  · obtain ⟨finish, -, rfl⟩ := Option.map_eq_some_iff.mp awaited
    exact Nat.le_max_left _ _

theorem awaited?_later (awaited : c.awaited? since = some time) (le : time ≤ later) :
    c.awaited? later = some later := by
  unfold awaited? at awaited ⊢
  split at awaited
  · rfl
  · obtain ⟨finish, found, rfl⟩ := Option.map_eq_some_iff.mp awaited
    rw [found, Option.map_some, Nat.max_eq_left (Nat.le_trans (Nat.le_max_right _ _) le)]

private theorem isSome_ending?_of_awaited? (found : c.work.lost = none)
    (awaited : c.awaited? since = some time) (le : time ≤ now) : (c.ending? now).isSome := by
  rw [awaited?, found] at awaited
  obtain ⟨finish, ends, rfl⟩ := Option.map_eq_some_iff.mp awaited
  exact isSome_ending?_iff.mpr ⟨finish, ends, Nat.le_trans (Nat.le_max_right _ _) le⟩

private theorem remembered_collect (found : c.work.lost = none) (ended : (c.ending? now).isSome) :
    (c.collect now).remembered = false := by
  obtain ⟨ending, ended⟩ := Option.isSome_iff_exists.mp ended
  rw [collect, found, ended]
  rfl

/-- Those children are asked to terminate whose pids are remembered and that are not known to end
anyway. -/
theorem terminate_ne_iff :
    c.terminate now ≠ c ↔ c.remembered = true ∧ c.cut = none ∧ c.ending? now = none := by
  unfold terminate
  split
  · next idle =>
      refine ⟨fun other => absurd rfl other, ?_⟩
      rintro ⟨kept, cut, ending⟩
      simp [kept, cut, ending] at idle
  · next able =>
      refine ⟨fun _ => by simpa [and_assoc] using able, fun _ same => ?_⟩
      have requests := congrArg Child.requests same
      simp at requests

end Child

namespace Crew

variable {crew : Crew} {now since later due : Instant}

theorem le_of_allAwaited? (awaited : crew.allAwaited? since = some due) : since ≤ due := by
  induction crew generalizing since with
  | nil => exact Nat.le_of_eq (Option.some.inj awaited)
  | cons c rest ih =>
      unfold allAwaited? at awaited
      split at awaited
      · cases awaited
      · next time first =>
          have start := Child.le_of_awaited? first
          split at awaited
          · exact Nat.le_trans start (Nat.le_of_eq (Option.some.inj awaited))
          · exact Nat.le_trans start (ih awaited)

private theorem allAwaited?_later (awaited : crew.allAwaited? since = some due) (le : due ≤ later) :
    crew.allAwaited? later = some later := by
  induction crew generalizing since with
  | nil => rfl
  | cons c rest ih =>
      unfold allAwaited? at awaited ⊢
      split at awaited
      · cases awaited
      · next time first =>
          split at awaited
          · next lost =>
              obtain rfl := Option.some.inj awaited
              simp only [Child.awaited?_later first le, lost, if_true]
          · next found =>
              have before : time ≤ later := Nat.le_trans (le_of_allAwaited? awaited) le
              simp only [Child.awaited?_later first before, found]
              exact ih awaited

private theorem allAwaited?_collectInOrder (now since : Instant) (crew : Crew) :
    (crew.collectInOrder now).allAwaited? since = crew.allAwaited? since := by
  induction crew generalizing since with
  | nil => rfl
  | cons c rest ih =>
      unfold collectInOrder
      split
      · simp only [allAwaited?, Child.awaited?_collect, Child.work_collect, ih]
      · rfl

private theorem lost?_collectInOrder (now : Instant) (crew : Crew) :
    (crew.collectInOrder now).lost? = crew.lost? := by
  unfold lost?
  induction crew with
  | nil => rfl
  | cons c rest ih =>
      unfold collectInOrder
      split
      · rw [List.findSome?_cons, List.findSome?_cons, Child.work_collect, ih]
      · rfl

private theorem remembered_collectInOrder (awaited : crew.allAwaited? since = some due)
    (le : due ≤ now)
    (found : crew.lost? = none) : ∀ c ∈ crew.collectInOrder now, c.remembered = false := by
  induction crew generalizing since with
  | nil => exact List.forall_mem_nil _
  | cons c rest ih =>
      obtain ⟨here, rest'⟩ : c.work.lost = none ∧ lost? rest = none := by
        simpa [lost?] using found
      unfold allAwaited? at awaited
      split at awaited
      · cases awaited
      · next time first =>
          rw [here] at awaited
          have ended := Child.isSome_ending?_of_awaited? here first
            (Nat.le_trans (le_of_allAwaited? awaited) le)
          rw [collectInOrder, here, ended]
          refine List.forall_mem_cons.mpr ⟨Child.remembered_collect here ended, ih awaited rest'⟩

end Crew

/-! ## Killing -/

namespace Child

variable {c : Child} {since : Instant}

private theorem isSome_finish?_of_cut (cut : c.cut.isSome) : c.finish?.isSome := by
  obtain ⟨cut, found⟩ := Option.isSome_iff_exists.mp cut
  unfold finish?
  rw [found]
  cases c.ownFinish? <;> rfl

private theorem isSome_finish?_strike (since : Instant) (c : Child) :
    (c.strike since).finish?.isSome := by
  unfold strike
  split
  · next done =>
      rcases (Bool.or_eq_true _ _).mp done with cut | ended
      · exact isSome_finish?_of_cut (c := { c with struck := true }) cut
      · obtain ⟨finish, found, -⟩ := isSome_ending?_iff.mp ended
        exact Option.isSome_iff_exists.mpr ⟨finish, found⟩
  · exact isSome_finish?_of_cut rfl

theorem exists_awaited?_strike (since : Instant) (c : Child) :
    ∃ time, (c.strike since).awaited? since = some time := by
  unfold awaited?
  split
  · exact ⟨_, rfl⟩
  · rw [← Option.isSome_iff_exists, Option.isSome_map]
    exact c.isSome_finish?_strike since

private theorem strike_strike (since : Instant) (c : Child) :
    (c.strike since).strike since = c.strike since := by
  by_cases done : c.cut.isSome || (c.ending? since).isSome
  · have once : c.strike since = { c with struck := true } := by rw [strike, if_pos done]
    have same : ({ c with struck := true } : Child).ending? since = c.ending? since := rfl
    rw [once, strike, same, if_pos done]
  · have once : c.strike since =
        { c with cut := some (c.work.linger.after since, .killed), struck := true } := by
      rw [strike, if_neg done]
    rw [once, strike]
    rfl

end Child

namespace Crew

variable {crew : Crew} {now since later due : Instant}

private theorem le_allStruck (since : Instant) (crew : Crew) : since ≤ crew.allStruck since := by
  induction crew generalizing since with
  | nil => exact Nat.le_refl _
  | cons c rest ih =>
      obtain ⟨time, awaited⟩ := c.exists_awaited?_strike since
      rw [allStruck, awaited]
      exact Nat.le_trans (Child.le_of_awaited? awaited) (ih _)

private theorem remembered_strikeInOrder (due : crew.allStruck since ≤ now) :
    ∀ c ∈ (crew.strikeInOrder now since).1, c.remembered = false := by
  induction crew generalizing since with
  | nil => exact List.forall_mem_nil _
  | cons c rest ih =>
      obtain ⟨time, awaited⟩ := c.exists_awaited?_strike since
      rw [allStruck, awaited] at due
      have past : ¬ now < time := Nat.not_lt.mpr (Nat.le_trans (le_allStruck _ _) due)
      simp only [strikeInOrder, awaited, past, if_false]
      exact List.forall_mem_cons.mpr ⟨rfl, ih due⟩

private theorem remembered_take_strikeInOrder (now since : Instant) (crew : Crew) :
    ∀ c ∈ (crew.strikeInOrder now since).1.take (crew.strikeInOrder now since).2.1,
      c.remembered = false := by
  induction crew generalizing since with
  | nil => exact List.forall_mem_nil _
  | cons c rest ih =>
      obtain ⟨time, awaited⟩ := c.exists_awaited?_strike since
      simp only [strikeInOrder, awaited]
      split
      · exact List.forall_mem_nil _
      · exact List.forall_mem_cons.mpr ⟨rfl, ih time⟩

private theorem allStruck_strikeInOrder (now since : Instant) (crew : Crew) :
    Crew.allStruck (crew.strikeInOrder now since).2.2
        ((crew.strikeInOrder now since).1.drop (crew.strikeInOrder now since).2.1) =
      crew.allStruck since := by
  induction crew generalizing since with
  | nil => rfl
  | cons c rest ih =>
      obtain ⟨time, awaited⟩ := c.exists_awaited?_strike since
      simp only [strikeInOrder, awaited]
      split
      · simp only [List.drop_zero, allStruck, Child.strike_strike]
      · simp only [List.drop_succ_cons, allStruck, awaited, ih]
        rfl

theorem split_strikes (position : Nat) (now since : Instant) (crew : Crew) :
    let struck := Crew.strikeInOrder now since (crew.drop position)
    (crew.take position ++ struck.1).take (position + struck.2.1) =
        crew.take position ++ struck.1.take struck.2.1 ∧
      (crew.take position ++ struck.1).drop (position + struck.2.1) =
        struck.1.drop struck.2.1 := by
  intro struck
  rcases Nat.le_total position crew.length with inside | beyond
  · have taken := List.length_take_of_le inside
    have front : (crew.take position ++ struck.1).take ((crew.take position).length + struck.2.1) =
        crew.take position ++ struck.1.take struck.2.1 := List.take_length_add_append _
    have back : (crew.take position ++ struck.1).drop ((crew.take position).length + struck.2.1) =
        struck.1.drop struck.2.1 := List.drop_length_add_append _
    rw [taken] at front back
    exact ⟨front, back⟩
  · have none : struck = ([], 0, since) := by
      simp only [struck, List.drop_eq_nil_of_le beyond, strikeInOrder]
    simp [none, List.take_take]

end Crew

/-! ## Requests on their way -/

/-- What happens while a request is on its way: the service goes on with it, and the system
decides about children. -/
def CommandedTurn.isInterim : CommandedTurn → Bool
  | .move (.progress _) | .world _ _ => true
  | .move (.accept _ _ _) | .move (.answer _ _ _ _) | .move .cancel => false

namespace CommandedTurn

theorem eq_of_isInterim {turn : CommandedTurn} (interim : turn.isInterim = true) :
    (∃ now, turn = .move (.progress now)) ∨ ∃ position fate, turn = .world position fate := by
  match turn, interim with
  | .move (.progress now), _ => exact .inl ⟨now, rfl⟩
  | .world position fate, _ => exact .inr ⟨position, fate, rfl⟩

end CommandedTurn

namespace Commanded

variable {s : Commanded} {turns : List CommandedTurn} {now asked time : Instant}

theorem live_induction {P : Commanded → Prop} (begins : P s)
    (step : ∀ t turn, P t → turn.isInterim = true → P (t.turn turn))
    (interim : ∀ turn ∈ turns, turn.isInterim = true) : P (s.live turns) := by
  induction turns generalizing s with
  | nil => exact begins
  | cons turn turns ih =>
      rw [List.forall_mem_cons] at interim
      exact ih (step s turn begins interim.1) interim.2

theorem drains_live (drains : s.pending = .drains)
    (interim : ∀ turn ∈ turns, turn.isInterim = true) : (s.live turns).pending = .drains := by
  refine live_induction (P := fun t => t.pending = .drains) drains (fun t turn drains interim => ?_)
    interim
  obtain ⟨now, rfl⟩ | ⟨position, fate, rfl⟩ := CommandedTurn.eq_of_isInterim interim
  · change (t.progress now).pending = .drains
    unfold progress
    rw [drains]
  · exact drains

def Killing (s : Commanded) : Prop :=
  ∃ position since, s.pending = .strikes position since ∧
    ∀ c ∈ s.children.take position, c.remembered = false

theorem Killing.progress (killing : s.Killing) (now : Instant) : (s.progress now).Killing := by
  obtain ⟨position, since, pending, gone⟩ := killing
  unfold Commanded.progress
  rw [pending]
  refine ⟨_, _, rfl, ?_⟩
  dsimp only
  rw [(Crew.split_strikes position now since s.children).1]
  exact List.forall_mem_append.mpr ⟨gone, Crew.remembered_take_strikeInOrder now since _⟩

private theorem Killing.live (killing : s.Killing)
    (interim : ∀ turn ∈ turns, turn.isInterim = true) :
    (s.live turns).Killing := by
  refine live_induction (P := Killing) killing (fun t turn killing interim => ?_) interim
  obtain ⟨now, rfl⟩ | ⟨position, fate, rfl⟩ := CommandedTurn.eq_of_isInterim interim
  · exact killing.progress now
  · obtain ⟨next, since, pending, gone⟩ := killing
    have follow := Crew.follow_modify (Child.follows_meet fate) position t.children
    exact ⟨next, since, pending, Crew.Follow.forgotten (List.forall₂_take next follow) gone⟩

private theorem killing_accept (now : Instant) (id : Nat) (scene : Scene) (s : Commanded) :
    (s.accept now (.kill id) scene).1.Killing :=
  Killing.progress ⟨0, now, rfl, List.forall_mem_nil _⟩ now

/-! ## Answers -/

private theorem due?_progress (now later : Instant) (s : Commanded) :
    (s.progress now).due? later = s.due? later := by
  unfold progress due?
  cases pending : s.pending with
  | nothing | refused => simp only [pending]
  | awaits position =>
      dsimp only
      rw [List.getElem?_modify_eq]
      cases s.children[position]? <;> simp
  | drains => exact Crew.allAwaited?_collectInOrder now later s.children
  | strikes position since =>
      dsimp only
      rw [(Crew.split_strikes position now since s.children).2, Crew.allStruck_strikeInOrder]

private theorem due?_live (interim : ∀ turn ∈ turns, turn.isInterim = true)
    (alone : ∀ position fate, .world position fate ∉ turns) (later : Instant) :
    (s.live turns).due? later = s.due? later := by
  induction turns generalizing s with
  | nil => rfl
  | cons turn turns ih =>
      rw [List.forall_mem_cons] at interim
      simp only [List.mem_cons, not_or] at alone
      have rest := ih (s := s.turn turn) interim.2 fun position fate => (alone position fate).2
      refine rest.trans ?_
      obtain ⟨now, rfl⟩ | ⟨position, fate, rfl⟩ := CommandedTurn.eq_of_isInterim interim.1
      · exact due?_progress now later s
      · exact absurd rfl (alone position fate).1

/-- An answer that was due is due from then on. -/
theorem due?_later (due : s.due? asked = some time) (le : time ≤ now) : s.due? now = some now := by
  unfold due? at due ⊢
  split at due
  · rfl
  · rfl
  · split at due
    · rfl
    · exact Child.awaited?_later due le
  · exact Crew.allAwaited?_later due le
  · next position since =>
      obtain rfl := Option.some.inj due
      rw [Nat.max_eq_left (Nat.le_trans (Nat.le_max_right _ _) le)]

theorem answer_stop {id : Nat} {network : Network} {disk : Disk} (drains : s.pending = .drains) :
    s.answer now network disk (.stop id) =
      (.acknowledged (match s.children.lost? with
        | some reason => .error (.io reason)
        | none => .ok ()),
      { s with children := s.children.collectInOrder now, pending := .nothing }) := by
  cases lost : s.children.lost? <;>
    simp only [answer, progress, done, cancel, drains, Crew.lost?_collectInOrder, lost]

private theorem remembered_of_stop {id : Nat} {network : Network} {disk : Disk}
    (drains : s.pending = .drains) (due : s.due? now = some now)
    (well : (s.answer now network disk (.stop id)).1 = .acknowledged (.ok ())) :
    ∀ c ∈ (s.answer now network disk (.stop id)).2.children, c.remembered = false := by
  have awaited : s.children.allAwaited? now = some now := by
    rwa [due?, drains] at due
  rw [answer_stop drains, Answer.acknowledged.injEq] at well
  have found : s.children.lost? = none := by
    split at well
    · cases well
    · assumption
  rw [answer_stop drains]
  exact Crew.remembered_collectInOrder awaited (Nat.le_refl now) found

private theorem remembered_of_kill {id : Nat} {network : Network} {disk : Disk}
    (killing : s.Killing)
    (due : s.due? now = some now) :
    ∀ c ∈ (s.answer now network disk (.kill id)).2.children, c.remembered = false := by
  obtain ⟨position, since, pending, gone⟩ := killing
  rw [due?, pending] at due
  have past : Crew.allStruck since (s.children.drop position) ≤ now :=
    Nat.le_trans (Nat.le_max_right _ _) (Nat.le_of_eq (Option.some.inj due))
  change ∀ c ∈ (s.progress now).children, _
  rw [progress, pending]
  exact List.forall_mem_append.mpr ⟨gone, Crew.remembered_strikeInOrder past⟩

/-! ## Starts -/

private theorem launchAll_cases (params : Params String) (index : Nat) (nodes : List Node)
    (scene : Scene)
    (s : Commanded) :
    let launched := s.launchAll params index nodes scene
    (launched.2 = none → launched.1.length = nodes.length) ∧
      ∀ cause, launched.2 = some cause → ∃ node disk, nodes[launched.1.length]? = some node ∧
        (s.launchFor none params (index + launched.1.length) node { scene with disk }).1 =
          .error cause := by
  induction nodes generalizing index scene with
  | nil => exact ⟨fun _ => rfl, fun cause none => absurd none.symm (Option.some_ne_none cause)⟩
  | cons node nodes ih =>
      rcases first : s.launchFor none params index node scene with ⟨cause | work, disk⟩
      · rw [launchAll_of_error nodes first]
        refine ⟨fun none => absurd none (Option.some_ne_none cause),
          fun cause' same => ⟨node, scene.disk, rfl, ?_⟩⟩
        obtain rfl := Option.some.inj same
        exact congrArg Prod.fst first
      · rw [launchAll_of_ok nodes first]
        obtain ⟨whole, refused⟩ := ih (index + 1) { scene with disk }
        refine ⟨fun none => congrArg (· + 1) (whole none), fun cause some => ?_⟩
        obtain ⟨node', disk', there, why⟩ := refused cause some
        refine ⟨node', disk', there, ?_⟩
        rwa [Nat.add_right_comm] at why

private theorem answer_start (now later : Instant) (id : Nat) (params : Params String)
    (scene : Scene)
    (network : Network) (disk : Disk) (s : Commanded) :
    ((s.accept now (.start id params) scene).1.answer later network disk (.start id params)).1 =
      .acknowledged (match (s.launchAll params 0 s.nodes scene).2 with
        | none => .ok ()
        | some cause => .error cause) := by
  have fresh : s.Continues { s with pending := .nothing } := rfl
  have pending := (spawnAll_eq now params 0 s.nodes scene { s with pending := .nothing }).2
  rw [fresh.launchAll_eq] at pending
  unfold accept answer
  dsimp only
  cases refusal : (s.launchAll params 0 s.nodes scene).2 with
  | none =>
      rw [refusal] at pending
      simp only [done, progress, pending]
  | some cause =>
      rw [refusal] at pending
      simp only [done, progress, pending]

/-! ## Any life of a service -/

/-- What becomes of the children and their pids in any life of a service. -/
theorem remembered_of_life {settings : CommandSettings} {tag : String} {d : Descriptor}
    {nodes : List Node} {disk disk' : Disk} {s : Commanded}
    (made : make settings tag d nodes disk = .ok (s, disk')) (turns : List CommandedTurn) :
    let t : Commanded := s.live turns
    -- The children are those that were ever launched, in order, as they have become, and whatever
    -- comes next does not change this.
    Crew.Follow (s.launched turns) t.children ∧
    (∀ more, Crew.Follow (t.children ++ t.launched more) (t.live more).children) ∧
    -- The pid of a child is remembered until its end is collected, unless a kill is attempted.
    (∀ c ∈ t.children, (c.collected.isSome → c.remembered = false) ∧
      (c.remembered = false → c.collected.isSome ∨ c.struck = true)) ∧
    -- A stop asks children to terminate whose pids are remembered, none whose end was collected.
    (∀ now id scene,
      (t.accept now (.stop id) scene).1.children = t.children.map (Child.terminate now) ∧
      ∀ c ∈ t.children, (c.terminate now ≠ c → c.collected = none) ∧
        (c.terminate now ≠ c ↔ c.remembered = true ∧ c.cut = none ∧ c.ending? now = none)) ∧
    -- An answer is due when it was expected, unless the system decides otherwise in between.  With
    -- the answer to a stop that went well, or to a kill, no pid is remembered any more.
    (∀ asked request scene between now, (∀ turn ∈ between, turn.isInterim = true) →
      let begun := (t.accept asked request scene).1
      let u := begun.live between
      (∀ time ≤ now, begun.due? asked = some time →
        (∀ position fate, .world position fate ∉ between) → u.due? now = some now) ∧
      (u.due? now = some now → ∀ network disk,
        (∃ id, request = .stop id ∧
          (u.answer now network disk request).1 = .acknowledged (.ok ())) ∨
        (∃ id, request = .kill id) →
          ∀ c ∈ (u.answer now network disk request).2.children, c.remembered = false)) ∧
    -- A start that is refused at a node leaves the children for the nodes in front of it, with
    -- their pids.
    (∀ now later id params scene network disk,
      let launched := t.launchAll params 0 t.nodes scene
      let fresh := Crew.ofWorks now t.children.length launched.1
      let u := (t.accept now (.start id params) scene).1
      u.children = t.children ++ fresh ∧
      u.children.filter Child.remembered = t.children.filter Child.remembered ++ fresh ∧
      fresh.length = launched.1.length ∧
      (u.answer later network disk (.start id params)).1 =
        .acknowledged (match launched.2 with
          | none => .ok ()
          | some cause => .error cause) ∧
      (launched.2 = none → launched.1.length = t.nodes.length) ∧
      ∀ cause, launched.2 = some cause → ∃ node disk, t.nodes[launched.1.length]? = some node ∧
        (t.launchFor none params launched.1.length node { scene with disk }).1 = .error cause) := by
  intro t
  have none : s.children = [] := (eq_of_make made).2.2.2.1
  have follow : Crew.Follow (s.launched turns) t.children := by
    have all := follow_live s turns
    rwa [none, List.nil_append] at all
  have kept := follow.kept (fresh_launched s turns)
  refine ⟨follow, follow_live t, fun c mem => ⟨(kept c mem).forgotten, (kept c mem).reason⟩,
    fun now id scene => ⟨rfl, fun c mem => ⟨fun asked => ?_, Child.terminate_ne_iff⟩⟩, ?_, ?_⟩
  · rw [← Option.not_isSome_iff_eq_none]
    intro done
    have gone := (kept c mem).forgotten done
    exact Bool.false_ne_true (gone.symm.trans (Child.terminate_ne_iff.mp asked).1)
  · intro asked request scene between now interim begun u
    refine ⟨fun time le expected alone => ?_, fun due network disk answered => ?_⟩
    · exact (due?_live interim alone now).trans (due?_later expected le)
    · rcases answered with ⟨id, rfl, well⟩ | ⟨id, rfl⟩
      · exact remembered_of_stop (drains_live rfl interim) due well
      · exact remembered_of_kill ((killing_accept asked id scene t).live interim) due
  · intro now later id params scene network disk launched fresh u
    have fresh' : t.Continues { t with pending := .nothing } := rfl
    have children : u.children = t.children ++ fresh := by
      have all := (spawnAll_eq now params 0 t.nodes scene { t with pending := .nothing }).1
      rwa [fresh'.launchAll_eq] at all
    obtain ⟨whole, refused⟩ := launchAll_cases params 0 t.nodes scene t
    refine ⟨children, ?_, Crew.length_ofWorks .., answer_start .., whole, ?_⟩
    · rw [children, List.filter_append, List.append_cancel_left_eq]
      exact List.filter_eq_self.mpr fun c mem => (Crew.fresh_ofWorks now _ _ c mem).remembered
    · simpa only [Nat.zero_add] using refused

/-! ## A start that is refused -/

private theorem LogPath.save_taken {disk : Disk} {text name : String} (path : LogPath text name)
    (tmp : disk.entry? ["tmp"] = some .directory)
    (base : disk.entry? ["tmp", "base-0"] = some .directory)
    (taken : disk.entry? ["tmp", "base-0", name] = some .directory) :
    disk.save [] text "" = .error .isDirectory := by
  have place := path.locate tmp base (.inr taken)
  rw [taken] at place
  simp [Disk.save, Disk.placeFile, place, bind, Except.bind]

def cramped : Disk :=
  ⟨[(["tmp"], .directory), (["tmp", "base-0"], .directory),
    (["tmp", "base-0", "base-1.out"], .directory)]⟩

/-- The disk with the log files of the first node. -/
def logged : Disk := withLogs "base-0.out" "base-0.err" cramped

private theorem makeLogs_second :
    (sleeper restlessWork 10800 twins).makeLogs 1 logged =
      .error (.io "Is a directory (os error 21)") := by
  have taken : logged.save [] ("/tmp/base-0/" ++ "base-1.out") "" = .error .isDirectory :=
    logNames_one.outputPath.save_taken (by decide) (by decide) (by decide)
  have message : DiskError.isDirectory.message = "Is a directory (os error 21)" := by decide
  simp only [makeLogs, logNames_one.output, taken]
  rw [← message]
  rfl

theorem launchAll_cramped :
    (sleeper restlessWork 10800 twins).launchAll [] 0 twins ⟨cramped, []⟩ =
      ([restlessWork], some (.io "Is a directory (os error 21)")) := by
  have first (node : Node) :
      (sleeper restlessWork 10800 twins).launchFor none [] 0 node ⟨cramped, []⟩ =
        (.ok restlessWork, logged) :=
    logNames_zero.launchFor_eq (by decide) (by decide) (by decide) (by decide) (by decide) node
  have second (node : Node) :
      (sleeper restlessWork 10800 twins).launchFor none [] 1 node ⟨logged, []⟩ =
        (.error (.io "Is a directory (os error 21)"), logged) := by
    simp only [launchFor, makeLogs_second]
  change (sleeper restlessWork 10800 twins).launchAll [] 0
    [⟨0, "127.0.0.1"⟩, ⟨1, "127.0.0.1"⟩] _ = _
  rw [launchAll_of_ok _ (first _), launchAll_of_error _ (second _)]

def ended : Fate := ⟨restlessWork, ⟨[], some (.zero, .code 0)⟩, none⟩

/-- A server after its start on that disk. -/
def halfStarted : Commanded :=
  (sleeper restlessWork 10800 twins).live [.move (.accept 0 (.start 0 []) ⟨cramped, []⟩)]

private theorem children_halfStarted : halfStarted.children = [Child.ofWork 0 0 restlessWork] := by
  have launched := (spawnAll_eq 0 [] 0 twins ⟨cramped, []⟩ (sleeper restlessWork 10800 twins)).1
  rw [launchAll_cramped] at launched
  exact launched

/-- The server while it is stopped: its child is asked to terminate, and ends. -/
def halfStopped : Commanded :=
  (halfStarted.accept 3 (.stop 0) ⟨logged, []⟩).1.live [.world 0 ended]

/-- The second node is refused, so there is one child to be stopped, and when the stop has waited
for its end no pid is remembered. -/
theorem remembered_of_refused :
    (halfStarted.answer 0 .isolated logged (.start 0 [])).1 =
      .acknowledged (.error (.io "Is a directory (os error 21)")) ∧
    halfStarted.children.filter Child.remembered = [Child.ofWork 0 0 restlessWork] ∧
    halfStopped.children.map Child.requests = [[.between 0 3]] ∧
    halfStopped.due? 5 = some 5 ∧
    (halfStopped.answer 5 .isolated logged (.stop 0)).1 = .acknowledged (.ok ()) ∧
    ∀ c ∈ (halfStopped.answer 5 .isolated logged (.stop 0)).2.children, c.remembered = false := by
  have made := make_sleeper restlessWork 10800 twins
  have refused := ((remembered_of_life made []).2.2.2.2.2 0 0 0 [] ⟨cramped, []⟩ .isolated
    logged).2.2.2.1
  have nodes : (sleeper restlessWork 10800 twins).nodes = twins := rfl
  rw [live, List.foldl_nil, nodes, launchAll_cramped] at refused
  have children : halfStopped.children =
      [((Child.ofWork 0 0 restlessWork).terminate 3).meet ended] := by
    change (halfStarted.children.map (Child.terminate 3)).modify 0 (Child.meet ended) = _
    rw [children_halfStarted]
    rfl
  have drains : halfStopped.pending = .drains := drains_live rfl (by decide)
  have due : halfStopped.due? 5 = some 5 := by
    rw [due?, drains, children]
    decide
  have well : (halfStopped.answer 5 .isolated logged (.stop 0)).1 = .acknowledged (.ok ()) := by
    rw [answer_stop drains, children]
    rfl
  obtain ⟨-, -, -, -, answers, -⟩ :=
    remembered_of_life made [.move (.accept 0 (.start 0 []) ⟨cramped, []⟩)]
  obtain ⟨-, gone⟩ := answers 3 (.stop 0) ⟨logged, []⟩ [.world 0 ended] 5 (by decide)
  refine ⟨refused, ?_, ?_, due, well, gone due _ _ (.inl ⟨0, rfl, well⟩)⟩
  · rw [children_halfStarted]
    rfl
  · rw [children]
    rfl

end Commanded

end Interop
