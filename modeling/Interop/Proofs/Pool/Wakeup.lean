import Interop.Proofs.Pool.Tenancy

/-!
# Waking those who wait for nodes

Whoever finds too few free nodes goes to sleep, and a release that comes between the look and
the sleep must not be missed.  Here an acquisition is taken apart into its steps: a task draws a
ticket, looks, goes to sleep, is woken and begins again, or gives up.  A dropped lease is taken
apart as well: it inserts its nodes, and wakes the line in a step of its own.  The steps of all
tasks and of all releases come in any order, among whatever else happens to the pool.

A sleeper is never forgotten: as long as it was not woken it wants more nodes than are free, or
a release is about to wake the line.
-/

namespace Interop

namespace Pool

def Lists (p : Pool) (ticket : Nat) : Prop := ∃ waiter ∈ p.waiters, waiter.ticket = ticket

private theorem lists_enlist (p : Pool) (ticket count : Nat) :
    (p.enlist ticket count).Lists ticket :=
  ⟨_, List.mem_append_right _ List.mem_cons_self, rfl⟩

theorem Lists.leave {p : Pool} {ticket other : Nat} (h : p.Lists ticket) (apart : other ≠ ticket) :
    (p.leave other).Lists ticket := by
  obtain ⟨waiter, mem, rfl⟩ := h
  exact ⟨waiter, List.mem_filter.mpr ⟨mem, by simpa using apart.symm⟩, rfl⟩

private theorem Lists.enlist {p : Pool} {ticket other : Nat} (h : p.Lists ticket)
    (apart : other ≠ ticket)
    (count : Nat) : (p.enlist other count).Lists ticket := by
  obtain ⟨waiter, mem, same⟩ := h.leave apart
  exact ⟨waiter, List.mem_append_left _ mem, same⟩

theorem isWoken_leave {p : Pool} {ticket other : Nat} (apart : other ≠ ticket) :
    (p.leave other).isWoken ticket = p.isWoken ticket := by
  simp only [isWoken, leave, List.any_filter]
  congr 1
  funext waiter
  by_cases here : waiter.ticket = ticket
  · simp [here, apart.symm]
  · simp [here]

private theorem isWoken_enlist {p : Pool} {ticket other : Nat} (apart : other ≠ ticket)
    (count : Nat) :
    (p.enlist other count).isWoken ticket = p.isWoken ticket := by
  rw [← isWoken_leave (p := p) apart]
  simp [isWoken, enlist]

private theorem isWoken_announce {p : Pool} {ticket : Nat} (h : p.Lists ticket) :
    p.announce.isWoken ticket = true := by
  obtain ⟨waiter, mem, rfl⟩ := h
  exact List.any_eq_true.mpr ⟨_, List.mem_map_of_mem mem, by simp⟩

end Pool

namespace Tenancy

private theorem look_eq_some {t t' : Tenancy} {ticket count : Nat} {lease : Lease}
    (looked : t.step (.look ticket count) = (some lease, t')) :
    ∃ pool, t.pool.tryAcquire count = some (lease, pool) ∧
      t' = ⟨pool.leave ticket, lease :: t.leases⟩ := by
  simp only [step, look_eq] at looked
  split at looked
  · next found pool granted =>
      cases looked
      exact ⟨pool, granted, rfl⟩
  · cases looked

private theorem look_eq_none {t t' : Tenancy} {ticket count : Nat}
    (looked : t.step (.look ticket count) = (none, t')) :
    t.pool.available < count ∧ t' = t := by
  simp only [step, look_eq] at looked
  split at looked
  · cases looked
  · next refused =>
      cases looked
      refine ⟨Nat.not_le.mp fun enough => ?_, rfl⟩
      have granted := Pool.isSome_tryAcquire.mpr enough
      rw [refused] at granted
      cases granted

end Tenancy

/-! ## Tasks in a line -/

/-- Where a task stands that acquires nodes. -/
inductive SeekerStage
  /-- It has no ticket: it has just come, or it was woken. -/
  | arriving
  | ready
  | refused
  | parked
  | gone
  deriving DecidableEq, Repr

/-- A task that acquires nodes.  Its ticket is its position among all tasks. -/
structure Seeker where
  count : Nat
  stage : SeekerStage
  deriving DecidableEq, Repr

/-- A pool with its leases, the tasks that acquire nodes, and the number of releases that have
inserted their nodes and not woken anyone yet. -/
structure Line where
  tenancy : Tenancy
  seekers : List Seeker
  returning : Nat

inductive LineMove
  /-- A task begins, unless the pool is too small for it. -/
  | come (count : Nat)
  | enlist (seeker : Nat)
  | look (seeker : Nat)
  | park (seeker : Nat)
  | wake (seeker : Nat)
  | giveUp (seeker : Nat)
  | tryAcquire (count : Nat)
  | absorb (keeper other : Nat)
  | splitOff (lease count : Nat)
  | drop (lease : Nat)
  | announce

namespace Line

def ofHosts (hosts : List String) : Line := ⟨.ofHosts hosts, [], 0⟩

abbrev pool (l : Line) : Pool := l.tenancy.pool

def moved (l : Line) (move : TenancyMove) : Tenancy := (l.tenancy.step move).2

def setStage (l : Line) (index : Nat) (seeker : Seeker) (stage : SeekerStage) : Line :=
  { l with seekers := l.seekers.set index { seeker with stage } }

def inserts (l : Line) (lease : Nat) : Bool :=
  l.tenancy.leases[lease]?.any fun lease => !lease.nodes.isEmpty

/-- One move; a move that a task is not ready for changes nothing. -/
def step (l : Line) : LineMove → Line
  | .come count =>
    if l.pool.capacity < count then l
    else { l with seekers := l.seekers ++ [⟨count, .arriving⟩] }
  | .enlist index =>
    match l.seekers[index]? with
    | some ⟨count, .arriving⟩ =>
      { l with tenancy := l.moved (.call index count) }.setStage index ⟨count, .arriving⟩ .ready
    | _ => l
  | .look index =>
    match l.seekers[index]? with
    | some ⟨count, .ready⟩ =>
      match l.tenancy.step (.look index count) with
      | (some _, tenancy) => { l with tenancy }.setStage index ⟨count, .ready⟩ .gone
      | (none, tenancy) => { l with tenancy }.setStage index ⟨count, .ready⟩ .refused
    | _ => l
  | .park index =>
    match l.seekers[index]? with
    | some ⟨count, .refused⟩ => l.setStage index ⟨count, .refused⟩ .parked
    | _ => l
  | .wake index =>
    match l.seekers[index]? with
    | some ⟨count, .parked⟩ =>
      if l.pool.isWoken index then
        { l with tenancy := l.moved (.giveUp index) }.setStage index ⟨count, .parked⟩ .arriving
      else l
    | _ => l
  | .giveUp index =>
    match l.seekers[index]? with
    | some seeker => { l with tenancy := l.moved (.giveUp index) }.setStage index seeker .gone
    | none => l
  | .tryAcquire count => { l with tenancy := l.moved (.tryAcquire count) }
  | .absorb keeper other => { l with tenancy := l.moved (.absorb keeper other) }
  | .splitOff lease count => { l with tenancy := l.moved (.splitOff lease count) }
  | .drop lease =>
    { l with
      tenancy := l.moved (.drop lease)
      returning := l.returning + (l.inserts lease).toNat }
  | .announce =>
    if l.returning = 0 then l
    else { l with tenancy := l.moved .announce, returning := l.returning - 1 }

def run (l : Line) (moves : List LineMove) : Line := moves.foldl step l

/-! ## A line is a tenancy -/

/-- A move of a line is at most one move of the tenancy. -/
theorem tenancy_step (l : Line) (move : LineMove) :
    (l.step move).tenancy = l.tenancy ∨ ∃ move', (l.step move).tenancy = l.moved move' := by
  cases move with
  | come | park =>
      simp only [step]
      split <;> exact .inl rfl
  | enlist | giveUp =>
      simp only [step]
      split
      · exact .inr ⟨_, rfl⟩
      · exact .inl rfl
  | look index =>
      simp only [step]
      split
      · split
        · next looked => exact .inr ⟨_, (congrArg Prod.snd looked).symm⟩
        · next looked => exact .inr ⟨_, (congrArg Prod.snd looked).symm⟩
      · exact .inl rfl
  | wake =>
      simp only [step]
      split
      · split
        · exact .inr ⟨_, rfl⟩
        · exact .inl rfl
      · exact .inl rfl
  | tryAcquire | absorb | splitOff | drop => exact .inr ⟨_, rfl⟩
  | announce =>
      simp only [step]
      split
      · exact .inl rfl
      · exact .inr ⟨_, rfl⟩

private theorem exists_tenancy_run (l : Line) (moves : List LineMove) :
    ∃ moves', (l.run moves).tenancy = l.tenancy.run moves' := by
  induction moves generalizing l with
  | nil => exact ⟨[], rfl⟩
  | cons move moves ih =>
      obtain ⟨later, same⟩ := ih (l.step move)
      rcases l.tenancy_step move with still | ⟨move', moved⟩
      · exact ⟨later, same.trans (by rw [still])⟩
      · exact ⟨move' :: later, same.trans (by rw [moved]; rfl)⟩

/-! ## No sleeper is forgotten -/

/-- What is known of a task with that ticket: as long as it has the ticket it is listed, and
once it has looked in vain it is woken, or wants more than is free, or will be woken. -/
def Attended (p : Pool) (returning ticket : Nat) (seeker : Seeker) : Prop :=
  match seeker.stage with
  | .arriving | .gone => True
  | .ready => p.Lists ticket
  | .refused | .parked =>
    p.Lists ticket ∧
      (p.isWoken ticket = false → p.available < seeker.count ∨ 0 < returning)

theorem Attended.of_le {p p' : Pool} {returning returning' ticket : Nat} {seeker : Seeker}
    (h : Attended p returning ticket seeker) (listed : p.Lists ticket → p'.Lists ticket)
    (woken : p.isWoken ticket = true → p'.isWoken ticket = true)
    (fewer : p'.available ≤ p.available ∨ 0 < returning') (same : returning ≤ returning') :
    Attended p' returning' ticket seeker := by
  unfold Attended at h ⊢
  split
  · trivial
  · trivial
  · next stage =>
      rw [stage] at h
      exact listed h
  all_goals
    next stage =>
      rw [stage] at h
      refine ⟨listed h.1, fun asleep => ?_⟩
      have before : p.isWoken ticket = false :=
        Bool.eq_false_iff.mpr fun awake => Bool.false_ne_true (asleep.symm.trans (woken awake))
      rcases h.2 before with short | coming
      · rcases fewer with fewer | coming
        · exact .inl (Nat.lt_of_le_of_lt fewer short)
        · exact .inr coming
      · exact .inr (Nat.lt_of_lt_of_le coming same)

private theorem Attended.announce {p : Pool} {returning returning' ticket : Nat} {seeker : Seeker}
    (h : Attended p returning ticket seeker) :
    Attended p.announce returning' ticket seeker := by
  have listed : p.Lists ticket → p.announce.Lists ticket := by
    rintro ⟨waiter, mem, rfl⟩
    exact ⟨_, List.mem_map_of_mem mem, rfl⟩
  unfold Attended at h ⊢
  split
  · trivial
  · trivial
  · next stage =>
      rw [stage] at h
      exact listed h
  all_goals
    next stage =>
      rw [stage] at h
      refine ⟨listed h.1, fun asleep => ?_⟩
      rw [Pool.isWoken_announce h.1] at asleep
      cases asleep

structure Alert (l : Line) : Prop where
  attended : ∀ index seeker, l.seekers[index]? = some seeker →
    Attended l.pool l.returning index seeker
  fits : ∀ seeker ∈ l.seekers, seeker.count ≤ l.pool.capacity

private theorem alert_ofHosts (hosts : List String) : (ofHosts hosts).Alert :=
  ⟨by simp [ofHosts], by simp [ofHosts]⟩

variable {l l' : Line} {index : Nat} {seeker : Seeker}

theorem Alert.of_le (alert : l.Alert) {tenancy : Tenancy} {returning : Nat}
    (waiters : tenancy.pool.waiters = l.pool.waiters)
    (capacity : tenancy.pool.capacity = l.pool.capacity)
    (fewer : tenancy.pool.available ≤ l.pool.available ∨ 0 < returning)
    (same : l.returning ≤ returning) : { l with tenancy, returning }.Alert where
  attended index seeker found := by
    refine (alert.attended index seeker found).of_le ?_ ?_ fewer same
    · simp only [Pool.Lists, pool, waiters, imp_self]
    · simp only [Pool.isWoken, pool, waiters, imp_self]
  fits seeker mem := by
    have := alert.fits seeker mem
    rwa [← capacity] at this

theorem Alert.setStage (alert : l.Alert) (found : l.seekers[index]? = some seeker)
    {tenancy : Tenancy} {stage : SeekerStage}
    (capacity : tenancy.pool.capacity = l.pool.capacity)
    (listed : ∀ other ≠ index, l.pool.Lists other → tenancy.pool.Lists other)
    (woken : ∀ other ≠ index, tenancy.pool.isWoken other = l.pool.isWoken other)
    (fewer : tenancy.pool.available ≤ l.pool.available)
    (attended : Attended tenancy.pool l.returning index { seeker with stage }) :
    ({ l with tenancy }.setStage index seeker stage).Alert where
  attended other seeker' found' := by
    simp only [Line.setStage] at found'
    by_cases here : other = index
    · subst here
      rw [List.getElem?_set_self (List.getElem?_eq_some_iff.mp found).1] at found'
      cases found'
      exact attended
    · rw [List.getElem?_set_ne (Ne.symm here)] at found'
      exact (alert.attended other seeker' found').of_le (listed other here)
        (fun awake => (woken other here).trans awake) (.inl fewer) (Nat.le_refl _)
  fits other mem := by
    have fits : other.count ≤ l.pool.capacity := by
      rcases List.mem_or_eq_of_mem_set mem with mem | rfl
      · exact alert.fits other mem
      · exact alert.fits seeker (List.mem_of_getElem? found)
    rwa [← capacity] at fits

theorem Alert.leave (alert : l.Alert) (found : l.seekers[index]? = some seeker)
    {stage : SeekerStage} (ticketless : stage = .arriving ∨ stage = .gone) :
    ({ l with tenancy := l.moved (.giveUp index) }.setStage index seeker stage).Alert := by
  refine alert.setStage found rfl (fun _ apart h => h.leave apart.symm)
    (fun _ apart => Pool.isWoken_leave apart.symm) (Nat.le_refl _) ?_
  rcases ticketless with rfl | rfl <;> trivial

private theorem Alert.come (alert : l.Alert) {count : Nat} (fits : count ≤ l.pool.capacity) :
    { l with seekers := l.seekers ++ [(⟨count, .arriving⟩ : Seeker)] }.Alert where
  attended index seeker found := by
    rcases Nat.lt_trichotomy index l.seekers.length with inside | rfl | beyond
    · rw [List.getElem?_append_left inside] at found
      exact alert.attended index seeker found
    · rw [List.getElem?_concat_length] at found
      cases found
      trivial
    · rw [List.getElem?_eq_none (by simpa using Nat.succ_le_of_lt beyond)] at found
      cases found
  fits seeker mem := by
    rcases List.mem_append.mp mem with mem | mem
    · exact alert.fits seeker mem
    · rw [List.mem_singleton.mp mem]
      exact fits

private theorem Alert.enlist (alert : l.Alert) {count : Nat}
    (found : l.seekers[index]? = some ⟨count, .arriving⟩) :
    ({ l with tenancy := l.moved (.call index count) }.setStage index ⟨count, .arriving⟩
      .ready).Alert := by
  have fits : ¬l.tenancy.pool.capacity < count :=
    Nat.not_lt.mpr (alert.fits _ (List.mem_of_getElem? found))
  simp only [moved, Tenancy.step, fits, if_false]
  refine alert.setStage found rfl (fun _ apart h => h.enlist apart.symm count)
    (fun _ apart => Pool.isWoken_enlist apart.symm count) (Nat.le_refl _) ?_
  exact Pool.lists_enlist l.pool index count

private theorem Alert.granted (alert : l.Alert) {count : Nat}
    (found : l.seekers[index]? = some seeker)
    {lease : Lease} {pool : Pool} (granted : l.pool.tryAcquire count = some (lease, pool)) :
    ({ l with tenancy := ⟨pool.leave index, lease :: l.tenancy.leases⟩ }.setStage index seeker
      .gone).Alert := by
  obtain ⟨-, -, rfl⟩ := Pool.tryAcquire_eq_some granted
  refine alert.setStage found rfl (fun _ apart h => Pool.Lists.leave h apart.symm)
    (fun _ apart => Pool.isWoken_leave apart.symm) ?_ trivial
  simp [Pool.available, Pool.leave]

private theorem Alert.refused (alert : l.Alert) {count : Nat}
    (found : l.seekers[index]? = some ⟨count, .ready⟩) (short : l.pool.available < count) :
    (l.setStage index ⟨count, .ready⟩ .refused).Alert :=
  alert.setStage found rfl (fun _ _ h => h) (fun _ _ => rfl) (Nat.le_refl _)
    ⟨alert.attended index _ found, fun _ => .inl short⟩

private theorem Alert.tryAcquire (alert : l.Alert) (count : Nat) :
    { l with tenancy := l.moved (.tryAcquire count) }.Alert := by
  simp only [moved, Tenancy.step]
  split
  · next lease pool granted =>
      obtain ⟨-, -, rfl⟩ := Pool.tryAcquire_eq_some granted
      exact alert.of_le rfl rfl (.inl (by simp [Tenancy.welcome, Pool.available])) (Nat.le_refl _)
  · exact alert

private theorem Alert.drop (alert : l.Alert) (index : Nat) : (l.step (.drop index)).Alert := by
  simp only [Line.step, moved, Tenancy.step, inserts]
  cases l.tenancy.leases[index]? with
  | none => exact alert
  | some lease =>
      cases empty : lease.nodes.isEmpty with
      | true =>
          simp only [empty, if_true]
          exact alert.of_le rfl rfl (.inl (Nat.le_refl _)) (Nat.le_add_right _ _)
      | false =>
          simp only [empty, Bool.false_eq_true, if_false]
          exact alert.of_le rfl rfl (.inr (by simp [empty])) (Nat.le_add_right _ _)

private theorem Alert.step (alert : l.Alert) (move : LineMove) : (l.step move).Alert := by
  cases move with
  | come count =>
      simp only [Line.step]
      split
      · exact alert
      · next fits => exact alert.come (Nat.not_lt.mp fits)
  | enlist index =>
      simp only [Line.step]
      split
      · next found => exact alert.enlist found
      · exact alert
  | look index =>
      simp only [Line.step]
      split
      · next count found =>
          split
          · next lease tenancy looked =>
              obtain ⟨pool, granted, rfl⟩ := Tenancy.look_eq_some looked
              exact alert.granted found granted
          · next tenancy looked =>
              obtain ⟨short, rfl⟩ := Tenancy.look_eq_none looked
              exact alert.refused found short
      · exact alert
  | park index =>
      simp only [Line.step]
      split
      · next count found =>
          have attended := alert.attended index _ found
          exact alert.setStage found rfl (fun _ _ h => h) (fun _ _ => rfl) (Nat.le_refl _) attended
      · exact alert
  | wake index =>
      simp only [Line.step]
      split
      · next found =>
          split
          · exact alert.leave found (.inl rfl)
          · exact alert
      · exact alert
  | giveUp index =>
      simp only [Line.step]
      split
      · next found => exact alert.leave found (.inr rfl)
      · exact alert
  | tryAcquire count => exact alert.tryAcquire count
  | absorb keeper other =>
      simp only [Line.step, moved, Tenancy.step]
      split <;> exact alert.of_le rfl rfl (.inl (Nat.le_refl _)) (Nat.le_refl _)
  | splitOff lease count =>
      simp only [Line.step, moved, Tenancy.step]
      repeat' split
      all_goals exact alert.of_le rfl rfl (.inl (Nat.le_refl _)) (Nat.le_refl _)
  | drop lease => exact alert.drop lease
  | announce =>
      simp only [Line.step]
      split
      · exact alert
      · exact ⟨fun index seeker found => (alert.attended index seeker found).announce, alert.fits⟩

private theorem Alert.run (alert : l.Alert) (moves : List LineMove) : (l.run moves).Alert := by
  induction moves generalizing l with
  | nil => exact alert
  | cons move moves ih => exact ih (alert.step move)

private theorem Alert.asleep (alert : l.Alert) (found : l.seekers[index]? = some seeker)
    (parked : seeker.stage = .parked) (deaf : l.pool.isWoken index = false) :
    l.pool.available < seeker.count ∨ 0 < l.returning := by
  have attended := alert.attended index seeker found
  simp only [Attended, parked] at attended
  exact attended.2 deaf

theorem Alert.attempt (alert : l.Alert) {count : Nat}
    (found : l.seekers[index]? = some ⟨count, .arriving⟩) :
    (l.run [.enlist index, .look index]).tenancy =
      (l.tenancy.welcome (l.pool.attempt index count)).2 := by
  have inside := (List.getElem?_eq_some_iff.mp found).1
  have fits : ¬l.tenancy.pool.capacity < count :=
    Nat.not_lt.mpr (alert.fits _ (List.mem_of_getElem? found))
  let enlisted : Line := { l with tenancy := l.moved (.call index count) }.setStage index
    ⟨count, .arriving⟩ .ready
  have called : l.step (.enlist index) = enlisted := by
    simp only [Line.step, found, enlisted]
  have found : enlisted.seekers[index]? = some ⟨count, .ready⟩ := List.getElem?_set_self inside
  have same : enlisted.tenancy = ⟨l.pool.enlist index count, l.tenancy.leases⟩ :=
    congrArg Prod.snd (if_neg fits)
  change ((l.step (.enlist index)).step (.look index)).tenancy = _
  rw [called]
  simp only [Line.step, found, Tenancy.step, same, Line.setStage, Pool.attempt]
  rcases (l.pool.enlist index count).look index count with ⟨_ | lease, pool⟩ <;> rfl

private theorem run_release {lease : Lease} (found : l.tenancy.leases[index]? = some lease)
    (full : lease.nodes.isEmpty = false) :
    (l.run [.drop index, .announce]).pool = l.pool.release lease := by
  simp [Line.run, Line.step, moved, Tenancy.step, inserts, found, full, Pool.release, pool]

private theorem Alert.served (alert : l.Alert) (fair : l.tenancy.Fair [])
    (found : l.seekers[index]? = some seeker) (parked : seeker.stage = .parked)
    (woken : l.pool.isWoken index = true) (enough : seeker.count ≤ l.pool.available) :
    ∃ lease, lease.size = seeker.count ∧
      (l.run [.wake index, .enlist index, .look index]).tenancy.leases =
        lease :: l.tenancy.leases := by
  obtain ⟨count, stage⟩ := seeker
  obtain rfl : stage = .parked := parked
  have inside := (List.getElem?_eq_some_iff.mp found).1
  let arrived : Line := { l with tenancy := l.moved (.giveUp index) }.setStage index
    ⟨count, .parked⟩ .arriving
  have woke : l.step (.wake index) = arrived := by
    simp only [Line.step, found, woken, if_true, arrived]
  have attempt := (alert.leave found (.inl rfl)).attempt (l := arrived)
    (List.getElem?_set_self inside)
  -- The free nodes are those from before it woke up.
  have granted := Pool.isSome_tryAcquire (p := arrived.pool.enlist index count).mpr enough
  obtain ⟨⟨lease, rest⟩, granted⟩ := Option.isSome_iff_exists.mp granted
  have balanced : (arrived.pool.enlist index count).Balanced (l.tenancy.held ++ []) :=
    Pool.Balanced.of_books fair rfl
  refine ⟨lease, (balanced.tryAcquire granted).2, ?_⟩
  change (Line.run (l.step (.wake index)) [.enlist index, .look index]).tenancy.leases = _
  rw [woke, attempt]
  simp only [Pool.attempt, Pool.look, granted, Tenancy.welcome]
  rfl

/-- Whatever the order in which the tasks of a line, the releases and everybody else take their
steps: a task that sleeps and was not woken wants more nodes than are free, or a release has
inserted its nodes and is about to wake the line.  So a sleeper for which there are nodes, while
no release is about to wake it, was woken, and the steps that it takes next give it its nodes.
What happens to the pool in a line is what can happen to it in a tenancy; the attempts and the
releases of executions are steps of a line between which nothing else happens. -/
theorem asleep_of_run (hosts : List String) (moves : List LineMove) :
    let l := (ofHosts hosts).run moves
    (∀ index seeker, l.seekers[index]? = some seeker → seeker.stage = .parked →
      l.pool.isWoken index = false → l.pool.available < seeker.count ∨ 0 < l.returning) ∧
    (∀ index seeker, l.seekers[index]? = some seeker → seeker.stage = .parked →
      seeker.count ≤ l.pool.available → l.returning = 0 →
        l.pool.isWoken index = true ∧ ∃ lease, lease.size = seeker.count ∧
          (l.run [.wake index, .enlist index, .look index]).tenancy.leases =
            lease :: l.tenancy.leases) ∧
    (∃ moves', l.tenancy = (Tenancy.ofHosts hosts).run moves') ∧
    (∀ index count, l.seekers[index]? = some ⟨count, .arriving⟩ →
      (l.run [.enlist index, .look index]).pool = (l.pool.attempt index count).2) ∧
    ∀ index lease, l.tenancy.leases[index]? = some lease → lease.nodes.isEmpty = false →
      (l.run [.drop index, .announce]).pool = l.pool.release lease := by
  intro l
  have alert : l.Alert := (alert_ofHosts hosts).run moves
  obtain ⟨moves', same⟩ := (ofHosts hosts).exists_tenancy_run moves
  have fair : l.tenancy.Fair [] := by
    rw [same]
    exact (Tenancy.fair_ofHosts hosts).run moves'
  refine ⟨fun index seeker found parked => alert.asleep found parked, ?_, ⟨moves', same⟩, ?_,
    fun index lease found full => run_release found full⟩
  · intro index seeker found parked enough quiet
    have woken : l.pool.isWoken index = true := by
      by_contra deaf
      rcases alert.asleep found parked (eq_false_of_ne_true deaf) with short | coming <;> omega
    exact ⟨woken, alert.served fair found parked woken enough⟩
  · intro index count found
    rw [pool, alert.attempt found]
    rcases l.pool.attempt index count with ⟨_ | lease, rest⟩ <;> rfl

/-- Between the two steps of a release a sleeper can find its nodes free and not be woken. -/
example :
    let l := (ofHosts ["host"]).run
      [.tryAcquire 1, .come 1, .enlist 0, .look 0, .park 0, .drop 0]
    l.seekers = [⟨1, .parked⟩] ∧ l.pool.isWoken 0 = false ∧ l.pool.available = 1 ∧
      l.returning = 1 := by decide

end Line

end Interop
