import Interop.Clockwork
import Interop.Proofs.Lifecycle.Resolution
import Interop.Proofs.Lifecycle.Results

/-!
# Waiting until a service is ready

A service is asked to start and then probed until it is ready or its time is up.  The pauses
between the probes never outlast the deadline, so the last probe is made when the deadline has
come, and a service that is ready by then is found ready.  Alarms go off at whole milliseconds,
so the deadline has come at the first whole millisecond that is not before it.
-/

namespace Interop

/-! ## The clock -/

namespace Clockwork

theorem le_tick (time : Nat) : time ≤ tick time := by
  show time ≤ (time + 999999) / 1000000 * 1000000
  omega

theorem tick_mono {time later : Nat} (h : time ≤ later) : tick time ≤ tick later := by
  show (time + 999999) / 1000000 * 1000000 ≤ (later + 999999) / 1000000 * 1000000
  omega

@[simp]
theorem tick_tick (time : Nat) : tick (tick time) = tick time := by
  show ((time + 999999) / 1000000 * 1000000 + 999999) / 1000000 * 1000000 =
    (time + 999999) / 1000000 * 1000000
  omega

theorem tick_le_iff {time later : Instant} (whole : tick later = later) :
    tick time ≤ later ↔ time ≤ later :=
  ⟨(le_tick time).trans, fun h => whole ▸ tick_mono h⟩

private theorem tick_add {time span : Nat} (whole : tick time = time) (even : 1000000 ∣ span) :
    tick (time + span) = time + span := by
  have start : (time + 999999) / 1000000 * 1000000 = time := whole
  have last : ∀ later : Nat, later = time + span →
      (later + 999999) / 1000000 * 1000000 = later := by omega
  exact last (time + span) rfl

end Clockwork

open Clockwork (tick)

/-! ## Services that keep their time -/

/-- A service that is asked to start at a whole millisecond.  The start takes its time, and a
probe finds the service ready from some time on; both count from the request. -/
structure Pace where
  begun : Instant
  whole : tick begun = begun
  startTime : Span
  readyTime : Span

namespace Pace

/-- How and when a wait ends that the clock stands at.  A start that ends when its time is up
has ended in time, and a probe takes no time. -/
def next? (p : Pace) (now : Instant) : Wait → Option (Instant × Answer)
  | .start _ deadline =>
    if tick (p.startTime.after p.begun) ≤ tick deadline then
      some (tick (p.startTime.after p.begun), .acknowledged (.ok ()))
    else some (tick deadline, .elapsed)
  | .probe _ _ => some (now, .probed (.ok (decide (p.readyTime.after p.begun ≤ now))))
  | .pause _ _ wake => some (tick wake, .elapsed)
  | _ => none

end Pace

/-- From an instant on, every wait ends as the service and the clock have it, whatever the
services show meanwhile and others do with the pool. -/
inductive Paced (p : Pace) : Instant → Duty → List DutyMove → Prop
  | nil (now : Instant) (d : Duty) : Paced p now d []
  | answer {now later : Instant} {d : Duty} {wait : Wait} {given : Answer}
      {moves : List DutyMove} (ticket : Nat) (waits : d.wait? = some wait)
      (due : p.next? now wait = some (later, given))
      (rest : Paced p later (d.step (.answer later ticket given)) moves) :
      Paced p now d (.answer later ticket given :: moves)
  | observe {now : Instant} {d : Duty} {moves : List DutyMove} (service : Nat)
      (exposure : Exposure) (rest : Paced p now (d.step (.observe service exposure)) moves) :
      Paced p now d (.observe service exposure :: moves)
  | share {now : Instant} {d : Duty} {moves : List DutyMove} (pool : Pool)
      (rest : Paced p now (d.step (.share pool)) moves) : Paced p now d (.share pool :: moves)

theorem Paced.attends {p : Pace} {now : Instant} {d : Duty} {moves : List DutyMove}
    (h : Paced p now d moves) : ∀ move ∈ moves, move.attends = true := by
  induction h with
  | nil => nofun
  | answer _ _ _ _ ih | observe _ _ _ ih | share _ _ ih =>
      intro move mem
      rcases List.mem_cons.mp mem with rfl | mem
      · rfl
      · exact ih move mem

/-! ## Probes -/

def DutyMove.isAnswer : DutyMove → Bool
  | .answer _ _ _ => true
  | _ => false

def DutyMove.time? : DutyMove → Option Instant
  | .issue now _ _ | .answer now _ _ => some now
  | .cancel _ | .observe _ _ | .share _ => none

namespace Duty

def probes? (id : Nat) (d : Duty) (move : DutyMove) : Bool :=
  d.controller.requests.count (.probe id) < (d.step move).controller.requests.count (.probe id)

/-- The instants at which a service is probed. -/
def probes (id : Nat) (d : Duty) : List DutyMove → List Instant
  | [] => []
  | move :: moves =>
    (if d.probes? id move then move.time?.toList else []) ++ (d.step move).probes id moves

theorem probes?_eq_false {id : Nat} {d : Duty} {move : DutyMove}
    (same : (d.step move).controller.requests = d.controller.requests) :
    d.probes? id move = false := by
  simp [probes?, same]

private theorem probes?_eq_true {id : Nat} {d : Duty} {move : DutyMove}
    (asked : (d.step move).controller.requests = .probe id :: d.controller.requests) :
    d.probes? id move = true := by
  simp [probes?, asked]

private theorem probes_of_idle {id : Nat} {d : Duty} (idle : d.operation = none)
    {moves : List DutyMove}
    (attended : ∀ move ∈ moves, move.attends = true) : d.probes id moves = [] := by
  induction moves generalizing d with
  | nil => rfl
  | cons move moves ih =>
      have attends := attended move List.mem_cons_self
      have gone := (step_of_idle idle attends).1
      have still : d.probes? id move = false := by
        refine probes?_eq_false ?_
        cases move with
        | issue | cancel => cases attends
        | answer => simp [step, idle]
        | observe | share => rfl
      rw [probes, still, ih gone fun other mem => attended other (List.mem_cons_of_mem _ mem)]
      rfl

end Duty

/-! ## One answer -/

structure Rising (settings : Settings) (id : Nat) (plan : Descriptor) (d : Duty) (wait : Wait) :
    Prop where
  current : d.operation = some ⟨.alone, wait⟩
  unchanged : d.controller.settings = settings
  planned : d.controller.ledger.plans[id]? = some plan

def Descriptor.patience (plan : Descriptor) (settings : Settings) : Span :=
  plan.startupTimeout.getD settings.startupTimeout

namespace Rising

variable {settings : Settings} {id : Nat} {plan : Descriptor} {d : Duty} {wait : Wait}
  {deadline : Instant}

theorem observe (h : Rising settings id plan d wait) (service : Nat) (exposure : Exposure) :
    Rising settings id plan (d.step (.observe service exposure)) wait := by
  refine ⟨h.current, h.unchanged, ?_⟩
  have same := Controller.ledger_observe d.controller service exposure
  exact (congrArg (fun l => l.plans[id]?) same).trans h.planned

theorem wait_eq (h : Rising settings id plan d wait) {current : Wait}
    (waits : d.wait? = some current) : current = wait := by
  rw [Duty.wait?, h.current] at waits
  exact (Option.some.inj waits).symm

theorem share (h : Rising settings id plan d wait) (pool : Pool) :
    Rising settings id plan (d.step (.share pool)) wait := ⟨h.current, h.unchanged, h.planned⟩

theorem probed (h : Rising settings id plan d wait) (now : Instant) (ticket : Nat)
    (given : Answer) (goes : d.site.continueWith now ticket wait given =
      Site.probe id deadline d.site) :
    let move := DutyMove.answer now ticket given
    Rising settings id plan (d.step move) (.probe id deadline) ∧ d.result? move = none ∧
      d.probes? id move = true := by
  intro move
  obtain ⟨led, told⟩ := Duty.answer_of_busy h.current now ticket given
  simp only [Site.resume, goes, Site.probe, Site.follow] at led told
  refine ⟨?_, told, Duty.probes?_eq_true ?_⟩
  · rw [led]
    exact ⟨rfl, h.unchanged, h.planned⟩
  · rw [led]
    rfl

private theorem paused (h : Rising settings id plan d wait) (now : Instant) (ticket : Nat)
    (given : Answer) {wake : Instant} (goes : d.site.continueWith now ticket wait given =
      (.waits (.pause id deadline wake), d.site)) :
    let move := DutyMove.answer now ticket given
    Rising settings id plan (d.step move) (.pause id deadline wake) ∧ d.result? move = none ∧
      d.probes? id move = false := by
  intro move
  obtain ⟨led, told⟩ := Duty.answer_of_busy h.current now ticket given
  simp only [Site.resume, goes, Site.follow] at led told
  refine ⟨?_, told, Duty.probes?_eq_false ?_⟩
  · rw [led]
    exact ⟨rfl, h.unchanged, h.planned⟩
  · rw [led]
    rfl

theorem expired (h : Rising settings id plan d wait) (now : Instant) (ticket : Nat)
    (given : Answer) (goes : d.site.continueWith now ticket wait given =
      d.site.expireStart now id) :
    let move := DutyMove.answer now ticket given
    (d.step move).operation = none ∧
      d.result? move =
        some (now, .started (.error (.startupTimeout plan.name (plan.patience settings)))) ∧
      d.probes? id move = false := by
  intro move
  obtain ⟨handle, found, rfl⟩ := Controller.handle_of_plan h.planned
  have found : d.site.controller.handles[id]? = some handle := found
  have time : Site.startupTimeout d.site.controller handle = handle.descriptor.patience settings :=
    congrArg (fun s : Settings => handle.descriptor.startupTimeout.getD s.startupTimeout)
      h.unchanged
  obtain ⟨led, told⟩ := Duty.answer_of_busy h.current now ticket given
  simp only [Site.resume, goes, Site.expireStart, Site.failStart, found, time, Site.follow]
    at led told
  refine ⟨by rw [led]; rfl, told, Duty.probes?_eq_false ?_⟩
  rw [led]
  rfl

private theorem succeeded (h : Rising settings id plan d (.probe id deadline)) (now : Instant)
    (ticket : Nat) :
    let move := DutyMove.answer now ticket (.probed (.ok true))
    (d.step move).operation = none ∧
      (∃ endpoints, d.result? move = some (now, .started (.ok ⟨plan.name, endpoints⟩))) ∧
      d.probes? id move = false := by
  intro move
  obtain ⟨handle, found, rfl⟩ := Controller.handle_of_plan h.planned
  have found : d.site.controller.handles[id]? = some handle := found
  obtain ⟨led, told⟩ := Duty.answer_of_busy h.current now ticket (.probed (.ok true))
  simp only [Site.resume, Site.continueWith, Site.succeedStart, found, Site.follow] at led told
  refine ⟨by rw [led]; rfl, ⟨_, told⟩, Duty.probes?_eq_false ?_⟩
  rw [led]
  rfl

end Rising

/-! ## The loop -/

def remaining (poll deadline now : Nat) : Nat := (deadline - now + (poll - 1)) / poll

private theorem remaining_le (poll deadline : Nat) {now later : Nat} (h : now ≤ later) :
    remaining poll deadline later ≤ remaining poll deadline now :=
  Nat.div_le_div_right (by omega)

theorem remaining_lt {poll deadline now later : Nat} (polls : 0 < poll) (early : now < deadline)
    (woken : min (now + poll) deadline ≤ later) :
    remaining poll deadline later < remaining poll deadline now := by
  have first : 1 ≤ remaining poll deadline now := (Nat.one_le_div_iff polls).mpr (by omega)
  by_cases last : deadline ≤ later
  · have none_left : remaining poll deadline later = 0 := Nat.div_eq_of_lt (by omega)
    omega
  · have step : remaining poll deadline later + 1 ≤ remaining poll deadline now := by
      rw [remaining, ← Nat.add_div_right _ polls]
      exact Nat.div_le_div_right (by omega)
    omega

private theorem remaining_begun_le {poll : Nat} (polls : 0 < poll) (begun patience : Nat) :
    remaining poll (begun + patience) begun ≤ patience / poll + 1 := by
  rw [remaining, ← Nat.add_div_right _ polls]
  exact Nat.div_le_div_right (by omega)

/-- Where the loop stands at an instant: what it waits for, whether the service will be found
ready, from when on it can be probed, and how many answers there can be. -/
inductive Polling (p : Pace) (id poll deadline : Nat) : Nat → Wait → Prop → Nat → Nat → Prop
  | start : Polling p id poll deadline p.begun (.start id deadline)
      (p.startTime.after p.begun ≤ tick deadline ∧ p.readyTime.after p.begun ≤ tick deadline)
      p.begun (2 * remaining poll deadline p.begun + 2)
  | probe {now : Nat} (whole : tick now = now) (inside : now ≤ tick deadline) :
      Polling p id poll deadline now (.probe id deadline)
        (p.readyTime.after p.begun ≤ tick deadline) (now + 1)
        (2 * remaining poll deadline now + 1)
  | pause {now : Nat} (early : now < deadline) :
      Polling p id poll deadline now (.pause id deadline (min (now + poll) deadline))
        (p.readyTime.after p.begun ≤ tick deadline) (tick (min (now + poll) deadline))
        (2 * remaining poll deadline now)

structure Verdict (id due : Nat) (plan : Descriptor) (patience : Span) (good : Prop)
    (floor rank : Nat) (d : Duty) (moves : List DutyMove) : Prop where
  ascending : (d.probes id moves).Pairwise (· < ·)
  inside : ∀ time ∈ d.probes id moves, floor ≤ time ∧ time ≤ due
  few : 2 * (d.probes id moves).length ≤ rank
  ends : rank ≤ moves.countP DutyMove.isAnswer → (d.run moves).operation = none
  ready : (d.run moves).operation = none → good → ∃ time ≤ due, ∃ endpoints,
    d.results moves = [(time, .started (.ok ⟨plan.name, endpoints⟩))]
  late : (d.run moves).operation = none → ¬ good →
    d.results moves = [(due, .started (.error (.startupTimeout plan.name patience)))]

namespace Verdict

variable {id due : Nat} {plan : Descriptor} {patience : Span} {good : Prop}
  {floor floor' rank rank' : Nat} {d : Duty} {move : DutyMove} {moves : List DutyMove}

private theorem nil (busy : d.operation ≠ none) (left : 0 < rank) :
    Verdict id due plan patience good floor rank d [] := by
  refine ⟨.nil, nofun, Nat.zero_le _, ?_, fun gone => absurd gone busy,
    fun gone => absurd gone busy⟩
  intro enough
  exact absurd (Nat.lt_of_lt_of_le left enough) (Nat.lt_irrefl 0)

private theorem silent (rest : Verdict id due plan patience good floor' rank' (d.step move) moves)
    (told : d.result? move = none) (still : d.probes? id move = false) (later : floor ≤ floor')
    (fewer : rank' + move.isAnswer.toNat ≤ rank) :
    Verdict id due plan patience good floor rank d (move :: moves) := by
  have probes : d.probes id (move :: moves) = (d.step move).probes id moves := by
    rw [Duty.probes, still]
    rfl
  have results : d.results (move :: moves) = (d.step move).results moves := by
    rw [Duty.results, told]
    rfl
  refine ⟨probes ▸ rest.ascending, ?_, ?_, ?_, ?_, ?_⟩
  · intro time mem
    obtain ⟨after, before⟩ := rest.inside time (probes ▸ mem)
    exact ⟨later.trans after, before⟩
  · rw [probes]
    exact rest.few.trans (Nat.le_of_add_right_le fewer)
  · intro enough
    refine rest.ends ?_
    rw [List.countP_cons] at enough
    cases answers : move.isAnswer <;> simp [answers] at enough fewer <;> omega
  · rw [results]
    exact rest.ready
  · rw [results]
    exact rest.late

private theorem probed (rest : Verdict id due plan patience good floor' rank' (d.step move) moves)
    (told : d.result? move = none) (asked : d.probes? id move = true) {now : Nat}
    (clock : move.time? = some now) (after : floor ≤ now) (before : now ≤ due)
    (next : now < floor') (fewer : rank' / 2 * 2 + 2 ≤ rank) :
    Verdict id due plan patience good floor rank d (move :: moves) := by
  have probes : d.probes id (move :: moves) = now :: (d.step move).probes id moves := by
    rw [Duty.probes, asked, clock]
    rfl
  have results : d.results (move :: moves) = (d.step move).results moves := by
    rw [Duty.results, told]
    rfl
  refine ⟨?_, ?_, ?_, ?_, ?_, ?_⟩
  · rw [probes]
    refine List.pairwise_cons.mpr ⟨?_, rest.ascending⟩
    intro time mem
    exact Nat.lt_of_lt_of_le next (rest.inside time mem).1
  · rw [probes]
    intro time mem
    rcases List.mem_cons.mp mem with rfl | mem
    · exact ⟨after, before⟩
    · obtain ⟨later, inside⟩ := rest.inside time mem
      exact ⟨by omega, inside⟩
  · have few := rest.few
    rw [probes, List.length_cons]
    omega
  · intro enough
    refine rest.ends ?_
    have one := List.countP_cons (p := DutyMove.isAnswer) (a := move) (l := moves)
    split at one <;> omega
  · rw [results]
    exact rest.ready
  · rw [results]
    exact rest.late

private theorem of_idle (idle : (d.step move).operation = none) (still : d.probes? id move = false)
    (attended : ∀ move ∈ moves, move.attends = true) {now : Nat} {completion : Completion}
    (told : d.result? move = some (now, completion))
    (ready : good → now ≤ due ∧ ∃ endpoints, completion = .started (.ok ⟨plan.name, endpoints⟩))
    (late : ¬ good → now = due ∧
      completion = .started (.error (.startupTimeout plan.name patience))) :
    Verdict id due plan patience good floor rank d (move :: moves) := by
  obtain ⟨gone, nothing⟩ := Duty.run_of_idle idle attended
  have probes : d.probes id (move :: moves) = [] := by
    rw [Duty.probes, still, Duty.probes_of_idle idle attended]
    rfl
  have results : d.results (move :: moves) = [(now, completion)] := by
    rw [Duty.results, told, nothing]
    rfl
  refine ⟨?_, ?_, ?_, fun _ => gone, ?_, ?_⟩
  · rw [probes]
    exact .nil
  · rw [probes]
    exact fun _ mem => absurd mem List.not_mem_nil
  · rw [probes]
    exact Nat.zero_le _
  · intro _ met
    obtain ⟨before, endpoints, rfl⟩ := ready met
    exact ⟨now, before, endpoints, results⟩
  · intro _ unmet
    obtain ⟨rfl, rfl⟩ := late unmet
    exact results

end Verdict

namespace Polling

variable {p : Pace} {id poll deadline now floor rank : Nat} {wait : Wait} {good : Prop}

private theorem rank_pos (h : Polling p id poll deadline now wait good floor rank)
    (polls : 0 < poll) :
    0 < rank := by
  cases h with
  | start | probe => omega
  | pause early =>
      have some_left := remaining_lt polls early (Nat.le_refl _)
      omega

private theorem exists_next (h : Polling p id poll deadline now wait good floor rank)
    (later : Instant) :
    ∃ next, p.next? later wait = some next := by
  cases h with
  | start =>
      by_cases inside : tick (p.startTime.after p.begun) ≤ tick deadline
      · exact ⟨_, if_pos inside⟩
      · exact ⟨_, if_neg inside⟩
  | probe | pause => exact ⟨_, rfl⟩

end Polling

inductive Advance (p : Pace) (settings : Settings) (id deadline : Nat) (plan : Descriptor)
    (d : Duty) (good : Prop) (floor rank later : Nat) (move : DutyMove) : Prop
  | asks {wait : Wait} {floor' rank' : Nat} (rising : Rising settings id plan (d.step move) wait)
      (phase : Polling p id settings.pollInterval.nanos deadline later wait good floor' rank')
      (told : d.result? move = none) (asked : d.probes? id move = true) (after : floor ≤ later)
      (inside : later ≤ tick deadline) (next : later < floor')
      (fewer : rank' / 2 * 2 + 2 ≤ rank)
  | rests {wait : Wait} {floor' rank' : Nat} (rising : Rising settings id plan (d.step move) wait)
      (phase : Polling p id settings.pollInterval.nanos deadline later wait good floor' rank')
      (told : d.result? move = none) (still : d.probes? id move = false)
      (after : floor ≤ floor') (fewer : rank' + 1 ≤ rank)
  | ends {completion : Completion} (gone : (d.step move).operation = none)
      (still : d.probes? id move = false) (told : d.result? move = some (later, completion))
      (ready : good → later ≤ tick deadline ∧
        ∃ endpoints, completion = .started (.ok ⟨plan.name, endpoints⟩))
      (late : ¬ good → later = tick deadline ∧
        completion = .started (.error (.startupTimeout plan.name (plan.patience settings))))

namespace Rising

variable {p : Pace} {settings : Settings} {id deadline : Nat} {plan : Descriptor} {d : Duty}
  {now later : Nat} {given : Answer}

private theorem advance_start (rising : Rising settings id plan d (.start id deadline))
    (due : p.next? p.begun (.start id deadline) = some (later, given)) (ticket : Nat) :
    Advance p settings id deadline plan d
      (p.startTime.after p.begun ≤ tick deadline ∧ p.readyTime.after p.begun ≤ tick deadline)
      p.begun (2 * remaining settings.pollInterval.nanos deadline p.begun + 2) later
      (.answer later ticket given) := by
  simp only [Pace.next?] at due
  split at due
  · next inside =>
      cases due
      obtain ⟨rises, told, asked⟩ := rising.probed
        (tick (p.startTime.after p.begun)) ticket (.acknowledged (.ok ())) rfl
      have begins : p.begun ≤ tick (p.startTime.after p.begun) :=
        (Nat.le_add_right p.begun p.startTime.nanos).trans (Clockwork.le_tick _)
      have started : p.startTime.after p.begun ≤ tick deadline :=
        (Clockwork.le_tick _).trans inside
      have fewer := remaining_le settings.pollInterval.nanos deadline begins
      rw [show (p.startTime.after p.begun ≤ tick deadline ∧
        p.readyTime.after p.begun ≤ tick deadline) =
          (p.readyTime.after p.begun ≤ tick deadline) from
        propext ⟨And.right, fun h => ⟨started, h⟩⟩]
      exact .asks rises (.probe (Clockwork.tick_tick _) inside) told asked begins inside
        (Nat.lt_succ_self _) (by omega)
  · next beyond =>
      cases due
      obtain ⟨gone, told, still⟩ := rising.expired (tick deadline) ticket .elapsed rfl
      refine .ends gone still told ?_ fun _ => ⟨rfl, rfl⟩
      rintro ⟨started, -⟩
      exact absurd ((Clockwork.tick_le_iff (Clockwork.tick_tick _)).mpr started) beyond

private theorem advance_missed (polls : 0 < settings.pollInterval.nanos)
    (rests : settings.pollInterval.after deadline ≤ settings.horizon)
    (rising : Rising settings id plan d (.probe id deadline)) (whole : tick now = now)
    (inside : now ≤ tick deadline) (missed : ¬ p.readyTime.after p.begun ≤ now) (ticket : Nat) :
    Advance p settings id deadline plan d (p.readyTime.after p.begun ≤ tick deadline) (now + 1)
      (2 * remaining settings.pollInterval.nanos deadline now + 1) now
      (.answer now ticket (.probed (.ok false))) := by
  have paused : d.site.continueWith now ticket (.probe id deadline) (.probed (.ok false)) =
      d.site.pauseProbing now id deadline := rfl
  by_cases early : now < deadline
  · have goes : d.site.pauseProbing now id deadline = (.waits (.pause id deadline
          (min (now + settings.pollInterval.nanos) deadline)), d.site) := by
      have same : d.site.controller.settings = settings := rising.unchanged
      have wakes : settings.pollInterval.after now ≤ settings.horizon :=
        (Nat.add_le_add_right early.le _).trans rests
      rw [Site.pauseProbing, if_neg (Nat.not_le_of_lt early), same, Span.after?_of_le wakes]
      rfl
    obtain ⟨rises, told, still⟩ :=
      rising.paused now ticket (.probed (.ok false)) (paused.trans goes)
    have later : now + 1 ≤ min (now + settings.pollInterval.nanos) deadline :=
      Nat.le_min.mpr ⟨Nat.add_le_add_left polls now, early⟩
    exact .rests rises (.pause early) told still (later.trans (Clockwork.le_tick _))
      (Nat.le_refl _)
  · -- The deadline has come, and the probe was made at the last instant that there is.
    have goes : d.site.pauseProbing now id deadline = d.site.expireStart now id :=
      if_pos (Nat.le_of_not_lt early)
    have last : now = tick deadline :=
      Nat.le_antisymm inside ((Clockwork.tick_le_iff whole).mpr (Nat.le_of_not_lt early))
    obtain ⟨gone, told, still⟩ :=
      rising.expired now ticket (.probed (.ok false)) (paused.trans goes)
    refine .ends gone still told ?_ fun _ => ⟨last, rfl⟩
    exact fun met => absurd (last ▸ met) missed

private theorem advance_pause (polls : 0 < settings.pollInterval.nanos)
    (rising : Rising settings id plan d
      (.pause id deadline (min (now + settings.pollInterval.nanos) deadline)))
    (early : now < deadline) (ticket : Nat) :
    Advance p settings id deadline plan d (p.readyTime.after p.begun ≤ tick deadline)
      (tick (min (now + settings.pollInterval.nanos) deadline))
      (2 * remaining settings.pollInterval.nanos deadline now)
      (tick (min (now + settings.pollInterval.nanos) deadline))
      (.answer (tick (min (now + settings.pollInterval.nanos) deadline)) ticket .elapsed) := by
  obtain ⟨rises, told, asked⟩ := rising.probed
    (tick (min (now + settings.pollInterval.nanos) deadline)) ticket .elapsed rfl
  have woken := Clockwork.le_tick (min (now + settings.pollInterval.nanos) deadline)
  have inside := Clockwork.tick_mono
    (Nat.min_le_right (now + settings.pollInterval.nanos) deadline)
  have fewer := remaining_lt polls early woken
  exact .asks rises (.probe (Clockwork.tick_tick _) inside) told asked (Nat.le_refl _) inside
    (Nat.lt_succ_self _) (by omega)

theorem advance {wait : Wait} {good : Prop} {floor rank : Nat}
    (polls : 0 < settings.pollInterval.nanos)
    (rests : settings.pollInterval.after deadline ≤ settings.horizon)
    (rising : Rising settings id plan d wait)
    (phase : Polling p id settings.pollInterval.nanos deadline now wait good floor rank)
    (due : p.next? now wait = some (later, given)) (ticket : Nat) :
    Advance p settings id deadline plan d good floor rank later (.answer later ticket given) := by
  cases phase with
  | start => exact rising.advance_start due ticket
  | probe whole inside =>
      cases due
      by_cases found : p.readyTime.after p.begun ≤ now
      · rw [decide_eq_true found]
        obtain ⟨gone, ⟨endpoints, told⟩, still⟩ := rising.succeeded now ticket
        refine .ends gone still told (fun _ => ⟨inside, endpoints, rfl⟩) ?_
        exact fun unmet => absurd (found.trans inside) unmet
      · rw [decide_eq_false found]
        exact rising.advance_missed polls rests whole inside found ticket
  | pause early =>
      cases due
      exact rising.advance_pause polls early ticket

end Rising

namespace Paced

variable {p : Pace} {settings : Settings} {id deadline : Nat} {plan : Descriptor} {now : Instant}
  {d : Duty} {moves : List DutyMove} {wait : Wait} {good : Prop} {floor rank : Nat}

private theorem verdict (polls : 0 < settings.pollInterval.nanos)
    (rests : settings.pollInterval.after deadline ≤ settings.horizon) (paced : Paced p now d moves)
    (rising : Rising settings id plan d wait)
    (phase : Polling p id settings.pollInterval.nanos deadline now wait good floor rank) :
    Verdict id (tick deadline) plan (plan.patience settings) good floor rank d moves := by
  induction paced generalizing wait good floor rank with
  | nil now d =>
      refine .nil ?_ (phase.rank_pos polls)
      rw [rising.current]
      nofun
  | observe service exposure rest ih =>
      exact (ih (rising.observe service exposure) phase).silent rfl (Duty.probes?_eq_false rfl)
        (Nat.le_refl _) (Nat.le_refl _)
  | share pool rest ih =>
      exact (ih (rising.share pool) phase).silent rfl (Duty.probes?_eq_false rfl) (Nat.le_refl _)
        (Nat.le_refl _)
  | answer ticket waits due rest ih =>
      obtain rfl := rising.wait_eq waits
      cases rising.advance polls rests phase due ticket with
      | asks rises phase told asked after inside next fewer =>
          exact (ih rises phase).probed told asked rfl after inside next fewer
      | rests rises phase told still after fewer =>
          exact (ih rises phase).silent told still after fewer
      | ends gone still told ready late => exact .of_idle gone still rest.attends told ready late

private theorem goes_on (polls : 0 < settings.pollInterval.nanos)
    (rests : settings.pollInterval.after deadline ≤ settings.horizon) (paced : Paced p now d moves)
    (rising : Rising settings id plan d wait)
    (phase : Polling p id settings.pollInterval.nanos deadline now wait good floor rank)
    (busy : (d.run moves).operation ≠ none) (ticket : Nat) :
    ∃ later given, Paced p now d (moves ++ [.answer later ticket given]) := by
  induction paced generalizing wait good floor rank with
  | nil now d =>
      obtain ⟨⟨later, given⟩, due⟩ := phase.exists_next now
      have waits : d.wait? = some wait := by rw [Duty.wait?, rising.current]; rfl
      exact ⟨later, given, .answer ticket waits due (.nil later _)⟩
  | observe service exposure rest ih =>
      obtain ⟨later, given, longer⟩ := ih (rising.observe service exposure) phase busy
      exact ⟨later, given, .observe service exposure longer⟩
  | share pool rest ih =>
      obtain ⟨later, given, longer⟩ := ih (rising.share pool) phase busy
      exact ⟨later, given, .share pool longer⟩
  | answer ticket' waits due rest ih =>
      obtain rfl := rising.wait_eq waits
      cases rising.advance polls rests phase due ticket' with
      | asks rises phase | rests rises phase =>
          obtain ⟨later, given, longer⟩ := ih rises phase busy
          exact ⟨later, given, .answer ticket' waits due longer⟩
      | ends gone => exact absurd (Duty.run_of_idle gone rest.attends).1 busy

end Paced

/-! ## Starts -/

namespace Duty

private theorem rising_of_start {d : Duty} (sound : d.controller.Sound) (idle : d.operation = none)
    {id : Nat} {handle : Handle} (found : d.controller.handles[id]? = some handle)
    (stands : handle.state = .provisioned) (mode : handle.descriptor.mode = .preStarted)
    (free : ∀ e, ¬ d.controller.Hinders handle e) (begun : Instant)
    (fits : (handle.descriptor.patience d.controller.settings).after begun ≤
      d.controller.settings.horizon) (ticket : Nat) :
    Rising d.controller.settings id handle.descriptor (d.step (.issue begun ticket (.start id)))
      (.start id ((handle.descriptor.patience d.controller.settings).after begun)) := by
  rcases sound.planStart_cases found stands mode with ⟨params, planned, -⟩ | ⟨e, -, why⟩
  · have led := (issue_of_idle idle begun ticket (.start id)).1
    have planned : Site.planStart d.site.controller id =
      .ok (.go handle.name (Site.startupTimeout d.site.controller handle) params) := planned
    simp only [Site.issue, Site.start_of_due planned (Span.after?_of_le fits), Site.follow] at led
    rw [led]
    refine ⟨rfl, rfl, ?_⟩
    have same := Controller.ledger_launch d.controller begun id handle.name .starting .starting
      (.start id params)
    exact (congrArg (fun l => l.plans[id]?) same).trans (Controller.plan_of_handle found)
  · exact absurd why (free e)

/-- Whatever a controller was told before, a service that is due and that nothing hinders is
started, if the clock can show its deadline and a pause after that.  When the probes are some time
apart, the service keeps its time and the alarms go off at whole milliseconds, the service has until
the first whole millisecond that is not before its deadline: it is reported ready if its start has
ended and it is ready by then, and otherwise what is reported then is that its time is up.  It is
not probed later, at most once then, and only finitely often, so the start comes to its end. -/
theorem ready_iff_in_time (settings : Settings) (polls : 0 < settings.pollInterval.nanos)
    (pool : Pool) (past : List DutyMove)
    (idle : ((ofSettings settings pool).run past).operation = none) {id : Nat} {handle : Handle}
    (found : ((ofSettings settings pool).run past).controller.handles[id]? = some handle)
    (stands : handle.state = .provisioned) (mode : handle.descriptor.mode = .preStarted)
    (free : ∀ e, ¬ ((ofSettings settings pool).run past).controller.Hinders handle e) (p : Pace)
    (rests : settings.pollInterval.after
      ((handle.descriptor.startupTimeout.getD settings.startupTimeout).after p.begun) ≤
        settings.horizon)
    (ticket : Nat) (moves : List DutyMove)
    (paced : Paced p p.begun
      (((ofSettings settings pool).run past).step (.issue p.begun ticket (.start id))) moves) :
    let d := (ofSettings settings pool).run past
    let e := d.step (.issue p.begun ticket (.start id))
    let patience := handle.descriptor.startupTimeout.getD settings.startupTimeout
    let due := tick (patience.after p.begun)
    let inTime := p.startTime.after p.begun ≤ due ∧ p.readyTime.after p.begun ≤ due
    (1000000 ∣ patience.nanos → due = patience.after p.begun) ∧
      (∀ time ∈ e.probes id moves, time ≤ due) ∧
      (e.probes id moves).count due ≤ 1 ∧
      (e.probes id moves).length ≤ patience.nanos / settings.pollInterval.nanos + 2 ∧
      (2 * (patience.nanos / settings.pollInterval.nanos + 2) ≤
        moves.countP DutyMove.isAnswer → (e.run moves).operation = none) ∧
      ((e.run moves).operation ≠ none →
        ∃ later given, Paced p p.begun e (moves ++ [.answer later ticket given])) ∧
      ((e.run moves).operation = none →
        (inTime → ∃ time ≤ due, ∃ endpoints,
          e.results moves = [(time, .started (.ok ⟨handle.name, endpoints⟩))]) ∧
        (¬ inTime →
          e.results moves =
            [(due, .started (.error (.startupTimeout handle.name patience)))])) := by
  intro d e patience due inTime
  have sound : d.controller.Sound := (kept_run settings pool past).sound
  have unchanged : d.controller.settings = settings :=
    (Commons.budgeted_run settings pool past).unchanged
  have fits : (handle.descriptor.patience d.controller.settings).after p.begun ≤
      d.controller.settings.horizon := by
    rw [unchanged]
    exact (Nat.le_add_right _ _).trans rests
  have rising := rising_of_start sound idle found stands mode free p.begun fits ticket
  rw [unchanged] at rising
  have verdict := paced.verdict polls rests rising .start
  have few := remaining_begun_le polls p.begun patience.nanos
  have short : 2 * remaining settings.pollInterval.nanos (patience.after p.begun) p.begun + 2 ≤
      2 * (patience.nanos / settings.pollInterval.nanos + 2) := by
    have same : patience.after p.begun = p.begun + patience.nanos := rfl
    rw [same]
    omega
  refine ⟨Clockwork.tick_add p.whole, fun time mem => (verdict.inside time mem).2, ?_, ?_,
    fun enough => verdict.ends (short.trans enough),
    fun busy => paced.goes_on polls rests rising .start busy ticket,
    fun gone => ⟨verdict.ready gone, verdict.late gone⟩⟩
  · exact List.nodup_iff_count_le_one.mp (verdict.ascending.imp Nat.ne_of_lt) due
  · have asked : 2 * (e.probes id moves).length ≤
        2 * remaining settings.pollInterval.nanos (patience.after p.begun) p.begun + 2 :=
      verdict.few
    omega

/-- Two and a half milliseconds to start, and a probe every other millisecond. -/
def brisk : Settings :=
  { Settings.standard with startupTimeout := ⟨2500000⟩, pollInterval := .ofMillis 2 }

/-- A start that takes a millisecond, of a service that is ready two later. -/
def slowly : Pace := ⟨0, rfl, .ofMillis 1, .ofMillis 3⟩

/-- The second probe is made when the third millisecond is over, and the service is ready. -/
def justInTime : List DutyMove :=
  [.answer 1000000 0 (.acknowledged (.ok ())), .answer 1000000 0 (.probed (.ok false)),
    .answer 3000000 0 .elapsed, .answer 3000000 0 (.probed (.ok true))]

theorem paced_justInTime :
    Paced slowly 0 (((ofSettings brisk (.ofHosts ["one", "two"])).run pairing).step
      (.issue 0 0 (.start 0))) justInTime := by
  have started : slowly.next? 0 (.start 0 2500000) =
      some (1000000, .acknowledged (.ok ())) := by
    simp [Pace.next?, slowly, tick, Span.after, Span.ofMillis]
  have early : slowly.next? 1000000 (.probe 0 2500000) =
      some (1000000, .probed (.ok false)) := by
    simp [Pace.next?, slowly, Span.after, Span.ofMillis]
  have woken : slowly.next? 1000000 (.pause 0 2500000 2500000) = some (3000000, .elapsed) := by
    simp [Pace.next?, tick]
  have found : slowly.next? 3000000 (.probe 0 2500000) = some (3000000, .probed (.ok true)) := by
    simp [Pace.next?, slowly, Span.after, Span.ofMillis]
  exact .answer 0 rfl started (.answer 0 rfl early (.answer 0 rfl woken
    (.answer 0 rfl found (.nil _ _))))

theorem ready_just_in_time :
    let d := (ofSettings brisk (.ofHosts ["one", "two"])).run pairing
    let e := d.step (.issue 0 0 (.start 0))
    0 < brisk.pollInterval.nanos ∧ d.operation = none ∧ Paced slowly 0 e justInTime ∧
      ∃ time ≤ 3000000, ∃ endpoints,
        e.results justInTime = [(time, .started (.ok ⟨"base", endpoints⟩))] := by
  intro d e
  have polls : 0 < brisk.pollInterval.nanos := by decide
  have idle : d.operation = none := rfl
  refine ⟨polls, idle, paced_justInTime, ?_⟩
  have free : ∀ e, ¬ d.controller.Hinders
      (Handle.fresh (.server "base" .dev) ⟨[⟨0, "one"⟩]⟩ ⟨[], []⟩) e := by
    rintro e (needed | asked)
    · cases needed
    · cases asked
  obtain ⟨-, -, -, -, -, -, ended⟩ :=
    ready_iff_in_time brisk polls (.ofHosts ["one", "two"]) pairing idle rfl rfl rfl free slowly
      (by decide) 0 justInTime paced_justInTime
  exact (ended rfl).1 (by decide)

/-- A timeout that is no whole number of milliseconds is rounded up: here the service is ready
half a millisecond after its time is up, and is reported ready all the same. -/
theorem ready_after_timeout :
    let d := (ofSettings brisk (.ofHosts ["one", "two"])).run pairing
    let e := d.step (.issue 0 0 (.start 0))
    Paced slowly 0 e justInTime ∧
      e.results justInTime = [(3000000, .started (.ok ⟨"base", []⟩))] ∧
      ¬ slowly.readyTime.nanos ≤ brisk.startupTimeout.nanos :=
  ⟨paced_justInTime, rfl, by decide⟩

end Duty

end Interop
