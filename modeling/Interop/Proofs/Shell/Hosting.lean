import Interop.Proofs.Disk.Journal
import Interop.Proofs.Service.Following
import Interop.Shell.Host

/-!
# Programs on the host

Whatever is launched on the host can be waited for.  However often it is asked to terminate, what
it does to the disk takes place in order and not before it has begun, and it takes a moment to end.
A service that is commanded on the host therefore learns of the end of each of its children: its
stops go well, an application that was launched has an outcome, and a probe fails only because a
child has ended.
-/

namespace Interop

namespace Shell.Host

/-! ## Performances -/

/-- A performance is one that knows from the beginning of the signals it was asked for and of those
found on the way; it overlooks one only after as many tries as there may be. -/
theorem perform_eq (scene : Scene) (i : Invocation) (fuel : Nat) (dispatches : List Dispatch) :
    ∃ found, found.length ≤ fuel ∧
      perform scene i fuel dispatches = performOnce scene i (numbered 0 (dispatches ++ found)) ∧
      ∀ departure, perform scene i fuel dispatches = .ok departure →
        departure.state.world.late = none ∨ found.length = fuel := by
  induction fuel generalizing dispatches with
  | zero => exact ⟨[], Nat.le_refl _, by simp only [perform, List.append_nil], fun _ _ => .inr rfl⟩
  | succ fuel ih =>
      cases once : performOnce scene i (numbered 0 dispatches) with
      | error e =>
          have same : perform scene i (fuel + 1) dispatches = .error e := by simp [perform, once]
          exact ⟨[], Nat.zero_le _, by rw [List.append_nil, once, same], by simp [same]⟩
      | ok departure =>
          cases late : departure.state.world.late with
          | none =>
              have same : perform scene i (fuel + 1) dispatches = .ok departure := by
                simp [perform, once, late]
              refine ⟨[], Nat.zero_le _, by rw [List.append_nil, once, same], fun _ ok => .inl ?_⟩
              rw [same, Except.ok.injEq] at ok
              rw [← ok, late]
          | some d =>
              have again : perform scene i (fuel + 1) dispatches =
                  perform scene i fuel (dispatches ++ [d]) := by
                simp [perform, once, late]
              obtain ⟨found, few, same, whole⟩ := ih (dispatches ++ [d])
              refine ⟨d :: found, Nat.succ_le_succ few, ?_, fun departure ok => ?_⟩
              · rw [again, same, List.append_assoc, List.singleton_append]
              · exact (whole departure (again ▸ ok)).imp_right (congrArg (· + 1))

/-! ## Courses -/

/-- Changes take place in order, and not before the program has begun; before it ends some time
passes, and its exit code is a byte. -/
structure Seemly (c : Course) : Prop where
  begun : ∀ change ∈ c.changes, beginning.nanos ≤ change.after.nanos
  ordered : Change.Ordered c.changes
  ended : ∀ time number, c.finish = some (time, .code number) →
    (later beginning ending).nanos ≤ time.nanos ∧ number < 256
  killed : ∀ time number, c.finish = some (time, .signal number) →
    (later beginning linger).nanos ≤ time.nanos

theorem seemly_courseOf (performance : Performance) : Seemly (courseOf performance) := by
  match performance with
  | .error e =>
      exact ⟨by simp [courseOf], List.Pairwise.nil, by simp [courseOf], by simp [courseOf]⟩
  | .ok ⟨flow, s⟩ =>
      refine ⟨fun change mem => ?_, ?_, fun time number finish => ?_, fun time number finish => ?_⟩
      · obtain ⟨origin, -, rfl⟩ := List.mem_map.mp mem
        exact Nat.le_add_right _ _
      · exact List.pairwise_map.mpr ((Change.ordered_combined (Change.ordered_inOrder _)).imp
          (Nat.add_le_add_left · _))
      · cases flow <;> cases finish <;>
          exact ⟨Nat.add_le_add_right (Nat.le_add_right _ _) _, Nat.mod_lt _ (by decide)⟩
      · cases flow <;> cases finish
        exact Nat.add_le_add_right (Nat.le_add_right _ _) _

private theorem replay_later (disk : Disk) (start : Span) (changes : List Change) :
    disk.replay (changes.map fun change => { change with after := later start change.after }) =
      disk.replay changes := by
  induction changes generalizing disk with
  | nil => rfl
  | cons change changes ih => exact ih _

/-- At any time a course has made of a disk what the program has made of it until then. -/
theorem replay_courseOf (disk : Disk) (flow : Flow) (s : State) (time : Span) :
    disk.replay ((courseOf (.ok ⟨flow, s⟩)).changes.filter fun change =>
        change.after.nanos ≤ (later beginning time).nanos) =
      disk.replay ((Change.inOrder s.world.changes.reverse).filter fun change =>
        change.after.nanos ≤ time.nanos) := by
  unfold courseOf
  dsimp only
  rw [List.filter_map, replay_later]
  simp only [Function.comp_def, later, Nat.add_le_add_iff_left]
  exact @Change.replay_combined (fun after _ => after.nanos ≤ time.nanos) disk _

private theorem seemly_course (scene : Scene) (i : Invocation) {undisturbed : Course}
    (seemly : Seemly undisturbed) (requests : List Span) :
    Seemly (course scene i undisturbed requests) := by
  unfold course
  split
  · exact seemly
  · exact seemly_courseOf _

/-! ## Launches -/

/-- What is launched can be waited for, and its course is seemly however often it is asked to
terminate. -/
theorem launch_eq_ok {scene : Scene} {i : Invocation} {work : Work}
    (launched : launch scene i = .ok work) :
    work.lost = none ∧ ∀ requests, Seemly (work.course requests) := by
  unfold launch at launched
  split at launched
  · cases launched
  · split at launched
    · cases launched
    · split at launched
      · cases launched
      · cases launched
        exact ⟨rfl, seemly_course scene i (seemly_courseOf _)⟩

theorem launch_eq_error {scene : Scene} {i : Invocation} {text : String}
    (refused : launch scene i = .error text) :
    (text = nulByte ∧ ∃ arg ∈ i.program :: i.args, Char.ofNat 0 ∈ arg.toList) ∨
      (∀ arg ∈ i.program :: i.args, Char.ofNat 0 ∉ arg.toList) ∧ ∃ e : DiskError,
        text = e.message := by
  unfold launch at refused
  split at refused
  · next nul =>
      obtain ⟨arg, mem, nul⟩ := List.any_eq_true.mp nul
      cases refused
      exact .inl ⟨rfl, arg, mem, List.contains_iff_mem.mp nul⟩
  · next clean =>
      refine .inr ⟨fun arg mem nul => ?_, ?_⟩
      · exact clean (List.any_eq_true.mpr ⟨arg, mem, List.contains_iff_mem.mpr nul⟩)
      · split at refused
        · cases refused
          exact ⟨_, rfl⟩
        · split at refused
          · cases refused
            exact ⟨_, rfl⟩
          · cases refused

private theorem launch_host : Shell.host.launch = launch := rfl

end Shell.Host

/-! ## Children on the host -/

namespace Child

open Shell.Host

structure Sound (c : Child) : Prop where
  found : c.work.lost = none
  works : ∀ requests, Seemly (c.work.course requests)
  goes : Seemly c.course

variable {c : Child}

private theorem sound_ofWork {scene : Scene} {i : Invocation} {work : Work}
    (launched : launch scene i = .ok work) (pid : Nat) (now : Instant) :
    (ofWork pid now work).Sound := by
  obtain ⟨found, seemly⟩ := launch_eq_ok launched
  exact ⟨found, seemly, seemly []⟩

private theorem Sound.collect (sound : c.Sound) (now : Instant) : (c.collect now).Sound := by
  unfold Child.collect
  split
  · exact ⟨sound.found, sound.works, sound.goes⟩
  · exact sound

private theorem Sound.terminate (sound : c.Sound) (now : Instant) : (c.terminate now).Sound := by
  unfold Child.terminate
  split
  · exact sound
  · exact ⟨sound.found, sound.works, sound.works _⟩

private theorem Sound.strike (sound : c.Sound) (now : Instant) : (c.strike now).Sound := by
  unfold Child.strike
  split <;> exact ⟨sound.found, sound.works, sound.goes⟩

private theorem Sound.forget (sound : c.Sound) : c.forget.Sound :=
  ⟨sound.found, sound.works, sound.goes⟩

end Child

namespace Crew

def Sound (crew : Crew) : Prop := ∀ c ∈ crew, c.Sound

variable {crew : Crew}

private theorem Sound.append {more : Crew} (sound : crew.Sound) (others : more.Sound) :
    Sound (crew ++ more) :=
  List.forall_mem_append.mpr ⟨sound, others⟩

private theorem Sound.map {f : Child → Child} (sound : crew.Sound)
    (keeps : ∀ c : Child, c.Sound → (f c).Sound) : Sound (crew.map f) :=
  List.forall_mem_map.mpr fun c mem => keeps c (sound c mem)

private theorem Sound.modify {f : Child → Child} (sound : crew.Sound)
    (keeps : ∀ c : Child, c.Sound → (f c).Sound) (position : Nat) :
    Sound (crew.modify position f) := by
  induction crew generalizing position with
  | nil => simpa using sound
  | cons c rest ih =>
      obtain ⟨head, tail⟩ := List.forall_mem_cons.mp sound
      cases position with
      | zero => exact List.forall_mem_cons.mpr ⟨keeps c head, tail⟩
      | succ position => exact List.forall_mem_cons.mpr ⟨head, ih tail position⟩

private theorem Sound.collectInOrder (sound : crew.Sound) (now : Instant) :
    Sound (crew.collectInOrder now) := by
  induction crew with
  | nil => exact sound
  | cons c rest ih =>
      obtain ⟨head, tail⟩ := List.forall_mem_cons.mp sound
      unfold Crew.collectInOrder
      split
      · exact List.forall_mem_cons.mpr ⟨head.collect now, ih tail⟩
      · exact sound

private theorem Sound.strikeInOrder (sound : crew.Sound) (now since : Instant) :
    Sound (crew.strikeInOrder now since).1 := by
  induction crew generalizing since with
  | nil => exact sound
  | cons c rest ih =>
      obtain ⟨head, tail⟩ := List.forall_mem_cons.mp sound
      have struck := head.strike since
      unfold Crew.strikeInOrder
      dsimp only
      split
      · exact List.forall_mem_cons.mpr ⟨struck, tail⟩
      · split
        · exact List.forall_mem_cons.mpr ⟨struck, tail⟩
        · exact List.forall_mem_cons.mpr ⟨(struck.collect now).forget, ih tail _⟩

private theorem Sound.lost? (sound : crew.Sound) : crew.lost? = none :=
  List.findSome?_eq_none_iff.mpr fun c mem => (sound c mem).found

private theorem Sound.firstEnded? (sound : crew.Sound) (now : Instant) (position : Nat) :
    ∃ first, crew.firstEnded? now position = .ok first := by
  induction crew generalizing position with
  | nil => exact ⟨none, rfl⟩
  | cons c rest ih =>
      obtain ⟨head, tail⟩ := List.forall_mem_cons.mp sound
      unfold Crew.firstEnded?
      rw [head.found]
      cases c.ending? now with
      | some ending => exact ⟨_, rfl⟩
      | none => exact ih tail (position + 1)

private theorem exists_of_firstEnded? {now : Instant} {position : Nat} {first : Nat × Ending}
    (found : crew.firstEnded? now position = .ok (some first)) :
    ∃ c ∈ crew, (c.ending? now).isSome := by
  induction crew generalizing position with
  | nil => cases found
  | cons c rest ih =>
      unfold Crew.firstEnded? at found
      split at found
      · cases found
      · next ending _ ended => exact ⟨c, List.mem_cons_self, by rw [ended]; rfl⟩
      · obtain ⟨later, mem, ended⟩ := ih found
        exact ⟨later, List.mem_cons_of_mem _ mem, ended⟩

end Crew

/-! ## Services on the host -/

namespace Commanded

structure Hosted (s : Commanded) : Prop where
  machine : s.machine = Shell.host
  children : s.children.Sound

variable {s t : Commanded}

private theorem exists_launch {entryPoint : Option String} {params : Params String} {index : Nat}
    {node : Node} {scene : Scene} {work : Work}
    (launched : (s.launchFor entryPoint params index node scene).1 = .ok work) :
    ∃ scene invocation, s.machine.launch scene invocation = .ok work := by
  unfold launchFor at launched
  dsimp only at launched
  split at launched
  · cases launched
  · split at launched
    · cases launched
    · next ran =>
        cases launched
        exact ⟨_, _, ran⟩

private theorem sound_launchFor {entryPoint : Option String} {params : Params String} {index : Nat}
    {node : Node} {scene : Scene} {work : Work} (machine : s.machine = Shell.host)
    (launched : (s.launchFor entryPoint params index node scene).1 = .ok work) (pid : Nat)
    (now : Instant) : (Child.ofWork pid now work).Sound := by
  obtain ⟨scene, invocation, ran⟩ := exists_launch launched
  rw [machine, Shell.Host.launch_host] at ran
  exact Child.sound_ofWork ran pid now

private theorem sound_launchAll (params : Params String) (index : Nat) (nodes : List Node)
    (scene : Scene) (machine : s.machine = Shell.host) (now : Instant) (pid : Nat) :
    (Crew.ofWorks now pid (s.launchAll params index nodes scene).1).Sound := by
  induction nodes generalizing index scene pid with
  | nil => exact List.forall_mem_nil _
  | cons node nodes ih =>
      rcases first : s.launchFor none params index node scene with ⟨cause | work, disk⟩
      · rw [launchAll_of_error nodes first]
        exact List.forall_mem_nil _
      · rw [launchAll_of_ok nodes first]
        exact List.forall_mem_cons.mpr
          ⟨sound_launchFor machine (congrArg Prod.fst first) pid now, ih (index + 1) _ (pid + 1)⟩

private theorem sound_launchesFor (machine : s.machine = Shell.host) (now : Instant)
    (scene : Scene) (request : Request) : (s.launchesFor now scene request).Sound := by
  cases request with
  | start service params => exact sound_launchAll params 0 s.nodes scene machine now _
  | run service entryPoint params =>
      dsimp only [launchesFor]
      cases s.nodes[s.children.length]? with
      | none => exact List.forall_mem_nil _
      | some node =>
          dsimp only
          cases launched :
            (s.launchFor (some entryPoint) params s.children.length node scene).1 with
          | error cause => exact List.forall_mem_nil _
          | ok work =>
              exact List.forall_mem_singleton.mpr (sound_launchFor machine launched _ now)
  | stop | kill | killNow | probe | materialize => exact List.forall_mem_nil _

private theorem Hosted.progress (hosted : s.Hosted) (now : Instant) : (s.progress now).Hosted := by
  unfold Commanded.progress
  split
  · exact hosted
  · exact hosted
  · exact ⟨hosted.machine, hosted.children.modify (fun c sound => sound.collect now) _⟩
  · exact ⟨hosted.machine, hosted.children.collectInOrder now⟩
  · next position since _ =>
      refine ⟨hosted.machine, Crew.Sound.append ?_ (Crew.Sound.strikeInOrder ?_ now since)⟩
      · exact fun c mem => hosted.children c (List.mem_of_mem_take mem)
      · exact fun c mem => hosted.children c (List.mem_of_mem_drop mem)

private theorem Continues.machine_eq (same : s.Continues t) : t.machine = s.machine := by rw [same]

private theorem Hosted.accept (hosted : s.Hosted) (now : Instant) (request : Request)
    (scene : Scene) : (s.accept now request scene).1.Hosted := by
  have machine := (continues_accept now request scene s).machine_eq.trans hosted.machine
  refine ⟨machine, ?_⟩
  have fresh : s.Continues { s with pending := .nothing } := rfl
  have waiting : ({ s with pending := .nothing } : Commanded).Hosted :=
    ⟨hosted.machine, hosted.children⟩
  have launches := sound_launchesFor hosted.machine now scene request
  cases request with
  | start service params =>
      unfold Commanded.accept
      dsimp only
      rw [(spawnAll_eq ..).1, fresh.launchAll_eq]
      exact hosted.children.append launches
  | run service entryPoint params =>
      unfold Commanded.accept
      dsimp only
      rw [launchRun_children now service entryPoint params scene { s with pending := .nothing }]
      exact hosted.children.append (sound_launchesFor waiting.machine now scene _)
  | stop service => exact hosted.children.map fun c sound => sound.terminate now
  | kill service =>
      have killing : ({ s with pending := .strikes 0 now } : Commanded).Hosted :=
        ⟨hosted.machine, hosted.children⟩
      exact (killing.progress now).children
  | killNow service => exact hosted.children.map fun c sound => (sound.strike now).forget
  | probe | materialize => exact hosted.children

private theorem Hosted.answer (hosted : s.Hosted) (now : Instant) (network : Network)
    (disk : Disk) (request : Request) : (s.answer now network disk request).2.Hosted := by
  have gone := hosted.progress now
  refine ⟨(continues_answer now network disk request s).machine_eq.trans hosted.machine, ?_⟩
  unfold Commanded.answer
  cases request with
  | probe =>
      dsimp only [cancel]
      unfold probe
      split
      · exact gone.children
      · exact gone.children
      · exact gone.children.modify (fun c sound => sound.collect now) _
  | materialize | start | run | stop | kill | killNow => exact gone.children

private theorem hosted_step (hosted : s.Hosted) (move : CommandedMove) : (s.step move).Hosted := by
  cases move with
  | accept now request scene => exact hosted.accept now request scene
  | progress now => exact hosted.progress now
  | answer now network disk request => exact hosted.answer now network disk request
  | cancel => exact ⟨hosted.machine, hosted.children⟩

theorem hosted_run (hosted : s.Hosted) (moves : List CommandedMove) : (s.run moves).Hosted := by
  induction moves generalizing s with
  | nil => exact hosted
  | cons move moves ih => exact ih (hosted_step hosted move)

theorem hosted_of_make {settings : CommandSettings} {tag : String} {d : Descriptor}
    {nodes : List Node} {disk disk' : Disk} (machine : settings.machine = Shell.host)
    (made : make settings tag d nodes disk = .ok (s, disk')) : s.Hosted := by
  have none := (eq_of_make made).2.2.2.1
  refine ⟨?_, by rw [none]; exact List.forall_mem_nil _⟩
  unfold make at made
  dsimp only at made
  split at made
  · cases made
  · split at made
    · cases made
    · cases made
      exact machine

theorem answer_stop_of_hosted (hosted : s.Hosted) (drains : s.pending = .drains) (now : Instant)
    (network : Network) (disk : Disk) (service : Nat) :
    (s.answer now network disk (.stop service)).1 = .acknowledged (.ok ()) := by
  have lost := (hosted.progress now).children.lost?
  have pending : (s.progress now).pending = .drains := by rw [Commanded.progress, drains]
  simp only [Commanded.answer, done, pending, lost]

theorem pending_of_failed_run (hosted : s.Hosted) {now : Instant} {network : Network} {disk : Disk}
    {service : Nat} {entryPoint : String} {params : Params String} {cause : LifecycleError}
    (failed : (s.answer now network disk (.run service entryPoint params)).1 =
      .ran (.error cause)) : (s.progress now).pending = .refused cause := by
  have sound := (hosted.progress now).children
  simp only [Commanded.answer, Answer.ran.injEq] at failed
  unfold ran at failed
  split at failed
  · next pending => rw [pending, Except.error.inj failed]
  · next position _ =>
      split at failed
      · cases failed
      · next child found =>
          rw [(sound child (List.mem_of_getElem? found)).found] at failed
          cases ended : child.ending? now <;> simp only [ended] at failed <;> cases failed
  · cases failed

/-- A probe fails only because a child has ended. -/
theorem ended_of_failed_probe (hosted : s.Hosted) {now : Instant} {network : Network}
    {disk : Disk} {service : Nat} {cause : LifecycleError}
    (failed : (s.answer now network disk (.probe service)).1 = .probed (.error cause)) :
    (∃ message, cause = .startup s.name message) ∧
      ∃ c ∈ (s.progress now).children, (c.ending? now).isSome := by
  have sound := (hosted.progress now).children
  have name : (s.progress now).name = s.name := by rw [continues_progress now s]
  simp only [Commanded.answer, Answer.probed.injEq] at failed
  unfold probe at failed
  split at failed
  · next reason lost =>
      obtain ⟨first, found⟩ := sound.firstEnded? now 0
      rw [found] at lost
      cases lost
  · cases failed
  · next position ending found =>
      cases failed
      exact ⟨⟨_, by rw [name]⟩, Crew.exists_of_firstEnded? found⟩

end Commanded

end Interop
