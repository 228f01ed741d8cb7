import Interop.Proofs.Service.Life
import Mathlib.Data.List.Forall2

/-!
# Children through the life of a service

A service lives in turns: moves of its own, and moves of the system, which decides anew how a child
goes on and whether anybody can find out about its end.  Whatever the turns are, no child is ever
lost, and what is known of a child changes in one direction only: its pid is forgotten with the end
that is collected or after an attempt to kill it, and it is asked to terminate only before that.
-/

namespace Interop

/-! ## One child -/

/-- How a child goes on from now. -/
structure Fate where
  work : Work
  course : Course
  cut : Option (Instant × Ending)

namespace Child

/-- The system decides anew about a child, as long as nobody has collected its end. -/
def meet (fate : Fate) (c : Child) : Child :=
  if c.collected.isSome then c
  else { c with work := fate.work, course := fate.course, cut := fate.cut }

structure Follows (c d : Child) : Prop where
  pid_eq : d.pid = c.pid
  begun_eq : d.begun = c.begun
  remembered : c.remembered = false → d.remembered = false
  collected : c.collected.isSome → d.collected.isSome
  struck : c.struck = true → d.struck = true
  forgotten : d.collected.isSome → c.collected.isSome ∨ d.remembered = false
  /-- It is forgotten only then, or after an attempt to kill the child. -/
  reason : d.remembered = false → c.remembered = false ∨ d.collected.isSome ∨ d.struck = true
  asked : d.requests = c.requests ∨ c.remembered = true

namespace Follows

variable {c d e : Child}

theorem refl (c : Child) : c.Follows c := ⟨rfl, rfl, id, id, id, .inl, .inl, .inl rfl⟩

theorem trans (first : c.Follows d) (second : d.Follows e) : c.Follows e where
  pid_eq := second.pid_eq.trans first.pid_eq
  begun_eq := second.begun_eq.trans first.begun_eq
  remembered gone := second.remembered (first.remembered gone)
  collected done := second.collected (first.collected done)
  struck done := second.struck (first.struck done)
  forgotten done := by
    rcases second.forgotten done with before | gone
    · exact (first.forgotten before).imp_right second.remembered
    · exact .inr gone
  reason gone := by
    rcases second.reason gone with before | cause
    · exact (first.reason before).imp_right (.imp second.collected second.struck)
    · exact .inr cause
  asked := by
    rcases second.asked with same | kept
    · exact first.asked.imp_left same.trans
    · cases before : c.remembered with
      | true => exact .inr rfl
      | false => exact absurd ((first.remembered before).symm.trans kept) Bool.false_ne_true

end Follows

theorem follows_collect (now : Instant) (c : Child) : c.Follows (c.collect now) := by
  unfold collect
  split
  · exact ⟨rfl, rfl, fun _ => rfl, fun _ => rfl, id, fun _ => .inr rfl, fun _ => .inr (.inl rfl),
      .inl rfl⟩
  · exact .refl c

private theorem follows_terminate (now : Instant) (c : Child) : c.Follows (c.terminate now) := by
  unfold terminate
  split
  · exact .refl c
  · next able =>
      have kept : c.remembered = true := by simp_all
      exact ⟨rfl, rfl, id, id, id, .inl, .inl, .inr kept⟩

theorem follows_strike (now : Instant) (c : Child) : c.Follows (c.strike now) := by
  unfold strike
  split <;> exact ⟨rfl, rfl, id, id, fun _ => rfl, .inl, .inl, .inl rfl⟩

theorem follows_forget {c : Child} (struck : c.struck = true) : c.Follows c.forget :=
  ⟨rfl, rfl, fun _ => rfl, id, id, .inl, fun _ => .inr (.inr struck), .inl rfl⟩

theorem follows_meet (fate : Fate) (c : Child) : c.Follows (c.meet fate) := by
  unfold meet
  split
  · exact .refl c
  · exact ⟨rfl, rfl, id, id, id, .inl, .inl, .inl rfl⟩

@[simp]
theorem struck_strike (now : Instant) (c : Child) : (c.strike now).struck = true := by
  unfold strike
  split <;> rfl

@[simp]
theorem struck_collect (now : Instant) (c : Child) : (c.collect now).struck = c.struck := by
  unfold collect
  split <;> rfl

/-- A child whose program has just been launched: nothing has become of it yet. -/
structure Fresh (c : Child) : Prop where
  remembered : c.remembered = true
  collected : c.collected = none
  struck : c.struck = false

/-- The pid is remembered until the end is collected, unless a kill is attempted. -/
structure Kept (c : Child) : Prop where
  forgotten : c.collected.isSome → c.remembered = false
  reason : c.remembered = false → c.collected.isSome ∨ c.struck = true

private theorem Follows.kept {c d : Child} (follows : c.Follows d) (fresh : c.Fresh) : d.Kept where
  forgotten done := (follows.forgotten done).resolve_left (by simp [fresh.collected])
  reason gone := (follows.reason gone).resolve_left (by simp [fresh.remembered])

end Child

/-! ## All children -/

namespace Crew

/-- The second are the first at a later time. -/
abbrev Follow (crew later : Crew) : Prop := List.Forall₂ Child.Follows crew later

variable {crew later latest : Crew} {now since : Instant}

theorem Follow.refl (crew : Crew) : Follow crew crew :=
  List.forall₂_same.mpr fun c _ => .refl c

theorem Follow.trans (first : Follow crew later) (second : Follow later latest) :
    Follow crew latest := by
  induction first generalizing latest with
  | nil => exact second
  | cons head tail ih =>
      obtain _ | ⟨head', tail'⟩ := second
      exact .cons (head.trans head') (ih tail')

theorem Follow.append {front rest : Crew} (first : Follow crew later) (second : Follow front rest) :
    Follow (crew ++ front) (later ++ rest) :=
  List.rel_append first second

theorem Follow.append_nil (follow : Follow crew later) : Follow (crew ++ []) later := by
  rwa [List.append_nil]

theorem Follow.forgotten (follow : Follow crew later) (gone : ∀ c ∈ crew, c.remembered = false) :
    ∀ d ∈ later, d.remembered = false := by
  induction follow with
  | nil => exact List.forall_mem_nil _
  | cons head _ ih =>
      rw [List.forall_mem_cons] at gone ⊢
      exact ⟨head.remembered gone.1, ih gone.2⟩

theorem Follow.kept (follow : Follow crew later) (fresh : ∀ c ∈ crew, c.Fresh) :
    ∀ d ∈ later, d.Kept := by
  induction follow with
  | nil => exact List.forall_mem_nil _
  | cons head _ ih =>
      rw [List.forall_mem_cons] at fresh ⊢
      exact ⟨head.kept fresh.1, ih fresh.2⟩

theorem follow_map {f : Child → Child} (follows : ∀ c : Child, c.Follows (f c)) (crew : Crew) :
    Follow crew (crew.map f) :=
  List.forall₂_map_right_iff.mpr (List.forall₂_same.mpr fun c _ => follows c)

theorem follow_modify {f : Child → Child} (follows : ∀ c : Child, c.Follows (f c))
    (position : Nat) (crew : Crew) : Follow crew (crew.modify position f) := by
  induction crew generalizing position with
  | nil => simp
  | cons c rest ih =>
      cases position with
      | zero => exact .cons (follows c) (Follow.refl rest)
      | succ position => exact .cons (.refl c) (ih position)

private theorem follow_collectInOrder (now : Instant) (crew : Crew) :
    Follow crew (crew.collectInOrder now) := by
  induction crew with
  | nil => exact .nil
  | cons c rest ih =>
      unfold collectInOrder
      split
      · exact .cons (c.follows_collect now) ih
      · exact Follow.refl _

private theorem follow_strikeAll (now : Instant) (crew : Crew) : Follow crew (crew.strikeAll now) :=
  follow_map
    (fun c => (c.follows_strike now).trans (Child.follows_forget (c.struck_strike now))) crew

private theorem follow_strikeInOrder (now since : Instant) (crew : Crew) :
    Follow crew (crew.strikeInOrder now since).1 := by
  induction crew generalizing since with
  | nil => exact .nil
  | cons c rest ih =>
      have struck := c.follows_strike since
      unfold strikeInOrder
      dsimp only
      split
      · exact .cons struck (Follow.refl rest)
      · split
        · exact .cons struck (Follow.refl rest)
        · refine .cons ((struck.trans (Child.follows_collect now _)).trans ?_) (ih _)
          exact Child.follows_forget (by simp)

/-- The children for programs that were launched now, the first of them with the given pid. -/
def ofWorks (now : Instant) : Nat → List Work → Crew
  | _, [] => []
  | pid, work :: works => Child.ofWork pid now work :: ofWorks now (pid + 1) works

theorem length_ofWorks (now : Instant) (pid : Nat) (works : List Work) :
    (ofWorks now pid works).length = works.length := by
  induction works generalizing pid with
  | nil => rfl
  | cons work works ih => rw [ofWorks, List.length_cons, List.length_cons, ih]

theorem fresh_ofWorks (now : Instant) (pid : Nat) (works : List Work) :
    ∀ c ∈ ofWorks now pid works, c.Fresh := by
  induction works generalizing pid with
  | nil => exact List.forall_mem_nil _
  | cons work works ih => exact List.forall_mem_cons.mpr ⟨⟨rfl, rfl, rfl⟩, ih (pid + 1)⟩

end Crew

/-! ## Launches -/

/-- A move of a service, or one of the system, which decides about the child at a position. -/
inductive CommandedTurn
  | move (move : CommandedMove)
  | world (position : Nat) (fate : Fate)

namespace Commanded

/-- What comes of launching the program for a node, and the disk behind it. -/
def launchFor (entryPoint : Option String) (params : Params String) (index : Nat) (node : Node)
    (scene : Scene) (s : Commanded) : Except LifecycleError Work × Disk :=
  let invocation := s.invocation index node entryPoint params
  match s.makeLogs index scene.disk with
  | .error cause => (.error cause, scene.disk)
  | .ok disk =>
    match s.machine.launch { scene with disk } invocation with
    | .error reason =>
      (.error (.startup s.name ("failed to spawn " ++ invocation.program ++ ": " ++ reason)), disk)
    | .ok work => (.ok work, disk)

/-- The programs that are launched for nodes in order, and why the next node has none, if so. -/
def launchAll (params : Params String) (s : Commanded) :
    Nat → List Node → Scene → List Work × Option LifecycleError
  | _, [], _ => ([], none)
  | index, node :: nodes, scene =>
    match s.launchFor none params index node scene with
    | (.error cause, _) => ([], some cause)
    | (.ok work, disk) =>
      let (works, refusal) := s.launchAll params (index + 1) nodes { scene with disk }
      (work :: works, refusal)

def launchesFor (now : Instant) (scene : Scene) (s : Commanded) : Request → Crew
  | .start _ params => .ofWorks now s.children.length (s.launchAll params 0 s.nodes scene).1
  | .run _ entryPoint params =>
    match s.nodes[s.children.length]? with
    | none => []
    | some node =>
      .ofWorks now s.children.length
        (s.launchFor (some entryPoint) params s.children.length node scene).1.toOption.toList
  | .stop _ | .kill _ | .killNow _ | .probe _ | .materialize _ _ => []

def launches (s : Commanded) : CommandedTurn → Crew
  | .move (.accept now request scene) => s.launchesFor now scene request
  | .move (.progress _) | .move (.answer _ _ _ _) | .move .cancel | .world _ _ => []

def turn (s : Commanded) : CommandedTurn → Commanded
  | .move move => s.step move
  | .world position fate => { s with children := s.children.modify position (Child.meet fate) }

def live (s : Commanded) (turns : List CommandedTurn) : Commanded := turns.foldl turn s

/-- The children whose programs are launched in any of these turns. -/
def launched (s : Commanded) : List CommandedTurn → Crew
  | [] => []
  | turn :: turns => s.launches turn ++ (s.turn turn).launched turns

variable {s t : Commanded} {now : Instant}

theorem Continues.launchFor_eq (same : s.Continues t) (entryPoint : Option String)
    (params : Params String) (index : Nat) (node : Node) (scene : Scene) :
    t.launchFor entryPoint params index node scene =
      s.launchFor entryPoint params index node scene := by
  have logs : t.makeLogs index scene.disk = s.makeLogs index scene.disk := by
    rw [same]
    rfl
  unfold launchFor
  rw [logs]
  -- Left as it is, the disk would be computed when both sides are compared.
  generalize s.makeLogs index scene.disk = made
  rw [same]
  rfl

theorem Continues.launchAll_eq (same : s.Continues t) (params : Params String) (index : Nat)
    (nodes : List Node) (scene : Scene) :
    t.launchAll params index nodes scene = s.launchAll params index nodes scene := by
  induction nodes generalizing index scene with
  | nil => rfl
  | cons node nodes ih =>
      unfold launchAll
      simp only [same.launchFor_eq, ih]

theorem launchAll_of_error {params : Params String} {index : Nat} {node : Node} {scene : Scene}
    {cause : LifecycleError} {disk : Disk} (nodes : List Node)
    (refused : s.launchFor none params index node scene = (.error cause, disk)) :
    s.launchAll params index (node :: nodes) scene = ([], some cause) := by
  unfold launchAll
  rw [refused]

theorem launchAll_of_ok {params : Params String} {index : Nat} {node : Node} {scene : Scene}
    {work : Work} {disk : Disk} (nodes : List Node)
    (launched : s.launchFor none params index node scene = (.ok work, disk)) :
    s.launchAll params index (node :: nodes) scene =
      (work :: (s.launchAll params (index + 1) nodes { scene with disk }).1,
        (s.launchAll params (index + 1) nodes { scene with disk }).2) := by
  conv_lhs => unfold launchAll
  rw [launched]

theorem spawn_eq (now : Instant) (entryPoint : Option String) (params : Params String)
    (index : Nat) (node : Node) (scene : Scene) (s : Commanded) :
    s.spawn now entryPoint params index node scene =
      ((s.launchFor entryPoint params index node scene).1.map fun work =>
        { s with
          children := s.children ++ [Child.ofWork s.children.length now work]
          logFiles := s.logFiles ++ [s.logPath index .output, s.logPath index .errors] },
        (s.launchFor entryPoint params index node scene).2) := by
  unfold spawn launchFor
  cases s.makeLogs index scene.disk with
  | error cause => rfl
  | ok disk =>
      dsimp only
      cases s.machine.launch { scene with disk } (s.invocation index node entryPoint params) <;> rfl

private theorem continues_employ (s : Commanded) (children : Crew) (logFiles : List String) :
    s.Continues { s with children, logFiles } := rfl

/-- A start launches children until one is refused, and keeps the cause. -/
theorem spawnAll_eq (now : Instant) (params : Params String) (index : Nat) (nodes : List Node)
    (scene : Scene) (s : Commanded) :
    (s.spawnAll now params index nodes scene).1.children =
        s.children ++ .ofWorks now s.children.length (s.launchAll params index nodes scene).1 ∧
      (s.spawnAll now params index nodes scene).1.pending =
        match (s.launchAll params index nodes scene).2 with
        | none => s.pending
        | some cause => .refused cause := by
  induction nodes generalizing index scene s with
  | nil => exact ⟨(List.append_nil _).symm, rfl⟩
  | cons node nodes ih =>
      unfold spawnAll
      rw [spawn_eq]
      rcases first : s.launchFor none params index node scene with ⟨cause | work, disk⟩
      · rw [launchAll_of_error nodes first]
        exact ⟨(List.append_nil _).symm, rfl⟩
      · rw [launchAll_of_ok nodes first]
        dsimp only [Except.map]
        obtain ⟨children, pending⟩ := ih (index + 1) { scene with disk }
          { s with
            children := s.children ++ [Child.ofWork s.children.length now work]
            logFiles := s.logFiles ++ [s.logPath index .output, s.logPath index .errors] }
        rw [children, pending, (continues_employ s _ _).launchAll_eq]
        simp [Crew.ofWorks]

theorem launchRun_children (now : Instant) (service : Nat) (entryPoint : String)
    (params : Params String) (scene : Scene) (s : Commanded) :
    (s.launchRun now entryPoint params scene).1.children =
      s.children ++ s.launchesFor now scene (.run service entryPoint params) := by
  unfold launchRun launchesFor
  dsimp only
  cases s.nodes[s.children.length]? with
  | none => exact (List.append_nil _).symm
  | some node =>
      dsimp only
      rw [spawn_eq]
      rcases s.launchFor (some entryPoint) params s.children.length node scene with
        ⟨cause | work, disk⟩
      · exact (List.append_nil _).symm
      · rfl

private theorem fresh_launchesFor (now : Instant) (scene : Scene) (s : Commanded)
    (request : Request) :
    ∀ c ∈ s.launchesFor now scene request, c.Fresh := by
  cases request with
  | start service params => exact Crew.fresh_ofWorks now _ _
  | run service entryPoint params =>
      dsimp only [launchesFor]
      split
      · exact List.forall_mem_nil _
      · exact Crew.fresh_ofWorks now _ _
  | stop | kill | killNow | probe | materialize => exact List.forall_mem_nil _

theorem fresh_launched (s : Commanded) (turns : List CommandedTurn) :
    ∀ c ∈ s.launched turns, c.Fresh := by
  induction turns generalizing s with
  | nil => exact List.forall_mem_nil _
  | cons turn turns ih =>
      refine List.forall_mem_append.mpr ⟨?_, ih (s.turn turn)⟩
      match turn with
      | .move (.accept now request scene) => exact fresh_launchesFor now scene s request
      | .move (.progress _) | .move (.answer _ _ _ _) | .move .cancel | .world _ _ =>
          exact List.forall_mem_nil _

/-! ## Turns -/

theorem follow_progress (now : Instant) (s : Commanded) :
    Crew.Follow s.children (s.progress now).children := by
  unfold progress
  split
  · exact .refl _
  · exact .refl _
  · exact Crew.follow_modify (Child.follows_collect now) _ _
  · exact Crew.follow_collectInOrder now _
  · next position since _ =>
      have both := (Crew.Follow.refl (s.children.take position)).append
        (Crew.follow_strikeInOrder now since (s.children.drop position))
      rwa [List.take_append_drop] at both

private theorem follow_accept (now : Instant) (request : Request) (scene : Scene) (s : Commanded) :
    Crew.Follow (s.children ++ s.launchesFor now scene request)
      (s.accept now request scene).1.children := by
  -- Whatever the last request waited for is forgotten first.
  have fresh : s.Continues { s with pending := .nothing } := rfl
  unfold accept
  cases request with
  | start service params =>
      dsimp only
      rw [(spawnAll_eq ..).1, fresh.launchAll_eq]
      exact .refl _
  | run service entryPoint params =>
      have run := launchRun_children now service entryPoint params scene
        { s with pending := .nothing }
      dsimp only [launchesFor] at run ⊢
      rw [run]
      simp only [fresh.launchFor_eq]
      exact .refl _
  | stop service => exact (Crew.follow_map (Child.follows_terminate now) _).append_nil
  | kill service => exact (follow_progress now { s with pending := .strikes 0 now }).append_nil
  | killNow service => exact (Crew.follow_strikeAll now _).append_nil
  | probe | materialize => exact (Crew.Follow.refl _).append_nil

private theorem follow_answer (now : Instant) (network : Network) (disk : Disk) (request : Request)
    (s : Commanded) :
    Crew.Follow s.children (s.answer now network disk request).2.children := by
  have gone := follow_progress now s
  unfold answer
  cases request with
  | probe =>
      refine gone.trans ?_
      dsimp only
      unfold probe
      split
      · exact .refl _
      · exact .refl _
      · exact Crew.follow_modify (Child.follows_collect now) _ _
  | materialize | start | run | stop | kill | killNow => exact gone

private theorem follow_turn (s : Commanded) (turn : CommandedTurn) :
    Crew.Follow (s.children ++ s.launches turn) (s.turn turn).children := by
  cases turn with
  | world position fate => exact (Crew.follow_modify (Child.follows_meet fate) _ _).append_nil
  | move move =>
      cases move with
      | accept now request scene => exact follow_accept now request scene s
      | progress now => exact (follow_progress now s).append_nil
      | answer now network disk request =>
          exact (follow_answer now network disk request s).append_nil
      | cancel => exact (Crew.Follow.refl _).append_nil

theorem follow_live (s : Commanded) (turns : List CommandedTurn) :
    Crew.Follow (s.children ++ s.launched turns) (s.live turns).children := by
  induction turns generalizing s with
  | nil => exact (Crew.Follow.refl _).append_nil
  | cons turn turns ih =>
      have first := (follow_turn s turn).append (.refl ((s.turn turn).launched turns))
      rw [List.append_assoc] at first
      exact first.trans (ih (s.turn turn))

end Commanded

end Interop
