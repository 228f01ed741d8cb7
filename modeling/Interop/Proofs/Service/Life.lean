import Interop.Service.Commanded

/-!
# The life of a commanded service

A commanded service is made on its nodes.  From then on it takes requests, goes on with them,
answers them and gives them up, in any order and whatever the disk, the network and its
programs do.  What it was made from never changes: a request has children launched and ended,
log files added, and something to wait for.
-/

namespace Interop

inductive CommandedMove
  | accept (now : Instant) (request : Request) (scene : Scene)
  | progress (now : Instant)
  | answer (now : Instant) (network : Network) (disk : Disk) (request : Request)
  | cancel

namespace Commanded

def step (s : Commanded) : CommandedMove → Commanded
  | .accept now request scene => (s.accept now request scene).1
  | .progress now => s.progress now
  | .answer now network disk request => (s.answer now network disk request).2
  | .cancel => s.cancel

def run (s : Commanded) (moves : List CommandedMove) : Commanded := moves.foldl step s

/-! ## What stays -/

/-- The two differ at most in their children, their log files and what they wait for. -/
def Continues (s t : Commanded) : Prop :=
  t = { s with children := t.children, logFiles := t.logFiles, pending := t.pending }

namespace Continues

variable {s t u : Commanded}

theorem refl (s : Commanded) : s.Continues s := rfl

theorem trans (first : s.Continues t) (second : t.Continues u) : s.Continues u := by
  rw [Continues] at first second ⊢
  rw [first] at second
  exact second

theorem role_eq (h : s.Continues t) : t.role = s.role := by rw [h]

theorem nodes_eq (h : s.Continues t) : t.nodes = s.nodes := by rw [h]

theorem basePort_eq (h : s.Continues t) : t.basePort = s.basePort := by rw [h]

end Continues

/-! ## Requests -/

variable {s t : Commanded} {now : Instant} {disk : Disk}

theorem continues_spawn {entryPoint : Option String} {params : Params String} {index : Nat}
    {node : Node} {scene : Scene}
    (launched : s.spawn now entryPoint params index node scene = (.ok t, disk)) :
    s.Continues t := by
  unfold spawn at launched
  dsimp only at launched
  split at launched
  · cases launched
  · split at launched
    · cases launched
    · cases launched
      rfl

private theorem continues_spawnAll (now : Instant) (params : Params String) (index : Nat)
    (nodes : List Node) (scene : Scene) (s : Commanded) :
    s.Continues (s.spawnAll now params index nodes scene).1 := by
  induction nodes generalizing index scene s with
  | nil => exact .refl s
  | cons node nodes ih =>
      unfold spawnAll
      split
      · next launched => exact (continues_spawn launched).trans (ih ..)
      · rfl

private theorem continues_launchRun (now : Instant) (entryPoint : String) (params : Params String)
    (scene : Scene) (s : Commanded) :
    s.Continues (s.launchRun now entryPoint params scene).1 := by
  unfold launchRun
  dsimp only
  split
  · rfl
  · split
    · next launched => exact (continues_spawn launched).trans rfl
    · rfl

theorem continues_progress (now : Instant) (s : Commanded) : s.Continues (s.progress now) := by
  unfold progress
  split <;> rfl

theorem continues_accept (now : Instant) (request : Request) (scene : Scene)
    (s : Commanded) :
    s.Continues (s.accept now request scene).1 := by
  -- Whatever the last request waited for is forgotten first.
  have fresh : s.Continues { s with pending := .nothing } := rfl
  unfold accept
  cases request with
  | start service params => exact fresh.trans (continues_spawnAll ..)
  | run service entryPoint params => exact fresh.trans (continues_launchRun ..)
  | kill service =>
      exact (fresh.trans (u := { s with pending := .strikes 0 now }) rfl).trans
        (continues_progress ..)
  | stop | killNow | probe | materialize => rfl

private theorem continues_probe (now : Instant) (network : Network) (disk : Disk) (s : Commanded) :
    s.Continues (s.probe now network disk).2 := by
  unfold probe
  split <;> rfl

theorem continues_answer (now : Instant) (network : Network) (disk : Disk)
    (request : Request)
    (s : Commanded) : s.Continues (s.answer now network disk request).2 := by
  have gone := continues_progress now s
  unfold answer
  cases request with
  | probe => exact (gone.trans (continues_probe now network disk _)).trans rfl
  | materialize | start | run | stop | kill | killNow => exact gone.trans rfl

private theorem continues_step (s : Commanded) (move : CommandedMove) : s.Continues
    (s.step move) := by
  cases move with
  | accept now request scene => exact continues_accept now request scene s
  | progress now => exact continues_progress now s
  | answer now network disk request => exact continues_answer now network disk request s
  | cancel => rfl

theorem continues_run (s : Commanded) (moves : List CommandedMove) :
    s.Continues (s.run moves) := by
  induction moves generalizing s with
  | nil => exact .refl s
  | cons move moves ih => exact (continues_step s move).trans (ih (s.step move))

/-! ## Making -/

/-- A service that was made has the role, the nodes and the connector that were asked for, and
no child yet. -/
theorem eq_of_make {settings : CommandSettings} {tag : String} {d : Descriptor}
    {nodes : List Node} {disk' : Disk} (made : make settings tag d nodes disk = .ok (s, disk')) :
    s.role = d.role ∧ s.nodes = nodes ∧ s.basePort = d.connector ∧ s.children = [] ∧
      s.pending = .nothing := by
  unfold make at made
  dsimp only at made
  split at made
  · cases made
  · split at made
    · cases made
    · cases made
      exact ⟨rfl, rfl, rfl, rfl, rfl⟩

end Commanded

end Interop
