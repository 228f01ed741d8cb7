import Interop.Proofs.Disk.Journal
import Interop.Shell.Evaluation

/-!
# Shells keep a journal

While a shell runs, its disk changes by what it does and by what others do once their time has come.
The shell notes its own changes, also those of what goes on in the background, which are still to
come when they are noted.  Nothing is forgotten and nothing made up: what was noted or expected has
either been made of the disk, or is still to come.
-/

namespace Interop.Shell

namespace World

/-- A change, no matter whether it was made by something left behind. -/
def plain (change : Change) : Change := { change with stray := false }

structure Leads (w v : World) : Prop where
  proper : w.disk.Proper → v.disk.Proper
  history : w.disk.Proper → ∃ made noted : List Change,
    w.disk.replay made = v.disk ∧ v.changes = noted ++ w.changes ∧
    ((made ++ v.coming).map plain).Perm ((noted ++ w.coming).map plain)

namespace Leads

variable {u v w : World}

theorem of_eq (disk : v.disk = w.disk) (changes : v.changes = w.changes)
    (coming : v.coming = w.coming) : w.Leads v :=
  ⟨fun proper => disk ▸ proper, fun _ => ⟨[], [], disk.symm, changes, by rw [coming]⟩⟩

theorem refl (w : World) : w.Leads w := of_eq rfl rfl rfl

theorem trans (first : w.Leads v) (second : v.Leads u) : w.Leads u := by
  refine ⟨second.proper ∘ first.proper, fun proper => ?_⟩
  obtain ⟨made, noted, disk, changes, all⟩ := first.history proper
  obtain ⟨made', noted', disk', changes', all'⟩ := second.history (first.proper proper)
  refine ⟨made ++ made', noted' ++ noted, ?_, ?_, ?_⟩
  · rw [Disk.replay_append, disk, disk']
  · rw [changes', changes, List.append_assoc]
  · simp only [List.map_append, List.append_assoc] at all all' ⊢
    calc made.map plain ++ (made'.map plain ++ u.coming.map plain)
        _ |>.Perm (made.map plain ++ (noted'.map plain ++ v.coming.map plain)) :=
          all'.append_left _
        _ |>.Perm (noted'.map plain ++ (made.map plain ++ v.coming.map plain)) := by
          simp only [← List.append_assoc]
          exact List.perm_append_comm.append_right _
        _ |>.Perm (noted'.map plain ++ (noted.map plain ++ w.coming.map plain)) :=
          all.append_left _

end Leads

/-! ## Changes -/

private theorem foldl_note (found : List (Path × Alteration)) (w : World) :
    found.foldl (fun w alteration => w.note alteration.1 alteration.2) w =
      { w with changes := (Disk.madeAt w.elapsed found).reverse ++ w.changes } := by
  induction found generalizing w with
  | nil => rfl
  | cons first rest ih =>
      rw [List.foldl_cons, ih]
      simp [note, Disk.madeAt]

theorem leads_setDisk (w : World) {disk : Disk} (proper : w.disk.Proper → disk.Proper) :
    w.Leads (w.setDisk disk) := by
  unfold setDisk
  dsimp only
  rw [foldl_note]
  refine ⟨proper, fun before => ⟨_, _, Disk.replay_alterations w.elapsed before (proper before),
    rfl, ?_⟩⟩
  exact ((List.reverse_perm _).symm.append_right _).map plain

theorem leads_put (w : World) (path : Path) (entry : Entry) :
    w.Leads (w.setDisk (w.disk.put path entry)) :=
  leads_setDisk w fun proper => Disk.proper_put proper path entry

private theorem leads_extend (w : World) (path : Path) (text : String) : w.Leads
    (w.extend path text) := by
  refine ⟨fun proper => Disk.proper_alter proper path (.extend text), fun _ => ?_⟩
  exact ⟨[⟨w.elapsed, path, .extend text, false⟩], _, rfl, rfl, .refl _⟩

theorem leads_catchUp (w : World) : w.Leads w.catchUp := by
  unfold catchUp
  split
  · exact .refl w
  · refine ⟨fun proper => Disk.proper_replay proper _, fun _ => ⟨_, [], rfl, rfl, ?_⟩⟩
    rw [List.takeWhile_append_dropWhile, List.nil_append]

theorem leads_setElapsed (w : World) (time : Span) : w.Leads (w.setElapsed time) := by
  have same : w.Leads { w with elapsed := time } := .of_eq rfl rfl rfl
  exact same.trans (leads_catchUp _)

/-! ## Things in the background -/

theorem leads_afterLaunch {before after : World} (leads : before.Leads after) :
    before.Leads (Evaluation.afterLaunch before after) := by
  unfold Evaluation.afterLaunch
  dsimp only
  refine Leads.trans ?_ (leads_catchUp _)
  refine ⟨id, fun proper => ?_⟩
  obtain ⟨-, noted, -, changes, -⟩ := leads.history proper
  have count : after.changes.length - before.changes.length = noted.length := by
    rw [changes, List.length_append, Nat.add_sub_cancel]
  refine ⟨[], noted.map fun change => { change with stray := true }, rfl, ?_, ?_⟩
  · rw [count, changes, List.take_left, List.drop_left]
  · rw [count, changes, List.take_left, List.nil_append]
    have same : (noted.map fun change => { change with stray := true }).map plain =
        noted.map plain := by
      simp [plain, Function.comp_def]
    refine ((List.mergeSort_perm _ _).map plain).trans ?_
    rw [List.map_append, List.map_append, List.map_reverse, same]
    exact List.perm_append_comm.trans ((List.reverse_perm _).append_right _)

end World

/-! ## Steps -/

namespace Act

variable {α β : Type}

def Keeps (act : Act α) : Prop :=
  ∀ s, (∀ a t, act s = .ok (a, t) → s.world.Leads t.world) ∧
    ∀ departure, act s = .error departure → s.world.Leads departure.state.world

theorem keeps_pure (a : α) : Keeps (pure a) := by
  refine fun s => ⟨fun b t done => ?_, fun departure left => ?_⟩
  · cases done
    exact .refl s.world
  · cases left

theorem Keeps.bind {act : Act α} {next : α → Act β} (first : Keeps act)
    (then' : ∀ a, Keeps (next a)) : Keeps (act >>= next) := by
  intro s
  have both : (act >>= next) s = (act s).bind fun result => next result.1 result.2 := rfl
  rw [both]
  cases went : act s with
  | error departure =>
      refine ⟨fun b t done => (by cases done), fun other left => ?_⟩
      cases left
      exact (first s).2 departure went
  | ok result =>
      obtain ⟨a, t⟩ := result
      have begun := (first s).1 a t went
      exact ⟨fun b u done => begun.trans ((then' a t).1 b u done),
        fun departure left => begun.trans ((then' a t).2 departure left)⟩

theorem keeps_get : Keeps (get : Act State) := by
  refine fun s => ⟨fun b t done => ?_, fun departure left => ?_⟩
  · cases done
    exact .refl s.world
  · cases left

private theorem keeps_modify {f : State → State} (leads : ∀ s : State, s.world.Leads (f s).world) :
    Keeps (modify f : Act Unit) := by
  refine fun s => ⟨fun b t done => ?_, fun departure left => ?_⟩
  · cases done
    exact leads s
  · cases left

private theorem keeps_leave (flow : Flow) : Keeps (leave flow : Act α) := by
  refine fun s => ⟨fun b t done => ?_, fun departure left => ?_⟩
  · cases done
  · cases left
    exact .refl s.world

theorem Keeps.catchLeave {act : Act α} {handle : Flow → Act α} (body : Keeps act)
    (handles : ∀ flow, Keeps (handle flow)) : Keeps (catchLeave act handle) := by
  intro s
  unfold Act.catchLeave
  cases went : act s with
  | ok result =>
      refine ⟨fun b t done => ?_, fun departure left => (by cases left)⟩
      cases done
      exact (body s).1 b t went
  | error departure =>
      have begun := (body s).2 departure went
      exact ⟨fun b u done => begun.trans ((handles _ _).1 b u done),
        fun later left => begun.trans ((handles _ _).2 later left)⟩

theorem Keeps.fork {body : Act α} (keeps : Keeps body) : Keeps (fork body) := by
  intro s
  have begun : s.world.Leads (childOf s).world := .of_eq rfl rfl rfl
  unfold Act.fork
  dsimp only
  cases went : body (childOf s) with
  | ok result =>
      refine ⟨fun b t done => ?_, fun departure left => (by cases left)⟩
      cases done
      exact begun.trans ((keeps _).1 result.1 result.2 went)
  | error departure =>
      have ended := begun.trans ((keeps _).2 departure went)
      obtain ⟨flow, t⟩ := departure
      refine ⟨fun b u done => ?_, fun later left => ?_⟩
      · cases flow <;> cases done <;> exact ended
      · cases flow <;> cases left

/-! ## Files -/

theorem keeps_modifyWorld {f : World → World} (leads : ∀ w : World, w.Leads (f w)) :
    Keeps (modifyWorld f) :=
  keeps_modify fun s => leads s.world

theorem keeps_file? (stream : Nat) : Keeps (file? stream) := by
  refine keeps_get.bind fun s => ?_
  split <;> exact keeps_pure _

private theorem keeps_writeFile (number : Nat) (file : OpenFile) (path : Path) (text : String) :
    Keeps (writeFile number file path text) := by
  refine keeps_modifyWorld fun w => ?_
  split
  · next content executable _ =>
      have moved (files : List OpenFile) : w.Leads { w with files } := .of_eq rfl rfl rfl
      dsimp only
      by_cases atEnd : (file.appends || decide (content.length ≤ file.offset)) = true
      · rw [if_pos atEnd]
        exact (moved _).trans (World.leads_extend _ path _)
      · rw [if_neg atEnd]
        exact (moved _).trans (World.leads_put _ path _)
  · exact .of_eq rfl rfl rfl

private theorem keeps_emptyFile (path : Path) : Keeps (emptyFile path) := by
  refine keeps_modifyWorld fun w => ?_
  split
  · split
    · exact .refl w
    · have left (files : List OpenFile) : w.Leads { w with files } := .of_eq rfl rfl rfl
      exact (left _).trans (World.leads_put _ path _)
  · exact .refl w

theorem keeps_write (stream : Nat) (text : String) : Keeps (write stream text) := by
  refine (keeps_file? stream).bind fun found => ?_
  split
  · exact keeps_pure _
  · next number file =>
      split
      · exact keeps_pure _
      · split
        · exact keeps_pure _
        · split
          · exact (keeps_writeFile number file _ text).bind fun _ => keeps_pure _
          · exact keeps_pure _
          · exact keeps_pure _
          · split
            · exact keeps_leave _
            · refine Keeps.bind ?_ fun _ => keeps_pure _
              exact keeps_modifyWorld fun w => .of_eq rfl rfl rfl

theorem keeps_waitUntil (time : Span) : Keeps (waitUntil time) := by
  refine keeps_modifyWorld fun w => ?_
  split
  · have calm : w.Leads { w with restless := 0 } := .of_eq rfl rfl rfl
    exact calm.trans (World.leads_setElapsed _ time)
  · exact .refl w

theorem keeps_wait (length : Span) : Keeps (wait length) := by
  refine keeps_modifyWorld fun w => ?_
  have calm : w.Leads { w with restless := 0 } := .of_eq rfl rfl rfl
  exact calm.trans (World.leads_setElapsed _ _)

private theorem keeps_openFile (file : OpenFile) : Keeps (openFile file) := by
  refine fun s => ⟨fun number t done => ?_, fun departure left => ?_⟩
  · cases done
    exact .of_eq rfl rfl rfl
  · cases left

private theorem keeps_openPlace (mode : OpenMode) (guarded : Bool) (path : Path)
    (entry : Option Entry) :
    Keeps (openPlace mode guarded path entry) := by
  have opened (target : Target) : Keeps (do
      return .ok (← openFile (freshFile target mode)) : Act (Except DiskError Nat)) :=
    (keeps_openFile _).bind fun _ => keeps_pure _
  unfold openPlace
  dsimp only
  split
  · exact opened _
  · split
    · exact opened _
    · exact keeps_pure _
  · split
    · exact keeps_pure _
    · split
      · exact (keeps_emptyFile path).bind fun _ => opened _
      · exact opened _
  · split
    · exact opened _
    · exact keeps_pure _
  · split
    · exact keeps_pure _
    · refine keeps_get.bind fun s => ?_
      split
      · exact keeps_pure _
      · exact (keeps_modifyWorld fun w => World.leads_put w path .blank).bind fun _ => opened _

theorem keeps_openPath (mode : OpenMode) (path : String) : Keeps (openPath mode path) := by
  refine keeps_get.bind fun s => ?_
  dsimp only
  split
  · exact keeps_pure _
  · refine (keeps_file? _).bind fun found => ?_
    split
    · exact keeps_pure _
    · split
      · exact keeps_pure _
      · exact keeps_openPlace mode _ _ _
      · exact keeps_openPlace mode _ _ _
  · split
    · exact keeps_pure _
    · exact keeps_openPlace mode _ _ _

private theorem change_apply (f : Disk → Path → Except DiskError Disk) (s : State) :
    Program.change f s =
      match f s.world.disk s.directory with
      | .ok d => .ok (.ok (), { s with world := s.world.setDisk d })
      | .error e => .ok (.error e, s) := by
  change (match f s.world.disk s.directory with
    | .ok d => (do
        modifyWorld fun w => w.setDisk d
        return .ok ())
    | .error e => return .error e : Act (Except DiskError Unit)) s = _
  cases f s.world.disk s.directory <;> rfl

theorem keeps_change {f : Disk → Path → Except DiskError Disk}
    (proper : ∀ d here e, f d here = .ok e → d.Proper → e.Proper) : Keeps (Program.change f) := by
  intro s
  rw [change_apply]
  cases went : f s.world.disk s.directory with
  | error e => exact keeps_pure (Except.error e) s
  | ok d =>
      refine ⟨fun b t done => ?_, fun departure left => (by cases left)⟩
      cases done
      exact World.leads_setDisk _ (proper _ _ _ went)

end Act

end Interop.Shell
