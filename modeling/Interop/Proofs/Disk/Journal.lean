import Interop.Disk.Journal

/-!
# What journals tell

Changes that are combined make the same of a disk as before, at every time and whichever of the
changes are left out for when or by whom they were made.  The alterations that are found between two
disks lead from the first to the second.
-/

namespace Interop

namespace Disk

variable {path : Path}

/-! ## Entries -/

private theorem find?_replaceIn (path : Path) (entry : Entry) (entries : List (Path × Entry)) :
    (replaceIn path entry entries).find? (fun e => e.1 == path) = some (path, entry) := by
  induction entries with
  | nil => simp [replaceIn]
  | cons first rest ih =>
      by_cases here : (first.1 == path) = true
      · simp [replaceIn, here]
      · simp [replaceIn, here, ih]

private theorem replaceIn_replaceIn (path : Path) (old new : Entry)
    (entries : List (Path × Entry)) :
    replaceIn path new (replaceIn path old entries) = replaceIn path new entries := by
  induction entries with
  | nil => simp [replaceIn]
  | cons first rest ih =>
      by_cases here : (first.1 == path) = true
      · simp [replaceIn, here]
      · simp [replaceIn, here, ih]

private theorem entry?_put_self (d : Disk) (entry : Entry) (below : path ≠ []) :
    Disk.entry? (d.put path entry) path = some entry := by
  cases path with
  | nil => exact absurd rfl below
  | cons name names => simp only [put, Disk.entry?, find?_replaceIn, Option.map_some]

private theorem put_put (d : Disk) (path : Path) (old new : Entry) :
    (d.put path old).put path new = d.put path new := by
  simp only [put, replaceIn_replaceIn]

/-! ## Changes -/

private theorem alter_extend (d : Disk) (path : Path) (text more : String) :
    (d.alter path (.extend text)).alter path (.extend more) =
      d.alter path (.extend (text ++ more)) := by
  cases path with
  | nil => rfl
  | cons name names =>
      unfold alter
      cases found : d.entry? (name :: names) with
      | none => simp only [found]
      | some entry =>
          cases entry with
          | file content executable =>
              simp only [Disk.entry?_put_self d _ (List.cons_ne_nil name names), put_put,
                String.append_assoc]
          | directory | device _ | program _ | link _ => simp only [found]

theorem replay_cons (d : Disk) (change : Change) (changes : List Change) :
    d.replay (change :: changes) = (d.alter change.path change.alteration).replay changes := rfl

theorem replay_append (d : Disk) (first second : List Change) :
    d.replay (first ++ second) = (d.replay first).replay second :=
  List.foldl_append

/-! ## Alterations -/

def Proper (d : Disk) : Prop := (d.entries.map Prod.fst).Nodup

private theorem replaceIn_of_not_mem {entry : Entry} {entries : List (Path × Entry)}
    (absent : path ∉ entries.map Prod.fst) :
    replaceIn path entry entries = entries ++ [(path, entry)] := by
  induction entries with
  | nil => rfl
  | cons first rest ih =>
      rw [List.map_cons, List.mem_cons, not_or] at absent
      have apart : ¬(first.1 == path) = true := fun same => absent.1 (beq_iff_eq.mp same).symm
      rw [replaceIn, if_neg apart, ih absent.2, List.cons_append]

private theorem replaceIn_append {old new : Entry} {front back : List (Path × Entry)}
    (absent : path ∉ front.map Prod.fst) :
    replaceIn path new (front ++ (path, old) :: back) = front ++ (path, new) :: back := by
  induction front with
  | nil => simp [replaceIn]
  | cons first rest ih =>
      rw [List.map_cons, List.mem_cons, not_or] at absent
      have apart : ¬(first.1 == path) = true := fun same => absent.1 (beq_iff_eq.mp same).symm
      rw [List.cons_append, replaceIn, if_neg apart, ih absent.2, List.cons_append]

/-- Where no path has two entries, the path of an entry is not among those in front of it or
behind it. -/
private theorem apart_of_nodup {front back : List (Path × Entry)} {entry : Path × Entry}
    (nodup : ((front ++ entry :: back).map Prod.fst).Nodup) :
    entry.1 ∉ front.map Prod.fst ∧ entry.1 ∉ back.map Prod.fst := by
  rw [List.map_append, List.map_cons, List.nodup_append, List.nodup_cons] at nodup
  obtain ⟨-, ⟨behind, -⟩, apart⟩ := nodup
  exact ⟨fun mem => apart _ mem _ List.mem_cons_self rfl, behind⟩

theorem proper_put {d : Disk} (proper : d.Proper) (path : Path) (entry : Entry) :
    (d.put path entry).Proper := by
  by_cases present : path ∈ d.entries.map Prod.fst
  · obtain ⟨⟨_, old⟩, mem, rfl⟩ := List.mem_map.mp present
    obtain ⟨front, back, split⟩ := List.append_of_mem mem
    rw [Proper, split] at proper
    simpa only [Proper, put, split, replaceIn_append (apart_of_nodup proper).1, List.map_append,
      List.map_cons] using proper
  · simp only [Proper, put, replaceIn_of_not_mem present, List.map_append, List.map_cons,
      List.map_nil]
    refine List.nodup_append.mpr ⟨proper, List.pairwise_singleton _ _, ?_⟩
    rintro place mem other single rfl
    exact present (List.mem_singleton.mp single ▸ mem)

theorem proper_drop {d : Disk} (proper : d.Proper) (path : Path) : (d.drop path).Proper :=
  List.Nodup.sublist (List.filter_sublist.map Prod.fst) proper

theorem proper_alter {d : Disk} (proper : d.Proper) (path : Path) (alteration : Alteration) :
    (d.alter path alteration).Proper := by
  cases alteration with
  | put entry => exact proper_put proper path entry
  | drop => exact proper_drop proper path
  | extend text =>
      unfold alter
      dsimp only
      split
      · exact proper_put proper path _
      · exact proper

theorem proper_replay {d : Disk} (proper : d.Proper) (changes : List Change) :
    (d.replay changes).Proper := by
  induction changes generalizing d with
  | nil => exact proper
  | cons change changes ih => exact ih (proper_alter proper change.path change.alteration)

private theorem drop_append {front back : List (Path × Entry)} {entry : Path × Entry}
    (proper : Proper ⟨front ++ entry :: back⟩) :
    drop ⟨front ++ entry :: back⟩ entry.1 = ⟨front ++ back⟩ := by
  obtain ⟨ahead, behind⟩ := apart_of_nodup proper
  have all {entries : List (Path × Entry)} (absent : entry.1 ∉ entries.map Prod.fst) :
      entries.filter (fun other => other.1 != entry.1) = entries := by
    refine List.filter_eq_self.mpr fun other mem => bne_iff_ne.mpr fun same => ?_
    exact absent (same ▸ List.mem_map_of_mem mem)
  simp [drop, all ahead, all behind]

def madeAt (time : Span) (found : List (Path × Alteration)) : List Change :=
  found.map fun alteration => ⟨time, alteration.1, alteration.2, false⟩

private theorem replay_puts (time : Span) (done fresh : List (Path × Entry))
    (after : Proper ⟨done ++ fresh⟩) :
    replay ⟨done⟩ (madeAt time (fresh.map fun entry => (entry.1, .put entry.2))) =
      ⟨done ++ fresh⟩ := by
  induction fresh generalizing done with
  | nil => rw [List.append_nil]; rfl
  | cons new fresh ih =>
      have step : put ⟨done⟩ new.1 new.2 = ⟨done ++ [new]⟩ := by
        rw [put, replaceIn_of_not_mem (apart_of_nodup after).1]
      refine (congrArg (fun d => replay d _) step).trans ?_
      rw [List.append_cons done new fresh] at after ⊢
      exact ih _ after

private theorem replay_alterations_append (time : Span) (done old fresh : List (Path × Entry))
    (before : Proper ⟨done ++ old⟩) (after : Proper ⟨done ++ fresh⟩) :
    replay ⟨done ++ old⟩ (madeAt time (alterations old fresh)) = ⟨done ++ fresh⟩ := by
  induction old, fresh using alterations.induct generalizing done with
  | case1 fresh =>
      rw [List.append_nil, alterations]
      exact replay_puts time done fresh after
  | case2 old rest ih =>
      rw [alterations]
      exact (congrArg (fun d => replay d _) (drop_append before)).trans
        (ih done (drop_append before ▸ proper_drop before old.1) after)
  | case3 old rest new fresh apart ih =>
      rw [alterations, if_pos apart]
      exact (congrArg (fun d => replay d _) (drop_append before)).trans
        (ih done (drop_append before ▸ proper_drop before old.1) after)
  | case4 old rest new fresh here same ih =>
      rw [alterations, if_neg here, if_pos same]
      obtain rfl : old = new := Prod.ext (by simpa using here) (beq_iff_eq.mp same)
      rw [List.append_cons done old rest] at before ⊢
      rw [List.append_cons done old fresh] at after ⊢
      exact ih _ before after
  | case5 old rest new fresh here differs ih =>
      rw [alterations, if_neg here, if_neg differs]
      obtain ⟨path, oldEntry⟩ := old
      obtain ⟨_, newEntry⟩ := new
      obtain rfl : path = _ := by simpa using here
      have step : put ⟨done ++ (path, oldEntry) :: rest⟩ path newEntry =
          ⟨done ++ (path, newEntry) :: rest⟩ := by
        rw [put, replaceIn_append (apart_of_nodup before).1]
      have proper := step ▸ proper_put before path newEntry
      refine (congrArg (fun d => replay d _) step).trans ?_
      rw [List.append_cons done _ rest] at proper ⊢
      rw [List.append_cons done _ fresh] at after ⊢
      exact ih _ proper after

theorem replay_alterations {d e : Disk} (time : Span) (before : d.Proper) (after : e.Proper) :
    d.replay (madeAt time (alterations d.entries e.entries)) = e :=
  replay_alterations_append time [] d.entries e.entries before after

end Disk

namespace Change

variable {seen : Span → Bool → Bool}

private theorem combine_cases (change : Change) (later : List Change) :
    combine change later = change :: later ∨
      ∃ after path stray text more rest, change = ⟨after, path, .extend text, stray⟩ ∧
        later = ⟨after, path, .extend more, stray⟩ :: rest ∧
        combine change later = ⟨after, path, .extend (text ++ more), stray⟩ :: rest := by
  unfold combine
  split
  · next after path text stray time place more other rest =>
      split
      · next same =>
          simp only [Bool.and_eq_true, beq_iff_eq] at same
          obtain ⟨⟨rfl, rfl⟩, rfl⟩ := same
          exact .inr ⟨_, _, _, _, _, _, rfl, rfl, rfl⟩
      · exact .inl rfl
  · exact .inl rfl

private theorem replay_combine (d : Disk) (change : Change) (later : List Change) :
    d.replay ((combine change later).filter fun c => seen c.after c.stray) =
      d.replay ((change :: later).filter fun c => seen c.after c.stray) := by
  rcases combine_cases change later with same | ⟨after, path, stray, text, more, rest, rfl, rfl, eq⟩
  · rw [same]
  · rw [eq]
    by_cases counts : seen after stray = true
    · simp only [List.filter_cons_of_pos, counts, Disk.replay_cons, Disk.alter_extend]
    · simp [counts]

/-- Combined changes make the same of a disk, also when only those count that were made at certain
times or by what the program has left behind. -/
theorem replay_combined (d : Disk) (changes : List Change) :
    d.replay ((combined changes).filter fun c => seen c.after c.stray) =
      d.replay (changes.filter fun c => seen c.after c.stray) := by
  induction changes generalizing d with
  | nil => rfl
  | cons change changes ih =>
      change d.replay ((combine change (combined changes)).filter _) = _
      rw [replay_combine]
      by_cases counts : seen change.after change.stray = true
      · simp only [List.filter_cons_of_pos, counts, Disk.replay_cons, ih]
      · simp [counts, ih]

private theorem exists_of_mem_combined {c : Change} {changes : List Change}
    (mem : c ∈ combined changes) :
    ∃ origin ∈ changes, c.after = origin.after ∧ c.path = origin.path := by
  induction changes with
  | nil => cases mem
  | cons change changes ih =>
      have later (mem : c ∈ combined changes) :
          ∃ origin ∈ change :: changes, c.after = origin.after ∧ c.path = origin.path := by
        obtain ⟨origin, mem, same⟩ := ih mem
        exact ⟨origin, List.mem_cons_of_mem _ mem, same⟩
      have mem : c ∈ combine change (combined changes) := mem
      rcases combine_cases change (combined changes) with
        same | ⟨after, path, stray, text, more, rest, here, there, eq⟩
      · rw [same] at mem
        rcases List.mem_cons.mp mem with rfl | mem
        · exact ⟨c, List.mem_cons_self, rfl, rfl⟩
        · exact later mem
      · rw [eq] at mem
        rcases List.mem_cons.mp mem with rfl | mem
        · exact ⟨change, List.mem_cons_self, by rw [here], by rw [here]⟩
        · exact later (there ▸ List.mem_cons_of_mem _ mem)

def Ordered (changes : List Change) : Prop :=
  changes.Pairwise fun a b => a.after.nanos ≤ b.after.nanos

theorem ordered_inOrder (changes : List Change) : Ordered (inOrder changes) := by
  refine (List.pairwise_mergeSort ?_ ?_ changes).imp of_decide_eq_true
  · intro a b c first second
    simp only [decide_eq_true_eq] at first second ⊢
    omega
  · intro a b
    simp only [Bool.or_eq_true, decide_eq_true_eq]
    omega

theorem ordered_combined {changes : List Change} (ordered : Ordered changes) :
    Ordered (combined changes) := by
  induction changes with
  | nil => exact List.Pairwise.nil
  | cons change changes ih =>
      obtain ⟨first, rest⟩ := List.pairwise_cons.mp ordered
      have rest := ih rest
      change Ordered (combine change (combined changes))
      rcases combine_cases change (combined changes) with
        same | ⟨after, path, stray, text, more, later, here, there, eq⟩
      · rw [same]
        refine List.pairwise_cons.mpr ⟨fun c mem => ?_, rest⟩
        obtain ⟨origin, mem, same, -⟩ := exists_of_mem_combined mem
        exact same ▸ first origin mem
      · rw [eq]
        rw [there] at rest
        exact List.pairwise_cons.mpr (List.pairwise_cons.mp rest)

end Change

end Interop
