import Interop.Reporter
import Mathlib.Data.List.Induction
import Mathlib.Logic.Function.Basic

/-!
# Records are written once

Any number of callers reserve slots, submit records, skip cases and ask for the report, in any
order.  Whoever skips a case first reads its reservation and submits a record in a second step,
between which the others go on.

The receipts of the calls, in the order in which the calls return, are those of a list whose
places are written once: each call answers as if it had been made at one go when it returned.
-/

namespace Interop

/-- What is filed in a slot: a record, or that the case is not started. -/
inductive Filing
  | submit (record : CaseRecord)
  | skip (reason : String)

def Filing.record (test : String) (case : TestCase) : Filing → CaseRecord
  | .submit record => record
  | .skip reason => .ofOutcome test case (.skipped reason)

namespace Desk

inductive Call
  | reserve (test : String) (case : TestCase)
  | file (slot : Nat) (filing : Filing)
  | finalize (elapsed : Span)

inductive Reply
  | reserved (slot : Nat)
  | filed (result : Except ReportError Unit)
  | report (result : Except ReportError Report)

def Reply.isRefusal : Reply → Bool
  | .filed (.error _) | .report (.error _) => true
  | _ => false

/-- A call that has returned. -/
structure Receipt where
  call : Call
  reply : Reply

/-- A record that is to be submitted for a reservation that was read. -/
structure Draft where
  slot : Nat
  reason : String
  record : CaseRecord

inductive Move
  | call (caller : Nat) (call : Call)
  | conclude (caller : Nat)

end Desk

/-- A reporter with its callers and the receipts of what was called. -/
structure Desk where
  reporter : Reporter
  drafts : Nat → Option Desk.Draft
  log : List Desk.Receipt

namespace Desk

def opened : Desk := ⟨.empty, fun _ => none, []⟩

def finish (d : Desk) (call : Call) (reply : Reply) : Desk :=
  { d with log := d.log ++ [⟨call, reply⟩] }

/-- The lock is held for this only. -/
def submit (d : Desk) (slot : Nat) (record : CaseRecord) (filing : Filing) : Desk :=
  match d.reporter.submit slot record with
  | .ok reporter => { d with reporter }.finish (.file slot filing) (.filed (.ok ()))
  | .error e => d.finish (.file slot filing) (.filed (.error e))

/-- A caller with a draft makes no other call before it has submitted it. -/
def step (d : Desk) : Move → Desk
  | .call caller call =>
    if (d.drafts caller).isSome then d
    else
      match call with
      | .reserve test case =>
        { d with reporter := (d.reporter.reserve test case).1 }.finish call
          (.reserved (d.reporter.reserve test case).2)
      | .file slot (.submit record) => d.submit slot record (.submit record)
      | .file slot (.skip reason) =>
        match d.reporter.skippedRecord slot reason with
        | .error e => d.finish call (.filed (.error e))
        | .ok record =>
          { d with drafts := Function.update d.drafts caller (some ⟨slot, reason, record⟩) }
      | .finalize elapsed => d.finish call (.report (d.reporter.finalize elapsed))
  | .conclude caller =>
    match d.drafts caller with
    | none => d
    | some draft =>
      { d with drafts := Function.update d.drafts caller none }.submit draft.slot draft.record
        (.skip draft.reason)

def run (d : Desk) (moves : List Move) : Desk := moves.foldl step d

/-! ## A list whose places are written once -/

def reservation? (receipt : Receipt) : Option (String × TestCase) :=
  match receipt.call with
  | .reserve test case => some (test, case)
  | _ => none

/-- What a call has filed in a slot, unless it was refused. -/
def filing? (slot : Nat) (receipt : Receipt) : Option Filing :=
  match receipt.call, receipt.reply with
  | .file other filing, .filed (.ok _) => if other = slot then some filing else none
  | _, _ => none

def slot? (receipt : Receipt) : Option Nat :=
  match receipt.reply with
  | .reserved slot => some slot
  | _ => none

def isFiled (receipt : Receipt) : Bool :=
  match receipt.reply with
  | .filed (.ok _) => true
  | _ => false

def reservations (log : List Receipt) : List (String × TestCase) := log.filterMap reservation?

/-- What was filed first in a slot. -/
def winner? (log : List Receipt) (slot : Nat) : Option Filing := log.findSome? (filing? slot)

/-- One place for each reservation, with the record of what was filed first in it. -/
def contents (log : List Receipt) : List (Option CaseRecord) :=
  (reservations log).mapIdx fun slot reservation =>
    (winner? log slot).map (Filing.record reservation.1 reservation.2)

/-- What a call answers after the calls that have returned before it. -/
def answer (past : List Receipt) : Call → Reply
  | .reserve _ _ => .reserved (contents past).length
  | .file slot _ =>
    match (contents past)[slot]? with
    | some none => .filed (.ok ())
    | some (some record) =>
      .filed (.error (.duplicateSubmission record.test record.case.label))
    | none => .filed (.error (.outOfRange slot (contents past).length))
  | .finalize elapsed =>
    if (contents past).countP Option.isNone = 0 then
      .report (.ok ⟨(contents past).filterMap id, elapsed⟩)
    else
      .report (.error (.incomplete ((contents past).countP Option.isNone) (contents past).length))

def replay (calls : List Call) : List Receipt :=
  calls.foldl (fun log call => log ++ [⟨call, answer log call⟩]) []

theorem replay_concat (calls : List Call) (call : Call) :
    replay (calls ++ [call]) = replay calls ++ [⟨call, answer (replay calls) call⟩] := by
  simp [replay]

theorem reply_of_replay {calls : List Call} {past later : List Receipt} {receipt : Receipt}
    (split : replay calls = past ++ receipt :: later) :
    receipt.reply = answer past receipt.call := by
  induction calls using List.reverseRecOn generalizing later with
  | nil => simp [replay] at split
  | append_singleton calls call ih =>
      rw [replay_concat] at split
      obtain rfl | ⟨front, last, rfl⟩ := List.eq_nil_or_concat later
      · obtain ⟨rfl, same⟩ := List.append_inj' split rfl
        cases same
        rfl
      · rw [List.concat_eq_append, ← List.cons_append, ← List.append_assoc] at split
        exact ih (List.append_inj' split rfl).1

variable {log : List Receipt} {receipt : Receipt} {slot : Nat}

theorem winner?_concat :
    winner? (log ++ [receipt]) slot = (winner? log slot).or (filing? slot receipt) := by
  simp only [winner?, List.findSome?_append, List.findSome?_cons, List.findSome?_nil]
  cases filing? slot receipt <;> rfl

def stateOf (reservation : String × TestCase) : Option Filing → Slot
  | none => .reserved reservation.1 reservation.2
  | some filing => .done (filing.record reservation.1 reservation.2)

def places (log : List Receipt) : List Slot :=
  (reservations log).mapIdx fun slot reservation => stateOf reservation (winner? log slot)

theorem getElem?_places :
    (places log)[slot]? =
      (reservations log)[slot]?.map fun reservation => stateOf reservation (winner? log slot) := by
  simp [places, List.getElem?_mapIdx]

theorem contents_eq_map : contents log = (places log).map Slot.record? := by
  apply List.ext_getElem?
  intro slot
  rw [contents, List.getElem?_mapIdx, List.getElem?_map, getElem?_places, Option.map_map]
  congr 1
  funext reservation
  simp only [Function.comp_apply]
  cases winner? log slot <;> rfl

theorem length_places : (places log).length = (reservations log).length := by
  simp [places]

theorem winner?_of_reserved {test : String} {case : TestCase}
    (found : (places log)[slot]? = some (.reserved test case)) :
    (reservations log)[slot]? = some (test, case) ∧ winner? log slot = none := by
  rw [getElem?_places, Option.map_eq_some_iff] at found
  obtain ⟨reservation, reserved, state⟩ := found
  cases none : winner? log slot with
  | none =>
      rw [none] at state
      cases state
      exact ⟨reserved, rfl⟩
  | some filing =>
      rw [none] at state
      cases state

theorem places_of_idle (unreserved : reservation? receipt = none)
    (unfiled : ∀ slot, filing? slot receipt = none) : places (log ++ [receipt]) = places log := by
  simp [places, reservations, unreserved, winner?_concat, unfiled]

theorem places_reserve {test : String} {case : TestCase} {reply : Reply}
    (beyond : winner? log (places log).length = none) :
    places (log ++ [⟨.reserve test case, reply⟩]) = places log ++ [.reserved test case] := by
  rw [length_places] at beyond
  have still : ∀ slot, filing? slot ⟨.reserve test case, reply⟩ = none := fun _ => rfl
  simp only [places, reservations, List.filterMap_append, List.filterMap_cons, reservation?,
    List.filterMap_nil, List.mapIdx_concat, winner?_concat, still, Option.or_none]
  change _ ++ [stateOf _ (winner? log (reservations log).length)] = _
  rw [beyond]
  rfl

theorem places_file {filing : Filing} {test : String} {case : TestCase}
    (found : (places log)[slot]? = some (.reserved test case)) :
    places (log ++ [⟨.file slot filing, .filed (.ok ())⟩]) =
      (places log).set slot (.done (filing.record test case)) := by
  obtain ⟨reserved, unfiled⟩ := winner?_of_reserved found
  have same : reservations (log ++ [⟨.file slot filing, .filed (.ok ())⟩]) = reservations log := by
    simp [reservations, reservation?]
  apply List.ext_getElem?
  intro other
  rw [getElem?_places, same, winner?_concat, List.getElem?_set]
  by_cases here : slot = other
  · subst here
    have inside := (List.getElem?_eq_some_iff.mp found).1
    rw [reserved, unfiled, if_pos rfl, if_pos inside]
    simp [filing?, stateOf]
  · simp [here, filing?, getElem?_places]

/-! ## Calls made at one go -/

inductive Turn (log : List Receipt) : Receipt → Prop
  | reserves (test : String) (case : TestCase) :
    Turn log ⟨.reserve test case, .reserved (places log).length⟩
  | files (slot : Nat) (filing : Filing) (test : String) (case : TestCase)
    (found : (places log)[slot]? = some (.reserved test case)) :
    Turn log ⟨.file slot filing, .filed (.ok ())⟩
  | refuses (slot : Nat) (filing : Filing) (e : ReportError) :
    Turn log ⟨.file slot filing, .filed (.error e)⟩
  | reports (elapsed : Span) (result : Except ReportError Report) :
    Turn log ⟨.finalize elapsed, .report result⟩

theorem answer_of_reserved {filing : Filing} {test : String} {case : TestCase}
    (found : (places log)[slot]? = some (.reserved test case)) :
    answer log (.file slot filing) = .filed (.ok ()) := by
  simp [answer, contents_eq_map, found, Slot.record?]

theorem answer_of_done {filing : Filing} {record : CaseRecord}
    (found : (places log)[slot]? = some (.done record)) :
    answer log (.file slot filing) =
      .filed (.error (.duplicateSubmission record.test record.case.label)) := by
  simp [answer, contents_eq_map, found, Slot.record?]

theorem answer_of_none {filing : Filing} (found : (places log)[slot]? = none) :
    answer log (.file slot filing) = .filed (.error (.outOfRange slot (places log).length)) := by
  simp [answer, contents_eq_map, found]

private theorem answer_finalize (elapsed : Span) :
    answer log (.finalize elapsed) = .report ((Reporter.mk (places log)).finalize elapsed) := by
  have reserved : Slot.isReserved = Option.isNone ∘ Slot.record? := by
    funext state
    cases state <;> rfl
  simp only [answer, contents_eq_map, List.countP_map, List.filterMap_map, List.length_map,
    Function.id_comp, Reporter.finalize, Reporter.pending, Reporter.len, reserved,
    Nat.pos_iff_ne_zero,
    gt_iff_lt, ite_not, apply_ite Reply.report]

private theorem turn_answer (log : List Receipt)
    (call : Call) : Turn log ⟨call, answer log call⟩ := by
  cases call with
  | reserve test case =>
      simp only [answer, contents_eq_map, List.length_map]
      exact .reserves test case
  | file slot filing =>
      cases found : (places log)[slot]? with
      | none =>
          rw [answer_of_none found]
          exact .refuses slot filing _
      | some state =>
          cases state with
          | reserved test case =>
              rw [answer_of_reserved found]
              exact .files slot filing test case found
          | done record =>
              rw [answer_of_done found]
              exact .refuses slot filing _
  | finalize elapsed =>
      simp only [answer]
      split
      · exact .reports elapsed _
      · exact .reports elapsed _

structure Kept (log : List Receipt) : Prop where
  beyond : ∀ slot, (places log).length ≤ slot → winner? log slot = none
  numbered : log.filterMap slot? = List.range (places log).length
  once : ∀ slot, log.filterMap (filing? slot) = (winner? log slot).toList
  counted : (places log).countP Slot.isReserved + log.countP isFiled = (places log).length

private theorem Kept.idle (kept : Kept log) (unreserved : reservation? receipt = none)
    (unfiled : ∀ slot, filing? slot receipt = none) (unnumbered : slot? receipt = none)
    (refused : isFiled receipt = false) : Kept (log ++ [receipt]) := by
  have same : places (log ++ [receipt]) = places log := places_of_idle unreserved unfiled
  constructor
  · intro slot outside
    rw [winner?_concat, kept.beyond slot (same ▸ outside), unfiled]
    rfl
  · rw [same]
    simp [unnumbered, kept.numbered]
  · intro slot
    simp [winner?_concat, unfiled, kept.once]
  · rw [same]
    simp [refused, kept.counted]

private theorem Kept.next (kept : Kept log) (turn : Turn log receipt) : Kept
    (log ++ [receipt]) := by
  cases turn with
  | reserves test case =>
      have grown : places (log ++ [⟨.reserve test case, .reserved (places log).length⟩]) =
          places log ++ [.reserved test case] :=
        places_reserve (kept.beyond _ (Nat.le_refl _))
      constructor
      · intro slot outside
        rw [grown, List.length_append] at outside
        rw [winner?_concat, kept.beyond slot (by omega)]
        rfl
      · rw [grown]
        simp [slot?, kept.numbered, List.range_succ]
      · intro slot
        simp [winner?_concat, filing?, kept.once]
      · have counted := kept.counted
        rw [grown]
        simp only [List.countP_append, List.countP_singleton, List.length_append,
          List.length_singleton, Slot.isReserved, isFiled]
        simp
        omega
  | files slot filing test case found =>
      have set : places (log ++ [⟨.file slot filing, .filed (.ok ())⟩]) =
          (places log).set slot (.done (filing.record test case)) := places_file found
      have inside := (List.getElem?_eq_some_iff.mp found).1
      have state := (List.getElem?_eq_some_iff.mp found).2
      have unfiled := (winner?_of_reserved found).2
      constructor
      · intro other outside
        rw [set, List.length_set] at outside
        rw [winner?_concat, kept.beyond other outside]
        simp [filing?, show slot ≠ other by omega]
      · rw [set]
        simp [slot?, kept.numbered]
      · intro other
        by_cases here : slot = other
        · subst here
          simp [winner?_concat, filing?, kept.once, unfiled]
        · simp [winner?_concat, filing?, kept.once, here]
      · have counted := kept.counted
        have reserved : 0 < (places log).countP Slot.isReserved :=
          List.countP_pos_iff.mpr ⟨_, List.mem_of_getElem? found, rfl⟩
        rw [set, List.countP_set inside, state]
        simp [Slot.isReserved, isFiled]
        omega
  | refuses slot filing e => exact kept.idle rfl (fun _ => rfl) rfl rfl
  | reports elapsed result => exact kept.idle rfl (fun _ => rfl) rfl rfl

private theorem kept_replay (calls : List Call) : Kept (replay calls) := by
  induction calls using List.reverseRecOn with
  | nil => exact ⟨fun _ _ => rfl, rfl, fun _ => rfl, rfl⟩
  | append_singleton calls call ih =>
      rw [replay_concat]
      exact ih.next (turn_answer (replay calls) call)

/-! ## The desk -/

private theorem reservations_concat :
    reservations (log ++ [receipt]) = reservations log ++ (reservation? receipt).toList := by
  cases reserved : reservation? receipt <;> simp [reservations, reserved]

/-- The reporter shows what was filed, each receipt is that of a call made at one go, and a draft
is for the case of its reservation. -/
structure Faithful (d : Desk) : Prop where
  slots : d.reporter.slots = places d.log
  replayed : d.log = replay (d.log.map Receipt.call)
  drafts : ∀ caller draft, d.drafts caller = some draft →
    ∃ test case, (reservations d.log)[draft.slot]? = some (test, case) ∧
      draft.record = .ofOutcome test case (.skipped draft.reason)

private theorem faithful_opened : Faithful opened := ⟨rfl, rfl, fun _ _ none => nomatch none⟩

variable {d : Desk}

theorem Faithful.kept (faithful : Faithful d) : Kept d.log :=
  faithful.replayed ▸ kept_replay _

theorem Faithful.finish {reporter : Reporter} {call : Call} {reply : Reply}
    (faithful : Faithful d) (answered : answer d.log call = reply)
    (shown : reporter.slots = places (d.log ++ [⟨call, reply⟩])) :
    Faithful ({ d with reporter }.finish call reply) := by
  refine ⟨shown, ?_, ?_⟩
  · simp only [Desk.finish, List.map_append, List.map_cons, List.map_nil, replay_concat,
      ← faithful.replayed, answered]
  · intro caller draft drafted
    obtain ⟨test, case, reserved, record⟩ := faithful.drafts caller draft drafted
    refine ⟨test, case, ?_, record⟩
    simp only [Desk.finish, reservations_concat]
    rw [List.getElem?_append_left (List.getElem?_eq_some_iff.mp reserved).1]
    exact reserved

theorem Faithful.idle {call : Call} {reply : Reply} (faithful : Faithful d)
    (answered : answer d.log call = reply) (unreserved : reservation? ⟨call, reply⟩ = none)
    (unfiled : ∀ slot, filing? slot ⟨call, reply⟩ = none) : Faithful (d.finish call reply) :=
  faithful.finish answered (faithful.slots.trans (places_of_idle unreserved unfiled).symm)

private theorem Faithful.setDrafts {drafts : Nat → Option Draft} (faithful : Faithful d)
    (sound : ∀ caller draft, drafts caller = some draft →
      ∃ test case, (reservations d.log)[draft.slot]? = some (test, case) ∧
        draft.record = .ofOutcome test case (.skipped draft.reason)) :
    Faithful { d with drafts } :=
  ⟨faithful.slots, faithful.replayed, sound⟩

private theorem Faithful.submit {record : CaseRecord} {filing : Filing} (faithful : Faithful d)
    (fits : ∀ test case, (reservations d.log)[slot]? = some (test, case) →
      record = filing.record test case) : Faithful (d.submit slot record filing) := by
  unfold Desk.submit Reporter.submit Reporter.refusal?
  rw [faithful.slots]
  cases found : (places d.log)[slot]? with
  | none =>
      apply faithful.idle _ rfl (fun _ => rfl)
      rw [answer_of_none found, Reporter.len, faithful.slots]
  | some state =>
      cases state with
      | reserved test case =>
          apply faithful.finish (answer_of_reserved found)
          rw [places_file found, fits test case (winner?_of_reserved found).1]
      | done record =>
          apply faithful.idle _ rfl (fun _ => rfl)
          rw [answer_of_done found]

inductive Step (d : Desk) : Desk → Prop
  | stays : Step d d
  | reserves (test : String) (case : TestCase) :
    Step d ({ d with reporter := (d.reporter.reserve test case).1 }.finish (.reserve test case)
      (.reserved d.reporter.len))
  | submits (slot : Nat) (record : CaseRecord) : Step d (d.submit slot record (.submit record))
  | drafts (caller slot : Nat) (reason : String) (record : CaseRecord)
    (read : d.reporter.skippedRecord slot reason = .ok record) :
    Step d { d with drafts := Function.update d.drafts caller (some ⟨slot, reason, record⟩) }
  | refuses (slot : Nat) (reason : String) (e : ReportError)
    (read : d.reporter.skippedRecord slot reason = .error e) :
    Step d (d.finish (.file slot (.skip reason)) (.filed (.error e)))
  | concludes (caller : Nat) (draft : Draft) (drafted : d.drafts caller = some draft) :
    Step d ({ d with drafts := Function.update d.drafts caller none }.submit draft.slot
      draft.record (.skip draft.reason))
  | reports (elapsed : Span) :
    Step d (d.finish (.finalize elapsed) (.report (d.reporter.finalize elapsed)))

theorem step_cases (d : Desk) (move : Move) : Step d (d.step move) := by
  cases move with
  | call caller call =>
      simp only [Desk.step]
      split
      · exact .stays
      cases call with
      | reserve test case => exact .reserves test case
      | file slot filing =>
          cases filing with
          | submit record => exact .submits slot record
          | skip reason =>
              simp only
              split
              · next e read => exact .refuses slot reason e read
              · next record read => exact .drafts caller slot reason record read
      | finalize elapsed => exact .reports elapsed
  | conclude caller =>
      simp only [Desk.step]
      split
      · exact .stays
      · next draft drafted => exact .concludes caller draft drafted

theorem Faithful.next {d' : Desk} (faithful : Faithful d) (step : Step d d') : Faithful d' := by
  cases step with
  | stays => exact faithful
  | reserves test case =>
      apply faithful.finish
      · simp [answer, contents_eq_map, Reporter.len, faithful.slots]
      · rw [places_reserve (faithful.kept.beyond _ (Nat.le_refl _)), ← faithful.slots]
        rfl
  | submits slot record => exact faithful.submit fun _ _ _ => rfl
  | drafts caller slot reason record read =>
      apply faithful.setDrafts
      intro other draft drafted
      by_cases same : other = caller
      · subst same
        rw [Function.update_self, Option.some.injEq] at drafted
        subst drafted
        simp only [Reporter.skippedRecord, faithful.slots] at read
        split at read
        · next test case found =>
            cases read
            exact ⟨test, case, (winner?_of_reserved found).1, rfl⟩
        · cases read
        · cases read
      · rw [Function.update_of_ne same] at drafted
        exact faithful.drafts other draft drafted
  | refuses slot reason e read =>
      apply faithful.idle _ rfl (fun _ => rfl)
      simp only [Reporter.skippedRecord, faithful.slots] at read
      split at read
      · cases read
      · next record found =>
          cases read
          exact answer_of_done found
      · next found =>
          cases read
          rw [answer_of_none found, Reporter.len, faithful.slots]
  | concludes caller draft drafted =>
      obtain ⟨test, case, reserved, record⟩ := faithful.drafts caller draft drafted
      have cleared : Faithful { d with drafts := Function.update d.drafts caller none } := by
        apply faithful.setDrafts
        intro other draft drafted
        by_cases same : other = caller
        · subst same
          simp at drafted
        · rw [Function.update_of_ne same] at drafted
          exact faithful.drafts other draft drafted
      apply cleared.submit
      intro test' case' reserved'
      obtain ⟨rfl, rfl⟩ := Prod.mk.inj (Option.some.inj (reserved.symm.trans reserved'))
      exact record
  | reports elapsed =>
      apply faithful.idle _ rfl (fun _ => rfl)
      rw [answer_finalize, ← faithful.slots]

private theorem Faithful.run (faithful : Faithful d) (moves : List Move) : Faithful
    (d.run moves) := by
  induction moves generalizing d with
  | nil => exact faithful
  | cons move moves ih => exact ih (faithful.next (step_cases d move))

/-! ## What does not change -/

private theorem reporter_of_refused {d' : Desk} (step : Step d d')
    (logged : d'.log = d.log ++ [receipt])
    (refused : receipt.reply.isRefusal = true) : d'.reporter = d.reporter := by
  have submitted : ∀ {d' : Desk} {slot record filing}, d'.reporter = d.reporter →
      (d'.submit slot record filing).log = d'.log ++ [receipt] →
        (d'.submit slot record filing).reporter = d.reporter := by
    intro d' slot record filing same logged
    unfold Desk.submit at logged ⊢
    split
    · next accepted =>
        rw [accepted] at logged
        obtain rfl : receipt = ⟨.file slot filing, .filed (.ok ())⟩ := by
          simpa [Desk.finish] using logged.symm
        cases refused
    · exact same
  cases step with
  | stays | drafts | refuses | reports => rfl
  | reserves test case =>
      obtain rfl : receipt = ⟨.reserve test case, .reserved d.reporter.len⟩ := by
        simpa [Desk.finish] using logged.symm
      cases refused
  | submits slot record => exact submitted rfl logged
  | concludes caller draft drafted => exact submitted rfl logged

variable {record : CaseRecord}

private theorem done_submit {target : Nat} {other : CaseRecord} {filing : Filing}
    (done : d.reporter.slots[slot]? = some (.done record)) :
    (d.submit target other filing).reporter.slots[slot]? = some (.done record) := by
  unfold Desk.submit
  split
  · next reporter accepted =>
      obtain ⟨unrefused, rfl⟩ := Reporter.submit_eq_ok.mp accepted
      obtain ⟨test, case, reserved⟩ := Reporter.refusal?_eq_none.mp unrefused
      have apart : target ≠ slot := by
        rintro rfl
        rw [done] at reserved
        cases reserved
      simpa [Desk.finish, List.getElem?_set_ne apart] using done
  · exact done

private theorem done_next {d' : Desk} (done : d.reporter.slots[slot]? = some (.done record))
    (step : Step d d') : d'.reporter.slots[slot]? = some (.done record) := by
  cases step with
  | stays | drafts | refuses | reports => exact done
  | reserves test case =>
      exact (List.getElem?_append_left (List.getElem?_eq_some_iff.mp done).1).trans done
  | submits | concludes => exact done_submit done

private theorem done_run (done : d.reporter.slots[slot]? = some (.done record))
    (moves : List Move) :
    (d.run moves).reporter.slots[slot]? = some (.done record) := by
  induction moves generalizing d with
  | nil => exact done
  | cons move moves ih => exact ih (done_next done (step_cases d move))

private theorem Faithful.finalize_eq_ok (faithful : Faithful d) {elapsed : Span} {report : Report} :
    d.reporter.finalize elapsed = .ok report ↔
      d.reporter.pending = 0 ∧ report.records.map some = contents d.log ∧
        report.elapsed = elapsed := by
  obtain ⟨records, elapsed'⟩ := report
  rw [contents_eq_map, ← faithful.slots]
  unfold Reporter.finalize
  split
  · next waiting => simp [Nat.pos_iff_ne_zero.mp waiting]
  · next filled =>
      have filled : d.reporter.pending = 0 := by omega
      have told : (d.reporter.slots.filterMap Slot.record?).map some =
          d.reporter.slots.map Slot.record? := by
        conv_rhs => rw [← Reporter.map_done_records filled]
        simp [Slot.record?]
      simp only [filled, ← told, Except.ok.injEq, Report.mk.injEq, true_and,
        List.map_inj_right (fun _ _ => Option.some.inj), eq_comm]

/-! ## Every call returns -/

private theorem Faithful.reply_eq (faithful : Faithful d) (logged : d.log = log ++ [receipt]) :
    receipt.reply = answer log receipt.call := by
  rw [faithful.replayed] at logged
  exact reply_of_replay logged

theorem submit_returns (d : Desk) (slot : Nat) (record : CaseRecord) (filing : Filing) :
    (d.submit slot record filing).drafts = d.drafts ∧
      ∃ reply, (d.submit slot record filing).log = d.log ++ [⟨.file slot filing, reply⟩] := by
  unfold Desk.submit
  split
  · exact ⟨rfl, _, rfl⟩
  · exact ⟨rfl, _, rfl⟩

/-- A call is answered at once, or it is a skip of a reserved case whose draft is left to its
caller. -/
theorem answers_call {caller : Nat} (free : d.drafts caller = none) (call : Call) :
    (d.step (.call caller call)).drafts = d.drafts ∧
        (∃ reply, (d.step (.call caller call)).log = d.log ++ [⟨call, reply⟩]) ∨
      ∃ slot reason test case, call = .file slot (.skip reason) ∧
        d.reporter.slots[slot]? = some (.reserved test case) ∧
        d.step (.call caller call) = { d with
          drafts := Function.update d.drafts caller
            (some ⟨slot, reason, .ofOutcome test case (.skipped reason)⟩) } := by
  have idle : (d.drafts caller).isSome = false := by simp [free]
  simp only [Desk.step, idle, Bool.false_eq_true, if_false]
  cases call with
  | reserve test case => exact .inl ⟨rfl, _, rfl⟩
  | finalize elapsed => exact .inl ⟨rfl, _, rfl⟩
  | file slot filing =>
      cases filing with
      | submit record => exact .inl (submit_returns ..)
      | skip reason =>
          cases found : d.reporter.slots[slot]? with
          | none => exact .inl (by simp [Reporter.skippedRecord, found, Desk.finish])
          | some state =>
              cases state with
              | done record => exact .inl (by simp [Reporter.skippedRecord, found, Desk.finish])
              | reserved test case =>
                  exact .inr ⟨slot, reason, test, case, rfl, found,
                    by simp [Reporter.skippedRecord, found]⟩

private theorem concludes_draft {caller : Nat} {draft : Draft}
    (drafted : d.drafts caller = some draft) :
    (d.step (.conclude caller)).drafts = Function.update d.drafts caller none ∧
      ∃ reply, (d.step (.conclude caller)).log =
        d.log ++ [⟨.file draft.slot (.skip draft.reason), reply⟩] := by
  simp only [Desk.step, drafted]
  exact submit_returns { d with drafts := _ } draft.slot draft.record (.skip draft.reason)

/-- Whatever the callers do in whatever order, every call answers like a call at one go on a list
whose places are written once, and the reporter has in its slots what that list has.  The slots
are numbered by their reservations, at most one filing of a slot is accepted and its record
stays, a refused call changes nothing, and the report comes once nothing is pending.  No call is
lost: it is answered at once, or it skips a reserved case and its caller is answered when it
concludes. -/
theorem writeOnce_of_run (moves : List Move) :
    let d := opened.run moves
    (∀ past receipt later, d.log = past ++ receipt :: later →
        receipt.reply = answer past receipt.call) ∧
      d.reporter.slots.map Slot.record? = contents d.log ∧
      d.reporter.len = (reservations d.log).length ∧
      d.log.filterMap slot? = List.range d.reporter.len ∧
      (∀ slot, d.log.filterMap (filing? slot) = (winner? d.log slot).toList) ∧
      d.reporter.pending + d.log.countP isFiled = d.reporter.len ∧
      (∀ elapsed report, d.reporter.finalize elapsed = .ok report ↔
        d.reporter.pending = 0 ∧ report.records.map some = contents d.log ∧
          report.elapsed = elapsed) ∧
      (∀ move receipt, (d.step move).log = d.log ++ [receipt] → receipt.reply.isRefusal = true →
        (d.step move).reporter = d.reporter) ∧
      (∀ (slot : Nat) (record : CaseRecord) (later : List Move),
        d.reporter.slots[slot]? = some (.done record) →
          (d.run later).reporter.slots[slot]? = some (.done record)) ∧
      (∀ caller call, d.drafts caller = none →
        let d' := d.step (.call caller call)
        d'.drafts = d.drafts ∧ d'.log = d.log ++ [⟨call, answer d.log call⟩] ∨
          ∃ slot reason test case, call = .file slot (.skip reason) ∧
            d.reporter.slots[slot]? = some (.reserved test case) ∧
            d' = { d with
              drafts := Function.update d.drafts caller
                (some ⟨slot, reason, .ofOutcome test case (.skipped reason)⟩) }) ∧
      ∀ caller draft, d.drafts caller = some draft →
        let d' := d.step (.conclude caller)
        let call := Call.file draft.slot (.skip draft.reason)
        d'.drafts = Function.update d.drafts caller none ∧
          d'.log = d.log ++ [⟨call, answer d.log call⟩] := by
  intro d
  have faithful : Faithful d := faithful_opened.run moves
  have kept := faithful.kept
  have len : d.reporter.len = (places d.log).length := congrArg List.length faithful.slots
  have told : ∀ {move receipt}, (d.step move).log = d.log ++ [receipt] →
      receipt.reply = answer d.log receipt.call := fun logged =>
    (faithful.next (step_cases d _)).reply_eq logged
  refine ⟨?_, ?_, len.trans length_places, len ▸ kept.numbered, kept.once, ?_, ?_, ?_, ?_, ?_, ?_⟩
  · intro past receipt later split
    rw [faithful.replayed] at split
    exact reply_of_replay split
  · rw [contents_eq_map, faithful.slots]
  · rw [len, Reporter.pending, faithful.slots]
    exact kept.counted
  · intro elapsed report
    exact faithful.finalize_eq_ok
  · intro move receipt logged refused
    exact reporter_of_refused (step_cases d move) logged refused
  · intro slot record later done
    exact done_run done later
  · intro caller call free
    rcases answers_call free call with ⟨drafts, reply, logged⟩ | skips
    · exact .inl ⟨drafts, told logged ▸ logged⟩
    · exact .inr skips
  · intro caller draft drafted
    obtain ⟨drafts, reply, logged⟩ := concludes_draft drafted
    exact ⟨drafts, told logged ▸ logged⟩

end Desk

end Interop
