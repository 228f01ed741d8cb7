import Interop.Report

/-!
# Collecting outcomes

A reporter has one slot per reserved case.  A slot is filled once and never again, so the
report has the order of the reservations, whatever the order of the outcomes.  Marking a case
as skipped reads the reservation first and submits a record in a second step; other calls may
come between the two.
-/

namespace Interop

inductive ReportError
  | duplicateSubmission (test case : String)
  | outOfRange (slot len : Nat)
  | incomplete (missing total : Nat)
  deriving DecidableEq, Repr

def ReportError.code : ReportError → String
  | .duplicateSubmission _ _ => "DuplicateSubmission"
  | .outOfRange _ _ => "OutOfRange"
  | .incomplete _ _ => "Incomplete"

def ReportError.message : ReportError → String
  | .duplicateSubmission test case => "duplicate outcome for " ++ test ++ "[" ++ case ++ "]"
  | .outOfRange slot len => s!"slot {slot} out of range ({len} reserved)"
  | .incomplete missing total => s!"{missing} of {total} cases have no outcome"

inductive Slot
  | reserved (test : String) (case : TestCase)
  | done (record : CaseRecord)
  deriving DecidableEq, Repr, Inhabited

def Slot.isReserved : Slot → Bool
  | .reserved _ _ => true
  | .done _ => false

def Slot.record? : Slot → Option CaseRecord
  | .reserved _ _ => none
  | .done record => some record

structure Reporter where
  slots : List Slot
  deriving DecidableEq, Repr, Inhabited

namespace Reporter

def empty : Reporter := ⟨[]⟩

def len (r : Reporter) : Nat := r.slots.length

def reserve (r : Reporter) (test : String) (case : TestCase) : Reporter × Nat :=
  (⟨r.slots ++ [.reserved test case]⟩, r.len)

/-- Why a slot cannot be filled: it was filled before, or never reserved. -/
def refusal? (r : Reporter) (slot : Nat) : Option ReportError :=
  match r.slots[slot]? with
  | some (.reserved _ _) => none
  | some (.done record) => some (.duplicateSubmission record.test record.case.label)
  | none => some (.outOfRange slot r.len)

def submit (r : Reporter) (slot : Nat) (record : CaseRecord) :
    Except ReportError Reporter :=
  match r.refusal? slot with
  | some e => .error e
  | none => .ok ⟨r.slots.set slot (.done record)⟩

@[simp]
theorem len_reserve (r : Reporter) (test : String) (case : TestCase) :
    (r.reserve test case).1.len = r.len + 1 := by
  simp [reserve, len]

theorem refusal?_eq_none {r : Reporter} {slot : Nat} :
    r.refusal? slot = none ↔ ∃ test case, r.slots[slot]? = some (.reserved test case) := by
  unfold refusal?
  split <;> simp_all

theorem submit_eq_ok {r r' : Reporter} {slot : Nat} {record : CaseRecord} :
    r.submit slot record = .ok r' ↔
      r.refusal? slot = none ∧ r' = ⟨r.slots.set slot (.done record)⟩ := by
  unfold submit
  split
  · next h => simp [h]
  · next h => simp [h, eq_comm]

/-- The first step of skipping: the record to submit for a case that was never started. -/
def skippedRecord (r : Reporter) (slot : Nat) (reason : String) :
    Except ReportError CaseRecord :=
  match r.slots[slot]? with
  | some (.reserved test case) => .ok (.ofOutcome test case (.skipped reason))
  | some (.done record) => .error (.duplicateSubmission record.test record.case.label)
  | none => .error (.outOfRange slot r.len)

def markSkipped (r : Reporter) (slot : Nat) (reason : String) :
    Except ReportError Reporter := do
  r.submit slot (← r.skippedRecord slot reason)

def pending (r : Reporter) : Nat := r.slots.countP Slot.isReserved

theorem map_done_records {slots : List Slot}
    (filled : slots.countP Slot.isReserved = 0) :
    (slots.filterMap Slot.record?).map Slot.done = slots := by
  induction slots with
  | nil => rfl
  | cons slot slots ih =>
      cases slot with
      | reserved test case => simp [Slot.isReserved] at filled
      | done record =>
          have rest : slots.countP Slot.isReserved = 0 := by
            simpa [List.countP_cons, Slot.isReserved] using filled
          exact congrArg (Slot.done record :: ·) (ih rest)

def finalize (r : Reporter) (elapsed : Span) : Except ReportError Report :=
  if r.pending > 0 then .error (.incomplete r.pending r.len)
  else .ok ⟨r.slots.filterMap Slot.record?, elapsed⟩

end Reporter

end Interop
