import Interop.Proofs.Lifecycle.Course

/-!
# What a controller on duty reports

Each move of a duty brings a result or none.  The results of a run are listed with their
instants; once the operation is over there are no more until the next one is issued.
-/

namespace Interop

namespace Duty

def result? (d : Duty) : DutyMove → Option (Instant × Completion)
  | .issue now ticket command =>
    match d.operation with
    | none => (d.site.issue now ticket command).1.completion?.map (Prod.mk now)
    | some _ => none
  | .answer now ticket answer =>
    match d.operation with
    | some operation =>
      (d.site.resume now ticket operation answer).1.completion?.map (Prod.mk now)
    | none => none
  | .cancel _ | .observe _ _ | .share _ => none

def results (d : Duty) : List DutyMove → List (Instant × Completion)
  | [] => []
  | move :: moves => (d.result? move).toList ++ (d.step move).results moves

theorem issue_of_idle {d : Duty} (idle : d.operation = none) (now : Instant) (ticket : Nat)
    (command : Command) :
    d.step (.issue now ticket command) = .ofProgress (d.site.issue now ticket command) ∧
      d.result? (.issue now ticket command) =
        (d.site.issue now ticket command).1.completion?.map (Prod.mk now) := by
  simp only [step, result?, idle, and_self]

theorem answer_of_busy {d : Duty} {operation : Operation} (busy : d.operation = some operation)
    (now : Instant) (ticket : Nat) (answer : Answer) :
    d.step (.answer now ticket answer) =
        .ofProgress (d.site.resume now ticket operation answer) ∧
      d.result? (.answer now ticket answer) =
        (d.site.resume now ticket operation answer).1.completion?.map (Prod.mk now) := by
  simp only [step, result?, busy, and_self]

theorem step_of_idle {d : Duty} (idle : d.operation = none) {move : DutyMove}
    (attends : move.attends = true) :
    (d.step move).operation = none ∧ d.result? move = none := by
  cases move with
  | issue | cancel => cases attends
  | answer => simp [step, result?, idle]
  | observe | share => exact ⟨idle, rfl⟩

theorem run_of_idle {d : Duty} (idle : d.operation = none) {moves : List DutyMove}
    (attended : ∀ move ∈ moves, move.attends = true) :
    (d.run moves).operation = none ∧ d.results moves = [] := by
  induction moves generalizing d with
  | nil => exact ⟨idle, rfl⟩
  | cons move moves ih =>
      obtain ⟨gone, silent⟩ := step_of_idle idle (attended move List.mem_cons_self)
      obtain ⟨still, nothing⟩ :=
        ih gone fun other mem => attended other (List.mem_cons_of_mem _ mem)
      refine ⟨still, ?_⟩
      rw [results, silent, nothing]
      rfl

end Duty

end Interop
