import Interop.Proofs.Lifecycle.Legs

/-!
# A controller on duty

A controller carries out one operation at a time.  It is told what to do in any order, its
operation gets every kind of answer at any time, and may be dropped wherever it waits.
Meanwhile the services show something else of themselves, and others use the pool.

What no leg of an operation breaks holds of a controller in every state of its duty.
-/

namespace Interop

structure Duty where
  site : Site
  operation : Option Operation

inductive DutyMove
  | issue (now : Instant) (ticket : Nat) (command : Command)
  | answer (now : Instant) (ticket : Nat) (answer : Answer)
  | cancel (ticket : Nat)
  | observe (service : Nat) (exposure : Exposure)
  | share (pool : Pool)

/-- Neither a new operation nor the end of the present one is asked for. -/
def DutyMove.attends : DutyMove → Bool
  | .issue _ _ _ | .cancel _ => false
  | .answer _ _ _ | .observe _ _ | .share _ => true

namespace Duty

def ofSettings (settings : Settings) (pool : Pool) : Duty := ⟨⟨pool, .ofSettings settings⟩, none⟩

def ofProgress (r : Progress × Site) : Duty := ⟨r.2, r.1.operation?⟩

/-- A command that comes while an operation is in progress changes nothing, and neither does
an answer that nobody waits for. -/
def step (d : Duty) : DutyMove → Duty
  | .issue now ticket command =>
    match d.operation with
    | none => ofProgress (d.site.issue now ticket command)
    | some _ => d
  | .answer now ticket answer =>
    match d.operation with
    | some operation => ofProgress (d.site.resume now ticket operation answer)
    | none => d
  | .cancel ticket =>
    match d.operation with
    | some operation => ⟨d.site.cancel ticket operation, none⟩
    | none => d
  | .observe service exposure =>
    { d with site := d.site.modify fun c => c.observe service exposure }
  | .share pool => { d with site := { d.site with pool } }

def run (d : Duty) (moves : List DutyMove) : Duty := moves.foldl step d

def controller (d : Duty) : Controller := d.site.controller

def wait? (d : Duty) : Option Wait := d.operation.map Operation.wait

theorem run_append (d : Duty) (moves more : List DutyMove) :
    d.run (moves ++ more) = (d.run moves).run more :=
  List.foldl_append

/-- A property of the controller and of what it waits for that lasts, and that is kept when the
operation is dropped, holds at every time of a duty. -/
theorem step_keeps {K : Controller → Option Wait → Prop}
    (lasting : Site.Lasting fun s w => K s.controller w)
    (dropped : ∀ {c w}, K c w → K c none) {d : Duty} (h : K d.controller d.wait?)
    (move : DutyMove) : K (d.step move).controller (d.step move).wait? := by
  cases move with
  | issue now ticket command =>
      cases busy : d.operation with
      | none =>
          rw [wait?, busy] at h
          simp only [step, busy]
          exact lasting.issue now ticket command h
      | some operation =>
          simp only [step, busy]
          exact h
  | answer now ticket answer =>
      cases busy : d.operation with
      | none =>
          simp only [step, busy]
          exact h
      | some operation =>
          rw [wait?, busy] at h
          simp only [step, busy]
          exact lasting.resume now ticket operation answer h
  | cancel ticket =>
      cases busy : d.operation with
      | none =>
          simp only [step, busy]
          exact h
      | some operation =>
          simp only [step, busy, controller, wait?, Site.controller_cancel]
          exact dropped h
  | observe service exposure => exact lasting.observe service exposure h
  | share pool => exact h

theorem run_keeps {K : Controller → Option Wait → Prop}
    (lasting : Site.Lasting fun s w => K s.controller w)
    (dropped : ∀ {c w}, K c w → K c none) {d : Duty} (h : K d.controller d.wait?)
    (moves : List DutyMove) : K (d.run moves).controller (d.run moves).wait? := by
  induction moves generalizing d with
  | nil => exact h
  | cons move moves ih => exact ih (step_keeps lasting dropped h move)

end Duty

end Interop
