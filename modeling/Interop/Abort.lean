import Interop.Outcome

/-!
# Aborting a run

A run can be aborted for one of two reasons.  The first reason given stays; every part of the
run sees the same one.
-/

namespace Interop

inductive AbortReason
  | interrupt
  | suiteTimeout
  deriving DecidableEq, Repr, Inhabited

namespace AbortReason

def text : AbortReason → String
  | .interrupt => "interrupted"
  | .suiteTimeout => "suite timeout"

def outcome : AbortReason → Outcome
  | .interrupt => .error "aborted" "run interrupted"
  | .suiteTimeout => .timeout "suite timeout reached"

def skipReason (r : AbortReason) : String := "run aborted (" ++ r.text ++ ")"

end AbortReason

structure AbortSignal where
  reason : Option AbortReason
  deriving DecidableEq, Repr, Inhabited

namespace AbortSignal

def quiet : AbortSignal := ⟨none⟩

/-- Aborts the run; a later reason changes nothing. -/
def abort (s : AbortSignal) (reason : AbortReason) : AbortSignal :=
  match s.reason with
  | some _ => s
  | none => ⟨some reason⟩

@[simp]
theorem reason_abort (s : AbortSignal) (reason : AbortReason) :
    (s.abort reason).reason = some (s.reason.getD reason) := by
  unfold abort
  split <;> simp_all

end AbortSignal

inductive Listener
  | tuned
  | deaf
  deriving DecidableEq, Repr, Inhabited

def Listener.heard (l : Listener) (s : AbortSignal) : Option AbortReason :=
  match l with
  | .tuned => s.reason
  | .deaf => none

end Interop
