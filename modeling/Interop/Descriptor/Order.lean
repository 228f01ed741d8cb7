import Interop.Descriptor

/-!
# Dependency order

Descriptors are placed one by one, always the first in declared order whose dependencies are
placed or are not in the list at all.  When none can be placed the rest holds a cycle.
-/

namespace Interop.Descriptor

def isPlaceable (names placed : List String) (d : Descriptor) : Bool :=
  d.dependsOn.all fun name => placed.contains name || !names.contains name

def extractFirst? {α : Type} (p : α → Bool) : List α → Option (α × List α)
  | [] => none
  | a :: rest =>
    if p a then some (a, rest)
    else (extractFirst? p rest).map fun found => (found.1, a :: found.2)

theorem perm_of_extractFirst? {α : Type} {p : α → Bool} {as rest : List α} {a : α}
    (h : extractFirst? p as = some (a, rest)) : (a :: rest).Perm as := by
  induction as generalizing a rest with
  | nil => simp [extractFirst?] at h
  | cons b bs ih =>
    simp only [extractFirst?] at h
    split at h
    · cases h
      exact .refl _
    · obtain ⟨⟨c, cs⟩, found, same⟩ := Option.map_eq_some_iff.mp h
      cases same
      exact (List.Perm.swap b c cs).trans ((ih found).cons b)

/-- Places what is pending, at most `fuel` descriptors. -/
def placeAll (names : List String) :
    Nat → List Descriptor → List String → Except ProvisionError (List Descriptor)
  | _, [], _ => .ok []
  | 0, _ :: _, _ => .ok []
  | fuel + 1, first :: rest, placed =>
    match extractFirst? (isPlaceable names placed) (first :: rest) with
    | none => .error (.invalidDescriptor first.name "dependency cycle")
    | some (d, pending) => do
      return d :: (← placeAll names fuel pending (d.name :: placed))

/-- The descriptors with every dependency before its dependents.  Dependencies that name no
descriptor of the list are left for provisioning to refuse. -/
def dependencyOrder (descriptors : List Descriptor) :
    Except ProvisionError (List Descriptor) :=
  placeAll (descriptors.map Descriptor.name) descriptors.length descriptors []

end Interop.Descriptor
