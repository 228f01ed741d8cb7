/-!
# Parameters

Flat maps from text keys, kept in ascending order of the keys by code points.
-/

namespace Interop

abbrev Params (α : Type) := List (String × α)

namespace Params

def insert {α : Type} (key : String) (value : α) : Params α → Params α
  | [] => [(key, value)]
  | (other, old) :: rest =>
    if key < other then (key, value) :: (other, old) :: rest
    else if key = other then (key, value) :: rest
    else (other, old) :: insert key value rest

def ofList {α : Type} (pairs : List (String × α)) : Params α :=
  pairs.foldl (fun params pair => params.insert pair.1 pair.2) []

def get? {α : Type} (params : Params α) (key : String) : Option α :=
  (params.find? fun pair => pair.1 == key).map Prod.snd

end Params

end Interop
