import Interop.Catalog.ThinClient
import Interop.Text.Blank

/-!
# The test catalog

Tests are registered under distinct names and keep the order of their registration.  A
program installs one catalog, once.
-/

namespace Interop

inductive CatalogError
  | alreadyInitialized
  | notInitialized
  | duplicateTest (name : String)
  | unknownTest (name : String)
  | declaration (cause : MatrixError)
  deriving DecidableEq, Repr

def CatalogError.code : CatalogError → String
  | .alreadyInitialized => "AlreadyInitialized"
  | .notInitialized => "NotInitialized"
  | .duplicateTest _ => "DuplicateTest"
  | .unknownTest _ => "UnknownTest"
  | .declaration _ => "Declaration"

def CatalogError.message : CatalogError → String
  | .alreadyInitialized => "test catalog is already initialized"
  | .notInitialized => "test catalog is not initialized"
  | .duplicateTest name => s!"duplicate test: {name}"
  | .unknownTest name => s!"unknown test: {name}"
  | .declaration cause => "invalid test declaration: " ++ cause.message

structure Catalog where
  tests : List Test

namespace Catalog

def empty : Catalog := ⟨[]⟩

def register (c : Catalog) (test : Test) : Except CatalogError Catalog :=
  if c.tests.any fun other => other.name == test.name then .error (.duplicateTest test.name)
  else .ok ⟨c.tests ++ [test]⟩

def withBuiltin (c : Catalog) : Except CatalogError Catalog :=
  match ThinClient.test with
  | .error e => .error (.declaration e)
  | .ok test => c.register test

def names (c : Catalog) : List String := c.tests.map Test.name

def get (c : Catalog) (name : String) : Except CatalogError Test :=
  match c.tests.find? fun test => test.name == name with
  | some test => .ok test
  | none => .error (.unknownTest name)

def select (c : Catalog) (filter : Option String) : List Test :=
  match filter with
  | none => c.tests
  | some part => c.tests.filter fun test => Text.contains test.name part

end Catalog

structure Registry where
  installed : Option Catalog

namespace Registry

def vacant : Registry := ⟨none⟩

/-- Installs a catalog; the first one stays. -/
def install (r : Registry) (c : Catalog) : Except CatalogError Registry :=
  match r.installed with
  | some _ => .error .alreadyInitialized
  | none => .ok ⟨some c⟩

def current (r : Registry) : Except CatalogError Catalog :=
  match r.installed with
  | some c => .ok c
  | none => .error .notInitialized

def installBuiltin (r : Registry) : Except CatalogError Registry := do
  r.install (← Catalog.empty.withBuiltin)

end Registry

end Interop
