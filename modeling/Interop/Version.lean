import Interop.Text.Quoted

/-!
# Versions

A version is an opaque token without blanks.  Two tokens are symbolic: `dev` is the current
development build and `latest` the newest release, which a test bed may resolve to a
concrete one.
-/

namespace Interop

inductive Version
  | dev
  | latest
  | release (name : String)
  deriving DecidableEq, Repr, Inhabited

inductive VersionError
  | empty
  | whitespace (text : String)
  deriving DecidableEq, Repr

def VersionError.code : VersionError → String
  | .empty => "Empty"
  | .whitespace _ => "Whitespace"

def VersionError.message : VersionError → String
  | .empty => "empty version string"
  | .whitespace text => "version contains whitespace: " ++ Text.quoted text

namespace Version

def devName : String := "dev"

def latestName : String := "latest"

def text : Version → String
  | .dev => devName
  | .latest => latestName
  | .release name => name

def isDev : Version → Bool
  | .dev => true
  | _ => false

def ofToken (token : String) : Version :=
  if token = devName then .dev else if token = latestName then .latest else .release token

/-- Reads a version; blanks at both ends do not count. -/
def parse (s : String) : Except VersionError Version :=
  let token := Text.trim s
  if token.isEmpty then .error .empty
  else if token.toList.any Text.isBlank then .error (.whitespace token)
  else .ok (ofToken token)

def resolve (v : Version) (latestRelease : Option String) : Version :=
  match v, latestRelease with
  | .latest, some name => .release name
  | v, _ => v

end Version

end Interop
