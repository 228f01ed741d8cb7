import Interop.Json.Lenient
import Interop.Rehearsal.Declaration
import Interop.Service.Fleet
import Interop.Shell.Host

/-!
# Launchers and networks from JSON

A rehearsal says which launcher it uses: scripts under their names, loopback services with the
clients that they accept, or commands that run on the host with a shell.
-/

namespace Interop.Rehearsal

/-- Which clients a server accepts: all, none, those of its own version, or listed pairs. -/
def compatibility (j : Json) : Compatibility :=
  match j with
  | .str "equal" => fun server client => server == client
  | .str "none" => fun _ _ => false
  | .arr pairs => fun server client => pairs.any fun pair =>
      (pair.item 0).toText == server.text && (pair.item 1).toText == client.text
  | _ => fun _ _ => true

def template? (j : Json) : Option Command.Template :=
  j.text?.bind fun line => (Command.Template.parse line).toOption

/-- A directory; a relative one is in the directory for temporary files. -/
def directory (path : String) : String :=
  if path.startsWith "/" then path else CommandSettings.temporaryRoot ++ "/" ++ path

def commandSettings (j : Json) : CommandSettings :=
  { machine := Shell.host
    server := template? (j.get "server")
    client := template? (j.get "client")
    workRoot := (j.get "work_root").text?.map directory
    latestRelease := (j.get "latest_release").text? }

def launcher (j : Json) : Launcher :=
  match j.textAt "launcher" with
  | "loopback" => .loopback ⟨compatibility (j.get "accept"), j.spanAt "startup_delay"⟩
  | "loopback-default" => .loopback .standard
  | "process" => .commands (commandSettings (j.get "process"))
  | _ => .scripted ((j.itemsAt "rules").map Script.ofJson)

def isScripted (j : Json) : Bool :=
  match (j.get "launcher").text? with
  | none | some "sim" => true
  | _ => false

def fixedPort : Nat := 39999

def fixedAddress : String := LoopbackServer.host ++ ":" ++ toString fixedPort

def network (j : Json) : Network :=
  match (j.get "fake_reply").text? with
  | some reply => Network.isolated.listen fixedPort fun _ => reply
  | none => .isolated

end Interop.Rehearsal
