import Interop.Service.Network

/-!
# Loopback services

Servers and client applications without programs of their own.  A server listens on a port
per node and answers one line with one line; an application connects to the address in its
parameters, announces its version and passes when it is welcomed.
-/

namespace Interop

abbrev Compatibility := Version → Version → Bool

/-! ## The handshake -/

namespace Handshake

def helloWord : String := "HELLO "

def welcomeWord : String := "WELCOME "

def rejectWord : String := "REJECT "

def hello (client : Version) : String := helloWord ++ client.text ++ "\n"

def readLine (sent : String) : String :=
  Text.trim (String.ofList (sent.toList.takeWhile (· != '\n')))

def after? (word line : String) : Option String :=
  (Text.afterLead? word.toList line.toList).map String.ofList

def admits (accepts : Compatibility) (server : Version) (line : String) : Bool :=
  match after? helloWord line with
  | none => false
  | some text =>
    match Version.parse text with
    | .ok client => accepts server client
    | .error _ => false

def reply (accepts : Compatibility) (server : Version) (sent : String) : String :=
  (if admits accepts server (readLine sent) then welcomeWord else rejectWord) ++
    server.text ++ "\n"

def verdict (client : Version) (answer : String) : AppOutcome :=
  let line := readLine answer
  match after? welcomeWord line with
  | some _ => .passed
  | none =>
    match after? rejectWord line with
    | some server => .failed s!"server {server} rejected client {client.text}"
    | none => .exception ("unexpected reply: " ++ Text.quoted line)

end Handshake

/-! ## Services -/

structure LoopbackServer where
  version : Version
  nodeCount : Nat
  accepts : Compatibility
  startupDelay : Span
  fresh : Nat
  opening : List Instant
  /-- The ports shown; a killed server still shows them. -/
  ports : List Nat

structure LoopbackClient where
  version : Version
  deriving DecidableEq, Repr

namespace LoopbackServer

def host : String := "127.0.0.1"

def exposure (s : LoopbackServer) : Exposure :=
  { endpoints := s.ports.map fun port => ⟨host, port⟩, logFiles := [] }

def idle (version : Version) (nodeCount : Nat) (accepts : Compatibility) (startupDelay : Span) :
    LoopbackServer :=
  { version, nodeCount, accepts, startupDelay, fresh := 0, opening := [], ports := [] }

/-- Starts one listener per node; none of them does anything before its first turn. -/
def start (s : LoopbackServer) : LoopbackServer := { s with fresh := s.fresh + s.nodeCount }

def openPort (state : LoopbackServer × Network) : LoopbackServer × Network :=
  let (s, n) := state
  let (port, n) := n.listenAnywhere (Handshake.reply s.accepts s.version)
  ({ s with ports := s.ports ++ [port] }, n)

def catchUp (s : LoopbackServer) (now : Instant) (n : Network) : LoopbackServer × Network :=
  let due := s.opening.filter fun time => time ≤ now
  due.foldl (fun state _ => openPort state)
    ({ s with opening := s.opening.filter fun time => now < time }, n)

def begin (s : LoopbackServer) (now : Instant) (n : Network) : LoopbackServer × Network :=
  let opening := s.opening ++ List.replicate s.fresh (s.startupDelay.asSleep.after now)
  { s with fresh := 0, opening }.catchUp now n

def isActive (s : LoopbackServer) : Bool :=
  s.fresh != 0 || !s.opening.isEmpty || !s.ports.isEmpty

def isReady (s : LoopbackServer) : Bool := s.ports.length == s.nodeCount

def stop (s : LoopbackServer) (n : Network) : LoopbackServer × Network :=
  ({ s with fresh := 0, opening := [], ports := [] }, n.close s.ports)

def kill (s : LoopbackServer) (n : Network) : LoopbackServer × Network :=
  ({ s with fresh := 0, opening := [] }, n.close s.ports)

end LoopbackServer

/-- Runs a client application: it says hello to the server in its parameters. -/
def LoopbackClient.run (c : LoopbackClient) (params : Params String) (n : Network) :
    AppOutcome :=
  match params.get? Descriptor.connectionParam with
  | none => .exception ("missing parameter " ++ Descriptor.connectionParam)
  | some address =>
    match n.connectTo address with
    | .error e => .exception ("connect to " ++ address ++ " failed: " ++ e.message)
    | .ok send => Handshake.verdict c.version (send (Handshake.hello c.version))

structure LoopbackSettings where
  accepts : Compatibility
  startupDelay : Span

def LoopbackSettings.standard : LoopbackSettings :=
  { accepts := fun _ _ => true, startupDelay := .zero }

end Interop
