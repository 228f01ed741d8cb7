import Interop.Lifecycle.Operation
import Interop.Service.Address

/-!
# Networks

Sockets that listen answer what is sent to their port.  On a network that is not reachable a server
may listen but nobody gets through to it.
-/

namespace Interop

inductive ConnectError
  | noPort
  | badPort
  | nulByte
  | namelessHost
  | unknownHost
  | unreachable
  | refused
  deriving DecidableEq, Repr

def ConnectError.message : ConnectError → String
  | .noPort => "invalid socket address"
  | .badPort => "invalid port value"
  | .nulByte => "file name contained an unexpected NUL byte"
  | .namelessHost => "failed to lookup address information: Name or service not known"
  | .unknownHost =>
    "failed to lookup address information: Temporary failure in name resolution"
  | .unreachable => "Network is unreachable (os error 101)"
  | .refused => "Connection refused (os error 111)"

structure Socket where
  port : Nat
  reply : String → String

structure Network where
  reachable : Bool
  listeners : List Socket
  nextPort : Nat

namespace Network

def isolated : Network := { reachable := false, listeners := [], nextPort := 40000 }

def connected : Network := { isolated with reachable := true }

/-! ## Addresses -/

def maxPort : Nat := 65535

/-- A port number; a plus sign in front does not count. -/
def parsePort (cs : List Char) : Option Nat :=
  let digits := match cs with
    | '+' :: rest => rest
    | cs => cs
  (HostAddress.digits? 10 digits).filter (· ≤ maxPort)

def splitAddress (address : String) : Option (String × List Char) :=
  let reversed := address.toList.reverse
  match reversed.dropWhile (· != ':') with
  | [] => none
  | _ :: host =>
    some (String.ofList host.reverse, (reversed.takeWhile (· != ':')).reverse)

def inBrackets? (host : String) : Option String :=
  match host.toList with
  | '[' :: rest => if rest.getLast? == some ']' then some (String.ofList rest.dropLast) else none
  | _ => none

/-- What a host stands for: its address if it is a number, nothing if it is the local host. -/
def resolve (host : String) : Except ConnectError (Option HostAddress) :=
  if host.toList.contains (Char.ofNat 0) then .error .nulByte
  else
    match HostAddress.ofText? host with
    | some address => .ok (some address)
    | none =>
      if HostAddress.isLocalName host then .ok none
      else if HostAddress.isHostName host then .error .unknownHost
      else .error .namelessHost

/-! ## Connecting -/

/-- Connects to a port of an address, or of the local host without one: the way to send
something and get the answer. -/
def reach (n : Network) (address : Option HostAddress) (port : Nat) :
    Except ConnectError (String → String) :=
  if !n.reachable then .error .unreachable
  else
    match n.listeners.find? fun socket =>
        socket.port == port && address.all HostAddress.isLocal with
    | some socket => .ok socket.reply
    | none => .error .refused

def connect (n : Network) (host : String) (port : Nat) :
    Except ConnectError (String → String) := do
  n.reach (← resolve host) port

def numeric? (host : String) (port : List Char) : Option HostAddress :=
  if (HostAddress.digits? 10 port).isNone then none
  else
    match (inBrackets? host).bind
        (HostAddress.linked? fun _ link => HostAddress.isLinkNumber link) with
    | some groups => some (.long groups)
    | none =>
      match HostAddress.octets? host with
      | some [high, low] => some (.short (65536 * high + low))
      | _ => none

/-- Connects to an address of the form `host:port`; a number with colons in it is in brackets
there. -/
def connectTo (n : Network) (address : String) : Except ConnectError (String → String) :=
  match splitAddress address with
  | none => .error .noPort
  | some (host, port) =>
    match parsePort port, numeric? host port with
    | none, _ => .error .badPort
    | some port, some number => n.reach (some number) port
    | some port, none => n.connect host port

def isNumeric (address : String) : Bool :=
  match splitAddress address with
  | none => false
  | some (host, port) => (parsePort port).isSome && (numeric? host port).isSome

/-! ## Listening -/

def listen (n : Network) (port : Nat) (reply : String → String) : Network :=
  { n with listeners := n.listeners ++ [⟨port, reply⟩] }

def listenAnywhere (n : Network) (reply : String → String) : Nat × Network :=
  (n.nextPort, { n.listen n.nextPort reply with nextPort := n.nextPort + 1 })

def close (n : Network) (ports : List Nat) : Network :=
  { n with listeners := n.listeners.filter fun socket => !ports.contains socket.port }

end Network

end Interop
