import RuleServer.Host.IoFault
import RuleServer.Net.Address
import RuleServer.Text.Cut

/-!
The host's network: which addresses a server may listen on, and who can reach it.
-/

namespace RuleServer

structure Network where
  /-- Ports below this one are not for everyone. -/
  firstFreePort : Nat := 1024
  /-- The port that is given out where none is asked for. -/
  spare : Nat := 40471
  /-- Whether clients can reach a server. -/
  reachable : Bool := true

namespace Network

/-- The address that a text names: by numbers, or the host itself by its usual name. -/
def resolve? (address : String) : Option SocketAddress :=
  (SocketAddress.parse? address).or <| do
    let port ← afterStart? "localhost:".toList address.toList
    SocketAddress.parse? ("127.0.0.1:" ++ String.ofList port)

def lookupFailure : IoFault :=
  .other "failed to lookup address information: Name or service not known"

/-- Listen on an address: the port, unless it may not be used. -/
def bind (n : Network) (address : String) : Except IoFault SocketAddress :=
  match resolve? address with
  | none => .error lookupFailure
  | some a =>
    if a.port = 0 then .ok (a.withPort n.spare)
    else if a.port < n.firstFreePort then .error .permissionDenied
    else .ok a

def connect (n : Network) : Except IoFault Unit :=
  if n.reachable then .ok () else .error .connectionRefused

end Network

end RuleServer
