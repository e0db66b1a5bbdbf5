import Courier.Network.Reply

/-! # Networks

A network says which names can be resolved, how an attempt to connect ends, and what comes back for
a request. What comes back may depend on all requests that have arrived before, so a network needs no
state beside the list of these.
-/

namespace Courier

/-- A request as it arrives. -/
structure WireRequest where
  host : String
  port : UInt16
  method : Method
  target : String
  /-- One pair for each value, those of one name next to each other. -/
  headers : List (HeaderName × HeaderValue)
  body : Bytes
  deriving DecidableEq, Repr

/-- How an attempt to connect ends. -/
inductive Connecting
  | accepted
  | failed (kind : SocketFault.Kind)
  /-- Never. -/
  | stalled
  deriving DecidableEq, Repr

/-- What lies between a client and the hosts that it asks. -/
structure Network where
  /-- Whether a name can be resolved. -/
  resolves : String → Bool
  /-- How an attempt to connect to a host and port ends. -/
  connecting : String → UInt16 → Connecting
  /-- What happens when a request arrives after others. -/
  reply : List WireRequest → WireRequest → Reply

/-- The requests that have arrived, in order. -/
abbrev Log := List WireRequest

namespace Network

/-- A network that gives the replies of a list one after another, and then one again and again. -/
def scripted (resolves : String → Bool) (connecting : String → UInt16 → Connecting)
    (replies : List Reply) (fallback : Reply) : Network :=
  { resolves, connecting, reply := fun log _ => replies[log.length]?.getD fallback }

/-- A network in which no host can be reached. -/
def isolated : Network :=
  { resolves := fun _ => false, connecting := fun _ _ => .failed .unreachable
    reply := fun _ _ => .raw [] .closed }

/-- How an attempt to connect to a host ends. A name has to be resolved first, and so has an address
between brackets when it is taken for a name. -/
def reach (network : Network) (byName : Bool) (host : Host) (port : UInt16) : Connecting :=
  let connecting := network.connecting host.text port
  match host with
  | .domain name => if network.resolves name then connecting else .failed .unresolved
  | .ipv6 _ => if byName then .failed .unresolved else connecting
  | _ => connecting

end Network

end Courier
