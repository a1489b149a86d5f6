import NexalinkTunnel.Base.EndpointAddr

/-!
Contract: addresses of the socket's transports.

Owns transport addresses, network paths as pairs of a remote and a local
address, and the conversions between them.

Does not own: the mapped addresses under which QUIC knows relay and custom
paths.
-/

namespace NexalinkTunnel.Socket

open Base

inductive Addr (ed : Ed25519) where
  | ip (addr : SocketAddr)
  | relay (url : RelayUrl) (endpointId : EndpointId ed)
  | custom (addr : CustomAddr)
deriving DecidableEq

variable {ed : Ed25519}

namespace Addr

def fromSocketAddr : SocketAddr → Addr ed
  | .v4 octets port => .ip (.v4 octets port)
  | .v6 octets port _ _ => .ip (SocketAddr.new (IpAddr.v6 octets).toCanonical port)

def isRelay : Addr ed → Bool
  | .relay _ _ => true
  | _ => false

def toTransportAddr : Addr ed → TransportAddr
  | .ip addr => .ip addr
  | .relay url _ => .relay url
  | .custom addr => .custom addr

end Addr

/-- What a transport tells about a received packet besides its `RecvMeta`. -/
structure RecvInfo (ed : Ed25519) where
  remote : Addr ed
  localAddr : Option CustomAddr

def RecvInfo.fromAddr (remote : Addr ed) : RecvInfo ed := ⟨remote, none⟩

def toTransportsAddr (endpointId : EndpointId ed) (addrs : List TransportAddr) : List (Addr ed) :=
  addrs.map fun
    | .relay url => .relay url endpointId
    | .ip addr => Addr.fromSocketAddr addr
    | .custom addr => .custom addr

inductive LocalTransportAddr where
  | ip (localIp : Option IpAddr)
  | relay (url : RelayUrl)
  | custom (addr : Option CustomAddr)
deriving DecidableEq

inductive AddrKind where
  | ipV4
  | ipV6
  | relay
  | custom (id : UInt64)
deriving DecidableEq

/-- A network path: a remote address, and a local one where the transport has it. -/
inductive FourTuple (ed : Ed25519) where
  | ip (remote : SocketAddr) (localIp : Option IpAddr)
  | relay (url : RelayUrl) (endpointId : EndpointId ed)
  | custom (remote : CustomAddr) (localAddr : Option CustomAddr)
deriving DecidableEq

namespace FourTuple

def fromRemote : Addr ed → FourTuple ed
  | .ip remote => .ip remote none
  | .relay url endpointId => .relay url endpointId
  | .custom remote => .custom remote none

/-- The variant follows the remote; a local address of another kind is dropped. -/
def new : Addr ed → LocalTransportAddr → FourTuple ed
  | .ip remote, .ip localIp => .ip remote localIp
  | .ip remote, _ => .ip remote none
  | .relay url endpointId, _ => .relay url endpointId
  | .custom remote, .custom localAddr => .custom remote localAddr
  | .custom remote, _ => .custom remote none

def remote : FourTuple ed → Addr ed
  | .ip remote _ => .ip remote
  | .relay url endpointId => .relay url endpointId
  | .custom remote _ => .custom remote

def localAddr : FourTuple ed → LocalTransportAddr
  | .ip _ localIp => .ip localIp
  | .relay url _ => .relay url
  | .custom _ localAddr => .custom localAddr

def isIp : FourTuple ed → Bool
  | .ip _ _ => true
  | _ => false

def isRelay : FourTuple ed → Bool
  | .relay _ _ => true
  | _ => false

def addrKind : FourTuple ed → AddrKind
  | .ip (.v4 _ _) _ => .ipV4
  | .ip (.v6 _ _ _ _) _ => .ipV6
  | .relay _ _ => .relay
  | .custom remote _ => .custom remote.id

end FourTuple

end NexalinkTunnel.Socket
