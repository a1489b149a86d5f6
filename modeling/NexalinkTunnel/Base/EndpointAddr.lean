import NexalinkTunnel.Base.Key

/-!
Contract: addresses of endpoints, as `iroh-base` has them.

Owns the address types of the standard library, relay URLs, custom addresses
with their two representations, and the transport addresses of an endpoint.

Does not own: the text and byte encodings of addresses.
-/

namespace NexalinkTunnel.Base

open Lib

/-! ## Addresses of the standard library -/

inductive IpAddr where
  | v4 (octets : BitVec 32)
  | v6 (octets : BitVec 128)
deriving DecidableEq, Repr

/-- The IPv4 address of an IPv4-mapped IPv6 address, any other address as it is. -/
def IpAddr.toCanonical : IpAddr → IpAddr
  | .v4 octets => .v4 octets
  | .v6 octets => if octets >>> 32 = 0xffff#128 then .v4 (octets.setWidth 32) else .v6 octets

inductive SocketAddr where
  | v4 (ip : BitVec 32) (port : UInt16)
  | v6 (ip : BitVec 128) (port : UInt16) (flowinfo scopeId : UInt32)
deriving DecidableEq, Repr

def SocketAddr.new : IpAddr → UInt16 → SocketAddr
  | .v4 ip, port => .v4 ip port
  | .v6 ip, port => .v6 ip port 0 0

def SocketAddr.ip : SocketAddr → IpAddr
  | .v4 ip _ => .v4 ip
  | .v6 ip _ _ _ => .v6 ip

def SocketAddr.port : SocketAddr → UInt16
  | .v4 _ port => port
  | .v6 _ port _ _ => port

structure RelayUrl where
  url : String
deriving DecidableEq, Repr

/-- The data of a custom address: up to 30 bytes inline, longer data on the heap. -/
inductive CustomAddrBytes where
  | inlined (size : UInt8) (data : List.Vector UInt8 30)
  | heap (data : Bytes)
deriving DecidableEq

structure CustomAddr where
  id : UInt64
  data : CustomAddrBytes
deriving DecidableEq

inductive TransportAddr where
  | relay (url : RelayUrl)
  | ip (addr : SocketAddr)
  | custom (addr : CustomAddr)
deriving DecidableEq

end NexalinkTunnel.Base
