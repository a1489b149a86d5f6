import NexalinkTunnel.Socket.IpTransports
import NexalinkTunnel.Socket.MappedAddrs
import NexalinkTunnel.Socket.Relay.Recv

/-!
Contract: through which sender a datagram leaves.

Owns `TransportsSender::poll_send` with the choice of a UDP socket, and `Sender::poll_send`,
which takes datagrams from QUIC and translates their destination first.

Does not own: what a sender does with a datagram; it may answer anything.

## Destinations

A destination goes through three conversions on its way to a UDP socket: QUIC's socket
address is told apart from mapped addresses, rebuilt from its canonical IP address and port,
and rebuilt the same way once more by the UDP sender. A rebuilt address has no scope.
-/

namespace NexalinkTunnel.Socket

open Lib Base

variable {ed : Ed25519} {Error : Type}

/-- A datagram that is handed to one of the senders, or to the task of a remote. -/
inductive SenderCall (ed : Ed25519) where
  | ip (sender : Ip.IpTransport) (destination : SocketAddr) (srcIp : Option IpAddr)
  | relay (sender : Nat) (url : RelayUrl) (endpointId : EndpointId ed)
  | custom (sender : Nat) (remote : CustomAddr) (localAddr : Option CustomAddr)
  | remoteState (endpointId : EndpointId ed)

abbrev SenderAnswers (ed : Ed25519) (Error : Type) :=
  SenderCall ed → Relay.Poll (Except Error Unit)

/-- `TransportsSender`: the UDP senders, the number of relay senders, and for each custom sender
the addresses that it sends to. -/
structure TransportsSender where
  ip : Ip.IpTransports
  relay : Nat
  custom : List (CustomAddr → Bool)

namespace Ip

def canonicalAddr (addr : SocketAddr) : SocketAddr :=
  SocketAddr.new addr.ip.toCanonical addr.port

/-- `IpSender::poll_send`, as the call of the UDP socket. -/
def IpTransport.pollSend (sender : IpTransport) (dst : SocketAddr) (src : Option IpAddr) :
    SenderCall ed :=
  .ip sender (canonicalAddr dst) src

/-- The first sender that may send to the address, otherwise the default if it may. -/
def chooseSender (senders : List IpTransport) (default : Option IpTransport)
    (src : Option IpAddr) (dst : SocketAddr) : Option IpTransport :=
  match senders.find? fun sender => sender.config.isValidSendAddr src dst with
  | some sender => some sender
  | none => default.filter fun sender => sender.config.isValidDefaultAddr src dst

def IpTransports.sender (senders : IpTransports) (src : Option IpAddr) (dst : SocketAddr) :
    Option IpTransport :=
  match dst with
  | .v4 _ _ => chooseSender senders.v4 senders.v4Default src dst
  | .v6 _ _ _ _ => chooseSender senders.v6 senders.v6Default src dst

end Ip

/-- The calls up to the first one that is answered, with its answer. -/
def untilReady (answers : SenderAnswers ed Error) :
    List (SenderCall ed) → List (SenderCall ed) × Option (Except Error Unit)
  | [] => ([], none)
  | call :: calls =>
      match answers call with
      | .ready result => ([call], some result)
      | .pending =>
          let later := untilReady answers calls
          (call :: later.1, later.2)

namespace TransportsSender

/-- The calls that `poll_send` makes and what it returns. A datagram without a sender counts as
sent. -/
def pollSend (senders : TransportsSender) (answers : SenderAnswers ed Error) :
    FourTuple ed → List (SenderCall ed) × Relay.Poll (Except Error Unit)
  | .ip dst src =>
      match senders.ip.sender src dst with
      | some sender =>
          let call := sender.pollSend dst src
          ([call], answers call)
      | none => ([], .ready (.ok ()))
  | .relay url endpointId =>
      let calls := (List.range senders.relay).map fun sender => .relay sender url endpointId
      match untilReady answers calls with
      | (made, some result) => (made, .ready result)
      | (made, none) => if made.isEmpty then (made, .ready (.ok ())) else (made, .pending)
  | .custom remote localAddr =>
      let valid := senders.custom.zipIdx.filter fun (isValidSendAddr, _) => isValidSendAddr remote
      let calls := valid.map fun (_, sender) => .custom sender remote localAddr
      match untilReady answers calls with
      | (made, some result) => (made, .ready result)
      | (made, none) => (made, .ready (.ok ()))

end TransportsSender

/-- `noq_udp::Transmit`, as far as it says where a datagram goes. -/
structure NoqTransmit where
  destination : SocketAddr
  srcIp : Option IpAddr

inductive SendError where
  | notConnected (message : String)
deriving DecidableEq

/-- `Sender`, with what it reads of the socket. -/
structure Sender (ed : Ed25519) where
  isClosed : Bool
  mappedAddrs : MappedAddrs ed
  sender : TransportsSender

namespace Sender

def mappedAddr (sender : Sender ed) (transmit : NoqTransmit) :
    Except SendError MultipathMappedAddr :=
  if sender.isClosed then .error (.notConnected "connection closed")
  else .ok (MultipathMappedAddr.fromSocketAddr transmit.destination)

/-- The network path of a datagram. A datagram for a mixed address goes to the task of its
remote instead, and one for an unknown mapped address nowhere. -/
def networkPath (sender : Sender ed) (transmit : NoqTransmit) :
    MultipathMappedAddr → Except (List (SenderCall ed)) (FourTuple ed)
  | .mixed mappedAddr =>
      match sender.mappedAddrs.endpointAddrs.lookup.lookup mappedAddr with
      | some endpointId => .error [.remoteState endpointId]
      | none => .error []
  | .relay mappedAddr =>
      match sender.mappedAddrs.relayAddrs.lookup.lookup mappedAddr with
      | some (url, endpointId) => .ok (.relay url endpointId)
      | none => .error []
  | .custom mappedAddr =>
      match sender.mappedAddrs.customAddrs.lookup.lookup mappedAddr with
      | some remote =>
          let localAddr := (transmit.srcIp.bind CustomMappedAddr.tryFromIpAddr).bind
            sender.mappedAddrs.customAddrs.lookup.lookup
          .ok (.custom remote localAddr)
      | none => .error []
  | .ip addr => .ok (.ip (Ip.canonicalAddr addr) transmit.srcIp)

/-- The calls that `poll_send` makes and what it returns: nothing that a sender answers is passed
on to QUIC. -/
def pollSend (sender : Sender ed) (answers : SenderAnswers ed Error) (transmit : NoqTransmit) :
    List (SenderCall ed) × Relay.Poll (Except SendError Unit) :=
  match sender.mappedAddr transmit with
  | .error error => ([], .ready (.error error))
  | .ok mappedAddr =>
      match sender.networkPath transmit mappedAddr with
      | .error calls => (calls, .ready (.ok ()))
      | .ok path => ((sender.sender.pollSend answers path).1, .ready (.ok ()))

end Sender

/-! ## The most specific socket -/

namespace Ip

variable {configs : List (Attempt Error)} {transports : IpTransports} {dst : SocketAddr}

theorem sender_eq (senders : IpTransports) (src : Option IpAddr) (dst : SocketAddr) :
    senders.sender src dst =
      chooseSender (senders.ofFamily (.ofAddr dst)) (senders.default (.ofAddr dst)) src dst := by
  cases dst <;> rfl

private theorem chooseSender_eq_none {senders : List IpTransport} {default : Option IpTransport}
    {src : Option IpAddr} :
    chooseSender senders default src dst = none ↔
      (∀ sender ∈ senders, sender.config.isValidSendAddr src dst = false) ∧
        (default.filter fun sender => sender.config.isValidDefaultAddr src dst) = none := by
  rw [chooseSender]
  split
  next sender search =>
    have valid := List.find?_some search
    refine iff_of_false (by simp) fun both => ?_
    rw [both.1 sender (List.mem_of_find?_eq_some search)] at valid
    cases valid
  next search =>
    have refused : ∀ sender ∈ senders, sender.config.isValidSendAddr src dst = false :=
      fun sender member => Bool.eq_false_iff.mpr (List.find?_eq_none.mp search sender member)
    exact (and_iff_right refused).symm

private theorem Config.isValidSendAddr_eq (notLinkLocal : ¬ LinkLocal dst) (config : Config) :
    config.isValidSendAddr none dst = config.contains dst := by
  cases dst with
  | v4 ip port => cases config <;> rfl
  | v6 ip port flowinfo scopeId =>
      cases config with
      | v4 ipNet port isRequired isDefault => rfl
      | v6 ipNet scopeId port isRequired isDefault =>
          have other : isUnicastLinkLocal ip = false := Bool.eq_false_iff.mpr notLinkLocal
          simp [isValidSendAddr, contains, other]

theorem mem_boundFrom_family {Failure : Type} {attempts : List (Attempt Failure)}
    {family : Family} {place : Nat} {transport : IpTransport}
    (member : transport ∈ boundFrom family place attempts) :
    transport.config.family = family := by
  induction attempts generalizing place with
  | nil => cases member
  | cons attempt attempts inductionHypothesis =>
      rw [boundFrom] at member
      split at member
      next isBound =>
        rcases List.mem_cons.mp member with rfl | later
        · exact isBound.2
        · exact inductionHypothesis later
      next => exact inductionHypothesis member

private theorem Config.isValidDefaultAddr_eq {config : Config}
    (family : config.family = .ofAddr dst) :
    config.isValidDefaultAddr none dst = config.isDefault := by
  cases dst <;> cases config <;> first | rfl | cases family

theorem default_valid (accepted : IpTransports.bind configs = .ok transports) (dst : SocketAddr) :
    ((transports.default (.ofAddr dst)).filter fun sender =>
      sender.config.isValidDefaultAddr none dst) = transports.default (.ofAddr dst) := by
  have all := IpTransports.default_eq accepted (.ofAddr dst)
  cases known : transports.default (.ofAddr dst) with
  | none => rfl
  | some default =>
      have member : default ∈ defaults (bound (.ofAddr dst) configs) := by simp [all, known]
      obtain ⟨isBound, isDefault⟩ := List.mem_filter.mp member
      rw [Option.filter_some, if_pos]
      rw [Config.isValidDefaultAddr_eq (mem_boundFrom_family isBound)]
      exact isDefault

end Ip

namespace TransportsSender

variable {Failure : Type} {configs : List (Ip.Attempt Failure)} {transports : Ip.IpTransports}
  {dst : SocketAddr}

private theorem pollSend_of_sender {senders : TransportsSender} {sender : Ip.IpTransport}
    (chosen : senders.ip.sender none dst = some sender) (answers : SenderAnswers ed Error) :
    senders.pollSend answers (.ip dst none) =
      ([sender.pollSend dst none], answers (sender.pollSend dst none)) := by
  rw [pollSend, chosen]

private theorem pollSend_of_no_sender {senders : TransportsSender}
    (chosen : senders.ip.sender none dst = none) (answers : SenderAnswers ed Error) :
    senders.pollSend answers (.ip dst none) = ([], .ready (.ok ())) := by
  rw [pollSend, chosen]

/-- The datagram is handed to one socket: the first one with the longest prefix of those whose
network contains the destination, otherwise the default. Without either, it is not sent. -/
def SentMostSpecific (sockets : List Ip.IpTransport) (dst : SocketAddr)
    (answers : SenderAnswers ed Error)
    (result : List (SenderCall ed) × Relay.Poll (Except Error Unit)) : Prop :=
  (∃ socket,
      FirstGreatest (fun socket => socket.config.contains dst)
        (fun socket => socket.config.prefixLen) sockets socket ∧
      result = ([socket.pollSend dst none], answers (socket.pollSend dst none))) ∨
    ((∀ socket ∈ sockets, ¬ socket.config.contains dst = true) ∧
      ((∃ default, Ip.defaults sockets = [default] ∧
          result = ([default.pollSend dst none], answers (default.pollSend dst none))) ∨
        (Ip.defaults sockets = [] ∧ result = ([], .ready (.ok ())))))

/-- Without a source, a datagram for any but a link-local destination leaves through the most
specific of the bound sockets of its family. -/
theorem pollSend_mostSpecific (accepted : Ip.IpTransports.bind configs = .ok transports)
    (relay : Nat) (custom : List (CustomAddr → Bool)) (answers : SenderAnswers ed Error)
    (notLinkLocal : ¬ Ip.LinkLocal dst) :
    SentMostSpecific (Ip.bound (.ofAddr dst) configs) dst answers
      ((⟨transports, relay, custom⟩ : TransportsSender).pollSend answers (.ip dst none)) := by
  obtain ⟨sorted, -, -⟩ := Ip.IpTransports.bind_spec accepted (.ofAddr dst)
  have chosen := Ip.sender_eq transports none dst
  simp only [Ip.chooseSender, Ip.Config.isValidSendAddr_eq notLinkLocal,
    Ip.default_valid accepted, sorted] at chosen
  cases search : (Ip.sortByPrefixLen (Ip.bound (.ofAddr dst) configs)).find?
      fun socket => socket.config.contains dst with
  | some socket =>
      rw [search] at chosen
      exact .inl ⟨socket, firstGreatest_of_find? search, pollSend_of_sender chosen answers⟩
  | none =>
      rw [search] at chosen
      refine .inr ⟨find?_sortDescending_eq_none.mp search, ?_⟩
      have fallback : transports.sender none dst = transports.default (.ofAddr dst) := chosen
      have all := Ip.IpTransports.default_eq accepted (.ofAddr dst)
      cases known : transports.default (.ofAddr dst) with
      | some default =>
          rw [known] at all fallback
          exact .inl ⟨default, all, pollSend_of_sender fallback answers⟩
      | none =>
          rw [known] at all fallback
          exact .inr ⟨all, pollSend_of_no_sender fallback answers⟩

/-- Two networks, of which one is in the other, and a socket that cannot be bound. -/
def twoNets : List (Ip.Attempt Unit) :=
  [⟨.v4 (.new 0x0a000001#32 8 (by decide)) 0 true false, none⟩,
    ⟨.v4 (.new 0x0a010001#32 24 (by decide)) 0 false true, some ()⟩,
    ⟨.v4 (.new 0x0a010001#32 16 (by decide)) 0 true false, none⟩]

/-- With an address in both networks. -/
theorem pollSend_mostSpecific_twoNets :
    ∃ transports, Ip.IpTransports.bind twoNets = .ok transports ∧
      SentMostSpecific (Ip.bound .v4 twoNets) (.v4 0x0a010002#32 80) (fun _ => .pending)
        ((⟨transports, 0, []⟩ : TransportsSender).pollSend
          (fun _ : SenderCall Relay.Protos.Crates.reference.ed25519 =>
            (.pending : Relay.Poll (Except Unit Unit)))
          (.ip (.v4 0x0a010002#32 80) none)) :=
  ⟨_, rfl, pollSend_mostSpecific rfl 0 [] _ id⟩

end TransportsSender

namespace Ip

/-- The scope of a socket or an address, which only IPv6 has. -/
def Config.scope : Config → Option UInt32
  | .v4 .. => none
  | .v6 _ scopeId _ _ _ => some scopeId

def addrScope : SocketAddr → Option UInt32
  | .v4 .. => none
  | .v6 _ _ _ scopeId => some scopeId

/-- No network of the sockets contains the destination, and one of them has its scope. -/
def ScopeDecides (sockets : List IpTransport) (dst : SocketAddr) : Prop :=
  (∀ socket ∈ sockets, socket.config.contains dst = false) ∧
    ∃ socket ∈ sockets, socket.config.scope = addrScope dst

/-- A datagram for a destination with a scope keeps its interface: the address that a UDP sender
gets has the scope, and if it is the scope that decides, a sender with the scope is chosen. -/
def KeepsInterface (sockets : List IpTransport) (dst : SocketAddr)
    (calls : List (SenderCall ed)) : Prop :=
  (∀ sender destination src, SenderCall.ip sender destination src ∈ calls →
      addrScope destination = addrScope dst) ∧
    (ScopeDecides sockets dst → ∃ sender destination src,
      SenderCall.ip sender destination src ∈ calls ∧ sender.config.scope = addrScope dst)

private theorem toNat_of_isUnicastLinkLocal {ip : BitVec 128}
    (linkLocal : isUnicastLinkLocal ip = true) :
    ip.toNat / 2 ^ 120 = 0xfe := by
  have bits : (ip >>> 112) &&& 0xffc0#128 = 0xfe80#128 := of_decide_eq_true linkLocal
  have shifted := congrArg (fun bits : BitVec 128 => (bits >>> 8).toNat) bits
  simp only [BitVec.toNat_ushiftRight, BitVec.toNat_and, Nat.shiftRight_and_distrib] at shifted
  rw [← Nat.shiftRight_add, Nat.shiftRight_eq_div_pow] at shifted
  have low := Nat.and_two_pow_sub_one_eq_mod (ip.toNat / 2 ^ 120) 8
  have small : ip.toNat / 2 ^ 120 < 2 ^ 8 := by
    have := ip.isLt
    omega
  rw [Nat.mod_eq_of_lt small] at low
  rw [← low]
  exact shifted

private theorem outside_of_isUnicastLinkLocal {ip : BitVec 128}
    (linkLocal : isUnicastLinkLocal ip = true) (kind : MappedKind) : ¬ kind.Owns ip := by
  intro owned
  have first : (ipv6Octets ip)[0]? = some (UInt8.ofNat (ip.toNat / 256 ^ 15)) := rfl
  have same : (256 : Nat) ^ 15 = 2 ^ 120 := by decide
  rw [same, toNat_of_isUnicastLinkLocal linkLocal] at first
  exact absurd (first.symm.trans owned.1) (by decide)

private theorem canonicalAddr_linkLocal {ip : BitVec 128} (linkLocal : isUnicastLinkLocal ip = true)
    (port : UInt16) (flowinfo scopeId : UInt32) :
    canonicalAddr (.v6 ip port flowinfo scopeId) = .v6 ip port 0 0 := by
  have notMapped : ¬ ip >>> 32 = 0xffff#128 := by
    intro mapped
    have shifted := congrArg BitVec.toNat mapped
    rw [BitVec.toNat_ushiftRight, Nat.shiftRight_eq_div_pow] at shifted
    have high := toNat_of_isUnicastLinkLocal linkLocal
    have small : (0xffff#128).toNat = 0xffff := by decide
    omega
  simp [canonicalAddr, SocketAddr.ip, SocketAddr.port, IpAddr.toCanonical, notMapped,
    SocketAddr.new]

/-- A sender for the address without its scope: the network contains the address, or the socket
has no scope, or it is the default. -/
theorem sender_eq_none_iff {Failure : Type} {configs : List (Attempt Failure)}
    {transports : IpTransports} (accepted : IpTransports.bind configs = .ok transports)
    {ip : BitVec 128} (linkLocal : isUnicastLinkLocal ip = true) (port : UInt16)
    (flowinfo scopeId : UInt32) :
    transports.sender none (.v6 ip port 0 0) = none ↔
      ∀ socket ∈ transports.v6, socket.config.contains (.v6 ip port flowinfo scopeId) = false ∧
        socket.config.scope ≠ some 0 ∧ socket.config.isDefault = false := by
  obtain ⟨sorted, -, found⟩ := IpTransports.bind_spec accepted .v6
  have sixes : ∀ socket ∈ transports.v6, socket.config.family = .v6 := by
    intro socket member
    have member : socket ∈ transports.ofFamily .v6 := member
    rw [sorted] at member
    exact mem_boundFrom_family (mem_sortDescending.mp member)
  have valid : ∀ socket ∈ transports.v6,
      socket.config.isValidSendAddr none (.v6 ip port 0 0) = false ↔
        socket.config.contains (.v6 ip port flowinfo scopeId) = false ∧
          socket.config.scope ≠ some 0 := by
    intro socket member
    have six := sixes socket member
    cases config : socket.config with
    | v4 ipNet port isRequired isDefault =>
        rw [config] at six
        cases six
    | v6 ipNet scopeId port isRequired isDefault =>
        by_cases inside : ipNet.contains ip = true <;>
          simp [Config.isValidSendAddr, Config.contains, Config.scope, inside, linkLocal]
  have noDefault : transports.default .v6 = none ↔
      ∀ socket ∈ transports.v6, socket.config.isDefault = false := by
    rw [found, List.find?_eq_none]
    exact forall₂_congr fun _ _ => Bool.eq_false_iff.symm
  have default : ((transports.default .v6).filter fun sender =>
      sender.config.isValidDefaultAddr none (.v6 ip port 0 0)) = transports.default .v6 :=
    default_valid accepted (.v6 ip port 0 0)
  rw [sender_eq, chooseSender_eq_none]
  simp only [Family.ofAddr, default]
  rw [noDefault]
  constructor
  · intro both socket member
    obtain ⟨outside, scope⟩ := (valid socket member).mp (both.1 socket member)
    exact ⟨outside, scope, both.2 socket member⟩
  · intro all
    exact ⟨fun socket member => (valid socket member).mpr
        ⟨(all socket member).1, (all socket member).2.1⟩,
      fun socket member => (all socket member).2.2⟩

end Ip

namespace Sender

/-- A link-local destination, with any scope, goes to the sender for the address without it. -/
theorem pollSend_linkLocal {sender : Sender ed} (isOpen : sender.isClosed = false)
    (answers : SenderAnswers ed Error) {ip : BitVec 128}
    (linkLocal : Ip.isUnicastLinkLocal ip = true) (port : UInt16) (flowinfo scopeId : UInt32) :
    (sender.pollSend answers ⟨.v6 ip port flowinfo scopeId, none⟩).1 =
      ((sender.sender.ip.sender none (.v6 ip port 0 0)).map fun socket =>
        .ip socket (.v6 ip port 0 0) none).toList := by
  have unmapped : MultipathMappedAddr.fromSocketAddr (.v6 ip port flowinfo scopeId) =
      .ip (.v6 ip port flowinfo scopeId) :=
    MultipathMappedAddr.fromSocketAddr_of_not_owns (Ip.outside_of_isUnicastLinkLocal linkLocal)
  simp only [pollSend, mappedAddr, isOpen, Bool.false_eq_true, if_false, unmapped, networkPath,
    Ip.canonicalAddr_linkLocal linkLocal, TransportsSender.pollSend]
  cases sender.sender.ip.sender none (.v6 ip port 0 0) with
  | none => rfl
  | some socket =>
      simp only [Ip.IpTransport.pollSend, Ip.canonicalAddr_linkLocal linkLocal]
      rfl

variable {Failure : Type} {configs : List (Ip.Attempt Failure)} {transports : Ip.IpTransports}

private theorem keepsInterface_nil {sockets : List Ip.IpTransport} {dst : SocketAddr} :
    Ip.KeepsInterface sockets dst ([] : List (SenderCall ed)) ↔ ¬ Ip.ScopeDecides sockets dst := by
  constructor
  · rintro ⟨-, promised⟩ decides
    obtain ⟨_, _, _, sent, -⟩ := promised decides
    cases sent
  · intro free
    exact ⟨fun _ _ _ sent => absurd sent List.not_mem_nil, fun decides => absurd decides free⟩

/-- The interface of a link-local destination with a scope is kept only where no UDP sender is
chosen and the scope is of no account, since the scope is gone before a sender is looked for: the
socket is closed and it is not the scope that decides, or no sender will do and none has the
scope. -/
theorem keepsInterface_iff (accepted : Ip.IpTransports.bind configs = .ok transports)
    {sender : Sender ed} (sockets : sender.sender.ip = transports)
    (answers : SenderAnswers ed Error) {ip : BitVec 128}
    (linkLocal : Ip.isUnicastLinkLocal ip = true) (port : UInt16) (flowinfo : UInt32)
    {scopeId : UInt32} (hasScope : scopeId ≠ 0) :
    Ip.KeepsInterface transports.v6 (.v6 ip port flowinfo scopeId)
        (sender.pollSend answers ⟨.v6 ip port flowinfo scopeId, none⟩).1 ↔
      (sender.isClosed = true ∧ ¬ Ip.ScopeDecides transports.v6 (.v6 ip port flowinfo scopeId)) ∨
        ∀ socket ∈ transports.v6, socket.config.contains (.v6 ip port flowinfo scopeId) = false ∧
          socket.config.scope ≠ some 0 ∧ socket.config.scope ≠ some scopeId ∧
          socket.config.isDefault = false := by
  have unsent := Ip.sender_eq_none_iff accepted linkLocal port flowinfo scopeId
  cases closed : sender.isClosed with
  | true =>
      simp only [pollSend, mappedAddr, closed, if_true, keepsInterface_nil, true_and, iff_self_or]
      intro all decides
      obtain ⟨socket, member, same⟩ := decides.2
      exact (all socket member).2.2.1 same
  | false =>
      rw [pollSend_linkLocal closed answers linkLocal, sockets]
      simp only [Bool.false_eq_true, false_and, false_or]
      cases chosen : transports.sender none (.v6 ip port 0 0) with
      | none =>
          have all := unsent.mp chosen
          refine keepsInterface_nil.trans ⟨fun free socket member => ?_, fun none decides => ?_⟩
          · obtain ⟨outside, unscoped, notDefault⟩ := all socket member
            refine ⟨outside, unscoped, fun same => ?_, notDefault⟩
            exact free ⟨fun other inside => (all other inside).1, socket, member, same⟩
          · obtain ⟨socket, member, same⟩ := decides.2
            exact (none socket member).2.2.1 same
      | some socket =>
          refine iff_of_false (fun keeps => ?_) fun all => ?_
          · have same := keeps.1 socket (.v6 ip port 0 0) none (List.mem_singleton.mpr rfl)
            exact hasScope (Option.some.inj same).symm
          · have unchosen := unsent.mpr fun other member =>
              ⟨(all other member).1, (all other member).2.1, (all other member).2.2.2⟩
            rw [chosen] at unchosen
            cases unchosen

/-- A socket for the interface with scope 3, and the default without a scope. Neither network has
link-local addresses. -/
def scopedSocket : Ip.Config := .v6 (.new 1#128 128 (by decide)) 3 0 true false

def unscopedSocket : Ip.Config := .v6 (.new 2#128 128 (by decide)) 0 0 true true

def linkLocalIp : BitVec 128 := 0xfe800000000000000000000000000001#128

/-- An open sender with these sockets, each known by its place. -/
def withSockets (configs : List Ip.Config) (default : Option Nat) :
    Sender Relay.Protos.Crates.reference.ed25519 where
  isClosed := false
  mappedAddrs := fun _ => .default
  sender := ⟨⟨[], none, configs.mapIdx fun place config => ⟨config, place⟩, default⟩, 0, []⟩

/-- Without a socket for the interface, nothing is sent. -/
theorem keepsInterface_otherSocket :
    Ip.KeepsInterface [⟨scopedSocket, 0⟩] (.v6 linkLocalIp 80 0 4)
      ((withSockets [scopedSocket] none).pollSend
        (fun _ => (.pending : Relay.Poll (Except Unit Unit)))
        ⟨.v6 linkLocalIp 80 0 4, none⟩).1 := by
  have accepted : Ip.IpTransports.bind [(⟨scopedSocket, none⟩ : Ip.Attempt Unit)] =
      .ok ⟨[], none, [⟨scopedSocket, 0⟩], none⟩ := rfl
  exact (keepsInterface_iff accepted rfl _ (by decide) 80 0 (by decide)).mpr (.inr (by decide))

/-- With the default, `fe80::1` with scope 3 goes to the socket without a scope, and loses its
own. -/
theorem linkLocal_loses_interface :
    Ip.IpTransports.bind [(⟨scopedSocket, none⟩ : Ip.Attempt Unit), ⟨unscopedSocket, none⟩] =
        .ok (withSockets [scopedSocket, unscopedSocket] (some 1)).sender.ip ∧
      ((withSockets [scopedSocket, unscopedSocket] (some 1)).pollSend
          (fun _ => (.pending : Relay.Poll (Except Unit Unit)))
          ⟨.v6 linkLocalIp 80 0 3, none⟩).1 =
        [.ip ⟨unscopedSocket, 1⟩ (.v6 linkLocalIp 80 0 0) none] ∧
      ¬ Ip.KeepsInterface [⟨scopedSocket, 0⟩, ⟨unscopedSocket, 1⟩] (.v6 linkLocalIp 80 0 3)
        [(.ip ⟨unscopedSocket, 1⟩ (.v6 linkLocalIp 80 0 0) none :
          SenderCall Relay.Protos.Crates.reference.ed25519)] := by
  refine ⟨rfl, rfl, ?_⟩
  intro keeps
  have same := keeps.1 _ _ _ (List.mem_singleton.mpr rfl)
  exact absurd same (by decide)

end Sender

end NexalinkTunnel.Socket
