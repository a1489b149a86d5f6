import NexalinkTunnel.Relay.KeyCache
import NexalinkTunnel.Relay.Protos.Common

/-!
Contract: the send/recv relaying protocol, as `protos/relay.rs` writes it.

Owns both message types, `typ`, `write_to`, `encoded_len` and `from_bytes` of
each, the nested `Datagrams` and `Status` codecs, and the splitting of batches.
Every slice and every fixed-size read is a call that can panic.

Does not own: the size and emptiness checks of the two sinks, and any law
relating encoder and decoder. The cache update inside `from_bytes` is not part
of its result.
-/

namespace NexalinkTunnel.Relay.Protos

open Lib
open Base

/-- The maximum size of a packet sent over relay. -/
def maxPacketSize : Nat := 64 * 1024

/-- The relay protocol version negotiated between client and server. -/
inductive ProtocolVersion where
  | v1
  | v2
deriving DecidableEq, Repr

/-- The derived `Ord`, by position in the enumeration. -/
def ProtocolVersion.rank : ProtocolVersion → Nat
  | .v1 => 0
  | .v2 => 1

inductive Error where
  | frameTooLarge (frameLen : Nat)
  | frameTypeError (source : FrameTypeError)
  | invalidPublicKey (source : KeyParsingError)
  | invalidFrame
  | invalidFrameType (frameType : FrameType)
  | invalidProtocolMessageEncoding
  | frameNotAllowedInVersion
deriving DecidableEq, Repr

structure Duration where
  nanos : Nat
deriving DecidableEq, Repr

namespace Duration

def fromMillis (millis : Nat) : Duration := ⟨millis * 1000000⟩

def asMillis (duration : Duration) : Nat := duration.nanos / 1000000

/-- Whole milliseconds that fit the wire format's `u32`. -/
def WholeMillisU32 (duration : Duration) : Prop :=
  duration.nanos % 1000000 = 0 ∧ duration.asMillis < 2 ^ 32
deriving Decidable

end Duration

structure NonZeroU16 where
  value : UInt16
  ne_zero : value ≠ 0
deriving DecidableEq, Repr

def NonZeroU16.new (value : UInt16) : Option NonZeroU16 :=
  if nonZero : value ≠ 0 then some ⟨value, nonZero⟩ else none

/-- One or multiple datagrams being transferred via the relay. -/
structure Datagrams where
  ecn : Option EcnCodepoint
  segmentSize : Option NonZeroU16
  contents : Bytes
deriving DecidableEq, Repr

/-- One-way message from server to client indicating issues with the relay
connection. -/
inductive Status where
  | healthy
  | sameEndpointIdConnected
  | unknown (discriminant : UInt8)
deriving DecidableEq, Repr

inductive RelayToClientMsg (crates : Crates) where
  | datagrams (remoteEndpointId : EndpointId crates.ed25519) (datagrams : Datagrams)
  | endpointGone (endpointId : EndpointId crates.ed25519)
  | status (status : Status)
  | restarting (reconnectIn tryFor : Duration)
  | ping (data : List.Vector UInt8 8)
  | pong (data : List.Vector UInt8 8)
  | health (problem : String)
deriving DecidableEq

inductive ClientToRelayMsg (crates : Crates) where
  | ping (data : List.Vector UInt8 8)
  | pong (data : List.Vector UInt8 8)
  | datagrams (dstEndpointId : EndpointId crates.ed25519) (datagrams : Datagrams)
deriving DecidableEq

namespace Status

def display : Status → String
  | .healthy => "The connection is healthy and has recovered from previous problems"
  | .sameEndpointIdConnected =>
      "Another endpoint connected with the same endpoint id. No more messages will be received."
  | .unknown discriminant => "Unsupported health message (" ++ toString discriminant ++ ")"

def writeTo (status : Status) (dst : Bytes) : Bytes :=
  match status with
  | .healthy => dst ++ [0]
  | .sameEndpointIdConnected => dst ++ [1]
  | .unknown discriminant => dst ++ [discriminant]

def encodedLen (_ : Status) : Nat := 1

def fromBytes (bytes : Bytes) : Outcome Error Status := do
  Outcome.ensure (bytes ≠ []) Error.invalidFrame
  let (discriminant, _) ← Bytes.getU8 bytes
  match discriminant with
  | 0 => pure .healthy
  | 1 => pure .sameEndpointIdConnected
  | other => pure (.unknown other)

end Status

namespace Datagrams

/-- Splits off at most `numSegments` segments, and has what is left of `self` as its
second result. A batch with a single datagram has no segment size. -/
def takeSegments (datagrams : Datagrams) (numSegments : Nat) : Datagrams × Datagrams :=
  match datagrams.segmentSize with
  | none => (⟨datagrams.ecn, none, datagrams.contents⟩, { datagrams with contents := [] })
  | some segmentSize =>
      let usizeSegmentSize := segmentSize.value.toNat
      let maxContentLen := numSegments * usizeSegmentSize
      let split := min maxContentLen datagrams.contents.length
      let contents := datagrams.contents.take split
      let left := datagrams.contents.drop split
      let isDatagramBatch := 1 < numSegments ∧ usizeSegmentSize < contents.length
      (⟨datagrams.ecn, if isDatagramBatch then some segmentSize else none, contents⟩,
        ⟨datagrams.ecn, if left.length ≤ usizeSegmentSize then none else some segmentSize, left⟩)

def writeTo (crates : Crates) (datagrams : Datagrams) (dst : Bytes) : Bytes :=
  let dst := dst ++ [datagrams.ecn.elim 0 crates.ecn.toBits]
  let dst := match datagrams.segmentSize with
    | some segmentSize => dst ++ Bytes.putU16 segmentSize.value
    | none => dst
  dst ++ datagrams.contents

def encodedLen (datagrams : Datagrams) : Nat :=
  1 + datagrams.segmentSize.elim 0 (fun _ => 2) + datagrams.contents.length

def fromBytes (crates : Crates) (bytes : Bytes) (isBatch : Bool) : Outcome Error Datagrams := do
  if isBatch then
    Outcome.ensure (3 ≤ bytes.length) Error.invalidFrame
  else
    Outcome.ensure (1 ≤ bytes.length) Error.invalidFrame
  let (ecnByte, bytes) ← Bytes.getU8 bytes
  let ecn := crates.ecn.fromBits ecnByte
  if isBatch then
    let (segmentSize, bytes) ← Bytes.getU16 bytes
    pure ⟨ecn, NonZeroU16.new segmentSize, bytes⟩
  else
    pure ⟨ecn, none, bytes⟩

/-- What both datagram branches of the two `from_bytes` share: 32 bytes of
endpoint id, then the datagrams. -/
def fromFrame {crates : Crates} (content : Bytes) (cache : KeyCache crates)
    (isBatch : Bool) : Outcome Error (EndpointId crates.ed25519 × Datagrams) := do
  let slice ← Bytes.sliceTo content publicKeyLength
  let endpointId ← Outcome.ofExcept Error.invalidPublicKey (cache.keyFromSlice slice).1
  let rest ← Bytes.sliceFrom content publicKeyLength
  let payload ← fromBytes crates rest isBatch
  pure (endpointId, payload)

end Datagrams

/-- What the ping and pong branches of the two `from_bytes` share. -/
def pingData (content : Bytes) : Outcome Error (List.Vector UInt8 8) := do
  Outcome.ensure (content.length = 8) Error.invalidFrame
  let slice ← Bytes.sliceTo content 8
  Bytes.copyFromSlice 8 slice

namespace RelayToClientMsg

variable {crates : Crates}

def typ : RelayToClientMsg crates → FrameType
  | .datagrams _ payload =>
      if payload.segmentSize.isSome then .relayToClientDatagramBatch
      else .relayToClientDatagram
  | .endpointGone _ => .endpointGone
  | .ping _ => .ping
  | .pong _ => .pong
  | .status _ => .status
  | .restarting _ _ => .restarting
  | .health _ => .health

def writeTo (msg : RelayToClientMsg crates) (dst : Bytes) : Bytes :=
  let dst := msg.typ.writeTo crates dst
  match msg with
  | .datagrams remoteEndpointId payload =>
      payload.writeTo crates (dst ++ remoteEndpointId.asBytes)
  | .endpointGone endpointId => dst ++ endpointId.asBytes
  | .ping data => dst ++ data.toList
  | .pong data => dst ++ data.toList
  | .health problem => dst ++ Bytes.ofString problem
  | .restarting reconnectIn tryFor =>
      dst ++ Bytes.putBe 4 (reconnectIn.asMillis % 2 ^ 32) ++
        Bytes.putBe 4 (tryFor.asMillis % 2 ^ 32)
  | .status state => state.writeTo dst

def toBytes (msg : RelayToClientMsg crates) : Bytes := msg.writeTo []

def encodedLen (msg : RelayToClientMsg crates) : Nat :=
  let payloadLen := match msg with
    | .datagrams _ payload => 32 + payload.encodedLen
    | .endpointGone _ => 32
    | .ping _ => 8
    | .pong _ => 8
    | .status state => state.encodedLen
    | .restarting _ _ => 4 + 4
    | .health problem => problem.utf8ByteSize
  msg.typ.encodedLen + payloadLen

/-- One big-endian `u32` of milliseconds out of a slice of the frame. -/
def millisFromSlice (slice : Bytes) : Outcome Error Duration :=
  match Bytes.tryIntoArray 4 slice with
  | some word => .ok (Duration.fromMillis (Bytes.beNat word.toList))
  | none => .err Error.invalidFrame

/-- The `match frame_type` of `from_bytes`, on the bytes after the frame type. -/
def fromBody (frameType : FrameType) (content : Bytes) (cache : KeyCache crates)
    (protocolVersion : ProtocolVersion) : Outcome Error (RelayToClientMsg crates) := do
  match frameType with
  | .relayToClientDatagram | .relayToClientDatagramBatch =>
      Outcome.ensure (publicKeyLength ≤ content.length) Error.invalidFrame
      let (remoteEndpointId, payload) ←
        Datagrams.fromFrame content cache (frameType = .relayToClientDatagramBatch)
      pure (.datagrams remoteEndpointId payload)
  | .endpointGone =>
      Outcome.ensure (content.length = publicKeyLength) Error.invalidFrame
      let endpointId ← Outcome.ofExcept Error.invalidPublicKey (cache.keyFromSlice content).1
      pure (.endpointGone endpointId)
  | .ping =>
      let data ← pingData content
      pure (.ping data)
  | .pong =>
      let data ← pingData content
      pure (.pong data)
  | .health =>
      Outcome.ensure (protocolVersion = .v1) Error.frameNotAllowedInVersion
      match Bytes.toString? content with
      | some problem => pure (.health problem)
      | none => .err Error.invalidProtocolMessageEncoding
  | .restarting =>
      Outcome.ensure (content.length = 4 + 4) Error.invalidFrame
      let first ← Bytes.sliceTo content 4
      let reconnectIn ← millisFromSlice first
      let second ← Bytes.sliceFrom content 4
      let tryFor ← millisFromSlice second
      pure (.restarting reconnectIn tryFor)
  | .status =>
      Outcome.ensure (ProtocolVersion.v2.rank ≤ protocolVersion.rank)
        Error.frameNotAllowedInVersion
      let state ← Status.fromBytes content
      pure (.status state)
  | other => .err (Error.invalidFrameType other)

/-- Tries to decode a frame received over websockets, for the negotiated
protocol version of this connection. -/
def fromBytes (content : Bytes) (cache : KeyCache crates)
    (protocolVersion : ProtocolVersion) : Outcome Error (RelayToClientMsg crates) := do
  let (frameType, content) ←
    Outcome.ofExcept Error.frameTypeError (FrameType.fromBytes crates content)
  let frameLen := content.length
  Outcome.ensure (frameLen ≤ maxPacketSize) (Error.frameTooLarge frameLen)
  fromBody frameType content cache protocolVersion

end RelayToClientMsg

namespace ClientToRelayMsg

variable {crates : Crates}

def typ : ClientToRelayMsg crates → FrameType
  | .datagrams _ payload =>
      if payload.segmentSize.isSome then .clientToRelayDatagramBatch
      else .clientToRelayDatagram
  | .ping _ => .ping
  | .pong _ => .pong

def writeTo (msg : ClientToRelayMsg crates) (dst : Bytes) : Bytes :=
  let dst := msg.typ.writeTo crates dst
  match msg with
  | .datagrams dstEndpointId payload =>
      payload.writeTo crates (dst ++ dstEndpointId.asBytes)
  | .ping data => dst ++ data.toList
  | .pong data => dst ++ data.toList

def toBytes (msg : ClientToRelayMsg crates) : Bytes := msg.writeTo []

def encodedLen (msg : ClientToRelayMsg crates) : Nat :=
  let payloadLen := match msg with
    | .ping _ => 8
    | .pong _ => 8
    | .datagrams _ payload => 32 + payload.encodedLen
  msg.typ.encodedLen + payloadLen

/-- The `match frame_type` of `from_bytes`. Unlike its sibling, the datagram
branch slices off the endpoint id without a length check. -/
def fromBody (frameType : FrameType) (content : Bytes) (cache : KeyCache crates) :
    Outcome Error (ClientToRelayMsg crates) := do
  match frameType with
  | .clientToRelayDatagram | .clientToRelayDatagramBatch =>
      let (dstEndpointId, payload) ←
        Datagrams.fromFrame content cache (frameType = .clientToRelayDatagramBatch)
      pure (.datagrams dstEndpointId payload)
  | .ping =>
      let data ← pingData content
      pure (.ping data)
  | .pong =>
      let data ← pingData content
      pure (.pong data)
  | other => .err (Error.invalidFrameType other)

def fromBytes (content : Bytes) (cache : KeyCache crates) :
    Outcome Error (ClientToRelayMsg crates) := do
  let (frameType, content) ←
    Outcome.ofExcept Error.frameTypeError (FrameType.fromBytes crates content)
  let frameLen := content.length
  Outcome.ensure (frameLen ≤ maxPacketSize) (Error.frameTooLarge frameLen)
  fromBody frameType content cache

end ClientToRelayMsg

end NexalinkTunnel.Relay.Protos
