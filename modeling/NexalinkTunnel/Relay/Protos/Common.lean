import NexalinkTunnel.Base.Key
import NexalinkTunnel.Lib.BoundedCache
import NexalinkTunnel.Lib.VarInt

/-!
Contract: what the handshake and the relay protocol share on the wire.

Owns the frame types with their numbers, their encoding as a QUIC varint, and
the third-party code both protocols are written against, as one parameter.

Does not own: any frame body. Every accepted spelling of a frame type is
covered, including varints longer than needed.
-/

namespace NexalinkTunnel.Relay.Protos

open Lib
open Base

/-- Explicit congestion notification bits, `noq_proto::EcnCodepoint`. -/
inductive EcnCodepoint where
  | ect0
  | ect1
  | ce
deriving DecidableEq, Repr

/-- `EcnCodepoint::from_bits` and the cast to `u8`. `from_bits` inverts the
cast, and no codepoint stands for zero bits. -/
structure EcnCodec where
  toBits : EcnCodepoint → UInt8
  fromBits : UInt8 → Option EcnCodepoint
  fromBits_toBits : ∀ codepoint, fromBits (toBits codepoint) = some codepoint
  fromBits_zero : fromBits 0 = none

/-- The crates the relay protocol calls, with what it relies on. -/
structure Crates where
  varInt : VarInt.Codec
  ecn : EcnCodec
  ed25519 : Ed25519
  lru : LruCrate

namespace Crates

/-- Two ECN bits in the low end of a byte; the other six are ignored. -/
def lowBitsEcn : EcnCodec where
  toBits
    | .ect1 => 1
    | .ect0 => 2
    | .ce => 3
  fromBits bits :=
    match bits.toNat % 4 with
    | 1 => some .ect1
    | 2 => some .ect0
    | 3 => some .ce
    | _ => none
  fromBits_toBits := by
    intro codepoint
    cases codepoint <;> rfl
  fromBits_zero := rfl

/-- Keys that spell a number below nine. Of these, exactly the listed
y-coordinates lie on the curve. -/
def smallKeys : Ed25519 where
  accepts key :=
    match key.toList with
    | first :: rest => first ∈ [0, 1, 3, 4, 5, 6] && rest.all (· = 0)
    | [] => false

/-- Crates that answer like the real ones on the concrete inputs used below. -/
def reference : Crates := ⟨VarInt.quic, lowBitsEcn, smallKeys, .unbounded⟩

def smallKey (number : UInt8) (listed : number ∈ [0, 1, 3, 4, 5, 6]) :
    EndpointId reference.ed25519 where
  bytes := ⟨number :: List.replicate 31 0, by simp [publicKeyLength]⟩
  valid := by
    have zeros : (List.replicate 31 (0 : UInt8)).all (· = 0) = true := by decide
    have member : decide (number ∈ [(0 : UInt8), 1, 3, 4, 5, 6]) = true := decide_eq_true listed
    simp only [reference, smallKeys, List.Vector.toList, zeros, Bool.and_true]
    exact member

end Crates

inductive FrameType where
  | serverChallenge
  | clientAuth
  | serverConfirmsAuth
  | serverDeniesAuth
  | clientToRelayDatagram
  | clientToRelayDatagramBatch
  | relayToClientDatagram
  | relayToClientDatagramBatch
  | endpointGone
  | ping
  | pong
  | health
  | restarting
  | status
deriving DecidableEq, Repr

inductive FrameTypeError where
  | unexpectedEnd
  | unknownFrameType (tag : Nat)
deriving DecidableEq, Repr

namespace FrameType

/-- The `#[repr(u32)]` number of a frame type. -/
def toU32 : FrameType → Nat
  | serverChallenge => 0
  | clientAuth => 1
  | serverConfirmsAuth => 2
  | serverDeniesAuth => 3
  | clientToRelayDatagram => 4
  | clientToRelayDatagramBatch => 5
  | relayToClientDatagram => 6
  | relayToClientDatagramBatch => 7
  | endpointGone => 8
  | ping => 9
  | pong => 10
  | health => 11
  | restarting => 12
  | status => 13

def fromRepr : Nat → Option FrameType
  | 0 => some serverChallenge
  | 1 => some clientAuth
  | 2 => some serverConfirmsAuth
  | 3 => some serverDeniesAuth
  | 4 => some clientToRelayDatagram
  | 5 => some clientToRelayDatagramBatch
  | 6 => some relayToClientDatagram
  | 7 => some relayToClientDatagramBatch
  | 8 => some endpointGone
  | 9 => some ping
  | 10 => some pong
  | 11 => some health
  | 12 => some restarting
  | 13 => some status
  | _ => none

@[simp] theorem fromRepr_toU32 (frameType : FrameType) :
    fromRepr frameType.toU32 = some frameType := by
  cases frameType <;> rfl

private theorem toU32_of_fromRepr {number : Nat} {frameType : FrameType}
    (known : fromRepr number = some frameType) : frameType.toU32 = number := by
  unfold fromRepr at known
  split at known <;> simp only [Option.some.injEq, reduceCtorEq] at known <;> subst known <;> rfl

theorem toU32_lt (frameType : FrameType) : frameType.toU32 < 2 ^ 6 := by
  cases frameType <;> decide

/-- Returns the amount of bytes that `writeTo` would write. The last branch is
`unreachable!` in the source, and is unreachable. -/
def encodedLen (frameType : FrameType) : Nat :=
  if frameType.toU32 < 2 ^ 6 then 1
  else if frameType.toU32 < 2 ^ 14 then 2
  else if small : frameType.toU32 < 2 ^ 30 then 4
  else absurd (frameType.toU32_lt.trans (by decide)) small

/-- Writes the frame type to the buffer, as a QUIC-encoded varint. -/
def writeTo (crates : Crates) (frameType : FrameType) (dst : Bytes) : Bytes :=
  dst ++ crates.varInt.encode frameType.toU32

/-- Parses the frame type from the first couple of bytes given and returns the
frame type and the rest. -/
def fromBytes (crates : Crates) (buf : Bytes) : Except FrameTypeError (FrameType × Bytes) :=
  match crates.varInt.decode buf with
  | none => .error .unexpectedEnd
  | some (tag, rest) =>
      if tag < 2 ^ 32 then
        match fromRepr tag with
        | some frameType => .ok (frameType, rest)
        | none => .error (.unknownFrameType tag)
      else .error (.unknownFrameType tag)

@[simp] theorem encodedLen_eq_one (frameType : FrameType) : frameType.encodedLen = 1 := by
  simp only [encodedLen, frameType.toU32_lt, ↓reduceIte]

private theorem toU32_lt_bound (frameType : FrameType) : frameType.toU32 < VarInt.bound :=
  frameType.toU32_lt.trans (by decide)

theorem encode_length (crates : Crates) (frameType : FrameType) :
    (crates.varInt.encode frameType.toU32).length = 1 := by
  rw [crates.varInt.encode_length _ frameType.toU32_lt_bound]
  simp only [VarInt.size, frameType.toU32_lt, ↓reduceIte]

/-- A written frame type is read back, with the rest of the buffer untouched. -/
@[simp] theorem fromBytes_encode (crates : Crates) (frameType : FrameType) (rest : Bytes) :
    fromBytes crates (crates.varInt.encode frameType.toU32 ++ rest) = .ok (frameType, rest) := by
  have small : frameType.toU32 < 2 ^ 32 := frameType.toU32_lt.trans (by decide)
  simp only [fromBytes, crates.varInt.decode_encode _ rest frameType.toU32_lt_bound, small,
    ↓reduceIte, fromRepr_toU32]

private theorem decode_of_fromBytes {crates : Crates} {buf rest : Bytes} {frameType : FrameType}
    (parsed : fromBytes crates buf = .ok (frameType, rest)) :
    crates.varInt.decode buf = some (frameType.toU32, rest) := by
  unfold fromBytes at parsed
  split at parsed
  next missing => simp at parsed
  next tag tail decoded =>
    split_ifs at parsed
    split at parsed
    next known recognised =>
      simp only [Except.ok.injEq, Prod.mk.injEq] at parsed
      obtain ⟨rfl, rfl⟩ := parsed
      rw [decoded, toU32_of_fromRepr recognised]
    next unknown => simp at parsed

theorem length_lt_of_fromBytes {crates : Crates} {buf rest : Bytes} {frameType : FrameType}
    (parsed : fromBytes crates buf = .ok (frameType, rest)) : rest.length < buf.length := by
  have shorter := crates.varInt.encode_length_le_of_decode (decode_of_fromBytes parsed)
  rw [encode_length] at shorter
  omega

end FrameType

end NexalinkTunnel.Relay.Protos
