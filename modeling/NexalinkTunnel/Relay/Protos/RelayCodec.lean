import NexalinkTunnel.Relay.Protos.Relay

/-!
Contract: what the relay protocol's encoders and decoders say about each other.

Owns the exact length of every encoding, the round trip of every message the
wire format can represent, the inversion of the decoders, and from these the
retraction of decoding onto the encoder's image and the exact set of byte
strings on which decoding returns.
-/

namespace NexalinkTunnel.Relay.Protos

open Lib
open Base

/-- The stages that both `from_bytes` share: the frame type, the length, then what the rest is. -/
theorem FrameType.decode_eq_ok {crates : Crates} {Msg : Type} {content : Bytes}
    (fromBody : FrameType → Bytes → Outcome Error Msg) {msg : Msg} :
    (do
      let (frameType, rest) ←
        Outcome.ofExcept Error.frameTypeError (FrameType.fromBytes crates content)
      Outcome.ensure (rest.length ≤ maxPacketSize) (Error.frameTooLarge rest.length)
      fromBody frameType rest) = .ok msg ↔
      ∃ frameType rest, FrameType.fromBytes crates content = .ok (frameType, rest) ∧
        rest.length ≤ maxPacketSize ∧ fromBody frameType rest = .ok msg := by
  simp only [Outcome.bind_eq_ok, Outcome.ofExcept_eq_ok, Outcome.ensure_eq_ok]
  constructor
  · rintro ⟨⟨frameType, rest⟩, parsed, _, within, decoded⟩
    exact ⟨frameType, rest, parsed, within, decoded⟩
  · rintro ⟨frameType, rest, parsed, within, decoded⟩
    exact ⟨(frameType, rest), parsed, (), within, decoded⟩

namespace NonZeroU16

@[simp] theorem new_value (segmentSize : NonZeroU16) :
    new segmentSize.value = some segmentSize := by
  simp [new, segmentSize.ne_zero]

end NonZeroU16

namespace Datagrams

variable {crates : Crates}

def body (crates : Crates) (datagrams : Datagrams) : Bytes :=
  datagrams.ecn.elim 0 crates.ecn.toBits ::
    (datagrams.segmentSize.elim [] (fun segmentSize => Bytes.putU16 segmentSize.value) ++
      datagrams.contents)

theorem writeTo_eq (datagrams : Datagrams) (dst : Bytes) :
    datagrams.writeTo crates dst = dst ++ datagrams.body crates := by
  unfold writeTo body
  cases datagrams.segmentSize with
  | none => simp
  | some segmentSize => simp

@[simp] theorem body_length (datagrams : Datagrams) :
    (datagrams.body crates).length = datagrams.encodedLen := by
  unfold body encodedLen
  cases datagrams.segmentSize with
  | none =>
      simp only [Option.elim_none, List.nil_append, List.length_cons]
      omega
  | some segmentSize =>
      simp only [Option.elim_some, List.length_cons, List.length_append, Bytes.putU16_length]
      omega

private theorem fromBits_elim (ecn : Option EcnCodepoint) :
    crates.ecn.fromBits (ecn.elim 0 crates.ecn.toBits) = ecn := by
  cases ecn with
  | none => exact crates.ecn.fromBits_zero
  | some codepoint => exact crates.ecn.fromBits_toBits codepoint

private theorem fromBytes_body (crates : Crates) (datagrams : Datagrams) :
    fromBytes crates (datagrams.body crates) datagrams.segmentSize.isSome = .ok datagrams := by
  obtain ⟨ecn, segmentSize, contents⟩ := datagrams
  cases segmentSize with
  | none => simp [fromBytes, body, Bytes.getU8, fromBits_elim]
  | some segmentSize => simp [fromBytes, body, Bytes.getU8, fromBits_elim]

/-- The segment size that a two-byte field stands for; zero stands for none. -/
def segmentSizeOf (field : Bytes) : Option NonZeroU16 :=
  NonZeroU16.new (UInt16.ofNat (Bytes.beNat field))

/-- What a decoded datagrams body looked like. -/
theorem fromBytes_eq_ok {bytes : Bytes} {isBatch : Bool} {datagrams : Datagrams}
    (decoded : fromBytes crates bytes isBatch = .ok datagrams) :
    ∃ ecnByte field, bytes = ecnByte :: (field ++ datagrams.contents) ∧
      field.length = (if isBatch then 2 else 0) ∧
      datagrams.segmentSize = (if isBatch then segmentSizeOf field else none) := by
  cases bytes with
  | nil => cases isBatch <;> simp [fromBytes] at decoded
  | cons ecnByte rest =>
      cases isBatch with
      | false =>
          have shape : Datagrams.mk (crates.ecn.fromBits ecnByte) none rest = datagrams := by
            simpa [fromBytes, Bytes.getU8] using decoded
          subst shape
          exact ⟨ecnByte, [], by simp⟩
      | true =>
          by_cases enough : 2 ≤ rest.length
          · have shape : Datagrams.mk (crates.ecn.fromBits ecnByte)
                (segmentSizeOf (rest.take 2)) (rest.drop 2) = datagrams := by
              simpa [fromBytes, Bytes.getU8, Bytes.getU16_of_le enough, enough,
                segmentSizeOf] using decoded
            subst shape
            exact ⟨ecnByte, rest.take 2, by simp [enough]⟩
          · simp [fromBytes, enough] at decoded

private theorem returns_fromBytes (bytes : Bytes) (isBatch : Bool) :
    (fromBytes crates bytes isBatch).Returns := by
  cases bytes with
  | nil => cases isBatch <;> simp [fromBytes]
  | cons ecnByte rest =>
      cases isBatch with
      | false => simp [fromBytes, Bytes.getU8]
      | true =>
          by_cases enough : 2 ≤ rest.length
          · simp [fromBytes, Bytes.getU8, Bytes.getU16_of_le enough, enough]
          · simp [fromBytes, enough]

private theorem encodedLen_le_of_fromBytes {bytes : Bytes} {isBatch : Bool} {datagrams : Datagrams}
    (decoded : fromBytes crates bytes isBatch = .ok datagrams) :
    datagrams.encodedLen ≤ bytes.length := by
  obtain ⟨ecnByte, field, shape, width, segmentSize⟩ := fromBytes_eq_ok decoded
  rw [shape]
  unfold encodedLen
  cases isBatch with
  | false =>
      simp only [Bool.false_eq_true, ↓reduceIte] at segmentSize
      simp only [segmentSize, Option.elim_none, List.length_cons, List.length_append]
      omega
  | true =>
      simp only [↓reduceIte] at width
      have atMost : datagrams.segmentSize.elim 0 (fun _ => 2) ≤ 2 := by
        cases datagrams.segmentSize <;> simp
      simp only [List.length_cons, List.length_append, width]
      omega

private theorem fromFrame_append (cache : KeyCache crates)
    (endpointId : EndpointId crates.ed25519) {rest : Bytes} {isBatch : Bool}
    {datagrams : Datagrams} (decoded : fromBytes crates rest isBatch = .ok datagrams) :
    fromFrame (endpointId.asBytes ++ rest) cache isBatch = .ok (endpointId, datagrams) := by
  have key : (cache.keyFromSlice endpointId.asBytes).1 = .ok endpointId := by
    rw [KeyCache.keyFromSlice_fst, PublicKey.tryFrom_asBytes]
  simp [fromFrame, Bytes.sliceTo_append, Bytes.sliceFrom_append, key, Outcome.ofExcept, decoded]

theorem fromFrame_eq_ok {content : Bytes} {cache : KeyCache crates} {isBatch : Bool}
    {endpointId : EndpointId crates.ed25519} {datagrams : Datagrams}
    (decoded : fromFrame content cache isBatch = .ok (endpointId, datagrams)) :
    ∃ rest, content = endpointId.asBytes ++ rest ∧
      fromBytes crates rest isBatch = .ok datagrams := by
  simp only [fromFrame, Outcome.bind_eq_ok, Bytes.sliceTo_eq_ok, Outcome.ofExcept_eq_ok,
    Bytes.sliceFrom_eq_ok, KeyCache.keyFromSlice_fst, PublicKey.tryFrom_eq_ok, Outcome.pure_eq,
    Outcome.ok.injEq, Prod.mk.injEq] at decoded
  obtain ⟨slice, ⟨_, taken⟩, key, keyBytes, rest, ⟨_, dropped⟩, payload, inner, rfl, rfl⟩ := decoded
  refine ⟨rest, ?_, inner⟩
  rw [keyBytes, ← taken, ← dropped, List.take_append_drop]

private theorem returns_fromFrame (content : Bytes) (cache : KeyCache crates) (isBatch : Bool) :
    (fromFrame content cache isBatch).Returns ↔ publicKeyLength ≤ content.length := by
  unfold fromFrame
  rw [Outcome.returns_bind, Bytes.returns_sliceTo, and_iff_left_of_imp]
  intro enough slice _
  rw [Outcome.returns_bind]
  refine ⟨Outcome.returns_ofExcept _ _, fun endpointId _ => ?_⟩
  rw [Bytes.sliceFrom_of_le enough, Outcome.ok_bind, Outcome.returns_bind]
  exact ⟨returns_fromBytes _ _, fun payload _ => Outcome.returns_ok _⟩

end Datagrams

@[simp] theorem pingData_toList (data : List.Vector UInt8 8) : pingData data.toList = .ok data := by
  simp [pingData]

theorem pingData_eq_ok {content : Bytes} {data : List.Vector UInt8 8}
    (decoded : pingData content = .ok data) : content = data.toList := by
  by_cases length : content.length = 8
  · have shape : pingData content = .ok ⟨content, length⟩ := pingData_toList ⟨content, length⟩
    rw [← Outcome.ok.inj (shape.symm.trans decoded)]
    rfl
  · simp [pingData, length] at decoded

theorem returns_pingData (content : Bytes) : (pingData content).Returns := by
  by_cases length : content.length = 8
  · rw [show pingData content = .ok ⟨content, length⟩ from pingData_toList ⟨content, length⟩]
    exact Outcome.returns_ok _
  · simp [pingData, length]

namespace Status

/-- The two discriminants that have a name of their own are not `Unknown`. -/
def Canonical (status : Status) : Prop := status ≠ .unknown 0 ∧ status ≠ .unknown 1

private theorem writeTo_eq (status : Status) (dst : Bytes) :
    status.writeTo dst = dst ++ status.writeTo [] := by
  cases status <;> rfl

@[simp] theorem writeTo_length (status : Status) : (status.writeTo []).length = 1 := by
  cases status <;> rfl

private theorem fromBytes_writeTo {status : Status} (canonical : status.Canonical) :
    fromBytes (status.writeTo []) = .ok status := by
  cases status with
  | healthy => rfl
  | sameEndpointIdConnected => rfl
  | unknown discriminant =>
      have notZero : discriminant ≠ 0 := fun zero => canonical.1 (by rw [zero])
      have notOne : discriminant ≠ 1 := fun one => canonical.2 (by rw [one])
      simp only [fromBytes, writeTo, List.nil_append, ne_eq, reduceCtorEq, not_false_eq_true,
        Outcome.ensure_of_pos, Bytes.getU8, Outcome.ok_bind]
      rfl

private theorem fromBytes_eq_ok {bytes : Bytes} {status : Status}
    (decoded : fromBytes bytes = .ok status) : 1 ≤ bytes.length ∧ status.Canonical := by
  cases bytes with
  | nil => simp [fromBytes] at decoded
  | cons discriminant rest =>
      refine ⟨by simp, ?_⟩
      simp only [fromBytes, ne_eq, reduceCtorEq, not_false_eq_true, Outcome.ensure_of_pos,
        Bytes.getU8, Outcome.ok_bind] at decoded
      split at decoded
      next =>
        simp only [Outcome.pure_eq, Outcome.ok.injEq] at decoded
        simp [← decoded, Canonical]
      next =>
        simp only [Outcome.pure_eq, Outcome.ok.injEq] at decoded
        simp [← decoded, Canonical]
      next notZero notOne =>
        simp only [Outcome.pure_eq, Outcome.ok.injEq] at decoded
        simp only [← decoded, Canonical, ne_eq, unknown.injEq]
        exact ⟨fun zero => notZero zero, fun one => notOne one⟩

private theorem returns_fromBytes (bytes : Bytes) : (fromBytes bytes).Returns := by
  cases bytes with
  | nil => simp [fromBytes]
  | cons discriminant rest =>
      simp only [fromBytes, ne_eq, reduceCtorEq, not_false_eq_true, Outcome.ensure_of_pos,
        Bytes.getU8, Outcome.ok_bind]
      split <;> simp

end Status

/-! ## Durations on the wire -/

private theorem Duration.wholeMillisU32_fromMillis {millis : Nat} (small : millis < 2 ^ 32) :
    (Duration.fromMillis millis).WholeMillisU32 := by
  simp only [WholeMillisU32, fromMillis, asMillis]
  omega

private theorem RelayToClientMsg.millisFromSlice_putBe {duration : Duration}
    (whole : duration.WholeMillisU32) :
    millisFromSlice (Bytes.putBe 4 (duration.asMillis % 2 ^ 32)) = .ok duration := by
  obtain ⟨exact, small⟩ := whole
  have word : Bytes.beNat (Bytes.putBe 4 (duration.asMillis % 2 ^ 32)) = duration.asMillis := by
    rw [Nat.mod_eq_of_lt small]
    exact Bytes.beNat_putBe_of_lt (small.trans_le (by decide))
  have back : Duration.fromMillis duration.asMillis = duration := by
    obtain ⟨nanos⟩ := duration
    simp only [Duration.fromMillis, Duration.asMillis, Duration.mk.injEq] at *
    omega
  rw [millisFromSlice, Bytes.tryIntoArray_of_length (Bytes.putBe_length 4 _)]
  simp only [List.Vector.toList, word, back]

private theorem RelayToClientMsg.millisFromSlice_eq_ok {slice : Bytes} {duration : Duration}
    (parsed : millisFromSlice slice = .ok duration) : duration.WholeMillisU32 := by
  unfold millisFromSlice Bytes.tryIntoArray at parsed
  by_cases width : slice.length = 4
  · simp only [width, ↓reduceDIte, Outcome.ok.injEq, List.Vector.toList] at parsed
    have small := Bytes.beNat_lt slice
    rw [width] at small
    rw [← parsed]
    exact Duration.wholeMillisU32_fromMillis (small.trans_le (by decide))
  · simp [width] at parsed

private theorem RelayToClientMsg.returns_millisFromSlice (slice : Bytes) :
    (millisFromSlice slice).Returns := by
  unfold millisFromSlice
  split <;> simp

namespace RelayToClientMsg

variable {crates : Crates}

def body : RelayToClientMsg crates → Bytes
  | .datagrams remoteEndpointId payload => remoteEndpointId.asBytes ++ payload.body crates
  | .endpointGone endpointId => endpointId.asBytes
  | .ping data => data.toList
  | .pong data => data.toList
  | .health problem => Bytes.ofString problem
  | .restarting reconnectIn tryFor =>
      Bytes.putBe 4 (reconnectIn.asMillis % 2 ^ 32) ++ Bytes.putBe 4 (tryFor.asMillis % 2 ^ 32)
  | .status state => state.writeTo []

theorem writeTo_eq (msg : RelayToClientMsg crates) (dst : Bytes) :
    msg.writeTo dst = dst ++ (crates.varInt.encode msg.typ.toU32 ++ msg.body) := by
  cases msg with
  | status state =>
      simp only [writeTo, FrameType.writeTo, body]
      rw [Status.writeTo_eq, List.append_assoc]
  | _ => simp [writeTo, FrameType.writeTo, body, Datagrams.writeTo_eq]

theorem toBytes_eq (msg : RelayToClientMsg crates) :
    msg.toBytes = crates.varInt.encode msg.typ.toU32 ++ msg.body := by
  rw [toBytes, writeTo_eq, List.nil_append]

theorem encodedLen_eq (msg : RelayToClientMsg crates) : msg.encodedLen = 1 + msg.body.length := by
  cases msg <;> simp [encodedLen, body, Status.encodedLen, publicKeyLength]

theorem toBytes_length (msg : RelayToClientMsg crates) : msg.toBytes.length = msg.encodedLen := by
  rw [toBytes_eq, encodedLen_eq, List.length_append, FrameType.encode_length]

/-- Messages that the wire format of `version` can represent. -/
def Representable (version : ProtocolVersion) : RelayToClientMsg crates → Prop
  | .restarting reconnectIn tryFor => reconnectIn.WholeMillisU32 ∧ tryFor.WholeMillisU32
  | .status state => state.Canonical ∧ version = .v2
  | .health _ => version = .v1
  | _ => True

/-- The two stages of `from_bytes` on a frame that starts with a frame type. -/
theorem fromBytes_encode (frameType : FrameType) {content : Bytes}
    (cache : KeyCache crates) (version : ProtocolVersion)
    (within : content.length ≤ maxPacketSize) :
    fromBytes (crates.varInt.encode frameType.toU32 ++ content) cache version =
      fromBody frameType content cache version := by
  simp [fromBytes, Outcome.ofExcept, within]

private theorem fromBytes_eq_ok {content : Bytes} {cache : KeyCache crates}
    {version : ProtocolVersion} {msg : RelayToClientMsg crates} :
    fromBytes content cache version = .ok msg ↔
      ∃ frameType rest, FrameType.fromBytes crates content = .ok (frameType, rest) ∧
        rest.length ≤ maxPacketSize ∧ fromBody frameType rest cache version = .ok msg :=
  FrameType.decode_eq_ok fun frameType rest => fromBody frameType rest cache version

theorem fromBody_body {version : ProtocolVersion} {msg : RelayToClientMsg crates}
    (cache : KeyCache crates) (representable : msg.Representable version) :
    fromBody msg.typ msg.body cache version = .ok msg := by
  cases msg with
  | datagrams remoteEndpointId payload =>
      have inner := Datagrams.fromFrame_append cache remoteEndpointId
        (Datagrams.fromBytes_body crates payload)
      cases segmentSize : payload.segmentSize with
      | none =>
          rw [segmentSize, Option.isSome_none] at inner
          simp [fromBody, typ, body, segmentSize, inner]
      | some size =>
          rw [segmentSize, Option.isSome_some] at inner
          simp [fromBody, typ, body, segmentSize, inner]
  | endpointGone endpointId =>
      simp [fromBody, typ, body, KeyCache.keyFromSlice_fst, Outcome.ofExcept]
  | status state =>
      obtain ⟨canonical, rfl⟩ := representable
      simp [fromBody, typ, body, Status.fromBytes_writeTo canonical]
  | restarting reconnectIn tryFor =>
      obtain ⟨first, second⟩ := representable
      simp only [fromBody, typ, body, List.length_append, Bytes.putBe_length,
        Outcome.ensure_of_pos, Outcome.ok_bind, Bytes.sliceTo_append _ (Bytes.putBe_length _ _),
        Bytes.sliceFrom_append _ (Bytes.putBe_length _ _), millisFromSlice_putBe first,
        millisFromSlice_putBe second, Outcome.pure_eq]
  | ping data => simp [fromBody, typ, body]
  | pong data => simp [fromBody, typ, body]
  | health problem =>
      have allowed : version = .v1 := representable
      simp [fromBody, typ, body, allowed]

/-- What a decoded body was: a representable message whose own body is no
longer. -/
theorem fromBody_eq_ok {frameType : FrameType} {content : Bytes}
    {cache : KeyCache crates} {version : ProtocolVersion}
    {msg : RelayToClientMsg crates}
    (decoded : fromBody frameType content cache version = .ok msg) :
    msg.Representable version ∧ msg.body.length ≤ content.length := by
  have frame : ∀ isBatch endpointId payload,
      Datagrams.fromFrame content cache isBatch = .ok (endpointId, payload) →
      (RelayToClientMsg.datagrams endpointId payload).body.length ≤ content.length := by
    intro isBatch endpointId payload inner
    obtain ⟨rest, rfl, innerDecoded⟩ := Datagrams.fromFrame_eq_ok inner
    have shorter := Datagrams.encodedLen_le_of_fromBytes innerDecoded
    simp only [body, List.length_append, Datagrams.body_length]
    omega
  cases frameType with
  | relayToClientDatagram =>
      simp only [fromBody, Outcome.bind_eq_ok, Outcome.pure_eq, Outcome.ok.injEq] at decoded
      obtain ⟨_, _, ⟨endpointId, payload⟩, inner, rfl⟩ := decoded
      exact ⟨trivial, frame _ _ _ inner⟩
  | relayToClientDatagramBatch =>
      simp only [fromBody, Outcome.bind_eq_ok, Outcome.pure_eq, Outcome.ok.injEq] at decoded
      obtain ⟨_, _, ⟨endpointId, payload⟩, inner, rfl⟩ := decoded
      exact ⟨trivial, frame _ _ _ inner⟩
  | endpointGone =>
      simp only [fromBody, Outcome.bind_eq_ok, Outcome.ensure_eq_ok, Outcome.pure_eq,
        Outcome.ok.injEq] at decoded
      obtain ⟨_, length, endpointId, _, rfl⟩ := decoded
      exact ⟨trivial, by simp [body, length]⟩
  | ping =>
      simp only [fromBody, Outcome.bind_eq_ok, Outcome.pure_eq, Outcome.ok.injEq] at decoded
      obtain ⟨data, parsed, rfl⟩ := decoded
      exact ⟨trivial, by rw [pingData_eq_ok parsed, body]⟩
  | pong =>
      simp only [fromBody, Outcome.bind_eq_ok, Outcome.pure_eq, Outcome.ok.injEq] at decoded
      obtain ⟨data, parsed, rfl⟩ := decoded
      exact ⟨trivial, by rw [pingData_eq_ok parsed, body]⟩
  | health =>
      simp only [fromBody, Outcome.bind_eq_ok, Outcome.ensure_eq_ok] at decoded
      obtain ⟨_, allowed, decoded⟩ := decoded
      split at decoded
      next problem parsed =>
        simp only [Outcome.pure_eq, Outcome.ok.injEq] at decoded
        subst decoded
        exact ⟨allowed, by rw [body, Bytes.ofString_of_toString? parsed]⟩
      next invalid => simp at decoded
  | restarting =>
      simp only [fromBody, Outcome.bind_eq_ok, Outcome.ensure_eq_ok, Outcome.pure_eq,
        Outcome.ok.injEq] at decoded
      obtain ⟨_, length, first, _, reconnectIn, firstParsed, second, _, tryFor, secondParsed,
        rfl⟩ := decoded
      exact ⟨⟨millisFromSlice_eq_ok firstParsed, millisFromSlice_eq_ok secondParsed⟩,
        by simp [body, length]⟩
  | status =>
      simp only [fromBody, Outcome.bind_eq_ok, Outcome.ensure_eq_ok, Outcome.pure_eq,
        Outcome.ok.injEq] at decoded
      obtain ⟨_, allowed, state, parsed, rfl⟩ := decoded
      obtain ⟨nonempty, canonical⟩ := Status.fromBytes_eq_ok parsed
      refine ⟨⟨canonical, ?_⟩, by simpa [body] using nonempty⟩
      cases version with
      | v1 => simp [ProtocolVersion.rank] at allowed
      | v2 => rfl
  | serverChallenge => simp [fromBody] at decoded
  | clientAuth => simp [fromBody] at decoded
  | serverConfirmsAuth => simp [fromBody] at decoded
  | serverDeniesAuth => simp [fromBody] at decoded
  | clientToRelayDatagram => simp [fromBody] at decoded
  | clientToRelayDatagramBatch => simp [fromBody] at decoded

/-- Every slice and every read of a relay-to-client body is in bounds. -/
theorem returns_fromBody (frameType : FrameType) (content : Bytes)
    (cache : KeyCache crates) (version : ProtocolVersion) :
    (fromBody frameType content cache version :
      Outcome Error (RelayToClientMsg crates)).Returns := by
  have frame : ∀ isBatch, (do
      Outcome.ensure (publicKeyLength ≤ content.length) Error.invalidFrame
      let decoded ← Datagrams.fromFrame content cache isBatch
      pure (RelayToClientMsg.datagrams decoded.1 decoded.2)).Returns := by
    intro isBatch
    rw [Outcome.returns_bind]
    refine ⟨Outcome.returns_ensure _, fun _ checked => ?_⟩
    rw [Outcome.returns_bind, Datagrams.returns_fromFrame]
    exact ⟨Outcome.ensure_eq_ok.mp checked, fun _ _ => Outcome.returns_ok _⟩
  cases frameType with
  | relayToClientDatagram => exact frame _
  | relayToClientDatagramBatch => exact frame _
  | endpointGone =>
      simp only [fromBody, Outcome.returns_bind]
      exact ⟨Outcome.returns_ensure _, fun _ _ => ⟨Outcome.returns_ofExcept _ _,
        fun _ _ => Outcome.returns_ok _⟩⟩
  | ping =>
      simp only [fromBody, Outcome.returns_bind]
      exact ⟨returns_pingData content, fun _ _ => Outcome.returns_ok _⟩
  | pong =>
      simp only [fromBody, Outcome.returns_bind]
      exact ⟨returns_pingData content, fun _ _ => Outcome.returns_ok _⟩
  | health =>
      simp only [fromBody, Outcome.returns_bind]
      refine ⟨Outcome.returns_ensure _, fun _ _ => ?_⟩
      split <;> simp
  | restarting =>
      simp only [fromBody, Outcome.returns_bind]
      refine ⟨Outcome.returns_ensure _, fun _ checked => ?_⟩
      have length : content.length = 4 + 4 := Outcome.ensure_eq_ok.mp checked
      have enough : 4 ≤ content.length := by omega
      rw [Bytes.sliceTo_of_le enough, Bytes.sliceFrom_of_le enough]
      exact ⟨Outcome.returns_ok _, fun _ _ => ⟨returns_millisFromSlice _, fun _ _ =>
        ⟨Outcome.returns_ok _, fun _ _ => ⟨returns_millisFromSlice _, fun _ _ =>
          Outcome.returns_ok _⟩⟩⟩⟩
  | status =>
      simp only [fromBody, Outcome.returns_bind]
      exact ⟨Outcome.returns_ensure _, fun _ _ => ⟨Status.returns_fromBytes _,
        fun _ _ => Outcome.returns_ok _⟩⟩
  | serverChallenge => exact Outcome.returns_err _
  | clientAuth => exact Outcome.returns_err _
  | serverConfirmsAuth => exact Outcome.returns_err _
  | serverDeniesAuth => exact Outcome.returns_err _
  | clientToRelayDatagram => exact Outcome.returns_err _
  | clientToRelayDatagramBatch => exact Outcome.returns_err _

private theorem returns_fromBytes (content : Bytes) (cache : KeyCache crates)
    (version : ProtocolVersion) :
    (fromBytes content cache version : Outcome Error (RelayToClientMsg crates)).Returns := by
  simp only [fromBytes, Outcome.returns_bind]
  exact ⟨Outcome.returns_ofExcept _ _, fun _ _ => ⟨Outcome.returns_ensure _,
    fun _ _ => returns_fromBody _ _ _ _⟩⟩

theorem fromBytes_toBytes {version : ProtocolVersion} {msg : RelayToClientMsg crates}
    (cache : KeyCache crates) (representable : msg.Representable version)
    (within : msg.body.length ≤ maxPacketSize) :
    fromBytes msg.toBytes cache version = .ok msg := by
  rw [toBytes_eq, fromBytes_encode _ _ _ within, fromBody_body cache representable]

private theorem toBytes_of_fromBytes {content : Bytes} {cache : KeyCache crates}
    {version : ProtocolVersion} {msg : RelayToClientMsg crates}
    (decoded : fromBytes content cache version = .ok msg) :
    msg.toBytes.length ≤ content.length ∧ msg.Representable version ∧
      msg.body.length ≤ maxPacketSize := by
  obtain ⟨frameType, rest, parsed, within, inner⟩ := fromBytes_eq_ok.mp decoded
  obtain ⟨representable, shorter⟩ := fromBody_eq_ok inner
  have taken := FrameType.length_lt_of_fromBytes parsed
  refine ⟨?_, representable, shorter.trans within⟩
  rw [toBytes_length, encodedLen_eq]
  omega

end RelayToClientMsg

namespace ClientToRelayMsg

variable {crates : Crates}

def body : ClientToRelayMsg crates → Bytes
  | .datagrams dstEndpointId payload => dstEndpointId.asBytes ++ payload.body crates
  | .ping data => data.toList
  | .pong data => data.toList

theorem writeTo_eq (msg : ClientToRelayMsg crates) (dst : Bytes) :
    msg.writeTo dst = dst ++ (crates.varInt.encode msg.typ.toU32 ++ msg.body) := by
  cases msg <;> simp [writeTo, FrameType.writeTo, body, Datagrams.writeTo_eq]

theorem toBytes_eq (msg : ClientToRelayMsg crates) :
    msg.toBytes = crates.varInt.encode msg.typ.toU32 ++ msg.body := by
  rw [toBytes, writeTo_eq, List.nil_append]

theorem encodedLen_eq (msg : ClientToRelayMsg crates) : msg.encodedLen = 1 + msg.body.length := by
  cases msg <;> simp [encodedLen, body, publicKeyLength]

theorem toBytes_length (msg : ClientToRelayMsg crates) : msg.toBytes.length = msg.encodedLen := by
  rw [toBytes_eq, encodedLen_eq, List.length_append, FrameType.encode_length]

private theorem fromBytes_encode (frameType : FrameType) {content : Bytes}
    (cache : KeyCache crates) (within : content.length ≤ maxPacketSize) :
    fromBytes (crates.varInt.encode frameType.toU32 ++ content) cache =
      fromBody frameType content cache := by
  simp [fromBytes, Outcome.ofExcept, within]

theorem fromBytes_eq_ok {content : Bytes} {cache : KeyCache crates}
    {msg : ClientToRelayMsg crates} :
    fromBytes content cache = .ok msg ↔
      ∃ frameType rest, FrameType.fromBytes crates content = .ok (frameType, rest) ∧
        rest.length ≤ maxPacketSize ∧ fromBody frameType rest cache = .ok msg :=
  FrameType.decode_eq_ok fun frameType rest => fromBody frameType rest cache

theorem fromBody_body (msg : ClientToRelayMsg crates) (cache : KeyCache crates) :
    fromBody msg.typ msg.body cache = .ok msg := by
  cases msg with
  | datagrams dstEndpointId payload =>
      have inner := Datagrams.fromFrame_append cache dstEndpointId
        (Datagrams.fromBytes_body crates payload)
      cases segmentSize : payload.segmentSize with
      | none =>
          rw [segmentSize, Option.isSome_none] at inner
          simp [fromBody, typ, body, segmentSize, inner]
      | some size =>
          rw [segmentSize, Option.isSome_some] at inner
          simp [fromBody, typ, body, segmentSize, inner]
  | ping data => simp [fromBody, typ, body]
  | pong data => simp [fromBody, typ, body]

def IsDatagramFrame (frameType : FrameType) : Prop :=
  frameType = .clientToRelayDatagram ∨ frameType = .clientToRelayDatagramBatch

/-- A decoded datagrams message came in a datagram frame: endpoint id, then the
datagrams, with a segment size field exactly in a batch frame. -/
theorem fromBody_eq_datagrams {frameType : FrameType} {content : Bytes}
    {cache : KeyCache crates} {dstEndpointId : EndpointId crates.ed25519}
    {payload : Datagrams}
    (decoded : fromBody frameType content cache = .ok (.datagrams dstEndpointId payload)) :
    IsDatagramFrame frameType ∧ ∃ rest, content = dstEndpointId.asBytes ++ rest ∧
      Datagrams.fromBytes crates rest (frameType = .clientToRelayDatagramBatch) = .ok payload := by
  cases frameType with
  | clientToRelayDatagram =>
      simp only [fromBody, Outcome.bind_eq_ok, Outcome.pure_eq, Outcome.ok.injEq,
        ClientToRelayMsg.datagrams.injEq] at decoded
      obtain ⟨⟨endpointId, inner⟩, framed, rfl, rfl⟩ := decoded
      exact ⟨.inl rfl, Datagrams.fromFrame_eq_ok framed⟩
  | clientToRelayDatagramBatch =>
      simp only [fromBody, Outcome.bind_eq_ok, Outcome.pure_eq, Outcome.ok.injEq,
        ClientToRelayMsg.datagrams.injEq] at decoded
      obtain ⟨⟨endpointId, inner⟩, framed, rfl, rfl⟩ := decoded
      exact ⟨.inr rfl, Datagrams.fromFrame_eq_ok framed⟩
  | ping => simp [fromBody, Outcome.bind_eq_ok] at decoded
  | pong => simp [fromBody, Outcome.bind_eq_ok] at decoded
  | _ => simp [fromBody] at decoded

theorem fromBody_eq_ok {frameType : FrameType} {content : Bytes}
    {cache : KeyCache crates} {msg : ClientToRelayMsg crates}
    (decoded : fromBody frameType content cache = .ok msg) :
    msg.body.length ≤ content.length := by
  cases msg with
  | datagrams dstEndpointId payload =>
      obtain ⟨_, rest, rfl, inner⟩ := fromBody_eq_datagrams decoded
      have shorter := Datagrams.encodedLen_le_of_fromBytes inner
      simp only [body, List.length_append, Datagrams.body_length]
      omega
  | ping data =>
      cases frameType with
      | ping =>
          simp only [fromBody, Outcome.bind_eq_ok, Outcome.pure_eq, Outcome.ok.injEq,
            ClientToRelayMsg.ping.injEq] at decoded
          obtain ⟨_, parsed, rfl⟩ := decoded
          rw [pingData_eq_ok parsed, body]
      | _ => simp [fromBody, Outcome.bind_eq_ok] at decoded
  | pong data =>
      cases frameType with
      | pong =>
          simp only [fromBody, Outcome.bind_eq_ok, Outcome.pure_eq, Outcome.ok.injEq,
            ClientToRelayMsg.pong.injEq] at decoded
          obtain ⟨_, parsed, rfl⟩ := decoded
          rw [pingData_eq_ok parsed, body]
      | _ => simp [fromBody, Outcome.bind_eq_ok] at decoded

theorem fromBytes_toBytes (msg : ClientToRelayMsg crates) (cache : KeyCache crates)
    (within : msg.body.length ≤ maxPacketSize) : fromBytes msg.toBytes cache = .ok msg := by
  rw [toBytes_eq, fromBytes_encode _ _ within, fromBody_body]

private theorem toBytes_of_fromBytes {content : Bytes} {cache : KeyCache crates}
    {msg : ClientToRelayMsg crates} (decoded : fromBytes content cache = .ok msg) :
    msg.toBytes.length ≤ content.length ∧ msg.body.length ≤ maxPacketSize := by
  obtain ⟨frameType, rest, parsed, within, inner⟩ := fromBytes_eq_ok.mp decoded
  have shorter := fromBody_eq_ok inner
  have taken := FrameType.length_lt_of_fromBytes parsed
  refine ⟨?_, shorter.trans within⟩
  rw [toBytes_length, encodedLen_eq]
  omega

/-- The one read that no check covers is the endpoint id of a datagram frame. -/
theorem returns_fromBody (frameType : FrameType) (content : Bytes)
    (cache : KeyCache crates) :
    (fromBody frameType content cache : Outcome Error (ClientToRelayMsg crates)).Returns ↔
      (IsDatagramFrame frameType → publicKeyLength ≤ content.length) := by
  cases frameType with
  | clientToRelayDatagram =>
      simp only [fromBody, Outcome.returns_bind, Datagrams.returns_fromFrame]
      simp [IsDatagramFrame]
  | clientToRelayDatagramBatch =>
      simp only [fromBody, Outcome.returns_bind, Datagrams.returns_fromFrame]
      simp [IsDatagramFrame]
  | ping =>
      simp only [fromBody, Outcome.returns_bind, returns_pingData]
      simp [IsDatagramFrame]
  | pong =>
      simp only [fromBody, Outcome.returns_bind, returns_pingData]
      simp [IsDatagramFrame]
  | _ => simp [fromBody, IsDatagramFrame]

/-- A datagram frame that ends inside the endpoint id. -/
def ShortDatagramFrame (crates : Crates) (content : Bytes) : Prop :=
  ∃ frameType rest, FrameType.fromBytes crates content = .ok (frameType, rest) ∧
    IsDatagramFrame frameType ∧ rest.length < publicKeyLength

private theorem returns_fromBytes (content : Bytes) (cache : KeyCache crates) :
    (fromBytes content cache : Outcome Error (ClientToRelayMsg crates)).Returns ↔
      ¬ ShortDatagramFrame crates content := by
  have header : (fromBytes content cache : Outcome Error (ClientToRelayMsg crates)).Returns ↔
      ∀ frameType rest, FrameType.fromBytes crates content = .ok (frameType, rest) →
        rest.length ≤ maxPacketSize → IsDatagramFrame frameType →
          publicKeyLength ≤ rest.length := by
    simp only [fromBytes, Outcome.returns_bind, Outcome.returns_ofExcept, true_and,
      Outcome.ofExcept_eq_ok, Outcome.returns_ensure, Outcome.ensure_eq_ok, returns_fromBody]
    exact ⟨fun returns frameType rest parsed within => returns (frameType, rest) parsed () within,
      fun bounds parsedFrame parsed _ within => bounds parsedFrame.1 parsedFrame.2 parsed within⟩
  rw [header]
  constructor
  · rintro bounds ⟨frameType, rest, parsed, datagram, short⟩
    have within : rest.length ≤ maxPacketSize := short.le.trans (by decide)
    have enough := bounds frameType rest parsed within datagram
    omega
  · intro notShort frameType rest parsed _ datagram
    by_contra short
    exact notShort ⟨frameType, rest, parsed, datagram, by omega⟩

end ClientToRelayMsg

/-- Decoding untrusted bytes returns, for every cache and version, exactly when
the bytes are not a datagram frame that ends inside the endpoint id. -/
theorem relay_decoders_return_iff (crates : Crates) (content : Bytes)
    (serverCache clientCache : KeyCache crates) (version : ProtocolVersion) :
    ((ClientToRelayMsg.fromBytes content serverCache).Returns ∧
        (RelayToClientMsg.fromBytes content clientCache version).Returns) ↔
      ¬ ClientToRelayMsg.ShortDatagramFrame crates content := by
  rw [ClientToRelayMsg.returns_fromBytes]
  exact and_iff_left (RelayToClientMsg.returns_fromBytes content clientCache version)

/-- A frame type byte alone makes the relay server's decoder slice past the end. -/
theorem bare_datagram_frame_panics :
    (ClientToRelayMsg.fromBytes [4] .disabled : Outcome Error (ClientToRelayMsg Crates.reference)) =
        .panicked ∧
      ¬ ((ClientToRelayMsg.fromBytes [4] .disabled :
            Outcome Error (ClientToRelayMsg Crates.reference)).Returns ∧
          (RelayToClientMsg.fromBytes [4] .disabled .v2 :
            Outcome Error (RelayToClientMsg Crates.reference)).Returns) := by
  have panics : (ClientToRelayMsg.fromBytes [4] .disabled :
      Outcome Error (ClientToRelayMsg Crates.reference)) = .panicked := by
    decide
  refine ⟨panics, ?_⟩
  rw [panics]
  simp

/-- Decoding is a retraction onto the encoder's image: any accepted byte string,
canonical or not, decodes to a message whose own encoding is no longer and
decodes to the same message, whatever the caches hold. -/
theorem decoding_retracts_onto_encodings (crates : Crates) :
    (∀ (content : Bytes) (version : ProtocolVersion) (cache again : KeyCache crates)
        (msg : RelayToClientMsg crates),
      RelayToClientMsg.fromBytes content cache version = .ok msg →
        msg.toBytes.length ≤ content.length ∧
          RelayToClientMsg.fromBytes msg.toBytes again version = .ok msg) ∧
    (∀ (content : Bytes) (cache again : KeyCache crates) (msg : ClientToRelayMsg crates),
      ClientToRelayMsg.fromBytes content cache = .ok msg →
        msg.toBytes.length ≤ content.length ∧
          ClientToRelayMsg.fromBytes msg.toBytes again = .ok msg) := by
  constructor
  · intro content version cache again msg decoded
    obtain ⟨shorter, representable, within⟩ := RelayToClientMsg.toBytes_of_fromBytes decoded
    exact ⟨shorter, RelayToClientMsg.fromBytes_toBytes again representable within⟩
  · intro content cache again msg decoded
    obtain ⟨shorter, within⟩ := ClientToRelayMsg.toBytes_of_fromBytes decoded
    exact ⟨shorter, ClientToRelayMsg.fromBytes_toBytes msg again within⟩

/-- A two-byte varint, a status and a trailing byte: four bytes that decode to a
two-byte message. -/
theorem long_status_frame_retracts :
    (RelayToClientMsg.fromBytes [0x40, 0x0d, 0x01, 0xff] .disabled .v2 :
        Outcome Error (RelayToClientMsg Crates.reference)) =
      .ok (.status .sameEndpointIdConnected) ∧
    (RelayToClientMsg.status .sameEndpointIdConnected :
        RelayToClientMsg Crates.reference).toBytes.length ≤ 4 ∧
    (RelayToClientMsg.fromBytes (RelayToClientMsg.status .sameEndpointIdConnected :
        RelayToClientMsg Crates.reference).toBytes .disabled .v2 :
        Outcome Error (RelayToClientMsg Crates.reference)) =
      .ok (.status .sameEndpointIdConnected) := by
  have decoded : (RelayToClientMsg.fromBytes [0x40, 0x0d, 0x01, 0xff] .disabled .v2 :
      Outcome Error (RelayToClientMsg Crates.reference)) =
        .ok (.status .sameEndpointIdConnected) := by
    decide
  exact ⟨decoded, (decoding_retracts_onto_encodings Crates.reference).1 _ .v2 .disabled .disabled _
    decoded⟩

end NexalinkTunnel.Relay.Protos
