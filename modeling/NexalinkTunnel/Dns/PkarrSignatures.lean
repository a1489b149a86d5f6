import NexalinkTunnel.Base.Z32
import NexalinkTunnel.Dns.Pkarr
import NexalinkTunnel.Lib.Numerals
import NexalinkTunnel.Lib.Text
import NexalinkTunnel.Relay.Protos.Common

/-!
Contract: the signatures of pkarr packets.

Owns the signed message, how a packet is built and signed, parsing with a check of the
signature, and that a signature is for one timestamp and one DNS message.

Does not own: the signature scheme, which is a parameter, and the DNS message that
`simple_dns` builds from TXT values.

## The signed message

The message has the timestamp and the length of the content as decimal numbers, each
followed by a letter or a colon, and then the content as it is. A decimal number has
no such delimiter, so that the parts can be read back, whatever bytes the content has.
-/

namespace NexalinkTunnel.Dns.Pkarr

open Lib Base

variable {ed : Ed25519} {dns : SimpleDns}

def signable (timestamp : Nat) (v : Bytes) : Bytes :=
  Bytes.ofString s!"3:seqi{timestamp}e1:v{v.length}:" ++ v

private theorem signable_eq (timestamp : Nat) (v : Bytes) :
    signable timestamp v =
      Bytes.ofString "3:seqi" ++ (Numerals.decimal timestamp ++
        101 :: (Bytes.ofString "1:v" ++ (Numerals.decimal v.length ++ 58 :: v))) := by
  have letter : Bytes.ofString "e1:v" = 101 :: Bytes.ofString "1:v" := by decide
  have colon : Bytes.ofString ":" = [58] := by decide
  simp only [signable, toString, Numerals.decimal, Bytes.ofString_append, List.append_assoc,
    letter, colon, List.cons_append, List.nil_append]

/-- Timestamp and content can be read back from the signed message. -/
theorem signable_inj {timestamp other : Nat} {v w : Bytes}
    (same : signable timestamp v = signable other w) : timestamp = other ∧ v = w := by
  rw [signable_eq, signable_eq] at same
  obtain ⟨timestamps, rests⟩ := Numerals.decimal_append_cons_inj (by decide)
    (List.append_cancel_left same)
  obtain ⟨-, contents⟩ := Numerals.decimal_append_cons_inj (by decide)
    (List.append_cancel_left rests)
  exact ⟨timestamps, contents⟩

/-! ## Parsing with a check of the signature -/

abbrev Signature := List.Vector UInt8 64

abbrev Verify (ed : Ed25519) := PublicKey ed → Bytes → Signature → Bool

/-- `SignedPacketVerifyError`, with the errors that only a check of the signature has. -/
inductive FromBytesError where
  | unchecked (error : SignedPacketVerifyError)
  | invalidKey (error : KeyParsingError)
  | signatureError
deriving DecidableEq, Repr

namespace SignedPacket

def headerParts (bytes : Bytes) (headed : headerSize ≤ bytes.length) : Signature × Nat :=
  (⟨(bytes.drop 32).take 64, by
      rw [headerSize] at headed
      rw [List.length_take, List.length_drop]
      omega⟩,
    Timestamp.fromBeBytes ⟨(bytes.drop 96).take 8, by
      rw [headerSize] at headed
      rw [List.length_take, List.length_drop]
      omega⟩)

def signature (packet : SignedPacket dns) : Signature :=
  (headerParts packet.bytes packet.headed).1

def fromBytes (verify : Verify ed) (bytes : Bytes) : Except FromBytesError (SignedPacket dns) :=
  if headed : headerSize ≤ bytes.length then
    if bounded : bytes.length ≤ maxSignedPacketSize then
      match PublicKey.tryFrom (bytes.take 32) with
      | .error error => .error (.invalidKey error)
      | .ok publicKey =>
          let (signature, timestamp) := headerParts bytes headed
          let encodedPacket := bytes.drop headerSize
          if verify publicKey (signable timestamp encodedPacket) signature then
            if parsed : dns.parses (bytes.drop headerSize) = true then
              .ok ⟨bytes, headed, bounded, parsed⟩
            else .error (.unchecked .dnsError)
          else .error .signatureError
    else .error (.unchecked (.tooLarge bytes.length))
  else .error (.unchecked (.tooShort bytes.length))

def fromRelayPayload (verify : Verify ed) (publicKey : PublicKey ed) (payload : Bytes) :
    Except FromBytesError (SignedPacket dns) :=
  fromBytes verify (publicKey.asBytes ++ payload)

def toRelayPayload (packet : SignedPacket dns) : Bytes := packet.bytes.drop 32

variable {verify : Verify ed} {bytes : Bytes} {packet : SignedPacket dns}

/-- A packet is accepted exactly if its key is one and its signature is valid for its own
timestamp and DNS message. -/
theorem fromBytes_eq_ok_iff :
    fromBytes verify bytes = .ok packet ↔
      packet.bytes = bytes ∧ ∃ key : PublicKey ed, key.asBytes = bytes.take 32 ∧
        verify key (signable packet.timestamp packet.encodedPacket) packet.signature = true := by
  constructor
  · intro accepted
    unfold fromBytes at accepted
    split at accepted
    next headed =>
      split at accepted
      next bounded =>
        split at accepted
        next => cases accepted
        next key parsedKey =>
          simp only at accepted
          split at accepted
          next valid =>
            split at accepted
            next parsed =>
              cases accepted
              exact ⟨rfl, key, PublicKey.tryFrom_eq_ok.mp parsedKey, valid⟩
            next => cases accepted
          next => cases accepted
      next => cases accepted
    next => cases accepted
  · rintro ⟨rfl, key, keyBytes, valid⟩
    have parsedKey : PublicKey.tryFrom (packet.bytes.take 32) = .ok key :=
      PublicKey.tryFrom_eq_ok.mpr keyBytes
    unfold fromBytes
    rw [dif_pos packet.headed, dif_pos packet.bounded, parsedKey]
    exact (if_pos valid).trans (dif_pos packet.parsed)

/-- A packet from a relay is one of the given key. -/
theorem publicKeyBytes_of_fromRelayPayload {publicKey : PublicKey ed} {payload : Bytes}
    (accepted : fromRelayPayload verify publicKey payload = .ok packet) :
    packet.publicKeyBytes = publicKey.bytes ∧ packet.toRelayPayload = payload := by
  obtain ⟨same, -⟩ := fromBytes_eq_ok_iff.mp accepted
  have length : publicKey.asBytes.length = 32 := PublicKey.asBytes_length publicKey
  constructor
  · apply Subtype.ext
    show packet.bytes.take 32 = publicKey.asBytes
    rw [same, ← length, List.take_left]
  · rw [toRelayPayload, same, ← length, List.drop_left]

end SignedPacket

structure SecretKey (ed : Ed25519) where
  publicKey : PublicKey ed
  sign : Bytes → Signature

/-- `build_bytes_vec_compressed` of a reply with the TXT values under a name, if all of them fit
into a record. A message that was built is parsed again. -/
structure DnsBuilder (dns : SimpleDns) where
  build : String → List String → UInt32 → Option Bytes
  parses_build : ∀ name values ttl message, build name values ttl = some message →
    dns.parses message = true

inductive SignedPacketBuildError where
  | dnsError
  | packetTooLarge (len : Nat)
deriving DecidableEq, Repr

def normalizeName (origin name : String) : String :=
  let name :=
    if name.toList.getLast? = some '.' then String.ofList name.toList.dropLast else name
  let last := (Text.split '.' name).getLastD ""
  if last = origin then name
  else if last = "@" ∨ last = "" then origin
  else s!"{name}.{origin}"

namespace SignedPacket

def assemble (publicKey : PublicKey ed) (signature : Signature) (timestamp : Nat)
    (encodedPacket : Bytes) : Bytes :=
  publicKey.asBytes ++ (signature.toList ++
    ((Timestamp.toBeBytes timestamp).toList ++ encodedPacket))

section Assemble

variable (publicKey : PublicKey ed) (signature : Signature) (timestamp : Nat)
  (encodedPacket : Bytes)

theorem length_assemble :
    (assemble publicKey signature timestamp encodedPacket).length =
      headerSize + encodedPacket.length := by
  have key : publicKey.asBytes.length = 32 := PublicKey.asBytes_length publicKey
  rw [assemble, List.length_append, List.length_append, List.length_append, key,
    List.Vector.toList_length, List.Vector.toList_length, headerSize]
  omega

theorem drop_assemble :
    (assemble publicKey signature timestamp encodedPacket).drop headerSize = encodedPacket := by
  have key : publicKey.asBytes.length = 32 := PublicKey.asBytes_length publicKey
  rw [assemble, ← List.append_assoc, ← List.append_assoc]
  apply List.drop_left'
  rw [List.length_append, List.length_append, key, List.Vector.toList_length,
    List.Vector.toList_length, headerSize]

theorem headed_assemble :
    headerSize ≤ (assemble publicKey signature timestamp encodedPacket).length := by
  rw [length_assemble]
  exact Nat.le_add_right _ _

variable {encodedPacket}

theorem bounded_assemble (small : ¬ maxDnsPacketSize < encodedPacket.length) :
    (assemble publicKey signature timestamp encodedPacket).length ≤ maxSignedPacketSize := by
  rw [length_assemble, maxSignedPacketSize]
  omega

private theorem parsed_assemble {dns : SimpleDns} (parses : dns.parses encodedPacket = true) :
    dns.parses ((assemble publicKey signature timestamp encodedPacket).drop headerSize) = true := by
  rw [drop_assemble]
  exact parses

end Assemble

/-- `from_txt_strings`, with the timestamp that the clock gives. -/
def fromTxtStrings [Encodings] (builder : DnsBuilder dns) (secretKey : SecretKey ed)
    (name : String) (values : List String) (ttl : UInt32) (timestamp : Nat) :
    Except SignedPacketBuildError (SignedPacket dns) :=
  match built : builder.build (normalizeName secretKey.publicKey.toZ32 name) values ttl with
  | none => .error .dnsError
  | some encodedPacket =>
      if large : maxDnsPacketSize < encodedPacket.length then
        .error (.packetTooLarge encodedPacket.length)
      else
        .ok
          { bytes := assemble secretKey.publicKey
              (secretKey.sign (signable timestamp encodedPacket)) timestamp encodedPacket
            headed := headed_assemble _ _ _ _
            bounded := bounded_assemble _ _ _ large
            parsed := parsed_assemble _ _ _ (builder.parses_build _ _ _ _ built) }

section Built

variable {secretKey : SecretKey ed} {timestamp : Nat} {encodedPacket : Bytes}

private theorem parts_of_assemble {publicKey : PublicKey ed} {signature : Signature}
    (packet : SignedPacket dns) (small : timestamp < 2 ^ 64)
    (assembled : packet.bytes = assemble publicKey signature timestamp encodedPacket) :
    packet.bytes.take 32 = publicKey.asBytes ∧ packet.signature = signature ∧
      packet.timestamp = timestamp ∧ packet.encodedPacket = encodedPacket := by
  have key : publicKey.asBytes.length = 32 := PublicKey.asBytes_length publicKey
  have afterKey : packet.bytes.drop 32 = signature.toList ++
      ((Timestamp.toBeBytes timestamp).toList ++ encodedPacket) := by
    rw [assembled, assemble, ← key, List.drop_left]
  have afterSignature : packet.bytes.drop 96 =
      (Timestamp.toBeBytes timestamp).toList ++ encodedPacket := by
    have split : packet.bytes.drop 96 = (packet.bytes.drop 32).drop 64 := by
      rw [List.drop_drop]
    rw [split, afterKey]
    exact List.drop_left' (List.Vector.toList_length signature)
  refine ⟨?_, ?_, ?_, ?_⟩
  · rw [assembled, assemble, ← key, List.take_left]
  · apply Subtype.ext
    show (packet.bytes.drop 32).take 64 = signature.toList
    rw [afterKey]
    exact List.take_left' (List.Vector.toList_length signature)
  · have bytes : packet.timestampBytes = Timestamp.toBeBytes timestamp := by
      apply Subtype.ext
      show (packet.bytes.drop 96).take 8 = (Timestamp.toBeBytes timestamp).toList
      rw [afterSignature]
      exact List.take_left' (List.Vector.toList_length _)
    rw [SignedPacket.timestamp, bytes, Timestamp.fromBeBytes_toBeBytes small]
  · rw [SignedPacket.encodedPacket, assembled, drop_assemble]

/-- A packet that was built is accepted, if what the key signs is valid. -/
theorem fromBytes_fromTxtStrings [Encodings] {builder : DnsBuilder dns} {name : String}
    {values : List String} {ttl : UInt32} {packet : SignedPacket dns} {verify : Verify ed}
    (small : timestamp < 2 ^ 64)
    (signs : ∀ message, verify secretKey.publicKey message (secretKey.sign message) = true)
    (built : fromTxtStrings builder secretKey name values ttl timestamp = .ok packet) :
    fromBytes verify packet.bytes = .ok packet ∧ packet.timestamp = timestamp := by
  unfold fromTxtStrings at built
  split at built
  next => cases built
  next encodedPacket _ =>
    split at built
    next => cases built
    next =>
      have assembled : packet.bytes = assemble secretKey.publicKey
          (secretKey.sign (signable timestamp encodedPacket)) timestamp encodedPacket := by
        cases built
        rfl
      obtain ⟨key, signature, time, content⟩ := parts_of_assemble packet small assembled
      refine ⟨fromBytes_eq_ok_iff.mpr ⟨rfl, secretKey.publicKey, key.symm, ?_⟩, time⟩
      rw [signature, time, content]
      exact signs _

end Built

end SignedPacket

/-! ## One timestamp and one content -/

/-- The signed message is for one timestamp and one content. If a signature is valid only for the
message that it was made for, then the holder of the key of an accepted packet has made the
packet's signature for its timestamp and its DNS message, and for no others. -/
theorem signature_binds {ed : Ed25519} {dns : SimpleDns} (verify : Verify ed)
    (Made : PublicKey ed → Bytes → Signature → Prop)
    (genuine : ∀ key message signature, verify key message signature = true →
      ∃ signed, Made key signed signature)
    (exact : ∀ key signed message signature, Made key signed signature →
      verify key message signature = true → message = signed) :
    (∀ timestamp other v w, signable timestamp v = signable other w →
      timestamp = other ∧ v = w) ∧
    ∀ (bytes : Bytes) (packet : SignedPacket dns),
      SignedPacket.fromBytes verify bytes = .ok packet →
        ∃ key : PublicKey ed, key.bytes = packet.publicKeyBytes ∧
          Made key (signable packet.timestamp packet.encodedPacket) packet.signature ∧
          ∀ timestamp v, Made key (signable timestamp v) packet.signature →
            timestamp = packet.timestamp ∧ v = packet.encodedPacket := by
  refine ⟨fun _ _ _ _ => signable_inj, ?_⟩
  intro bytes packet accepted
  obtain ⟨rfl, key, keyBytes, valid⟩ := SignedPacket.fromBytes_eq_ok_iff.mp accepted
  obtain ⟨signed, made⟩ := genuine _ _ _ valid
  have same := exact _ _ _ _ made valid
  refine ⟨key, Subtype.ext keyBytes, same ▸ made, ?_⟩
  intro timestamp v other
  obtain ⟨time, content⟩ := signable_inj (exact _ _ _ _ other valid)
  exact ⟨time.symm, content.symm⟩

namespace Reference

open Relay.Protos (Crates.reference Crates.smallKey)

private theorem key_listed : (4 : UInt8) ∈ [0, 1, 3, 4, 5, 6] := by decide

def key : PublicKey Crates.reference.ed25519 := Crates.smallKey 4 key_listed

/-- The header of a reply without records. -/
def reply : Bytes := [0, 0, 0x80, 0, 0, 0, 0, 0, 0, 0, 0, 0]

/-- A scheme in which one signature was made, for the reply and the time 7. -/
def signature : Signature := ⟨List.replicate 64 1, rfl⟩

def Made (holder : PublicKey Crates.reference.ed25519) (message : Bytes) (made : Signature) :
    Prop :=
  holder = key ∧ message = signable 7 reply ∧ made = signature
deriving Decidable

def verify : Verify Crates.reference.ed25519 := fun holder message made => Made holder message made

def packet : SignedPacket ⟨fun message => 12 ≤ message.length⟩ where
  bytes := SignedPacket.assemble key signature 7 reply
  headed := SignedPacket.headed_assemble _ _ _ _
  bounded := SignedPacket.bounded_assemble _ _ _ (by decide)
  parsed := SignedPacket.parsed_assemble _ _ _ rfl

theorem signature_binds_reply :
    packet.timestamp = 7 ∧ ∃ holder : PublicKey Crates.reference.ed25519,
      holder.bytes = packet.publicKeyBytes ∧ Made holder (signable 7 reply) packet.signature := by
  obtain ⟨keyBytes, signed, time, content⟩ :=
    SignedPacket.parts_of_assemble packet (by decide) rfl
  have accepted : SignedPacket.fromBytes verify packet.bytes = .ok packet := by
    refine SignedPacket.fromBytes_eq_ok_iff.mpr ⟨rfl, key, keyBytes.symm, ?_⟩
    rw [signed, time, content]
    exact decide_eq_true ⟨rfl, rfl, rfl⟩
  obtain ⟨holder, holderBytes, made, -⟩ := (signature_binds verify Made
    (fun _ _ _ valid => ⟨_, of_decide_eq_true valid⟩)
    (fun _ _ _ _ made valid => (of_decide_eq_true valid).2.1.trans made.2.1.symm)).2 _ _ accepted
  rw [time, content] at made
  exact ⟨time, holder, holderBytes, made⟩

end Reference

end NexalinkTunnel.Dns.Pkarr
