import NexalinkTunnel.Lib.Dialogue
import NexalinkTunnel.Relay.Protos.Common

/-!
Contract: the server side of the relay handshake, as `protos/handshake.rs`
writes it.

Owns both ways a client authenticates: the signature of exported TLS keying
material in a header, and the signature of a challenge in an extra round trip;
the fallback from the first to the second; every error path; and exactly which
dialogues end in success.

Does not own: signatures, key derivation, TLS, base64 and postcard. They are
parameters, with the round trip of the encodings as their only law.
-/

namespace NexalinkTunnel.Relay.Protos.Handshake

open Lib
open Base

structure Serde (Value : Type) where
  encode : Value → Bytes
  decode : Bytes → Option Value
  decode_encode : ∀ value, decode (encode value) = some value

abbrev Signature := List.Vector UInt8 64

/-- Authentication message from the client, sent in a header. -/
structure KeyMaterialClientAuth (ed : Ed25519) where
  publicKey : PublicKey ed
  /-- A signature of (a hash of) extracted key material. -/
  signature : Signature
  /-- Part of the extracted key material. -/
  keyMaterialSuffix : List.Vector UInt8 16

/-- A challenge for the client to sign with their secret key. -/
@[ext] structure ServerChallenge where
  challenge : List.Vector UInt8 16

/-- Authentication message from the client, in response to a challenge. -/
structure ClientAuth (ed : Ed25519) where
  publicKey : PublicKey ed
  /-- A signature of (a hash of) the challenge. -/
  signature : Signature

structure ServerDeniesAuth where
  reason : String
deriving Repr

/-- The crates the handshake calls. `verifyStrict` and `deriveKey` are those of
`ed25519_dalek` and `blake3`; the formats are postcard's, but for the header's
base64 layer. -/
structure HandshakeCrates extends Crates where
  verifyStrict : PublicKey ed25519 → Bytes → Signature → Bool
  deriveKey : String → Bytes → List.Vector UInt8 32
  base64UrlNopad : Serde Bytes
  keyMaterialClientAuth : Serde (KeyMaterialClientAuth ed25519)
  serverChallenge : Serde ServerChallenge
  clientAuth : Serde (ClientAuth ed25519)
  serverDeniesAuth : Serde ServerDeniesAuth

/-- `ExportKeyingMaterial::export_keying_material` with an output of 32 bytes, as a
partial function of label and context. -/
abbrev Exporter := Bytes → Option Bytes → Option (List.Vector UInt8 32)

abbrev WebsocketError := String

inductive Error where
  | websocket (source : WebsocketError)
  | unexpectedEnd
  | frameTypeError (source : FrameTypeError)
  | serverDeniedAuth (reason : String)
  | unexpectedFrameType (frameType : FrameType) (expectedTypes : List FrameType)
  | deserializationError (frameType : FrameType)
  | clientAuthHeaderInvalid (value : Bytes)
deriving DecidableEq, Repr

inductive VerificationError (ed : Ed25519) where
  | noKeyingMaterial
  | mismatchedSuffix (expected actual : Bytes)
  | signatureInvalid (message : Bytes) (signature : Signature) (publicKey : PublicKey ed)

inductive Mechanism where
  | signedChallenge
  | signedKeyMaterial
deriving Repr

/-- Result of a successful authentication handshake. -/
structure SuccessfulAuthentication (ed : Ed25519) where
  clientKey : PublicKey ed
  mechanism : Mechanism

/-- Domain separation string for the challenge signature. -/
def domainSepChallenge : String := "iroh-relay handshake v1 challenge signature"

/-- Domain separation label for the use of exported keying material. -/
def domainSepTlsExportLabel : Bytes := Bytes.ofString "iroh-relay handshake v1"

abbrev Io := ExceptT Error (Dialogue (List.Vector UInt8 16) Bytes WebsocketError)

abbrev Transcript := List (Exchange (List.Vector UInt8 16) Bytes WebsocketError)

def websocketResult {Value : Type} : Except WebsocketError Value → Except Error Value
  | .ok value => .ok value
  | .error source => .error (.websocket source)

def sinkResult : Option WebsocketError → Except Error Unit
  | none => .ok ()
  | some source => .error (.websocket source)

def send (bytes : Bytes) : Io Unit := ExceptT.mk (.send bytes fun fault => .done (sinkResult fault))

def flush : Io Unit := ExceptT.mk (.flush fun fault => .done (sinkResult fault))

def tryNext : Io (Option Bytes) := ExceptT.mk (.receive fun item => .done (websocketResult item))

/-- A frame type with the format of its body: `Frame` and `serde`. -/
structure FrameFormat (Value : Type) where
  tag : FrameType
  body : Serde Value

namespace HandshakeCrates

variable (crates : HandshakeCrates)

def serverChallengeFrame : FrameFormat ServerChallenge := ⟨.serverChallenge, crates.serverChallenge⟩

def clientAuthFrame : FrameFormat (ClientAuth crates.ed25519) := ⟨.clientAuth, crates.clientAuth⟩

def serverDeniesAuthFrame : FrameFormat ServerDeniesAuth :=
  ⟨.serverDeniesAuth, crates.serverDeniesAuth⟩

end HandshakeCrates

variable {crates : HandshakeCrates} {Value : Type}

def FrameFormat.toBytes (crates : HandshakeCrates) (format : FrameFormat Value) (frame : Value) :
    Bytes :=
  format.tag.writeTo crates.toCrates [] ++ format.body.encode frame

def writeFrame (crates : HandshakeCrates) (format : FrameFormat Value) (frame : Value) :
    Io Unit := do
  send (format.toBytes crates frame)
  flush

def readFrame (crates : HandshakeCrates) (expectedTypes : List FrameType) :
    Io (FrameType × Bytes) := do
  match ← tryNext with
  | none => throw .unexpectedEnd
  | some payload =>
      match FrameType.fromBytes crates.toCrates payload with
      | .error source => throw (.frameTypeError source)
      | .ok (frameType, rest) =>
          if frameType ∈ expectedTypes then pure (frameType, rest)
          else throw (.unexpectedFrameType frameType expectedTypes)

def deserializeFrame (format : FrameFormat Value) (frame : Bytes) : Io Value :=
  match format.body.decode frame with
  | some value => pure value
  | none => throw (.deserializationError format.tag)

def ServerChallenge.new : Io ServerChallenge :=
  ExceptT.mk (.draw fun challenge => .done (.ok ⟨challenge⟩))

/-- The actual message bytes to sign (and verify against) for this challenge. -/
def ServerChallenge.messageToSign (crates : HandshakeCrates) (self : ServerChallenge) : Bytes :=
  (crates.deriveKey domainSepChallenge self.challenge.toList).toList

/-- Verifies this client's authentication given the challenge this was sent in
response to. -/
def ClientAuth.verify (self : ClientAuth crates.ed25519) (challenge : ServerChallenge) :
    Except (VerificationError crates.ed25519) Unit :=
  let message := challenge.messageToSign crates
  if crates.verifyStrict self.publicKey message self.signature then .ok ()
  else .error (.signatureInvalid message self.signature self.publicKey)

/-- Verifies this client auth on the server side using the same key material. -/
def KeyMaterialClientAuth.verify (self : KeyMaterialClientAuth crates.ed25519)
    (exporter : Exporter) : Except (VerificationError crates.ed25519) Unit :=
  match exporter domainSepTlsExportLabel (some self.publicKey.asBytes) with
  | none => .error .noKeyingMaterial
  | some keyMaterial =>
      let message := keyMaterial.toList.take 16
      let suffix := keyMaterial.toList.drop 16
      if suffix = self.keyMaterialSuffix.toList then
        if crates.verifyStrict self.publicKey message self.signature then .ok ()
        else .error (.signatureInvalid message self.signature self.publicKey)
      else .error (.mismatchedSuffix self.keyMaterialSuffix.toList suffix)

def fromHeaderValue (crates : HandshakeCrates) (value : Bytes) :
    Option (KeyMaterialClientAuth crates.ed25519) :=
  (crates.base64UrlNopad.decode value).bind crates.keyMaterialClientAuth.decode

def challengeClient (crates : HandshakeCrates) :
    Io (SuccessfulAuthentication crates.ed25519) := do
  let challenge ← ServerChallenge.new
  writeFrame crates crates.serverChallengeFrame challenge
  let (_, frame) ← readFrame crates [crates.clientAuthFrame.tag]
  let clientAuth ← deserializeFrame crates.clientAuthFrame frame
  match clientAuth.verify challenge with
  | .error _ =>
      let denial : ServerDeniesAuth := ⟨"signature invalid"⟩
      writeFrame crates crates.serverDeniesAuthFrame denial
      throw (.serverDeniedAuth denial.reason)
  | .ok _ => pure ⟨clientAuth.publicKey, .signedChallenge⟩

def serverside (crates : HandshakeCrates) (exporter : Exporter)
    (clientAuthHeader : Option Bytes) : Io (SuccessfulAuthentication crates.ed25519) :=
  match clientAuthHeader with
  | none => challengeClient crates
  | some value =>
      match fromHeaderValue crates value with
      | none => throw (.clientAuthHeaderInvalid value)
      | some clientAuth =>
          match clientAuth.verify exporter with
          | .ok _ => pure ⟨clientAuth.publicKey, .signedKeyMaterial⟩
          -- The two TLS exporters need not agree, so this is not yet a denial.
          | .error _ => challengeClient crates

theorem ClientAuth.verify_eq_ok {self : ClientAuth crates.ed25519} {challenge : ServerChallenge} :
    self.verify challenge = .ok () ↔
      crates.verifyStrict self.publicKey (challenge.messageToSign crates) self.signature =
        true := by
  simp only [verify]
  split_ifs with verified
  · simp [verified]
  · simp [verified]

/-- A header verifies exactly when it carries the end of the server's own key material
and a signature of its beginning. -/
theorem KeyMaterialClientAuth.verify_eq_ok {self : KeyMaterialClientAuth crates.ed25519}
    {exporter : Exporter} :
    self.verify exporter = .ok () ↔
      ∃ keyMaterial, exporter domainSepTlsExportLabel (some self.publicKey.asBytes) =
          some keyMaterial ∧
        keyMaterial.toList.drop 16 = self.keyMaterialSuffix.toList ∧
        crates.verifyStrict self.publicKey (keyMaterial.toList.take 16) self.signature = true := by
  unfold verify
  cases exporter domainSepTlsExportLabel (some self.publicKey.asBytes) with
  | none => simp
  | some keyMaterial =>
      simp only [Option.some.injEq, exists_eq_left']
      split_ifs with sameSuffix verified
      · simp [sameSuffix, verified]
      · simp [verified]
      · simp [sameSuffix]

open Dialogue

variable {transcript : Transcript}

theorem sinkResult_eq_ok {fault : Option WebsocketError} {value : Unit} :
    sinkResult fault = .ok value ↔ fault = none := by
  cases fault <;> simp [sinkResult]

private theorem websocketResult_eq_ok {item : Except WebsocketError Value} {value : Value} :
    websocketResult item = .ok value ↔ item = .ok value := by
  cases item <;> simp [websocketResult]

private theorem succeeds_send {bytes : Bytes} {value : Unit} :
    Succeeds (send bytes) transcript value ↔ transcript = [.sent bytes none] := by
  refine follow_send.trans ?_
  simp [follow_done, eq_comm (a := Except.ok value), sinkResult_eq_ok]

private theorem succeeds_flush {value : Unit} :
    Succeeds flush transcript value ↔ transcript = [.flushed none] := by
  refine follow_flush.trans ?_
  simp [follow_done, eq_comm (a := Except.ok value), sinkResult_eq_ok]

private theorem succeeds_tryNext {value : Option Bytes} :
    Succeeds tryNext transcript value ↔ transcript = [.received (.ok value)] := by
  refine follow_receive.trans ?_
  simp [follow_done, eq_comm (a := Except.ok value), websocketResult_eq_ok]

private theorem succeeds_new {value : ServerChallenge} :
    Succeeds ServerChallenge.new transcript value ↔ transcript = [.drew value.challenge] := by
  refine follow_draw.trans ?_
  obtain ⟨challenge⟩ := value
  simp [follow_done, eq_comm (a := challenge)]

private theorem succeeds_writeFrame {format : FrameFormat Value} {frame : Value} {value : Unit} :
    Succeeds (writeFrame crates format frame) transcript value ↔
      transcript = [.sent (format.toBytes crates frame) none, .flushed none] := by
  unfold writeFrame
  rw [succeeds_bind]
  constructor
  · rintro ⟨first, second, middle, rfl, sent, flushed⟩
    rw [succeeds_send.mp sent, succeeds_flush.mp flushed]
    rfl
  · rintro rfl
    exact ⟨[.sent (format.toBytes crates frame) none], [.flushed none], (), rfl,
      succeeds_send.mpr rfl, succeeds_flush.mpr rfl⟩

private theorem succeeds_readFrame {expectedTypes : List FrameType} {value : FrameType × Bytes} :
    Succeeds (readFrame crates expectedTypes) transcript value ↔
      ∃ payload, transcript = [.received (.ok (some payload))] ∧
        FrameType.fromBytes crates.toCrates payload = .ok value ∧ value.1 ∈ expectedTypes := by
  unfold readFrame
  rw [succeeds_bind]
  constructor
  · rintro ⟨first, second, item, rfl, received, parsed⟩
    rw [succeeds_tryNext.mp received]
    cases item with
    | none => exact absurd parsed not_succeeds_throw
    | some payload =>
        cases typed : FrameType.fromBytes crates.toCrates payload with
        | error source =>
            simp only [typed] at parsed
            exact absurd parsed not_succeeds_throw
        | ok pair =>
            simp only [typed] at parsed
            split_ifs at parsed with expected
            · obtain ⟨rfl, rfl⟩ := succeeds_pure.mp parsed
              exact ⟨payload, rfl, typed, expected⟩
            · exact absurd parsed not_succeeds_throw
  · rintro ⟨payload, rfl, typed, expected⟩
    refine ⟨[.received (.ok (some payload))], [], some payload, rfl, succeeds_tryNext.mpr rfl, ?_⟩
    simp only [typed, expected, if_true]
    exact succeeds_pure.mpr ⟨rfl, rfl⟩

private theorem succeeds_deserializeFrame {format : FrameFormat Value} {frame : Bytes}
    {value : Value} :
    Succeeds (deserializeFrame format frame) transcript value ↔
      transcript = [] ∧ format.body.decode frame = some value := by
  unfold deserializeFrame
  cases format.body.decode frame with
  | none => simpa using not_succeeds_throw
  | some decoded => simpa [eq_comm] using succeeds_pure

def parseClientAuth (crates : HandshakeCrates) (bytes : Bytes) :
    Option (ClientAuth crates.ed25519) :=
  match FrameType.fromBytes crates.toCrates bytes with
  | .ok (.clientAuth, body) => crates.clientAuth.decode body
  | _ => none

def challengeTranscript (crates : HandshakeCrates) (challenge : ServerChallenge)
    (answer : Bytes) : Transcript :=
  [.drew challenge.challenge, .sent (crates.serverChallengeFrame.toBytes crates challenge) none,
    .flushed none, .received (.ok (some answer))]

theorem parseClientAuth_eq_some {bytes body : Bytes} {clientAuth : ClientAuth crates.ed25519}
    (typed : FrameType.fromBytes crates.toCrates bytes = .ok (.clientAuth, body)) :
    parseClientAuth crates bytes = some clientAuth ↔
      crates.clientAuth.decode body = some clientAuth := by
  simp only [parseClientAuth, typed]

private theorem fromBytes_of_parseClientAuth {bytes : Bytes}
    {clientAuth : ClientAuth crates.ed25519}
    (parsed : parseClientAuth crates bytes = some clientAuth) :
    ∃ body, FrameType.fromBytes crates.toCrates bytes = .ok (.clientAuth, body) := by
  unfold parseClientAuth at parsed
  split at parsed
  · next body typed => exact ⟨body, typed⟩
  · simp at parsed

theorem parseClientAuth_toBytes (clientAuth : ClientAuth crates.ed25519) :
    parseClientAuth crates (crates.clientAuthFrame.toBytes crates clientAuth) =
      some clientAuth := by
  have typed : FrameType.fromBytes crates.toCrates
      (crates.clientAuthFrame.toBytes crates clientAuth) =
        .ok (.clientAuth, crates.clientAuth.encode clientAuth) := by
    simp [FrameFormat.toBytes, FrameType.writeTo, HandshakeCrates.clientAuthFrame]
  exact (parseClientAuth_eq_some typed).mpr (crates.clientAuth.decode_encode clientAuth)

/-- The round trip succeeds exactly for an answer that verifies against the challenge
drawn in it. -/
theorem succeeds_challengeClient {result : SuccessfulAuthentication crates.ed25519} :
    Succeeds (challengeClient crates) transcript result ↔
      ∃ challenge answer clientAuth, transcript = challengeTranscript crates challenge answer ∧
        parseClientAuth crates answer = some clientAuth ∧
        clientAuth.verify challenge = .ok () ∧
        result = ⟨clientAuth.publicKey, .signedChallenge⟩ := by
  unfold challengeClient
  simp only [succeeds_bind]
  constructor
  · rintro ⟨_, _, challenge, rfl, drawn, _, _, _, rfl, written, _, _, ⟨frameType, body⟩, rfl, read,
      _, _, clientAuth, rfl, decoded, finished⟩
    obtain ⟨answer, rfl, typed, expected⟩ := succeeds_readFrame.mp read
    obtain ⟨rfl, deserialized⟩ := succeeds_deserializeFrame.mp decoded
    obtain rfl : frameType = .clientAuth := List.mem_singleton.mp expected
    rw [succeeds_new.mp drawn, succeeds_writeFrame.mp written]
    cases verified : clientAuth.verify challenge with
    | error reason =>
        simp only [verified, succeeds_bind] at finished
        obtain ⟨_, _, _, _, _, denied⟩ := finished
        exact absurd denied not_succeeds_throw
    | ok _ =>
        simp only [verified] at finished
        obtain ⟨rfl, rfl⟩ := succeeds_pure.mp finished
        exact ⟨challenge, answer, clientAuth, rfl, (parseClientAuth_eq_some typed).mpr deserialized,
          verified, rfl⟩
  · rintro ⟨challenge, answer, clientAuth, rfl, parsed, verified, rfl⟩
    obtain ⟨body, typed⟩ := fromBytes_of_parseClientAuth parsed
    refine ⟨_, _, challenge, rfl, succeeds_new.mpr rfl, _, _, (), rfl, succeeds_writeFrame.mpr rfl,
      [.received (.ok (some answer))], [], (.clientAuth, body), rfl,
      succeeds_readFrame.mpr ⟨answer, rfl, typed, List.mem_singleton.mpr rfl⟩, [], [], clientAuth,
      rfl, succeeds_deserializeFrame.mpr ⟨rfl, (parseClientAuth_eq_some typed).mp parsed⟩, ?_⟩
    simp only [verified]
    exact succeeds_pure.mpr ⟨rfl, rfl⟩

section Header

variable {exporter : Exporter} {value : Bytes} {clientAuth : KeyMaterialClientAuth crates.ed25519}

private theorem serverside_undecodable (invalid : fromHeaderValue crates value = none) :
    serverside crates exporter (some value) = throw (.clientAuthHeaderInvalid value) := by
  simp only [serverside, invalid]

theorem serverside_verified (decoded : fromHeaderValue crates value = some clientAuth)
    (verified : clientAuth.verify exporter = .ok ()) :
    serverside crates exporter (some value) = pure ⟨clientAuth.publicKey, .signedKeyMaterial⟩ := by
  simp only [serverside, decoded, verified]

theorem serverside_fallback (decoded : fromHeaderValue crates value = some clientAuth)
    {reason : VerificationError crates.ed25519}
    (failed : clientAuth.verify exporter = .error reason) :
    serverside crates exporter (some value) = challengeClient crates := by
  simp only [serverside, decoded, failed]

end Header

/-- The server accepts at once a header that verifies, and otherwise only what the
challenge establishes. A header that cannot be decoded is never accepted. -/
theorem succeeds_serverside {exporter : Exporter} {header : Option Bytes}
    {result : SuccessfulAuthentication crates.ed25519}
    (finished : Succeeds (serverside crates exporter header) transcript result) :
    (transcript = [] ∧ ∃ value clientAuth, header = some value ∧
      fromHeaderValue crates value = some clientAuth ∧ clientAuth.verify exporter = .ok () ∧
      result = ⟨clientAuth.publicKey, .signedKeyMaterial⟩) ∨
    ((∀ value, header = some value → ∃ clientAuth reason,
        fromHeaderValue crates value = some clientAuth ∧
        clientAuth.verify exporter = .error reason) ∧
      Succeeds (challengeClient crates) transcript result) := by
  cases header with
  | none => exact .inr ⟨by simp, finished⟩
  | some value =>
      cases decoded : fromHeaderValue crates value with
      | none =>
          rw [serverside_undecodable decoded] at finished
          exact absurd finished not_succeeds_throw
      | some clientAuth =>
          cases verified : clientAuth.verify exporter with
          | ok _ =>
              rw [serverside_verified decoded verified] at finished
              obtain ⟨rfl, rfl⟩ := succeeds_pure.mp finished
              exact .inl ⟨rfl, value, clientAuth, rfl, decoded, verified, rfl⟩
          | error reason =>
              rw [serverside_fallback decoded verified] at finished
              refine .inr ⟨fun other same => ?_, finished⟩
              cases same
              exact ⟨clientAuth, reason, decoded, verified⟩

end NexalinkTunnel.Relay.Protos.Handshake
