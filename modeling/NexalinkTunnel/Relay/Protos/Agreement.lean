import NexalinkTunnel.Lib.Duplex
import NexalinkTunnel.Relay.Protos.Authenticity
import NexalinkTunnel.Relay.Protos.Relay

/-!
Contract: an honest client and an honest server agree on the outcome of the
relay handshake.

Owns the client side of `protos/handshake.rs`, the authorization that follows
`serverside`, the two composed as the HTTP server composes them, and where every
schedule of the two ends.

Does not own: signing. Beside what `Handshake` asks of the crates, a signature
of the holder of a key verifies under that key.
-/

namespace NexalinkTunnel.Relay.Protos.Handshake

open Lib
open Base

abbrev SecretKey := List.Vector UInt8 32

structure ServerConfirmsAuth where
deriving Repr

structure SigningCrates extends HandshakeCrates where
  /-- `SecretKey::public`. -/
  publicOf : SecretKey → PublicKey ed25519
  sign : SecretKey → Bytes → Signature
  serverConfirmsAuth : Serde ServerConfirmsAuth
  verify_sign : ∀ secretKey message,
    verifyStrict (publicOf secretKey) message (sign secretKey message) = true

/-- The key and the first bytes of the message. -/
def markedBy (key : List.Vector UInt8 32) (message : Bytes) : Signature :=
  ⟨key.toList ++ (message ++ List.replicate 32 0).take 32, by simp⟩

/-- Crates with these laws: a public key has the bytes of its secret, and a mark is a signature. -/
def SigningCrates.marking : SigningCrates where
  toHandshakeCrates := formats ⟨fun _ => true⟩
    (fun key message written => written = markedBy key.bytes message)
    fun _ bytes => ⟨(bytes ++ List.replicate 32 0).take 32, by simp⟩
  publicOf secretKey := ⟨secretKey, rfl⟩
  sign := markedBy
  serverConfirmsAuth := ⟨fun _ => [], fun _ => some ⟨⟩, fun _ => rfl⟩
  verify_sign _ _ := decide_eq_true rfl

def SigningCrates.serverConfirmsAuthFrame (crates : SigningCrates) :
    FrameFormat ServerConfirmsAuth :=
  ⟨.serverConfirmsAuth, crates.serverConfirmsAuth⟩

variable {crates : SigningCrates} {Value : Type}

/-- Generates a signature for the given challenge from the server. -/
def ClientAuth.new (crates : SigningCrates) (secretKey : SecretKey)
    (challenge : ServerChallenge) : ClientAuth crates.ed25519 :=
  ⟨crates.publicOf secretKey,
    crates.sign secretKey (challenge.messageToSign crates.toHandshakeCrates)⟩

/-- Generates a client's authentication by using TLS keying material. -/
def KeyMaterialClientAuth.new (crates : SigningCrates) (secretKey : SecretKey)
    (exporter : Exporter) : Option (KeyMaterialClientAuth crates.ed25519) :=
  let publicKey := crates.publicOf secretKey
  match exporter domainSepTlsExportLabel (some publicKey.asBytes) with
  | none => none
  | some keyMaterial =>
      some ⟨publicKey, crates.sign secretKey (keyMaterial.toList.take 16),
        ⟨keyMaterial.toList.drop 16, by simp⟩⟩

/-- Generate the base64url-nopad-encoded header value. -/
def KeyMaterialClientAuth.intoHeaderValue (crates : HandshakeCrates)
    (self : KeyMaterialClientAuth crates.ed25519) : Bytes :=
  crates.base64UrlNopad.encode (crates.keyMaterialClientAuth.encode self)

/-- The last `match` of `clientside`. Its third arm is `unreachable!`, and yields
nothing here. -/
def readVerdict (crates : SigningCrates) :
    FrameType × Bytes → Io (Option ServerConfirmsAuth)
  | (.serverConfirmsAuth, frame) => do
      let confirmation ← deserializeFrame crates.serverConfirmsAuthFrame frame
      pure (some confirmation)
  | (.serverDeniesAuth, frame) => do
      let denial ← deserializeFrame crates.serverDeniesAuthFrame frame
      throw (.serverDeniedAuth denial.reason)
  | _ => pure none

def clientside (crates : SigningCrates) (secretKey : SecretKey) :
    Io (Option ServerConfirmsAuth) := do
  let (tag, frame) ← readFrame crates.toHandshakeCrates
    [crates.serverChallengeFrame.tag, crates.serverConfirmsAuthFrame.tag,
      crates.serverDeniesAuthFrame.tag]
  let verdict ←
    if tag = crates.serverChallengeFrame.tag then do
      let challenge ← deserializeFrame crates.serverChallengeFrame frame
      let clientInfo := ClientAuth.new crates secretKey challenge
      writeFrame crates.toHandshakeCrates crates.clientAuthFrame clientInfo
      readFrame crates.toHandshakeCrates
        [crates.serverConfirmsAuthFrame.tag, crates.serverDeniesAuthFrame.tag]
    else pure (tag, frame)
  readVerdict crates verdict

inductive Access where
  | allow
  | deny (reason : Option String)
deriving Repr

structure ClientRequest (ed : Ed25519) where
  connectionId : Nat
  endpointId : EndpointId ed
  protocolVersion : ProtocolVersion

/-- Reports the disconnect of an admitted connection. -/
structure OnDisconnectGuard (ed : Ed25519) where
  endpointId : EndpointId ed
  connectionId : Nat

def OnDisconnectGuard.forAccessControl {ed : Ed25519} (request : ClientRequest ed) :
    OnDisconnectGuard ed :=
  ⟨request.endpointId, request.connectionId⟩

namespace SuccessfulAuthentication

def accept (crates : SigningCrates) (self : SuccessfulAuthentication crates.ed25519) :
    Io (PublicKey crates.ed25519) := do
  writeFrame crates.toHandshakeCrates crates.serverConfirmsAuthFrame ⟨⟩
  pure self.clientKey

def denialReason (reason : Option String) : String := reason.getD "not authorized"

def deny (crates : SigningCrates) (reason : Option String) :
    Dialogue (List.Vector UInt8 16) Bytes WebsocketError Error := do
  let denial : ServerDeniesAuth := ⟨denialReason reason⟩
  match ← (writeFrame crates.toHandshakeCrates crates.serverDeniesAuthFrame denial).run with
  | .error err => pure err
  | .ok () => pure (.serverDeniedAuth denial.reason)

/-- Authorizes a request and completes the authorization protocol. -/
def authorizeWith (crates : SigningCrates) (self : SuccessfulAuthentication crates.ed25519)
    (request : ClientRequest crates.ed25519)
    (accessControl : ClientRequest crates.ed25519 → Access) :
    Io (OnDisconnectGuard crates.ed25519) :=
  match accessControl request with
  | .allow => do
      let guard := OnDisconnectGuard.forAccessControl request
      let _ ← self.accept crates
      pure guard
  | .deny reason => ExceptT.mk do
      let error ← deny crates reason
      pure (.error error)

end SuccessfulAuthentication

/-- What the HTTP server's `accept` does with an authentication. The authentication is
part of the result also where the authorization fails. -/
def authorizeClient (crates : SigningCrates) (protocolVersion : ProtocolVersion)
    (connectionId : Nat) (accessControl : ClientRequest crates.ed25519 → Access)
    (authentication : SuccessfulAuthentication crates.ed25519) :
    Io (SuccessfulAuthentication crates.ed25519 ×
      Except Error (OnDisconnectGuard crates.ed25519)) := do
  let request : ClientRequest crates.ed25519 :=
    ⟨connectionId, authentication.clientKey, protocolVersion⟩
  let authorization ←
    ExceptT.lift (authentication.authorizeWith crates request accessControl).run
  pure (authentication, authorization)

/-- The handshake as the HTTP server's `accept` runs it. -/
def acceptHandshake (crates : SigningCrates) (exporter : Exporter)
    (clientAuthHeader : Option Bytes) (protocolVersion : ProtocolVersion) (connectionId : Nat)
    (accessControl : ClientRequest crates.ed25519 → Access) :
    Io (SuccessfulAuthentication crates.ed25519 ×
      Except Error (OnDisconnectGuard crates.ed25519)) := do
  let authentication ← serverside crates.toHandshakeCrates exporter clientAuthHeader
  authorizeClient crates protocolVersion connectionId accessControl authentication

/-! ## The header of an honest client -/

@[simp] theorem fromHeaderValue_intoHeaderValue {crates : HandshakeCrates}
    (auth : KeyMaterialClientAuth crates.ed25519) :
    fromHeaderValue crates (auth.intoHeaderValue crates) = some auth := by
  simp [fromHeaderValue, KeyMaterialClientAuth.intoHeaderValue,
    crates.base64UrlNopad.decode_encode, crates.keyMaterialClientAuth.decode_encode]

private theorem ClientAuth.verify_new (secretKey : SecretKey) (challenge : ServerChallenge) :
    (ClientAuth.new crates secretKey challenge).verify challenge = .ok () :=
  ClientAuth.verify_eq_ok.mpr (crates.verify_sign secretKey _)

/-- The two ends export keying material for the key on which the server will accept the
client's signature. -/
def Shared (crates : SigningCrates) (secretKey : SecretKey)
    (clientExporter serverExporter : Exporter) : Prop :=
  ∃ client server,
    clientExporter domainSepTlsExportLabel (some (crates.publicOf secretKey).asBytes) =
      some client ∧
    serverExporter domainSepTlsExportLabel (some (crates.publicOf secretKey).asBytes) =
      some server ∧
    (client = server ∨ client.toList.drop 16 = server.toList.drop 16 ∧
      crates.verifyStrict (crates.publicOf secretKey) (server.toList.take 16)
        (crates.sign secretKey (client.toList.take 16)) = true)

variable {secretKey : SecretKey} {clientExporter serverExporter : Exporter}

private theorem KeyMaterialClientAuth.eq_of_new {auth : KeyMaterialClientAuth crates.ed25519}
    (made : KeyMaterialClientAuth.new crates secretKey clientExporter = some auth) :
    ∃ client, clientExporter domainSepTlsExportLabel
        (some (crates.publicOf secretKey).asBytes) = some client ∧
      auth = ⟨crates.publicOf secretKey, crates.sign secretKey (client.toList.take 16),
        ⟨client.toList.drop 16, by simp⟩⟩ := by
  unfold KeyMaterialClientAuth.new at made
  cases exported : clientExporter domainSepTlsExportLabel
      (some (crates.publicOf secretKey).asBytes) with
  | none => simp [exported] at made
  | some client =>
      simp only [exported, Option.some.injEq] at made
      exact ⟨client, rfl, made.symm⟩

private theorem shared_iff_verify {auth : KeyMaterialClientAuth crates.ed25519}
    (made : KeyMaterialClientAuth.new crates secretKey clientExporter = some auth) :
    Shared crates secretKey clientExporter serverExporter ↔
      auth.verify serverExporter = .ok () := by
  obtain ⟨client, exported, rfl⟩ := KeyMaterialClientAuth.eq_of_new made
  rw [KeyMaterialClientAuth.verify_eq_ok]
  constructor
  · intro shared
    obtain ⟨own, server, ownExported, serverExported, agree⟩ := shared
    obtain rfl : client = own := Option.some.inj (exported.symm.trans ownExported)
    apply Exists.intro server
    rcases agree with rfl | ⟨sameSuffix, verified⟩
    · exact ⟨serverExported, rfl, crates.verify_sign secretKey _⟩
    · exact ⟨serverExported, sameSuffix.symm, verified⟩
  · intro verified
    obtain ⟨server, serverExported, sameSuffix, signed⟩ := verified
    exact ⟨client, server, exported, serverExported, .inr ⟨sameSuffix.symm, signed⟩⟩

private theorem not_shared_of_new_eq_none
    (absent : KeyMaterialClientAuth.new crates secretKey clientExporter = none) :
    ¬ Shared crates secretKey clientExporter serverExporter := by
  intro shared
  obtain ⟨client, server, exported, -⟩ := shared
  simp [KeyMaterialClientAuth.new, exported] at absent

/-! ## One frame after the other -/

open Duplex

section Frames

variable {Left Right Result : Type} {Good : Left → Right → Prop} {inbox : List Bytes}
  {left : Party (List.Vector UInt8 16) Bytes WebsocketError Left}
  {right : Party (List.Vector UInt8 16) Bytes WebsocketError Right}
  {format : FrameFormat Value} {value : Value} {expectedTypes : List FrameType}

private theorem fromBytes_toBytes {crates : HandshakeCrates} (format : FrameFormat Value)
    (value : Value) :
    FrameType.fromBytes crates.toCrates (format.toBytes crates value) =
      .ok (format.tag, format.body.encode value) := by
  simp [FrameFormat.toBytes, FrameType.writeTo]

@[simp] theorem deserializeFrame_encode (format : FrameFormat Value) (value : Value) :
    deserializeFrame format (format.body.encode value) = pure value := by
  simp [deserializeFrame, format.body.decode_encode]

/-- What `readFrame` makes of a frame that its peer wrote. -/
theorem readFrame_next {crates : HandshakeCrates} (expectedTypes : List FrameType)
    (rest : FrameType × Bytes → Io Result) :
    ∃ next, (readFrame crates expectedTypes >>= rest).run = .receive next ∧
      ∀ {Value : Type} (format : FrameFormat Value) (value : Value),
        format.tag ∈ expectedTypes →
          next (.ok (some (format.toBytes crates value))) =
            (rest (format.tag, format.body.encode value)).run := by
  refine ⟨_, rfl, ?_⟩
  intro Value format value expected
  simp only [websocketResult, Dialogue.bind, ExceptT.bindCont, fromBytes_toBytes, expected,
    if_true]
  rfl

private theorem ends_left_writeFrame {crates : HandshakeCrates}
    {rest : Unit → Io Result} {Good : Except Error Result → Right → Prop}
    (ends : Ends Good ⟨⟨(rest ()).run, inbox⟩, right.deliver [format.toBytes crates value]⟩) :
    Ends Good ⟨⟨(writeFrame crates format value >>= rest).run, inbox⟩, right⟩ :=
  Ends.left_send (Ends.left_flush ends)

private theorem ends_right_writeFrame {crates : HandshakeCrates}
    {rest : Unit → Io Result} {Good : Left → Except Error Result → Prop}
    (ends : Ends Good ⟨left.deliver [format.toBytes crates value], ⟨(rest ()).run, inbox⟩⟩) :
    Ends Good ⟨left, ⟨(writeFrame crates format value >>= rest).run, inbox⟩⟩ :=
  Ends.right_send (Ends.right_flush ends)

private theorem ends_left_readFrame {crates : HandshakeCrates}
    (expected : format.tag ∈ expectedTypes)
    {rest : FrameType × Bytes → Io Result} {Good : Except Error Result → Right → Prop}
    (ends : Ends Good ⟨⟨(rest (format.tag, format.body.encode value)).run, inbox⟩, right⟩) :
    Ends Good ⟨⟨(readFrame crates expectedTypes >>= rest).run,
      format.toBytes crates value :: inbox⟩, right⟩ := by
  obtain ⟨next, shape, continues⟩ := @readFrame_next _ crates expectedTypes rest
  rw [shape]
  apply Ends.left_receive
  rw [continues format value expected]
  exact ends

private theorem ends_right_readFrame {crates : HandshakeCrates}
    (expected : format.tag ∈ expectedTypes)
    {rest : FrameType × Bytes → Io Result} {Good : Left → Except Error Result → Prop}
    (ends : Ends Good ⟨left, ⟨(rest (format.tag, format.body.encode value)).run, inbox⟩⟩) :
    Ends Good ⟨left, ⟨(readFrame crates expectedTypes >>= rest).run,
      format.toBytes crates value :: inbox⟩⟩ := by
  obtain ⟨next, shape, continues⟩ := @readFrame_next _ crates expectedTypes rest
  rw [shape]
  apply Ends.right_receive
  rw [continues format value expected]
  exact ends

end Frames

/-- Client and server agree on how the handshake ended. `authorization` is what
`authorize_with` returned on the server. -/
structure Agreement (crates : SigningCrates) (secretKey : SecretKey)
    (clientExporter serverExporter : Exporter) (connectionId : Nat) (decision : Access)
    (client : Except Error (Option ServerConfirmsAuth))
    (authentication : SuccessfulAuthentication crates.ed25519)
    (authorization : Except Error (OnDisconnectGuard crates.ed25519)) : Prop where
  clientKey : authentication.clientKey = crates.publicOf secretKey
  mechanism : authentication.mechanism = .signedKeyMaterial ↔
    Shared crates secretKey clientExporter serverExporter
  confirmed : (∃ confirmation, client = .ok confirmation) ↔ ∃ guard, authorization = .ok guard
  /-- The `unreachable!` of the client is not reached. -/
  reachable : client ≠ .ok none
  admitted : decision = .allow →
    authorization = .ok ⟨crates.publicOf secretKey, connectionId⟩
  denied : ∀ reason, decision = .deny reason →
    client = .error (.serverDeniedAuth (SuccessfulAuthentication.denialReason reason)) ∧
    authorization = .error (.serverDeniedAuth (SuccessfulAuthentication.denialReason reason))
  expected : ∀ frameType expectedTypes,
    client ≠ .error (.unexpectedFrameType frameType expectedTypes) ∧
    authorization ≠ .error (.unexpectedFrameType frameType expectedTypes)

/-- The server authenticated the client, and both agree. -/
def Agreed (crates : SigningCrates) (secretKey : SecretKey)
    (clientExporter serverExporter : Exporter) (protocolVersion : ProtocolVersion)
    (connectionId : Nat) (accessControl : ClientRequest crates.ed25519 → Access)
    (client : Except Error (Option ServerConfirmsAuth))
    (server : Except Error (SuccessfulAuthentication crates.ed25519 ×
      Except Error (OnDisconnectGuard crates.ed25519))) : Prop :=
  ∃ authentication authorization, server = .ok (authentication, authorization) ∧
    Agreement crates secretKey clientExporter serverExporter connectionId
      (accessControl ⟨connectionId, crates.publicOf secretKey, protocolVersion⟩) client
      authentication authorization

/-- The client's next request is a frame, and it takes a verdict for what it is. -/
def AwaitsVerdict (crates : SigningCrates)
    (client : Dialogue (List.Vector UInt8 16) Bytes WebsocketError
      (Except Error (Option ServerConfirmsAuth))) : Prop :=
  ∃ next, client = .receive next ∧
    next (.ok (some (crates.serverConfirmsAuthFrame.toBytes crates.toHandshakeCrates ⟨⟩))) =
      .done (.ok (some ⟨⟩)) ∧
    ∀ denial, next (.ok (some
        (crates.serverDeniesAuthFrame.toBytes crates.toHandshakeCrates denial))) =
      .done (.error (.serverDeniedAuth denial.reason))

theorem awaitsVerdict_readFrame {expectedTypes : List FrameType}
    {rest : FrameType × Bytes → Io (Option ServerConfirmsAuth)}
    (confirms : FrameType.serverConfirmsAuth ∈ expectedTypes)
    (denies : FrameType.serverDeniesAuth ∈ expectedTypes)
    (onConfirmation : ∀ frame, rest (.serverConfirmsAuth, frame) =
      readVerdict crates (.serverConfirmsAuth, frame))
    (onDenial : ∀ frame, rest (.serverDeniesAuth, frame) =
      readVerdict crates (.serverDeniesAuth, frame)) :
    AwaitsVerdict crates (readFrame crates.toHandshakeCrates expectedTypes >>= rest).run := by
  obtain ⟨next, shape, continues⟩ := @readFrame_next _ crates.toHandshakeCrates expectedTypes rest
  apply Exists.intro next
  apply And.intro shape
  constructor
  · rw [continues crates.serverConfirmsAuthFrame ⟨⟩ confirms]
    have decoded := deserializeFrame_encode crates.serverConfirmsAuthFrame ⟨⟩
    simp only [SigningCrates.serverConfirmsAuthFrame, onConfirmation, readVerdict] at decoded ⊢
    rw [decoded]
    rfl
  · intro denial
    rw [continues crates.serverDeniesAuthFrame denial denies]
    have decoded := deserializeFrame_encode crates.serverDeniesAuthFrame denial
    simp only [HandshakeCrates.serverDeniesAuthFrame, onDenial, readVerdict] at decoded ⊢
    rw [decoded]
    rfl

section Composition

variable {protocolVersion : ProtocolVersion} {connectionId : Nat}
  {accessControl : ClientRequest crates.ed25519 → Access}

/-- Once the client is authenticated, every access decision reaches it. -/
theorem ends_authorizeClient {mechanism : Mechanism}
    {client : Dialogue (List.Vector UInt8 16) Bytes WebsocketError
      (Except Error (Option ServerConfirmsAuth))}
    (awaits : AwaitsVerdict crates client)
    (mechanismIff : mechanism = .signedKeyMaterial ↔
      Shared crates secretKey clientExporter serverExporter) :
    Ends (Agreed crates secretKey clientExporter serverExporter protocolVersion connectionId
        accessControl)
      (begin client (authorizeClient crates protocolVersion connectionId accessControl
        ⟨crates.publicOf secretKey, mechanism⟩).run) := by
  unfold begin authorizeClient
  obtain ⟨next, rfl, onConfirmation, onDenial⟩ := awaits
  unfold SuccessfulAuthentication.authorizeWith
  cases decided : accessControl ⟨connectionId, crates.publicOf secretKey, protocolVersion⟩ with
  | allow =>
      simp only [decided]
      apply Ends.right_send
      apply Ends.right_flush
      apply Ends.left_receive
      rw [onConfirmation]
      apply Ends.done
      refine ⟨_, _, rfl, ?_⟩
      exact
        { clientKey := rfl
          mechanism := mechanismIff
          confirmed := by simp
          reachable := by simp
          admitted := fun _ => rfl
          denied := by simp [decided]
          expected := by simp }
  | deny reason =>
      simp only [decided]
      apply Ends.right_send
      apply Ends.right_flush
      apply Ends.left_receive
      rw [onDenial]
      apply Ends.done
      refine ⟨_, _, rfl, ?_⟩
      exact
        { clientKey := rfl
          mechanism := mechanismIff
          confirmed := by simp
          reachable := by simp
          admitted := by simp [decided]
          denied := by simp [decided]
          expected := by simp }

private theorem clientside_awaitsVerdict :
    AwaitsVerdict crates (clientside crates secretKey).run := by
  apply awaitsVerdict_readFrame
  · simp [SigningCrates.serverConfirmsAuthFrame]
  · simp [HandshakeCrates.serverDeniesAuthFrame]
  · intro frame
    rfl
  · intro frame
    rfl

/-- The round trip with a challenge, whichever challenge is drawn. -/
theorem ends_challengeClient (apart : ¬ Shared crates secretKey clientExporter serverExporter) :
    Ends (Agreed crates secretKey clientExporter serverExporter protocolVersion connectionId
        accessControl)
      (begin (clientside crates secretKey).run
        (challengeClient crates.toHandshakeCrates >>=
          authorizeClient crates protocolVersion connectionId accessControl).run) := by
  unfold challengeClient begin
  simp only [bind_assoc]
  apply Ends.right_draw
  intro drawn
  apply ends_right_writeFrame
  apply ends_left_readFrame (List.mem_cons_self)
  simp only [if_true, deserializeFrame_encode, pure_bind]
  apply ends_left_writeFrame
  apply ends_right_readFrame (List.mem_singleton_self _)
  simp only [deserializeFrame_encode, pure_bind, ClientAuth.verify_new]
  apply ends_authorizeClient
  · apply awaitsVerdict_readFrame
    · simp [SigningCrates.serverConfirmsAuthFrame]
    · simp [HandshakeCrates.serverDeniesAuthFrame]
    · intro frame
      rfl
    · intro frame
      rfl
  · simp [apart]

end Composition

/-- Agreement of the relay handshake. For every secret key, whatever the two TLS
exporters yield, every access decision and every schedule of the two sides, the
handshake comes to an end in which client and server agree. -/
theorem handshake_reaches_agreement (crates : SigningCrates) (secretKey : SecretKey)
    (clientExporter serverExporter : Exporter) (protocolVersion : ProtocolVersion)
    (connectionId : Nat) (accessControl : ClientRequest crates.ed25519 → Access) :
    Ends
      (Agreed crates secretKey clientExporter serverExporter protocolVersion connectionId
        accessControl)
      (begin (clientside crates secretKey).run
        (acceptHandshake crates serverExporter
          ((KeyMaterialClientAuth.new crates secretKey clientExporter).map
            (KeyMaterialClientAuth.intoHeaderValue crates.toHandshakeCrates))
          protocolVersion connectionId accessControl).run) := by
  unfold acceptHandshake
  cases made : KeyMaterialClientAuth.new crates secretKey clientExporter with
  | none => exact ends_challengeClient (not_shared_of_new_eq_none made)
  | some auth =>
      have decoded := fromHeaderValue_intoHeaderValue auth
      rw [Option.map_some]
      cases verified : auth.verify serverExporter with
      | ok =>
          have key : auth.publicKey = crates.publicOf secretKey := by
            obtain ⟨client, -, rfl⟩ := KeyMaterialClientAuth.eq_of_new made
            rfl
          rw [serverside_verified decoded verified, pure_bind, key]
          apply ends_authorizeClient clientside_awaitsVerdict
          simp [shared_iff_verify made, verified]
      | error reason =>
          rw [serverside_fallback decoded verified]
          apply ends_challengeClient
          simp [shared_iff_verify made, verified]

/-- Of two clients with different keys, one connects without a header. In some run it is
challenged, confirmed and admitted under its own key. -/
theorem marking_reaches_agreement :
    let crates := SigningCrates.marking
    let secretKey : SecretKey := List.Vector.replicate 32 1
    let key := crates.publicOf secretKey
    key ≠ crates.publicOf (List.Vector.replicate 32 2) ∧
      Relation.ReflTransGen Step
        (begin (clientside crates secretKey).run
          (acceptHandshake crates (fun _ _ => none) none .v1 7 fun _ => .allow).run)
        ⟨⟨.done (.ok (some ⟨⟩)), []⟩,
          ⟨.done (.ok (⟨key, .signedChallenge⟩, .ok ⟨key, 7⟩)), []⟩⟩ := by
  intro crates secretKey key
  refine ⟨by decide, ?_⟩
  obtain ⟨client, server, run, authentication, authorization, rfl, agreement⟩ :=
    (handshake_reaches_agreement crates secretKey (fun _ _ => none) (fun _ _ => none) .v1 7
      fun _ => .allow).exists_run
  have admitted := agreement.admitted rfl
  obtain ⟨confirmation, rfl⟩ := agreement.confirmed.mpr ⟨_, admitted⟩
  have challenged : authentication.mechanism = .signedChallenge := by
    cases mechanism : authentication.mechanism with
    | signedChallenge => rfl
    | signedKeyMaterial =>
        obtain ⟨_, _, exported, -⟩ := agreement.mechanism.mp mechanism
        cases exported
  obtain ⟨confirmed, rfl⟩ : ∃ confirmed, confirmation = some confirmed :=
    Option.ne_none_iff_exists'.mp fun none => agreement.reachable (congrArg _ none)
  obtain ⟨clientKey, mechanism⟩ := authentication
  obtain rfl : clientKey = key := agreement.clientKey
  cases challenged
  rw [admitted] at run
  exact run

end NexalinkTunnel.Relay.Protos.Handshake
