import NexalinkTunnel.Lib.Transition
import NexalinkTunnel.Relay.Protos.Handshake
import Mathlib.Logic.Function.Basic

/-!
Contract: the relay handshake authenticates its clients.

Owns the handshakes of one relay in a hostile network: any number of sessions in
any interleaving, each with any header and any frames, while key holders sign
what they please. Signatures are symbolic: nobody can present one that its
holder did not make. A challenge is fresh: nobody has signed for it before it
was drawn.

Does not own: how secret keys are kept, and that TLS sessions export different
keying material. The exporter is any partial function.
-/

namespace NexalinkTunnel.Relay.Protos.Handshake

open Lib
open Base

abbrev SessionId := Nat

/-- One handshake on the server: what it was started with, the dialogue so far, and
what is left to do. -/
structure Session (crates : HandshakeCrates) where
  exporter : Exporter
  header : Option Bytes
  transcript : Transcript
  rest : Dialogue (List.Vector UInt8 16) Bytes WebsocketError
    (Except Error (SuccessfulAuthentication crates.ed25519))

abbrev Sessions (crates : HandshakeCrates) := SessionId → Option (Session crates)

/-- A key holder signs a message, a client connects, or a session goes on. -/
inductive HandshakeAction (crates : HandshakeCrates) where
  | sign (key : PublicKey crates.ed25519) (message : Bytes)
  | connect (id : SessionId) (exporter : Exporter) (header : Option Bytes)
  | exchange (id : SessionId) (event : Exchange (List.Vector UInt8 16) Bytes WebsocketError)

variable {crates : HandshakeCrates}

def Session.new (exporter : Exporter) (header : Option Bytes) : Session crates :=
  ⟨exporter, header, [], (serverside crates exporter header).run⟩

def Session.advance (session : Session crates)
    (exchange : Exchange (List.Vector UInt8 16) Bytes WebsocketError) : Option (Session crates) :=
  (session.rest.resume exchange).map fun rest =>
    { session with transcript := session.transcript ++ [exchange], rest := rest }

def Sessions.perform (sessions : Sessions crates) : HandshakeAction crates → Sessions crates
  | .sign _ _ => sessions
  | .connect id exporter header => Function.update sessions id (some (.new exporter header))
  | .exchange id exchange =>
      match (sessions id).bind fun session => session.advance exchange with
      | none => sessions
      | some session => Function.update sessions id (some session)

/-- The holder of `key` has signed whatever `signature` verifies for. -/
def Unforged (history : List (HandshakeAction crates)) (key : PublicKey crates.ed25519)
    (signature : Signature) : Prop :=
  ∀ message, crates.verifyStrict key message signature = true → .sign key message ∈ history

def PermittedHeader (history : List (HandshakeAction crates)) (header : Option Bytes) : Prop :=
  ∀ value clientAuth, header = some value → fromHeaderValue crates value = some clientAuth →
    Unforged history clientAuth.publicKey clientAuth.signature

/-- Challenges are fresh, and answers carry no forged signature. -/
def PermittedExchange (history : List (HandshakeAction crates)) :
    Exchange (List.Vector UInt8 16) Bytes WebsocketError → Prop
  | .drew challenge => ∀ key,
      .sign key ((ServerChallenge.mk challenge).messageToSign crates) ∉ history
  | .received (.ok (some bytes)) => ∀ clientAuth, parseClientAuth crates bytes = some clientAuth →
      Unforged history clientAuth.publicKey clientAuth.signature
  | _ => True

def HandshakeAction.Allowed (history : List (HandshakeAction crates)) (sessions : Sessions crates) :
    HandshakeAction crates → Prop
  | .sign _ _ => True
  | .connect id _ header => sessions id = none ∧ PermittedHeader history header
  | .exchange id event =>
      ((sessions id).bind fun session => session.advance event).isSome ∧
        PermittedExchange history event

def handshakeMachine (crates : HandshakeCrates) :
    Machine (Sessions crates) (HandshakeAction crates) where
  start := fun _ => none
  Enabled history sessions action := action.Allowed history sessions
  step := Sessions.perform

/-! ## Sessions follow the protocol -/

/-- A session is what the server side of the handshake makes of its transcript, and
every part of it happened. -/
structure Traced (history : List (HandshakeAction crates)) (id : SessionId)
    (session : Session crates) : Prop where
  followed : (serverside crates session.exporter session.header).run.follow session.transcript =
    some session.rest
  connected : .connect id session.exporter session.header ∈ history
  exchanged : ∀ exchange ∈ session.transcript, .exchange id exchange ∈ history

namespace Traced

variable {history : List (HandshakeAction crates)} {id : SessionId} {session : Session crates}

private theorem new (exporter : Exporter) (header : Option Bytes) :
    Traced (history ++ [.connect id exporter header]) id (.new exporter header) where
  followed := rfl
  connected := by simp [Session.new]
  exchanged := by simp [Session.new]

private theorem append (traced : Traced history id session) (action : HandshakeAction crates) :
    Traced (history ++ [action]) id session where
  followed := traced.followed
  connected := List.mem_append_left _ traced.connected
  exchanged := fun exchange inside => List.mem_append_left _ (traced.exchanged exchange inside)

private theorem advance (traced : Traced history id session)
    {exchange : Exchange (List.Vector UInt8 16) Bytes WebsocketError} {next : Session crates}
    (advanced : session.advance exchange = some next) :
    Traced (history ++ [.exchange id exchange]) id next := by
  obtain ⟨rest, resumed, rfl⟩ := Option.map_eq_some_iff.mp advanced
  refine ⟨Dialogue.follow_snoc traced.followed resumed, ?_, fun earlier inside => ?_⟩
  · exact List.mem_append_left _ traced.connected
  · rcases List.mem_append.mp inside with old | new
    · exact List.mem_append_left _ (traced.exchanged earlier old)
    · rw [List.mem_singleton.mp new]
      simp

end Traced

theorem traced_of_reaches {history : List (HandshakeAction crates)} {sessions : Sessions crates}
    (reached : (handshakeMachine crates).Reaches history sessions) :
    ∀ id session, sessions id = some session → Traced history id session := by
  refine reached.invariant (fun history sessions => ∀ id session, sessions id = some session →
    Traced history id session) (by simp [handshakeMachine]) ?_
  intro history sessions action _ enabled traced id session present
  cases action with
  | sign key message => exact (traced id session present).append _
  | connect other exporter header =>
      by_cases same : id = other
      · subst same
        obtain rfl : Session.new exporter header = session := by
          simpa [handshakeMachine, Sessions.perform] using present
        exact .new exporter header
      · refine (traced id session ?_).append _
        simpa [handshakeMachine, Sessions.perform, same] using present
  | exchange other exchange =>
      obtain ⟨next, found⟩ := Option.isSome_iff_exists.mp enabled.1
      simp only [handshakeMachine, Sessions.perform, found] at present
      by_cases same : id = other
      · subst same
        obtain rfl : next = session := by simpa using present
        obtain ⟨earlier, running, advanced⟩ := Option.bind_eq_some_iff.mp found
        exact (traced id earlier running).advance advanced
      · exact (traced id session (by simpa [same] using present)).append _

section Authenticity

variable {history : List (HandshakeAction crates)} {sessions : Sessions crates}

theorem Unforged.append {before : List (HandshakeAction crates)} {key : PublicKey crates.ed25519}
    {signature : Signature} (unforged : Unforged before key signature)
    (after : List (HandshakeAction crates)) : Unforged (before ++ after) key signature :=
  fun message verified => List.mem_append_left _ (unforged message verified)

private theorem unforged_of_connect (reached : (handshakeMachine crates).Reaches history sessions)
    {id : SessionId} {exporter : Exporter} {value : Bytes}
    {clientAuth : KeyMaterialClientAuth crates.ed25519}
    (connected : .connect id exporter (some value) ∈ history)
    (decoded : fromHeaderValue crates value = some clientAuth) :
    Unforged history clientAuth.publicKey clientAuth.signature := by
  obtain ⟨before, after, rfl⟩ := List.append_of_mem connected
  obtain ⟨_, _, _, permitted⟩ := reached.enabled_at rfl
  exact (permitted value clientAuth rfl decoded).append _

private theorem unforged_of_received (reached : (handshakeMachine crates).Reaches history sessions)
    {id : SessionId} {bytes : Bytes} {clientAuth : ClientAuth crates.ed25519}
    (received : .exchange id (.received (.ok (some bytes))) ∈ history)
    (parsed : parseClientAuth crates bytes = some clientAuth) :
    Unforged history clientAuth.publicKey clientAuth.signature := by
  obtain ⟨before, after, rfl⟩ := List.append_of_mem received
  obtain ⟨_, _, _, permitted⟩ := reached.enabled_at rfl
  exact Unforged.append (permitted clientAuth parsed) _

/-- Who signed for a challenge did so after it was drawn. -/
theorem signed_after_draw (reached : (handshakeMachine crates).Reaches history sessions)
    {id : SessionId} {challenge : ServerChallenge} {key : PublicKey crates.ed25519}
    (drawn : .exchange id (.drew challenge.challenge) ∈ history)
    (signed : .sign key (challenge.messageToSign crates) ∈ history) :
    ∃ before after, history = before ++ .exchange id (.drew challenge.challenge) :: after ∧
      .sign key (challenge.messageToSign crates) ∈ after := by
  obtain ⟨before, after, rfl⟩ := List.append_of_mem drawn
  obtain ⟨_, _, _, fresh⟩ := reached.enabled_at rfl
  refine ⟨before, after, rfl, ?_⟩
  rcases List.mem_append.mp signed with early | late
  · exact absurd early (fresh key)
  · simpa using late

/-- Relay handshake authenticity. In every state that the handshakes of a relay reach
against any clients, a session that succeeded with a key either has a header
with the end of the key material that the server's own exporter gave for this
key, whose beginning the key's holder signed; or it completed the challenge
step, and after the challenge was drawn in this very session the key's holder
signed the key derived from it. Without a header that verifies, only the
challenge step leads to success. -/
theorem accepted_keys_are_proven (reached : (handshakeMachine crates).Reaches history sessions)
    {id : SessionId} {session : Session crates} {result : SuccessfulAuthentication crates.ed25519}
    (present : sessions id = some session) (accepted : session.rest = .done (.ok result)) :
    .connect id session.exporter session.header ∈ history ∧
    ((result.mechanism = .signedKeyMaterial ∧ ∃ value clientAuth keyMaterial,
        session.header = some value ∧ fromHeaderValue crates value = some clientAuth ∧
        clientAuth.publicKey = result.clientKey ∧
        session.exporter domainSepTlsExportLabel (some result.clientKey.asBytes) =
          some keyMaterial ∧
        clientAuth.keyMaterialSuffix.toList = keyMaterial.toList.drop 16 ∧
        .sign result.clientKey (keyMaterial.toList.take 16) ∈ history) ∨
      (result.mechanism = .signedChallenge ∧ ∃ challenge answer before after,
        session.transcript = challengeTranscript crates challenge answer ∧
        history = before ++ .exchange id (.drew challenge.challenge) :: after ∧
        .sign result.clientKey (challenge.messageToSign crates) ∈ after)) ∧
    ((∀ value clientAuth, session.header = some value →
        fromHeaderValue crates value = some clientAuth →
          clientAuth.verify session.exporter ≠ .ok ()) →
      ∃ challenge answer, session.transcript = challengeTranscript crates challenge answer) := by
  have traced := traced_of_reaches reached id session present
  have succeeded : Dialogue.Succeeds (serverside crates session.exporter session.header)
      session.transcript result := by
    rw [Dialogue.Succeeds, traced.followed, accepted]
  refine ⟨traced.connected, ?_⟩
  rcases succeeds_serverside succeeded with
    ⟨-, value, clientAuth, header, decoded, verified, rfl⟩ | ⟨-, challenged⟩
  · obtain ⟨keyMaterial, exported, suffix, signature⟩ :=
      KeyMaterialClientAuth.verify_eq_ok.mp verified
    have connected := traced.connected
    rw [header] at connected
    have signed := unforged_of_connect reached connected decoded _ signature
    refine ⟨.inl ⟨rfl, value, clientAuth, keyMaterial, header, decoded, rfl, exported,
      suffix.symm, signed⟩, fun unverified => ?_⟩
    exact absurd verified (unverified value clientAuth header decoded)
  · obtain ⟨challenge, answer, clientAuth, transcript, parsed, verified, rfl⟩ :=
      succeeds_challengeClient.mp challenged
    have exchanged := traced.exchanged
    rw [transcript] at exchanged
    have drawn := exchanged (.drew challenge.challenge) (by simp [challengeTranscript])
    have received := exchanged (.received (.ok (some answer))) (by simp [challengeTranscript])
    have signed := unforged_of_received reached received parsed _
      (ClientAuth.verify_eq_ok.mp verified)
    obtain ⟨before, after, split, late⟩ := signed_after_draw reached drawn signed
    exact ⟨.inr ⟨rfl, challenge, answer, before, after, transcript, split, late⟩,
      fun _ => ⟨challenge, answer, transcript⟩⟩

end Authenticity

def readArray (count : Nat) (bytes : Bytes) : Option (List.Vector UInt8 count × Bytes) :=
  (Bytes.tryIntoArray count (bytes.take count)).map fun array => (array, bytes.drop count)

theorem readArray_append {count : Nat} (array : List.Vector UInt8 count) (rest : Bytes) :
    readArray count (array.toList ++ rest) = some (array, rest) := by
  rw [readArray, List.take_left' array.toList_length, List.drop_left' array.toList_length,
    Bytes.tryIntoArray_of_length array.toList_length]
  rfl

theorem readArray_toList {count : Nat} (array : List.Vector UInt8 count) :
    readArray count array.toList = some (array, []) := by
  simpa using readArray_append array []

def readKey (ed : Ed25519) (bytes : Bytes) : Option (PublicKey ed × Bytes) := do
  let (array, rest) ← readArray publicKeyLength bytes
  let key ← (PublicKey.fromBytes array).toOption
  return (key, rest)

theorem readKey_append {ed : Ed25519} (key : PublicKey ed) (rest : Bytes) :
    readKey ed (key.asBytes ++ rest) = some (key, rest) := by
  simp [readKey, PublicKey.asBytes, readArray_append, Except.toOption]

/-- A signature is a byte string: its length, then its bytes. -/
def readSignature : Bytes → Option (Signature × Bytes)
  | 64 :: rest => readArray 64 rest
  | _ => none

def sampleChallenge : ServerChallenge :=
  ⟨⟨[0, 1, 2, 3, 4, 5, 6, 7, 8, 9, 10, 11, 12, 13, 14, 15], rfl⟩⟩

def sampleKeyBytes : List.Vector UInt8 publicKeyLength :=
  ⟨[25, 127, 107, 35, 225, 108, 133, 50, 198, 171, 200, 56, 250, 205, 94, 167, 137, 190, 12, 118,
    178, 146, 3, 52, 3, 155, 250, 139, 61, 54, 141, 97], rfl⟩

def sampleDerived : List.Vector UInt8 32 :=
  ⟨[183, 177, 110, 80, 93, 44, 181, 219, 175, 73, 72, 0, 9, 44, 59, 5, 166, 196, 93, 141, 63, 212,
    241, 184, 136, 198, 167, 114, 64, 184, 118, 192], rfl⟩

def sampleSignature : Signature :=
  ⟨[162, 139, 94, 188, 106, 147, 11, 93, 128, 173, 90, 202, 42, 142, 72, 173, 74, 6, 78, 105, 156,
    8, 102, 103, 76, 139, 142, 97, 165, 244, 234, 148, 14, 232, 185, 240, 103, 50, 147, 2, 80, 172,
    7, 53, 85, 90, 190, 119, 232, 223, 116, 1, 101, 237, 195, 22, 59, 228, 50, 240, 228, 243, 207,
    15], rfl⟩

def formats (ed : Ed25519) (verifyStrict : PublicKey ed → Bytes → Signature → Bool)
    (deriveKey : String → Bytes → List.Vector UInt8 32) : HandshakeCrates where
  toCrates := { Crates.reference with ed25519 := ed }
  verifyStrict := verifyStrict
  deriveKey := deriveKey
  base64UrlNopad := ⟨id, some, fun _ => rfl⟩
  keyMaterialClientAuth :=
    { encode auth := auth.publicKey.asBytes ++ 64 :: (auth.signature.toList ++
        auth.keyMaterialSuffix.toList)
      decode bytes := do
        let (publicKey, bytes) ← readKey _ bytes
        let (signature, bytes) ← readSignature bytes
        let (suffix, _) ← readArray 16 bytes
        return ⟨publicKey, signature, suffix⟩
      decode_encode := by
        intro auth
        simp [readKey_append, readSignature, readArray_append, readArray_toList] }
  serverChallenge :=
    { encode frame := frame.challenge.toList
      decode bytes := (readArray 16 bytes).map fun (challenge, _) => ⟨challenge⟩
      decode_encode := by
        intro frame
        simp [readArray_toList] }
  clientAuth :=
    { encode auth := auth.publicKey.asBytes ++ 64 :: auth.signature.toList
      decode bytes := do
        let (publicKey, bytes) ← readKey _ bytes
        let (signature, _) ← readSignature bytes
        return ⟨publicKey, signature⟩
      decode_encode := by
        intro auth
        simp [readKey_append, readSignature, readArray_toList] }
  serverDeniesAuth :=
    { encode frame := Bytes.ofString frame.reason
      decode bytes := (Bytes.toString? bytes).map ServerDeniesAuth.mk
      decode_encode := by
        intro frame
        simp }

/-- Crates that answer like the real ones in a session with this challenge, answered
under this key. -/
def sampleCrates : HandshakeCrates :=
  formats ⟨fun bytes => bytes = sampleKeyBytes⟩
    (fun key message written =>
      key.bytes = sampleKeyBytes ∧ message = sampleDerived.toList ∧ written = sampleSignature)
    fun context bytes =>
      if context = domainSepChallenge ∧ bytes = sampleChallenge.challenge.toList then
        sampleDerived
      else List.Vector.replicate 32 0

def sampleKey : PublicKey sampleCrates.ed25519 := ⟨sampleKeyBytes, by simp [sampleCrates, formats]⟩

private theorem sampleCrates_verifyStrict {key : PublicKey sampleCrates.ed25519} {message : Bytes}
    {written : Signature} :
    sampleCrates.verifyStrict key message written = true ↔
      key.bytes = sampleKeyBytes ∧ message = sampleDerived.toList ∧ written = sampleSignature :=
  decide_eq_true_iff

private theorem messageToSign_sampleChallenge :
    sampleChallenge.messageToSign sampleCrates = sampleDerived.toList := by
  simp [ServerChallenge.messageToSign, sampleCrates, formats]

/-- A client without a header answers the challenge, and is accepted. -/
theorem signer_accepted_after_challenge :
    let question := sampleCrates.serverChallengeFrame.toBytes sampleCrates sampleChallenge
    let answer := sampleCrates.clientAuthFrame.toBytes sampleCrates ⟨sampleKey, sampleSignature⟩
    let history : List (HandshakeAction sampleCrates) :=
      [.connect 1 (fun _ _ => none) none, .exchange 1 (.drew sampleChallenge.challenge),
        .exchange 1 (.sent question none), .exchange 1 (.flushed none),
        .sign sampleKey sampleDerived.toList,
        .exchange 1 (.received (.ok (some answer)))]
    let sessions := (handshakeMachine sampleCrates).runFrom (fun _ => none) history
    (handshakeMachine sampleCrates).Reaches history sessions ∧ ∃ session,
      sessions 1 = some session ∧ session.rest = .done (.ok ⟨sampleKey, .signedChallenge⟩) ∧
        ∃ before after, history = before ++ .exchange 1 (.drew sampleChallenge.challenge) :: after ∧
          .sign sampleKey sampleDerived.toList ∈ after := by
  intro question answer history sessions
  have parsed : parseClientAuth sampleCrates answer = some ⟨sampleKey, sampleSignature⟩ :=
    parseClientAuth_toBytes _
  have reached : (handshakeMachine sampleCrates).Reaches history sessions := by
    refine Machine.reaches_runFrom ⟨⟨rfl, by simp [PermittedHeader]⟩, ⟨by decide, ?_⟩,
      ⟨by decide, trivial⟩, ⟨by decide, trivial⟩, trivial, ⟨by decide, ?_⟩, trivial⟩
    · intro other
      simp
    · intro clientAuth found message verified
      cases parsed.symm.trans found
      rw [(sampleCrates_verifyStrict.mp verified).2.1]
      simp
  obtain ⟨session, present⟩ := Option.isSome_iff_exists.mp (by decide : (sessions 1).isSome)
  have traced := traced_of_reaches reached 1 session present
  obtain ⟨-, noHeader⟩ : session.exporter = (fun _ _ => none) ∧ session.header = none := by
    simpa [history] using traced.connected
  have transcript :
      session.transcript = challengeTranscript sampleCrates sampleChallenge answer := by
    have computed : (sessions 1).map Session.transcript =
        some (challengeTranscript sampleCrates sampleChallenge answer) := by decide
    simpa [present] using computed
  have verified : (ClientAuth.mk sampleKey sampleSignature : ClientAuth
      sampleCrates.ed25519).verify sampleChallenge = .ok () := by
    rw [ClientAuth.verify_eq_ok, messageToSign_sampleChallenge]
    exact sampleCrates_verifyStrict.mpr ⟨rfl, rfl, rfl⟩
  have accepted : session.rest = .done (.ok ⟨sampleKey, .signedChallenge⟩) := by
    have finished : Dialogue.Succeeds (serverside sampleCrates session.exporter session.header)
        session.transcript ⟨sampleKey, .signedChallenge⟩ := by
      rw [noHeader, transcript]
      exact succeeds_challengeClient.mpr ⟨sampleChallenge, answer, _, rfl, parsed, verified, rfl⟩
    exact Option.some.inj (traced.followed.symm.trans finished)
  obtain ⟨-, proven | ⟨-, drawn, answered, before, after, whole, split, late⟩, -⟩ :=
    accepted_keys_are_proven reached present accepted
  · simp at proven
  · have same : drawn = sampleChallenge := by
      have first := congrArg List.head? (whole.symm.trans transcript)
      simpa [challengeTranscript, ServerChallenge.ext_iff] using first
    rw [same] at split late
    rw [messageToSign_sampleChallenge] at late
    exact ⟨reached, session, present, accepted, before, after, split, late⟩

end NexalinkTunnel.Relay.Protos.Handshake
