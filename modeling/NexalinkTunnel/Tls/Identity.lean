import NexalinkTunnel.Base.KeyText

/-!
Contract: the identity of the peer of a QUIC connection.

Owns the server names of endpoints, the raw public keys that endpoints present, the
verifiers of both sides of a handshake, and the endpoint id that a connection reports.

Does not own: TLS, which hands the message of the handshake and what the peer presented to
the verifiers, and DER. A raw public key of any other form than that of an Ed25519 key is
refused.
-/

namespace NexalinkTunnel.Tls

open Lib Base Encodings

variable {ed : Ed25519}

namespace Name

variable [Encodings]

def encode (endpointId : EndpointId ed) : String :=
  base32Dnssec.encode endpointId.asBytes ++ ".iroh.invalid"

def decode (name : String) : Option (EndpointId ed) :=
  match Text.split '.' name with
  | [label, second, third] =>
      if second = "iroh" ∧ third = "invalid" then do
        let bytes ← base32Dnssec.decode label
        let key ← Bytes.tryIntoArray publicKeyLength bytes
        (PublicKey.fromBytes key).toOption
      else none
  | _ => none

private theorem split_encode (endpointId : EndpointId ed) :
    Text.split '.' (encode endpointId) =
      [base32Dnssec.encode endpointId.asBytes, "iroh", "invalid"] := by
  have free : '.' ∉ (base32Dnssec.encode endpointId.asBytes).toList := fun inside =>
    absurd (base32Dnssec.mem_symbols inside) (by decide)
  have parts : encode endpointId = base32Dnssec.encode endpointId.asBytes ++
      String.singleton '.' ++ ("iroh" ++ String.singleton '.' ++ "invalid") := by
    rw [encode, String.append_assoc]
    rfl
  rw [parts, Text.split_append free, Text.split_append (by decide),
    Text.split_of_not_mem (by decide)]

private theorem decode_encode (endpointId : EndpointId ed) :
    decode (encode endpointId) = some endpointId := by
  unfold decode
  rw [split_encode]
  dsimp only
  rw [if_pos ⟨rfl, rfl⟩, base32Dnssec.decode_encode]
  simp [Bytes.tryIntoArray, PublicKey.asBytes, Except.toOption]

end Name

inductive TlsError where
  | unsupportedNameType
  | noCertificatesPresented
  | notValidForName
  | unknownIssuer
  | unadvertisedSigScheme
  | badEncoding
  | badSignature
deriving DecidableEq, Repr

inductive ServerName where
  | dnsName (name : String)
  | ipAddress

inductive SignatureScheme where
  | ed25519
  | other (code : UInt16)
deriving DecidableEq, Repr

abbrev Signature := List.Vector UInt8 64

abbrev Verify (ed : Ed25519) := PublicKey ed → Bytes → Signature → Bool

def verifySignature (verify : Verify ed) (publicKey message signature : Bytes) : Bool :=
  match PublicKey.tryFrom publicKey, Bytes.tryIntoArray 64 signature with
  | .ok key, some signature => verify key message signature
  | _, _ => false

private theorem verifySignature_iff {verify : Verify ed} {publicKey message signature : Bytes} :
    verifySignature verify publicKey message signature = true ↔
      ∃ (key : PublicKey ed) (made : Signature), key.asBytes = publicKey ∧
        made.toList = signature ∧ verify key message made = true := by
  unfold verifySignature
  constructor
  · intro valid
    split at valid
    next key made parsed array =>
      refine ⟨key, made, PublicKey.tryFrom_eq_ok.mp parsed, ?_, valid⟩
      unfold Bytes.tryIntoArray at array
      split at array
      · cases array
        rfl
      · cases array
    next => cases valid
  · rintro ⟨key, made, rfl, rfl, valid⟩
    have length : made.toList.length = 64 := made.2
    rw [PublicKey.tryFrom_asBytes, Bytes.tryIntoArray_of_length length]
    exact valid

private theorem bind_eq_ok {first second : Except TlsError Unit} :
    (first.bind fun _ => second) = .ok () ↔ first = .ok () ∧ second = .ok () := by
  cases first <;> simp [Except.bind]

/-- Subject public key infos of Ed25519 keys, as TLS libraries write and read them. -/
class Spki where
  ofKey : KeyBytes → Bytes
  key : Bytes → Option Bytes
  key_eq_some : ∀ {spki : Bytes} {bytes : KeyBytes},
    key spki = some bytes.toList ↔ spki = ofKey bytes

/-- What DER has before the bytes of an Ed25519 key. -/
def derPrefix : Bytes := [0x30, 0x2a, 0x30, 0x05, 0x06, 0x03, 0x2b, 0x65, 0x70, 0x03, 0x21, 0x00]

@[reducible] def Spki.der : Spki where
  ofKey bytes := derPrefix ++ bytes.toList
  key spki := if spki.take 12 = derPrefix then some (spki.drop 12) else none
  key_eq_some := by
    intro spki bytes
    rw [Option.ite_none_right_eq_some, Option.some_inj]
    constructor
    · rintro ⟨start, rest⟩
      rw [← start, ← rest, List.take_append_drop]
    · rintro rfl
      exact ⟨List.take_left' rfl, List.drop_left' rfl⟩

variable [Spki]

def publicKeyToSpki (key : PublicKey ed) : Bytes := Spki.ofKey key.bytes

theorem key_publicKeyToSpki (key : PublicKey ed) :
    Spki.key (publicKeyToSpki key) = some key.asBytes :=
  Spki.key_eq_some.mpr rfl

private theorem publicKeyToSpki_injective {left right : PublicKey ed}
    (same : publicKeyToSpki left = publicKeyToSpki right) : left = right := by
  have bytes : some left.asBytes = some right.asBytes := by
    rw [← key_publicKeyToSpki left, same, key_publicKeyToSpki]
  exact PublicKey.ext (Subtype.ext (Option.some.inj bytes))

/-- What a peer presents: its certificates, which are raw public keys, and a signature of the
handshake so far. -/
structure Presented where
  certs : List Bytes
  scheme : SignatureScheme
  signature : Bytes

def verifyServerCert [Encodings] (ed : Ed25519) (endEntity : Bytes) (intermediates : List Bytes) :
    ServerName → Except TlsError Unit
  | .ipAddress => .error .unsupportedNameType
  | .dnsName name =>
      match (Name.decode name : Option (EndpointId ed)) with
      | none => .error .notValidForName
      | some remotePeerId =>
          if intermediates ≠ [] then .error .unknownIssuer
          else if publicKeyToSpki remotePeerId ≠ endEntity then .error .unknownIssuer
          else .ok ()

def verifyClientCert (intermediates : List Bytes) : Except TlsError Unit :=
  if intermediates ≠ [] then .error .unknownIssuer else .ok ()

/-- The `verify_tls13_signature` of both verifiers. -/
def verifyTls13Signature (verify : Verify ed) (message cert : Bytes) (scheme : SignatureScheme)
    (signature : Bytes) : Except TlsError Unit :=
  match Spki.key cert with
  | none => .error .badEncoding
  | some publicKey =>
      if scheme ≠ .ed25519 then .error .unadvertisedSigScheme
      else if verifySignature verify publicKey message signature then .ok ()
      else .error .badSignature

/-- What TLS checks of a peer: its certificate, and then the signature. -/
def verifyPeer (verifyCert : Bytes → List Bytes → Except TlsError Unit) (verify : Verify ed)
    (message : Bytes) (presented : Presented) : Except TlsError Unit :=
  match presented.certs with
  | [] => .error .noCertificatesPresented
  | endEntity :: intermediates => do
      verifyCert endEntity intermediates
      verifyTls13Signature verify message endEntity presented.scheme presented.signature

def verifyServer [Encodings] (verify : Verify ed) (serverName : ServerName) :
    Bytes → Presented → Except TlsError Unit :=
  verifyPeer (verifyServerCert ed · · serverName) verify

def verifyClient (verify : Verify ed) : Bytes → Presented → Except TlsError Unit :=
  verifyPeer (fun _ intermediates => verifyClientCert intermediates) verify

/-- `remote_id_from_noq_conn`, of the certificates that the peer presented. -/
def remoteIdFromNoqConn (certs : List Bytes) : Option (EndpointId ed) :=
  match certs with
  | [cert] => (Spki.key cert).bind fun key => (PublicKey.tryFrom key).toOption
  | _ => none

/-! ## Who is at the other end -/

section Identity

variable {verify : Verify ed} {message : Bytes} {presented : Presented} {id : EndpointId ed}

/-- The presented key is this one, and so is that of the signature. -/
def Presented.By (presented : Presented) (verify : Verify ed) (message : Bytes)
    (id : EndpointId ed) : Prop :=
  ∃ signature : Signature, presented = ⟨[publicKeyToSpki id], .ed25519, signature.toList⟩ ∧
    verify id message signature = true

private theorem verifyTls13Signature_eq_ok {cert signature : Bytes} {scheme : SignatureScheme} :
    verifyTls13Signature verify message cert scheme signature = .ok () ↔
      ∃ (key : PublicKey ed) (made : Signature), cert = publicKeyToSpki key ∧
        scheme = .ed25519 ∧ signature = made.toList ∧ verify key message made = true := by
  unfold verifyTls13Signature
  constructor
  · intro accepted
    split at accepted
    next => cases accepted
    next publicKey found =>
      split at accepted
      · cases accepted
      next supported =>
        split at accepted
        next valid =>
          obtain ⟨key, made, rfl, rfl, signed⟩ := verifySignature_iff.mp valid
          exact ⟨key, made, Spki.key_eq_some.mp found, not_not.mp supported, rfl, signed⟩
        next => cases accepted
  · rintro ⟨key, made, rfl, rfl, rfl, valid⟩
    rw [key_publicKeyToSpki]
    dsimp only
    rw [if_neg (by simp), if_pos (verifySignature_iff.mpr ⟨key, made, rfl, rfl, valid⟩)]

private theorem verifyPeer_eq_ok {verifyCert : Bytes → List Bytes → Except TlsError Unit}
    {Takes : Bytes → Prop} (takes : ∀ endEntity intermediates,
      verifyCert endEntity intermediates = .ok () ↔ intermediates = [] ∧ Takes endEntity) :
    verifyPeer verifyCert verify message presented = .ok () ↔
      ∃ id : EndpointId ed, Takes (publicKeyToSpki id) ∧ presented.By verify message id := by
  obtain ⟨certs, scheme, signature⟩ := presented
  cases certs with
  | nil => simp [verifyPeer, Presented.By]
  | cons endEntity intermediates =>
      refine bind_eq_ok.trans ?_
      rw [takes, verifyTls13Signature_eq_ok]
      constructor
      · rintro ⟨⟨rfl, taken⟩, key, made, rfl, rfl, rfl, valid⟩
        exact ⟨key, taken, made, rfl, valid⟩
      · rintro ⟨id, taken, made, same, valid⟩
        cases same
        exact ⟨⟨rfl, taken⟩, id, made, rfl, rfl, rfl, valid⟩

private theorem verifyServerCert_eq_ok [Encodings] (id : EndpointId ed) (endEntity : Bytes)
    (intermediates : List Bytes) :
    verifyServerCert ed endEntity intermediates (.dnsName (Name.encode id)) = .ok () ↔
      intermediates = [] ∧ endEntity = publicKeyToSpki id := by
  rw [verifyServerCert, Name.decode_encode]
  dsimp only
  by_cases chain : intermediates = []
  · rw [if_neg (by simpa using chain)]
    by_cases same : publicKeyToSpki id = endEntity
    · simp [chain, same]
    · simp [chain, same, Ne.symm same]
  · simp [chain]

end Identity

/-- A peer that is dialed by an endpoint id is accepted exactly if it presents the key of that id
alone and a signature of the handshake that is valid under it. A peer that dials is accepted
exactly if it does so for some key, and that key is the id that the connection reports. -/
theorem handshake_identifies_peer [Encodings] (verify : Verify ed) (message : Bytes)
    (presented : Presented) :
    (∀ id : EndpointId ed,
      verifyServer verify (.dnsName (Name.encode id)) message presented = .ok () ↔
        presented.By verify message id) ∧
    (verifyClient verify message presented = .ok () ↔
      ∃ id : EndpointId ed, presented.By verify message id) ∧
    ∀ id : EndpointId ed, presented.By verify message id →
      remoteIdFromNoqConn presented.certs = some id := by
  refine ⟨fun id => ?_, ?_, ?_⟩
  · refine (verifyPeer_eq_ok (verifyServerCert_eq_ok id)).trans ?_
    constructor
    · rintro ⟨key, same, presents⟩
      exact publicKeyToSpki_injective same ▸ presents
    · exact fun presents => ⟨id, rfl, presents⟩
  · have alone (_ : Bytes) (intermediates : List Bytes) :
        verifyClientCert intermediates = .ok () ↔ intermediates = [] ∧ True := by
      cases intermediates <;> simp [verifyClientCert]
    exact (verifyPeer_eq_ok alone).trans (by simp)
  · rintro id ⟨made, rfl, -⟩
    simp [remoteIdFromNoqConn, key_publicKeyToSpki, Except.toOption]

end NexalinkTunnel.Tls
