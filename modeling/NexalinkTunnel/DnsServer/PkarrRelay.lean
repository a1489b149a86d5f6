import NexalinkTunnel.Base.KeyText
import NexalinkTunnel.Dns.PkarrSignatures
import NexalinkTunnel.DnsServer.Actor
import NexalinkTunnel.DnsServer.PkarrNames

/-!
Contract: the pkarr relay, over which endpoints publish and resolve signed packets.

Owns the relay's `put` and `get`, the client's `publish` and `resolve`, and what resolves
from a relay to which anyone may put anything.

Does not own: HTTP and the relay's URL, to which a client adds the text of a key.
-/

namespace NexalinkTunnel.DnsServer

open Lib Base Dns.Pkarr

variable {ed : Ed25519} {dns : SimpleDns}

structure AppError where
  status : Nat
  detail : Option String

def displayVerifyError : FromBytesError → String
  | .unchecked (.tooShort len) =>
      s!"Signed packet too short: {len} bytes (min {headerSize})"
  | .unchecked (.tooLarge len) =>
      s!"Signed packet too large: {len} bytes (max {maxSignedPacketSize})"
  | .unchecked .dnsError => "DNS decoding error"
  | .invalidKey _ => "Invalid public key"
  | .signatureError => "Invalid signature"

def SignedBy (verify : Verify ed) (endpointId : EndpointId ed) (packet : SignedPacket dns) :
    Prop :=
  packet.publicKeyBytes = endpointId.bytes ∧
    verify endpointId (signable packet.timestamp packet.encodedPacket) packet.signature = true

theorem fromRelayPayload_eq_ok {verify : Verify ed} {endpointId : EndpointId ed}
    {packet : SignedPacket dns} {payload : Bytes} :
    SignedPacket.fromRelayPayload verify endpointId payload = .ok packet ↔
      SignedBy verify endpointId packet ∧ packet.toRelayPayload = payload := by
  have length : endpointId.asBytes.length = 32 := PublicKey.asBytes_length endpointId
  constructor
  · intro accepted
    obtain ⟨own, body⟩ := SignedPacket.publicKeyBytes_of_fromRelayPayload accepted
    obtain ⟨-, key, keyBytes, valid⟩ := SignedPacket.fromBytes_eq_ok_iff.mp accepted
    rw [← length, List.take_left] at keyBytes
    have same : key = endpointId := PublicKey.ext (Subtype.ext keyBytes)
    exact ⟨⟨own, same ▸ valid⟩, body⟩
  · rintro ⟨⟨own, valid⟩, rfl⟩
    have taken : packet.bytes.take 32 = endpointId.asBytes := congrArg List.Vector.toList own
    refine SignedPacket.fromBytes_eq_ok_iff.mpr ⟨?_, endpointId, ?_, valid⟩
    · rw [SignedPacket.toRelayPayload, ← taken, List.take_append_drop]
    · rw [← length, List.take_left]

section Requests

variable [Encodings]

/-- `put`, up to the packet that it inserts into the store. -/
def put (verify : Verify ed) (key : String) (body : Bytes) : Except AppError (SignedPacket dns) :=
  match PublicKey.fromZ32 key with
  | .error error => .error ⟨400, some ("invalid key: " ++ error.display)⟩
  | .ok publicKey =>
      match SignedPacket.fromRelayPayload verify publicKey body with
      | .error error => .error ⟨400, some ("invalid body payload: " ++ displayVerifyError error)⟩
      | .ok packet => .ok packet

/-- `get`, from the tables that its message to the store finds. A packet that cannot be read ends
the store, and with it the channel of the answer. -/
def get (dns : SimpleDns) (ed : Ed25519) (tables : Tables) (pubkey : String) :
    Except AppError Bytes :=
  match PublicKeyBytes.fromZ32 ed pubkey with
  | .error .invalidEncoding => .error ⟨400, some "invalid key: invalid z-base-32 encoding"⟩
  | .ok key =>
      match (tables.getPacket key : Except _ (Option (SignedPacket dns))) with
      | .error _ => .error ⟨500, some "channel closed"⟩
      | .ok none => .error ⟨404, none⟩
      | .ok (some packet) => .ok packet.toRelayPayload

inductive PkarrError where
  | verify (source : FromBytesError)
  | httpRequest (status : Nat)

namespace PkarrRelayClient

/-- The key in the URL and the body of the request that `publish` sends. -/
def publish (packet : SignedPacket dns) : String × Bytes :=
  (PublicKeyBytes.toZ32 packet.publicKeyBytes, packet.toRelayPayload)

/-- `resolve`, with a relay that answers for the key in the URL. -/
def resolve (verify : Verify ed) (endpointId : EndpointId ed)
    (relay : String → Except AppError Bytes) : Except PkarrError (SignedPacket dns) :=
  match relay endpointId.toZ32 with
  | .error error => .error (.httpRequest error.status)
  | .ok payload => (SignedPacket.fromRelayPayload verify endpointId payload).mapError .verify

end PkarrRelayClient

variable {verify : Verify ed} {endpointId : EndpointId ed} {packet : SignedPacket dns}

private theorem fromZ32_eq_ok {text : String} :
    PublicKey.fromZ32 text = .ok endpointId ↔ text = endpointId.toZ32 := by
  constructor
  · intro parsed
    have bytes : PublicKeyBytes.fromZ32 ed text = .ok endpointId.bytes := by
      rw [PublicKeyBytes.fromZ32, parsed]
    exact (PublicKeyBytes.fromZ32_eq_ok.mp bytes).1.symm
  · rintro rfl
    exact PublicKey.fromZ32_toZ32 endpointId

/-- What is put is accepted exactly if it is what the client publishes of a signed packet. -/
theorem put_eq_ok {key : String} {body : Bytes} :
    put verify key body = .ok packet ↔
      (∃ endpointId : EndpointId ed, SignedBy verify endpointId packet) ∧
        (key, body) = PkarrRelayClient.publish packet := by
  have text {endpointId : EndpointId ed} (own : packet.publicKeyBytes = endpointId.bytes) :
      PublicKeyBytes.toZ32 packet.publicKeyBytes = endpointId.toZ32 := by
    rw [own]
    rfl
  constructor
  · intro accepted
    unfold put at accepted
    split at accepted
    next => cases accepted
    next endpointId parsed =>
      split at accepted
      next => cases accepted
      next found =>
        cases accepted
        obtain ⟨signed, body⟩ := fromRelayPayload_eq_ok.mp found
        refine ⟨⟨endpointId, signed⟩, ?_⟩
        rw [PkarrRelayClient.publish, text signed.1, body, fromZ32_eq_ok.mp parsed]
  · rintro ⟨⟨endpointId, signed⟩, same⟩
    cases same
    rw [put, text signed.1, PublicKey.fromZ32_toZ32]
    dsimp only
    rw [fromRelayPayload_eq_ok.mpr ⟨signed, rfl⟩]

private theorem resolve_get {tables : Tables} {stored : Option (SignedPacket dns)}
    (readable : tables.getPacket endpointId.bytes = .ok stored)
    (signed : ∀ packet ∈ stored, SignedBy verify endpointId packet) :
    PkarrRelayClient.resolve verify endpointId (get dns ed tables) =
      stored.elim (.error (.httpRequest 404)) .ok := by
  have key : PublicKeyBytes.fromZ32 ed endpointId.toZ32 = .ok endpointId.bytes :=
    PublicKeyBytes.fromZ32_eq_ok.mpr ⟨rfl, endpointId.valid⟩
  rw [PkarrRelayClient.resolve, get, key]
  dsimp only
  rw [readable]
  cases stored with
  | none => rfl
  | some packet =>
      dsimp only
      rw [fromRelayPayload_eq_ok.mpr ⟨signed packet rfl, rfl⟩]
      rfl

/-- Packets come into the store by `put` alone, and only expiry takes them out. -/
def Requested (verify : Verify ed) : ActorStep dns → Prop
  | .handle (.upsert packet) _ => ∃ key body, put verify key body = .ok packet
  | .handle (.remove _) _ => False
  | _ => True

/-- Whoever puts whatever to a relay: as long as no packet of an endpoint expired, the newest that
was put with the endpoint's signature resolves for it, or none if there was none. -/
theorem resolves_newest_put (verify : Verify ed) {eviction : Nat} {history : List (ActorStep dns)}
    {actor : Actor dns} (reached : (Actor.machine dns eviction).Reaches history actor)
    (requested : ∀ step ∈ history, Requested verify step) (endpointId : EndpointId ed)
    (kept : ∀ step ∈ history, Actor.Spares endpointId.bytes step) :
    ∃ stored, Actor.Newest (Actor.upserts endpointId.bytes history) stored ∧
      (∀ packet ∈ stored, SignedBy verify endpointId packet) ∧
        PkarrRelayClient.resolve verify endpointId (get dns ed actor.tables) =
          stored.elim (.error (.httpRequest 404)) .ok := by
  obtain ⟨stored, readable, newest⟩ := Actor.storesNewest_of_reaches reached kept
  have signed : ∀ packet ∈ stored, SignedBy verify endpointId packet := by
    rintro packet rfl
    obtain ⟨inside, own⟩ := List.mem_filter.mp newest.1
    obtain ⟨step, taken, upserted⟩ := List.mem_filterMap.mp inside
    cases step with
    | handle message micros =>
        cases message with
        | upsert other =>
            cases upserted
            obtain ⟨key, body, accepted⟩ := requested _ taken
            obtain ⟨signer, signed⟩ := (put_eq_ok.mp accepted).1
            have same : signer = endpointId :=
              PublicKey.ext (signed.1.symm.trans (by simpa using own))
            exact same ▸ signed
        | get | remove | checkExpired => cases upserted
    | begin | snapshot | commit | scan | check => cases upserted
  exact ⟨stored, newest, signed, resolve_get readable signed⟩

end Requests

attribute [local instance] Encodings.strict

def trusting : Verify everyKey := fun _ _ _ => true

def zeroSigner : EndpointId everyKey := ⟨(zeroPacket 1).publicKeyBytes, rfl⟩

theorem oldAfterNew_resolves :
    ∃ stored, Actor.Newest (Actor.upserts zeroSigner.bytes Actor.oldAfterNew) stored ∧
      PkarrRelayClient.resolve trusting zeroSigner (get lenient everyKey
          ((Actor.machine lenient 10).runFrom .start Actor.oldAfterNew).tables) =
        stored.elim (.error (.httpRequest 404)) .ok := by
  have reached : (Actor.machine lenient 10).Reaches Actor.oldAfterNew
      ((Actor.machine lenient 10).runFrom .start Actor.oldAfterNew) :=
    Machine.reaches_runFrom (by decide +kernel)
  have requested : ∀ step ∈ Actor.oldAfterNew, Requested trusting step := by
    have accepted (time : Nat) : put trusting (PkarrRelayClient.publish (zeroPacket time)).1
        (PkarrRelayClient.publish (zeroPacket time)).2 = .ok (zeroPacket time) :=
      put_eq_ok.mpr ⟨⟨⟨(zeroPacket time).publicKeyBytes, rfl⟩, rfl, rfl⟩, rfl⟩
    simp only [Actor.oldAfterNew, List.forall_mem_cons]
    exact ⟨trivial, ⟨_, _, accepted 195⟩, ⟨_, _, accepted 1⟩, trivial, by simp⟩
  have spares : ∀ step ∈ Actor.oldAfterNew, Actor.Spares (zeroPacket 1).publicKeyBytes step := by
    decide +kernel
  obtain ⟨stored, newest, -, resolves⟩ :=
    resolves_newest_put trusting reached requested zeroSigner spares
  exact ⟨stored, newest, resolves⟩

end NexalinkTunnel.DnsServer
