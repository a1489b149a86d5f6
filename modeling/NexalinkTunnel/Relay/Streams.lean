import NexalinkTunnel.Relay.Protos.RelayCodec

/-!
Contract: the two ends of a relay connection as message sinks and streams.

Owns `start_send` of the client's `Conn` and of the server's `RelayedStream`:
the size check, the emptiness check of datagrams, and what reaches the
underlying websocket. Both check the encoded length including the frame type
byte. Owns `poll_next` of both.

Also owns the round trip of the wire format from one end to the other.
-/

namespace NexalinkTunnel.Relay

open Lib
open Base
open Relay.Protos

abbrev StreamError := String

inductive SendError where
  | streamError (source : StreamError)
  | exceedsMaxPacketSize (size : Nat)
  | emptyPacket
deriving DecidableEq, Repr

/-- The sink itself refused the message. -/
def SendError.isRefusal : SendError → Bool
  | .streamError _ => false
  | .exceedsMaxPacketSize _ => true
  | .emptyPacket => true

inductive RecvError where
  | proto (source : Error)
  | streamError (source : StreamError)
deriving DecidableEq, Repr

/-- The common body of both `start_send`: `size` is the encoded length,
`contents` the contents of a datagrams message, `inner` the answer of the
underlying sink. The result is what was handed to that sink. -/
def startSendWith (size : Nat) (contents : Option Bytes) (encoded : Bytes)
    (inner : Option StreamError) : Except SendError Bytes :=
  if size ≤ maxPacketSize then
    if contents = some [] then .error .emptyPacket
    else
      match inner with
      | none => .ok encoded
      | some source => .error (.streamError source)
  else .error (.exceedsMaxPacketSize size)

def PassesChecks (size : Nat) (contents : Option Bytes) : Prop :=
  size ≤ maxPacketSize ∧ contents ≠ some []

theorem startSendWith_eq_ok {size : Nat} {contents : Option Bytes} {encoded sent : Bytes}
    {inner : Option StreamError} :
    startSendWith size contents encoded inner = .ok sent ↔
      PassesChecks size contents ∧ inner = none ∧ encoded = sent := by
  unfold startSendWith PassesChecks
  split_ifs with within empty
  · simp [empty]
  · cases inner <;> simp [within, empty]
  · simp [within]

/-- The sink itself refuses exactly what fails its checks. -/
theorem startSendWith_eq_error {size : Nat} {contents : Option Bytes} {encoded : Bytes}
    {inner : Option StreamError} {error : SendError}
    (refused : startSendWith size contents encoded inner = .error error) :
    error.isRefusal = true ↔ ¬ PassesChecks size contents := by
  unfold startSendWith at refused
  unfold PassesChecks
  split_ifs at refused with within empty
  · simp [← Except.error.inj refused, SendError.isRefusal, empty]
  · cases inner with
    | none => simp at refused
    | some source => simp [← Except.error.inj refused, SendError.isRefusal, within, empty]
  · simp [← Except.error.inj refused, SendError.isRefusal, within]

theorem startSendWith_of_not_passesChecks {size : Nat} {contents : Option Bytes}
    (fails : ¬ PassesChecks size contents) (encoded : Bytes) (inner : Option StreamError) :
    ∃ error, startSendWith size contents encoded inner = .error error ∧
      error.isRefusal = true := by
  cases result : startSendWith size contents encoded inner with
  | ok sent => exact absurd (startSendWith_eq_ok.mp result).1 fails
  | error error => exact ⟨error, rfl, (startSendWith_eq_error result).mpr fails⟩

variable {crates : Crates}

def Protos.RelayToClientMsg.datagrams? :
    RelayToClientMsg crates → Option (EndpointId crates.ed25519 × Datagrams)
  | .datagrams remoteEndpointId payload => some (remoteEndpointId, payload)
  | _ => none

def Protos.ClientToRelayMsg.datagrams? :
    ClientToRelayMsg crates → Option (EndpointId crates.ed25519 × Datagrams)
  | .datagrams dstEndpointId payload => some (dstEndpointId, payload)
  | _ => none

/-- The contents that the emptiness check looks at. -/
def Protos.RelayToClientMsg.datagramContents : RelayToClientMsg crates → Option Bytes
  | .datagrams _ payload => some payload.contents
  | _ => none

def Protos.ClientToRelayMsg.datagramContents : ClientToRelayMsg crates → Option Bytes
  | .datagrams _ payload => some payload.contents
  | _ => none

def RelayedStream.startSend (item : RelayToClientMsg crates) (inner : Option StreamError) :
    Except SendError Bytes :=
  startSendWith item.encodedLen item.datagramContents item.toBytes inner

def Conn.startSend (frame : ClientToRelayMsg crates) (inner : Option StreamError) :
    Except SendError Bytes :=
  startSendWith frame.encodedLen frame.datagramContents frame.toBytes inner

/-- The common body of both `poll_next`: decode what the underlying stream yields. -/
def pollNextWith {Message : Type} (fromBytes : Bytes → Outcome Error Message)
    (item : Option (Except StreamError Bytes)) : Option (Outcome RecvError Message) :=
  match item with
  | none => none
  | some (.error source) => some (.err (.streamError source))
  | some (.ok bytes) =>
      match fromBytes bytes with
      | .ok msg => some (.ok msg)
      | .err source => some (.err (.proto source))
      | .panicked => some .panicked

def RelayedStream.pollNext (item : Option (Except StreamError Bytes))
    (cache : KeyCache crates) : Option (Outcome RecvError (ClientToRelayMsg crates)) :=
  pollNextWith (fun bytes => ClientToRelayMsg.fromBytes bytes cache) item

def Conn.pollNext (item : Option (Except StreamError Bytes)) (cache : KeyCache crates)
    (version : ProtocolVersion) : Option (Outcome RecvError (RelayToClientMsg crates)) :=
  pollNextWith (fun bytes => RelayToClientMsg.fromBytes bytes cache version) item

theorem RelayedStream.startSend_eq_ok {item : RelayToClientMsg crates}
    {inner : Option StreamError} {sent : Bytes}
    (accepted : startSend item inner = .ok sent) :
    item.encodedLen ≤ maxPacketSize ∧ item.toBytes = sent := by
  obtain ⟨⟨within, _⟩, _, encoded⟩ := startSendWith_eq_ok.mp accepted
  exact ⟨within, encoded⟩

theorem Conn.startSend_eq_ok {frame : ClientToRelayMsg crates} {inner : Option StreamError}
    {sent : Bytes} (accepted : startSend frame inner = .ok sent) :
    frame.encodedLen ≤ maxPacketSize ∧ frame.toBytes = sent := by
  obtain ⟨⟨within, _⟩, _, encoded⟩ := startSendWith_eq_ok.mp accepted
  exact ⟨within, encoded⟩

/-- Whatever the client's sink accepts, the relay decodes. -/
theorem Conn.fromBytes_of_startSend {frame : ClientToRelayMsg crates}
    {inner : Option StreamError} {sent : Bytes} (accepted : startSend frame inner = .ok sent)
    (cache : KeyCache crates) : ClientToRelayMsg.fromBytes sent cache = .ok frame := by
  obtain ⟨within, rfl⟩ := startSend_eq_ok accepted
  rw [ClientToRelayMsg.encodedLen_eq] at within
  exact ClientToRelayMsg.fromBytes_toBytes frame cache (by omega)

/-- Whatever the relay's sink accepts and the version can represent, the client
decodes. -/
theorem RelayedStream.fromBytes_of_startSend {item : RelayToClientMsg crates}
    {inner : Option StreamError} {sent : Bytes} {version : ProtocolVersion}
    (accepted : startSend item inner = .ok sent) (representable : item.Representable version)
    (cache : KeyCache crates) :
    RelayToClientMsg.fromBytes sent cache version = .ok item := by
  obtain ⟨within, rfl⟩ := startSend_eq_ok accepted
  rw [RelayToClientMsg.encodedLen_eq] at within
  exact RelayToClientMsg.fromBytes_toBytes cache representable (by omega)

private theorem datagrams?_of_fromBody {frameType : FrameType} {content : Bytes}
    {cache : KeyCache crates} {version : ProtocolVersion} {msg : RelayToClientMsg crates}
    (decoded : RelayToClientMsg.fromBody frameType content cache version = .ok msg)
    (notSingle : frameType ≠ .relayToClientDatagram)
    (notBatch : frameType ≠ .relayToClientDatagramBatch) : msg.datagrams? = none := by
  cases msg with
  | datagrams remoteEndpointId payload =>
      cases frameType with
      | relayToClientDatagram => exact absurd rfl notSingle
      | relayToClientDatagramBatch => exact absurd rfl notBatch
      | health =>
          simp only [RelayToClientMsg.fromBody, Outcome.bind_eq_ok] at decoded
          obtain ⟨_, _, decoded⟩ := decoded
          split at decoded <;> simp at decoded
      | endpointGone | ping | pong | restarting | status =>
          simp [RelayToClientMsg.fromBody, Outcome.bind_eq_ok] at decoded
      | _ => simp [RelayToClientMsg.fromBody] at decoded
  | _ => rfl

/-- What the client's stream yields for one frame: at most one message. -/
def Conn.receive (bytes : Bytes) (cache : KeyCache crates) (version : ProtocolVersion) :
    List (RelayToClientMsg crates) :=
  match Conn.pollNext (some (.ok bytes)) cache version with
  | some (.ok msg) => [msg]
  | _ => []

theorem Conn.receive_of_fromBytes {bytes : Bytes} {cache : KeyCache crates}
    {version : ProtocolVersion} {msg : RelayToClientMsg crates}
    (decoded : RelayToClientMsg.fromBytes bytes cache version = .ok msg) :
    Conn.receive bytes cache version = [msg] := by
  simp [receive, pollNext, pollNextWith, decoded]

/-- The client receives exactly the datagrams that a frame carries, in any version. -/
theorem Conn.datagrams?_receive {frame : RelayToClientMsg crates}
    (within : frame.body.length ≤ maxPacketSize) (cache : KeyCache crates)
    (version : ProtocolVersion) :
    (Conn.receive frame.toBytes cache version).filterMap RelayToClientMsg.datagrams? =
      frame.datagrams?.toList := by
  cases shape : frame.datagrams? with
  | some pair =>
      cases frame with
      | datagrams remoteEndpointId payload =>
          have decoded : RelayToClientMsg.fromBytes
              (RelayToClientMsg.datagrams remoteEndpointId payload).toBytes cache version =
                .ok (.datagrams remoteEndpointId payload) :=
            RelayToClientMsg.fromBytes_toBytes cache trivial within
          rw [receive_of_fromBytes decoded, List.filterMap_cons, shape]
          rfl
      | _ => simp [RelayToClientMsg.datagrams?] at shape
  | none =>
      cases decoded : RelayToClientMsg.fromBytes frame.toBytes cache version with
      | ok msg =>
          rw [RelayToClientMsg.toBytes_eq,
            RelayToClientMsg.fromBytes_encode _ _ _ within] at decoded
          have unrelated : msg.datagrams? = none := by
            refine datagrams?_of_fromBody decoded ?_ ?_ <;>
              cases frame <;> simp_all [RelayToClientMsg.typ, RelayToClientMsg.datagrams?]
          rw [receive, pollNext, pollNextWith, RelayToClientMsg.toBytes_eq,
            RelayToClientMsg.fromBytes_encode _ _ _ within, decoded]
          simp [unrelated]
      | err error => simp [receive, pollNext, pollNextWith, decoded]
      | panicked => simp [receive, pollNext, pollNextWith, decoded]

/-- Relay wire format round trip. A message accepted by the client's sink, and a
message accepted by the server's sink that the negotiated version can
represent, is appended as exactly `encoded_len` bytes, and the other end
decodes these bytes to the same message. -/
theorem wire_format_round_trip (crates : Crates) (cache : KeyCache crates) :
    (∀ (frame : ClientToRelayMsg crates) (inner : Option StreamError) (sent : Bytes),
      Conn.startSend frame inner = .ok sent →
        (∀ dst, frame.writeTo dst = dst ++ sent) ∧ sent.length = frame.encodedLen ∧
          ClientToRelayMsg.fromBytes sent cache = .ok frame) ∧
    (∀ (item : RelayToClientMsg crates) (version : ProtocolVersion)
        (inner : Option StreamError) (sent : Bytes),
      RelayedStream.startSend item inner = .ok sent → item.Representable version →
        (∀ dst, item.writeTo dst = dst ++ sent) ∧ sent.length = item.encodedLen ∧
          RelayToClientMsg.fromBytes sent cache version = .ok item) := by
  constructor
  · intro frame inner sent accepted
    have decoded := Conn.fromBytes_of_startSend accepted cache
    obtain ⟨_, rfl⟩ := Conn.startSend_eq_ok accepted
    refine ⟨fun dst => ?_, frame.toBytes_length, decoded⟩
    rw [ClientToRelayMsg.writeTo_eq, ClientToRelayMsg.toBytes_eq]
  · intro item version inner sent accepted representable
    have decoded := RelayedStream.fromBytes_of_startSend accepted representable cache
    obtain ⟨_, rfl⟩ := RelayedStream.startSend_eq_ok accepted
    refine ⟨fun dst => ?_, item.toBytes_length, decoded⟩
    rw [RelayToClientMsg.writeTo_eq, RelayToClientMsg.toBytes_eq]

/-- A batch of two three-byte datagrams with a congestion mark, from both ends. -/
theorem batch_frame_round_trips :
    let payload : Datagrams := ⟨some .ce, NonZeroU16.new 3, [1, 2, 3, 4, 5, 6]⟩
    let endpoint := Crates.smallKey 3 (by decide)
    let up : ClientToRelayMsg Crates.reference := .datagrams endpoint payload
    let down : RelayToClientMsg Crates.reference := .datagrams endpoint payload
    ClientToRelayMsg.fromBytes up.toBytes .disabled = .ok up ∧
      RelayToClientMsg.fromBytes down.toBytes .disabled .v1 = .ok down := by
  intro payload endpoint up down
  have both := wire_format_round_trip Crates.reference .disabled
  have upAccepted : Conn.startSend up none = .ok up.toBytes := by decide
  have downAccepted : RelayedStream.startSend down none = .ok down.toBytes := by decide
  exact ⟨(both.1 up none _ upAccepted).2.2, (both.2 down .v1 none _ downAccepted trivial).2.2⟩

end NexalinkTunnel.Relay
