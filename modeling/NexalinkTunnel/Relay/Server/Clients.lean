import Mathlib.Data.List.AList
import NexalinkTunnel.Lib.Channel
import NexalinkTunnel.Relay.Protos.Relay

/-!
Contract: the registry of connected relay clients, as `server/clients.rs` and the
`Client` handle of `server/client.rs` write it.

Owns `Clients` with the objects its clients' handles share with their actors
(both queues and the cancellation token), `register` in its two steps,
`unregister`, `disconnect` and `send_packet`, and one equation for each branch
of them.

Does not own: what any sequence of these operations preserves, and the actor.
A `DashMap` is a finite map; each operation holds the entry it works on, so it
is one step.
-/

namespace NexalinkTunnel.Relay.Server

open Lib
open Base
open Relay.Protos

abbrev ConnectionId := Nat

structure Packet (crates : Crates) where
  src : EndpointId crates.ed25519
  data : Datagrams
deriving DecidableEq

/-- Configuration for a client connection. The stream and the write timeout
belong to the actor. -/
structure Config (crates : Crates) where
  endpointId : EndpointId crates.ed25519
  connectionId : ConnectionId
  channelCapacity : Nat
  protocolVersion : ProtocolVersion
deriving DecidableEq

structure Client (crates : Crates) where
  endpointId : EndpointId crates.ed25519
  connectionId : ConnectionId
  protocolVersion : ProtocolVersion
deriving DecidableEq

/-- What a connection's `Client` shares with its actor. -/
structure Handles (crates : Crates) where
  done : Bool
  packetQueue : Channel (Packet crates)
  messageQueue : Channel (RelayToClientMsg crates)

structure ClientState (crates : Crates) where
  active : Client crates
  inactive : List (Client crates)
deriving DecidableEq

structure Metrics where
  accepts : Nat
  disconnects : Nat
  bytesSent : Nat
  bytesRecv : Nat
  sendPacketsSent : Nat
  sendPacketsRecv : Nat
  sendPacketsDropped : Nat
  gotPing : Nat
  sentPong : Nat
  clientsInactiveAdded : Nat
  clientsInactiveRemoved : Nat
deriving Repr

def Metrics.zero : Metrics := ⟨0, 0, 0, 0, 0, 0, 0, 0, 0, 0, 0⟩

inductive ForwardSendError where
  | full
  | closed
deriving DecidableEq, Repr

structure ForwardPacketError where
  reason : ForwardSendError
deriving DecidableEq, Repr

/-- The registry of connected relay clients, with the shared objects. -/
structure Clients (crates : Crates) where
  /-- The list of all currently connected clients. -/
  clients : AList fun _ : EndpointId crates.ed25519 => ClientState crates
  /-- Map of which client has sent where. The sets are lists without repetition. -/
  sentTo : AList fun _ : EndpointId crates.ed25519 => List (EndpointId crates.ed25519)
  handles : ConnectionId → Handles crates
  metrics : Metrics

variable {crates : Crates}

def Handles.none : Handles crates := ⟨true, .dead, .dead⟩

def Handles.new (capacity : Nat) : Handles crates := ⟨false, .new capacity, .new capacity⟩

def Client.new (config : Config crates) : Client crates :=
  ⟨config.endpointId, config.connectionId, config.protocolVersion⟩

/-- The message that `try_send_health` puts into the queue. -/
def Client.healthMessage (client : Client crates) (status : Status) : RelayToClientMsg crates :=
  match client.protocolVersion with
  | .v2 => .status status
  | .v1 => .health status.display

namespace Clients

def new : Clients crates := ⟨∅, ∅, fun _ => Handles.none, Metrics.zero⟩

def setHandles (state : Clients crates) (connectionId : ConnectionId) (handles : Handles crates) :
    Clients crates :=
  { state with handles := Function.update state.handles connectionId handles }

def startShutdown (state : Clients crates) (client : Client crates) : Clients crates :=
  state.setHandles client.connectionId
    { state.handles client.connectionId with done := true }

def trySendPacket (state : Clients crates) (client : Client crates)
    (src : EndpointId crates.ed25519) (data : Datagrams) :
    Except TrySendError (Clients crates) :=
  match (state.handles client.connectionId).packetQueue.trySend ⟨src, data⟩ with
  | .ok queue =>
      .ok (state.setHandles client.connectionId
        { state.handles client.connectionId with packetQueue := queue })
  | .error error => .error error

def trySendMessage (state : Clients crates) (client : Client crates)
    (message : RelayToClientMsg crates) : Except TrySendError (Clients crates) :=
  match (state.handles client.connectionId).messageQueue.trySend message with
  | .ok queue =>
      .ok (state.setHandles client.connectionId
        { state.handles client.connectionId with messageQueue := queue })
  | .error error => .error error

def trySendPeerGone (state : Clients crates) (client : Client crates)
    (key : EndpointId crates.ed25519) : Except TrySendError (Clients crates) :=
  state.trySendMessage client (.endpointGone key)

def trySendHealth (state : Clients crates) (client : Client crates) (status : Status) :
    Except TrySendError (Clients crates) :=
  state.trySendMessage client (client.healthMessage status)

def ignoringErrors (state : Clients crates) (result : Except TrySendError (Clients crates)) :
    Clients crates :=
  match result with
  | .ok next => next
  | .error _ => state

/-- The first step of `register`: `Client::new` makes the queues and spawns the
actor, whose first line counts it. -/
def spawn (state : Clients crates) (config : Config crates) : Clients crates :=
  let state := state.setHandles config.connectionId (Handles.new config.channelCapacity)
  { state with metrics := { state.metrics with accepts := state.metrics.accepts + 1 } }

/-- The second step of `register`: the client enters the map. -/
def insert (state : Clients crates) (client : Client crates) : Clients crates :=
  match state.clients.lookup client.endpointId with
  | some entry =>
      let told := state.ignoringErrors
        (state.trySendHealth entry.active .sameEndpointIdConnected)
      { told with
        clients := told.clients.insert client.endpointId
          ⟨client, entry.inactive ++ [entry.active]⟩
        metrics := { told.metrics with
          clientsInactiveAdded := told.metrics.clientsInactiveAdded + 1 } }
  | none => { state with clients := state.clients.insert client.endpointId ⟨client, []⟩ }

def register (state : Clients crates) (config : Config crates) : Clients crates :=
  (state.spawn config).insert (Client.new config)

/-- One round of the loop that informs peers that `gone` is gone. -/
def notifyPeer (gone : EndpointId crates.ed25519) (state : Clients crates)
    (peerId : EndpointId crates.ed25519) : Clients crates :=
  match state.clients.lookup peerId with
  | some peer => state.ignoringErrors (state.trySendPeerGone peer.active gone)
  | none => state

def unregister (state : Clients crates) (endpointId : EndpointId crates.ed25519)
    (connectionId : ConnectionId) : Clients crates :=
  match state.clients.lookup endpointId with
  | none => state
  | some entry =>
      if entry.active.connectionId = connectionId then
        match entry.inactive.getLast? with
        | some lastInactiveClient =>
            let promoted : Clients crates :=
              { state with
                clients := state.clients.insert endpointId
                  ⟨lastInactiveClient, entry.inactive.dropLast⟩
                metrics := { state.metrics with
                  clientsInactiveRemoved := state.metrics.clientsInactiveRemoved + 1 } }
            promoted.ignoringErrors (promoted.trySendHealth lastInactiveClient .healthy)
        | none =>
            let notifyPeers := (state.sentTo.lookup endpointId).getD []
            let removed : Clients crates :=
              { state with
                clients := state.clients.erase endpointId
                sentTo := state.sentTo.erase endpointId }
            notifyPeers.foldl (notifyPeer endpointId) removed
      else
        -- The removal is counted whether or not the list held the connection.
        { state with
          clients := state.clients.insert endpointId
            ⟨entry.active, entry.inactive.filter fun client => client.connectionId ≠ connectionId⟩
          metrics := { state.metrics with
            clientsInactiveRemoved := state.metrics.clientsInactiveRemoved + 1 } }

/-- Disconnects one connection of an endpoint, or all of them. -/
def disconnect (state : Clients crates) (endpointId : EndpointId crates.ed25519)
    (connectionId : Option ConnectionId) : Bool × Clients crates :=
  match state.clients.lookup endpointId with
  | none => (false, state)
  | some entry =>
      let clients := entry.inactive ++ [entry.active]
      match connectionId with
      | some id =>
          match clients.find? fun client => client.connectionId = id with
          | none => (false, state)
          | some client => (true, state.startShutdown client)
      | none => (true, clients.foldl startShutdown state)

/-- Attempt to send a packet to the client with endpoint id `dst`. -/
def sendPacket (state : Clients crates) (dst : EndpointId crates.ed25519) (data : Datagrams)
    (src : EndpointId crates.ed25519) : Except ForwardPacketError Unit × Clients crates :=
  match state.clients.lookup dst with
  | none =>
      (.ok (), { state with metrics := { state.metrics with
        sendPacketsDropped := state.metrics.sendPacketsDropped + 1 } })
  | some entry =>
      match state.trySendPacket entry.active src data with
      | .ok sent =>
          (.ok (), { sent with
            sentTo := sent.sentTo.insert src (((sent.sentTo.lookup src).getD []).insert dst) })
      | .error .full => (.error ⟨.full⟩, state)
      | .error .closed => (.error ⟨.closed⟩, state.startShutdown entry.active)

def recvPacket (state : Clients crates) (connectionId : ConnectionId) :
    Option (Packet crates × Clients crates) :=
  match (state.handles connectionId).packetQueue.recv with
  | none => none
  | some (packet, queue) =>
      some (packet,
        state.setHandles connectionId { state.handles connectionId with packetQueue := queue })

def recvMessage (state : Clients crates) (connectionId : ConnectionId) :
    Option (RelayToClientMsg crates × Clients crates) :=
  match (state.handles connectionId).messageQueue.recv with
  | none => none
  | some (message, queue) =>
      some (message,
        state.setHandles connectionId { state.handles connectionId with messageQueue := queue })

def dropReceivers (state : Clients crates) (connectionId : ConnectionId) : Clients crates :=
  let handles := state.handles connectionId
  state.setHandles connectionId
    { handles with
      packetQueue := handles.packetQueue.close
      messageQueue := handles.messageQueue.close }

/-- The last lines of `Actor::run`, after which the actor is dropped. -/
def endActor (state : Clients crates) (endpointId : EndpointId crates.ed25519)
    (connectionId : ConnectionId) : Clients crates :=
  let state := state.unregister endpointId connectionId
  let state := { state with metrics := { state.metrics with
    disconnects := state.metrics.disconnects + 1 } }
  state.dropReceivers connectionId

/-! ## What the queues of a connection have carried -/

/-- Everything put into a connection's message queue, oldest first. -/
def messageLog (state : Clients crates) (connectionId : ConnectionId) :
    List (RelayToClientMsg crates) :=
  (state.handles connectionId).messageQueue.sent

/-- Everything put into a connection's packet queue, oldest first. -/
def packetLog (state : Clients crates) (connectionId : ConnectionId) : List (Packet crates) :=
  (state.handles connectionId).packetQueue.sent

def tell (state : Clients crates) (connectionId : ConnectionId)
    (message : RelayToClientMsg crates) : Clients crates :=
  let handles := state.handles connectionId
  state.setHandles connectionId
    { handles with messageQueue := handles.messageQueue.offer message }

section Tell

variable (state : Clients crates) (connectionId : ConnectionId) (message : RelayToClientMsg crates)

@[simp] theorem tell_clients : (state.tell connectionId message).clients = state.clients := rfl

@[simp] theorem tell_sentTo : (state.tell connectionId message).sentTo = state.sentTo := rfl

@[simp] theorem tell_metrics : (state.tell connectionId message).metrics = state.metrics := rfl

theorem tell_handles_self : (state.tell connectionId message).handles connectionId =
    { state.handles connectionId with
      messageQueue := (state.handles connectionId).messageQueue.offer message } := by
  simp [tell, setHandles]

theorem tell_handles_of_ne {other : ConnectionId} (differs : other ≠ connectionId) :
    (state.tell connectionId message).handles other = state.handles other := by
  simp [tell, setHandles, differs]

theorem messageLog_tell_self : (state.tell connectionId message).messageLog connectionId =
    state.messageLog connectionId ++
      if (state.handles connectionId).messageQueue.HasRoom then [message] else [] := by
  rw [messageLog, tell_handles_self, Channel.sent_offer, messageLog]

theorem messageLog_tell_of_ne {other : ConnectionId} (differs : other ≠ connectionId) :
    (state.tell connectionId message).messageLog other = state.messageLog other := by
  rw [messageLog, tell_handles_of_ne _ _ _ differs, messageLog]

theorem filter_messageLog_tell {kind : RelayToClientMsg crates → Bool}
    (unrelated : kind message = false) (other : ConnectionId) :
    ((state.tell connectionId message).messageLog other).filter kind =
      (state.messageLog other).filter kind := by
  by_cases same : other = connectionId
  · rw [same, messageLog_tell_self, List.filter_append]
    split_ifs <;> simp [unrelated]
  · rw [messageLog_tell_of_ne _ _ _ same]

@[simp] theorem tell_packetQueue (other : ConnectionId) :
    ((state.tell connectionId message).handles other).packetQueue =
      (state.handles other).packetQueue := by
  by_cases same : other = connectionId
  · rw [same, tell_handles_self]
  · rw [tell_handles_of_ne _ _ _ same]

@[simp] theorem tell_messageQueue_closed (other : ConnectionId) :
    ((state.tell connectionId message).handles other).messageQueue.closed =
      (state.handles other).messageQueue.closed := by
  by_cases same : other = connectionId
  · rw [same, tell_handles_self, Channel.closed_offer]
  · rw [tell_handles_of_ne _ _ _ same]

end Tell

section DropReceivers

variable (state : Clients crates) (connectionId : ConnectionId)

theorem dropReceivers_handles_of_ne {other : ConnectionId} (differs : other ≠ connectionId) :
    (state.dropReceivers connectionId).handles other = state.handles other := by
  simp [dropReceivers, setHandles, differs]

@[simp] theorem messageLog_dropReceivers (other : ConnectionId) :
    (state.dropReceivers connectionId).messageLog other = state.messageLog other := by
  by_cases same : other = connectionId
  · simp [messageLog, dropReceivers, setHandles, same]
  · rw [messageLog, dropReceivers_handles_of_ne _ _ same, messageLog]

end DropReceivers

variable {state : Clients crates} {client : Client crates} {entry : ClientState crates}
  {endpointId : EndpointId crates.ed25519} {connectionId : ConnectionId}

theorem ignoringErrors_trySendMessage (message : RelayToClientMsg crates) :
    state.ignoringErrors (state.trySendMessage client message) =
      state.tell client.connectionId message := by
  cases answer : (state.handles client.connectionId).messageQueue.trySend message with
  | ok queue => simp [trySendMessage, tell, Channel.offer, ignoringErrors, answer]
  | error error => simp [trySendMessage, tell, Channel.offer, ignoringErrors, answer, setHandles]

/-! ## One equation for each branch -/

theorem insert_of_none (absent : state.clients.lookup client.endpointId = none) :
    state.insert client =
      { state with clients := state.clients.insert client.endpointId ⟨client, []⟩ } := by
  simp [insert, absent]

theorem insert_of_some (present : state.clients.lookup client.endpointId = some entry) :
    state.insert client =
      { state.tell entry.active.connectionId
          (entry.active.healthMessage .sameEndpointIdConnected) with
        clients := state.clients.insert client.endpointId
          ⟨client, entry.inactive ++ [entry.active]⟩
        metrics := { state.metrics with
          clientsInactiveAdded := state.metrics.clientsInactiveAdded + 1 } } := by
  simp only [insert, present, trySendHealth, ignoringErrors_trySendMessage, tell_clients,
    tell_metrics]

theorem lookup_insert_of_ne {other : EndpointId crates.ed25519}
    (differs : other ≠ client.endpointId) :
    (state.insert client).clients.lookup other = state.clients.lookup other := by
  cases present : state.clients.lookup client.endpointId with
  | none => rw [insert_of_none present, AList.lookup_insert_ne differs]
  | some entry => rw [insert_of_some present, AList.lookup_insert_ne differs]

theorem lookup_insert_self (state : Clients crates) (client : Client crates) :
    ∃ entry, (state.insert client).clients.lookup client.endpointId = some entry ∧
      entry.active = client := by
  cases present : state.clients.lookup client.endpointId with
  | none =>
      rw [insert_of_none present]
      exact ⟨_, AList.lookup_insert _, rfl⟩
  | some entry =>
      rw [insert_of_some present]
      exact ⟨_, AList.lookup_insert _, rfl⟩

theorem insert_sentTo : (state.insert client).sentTo = state.sentTo := by
  cases present : state.clients.lookup client.endpointId with
  | none => rw [insert_of_none present]
  | some entry => rw [insert_of_some present, tell_sentTo]

theorem unregister_of_none (absent : state.clients.lookup endpointId = none) :
    state.unregister endpointId connectionId = state := by
  simp [unregister, absent]

theorem unregister_inactive (present : state.clients.lookup endpointId = some entry)
    (differs : entry.active.connectionId ≠ connectionId) :
    state.unregister endpointId connectionId =
      { state with
        clients := state.clients.insert endpointId
          ⟨entry.active, entry.inactive.filter fun client => client.connectionId ≠ connectionId⟩
        metrics := { state.metrics with
          clientsInactiveRemoved := state.metrics.clientsInactiveRemoved + 1 } } := by
  simp only [unregister, present, if_neg differs]

/-- The active connection leaves, and the newest inactive one takes its place. -/
theorem unregister_promote {older : List (Client crates)}
    (present : state.clients.lookup endpointId = some entry)
    (same : entry.active.connectionId = connectionId)
    (newest : entry.inactive = older ++ [client]) :
    state.unregister endpointId connectionId =
      { state.tell client.connectionId (client.healthMessage .healthy) with
        clients := state.clients.insert endpointId ⟨client, older⟩
        metrics := { state.metrics with
          clientsInactiveRemoved := state.metrics.clientsInactiveRemoved + 1 } } := by
  simp only [unregister, present, if_pos same, newest, List.getLast?_concat,
    List.dropLast_concat, trySendHealth, ignoringErrors_trySendMessage]
  rfl

def without (state : Clients crates) (endpointId : EndpointId crates.ed25519) : Clients crates :=
  { state with
    clients := state.clients.erase endpointId
    sentTo := state.sentTo.erase endpointId }

theorem unregister_last (present : state.clients.lookup endpointId = some entry)
    (same : entry.active.connectionId = connectionId) (alone : entry.inactive = []) :
    state.unregister endpointId connectionId =
      ((state.sentTo.lookup endpointId).getD []).foldl (notifyPeer endpointId)
        (state.without endpointId) := by
  simp only [unregister, present, if_pos same, alone, List.getLast?_nil, without]

theorem notifyPeer_eq (gone peerId : EndpointId crates.ed25519) :
    notifyPeer gone state peerId =
      match state.clients.lookup peerId with
      | some peer => state.tell peer.active.connectionId (.endpointGone gone)
      | none => state := by
  unfold notifyPeer trySendPeerGone
  cases state.clients.lookup peerId with
  | none => rfl
  | some peer => simp only [ignoringErrors_trySendMessage]

/-! ## What registration leaves alone -/

theorem insert_packetQueue (state : Clients crates) (client : Client crates)
    (other : ConnectionId) :
    ((state.insert client).handles other).packetQueue = (state.handles other).packetQueue := by
  cases present : state.clients.lookup client.endpointId with
  | none => rw [insert_of_none present]
  | some entry =>
      rw [insert_of_some present]
      exact tell_packetQueue _ _ _ _

theorem register_packetQueue_self (state : Clients crates) (config : Config crates) :
    ((state.register config).handles config.connectionId).packetQueue =
      .new config.channelCapacity := by
  rw [register, insert_packetQueue]
  simp [spawn, setHandles, Handles.new]

theorem register_packetQueue_of_ne (state : Clients crates) {config : Config crates}
    {other : ConnectionId} (differs : other ≠ config.connectionId) :
    ((state.register config).handles other).packetQueue = (state.handles other).packetQueue := by
  rw [register, insert_packetQueue]
  simp [spawn, setHandles, differs]

private theorem notifyPeer_packetQueue (state : Clients crates)
    (gone peer : EndpointId crates.ed25519) (other : ConnectionId) :
    ((notifyPeer gone state peer).handles other).packetQueue =
      (state.handles other).packetQueue := by
  rw [notifyPeer_eq]
  cases state.clients.lookup peer with
  | none => rfl
  | some entry => exact tell_packetQueue _ _ _ _

private theorem foldl_notifyPeer_packetQueue (state : Clients crates)
    (gone : EndpointId crates.ed25519)
    (peers : List (EndpointId crates.ed25519)) (other : ConnectionId) :
    ((peers.foldl (notifyPeer gone) state).handles other).packetQueue =
      (state.handles other).packetQueue := by
  induction peers generalizing state with
  | nil => rfl
  | cons peer peers inductionHypothesis =>
      rw [List.foldl_cons, inductionHypothesis, notifyPeer_packetQueue]

private theorem unregister_packetQueue (state : Clients crates)
    (endpointId : EndpointId crates.ed25519) (connectionId other : ConnectionId) :
    ((state.unregister endpointId connectionId).handles other).packetQueue =
      (state.handles other).packetQueue := by
  cases present : state.clients.lookup endpointId with
  | none => rw [unregister_of_none present]
  | some entry =>
      by_cases same : entry.active.connectionId = connectionId
      · rcases List.eq_nil_or_concat entry.inactive with alone | ⟨older, last, newest⟩
        · rw [unregister_last present same alone, foldl_notifyPeer_packetQueue]
          rfl
        · rw [unregister_promote present same (newest.trans List.concat_eq_append)]
          exact tell_packetQueue _ _ _ _
      · rw [unregister_inactive present same]

theorem endActor_packetQueue (state : Clients crates) (endpointId : EndpointId crates.ed25519)
    (connectionId other : ConnectionId) :
    ((state.endActor endpointId connectionId).handles other).packetQueue.received =
        (state.handles other).packetQueue.received ∧
      ((state.endActor endpointId connectionId).handles other).packetQueue.pending =
        (state.handles other).packetQueue.pending := by
  rw [← unregister_packetQueue state endpointId connectionId other]
  by_cases same : other = connectionId
  · simp [endActor, dropReceivers, setHandles, same, Channel.close]
  · simp [endActor, dropReceivers, setHandles, same]

/-- A kind of message that registration never sends does not show up in the logs. -/
theorem insert_filter_messageLog {kind : RelayToClientMsg crates → Bool}
    (health : ∀ (client : Client crates) status, kind (client.healthMessage status) = false)
    (state : Clients crates) (client : Client crates) (other : ConnectionId) :
    ((state.insert client).messageLog other).filter kind =
      (state.messageLog other).filter kind := by
  cases present : state.clients.lookup client.endpointId with
  | none =>
      rw [insert_of_none present]
      rfl
  | some entry =>
      rw [insert_of_some present]
      exact filter_messageLog_tell state _ _ (health _ _) other

theorem foldl_notifyPeer_filter_messageLog {kind : RelayToClientMsg crates → Bool}
    {gone : EndpointId crates.ed25519} (departure : kind (.endpointGone gone) = false)
    (state : Clients crates) (peers : List (EndpointId crates.ed25519)) (other : ConnectionId) :
    ((peers.foldl (notifyPeer gone) state).messageLog other).filter kind =
      (state.messageLog other).filter kind := by
  induction peers generalizing state with
  | nil => rfl
  | cons peer peers inductionHypothesis =>
      rw [List.foldl_cons, inductionHypothesis, notifyPeer_eq]
      cases state.clients.lookup peer with
      | none => rfl
      | some entry => exact filter_messageLog_tell state _ _ departure other

theorem endActor_filter_messageLog {kind : RelayToClientMsg crates → Bool}
    (health : ∀ (client : Client crates) status, kind (client.healthMessage status) = false)
    (departure : ∀ key, kind (.endpointGone key) = false) (state : Clients crates)
    (endpointId : EndpointId crates.ed25519) (connectionId other : ConnectionId) :
    ((state.endActor endpointId connectionId).messageLog other).filter kind =
      (state.messageLog other).filter kind := by
  have log : (state.endActor endpointId connectionId).messageLog other =
      (state.unregister endpointId connectionId).messageLog other :=
    messageLog_dropReceivers _ _ _
  rw [log]
  cases present : state.clients.lookup endpointId with
  | none => rw [unregister_of_none present]
  | some entry =>
      by_cases same : entry.active.connectionId = connectionId
      · rcases List.eq_nil_or_concat entry.inactive with alone | ⟨older, last, newest⟩
        · rw [unregister_last present same alone,
            foldl_notifyPeer_filter_messageLog (departure endpointId)]
          rfl
        · rw [unregister_promote present same (newest.trans List.concat_eq_append)]
          exact filter_messageLog_tell state _ _ (health _ _) other
      · rw [unregister_inactive present same]
        rfl

end Clients

end NexalinkTunnel.Relay.Server
