import NexalinkTunnel.Relay.Server.Actor
import NexalinkTunnel.Relay.Server.Registry

/-!
Contract: the network of one relay and its clients.

Owns the two websockets of each connection as reliable byte-frame streams, the
shared registry, and one actor for each connection that takes any branch of its
loop at any time. Owns what one step does to each part of the network, and that
running actors stay registered under the identity they connected with.

Does not own: the websocket itself. A client may also put arbitrary bytes on its
wire.
-/

namespace NexalinkTunnel.Relay.Server

open Lib
open Base
open Relay.Protos

/-- A record of one packet that entered a connection's queue. -/
structure Forwarding (crates : Crates) where
  /-- The connection whose frame it came in. -/
  origin : ConnectionId
  /-- The destination that the frame names. -/
  dst : EndpointId crates.ed25519
  /-- The connection whose queue it entered. -/
  target : ConnectionId
  packet : Packet crates

structure Network (crates : Crates) where
  clients : Clients crates
  /-- The running actors, each with its client and the ping it waits for. -/
  actors : ConnectionId → Option (Client crates × Option (List.Vector UInt8 8))
  /-- Frames on the way to the relay, oldest first. -/
  up : ConnectionId → List Bytes
  /-- Frames on the way to the client, oldest first. -/
  down : ConnectionId → List Bytes
  /-- What each client's stream has yielded. -/
  delivered : ConnectionId → List (RelayToClientMsg crates)
  /-- A log of all packets that entered a queue. -/
  forwarded : List (Forwarding crates)

inductive NetworkAction (crates : Crates) where
  | connect (config : Config crates)
  | clientSend (connectionId : ConnectionId) (msg : ClientToRelayMsg crates)
  | inject (connectionId : ConnectionId) (bytes : Bytes)
  | relay (connectionId : ConnectionId) (branch : Branch crates)
  | clientRecv (connectionId : ConnectionId) (cache : KeyCache crates)
      (version : ProtocolVersion)

variable {crates : Crates}

namespace Network

def new : Network crates :=
  ⟨Clients.new, fun _ => none, fun _ => [], fun _ => [], fun _ => [], []⟩

def consume (net : Network crates) (connectionId : ConnectionId) :
    Branch crates → Network crates
  | .frame (some (.ok _)) _ _ _ =>
      { net with up := Function.update net.up connectionId (net.up connectionId).tail }
  | .packet (some _) _ _ =>
      { net with clients := net.clients.perform (.recvPacket connectionId) }
  | .message (some _) _ _ =>
      { net with clients := net.clients.perform (.recvMessage connectionId) }
  | _ => net

/-- The queue that received datagrams enter, if they do. -/
def forwardings (clients : Clients crates) (connectionId : ConnectionId)
    (src : EndpointId crates.ed25519) :
    Option (EndpointId crates.ed25519 × Datagrams) → List (Forwarding crates)
  | none => []
  | some (dst, payload) =>
      match clients.clients.lookup dst with
      | none => []
      | some entry =>
          if (clients.handles entry.active.connectionId).packetQueue.HasRoom then
            [⟨connectionId, dst, entry.active.connectionId, ⟨src, payload⟩⟩]
          else []

/-- After an iteration: the frames it wrote are on their way, and the actor goes on
or ends. A panic ends it without unregistering. -/
def settle (net : Network crates) (connectionId : ConnectionId) (client : Client crates)
    (outcome : Outcome RunError Flow × Actor crates) : Network crates :=
  let net := { net with
    clients := outcome.2.clients
    down := Function.update net.down connectionId
      (net.down connectionId ++ outcome.2.written) }
  match outcome.1 with
  | .ok .again =>
      { net with
        actors := Function.update net.actors connectionId
          (some (client, outcome.2.pingTracker)) }
  | .ok .leave | .err _ =>
      { net with
        clients := net.clients.endActor client.endpointId connectionId
        actors := Function.update net.actors connectionId none }
  | .panicked =>
      { net with
        clients := net.clients.dropReceivers connectionId
        actors := Function.update net.actors connectionId none }

def actorOf (net : Network crates) (connectionId : ConnectionId) (client : Client crates)
    (ping : Option (List.Vector UInt8 8)) : Actor crates :=
  ⟨[], client.endpointId, connectionId, net.clients, ping⟩

def relay (net : Network crates) (connectionId : ConnectionId) (branch : Branch crates) :
    Network crates :=
  match net.actors connectionId with
  | none => net
  | some (client, ping) =>
      let net := net.consume connectionId branch
      let outcome := (net.actorOf connectionId client ping).iterate branch
      { net with
        forwarded := net.forwarded ++
          forwardings net.clients connectionId client.endpointId branch.datagrams? }.settle
            connectionId client outcome

def perform (net : Network crates) : NetworkAction crates → Network crates
  | .connect config =>
      { net with
        clients := net.clients.register config
        actors := Function.update net.actors config.connectionId
          (some (Client.new config, none)) }
  | .clientSend connectionId msg =>
      match Conn.startSend msg none with
      | .ok bytes =>
          { net with
            up := Function.update net.up connectionId (net.up connectionId ++ [bytes]) }
      | .error _ => net
  | .inject connectionId bytes =>
      { net with up := Function.update net.up connectionId (net.up connectionId ++ [bytes]) }
  | .relay connectionId branch => net.relay connectionId branch
  | .clientRecv connectionId cache version =>
      match net.down connectionId with
      | [] => net
      | bytes :: rest =>
          { net with
            down := Function.update net.down connectionId rest
            delivered := Function.update net.delivered connectionId
              (net.delivered connectionId ++ Conn.receive bytes cache version) }

end Network

def connectedIds (history : List (NetworkAction crates)) : List ConnectionId :=
  history.filterMap fun action =>
    match action with
    | .connect config => some config.connectionId
    | _ => none

/-- The input that a branch names is the one that waits. -/
def Branch.Fits (net : Network crates) (connectionId : ConnectionId) : Branch crates → Prop
  | .frame (some (.ok bytes)) _ _ _ => (net.up connectionId).head? = some bytes
  | .packet (some queued) _ _ =>
      (net.clients.handles connectionId).packetQueue.pending.head? = some queued
  | .message (some queued) _ _ =>
      (net.clients.handles connectionId).messageQueue.pending.head? = some queued
  | _ => True

instance (net : Network crates) (connectionId : ConnectionId) (branch : Branch crates) :
    Decidable (branch.Fits net connectionId) :=
  match branch with
  | .frame (some (.ok bytes)) _ _ _ =>
      inferInstanceAs (Decidable ((net.up connectionId).head? = some bytes))
  | .packet (some queued) _ _ => inferInstanceAs (Decidable
      ((net.clients.handles connectionId).packetQueue.pending.head? = some queued))
  | .message (some queued) _ _ => inferInstanceAs (Decidable
      ((net.clients.handles connectionId).messageQueue.pending.head? = some queued))
  | .frame none _ _ _ | .frame (some (.error _)) _ _ _ | .packet none _ _ | .message none _ _
  | .cancelled _ | .pongTimeout | .pingTick _ _ _ => .isTrue trivial

/-- Connections have fresh ids, and only running actors iterate. -/
def NetworkAction.Allowed (history : List (NetworkAction crates)) (net : Network crates) :
    NetworkAction crates → Prop
  | .connect config => config.connectionId ∉ connectedIds history
  | .relay connectionId branch =>
      (net.actors connectionId).isSome ∧ branch.Fits net connectionId
  | _ => True

instance NetworkAction.decidableAllowed (history : List (NetworkAction crates))
    (net : Network crates) (action : NetworkAction crates) :
    Decidable (action.Allowed history net) :=
  match action with
  | .connect config =>
      inferInstanceAs (Decidable (config.connectionId ∉ connectedIds history))
  | .relay connectionId branch => inferInstanceAs (Decidable
      ((net.actors connectionId).isSome ∧ branch.Fits net connectionId))
  | .clientSend _ _ | .inject _ _ | .clientRecv _ _ _ => .isTrue trivial

/-- Any number of clients of one relay, in any interleaving. -/
def networkMachine (crates : Crates) : Machine (Network crates) (NetworkAction crates) where
  start := Network.new
  Enabled history net action := action.Allowed history net
  step := Network.perform

instance (history : List (NetworkAction crates)) (net : Network crates)
    (action : NetworkAction crates) :
    Decidable ((networkMachine crates).Enabled history net action) :=
  inferInstanceAs (Decidable (action.Allowed history net))

/-! ## One iteration, part by part -/

namespace Clients

variable (state : Clients crates)

private theorem perform_recvPacket_of_head {connectionId : ConnectionId} {packet : Packet crates}
    (head : (state.handles connectionId).packetQueue.pending.head? = some packet) :
    ((state.perform (.recvPacket connectionId)).handles connectionId).packetQueue.received =
        (state.handles connectionId).packetQueue.received ++ [packet] ∧
      (state.perform (.recvPacket connectionId)).packetLog connectionId =
        state.packetLog connectionId := by
  cases taken : (state.handles connectionId).packetQueue.recv with
  | none =>
      unfold Channel.recv at taken
      split at taken
      next empty => simp [empty] at head
      next => simp at taken
  | some pair =>
      obtain ⟨value, queue⟩ := pair
      obtain ⟨pending, received, -⟩ := Channel.recv_eq_some taken
      have same : value = packet := by simpa [pending] using head
      constructor
      · simp [perform, recvPacket, taken, setHandles, received, same]
      · simp [perform, recvPacket, taken, setHandles, packetLog, Channel.sent_of_recv taken]

private theorem perform_recvPacket_of_ne {connectionId other : ConnectionId}
    (differs : other ≠ connectionId) :
    (state.perform (.recvPacket connectionId)).handles other = state.handles other := by
  simp only [perform, recvPacket]
  cases (state.handles connectionId).packetQueue.recv with
  | none => rfl
  | some taken => simp [setHandles, differs]

private theorem perform_recvMessage_packetQueue (connectionId other : ConnectionId) :
    ((state.perform (.recvMessage connectionId)).handles other).packetQueue =
      (state.handles other).packetQueue := by
  simp only [perform, recvMessage]
  cases (state.handles connectionId).messageQueue.recv with
  | none => rfl
  | some taken =>
      by_cases same : other = connectionId
      · simp [setHandles, same]
      · simp [setHandles, same]

/-- Forwarding extends the log of the queue that the packet enters, and nothing has
been received through it. -/
theorem sendPacket_packetQueue (dst : EndpointId crates.ed25519) (payload : Datagrams)
    (src : EndpointId crates.ed25519) (connectionId other : ConnectionId) :
    ((state.sendPacket dst payload src).2.handles other).packetQueue.received =
        (state.handles other).packetQueue.received ∧
      (state.sendPacket dst payload src).2.packetLog other = state.packetLog other ++
        ((Network.forwardings state connectionId src (some (dst, payload))).filter
          fun record => record.target = other).map Forwarding.packet := by
  cases present : state.clients.lookup dst with
  | none => simp [sendPacket, Network.forwardings, present, packetLog]
  | some entry =>
      by_cases room : (state.handles entry.active.connectionId).packetQueue.HasRoom
      · simp only [sendPacket, trySendPacket, Network.forwardings, present,
          Channel.trySend_of_hasRoom room, if_pos room]
        by_cases same : other = entry.active.connectionId
        · subst same
          simp [packetLog, setHandles, Channel.push, Channel.sent]
        · simp [packetLog, setHandles, same, Ne.symm same]
      · obtain ⟨error, refused⟩ := Channel.trySend_error_of_not_hasRoom room ⟨src, payload⟩
        simp only [sendPacket, trySendPacket, Network.forwardings, present, refused, if_neg room]
        cases error with
        | full => simp
        | closed =>
            by_cases same : other = entry.active.connectionId
            · subst same
              simp [packetLog, startShutdown, setHandles]
            · simp [packetLog, startShutdown, setHandles, same]

end Clients

namespace Network

variable {net : Network crates} {connectionId : ConnectionId} {branch : Branch crates}
  {client : Client crates} {ping : Option (List.Vector UInt8 8)}

def outcomeOf (net : Network crates) (connectionId : ConnectionId) (client : Client crates)
    (ping : Option (List.Vector UInt8 8)) (branch : Branch crates) :
    Outcome RunError Flow × Actor crates :=
  ((net.consume connectionId branch).actorOf connectionId client ping).iterate branch

private theorem consume_elsewhere (net : Network crates) (connectionId : ConnectionId)
    (branch : Branch crates) :
    (net.consume connectionId branch).actors = net.actors ∧
      (net.consume connectionId branch).down = net.down ∧
      (net.consume connectionId branch).delivered = net.delivered ∧
      (net.consume connectionId branch).forwarded = net.forwarded := by
  unfold consume
  split <;> exact ⟨rfl, rfl, rfl, rfl⟩

theorem consume_actors (net : Network crates) (connectionId : ConnectionId)
    (branch : Branch crates) : (net.consume connectionId branch).actors = net.actors :=
  (net.consume_elsewhere connectionId branch).1

private theorem settle_wires (net : Network crates) (connectionId : ConnectionId)
    (client : Client crates) (outcome : Outcome RunError Flow × Actor crates) :
    (net.settle connectionId client outcome).up = net.up ∧
      (net.settle connectionId client outcome).down = Function.update net.down connectionId
        (net.down connectionId ++ outcome.2.written) ∧
      (net.settle connectionId client outcome).delivered = net.delivered ∧
      (net.settle connectionId client outcome).forwarded = net.forwarded := by
  unfold settle
  split <;> exact ⟨rfl, rfl, rfl, rfl⟩

theorem relay_eq (running : net.actors connectionId = some (client, ping)) :
    net.relay connectionId branch =
      { net.consume connectionId branch with
        forwarded := net.forwarded ++ forwardings (net.consume connectionId branch).clients
          connectionId client.endpointId branch.datagrams? }.settle connectionId client
            (net.outcomeOf connectionId client ping branch) := by
  obtain ⟨-, -, -, log⟩ := net.consume_elsewhere connectionId branch
  simp only [relay, running, outcomeOf, log]

private theorem forwardings_consume (net : Network crates) (connectionId : ConnectionId)
    (branch : Branch crates) (src : EndpointId crates.ed25519) :
    forwardings (net.consume connectionId branch).clients connectionId src branch.datagrams? =
      forwardings net.clients connectionId src branch.datagrams? := by
  cases branch with
  | frame item cache answers flush => rcases item with _ | error | bytes <;> rfl
  | _ => rfl

theorem relay_forwarded (running : net.actors connectionId = some (client, ping)) :
    (net.relay connectionId branch).forwarded = net.forwarded ++
      forwardings net.clients connectionId client.endpointId branch.datagrams? := by
  rw [relay_eq running, forwardings_consume]
  exact (settle_wires _ _ _ _).2.2.2

theorem relay_up (running : net.actors connectionId = some (client, ping)) :
    (net.relay connectionId branch).up = (net.consume connectionId branch).up := by
  rw [relay_eq running]
  exact (settle_wires _ _ _ _).1

theorem relay_delivered (running : net.actors connectionId = some (client, ping)) :
    (net.relay connectionId branch).delivered = net.delivered := by
  obtain ⟨-, -, kept, -⟩ := net.consume_elsewhere connectionId branch
  rw [relay_eq running, ← kept]
  exact (settle_wires _ _ _ _).2.2.1

theorem relay_down (running : net.actors connectionId = some (client, ping)) :
    (net.relay connectionId branch).down = Function.update net.down connectionId
      (net.down connectionId ++ (net.outcomeOf connectionId client ping branch).2.written) := by
  obtain ⟨-, kept, -, -⟩ := net.consume_elsewhere connectionId branch
  rw [relay_eq running, ← kept]
  exact (settle_wires _ _ _ _).2.1

private theorem settle_packetQueue (net : Network crates) (connectionId : ConnectionId)
    (client : Client crates) (outcome : Outcome RunError Flow × Actor crates)
    (other : ConnectionId) :
    ((net.settle connectionId client outcome).clients.handles other).packetQueue.received =
        (outcome.2.clients.handles other).packetQueue.received ∧
      (net.settle connectionId client outcome).clients.packetLog other =
        outcome.2.clients.packetLog other := by
  have ended := outcome.2.clients.endActor_packetQueue client.endpointId connectionId other
  unfold settle
  split
  · exact ⟨rfl, rfl⟩
  · exact ⟨ended.1, by simp only [Clients.packetLog, Channel.sent, ended]⟩
  · exact ⟨ended.1, by simp only [Clients.packetLog, Channel.sent, ended]⟩
  · by_cases same : other = connectionId
    · subst same
      simp [Clients.dropReceivers, Clients.setHandles, Clients.packetLog, Channel.close,
        Channel.sent]
    · simp [Clients.dropReceivers, Clients.setHandles, Clients.packetLog, same]

private theorem outcomeOf_packetQueue (net : Network crates) (connectionId : ConnectionId)
    (client : Client crates) (ping : Option (List.Vector UInt8 8)) (branch : Branch crates)
    (other : ConnectionId) :
    ((net.outcomeOf connectionId client ping branch).2.clients.handles other).packetQueue.received =
        ((net.consume connectionId branch).clients.handles other).packetQueue.received ∧
      (net.outcomeOf connectionId client ping branch).2.clients.packetLog other =
        (net.consume connectionId branch).clients.packetLog other ++
          ((forwardings (net.consume connectionId branch).clients connectionId client.endpointId
            branch.datagrams?).filter fun record => record.target = other).map
              Forwarding.packet := by
  have tables := ((net.consume connectionId branch).actorOf connectionId client
    ping).iterate_clients branch
  rw [outcomeOf, Clients.packetLog, tables.handles]
  cases branch.datagrams? with
  | none => exact ⟨rfl, by simp [forwardings, Actor.forwardedTables, actorOf, Clients.packetLog]⟩
  | some pair =>
      obtain ⟨dst, payload⟩ := pair
      exact (net.consume connectionId branch).clients.sendPacket_packetQueue dst payload
        client.endpointId connectionId other

private theorem consume_packetQueue (fits : branch.Fits net connectionId) (other : ConnectionId) :
    ((net.consume connectionId branch).clients.handles other).packetQueue.received =
        (net.clients.handles other).packetQueue.received ++
          (if other = connectionId then branch.packet?.toList else []) ∧
      (net.consume connectionId branch).clients.packetLog other =
        net.clients.packetLog other := by
  cases branch with
  | packet received answers flush =>
      cases received with
      | none => simp [consume, Branch.packet?]
      | some queued =>
          by_cases same : other = connectionId
          · subst same
            have taken := net.clients.perform_recvPacket_of_head fits
            simpa [consume, Branch.packet?] using taken
          · have kept := net.clients.perform_recvPacket_of_ne same
            simp [consume, Clients.packetLog, kept, same]
  | message received answers flush =>
      cases received with
      | none => simp [consume, Branch.packet?]
      | some queued =>
          have kept := net.clients.perform_recvMessage_packetQueue connectionId other
          simp [consume, Branch.packet?, Clients.packetLog, kept]
  | frame item cache answers flush =>
      rcases item with _ | error | bytes <;> simp [consume, Branch.packet?]
  | cancelled flush => simp [consume, Branch.packet?]
  | pongTimeout => simp [consume, Branch.packet?]
  | pingTick data answers flush => simp [consume, Branch.packet?]

/-- What one iteration receives from its packet queue, and what it adds to the queues
of others. -/
theorem relay_packetQueue (running : net.actors connectionId = some (client, ping))
    (fits : branch.Fits net connectionId) (other : ConnectionId) :
    ((net.relay connectionId branch).clients.handles other).packetQueue.received =
        (net.clients.handles other).packetQueue.received ++
          (if other = connectionId then branch.packet?.toList else []) ∧
      (net.relay connectionId branch).clients.packetLog other = net.clients.packetLog other ++
        ((forwardings net.clients connectionId client.endpointId branch.datagrams?).filter
          fun record => record.target = other).map Forwarding.packet := by
  have consumed := consume_packetQueue fits other
  have iterated := net.outcomeOf_packetQueue connectionId client ping branch other
  rw [relay_eq running]
  rw [(settle_packetQueue _ _ _ _ _).1, (settle_packetQueue _ _ _ _ _).2, iterated.1, iterated.2,
    consumed.1, consumed.2, forwardings_consume]
  exact ⟨rfl, rfl⟩

private theorem consume_sameRegistration (net : Network crates) (connectionId : ConnectionId)
    (branch : Branch crates) :
    Clients.SameRegistration net.clients (net.consume connectionId branch).clients := by
  cases branch with
  | frame item cache answers flush => rcases item with _ | error | bytes <;> exact .refl
  | packet received answers flush =>
      cases received with
      | none => exact .refl
      | some queued => exact Clients.sameRegistration_recvPacket connectionId
  | message received answers flush =>
      cases received with
      | none => exact .refl
      | some queued => exact Clients.sameRegistration_recvMessage connectionId
  | _ => exact .refl

private theorem outcomeOf_sameRegistration (net : Network crates) (connectionId : ConnectionId)
    (client : Client crates) (ping : Option (List.Vector UInt8 8)) (branch : Branch crates) :
    Clients.SameRegistration net.clients
      (net.outcomeOf connectionId client ping branch).2.clients := by
  have tables := ((net.consume connectionId branch).actorOf connectionId client
    ping).iterate_clients branch
  have forwarded : Clients.SameRegistration (net.consume connectionId branch).clients
      (((net.consume connectionId branch).actorOf connectionId client ping).forwardedTables
        branch.datagrams?) := by
    cases branch.datagrams? with
    | none => exact .refl
    | some pair => exact Clients.sameRegistration_sendPacket _ _ _
  refine ((consume_sameRegistration net connectionId branch).trans forwarded).trans
    ⟨tables.clients, tables.added, tables.removed, fun other => ?_, fun other => ?_⟩
  · rw [outcomeOf, Clients.messageLog, tables.handles, Clients.messageLog]
  · rw [outcomeOf, tables.handles]

/-- The registry after an iteration: the actor goes on, was unregistered, or died. -/
theorem settle_clients (net : Network crates) (connectionId : ConnectionId)
    (client : Client crates) (outcome : Outcome RunError Flow × Actor crates) :
    (outcome.1 = .ok .again ∧
        (net.settle connectionId client outcome).clients = outcome.2.clients ∧
        (net.settle connectionId client outcome).actors =
          Function.update net.actors connectionId (some (client, outcome.2.pingTracker))) ∨
      (outcome.1 ≠ .ok .again ∧
        (net.settle connectionId client outcome).actors =
          Function.update net.actors connectionId none ∧
        ((net.settle connectionId client outcome).clients =
            outcome.2.clients.endActor client.endpointId connectionId ∨
          (net.settle connectionId client outcome).clients =
            outcome.2.clients.dropReceivers connectionId)) := by
  unfold settle
  split
  · next again => exact .inl ⟨again, rfl, rfl⟩
  · next left => exact .inr ⟨by simp [left], rfl, .inl rfl⟩
  · next failed => exact .inr ⟨by simp [failed], rfl, .inl rfl⟩
  · next died => exact .inr ⟨by simp [died], rfl, .inr rfl⟩

theorem relay_actors_of_ne (running : net.actors connectionId = some (client, ping))
    {other : ConnectionId} (differs : other ≠ connectionId) :
    (net.relay connectionId branch).actors other = net.actors other := by
  rw [relay_eq running]
  rcases settle_clients _ connectionId client (net.outcomeOf connectionId client ping branch) with
    ⟨-, -, actors⟩ | ⟨-, actors, -⟩
  · rw [actors, Function.update_of_ne differs, consume_actors]
  · rw [actors, Function.update_of_ne differs, consume_actors]

theorem again_of_relay_running (running : net.actors connectionId = some (client, ping))
    (still : ((net.relay connectionId branch).actors connectionId).isSome) :
    (net.outcomeOf connectionId client ping branch).1 = .ok .again := by
  rw [relay_eq running] at still
  rcases settle_clients _ connectionId client (net.outcomeOf connectionId client ping branch) with
    ⟨again, -⟩ | ⟨-, actors, -⟩
  · exact again
  · rw [actors] at still
    simp at still

end Network

def carriesDatagrams (msg : RelayToClientMsg crates) : Bool := msg.datagrams?.isSome

theorem carriesDatagrams_healthMessage (client : Client crates) (status : Status) :
    carriesDatagrams (client.healthMessage status) = false := by
  unfold Client.healthMessage
  cases client.protocolVersion <;> rfl

def NoQueuedDatagrams (net : Network crates) : Prop :=
  ∀ connectionId, (net.clients.messageLog connectionId).filter carriesDatagrams = []

theorem NoQueuedDatagrams.relay {net : Network crates} {connectionId : ConnectionId}
    {branch : Branch crates} {client : Client crates} {ping : Option (List.Vector UInt8 8)}
    (none : NoQueuedDatagrams net) (running : net.actors connectionId = some (client, ping)) :
    NoQueuedDatagrams (net.relay connectionId branch) := by
  intro other
  have same := (net.outcomeOf_sameRegistration connectionId client ping branch).messageLog other
  rw [Network.relay_eq running]
  rcases Network.settle_clients _ connectionId client
    (net.outcomeOf connectionId client ping branch) with
    ⟨-, clients, -⟩ | ⟨-, -, clients | clients⟩
  · rw [clients, same]
    exact none other
  · rw [clients, Clients.endActor_filter_messageLog carriesDatagrams_healthMessage (fun _ => rfl),
      same]
    exact none other
  · rw [clients, Clients.messageLog_dropReceivers, same]
    exact none other

theorem NoQueuedDatagrams.connect {net : Network crates} (none : NoQueuedDatagrams net)
    (config : Config crates) : NoQueuedDatagrams (net.perform (.connect config)) := by
  intro other
  have spawned : ((net.clients.spawn config).messageLog other).filter carriesDatagrams = [] := by
    by_cases same : other = config.connectionId
    · simp [Clients.messageLog, Clients.spawn, Clients.setHandles, same, Handles.new]
    · simpa [Clients.messageLog, Clients.spawn, Clients.setHandles, same] using none other
  rw [← spawned]
  exact Clients.insert_filter_messageLog carriesDatagrams_healthMessage _ _ _

/-- The registry holds connections that were connected, and among them all those whose
actor runs. -/
def Attached (history : List (NetworkAction crates)) (net : Network crates) : Prop :=
  ∃ roster, Stacked roster net.clients ∧
    (∀ client ∈ roster, ∃ config, .connect config ∈ history ∧ Client.new config = client) ∧
    ∀ connectionId client ping, net.actors connectionId = some (client, ping) →
      client ∈ roster ∧ client.connectionId = connectionId

theorem mem_connectedIds {history : List (NetworkAction crates)} {config : Config crates}
    (connected : .connect config ∈ history) : config.connectionId ∈ connectedIds history :=
  List.mem_filterMap.mpr ⟨_, connected, rfl⟩

theorem Attached.connect {history : List (NetworkAction crates)} {net : Network crates}
    (attached : Attached history net) {config : Config crates}
    (fresh : config.connectionId ∉ connectedIds history) :
    Attached (history ++ [NetworkAction.connect config]) (net.perform (.connect config)) := by
  obtain ⟨roster, stacked, connected, running⟩ := attached
  refine ⟨roster ++ [Client.new config], ?_, ?_, ?_⟩
  · refine (stacked.spawn config).insert fun other inside same => fresh ?_
    obtain ⟨earlier, occurred, rfl⟩ := connected other inside
    have sameId : earlier.connectionId = config.connectionId := same
    rw [← sameId]
    exact mem_connectedIds occurred
  · intro client inside
    rcases List.mem_append.mp inside with old | new
    · obtain ⟨earlier, occurred, same⟩ := connected client old
      exact ⟨earlier, by simp [occurred], same⟩
    · exact ⟨config, by simp, (List.mem_singleton.mp new).symm⟩
  · intro connectionId client ping found
    by_cases same : connectionId = config.connectionId
    · subst same
      obtain ⟨rfl, -⟩ : Client.new config = client ∧ none = ping := by
        simpa [Network.perform] using found
      exact ⟨by simp, rfl⟩
    · have before : net.actors connectionId = some (client, ping) := by
        simpa [Network.perform, same] using found
      obtain ⟨inside, labelled⟩ := running connectionId client ping before
      exact ⟨List.mem_append_left _ inside, labelled⟩

theorem Attached.relay {history : List (NetworkAction crates)} {net : Network crates}
    {connectionId : ConnectionId} {branch : Branch crates} {client : Client crates}
    {ping : Option (List.Vector UInt8 8)} (attached : Attached history net)
    (found : net.actors connectionId = some (client, ping)) :
    Attached (history ++ [.relay connectionId branch]) (net.relay connectionId branch) := by
  obtain ⟨roster, stacked, connected, running⟩ := attached
  obtain ⟨inside, rfl⟩ := running connectionId client ping found
  have same := net.outcomeOf_sameRegistration client.connectionId client ping branch
  have iterated : Stacked roster
      (net.outcomeOf client.connectionId client ping branch).2.clients :=
    stacked.of_eq same.clients same.added same.removed
  have stillConnected : ∀ member ∈ roster, ∃ config,
      .connect config ∈ history ++ [NetworkAction.relay client.connectionId branch] ∧
        Client.new config = member := fun member memberInside => by
    obtain ⟨config, occurred, new⟩ := connected member memberInside
    exact ⟨config, by simp [occurred], new⟩
  rw [Network.relay_eq found]
  rcases Network.settle_clients _ client.connectionId client
    (net.outcomeOf client.connectionId client ping branch) with
    ⟨-, clients, actors⟩ | ⟨-, actors, ended⟩
  · refine ⟨roster, clients ▸ iterated, stillConnected, fun other member memberPing occupied => ?_⟩
    rw [actors, Network.consume_actors] at occupied
    by_cases own : other = client.connectionId
    · subst own
      obtain ⟨rfl, -⟩ : client = member ∧ _ = memberPing := by simpa using occupied
      exact ⟨inside, rfl⟩
    · exact running other member memberPing (by simpa [own] using occupied)
  · have others : ∀ other member memberPing,
        (Function.update net.actors client.connectionId none) other = some (member, memberPing) →
          member ∈ roster ∧ member.connectionId = other ∧ other ≠ client.connectionId := by
      intro other member memberPing occupied
      by_cases own : other = client.connectionId
      · simp [own] at occupied
      · obtain ⟨memberInside, labelled⟩ :=
          running other member memberPing (by simpa [own] using occupied)
        exact ⟨memberInside, labelled, own⟩
    rcases ended with clients | clients
    · refine ⟨Roster.leave Client.connectionId client.connectionId roster,
        clients ▸ iterated.endActor inside, fun member kept => ?_, ?_⟩
      · exact stillConnected member (Roster.mem_leave.mp kept).1
      · intro other member memberPing occupied
        rw [actors, Network.consume_actors] at occupied
        obtain ⟨memberInside, rfl, differs⟩ := others other member memberPing occupied
        exact ⟨Roster.mem_leave.mpr ⟨memberInside, differs⟩, rfl⟩
    · refine ⟨roster, clients ▸ iterated.of_eq rfl rfl rfl, stillConnected, ?_⟩
      intro other member memberPing occupied
      rw [actors, Network.consume_actors] at occupied
      obtain ⟨memberInside, labelled, -⟩ := others other member memberPing occupied
      exact ⟨memberInside, labelled⟩

end NexalinkTunnel.Relay.Server
