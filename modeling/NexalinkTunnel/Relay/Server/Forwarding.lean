import NexalinkTunnel.Relay.Server.Network

/-!
Contract: datagrams from one client through the relay to another.

Owns that forwarding is faithful and in order along every run of the network:
what a client sent is what was forwarded for it, under its own identity, and
what was forwarded to a connection is what its client receives.

Does not own: a client that puts bytes on its wire past its own sink. Nothing is
promised about those.
-/

namespace NexalinkTunnel.Relay.Server

open Lib
open Base
open Relay.Protos

variable {crates : Crates}

/-- The active connection of the destination takes one more packet. -/
def Clients.Takes (state : Clients crates) :
    Option (EndpointId crates.ed25519 × Datagrams) → Prop
  | none => True
  | some (dst, _) => ∃ entry ∈ state.clients.lookup dst,
      (state.handles entry.active.connectionId).packetQueue.HasRoom

/-- The client of `sender` puts only accepted messages on its wire, and whatever
datagrams its actor receives, their destination takes them. -/
def Unobstructed (sender : ConnectionId) (_ : List (NetworkAction crates))
    (net : Network crates) : NetworkAction crates → Prop
  | .inject connectionId _ => connectionId ≠ sender
  | .relay connectionId branch => connectionId = sender → net.clients.Takes branch.datagrams?
  | _ => True

instance (state : Clients crates) (datagrams : Option (EndpointId crates.ed25519 × Datagrams)) :
    Decidable (state.Takes datagrams) :=
  match datagrams with
  | none => .isTrue trivial
  | some (dst, _) => inferInstanceAs (Decidable (∃ entry ∈ state.clients.lookup dst,
      (state.handles entry.active.connectionId).packetQueue.HasRoom))

instance (sender : ConnectionId) (history : List (NetworkAction crates)) (net : Network crates)
    (action : NetworkAction crates) : Decidable (Unobstructed sender history net action) :=
  match action with
  | .inject connectionId _ => inferInstanceAs (Decidable (connectionId ≠ sender))
  | .relay connectionId branch => inferInstanceAs (Decidable
      (connectionId = sender → net.clients.Takes branch.datagrams?))
  | .connect _ | .clientSend _ _ | .clientRecv _ _ _ => .isTrue trivial

/-! ## What a run should have done -/

/-- The messages that a connection's client handed to its sink and the sink
accepted, in order. -/
def acceptedMessages (history : List (NetworkAction crates)) (connectionId : ConnectionId) :
    List (ClientToRelayMsg crates) :=
  history.filterMap fun action =>
    match action with
    | .clientSend sender msg =>
        match Conn.startSend msg none with
        | .ok _ => if sender = connectionId then some msg else none
        | .error _ => none
    | _ => none

def sentDatagrams (history : List (NetworkAction crates)) (connectionId : ConnectionId) :
    List (EndpointId crates.ed25519 × Datagrams) :=
  (acceptedMessages history connectionId).filterMap ClientToRelayMsg.datagrams?

/-- The datagrams that a client's stream has yielded, with their source. -/
def Network.receivedDatagrams (net : Network crates) (connectionId : ConnectionId) :
    List (EndpointId crates.ed25519 × Datagrams) :=
  (net.delivered connectionId).filterMap RelayToClientMsg.datagrams?

def Network.forwardedFrom (net : Network crates) (origin : ConnectionId) :
    List (EndpointId crates.ed25519 × Datagrams) :=
  (net.forwarded.filter fun record => record.origin = origin).map fun record =>
    (record.dst, record.packet.data)

def Packet.addressed (packet : Packet crates) : EndpointId crates.ed25519 × Datagrams :=
  (packet.src, packet.data)

def Network.forwardedTo (net : Network crates) (target : ConnectionId) :
    List (EndpointId crates.ed25519 × Datagrams) :=
  (net.forwarded.filter fun record => record.target = target).map fun record =>
    record.packet.addressed

/-! ## From the queue to the client -/

/-- Where the packets that an actor took from its queue are now: with the client, on
the wire, or lost with the actor. -/
def Conveyed (net : Network crates) (connectionId : ConnectionId) : Prop :=
  ∃ (inflight : List (RelayToClientMsg crates))
      (lost : List (EndpointId crates.ed25519 × Datagrams)),
    net.down connectionId = inflight.map RelayToClientMsg.toBytes ∧
      (∀ frame ∈ inflight, frame.body.length ≤ maxPacketSize) ∧
      (net.clients.handles connectionId).packetQueue.received.map Packet.addressed =
        net.receivedDatagrams connectionId ++ inflight.filterMap RelayToClientMsg.datagrams? ++
          lost ∧
      ((net.actors connectionId).isSome → lost = [])

private theorem datagrams?_of_mayWrite {net : Network crates} {connectionId : ConnectionId}
    {branch : Branch crates} {frame : RelayToClientMsg crates} (quiet : NoQueuedDatagrams net)
    (fits : branch.Fits net connectionId) (notPacket : branch.packet? = none)
    (allowed : branch.MayWrite frame) : frame.datagrams? = none := by
  cases branch with
  | packet received answers flush =>
      cases received with
      | none => exact allowed
      | some queued => simp [Branch.packet?] at notPacket
  | message received answers flush =>
      cases received with
      | none => exact allowed
      | some queued =>
          obtain rfl : frame = queued := allowed
          have waiting : frame ∈ (net.clients.handles connectionId).messageQueue.pending :=
            List.mem_of_mem_head? (by simpa [Branch.Fits] using fits)
          have logged : frame ∈ net.clients.messageLog connectionId :=
            List.mem_append_right _ waiting
          have silent := List.filter_eq_nil_iff.mp (quiet connectionId) frame logged
          simpa [carriesDatagrams] using silent
  | _ => exact allowed

/-- What an iteration takes from its packet queue it writes, or it ends. -/
theorem Network.relay_conveys {net : Network crates} {connectionId : ConnectionId}
    {branch : Branch crates} {client : Client crates} {ping : Option (List.Vector UInt8 8)}
    (quiet : NoQueuedDatagrams net) (running : net.actors connectionId = some (client, ping))
    (fits : branch.Fits net connectionId) :
    ∃ (frames : List (RelayToClientMsg crates))
        (lost : List (EndpointId crates.ed25519 × Datagrams)),
      (net.relay connectionId branch).down connectionId =
          net.down connectionId ++ frames.map RelayToClientMsg.toBytes ∧
        (∀ frame ∈ frames, frame.body.length ≤ maxPacketSize) ∧
        branch.packet?.toList.map Packet.addressed =
          frames.filterMap RelayToClientMsg.datagrams? ++ lost ∧
        (((net.relay connectionId branch).actors connectionId).isSome → lost = []) := by
  obtain ⟨frames, written, single, allowed⟩ :=
    ((net.consume connectionId branch).actorOf connectionId client ping).wrote_iterate branch
  have onWire : (net.relay connectionId branch).down connectionId =
      net.down connectionId ++ frames.map RelayToClientMsg.toBytes := by
    rw [relay_down running, Function.update_self]
    exact congrArg _ written
  have within := fun frame inside => (allowed frame inside).2
  cases taken : branch.packet? with
  | none =>
      have silent : frames.filterMap RelayToClientMsg.datagrams? = [] :=
        List.filterMap_eq_nil_iff.mpr fun frame inside =>
          datagrams?_of_mayWrite quiet fits taken (allowed frame inside).1
      exact ⟨frames, [], onWire, within, by simp [silent], fun _ => rfl⟩
  | some packet =>
      cases branch with
      | packet received answers flush =>
          obtain rfl : received = some packet := taken
          match frames, single, written, allowed with
          | [], _, written, _ =>
              -- Nothing on the wire: the write failed, and a failed write ends the actor.
              refine ⟨[], [packet.addressed], onWire, within, rfl, fun still => ?_⟩
              have again := again_of_relay_running running still
              have full := Actor.written_of_packet_again again
              rw [written] at full
              simp at full
          | [frame], _, _, allowed =>
              refine ⟨[frame], [], onWire, within, ?_, fun _ => rfl⟩
              have same : frame = .datagrams packet.src packet.data :=
                (allowed frame List.mem_cons_self).1
              rw [same]
              rfl
      | _ => simp [Branch.packet?] at taken

private theorem Conveyed.relay {net : Network crates} {connectionId : ConnectionId}
    {branch : Branch crates} {client : Client crates} {ping : Option (List.Vector UInt8 8)}
    (quiet : NoQueuedDatagrams net) (running : net.actors connectionId = some (client, ping))
    (fits : branch.Fits net connectionId) {other : ConnectionId} (conveyed : Conveyed net other) :
    Conveyed (net.relay connectionId branch) other := by
  obtain ⟨inflight, lost, down, within, received, whole⟩ := conveyed
  have taken := (Network.relay_packetQueue running fits other).1
  have delivered : (net.relay connectionId branch).receivedDatagrams other =
      net.receivedDatagrams other := by
    rw [Network.receivedDatagrams, Network.relay_delivered running, Network.receivedDatagrams]
  by_cases same : other = connectionId
  · subst same
    obtain ⟨frames, dropped, onWire, small, addressed, still⟩ :=
      Network.relay_conveys quiet running fits
    obtain rfl : lost = [] := whole (by simp [running])
    refine ⟨inflight ++ frames, dropped, ?_, ?_, ?_, still⟩
    · rw [onWire, down, List.map_append]
    · intro frame inside
      rcases List.mem_append.mp inside with old | new
      · exact within frame old
      · exact small frame new
    · rw [taken, delivered, if_pos rfl, List.map_append, received, addressed]
      simp
  · refine ⟨inflight, lost, ?_, within, ?_, ?_⟩
    · rw [Network.relay_down running, Function.update_of_ne same, down]
    · rw [taken, delivered, if_neg same, List.append_nil, received]
    · rw [Network.relay_actors_of_ne running same]
      exact whole

private theorem Conveyed.clientRecv {net : Network crates} {other : ConnectionId}
    (conveyed : Conveyed net other) (connectionId : ConnectionId)
    (cache : KeyCache crates) (version : ProtocolVersion) :
    Conveyed (net.perform (.clientRecv connectionId cache version)) other := by
  obtain ⟨inflight, lost, down, within, received, whole⟩ := conveyed
  cases waiting : net.down connectionId with
  | nil =>
      simp only [Network.perform, waiting]
      exact ⟨inflight, lost, down, within, received, whole⟩
  | cons bytes rest =>
      simp only [Network.perform, waiting]
      by_cases same : other = connectionId
      · subst same
        cases inflight with
        | nil => simp [waiting] at down
        | cons frame later =>
            obtain ⟨rfl, rfl⟩ : bytes = frame.toBytes ∧
                rest = later.map RelayToClientMsg.toBytes := by
              simpa [waiting] using down
            have decoded :=
              Conn.datagrams?_receive (within frame List.mem_cons_self) cache version
            refine ⟨later, lost, by simp, fun frame inside => ?_, ?_, whole⟩
            · exact within frame (List.mem_cons_of_mem _ inside)
            · rw [received]
              simp only [Network.receivedDatagrams, Function.update_self, List.filterMap_append,
                decoded]
              cases shape : frame.datagrams? with
              | none => simp [shape]
              | some pair => simp [shape]
      · refine ⟨inflight, lost, by simp [same, down], within, ?_, whole⟩
        rw [received]
        simp [Network.receivedDatagrams, same]

/-- A record names its ends truthfully: the source is the identity that the origin
connected with, and the target connected with the identity of the destination. -/
def Forwarding.Identified (history : List (NetworkAction crates)) (record : Forwarding crates) :
    Prop :=
  (∃ config, .connect config ∈ history ∧ config.connectionId = record.origin ∧
    config.endpointId = record.packet.src) ∧
  ∃ config, .connect config ∈ history ∧ config.connectionId = record.target ∧
    config.endpointId = record.dst

theorem Forwarding.Identified.append {history : List (NetworkAction crates)}
    {record : Forwarding crates} (identified : record.Identified history)
    (action : NetworkAction crates) : record.Identified (history ++ [action]) := by
  obtain ⟨⟨source, sourceConnected, sourceIs⟩, target, targetConnected, targetIs⟩ := identified
  exact ⟨⟨source, List.mem_append_left _ sourceConnected, sourceIs⟩, target,
    List.mem_append_left _ targetConnected, targetIs⟩

private theorem Attached.identified {history : List (NetworkAction crates)} {net : Network crates}
    {connectionId : ConnectionId} {client : Client crates} {ping : Option (List.Vector UInt8 8)}
    (attached : Attached history net) (running : net.actors connectionId = some (client, ping))
    (datagrams : Option (EndpointId crates.ed25519 × Datagrams)) :
    ∀ record ∈ Network.forwardings net.clients connectionId client.endpointId datagrams,
      record.Identified history := by
  obtain ⟨roster, stacked, connected, active⟩ := attached
  obtain ⟨inside, rfl⟩ := active connectionId client ping running
  intro record recorded
  rcases datagrams with _ | ⟨dst, payload⟩
  · simp [Network.forwardings] at recorded
  · simp only [Network.forwardings] at recorded
    cases present : net.clients.clients.lookup dst with
    | none => simp [present] at recorded
    | some entry =>
        simp only [present] at recorded
        split at recorded
        · obtain rfl := List.mem_singleton.mp recorded
          obtain ⟨targetInside, targetEndpoint⟩ :=
            stacked.mem_of_lookup present entry.active_mem_stack
          obtain ⟨source, sourceConnected, rfl⟩ := connected client inside
          obtain ⟨target, targetConnected, isTarget⟩ := connected entry.active targetInside
          refine ⟨⟨source, sourceConnected, rfl, rfl⟩, target, targetConnected, ?_, ?_⟩
          · rw [← isTarget]
            rfl
          · rw [← targetEndpoint, ← isTarget]
            rfl
        · simp at recorded

structure Faithful (history : List (NetworkAction crates)) (net : Network crates) : Prop where
  attached : Attached history net
  quiet : NoQueuedDatagrams net
  untouched : ∀ connectionId, connectionId ∉ connectedIds history →
    net.actors connectionId = none ∧ net.down connectionId = [] ∧ net.delivered connectionId = []
  identified : ∀ record ∈ net.forwarded, record.Identified history
  queued : ∀ connectionId, net.clients.packetLog connectionId =
    (net.forwarded.filter fun record => record.target = connectionId).map Forwarding.packet
  conveyed : ∀ connectionId, Conveyed net connectionId

namespace Faithful

variable {history : List (NetworkAction crates)} {net : Network crates}

private theorem new : Faithful [] (Network.new : Network crates) where
  attached := ⟨[], .new, by simp, by simp [Network.new]⟩
  quiet := fun _ => rfl
  untouched := fun _ _ => ⟨rfl, rfl, rfl⟩
  identified := by simp [Network.new]
  queued := fun _ => rfl
  conveyed := fun _ => ⟨[], [], rfl, by simp, rfl, fun _ => rfl⟩

private theorem of_up (faithful : Faithful history net) (up : ConnectionId → List Bytes)
    {action : NetworkAction crates}
    (ids : connectedIds (history ++ [action]) = connectedIds history) :
    Faithful (history ++ [action]) { net with up := up } where
  attached := by
    obtain ⟨roster, stacked, connected, running⟩ := faithful.attached
    refine ⟨roster, stacked, fun client inside => ?_, running⟩
    obtain ⟨config, occurred, new⟩ := connected client inside
    exact ⟨config, List.mem_append_left _ occurred, new⟩
  quiet := faithful.quiet
  untouched := by
    rw [ids]
    exact faithful.untouched
  identified := fun record inside => (faithful.identified record inside).append action
  queued := faithful.queued
  conveyed := faithful.conveyed

private theorem connect (faithful : Faithful history net) {config : Config crates}
    (fresh : config.connectionId ∉ connectedIds history) :
    Faithful (history ++ [NetworkAction.connect config]) (net.perform (.connect config)) where
  attached := faithful.attached.connect fresh
  quiet := faithful.quiet.connect config
  untouched := by
    intro other unused
    simp only [connectedIds, List.filterMap_append, List.mem_append, not_or] at unused
    have differs : other ≠ config.connectionId := by simpa using unused.2
    have before := faithful.untouched other unused.1
    simpa [Network.perform, differs] using before
  identified := fun record inside => (faithful.identified record inside).append _
  queued := by
    intro other
    by_cases same : other = config.connectionId
    · subst same
      have none :
          net.forwarded.filter (fun record => record.target = config.connectionId) = [] := by
        refine List.filter_eq_nil_iff.mpr fun record inside isTarget => fresh ?_
        obtain ⟨-, target, occurred, labelled, -⟩ := faithful.identified record inside
        rw [← of_decide_eq_true isTarget, ← labelled]
        exact mem_connectedIds occurred
      have started := net.clients.register_packetQueue_self config
      simp [Network.perform, Clients.packetLog, started, none]
    · have kept := net.clients.register_packetQueue_of_ne same
      have before := faithful.queued other
      simpa [Network.perform, Clients.packetLog, kept] using before
  conveyed := by
    intro other
    by_cases same : other = config.connectionId
    · subst same
      obtain ⟨-, down, delivered⟩ := faithful.untouched _ fresh
      have started := net.clients.register_packetQueue_self config
      refine ⟨[], [], by simpa [Network.perform] using down, by simp, ?_, fun _ => rfl⟩
      simp [Network.perform, Network.receivedDatagrams, started, delivered, Channel.new]
    · obtain ⟨inflight, lost, down, within, received, whole⟩ := faithful.conveyed other
      have kept := net.clients.register_packetQueue_of_ne same
      refine ⟨inflight, lost, down, within, ?_, ?_⟩
      · simpa [Network.perform, Network.receivedDatagrams, kept] using received
      · simpa [Network.perform, same] using whole

private theorem relay (faithful : Faithful history net) {connectionId : ConnectionId}
    {branch : Branch crates} (active : (net.actors connectionId).isSome)
    (fits : branch.Fits net connectionId) :
    Faithful (history ++ [.relay connectionId branch]) (net.relay connectionId branch) := by
  obtain ⟨⟨client, ping⟩, running⟩ := Option.isSome_iff_exists.mp active
  refine ⟨faithful.attached.relay running, faithful.quiet.relay running, ?_, ?_, ?_, ?_⟩
  · intro other unused
    have ids : connectedIds (history ++ [.relay connectionId branch]) = connectedIds history := by
      simp [connectedIds]
    rw [ids] at unused
    obtain ⟨idle, down, delivered⟩ := faithful.untouched other unused
    have differs : other ≠ connectionId := by
      rintro rfl
      simp [running] at idle
    rw [Network.relay_actors_of_ne running differs, Network.relay_down running,
      Function.update_of_ne differs, Network.relay_delivered running]
    exact ⟨idle, down, delivered⟩
  · intro record recorded
    rw [Network.relay_forwarded running] at recorded
    rcases List.mem_append.mp recorded with old | new
    · exact (faithful.identified record old).append _
    · exact (faithful.attached.identified running _ record new).append _
  · intro other
    rw [(Network.relay_packetQueue running fits other).2, faithful.queued,
      Network.relay_forwarded running, List.filter_append, List.map_append]
  · exact fun other => (faithful.conveyed other).relay faithful.quiet running fits

private theorem clientRecv (faithful : Faithful history net) (connectionId : ConnectionId)
    (cache : KeyCache crates) (version : ProtocolVersion) :
    Faithful (history ++ [.clientRecv connectionId cache version])
      (net.perform (.clientRecv connectionId cache version)) := by
  have ids : connectedIds (history ++ [.clientRecv connectionId cache version]) =
      connectedIds history := by
    simp [connectedIds]
  have conveyed := fun other => (faithful.conveyed other).clientRecv connectionId cache version
  cases waiting : net.down connectionId with
  | nil =>
      simp only [Network.perform, waiting]
      exact faithful.of_up net.up ids
  | cons bytes rest =>
      have same := faithful.of_up net.up ids
      simp only [Network.perform, waiting] at conveyed ⊢
      refine ⟨same.attached, same.quiet, fun other unused => ?_, same.identified, same.queued,
        conveyed⟩
      obtain ⟨idle, down, delivered⟩ := same.untouched other unused
      have differs : other ≠ connectionId := by
        rintro rfl
        simp [waiting] at down
      simpa [differs] using And.intro idle ⟨down, delivered⟩

end Faithful

private theorem faithful_of_reaches {history : List (NetworkAction crates)} {net : Network crates}
    (reached : (networkMachine crates).Reaches history net) : Faithful history net := by
  refine reached.invariant Faithful .new fun history net action _ enabled faithful => ?_
  cases action with
  | connect config => exact faithful.connect enabled
  | clientSend connectionId msg =>
      have ids : connectedIds (history ++ [.clientSend connectionId msg]) =
          connectedIds history := by
        simp [connectedIds]
      simp only [networkMachine, Network.perform]
      split
      · exact faithful.of_up _ ids
      · exact faithful.of_up net.up ids
  | inject connectionId bytes => exact faithful.of_up _ (by simp [connectedIds])
  | relay connectionId branch => exact faithful.relay enabled.1 enabled.2
  | clientRecv connectionId cache version => exact faithful.clientRecv connectionId cache version

/-! ## From the client to the queue -/

/-- What a client sent was handled by the relay or is on its way there. -/
def Handled (sender : ConnectionId) (history : List (NetworkAction crates))
    (net : Network crates) : Prop :=
  ∃ handled inflight : List (ClientToRelayMsg crates),
    acceptedMessages history sender = handled ++ inflight ∧
      net.up sender = inflight.map ClientToRelayMsg.toBytes ∧
      net.forwardedFrom sender = handled.filterMap ClientToRelayMsg.datagrams? ∧
      ∀ msg ∈ inflight, Conn.startSend msg none = .ok msg.toBytes

private theorem forwardings_origin {clients : Clients crates} {connectionId other : ConnectionId}
    {src : EndpointId crates.ed25519} {datagrams : Option (EndpointId crates.ed25519 × Datagrams)}
    (differs : connectionId ≠ other) :
    (Network.forwardings clients connectionId src datagrams).filter
      (fun record => record.origin = other) = [] := by
  unfold Network.forwardings
  split
  · rfl
  · split
    · rfl
    · split
      · simp [differs]
      · rfl

private theorem forwardings_of_takes {clients : Clients crates}
    {datagrams : Option (EndpointId crates.ed25519 × Datagrams)} (takes : clients.Takes datagrams)
    (connectionId : ConnectionId) (src : EndpointId crates.ed25519) :
    ((Network.forwardings clients connectionId src datagrams).filter
      (fun record => record.origin = connectionId)).map
        (fun record => (record.dst, record.packet.data)) = datagrams.toList := by
  rcases datagrams with _ | ⟨dst, payload⟩
  · rfl
  · obtain ⟨entry, present, room⟩ := takes
    simp [Network.forwardings, Option.mem_def.mp present, room]

private theorem Network.consume_up (net : Network crates) (connectionId : ConnectionId)
    (branch : Branch crates) :
    (∃ bytes cache answers flush, branch = .frame (some (.ok bytes)) cache answers flush) ∨
      (branch.datagrams? = none ∧ (net.consume connectionId branch).up = net.up) := by
  cases branch with
  | frame item cache answers flush =>
      rcases item with _ | error | bytes
      · exact .inr ⟨rfl, rfl⟩
      · exact .inr ⟨rfl, rfl⟩
      · exact .inl ⟨bytes, cache, answers, flush, rfl⟩
  | packet received answers flush => cases received <;> exact .inr ⟨rfl, rfl⟩
  | message received answers flush => cases received <;> exact .inr ⟨rfl, rfl⟩
  | cancelled flush => exact .inr ⟨rfl, rfl⟩
  | pongTimeout => exact .inr ⟨rfl, rfl⟩
  | pingTick data answers flush => exact .inr ⟨rfl, rfl⟩

theorem datagrams?_of_accepted {msg : ClientToRelayMsg crates} {bytes : Bytes}
    (accepted : Conn.startSend msg none = .ok bytes) (cache : KeyCache crates)
    (answers : SinkAnswers) (flush : Option StreamError) :
    (Branch.frame (some (.ok bytes)) cache answers flush).datagrams? = msg.datagrams? := by
  simp [Branch.datagrams?, RelayedStream.pollNext, pollNextWith,
    Conn.fromBytes_of_startSend accepted cache, polledDatagrams]

namespace Handled

variable {sender : ConnectionId} {history : List (NetworkAction crates)} {net : Network crates}

private theorem of_eq {next : Network crates} {action : NetworkAction crates}
    (handled : Handled sender history net)
    (accepted : acceptedMessages (history ++ [action]) sender = acceptedMessages history sender)
    (up : next.up sender = net.up sender)
    (forwarded : next.forwardedFrom sender = net.forwardedFrom sender) :
    Handled sender (history ++ [action]) next := by
  obtain ⟨done, inflight, sent, waiting, recorded, ready⟩ := handled
  exact ⟨done, inflight, accepted.trans sent, up.trans waiting, forwarded.trans recorded, ready⟩

private theorem clientSend (handled : Handled sender history net) (connectionId : ConnectionId)
    (msg : ClientToRelayMsg crates) :
    Handled sender (history ++ [NetworkAction.clientSend connectionId msg])
      (net.perform (.clientSend connectionId msg)) := by
  cases started : Conn.startSend msg none with
  | error error =>
      refine handled.of_eq ?_ ?_ ?_
      · simp [acceptedMessages, started]
      · simp [Network.perform, started]
      · simp [Network.perform, started]
  | ok bytes =>
      by_cases own : connectionId = sender
      · subst own
        obtain ⟨done, inflight, sent, waiting, recorded, ready⟩ := handled
        obtain ⟨-, rfl⟩ := Conn.startSend_eq_ok started
        refine ⟨done, inflight ++ [msg], ?_, ?_, ?_, fun later inside => ?_⟩
        · rw [← List.append_assoc, ← sent]
          simp [acceptedMessages, started]
        · simp [Network.perform, started, waiting]
        · simpa [Network.perform, started, Network.forwardedFrom] using recorded
        · rcases List.mem_append.mp inside with old | new
          · exact ready later old
          · rw [List.mem_singleton.mp new]
            exact started
      · refine handled.of_eq ?_ ?_ ?_
        · simp [acceptedMessages, started, own]
        · simp [Network.perform, started, Ne.symm own]
        · simp [Network.perform, started, Network.forwardedFrom]

private theorem relay (handled : Handled sender history net) {connectionId : ConnectionId}
    {branch : Branch crates} (active : (net.actors connectionId).isSome)
    (fits : branch.Fits net connectionId)
    (takes : connectionId = sender → net.clients.Takes branch.datagrams?) :
    Handled sender (history ++ [NetworkAction.relay connectionId branch])
      (net.relay connectionId branch) := by
  obtain ⟨⟨client, ping⟩, running⟩ := Option.isSome_iff_exists.mp active
  have accepted : acceptedMessages (history ++ [NetworkAction.relay connectionId branch]) sender =
      acceptedMessages history sender := by
    simp [acceptedMessages]
  have log : (net.relay connectionId branch).forwardedFrom sender =
      net.forwardedFrom sender ++ ((Network.forwardings net.clients connectionId client.endpointId
        branch.datagrams?).filter fun record => record.origin = sender).map
          fun record => (record.dst, record.packet.data) := by
    rw [Network.forwardedFrom, Network.relay_forwarded running, List.filter_append, List.map_append]
    rfl
  by_cases own : connectionId = sender
  · subst own
    rw [forwardings_of_takes (takes rfl)] at log
    rcases net.consume_up connectionId branch with
      ⟨bytes, cache, answers, flush, rfl⟩ | ⟨silent, up⟩
    · obtain ⟨done, inflight, sent, waiting, recorded, ready⟩ := handled
      have head : (net.up connectionId).head? = some bytes := fits
      cases inflight with
      | nil => simp [waiting] at head
      | cons msg later =>
          obtain rfl : msg.toBytes = bytes := by simpa [waiting] using head
          rw [datagrams?_of_accepted (ready msg List.mem_cons_self)] at log
          refine ⟨done ++ [msg], later, ?_, ?_, ?_, fun next inside => ?_⟩
          · rw [accepted, sent]
            simp
          · rw [Network.relay_up running]
            simp [Network.consume, waiting]
          · rw [log, recorded, List.filterMap_append]
            cases shape : msg.datagrams? <;> simp [shape]
          · exact ready next (List.mem_cons_of_mem _ inside)
    · refine handled.of_eq accepted ?_ ?_
      · rw [Network.relay_up running, up]
      · simpa [silent] using log
  · rw [forwardings_origin own] at log
    refine handled.of_eq accepted ?_ (by simpa using log)
    rw [Network.relay_up running]
    unfold Network.consume
    split <;> simp [Ne.symm own]

end Handled

private theorem handled_of_reaches {sender : ConnectionId} {history : List (NetworkAction crates)}
    {net : Network crates}
    (reached : ((networkMachine crates).restrict (Unobstructed sender)).Reaches history net) :
    Handled sender history net := by
  refine reached.invariant (Handled sender) ⟨[], [], rfl, rfl, rfl, by simp⟩
    fun history net action _ enabled handled => ?_
  obtain ⟨allowed, unobstructed⟩ := enabled
  cases action with
  | connect config => exact handled.of_eq (by simp [acceptedMessages]) rfl rfl
  | clientSend connectionId msg => exact handled.clientSend connectionId msg
  | inject connectionId bytes =>
      have differs : connectionId ≠ sender := unobstructed
      refine handled.of_eq (by simp [acceptedMessages]) ?_ rfl
      exact Function.update_of_ne differs.symm _ _
  | relay connectionId branch => exact handled.relay allowed.1 allowed.2 unobstructed
  | clientRecv connectionId cache version =>
      refine handled.of_eq (by simp [acceptedMessages]) ?_ ?_ <;>
        simp only [networkMachine, Machine.restrict, Network.perform] <;> split <;> rfl

private theorem passesChecks_forwarded {dst : EndpointId crates.ed25519} {payload : Datagrams}
    (passes : PassesChecks
      (ClientToRelayMsg.datagrams dst payload : ClientToRelayMsg crates).encodedLen
      (ClientToRelayMsg.datagrams dst payload : ClientToRelayMsg crates).datagramContents)
    (src : EndpointId crates.ed25519) :
    PassesChecks (RelayToClientMsg.datagrams src payload : RelayToClientMsg crates).encodedLen
      (RelayToClientMsg.datagrams src payload : RelayToClientMsg crates).datagramContents := by
  rw [ClientToRelayMsg.encodedLen_eq] at passes
  rw [RelayToClientMsg.encodedLen_eq]
  simpa [PassesChecks, ClientToRelayMsg.body, RelayToClientMsg.body,
    ClientToRelayMsg.datagramContents, RelayToClientMsg.datagramContents] using passes

/-- The sender's actor puts one packet into one queue and goes on. -/
theorem Actor.iterate_accepted (actor : Actor crates) {dst : EndpointId crates.ed25519}
    {payload : Datagrams} {sent : Bytes} {entry : ClientState crates}
    (accepted : Conn.startSend (.datagrams dst payload : ClientToRelayMsg crates) none = .ok sent)
    (present : actor.clients.clients.lookup dst = some entry)
    (room : (actor.clients.handles entry.active.connectionId).packetQueue.HasRoom)
    (cache : KeyCache crates) (answers : SinkAnswers) :
    (actor.iterate (.frame (some (.ok sent)) cache answers none)).1 = .ok .again ∧
      ∀ other, (actor.iterate (.frame (some (.ok sent)) cache answers none)).2.clients.packetLog
          other = actor.clients.packetLog other ++
        if other = entry.active.connectionId then [⟨actor.endpointId, payload⟩] else [] := by
  have received := datagrams?_of_accepted accepted cache answers none
  constructor
  · simp [iterate, RelayedStream.pollNext, pollNextWith,
      Conn.fromBytes_of_startSend accepted cache, handleFrame, finishIteration]
  · intro other
    have tables := actor.iterate_clients (.frame (some (.ok sent)) cache answers none)
    have queues := actor.clients.sendPacket_packetQueue dst payload actor.endpointId
      actor.connectionId other
    rw [received] at tables
    rw [Clients.packetLog, tables.handles]
    refine queues.2.trans ?_
    by_cases same : other = entry.active.connectionId
    · simp [Network.forwardings, present, room, same]
    · simp [Network.forwardings, present, room, same, Ne.symm same]

/-- The recipient's actor writes one frame, and its client receives the packet. -/
theorem Actor.iterate_forwarded (recipient : Actor crates) {dst src : EndpointId crates.ed25519}
    {payload : Datagrams} {sent : Bytes}
    (accepted : Conn.startSend (.datagrams dst payload : ClientToRelayMsg crates) none = .ok sent) :
    ∃ bytes, (recipient.iterate (.packet (some ⟨src, payload⟩) .prompt none)).1 = .ok .again ∧
      (recipient.iterate (.packet (some ⟨src, payload⟩) .prompt none)).2.written =
        recipient.written ++ [bytes] ∧
      ∀ cache version, Conn.receive bytes cache version = [.datagrams src payload] := by
  have passes := passesChecks_forwarded (startSendWith_eq_ok.mp accepted).1 src
  have started : RelayedStream.startSend (.datagrams src payload : RelayToClientMsg crates) none =
      .ok (RelayToClientMsg.datagrams src payload).toBytes :=
    startSendWith_eq_ok.mpr ⟨passes, rfl, rfl⟩
  have again : (recipient.iterate (.packet (some ⟨src, payload⟩) .prompt none)).1 = .ok .again := by
    simp [iterate, sendPacket, sendRaw, writeFrame, SinkAnswers.prompt, started, finishWrite,
      finishIteration]
  refine ⟨_, again, written_of_packet_again again, fun cache version => ?_⟩
  exact Conn.receive_of_fromBytes (RelayedStream.fromBytes_of_startSend started trivial cache)

/-- What a client sent was forwarded, up to what has not reached the relay. -/
theorem Handled.sent_eq {sender : ConnectionId} {history : List (NetworkAction crates)}
    {net : Network crates} (handled : Handled sender history net) :
    ∃ inflight, sentDatagrams history sender = net.forwardedFrom sender ++ inflight ∧
      (net.up sender = [] → inflight = []) := by
  obtain ⟨done, inflight, sent, waiting, recorded, -⟩ := handled
  refine ⟨inflight.filterMap ClientToRelayMsg.datagrams?, ?_, fun empty => ?_⟩
  · rw [sentDatagrams, sent, List.filterMap_append, recorded]
  · rw [waiting] at empty
    simp [List.map_eq_nil_iff.mp empty]

/-- What was forwarded to a connection was received by its client, up to what is still
on the way or was lost with the actor. -/
theorem Faithful.forwardedTo_eq {history : List (NetworkAction crates)} {net : Network crates}
    (faithful : Faithful history net) (target : ConnectionId) :
    ∃ waiting, net.forwardedTo target = net.receivedDatagrams target ++ waiting ∧
      ((net.actors target).isSome → net.down target = [] →
        (net.clients.handles target).packetQueue.pending = [] → waiting = []) := by
  obtain ⟨inflight, lost, down, -, received, whole⟩ := faithful.conveyed target
  have log : net.forwardedTo target = (net.clients.packetLog target).map Packet.addressed := by
    rw [faithful.queued, List.map_map]
    rfl
  refine ⟨inflight.filterMap RelayToClientMsg.datagrams? ++ lost ++
    (net.clients.handles target).packetQueue.pending.map Packet.addressed, ?_, ?_⟩
  · rw [log, Clients.packetLog, Channel.sent, List.map_append, received]
    simp
  · intro running empty drained
    rw [down] at empty
    simp [List.map_eq_nil_iff.mp empty, drained, whole running]

def Network.forwardedBetween (net : Network crates) (origin target : ConnectionId) :
    List Datagrams :=
  (net.forwarded.filter fun record => record.origin = origin ∧ record.target = target).map
    fun record => record.packet.data

private theorem Network.forwardedBetween_sublist (net : Network crates)
    (origin target : ConnectionId) :
    (net.forwardedBetween origin target).Sublist ((net.forwardedFrom origin).map Prod.snd) ∧
      (net.forwardedBetween origin target).Sublist ((net.forwardedTo target).map Prod.snd) := by
  simp only [forwardedBetween, forwardedFrom, forwardedTo, List.map_map]
  constructor
  · refine List.Sublist.map _ (List.monotone_filter_right _ fun record inside => ?_)
    exact decide_eq_true (of_decide_eq_true inside).1
  · refine List.Sublist.map _ (List.monotone_filter_right _ fun record inside => ?_)
    exact decide_eq_true (of_decide_eq_true inside).2

/-- End-to-end forwarding fidelity.

A datagrams message that the sender's sink accepts, to a destination whose
active connection takes one more packet, becomes one packet in that one queue,
and the recipient's client decodes it to the same datagrams from the sender's
own endpoint id.

Along every run of the network in which the messages of `sender` find such
destinations: what it sent is what was forwarded for it, in order, up to
frames on the wire; every record bears the identity that its connection
registered with and went to a connection of the destination; what was
forwarded to a connection is what its client received, in order, up to
packets on the way; and the messages between two connections keep their order
on both sides. -/
theorem forwarding_faithful_and_ordered (crates : Crates) (sender : ConnectionId) :
    (∀ (actor recipient : Actor crates) (dst : EndpointId crates.ed25519) (payload : Datagrams)
        (sent : Bytes) (entry : ClientState crates) (cache : KeyCache crates)
        (answers : SinkAnswers),
      Conn.startSend (.datagrams dst payload : ClientToRelayMsg crates) none = .ok sent →
      actor.clients.clients.lookup dst = some entry →
      (actor.clients.handles entry.active.connectionId).packetQueue.HasRoom →
        ((actor.iterate (.frame (some (.ok sent)) cache answers none)).1 = .ok .again ∧
          ∀ other, (actor.iterate (.frame (some (.ok sent)) cache answers none)).2.clients.packetLog
              other = actor.clients.packetLog other ++
            if other = entry.active.connectionId then [⟨actor.endpointId, payload⟩] else []) ∧
        ∃ bytes,
          (recipient.iterate (.packet (some ⟨actor.endpointId, payload⟩) .prompt none)).1 =
            .ok .again ∧
          (recipient.iterate (.packet (some ⟨actor.endpointId, payload⟩) .prompt none)).2.written =
            recipient.written ++ [bytes] ∧
          ∀ recipientCache version, Conn.receive bytes recipientCache version =
            [.datagrams actor.endpointId payload]) ∧
    (∀ (history : List (NetworkAction crates)) (net : Network crates),
      ((networkMachine crates).restrict (Unobstructed sender)).Reaches history net →
        (∃ inflight, sentDatagrams history sender = net.forwardedFrom sender ++ inflight ∧
          (net.up sender = [] → inflight = [])) ∧
        (∀ record ∈ net.forwarded, record.Identified history) ∧
        ∀ target,
          (∃ waiting, net.forwardedTo target = net.receivedDatagrams target ++ waiting ∧
            ((net.actors target).isSome → net.down target = [] →
              (net.clients.handles target).packetQueue.pending = [] → waiting = [])) ∧
          (net.forwardedBetween sender target).Sublist
            ((sentDatagrams history sender).map Prod.snd) ∧
          (net.forwardedBetween sender target).Sublist
            ((net.forwardedTo target).map Prod.snd)) := by
  constructor
  · intro actor recipient dst payload sent entry cache answers accepted present room
    exact ⟨actor.iterate_accepted accepted present room cache answers,
      recipient.iterate_forwarded accepted⟩
  · intro history net reached
    have faithful := faithful_of_reaches reached.of_restrict
    obtain ⟨inflight, sent, arrived⟩ := (handled_of_reaches reached).sent_eq
    refine ⟨⟨inflight, sent, arrived⟩, faithful.identified, fun target => ?_⟩
    obtain ⟨outgoing, incoming⟩ := net.forwardedBetween_sublist sender target
    refine ⟨faithful.forwardedTo_eq target, ?_, incoming⟩
    rw [sent, List.map_append]
    exact outgoing.trans (List.sublist_append_left _ _)

/-- Two messages of one client arrive at the other in order, under the identity of the
sender. -/
theorem two_messages_arrive_in_order :
    let source := Crates.smallKey 3 (by decide)
    let dst := Crates.smallKey 4 (by decide)
    let first : Datagrams := ⟨some .ce, NonZeroU16.new 3, [1, 2, 3, 4, 5, 6]⟩
    let second : Datagrams := ⟨none, none, [7]⟩
    let up (payload : Datagrams) : Branch Crates.reference :=
      .frame (some (.ok (ClientToRelayMsg.datagrams dst payload).toBytes)) .disabled .prompt none
    let down (payload : Datagrams) : Branch Crates.reference :=
      .packet (some ⟨source, payload⟩) .prompt none
    let history : List (NetworkAction Crates.reference) :=
      [.connect ⟨source, 1, 8, .v2⟩, .connect ⟨dst, 2, 8, .v2⟩,
        .clientSend 1 (.datagrams dst first), .clientSend 1 (.datagrams dst second),
        .relay 1 (up first), .relay 1 (up second), .relay 2 (down first), .relay 2 (down second),
        .clientRecv 2 .disabled .v2, .clientRecv 2 .disabled .v2]
    let machine := (networkMachine Crates.reference).restrict (Unobstructed 1)
    let net := machine.runFrom Network.new history
    let connected := machine.runFrom Network.new (history.take 2)
    let actor : Actor Crates.reference := ⟨[], source, 1, connected.clients, none⟩
    (actor.iterate (up first)).2.clients.packetLog 2 = [⟨source, first⟩] ∧
      machine.Reaches history net ∧ sentDatagrams history 1 = net.forwardedFrom 1 ∧
      net.forwardedTo 2 = net.receivedDatagrams 2 ∧
      net.receivedDatagrams 2 = [(source, first), (source, second)] := by
  intro source dst first second up down history machine net connected actor
  have reached : machine.Reaches history net := Machine.reaches_runFrom (by decide)
  have conclusions := forwarding_faithful_and_ordered Crates.reference 1
  obtain ⟨⟨inflight, sent, arrived⟩, -, received⟩ := conclusions.2 history net reached
  obtain ⟨⟨waiting, delivered, drained⟩, -⟩ := received 2
  have enqueued := (conclusions.1 actor actor dst first
    (ClientToRelayMsg.datagrams dst first).toBytes ⟨⟨dst, 2, .v2⟩, []⟩ .disabled .prompt
    (by decide) (by decide) (by decide)).1.2 2
  refine ⟨enqueued, reached, ?_, ?_, ?_⟩
  · rw [sent, arrived (by decide), List.append_nil]
  · rw [delivered, drained (by decide) (by decide) (by decide), List.append_nil]
  · decide

end NexalinkTunnel.Relay.Server
