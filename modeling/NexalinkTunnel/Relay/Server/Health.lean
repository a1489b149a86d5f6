import NexalinkTunnel.Relay.Protos.RelayCodec
import NexalinkTunnel.Relay.Server.Registry

/-!
Contract: what registered connections are told about their active state.

Owns the health messages among everything put into a connection's message
queue, and that the last of them agrees with the registry after every run in
which no message queue was full. Also owns that the receiving client decodes
them in the version it negotiated.

Does not own: delivery. A message is told once it is in the queue.
-/

namespace NexalinkTunnel.Relay

/-- The two kinds of message that `try_send_health` can send. -/
def Protos.RelayToClientMsg.isHealth {crates : Protos.Crates} :
    Protos.RelayToClientMsg crates → Bool
  | .status _ => true
  | .health _ => true
  | _ => false

namespace Server

open Lib
open Base
open Relay.Protos

variable {crates : Crates}

/-- The health messages put into a connection's queue, oldest first. -/
def Clients.healthLog (state : Clients crates) (connectionId : ConnectionId) :
    List (RelayToClientMsg crates) :=
  (state.messageLog connectionId).filter RelayToClientMsg.isHealth

/-- No registered connection's message queue is full. -/
def NoMessageQueueFull (history : List (Action crates)) (state : Clients crates)
    (_ : Action crates) : Prop :=
  ∀ client ∈ registered history,
    (state.handles client.connectionId).messageQueue.pending.length <
      (state.handles client.connectionId).messageQueue.capacity
deriving Decidable

namespace Client

@[simp] theorem healthMessage_isHealth (client : Client crates) (status : Status) :
    (client.healthMessage status).isHealth = true := by
  unfold healthMessage
  cases client.protocolVersion <;> rfl

private theorem healthMessage_healthy_ne (client : Client crates) :
    client.healthMessage .healthy ≠ client.healthMessage .sameEndpointIdConnected := by
  unfold healthMessage
  cases client.protocolVersion with
  | v1 =>
      simp only [ne_eq, RelayToClientMsg.health.injEq]
      decide
  | v2 => simp

private theorem healthMessage_representable (client : Client crates) {status : Status}
    (canonical : status.Canonical) :
    (client.healthMessage status).Representable client.protocolVersion := by
  unfold healthMessage
  cases client.protocolVersion with
  | v1 => rfl
  | v2 => exact ⟨canonical, rfl⟩

private theorem healthMessage_body_le (client : Client crates) {status : Status}
    (short : (Bytes.ofString status.display).length ≤ maxPacketSize) :
    (client.healthMessage status).body.length ≤ maxPacketSize := by
  unfold healthMessage
  cases client.protocolVersion with
  | v1 => exact short
  | v2 =>
      have single : (status.writeTo []).length = 1 := by cases status <;> rfl
      simp only [RelayToClientMsg.body, single]
      decide

/-- The messages that the registry sends about a connection's active state. -/
def Announces (client : Client crates) (message : RelayToClientMsg crates) : Prop :=
  message = client.healthMessage .healthy ∨
    message = client.healthMessage .sameEndpointIdConnected

private theorem Announces.fromBytes {client : Client crates} {message : RelayToClientMsg crates}
    (announced : client.Announces message) (cache : KeyCache crates) :
    RelayToClientMsg.fromBytes message.toBytes cache client.protocolVersion = .ok message := by
  rcases announced with rfl | rfl
  · exact RelayToClientMsg.fromBytes_toBytes cache
      (client.healthMessage_representable (by simp [Status.Canonical]))
      (client.healthMessage_body_le (by decide))
  · exact RelayToClientMsg.fromBytes_toBytes cache
      (client.healthMessage_representable (by simp [Status.Canonical]))
      (client.healthMessage_body_le (by decide))

end Client

/-- A connection's log ends, as far as health goes, in `SameEndpointIdConnected`. -/
def Clients.ToldInactive (state : Clients crates) (client : Client crates) : Prop :=
  (state.healthLog client.connectionId).getLast? =
    some (client.healthMessage .sameEndpointIdConnected)

/-- A connection was told nothing about its health, or last that it is healthy. -/
def Clients.ToldActive (state : Clients crates) (client : Client crates) : Prop :=
  (state.healthLog client.connectionId).getLast? = none ∨
    (state.healthLog client.connectionId).getLast? = some (client.healthMessage .healthy)

/-- The connections of an entry were last told whether they are active. -/
def Clients.EntryTold (state : Clients crates) (entry : ClientState crates) : Prop :=
  (∀ client ∈ entry.inactive, state.ToldInactive client) ∧ state.ToldActive entry.active

/-- The queues of all `members` are open and carry only announcements, and every
entry of the map was told the truth. -/
structure Told (members : List (Client crates)) (state : Clients crates) : Prop where
  listening : ∀ client ∈ members,
    (state.handles client.connectionId).messageQueue.closed = false
  announced : ∀ client ∈ members, ∀ message ∈ state.healthLog client.connectionId,
    client.Announces message
  entries : ∀ endpointId entry, state.clients.lookup endpointId = some entry →
    state.EntryTold entry

namespace Clients

variable {state next : Clients crates} {connectionId : ConnectionId} {client : Client crates}
  {message : RelayToClientMsg crates}

theorem ToldInactive.of_log
    (same : next.healthLog client.connectionId = state.healthLog client.connectionId)
    (told : state.ToldInactive client) : next.ToldInactive client := by
  unfold ToldInactive at told ⊢
  rwa [same]

private theorem ToldActive.of_log
    (same : next.healthLog client.connectionId = state.healthLog client.connectionId)
    (told : state.ToldActive client) : next.ToldActive client := by
  unfold ToldActive at told ⊢
  rwa [same]

theorem EntryTold.of_log {entry : ClientState crates}
    (same : ∀ client ∈ entry.stack,
      next.healthLog client.connectionId = state.healthLog client.connectionId)
    (told : state.EntryTold entry) : next.EntryTold entry :=
  ⟨fun client inactive => (told.1 client inactive).of_log
      (same client (ClientState.mem_stack_of_inactive inactive)),
    told.2.of_log (same _ entry.active_mem_stack)⟩

theorem healthLog_of_messageLog
    (same : next.messageLog connectionId = state.messageLog connectionId) :
    next.healthLog connectionId = state.healthLog connectionId := by
  rw [healthLog, same, healthLog]

theorem healthLog_tell_of_ne {other : ConnectionId} (differs : other ≠ connectionId) :
    (state.tell connectionId message).healthLog other = state.healthLog other :=
  healthLog_of_messageLog (messageLog_tell_of_ne _ _ _ differs)

private theorem healthLog_tell_self (status : Status)
    (room : (state.handles client.connectionId).messageQueue.HasRoom) :
    (state.tell client.connectionId (client.healthMessage status)).healthLog client.connectionId =
      state.healthLog client.connectionId ++ [client.healthMessage status] := by
  rw [healthLog, messageLog_tell_self, if_pos room, List.filter_append, healthLog]
  simp

private theorem toldInactive_tell
    (room : (state.handles client.connectionId).messageQueue.HasRoom) :
    (state.tell client.connectionId
      (client.healthMessage .sameEndpointIdConnected)).ToldInactive client := by
  rw [ToldInactive, healthLog_tell_self _ room, List.getLast?_concat]

private theorem toldActive_tell (room : (state.handles client.connectionId).messageQueue.HasRoom) :
    (state.tell client.connectionId (client.healthMessage .healthy)).ToldActive client := by
  rw [ToldActive, healthLog_tell_self _ room, List.getLast?_concat]
  exact .inr rfl

private theorem healthLog_foldl_notifyPeer (state : Clients crates)
    (gone : EndpointId crates.ed25519)
    (peers : List (EndpointId crates.ed25519)) (other : ConnectionId) :
    (peers.foldl (notifyPeer gone) state).healthLog other = state.healthLog other :=
  foldl_notifyPeer_filter_messageLog rfl state peers other

private theorem foldl_notifyPeer_closed (state : Clients crates) (gone : EndpointId crates.ed25519)
    (peers : List (EndpointId crates.ed25519)) (other : ConnectionId) :
    ((peers.foldl (notifyPeer gone) state).handles other).messageQueue.closed =
      (state.handles other).messageQueue.closed := by
  induction peers generalizing state with
  | nil => rfl
  | cons peer peers inductionHypothesis =>
      rw [List.foldl_cons, inductionHypothesis, notifyPeer_eq]
      cases state.clients.lookup peer with
      | none => rfl
      | some entry => exact tell_messageQueue_closed _ _ _ _

end Clients

namespace Told

variable {members roster : List (Client crates)} {state next : Clients crates}
  {client : Client crates}

private theorem new : Told [] (Clients.new : Clients crates) where
  listening := by simp
  announced := by simp
  entries endpointId entry present := by simp [Clients.new] at present

private theorem mono (told : Told members state) (fewer : roster ⊆ members) :
    Told roster state where
  listening client inside := told.listening client (fewer inside)
  announced client inside := told.announced client (fewer inside)
  entries := told.entries

private theorem of_eq (told : Told members state) (clients : next.clients = state.clients)
    (log : ∀ connectionId, next.healthLog connectionId = state.healthLog connectionId)
    (closed : ∀ client ∈ members, (next.handles client.connectionId).messageQueue.closed =
      (state.handles client.connectionId).messageQueue.closed) : Told members next where
  listening client inside := (closed client inside).trans (told.listening client inside)
  announced client inside message := by
    rw [log]
    exact told.announced client inside message
  entries endpointId entry present := by
    rw [clients] at present
    exact (told.entries endpointId entry present).of_log fun client _ => log client.connectionId

private theorem entries_of_insert (told : Told members state)
    {endpointId : EndpointId crates.ed25519} {stored : ClientState crates}
    (clients : next.clients = state.clients.insert endpointId stored)
    (own : next.EntryTold stored)
    (elsewhere : ∀ other entry, other ≠ endpointId → state.clients.lookup other = some entry →
      ∀ client ∈ entry.stack,
        next.healthLog client.connectionId = state.healthLog client.connectionId) :
    ∀ other entry, next.clients.lookup other = some entry → next.EntryTold entry := by
  intro other entry present
  rw [clients] at present
  by_cases same : other = endpointId
  · rw [same, AList.lookup_insert, Option.some.injEq] at present
    exact present ▸ own
  · rw [AList.lookup_insert_ne same] at present
    exact (told.entries other entry present).of_log (elsewhere other entry same present)

private theorem spawn (told : Told roster state) (stacked : Stacked roster state)
    {config : Config crates}
    (fresh : ∀ other ∈ roster, other.connectionId ≠ config.connectionId) :
    Told (roster ++ [Client.new config]) (state.spawn config) ∧
      (state.spawn config).healthLog config.connectionId = [] := by
  have others : ∀ other ∈ roster, (state.spawn config).handles other.connectionId =
      state.handles other.connectionId := fun other inside => by
    simp [Clients.spawn, Clients.setHandles, fresh other inside]
  have log : ∀ other ∈ roster, (state.spawn config).healthLog other.connectionId =
      state.healthLog other.connectionId := fun other inside =>
    Clients.healthLog_of_messageLog (by rw [Clients.messageLog, others other inside,
      Clients.messageLog])
  have own : (state.spawn config).handles config.connectionId =
      Handles.new config.channelCapacity := by
    simp [Clients.spawn, Clients.setHandles]
  have untold : (state.spawn config).healthLog config.connectionId = [] := by
    rw [Clients.healthLog, Clients.messageLog, own]
    rfl
  refine ⟨⟨fun other inside => ?_, fun other inside => ?_, ?_⟩, untold⟩
  · rcases List.mem_append.mp inside with old | new
    · rw [others other old]
      exact told.listening other old
    · rw [List.mem_singleton.mp new, Client.new, own]
      rfl
  · rcases List.mem_append.mp inside with old | new
    · rw [log other old]
      exact told.announced other old
    · rw [List.mem_singleton.mp new, Client.new, untold]
      simp
  · intro endpointId entry present
    refine (told.entries endpointId entry present).of_log fun other inside => ?_
    exact log other (stacked.mem_of_lookup present inside).1

private theorem announced_tell (told : Told members state)
    (unique : (members.map Client.connectionId).Nodup) (inside : client ∈ members)
    {status : Status} (announces : client.Announces (client.healthMessage status))
    (room : (state.handles client.connectionId).messageQueue.HasRoom) :
    ∀ other ∈ members, ∀ message ∈ (state.tell client.connectionId
      (client.healthMessage status)).healthLog other.connectionId, other.Announces message := by
  intro other otherInside message inLog
  by_cases same : other.connectionId = client.connectionId
  · obtain rfl := Roster.eq_of_key_eq unique otherInside inside same
    rw [Clients.healthLog_tell_self status room, List.mem_append, List.mem_singleton] at inLog
    rcases inLog with earlier | rfl
    · exact told.announced other otherInside message earlier
    · exact announces
  · rw [Clients.healthLog_tell_of_ne same] at inLog
    exact told.announced other otherInside message inLog

private theorem insert (told : Told members state) (stacked : Stacked roster state)
    (unique : (members.map Client.connectionId).Nodup) (known : roster ⊆ members)
    (room : ∀ other ∈ roster, (state.handles other.connectionId).messageQueue.HasRoom)
    (fresh : ∀ other ∈ roster, other.connectionId ≠ client.connectionId)
    (untold : state.healthLog client.connectionId = []) :
    Told members (state.insert client) := by
  cases present : state.clients.lookup client.endpointId with
  | none =>
      rw [Clients.insert_of_none present]
      refine ⟨told.listening, told.announced,
        told.entries_of_insert rfl ⟨by simp, .inl ?_⟩ fun _ _ _ _ _ _ => rfl⟩
      show (state.healthLog client.connectionId).getLast? = none
      rw [untold, List.getLast?_nil]
  | some entry =>
      rw [Clients.insert_of_some present]
      have registered := (stacked.mem_of_lookup present entry.active_mem_stack).1
      have activeRoom := room entry.active registered
      refine ⟨fun other inside => ?_,
        told.announced_tell unique (known registered) (.inr rfl) activeRoom,
        told.entries_of_insert rfl ⟨?_, .inl ?_⟩ ?_⟩
      · rw [← told.listening other inside]
        exact Clients.tell_messageQueue_closed _ _ _ _
      · intro other inside
        rcases List.mem_append.mp inside with inactive | active
        · refine ((told.entries _ entry present).1 other inactive).of_log ?_
          exact Clients.healthLog_tell_of_ne (stacked.inactive_ne_active present inactive)
        · rw [List.mem_singleton.mp active]
          exact Clients.toldInactive_tell activeRoom
      · have unaffected : (state.tell entry.active.connectionId
            (entry.active.healthMessage .sameEndpointIdConnected)).healthLog client.connectionId =
              state.healthLog client.connectionId :=
          Clients.healthLog_tell_of_ne (Ne.symm (fresh _ registered))
        exact (congrArg List.getLast? (unaffected.trans untold)).trans List.getLast?_nil
      · intro other otherEntry differs otherPresent otherClient inside
        exact Clients.healthLog_tell_of_ne (stacked.id_ne_of_endpoint_ne present
          entry.active_mem_stack otherPresent inside differs)

private theorem unregister (told : Told roster state) (stacked : Stacked roster state)
    (room : ∀ other ∈ roster, (state.handles other.connectionId).messageQueue.HasRoom)
    (inside : client ∈ roster) :
    Told roster (state.unregister client.endpointId client.connectionId) := by
  obtain ⟨entry, present, shape⟩ := stacked.entry_cases inside
  rcases shape with ⟨rfl, alone⟩ | ⟨rfl, older, last, newest⟩ | ⟨differs, inactive⟩
  · rw [Clients.unregister_last present rfl alone]
    have erased := (Clients.foldl_notifyPeer (state.without entry.active.endpointId)
      entry.active.endpointId ((state.sentTo.lookup entry.active.endpointId).getD [])).1
    have quiet := Clients.healthLog_foldl_notifyPeer (state.without entry.active.endpointId)
      entry.active.endpointId ((state.sentTo.lookup entry.active.endpointId).getD [])
    refine ⟨fun other otherInside => ?_, fun other otherInside => ?_, ?_⟩
    · rw [Clients.foldl_notifyPeer_closed]
      exact told.listening other otherInside
    · rw [quiet other.connectionId]
      exact told.announced other otherInside
    · intro endpointId otherEntry otherPresent
      rw [erased, Clients.without] at otherPresent
      have differs : endpointId ≠ entry.active.endpointId := by
        rintro rfl
        rw [AList.lookup_erase] at otherPresent
        simp at otherPresent
      rw [AList.lookup_erase_ne differs] at otherPresent
      exact (told.entries endpointId otherEntry otherPresent).of_log
        fun other _ => quiet other.connectionId
  · rw [Clients.unregister_promote present rfl newest]
    have lastInactive : last ∈ entry.inactive := by simp [newest]
    have lastInside := ClientState.mem_stack_of_inactive lastInactive
    have registered := (stacked.mem_of_lookup present lastInside).1
    have lastRoom := room last registered
    have inactiveTold := (told.entries _ entry present).1
    refine ⟨fun other otherInside => ?_,
      told.announced_tell stacked.unique registered (.inl rfl) lastRoom,
      told.entries_of_insert rfl ⟨?_, Clients.toldActive_tell lastRoom⟩ ?_⟩
    · rw [← told.listening other otherInside]
      exact Clients.tell_messageQueue_closed _ _ _ _
    · intro other inOlder
      have otherInactive : other ∈ entry.inactive := by simp [newest, inOlder]
      have inactiveUnique := stacked.inactive_unique present
      rw [newest] at inactiveUnique
      exact (inactiveTold other otherInactive).of_log
        (Clients.healthLog_tell_of_ne (Roster.key_ne_last inactiveUnique inOlder))
    · intro other otherEntry differs otherPresent otherClient otherInside
      exact Clients.healthLog_tell_of_ne (stacked.id_ne_of_endpoint_ne present lastInside
        otherPresent otherInside differs)
  · rw [Clients.unregister_inactive present differs]
    obtain ⟨inactiveTold, activeTold⟩ := told.entries _ entry present
    refine ⟨told.listening, told.announced,
      told.entries_of_insert rfl ⟨fun other kept => ?_, activeTold⟩ fun _ _ _ _ _ _ => rfl⟩
    exact inactiveTold other (List.mem_filter.mp kept).1

private theorem endActor (told : Told roster state) (stacked : Stacked roster state)
    (room : ∀ other ∈ roster, (state.handles other.connectionId).messageQueue.HasRoom)
    (inside : client ∈ roster) :
    Told (Roster.leave Client.connectionId client.connectionId roster)
      (state.endActor client.endpointId client.connectionId) := by
  have remaining : Told (Roster.leave Client.connectionId client.connectionId roster)
      (state.unregister client.endpointId client.connectionId) :=
    (told.unregister stacked room inside).mono List.filter_sublist.subset
  refine remaining.of_eq rfl (fun connectionId => ?_) fun other kept => ?_
  · exact Clients.healthLog_of_messageLog (Clients.messageLog_dropReceivers _ _ _)
  · rw [Clients.endActor, Clients.dropReceivers_handles_of_ne _ _ (Roster.mem_leave.mp kept).2]

end Told

/-- Every run in which no message queue was full has told the truth. -/
theorem told_of_reaches {history : List (Action crates)} {state : Clients crates}
    (reached : ((registryMachine crates).restrict NoMessageQueueFull).Reaches history state) :
    Told (registered history) state := by
  refine reached.invariant (fun history state => Told (registered history) state) Told.new ?_
  rintro history state action before ⟨allowed, notFull⟩ told
  have stacked := stacked_of_reaches before.of_restrict
  have room : ∀ client ∈ registered history,
      (state.handles client.connectionId).messageQueue.HasRoom := fun client inside =>
    ⟨told.listening client inside, notFull client inside⟩
  cases quiet : action.change with
  | none =>
      have same : Clients.SameRegistration state (state.perform action) :=
        Clients.sameRegistration_perform quiet
      rw [registered_of_change_none _ quiet]
      exact told.of_eq same.clients
        (fun connectionId => Clients.healthLog_of_messageLog (same.messageLog connectionId))
        fun client _ => same.closed client.connectionId
  | some change =>
      cases action with
      | register config =>
          have fresh : ∀ other ∈ registered history,
              other.connectionId ≠ config.connectionId := fun other inside same =>
            allowed (same ▸ usedIds_of_registered history inside)
          obtain ⟨spawned, untold⟩ := told.spawn stacked fresh
          rw [registered_register]
          refine spawned.insert (stacked.spawn config) (Roster.unique_enter stacked.unique fresh)
            (List.subset_append_left _ _) (fun other inside => ?_) fresh untold
          have unchanged : (state.spawn config).handles other.connectionId =
              state.handles other.connectionId := by
            simp [Clients.spawn, Clients.setHandles, fresh other inside]
          rw [unchanged]
          exact room other inside
      | unregister endpointId connectionId =>
          obtain ⟨client, inside, rfl, rfl⟩ := allowed
          rw [registered_unregister]
          exact told.endActor stacked room inside
      | sendPacket _ _ _ | disconnect _ _ | recvPacket _ | recvMessage _ =>
          simp [Action.change] at quiet

/-- Clients are told the truth about their active state. After every run in which
no message queue was full, a registered connection's last health message says
`SameEndpointIdConnected` exactly when it is inactive, and an active one's is
absent or says `Healthy`. Every health message is a `Status` frame for V2 and a
`Health` frame for V1, and a client of that version decodes it. -/
theorem connections_told_their_activity {history : List (Action crates)}
    {state : Clients crates}
    (reached : ((registryMachine crates).restrict NoMessageQueueFull).Reaches history state)
    (client : Client crates) (inside : client ∈ registered history) :
    (∃ entry, state.clients.lookup client.endpointId = some entry ∧
      ((state.healthLog client.connectionId).getLast? =
          some (client.healthMessage .sameEndpointIdConnected) ↔ client ∈ entry.inactive) ∧
      (client = entry.active ↔
        (state.healthLog client.connectionId).getLast? = none ∨
          (state.healthLog client.connectionId).getLast? =
            some (client.healthMessage .healthy))) ∧
    (∀ message ∈ state.healthLog client.connectionId,
      (client.protocolVersion = .v2 → ∃ status, message = .status status) ∧
      (client.protocolVersion = .v1 → ∃ problem, message = .health problem) ∧
      ∀ cache, RelayToClientMsg.fromBytes message.toBytes cache client.protocolVersion =
        .ok message) := by
  have told := told_of_reaches reached
  have stacked := stacked_of_reaches reached.of_restrict
  constructor
  · obtain ⟨entry, present, shape⟩ := stacked.entry_cases inside
    obtain ⟨inactiveTold, activeTold⟩ := told.entries _ entry present
    have distinct := client.healthMessage_healthy_ne
    unfold Clients.ToldInactive at inactiveTold
    unfold Clients.ToldActive at activeTold
    have position : client = entry.active ∨ client ∈ entry.inactive := by
      rcases shape with ⟨active, -⟩ | ⟨active, -⟩ | ⟨-, inactive⟩
      · exact .inl active.symm
      · exact .inl active.symm
      · exact .inr inactive
    have apart : client ∈ entry.inactive → client ≠ entry.active := fun inactive same =>
      stacked.inactive_ne_active present inactive (by rw [same])
    refine ⟨entry, present, ⟨fun last => ?_, inactiveTold client⟩, ?_, fun last => ?_⟩
    · refine position.resolve_left fun active => ?_
      rw [← active, last] at activeTold
      simp only [reduceCtorEq, Option.some.injEq, false_or] at activeTold
      exact distinct activeTold.symm
    · rintro rfl
      exact activeTold
    · refine position.resolve_right fun inactive => ?_
      rw [inactiveTold client inactive] at last
      simp only [reduceCtorEq, Option.some.injEq, false_or] at last
      exact distinct last.symm
  · intro message inLog
    have announced := told.announced client inside message inLog
    refine ⟨fun version => ?_, fun version => ?_, announced.fromBytes⟩
    all_goals
      unfold Client.Announces Client.healthMessage at announced
      rw [version] at announced
      rcases announced with rfl | rfl <;> exact ⟨_, rfl⟩

/-- Three connections of one endpoint; the newest leaves again. The second is active
and was told it is healthy; the first, of the older version, is still
inactive. -/
theorem promoted_connection_told_healthy :
    let endpointId := Crates.smallKey 3 (by decide)
    let first : Config Crates.reference := ⟨endpointId, 1, 8, .v1⟩
    let second : Config Crates.reference := ⟨endpointId, 2, 8, .v2⟩
    let third : Config Crates.reference := ⟨endpointId, 3, 8, .v2⟩
    let history : List (Action Crates.reference) :=
      [.register first, .register second, .register third, .unregister endpointId 3]
    let machine := (registryMachine Crates.reference).restrict NoMessageQueueFull
    let state := machine.runFrom Clients.new history
    machine.Reaches history state ∧
      state.clients.lookup endpointId = some ⟨Client.new second, [Client.new first]⟩ ∧
      (∃ entry, state.clients.lookup endpointId = some entry ∧
        ((state.healthLog 1).getLast? =
            some ((Client.new first).healthMessage .sameEndpointIdConnected) ↔
          Client.new first ∈ entry.inactive)) := by
  intro endpointId first second third history machine state
  have reached : machine.Reaches history state := Machine.reaches_runFrom (by decide)
  obtain ⟨⟨entry, present, inactive, -⟩, -⟩ :=
    connections_told_their_activity reached (Client.new first) (by decide)
  exact ⟨reached, by decide, entry, present, inactive⟩

end Server

end NexalinkTunnel.Relay
