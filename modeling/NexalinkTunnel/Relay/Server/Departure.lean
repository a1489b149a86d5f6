import NexalinkTunnel.Relay.Server.Registry

/-!
Contract: who is told that an endpoint is gone.

Owns the relation "a packet was enqueued since the entry was created", read off
the history alone, its agreement with `sent_to`, and the notifications of an
unregister step: exactly those peers, on their active connection, once.

Does not own: runs in which a queue is full or closed, or in which packets are
sent for an endpoint without a connection.
-/

namespace NexalinkTunnel.Relay

def Protos.RelayToClientMsg.isEndpointGone {crates : Protos.Crates} :
    Protos.RelayToClientMsg crates → Bool
  | .endpointGone _ => true
  | _ => false

namespace Server

open Lib
open Base
open Relay.Protos

variable {crates : Crates}

/-- Every queue of a registered connection takes one more item, and packets are
sent only for an endpoint that has a connection. -/
def Unhindered (history : List (Action crates)) (state : Clients crates)
    (action : Action crates) : Prop :=
  (∀ client ∈ registered history,
    (state.handles client.connectionId).packetQueue.HasRoom ∧
      (state.handles client.connectionId).messageQueue.HasRoom) ∧
  match action with
  | .sendPacket _ _ src => ∃ client ∈ registered history, client.endpointId = src
  | _ => True

instance (history : List (Action crates)) (state : Clients crates) (action : Action crates) :
    Decidable (Unhindered history state action) :=
  match action with
  | .sendPacket _ _ src =>
      inferInstanceAs (Decidable (_ ∧ ∃ client ∈ registered history, client.endpointId = src))
  | .register _ | .unregister _ _ | .disconnect _ _ | .recvPacket _ | .recvMessage _ =>
      inferInstanceAs (Decidable (_ ∧ True))

/-- The action sends a packet from `src` to `dst` while `dst` has a connection, so
the packet enters the queue of the active one. -/
def PacketEnqueued (src dst : EndpointId crates.ed25519) (history : List (Action crates))
    (action : Action crates) : Prop :=
  (∃ data, action = .sendPacket dst data src) ∧
    ∃ client ∈ registered history, client.endpointId = dst

/-- The action registers the first connection of an endpoint that had none. -/
def EntryCreated (endpointId : EndpointId crates.ed25519) (history : List (Action crates))
    (action : Action crates) : Prop :=
  (∃ config, action = .register config ∧ config.endpointId = endpointId) ∧
    ∀ client ∈ registered history, client.endpointId ≠ endpointId

/-- Some packet from `src` was enqueued to `dst` since the entry of `src` was last
created. -/
def EnqueuedSinceCreated (history : List (Action crates))
    (src dst : EndpointId crates.ed25519) : Prop :=
  Since (PacketEnqueued src dst) (EntryCreated src) history

namespace Clients

variable {state : Clients crates}

private theorem sendPacket_of_hasRoom {dst : EndpointId crates.ed25519} {entry : ClientState crates}
    (present : state.clients.lookup dst = some entry)
    (room : (state.handles entry.active.connectionId).packetQueue.HasRoom) (data : Datagrams)
    (src : EndpointId crates.ed25519) :
    (state.sendPacket dst data src).1 = .ok () ∧
      (state.sendPacket dst data src).2.packetLog entry.active.connectionId =
        state.packetLog entry.active.connectionId ++ [⟨src, data⟩] ∧
      (∀ other, other ≠ entry.active.connectionId →
        (state.sendPacket dst data src).2.handles other = state.handles other) ∧
      (state.sendPacket dst data src).2.sentTo =
        state.sentTo.insert src (((state.sentTo.lookup src).getD []).insert dst) := by
  have accepted := Channel.trySend_of_hasRoom room ⟨src, data⟩
  simp only [sendPacket, present, trySendPacket, accepted]
  refine ⟨trivial, ?_, fun other differs => ?_, rfl⟩
  · simp [packetLog, setHandles]
  · simp [setHandles, differs]

private theorem sendPacket_of_none {dst : EndpointId crates.ed25519}
    (absent : state.clients.lookup dst = none) (data : Datagrams)
    (src : EndpointId crates.ed25519) :
    (state.sendPacket dst data src).2.sentTo = state.sentTo := by
  simp [sendPacket, absent]

private theorem shutdownAll_sentTo (clients : List (Client crates)) :
    (clients.foldl startShutdown state).sentTo = state.sentTo := by
  induction clients generalizing state with
  | nil => rfl
  | cons client rest inductionHypothesis =>
      rw [List.foldl_cons, inductionHypothesis]
      rfl

private theorem disconnect_sentTo (endpointId : EndpointId crates.ed25519)
    (connectionId : Option ConnectionId) :
    (state.disconnect endpointId connectionId).2.sentTo = state.sentTo := by
  unfold disconnect
  cases state.clients.lookup endpointId with
  | none => rfl
  | some entry =>
      cases connectionId with
      | none => exact shutdownAll_sentTo _
      | some id =>
          simp only
          split <;> rfl

private theorem recvPacket_sentTo (connectionId : ConnectionId) :
    (state.perform (.recvPacket connectionId)).sentTo = state.sentTo := by
  simp only [perform, recvPacket]
  cases (state.handles connectionId).packetQueue.recv <;> rfl

private theorem recvMessage_sentTo (connectionId : ConnectionId) :
    (state.perform (.recvMessage connectionId)).sentTo = state.sentTo := by
  simp only [perform, recvMessage]
  cases (state.handles connectionId).messageQueue.recv <;> rfl

/-! ## The loop over the peers -/

/-- Each peer of the list that is in the map gets one message on its active
connection, and no other connection gets any. -/
theorem messageLog_foldl_notifyPeer (gone : EndpointId crates.ed25519)
    {peers : List (EndpointId crates.ed25519)} (once : peers.Nodup)
    (apart : ∀ peer other entry otherEntry, state.clients.lookup peer = some entry →
      state.clients.lookup other = some otherEntry → other ≠ peer →
        otherEntry.active.connectionId ≠ entry.active.connectionId)
    (room : ∀ peer ∈ peers, ∀ entry, state.clients.lookup peer = some entry →
      (state.handles entry.active.connectionId).messageQueue.HasRoom) :
    (∀ peer ∈ peers, ∀ entry, state.clients.lookup peer = some entry →
      (peers.foldl (notifyPeer gone) state).messageLog entry.active.connectionId =
        state.messageLog entry.active.connectionId ++ [.endpointGone gone]) ∧
    (∀ connectionId, (∀ peer ∈ peers, ∀ entry, state.clients.lookup peer = some entry →
        entry.active.connectionId ≠ connectionId) →
      (peers.foldl (notifyPeer gone) state).messageLog connectionId =
        state.messageLog connectionId) := by
  induction peers generalizing state with
  | nil => simp
  | cons first peers inductionHypothesis =>
      obtain ⟨notAgain, onceMore⟩ := List.nodup_cons.mp once
      rw [List.foldl_cons, notifyPeer_eq]
      cases present : state.clients.lookup first with
      | none =>
          obtain ⟨told, untold⟩ := inductionHypothesis onceMore apart
            fun peer later => room peer (List.mem_cons_of_mem _ later)
          refine ⟨fun peer inside entry found => ?_, fun connectionId others => ?_⟩
          · rcases List.mem_cons.mp inside with rfl | later
            · simp [present] at found
            · exact told peer later entry found
          · exact untold connectionId fun peer later => others peer (List.mem_cons_of_mem _ later)
      | some firstEntry =>
          have elsewhere : ∀ peer ∈ peers, ∀ entry, state.clients.lookup peer = some entry →
              entry.active.connectionId ≠ firstEntry.active.connectionId :=
            fun peer later entry found => apart first peer firstEntry entry present found
              fun same => notAgain (same ▸ later)
          obtain ⟨told, untold⟩ := @inductionHypothesis
            (state.tell firstEntry.active.connectionId (.endpointGone gone)) onceMore apart
            fun peer later entry found => by
              rw [tell_handles_of_ne _ _ _ (elsewhere peer later entry found)]
              exact room peer (List.mem_cons_of_mem _ later) entry found
          refine ⟨fun peer inside entry found => ?_, fun connectionId others => ?_⟩
          · rcases List.mem_cons.mp inside with rfl | later
            · obtain rfl : firstEntry = entry := by simpa [present] using found
              rw [untold _ elsewhere, messageLog_tell_self,
                if_pos (room peer List.mem_cons_self firstEntry present)]
            · rw [told peer later entry found,
                messageLog_tell_of_ne _ _ _ (elsewhere peer later entry found)]
          · rw [untold connectionId fun peer later => others peer (List.mem_cons_of_mem _ later),
              messageLog_tell_of_ne]
            exact Ne.symm (others first List.mem_cons_self firstEntry present)

end Clients

/-! ## The relation that `sent_to` records -/

/-- `sent_to` has entries only for endpoints in the map, and for these it lists, each
once, the peers that packets were enqueued to since the entry was created. -/
structure Recorded (history : List (Action crates)) (state : Clients crates) : Prop where
  keys : ∀ endpointId, state.clients.lookup endpointId = none →
    state.sentTo.lookup endpointId = none
  once : ∀ endpointId, ((state.sentTo.lookup endpointId).getD []).Nodup
  peers : ∀ endpointId entry, state.clients.lookup endpointId = some entry →
    ∀ peer, peer ∈ (state.sentTo.lookup endpointId).getD [] ↔
      EnqueuedSinceCreated history endpointId peer

section Since

variable {history : List (Action crates)} {src dst : EndpointId crates.ed25519}

@[simp] theorem enqueuedSinceCreated_register (config : Config crates) :
    EnqueuedSinceCreated (history ++ [.register config]) src dst ↔
      EnqueuedSinceCreated history src dst ∧ ¬ EntryCreated src history (.register config) := by
  simp [EnqueuedSinceCreated, since_append_singleton, PacketEnqueued]

@[simp] theorem enqueuedSinceCreated_sendPacket (target : EndpointId crates.ed25519)
    (data : Datagrams) (source : EndpointId crates.ed25519) :
    EnqueuedSinceCreated (history ++ [.sendPacket target data source]) src dst ↔
      (target = dst ∧ source = src ∧ ∃ client ∈ registered history, client.endpointId = dst) ∨
        EnqueuedSinceCreated history src dst := by
  simp [EnqueuedSinceCreated, since_append_singleton, PacketEnqueued, EntryCreated, and_assoc]

private theorem enqueuedSinceCreated_of_other {action : Action crates}
    (notSend : ∀ target data source, action ≠ .sendPacket target data source)
    (notRegister : ∀ config, action ≠ .register config) :
    EnqueuedSinceCreated (history ++ [action]) src dst ↔ EnqueuedSinceCreated history src dst := by
  simp [EnqueuedSinceCreated, since_append_singleton, PacketEnqueued, EntryCreated, notSend,
    notRegister]

end Since

namespace Recorded

variable {history : List (Action crates)} {state next : Clients crates}
  {action : Action crates} {client : Client crates}

private theorem new : Recorded [] (Clients.new : Clients crates) where
  keys endpointId _ := rfl
  once endpointId := List.nodup_nil
  peers endpointId entry present := by simp [Clients.new] at present

private theorem of_eq (recorded : Recorded history state) (sentTo : next.sentTo = state.sentTo)
    (keys : ∀ endpointId, (next.clients.lookup endpointId).isSome =
      (state.clients.lookup endpointId).isSome)
    (since : ∀ src dst, EnqueuedSinceCreated (history ++ [action]) src dst ↔
      EnqueuedSinceCreated history src dst) : Recorded (history ++ [action]) next where
  keys endpointId absent := by
    rw [sentTo]
    refine recorded.keys endpointId ?_
    rw [← Option.isNone_iff_eq_none, ← Option.not_isSome, ← keys]
    simp [absent]
  once endpointId := by
    rw [sentTo]
    exact recorded.once endpointId
  peers endpointId entry present peer := by
    have before := keys endpointId
    rw [present, Option.isSome_some, eq_comm, Option.isSome_iff_exists] at before
    obtain ⟨entryBefore, presentBefore⟩ := before
    rw [sentTo, since]
    exact recorded.peers endpointId entryBefore presentBefore peer

private theorem register (recorded : Recorded history state)
    (stacked : Stacked (registered history) state) (config : Config crates) :
    Recorded (history ++ [.register config]) (state.register config) := by
  have sentTo : (state.register config).sentTo = state.sentTo := Clients.insert_sentTo
  have others : ∀ endpointId, endpointId ≠ config.endpointId →
      (state.register config).clients.lookup endpointId = state.clients.lookup endpointId :=
    fun endpointId differs => Clients.lookup_insert_of_ne differs
  have own : ∃ entry, (state.register config).clients.lookup config.endpointId = some entry ∧
      entry.active = Client.new config :=
    Clients.lookup_insert_self (state.spawn config) (Client.new config)
  refine ⟨fun endpointId absent => ?_, fun endpointId => ?_,
    fun endpointId entry present peer => ?_⟩
  · have differs : endpointId ≠ config.endpointId := by
      rintro rfl
      obtain ⟨entry, present, -⟩ := own
      simp [absent] at present
    rw [others endpointId differs] at absent
    rw [sentTo]
    exact recorded.keys endpointId absent
  · rw [sentTo]
    exact recorded.once endpointId
  · rw [sentTo, enqueuedSinceCreated_register]
    have registeredIff := stacked.lookup_isSome_iff endpointId
    cases presentBefore : state.clients.lookup endpointId with
    | none =>
        have same : config.endpointId = endpointId := by
          by_contra differs
          rw [others endpointId (Ne.symm differs), presentBefore] at present
          simp at present
        have created : EntryCreated endpointId history (.register config) := by
          refine ⟨⟨config, rfl, same⟩, fun client inside labelled => ?_⟩
          rw [presentBefore] at registeredIff
          exact absurd (registeredIff.mpr ⟨client, inside, labelled⟩) (by simp)
        simp [recorded.keys endpointId presentBefore, created]
    | some entryBefore =>
        have kept : ¬ EntryCreated endpointId history (.register config) := by
          rintro ⟨-, absent⟩
          rw [presentBefore] at registeredIff
          obtain ⟨client, inside, labelled⟩ := registeredIff.mp rfl
          exact absent client inside labelled
        simp [recorded.peers endpointId entryBefore presentBefore, kept]

private theorem of_erase (recorded : Recorded history state)
    {endpointId : EndpointId crates.ed25519}
    (clients : next.clients = state.clients.erase endpointId)
    (sentTo : next.sentTo = state.sentTo.erase endpointId)
    (since : ∀ src dst, EnqueuedSinceCreated (history ++ [action]) src dst ↔
      EnqueuedSinceCreated history src dst) : Recorded (history ++ [action]) next := by
  refine ⟨fun other absent => ?_, fun other => ?_, fun other entry present peer => ?_⟩
  all_goals
    by_cases same : other = endpointId
  · rw [sentTo, same, AList.lookup_erase]
  · rw [clients, AList.lookup_erase_ne same] at absent
    rw [sentTo, AList.lookup_erase_ne same]
    exact recorded.keys other absent
  · rw [sentTo, same, AList.lookup_erase]
    exact List.nodup_nil
  · rw [sentTo, AList.lookup_erase_ne same]
    exact recorded.once other
  · rw [clients, same, AList.lookup_erase] at present
    simp at present
  · rw [clients, AList.lookup_erase_ne same] at present
    rw [sentTo, AList.lookup_erase_ne same, since]
    exact recorded.peers other entry present peer

private theorem endActor (recorded : Recorded history state)
    (stacked : Stacked (registered history) state) (inside : client ∈ registered history) :
    Recorded (history ++ [.unregister client.endpointId client.connectionId])
      (state.endActor client.endpointId client.connectionId) := by
  have since : ∀ src dst, EnqueuedSinceCreated
      (history ++ [.unregister client.endpointId client.connectionId]) src dst ↔
        EnqueuedSinceCreated history src dst := fun src dst =>
    enqueuedSinceCreated_of_other (by simp) (by simp)
  obtain ⟨entry, present, shape⟩ := stacked.entry_cases inside
  have stored : ∀ replaced : ClientState crates, ∀ endpointId,
      ((state.clients.insert client.endpointId replaced).lookup endpointId).isSome =
        (state.clients.lookup endpointId).isSome := fun replaced endpointId => by
    by_cases same : endpointId = client.endpointId
    · rw [same, AList.lookup_insert, present]
      rfl
    · rw [AList.lookup_insert_ne same]
  rcases shape with ⟨rfl, alone⟩ | ⟨rfl, older, last, newest⟩ | ⟨differs, inactive⟩
  · obtain ⟨clients, sentTo, -⟩ := Clients.foldl_notifyPeer
      (state.without entry.active.endpointId) entry.active.endpointId
      ((state.sentTo.lookup entry.active.endpointId).getD [])
    rw [← Clients.unregister_last present rfl alone] at clients sentTo
    exact recorded.of_erase clients sentTo since
  · have promoted := Clients.unregister_promote present rfl newest
    refine recorded.of_eq ?_ (fun endpointId => ?_) since
    · simp only [Clients.endActor, promoted]
      rfl
    · simp only [Clients.endActor, promoted]
      exact stored _ endpointId
  · have removed := Clients.unregister_inactive present differs
    refine recorded.of_eq ?_ (fun endpointId => ?_) since
    · simp only [Clients.endActor, removed]
      rfl
    · simp only [Clients.endActor, removed]
      exact stored _ endpointId

private theorem sendPacket (recorded : Recorded history state)
    (stacked : Stacked (registered history) state)
    (room : ∀ client ∈ registered history,
      (state.handles client.connectionId).packetQueue.HasRoom)
    (dst : EndpointId crates.ed25519) (data : Datagrams) {src : EndpointId crates.ed25519}
    (connected : ∃ client ∈ registered history, client.endpointId = src) :
    Recorded (history ++ [.sendPacket dst data src]) (state.sendPacket dst data src).2 := by
  have clients : (state.sendPacket dst data src).2.clients = state.clients :=
    (Clients.sameRegistration_sendPacket dst data src).clients
  cases present : state.clients.lookup dst with
  | none =>
      refine recorded.of_eq (Clients.sendPacket_of_none present data src)
        (fun endpointId => by rw [clients]) fun first second => ?_
      rw [enqueuedSinceCreated_sendPacket]
      refine or_iff_right fun enqueued => ?_
      obtain ⟨rfl, -, registered⟩ := enqueued
      have := (stacked.lookup_isSome_iff dst).mpr registered
      simp [present] at this
  | some entry =>
      have active := (stacked.mem_of_lookup present entry.active_mem_stack).1
      obtain ⟨-, -, -, sentTo⟩ :=
        Clients.sendPacket_of_hasRoom present (room _ active) data src
      have dstRegistered := (stacked.lookup_isSome_iff dst).mp (by rw [present]; rfl)
      have srcPresent := (stacked.lookup_isSome_iff src).mpr connected
      refine ⟨fun other absent => ?_, fun other => ?_, fun other otherEntry otherPresent peer => ?_⟩
      all_goals
        rw [sentTo]
        by_cases same : other = src
      · rw [clients, same] at absent
        simp [absent] at srcPresent
      · rw [clients] at absent
        rw [AList.lookup_insert_ne same]
        exact recorded.keys other absent
      · rw [same, AList.lookup_insert]
        exact (recorded.once src).insert
      · rw [AList.lookup_insert_ne same]
        exact recorded.once other
      · rw [clients] at otherPresent
        rw [same] at otherPresent ⊢
        rw [AList.lookup_insert, Option.getD_some, List.mem_insert_iff,
          recorded.peers src otherEntry otherPresent, enqueuedSinceCreated_sendPacket]
        constructor
        · rintro (rfl | earlier)
          · exact .inl ⟨rfl, rfl, dstRegistered⟩
          · exact .inr earlier
        · rintro (⟨rfl, -, -⟩ | earlier)
          · exact .inl rfl
          · exact .inr earlier
      · rw [clients] at otherPresent
        rw [AList.lookup_insert_ne same, recorded.peers other otherEntry otherPresent,
          enqueuedSinceCreated_sendPacket]
        refine (or_iff_right fun enqueued => ?_).symm
        exact same enqueued.2.1.symm

end Recorded

/-- Every unhindered run records the packets enqueued since each entry was created. -/
theorem recorded_of_reaches {history : List (Action crates)} {state : Clients crates}
    (reached : ((registryMachine crates).restrict Unhindered).Reaches history state) :
    Recorded history state := by
  refine reached.invariant Recorded Recorded.new ?_
  rintro history state action before ⟨allowed, room, connected⟩ recorded
  have stacked := stacked_of_reaches before.of_restrict
  cases action with
  | register config => exact recorded.register stacked config
  | unregister endpointId connectionId =>
      obtain ⟨client, inside, rfl, rfl⟩ := allowed
      exact recorded.endActor stacked inside
  | sendPacket dst data src =>
      exact recorded.sendPacket stacked (fun client inside => (room client inside).1) dst data
        connected
  | disconnect endpointId connectionId =>
      refine recorded.of_eq (Clients.disconnect_sentTo endpointId connectionId)
        (fun other => ?_) fun src dst => enqueuedSinceCreated_of_other (by simp) (by simp)
      exact congrArg (fun clients => (AList.lookup other clients).isSome)
        (Clients.sameRegistration_disconnect endpointId connectionId).clients
  | recvPacket connectionId =>
      refine recorded.of_eq (Clients.recvPacket_sentTo connectionId)
        (fun other => ?_) fun src dst => enqueuedSinceCreated_of_other (by simp) (by simp)
      exact congrArg (fun clients => (AList.lookup other clients).isSome)
        (Clients.sameRegistration_recvPacket connectionId).clients
  | recvMessage connectionId =>
      refine recorded.of_eq (Clients.recvMessage_sentTo connectionId)
        (fun other => ?_) fun src dst => enqueuedSinceCreated_of_other (by simp) (by simp)
      exact congrArg (fun clients => (AList.lookup other clients).isSome)
        (Clients.sameRegistration_recvMessage connectionId).clients

private theorem packetEnqueued_iff_logged {history : List (Action crates)} {state : Clients crates}
    (stacked : Stacked (registered history) state) {dst src : EndpointId crates.ed25519}
    {data : Datagrams} (unhindered : Unhindered history state (.sendPacket dst data src)) :
    PacketEnqueued src dst history (.sendPacket dst data src) ↔
      ∃ connectionId, (state.perform (.sendPacket dst data src)).packetLog connectionId =
        state.packetLog connectionId ++ [⟨src, data⟩] := by
  have registeredIff := stacked.lookup_isSome_iff dst
  cases present : state.clients.lookup dst with
  | none =>
      have log : ∀ connectionId, (state.perform (.sendPacket dst data src)).packetLog connectionId =
          state.packetLog connectionId := fun connectionId => by
        simp [Clients.perform, Clients.sendPacket, present, Clients.packetLog]
      simp only [log, List.self_eq_append_right, List.cons_ne_self, exists_false, iff_false]
      rintro ⟨-, registered⟩
      have found := registeredIff.mpr registered
      rw [present] at found
      exact absurd found (by simp)
  | some entry =>
      have active := (stacked.mem_of_lookup present entry.active_mem_stack).1
      have sent := Clients.sendPacket_of_hasRoom present (unhindered.1 _ active).1 data src
      refine ⟨fun _ => ⟨entry.active.connectionId, sent.2.1⟩, fun _ => ⟨⟨data, rfl⟩, ?_⟩⟩
      exact registeredIff.mp (by rw [present]; rfl)

/-! ## Notifications of an unregister step -/

/-- `connectionId` is the active connection of a registered endpoint that packets
from `gone` were enqueued to. -/
def Notified (history : List (Action crates)) (next : Clients crates)
    (gone : EndpointId crates.ed25519) (connectionId : ConnectionId) : Prop :=
  ∃ peer entry, next.clients.lookup peer = some entry ∧
    entry.active.connectionId = connectionId ∧ EnqueuedSinceCreated history gone peer

section Unregister

variable {history : List (Action crates)} {state : Clients crates} {client : Client crates}
  {entry : ClientState crates}

private theorem entry_of_only (stacked : Stacked (registered history) state)
    (inside : client ∈ registered history)
    (only : ∀ other ∈ registered history, other.endpointId = client.endpointId →
      other = client) :
    ∃ entry, state.clients.lookup client.endpointId = some entry ∧ entry.active = client ∧
      entry.inactive = [] := by
  obtain ⟨entry, present, shape⟩ := stacked.entry_cases inside
  have inactiveOnly : ∀ other ∈ entry.inactive, other = client := fun other inactive => by
    obtain ⟨registered, labelled⟩ :=
      stacked.mem_of_lookup present (ClientState.mem_stack_of_inactive inactive)
    exact only other registered labelled
  rcases shape with ⟨active, alone⟩ | ⟨active, older, last, newest⟩ | ⟨differs, inactive⟩
  · exact ⟨entry, present, active, alone⟩
  · have lastInactive : last ∈ entry.inactive := by simp [newest]
    have same := stacked.inactive_ne_active present lastInactive
    rw [active, inactiveOnly last lastInactive] at same
    exact absurd rfl same
  · obtain ⟨registered, labelled⟩ := stacked.mem_of_lookup present entry.active_mem_stack
    rw [only entry.active registered labelled] at differs
    exact absurd rfl differs

private theorem messageLog_endActor_of_only (recorded : Recorded history state)
    (stacked : Stacked (registered history) state)
    (room : ∀ other ∈ registered history,
      (state.handles other.connectionId).messageQueue.HasRoom)
    (present : state.clients.lookup client.endpointId = some entry)
    (active : entry.active = client) (alone : entry.inactive = [])
    (connectionId : ConnectionId) :
    let next := state.endActor client.endpointId client.connectionId
    (Notified history next client.endpointId connectionId →
      next.messageLog connectionId =
        state.messageLog connectionId ++ [.endpointGone client.endpointId]) ∧
    (¬ Notified history next client.endpointId connectionId →
      next.messageLog connectionId = state.messageLog connectionId) := by
  intro next
  have unregistered := Clients.unregister_last present (by rw [active]) alone
  have clients : next.clients = state.clients.erase client.endpointId := by
    show (state.unregister client.endpointId client.connectionId).clients = _
    rw [unregistered, (Clients.foldl_notifyPeer _ _ _).1]
    rfl
  have remaining : ∀ peer peerEntry, next.clients.lookup peer = some peerEntry →
      state.clients.lookup peer = some peerEntry := fun peer peerEntry found => by
    rw [clients] at found
    by_cases same : peer = client.endpointId
    · rw [same, AList.lookup_erase] at found
      simp at found
    · rwa [AList.lookup_erase_ne same] at found
  have log : next.messageLog connectionId =
      (((state.sentTo.lookup client.endpointId).getD []).foldl
        (Clients.notifyPeer client.endpointId)
        (state.without client.endpointId)).messageLog connectionId := by
    rw [← unregistered]
    exact Clients.messageLog_dropReceivers _ _ _
  have apart : ∀ peer other peerEntry otherEntry,
      (state.without client.endpointId).clients.lookup peer = some peerEntry →
      (state.without client.endpointId).clients.lookup other = some otherEntry → other ≠ peer →
        otherEntry.active.connectionId ≠ peerEntry.active.connectionId := by
    intro peer other peerEntry otherEntry found otherFound differs
    rw [Clients.without, ← clients] at found otherFound
    exact stacked.id_ne_of_endpoint_ne (remaining _ _ found) peerEntry.active_mem_stack
      (remaining _ _ otherFound) otherEntry.active_mem_stack differs
  obtain ⟨told, untold⟩ := Clients.messageLog_foldl_notifyPeer client.endpointId
    (recorded.once client.endpointId) apart fun peer _ peerEntry found => by
      rw [Clients.without, ← clients] at found
      exact room _ (stacked.mem_of_lookup (remaining _ _ found) peerEntry.active_mem_stack).1
  have listed := recorded.peers client.endpointId entry present
  rw [log]
  constructor
  · rintro ⟨peer, peerEntry, found, rfl, since⟩
    exact told peer ((listed peer).mpr since) peerEntry (by rwa [Clients.without, ← clients])
  · intro unnotified
    refine untold connectionId fun peer inList peerEntry found same => unnotified ?_
    rw [Clients.without, ← clients] at found
    exact ⟨peer, peerEntry, found, same, (listed peer).mp inList⟩

/-- While another connection of the endpoint remains, nobody is told it is gone. -/
theorem gone_endActor_of_other (stacked : Stacked (registered history) state)
    (inside : client ∈ registered history)
    (other : ∃ other ∈ registered history, other.endpointId = client.endpointId ∧ other ≠ client)
    (connectionId : ConnectionId) :
    ((state.endActor client.endpointId client.connectionId).messageLog connectionId).filter
        RelayToClientMsg.isEndpointGone =
      (state.messageLog connectionId).filter RelayToClientMsg.isEndpointGone := by
  have log : (state.endActor client.endpointId client.connectionId).messageLog connectionId =
      (state.unregister client.endpointId client.connectionId).messageLog connectionId :=
    Clients.messageLog_dropReceivers _ _ _
  obtain ⟨entry, present, shape⟩ := stacked.entry_cases inside
  rw [log]
  rcases shape with ⟨active, alone⟩ | ⟨rfl, older, last, newest⟩ | ⟨differs, inactive⟩
  · obtain ⟨remaining, registered, labelled, differs⟩ := other
    have inStack : remaining ∈ state.stackOf client.endpointId := by
      rw [stacked.entries]
      exact Roster.mem_stack.mpr ⟨registered, labelled⟩
    rw [Clients.stackOf_of_lookup present, ClientState.stack, alone, active] at inStack
    simp [differs] at inStack
  · rw [Clients.unregister_promote present rfl newest]
    refine Clients.filter_messageLog_tell state last.connectionId _ ?_ connectionId
    unfold Client.healthMessage
    cases last.protocolVersion <;> rfl
  · rw [Clients.unregister_inactive present differs]
    rfl

end Unregister

/-- Endpoint-gone notifications are exact. After every unhindered run each key of
`sent_to` is a key of `clients`. When the last connection of an endpoint
unregisters, `EndpointGone` is enqueued once on the then-active connection of
each registered endpoint that a packet of it was enqueued to since its entry
was created, and on no other connection. When another connection of the
endpoint remains, it is enqueued nowhere. A packet counts as enqueued when some
connection's queue takes it. -/
theorem endpoint_gone_notifications_exact {history : List (Action crates)}
    {state : Clients crates}
    (reached : ((registryMachine crates).restrict Unhindered).Reaches history state) :
    (∀ endpointId, endpointId ∈ state.sentTo → endpointId ∈ state.clients) ∧
    (∀ client ∈ registered history,
      Unhindered history state (.unregister client.endpointId client.connectionId) →
      let next := state.perform (.unregister client.endpointId client.connectionId)
      ((∀ other ∈ registered history, other.endpointId = client.endpointId → other = client) →
        ∀ connectionId,
          (Notified history next client.endpointId connectionId →
            next.messageLog connectionId =
              state.messageLog connectionId ++ [.endpointGone client.endpointId]) ∧
          (¬ Notified history next client.endpointId connectionId →
            next.messageLog connectionId = state.messageLog connectionId)) ∧
      ((∃ other ∈ registered history,
          other.endpointId = client.endpointId ∧ other ≠ client) →
        ∀ connectionId,
          (next.messageLog connectionId).filter RelayToClientMsg.isEndpointGone =
            (state.messageLog connectionId).filter RelayToClientMsg.isEndpointGone)) ∧
    (∀ dst data src, Unhindered history state (.sendPacket dst data src) →
      (PacketEnqueued src dst history (.sendPacket dst data src) ↔
        ∃ connectionId, (state.perform (.sendPacket dst data src)).packetLog connectionId =
          state.packetLog connectionId ++ [⟨src, data⟩])) := by
  have recorded := recorded_of_reaches reached
  have stacked := stacked_of_reaches reached.of_restrict
  refine ⟨fun endpointId key => ?_,
    fun client inside ⟨room, _⟩ => ⟨fun only => ?_, fun other => ?_⟩,
    fun dst data src => packetEnqueued_iff_logged stacked⟩
  · by_contra absent
    have missing := recorded.keys endpointId (AList.lookup_eq_none.mpr absent)
    exact AList.lookup_eq_none.mp missing key
  · obtain ⟨entry, present, active, alone⟩ := entry_of_only stacked inside only
    exact messageLog_endActor_of_only recorded stacked
      (fun other registered => (room other registered).2) present active alone
  · exact gone_endActor_of_other stacked inside other

/-- The peer reconnects after the packet was enqueued to its first connection. The
departure is announced on its second, active connection only. -/
theorem departure_announced_on_active_connection :
    let gone := Crates.smallKey 3 (by decide)
    let peer := Crates.smallKey 4 (by decide)
    let history : List (Action Crates.reference) :=
      [.register ⟨gone, 1, 8, .v2⟩, .register ⟨peer, 2, 8, .v2⟩,
        .sendPacket peer ⟨none, none, [7]⟩ gone, .register ⟨peer, 3, 8, .v2⟩]
    let machine := (registryMachine Crates.reference).restrict Unhindered
    let state := machine.runFrom Clients.new history
    let next := state.perform (.unregister gone 1)
    machine.Reaches history state ∧
      next.messageLog 3 = state.messageLog 3 ++ [.endpointGone gone] ∧
      next.messageLog 2 = state.messageLog 2 := by
  intro gone peer history machine state next
  have reached : machine.Reaches history state := Machine.reaches_runFrom (by decide)
  have since : EnqueuedSinceCreated history gone peer := by
    let earlier : List (Action Crates.reference) :=
      [.register ⟨gone, 1, 8, .v2⟩, .register ⟨peer, 2, 8, .v2⟩]
    have split : history = earlier ++ [.sendPacket peer ⟨none, none, [7]⟩ gone] ++
        [.register ⟨peer, 3, 8, .v2⟩] := rfl
    rw [split, enqueuedSinceCreated_register, enqueuedSinceCreated_sendPacket]
    refine ⟨.inl ⟨rfl, rfl, by decide⟩, ?_⟩
    · rintro ⟨⟨config, same, labelled⟩, -⟩
      cases same
      exact absurd labelled (by decide)
  have announced := ((endpoint_gone_notifications_exact reached).2.1 ⟨gone, 1, .v2⟩ (by decide)
    (by decide)).1 (by decide)
  have entry : next.clients.lookup peer = some ⟨⟨peer, 3, .v2⟩, [⟨peer, 2, .v2⟩]⟩ := by decide
  have onThird : Notified history next gone 3 := ⟨peer, _, entry, rfl, since⟩
  have notOnSecond : ¬ Notified history next gone 2 := by
    rintro ⟨other, otherEntry, found, active, -⟩
    have keys : next.clients.keys = [peer] := by decide
    have key : other ∈ next.clients := AList.lookup_isSome.mp (by rw [found]; rfl)
    rw [AList.mem_keys, keys, List.mem_singleton] at key
    rw [key, entry, Option.some.injEq] at found
    rw [← found] at active
    exact absurd active (by decide)
  exact ⟨reached, (announced 3).1 onThird, (announced 2).2 notOnSecond⟩

end Server

end NexalinkTunnel.Relay
