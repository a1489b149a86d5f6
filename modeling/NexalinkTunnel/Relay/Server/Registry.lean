import Mathlib.Data.List.Induction
import NexalinkTunnel.Lib.Roster
import NexalinkTunnel.Lib.Transition
import NexalinkTunnel.Relay.Server.Clients

/-!
Contract: the registry over whole runs, with registration as one step.

Owns the machine whose steps are the registry's operations, the connections
registered after a history (the specification, in order of registration), and
that the registry's map is that order cut into one stack for each endpoint.

Does not own: registration in two steps, what clients are told, and which
endpoints are notified of a departure.
-/

namespace NexalinkTunnel.Relay.Server

open Lib
open Base
open Relay.Protos

/-- The operations on the registry and on the receiving ends of its queues. -/
inductive Action (crates : Crates) where
  | register (config : Config crates)
  | unregister (endpointId : EndpointId crates.ed25519) (connectionId : ConnectionId)
  | sendPacket (dst : EndpointId crates.ed25519) (data : Datagrams)
      (src : EndpointId crates.ed25519)
  | disconnect (endpointId : EndpointId crates.ed25519) (connectionId : Option ConnectionId)
  | recvPacket (connectionId : ConnectionId)
  | recvMessage (connectionId : ConnectionId)

variable {crates : Crates}

def Clients.perform (state : Clients crates) : Action crates → Clients crates
  | .register config => state.register config
  | .unregister endpointId connectionId => state.endActor endpointId connectionId
  | .sendPacket dst data src => (state.sendPacket dst data src).2
  | .disconnect endpointId connectionId => (state.disconnect endpointId connectionId).2
  | .recvPacket connectionId =>
      match state.recvPacket connectionId with
      | some (_, next) => next
      | none => state
  | .recvMessage connectionId =>
      match state.recvMessage connectionId with
      | some (_, next) => next
      | none => state

/-- What an operation changes about who is registered. -/
def Action.change : Action crates → Option (Roster.Change (Client crates) ConnectionId)
  | .register config => some (.enter (Client.new config))
  | .unregister _ connectionId => some (.leave connectionId)
  | _ => none

def registered (history : List (Action crates)) : List (Client crates) :=
  Roster.members Client.connectionId (history.filterMap Action.change)

def usedIds (history : List (Action crates)) : List ConnectionId :=
  history.filterMap fun action =>
    match action with
    | .register config => some config.connectionId
    | _ => none

/-- Connections register under a fresh id, and only registered ones unregister. -/
def Action.Allowed (history : List (Action crates)) : Action crates → Prop
  | .register config => config.connectionId ∉ usedIds history
  | .unregister endpointId connectionId =>
      ∃ client ∈ registered history,
        client.endpointId = endpointId ∧ client.connectionId = connectionId
  | _ => True

instance Action.decidableAllowed (history : List (Action crates)) (action : Action crates) :
    Decidable (action.Allowed history) :=
  match action with
  | .register config => inferInstanceAs (Decidable (config.connectionId ∉ usedIds history))
  | .unregister endpointId connectionId =>
      inferInstanceAs (Decidable (∃ client ∈ registered history,
        client.endpointId = endpointId ∧ client.connectionId = connectionId))
  | .sendPacket _ _ _ | .disconnect _ _ | .recvPacket _ | .recvMessage _ => .isTrue trivial

/-- The registry in an environment that performs one operation after another. -/
def registryMachine (crates : Crates) : Machine (Clients crates) (Action crates) where
  start := Clients.new
  Enabled history _ action := action.Allowed history
  step := Clients.perform

instance (history : List (Action crates)) (state : Clients crates) (action : Action crates) :
    Decidable ((registryMachine crates).Enabled history state action) :=
  inferInstanceAs (Decidable (action.Allowed history))

section Registered

variable (history : List (Action crates))

@[simp] theorem registered_register (config : Config crates) :
    registered (history ++ [.register config]) = registered history ++ [Client.new config] := by
  simp [registered, Roster.members, Action.change, Roster.applyChange]

@[simp] theorem registered_unregister (endpointId : EndpointId crates.ed25519)
    (connectionId : ConnectionId) :
    registered (history ++ [.unregister endpointId connectionId]) =
      Roster.leave Client.connectionId connectionId (registered history) := by
  simp [registered, Roster.members, Action.change, Roster.applyChange]

theorem registered_of_change_none {action : Action crates} (quiet : action.change = none) :
    registered (history ++ [action]) = registered history := by
  simp [registered, quiet]

theorem usedIds_of_registered {client : Client crates} (inside : client ∈ registered history) :
    client.connectionId ∈ usedIds history := by
  induction history using List.reverseRecOn with
  | nil => simp [registered, Roster.members] at inside
  | append_singleton history action inductionHypothesis =>
      have earlier : client ∈ registered history →
          client.connectionId ∈ usedIds (history ++ [action]) := fun before => by
        rw [usedIds, List.filterMap_append, List.mem_append]
        exact .inl (inductionHypothesis before)
      cases action with
      | register config =>
          rw [registered_register, List.mem_append, List.mem_singleton] at inside
          rcases inside with before | rfl
          · exact earlier before
          · simp [usedIds, Client.new]
      | unregister endpointId connectionId =>
          rw [registered_unregister, Roster.mem_leave] at inside
          exact earlier inside.1
      | sendPacket _ _ _ | disconnect _ _ | recvPacket _ | recvMessage _ =>
          rw [registered_of_change_none _ rfl] at inside
          exact earlier inside

end Registered

namespace Clients

variable {state : Clients crates}

/-- `next` differs from `state` in nothing that registration is about: the map,
the counters of inactive connections, the message logs, and whether anyone
still listens. -/
structure SameRegistration (state next : Clients crates) : Prop where
  clients : next.clients = state.clients
  added : next.metrics.clientsInactiveAdded = state.metrics.clientsInactiveAdded
  removed : next.metrics.clientsInactiveRemoved = state.metrics.clientsInactiveRemoved
  messageLog : ∀ connectionId, next.messageLog connectionId = state.messageLog connectionId
  closed : ∀ connectionId, (next.handles connectionId).messageQueue.closed =
    (state.handles connectionId).messageQueue.closed

theorem SameRegistration.refl : SameRegistration state state :=
  ⟨rfl, rfl, rfl, fun _ => rfl, fun _ => rfl⟩

theorem SameRegistration.trans {next last : Clients crates} (first : SameRegistration state next)
    (second : SameRegistration next last) : SameRegistration state last where
  clients := second.clients.trans first.clients
  added := second.added.trans first.added
  removed := second.removed.trans first.removed
  messageLog connectionId := (second.messageLog connectionId).trans (first.messageLog connectionId)
  closed connectionId := (second.closed connectionId).trans (first.closed connectionId)

theorem SameRegistration.setHandles {connectionId : ConnectionId} {handles : Handles crates}
    (log : handles.messageQueue.sent = state.messageLog connectionId)
    (closed : handles.messageQueue.closed = (state.handles connectionId).messageQueue.closed) :
    SameRegistration state (state.setHandles connectionId handles) where
  clients := rfl
  added := rfl
  removed := rfl
  messageLog other := by
    by_cases same : other = connectionId
    · simp [Clients.messageLog, Clients.setHandles, same, log]
    · simp [Clients.messageLog, Clients.setHandles, same]
  closed other := by
    by_cases same : other = connectionId
    · simp [Clients.setHandles, same, closed]
    · simp [Clients.setHandles, same]

theorem sameRegistration_startShutdown (client : Client crates) :
    SameRegistration state (state.startShutdown client) :=
  .setHandles rfl rfl

private theorem sameRegistration_shutdownAll (clients : List (Client crates)) :
    SameRegistration state (clients.foldl startShutdown state) := by
  induction clients generalizing state with
  | nil => exact .refl
  | cons client rest inductionHypothesis =>
      exact (sameRegistration_startShutdown client).trans inductionHypothesis

theorem sameRegistration_disconnect (endpointId : EndpointId crates.ed25519)
    (connectionId : Option ConnectionId) :
    SameRegistration state (state.disconnect endpointId connectionId).2 := by
  unfold disconnect
  cases state.clients.lookup endpointId with
  | none => exact .refl
  | some entry =>
      cases connectionId with
      | none => exact sameRegistration_shutdownAll _
      | some id =>
          simp only
          split
          · exact .refl
          · exact sameRegistration_startShutdown _

theorem sameRegistration_sendPacket (dst : EndpointId crates.ed25519) (data : Datagrams)
    (src : EndpointId crates.ed25519) :
    SameRegistration state (state.sendPacket dst data src).2 := by
  unfold sendPacket
  cases state.clients.lookup dst with
  | none => exact ⟨rfl, rfl, rfl, fun _ => rfl, fun _ => rfl⟩
  | some entry =>
      simp only [trySendPacket]
      cases (state.handles entry.active.connectionId).packetQueue.trySend ⟨src, data⟩ with
      | ok queue =>
          have pushed : SameRegistration state (state.setHandles entry.active.connectionId
              { state.handles entry.active.connectionId with packetQueue := queue }) :=
            .setHandles rfl rfl
          exact ⟨pushed.clients, pushed.added, pushed.removed, pushed.messageLog, pushed.closed⟩
      | error reason =>
          cases reason with
          | full => exact .refl
          | closed => exact sameRegistration_startShutdown _

theorem sameRegistration_recvPacket (connectionId : ConnectionId) :
    SameRegistration state (state.perform (.recvPacket connectionId)) := by
  simp only [perform, recvPacket]
  cases (state.handles connectionId).packetQueue.recv with
  | none => exact .refl
  | some taken => exact .setHandles rfl rfl

theorem sameRegistration_recvMessage (connectionId : ConnectionId) :
    SameRegistration state (state.perform (.recvMessage connectionId)) := by
  simp only [perform, recvMessage]
  cases taken : (state.handles connectionId).messageQueue.recv with
  | none => exact .refl
  | some pair =>
      obtain ⟨message, queue⟩ := pair
      exact .setHandles (Channel.sent_of_recv taken) (Channel.recv_eq_some taken).2.2.1

/-- Operations other than register and unregister leave registration alone. -/
theorem sameRegistration_perform {action : Action crates} (quiet : action.change = none) :
    SameRegistration state (state.perform action) := by
  cases action with
  | register config => simp [Action.change] at quiet
  | unregister endpointId connectionId => simp [Action.change] at quiet
  | sendPacket dst data src => exact sameRegistration_sendPacket dst data src
  | disconnect endpointId connectionId => exact sameRegistration_disconnect endpointId connectionId
  | recvPacket connectionId => exact sameRegistration_recvPacket connectionId
  | recvMessage connectionId => exact sameRegistration_recvMessage connectionId

end Clients

/-! ## The map is the roster cut into stacks -/

def ClientState.stack (entry : ClientState crates) : List (Client crates) :=
  entry.inactive ++ [entry.active]

def Clients.stackOf (state : Clients crates) (endpointId : EndpointId crates.ed25519) :
    List (Client crates) :=
  (state.clients.lookup endpointId).elim [] ClientState.stack

def Clients.inactiveTotal (state : Clients crates) : Nat :=
  totalWeight (fun entry => entry.inactive.length) state.clients

/-- The registry holds exactly the connections of `roster`, by endpoint and in
order, and has counted the inactive ones. -/
structure Stacked (roster : List (Client crates)) (state : Clients crates) : Prop where
  unique : (roster.map Client.connectionId).Nodup
  entries : ∀ endpointId,
    state.stackOf endpointId = Roster.stack Client.endpointId roster endpointId
  balance : state.metrics.clientsInactiveAdded =
    state.metrics.clientsInactiveRemoved + state.inactiveTotal

theorem ClientState.active_mem_stack (entry : ClientState crates) : entry.active ∈ entry.stack := by
  simp [stack]

theorem ClientState.mem_stack_of_inactive {entry : ClientState crates} {client : Client crates}
    (inactive : client ∈ entry.inactive) : client ∈ entry.stack :=
  List.mem_append_left _ inactive

namespace Clients

variable {state next : Clients crates} {endpointId other : EndpointId crates.ed25519}
  {entry : ClientState crates}

theorem stackOf_of_lookup (present : state.clients.lookup endpointId = some entry) :
    state.stackOf endpointId = entry.stack := by
  simp [stackOf, present]

theorem stackOf_of_none (absent : state.clients.lookup endpointId = none) :
    state.stackOf endpointId = [] := by
  simp [stackOf, absent]

theorem lookup_of_mem_stackOf {client : Client crates}
    (inside : client ∈ state.stackOf endpointId) :
    ∃ entry, state.clients.lookup endpointId = some entry := by
  cases found : state.clients.lookup endpointId with
  | none => simp [stackOf, found] at inside
  | some entry => exact ⟨entry, rfl⟩

theorem stackOf_insert_self (stored : next.clients = state.clients.insert endpointId entry) :
    next.stackOf endpointId = entry.stack :=
  stackOf_of_lookup (by rw [stored, AList.lookup_insert])

theorem stackOf_insert_of_ne (stored : next.clients = state.clients.insert endpointId entry)
    (differs : other ≠ endpointId) : next.stackOf other = state.stackOf other := by
  rw [stackOf, stored, AList.lookup_insert_ne differs, stackOf]

private theorem stackOf_erase_self (removed : next.clients = state.clients.erase endpointId) :
    next.stackOf endpointId = [] :=
  stackOf_of_none (by rw [removed, AList.lookup_erase])

private theorem stackOf_erase_of_ne (removed : next.clients = state.clients.erase endpointId)
    (differs : other ≠ endpointId) : next.stackOf other = state.stackOf other := by
  rw [stackOf, removed, AList.lookup_erase_ne differs, stackOf]

theorem foldl_notifyPeer (state : Clients crates) (gone : EndpointId crates.ed25519)
    (peers : List (EndpointId crates.ed25519)) :
    (peers.foldl (notifyPeer gone) state).clients = state.clients ∧
      (peers.foldl (notifyPeer gone) state).sentTo = state.sentTo ∧
      (peers.foldl (notifyPeer gone) state).metrics = state.metrics := by
  induction peers generalizing state with
  | nil => exact ⟨rfl, rfl, rfl⟩
  | cons peer peers inductionHypothesis =>
      have single : (notifyPeer gone state peer).clients = state.clients ∧
          (notifyPeer gone state peer).sentTo = state.sentTo ∧
          (notifyPeer gone state peer).metrics = state.metrics := by
        rw [notifyPeer_eq]
        cases state.clients.lookup peer <;> simp
      obtain ⟨clients, sentTo, metrics⟩ := inductionHypothesis (notifyPeer gone state peer)
      exact ⟨clients.trans single.1, sentTo.trans single.2.1, metrics.trans single.2.2⟩

end Clients

namespace Stacked

variable {roster : List (Client crates)} {state : Clients crates} {client : Client crates}

/-- Only the map and its two counters matter. -/
theorem of_eq {next : Clients crates} (stacked : Stacked roster state)
    (clients : next.clients = state.clients)
    (added : next.metrics.clientsInactiveAdded = state.metrics.clientsInactiveAdded)
    (removed : next.metrics.clientsInactiveRemoved = state.metrics.clientsInactiveRemoved) :
    Stacked roster next where
  unique := stacked.unique
  entries endpointId := by
    rw [← stacked.entries, Clients.stackOf, clients, Clients.stackOf]
  balance := by
    rw [added, removed, stacked.balance, Clients.inactiveTotal, Clients.inactiveTotal, clients]

theorem new : Stacked [] (Clients.new : Clients crates) where
  unique := List.nodup_nil
  entries endpointId := by simp [Clients.stackOf, Clients.new, Roster.stack]
  balance := rfl

theorem spawn (stacked : Stacked roster state) (config : Config crates) :
    Stacked roster (state.spawn config) :=
  stacked.of_eq rfl rfl rfl

theorem mem_of_lookup (stacked : Stacked roster state)
    {endpointId : EndpointId crates.ed25519} {entry : ClientState crates}
    (present : state.clients.lookup endpointId = some entry) (inside : client ∈ entry.stack) :
    client ∈ roster ∧ client.endpointId = endpointId := by
  rw [← Clients.stackOf_of_lookup present, stacked.entries] at inside
  exact Roster.mem_stack.mp inside

/-- An endpoint has an entry exactly when one of its connections is in the roster. -/
theorem lookup_isSome_iff (stacked : Stacked roster state)
    (endpointId : EndpointId crates.ed25519) :
    (state.clients.lookup endpointId).isSome ↔
      ∃ client ∈ roster, client.endpointId = endpointId := by
  rw [Option.isSome_iff_exists]
  constructor
  · rintro ⟨entry, present⟩
    exact ⟨entry.active, stacked.mem_of_lookup present entry.active_mem_stack⟩
  · rintro ⟨client, inside, labelled⟩
    have inStack : client ∈ state.stackOf endpointId := by
      rw [stacked.entries]
      exact Roster.mem_stack.mpr ⟨inside, labelled⟩
    exact Clients.lookup_of_mem_stackOf inStack

theorem unique_of_lookup (stacked : Stacked roster state)
    {endpointId : EndpointId crates.ed25519} {entry : ClientState crates}
    (present : state.clients.lookup endpointId = some entry) :
    (entry.stack.map Client.connectionId).Nodup := by
  rw [← Clients.stackOf_of_lookup present, stacked.entries]
  exact Roster.unique_stack stacked.unique

theorem inactive_unique (stacked : Stacked roster state)
    {endpointId : EndpointId crates.ed25519} {entry : ClientState crates}
    (present : state.clients.lookup endpointId = some entry) :
    (entry.inactive.map Client.connectionId).Nodup :=
  ((List.sublist_append_left _ _).map _).nodup (stacked.unique_of_lookup present)

theorem inactive_ne_active (stacked : Stacked roster state)
    {endpointId : EndpointId crates.ed25519} {entry : ClientState crates}
    (present : state.clients.lookup endpointId = some entry) (inactive : client ∈ entry.inactive) :
    client.connectionId ≠ entry.active.connectionId :=
  Roster.key_ne_last (stacked.unique_of_lookup present) inactive

theorem id_ne_of_endpoint_ne (stacked : Stacked roster state)
    {endpointId other : EndpointId crates.ed25519} {entry otherEntry : ClientState crates}
    {otherClient : Client crates} (present : state.clients.lookup endpointId = some entry)
    (inside : client ∈ entry.stack) (otherPresent : state.clients.lookup other = some otherEntry)
    (otherInside : otherClient ∈ otherEntry.stack) (differs : other ≠ endpointId) :
    otherClient.connectionId ≠ client.connectionId := by
  intro same
  obtain ⟨registered, labelled⟩ := stacked.mem_of_lookup present inside
  obtain ⟨otherRegistered, otherLabelled⟩ := stacked.mem_of_lookup otherPresent otherInside
  have identical := Roster.eq_of_key_eq stacked.unique otherRegistered registered same
  rw [identical] at otherLabelled
  exact differs (otherLabelled.symm.trans labelled)

private theorem entries_enter (stacked : Stacked roster state) {next : Clients crates}
    {entry : ClientState crates}
    (stored : next.clients = state.clients.insert client.endpointId entry)
    (grown : entry.stack = state.stackOf client.endpointId ++ [client])
    (endpointId : EndpointId crates.ed25519) :
    next.stackOf endpointId =
      Roster.stack Client.endpointId (roster ++ [client]) endpointId := by
  by_cases same : endpointId = client.endpointId
  · subst same
    rw [Clients.stackOf_insert_self stored, grown, stacked.entries, Roster.stack_enter_self]
  · rw [Clients.stackOf_insert_of_ne stored same, Roster.stack_enter_of_ne (Ne.symm same),
      stacked.entries]

theorem insert (stacked : Stacked roster state)
    (fresh : ∀ other ∈ roster, other.connectionId ≠ client.connectionId) :
    Stacked (roster ++ [client]) (state.insert client) := by
  have unique := Roster.unique_enter stacked.unique fresh
  have balance := stacked.balance
  have weigh := totalWeight_insert (fun entry : ClientState crates => entry.inactive.length)
    state.clients client.endpointId
  unfold Clients.inactiveTotal at balance
  cases present : state.clients.lookup client.endpointId with
  | none =>
      rw [Clients.insert_of_none present]
      refine ⟨unique, stacked.entries_enter rfl ?_, ?_⟩
      · rw [Clients.stackOf_of_none present]
        rfl
      · have weighed := weigh ⟨client, []⟩
        simp only [present, Option.map_none, Option.getD_none, List.length_nil] at weighed
        simp only [Clients.inactiveTotal]
        omega
  | some entry =>
      rw [Clients.insert_of_some present]
      refine ⟨unique, stacked.entries_enter rfl ?_, ?_⟩
      · rw [Clients.stackOf_of_lookup present]
        rfl
      · have weighed := weigh ⟨client, entry.inactive ++ [entry.active]⟩
        simp only [present, Option.map_some, Option.getD_some, List.length_append,
          List.length_singleton] at weighed
        simp only [Clients.inactiveTotal]
        omega

/-- How an entry of the map looks when one of its connections leaves. -/
theorem entry_cases (stacked : Stacked roster state) (inside : client ∈ roster) :
    ∃ entry, state.clients.lookup client.endpointId = some entry ∧
      ((entry.active = client ∧ entry.inactive = []) ∨
        (entry.active = client ∧ ∃ older last, entry.inactive = older ++ [last]) ∨
        (entry.active.connectionId ≠ client.connectionId ∧ client ∈ entry.inactive)) := by
  have inStack : client ∈ state.stackOf client.endpointId := by
    rw [stacked.entries]
    exact Roster.mem_stack.mpr ⟨inside, rfl⟩
  obtain ⟨entry, present⟩ := Clients.lookup_of_mem_stackOf inStack
  rw [Clients.stackOf_of_lookup present] at inStack
  refine ⟨entry, present, ?_⟩
  have activeInside : entry.active ∈ roster :=
    (stacked.mem_of_lookup present entry.active_mem_stack).1
  by_cases same : entry.active.connectionId = client.connectionId
  · have isActive := Roster.eq_of_key_eq stacked.unique activeInside inside same
    rcases List.eq_nil_or_concat entry.inactive with alone | ⟨older, last, shape⟩
    · exact .inl ⟨isActive, alone⟩
    · exact .inr (.inl ⟨isActive, older, last, shape.trans List.concat_eq_append⟩)
  · refine .inr (.inr ⟨same, ?_⟩)
    rcases List.mem_append.mp inStack with inactive | active
    · exact inactive
    · rw [List.mem_singleton] at active
      exact absurd (by rw [active]) same

/-- What has to be shown when `client` leaves: its own stack, that the others stay,
and the balance. -/
private theorem of_leave {next : Clients crates} (stacked : Stacked roster state)
    (inside : client ∈ roster)
    (own : next.stackOf client.endpointId =
      Roster.leave Client.connectionId client.connectionId (state.stackOf client.endpointId))
    (others : ∀ endpointId, endpointId ≠ client.endpointId →
      next.stackOf endpointId = state.stackOf endpointId)
    (balance : next.metrics.clientsInactiveAdded =
      next.metrics.clientsInactiveRemoved + next.inactiveTotal) :
    Stacked (Roster.leave Client.connectionId client.connectionId roster) next where
  unique := Roster.unique_leave stacked.unique
  entries endpointId := by
    by_cases same : endpointId = client.endpointId
    · rw [same, own, stacked.entries, Roster.stack_leave]
    · rw [others endpointId same, stacked.entries,
        Roster.stack_leave_of_group_ne stacked.unique inside (Ne.symm same)]
  balance := balance

/-- A registered connection leaves its endpoint's stack, wherever it stands. -/
theorem unregister (stacked : Stacked roster state) (inside : client ∈ roster) :
    Stacked (Roster.leave Client.connectionId client.connectionId roster)
      (state.unregister client.endpointId client.connectionId) := by
  have balance := stacked.balance
  have weigh := totalWeight_insert (fun entry : ClientState crates => entry.inactive.length)
    state.clients client.endpointId
  have weighErased := totalWeight_erase (fun entry : ClientState crates => entry.inactive.length)
    state.clients client.endpointId
  unfold Clients.inactiveTotal at balance
  obtain ⟨entry, present, shape⟩ := stacked.entry_cases inside
  have ownUnique := stacked.unique_of_lookup present
  simp only [present, Option.map_some, Option.getD_some] at weigh weighErased
  rcases shape with ⟨rfl, alone⟩ | ⟨rfl, older, last, newest⟩ | ⟨differs, inactive⟩
  · rw [Clients.unregister_last present rfl alone]
    obtain ⟨clients, -, metrics⟩ := Clients.foldl_notifyPeer
      (state.without entry.active.endpointId) entry.active.endpointId
      ((state.sentTo.lookup entry.active.endpointId).getD [])
    refine stacked.of_leave inside ?_ (fun other => Clients.stackOf_erase_of_ne clients) ?_
    · rw [Clients.stackOf_erase_self clients, Clients.stackOf_of_lookup present,
        ClientState.stack, Roster.leave_last ownUnique, alone]
    · rw [metrics, Clients.inactiveTotal, clients]
      simp only [alone, List.length_nil, Clients.without] at weighErased ⊢
      omega
  · rw [Clients.unregister_promote present rfl newest]
    refine stacked.of_leave inside ?_ (fun other => Clients.stackOf_insert_of_ne rfl) ?_
    · rw [Clients.stackOf_insert_self rfl, Clients.stackOf_of_lookup present, ClientState.stack,
        ClientState.stack, Roster.leave_last ownUnique, newest]
    · have weighed := weigh ⟨last, older⟩
      simp only [newest, List.length_append, List.length_singleton] at weighed
      simp only [Clients.inactiveTotal]
      omega
  · rw [Clients.unregister_inactive present differs]
    have inactiveUnique := stacked.inactive_unique present
    refine stacked.of_leave inside ?_ (fun other => Clients.stackOf_insert_of_ne rfl) ?_
    · rw [Clients.stackOf_insert_self rfl, Clients.stackOf_of_lookup present, ClientState.stack,
        ClientState.stack, Roster.leave_append_of_ne differs]
      rfl
    · have weighed := weigh ⟨entry.active, Roster.leave Client.connectionId client.connectionId
        entry.inactive⟩
      have shorter := Roster.length_leave inactiveUnique inactive
      simp only [Clients.inactiveTotal]
      simp only at weighed
      unfold Roster.leave at weighed shorter
      omega

theorem endActor (stacked : Stacked roster state) (inside : client ∈ roster) :
    Stacked (Roster.leave Client.connectionId client.connectionId roster)
      (state.endActor client.endpointId client.connectionId) :=
  (stacked.unregister inside).of_eq rfl rfl rfl

end Stacked

/-- Every run keeps the map the roster cut into stacks. -/
theorem stacked_of_reaches {history : List (Action crates)} {state : Clients crates}
    (reached : (registryMachine crates).Reaches history state) :
    Stacked (registered history) state := by
  refine reached.invariant (fun history state => Stacked (registered history) state) Stacked.new ?_
  intro history state action _ allowed stacked
  cases quiet : action.change with
  | none =>
      have same : Clients.SameRegistration state (state.perform action) :=
        Clients.sameRegistration_perform quiet
      rw [registered_of_change_none _ quiet]
      exact stacked.of_eq same.clients same.added same.removed
  | some change =>
      cases action with
      | register config =>
          rw [registered_register]
          refine (stacked.spawn config).insert fun other inside same => allowed ?_
          have used := usedIds_of_registered history inside
          rwa [same] at used
      | unregister endpointId connectionId =>
          obtain ⟨client, inside, rfl, rfl⟩ := allowed
          rw [registered_unregister]
          exact stacked.endActor inside
      | sendPacket _ _ _ | disconnect _ _ | recvPacket _ | recvMessage _ =>
          simp [Action.change] at quiet

/-- The registry is a stack of connections for each endpoint. After every run, an
endpoint has an entry exactly when one of its connections is registered; the
inactive connections followed by the active one are the registered ones in
order of registration, each once; the active one is the newest; and the two
counters differ by the number of inactive connections. -/
theorem registry_holds_registered_stacks {history : List (Action crates)}
    {state : Clients crates} (reached : (registryMachine crates).Reaches history state) :
    (∀ endpointId, (state.clients.lookup endpointId).isSome ↔
      ∃ client ∈ registered history, client.endpointId = endpointId) ∧
    (∀ endpointId entry, state.clients.lookup endpointId = some entry →
      entry.inactive ++ [entry.active] =
          (registered history).filter (fun client => client.endpointId = endpointId) ∧
        ((registered history).filter fun client => client.endpointId = endpointId).getLast? =
          some entry.active) ∧
    ((registered history).map Client.connectionId).Nodup ∧
    (state.metrics.clientsInactiveAdded : Int) - state.metrics.clientsInactiveRemoved =
      (state.clients.entries.map fun entry => entry.2.inactive.length).sum := by
  have stacked := stacked_of_reaches reached
  refine ⟨stacked.lookup_isSome_iff, fun endpointId entry present => ?_, stacked.unique, ?_⟩
  · have own := stacked.entries endpointId
    rw [Clients.stackOf_of_lookup present] at own
    unfold ClientState.stack Roster.stack at own
    exact ⟨own, by rw [← own, List.getLast?_concat]⟩
  · have balance := stacked.balance
    simp only [Clients.inactiveTotal, totalWeight] at balance
    omega

/-- Two connections of one endpoint register and the newer one leaves again. -/
theorem registry_holds_first_after_second_left :
    let endpointId := Crates.smallKey 3 (by decide)
    let first : Config Crates.reference := ⟨endpointId, 1, 8, .v2⟩
    let second : Config Crates.reference := ⟨endpointId, 2, 8, .v1⟩
    let history : List (Action Crates.reference) :=
      [.register first, .register second, .unregister endpointId 2]
    ∃ state, (registryMachine Crates.reference).Reaches history state ∧
      (state.metrics.clientsInactiveAdded : Int) - state.metrics.clientsInactiveRemoved =
        (state.clients.entries.map fun entry => entry.2.inactive.length).sum := by
  intro endpointId first second history
  have reached : (registryMachine Crates.reference).Reaches history
      ((registryMachine Crates.reference).runFrom Clients.new history) :=
    Machine.reaches_runFrom (by decide)
  exact ⟨_, reached, (registry_holds_registered_stacks reached).2.2.2⟩

end NexalinkTunnel.Relay.Server
