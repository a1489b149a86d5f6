import Mathlib.Data.Finset.Basic
import NexalinkTunnel.Relay.PingTracker
import NexalinkTunnel.Socket.Relay.Recv

/-!
Contract: the endpoints that a relay connection knows a route to.

Owns `ActiveRelayActor::handle_relay_msg` with the state of a connected actor, and how
`endpoints_present` follows the messages of a connection.

Does not own: reading and sending, and who asks `HasEndpointRoute`.

## The last source

Datagrams of the source of the last datagrams are not entered again. An endpoint that is
gone leaves the set, but stays the last source.
-/

namespace NexalinkTunnel.Socket.Relay

open Lib Base Relay.Protos

variable {crates : Crates}

structure ConnectedRelayState (crates : Crates) where
  pingTracker : Relay.PingTracker
  endpointsPresent : Finset (EndpointId crates.ed25519)
  lastPacketSrc : Option (EndpointId crates.ed25519)
  pongPending : Option (List.Vector UInt8 8)
  established : Bool

/-- What `handle_relay_msg` reads and changes: the state of the connection, and of the actor its
URL and the queue of received datagrams. -/
structure RelayConnection (crates : Crates) where
  url : RelayUrl
  relayDatagramsRecv : Channel (RelayRecvDatagram crates.ed25519)
  state : ConnectedRelayState crates

namespace ConnectedRelayState

def new : ConnectedRelayState crates := ⟨.default, ∅, none, none, false⟩

/-- The answer to `ActiveRelayPrioMessage::HasEndpointRoute`. -/
def hasEndpointRoute (state : ConnectedRelayState crates) (peer : EndpointId crates.ed25519) :
    Bool :=
  peer ∈ state.endpointsPresent

/-- Registers a route, unless the last packet was of the same source. -/
def registerRoute (state : ConnectedRelayState crates)
    (remoteEndpointId : EndpointId crates.ed25519) : ConnectedRelayState crates :=
  if state.lastPacketSrc.elim true (· ≠ remoteEndpointId) then
    { state with
      lastPacketSrc := some remoteEndpointId
      endpointsPresent := insert remoteEndpointId state.endpointsPresent }
  else state

end ConnectedRelayState

namespace RelayConnection

def handleRelayMsg (connection : RelayConnection crates) (now : Nat) :
    RelayToClientMsg crates → RelayConnection crates
  | .datagrams remoteEndpointId datagrams =>
      { connection with
        state := connection.state.registerRoute remoteEndpointId
        -- a packet that finds the queue full is dropped
        relayDatagramsRecv := connection.relayDatagramsRecv.offer
          ⟨connection.url, remoteEndpointId, datagrams⟩ }
  | .endpointGone endpointId =>
      { connection with
        state := { connection.state with
          endpointsPresent := connection.state.endpointsPresent.erase endpointId } }
  | .ping data =>
      { connection with state := { connection.state with pongPending := some data } }
  | .pong data =>
      { connection with
        state := { connection.state with
          pingTracker := connection.state.pingTracker.pongReceived now data
          established := true } }
  | .status _ | .restarting _ _ | .health _ => connection

end RelayConnection

/-- A connection with the messages that were handled on it, oldest first. -/
structure RouteRun (crates : Crates) where
  connection : RelayConnection crates
  handled : List (RelayToClientMsg crates)

structure RouteStep (crates : Crates) where
  now : Nat
  msg : RelayToClientMsg crates

def relayRoutes (url : RelayUrl) (relayDatagramsRecv : Channel (RelayRecvDatagram crates.ed25519)) :
    Machine (RouteRun crates) (RouteStep crates) where
  start := ⟨⟨url, relayDatagramsRecv, .new⟩, []⟩
  Enabled _ _ _ := True
  step run step := ⟨run.connection.handleRelayMsg step.now step.msg, run.handled ++ [step.msg]⟩

instance (url : RelayUrl) (relayDatagramsRecv : Channel (RelayRecvDatagram crates.ed25519))
    (history : List (RouteStep crates)) (run : RouteRun crates) (step : RouteStep crates) :
    Decidable ((relayRoutes url relayDatagramsRecv).Enabled history run step) :=
  .isTrue trivial

/-! ## What the messages say -/

def source : RelayToClientMsg crates → Option (EndpointId crates.ed25519)
  | .datagrams remoteEndpointId _ => some remoteEndpointId
  | _ => none

def gone : RelayToClientMsg crates → Option (EndpointId crates.ed25519)
  | .endpointGone endpointId => some endpointId
  | _ => none

/-- Datagrams came from the endpoint, and since then it was not gone. -/
def Present (handled : List (RelayToClientMsg crates)) (endpointId : EndpointId crates.ed25519) :
    Prop :=
  Since (fun _ msg => source msg = some endpointId) (fun _ msg => gone msg = some endpointId)
    handled

instance (handled : List (RelayToClientMsg crates)) (endpointId : EndpointId crates.ed25519) :
    Decidable (Present handled endpointId) :=
  inferInstanceAs (Decidable (Since _ _ _))

def lastSource (handled : List (RelayToClientMsg crates)) : Option (EndpointId crates.ed25519) :=
  (handled.filterMap source).getLast?

/-- The routes are those that the messages say, and so are the answers about them. -/
def RouteRun.Accurate (run : RouteRun crates) : Prop :=
  ∀ endpointId,
    (endpointId ∈ run.connection.state.endpointsPresent ↔ Present run.handled endpointId) ∧
      (run.connection.state.hasEndpointRoute endpointId = true ↔ Present run.handled endpointId)

/-- Datagrams of the last source come only while it is present. -/
def RouteRun.NotAfterGone (run : RouteRun crates) (step : RouteStep crates) : Prop :=
  ∀ endpointId ∈ source step.msg, lastSource run.handled = some endpointId →
    Present run.handled endpointId
deriving Decidable

private theorem present_append {handled : List (RelayToClientMsg crates)}
    {msg : RelayToClientMsg crates} {endpointId : EndpointId crates.ed25519} :
    Present (handled ++ [msg]) endpointId ↔
      source msg = some endpointId ∨ Present handled endpointId ∧ gone msg ≠ some endpointId :=
  since_append_singleton

private theorem gone_of_source {msg : RelayToClientMsg crates}
    {endpointId : EndpointId crates.ed25519}
    (isSource : source msg = some endpointId) : gone msg = none := by
  cases msg with
  | datagrams remoteEndpointId datagrams => rfl
  | _ => cases isSource

private theorem lastSource_append (handled : List (RelayToClientMsg crates))
    (msg : RelayToClientMsg crates) :
    lastSource (handled ++ [msg]) = (source msg).or (lastSource handled) := by
  unfold lastSource
  cases found : source msg with
  | none => simp [List.filterMap_append, found]
  | some endpointId => simp [List.filterMap_append, found]

namespace ConnectedRelayState

variable {state : ConnectedRelayState crates} {remoteEndpointId : EndpointId crates.ed25519}

private theorem registerRoute_eq :
    state.registerRoute remoteEndpointId =
      if state.lastPacketSrc = some remoteEndpointId then state
      else
        { state with
          lastPacketSrc := some remoteEndpointId
          endpointsPresent := insert remoteEndpointId state.endpointsPresent } := by
  unfold registerRoute
  cases state.lastPacketSrc with
  | none => simp
  | some other => by_cases same : other = remoteEndpointId <;> simp [same]

private theorem lastPacketSrc_registerRoute :
    (state.registerRoute remoteEndpointId).lastPacketSrc = some remoteEndpointId := by
  rw [registerRoute_eq]
  split
  next same => exact same
  next => rfl

private theorem mem_registerRoute {endpointId : EndpointId crates.ed25519} :
    endpointId ∈ (state.registerRoute remoteEndpointId).endpointsPresent ↔
      (endpointId = remoteEndpointId ∧ state.lastPacketSrc ≠ some remoteEndpointId) ∨
        endpointId ∈ state.endpointsPresent := by
  rw [registerRoute_eq]
  split
  next same => simp [same]
  next different => simp [different]

end ConnectedRelayState

namespace RelayConnection

variable {connection : RelayConnection crates} {now : Nat} {msg : RelayToClientMsg crates}

private theorem lastPacketSrc_handleRelayMsg :
    (connection.handleRelayMsg now msg).state.lastPacketSrc =
      (source msg).or connection.state.lastPacketSrc := by
  cases msg with
  | datagrams remoteEndpointId datagrams => exact ConnectedRelayState.lastPacketSrc_registerRoute
  | endpointGone endpointId => rfl
  | status status => rfl
  | restarting reconnectIn tryFor => rfl
  | ping data => rfl
  | pong data => rfl
  | health problem => rfl

/-- The endpoints that are present after a message. Datagrams enter their source unless it was the
last one. -/
theorem mem_endpointsPresent_handleRelayMsg {endpointId : EndpointId crates.ed25519} :
    endpointId ∈ (connection.handleRelayMsg now msg).state.endpointsPresent ↔
      (source msg = some endpointId ∧ connection.state.lastPacketSrc ≠ some endpointId) ∨
        endpointId ∈ connection.state.endpointsPresent ∧ gone msg ≠ some endpointId := by
  cases msg with
  | datagrams remoteEndpointId datagrams =>
      have registered := @ConnectedRelayState.mem_registerRoute _ connection.state
        remoteEndpointId endpointId
      by_cases same : remoteEndpointId = endpointId
      · simpa [handleRelayMsg, source, gone, same] using registered
      · simpa [handleRelayMsg, source, gone, same, Ne.symm same] using registered
  | endpointGone other => simp [handleRelayMsg, source, gone, and_comm, eq_comm]
  | status status => simp [handleRelayMsg, source, gone]
  | restarting reconnectIn tryFor => simp [handleRelayMsg, source, gone]
  | ping data => simp [handleRelayMsg, source, gone]
  | pong data => simp [handleRelayMsg, source, gone]
  | health problem => simp [handleRelayMsg, source, gone]

end RelayConnection

namespace RouteRun

variable {url : RelayUrl} {relayDatagramsRecv : Channel (RelayRecvDatagram crates.ed25519)}
  {history : List (RouteStep crates)} {run : RouteRun crates}

private theorem lastPacketSrc_of_reaches
    (reached : (relayRoutes url relayDatagramsRecv).Reaches history run) :
    run.connection.state.lastPacketSrc = lastSource run.handled := by
  apply reached.invariant fun _ run =>
    run.connection.state.lastPacketSrc = lastSource run.handled
  · rfl
  · intro history run step before enabled same
    simp only [relayRoutes]
    rw [RelayConnection.lastPacketSrc_handleRelayMsg, lastSource_append, same]

private theorem accurate_iff : run.Accurate ↔ ∀ endpointId,
    endpointId ∈ run.connection.state.endpointsPresent ↔ Present run.handled endpointId := by
  simp [Accurate, ConnectedRelayState.hasEndpointRoute]

/-- From accurate routes a message leads to accurate ones, unless its datagrams are of the last
source while it is gone. -/
theorem Accurate.step_iff (accurate : run.Accurate)
    (sameLast : run.connection.state.lastPacketSrc = lastSource run.handled)
    (step : RouteStep crates) :
    RouteRun.Accurate ⟨run.connection.handleRelayMsg step.now step.msg, run.handled ++ [step.msg]⟩ ↔
      run.NotAfterGone step := by
  rw [accurate_iff] at accurate
  rw [accurate_iff, NotAfterGone]
  apply forall_congr'
  intro endpointId
  rw [RelayConnection.mem_endpointsPresent_handleRelayMsg, present_append, accurate, sameLast]
  by_cases isSource : source step.msg = some endpointId
  · have notGone := gone_of_source isSource
    by_cases last : lastSource run.handled = some endpointId <;> simp [isSource, notGone, last]
  · simp [isSource]

/-- The routes of a connection are accurate after each message exactly if datagrams of the last
source never come while it is gone. -/
theorem relay_routes_accurate_iff
    (reached : (relayRoutes url relayDatagramsRecv).Reaches history run) :
    (relayRoutes url relayDatagramsRecv).Throughout Accurate history ↔
      ((relayRoutes url relayDatagramsRecv).restrict fun _ run step =>
        run.NotAfterGone step).Reaches history run := by
  apply reached.throughout_iff_restrict Accurate
  · intro endpointId
    simp [relayRoutes, ConnectedRelayState.new, ConnectedRelayState.hasEndpointRoute, Present]
  · intro history run step before enabled accurate
    exact accurate.step_iff (lastPacketSrc_of_reaches before) step

/-- An endpoint that was gone is entered again, as another source came in between. -/
theorem relay_routes_accurate_other_source :
    let first := Crates.smallKey 3 (by decide)
    let second := Crates.smallKey 4 (by decide)
    let routes := relayRoutes ⟨"https://a"⟩ (.new 512)
    let history : List (RouteStep Crates.reference) :=
      [⟨0, .datagrams first ⟨none, none, [1]⟩⟩, ⟨1, .endpointGone first⟩,
        ⟨2, .datagrams second ⟨none, none, [2]⟩⟩, ⟨3, .datagrams first ⟨none, none, [3]⟩⟩]
    first ∈ (routes.runFrom routes.start history).connection.state.endpointsPresent ∧
      routes.Throughout Accurate history := by
  intro first second routes history
  have reached : routes.Reaches history _ := Machine.reaches_runFrom (by decide)
  exact ⟨by decide, (relay_routes_accurate_iff reached).mpr
    (Machine.reaches_runFrom (by decide))⟩

/-- An endpoint that was gone sends again, and is the last source: it is not entered. -/
theorem relay_routes_miss_returned_source :
    let endpointId := Crates.smallKey 3 (by decide)
    let routes := relayRoutes ⟨"https://a"⟩ (.new 512)
    let history : List (RouteStep Crates.reference) :=
      [⟨0, .datagrams endpointId ⟨none, none, [1]⟩⟩, ⟨1, .endpointGone endpointId⟩,
        ⟨2, .datagrams endpointId ⟨none, none, [2]⟩⟩]
    let run := routes.runFrom routes.start history
    routes.Reaches history run ∧ Present run.handled endpointId ∧
      run.connection.state.endpointsPresent = ∅ ∧
      run.connection.state.hasEndpointRoute endpointId = false ∧ ¬ run.Accurate := by
  intro endpointId routes history run
  have present : Present run.handled endpointId := by decide
  have unknown : run.connection.state.hasEndpointRoute endpointId = false := by decide
  refine ⟨Machine.reaches_runFrom (by decide), present, by decide, unknown, ?_⟩
  intro accurate
  rw [(accurate endpointId).2.mpr present] at unknown
  cases unknown

end RouteRun

end NexalinkTunnel.Socket.Relay
