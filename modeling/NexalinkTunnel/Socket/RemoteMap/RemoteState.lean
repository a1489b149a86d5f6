import NexalinkTunnel.Lib.Transition
import NexalinkTunnel.Relay.Protos.Common
import NexalinkTunnel.Socket.RemoteMap.PathSelector
import NexalinkTunnel.Socket.RemoteMap.PathState

/-!
Contract: the actor that manages all connections to one remote endpoint.

Owns `RemoteStateActor`: the connections with the paths tracked for each, the
addresses of the remote, the selected path, the paths still to be opened, and
whether an address lookup runs. One step is one turn of the actor's loop. What
the QUIC connections answer in a turn is its context; what the actor asks them to
do is logged in the order of the calls.

Does not own: holepunching and its timers, sending datagrams, metrics, and what
the watchers of a connection's paths are told. None of them changes what is
modelled here.
-/

namespace NexalinkTunnel.Socket

open Lib Base

abbrev ConnId := Nat

abbrev PathId := Nat

inductive QuicPathStatus where
  | available
  | backup
deriving DecidableEq

/-- How an attempt to open a path ends before it would wait. -/
inductive OpenPathResult where
  | opening (pathId : PathId)
  | remoteCidsExhausted
  | maxPathIdReached
  | failed
deriving DecidableEq

variable {ed : Ed25519}

inductive PathCommand (ed : Ed25519) where
  | openPath (connId : ConnId) (path : FourTuple ed) (status : QuicPathStatus)
      (result : OpenPathResult)
  | closePath (connId : ConnId) (pathId : PathId)
  | setStatus (connId : ConnId) (pathId : PathId) (status : QuicPathStatus)
  | setMaxIdleTimeout (connId : ConnId) (pathId : PathId) (timeout : Nat)
deriving DecidableEq

/-- The call is an attempt to open the path on the connection. -/
def PathCommand.opens (connId : ConnId) (path : FourTuple ed) : PathCommand ed → Bool
  | .openPath other attempted _ _ => other = connId && attempted = path
  | _ => false

/-- What the actor's surroundings answer during one turn: the time, which
connections and paths still exist, round-trip times, and how an attempt to open a
path on a connection ends, by the number of earlier ones. Maps are iterated in any
order. -/
structure ActorView (ed : Ed25519) where
  now : Instant
  upgrades : ConnId → Bool
  hasPath : ConnId → PathId → Bool
  rtt : ConnId → PathId → Option Nat
  openPathEnsure : ConnId → FourTuple ed → Nat → OpenPathResult
  connectionOrder : IterationOrder
  pathOrder : ConnId → IterationOrder
  addrOrder : IterationOrder

structure ConnectionState (ed : Ed25519) where
  isClient : Bool
  paths : HashMap PathId (FourTuple ed)
  hasBeenDirect : Bool

def pathAt (connections : HashMap ConnId (ConnectionState ed)) (connId : ConnId)
    (pathId : PathId) : Option (FourTuple ed) :=
  (connections.lookup connId).bind fun conn => conn.paths.lookup pathId

/-- The part of the state that opening paths changes, and the log of calls. -/
structure OpenPathState (ed : Ed25519) where
  scheduledOpenPath : Option Instant
  pendingOpenPaths : List (FourTuple ed)
  commands : List (PathCommand ed)

structure RemoteStateActor (ed : Ed25519) where
  endpointId : EndpointId ed
  pathSelector : PathSelector ed
  connections : HashMap ConnId (ConnectionState ed)
  paths : RemotePathState ed
  selectedPath : Option (FourTuple ed)
  opening : OpenPathState ed
  /-- An address lookup runs. -/
  addressLookupStream : Bool

structure AddressLookupItem (ed : Ed25519) where
  endpointId : EndpointId ed
  addrs : List TransportAddr
  provenance : String

/-- An event of a connection about one of its paths. `established` carries the path
if the connection still has it, and its addresses if they can be told. -/
inductive PathEvent (ed : Ed25519) where
  | lagged
  | established (pathId : PathId) (path : Option (Option (FourTuple ed)))
  | abandoned (pathId : PathId)
  | other

/-- What a turn of the loop handles. A resolve request is named by the number of its
reply channel; `addConnection` carries path zero as `established` does. -/
inductive ActorInput (ed : Ed25519) where
  | addConnection (connId : ConnId) (isClient : Bool) (pathZero : Option (Option (FourTuple ed)))
  | resolveRemote (addrs : List TransportAddr) (request : Nat)
  | pathEvent (connId : ConnId) (event : PathEvent ed)
  | connectionClosed (connId : ConnId)
  | scheduledPathOpen
  | addressLookupItem (item : Option (Except AddressLookupFailed (AddressLookupItem ed)))

structure ActorTurn (ed : Ed25519) where
  view : ActorView ed
  input : ActorInput ed

/-- `RELAY_PATH_MAX_IDLE_TIMEOUT`, in milliseconds. -/
def relayPathMaxIdleTimeout : Nat := 30000

def pathStatusForAddr (selectedPath : Option (FourTuple ed)) (path : FourTuple ed) :
    QuicPathStatus :=
  if some path = selectedPath then .available else .backup

namespace ConnectionState

def addOpenPath (conn : ConnectionState ed) (networkPath : FourTuple ed) (pathId : PathId) :
    ConnectionState ed :=
  { conn with
    hasBeenDirect := conn.hasBeenDirect || networkPath.isIp
    paths := conn.paths.insert pathId networkPath }

end ConnectionState

namespace OpenPathState

def call (command : PathCommand ed) (opening : OpenPathState ed) : OpenPathState ed :=
  { opening with commands := opening.commands ++ [command] }

/-- The attempts so far to open the path on the connection. -/
def attempts (connId : ConnId) (path : FourTuple ed) (opening : OpenPathState ed) : Nat :=
  opening.commands.countP (PathCommand.opens connId path)

def setPathStatus (selectedPath : Option (FourTuple ed)) (connId : ConnId) (pathId : PathId)
    (networkPath : FourTuple ed) (opening : OpenPathState ed) : OpenPathState ed :=
  opening.call (.setStatus connId pathId (pathStatusForAddr selectedPath networkPath))

/-- Only the client opens paths, and only those the connection does not have. -/
def openPathOnConn (view : ActorView ed) (selectedPath : Option (FourTuple ed)) (connId : ConnId)
    (conn : ConnectionState ed) (openAddr : FourTuple ed) (opening : OpenPathState ed) :
    OpenPathState ed :=
  if !conn.isClient then opening
  else if (HashMap.values conn.paths).contains openAddr then opening
  else
    let status := pathStatusForAddr selectedPath openAddr
    let result := view.openPathEnsure connId openAddr (opening.attempts connId openAddr)
    let called := opening.call (.openPath connId openAddr status result)
    match result with
    | .opening _ | .failed => called
    | .remoteCidsExhausted | .maxPathIdReached =>
        { called with
          scheduledOpenPath := some (view.now + 333)
          pendingOpenPaths := called.pendingOpenPaths ++ [openAddr] }

/-- One path of a connection, when the selection is applied to it. -/
def applyToPath (view : ActorView ed) (selected : FourTuple ed) (connId : ConnId)
    (conn : ConnectionState ed) (opening : OpenPathState ed) (entry : PathId × FourTuple ed) :
    OpenPathState ed :=
  if !view.hasPath connId entry.1 then opening
  else if conn.isClient && entry.2.isIp && entry.2 ≠ selected &&
      1 < ((HashMap.values conn.paths).filter FourTuple.isIp).length then
    opening.call (.closePath connId entry.1)
  else opening.setPathStatus (some selected) connId entry.1 entry.2

/-- One connection, when the selection is applied to it. -/
def applyToConn (view : ActorView ed) (selected : FourTuple ed) (opening : OpenPathState ed)
    (entry : ConnId × ConnectionState ed) : OpenPathState ed :=
  if view.upgrades entry.1 then
    (HashMap.iter (view.pathOrder entry.1) entry.2.paths).foldl
      (applyToPath view selected entry.1 entry.2)
      (opening.openPathOnConn view (some selected) entry.1 entry.2 selected)
  else opening

end OpenPathState

namespace RemoteStateActor

def new (endpointId : EndpointId ed) (pathSelector : PathSelector ed) : RemoteStateActor ed :=
  ⟨endpointId, pathSelector, ∅, .new, none, ⟨none, [], []⟩, false⟩

/-- `open_path_on_all_conns`, as a change to what it changes. -/
def openPathOnAllConns (view : ActorView ed) (actor : RemoteStateActor ed)
    (opening : OpenPathState ed) (openAddr : FourTuple ed) : OpenPathState ed :=
  (HashMap.iter view.connectionOrder actor.connections).foldl
    (fun opening entry =>
      if view.upgrades entry.1 then
        opening.openPathOnConn view actor.selectedPath entry.1 entry.2 openAddr
      else opening)
    opening

def applySelectedPath (view : ActorView ed) (actor : RemoteStateActor ed) : OpenPathState ed :=
  match actor.selectedPath with
  | none => actor.opening
  | some selected =>
      (HashMap.iter view.connectionOrder actor.connections).foldl
        (OpenPathState.applyToConn view selected) actor.opening

def candidates (view : ActorView ed) (actor : RemoteStateActor ed) : List (PathSelectionData ed) :=
  ((HashMap.iter view.connectionOrder actor.connections).filter
    fun entry => view.upgrades entry.1).flatMap fun entry =>
      (HashMap.iter (view.pathOrder entry.1) entry.2.paths).map fun path =>
        ⟨path.2, view.rtt entry.1 path.1⟩

def choice (view : ActorView ed) (actor : RemoteStateActor ed) : Option (FourTuple ed) :=
  actor.pathSelector.select ⟨actor.selectedPath, actor.candidates view⟩

def selectPath (view : ActorView ed) (actor : RemoteStateActor ed) : RemoteStateActor ed :=
  let selected := { actor with selectedPath := (actor.choice view).or actor.selectedPath }
  { selected with opening := selected.applySelectedPath view }

/-- `conn` is the state of the connection, whether or not it is stored already. -/
def registerAndConfigurePath (view : ActorView ed) (connId : ConnId) (conn : ConnectionState ed)
    (pathId : PathId) (networkPath : FourTuple ed) (actor : RemoteStateActor ed) :
    RemoteStateActor ed :=
  let opening :=
    if networkPath.isRelay then
      actor.opening.call (.setMaxIdleTimeout connId pathId relayPathMaxIdleTimeout)
    else actor.opening
  { actor with
    connections := actor.connections.insert connId (conn.addOpenPath networkPath pathId)
    opening := opening.setPathStatus actor.selectedPath connId pathId networkPath
    paths := actor.paths.insertOpenPath view.addrOrder view.now networkPath.remote .connection }

def relayPaths (view : ActorView ed) (actor : RemoteStateActor ed) : List (FourTuple ed) :=
  ((HashMap.iter view.addrOrder actor.paths.paths).filter fun entry => entry.1.isRelay).map
    fun entry => FourTuple.fromRemote entry.1

/-- `handle_msg_add_connection` up to the selection of a path. -/
def addConnection (view : ActorView ed) (connId : ConnId) (isClient : Bool)
    (pathZero : Option (Option (FourTuple ed))) (actor : RemoteStateActor ed) :
    RemoteStateActor ed :=
  let conn : ConnectionState ed := ⟨isClient, ∅, false⟩
  let stored := { actor with connections := (actor.connections.erase connId).insert connId conn }
  match pathZero with
  | some (some pathRemote) =>
      let registered := stored.registerAndConfigurePath view connId conn 0 pathRemote
      if !pathRemote.isRelay && isClient then
        -- We may have raced this with a relay address.
        { registered with
          opening := (registered.relayPaths view).foldl
            (fun opening openAddr => opening.openPathOnConn view registered.selectedPath connId
              (conn.addOpenPath pathRemote 0) openAddr)
            registered.opening }
      else registered
  | _ => stored

/-- `handle_path_event` up to the selection of a path, for a connection that still
exists. Nothing is selected when it returns before. -/
def recordPathEvent (view : ActorView ed) (connId : ConnId) (conn : ConnectionState ed)
    (actor : RemoteStateActor ed) : PathEvent ed → Option (RemoteStateActor ed)
  | .established pathId (some (some networkPath)) =>
      some (actor.registerAndConfigurePath view connId conn pathId networkPath)
  | .established _ (some none) => some actor
  | .established _ none => none
  | .abandoned pathId =>
      (conn.paths.lookup pathId).map fun networkPath =>
        let remaining := conn.paths.erase pathId
        { actor with
          connections := actor.connections.insert connId { conn with paths := remaining }
          paths :=
            if (HashMap.values remaining).any fun path => path.remote = networkPath.remote then
              actor.paths
            else actor.paths.abandonedPath view.now networkPath.remote }
  | .lagged | .other => none

/-- The state in which a turn selects a path, if it does. -/
def beforeSelect (actor : RemoteStateActor ed) (turn : ActorTurn ed) :
    Option (RemoteStateActor ed) :=
  match turn.input with
  | .addConnection connId isClient pathZero =>
      some (actor.addConnection turn.view connId isClient pathZero)
  | .pathEvent connId event =>
      match actor.connections.lookup connId with
      | some conn =>
          if turn.view.upgrades connId then actor.recordPathEvent turn.view connId conn event
          else none
      | none => none
  | _ => none

def handleConnectionClose (connId : ConnId) (actor : RemoteStateActor ed) :
    RemoteStateActor ed :=
  let connections := actor.connections.erase connId
  { actor with
    connections := connections
    selectedPath := if HashMap.isEmpty connections then none else actor.selectedPath }

def triggerAddressLookup (actor : RemoteStateActor ed) : RemoteStateActor ed :=
  if actor.selectedPath.isSome || actor.addressLookupStream then actor
  else { actor with addressLookupStream := true }

def handleMsgResolveRemote (view : ActorView ed) (addrs : List TransportAddr) (request : Nat)
    (actor : RemoteStateActor ed) : RemoteStateActor ed :=
  triggerAddressLookup { actor with
    paths := (actor.paths.insertMultiple view.addrOrder view.now
      (toTransportsAddr actor.endpointId addrs) .app).resolveRemote request }

def handleAddressLookupItem (view : ActorView ed) (actor : RemoteStateActor ed) :
    Option (Except AddressLookupFailed (AddressLookupItem ed)) → RemoteStateActor ed
  | none =>
      { actor with
        paths := actor.paths.addressLookupFinished (.ok ())
        addressLookupStream := false }
  | some (.error error) =>
      { actor with
        paths := actor.paths.addressLookupFinished (.error error)
        addressLookupStream := false }
  | some (.ok item) =>
      if item.endpointId ≠ actor.endpointId then actor
      else
        { actor with
          paths := actor.paths.insertMultiple view.addrOrder view.now
            (toTransportsAddr actor.endpointId item.addrs) (.addressLookup item.provenance) }

/-- The scheduled retry of paths that could not be opened. -/
def retryOpenPaths (view : ActorView ed) (actor : RemoteStateActor ed) : RemoteStateActor ed :=
  { actor with
    opening := actor.opening.pendingOpenPaths.foldl (actor.openPathOnAllConns view)
      { actor.opening with scheduledOpenPath := none, pendingOpenPaths := [] } }

def step (actor : RemoteStateActor ed) (turn : ActorTurn ed) : RemoteStateActor ed :=
  match turn.input with
  | .addConnection _ _ _ | .pathEvent _ _ =>
      match actor.beforeSelect turn with
      | some recorded => recorded.selectPath turn.view
      | none => actor
  | .resolveRemote addrs request => actor.handleMsgResolveRemote turn.view addrs request
  | .connectionClosed connId => actor.handleConnectionClose connId
  | .scheduledPathOpen => actor.retryOpenPaths turn.view
  | .addressLookupItem item => actor.handleAddressLookupItem turn.view item

/-! ## When a path is selected -/

/-- The turn selects a path: a connection is new, or one that exists tells of an open path, or
gives up a path that is tracked for it. -/
def selects (actor : RemoteStateActor ed) (turn : ActorTurn ed) : Bool :=
  match turn.input with
  | .addConnection _ _ _ => true
  | .pathEvent connId (.established _ path) =>
      path.isSome && turn.view.upgrades connId && (actor.connections.lookup connId).isSome
  | .pathEvent connId (.abandoned pathId) =>
      turn.view.upgrades connId &&
        (pathAt actor.connections connId pathId).isSome
  | _ => false

/-- The connections whose paths the selector is offered: an opened path is added before, and one
that is given up is taken out. -/
def offered (actor : RemoteStateActor ed) (turn : ActorTurn ed) :
    HashMap ConnId (ConnectionState ed) :=
  match turn.input with
  | .addConnection connId isClient pathZero =>
      (actor.connections.erase connId).insert connId <|
        match pathZero with
        | some (some path) => ConnectionState.addOpenPath ⟨isClient, ∅, false⟩ path 0
        | _ => ⟨isClient, ∅, false⟩
  | .pathEvent connId event =>
      match actor.connections.lookup connId, event with
      | some conn, .established pathId (some (some path)) =>
          actor.connections.insert connId (conn.addOpenPath path pathId)
      | some conn, .abandoned pathId =>
          actor.connections.insert connId { conn with paths := conn.paths.erase pathId }
      | _, _ => actor.connections
  | _ => actor.connections

def selection (actor : RemoteStateActor ed) (turn : ActorTurn ed) : Option (FourTuple ed) :=
  choice turn.view { actor with connections := actor.offered turn }

/-! ## The parts of a turn -/

section Frame

variable {view : ActorView ed} {actor recorded : RemoteStateActor ed} {turn : ActorTurn ed}
  {connId : ConnId} {event : PathEvent ed}

theorem step_of_beforeSelect (found : actor.beforeSelect turn = some recorded) :
    actor.step turn = recorded.selectPath turn.view := by
  obtain ⟨view, input⟩ := turn
  cases input with
  | addConnection connId isClient pathZero => simp only [step, found]
  | pathEvent connId event => simp only [step, found]
  | resolveRemote addrs request => cases found
  | connectionClosed connId => cases found
  | scheduledPathOpen => cases found
  | addressLookupItem item => cases found

/-- A path event that is selected for is one of a connection that exists. -/
theorem recordPathEvent_of_beforeSelect
    (found : actor.beforeSelect ⟨view, .pathEvent connId event⟩ = some recorded) :
    ∃ conn, actor.connections.lookup connId = some conn ∧ view.upgrades connId = true ∧
      actor.recordPathEvent view connId conn event = some recorded := by
  simp only [beforeSelect] at found
  split at found
  next conn stored =>
    split at found
    next upgrades => exact ⟨conn, stored, upgrades, found⟩
    next => cases found
  next => cases found

/-- The events after which a path is selected: a path was established, or was but its
addresses could not be told, or one that the connection had was abandoned. -/
inductive Recorded (view : ActorView ed) (connId : ConnId) (conn : ConnectionState ed)
    (actor : RemoteStateActor ed) : PathEvent ed → RemoteStateActor ed → Prop where
  | registered (pathId : PathId) (networkPath : FourTuple ed) :
      Recorded view connId conn actor (.established pathId (some (some networkPath)))
        (actor.registerAndConfigurePath view connId conn pathId networkPath)
  | untold (pathId : PathId) :
      Recorded view connId conn actor (.established pathId (some none)) actor
  | abandoned (pathId : PathId) (networkPath : FourTuple ed)
      (lost : conn.paths.lookup pathId = some networkPath) (paths : RemotePathState ed)
      (marked : paths = actor.paths ∨
        paths = actor.paths.abandonedPath view.now networkPath.remote) :
      Recorded view connId conn actor (.abandoned pathId)
        { actor with
          connections := actor.connections.insert connId
            { conn with paths := conn.paths.erase pathId }
          paths := paths }

theorem recorded_of_recordPathEvent {conn : ConnectionState ed}
    (found : actor.recordPathEvent view connId conn event = some recorded) :
    Recorded view connId conn actor event recorded := by
  unfold recordPathEvent at found
  split at found
  next pathId networkPath =>
    cases found
    exact .registered pathId networkPath
  next pathId =>
    cases found
    exact .untold pathId
  next => cases found
  next pathId =>
    obtain ⟨networkPath, lost, rfl⟩ := Option.map_eq_some_iff.mp found
    exact .abandoned pathId networkPath lost _ (ite_eq_or_eq _ _ _)
  next => cases found
  next => cases found

theorem step_pathEvent_of_skipped
    (skipped : actor.beforeSelect ⟨view, .pathEvent connId event⟩ = none) :
    actor.step ⟨view, .pathEvent connId event⟩ = actor := by
  simp only [step, skipped]

/-- Up to the selection a turn changes nothing but the connections, as its event says, the
addresses and the paths to open. -/
theorem beforeSelect_eq (found : actor.beforeSelect turn = some recorded) :
    actor.selects turn = true ∧ ∃ paths opening, recorded =
      { actor with connections := actor.offered turn, paths := paths, opening := opening } := by
  obtain ⟨view, input⟩ := turn
  cases input with
  | addConnection connId isClient pathZero =>
      cases found
      refine ⟨rfl, ?_⟩
      rcases pathZero with _ | _ | path
      · exact ⟨_, _, rfl⟩
      · exact ⟨_, _, rfl⟩
      · dsimp only [addConnection, registerAndConfigurePath, offered]
        rw [AList.insert_insert]
        split
        · exact ⟨_, _, rfl⟩
        · exact ⟨_, _, rfl⟩
  | pathEvent connId event =>
      obtain ⟨conn, stored, upgrades, recordedEvent⟩ := recordPathEvent_of_beforeSelect found
      cases recorded_of_recordPathEvent recordedEvent with
      | registered pathId networkPath =>
          simp only [selects, offered, stored, upgrades]
          exact ⟨rfl, _, _, rfl⟩
      | untold pathId =>
          simp only [selects, offered, stored, upgrades]
          exact ⟨rfl, _, _, rfl⟩
      | abandoned pathId networkPath lost paths marked =>
          simp only [selects, offered, pathAt, stored, upgrades, Option.bind_some, lost]
          exact ⟨rfl, _, _, rfl⟩
  | resolveRemote addrs request => cases found
  | connectionClosed connId => cases found
  | scheduledPathOpen => cases found
  | addressLookupItem item => cases found

theorem selects_eq_false_of_beforeSelect (skipped : actor.beforeSelect turn = none) :
    actor.selects turn = false := by
  obtain ⟨view, input⟩ := turn
  cases input with
  | addConnection connId isClient pathZero => cases skipped
  | pathEvent connId event =>
      simp only [beforeSelect] at skipped
      cases stored : actor.connections.lookup connId with
      | none => cases event <;> simp [selects, pathAt, stored]
      | some conn =>
          cases upgrades : view.upgrades connId with
          | false => cases event <;> simp [selects, upgrades]
          | true =>
              simp only [stored, upgrades, if_true] at skipped
              cases event with
              | established pathId path =>
                  rcases path with _ | _ | path
                  · rfl
                  · cases skipped
                  · cases skipped
              | abandoned pathId =>
                  simp [selects, pathAt, stored, Option.map_eq_none_iff.mp skipped]
              | lagged => rfl
              | other => rfl
  | _ => rfl

/-- After the trigger a lookup runs, unless a path is selected and none ran before. -/
theorem triggerAddressLookup_eq (actor : RemoteStateActor ed) :
    actor.triggerAddressLookup =
      { actor with
        addressLookupStream := actor.addressLookupStream || actor.selectedPath.isNone } := by
  unfold triggerAddressLookup
  obtain ⟨endpointId, pathSelector, connections, paths, selectedPath, opening, running⟩ := actor
  cases selectedPath <;> cases running <;> rfl

@[simp] theorem connections_triggerAddressLookup :
    actor.triggerAddressLookup.connections = actor.connections := by
  rw [triggerAddressLookup_eq]

@[simp] theorem paths_triggerAddressLookup : actor.triggerAddressLookup.paths = actor.paths := by
  rw [triggerAddressLookup_eq]

@[simp] theorem selectedPath_triggerAddressLookup :
    actor.triggerAddressLookup.selectedPath = actor.selectedPath := by
  rw [triggerAddressLookup_eq]

@[simp] theorem opening_triggerAddressLookup :
    actor.triggerAddressLookup.opening = actor.opening := by
  rw [triggerAddressLookup_eq]

private theorem handleAddressLookupItem_eq (view : ActorView ed) (actor : RemoteStateActor ed)
    (item : Option (Except AddressLookupFailed (AddressLookupItem ed))) :
    ∃ paths running, actor.handleAddressLookupItem view item =
      { actor with paths := paths, addressLookupStream := running } := by
  rcases item with _ | error | item
  · exact ⟨_, _, rfl⟩
  · exact ⟨_, _, rfl⟩
  · simp only [handleAddressLookupItem]
    split
    · exact ⟨actor.paths, actor.addressLookupStream, rfl⟩
    · exact ⟨_, actor.addressLookupStream, rfl⟩

@[simp] theorem connections_handleAddressLookupItem
    (item : Option (Except AddressLookupFailed (AddressLookupItem ed))) :
    (actor.handleAddressLookupItem view item).connections = actor.connections := by
  obtain ⟨paths, running, same⟩ := handleAddressLookupItem_eq view actor item
  rw [same]

@[simp] theorem selectedPath_handleAddressLookupItem
    (item : Option (Except AddressLookupFailed (AddressLookupItem ed))) :
    (actor.handleAddressLookupItem view item).selectedPath = actor.selectedPath := by
  obtain ⟨paths, running, same⟩ := handleAddressLookupItem_eq view actor item
  rw [same]

@[simp] theorem opening_handleAddressLookupItem
    (item : Option (Except AddressLookupFailed (AddressLookupItem ed))) :
    (actor.handleAddressLookupItem view item).opening = actor.opening := by
  obtain ⟨paths, running, same⟩ := handleAddressLookupItem_eq view actor item
  rw [same]

theorem isOpen_handleAddressLookupItem {addr : Addr ed}
    (item : Option (Except AddressLookupFailed (AddressLookupItem ed))) :
    (actor.handleAddressLookupItem view item).paths.IsOpen addr ↔ actor.paths.IsOpen addr := by
  rcases item with _ | error | item
  · exact RemotePathState.isOpen_addressLookupFinished
  · exact RemotePathState.isOpen_addressLookupFinished
  · simp only [handleAddressLookupItem]
    split
    · exact Iff.rfl
    · exact RemotePathState.isOpen_insertMultiple

end Frame

/-- A reply channel is handed over once, a timer fires when it is due, and a lookup
gives results while it runs. -/
def Ready (actor : RemoteStateActor ed) (turn : ActorTurn ed) : Prop :=
  match turn.input with
  | .resolveRemote _ request => request ∉ actor.paths.requests
  | .scheduledPathOpen => ∃ due ∈ actor.opening.scheduledOpenPath, due ≤ turn.view.now
  | .addressLookupItem _ => actor.addressLookupStream = true
  | .addConnection _ _ _ | .pathEvent _ _ | .connectionClosed _ => True

instance (actor : RemoteStateActor ed) (turn : ActorTurn ed) : Decidable (actor.Ready turn) :=
  match turn with
  | ⟨_, .resolveRemote _ request⟩ => inferInstanceAs (Decidable (request ∉ actor.paths.requests))
  | ⟨view, .scheduledPathOpen⟩ =>
      inferInstanceAs (Decidable (∃ due ∈ actor.opening.scheduledOpenPath, due ≤ view.now))
  | ⟨_, .addressLookupItem _⟩ => inferInstanceAs (Decidable (_ = true))
  | ⟨_, .addConnection _ _ _⟩ => inferInstanceAs (Decidable True)
  | ⟨_, .pathEvent _ _⟩ => inferInstanceAs (Decidable True)
  | ⟨_, .connectionClosed _⟩ => inferInstanceAs (Decidable True)

def turns (endpointId : EndpointId ed) (pathSelector : PathSelector ed) :
    Machine (RemoteStateActor ed) (ActorTurn ed) where
  start := new endpointId pathSelector
  Enabled := fun _ actor turn => actor.Ready turn
  step := step

instance (endpointId : EndpointId ed) (pathSelector : PathSelector ed)
    (history : List (ActorTurn ed)) (actor : RemoteStateActor ed) (turn : ActorTurn ed) :
    Decidable ((turns endpointId pathSelector).Enabled history actor turn) :=
  inferInstanceAs (Decidable (actor.Ready turn))

open Relay.Protos in
def defaultTurns :
    Machine (RemoteStateActor Crates.reference.ed25519) (ActorTurn Crates.reference.ed25519) :=
  turns (Crates.smallKey 3 (by decide)) BiasedRttPathSelector.default.toPathSelector

instance (history : List (ActorTurn Relay.Protos.Crates.reference.ed25519))
    (actor : RemoteStateActor Relay.Protos.Crates.reference.ed25519)
    (turn : ActorTurn Relay.Protos.Crates.reference.ed25519) :
    Decidable (defaultTurns.Enabled history actor turn) :=
  inferInstanceAs (Decidable (actor.Ready turn))

end RemoteStateActor

/-- All connections and paths exist and take twenty milliseconds, and all attempts to open a path
end alike. -/
def ActorView.ordinary (now : Instant) (openPathEnsure : OpenPathResult) : ActorView ed where
  now := now
  upgrades := fun _ => true
  hasPath := fun _ _ => true
  rtt := fun _ _ => some 20000000
  openPathEnsure := fun _ _ _ => openPathEnsure
  connectionOrder := .standing
  pathOrder := fun _ => .standing
  addrOrder := .standing

def FourTuple.toPort (port : UInt16) : FourTuple ed := .ip (.v4 0x0a000001#32 port) none

end NexalinkTunnel.Socket
