import NexalinkTunnel.Socket.Relay.HomeRelayWatch

/-!
Contract: the relay actor and the actors of the single relays.

Owns how `RelayActor` starts, informs and reaps the `ActiveRelayActor`s, how it reacts
to the preferred relay of a network report, and what an `ActiveRelayActor` makes of its
inbox and tells the `HomeRelayWatch`.

Does not own: the relay connections with their datagrams and pings, of which only the
outcome counts here, time, and the shutdown of the whole.
-/

namespace NexalinkTunnel.Socket.Relay

open Lib Base

/-! ## The actor of one relay -/

inductive ActiveRelayMessage where
  | checkConnection (localIps : List IpAddr)
  | setHomeRelay (isHome : Bool)
deriving DecidableEq

/-- The run loop that an actor is in, or the wait before it dials again. -/
inductive Activity where
  | dialing
  | connected
  | waiting
deriving DecidableEq

/-- A call of `set_status`, and whether it has found its URL in the watchable. -/
structure StatusUpdate where
  state : RelayConnectionState
  checked : Bool
deriving DecidableEq

inductive Life where
  | running
  | exited
  | joined
deriving DecidableEq

structure ActiveRelayActor where
  url : RelayUrl
  isHomeRelay : Bool
  inbox : List ActiveRelayMessage
  activity : Activity
  /-- The call that the actor is in, before it goes on with its activity. -/
  status : Option StatusUpdate
  life : Life
deriving DecidableEq

inductive ActorStep where
  | statusGet
  | statusSet
  | dial (outcome : Except Nat Unit)
  | lose (error : Nat)
  | retry
  | handle
  | exit (panics : Bool)

namespace ActiveRelayActor

/-- An actor starts with `run_once`, which first says that it connects. -/
def new (url : RelayUrl) : ActiveRelayActor where
  url := url
  isHomeRelay := false
  inbox := []
  activity := .dialing
  status := some ⟨.connecting, false⟩
  life := .running

def report (actor : ActiveRelayActor) (state : RelayConnectionState) (activity : Activity) :
    ActiveRelayActor :=
  { actor with activity := activity, status := some ⟨state, false⟩ }

/-- A connected actor that becomes the home relay publishes that it is connected. -/
def onMessage (actor : ActiveRelayActor) : ActiveRelayMessage → ActiveRelayActor
  | .setHomeRelay isHome =>
      let actor := { actor with isHomeRelay := isHome }
      if isHome && actor.activity == .connected then actor.report .connected .connected else actor
  -- The connection is pinged, or it is lost in a step of its own.
  | .checkConnection _ => actor

def handle (actor : ActiveRelayActor) : Option ActiveRelayActor :=
  match actor.inbox with
  | [] => none
  | message :: inbox => some ({ actor with inbox := inbox }.onMessage message)

def next (watch : HomeRelayWatch) (actor : ActiveRelayActor) (step : ActorStep) :
    Option (HomeRelayWatch × ActiveRelayActor) :=
  match step, actor.status, actor.activity with
  | .statusGet, some ⟨state, false⟩, _ =>
      let found := watch.url = some actor.url
      some (watch, { actor with status := if found then some ⟨state, true⟩ else none })
  | .statusSet, some ⟨state, true⟩, _ =>
      some (watch.set actor.url state, { actor with status := none })
  | .dial (.ok ()), none, .dialing => some (watch, actor.report .connected .connected)
  | .dial (.error error), none, .dialing =>
      some (watch, actor.report (.disconnected (some error)) .waiting)
  | .lose error, none, .connected =>
      some (watch, actor.report (.disconnected (some error)) .waiting)
  | .retry, none, .waiting => some (watch, actor.report .connecting .dialing)
  | .handle, none, .dialing => actor.handle.map fun actor => (watch, actor)
  | .handle, none, .connected => actor.handle.map fun actor => (watch, actor)
  -- An actor that is not home exits when it is inactive.
  | .exit false, none, .dialing | .exit false, none, .connected =>
      if actor.isHomeRelay then none else some (watch, { actor with life := .exited })
  | .exit true, _, _ => some (watch, { actor with life := .exited })
  | _, _, _ => none

end ActiveRelayActor

abbrev ActorId := Nat

inductive Broadcast where
  /-- In `set_home_relay`. -/
  | home (url : RelayUrl)
  /-- In `send_check_connection`. -/
  | check (localIps : List IpAddr)
deriving DecidableEq

def Broadcast.message (url : RelayUrl) : Broadcast → ActiveRelayMessage
  | .home preferred => .setHomeRelay (url == preferred)
  | .check localIps => .checkConnection localIps

inductive RelayActorPhase where
  | idle
  /-- In `on_network_change`, with a preferred relay that is not the one it read. -/
  | changing (preferred : Option RelayUrl)
  /-- Waiting until it has sent to the actors of `pending`. -/
  | sending (pending : List (RelayUrl × ActorId)) (broadcast : Broadcast)
deriving DecidableEq

structure RelayActor where
  myRelay : HomeRelayWatch
  activeRelays : List (RelayUrl × ActorId)
  /-- All actors that were started. -/
  actors : List ActiveRelayActor
  phase : RelayActorPhase

inductive RelayStep where
  | networkChange (preferredRelay : Option RelayUrl)
  | publish
  | send (index : Nat)
  | sent
  | checkConnection (localIps : List IpAddr)
  /-- A datagram for an endpoint on `url`, which the relay `route` may know already. -/
  | sendDatagram (url : RelayUrl) (route : Option RelayUrl)
  | reap (id : ActorId)
  | actor (id : ActorId) (step : ActorStep)

namespace RelayActor

def inboxCapacity : Nat := 64

def new : RelayActor where
  myRelay := .default
  activeRelays := []
  actors := []
  phase := .idle

/-- `active_relay_handle`: an actor for `url`. A new one is told if it is home. -/
def activeRelayHandle (relay : RelayActor) (url : RelayUrl) : RelayActor :=
  if relay.activeRelays.any (·.1 == url) then relay
  else
    let inbox := if relay.myRelay.url = some url then [.setHomeRelay true] else []
    { relay with
      actors := relay.actors ++ [{ ActiveRelayActor.new url with inbox := inbox }]
      activeRelays := relay.activeRelays ++ [(url, relay.actors.length)] }

/-- `on_network_change` from its write on, and up to the sends of `set_home_relay`. -/
def publish (relay : RelayActor) : Option RelayUrl → RelayActor
  | some url =>
      { relay with
        myRelay := relay.myRelay.set url .connecting
        phase := .sending relay.activeRelays (.home url) }
  | none => { relay with myRelay := relay.myRelay.clear, phase := .idle }

/-- One of the sends. It waits for room, and fails if the actor is gone. -/
def deliver (relay : RelayActor) (id : ActorId) (message : ActiveRelayMessage) :
    Option RelayActor :=
  match relay.actors[id]? with
  | some actor =>
      if actor.life = .running then
        if actor.inbox.length < inboxCapacity then
          some { relay with
            actors := relay.actors.set id { actor with inbox := actor.inbox ++ [message] } }
        else none
      else some relay
  | none => some relay

def activeRelayHandleForEndpoint (relay : RelayActor) (url : RelayUrl)
    (route : Option RelayUrl) : RelayActor :=
  if relay.activeRelays.any (·.1 == url) then relay else relay.activeRelayHandle (route.getD url)

/-- The inbox of an actor is closed when its task has ended. -/
def isClosed (relay : RelayActor) (id : ActorId) : Bool :=
  match relay.actors[id]? with
  | some actor => actor.life != .running
  | none => true

def reapActiveRelays (relay : RelayActor) : RelayActor :=
  let relay :=
    { relay with activeRelays := relay.activeRelays.filter fun handle => !relay.isClosed handle.2 }
  match relay.myRelay.get with
  | some status => relay.activeRelayHandle status.url
  | none => relay

def next (relay : RelayActor) (step : RelayStep) : Option RelayActor :=
  match step, relay.phase with
  | .networkChange preferred, .idle =>
      some (if preferred = relay.myRelay.url then relay
        else { relay with phase := .changing preferred })
  | .publish, .changing preferred => some (relay.publish preferred)
  | .send index, .sending pending broadcast =>
      match pending[index]? with
      | some (url, id) =>
          (relay.deliver id (broadcast.message url)).map fun relay =>
            { relay with phase := .sending (pending.eraseIdx index) broadcast }
      | none => none
  -- `set_home_relay` ends with making sure that the home relay has an actor.
  | .sent, .sending [] (.home url) => some ({ relay with phase := .idle }.activeRelayHandle url)
  | .sent, .sending [] (.check _) => some { relay with phase := .idle }
  | .checkConnection localIps, .idle =>
      some { relay with phase := .sending relay.activeRelays (.check localIps) }
  | .sendDatagram url route, .idle =>
      if route.all fun route => relay.activeRelays.any (·.1 == route) then
        some (relay.activeRelayHandleForEndpoint url route)
      else none
  | .reap id, .idle =>
      match relay.actors[id]? with
      | some actor =>
          if actor.life = .exited then
            some { relay with
              actors := relay.actors.set id { actor with life := .joined } }.reapActiveRelays
          else none
      | none => none
  | .actor id step, _ =>
      match relay.actors[id]? with
      | some actor =>
          if actor.life = .running then
            (actor.next relay.myRelay step).map fun (watch, actor) =>
              { relay with myRelay := watch, actors := relay.actors.set id actor }
          else none
      | none => none
  | _, _ => none

end RelayActor

abbrev relayActor : Machine RelayActor RelayStep := .ofNext .new RelayActor.next

end NexalinkTunnel.Socket.Relay
