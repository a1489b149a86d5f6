import NexalinkTunnel.Socket.Relay.Actor

/-!
Contract: which actors take their relay for the home relay.

Owns the relation between the flags of the `ActiveRelayActor`s and the URL in
`my_relay`, over all runs of the relay actor.

## Where the flags are left behind

Each change to a preferred relay is followed by a message to every actor. A change to
no preferred relay is not: `my_relay` is cleared, and the actor of the old home relay
keeps its flag. A status update that writes a URL that is no longer the home relay's
separates the two as well.
-/

namespace NexalinkTunnel.Socket.Relay

open Lib Base

/-! ## What an actor will take itself for -/

namespace ActiveRelayActor

/-- The flag of an actor once it has handled `messages`. -/
def homeAfter (actor : ActiveRelayActor) (messages : List ActiveRelayMessage) : Bool :=
  (messages.foldl onMessage actor).isHomeRelay

variable {actor other : ActiveRelayActor} {messages more : List ActiveRelayMessage}

theorem isHomeRelay_onMessage (actor : ActiveRelayActor) (message : ActiveRelayMessage) :
    (actor.onMessage message).isHomeRelay =
      match message with
      | .setHomeRelay isHome => isHome
      | .checkConnection _ => actor.isHomeRelay := by
  cases message with
  | checkConnection localIps => rfl
  | setHomeRelay isHome =>
      simp only [onMessage]
      split <;> rfl

private theorem onMessage_keeps (actor : ActiveRelayActor) (message : ActiveRelayMessage) :
    (actor.onMessage message).url = actor.url ∧ (actor.onMessage message).life = actor.life ∧
      (actor.onMessage message).inbox = actor.inbox := by
  cases message with
  | checkConnection localIps => exact ⟨rfl, rfl, rfl⟩
  | setHomeRelay isHome =>
      simp only [onMessage]
      split <;> exact ⟨rfl, rfl, rfl⟩

private theorem homeAfter_congr (same : actor.isHomeRelay = other.isHomeRelay)
    (messages : List ActiveRelayMessage) : actor.homeAfter messages = other.homeAfter messages := by
  induction messages generalizing actor other with
  | nil => exact same
  | cons message messages inductionHypothesis =>
      apply inductionHypothesis
      rw [isHomeRelay_onMessage, isHomeRelay_onMessage, same]

theorem homeAfter_append_singleton (actor : ActiveRelayActor)
    (messages : List ActiveRelayMessage) (message : ActiveRelayMessage) :
    actor.homeAfter (messages ++ [message]) =
      match message with
      | .setHomeRelay isHome => isHome
      | .checkConnection _ => actor.homeAfter messages := by
  unfold homeAfter
  rw [List.foldl_append]
  exact isHomeRelay_onMessage _ message

private theorem homeAfter_append_twice (actor : ActiveRelayActor)
    (messages : List ActiveRelayMessage) (message : ActiveRelayMessage) :
    actor.homeAfter (messages ++ [message] ++ [message]) =
      actor.homeAfter (messages ++ [message]) := by
  rw [homeAfter_append_singleton, homeAfter_append_singleton]
  cases message <;> rfl

end ActiveRelayActor

def ActorStep.writes : ActorStep → Bool
  | .statusSet => true
  | _ => false

namespace RelayActor

/-- What the relay actor is still sending to the actor `id` of `url`. -/
def pendingFor (relay : RelayActor) (id : ActorId) (url : RelayUrl) : List ActiveRelayMessage :=
  match relay.phase with
  | .sending pending broadcast =>
      if pending.any (·.2 == id) then [broadcast.message url] else []
  | .idle | .changing _ => []

/-- Once all messages are handled, those that are in the inboxes and those that are being
sent, a running actor takes its relay for the home relay exactly if `my_relay` names it. -/
def HomeAgrees (relay : RelayActor) : Prop :=
  ∀ (id : ActorId) (actor : ActiveRelayActor), relay.actors[id]? = some actor →
    actor.life = .running →
    (actor.homeAfter (actor.inbox ++ relay.pendingFor id actor.url) = true ↔
      relay.myRelay.url = some actor.url)

/-- The relay actor knows how to reach every running actor. -/
structure Wired (relay : RelayActor) : Prop where
  listed : ∀ (id : ActorId) (actor : ActiveRelayActor), relay.actors[id]? = some actor →
    actor.life = .running → (actor.url, id) ∈ relay.activeRelays
  started : ∀ (url : RelayUrl) (id : ActorId), (url, id) ∈ relay.activeRelays →
    ∃ actor : ActiveRelayActor, relay.actors[id]? = some actor ∧ actor.url = url
  pending : ∀ pending broadcast, relay.phase = .sending pending broadcast →
    pending ⊆ relay.activeRelays

variable {relay after : RelayActor} {id : ActorId} {actor later : ActiveRelayActor}

private theorem getElem?_set_cases {actors : List ActiveRelayActor} {other : ActorId}
    {found : ActiveRelayActor} (listed : (actors.set id later)[other]? = some found) :
    other = id ∧ found = later ∨ other ≠ id ∧ actors[other]? = some found := by
  by_cases same : other = id
  · subst same
    rw [List.getElem?_set_self'] at listed
    obtain ⟨_, -, rfl⟩ := Option.map_eq_some_iff.mp listed
    exact .inl ⟨rfl, rfl⟩
  · rw [List.getElem?_set_ne (Ne.symm same)] at listed
    exact .inr ⟨same, listed⟩

private theorem Wired.keeps (wired : relay.Wired) (actors : after.actors = relay.actors)
    (handles : after.activeRelays = relay.activeRelays)
    (pending : ∀ pending broadcast, after.phase = .sending pending broadcast →
      pending ⊆ relay.activeRelays) : after.Wired where
  listed := by
    rw [actors, handles]
    exact wired.listed
  started := by
    rw [actors, handles]
    exact wired.started
  pending := by
    rw [handles]
    exact pending

private theorem Wired.replace (wired : relay.Wired) (found : relay.actors[id]? = some actor)
    (actors : after.actors = relay.actors.set id later)
    (handles : after.activeRelays = relay.activeRelays) (url : later.url = actor.url)
    (life : later.life = .running → actor.life = .running)
    (pending : ∀ pending broadcast, after.phase = .sending pending broadcast →
      pending ⊆ relay.activeRelays) : after.Wired where
  listed := by
    rw [actors, handles]
    intro other listed here running
    rcases getElem?_set_cases here with ⟨rfl, rfl⟩ | ⟨-, here⟩
    · rw [url]
      exact wired.listed other actor found (life running)
    · exact wired.listed other listed here running
  started := by
    rw [actors, handles]
    intro name other handle
    obtain ⟨listed, here, same⟩ := wired.started name other handle
    by_cases own : other = id
    · subst own
      cases found.symm.trans here
      exact ⟨later, by rw [List.getElem?_set_self', found]; rfl, url.trans same⟩
    · exact ⟨listed, by rw [List.getElem?_set_ne (Ne.symm own)]; exact here, same⟩
  pending := by
    rw [handles]
    exact pending

private theorem HomeAgrees.replace (agrees : relay.HomeAgrees)
    (found : relay.actors[id]? = some actor)
    (actors : after.actors = relay.actors.set id later) (url : later.url = actor.url)
    (watch : after.myRelay.url = relay.myRelay.url)
    (own : later.life = .running → actor.life = .running ∧
      later.homeAfter (later.inbox ++ after.pendingFor id actor.url) =
        actor.homeAfter (actor.inbox ++ relay.pendingFor id actor.url))
    (others : ∀ other url, other ≠ id → after.pendingFor other url = relay.pendingFor other url) :
    after.HomeAgrees := by
  intro other listed here running
  rw [actors] at here
  rw [watch]
  rcases getElem?_set_cases here with ⟨rfl, rfl⟩ | ⟨different, here⟩
  · rw [url, (own running).2]
    exact agrees other actor found (own running).1
  · rw [others other listed.url different]
    exact agrees other listed here running

theorem pendingFor_of_idle (idle : relay.phase = .idle) (id : ActorId) (url : RelayUrl) :
    relay.pendingFor id url = [] := by
  rw [pendingFor, idle]

private theorem pendingFor_of_sent {broadcast : Broadcast}
    (sent : relay.phase = .sending [] broadcast)
    (id : ActorId) (url : RelayUrl) : relay.pendingFor id url = [] := by
  rw [pendingFor, sent]
  rfl

private theorem HomeAgrees.proceeds (agrees : relay.HomeAgrees)
    (actors : after.actors = relay.actors) (watch : after.myRelay = relay.myRelay)
    (same : ∀ (id : ActorId) (actor : ActiveRelayActor),
      actor.homeAfter (actor.inbox ++ after.pendingFor id actor.url) =
        actor.homeAfter (actor.inbox ++ relay.pendingFor id actor.url)) : after.HomeAgrees := by
  intro id actor listed running
  rw [actors] at listed
  rw [same, watch]
  exact agrees id actor listed running

private theorem homeAfter_check {pending : List (RelayUrl × ActorId)} {localIps : List IpAddr}
    (idle : relay.phase = .idle) (checks : after.phase = .sending pending (.check localIps))
    (id : ActorId) (actor : ActiveRelayActor) :
    actor.homeAfter (actor.inbox ++ after.pendingFor id actor.url) =
      actor.homeAfter (actor.inbox ++ relay.pendingFor id actor.url) := by
  rw [pendingFor_of_idle idle, List.append_nil, pendingFor, checks]
  dsimp only
  split
  · exact actor.homeAfter_append_singleton actor.inbox _
  · rw [List.append_nil]

/-! ## Starting and reaping actors -/

private theorem getElem?_append_cases {actors : List ActiveRelayActor} {position : Nat}
    (listed : (actors ++ [later])[position]? = some actor) :
    position = actors.length ∧ actor = later ∨ actors[position]? = some actor := by
  rw [List.getElem?_append] at listed
  split at listed
  · exact .inr listed
  next outside =>
      obtain ⟨last, same⟩ := List.getElem?_eq_some_iff.mp listed
      rw [List.length_singleton] at last
      exact .inl ⟨by omega, by simpa using same.symm⟩

private theorem Wired.start (wired : relay.Wired) (idle : after.phase = .idle)
    (actors : after.actors = relay.actors ++ [later])
    (handles : after.activeRelays = relay.activeRelays ++ [(later.url, relay.actors.length)]) :
    after.Wired where
  listed := by
    rw [actors, handles]
    intro id actor listed running
    rcases getElem?_append_cases listed with ⟨rfl, rfl⟩ | listed
    · exact List.mem_append_right _ (List.mem_singleton.mpr rfl)
    · exact List.mem_append_left _ (wired.listed id actor listed running)
  started := by
    rw [actors, handles]
    intro url id handle
    rcases List.mem_append.mp handle with old | new
    · obtain ⟨actor, listed, same⟩ := wired.started url id old
      have inside := (List.getElem?_eq_some_iff.mp listed).1
      exact ⟨actor, by rw [List.getElem?_append_left inside]; exact listed, same⟩
    · cases List.mem_singleton.mp new
      exact ⟨later, List.getElem?_concat_length, rfl⟩
  pending := by simp [idle]

private theorem HomeAgrees.start (agrees : relay.HomeAgrees) (idle : relay.phase = .idle)
    (phase : after.phase = relay.phase) (actors : after.actors = relay.actors ++ [later])
    (watch : after.myRelay = relay.myRelay)
    (own : later.homeAfter later.inbox = true ↔ relay.myRelay.url = some later.url) :
    after.HomeAgrees := by
  intro id actor listed running
  rw [actors] at listed
  rw [pendingFor_of_idle (phase.trans idle), List.append_nil, watch]
  rcases getElem?_append_cases listed with ⟨-, rfl⟩ | listed
  · exact own
  · have old := agrees id actor listed running
    rw [pendingFor_of_idle idle, List.append_nil] at old
    exact old

theorem Wired.activeRelayHandle (wired : relay.Wired) (idle : relay.phase = .idle)
    (url : RelayUrl) : (relay.activeRelayHandle url).Wired := by
  unfold RelayActor.activeRelayHandle
  split
  · exact wired
  · exact wired.start idle rfl rfl

private theorem HomeAgrees.activeRelayHandle (agrees : relay.HomeAgrees)
    (idle : relay.phase = .idle) (url : RelayUrl) : (relay.activeRelayHandle url).HomeAgrees := by
  unfold RelayActor.activeRelayHandle
  split
  · exact agrees
  · refine agrees.start idle rfl rfl rfl ?_
    dsimp only [ActiveRelayActor.new]
    split
    next home => exact iff_of_true rfl home
    next other => exact iff_of_false Bool.false_ne_true other

private theorem Wired.filter (wired : relay.Wired) (idle : relay.phase = .idle) :
    Wired { relay with
      activeRelays := relay.activeRelays.filter fun handle => !relay.isClosed handle.2 } where
  listed := by
    intro id actor listed running
    refine List.mem_filter.mpr ⟨wired.listed id actor listed running, ?_⟩
    simp only [isClosed]
    rw [listed]
    simp [running]
  started := fun url id handle => wired.started url id (List.mem_of_mem_filter handle)
  pending := by simp [idle]

private theorem Wired.reapActiveRelays (wired : relay.Wired) (idle : relay.phase = .idle) :
    relay.reapActiveRelays.Wired := by
  unfold RelayActor.reapActiveRelays
  dsimp only
  split
  · exact (wired.filter idle).activeRelayHandle idle _
  · exact wired.filter idle

private theorem HomeAgrees.reapActiveRelays (agrees : relay.HomeAgrees)
    (idle : relay.phase = .idle) :
    relay.reapActiveRelays.HomeAgrees := by
  have filtered : HomeAgrees { relay with
      activeRelays := relay.activeRelays.filter fun handle => !relay.isClosed handle.2 } := agrees
  unfold RelayActor.reapActiveRelays
  dsimp only
  split
  · exact filtered.activeRelayHandle idle _
  · exact filtered

/-! ## Changing the home relay -/

private theorem Wired.homeAgrees_publish (wired : relay.Wired) (url : RelayUrl) :
    (relay.publish (some url)).HomeAgrees := by
  intro id actor listed running
  have known : relay.activeRelays.any (·.2 == id) = true :=
    List.any_eq_true.mpr ⟨_, wired.listed id actor listed running, by simp⟩
  have pending : (relay.publish (some url)).pendingFor id actor.url =
      [.setHomeRelay (actor.url == url)] := by
    simp only [publish, pendingFor]
    rw [if_pos known]
    rfl
  rw [pending, ActiveRelayActor.homeAfter_append_singleton]
  show (actor.url == url) = true ↔ some url = some actor.url
  rw [beq_iff_eq, Option.some_inj]
  exact eq_comm

private theorem homeAgrees_publish_none_iff :
    (relay.publish none).HomeAgrees ↔
      ∀ actor ∈ relay.actors, actor.life = .running → actor.homeAfter actor.inbox = false := by
  have cleared : ∀ (id : ActorId) (actor : ActiveRelayActor),
      (actor.homeAfter (actor.inbox ++ (relay.publish none).pendingFor id actor.url) = true ↔
        (relay.publish none).myRelay.url = some actor.url) ↔
      actor.homeAfter actor.inbox = false := by
    intro id actor
    rw [pendingFor_of_idle rfl, List.append_nil]
    simp [publish]
  constructor
  · intro agrees actor inside running
    obtain ⟨id, listed⟩ := List.mem_iff_getElem?.mp inside
    exact (cleared id actor).mp (agrees id actor listed running)
  · intro none id actor listed running
    exact (cleared id actor).mpr (none actor (List.mem_of_getElem? listed) running)

section Sending

variable {pending : List (RelayUrl × ActorId)} {broadcast : Broadcast} {index : Nat}
  {url : RelayUrl}

private theorem pendingFor_eraseIdx_of_ne (sending : relay.phase = .sending pending broadcast)
    (sent : after.phase = .sending (pending.eraseIdx index) broadcast)
    (found : pending[index]? = some (url, id)) {other : ActorId} (different : other ≠ id)
    (name : RelayUrl) : after.pendingFor other name = relay.pendingFor other name := by
  have same : (pending.eraseIdx index).any (·.2 == other) = pending.any (·.2 == other) := by
    rw [Bool.eq_iff_iff, List.any_eq_true, List.any_eq_true]
    constructor
    · rintro ⟨handle, inside, own⟩
      exact ⟨handle, List.mem_of_mem_eraseIdx inside, own⟩
    · rintro ⟨handle, inside, own⟩
      obtain ⟨position, listed⟩ := List.mem_iff_getElem?.mp inside
      refine ⟨handle, List.mem_eraseIdx_iff_getElem?.mpr ⟨position, ?_, listed⟩, own⟩
      rintro rfl
      cases found.symm.trans listed
      exact different (beq_iff_eq.mp own).symm
  rw [pendingFor, pendingFor, sending, sent]
  simp only [same]

private theorem homeAfter_sent (sending : relay.phase = .sending pending broadcast)
    (sent : after.phase = .sending (pending.eraseIdx index) broadcast)
    (found : pending[index]? = some (url, id)) (named : actor.url = url)
    (same : later.isHomeRelay = actor.isHomeRelay)
    (inbox : later.inbox = actor.inbox ++ [broadcast.message url]) :
    later.homeAfter (later.inbox ++ after.pendingFor id actor.url) =
      actor.homeAfter (actor.inbox ++ relay.pendingFor id actor.url) := by
  have before : relay.pendingFor id actor.url = [broadcast.message url] := by
    have listed : pending.any (·.2 == id) = true :=
      List.any_eq_true.mpr ⟨_, List.mem_of_getElem? found, beq_self_eq_true id⟩
    rw [pendingFor, sending, named]
    simp only [listed, if_true]
  rw [ActiveRelayActor.homeAfter_congr same, before, inbox]
  rw [pendingFor, sent, named]
  dsimp only
  split
  · exact actor.homeAfter_append_twice actor.inbox _
  · rw [List.append_nil]

private theorem Wired.send {between : RelayActor} (wired : relay.Wired)
    (sending : relay.phase = .sending pending broadcast)
    (found : pending[index]? = some (url, id))
    (delivered : relay.deliver id (broadcast.message url) = some between)
    (ends : after = { between with phase := .sending (pending.eraseIdx index) broadcast }) :
    after.Wired ∧ (relay.HomeAgrees → after.HomeAgrees) := by
  have handle := wired.pending pending broadcast sending (List.mem_of_getElem? found)
  obtain ⟨actor, listed, named⟩ := wired.started url id handle
  have fewer : ∀ left other, RelayActorPhase.sending (pending.eraseIdx index) broadcast =
      .sending left other → left ⊆ relay.activeRelays := by
    rintro left other ⟨⟩
    exact fun entry inside =>
      wired.pending pending broadcast sending (List.mem_of_mem_eraseIdx inside)
  simp only [deliver, listed] at delivered
  subst ends
  split at delivered
  next running =>
      split at delivered <;> cases delivered
      constructor
      · exact wired.replace listed rfl rfl rfl (fun same => same) fewer
      · intro agrees
        refine agrees.replace listed rfl rfl rfl ?_ ?_
        · exact fun _ => ⟨running, homeAfter_sent sending rfl found named rfl rfl⟩
        · exact fun other name different =>
            pendingFor_eraseIdx_of_ne sending rfl found different name
  next gone =>
      cases delivered
      refine ⟨wired.keeps rfl rfl fewer, ?_⟩
      intro agrees other there here running
      have different : other ≠ id := by
        rintro rfl
        cases here.symm.trans listed
        exact gone running
      rw [pendingFor_eraseIdx_of_ne sending rfl found different]
      exact agrees other there here running

end Sending

/-! ## The steps of an actor -/

inductive ActorMoves (watch : HomeRelayWatch) (actor : ActiveRelayActor) :
    ActorStep → HomeRelayWatch → ActiveRelayActor → Prop where
  | writes {state : RelayConnectionState} :
      ActorMoves watch actor .statusSet (watch.set actor.url state) { actor with status := none }
  | proceeds {step : ActorStep} {later : ActiveRelayActor} : step.writes = false →
      later.url = actor.url → later.life = actor.life →
      (∀ more, later.homeAfter (later.inbox ++ more) = actor.homeAfter (actor.inbox ++ more)) →
      ActorMoves watch actor step watch later
  | exits {panics : Bool} :
      ActorMoves watch actor (.exit panics) watch { actor with life := .exited }

private theorem actorMoves_of_same {watch : HomeRelayWatch} {step : ActorStep}
    (writes : step.writes = false) (url : later.url = actor.url) (life : later.life = actor.life)
    (home : later.isHomeRelay = actor.isHomeRelay) (inbox : later.inbox = actor.inbox) :
    ActorMoves watch actor step watch later := by
  refine .proceeds writes url life ?_
  intro more
  rw [inbox]
  exact ActiveRelayActor.homeAfter_congr home _

private theorem actorMoves_of_handle {watch : HomeRelayWatch}
    (handled : actor.handle = some later) :
    ActorMoves watch actor .handle watch later := by
  unfold ActiveRelayActor.handle at handled
  split at handled
  next => cases handled
  next message inbox first =>
      cases handled
      obtain ⟨url, life, left⟩ := { actor with inbox := inbox }.onMessage_keeps message
      refine .proceeds rfl url life ?_
      intro more
      have flags : ({ actor with inbox := inbox }.onMessage message).isHomeRelay =
          (actor.onMessage message).isHomeRelay := by
        rw [ActiveRelayActor.isHomeRelay_onMessage, ActiveRelayActor.isHomeRelay_onMessage]
      rw [left, first]
      exact ActiveRelayActor.homeAfter_congr flags _

private theorem actorMoves_of_next {watch written : HomeRelayWatch} {step : ActorStep}
    (stepped : actor.next watch step = some (written, later)) :
    ActorMoves watch actor step written later := by
  unfold ActiveRelayActor.next at stepped
  split at stepped
  next =>
      cases stepped
      exact actorMoves_of_same rfl rfl rfl rfl rfl
  next =>
      cases stepped
      exact .writes
  next =>
      cases stepped
      exact actorMoves_of_same rfl rfl rfl rfl rfl
  next =>
      cases stepped
      exact actorMoves_of_same rfl rfl rfl rfl rfl
  next =>
      cases stepped
      exact actorMoves_of_same rfl rfl rfl rfl rfl
  next =>
      cases stepped
      exact actorMoves_of_same rfl rfl rfl rfl rfl
  next =>
      obtain ⟨handled, found, same⟩ := Option.map_eq_some_iff.mp stepped
      cases same
      exact actorMoves_of_handle found
  next =>
      obtain ⟨handled, found, same⟩ := Option.map_eq_some_iff.mp stepped
      cases same
      exact actorMoves_of_handle found
  next =>
      split at stepped <;> cases stepped
      exact .exits
  next =>
      split at stepped <;> cases stepped
      exact .exits
  next =>
      cases stepped
      exact .exits
  next => cases stepped

private theorem Wired.actorMoves {watch : HomeRelayWatch} {step : ActorStep} (wired : relay.Wired)
    (found : relay.actors[id]? = some actor)
    (moves : ActorMoves relay.myRelay actor step watch later) :
    Wired { relay with myRelay := watch, actors := relay.actors.set id later } := by
  cases moves with
  | writes => exact wired.replace found rfl rfl rfl (fun same => same) wired.pending
  | proceeds _ url life _ =>
      exact wired.replace found rfl rfl url (fun running => life.symm.trans running) wired.pending
  | exits => exact wired.replace found rfl rfl rfl (fun running => nomatch running) wired.pending

end RelayActor

/-! ## The flags and the watchable -/

/-- The home relay is cleared only when no running actor takes itself for home, and a
status update does not change the URL. -/
def HomeKept (_ : List RelayStep) (relay : RelayActor) : RelayStep → Prop
  | .publish => relay.phase = .changing none →
      ∀ actor ∈ relay.actors, actor.life = .running → actor.homeAfter actor.inbox = false
  | .actor id .statusSet => ∀ actor ∈ relay.actors[id]?, relay.myRelay.url = some actor.url
  | _ => True

namespace RelayActor

variable {relay after : RelayActor} {id : ActorId} {actor later : ActiveRelayActor}

private theorem homeKept_of_proceeds {history : List RelayStep} {step : ActorStep}
    (writes : step.writes = false) : HomeKept history relay (.actor id step) := by
  cases step with
  | statusSet => cases writes
  | _ => trivial

/-- A step of an actor keeps the flags right exactly if it does not change the URL. -/
theorem HomeAgrees.actorMoves_iff {history : List RelayStep} {watch : HomeRelayWatch}
    {step : ActorStep} (agrees : relay.HomeAgrees) (found : relay.actors[id]? = some actor)
    (running : actor.life = .running) (moves : ActorMoves relay.myRelay actor step watch later) :
    HomeAgrees { relay with myRelay := watch, actors := relay.actors.set id later } ↔
      HomeKept history relay (.actor id step) := by
  cases moves with
  | @writes state =>
      have kept : HomeKept history relay (.actor id .statusSet) ↔
          relay.myRelay.url = some actor.url := by
        simp [HomeKept, found]
      have flags : ∀ messages, { actor with status := none }.homeAfter messages =
          actor.homeAfter messages := ActiveRelayActor.homeAfter_congr rfl
      rw [kept]
      constructor
      · intro later
        -- The writer itself is running, and so it had to be home before.
        have here : (relay.actors.set id { actor with status := none })[id]? =
            some { actor with status := none } := by
          rw [List.getElem?_set_self', found]
          rfl
        have own := later id _ here running
        rw [flags] at own
        exact (agrees id actor found running).mp (own.mpr rfl)
      · intro same
        exact agrees.replace found rfl rfl same.symm (fun _ => ⟨running, flags _⟩)
          fun _ _ _ => rfl
  | proceeds writes url life homes =>
      refine iff_of_true ?_ (homeKept_of_proceeds writes)
      exact agrees.replace found rfl url rfl (fun _ => ⟨running, homes _⟩) fun _ _ _ => rfl
  | exits =>
      refine iff_of_true ?_ (homeKept_of_proceeds rfl)
      exact agrees.replace found rfl rfl rfl (fun still => nomatch still) fun _ _ _ => rfl

/-- The relay actor still reaches the running actors, and the flags stay right. -/
def Keeps (relay after : RelayActor) : Prop := after.Wired ∧ (relay.HomeAgrees → after.HomeAgrees)

private theorem Wired.networkChange (wired : relay.Wired) (idle : relay.phase = .idle)
    (preferred : Option RelayUrl) :
    relay.Keeps (if preferred = relay.myRelay.url then relay
      else { relay with phase := .changing preferred }) := by
  split
  · exact ⟨wired, id⟩
  · refine ⟨wired.keeps rfl rfl nofun, fun agrees => agrees.proceeds rfl rfl fun id actor => ?_⟩
    rw [pendingFor_of_idle idle]
    rfl

private theorem Wired.publish {history : List RelayStep} {preferred : Option RelayUrl}
    (wired : relay.Wired) (changing : relay.phase = .changing preferred) :
    (relay.publish preferred).Wired ∧
      ((relay.publish preferred).HomeAgrees ↔ HomeKept history relay .publish) := by
  cases preferred with
  | some url =>
      refine ⟨wired.keeps rfl rfl ?_, iff_of_true (wired.homeAgrees_publish url) ?_⟩
      · rintro pending broadcast ⟨⟩
        exact List.Subset.refl _
      · intro none
        rw [changing] at none
        cases none
  | none =>
      refine ⟨wired.keeps rfl rfl nofun, ?_⟩
      rw [homeAgrees_publish_none_iff]
      simp [HomeKept, changing]

private theorem Wired.sent {broadcast : Broadcast} (wired : relay.Wired)
    (sent : relay.phase = .sending [] broadcast) : relay.Keeps { relay with phase := .idle } := by
  refine ⟨wired.keeps rfl rfl nofun, fun agrees => agrees.proceeds rfl rfl fun id actor => ?_⟩
  rw [pendingFor_of_sent sent]
  rfl

private theorem Wired.sentHome {home : RelayUrl} (wired : relay.Wired)
    (sent : relay.phase = .sending [] (.home home)) :
    relay.Keeps ({ relay with phase := .idle }.activeRelayHandle home) := by
  obtain ⟨idle, kept⟩ := wired.sent sent
  exact ⟨idle.activeRelayHandle rfl home, fun agrees => (kept agrees).activeRelayHandle rfl home⟩

private theorem Wired.checkConnection (wired : relay.Wired) (idle : relay.phase = .idle)
    (localIps : List IpAddr) :
    relay.Keeps { relay with phase := .sending relay.activeRelays (.check localIps) } := by
  refine ⟨wired.keeps rfl rfl ?_, fun agrees => ?_⟩
  · rintro pending broadcast ⟨⟩
    exact List.Subset.refl _
  · exact agrees.proceeds rfl rfl (homeAfter_check idle rfl)

private theorem Wired.sendDatagram (wired : relay.Wired) (idle : relay.phase = .idle)
    (url : RelayUrl) (route : Option RelayUrl) :
    relay.Keeps (relay.activeRelayHandleForEndpoint url route) := by
  unfold activeRelayHandleForEndpoint
  split
  · exact ⟨wired, id⟩
  · exact ⟨wired.activeRelayHandle idle _, fun agrees => agrees.activeRelayHandle idle _⟩

private theorem Wired.reap (wired : relay.Wired) (idle : relay.phase = .idle)
    (found : relay.actors[id]? = some actor) :
    relay.Keeps { relay with
      actors := relay.actors.set id { actor with life := .joined } }.reapActiveRelays := by
  have joined : Wired { relay with
      actors := relay.actors.set id { actor with life := .joined } } :=
    wired.replace found rfl rfl rfl nofun wired.pending
  refine ⟨joined.reapActiveRelays idle, fun agrees => ?_⟩
  exact HomeAgrees.reapActiveRelays
    (agrees.replace found rfl rfl rfl nofun fun _ _ _ => rfl) idle

/-- What is so after every step: the relay actor reaches the running actors, and the
flags stay right exactly if the step respects `HomeKept`. -/
theorem next_moves {history : List RelayStep} {step : RelayStep} (wired : relay.Wired)
    (stepped : relay.next step = some after) :
    after.Wired ∧
      (relay.HomeAgrees → (after.HomeAgrees ↔ HomeKept history relay step)) := by
  have of_keeps (kept : HomeKept history relay step) (keeps : relay.Keeps after) :
      after.Wired ∧ (relay.HomeAgrees → (after.HomeAgrees ↔ HomeKept history relay step)) :=
    ⟨keeps.1, fun agrees => iff_of_true (keeps.2 agrees) kept⟩
  unfold next at stepped
  split at stepped
  next preferred idle =>
      cases stepped
      exact of_keeps trivial (wired.networkChange idle preferred)
  next preferred changing =>
      cases stepped
      obtain ⟨wiredAfter, agrees⟩ := wired.publish changing
      exact ⟨wiredAfter, fun _ => agrees⟩
  next index pending broadcast sending =>
      split at stepped
      next url id found =>
          obtain ⟨between, delivered, same⟩ := Option.map_eq_some_iff.mp stepped
          exact of_keeps trivial (wired.send sending found delivered same.symm)
      next => cases stepped
  next home sent =>
      cases stepped
      exact of_keeps trivial (wired.sentHome sent)
  next localIps sent =>
      cases stepped
      exact of_keeps trivial (wired.sent sent)
  next localIps idle =>
      cases stepped
      exact of_keeps trivial (wired.checkConnection idle localIps)
  next url route idle =>
      split at stepped <;> cases stepped
      exact of_keeps trivial (wired.sendDatagram idle url route)
  next id idle =>
      split at stepped
      next actor found =>
          split at stepped <;> cases stepped
          exact of_keeps trivial (wired.reap idle found)
      next => cases stepped
  next id step =>
      split at stepped
      next actor found =>
          split at stepped
          next running =>
              obtain ⟨⟨watch, later⟩, moved, same⟩ := Option.map_eq_some_iff.mp stepped
              cases same
              have moves := actorMoves_of_next moved
              exact ⟨wired.actorMoves found moves,
                fun agrees => agrees.actorMoves_iff found running moves⟩
          next => cases stepped
      next => cases stepped
  next => cases stepped

private theorem wired_new : RelayActor.new.Wired where
  listed := by simp [RelayActor.new]
  started := by simp [RelayActor.new]
  pending := by simp [RelayActor.new]

end RelayActor

private theorem wired_of_reaches {history : List RelayStep} {relay : RelayActor}
    (reached : relayActor.Reaches history relay) : relay.Wired :=
  reached.invariant_next (fun _ relay => relay.Wired) RelayActor.wired_new
    fun history _ _ _ stepped wired => (@RelayActor.next_moves _ _ history _ wired stepped).1

/-- Along every run of the relay actor with its reports, its datagrams, and the starts,
exits and reaps of actors: once an actor has handled its messages it takes its relay for
the home relay if and only if `my_relay` names it, exactly if the home relay is cleared
only when no running actor takes itself for home, and if status updates keep the URL. -/
theorem home_flags_agree_iff_homeKept (history : List RelayStep) (relay : RelayActor)
    (reached : relayActor.Reaches history relay) :
    relayActor.Throughout RelayActor.HomeAgrees history ↔
      (relayActor.restrict HomeKept).Reaches history relay := by
  apply reached.throughout_iff_restrict_next
  · intro id actor listed
    cases listed
  · intro history relay step after before stepped agrees
    exact (RelayActor.next_moves (wired_of_reaches before) stepped).2 agrees

instance (history : List RelayStep) (relay : RelayActor) :
    (step : RelayStep) → Decidable (HomeKept history relay step)
  | .publish => inferInstanceAs (Decidable (_ → ∀ actor ∈ relay.actors, _ → _))
  | .actor id .statusSet => inferInstanceAs (Decidable (∀ actor ∈ relay.actors[id]?, _))
  | .actor _ .statusGet | .actor _ (.dial _) | .actor _ (.lose _) | .actor _ .retry
  | .actor _ .handle | .actor _ (.exit _) => .isTrue trivial
  | .networkChange _ | .send _ | .sent | .checkConnection _ | .sendDatagram _ _ | .reap _ =>
      .isTrue trivial

/-- The first report prefers a relay, whose actor learns that it is home. -/
def firstHomeRelay : List RelayStep :=
  [.networkChange (some ⟨"https://a"⟩), .publish, .sent, .actor 0 .statusGet,
    .actor 0 .statusSet, .actor 0 .handle]

/-- A second report prefers another relay, and the first actor exits. -/
def secondHomeRelay : List RelayStep :=
  firstHomeRelay ++
    [.networkChange (some ⟨"https://b"⟩), .publish, .send 0, .sent, .actor 0 .handle,
      .actor 0 (.exit false), .reap 0, .sendDatagram ⟨"https://c"⟩ none]

def relayAfter (steps : List RelayStep) : RelayActor := relayActor.runFrom .new steps

theorem secondHomeRelay_flags_agree :
    relayActor.Throughout RelayActor.HomeAgrees secondHomeRelay ∧
      (relayAfter secondHomeRelay).activeRelays = [(⟨"https://b"⟩, 1), (⟨"https://c"⟩, 2)] :=
  ⟨(home_flags_agree_iff_homeKept secondHomeRelay (relayAfter secondHomeRelay)
    (Machine.reaches_runFrom (by decide))).mpr (Machine.reaches_runFrom (by decide)), by decide⟩

def noHomeRelay : List RelayStep := firstHomeRelay ++ [.networkChange none, .publish]

/-- The actor of the first relay has handled everything and still takes itself for home,
while `my_relay` is empty. -/
theorem noHomeRelay_keeps_flag :
    relayActor.Reaches noHomeRelay (relayAfter noHomeRelay) ∧
      (relayAfter noHomeRelay).actors = [⟨⟨"https://a"⟩, true, [], .dialing, none, .running⟩] ∧
      (relayAfter noHomeRelay).phase = .idle ∧
      (relayAfter noHomeRelay).myRelay.url = none :=
  ⟨Machine.reaches_runFrom (by decide), by decide, rfl, rfl⟩

end NexalinkTunnel.Socket.Relay
