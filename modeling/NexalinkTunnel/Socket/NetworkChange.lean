import Mathlib.Data.List.Induction
import NexalinkTunnel.Socket.DirectAddrUpdate
import NexalinkTunnel.Socket.Transports

/-!
Contract: how the socket actor reacts to changes of the local network.

Owns the branches of `Actor::run` that schedule direct address updates or decide
when the QUIC stack is told of a network change, and the record of a change that
waits for a usable network.

Does not own: the interface monitor, which says whether a change is major, and
what QUIC and the remote map do with a notification.

## When a notification may pass over a major change

A link change that finds a usable network notifies with its own flag and drops
the waiting record. The flag of that record is lost when it was major and the
new change is not; every other way to a notification carries the flag along.
-/

namespace NexalinkTunnel.Socket

open Lib Base

/-- What the socket reads of `netmon::State`. -/
structure Interfaces where
  defaultRouteInterface : Option String
  haveV4 : Bool
  haveV6 : Bool
  regular : List IpAddr
  loopback : List IpAddr

structure IfStateDetails where
  haveV4 : Bool
  haveV6 : Bool

def IfStateDetails.fromState (interfaces : Interfaces) : IfStateDetails :=
  ⟨interfaces.haveV4, interfaces.haveV6⟩

def Interfaces.localAddrs (interfaces : Interfaces) : List IpAddr :=
  interfaces.regular ++ interfaces.loopback

/-! ## Waiting for a usable network -/

/-- Instants and durations are in milliseconds. -/
structure PendingNetworkChangeNotify where
  nextCheck : Nat
  interval : Nat
  isMajor : Bool
  started : Nat

namespace PendingNetworkChangeNotify

def initialInterval : Nat := 100
def maxInterval : Nat := 1000
def maxWait : Nat := 5000

def new (isMajor : Bool) (now : Nat) : PendingNetworkChangeNotify where
  nextCheck := now + initialInterval
  interval := initialInterval
  isMajor := isMajor
  started := now

def advance (pending : PendingNetworkChangeNotify) (now : Nat) : PendingNetworkChangeNotify :=
  let interval := min (pending.interval * 2) maxInterval
  { pending with interval := interval, nextCheck := now + interval }

def expired (pending : PendingNetworkChangeNotify) (now : Nat) : Bool :=
  decide (maxWait ≤ now - pending.started)

end PendingNetworkChangeNotify

/-- What the actor does to the rest of the socket, beside direct address updates.
`linkChange` is the event that the handler of a link change starts with. -/
inductive ActorEffect where
  | linkChange (isMajor : Bool)
  | rebind
  | checkRelayConnection
  | resetDnsResolver
  | notifyQuicNetworkChange (isMajor : Bool) (localAddrs : List IpAddr)
deriving DecidableEq

/-- What a branch of the actor reads besides its own state. -/
structure ActorContext where
  now : Nat
  interfaces : Interfaces
  shutdown : Bool
  relayMapEmpty : Bool

namespace ActorContext

def hasUsableNetwork (context : ActorContext) : Bool :=
  context.interfaces.defaultRouteInterface.isSome &&
    (context.interfaces.haveV4 || context.interfaces.haveV6)

def runContext (context : ActorContext) : RunContext IfStateDetails where
  ifState := .fromState context.interfaces
  shutdown := context.shutdown
  relayMapEmpty := context.relayMapEmpty

end ActorContext

structure Actor (Report : Type) where
  directAddrUpdateState : DirectAddrUpdateState IfStateDetails Report
  callNotifyQuicNetworkChange : Option PendingNetworkChangeNotify
  effects : List ActorEffect

/-- The branches of `Actor::run`, and the steps of a running update. -/
inductive ActorEvent (Report : Type) where
  | relayMapChange (context : ActorContext)
  | reStunTick (context : ActorContext)
  | portmapChanged (context : ActorContext)
  | directAddrDone (context : ActorContext)
  | linkChange (isMajor : Bool) (context : ActorContext)
  | notifyTimer (context : ActorContext)
  | updateReports (outcome : ReportOutcome Report)
  | updateSendsDone
  | updateReleases

namespace Actor

variable {Report : Type}

def new : Actor Report where
  directAddrUpdateState := .new
  callNotifyQuicNetworkChange := none
  effects := []

def emit (actor : Actor Report) (effects : List ActorEffect) : Actor Report :=
  { actor with effects := actor.effects ++ effects }

def reStun (actor : Actor Report) (why : UpdateReason) (context : ActorContext) : Actor Report :=
  { actor with
    directAddrUpdateState := actor.directAddrUpdateState.scheduleRun why context.runContext }

/-- The endpoint gets the local addresses as a hint, the remote map gets the flag. -/
def notifyQuicNetworkChange (actor : Actor Report) (isMajor : Bool) (context : ActorContext) :
    Actor Report :=
  actor.emit [.notifyQuicNetworkChange isMajor context.interfaces.localAddrs]

def handleNetworkChange (actor : Actor Report) (isMajor : Bool) (context : ActorContext) :
    Actor Report :=
  let actor := actor.emit [.linkChange isMajor]
  let actor :=
    if isMajor then
      (actor.emit [.rebind, .checkRelayConnection, .resetDnsResolver]).reStun
        .linkChangeMajor context
    else
      actor.reStun .linkChangeMinor context
  if context.hasUsableNetwork then
    { actor with callNotifyQuicNetworkChange := none }.notifyQuicNetworkChange isMajor context
  else
    match actor.callNotifyQuicNetworkChange with
    | some pending =>
        { actor with
          callNotifyQuicNetworkChange :=
            some { pending with isMajor := pending.isMajor || isMajor } }
    | none =>
        { actor with callNotifyQuicNetworkChange := some (.new isMajor context.now) }

/-- The branch taken when the time of the next check has come. -/
def checkPendingNotify (actor : Actor Report) (context : ActorContext) : Actor Report :=
  match actor.callNotifyQuicNetworkChange with
  | none => actor
  | some pending =>
      if context.hasUsableNetwork || pending.expired context.now then
        { actor with callNotifyQuicNetworkChange := none }.notifyQuicNetworkChange
          pending.isMajor context
      else
        { actor with callNotifyQuicNetworkChange := some (pending.advance context.now) }

def updateStep (actor : Actor Report) (action : UpdateAction IfStateDetails Report) :
    Actor Report :=
  { actor with directAddrUpdateState := actor.directAddrUpdateState.step action }

def step (actor : Actor Report) : ActorEvent Report → Actor Report
  | .relayMapChange context => actor.reStun .relayMapChange context
  | .reStunTick context => actor.reStun .periodic context
  | .portmapChanged context => actor.reStun .portmapUpdated context
  | .directAddrDone context => actor.updateStep (.tryRun context.runContext)
  | .linkChange isMajor context => actor.handleNetworkChange isMajor context
  | .notifyTimer context => actor.checkPendingNotify context
  | .updateReports outcome => actor.updateStep (.report outcome)
  | .updateSendsDone => actor.updateStep .sendDone
  | .updateReleases => actor.updateStep .release

/-- The timer sleeps until the next check of a waiting record; the other branches
wait for their sources. -/
def Ready (actor : Actor Report) : ActorEvent Report → Prop
  | .notifyTimer context =>
      ∃ pending ∈ actor.callNotifyQuicNetworkChange, pending.nextCheck ≤ context.now
  | .directAddrDone _ => 0 < actor.directAddrUpdateState.runDone
  | .updateReports outcome => actor.directAddrUpdateState.Ready (.report outcome)
  | .updateSendsDone => actor.directAddrUpdateState.Ready .sendDone
  | .updateReleases => actor.directAddrUpdateState.Ready .release
  | _ => True

instance (actor : Actor Report) : DecidablePred actor.Ready
  | .notifyTimer context =>
      inferInstanceAs (Decidable (∃ pending ∈ actor.callNotifyQuicNetworkChange,
        pending.nextCheck ≤ context.now))
  | .directAddrDone _ => inferInstanceAs (Decidable (_ < _))
  | .updateReports outcome =>
      inferInstanceAs (Decidable (actor.directAddrUpdateState.Ready (.report outcome)))
  | .updateSendsDone =>
      inferInstanceAs (Decidable (actor.directAddrUpdateState.Ready .sendDone))
  | .updateReleases => inferInstanceAs (Decidable (actor.directAddrUpdateState.Ready .release))
  | .relayMapChange _ | .reStunTick _ | .portmapChanged _ | .linkChange _ _ =>
      inferInstanceAs (Decidable True)

def runs : Machine (Actor Report) (ActorEvent Report) where
  start := new
  Enabled := fun _ actor event => actor.Ready event
  step := step

instance (history : List (ActorEvent Report)) (actor : Actor Report) (event : ActorEvent Report) :
    Decidable (runs.Enabled history actor event) :=
  inferInstanceAs (Decidable (actor.Ready event))

/-! ## Effects and the waiting record -/

theorem effects_handleNetworkChange (actor : Actor Report) (isMajor : Bool)
    (context : ActorContext) :
    (actor.handleNetworkChange isMajor context).effects =
      actor.effects ++ [ActorEffect.linkChange isMajor] ++
        (if isMajor then [ActorEffect.rebind, .checkRelayConnection, .resetDnsResolver] else []) ++
        (if context.hasUsableNetwork then
          [ActorEffect.notifyQuicNetworkChange isMajor context.interfaces.localAddrs]
        else []) := by
  unfold handleNetworkChange
  cases isMajor <;> cases context.hasUsableNetwork <;>
    cases waiting : actor.callNotifyQuicNetworkChange <;>
      simp [emit, reStun, notifyQuicNetworkChange, waiting]

private theorem waiting_handleNetworkChange (actor : Actor Report) (isMajor : Bool)
    (context : ActorContext) :
    (actor.handleNetworkChange isMajor context).callNotifyQuicNetworkChange =
      if context.hasUsableNetwork then none
      else match actor.callNotifyQuicNetworkChange with
        | some pending => some { pending with isMajor := pending.isMajor || isMajor }
        | none => some (.new isMajor context.now) := by
  unfold handleNetworkChange
  cases isMajor <;> cases context.hasUsableNetwork <;>
    cases waiting : actor.callNotifyQuicNetworkChange <;>
      simp [emit, reStun, notifyQuicNetworkChange, waiting]

/-! ## Major changes that were not announced yet -/

/-- A major link change was handled and no notification came after it. -/
def MajorSinceNotify (effects : List ActorEffect) : Prop :=
  Since (fun _ effect => effect = .linkChange true)
    (fun _ effect => ∃ isMajor addrs, effect = .notifyQuicNetworkChange isMajor addrs) effects

@[simp] theorem not_majorSinceNotify_nil : ¬ MajorSinceNotify [] := not_since_nil

@[simp] theorem majorSinceNotify_linkChange (effects : List ActorEffect) (isMajor : Bool) :
    MajorSinceNotify (effects ++ [.linkChange isMajor]) ↔
      isMajor = true ∨ MajorSinceNotify effects := by
  simp [MajorSinceNotify, since_append_singleton]

@[simp] theorem not_majorSinceNotify_notify (effects : List ActorEffect) (isMajor : Bool)
    (addrs : List IpAddr) :
    ¬ MajorSinceNotify (effects ++ [.notifyQuicNetworkChange isMajor addrs]) := by
  simp [MajorSinceNotify, since_append_singleton]

/-- The effects that only a major change has leave the question open. -/
@[simp] theorem majorSinceNotify_rebind (effects : List ActorEffect) :
    MajorSinceNotify (effects ++ [ActorEffect.rebind, .checkRelayConnection, .resetDnsResolver]) ↔
      MajorSinceNotify effects := by
  have split : effects ++ [ActorEffect.rebind, .checkRelayConnection, .resetDnsResolver] =
      effects ++ [ActorEffect.rebind] ++ [ActorEffect.checkRelayConnection] ++
        [ActorEffect.resetDnsResolver] := by simp
  simp only [split, MajorSinceNotify, since_append_singleton]
  simp

/-- The waiting record knows whether a major change has not been announced. -/
def RecordsMajor (actor : Actor Report) : Prop :=
  MajorSinceNotify actor.effects ↔
    ∃ pending ∈ actor.callNotifyQuicNetworkChange, pending.isMajor = true

private theorem majorSinceNotify_handling (effects : List ActorEffect) (isMajor : Bool) :
    MajorSinceNotify (effects ++ [ActorEffect.linkChange isMajor] ++
        (if isMajor then [ActorEffect.rebind, .checkRelayConnection, .resetDnsResolver] else [])) ↔
      isMajor = true ∨ MajorSinceNotify effects := by
  cases isMajor with
  | false => simp
  | true =>
      rw [if_pos rfl, majorSinceNotify_rebind, majorSinceNotify_linkChange]

private theorem RecordsMajor.handleNetworkChange {actor : Actor Report}
    (records : actor.RecordsMajor) (isMajor : Bool) (context : ActorContext) :
    (actor.handleNetworkChange isMajor context).RecordsMajor := by
  unfold RecordsMajor at records ⊢
  rw [effects_handleNetworkChange, waiting_handleNetworkChange]
  by_cases usable : context.hasUsableNetwork = true
  · rw [if_pos usable, if_pos usable]
    apply iff_of_false
    · exact not_majorSinceNotify_notify _ _ _
    · simp
  · rw [if_neg usable, if_neg usable, List.append_nil, majorSinceNotify_handling, records]
    cases actor.callNotifyQuicNetworkChange with
    | none => simp [PendingNetworkChangeNotify.new]
    | some pending => simp [or_comm]

private theorem RecordsMajor.checkPendingNotify {actor : Actor Report}
    (records : actor.RecordsMajor)
    (context : ActorContext) : (actor.checkPendingNotify context).RecordsMajor := by
  unfold Actor.checkPendingNotify
  cases waiting : actor.callNotifyQuicNetworkChange with
  | none => exact records
  | some pending =>
      simp only
      split
      · apply iff_of_false
        · exact not_majorSinceNotify_notify _ _ _
        · simp [notifyQuicNetworkChange, emit]
      · unfold RecordsMajor at records ⊢
        simpa [waiting, PendingNetworkChangeNotify.advance] using records

/-- In every run the waiting record is right about major changes. -/
theorem recordsMajor {history : List (ActorEvent Report)} {actor : Actor Report}
    (reached : runs.Reaches history actor) : actor.RecordsMajor := by
  apply reached.invariant fun _ actor => actor.RecordsMajor
  · apply iff_of_false
    · exact not_majorSinceNotify_nil
    · simp [runs, new]
  · intro history actor event _ _ records
    cases event with
    | linkChange isMajor context => exact records.handleNetworkChange isMajor context
    | notifyTimer context => exact records.checkPendingNotify context
    | _ => exact records

/-- Each notification says whether a major change was handled since the one before. -/
def NotifiesMajor (effects : List ActorEffect) : Prop :=
  ∀ before isMajor addrs after,
    effects = before ++ .notifyQuicNetworkChange isMajor addrs :: after →
      (isMajor = true ↔ MajorSinceNotify before)

theorem notifiesMajor_append_singleton {effects : List ActorEffect} {effect : ActorEffect} :
    NotifiesMajor (effects ++ [effect]) ↔
      NotifiesMajor effects ∧ ∀ isMajor addrs, effect = .notifyQuicNetworkChange isMajor addrs →
        (isMajor = true ↔ MajorSinceNotify effects) := by
  constructor
  · intro truthful
    constructor
    · intro before isMajor addrs after split
      apply truthful before isMajor addrs (after ++ [effect])
      simp [split]
    · intro isMajor addrs same
      apply truthful effects isMajor addrs []
      rw [same]
  · intro truthful before isMajor addrs after split
    rcases List.eq_nil_or_concat after with rfl | ⟨middle, last, rfl⟩
    · have parts := List.append_inj' split rfl
      rw [← parts.1]
      exact truthful.2 isMajor addrs (List.singleton_inj.mp parts.2)
    · have split' : effects ++ [effect] =
          (before ++ .notifyQuicNetworkChange isMajor addrs :: middle) ++ [last] := by
        simpa using split
      exact truthful.1 before isMajor addrs middle (List.append_inj' split' rfl).1

private theorem notifiesMajor_append_quiet {effects added : List ActorEffect}
    (quiet : ∀ isMajor addrs, ActorEffect.notifyQuicNetworkChange isMajor addrs ∉ added) :
    NotifiesMajor (effects ++ added) ↔ NotifiesMajor effects := by
  induction added using List.reverseRecOn with
  | nil => simp
  | append_singleton added effect inductionHypothesis =>
      rw [← List.append_assoc, notifiesMajor_append_singleton,
        inductionHypothesis fun isMajor addrs inside => quiet isMajor addrs (by simp [inside])]
      apply and_iff_left
      intro isMajor addrs same
      exact absurd (by simp [same]) (quiet isMajor addrs)

/-- A change that is not major finds a usable network only when no major change waits. -/
def KeepsMajor (actor : Actor Report) : ActorEvent Report → Prop
  | .linkChange false context =>
      context.hasUsableNetwork = true →
        ∀ pending ∈ actor.callNotifyQuicNetworkChange, pending.isMajor = false
  | _ => True

instance (actor : Actor Report) : DecidablePred actor.KeepsMajor
  | .linkChange false context =>
      inferInstanceAs (Decidable (context.hasUsableNetwork = true →
        ∀ pending ∈ actor.callNotifyQuicNetworkChange, pending.isMajor = false))
  | .linkChange true _ | .relayMapChange _ | .reStunTick _ | .portmapChanged _
  | .directAddrDone _ | .notifyTimer _ | .updateReports _ | .updateSendsDone | .updateReleases =>
      inferInstanceAs (Decidable True)

private theorem notifiesMajor_handleNetworkChange {actor : Actor Report}
    (records : actor.RecordsMajor) (isMajor : Bool) (context : ActorContext) :
    NotifiesMajor (actor.handleNetworkChange isMajor context).effects ↔
      NotifiesMajor actor.effects ∧ actor.KeepsMajor (.linkChange isMajor context) := by
  have quiet : NotifiesMajor (actor.effects ++ [ActorEffect.linkChange isMajor] ++
      (if isMajor then [ActorEffect.rebind, .checkRelayConnection, .resetDnsResolver] else [])) ↔
        NotifiesMajor actor.effects := by
    rw [List.append_assoc]
    apply notifiesMajor_append_quiet
    cases isMajor <;> simp
  rw [effects_handleNetworkChange]
  by_cases usable : context.hasUsableNetwork = true
  · rw [if_pos usable, notifiesMajor_append_singleton, quiet]
    apply and_congr_right
    intro _
    simp only [majorSinceNotify_handling]
    unfold RecordsMajor at records
    rw [records]
    cases isMajor with
    | true => simp [KeepsMajor]
    | false => simp [KeepsMajor, usable]
  · rw [if_neg usable, List.append_nil, quiet, and_iff_left]
    cases isMajor with
    | true => trivial
    | false => exact fun found => absurd found usable

private theorem notifiesMajor_checkPendingNotify {actor : Actor Report}
    (records : actor.RecordsMajor) (context : ActorContext) :
    NotifiesMajor (actor.checkPendingNotify context).effects ↔ NotifiesMajor actor.effects := by
  unfold checkPendingNotify
  cases waiting : actor.callNotifyQuicNetworkChange with
  | none => exact Iff.rfl
  | some pending =>
      simp only
      split
      · apply notifiesMajor_append_singleton.trans
        apply and_iff_left
        intro isMajor addrs same
        cases same
        unfold RecordsMajor at records
        rw [records, waiting]
        simp
      · exact Iff.rfl

/-- The notifications of a run are right about major changes exactly if no change
that is not major finds a usable network while a major one waits. -/
theorem major_changes_announced_iff_not_overtaken {history : List (ActorEvent Report)}
    {actor : Actor Report} (reached : runs.Reaches history actor) :
    NotifiesMajor actor.effects ↔
      (runs.restrict fun _ => KeepsMajor).Reaches history actor := by
  apply reached.iff_restrict fun _ actor => NotifiesMajor actor.effects
  · intro before isMajor addrs after split
    simp [runs, new] at split
  · intro history actor event before _
    have records := recordsMajor before
    cases event with
    | linkChange isMajor context =>
        exact notifiesMajor_handleNetworkChange records isMajor context
    | notifyTimer context =>
        exact (notifiesMajor_checkPendingNotify records context).trans
          (and_iff_left trivial).symm
    | _ => exact (and_iff_left trivial).symm

/-- An interface that has come up, before and after it has a default route. -/
def withoutRoute (now : Nat) : ActorContext := ⟨now, ⟨none, true, false, [], []⟩, false, false⟩

@[inherit_doc withoutRoute]
def withRoute (now : Nat) : ActorContext :=
  ⟨now, ⟨some "eth0", true, false, [.v4 0x0a000001], []⟩, false, false⟩

theorem delayed_major_change_announced :
    let events : List (ActorEvent Unit) :=
      [.linkChange true (withoutRoute 0), .linkChange false (withoutRoute 50),
        .notifyTimer (withRoute 100)]
    .notifyQuicNetworkChange true [.v4 0x0a000001] ∈ (runs.runFrom new events).effects ∧
      NotifiesMajor (runs.runFrom new events).effects :=
  ⟨by decide,
    (major_changes_announced_iff_not_overtaken (Machine.reaches_runFrom (by decide))).mpr
      (Machine.reaches_runFrom (by decide))⟩

/-- A major change waits for a route; then a minor change finds one, and the only
notification says that nothing major happened. -/
theorem minor_change_overtakes_major :
    let events : List (ActorEvent Unit) :=
      [.linkChange true (withoutRoute 0), .linkChange false (withRoute 50)]
    let actor := runs.runFrom new events
    let before : List ActorEffect :=
      [.linkChange true, .rebind, .checkRelayConnection, .resetDnsResolver, .linkChange false]
    runs.Reaches events actor ∧ MajorSinceNotify before ∧
      actor.effects = before ++ [.notifyQuicNetworkChange false [.v4 0x0a000001]] ∧
      ¬ NotifiesMajor actor.effects := by
  intro events actor before
  have reached : runs.Reaches events actor := Machine.reaches_runFrom (by decide)
  have major : MajorSinceNotify before := by
    have split : before = ([] ++ [ActorEffect.linkChange true] ++
      [ActorEffect.rebind, .checkRelayConnection, .resetDnsResolver]) ++
        [ActorEffect.linkChange false] := rfl
    rw [split, majorSinceNotify_linkChange, majorSinceNotify_rebind, majorSinceNotify_linkChange]
    simp
  have effects : actor.effects =
      before ++ [ActorEffect.notifyQuicNetworkChange false [.v4 0x0a000001]] := by decide
  refine ⟨reached, major, effects, ?_⟩
  intro truthful
  exact absurd ((truthful before false _ [] effects).mpr major) (by decide)

end Actor

end NexalinkTunnel.Socket
