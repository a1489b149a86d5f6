import Mathlib.Data.List.Nodup
import NexalinkTunnel.Lib.Transition
import NexalinkTunnel.Relay.Protos.Common
import NexalinkTunnel.Socket.RemoteMap.RemoteState

/-!
Contract: what a connection lets its users observe of its paths.

Owns the state that `PathStateSender` records, the events it emits, the streams of
snapshots that it wakes, and when the events tell the same story as the state.

Does not own: how far a subscriber lags behind, and the end of the connection.

## A selection that no event tells

`record_selected` emits an event only if it finds a path with the address. If it finds
none, it still clears the selection, without an event and without waking anyone.
-/

namespace NexalinkTunnel.Socket.PathWatcher

open Lib Base

structure PathData where
  id : PathId
  remoteAddr : TransportAddr
  localAddr : LocalTransportAddr

/-- The events that the sender emits. `Stats` are the statistics of a path. -/
inductive PathEvent (Stats : Type) where
  | opened (id : PathId) (remoteAddr : TransportAddr) (localAddr : LocalTransportAddr)
  | closed (id : PathId) (remoteAddr : TransportAddr) (localAddr : LocalTransportAddr)
      (lastStats : Stats)
  | selected (id : PathId) (remoteAddr : TransportAddr) (localAddr : LocalTransportAddr)

structure State where
  list : List PathData
  selected : Option PathId

/-- A stream of snapshots: whether it still waits for its first poll, whether it was
notified since it last looked, and what it saw then. -/
structure PathListStream where
  firstPoll : Bool
  notified : Bool
  snapshot : Option State

/-- The sender with everything that was emitted, and the streams of its receivers. -/
structure PathStateSender (Stats : Type) where
  state : State
  events : List (PathEvent Stats)
  streams : List PathListStream

/-- The calls on the sender, and those of its receivers. -/
inductive Call (ed : Ed25519) (Stats : Type) where
  | recordOpened (id : PathId) (networkPath : FourTuple ed)
  | recordAbandoned (id : PathId) (stats : Stats)
  | recordSelected (networkPath : FourTuple ed)
  | stream
  | pollNext (index : Nat)

variable {ed : Ed25519} {Stats : Type}

def putPath (entry : PathData) : List PathData → List PathData
  | [] => [entry]
  | first :: rest =>
      if first.id = entry.id then entry :: rest else first :: putPath entry rest

def State.findPath (state : State) (networkPath : FourTuple ed) : Option PathData :=
  state.list.find? fun path =>
    path.remoteAddr == networkPath.remote.toTransportAddr &&
      path.localAddr == networkPath.localAddr

namespace PathStateSender

def new : PathStateSender Stats := ⟨⟨[], none⟩, [], []⟩

def notifyWaiters (sender : PathStateSender Stats) : PathStateSender Stats :=
  { sender with streams := sender.streams.map fun stream => { stream with notified := true } }

def send (sender : PathStateSender Stats) (event : PathEvent Stats) : PathStateSender Stats :=
  { sender with events := sender.events ++ [event] }

def recordOpened (sender : PathStateSender Stats) (id : PathId) (networkPath : FourTuple ed) :
    PathStateSender Stats :=
  let remoteAddr := networkPath.remote.toTransportAddr
  let localAddr := networkPath.localAddr
  let list := putPath ⟨id, remoteAddr, localAddr⟩ sender.state.list
  { sender with state := ⟨list, sender.state.selected⟩ }.notifyWaiters.send
    (.opened id remoteAddr localAddr)

def recordAbandoned (sender : PathStateSender Stats) (id : PathId) (stats : Stats) :
    PathStateSender Stats :=
  let selected := if sender.state.selected = some id then none else sender.state.selected
  match sender.state.list.find? (·.id == id) with
  | some data =>
      let list := sender.state.list.eraseP (·.id == id)
      { sender with state := ⟨list, selected⟩ }.notifyWaiters.send
        (.closed id data.remoteAddr data.localAddr stats)
  | none => { sender with state := ⟨sender.state.list, selected⟩ }

def recordSelected (sender : PathStateSender Stats) (networkPath : FourTuple ed) :
    PathStateSender Stats :=
  let selected := (sender.state.findPath networkPath).map PathData.id
  if selected = sender.state.selected then sender
  else
    let sender := { sender with state := ⟨sender.state.list, selected⟩ }
    match selected with
    | some id =>
        (sender.send (.selected id networkPath.remote.toTransportAddr
          networkPath.localAddr)).notifyWaiters
    | none => sender

/-- `PathListStream::poll_next`. After the first poll it waits until it is notified. -/
def pollNext (sender : PathStateSender Stats) (index : Nat) : Option (PathStateSender Stats) :=
  match sender.streams[index]? with
  | some stream =>
      if stream.firstPoll then
        some { sender with
          streams := sender.streams.set index ⟨false, stream.notified, some sender.state⟩ }
      else if stream.notified then
        some { sender with streams := sender.streams.set index ⟨false, false, some sender.state⟩ }
      else none
  | none => none

def next (sender : PathStateSender Stats) : Call ed Stats → Option (PathStateSender Stats)
  | .recordOpened id networkPath => some (sender.recordOpened id networkPath)
  | .recordAbandoned id stats => some (sender.recordAbandoned id stats)
  | .recordSelected networkPath => some (sender.recordSelected networkPath)
  | .stream => some { sender with streams := sender.streams ++ [⟨true, false, none⟩] }
  | .pollNext index => sender.pollNext index

end PathStateSender

abbrev pathWatcher (ed : Ed25519) (Stats : Type) :
    Machine (PathStateSender Stats) (Call ed Stats) :=
  .ofNext .new PathStateSender.next

/-! ## What the events tell -/

/-- What a subscriber knows: the addresses of the open paths, and the selected path. -/
structure Replayed where
  openPaths : PathId → Option (TransportAddr × LocalTransportAddr)
  selected : Option PathId

namespace Replayed

def start : Replayed := ⟨fun _ => none, none⟩

def apply (replayed : Replayed) : PathEvent Stats → Replayed
  | .opened id remoteAddr localAddr =>
      { replayed with
        openPaths := Function.update replayed.openPaths id (some (remoteAddr, localAddr)) }
  | .closed id _ _ _ =>
      { openPaths := Function.update replayed.openPaths id none
        selected := if replayed.selected = some id then none else replayed.selected }
  | .selected id _ _ => { replayed with selected := some id }

/-- The subscriber knows exactly the listed paths, each of them once, and the selected
one. -/
structure Agrees (replayed : Replayed) (state : State) : Prop where
  distinct : (state.list.map PathData.id).Nodup
  listed : ∀ path, path ∈ state.list ↔
    replayed.openPaths path.id = some (path.remoteAddr, path.localAddr)
  selected : replayed.selected = state.selected

end Replayed

def replay (events : List (PathEvent Stats)) : Replayed := events.foldl Replayed.apply .start

@[simp] theorem replay_append (events : List (PathEvent Stats)) (event : PathEvent Stats) :
    replay (events ++ [event]) = (replay events).apply event := by
  simp [replay]

namespace PathStateSender

/-- A subscriber that was present from the start agrees with the state. -/
def Replays (sender : PathStateSender Stats) : Prop :=
  (replay sender.events).Agrees sender.state

/-- A call that changes the paths or the selected path leaves nobody waiting. -/
def Wakes (before after : PathStateSender Stats) : Prop :=
  after.state ≠ before.state → ∀ stream ∈ after.streams, stream.notified = true

/-- An address that no listed path has is only selected while no path is. -/
def SelectsListed (_ : List (Call ed Stats)) (sender : PathStateSender Stats) :
    Call ed Stats → Prop
  | .recordSelected networkPath =>
      sender.state.findPath networkPath = none → sender.state.selected = none
  | _ => True

instance (history : List (Call ed Stats)) (sender : PathStateSender Stats) :
    (call : Call ed Stats) → Decidable (SelectsListed history sender call)
  | .recordSelected _ => inferInstanceAs (Decidable (_ = none → _ = none))
  | .recordOpened _ _ | .recordAbandoned _ _ | .stream | .pollNext _ => .isTrue trivial

end PathStateSender

/-! ## The list of paths -/

section List

variable {entry path : PathData} {list : List PathData} {id : PathId}

private theorem mem_putPath (distinct : (list.map PathData.id).Nodup) :
    path ∈ putPath entry list ↔ path = entry ∨ path.id ≠ entry.id ∧ path ∈ list := by
  induction list with
  | nil => simp [putPath]
  | cons first rest inductionHypothesis =>
      obtain ⟨fresh, distinct⟩ := List.nodup_cons.mp distinct
      rw [putPath]
      split
      next same =>
          -- The rest has no further entry with this id.
          have others : path ∈ rest → path.id ≠ entry.id := fun inside equal =>
            fresh (List.mem_map.mpr ⟨path, inside, equal.trans same.symm⟩)
          grind
      next other => grind

theorem ids_putPath :
    (putPath entry list).map PathData.id =
      if entry.id ∈ list.map PathData.id then list.map PathData.id
      else list.map PathData.id ++ [entry.id] := by
  induction list with
  | nil => simp [putPath]
  | cons first rest inductionHypothesis =>
      rw [putPath]
      split
      next same => simp [same]
      next other =>
          rw [List.map_cons, inductionHypothesis]
          grind

private theorem nodup_ids_putPath (distinct : (list.map PathData.id).Nodup) :
    ((putPath entry list).map PathData.id).Nodup := by
  rw [ids_putPath]
  split
  · exact distinct
  next fresh =>
      exact List.nodup_append.mpr ⟨distinct, List.nodup_singleton _, by grind⟩

private theorem mem_ids_putPath (inside : id ∈ list.map PathData.id) :
    id ∈ (putPath entry list).map PathData.id := by
  rw [ids_putPath]
  split
  · exact inside
  · exact List.mem_append_left _ inside

theorem mem_erasePath (distinct : (list.map PathData.id).Nodup) :
    path ∈ list.eraseP (·.id == id) ↔ path.id ≠ id ∧ path ∈ list := by
  induction list with
  | nil => simp
  | cons first rest inductionHypothesis =>
      obtain ⟨fresh, distinct⟩ := List.nodup_cons.mp distinct
      rw [List.eraseP_cons]
      by_cases same : first.id = id
      · have others : path ∈ rest → path.id ≠ id := fun inside equal =>
          fresh (List.mem_map.mpr ⟨path, inside, equal.trans same.symm⟩)
        simp only [same, BEq.rfl, cond_true]
        grind
      · simp only [beq_eq_false_iff_ne.mpr same, cond_false]
        grind

end List

/-- The ids of the listed paths are distinct, and the selected path is one of them. -/
structure State.Coherent (state : State) : Prop where
  distinct : (state.list.map PathData.id).Nodup
  selected : ∀ id, state.selected = some id → ∃ path ∈ state.list, path.id = id

namespace PathStateSender

/-- What a call does to the state, the events and the streams. -/
inductive Moves (sender : PathStateSender Stats) :
    Call ed Stats → PathStateSender Stats → Prop where
  | opened (id : PathId) (networkPath : FourTuple ed) {after : PathStateSender Stats}
      (state : after.state = ⟨putPath ⟨id, networkPath.remote.toTransportAddr,
        networkPath.localAddr⟩ sender.state.list, sender.state.selected⟩)
      (events : after.events = sender.events ++
        [.opened id networkPath.remote.toTransportAddr networkPath.localAddr])
      (notified : ∀ stream ∈ after.streams, stream.notified = true) :
      Moves sender (.recordOpened id networkPath) after
  | closed (id : PathId) (stats : Stats) {data : PathData} {after : PathStateSender Stats}
      (state : after.state = ⟨sender.state.list.eraseP (·.id == id),
        if sender.state.selected = some id then none else sender.state.selected⟩)
      (events : after.events =
        sender.events ++ [.closed id data.remoteAddr data.localAddr stats])
      (notified : ∀ stream ∈ after.streams, stream.notified = true) :
      Moves sender (.recordAbandoned id stats) after
  | unlisted (id : PathId) (stats : Stats)
      (absent : ∀ path ∈ sender.state.list, path.id ≠ id) {after : PathStateSender Stats}
      (state : after.state = ⟨sender.state.list,
        if sender.state.selected = some id then none else sender.state.selected⟩)
      (events : after.events = sender.events) :
      Moves sender (.recordAbandoned id stats) after
  | selected (networkPath : FourTuple ed) {path : PathData}
      (found : sender.state.findPath networkPath = some path) {after : PathStateSender Stats}
      (state : after.state = ⟨sender.state.list, some path.id⟩)
      (events : after.events = sender.events ++
        [.selected path.id networkPath.remote.toTransportAddr networkPath.localAddr])
      (notified : ∀ stream ∈ after.streams, stream.notified = true) :
      Moves sender (.recordSelected networkPath) after
  | deselected (networkPath : FourTuple ed)
      (missing : sender.state.findPath networkPath = none)
      (changes : sender.state.selected ≠ none) {after : PathStateSender Stats}
      (state : after.state = ⟨sender.state.list, none⟩)
      (events : after.events = sender.events) :
      Moves sender (.recordSelected networkPath) after
  | same (call : Call ed Stats)
      (respects : ∀ history, SelectsListed history sender call) {after : PathStateSender Stats}
      (state : after.state = sender.state) (events : after.events = sender.events) :
      Moves sender call after

theorem notified_of_notifyWaiters (sender : PathStateSender Stats) :
    ∀ stream ∈ sender.notifyWaiters.streams, stream.notified = true := by
  intro stream inside
  obtain ⟨_, -, rfl⟩ := List.mem_map.mp inside
  rfl

private theorem moves_recordAbandoned (sender : PathStateSender Stats) (id : PathId)
    (stats : Stats) :
    @Moves ed Stats sender (.recordAbandoned id stats) (sender.recordAbandoned id stats) := by
  rw [recordAbandoned]
  split
  · exact .closed id stats rfl rfl (notified_of_notifyWaiters _)
  next absent =>
      refine .unlisted id stats (fun path inside equal => ?_) rfl rfl
      exact List.find?_eq_none.mp absent path inside (beq_iff_eq.mpr equal)

private theorem moves_recordSelected (sender : PathStateSender Stats) (networkPath : FourTuple ed) :
    sender.Moves (.recordSelected networkPath) (sender.recordSelected networkPath) := by
  rw [recordSelected]
  cases found : sender.state.findPath networkPath with
  | none =>
      rw [Option.map_none]
      split
      next same =>
          refine .same _ ?_ rfl rfl
          exact fun _ _ => same.symm
      next changes => exact .deselected networkPath found (Ne.symm changes) rfl rfl
  | some path =>
      rw [Option.map_some]
      split
      · refine .same _ ?_ rfl rfl
        intro _ missing
        cases found.symm.trans missing
      · exact .selected networkPath found rfl rfl (notified_of_notifyWaiters _)

theorem moves_of_next {sender after : PathStateSender Stats} {call : Call ed Stats}
    (stepped : sender.next call = some after) : sender.Moves call after := by
  cases call with
  | recordOpened id networkPath =>
      cases stepped
      exact .opened id networkPath rfl rfl (notified_of_notifyWaiters _)
  | recordAbandoned id stats =>
      cases stepped
      exact moves_recordAbandoned sender id stats
  | recordSelected networkPath =>
      cases stepped
      exact moves_recordSelected sender networkPath
  | stream =>
      cases stepped
      refine .same _ ?_ rfl rfl
      exact fun _ => trivial
  | pollNext index =>
      simp only [PathStateSender.next, pollNext] at stepped
      split at stepped
      · split at stepped
        · cases stepped
          refine .same _ ?_ rfl rfl
          exact fun _ => trivial
        · split at stepped
          · cases stepped
            refine .same _ ?_ rfl rfl
            exact fun _ => trivial
          · cases stepped
      · cases stepped

variable {sender after : PathStateSender Stats} {call : Call ed Stats}

theorem coherent_of_moves (moves : sender.Moves call after) (coherent : sender.state.Coherent) :
    after.state.Coherent := by
  obtain ⟨distinct, listed⟩ := coherent
  cases moves with
  | opened id networkPath state events notified =>
      rw [state]
      refine ⟨nodup_ids_putPath distinct, fun id chosen => ?_⟩
      exact List.mem_map.mp (mem_ids_putPath (List.mem_map.mpr (listed id chosen)))
  | closed id stats state events notified =>
      rw [state]
      refine ⟨distinct.sublist (List.eraseP_sublist.map _), fun chosen selected => ?_⟩
      have kept : chosen ≠ id ∧ sender.state.selected = some chosen := by grind
      obtain ⟨path, inside, rfl⟩ := listed chosen kept.2
      exact ⟨path, (mem_erasePath distinct).mpr ⟨kept.1, inside⟩, rfl⟩
  | unlisted id stats absent state events =>
      rw [state]
      exact ⟨distinct, fun chosen selected => listed chosen (by grind)⟩
  | selected networkPath found state events notified =>
      rw [state]
      refine ⟨distinct, fun chosen selected => ?_⟩
      exact ⟨_, List.mem_of_find?_eq_some found, Option.some_inj.mp selected⟩
  | deselected networkPath missing changes state events =>
      rw [state]
      exact ⟨distinct, nofun⟩
  | same call respects state events => exact state ▸ ⟨distinct, listed⟩

private theorem coherent_of_reaches {history : List (Call ed Stats)}
    (reached : (pathWatcher ed Stats).Reaches history sender) : sender.state.Coherent := by
  apply reached.invariant_next fun _ sender => sender.state.Coherent
  · exact ⟨List.nodup_nil, nofun⟩
  · intro _ sender call after stepped coherent
    exact coherent_of_moves (moves_of_next stepped) coherent

private theorem selected_unlisted {id : PathId} (coherent : sender.state.Coherent)
    (absent : ∀ path ∈ sender.state.list, path.id ≠ id) :
    (if sender.state.selected = some id then none else sender.state.selected) =
      sender.state.selected := by
  refine if_neg fun chosen => ?_
  obtain ⟨path, inside, same⟩ := coherent.selected id chosen
  exact absent path inside same

/-- One call keeps the subscriber in agreement exactly if it respects the guard. -/
theorem replays_iff_of_moves {history : List (Call ed Stats)} (moves : sender.Moves call after)
    (coherent : sender.state.Coherent) (replays : sender.Replays) :
    after.Replays ↔ SelectsListed history sender call := by
  obtain ⟨-, listed, selected⟩ := replays
  have distinct := (coherent_of_moves moves coherent).distinct
  cases moves with
  | opened id networkPath state events notified =>
      refine iff_of_true ?_ trivial
      rw [Replays, events, replay_append]
      refine ⟨distinct, fun path => ?_, by rw [state]; exact selected⟩
      rw [state, mem_putPath coherent.distinct, listed path, Replayed.apply]
      by_cases same : path.id = id
      · cases path
        cases same
        simp [eq_comm]
      · have other : path ≠ ⟨id, networkPath.remote.toTransportAddr, networkPath.localAddr⟩ :=
          fun equal => same (congrArg PathData.id equal)
        simp [same, other]
  | closed id stats state events notified =>
      refine iff_of_true ?_ trivial
      rw [Replays, events, replay_append]
      refine ⟨distinct, fun path => ?_, ?_⟩
      · rw [state, mem_erasePath coherent.distinct, listed path, Replayed.apply]
        by_cases same : path.id = id
        · simp [same]
        · simp [same]
      · simp only [state, Replayed.apply, selected]
  | unlisted id stats absent state events =>
      refine iff_of_true ?_ trivial
      rw [selected_unlisted coherent absent] at state
      rw [Replays, state, events]
      exact ⟨coherent.distinct, listed, selected⟩
  | selected networkPath found state events notified =>
      refine iff_of_true ?_ fun missing => by cases found.symm.trans missing
      rw [Replays, state, events, replay_append]
      exact ⟨coherent.distinct, listed, rfl⟩
  | deselected networkPath missing changes state events =>
      -- The subscriber still takes the old path for the selected one.
      refine iff_of_false ?_ fun respects => changes (respects missing)
      rw [Replays, state, events]
      exact fun agrees => changes (selected.symm.trans agrees.selected)
  | same call respects state events =>
      refine iff_of_true ?_ (respects history)
      rw [Replays, state, events]
      exact ⟨coherent.distinct, listed, selected⟩

private theorem wakes_of_moves {history : List (Call ed Stats)} (moves : sender.Moves call after)
    (coherent : sender.state.Coherent) (respects : SelectsListed history sender call) :
    sender.Wakes after := by
  intro changed
  cases moves with
  | opened id networkPath state events notified => exact notified
  | closed id stats state events notified => exact notified
  | unlisted id stats absent state events =>
      rw [selected_unlisted coherent absent] at state
      exact absurd state changed
  | selected networkPath found state events notified => exact notified
  | deselected networkPath missing changes state events =>
      exact absurd (respects missing) changes
  | same call _ state events => exact absurd state changed

/-- Along every sequence of calls, the events tell a subscriber that was present from
the start exactly the listed paths and the selected one, and every call that changes
either wakes all streams, exactly if an address that no listed path has is only selected
while no path is. -/
theorem events_tell_state_iff_selectsListed (history : List (Call ed Stats))
    (sender : PathStateSender Stats)
    (reached : (pathWatcher ed Stats).Reaches history sender) :
    ((pathWatcher ed Stats).Throughout Replays history ∧
      ∀ before call, before ++ [call] <+: history →
        Wakes ((pathWatcher ed Stats).runFrom .new before)
          ((pathWatcher ed Stats).runFrom .new (before ++ [call]))) ↔
      ((pathWatcher ed Stats).restrict SelectsListed).Reaches history sender := by
  have replays : (pathWatcher ed Stats).Throughout Replays history ↔
      ((pathWatcher ed Stats).restrict SelectsListed).Reaches history sender := by
    apply reached.throughout_iff_restrict_next
    · exact ⟨List.nodup_nil, by simp [replay, Replayed.start, PathStateSender.new], rfl⟩
    · intro history sender call after before stepped replays
      exact replays_iff_of_moves (moves_of_next stepped) (coherent_of_reaches before) replays
  rw [← replays]
  refine and_iff_left_of_imp fun always before call inside => ?_
  obtain ⟨rest, split⟩ := inside
  obtain ⟨earlier, restricted, enabled, respects⟩ :=
    (replays.mp always).enabled_at (by rw [← split, List.append_assoc, List.singleton_append])
  obtain ⟨after, stepped, same⟩ := Machine.exists_next_of_enabled enabled
  have reachedBefore := restricted.of_restrict
  have reachedAfter : (pathWatcher ed Stats).Reaches (before ++ [call]) after :=
    same ▸ .step reachedBefore enabled
  have wakes := wakes_of_moves (moves_of_next stepped) (coherent_of_reaches reachedBefore) respects
  rwa [reachedBefore.eq_runFrom, reachedAfter.eq_runFrom] at wakes

def switchesPath : List (Call Relay.Protos.Crates.reference.ed25519 Nat) :=
  [.stream, .pollNext 0, .recordSelected (.toPort 3), .recordOpened 0 (.toPort 1),
    .recordSelected (.toPort 1), .pollNext 0, .recordOpened 1 (.toPort 2),
    .recordSelected (.toPort 2), .recordAbandoned 0 7, .recordOpened 1 (.toPort 1),
    .recordAbandoned 1 8]

theorem switchesPath_told :
    (pathWatcher Relay.Protos.Crates.reference.ed25519 Nat).Throughout Replays switchesPath ∧
      ∀ before call, before ++ [call] <+: switchesPath →
        Wakes ((pathWatcher _ Nat).runFrom .new before)
          ((pathWatcher _ Nat).runFrom .new (before ++ [call])) :=
  (events_tell_state_iff_selectsListed switchesPath ((pathWatcher _ Nat).runFrom .new switchesPath)
    (Machine.reaches_runFrom (by decide))).mpr (Machine.reaches_runFrom (by decide))

/-- The address of the selected path changes to one that no path has. -/
def selectsUnlisted : List (Call Relay.Protos.Crates.reference.ed25519 Nat) :=
  [.recordOpened 0 (.toPort 1), .recordSelected (.toPort 1), .stream, .pollNext 0,
    .recordSelected (.toPort 2)]

/-- The selection is gone, the subscriber still has it, and the stream waits on. -/
theorem selectsUnlisted_untold :
    (pathWatcher Relay.Protos.Crates.reference.ed25519 Nat).Reaches selectsUnlisted
        ((pathWatcher _ Nat).runFrom .new selectsUnlisted) ∧
      ((pathWatcher _ Nat).runFrom .new selectsUnlisted).state.selected = none ∧
      (replay ((pathWatcher _ Nat).runFrom .new selectsUnlisted).events).selected = some 0 ∧
      ((pathWatcher _ Nat).runFrom .new selectsUnlisted).streams.map PathListStream.notified =
        [false] :=
  ⟨Machine.reaches_runFrom (by decide), by decide, by decide, by decide⟩

end PathStateSender

end NexalinkTunnel.Socket.PathWatcher
