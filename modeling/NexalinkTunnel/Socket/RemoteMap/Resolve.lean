import NexalinkTunnel.Socket.RemoteMap.Pruning
import NexalinkTunnel.Socket.RemoteMap.RemoteState

/-!
Contract: the answers to resolve requests.

Owns that a request is answered at most once and rightly, and when a request that
is not answered has an address lookup to wait for.

## Where a request is lost

A request that finds no known path waits for an address lookup, which is started
unless a path is selected. Pruning can remove every known path while the selected
one stays, also after the last connection gave it up; then the request waits and
nothing is started that would answer it.
-/

namespace NexalinkTunnel.Socket

open Lib Base

variable {ed : Ed25519}

namespace RemotePathState

/-- An answer fits the state: there is a known path, or there is none and the address
lookup has ended. -/
def Justified (state : RemotePathState ed) (lookupEnds : Prop) :
    Except AddressLookupFailed Unit → Prop
  | .ok _ => state.isEmpty = false
  | .error _ => state.isEmpty = true ∧ lookupEnds

private theorem Justified.mono {state : RemotePathState ed} {lookupEnds sooner : Prop}
    {result : Except AddressLookupFailed Unit} (justified : state.Justified lookupEnds result)
    (weaken : lookupEnds → sooner) : state.Justified sooner result := by
  cases result with
  | ok _ => exact justified
  | error _ => exact ⟨justified.1, weaken justified.2⟩

/-- All waiting requests got the same answer, and it fits; or none got one, and no
first path became known. -/
inductive Answering (before after : RemotePathState ed) (lookupEnds : Prop) : Prop where
  | answered (result : Except AddressLookupFailed Unit)
      (justified : after.Justified lookupEnds result)
      (pending : after.pendingResolveRequests = [])
      (answers : after.answers = before.answers ++ before.pendingResolveRequests.map fun request =>
        (request, result))
  | kept
      (pending : after.pendingResolveRequests = before.pendingResolveRequests)
      (answers : after.answers = before.answers)
      (empty : before.isEmpty = true → after.isEmpty = true)

variable {state before after : RemotePathState ed} {order : IterationOrder} {now : Instant}
  {addr : Addr ed} {addrs : List (Addr ed)} {source : Source} {lookupEnds : Prop}

theorem Answering.refl (state : RemotePathState ed) : Answering state state lookupEnds :=
  .kept rfl rfl id

theorem emitPendingResolveRequests_eq (error : Option AddressLookupFailed)
    (state : RemotePathState ed) :
    state.emitPendingResolveRequests error =
      { state with
        pendingResolveRequests := []
        answers := state.answers ++ state.pendingResolveRequests.map fun request =>
          (request, state.result error) } := by
  unfold emitPendingResolveRequests
  split
  next none =>
    rw [List.isEmpty_iff] at none
    cases state
    simp_all
  next => rfl

private theorem isEmpty_prunePaths_of_isEmpty (empty : state.isEmpty = true) :
    (state.prunePaths order).isEmpty = true := by
  by_contra notEmpty
  obtain ⟨addr, known, found⟩ := known_of_not_isEmpty (Bool.eq_false_iff.mpr notEmpty)
  have known : state.Known addr := ⟨known, lookup_of_lookup_prune found⟩
  rw [known.not_isEmpty] at empty
  cases empty

private theorem answering_emit_prune {known : PathState}
    (found : state.paths.lookup addr = some known)
    (kept : known.status = .opened ∨ known.status = .unknown)
    (pending : state.pendingResolveRequests = before.pendingResolveRequests)
    (answers : state.answers = before.answers) :
    Answering before ((state.emitPendingResolveRequests none).prunePaths order) lookupEnds := by
  have ok : state.result none = .ok () := by
    unfold result isEmpty
    rw [HashMap.not_isEmpty_of_lookup found]
  have still : (state.prunePaths order).isEmpty = false :=
    HashMap.not_isEmpty_of_lookup (lookup_prune_of_lookup found (.inr kept))
  rw [emitPendingResolveRequests_eq, ok]
  refine .answered (.ok ()) still rfl ?_
  rw [← pending, ← answers]
  rfl

theorem answering_insertOpenPath :
    Answering state (state.insertOpenPath order now addr source) lookupEnds :=
  answering_emit_prune (AList.lookup_insert _) (.inl rfl) rfl rfl

private theorem answering_abandonedPath :
    Answering state (state.abandonedPath now addr) lookupEnds := by
  have known : ∀ other, (state.abandonedPath now addr).Known other ↔ state.Known other :=
    fun _ => known_abandonedPath
  have empty : state.isEmpty = true → (state.abandonedPath now addr).isEmpty = true := by
    intro empty
    by_contra notEmpty
    obtain ⟨other, found⟩ := known_of_not_isEmpty (Bool.eq_false_iff.mpr notEmpty)
    rw [((known other).mp found).not_isEmpty] at empty
    cases empty
  unfold abandonedPath at empty ⊢
  split
  next found =>
    rw [found] at empty
    exact .kept rfl rfl empty
  next => exact .refl state

private theorem status_eq_unknown_of_learnAddrs {paths : HashMap (Addr ed) PathState}
    (new : paths.lookup addr = none) {known : PathState}
    (found : (learnAddrs now addrs source paths).lookup addr = some known) :
    known.status = .unknown := by
  have status := status_learnAddrs now addrs source paths addr
  rw [found, new] at status
  split at status
  · exact Option.some.inj status
  · cases status

private theorem answering_insertMultiple :
    Answering state (state.insertMultiple order now addrs source) lookupEnds := by
  unfold insertMultiple
  dsimp only
  split
  next filled =>
    rw [Bool.and_eq_true, Bool.not_eq_true'] at filled
    obtain ⟨addr, known, found⟩ := known_of_not_isEmpty filled.2
    have new := HashMap.isEmpty_iff.mp filled.1 addr
    exact answering_emit_prune found (.inr (status_eq_unknown_of_learnAddrs new found)) rfl rfl
  next notFilled =>
    refine .kept rfl rfl ?_
    intro empty
    apply isEmpty_prunePaths_of_isEmpty
    simpa [empty] using notFilled

/-- No address is left after the addresses were learned: they are all known, and there are none or
all are pruned. -/
def LeavesNone (paths : HashMap (Addr ed) PathState) (addrs : List (Addr ed)) : Prop :=
  (∀ addr ∈ addrs, (paths.lookup addr).isSome = true) ∧
    (HashMap.isEmpty paths = true ∨ PrunesAll paths)

private theorem isEmpty_or_prunesAll_of_status {paths other : HashMap (Addr ed) PathState}
    (same : ∀ addr, (paths.lookup addr).map PathState.status =
      (other.lookup addr).map PathState.status)
    (gone : HashMap.isEmpty paths = true ∨ PrunesAll paths) :
    HashMap.isEmpty other = true ∨ PrunesAll other := by
  have counts (chosen : Addr ed → PathStatus → Bool) :
      HashMap.count (fun addr state => chosen addr state.status) paths =
        HashMap.count (fun addr state => chosen addr state.status) other := by
    apply HashMap.count_congr
    intro addr
    have both := congrArg (Option.any (chosen addr)) (same addr)
    simpa only [Option.any_map, Function.comp_def] using both
  rcases gone with empty | ⟨enough, bad, some, few⟩
  · rw [HashMap.isEmpty_iff] at empty ⊢
    refine .inl fun addr => ?_
    have status := same addr
    rw [empty addr] at status
    exact Option.map_eq_none_iff.mp status.symm
  · have inactive : inactiveCount paths = inactiveCount other :=
      counts fun addr status => !addr.isRelay && status.isInactive
    have lengths : HashMap.len paths = HashMap.len other := by
      simpa [HashMap.count, HashMap.len] using counts fun _ _ => true
    refine .inr ⟨lengths ▸ enough, fun addr state found => ?_, inactive ▸ some, inactive ▸ few⟩
    have status := same addr
    rw [found] at status
    obtain ⟨before, stored, kept⟩ := Option.map_eq_some_iff.mp status
    exact kept ▸ bad addr before stored

private theorem isEmpty_insertMultiple_iff :
    (state.insertMultiple order now addrs source).isEmpty = true ↔
      LeavesNone state.paths addrs := by
  rw [isEmpty, paths_insertMultiple]
  by_cases known : ∀ addr ∈ addrs, (state.paths.lookup addr).isSome = true
  · have same (addr : Addr ed) :
        ((learnAddrs now addrs source state.paths).lookup addr).map PathState.status =
          (state.paths.lookup addr).map PathState.status := by
      rw [status_learnAddrs]
      split
      next learned =>
        obtain ⟨stored, found⟩ := Option.isSome_iff_exists.mp (known addr learned)
        rw [found]
        rfl
      next => rfl
    rw [isEmpty_prune_iff, LeavesNone, and_iff_right known]
    exact ⟨isEmpty_or_prunesAll_of_status same,
      isEmpty_or_prunesAll_of_status fun addr => (same addr).symm⟩
  · refine iff_of_false (fun empty => ?_) fun none => known none.1
    push Not at known
    obtain ⟨addr, learned, new⟩ := known
    rw [ne_eq, Option.not_isSome_iff_eq_none] at new
    have status := status_learnAddrs now addrs source state.paths addr
    rw [if_pos learned] at status
    obtain ⟨stored, found, -⟩ := Option.map_eq_some_iff.mp status
    have kept : (pruneNonRelayPaths order (learnAddrs now addrs source state.paths)).lookup addr =
        some stored := lookup_prune_of_lookup found
      (.inr (.inr (status_eq_unknown_of_learnAddrs new found)))
    rw [HashMap.not_isEmpty_of_lookup kept] at empty
    cases empty

private theorem justified_result (ends : lookupEnds) (error : Option AddressLookupFailed) :
    state.Justified lookupEnds (state.result error) := by
  unfold result
  cases empty : state.isEmpty with
  | false => exact empty
  | true => cases error <;> exact ⟨empty, ends⟩

private theorem pendingResolveRequests_addressLookupFinished
    (result : Except AddressLookupFailed Unit) :
    (state.addressLookupFinished result).pendingResolveRequests = [] := by
  unfold addressLookupFinished
  rw [emitPendingResolveRequests_eq]

private theorem answering_addressLookupFinished (ends : lookupEnds)
    (result : Except AddressLookupFailed Unit) :
    Answering state (state.addressLookupFinished result) lookupEnds := by
  unfold addressLookupFinished
  rw [emitPendingResolveRequests_eq]
  exact .answered _ (justified_result ends _) rfl rfl

private theorem Answering.pending_eq_nil (answering : Answering before after lookupEnds)
    (waits : before.pendingResolveRequests ≠ [] → before.isEmpty = true)
    (notEmpty : after.isEmpty = false) : after.pendingResolveRequests = [] := by
  cases answering with
  | answered result justified pending answers => exact pending
  | kept pending answers empty =>
      rw [pending]
      by_contra waiting
      rw [empty (waits waiting)] at notEmpty
      cases notEmpty

private theorem Answering.waits (answering : Answering before after lookupEnds) {Holds : Prop}
    (waits : before.pendingResolveRequests ≠ [] → before.isEmpty = true ∧ Holds) :
    after.pendingResolveRequests ≠ [] → after.isEmpty = true ∧ Holds := by
  intro waiting
  cases answering with
  | answered result justified pending answers => exact absurd pending waiting
  | kept pending answers empty =>
      rw [pending] at waiting
      exact ⟨empty (waits waiting).1, (waits waiting).2⟩

/-! ## Requests are neither dropped nor doubled -/

private theorem Answering.perm_requests (answering : Answering before after lookupEnds) :
    after.requests.Perm before.requests := by
  unfold requests
  cases answering with
  | answered result justified pending answers =>
      rw [pending, answers, List.map_append, List.map_map]
      simpa [Function.comp_def] using List.perm_append_comm
  | kept pending answers empty => rw [pending, answers]

private theorem perm_requests_resolveRemote (request : Nat) :
    (state.resolveRemote request).requests.Perm (request :: state.requests) := by
  unfold resolveRemote requests
  split
  · rw [List.map_append, ← List.append_assoc]
    exact List.perm_append_singleton _ _
  · rw [List.append_assoc]
    exact List.perm_middle

@[simp] theorem isEmpty_resolveRemote (request : Nat) :
    (state.resolveRemote request).isEmpty = state.isEmpty := by
  unfold isEmpty
  rw [paths_resolveRemote]

private theorem Justified.resolveRemote {result : Except AddressLookupFailed Unit}
    (justified : state.Justified lookupEnds result) (request : Nat) :
    (state.resolveRemote request).Justified lookupEnds result := by
  unfold Justified at justified ⊢
  rw [isEmpty_resolveRemote]
  exact justified

private theorem mem_answers_resolveRemote {request : Nat}
    {answer : Nat × Except AddressLookupFailed Unit}
    (given : answer ∈ (state.resolveRemote request).answers) :
    answer ∈ state.answers ∨ answer = (request, .ok ()) ∧ state.isEmpty = false := by
  unfold RemotePathState.resolveRemote at given
  split at given
  next notEmpty =>
    rw [Bool.not_eq_true'] at notEmpty
    simpa [notEmpty] using given
  next => exact .inl given

end RemotePathState

namespace RemoteStateActor

open RemotePathState

variable {actor : RemoteStateActor ed} {turn : ActorTurn ed} {view : ActorView ed} {connId : ConnId}
  {conn : ConnectionState ed} {lookupEnds : Prop}

/-! ## What a turn does to requests -/

def EndsLookup (turn : ActorTurn ed) : Prop :=
  match turn.input with
  | .addressLookupItem none => True
  | .addressLookupItem (some (.error _)) => True
  | _ => False

private theorem answering_addConnection {isClient : Bool}
    {pathZero : Option (Option (FourTuple ed))} :
    Answering actor.paths (actor.addConnection view connId isClient pathZero).paths lookupEnds := by
  rcases pathZero with _ | _ | path
  · exact .refl actor.paths
  · exact .refl actor.paths
  · unfold addConnection
    dsimp only
    split
    · exact answering_insertOpenPath
    · exact answering_insertOpenPath

private theorem answering_recordPathEvent {event : PathEvent ed} {recorded : RemoteStateActor ed}
    (found : actor.recordPathEvent view connId conn event = some recorded) :
    Answering actor.paths recorded.paths lookupEnds := by
  cases recorded_of_recordPathEvent found with
  | registered pathId networkPath => exact answering_insertOpenPath
  | untold pathId => exact .refl actor.paths
  | abandoned pathId networkPath lost paths marked =>
      rcases marked with rfl | rfl
      · exact .refl actor.paths
      · exact answering_abandonedPath

/-- The state of the addresses after a turn, for a resolve request before the request
itself is put in. -/
theorem answering_step (actor : RemoteStateActor ed) (turn : ActorTurn ed) :
    ∃ middle, Answering actor.paths middle (EndsLookup turn) ∧
      (actor.step turn).paths =
        match turn.input with
        | .resolveRemote _ request => middle.resolveRemote request
        | _ => middle := by
  obtain ⟨view, input⟩ := turn
  cases input with
  | addConnection connId isClient pathZero => exact ⟨_, answering_addConnection, rfl⟩
  | pathEvent connId event =>
      refine ⟨_, ?_, rfl⟩
      cases found : actor.beforeSelect ⟨view, .pathEvent connId event⟩ with
      | some recorded =>
          rw [step_of_beforeSelect found]
          obtain ⟨conn, -, -, recordedEvent⟩ := recordPathEvent_of_beforeSelect found
          show Answering actor.paths recorded.paths _
          exact answering_recordPathEvent recordedEvent
      | none =>
          rw [step_pathEvent_of_skipped found]
          exact .refl actor.paths
  | resolveRemote addrs request =>
      refine ⟨actor.paths.insertMultiple view.addrOrder view.now
        (toTransportsAddr actor.endpointId addrs) .app, answering_insertMultiple, ?_⟩
      simp only [step, handleMsgResolveRemote, paths_triggerAddressLookup]
  | connectionClosed connId => exact ⟨_, .refl actor.paths, rfl⟩
  | scheduledPathOpen => exact ⟨_, .refl actor.paths, rfl⟩
  | addressLookupItem item =>
      refine ⟨_, ?_, rfl⟩
      rcases item with _ | error | item
      · show Answering actor.paths (actor.paths.addressLookupFinished (.ok ())) True
        exact answering_addressLookupFinished trivial _
      · show Answering actor.paths (actor.paths.addressLookupFinished (.error error)) True
        exact answering_addressLookupFinished trivial _
      · simp only [step, handleAddressLookupItem]
        split
        · exact .refl actor.paths
        · exact answering_insertMultiple

private theorem addressLookupStream_step (actor : RemoteStateActor ed) (turn : ActorTurn ed) :
    (actor.step turn).addressLookupStream =
      match turn.input with
      | .resolveRemote _ _ => actor.addressLookupStream || actor.selectedPath.isNone
      | .addressLookupItem none => false
      | .addressLookupItem (some (.error _)) => false
      | _ => actor.addressLookupStream := by
  cases found : actor.beforeSelect turn with
  | some recorded =>
      rw [step_of_beforeSelect found]
      obtain ⟨connections, paths, opening, rfl⟩ := beforeSelect_eq found
      obtain ⟨view, input⟩ := turn
      cases input with
      | addConnection connId isClient pathZero => rfl
      | pathEvent connId event => rfl
      | _ => cases found
  | none =>
      obtain ⟨view, input⟩ := turn
      cases input with
      | addConnection connId isClient pathZero => cases found
      | pathEvent connId event => rw [step_pathEvent_of_skipped found]
      | resolveRemote addrs request =>
          simp only [step, handleMsgResolveRemote, triggerAddressLookup_eq]
      | connectionClosed connId => rfl
      | scheduledPathOpen => rfl
      | addressLookupItem item =>
          rcases item with _ | error | item
          · rfl
          · rfl
          · simp only [step, handleAddressLookupItem]
            split <;> rfl

/-- A request that is not answered finds no path, and an address lookup runs. -/
def WaitsForLookup (actor : RemoteStateActor ed) : Prop :=
  actor.paths.pendingResolveRequests ≠ [] →
    actor.paths.isEmpty = true ∧ actor.addressLookupStream = true

instance : DecidablePred (@WaitsForLookup ed) := fun _ => inferInstanceAs (Decidable (_ → _))

/-- A resolve request that leaves no known path finds no path selected, or an address
lookup running. -/
def FindsLookup (actor : RemoteStateActor ed) (turn : ActorTurn ed) : Prop :=
  match turn.input with
  | .resolveRemote addrs _ =>
      LeavesNone actor.paths.paths (toTransportsAddr actor.endpointId addrs) →
        actor.selectedPath = none ∨ actor.addressLookupStream = true
  | _ => True

private theorem WaitsForLookup.step_iff (waits : actor.WaitsForLookup) (turn : ActorTurn ed) :
    (actor.step turn).WaitsForLookup ↔ actor.FindsLookup turn := by
  obtain ⟨middle, answering, paths⟩ := answering_step actor turn
  have running := addressLookupStream_step actor turn
  have settled := answering.pending_eq_nil fun waiting => (waits waiting).1
  obtain ⟨view, input⟩ := turn
  -- Only a resolve request can begin to wait.
  cases input with
  | resolveRemote addrs request =>
      have left : middle.isEmpty = true ↔
          LeavesNone actor.paths.paths (toTransportsAddr actor.endpointId addrs) := by
        have same : (actor.step ⟨view, .resolveRemote addrs request⟩).paths.isEmpty =
            middle.isEmpty := by
          rw [paths, isEmpty_resolveRemote]
        rw [← same]
        simp only [step, handleMsgResolveRemote, paths_triggerAddressLookup,
          isEmpty_resolveRemote, isEmpty_insertMultiple_iff]
      unfold WaitsForLookup FindsLookup
      rw [paths, running]
      simp only [isEmpty_resolveRemote, ← left]
      cases empty : middle.isEmpty with
      | false => simp [resolveRemote, empty, settled empty]
      | true => simp [resolveRemote, empty, or_comm]
  | addressLookupItem item =>
      refine iff_of_true ?_ trivial
      unfold WaitsForLookup
      rcases item with _ | error | item
      · exact fun waiting => absurd (pendingResolveRequests_addressLookupFinished _) waiting
      · exact fun waiting => absurd (pendingResolveRequests_addressLookupFinished _) waiting
      · rw [paths, running]
        exact answering.waits waits
  | _ =>
      refine iff_of_true ?_ trivial
      unfold WaitsForLookup
      rw [paths, running]
      exact answering.waits waits

/-- The request was made by one of these turns. -/
def Requested (history : List (ActorTurn ed)) (request : Nat) : Prop :=
  ∃ turn ∈ history, ∃ addrs, turn.input = .resolveRemote addrs request

/-- Every request is one that waits or was answered, and none is both or answered
twice. -/
structure Accounted (history : List (ActorTurn ed)) (actor : RemoteStateActor ed) : Prop where
  distinct : actor.paths.requests.Nodup
  complete : ∀ request, request ∈ actor.paths.requests ↔ Requested history request

private theorem Accounted.step {history : List (ActorTurn ed)} (accounted : Accounted history actor)
    (ready : actor.Ready turn) : Accounted (history ++ [turn]) (actor.step turn) := by
  obtain ⟨middle, answering, paths⟩ := answering_step actor turn
  have same := answering.perm_requests
  obtain ⟨view, input⟩ := turn
  cases input with
  | resolveRemote addrs request =>
      have added : (actor.step ⟨view, .resolveRemote addrs request⟩).paths.requests.Perm
          (request :: actor.paths.requests) := by
        rw [paths]
        exact (perm_requests_resolveRemote request).trans (same.cons request)
      constructor
      · rw [added.nodup_iff]
        exact List.nodup_cons.mpr ⟨ready, accounted.distinct⟩
      · intro other
        rw [added.mem_iff, List.mem_cons, accounted.complete]
        simp [Requested, or_comm, or_and_right, exists_or, eq_comm]
  | _ =>
      constructor
      · rw [paths, same.nodup_iff]
        exact accounted.distinct
      · intro other
        rw [paths, same.mem_iff, accounted.complete]
        simp [Requested]

private theorem accounted_of_reaches {endpointId : EndpointId ed} {pathSelector : PathSelector ed}
    {history : List (ActorTurn ed)}
    (reached : (turns endpointId pathSelector).Reaches history actor) :
    Accounted history actor := by
  apply reached.invariant Accounted
  · constructor
    · exact List.nodup_nil
    · simp [turns, new, RemotePathState.new, requests, Requested]
  · intro history actor turn before ready accounted
    exact accounted.step ready

/-- An answer that a turn gives is `Ok` where a path is known, and a failure where none
is and the running address lookup has just ended. -/
theorem justified_step (ready : actor.Ready turn)
    {answer : Nat × Except AddressLookupFailed Unit}
    (given : answer ∈ (actor.step turn).paths.answers) (fresh : answer ∉ actor.paths.answers) :
    (actor.step turn).paths.Justified (EndsLookup turn ∧ actor.addressLookupStream = true)
      answer.2 := by
  obtain ⟨middle, answering, paths⟩ := answering_step actor turn
  have running : EndsLookup turn → actor.addressLookupStream = true := by
    obtain ⟨view, input⟩ := turn
    cases input with
    | addressLookupItem item => exact fun _ => ready
    | _ => exact False.elim
  have inMiddle : answer ∈ middle.answers →
      middle.Justified (EndsLookup turn ∧ actor.addressLookupStream = true) answer.2 := by
    intro inside
    cases answering with
    | answered result justified pending answers =>
        rw [answers, List.mem_append] at inside
        obtain ⟨request, -, rfl⟩ := List.mem_map.mp (inside.resolve_left fresh)
        exact justified.mono fun ends => ⟨ends, running ends⟩
    | kept pending answers empty => exact absurd (answers ▸ inside) fresh
  obtain ⟨view, input⟩ := turn
  cases input with
  | resolveRemote addrs request =>
      rw [paths] at given ⊢
      rcases mem_answers_resolveRemote given with earlier | ⟨rfl, notEmpty⟩
      · exact (inMiddle earlier).resolveRemote request
      · exact (isEmpty_resolveRemote request).trans notEmpty
  | _ =>
      rw [paths] at given ⊢
      exact inMiddle given

/-- In every run no request is answered twice, a request that was made either waits or
was answered, and every answer fits the state it is given in. A run passes only
through states in which a request that waits finds no path and a running address
lookup exactly if every resolve request that finds no path also finds no path
selected or a lookup running. -/
theorem requests_wait_for_lookup_iff_finds_lookup {endpointId : EndpointId ed}
    {pathSelector : PathSelector ed} {history : List (ActorTurn ed)}
    (reached : (turns endpointId pathSelector).Reaches history actor) :
    actor.paths.requests.Nodup ∧
      (∀ request, request ∈ actor.paths.requests ↔ Requested history request) ∧
      (∀ turn, actor.Ready turn → ∀ answer ∈ (actor.step turn).paths.answers,
        answer ∉ actor.paths.answers →
          (actor.step turn).paths.Justified (EndsLookup turn ∧ actor.addressLookupStream = true)
            answer.2) ∧
      ((turns endpointId pathSelector).Throughout WaitsForLookup history ↔
        ((turns endpointId pathSelector).restrict fun _ actor turn =>
          actor.FindsLookup turn).Reaches history actor) := by
  have accounted := accounted_of_reaches reached
  refine ⟨accounted.distinct, accounted.complete, ?_, ?_⟩
  · intro turn ready answer given fresh
    exact justified_step ready given fresh
  · apply reached.throughout_iff_restrict WaitsForLookup
    · exact fun waiting => absurd rfl waiting
    · intro history actor turn before ready waits
      exact waits.step_iff turn

/-- One request fails with its address lookup, the next waits for another lookup, past
a result for some other endpoint. -/
theorem requests_wait_for_lookup_two_lookups :
    let looksUp (item : Option (Except AddressLookupFailed (AddressLookupItem _))) :
        ActorTurn _ := ⟨.ordinary 10 .failed, .addressLookupItem item⟩
    let addrs : List TransportAddr := [.ip (.v4 0x0a000001#32 1)]
    let history : List (ActorTurn _) :=
      [⟨.ordinary 0 .failed, .resolveRemote [] 0⟩,
        looksUp (some (.error .noServiceConfigured)),
        ⟨.ordinary 20 .failed, .resolveRemote [] 1⟩,
        looksUp (some (.ok ⟨Relay.Protos.Crates.smallKey 4 (by decide), addrs, "dns"⟩)),
        looksUp (some (.ok ⟨Relay.Protos.Crates.smallKey 3 (by decide), addrs, "dns"⟩)),
        looksUp none]
    let actor := defaultTurns.runFrom defaultTurns.start history
    actor.paths.answers = [(0, .error .noServiceConfigured), (1, .ok ())] ∧
      actor.paths.requests.Nodup ∧ defaultTurns.Throughout WaitsForLookup history ∧
      (defaultTurns.restrict fun _ actor turn => actor.FindsLookup turn).Reaches history actor := by
  intro looksUp addrs history actor
  have always : defaultTurns.Throughout WaitsForLookup history := by decide +kernel
  have settled := requests_wait_for_lookup_iff_finds_lookup
    (Machine.reaches_runFrom (by decide +kernel : defaultTurns.EnabledFrom [] _ history))
  exact ⟨by decide +kernel, settled.1, always, settled.2.2.2.mp always⟩

/-- Incoming connections 0 to 3 have paths to the ports 0 to 29 and connections 4 to 6
again to the ports 0 to 19, eight paths each; connection 7 has one to port 20. The
first four abandon ten paths three times over. After the first and the second time
resolve requests prune these addresses, and then learn of them again, so that the
status of twenty addresses is unknown when connections 4 to 6 abandon them. -/
def prunedRun : List (ActorTurn Relay.Protos.Crates.reference.ed25519) :=
  let turn (now : Instant) (input : ActorInput Relay.Protos.Crates.reference.ed25519) :
      ActorTurn _ := ⟨.ordinary now .failed, input⟩
  let openPath (connId pathId port : Nat) : ActorTurn _ :=
    if pathId = 0 then turn 10 (.addConnection connId false (some (some (.toPort (.ofNat port)))))
    else turn 10 (.pathEvent connId (.established pathId (some (some (.toPort (.ofNat port))))))
  let connect (connId ports : Nat) : List (ActorTurn _) :=
    (List.range ports).map fun port => openPath (connId + port / 8) (port % 8) port
  let abandon (now : Instant) (connId first : Nat) : List (ActorTurn _) :=
    (List.range' first 10).map fun port =>
      turn now (.pathEvent (connId + port / 8) (.abandoned (port % 8)))
  let learn (first request : Nat) : ActorTurn _ :=
    turn 30 (.resolveRemote ((List.range' first 10).map fun port =>
      .ip (.v4 0x0a000001#32 (.ofNat port))) request)
  connect 0 30 ++ connect 4 20 ++ [openPath 7 0 20] ++
    abandon 20 0 0 ++ [turn 25 (.resolveRemote [] 0)] ++
    abandon 30 0 10 ++ [learn 0 1, learn 10 2] ++
    abandon 40 0 20 ++ abandon 40 4 0 ++ abandon 40 4 10 ++
    (List.range 7).map (fun connId => turn 50 (.connectionClosed connId)) ++
    [turn 60 (.resolveRemote [] 3)]

/-- Connection 7 still has its path, which is selected, but no address is known any
more: the last request waits and no address lookup runs. -/
theorem request_waits_without_lookup_after_pruning :
    let actor := defaultTurns.runFrom defaultTurns.start prunedRun
    defaultTurns.Reaches prunedRun actor ∧
      actor.paths.pendingResolveRequests = [3] ∧ actor.paths.isEmpty = true ∧
      actor.addressLookupStream = false ∧ actor.selectedPath = some (.toPort 20) ∧
      (actor.connections.lookup 7).bind (fun conn => conn.paths.lookup 0) = actor.selectedPath ∧
      ¬ actor.WaitsForLookup :=
  -- The kernel walks through the run once for all parts.
  And.imp_left Machine.reaches_runFrom (by decide +kernel)

end RemoteStateActor

end NexalinkTunnel.Socket
