import NexalinkTunnel.Socket.RemoteMap.RemoteState

/-!
Contract: the queue of paths that could not be opened yet.

Owns which paths a turn of the actor attempts to open, how often and on which connections,
what it adds to `pending_open_paths`, and when the queue holds every path at most once.

## Why it grows

An attempt that fails for lack of connection ids puts its path at the end of the
queue, whether or not the path waits there. Every turn that selects a path
attempts the selected one on every client connection without it, and a retry
attempts each queued path on every such connection.
-/

namespace NexalinkTunnel.Socket

open Lib Base

variable {ed : Ed25519}

def OpenPathResult.isExhausted : OpenPathResult → Bool
  | .remoteCidsExhausted | .maxPathIdReached => true
  | .opening _ | .failed => false

/-- The connection is the client's and does not have the path. -/
def ConnectionState.lacks (conn : ConnectionState ed) (path : FourTuple ed) : Bool :=
  conn.isClient && !(HashMap.values conn.paths).contains path

def PathCommand.attempted : PathCommand ed → Option (FourTuple ed)
  | .openPath _ path _ _ => some path
  | _ => none

/-- How often each path is attempted on each connection. -/
abbrev Tries (ed : Ed25519) := ConnId → FourTuple ed → Nat

namespace OpenPathState

/-- The connections and the numbers of the attempts that fail to open the path because of
exhausted connection ids, of those that are made next. -/
def failures (view : ActorView ed) (tries : Tries ed) (opening : OpenPathState ed)
    (path : FourTuple ed) : Set (ConnId × Nat) :=
  {attempt | opening.attempts attempt.1 path ≤ attempt.2 ∧
    attempt.2 < opening.attempts attempt.1 path + tries attempt.1 path ∧
    (view.openPathEnsure attempt.1 path attempt.2).isExhausted = true}

/-- These attempts were made, and the queue took a path for each that failed so. -/
structure Extends (view : ActorView ed) (tries : Tries ed) (before after : OpenPathState ed) :
    Prop where
  attempts : ∀ connId path,
    after.attempts connId path = before.attempts connId path + tries connId path
  queue : ∃ added, after.pendingOpenPaths = before.pendingOpenPaths ++ added ∧
    ∀ path, (added.count path : ℕ∞) = (failures view tries before path).encard

variable {before middle after opening : OpenPathState ed} {view : ActorView ed}
  {selectedPath : Option (FourTuple ed)} {selected openAddr : FourTuple ed}
  {connId : ConnId} {conn : ConnectionState ed} {tries later : Tries ed}

theorem failures_zero (view : ActorView ed) (opening : OpenPathState ed) (path : FourTuple ed) :
    failures view 0 opening path = ∅ := by
  ext attempt
  simp only [failures, Pi.zero_apply, Nat.add_zero, Set.mem_ofPred_eq, Set.mem_empty_iff_false,
    iff_false]
  omega

private theorem failures_add (made : ∀ connId path,
      middle.attempts connId path = before.attempts connId path + tries connId path)
    (path : FourTuple ed) :
    (failures view (tries + later) before path).encard =
      (failures view tries before path).encard + (failures view later middle path).encard := by
  rw [← Set.encard_union_eq]
  · congr 1
    ext attempt
    have := made attempt.1 path
    simp only [failures, Set.mem_union, Set.mem_ofPred_eq, Pi.add_apply]
    grind
  · rw [Set.disjoint_left]
    intro attempt first second
    have := made attempt.1 path
    have := first.2.1
    have := second.1
    omega

theorem Extends.refl (view : ActorView ed) (opening : OpenPathState ed) :
    Extends view 0 opening opening where
  attempts _ _ := rfl
  queue := ⟨[], by simp, fun path => by simp [failures_zero]⟩

theorem Extends.trans (first : Extends view tries before middle)
    (second : Extends view later middle after) : Extends view (tries + later) before after where
  attempts connId path := by
    rw [second.attempts, first.attempts, Nat.add_assoc]
    rfl
  queue := by
    obtain ⟨added, pending, counted⟩ := first.queue
    obtain ⟨more, laterPending, laterCounted⟩ := second.queue
    refine ⟨added ++ more, by rw [laterPending, pending, List.append_assoc], fun path => ?_⟩
    rw [List.count_append, Nat.cast_add, counted, laterCounted, failures_add first.attempts]

theorem Extends.trans_quiet (first : Extends view tries before middle)
    (second : Extends view 0 middle after) : Extends view tries before after := by
  simpa using first.trans second

private theorem Extends.quiet_trans (first : Extends view 0 before middle)
    (second : Extends view tries middle after) : Extends view tries before after := by
  simpa using first.trans second

private theorem extends_foldl_quiet {Entry : Type}
    {body : OpenPathState ed → Entry → OpenPathState ed}
    (extended : ∀ opening entry, Extends view 0 opening (body opening entry))
    (entries : List Entry) (opening : OpenPathState ed) :
    Extends view 0 opening (entries.foldl body opening) := by
  induction entries generalizing opening with
  | nil => exact .refl view opening
  | cons entry entries inductionHypothesis =>
      exact (extended opening entry).trans_quiet (inductionHypothesis _)

private theorem extends_foldl {Entry : Type} {body : OpenPathState ed → Entry → OpenPathState ed}
    {attempts : ConnId → FourTuple ed → Entry → Bool}
    (extended : ∀ opening entry,
      Extends view (fun connId path => (attempts connId path entry).toNat) opening
        (body opening entry))
    (entries : List Entry) (opening : OpenPathState ed) :
    Extends view (fun connId path => entries.countP (attempts connId path)) opening
      (entries.foldl body opening) := by
  induction entries generalizing opening with
  | nil => exact .refl view opening
  | cons entry entries inductionHypothesis =>
      have both := (extended opening entry).trans (inductionHypothesis _)
      have counts : (fun connId path => (entry :: entries).countP (attempts connId path)) =
          (fun connId path => (attempts connId path entry).toNat) +
            fun connId path => entries.countP (attempts connId path) := by
        funext connId path
        rw [List.countP_cons, Nat.add_comm]
        simp [Bool.toNat, Bool.cond_eq_ite]
      rw [counts]
      exact both

private theorem extends_call {command : PathCommand ed}
    (other : ∀ connId path, command.opens connId path = false) :
    Extends view 0 opening (opening.call command) where
  attempts connId path := by simp [attempts, call, other]
  queue := ⟨[], by simp [call], fun path => by simp [failures_zero]⟩

def tryOnce (connId : ConnId) (path : FourTuple ed) : Tries ed := fun other attempted =>
  if connId = other ∧ path = attempted then 1 else 0

private theorem failures_tryOnce {path : FourTuple ed} :
    failures view (tryOnce connId openAddr) opening path =
      if openAddr = path ∧
          (view.openPathEnsure connId openAddr (opening.attempts connId openAddr)).isExhausted then
        {(connId, opening.attempts connId openAddr)}
      else ∅ := by
  ext ⟨other, number⟩
  simp only [failures, tryOnce, Set.mem_ofPred_eq]
  grind

private theorem extends_attempt {status : QuicPathStatus} {result : OpenPathResult}
    (answered : view.openPathEnsure connId openAddr (opening.attempts connId openAddr) = result)
    (commands : after.commands = opening.commands ++ [.openPath connId openAddr status result])
    (pending : after.pendingOpenPaths =
      opening.pendingOpenPaths ++ if result.isExhausted then [openAddr] else []) :
    Extends view (tryOnce connId openAddr) opening after where
  attempts other path := by
    rw [attempts, attempts, commands, List.countP_append, List.countP_singleton, tryOnce]
    simp [PathCommand.opens]
  queue := by
    refine ⟨_, pending, fun path => ?_⟩
    rw [failures_tryOnce, answered]
    cases result.isExhausted with
    | false => simp
    | true =>
        by_cases same : openAddr = path
        · simp [same]
        · simp [same]

theorem extends_openPathOnConn :
    Extends view (fun other path => (decide (connId = other ∧ openAddr = path) &&
        conn.lacks openAddr).toNat) opening
      (opening.openPathOnConn view selectedPath connId conn openAddr) := by
  unfold openPathOnConn
  cases lacks : conn.lacks openAddr with
  | false =>
      have skipped : conn.isClient = false ∨ (HashMap.values conn.paths).contains openAddr := by
        cases client : conn.isClient with
        | false => exact .inl rfl
        | true => simpa [ConnectionState.lacks, client] using lacks
      simp only [Bool.and_false, Bool.toNat_false]
      rcases skipped with server | tracked
      · rw [if_pos (by simp [server])]
        exact .refl view opening
      · simp only [tracked, if_true, ite_self]
        exact .refl view opening
  | true =>
      obtain ⟨client, untracked⟩ := Bool.and_eq_true_iff.mp lacks
      have once : (fun other path => (decide (connId = other ∧ openAddr = path) && true).toNat) =
          tryOnce connId openAddr := by
        funext other path
        simp [tryOnce, Bool.toNat, Bool.cond_eq_ite]
      rw [once, if_neg (by simp [client]), if_neg (by simpa using untracked)]
      dsimp only
      cases answered : view.openPathEnsure connId openAddr (opening.attempts connId openAddr) <;>
        exact extends_attempt answered rfl (by simp [call, OpenPathResult.isExhausted])

/-- The path may be attempted on the connection: it exists, is the client's and does not have the
path. -/
def mayTry (view : ActorView ed) (connections : HashMap ConnId (ConnectionState ed))
    (connId : ConnId) (path : FourTuple ed) : Bool :=
  view.upgrades connId && (connections.lookup connId).any fun conn => conn.lacks path

private theorem extends_foldl_conns {body : OpenPathState ed → ConnId × ConnectionState ed →
      OpenPathState ed} {path : FourTuple ed}
    (extended : ∀ opening entry,
      Extends view (fun connId other => (decide (entry.1 = connId ∧ path = other) &&
        (view.upgrades entry.1 && entry.2.lacks path)).toNat) opening (body opening entry))
    (connections : HashMap ConnId (ConnectionState ed)) (opening : OpenPathState ed) :
    Extends view
      (fun connId other => (decide (path = other) && mayTry view connections connId other).toNat)
      opening ((HashMap.iter view.connectionOrder connections).foldl body opening) := by
  have counted : (fun connId other => (HashMap.iter view.connectionOrder connections).countP
      fun entry => decide (entry.1 = connId ∧ path = other) &&
        (view.upgrades entry.1 && entry.2.lacks path)) =
      fun connId other =>
        (decide (path = other) && mayTry view connections connId other).toNat := by
    funext connId other
    have keyed := HashMap.countP_iter_key view.connectionOrder connections connId
      fun conn => decide (path = other) && (view.upgrades connId && conn.lacks path)
    rw [mayTry]
    convert keyed using 1
    · apply List.countP_congr
      intro entry inside
      grind
    · by_cases same : path = other
      · cases connections.lookup connId <;> simp [same]
      · simp [same]
  rw [← counted]
  exact extends_foldl extended _ _

private theorem extends_applyToConn (opening : OpenPathState ed)
    (entry : ConnId × ConnectionState ed) :
    Extends view (fun connId other => (decide (entry.1 = connId ∧ selected = other) &&
        (view.upgrades entry.1 && entry.2.lacks selected)).toNat) opening
      (applyToConn view selected opening entry) := by
  unfold applyToConn
  cases view.upgrades entry.1 with
  | false => 
      simp only [Bool.false_and, Bool.and_false, Bool.toNat_false, Bool.false_eq_true, if_false]
      exact .refl view opening
  | true =>
      rw [if_pos rfl]
      refine extends_openPathOnConn.trans_quiet (extends_foldl_quiet ?_ _ _)
      intro opening path
      unfold applyToPath
      split
      · exact .refl view opening
      · split
        · exact extends_call fun _ _ => rfl
        · exact extends_call fun _ _ => rfl

end OpenPathState

namespace RemoteStateActor

open OpenPathState

variable {actor : RemoteStateActor ed} {turn : ActorTurn ed} {view : ActorView ed}
  {connId : ConnId} {conn : ConnectionState ed} {pathId : PathId} {path : FourTuple ed}

/-! ## The attempts of a turn -/

def isRetry (turn : ActorTurn ed) : Bool :=
  match turn.input with
  | .scheduledPathOpen => true
  | _ => false

/-- The path is attempted because a new client connection has a direct path and the remote has a
relay. -/
def racesRelay (actor : RemoteStateActor ed) (turn : ActorTurn ed) (connId : ConnId)
    (path : FourTuple ed) : Bool :=
  match turn.input with
  | .addConnection added isClient (some (some first)) =>
      !first.isRelay && isClient && (decide (added = connId) && path.isRelay &&
        (actor.paths.paths.lookup path.remote).isSome)
  | _ => false

/-- The path is attempted because it is selected. -/
def appliesSelection (actor : RemoteStateActor ed) (turn : ActorTurn ed) (connId : ConnId)
    (path : FourTuple ed) : Bool :=
  actor.selects turn && decide ((actor.selection turn).or actor.selectedPath = some path) &&
    mayTry turn.view (actor.offered turn) connId path

/-- How often a turn attempts a path on a connection. -/
def tries (actor : RemoteStateActor ed) (turn : ActorTurn ed) : Tries ed := fun connId path =>
  (if isRetry turn && mayTry turn.view actor.connections connId path then
    actor.opening.pendingOpenPaths.count path else 0) +
    (actor.racesRelay turn connId path).toNat + (actor.appliesSelection turn connId path).toNat

private theorem extends_openPathOnAllConns (opening : OpenPathState ed) (path : FourTuple ed) :
    Extends view (fun connId other =>
        (decide (path = other) && mayTry view actor.connections connId other).toNat) opening
      (actor.openPathOnAllConns view opening path) := by
  apply extends_foldl_conns
  intro opening entry
  cases view.upgrades entry.1 with
  | false =>
      simp only [Bool.false_and, Bool.and_false, Bool.toNat_false, Bool.false_eq_true, if_false]
      exact .refl view opening
  | true => exact extends_openPathOnConn

private theorem extends_retry :
    Extends view (fun connId path => if mayTry view actor.connections connId path then
        actor.opening.pendingOpenPaths.count path else 0)
      { actor.opening with scheduledOpenPath := none, pendingOpenPaths := [] }
      (actor.retryOpenPaths view).opening := by
  have counted : (fun connId path => actor.opening.pendingOpenPaths.countP fun waiting =>
      decide (waiting = path) && mayTry view actor.connections connId path) =
      fun connId path => if mayTry view actor.connections connId path then
        actor.opening.pendingOpenPaths.count path else 0 := by
    funext connId path
    cases mayTry view actor.connections connId path with
    | false => simp
    | true => simp [List.count, beq_eq_decide]
  rw [← counted]
  exact extends_foldl extends_openPathOnAllConns _ _

private theorem extends_selectPath (view : ActorView ed) (actor : RemoteStateActor ed) :
    Extends view (fun connId path =>
        (decide ((actor.choice view).or actor.selectedPath = some path) &&
          mayTry view actor.connections connId path).toNat)
      actor.opening (actor.selectPath view).opening := by
  show Extends view _ actor.opening (applySelectedPath view
    { actor with selectedPath := (actor.choice view).or actor.selectedPath })
  unfold applySelectedPath
  cases (actor.choice view).or actor.selectedPath with
  | none => exact .refl view _
  | some selected =>
      simp only [Option.some.injEq]
      exact extends_foldl_conns extends_applyToConn _ _

theorem extends_registerAndConfigurePath (actor : RemoteStateActor ed) :
    Extends view 0 actor.opening
      (actor.registerAndConfigurePath view connId conn pathId path).opening := by
  unfold registerAndConfigurePath setPathStatus
  dsimp only
  split
  next => exact (extends_call fun _ _ => rfl).trans_quiet (extends_call fun _ _ => rfl)
  next => exact extends_call fun _ _ => rfl

theorem mem_relayPaths :
    path ∈ actor.relayPaths view ↔
      path.isRelay = true ∧ (actor.paths.paths.lookup path.remote).isSome = true := by
  simp only [relayPaths, List.mem_map, List.mem_filter, Prod.exists, HashMap.mem_iter,
    Option.isSome_iff_exists]
  constructor
  · rintro ⟨addr, state, ⟨found, isRelay⟩, rfl⟩
    cases addr with
    | relay url endpointId => exact ⟨rfl, state, found⟩
    | _ => cases isRelay
  · rintro ⟨isRelay, state, found⟩
    cases path with
    | relay url endpointId => exact ⟨.relay url endpointId, state, ⟨found, rfl⟩, rfl⟩
    | _ => cases isRelay

private theorem nodup_relayPaths (actor : RemoteStateActor ed) : (actor.relayPaths view).Nodup := by
  have distinct : (((HashMap.iter view.addrOrder actor.paths.paths).filter
      fun entry => entry.1.isRelay).map Prod.fst).Nodup :=
    (HashMap.nodup_keys_iter _ _).sublist (List.filter_sublist.map Prod.fst)
  have inverse : Function.LeftInverse FourTuple.remote (FourTuple.fromRemote : Addr ed → _) :=
    fun addr => by cases addr <;> rfl
  have mapped := distinct.map inverse.injective
  rw [List.map_map] at mapped
  exact mapped

private theorem isSome_lookup_registered {first : FourTuple ed} (direct : first.isRelay = false)
    (isRelay : path.isRelay = true) :
    ((actor.registerAndConfigurePath view connId conn pathId first).paths.paths.lookup
        path.remote).isSome = (actor.paths.paths.lookup path.remote).isSome := by
  have remoteIsRelay : path.remote.isRelay = true := by
    cases path with
    | relay => rfl
    | _ => cases isRelay
  have different : path.remote ≠ first.remote := by
    intro same
    rw [same] at remoteIsRelay
    cases first with
    | relay => cases direct
    | _ => cases remoteIsRelay
  rw [registerAndConfigurePath, RemotePathState.paths_insertOpenPath,
    lookup_prune_of_isRelay remoteIsRelay, HashMap.lookup_update_ne different]

/-- Every relay path is attempted once on a client connection that has none of them. -/
theorem extends_relayPaths (actor : RemoteStateActor ed) (connId : ConnId)
    (client : conn.isClient = true)
    (direct : ∀ other ∈ HashMap.values conn.paths, other.isRelay = false)
    (selectedPath : Option (FourTuple ed)) (opening : OpenPathState ed) :
    Extends view (fun other path => (decide (connId = other) && path.isRelay &&
        (actor.paths.paths.lookup path.remote).isSome).toNat) opening
      ((actor.relayPaths view).foldl (fun opening openAddr =>
        opening.openPathOnConn view selectedPath connId conn openAddr) opening) := by
  have counted : (fun other path => (actor.relayPaths view).countP fun openAddr =>
      decide (connId = other ∧ openAddr = path) && conn.lacks openAddr) =
      fun other path => (decide (connId = other) && path.isRelay &&
        (actor.paths.paths.lookup path.remote).isSome).toNat := by
    funext other path
    have same : ∀ openAddr ∈ actor.relayPaths view,
        ((decide (connId = other ∧ openAddr = path) && conn.lacks openAddr) = true ↔
          (decide (connId = other) && openAddr == path) = true) := by
      intro openAddr inside
      have lacks : conn.lacks openAddr = true := by
        have untracked : openAddr ∉ HashMap.values conn.paths := fun tracked => by
          have isRelay := (mem_relayPaths.mp inside).1
          rw [direct openAddr tracked] at isRelay
          cases isRelay
        simpa [ConnectionState.lacks, client] using untracked
      simp [lacks]
    rw [List.countP_congr same]
    by_cases own : connId = other
    · simp only [own, decide_true, Bool.true_and]
      change (actor.relayPaths view).count path = _
      rw [(nodup_relayPaths actor).count]
      simp only [mem_relayPaths, Bool.toNat, Bool.cond_eq_ite, Bool.and_eq_true]
    · simp [own]
  rw [← counted]
  exact extends_foldl (fun opening openAddr => extends_openPathOnConn) _ _

private theorem extends_addConnection {isClient : Bool}
    {pathZero : Option (Option (FourTuple ed))} :
    Extends view (fun other path =>
        (actor.racesRelay ⟨view, .addConnection connId isClient pathZero⟩ other path).toNat)
      actor.opening (actor.addConnection view connId isClient pathZero).opening := by
  rcases pathZero with _ | _ | first
  · exact .refl view _
  · exact .refl view _
  · unfold addConnection
    dsimp only
    set stored : RemoteStateActor ed := { actor with
      connections := (actor.connections.erase connId).insert connId ⟨isClient, ∅, false⟩ }
    set registered := stored.registerAndConfigurePath view connId ⟨isClient, ∅, false⟩ 0 first
      with registered_eq
    have recorded : Extends view 0 actor.opening registered.opening :=
      extends_registerAndConfigurePath stored
    cases raced : !first.isRelay && isClient with
    | false =>
        simp only [racesRelay, raced, Bool.false_and, Bool.toNat_false, Bool.false_eq_true,
          if_false]
        exact recorded
    | true =>
        obtain ⟨direct, client⟩ := Bool.and_eq_true_iff.mp raced
        rw [Bool.not_eq_true'] at direct
        have only : ∀ other ∈ HashMap.values
            (ConnectionState.addOpenPath ⟨isClient, ∅, false⟩ first 0).paths,
            other.isRelay = false := by
          intro other inside
          obtain rfl : other = first := List.mem_singleton.mp inside
          exact direct
        have same : (fun other path => (actor.racesRelay
            ⟨view, .addConnection connId isClient (some (some first))⟩ other path).toNat) =
            fun other path => (decide (connId = other) && path.isRelay &&
              (registered.paths.paths.lookup path.remote).isSome).toNat := by
          funext other path
          simp only [racesRelay, raced, Bool.true_and]
          cases isRelay : path.isRelay with
          | false => simp
          | true => rw [isSome_lookup_registered direct isRelay]
        rw [same]
        exact recorded.quiet_trans (extends_relayPaths registered connId client only _ _)

/-! ## What a turn adds to the queue -/

private theorem extends_beforeSelect {recorded : RemoteStateActor ed}
    (found : actor.beforeSelect turn = some recorded) :
    Extends turn.view (fun connId path => (actor.racesRelay turn connId path).toNat) actor.opening
      recorded.opening := by
  obtain ⟨view, input⟩ := turn
  cases input with
  | addConnection connId isClient pathZero =>
      cases found
      exact extends_addConnection
  | pathEvent connId event =>
      obtain ⟨conn, -, -, recordedEvent⟩ := recordPathEvent_of_beforeSelect found
      cases recorded_of_recordPathEvent recordedEvent with
      | registered pathId networkPath => exact extends_registerAndConfigurePath actor
      | untold pathId => exact .refl view _
      | abandoned pathId networkPath lost paths marked => exact .refl view _
  | _ => cases found

private theorem isRetry_of_selects (selects : actor.selects turn = true) :
    isRetry turn = false := by
  obtain ⟨view, input⟩ := turn
  cases input with
  | scheduledPathOpen => cases selects
  | _ => rfl

private theorem racesRelay_of_not_selects (skipped : actor.selects turn = false) :
    actor.racesRelay turn connId path = false := by
  obtain ⟨view, input⟩ := turn
  cases input with
  | addConnection added isClient pathZero => cases skipped
  | _ => rfl

/-- A turn adds to the queue, except that a retry empties it first. -/
theorem extends_step (actor : RemoteStateActor ed) (turn : ActorTurn ed) :
    Extends turn.view (actor.tries turn)
      (if isRetry turn then
        { actor.opening with scheduledOpenPath := none, pendingOpenPaths := [] }
      else actor.opening)
      (actor.step turn).opening := by
  cases found : actor.beforeSelect turn with
  | some recorded =>
      have before := extends_beforeSelect found
      obtain ⟨selects, paths, opening, rfl⟩ := beforeSelect_eq found
      have tries : actor.tries turn =
          (fun connId path => (actor.racesRelay turn connId path).toNat) +
            fun connId path => (actor.appliesSelection turn connId path).toNat := by
        funext connId path
        simp [RemoteStateActor.tries, isRetry_of_selects selects]
      rw [step_of_beforeSelect found, isRetry_of_selects selects, tries]
      refine before.trans ?_
      simp only [appliesSelection, selects, Bool.true_and]
      exact extends_selectPath turn.view
        { actor with connections := actor.offered turn, paths := paths, opening := opening }
  | none =>
      have skipped := selects_eq_false_of_beforeSelect found
      have tries : actor.tries turn = fun connId path =>
          if isRetry turn && mayTry turn.view actor.connections connId path then
            actor.opening.pendingOpenPaths.count path else 0 := by
        funext connId path
        simp [RemoteStateActor.tries, appliesSelection, skipped, racesRelay_of_not_selects skipped]
      rw [tries]
      obtain ⟨view, input⟩ := turn
      cases input with
      | addConnection connId isClient pathZero => cases found
      | scheduledPathOpen => exact extends_retry
      | pathEvent connId event =>
          rw [step_pathEvent_of_skipped found]
          exact .refl view _
      | resolveRemote addrs request =>
          simp only [step, handleMsgResolveRemote, opening_triggerAddressLookup]
          exact .refl view _
      | connectionClosed connId => exact .refl view _
      | addressLookupItem item =>
          simp only [step, opening_handleAddressLookupItem]
          exact .refl view _

/-- A turn queues a path for one failed attempt at most, and only if the path does not wait
already. -/
def QueuesOnce (actor : RemoteStateActor ed) (turn : ActorTurn ed) : Prop :=
  ∀ path, (actor.opening.failures turn.view (actor.tries turn) path).Subsingleton ∧
    ((actor.opening.failures turn.view (actor.tries turn) path).Nonempty →
      isRetry turn = true ∨ path ∉ actor.opening.pendingOpenPaths)

def QueueDistinct (actor : RemoteStateActor ed) : Prop :=
  actor.opening.pendingOpenPaths.Nodup

def attemptedPaths (actor : RemoteStateActor ed) : List (FourTuple ed) :=
  actor.opening.commands.filterMap PathCommand.attempted

instance : DecidablePred (@QueueDistinct ed) := fun actor =>
  inferInstanceAs (Decidable actor.opening.pendingOpenPaths.Nodup)

private theorem pendingOpenPaths_step (actor : RemoteStateActor ed) (turn : ActorTurn ed) :
    ∃ added, (actor.step turn).opening.pendingOpenPaths =
        (if isRetry turn then [] else actor.opening.pendingOpenPaths) ++ added ∧
      ∀ path, (added.count path : ℕ∞) =
        (actor.opening.failures turn.view (actor.tries turn) path).encard := by
  obtain ⟨added, pending, counted⟩ := (extends_step actor turn).queue
  refine ⟨added, ?_, ?_⟩
  · rw [pending]
    split <;> rfl
  · intro path
    rw [counted]
    split <;> rfl

private theorem QueueDistinct.step_iff (distinct : actor.QueueDistinct) (turn : ActorTurn ed) :
    (actor.step turn).QueueDistinct ↔ actor.QueuesOnce turn := by
  obtain ⟨added, pending, counted⟩ := pendingOpenPaths_step actor turn
  have waits : (if isRetry turn then [] else actor.opening.pendingOpenPaths).Nodup := by
    split
    · exact List.nodup_nil
    · exact distinct
  have once : added.Nodup ↔ ∀ path,
      (actor.opening.failures turn.view (actor.tries turn) path).Subsingleton := by
    rw [List.nodup_iff_count_le_one]
    refine forall_congr' fun path => ?_
    rw [← Set.encard_le_one_iff_subsingleton, ← counted, Nat.cast_le_one]
  have mem : ∀ path, path ∈ added ↔
      (actor.opening.failures turn.view (actor.tries turn) path).Nonempty := by
    intro path
    rw [← Set.encard_pos, ← counted, Nat.cast_pos, List.count_pos_iff]
  unfold QueueDistinct QueuesOnce
  rw [pending, List.nodup_append', forall_and, ← once]
  simp only [← mem]
  cases isRetry turn with
  | true => simp
  | false =>
      simp only [Bool.false_eq_true, if_false, false_or]
      constructor
      · intro split
        exact ⟨split.2.1, fun path inside waiting => split.2.2 waiting inside⟩
      · intro once
        exact ⟨distinct, once.1, fun path waiting inside => once.2 path inside waiting⟩

/-! ## The queue and the attempts -/

def QueueAttempted (actor : RemoteStateActor ed) : Prop :=
  actor.opening.pendingOpenPaths ⊆ actor.attemptedPaths

private theorem mem_attemptedPaths :
    path ∈ actor.attemptedPaths ↔ ∃ connId, 0 < actor.opening.attempts connId path := by
  simp only [attemptedPaths, List.mem_filterMap, attempts, List.countP_pos_iff]
  constructor
  · rintro ⟨command, inside, attempted⟩
    cases command with
    | openPath connId other status result =>
        cases attempted
        exact ⟨connId, _, inside, by simp [PathCommand.opens]⟩
    | _ => cases attempted
  · rintro ⟨connId, command, inside, opens⟩
    cases command with
    | openPath other attempted status result =>
        refine ⟨_, inside, congrArg some ?_⟩
        simpa [PathCommand.opens] using (Bool.and_eq_true_iff.mp opens).2
    | _ => cases opens

private theorem QueueAttempted.step (attempted : actor.QueueAttempted) (turn : ActorTurn ed) :
    (actor.step turn).QueueAttempted := by
  have attempts : ∀ connId path, (actor.step turn).opening.attempts connId path =
      actor.opening.attempts connId path + actor.tries turn connId path := by
    intro connId path
    rw [(extends_step actor turn).attempts]
    split <;> rfl
  obtain ⟨added, pending, counted⟩ := pendingOpenPaths_step actor turn
  intro path waits
  rw [pending, List.mem_append] at waits
  rw [mem_attemptedPaths]
  rcases waits with waited | new
  · have before : path ∈ actor.opening.pendingOpenPaths := by
      split at waited
      · cases waited
      · exact waited
    obtain ⟨connId, made⟩ := mem_attemptedPaths.mp (attempted before)
    exact ⟨connId, by rw [attempts]; omega⟩
  · rw [← List.count_pos_iff, ← (Nat.cast_pos : (0 : ℕ∞) < _ ↔ _), counted, Set.encard_pos] at new
    obtain ⟨⟨connId, number⟩, made, below, -⟩ := new
    exact ⟨connId, by rw [attempts]; exact Nat.zero_lt_of_lt below⟩


private theorem queueAttempted_of_reaches {endpointId : EndpointId ed}
    {pathSelector : PathSelector ed} {history : List (ActorTurn ed)}
    (reached : (turns endpointId pathSelector).Reaches history actor) : actor.QueueAttempted := by
  apply reached.invariant fun _ actor => actor.QueueAttempted
  · exact List.nil_subset _
  · intro history actor turn before ready attempted
    exact attempted.step turn

/-- In all states of a run no path waits twice exactly if every turn queues a path at
most once and only if it does not wait already; and as long as no path waits twice,
the queue is no longer than the number of paths that were ever attempted. -/
theorem queue_distinct_iff_queues_once {endpointId : EndpointId ed}
    {pathSelector : PathSelector ed} {history : List (ActorTurn ed)}
    {actor : RemoteStateActor ed}
    (reached : (turns endpointId pathSelector).Reaches history actor) :
    ((turns endpointId pathSelector).Throughout QueueDistinct history ↔
      ((turns endpointId pathSelector).restrict fun _ actor turn =>
        actor.QueuesOnce turn).Reaches history actor) ∧
    (actor.QueueDistinct →
      actor.opening.pendingOpenPaths.length ≤ actor.attemptedPaths.dedup.length) := by
  constructor
  · apply reached.throughout_iff_restrict QueueDistinct
    · exact List.nodup_nil
    · intro history actor turn before ready distinct
      exact distinct.step_iff turn
  · intro distinct
    apply (List.subperm_of_subset distinct _).length_le
    intro path waiting
    exact List.mem_dedup.mpr (queueAttempted_of_reaches reached waiting)

/-- A path waits, and is opened by the retry. -/
theorem queue_distinct_retry_opens :
    let exhausted : OpenPathResult := .remoteCidsExhausted
    let history : List (ActorTurn _) :=
      [⟨.ordinary 0 exhausted, .addConnection 0 true (some (some (.toPort 1)))⟩,
        ⟨.ordinary 10 exhausted, .addConnection 1 true (some (some (.toPort 2)))⟩,
        ⟨.ordinary 343 (.opening 1), .scheduledPathOpen⟩]
    let actor := defaultTurns.runFrom defaultTurns.start history
    actor.attemptedPaths = [.toPort 1, .toPort 1] ∧
      (defaultTurns.restrict fun _ actor turn => actor.QueuesOnce turn).Reaches history actor ∧
      actor.opening.pendingOpenPaths.length ≤ actor.attemptedPaths.dedup.length := by
  intro exhausted history actor
  have reached : defaultTurns.Reaches history actor :=
    Machine.reaches_runFrom (by decide)
  have always : defaultTurns.Throughout QueueDistinct history := by decide
  exact ⟨by decide, (queue_distinct_iff_queues_once reached).1.mp always,
    (queue_distinct_iff_queues_once reached).2 (always.last reached)⟩

/-- Two connections without the selected path find no connection ids, and the retry
finds none either. -/
theorem queue_repeats_selected_path :
    let exhausted : OpenPathResult := .remoteCidsExhausted
    let history : List (ActorTurn _) :=
      [⟨.ordinary 0 exhausted, .addConnection 0 true (some (some (.toPort 1)))⟩,
        ⟨.ordinary 10 exhausted, .addConnection 1 true (some (some (.toPort 2)))⟩,
        ⟨.ordinary 20 exhausted, .addConnection 2 true (some (some (.toPort 3)))⟩,
        ⟨.ordinary 353 exhausted, .scheduledPathOpen⟩]
    let queued := defaultTurns.runFrom defaultTurns.start (history.take 3)
    let retried := defaultTurns.runFrom defaultTurns.start history
    defaultTurns.Reaches history retried ∧
      queued.opening.pendingOpenPaths = List.replicate 3 (.toPort 1) ∧
      retried.opening.pendingOpenPaths = List.replicate 6 (.toPort 1) ∧
      retried.attemptedPaths.dedup = [.toPort 1] ∧ ¬ retried.QueueDistinct := by
  intro exhausted history queued retried
  exact ⟨Machine.reaches_runFrom (by decide), by decide, by decide, by decide, by decide⟩

end RemoteStateActor

end NexalinkTunnel.Socket
