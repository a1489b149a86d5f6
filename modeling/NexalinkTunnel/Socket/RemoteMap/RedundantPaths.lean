import NexalinkTunnel.Socket.RemoteMap.RemoteState

/-!
Contract: the direct paths that are closed when a selection is applied.

Owns the calls that `apply_selected_path` makes on each connection, and when they leave
a client connection a direct path.

Does not own: what a call does. The last open path of a connection can not be closed,
so a call of `close` may fail; here it is the call that counts.

## The guard

A path is closed if the connection tracks more than one direct path. The paths that
the loop has closed are still tracked, so the guard is the same for all of them, and
only the selected path is exempt.
-/

namespace NexalinkTunnel.Socket

open Lib Base

variable {ed : Ed25519}

/-! ## The calls on one connection -/

def PathCommand.connId : PathCommand ed → ConnId
  | .openPath connId _ _ _ => connId
  | .closePath connId _ => connId
  | .setStatus connId _ _ => connId
  | .setMaxIdleTimeout connId _ _ => connId

def ConnectionState.ipCount (conn : ConnectionState ed) : Nat :=
  ((HashMap.values conn.paths).filter FourTuple.isIp).length

/-- The path is closed when `selected` is applied to a client connection. -/
def ConnectionState.Redundant (conn : ConnectionState ed) (selected path : FourTuple ed) : Prop :=
  path.isIp = true ∧ path ≠ selected ∧ 1 < conn.ipCount

namespace OpenPathState

variable {view : ActorView ed} {selected : FourTuple ed} {connId : ConnId}
  {conn : ConnectionState ed} {pathId : PathId}

/-- The calls for one path: those of a loop that starts here. -/
def pathCalls (view : ActorView ed) (selected : FourTuple ed) (connId : ConnId)
    (conn : ConnectionState ed) (entry : PathId × FourTuple ed) : List (PathCommand ed) :=
  (applyToPath view selected connId conn ⟨none, [], []⟩ entry).commands

private theorem commands_applyToPath (opening : OpenPathState ed) (entry : PathId × FourTuple ed) :
    (applyToPath view selected connId conn opening entry).commands =
      opening.commands ++ pathCalls view selected connId conn entry := by
  unfold pathCalls applyToPath
  split
  · exact (List.append_nil _).symm
  · split
    · rfl
    · rfl

private theorem commands_foldl_applyToPath (entries : List (PathId × FourTuple ed))
    (opening : OpenPathState ed) :
    (entries.foldl (applyToPath view selected connId conn) opening).commands =
      opening.commands ++ entries.flatMap (pathCalls view selected connId conn) := by
  induction entries generalizing opening with
  | nil => exact (List.append_nil _).symm
  | cons entry entries inductionHypothesis =>
      rw [List.foldl_cons, inductionHypothesis, commands_applyToPath, List.append_assoc,
        List.flatMap_cons]

private theorem connId_of_mem_pathCalls {entry : PathId × FourTuple ed} {command : PathCommand ed}
    (called : command ∈ pathCalls view selected connId conn entry) :
    command.connId = connId := by
  unfold pathCalls applyToPath at called
  split at called
  · cases called
  · split at called
    · cases List.mem_singleton.mp called
      rfl
    · cases List.mem_singleton.mp called
      rfl

private theorem closePath_mem_pathCalls (client : conn.isClient = true)
    {entry : PathId × FourTuple ed} :
    .closePath connId pathId ∈ pathCalls view selected connId conn entry ↔
      pathId = entry.1 ∧ view.hasPath connId pathId = true ∧ conn.Redundant selected entry.2 := by
  have guard : (conn.isClient && entry.2.isIp && decide (entry.2 ≠ selected) &&
      decide (1 < ((HashMap.values conn.paths).filter FourTuple.isIp).length)) = true ↔
        conn.Redundant selected entry.2 := by
    simp [client, ConnectionState.Redundant, ConnectionState.ipCount, and_assoc]
  unfold pathCalls applyToPath
  by_cases handle : view.hasPath connId entry.1 = true
  · by_cases redundant : conn.Redundant selected entry.2
    · rw [if_neg (by simp [handle]), if_pos (guard.mpr redundant)]
      simp only [call, List.nil_append, List.mem_singleton, PathCommand.closePath.injEq, true_and]
      constructor
      · intro same
        exact ⟨same, same ▸ handle, redundant⟩
      · exact And.left
    · rw [if_neg (by simp [handle]), if_neg (mt guard.mp redundant)]
      simp [setPathStatus, call, redundant]
  · rw [if_pos (by simpa using handle)]
    simp only [List.not_mem_nil, false_iff]
    intro closes
    exact handle (closes.1 ▸ closes.2.1)

private theorem openPath_not_mem_pathCalls {entry : PathId × FourTuple ed} {other : ConnId}
    {path : FourTuple ed} {status : QuicPathStatus} {result : OpenPathResult} :
    .openPath other path status result ∉ pathCalls view selected connId conn entry := by
  unfold pathCalls applyToPath
  split
  · exact List.not_mem_nil
  · split
    · simp [call]
    · simp [setPathStatus, call]

/-- The call that opens the selected path, if `made` attempts were made before. -/
def openCalls (view : ActorView ed) (selected : FourTuple ed) (made : Nat) (connId : ConnId)
    (conn : ConnectionState ed) : List (PathCommand ed) :=
  if conn.isClient && !(HashMap.values conn.paths).contains selected then
    [.openPath connId selected .available (view.openPathEnsure connId selected made)]
  else []

theorem eq_of_mem_openCalls {made : Nat} {command : PathCommand ed}
    (called : command ∈ openCalls view selected made connId conn) :
    command = .openPath connId selected .available (view.openPathEnsure connId selected made) := by
  unfold openCalls at called
  split at called
  · exact List.mem_singleton.mp called
  · cases called

private theorem commands_openPathOnConn (opening : OpenPathState ed) :
    (opening.openPathOnConn view (some selected) connId conn selected).commands =
      opening.commands ++
        openCalls view selected (opening.attempts connId selected) connId conn := by
  unfold openPathOnConn openCalls
  by_cases client : conn.isClient = true
  · by_cases tracked : (HashMap.values conn.paths).contains selected = true
    · simp only [client, tracked, Bool.not_true, Bool.false_eq_true, if_false, if_true,
        Bool.and_false, List.append_nil]
    · simp only [client, tracked, Bool.not_true, Bool.false_eq_true, if_false, Bool.not_false,
        Bool.and_self, if_true, pathStatusForAddr]
      split <;> rfl
  · simp [client]

def connCalls (view : ActorView ed) (selected : FourTuple ed) (made : Nat)
    (entry : ConnId × ConnectionState ed) : List (PathCommand ed) :=
  if view.upgrades entry.1 then
    openCalls view selected made entry.1 entry.2 ++
      (HashMap.iter (view.pathOrder entry.1) entry.2.paths).flatMap
        (pathCalls view selected entry.1 entry.2)
  else []

private theorem commands_applyToConn (opening : OpenPathState ed)
    (entry : ConnId × ConnectionState ed) :
    (applyToConn view selected opening entry).commands =
      opening.commands ++ connCalls view selected (opening.attempts entry.1 selected) entry := by
  unfold applyToConn connCalls
  split
  · rw [commands_foldl_applyToPath, commands_openPathOnConn, List.append_assoc]
  · exact (List.append_nil _).symm

private theorem connId_of_mem_connCalls {made : Nat} {entry : ConnId × ConnectionState ed}
    {command : PathCommand ed} (called : command ∈ connCalls view selected made entry) :
    command.connId = entry.1 := by
  unfold connCalls at called
  split at called
  · rcases List.mem_append.mp called with opens | onPath
    · rw [eq_of_mem_openCalls opens]
      rfl
    · obtain ⟨path, -, called⟩ := List.mem_flatMap.mp onPath
      exact connId_of_mem_pathCalls called
  · cases called

private theorem attempts_of_append {opening after : OpenPathState ed}
    {calls : List (PathCommand ed)} (commands : after.commands = opening.commands ++ calls)
    (others : ∀ command ∈ calls, command.connId ≠ connId) :
    after.attempts connId selected = opening.attempts connId selected := by
  have none : calls.countP (PathCommand.opens connId selected) = 0 := by
    rw [List.countP_eq_zero]
    intro command called opens
    cases command with
    | openPath other path status result =>
        exact others _ called (of_decide_eq_true (Bool.and_eq_true_iff.mp opens).1)
    | _ => cases opens
  rw [attempts, commands, List.countP_append, none, Nat.add_zero, attempts]

private theorem filter_connId_eq_nil {calls : List (PathCommand ed)}
    (different : ∀ command ∈ calls, command.connId ≠ connId) :
    calls.filter (fun command => command.connId = connId) = [] := by
  apply List.filter_eq_nil_iff.mpr
  intro command called
  simpa using different command called

private theorem commands_foldl_applyToConn (view : ActorView ed) (selected : FourTuple ed)
    (entries : List (ConnId × ConnectionState ed)) (distinct : (entries.map Prod.fst).Nodup)
    (opening : OpenPathState ed) :
    ∃ calls, (entries.foldl (applyToConn view selected) opening).commands =
        opening.commands ++ calls ∧
      (∀ command ∈ calls, command.connId ∈ entries.map Prod.fst) ∧
      ∀ entry ∈ entries, calls.filter (fun command => command.connId = entry.1) =
        connCalls view selected (opening.attempts entry.1 selected) entry := by
  induction entries generalizing opening with
  | nil => exact ⟨[], (List.append_nil _).symm, by simp, by simp⟩
  | cons head entries inductionHypothesis =>
      rw [List.map_cons, List.nodup_cons] at distinct
      obtain ⟨calls, commands, among, each⟩ :=
        inductionHypothesis distinct.2 (applyToConn view selected opening head)
      set ownCalls := connCalls view selected (opening.attempts head.1 selected) head
      refine ⟨ownCalls ++ calls, ?_, ?_, ?_⟩
      · rw [List.foldl_cons, commands, commands_applyToConn, List.append_assoc]
      · intro command called
        rcases List.mem_append.mp called with own | later
        · exact List.mem_cons.mpr (.inl (connId_of_mem_connCalls own))
        · exact List.mem_cons_of_mem _ (among command later)
      · intro entry inside
        rcases List.mem_cons.mp inside with rfl | inside
        · have own : ownCalls.filter (fun command => command.connId = entry.1) = ownCalls := by
            apply List.filter_eq_self.mpr
            intro command called
            exact decide_eq_true (connId_of_mem_connCalls called)
          have different : ∀ command ∈ calls, command.connId ≠ entry.1 :=
            fun command called same => distinct.1 (same ▸ among command called)
          rw [List.filter_append, own, filter_connId_eq_nil different, List.append_nil]
        · have different : ∀ command ∈ ownCalls, command.connId ≠ entry.1 := by
            intro command called same
            rw [connId_of_mem_connCalls called] at same
            exact distinct.1 (same ▸ List.mem_map_of_mem inside)
          rw [List.filter_append, filter_connId_eq_nil different, List.nil_append,
            each entry inside, attempts_of_append (commands_applyToConn opening head) different]

end OpenPathState

namespace RemoteStateActor

open OpenPathState

variable {view : ActorView ed} {actor : RemoteStateActor ed} {selected : FourTuple ed}
  {connId : ConnId} {conn : ConnectionState ed} {pathId : PathId}

/-! ## The calls of a selection -/

def selectionCalls (view : ActorView ed) (actor : RemoteStateActor ed) : List (PathCommand ed) :=
  (actor.applySelectedPath view).commands.drop actor.opening.commands.length

private theorem filter_selectionCalls (view : ActorView ed)
    (selects : actor.selectedPath = some selected)
    (stored : actor.connections.lookup connId = some conn) :
    (actor.selectionCalls view).filter (fun command => command.connId = connId) =
      connCalls view selected (actor.opening.attempts connId selected) (connId, conn) := by
  obtain ⟨calls, commands, -, each⟩ := commands_foldl_applyToConn view selected
    (HashMap.iter view.connectionOrder actor.connections) (HashMap.nodup_keys_iter _ _)
    actor.opening
  have calls_eq : actor.selectionCalls view = calls := by
    rw [selectionCalls, applySelectedPath, selects]
    simp only [commands, List.drop_left]
  rw [calls_eq]
  exact each (connId, conn) (HashMap.mem_iter.mpr stored)

private theorem mem_selectionCalls (selects : actor.selectedPath = some selected)
    (stored : actor.connections.lookup connId = some conn) {command : PathCommand ed}
    (own : command.connId = connId) :
    command ∈ actor.selectionCalls view ↔
      view.upgrades connId = true ∧
        (command ∈ openCalls view selected (actor.opening.attempts connId selected) connId conn ∨
          ∃ pathId path, conn.paths.lookup pathId = some path ∧
            command ∈ pathCalls view selected connId conn (pathId, path)) := by
  have among : command ∈ actor.selectionCalls view ↔
      command ∈
        connCalls view selected (actor.opening.attempts connId selected) (connId, conn) := by
    rw [← filter_selectionCalls view selects stored, List.mem_filter]
    simp [own]
  rw [among, connCalls]
  cases view.upgrades connId with
  | true => simp [List.mem_append, List.mem_flatMap, HashMap.mem_iter]
  | false => simp

private theorem closePath_mem_selectionCalls (selects : actor.selectedPath = some selected)
    (stored : actor.connections.lookup connId = some conn) (client : conn.isClient = true) :
    .closePath connId pathId ∈ actor.selectionCalls view ↔
      view.upgrades connId = true ∧ ∃ path, conn.paths.lookup pathId = some path ∧
        view.hasPath connId pathId = true ∧ conn.Redundant selected path := by
  have notOpen : .closePath connId pathId ∉
      openCalls view selected (actor.opening.attempts connId selected) connId conn := by
    intro called
    cases eq_of_mem_openCalls called
  rw [mem_selectionCalls selects stored rfl]
  simp only [notOpen, false_or, closePath_mem_pathCalls client]
  refine and_congr_right fun _ => ⟨?_, ?_⟩
  · rintro ⟨other, path, found, rfl, closes⟩
    exact ⟨path, found, closes⟩
  · rintro ⟨path, found, closes⟩
    exact ⟨pathId, path, found, rfl, closes⟩

private theorem openPath_mem_selectionCalls (selects : actor.selectedPath = some selected)
    (stored : actor.connections.lookup connId = some conn) (client : conn.isClient = true)
    {path : FourTuple ed} {status : QuicPathStatus} {result : OpenPathResult} :
    .openPath connId path status result ∈ actor.selectionCalls view ↔
      view.upgrades connId = true ∧ path = selected ∧ selected ∉ HashMap.values conn.paths ∧
        status = .available ∧
        result = view.openPathEnsure connId selected (actor.opening.attempts connId selected) := by
  rw [mem_selectionCalls selects stored rfl]
  simp only [openPath_not_mem_pathCalls, and_false, exists_false, or_false, openCalls, client]
  refine and_congr_right fun _ => ?_
  by_cases tracked : selected ∈ HashMap.values conn.paths
  · simp [tracked]
  · simp [tracked]

/-! ## Direct paths that stay -/

def HasDirect (view : ActorView ed) (connId : ConnId) (conn : ConnectionState ed) : Prop :=
  ∃ pathId path, conn.paths.lookup pathId = some path ∧ path.isIp = true ∧
    view.hasPath connId pathId = true

def Opens (view : ActorView ed) (actor : RemoteStateActor ed) (connId : ConnId)
    (path : FourTuple ed) : Prop :=
  ∃ status pathId, .openPath connId path status (.opening pathId) ∈ actor.selectionCalls view

/-- The connection does not have the path, and answers that it is being opened. -/
def AnswersOpening (view : ActorView ed) (actor : RemoteStateActor ed) (connId : ConnId)
    (conn : ConnectionState ed) (path : FourTuple ed) : Prop :=
  path ∉ HashMap.values conn.paths ∧ ∃ pathId,
    view.openPathEnsure connId path (actor.opening.attempts connId path) = .opening pathId

/-- The connection has a direct path that is not closed, or one is being opened. -/
def KeepsDirect (view : ActorView ed) (actor : RemoteStateActor ed) (connId : ConnId)
    (conn : ConnectionState ed) : Prop :=
  (∃ pathId path, conn.paths.lookup pathId = some path ∧ path.isIp = true ∧
      view.hasPath connId pathId = true ∧
      .closePath connId pathId ∉ actor.selectionCalls view) ∨
    ∃ path, path.isIp = true ∧ Opens view actor connId path

/-- A client connection with a direct path keeps one exactly if none is closed, as its handle is
gone or only one is tracked, or if the selected path is direct and is there or is being opened. -/
theorem applySelectedPath_keepsDirect_iff (selects : actor.selectedPath = some selected)
    (stored : actor.connections.lookup connId = some conn) (client : conn.isClient = true)
    (direct : HasDirect view connId conn) :
    KeepsDirect view actor connId conn ↔
      view.upgrades connId = false ∨ conn.ipCount ≤ 1 ∨
        (selected.isIp = true ∧
          ((∃ pathId, conn.paths.lookup pathId = some selected ∧
              view.hasPath connId pathId = true) ∨
            AnswersOpening view actor connId conn selected)) := by
  have closes {pathId : PathId} : .closePath connId pathId ∈ actor.selectionCalls view ↔ _ :=
    closePath_mem_selectionCalls selects stored client
  constructor
  · intro keeps
    rcases keeps with ⟨pathId, path, found, isIp, handle, notClosed⟩ | ⟨path, isIp, opens⟩
    · by_cases upgrades : view.upgrades connId = true
      · by_cases single : conn.ipCount ≤ 1
        · exact .inr (.inl single)
        · have same : path = selected := by
            by_contra different
            exact notClosed (closes.mpr
              ⟨upgrades, path, found, handle, isIp, different, Nat.lt_of_not_le single⟩)
          exact .inr (.inr ⟨same ▸ isIp, .inl ⟨pathId, same ▸ found, handle⟩⟩)
      · exact .inl (Bool.eq_false_iff.mpr upgrades)
    · obtain ⟨status, pathId, opened⟩ := opens
      obtain ⟨-, rfl, untracked, -, answer⟩ :=
        (openPath_mem_selectionCalls selects stored client).mp opened
      exact .inr (.inr ⟨isIp, .inr ⟨untracked, pathId, answer.symm⟩⟩)
  · intro kept
    obtain ⟨pathId, path, found, isIp, handle⟩ := direct
    rcases kept with gone | single | ⟨isIp', ⟨pathId', found', handle'⟩ | ⟨untracked, opens⟩⟩
    · refine .inl ⟨pathId, path, found, isIp, handle, ?_⟩
      intro closed
      rw [(closes.mp closed).1] at gone
      cases gone
    · refine .inl ⟨pathId, path, found, isIp, handle, ?_⟩
      intro closed
      obtain ⟨-, _, -, -, -, -, many⟩ := closes.mp closed
      omega
    · refine .inl ⟨pathId', selected, found', isIp', handle', ?_⟩
      intro closed
      obtain ⟨-, other, foundOther, -, -, different, -⟩ := closes.mp closed
      cases found'.symm.trans foundOther
      exact different rfl
    · obtain ⟨opened, answer⟩ := opens
      by_cases upgrades : view.upgrades connId = true
      · exact .inr ⟨selected, isIp', .available, opened,
          (openPath_mem_selectionCalls selects stored client).mpr
            ⟨upgrades, rfl, untracked, rfl, answer.symm⟩⟩
      · refine .inl ⟨pathId, path, found, isIp, handle, fun closed => ?_⟩
        exact upgrades (closes.mp closed).1

end RemoteStateActor

/-! ## Two direct paths and a relay -/

namespace RemoteStateActor

namespace TwoDirect

def relayPath : FourTuple Relay.Protos.Crates.reference.ed25519 :=
  .relay ⟨"https://relay.example/"⟩ defaultTurns.start.endpointId

def conn : ConnectionState Relay.Protos.Crates.reference.ed25519 where
  isClient := true
  paths := ((AList.insert 0 relayPath ∅).insert 1 (.toPort 1)).insert 2 (.toPort 2)
  hasBeenDirect := true

def actor (selected : FourTuple Relay.Protos.Crates.reference.ed25519) :
    RemoteStateActor Relay.Protos.Crates.reference.ed25519 :=
  { defaultTurns.start with
    connections := AList.insert 0 conn ∅
    selectedPath := some selected }

def view : ActorView Relay.Protos.Crates.reference.ed25519 := .ordinary 0 .failed

theorem hasDirect : HasDirect view 0 conn := ⟨1, .toPort 1, by decide, by decide, by decide⟩

end TwoDirect

/-- With a direct path selected, it is the one that stays. -/
theorem applySelectedPath_keepsDirect_selected :
    HasDirect TwoDirect.view 0 TwoDirect.conn ∧
      KeepsDirect TwoDirect.view (TwoDirect.actor (.toPort 1)) 0 TwoDirect.conn := by
  refine ⟨TwoDirect.hasDirect, ?_⟩
  refine (applySelectedPath_keepsDirect_iff rfl rfl rfl TwoDirect.hasDirect).mpr ?_
  exact .inr (.inr ⟨rfl, .inl ⟨1, rfl, rfl⟩⟩)

/-- With the relay path selected, both direct paths are closed. -/
theorem applySelectedPath_closes_all_direct :
    TwoDirect.conn.isClient = true ∧ HasDirect TwoDirect.view 0 TwoDirect.conn ∧
      (TwoDirect.actor TwoDirect.relayPath).selectionCalls TwoDirect.view =
        [.closePath 0 2, .closePath 0 1, .setStatus 0 0 .available] ∧
      ¬ KeepsDirect TwoDirect.view (TwoDirect.actor TwoDirect.relayPath) 0 TwoDirect.conn := by
  have calls : (TwoDirect.actor TwoDirect.relayPath).selectionCalls TwoDirect.view =
      [.closePath 0 2, .closePath 0 1, .setStatus 0 0 .available] := by decide
  refine ⟨rfl, TwoDirect.hasDirect, calls, ?_⟩
  intro keeps
  rcases keeps with ⟨pathId, path, found, isIp, -, notClosed⟩ | ⟨path, -, status, pathId, opened⟩
  · rw [calls] at notClosed
    have tracked : ∀ entry ∈ HashMap.iter .standing TwoDirect.conn.paths, entry.2.isIp = true →
        .closePath 0 entry.1 ∈ ([.closePath 0 2, .closePath 0 1, .setStatus 0 0 .available] :
          List (PathCommand Relay.Protos.Crates.reference.ed25519)) := by decide
    exact notClosed (tracked (pathId, path) (HashMap.mem_iter.mpr found) isIp)
  · rw [calls] at opened
    simp at opened

end RemoteStateActor

end NexalinkTunnel.Socket
