import NexalinkTunnel.Socket.RemoteMap.RemoteState

/-!
Contract: the state of an actor against the paths of its connections.

Owns the relation between the status of an address and the paths that are
tracked for the connections, and between the selected path and those paths: which
turns keep the two in step, and that no others do.

## Where they part

An address is marked abandoned when the connection that reports it has no other
path to it, whatever the other connections have, and nothing is marked when a
connection goes as a whole. The selected path is dropped with the last connection
only; otherwise it stays until a selector makes another choice.
-/

namespace NexalinkTunnel.Socket

open Lib Base

variable {ed : Ed25519}

def TracksIn (connections : HashMap ConnId (ConnectionState ed)) (path : FourTuple ed) : Prop :=
  ∃ connId pathId, pathAt connections connId pathId = some path

def trackedPaths (connections : HashMap ConnId (ConnectionState ed)) : List (FourTuple ed) :=
  (HashMap.values connections).flatMap fun conn => HashMap.values conn.paths

theorem mem_trackedPaths {connections : HashMap ConnId (ConnectionState ed)}
    {path : FourTuple ed} : path ∈ trackedPaths connections ↔ TracksIn connections path := by
  simp only [trackedPaths, TracksIn, pathAt, List.mem_flatMap, HashMap.mem_values,
    Option.bind_eq_some_iff]
  constructor
  · rintro ⟨conn, ⟨connId, found⟩, pathId, inside⟩
    exact ⟨connId, pathId, conn, found, inside⟩
  · rintro ⟨connId, pathId, conn, found, inside⟩
    exact ⟨conn, ⟨connId, found⟩, pathId, inside⟩

section PathAt

variable (connections : HashMap ConnId (ConnectionState ed)) (connId other : ConnId)
  (pathId : PathId)

theorem pathAt_insert (conn : ConnectionState ed) :
    pathAt (connections.insert connId conn) other pathId =
      if other = connId then conn.paths.lookup pathId else pathAt connections other pathId := by
  rw [pathAt, HashMap.lookup_insert_eq_ite]
  split <;> rfl

private theorem pathAt_erase :
    pathAt (connections.erase connId) other pathId =
      if other = connId then none else pathAt connections other pathId := by
  rw [pathAt, HashMap.lookup_erase_eq_ite]
  split <;> rfl

theorem lookup_addOpenPath (conn : ConnectionState ed) (opened : PathId) (path : FourTuple ed) :
    (conn.addOpenPath path opened).paths.lookup pathId =
      if pathId = opened then some path else conn.paths.lookup pathId :=
  HashMap.lookup_insert_eq_ite _ _ _ _

end PathAt

namespace RemoteStateActor

def TracksPath (actor : RemoteStateActor ed) (path : FourTuple ed) : Prop :=
  TracksIn actor.connections path

def Tracks (actor : RemoteStateActor ed) (addr : Addr ed) : Prop :=
  ∃ path, actor.TracksPath path ∧ path.remote = addr

instance (actor : RemoteStateActor ed) : DecidablePred actor.TracksPath := fun _ =>
  decidable_of_iff _ mem_trackedPaths

instance (actor : RemoteStateActor ed) : DecidablePred actor.Tracks := fun addr =>
  decidable_of_iff (∃ path ∈ trackedPaths actor.connections, path.remote = addr)
    (exists_congr fun _ => and_congr_left fun _ => mem_trackedPaths)

/-! ## What a turn does to tracked paths -/

def Registers (actor : RemoteStateActor ed) (turn : ActorTurn ed) (path : FourTuple ed) : Prop :=
  match turn.input with
  | .addConnection _ _ pathZero => pathZero = some (some path)
  | .pathEvent connId (.established _ found) =>
      (actor.connections.lookup connId).isSome ∧ turn.view.upgrades connId = true ∧
        found = some (some path)
  | _ => False

/-- The turn takes the path with this id from the connection, or puts another one in its place. -/
def Displaces (turn : ActorTurn ed) (connId : ConnId) (pathId : PathId) : Prop :=
  match turn.input with
  | .addConnection added _ _ => connId = added
  | .connectionClosed closed => connId = closed
  | .pathEvent owner (.established opened (some (some _))) =>
      turn.view.upgrades owner = true ∧ connId = owner ∧ pathId = opened
  | .pathEvent owner (.abandoned lost) =>
      turn.view.upgrades owner = true ∧ connId = owner ∧ pathId = lost
  | _ => False

/-- Some connection has the path from now on: the turn records it, or leaves it where it is. -/
def StillTracks (actor : RemoteStateActor ed) (turn : ActorTurn ed) (path : FourTuple ed) : Prop :=
  actor.Registers turn path ∨ ∃ connId pathId,
    pathAt actor.connections connId pathId = some path ∧ ¬ Displaces turn connId pathId

variable {actor : RemoteStateActor ed} {turn : ActorTurn ed} {view : ActorView ed}
  {connId : ConnId} {conn : ConnectionState ed} {pathId : PathId} {path : FourTuple ed}
  {addr : Addr ed}

theorem connections_step (actor : RemoteStateActor ed) (turn : ActorTurn ed) :
    (actor.step turn).connections =
      match turn.input with
      | .connectionClosed connId => actor.connections.erase connId
      | _ => if actor.selects turn then actor.offered turn else actor.connections := by
  cases found : actor.beforeSelect turn with
  | some recorded =>
      obtain ⟨selects, paths, opening, rfl⟩ := beforeSelect_eq found
      rw [step_of_beforeSelect found, selects]
      obtain ⟨view, input⟩ := turn
      cases input with
      | connectionClosed connId => cases found
      | _ => rfl
  | none =>
      rw [selects_eq_false_of_beforeSelect found]
      obtain ⟨view, input⟩ := turn
      cases input with
      | addConnection connId isClient pathZero => cases found
      | pathEvent connId event =>
          rw [step_pathEvent_of_skipped found]
          rfl
      | resolveRemote addrs request => simp [step, handleMsgResolveRemote]
      | connectionClosed connId => rfl
      | scheduledPathOpen => rfl
      | addressLookupItem item => simp [step]

/-- What the turn records where it displaces a path. -/
def recordedAt (actor : RemoteStateActor ed) (turn : ActorTurn ed) (pathId : PathId) :
    Option (FourTuple ed) :=
  match turn.input with
  | .addConnection _ _ (some (some path)) => if pathId = 0 then some path else none
  | .pathEvent owner (.established _ (some (some path))) =>
      (actor.connections.lookup owner).map fun _ => path
  | _ => none

private theorem registers_iff :
    actor.Registers turn path ↔
      ∃ connId pathId, Displaces turn connId pathId ∧ actor.recordedAt turn pathId = some path := by
  obtain ⟨view, input⟩ := turn
  cases input with
  | addConnection connId isClient pathZero =>
      rcases pathZero with _ | _ | added <;> simp [Registers, Displaces, recordedAt]
  | pathEvent connId event =>
      cases event with
      | established pathId found =>
          rcases found with _ | _ | opened
          · simp [Registers, Displaces]
          · simp [Registers, Displaces]
          · cases stored : actor.connections.lookup connId <;>
              simp [Registers, Displaces, recordedAt, stored]
      | _ => simp [Registers, Displaces, recordedAt]
  | _ => simp [Registers, Displaces, recordedAt]

private theorem pathAt_step (actor : RemoteStateActor ed) (turn : ActorTurn ed) (connId : ConnId)
    (pathId : PathId) :
    (Displaces turn connId pathId →
        pathAt (actor.step turn).connections connId pathId = actor.recordedAt turn pathId) ∧
      (¬ Displaces turn connId pathId →
        pathAt (actor.step turn).connections connId pathId =
          pathAt actor.connections connId pathId) := by
  rw [connections_step]
  obtain ⟨view, input⟩ := turn
  cases input with
  | addConnection added isClient pathZero =>
      rcases pathZero with _ | _ | path <;>
        simp +contextual [selects, offered, Displaces, recordedAt, pathAt_insert, pathAt_erase,
          lookup_addOpenPath]
  | connectionClosed closed =>
      simp +contextual [Displaces, recordedAt, pathAt_erase]
  | pathEvent owner event =>
      cases upgrades : view.upgrades owner with
      | false =>
          cases event with
          | established opened found =>
              rcases found with _ | _ | path <;> simp [selects, Displaces, upgrades]
          | _ => simp [selects, Displaces, upgrades]
      | true =>
          cases stored : actor.connections.lookup owner with
          | none =>
              have nowhere : ∀ pathId, pathAt actor.connections owner pathId = none := by
                simp [pathAt, stored]
              cases event with
              | established opened found =>
                  rcases found with _ | _ | path <;>
                    simp +contextual [selects, Displaces, recordedAt, stored, nowhere]
              | _ => simp +contextual [selects, Displaces, recordedAt, nowhere]
          | some conn =>
              have own : ∀ pathId, pathAt actor.connections owner pathId =
                  conn.paths.lookup pathId := by
                simp [pathAt, stored]
              cases event with
              | established opened found =>
                  rcases found with _ | _ | path
                  · simp [selects, Displaces]
                  · simp [selects, offered, Displaces, stored]
                  · grind [selects, offered, Displaces, recordedAt, pathAt_insert,
                      lookup_addOpenPath]
              | abandoned lost =>
                  cases held : conn.paths.lookup lost <;>
                    grind [selects, offered, Displaces, recordedAt, pathAt_insert,
                      HashMap.lookup_erase_eq_ite]
              | _ => simp [selects, Displaces]
  | _ => simp [selects, Displaces]

private theorem tracksPath_step_iff :
    (actor.step turn).TracksPath path ↔ actor.StillTracks turn path := by
  unfold TracksPath TracksIn StillTracks
  rw [registers_iff]
  constructor
  · rintro ⟨connId, pathId, found⟩
    obtain ⟨recorded, kept⟩ := pathAt_step actor turn connId pathId
    by_cases displaced : Displaces turn connId pathId
    · exact .inl ⟨connId, pathId, displaced, recorded displaced ▸ found⟩
    · exact .inr ⟨connId, pathId, kept displaced ▸ found, displaced⟩
  · rintro (⟨connId, pathId, displaced, recorded⟩ | ⟨connId, pathId, found, kept⟩)
    · exact ⟨connId, pathId, ((pathAt_step actor turn connId pathId).1 displaced).trans recorded⟩
    · exact ⟨connId, pathId, ((pathAt_step actor turn connId pathId).2 kept).trans found⟩

/-! ## What a turn does to open addresses -/

/-- The turn records a path to this address. -/
def RegistersAddr (actor : RemoteStateActor ed) (turn : ActorTurn ed) (addr : Addr ed) : Prop :=
  ∃ path, actor.Registers turn path ∧ path.remote = addr

/-- The turn marks an address as abandoned: the connection that gives up a path to it
has no other one. -/
def MarksAbandoned (actor : RemoteStateActor ed) (turn : ActorTurn ed) (addr : Addr ed) : Prop :=
  match turn.input with
  | .pathEvent connId (.abandoned pathId) =>
      turn.view.upgrades connId = true ∧ ∃ conn ∈ actor.connections.lookup connId,
        ∃ path ∈ conn.paths.lookup pathId, path.remote = addr ∧
          ∀ other, ∀ remaining ∈ (conn.paths.erase pathId).lookup other, remaining.remote ≠ addr
  | _ => False

private theorem MarksAbandoned.tracks (marks : actor.MarksAbandoned turn addr) :
    actor.Tracks addr ∧ ∀ path, ¬ actor.Registers turn path := by
  obtain ⟨view, input⟩ := turn
  cases input with
  | pathEvent connId event =>
      cases event with
      | abandoned pathId =>
          obtain ⟨-, conn, stored, path, found, rfl, -⟩ := marks
          exact ⟨⟨path, ⟨connId, pathId, Option.bind_eq_some_iff.mpr ⟨conn, stored, found⟩⟩, rfl⟩,
            fun _ => id⟩
      | _ => exact marks.elim
  | _ => exact marks.elim

private theorem Registers.selects (registers : actor.Registers turn path) :
    actor.selects turn = true := by
  obtain ⟨view, input⟩ := turn
  cases input with
  | addConnection connId isClient pathZero => rfl
  | pathEvent connId event =>
      cases event with
      | established pathId found =>
          obtain ⟨stored, upgrades, rfl⟩ := registers
          simpa [RemoteStateActor.selects, stored] using upgrades
      | _ => exact registers.elim
  | _ => exact registers.elim

private theorem MarksAbandoned.selects (marks : actor.MarksAbandoned turn addr) :
    actor.selects turn = true := by
  obtain ⟨view, input⟩ := turn
  cases input with
  | pathEvent connId event =>
      cases event with
      | abandoned pathId =>
          obtain ⟨upgrades, conn, stored, path, found, -⟩ := marks
          have held : pathAt actor.connections connId pathId = some path :=
            Option.bind_eq_some_iff.mpr ⟨conn, stored, found⟩
          simpa [RemoteStateActor.selects, held] using upgrades
      | _ => exact marks.elim
  | _ => exact marks.elim

private theorem isOpen_step_abandoned (stored : actor.connections.lookup connId = some conn)
    (upgrades : view.upgrades connId = true) (lost : conn.paths.lookup pathId = some path) :
    let turn : ActorTurn ed := ⟨view, .pathEvent connId (.abandoned pathId)⟩
    ((actor.step turn).paths.IsOpen addr ↔
        actor.paths.IsOpen addr ∧ ¬ actor.MarksAbandoned turn addr) ∧
      ((actor.step turn).paths.Known addr ↔ actor.paths.Known addr) := by
  intro turn
  have marks : actor.MarksAbandoned turn addr ↔ path.remote = addr ∧
      ∀ other, ∀ remaining ∈ (conn.paths.erase pathId).lookup other, remaining.remote ≠ addr := by
    simp [turn, MarksAbandoned, upgrades, stored, lost]
  have paths : (actor.step turn).paths =
      if (HashMap.values (conn.paths.erase pathId)).any fun other => other.remote = path.remote
      then actor.paths else actor.paths.abandonedPath view.now path.remote := by
    simp only [turn, step, beforeSelect, stored, upgrades, if_true, recordPathEvent, lost,
      Option.map_some]
    rfl
  rw [paths, marks]
  split
  next shared =>
    obtain ⟨other, inside, same⟩ := List.any_eq_true.mp shared
    obtain ⟨otherId, remaining⟩ := HashMap.mem_values.mp inside
    refine ⟨(and_iff_left ?_).symm, Iff.rfl⟩
    rintro ⟨rfl, alone⟩
    exact alone otherId other remaining (of_decide_eq_true same)
  next alone =>
    refine ⟨?_, RemotePathState.known_abandonedPath⟩
    rw [RemotePathState.isOpen_abandonedPath]
    refine and_congr_right fun _ => not_congr ⟨?_, fun marked => marked.1.symm⟩
    rintro rfl
    refine ⟨rfl, fun otherId remaining inside same => alone ?_⟩
    apply List.any_eq_true.mpr
    exact ⟨remaining, HashMap.mem_values.mpr ⟨otherId, inside⟩, decide_eq_true same⟩

private theorem isOpen_step_registered (path : FourTuple ed) {next : RemoteStateActor ed}
    (registered : ∀ other, actor.Registers turn other ↔ other = path)
    (paths : next.paths = actor.paths.insertOpenPath turn.view.addrOrder turn.view.now
      path.remote .connection) :
    next.paths.IsOpen addr ↔ actor.RegistersAddr turn addr ∨
      (actor.paths.IsOpen addr ∧ ¬ actor.MarksAbandoned turn addr) := by
  have unmarked : ¬ actor.MarksAbandoned turn addr := fun marks =>
    marks.tracks.2 path ((registered path).mpr rfl)
  rw [paths, RemotePathState.isOpen_insertOpenPath]
  simp [RegistersAddr, registered, unmarked, eq_comm]

theorem isOpen_step_iff :
    (actor.step turn).paths.IsOpen addr ↔ actor.RegistersAddr turn addr ∨
      (actor.paths.IsOpen addr ∧ ¬ actor.MarksAbandoned turn addr) := by
  obtain ⟨view, input⟩ := turn
  cases input with
  | addConnection connId isClient pathZero =>
      rcases pathZero with _ | _ | path
      · simp [step, beforeSelect, addConnection, selectPath, RegistersAddr, Registers,
          MarksAbandoned]
      · simp [step, beforeSelect, addConnection, selectPath, RegistersAddr, Registers,
          MarksAbandoned]
      · apply isOpen_step_registered path
        · simp [Registers, eq_comm]
        · simp only [step, beforeSelect, addConnection]
          split <;> rfl
  | pathEvent connId event =>
      -- A turn that ends before the selection changes nothing.
      cases found : actor.beforeSelect ⟨view, .pathEvent connId event⟩ with
      | none =>
          have skipped := selects_eq_false_of_beforeSelect found
          rw [step_pathEvent_of_skipped found]
          have unregistered : ∀ path, ¬ actor.Registers ⟨view, .pathEvent connId event⟩ path :=
            fun path registers => by simp [registers.selects] at skipped
          have unmarked : ¬ actor.MarksAbandoned ⟨view, .pathEvent connId event⟩ addr :=
            fun marks => by simp [marks.selects] at skipped
          simp [RegistersAddr, unregistered, unmarked]
      | some recorded =>
          obtain ⟨conn, stored, upgrades, recordedEvent⟩ := recordPathEvent_of_beforeSelect found
          rw [step_of_beforeSelect found]
          cases recorded_of_recordPathEvent recordedEvent with
          | registered pathId path =>
              apply isOpen_step_registered path
              · simp [Registers, stored, upgrades, eq_comm]
              · rfl
          | untold pathId => simp [selectPath, RegistersAddr, Registers, MarksAbandoned]
          | abandoned pathId path lost paths marked =>
              rw [← step_of_beforeSelect found, (isOpen_step_abandoned stored upgrades lost).1]
              simp [RegistersAddr, Registers]
  | resolveRemote addrs request =>
      simp [step, handleMsgResolveRemote, RegistersAddr, Registers, MarksAbandoned,
        RemotePathState.isOpen_resolveRemote, RemotePathState.isOpen_insertMultiple]
  | connectionClosed connId =>
      simp [step, handleConnectionClose, RegistersAddr, Registers, MarksAbandoned]
  | scheduledPathOpen => simp [step, retryOpenPaths, RegistersAddr, Registers, MarksAbandoned]
  | addressLookupItem item =>
      simp [step, RegistersAddr, Registers, MarksAbandoned, isOpen_handleAddressLookupItem]

/-! ## Open addresses and tracked paths -/

/-- A known address is open exactly if some connection has a path to it. -/
def StatusMatches (actor : RemoteStateActor ed) : Prop :=
  ∀ addr, actor.paths.Known addr → (actor.paths.IsOpen addr ↔ actor.Tracks addr)

instance : DecidablePred (@StatusMatches ed) := fun actor =>
  decidable_of_iff (∀ addr ∈ actor.paths.paths.keys, (actor.paths.IsOpen addr ↔ actor.Tracks addr))
    (forall_congr' fun addr => imp_congr_left <| by
      rw [← AList.mem_keys, ← AList.lookup_isSome, Option.isSome_iff_exists]
      rfl)

/-- Some connection has a path to this address from now on. -/
def StillReaches (actor : RemoteStateActor ed) (turn : ActorTurn ed) (addr : Addr ed) : Prop :=
  ∃ path, actor.StillTracks turn path ∧ path.remote = addr

/-- The addresses that the turn marks abandoned are those it takes the last path
from. -/
def MarksLastPaths (actor : RemoteStateActor ed) (turn : ActorTurn ed) : Prop :=
  ∀ addr, actor.MarksAbandoned turn addr ↔ actor.Tracks addr ∧ ¬ actor.StillReaches turn addr

/-- The open addresses are those that some connection has a path to, so they are all
known. -/
def InStep (actor : RemoteStateActor ed) : Prop :=
  ∀ addr, actor.paths.IsOpen addr ↔ actor.Tracks addr

private theorem InStep.statusMatches (inStep : actor.InStep) : actor.StatusMatches :=
  fun addr _ => inStep addr

private theorem inStep_new (endpointId : EndpointId ed) (pathSelector : PathSelector ed) :
    (new endpointId pathSelector).InStep := by
  intro addr
  constructor
  · rintro ⟨known, found, -⟩
    cases found
  · rintro ⟨path, ⟨connId, pathId, found⟩, -⟩
    cases found

theorem tracks_step_iff : (actor.step turn).Tracks addr ↔ actor.StillReaches turn addr :=
  exists_congr fun _ => and_congr_left fun _ => tracksPath_step_iff

private theorem StillReaches.before (reaches : actor.StillReaches turn addr) :
    actor.RegistersAddr turn addr ∨ actor.Tracks addr := by
  obtain ⟨path, registers | ⟨connId, pathId, found, -⟩, rfl⟩ := reaches
  · exact .inl ⟨path, registers, rfl⟩
  · exact .inr ⟨path, ⟨connId, pathId, found⟩, rfl⟩

private theorem InStep.step_iff (inStep : actor.InStep) (turn : ActorTurn ed) :
    (actor.step turn).InStep ↔ actor.MarksLastPaths turn := by
  apply forall_congr'
  intro addr
  rw [isOpen_step_iff, tracks_step_iff, inStep addr]
  have before : actor.StillReaches turn addr → _ := StillReaches.before
  have records : actor.RegistersAddr turn addr → actor.StillReaches turn addr :=
    fun ⟨path, registers, same⟩ => ⟨path, .inl registers, same⟩
  have marked : actor.MarksAbandoned turn addr → actor.Tracks addr ∧
      ¬ actor.RegistersAddr turn addr := fun marks =>
    ⟨marks.tracks.1, fun ⟨path, registers, _⟩ => marks.tracks.2 path registers⟩
  tauto

private theorem MarksAbandoned.known_step (marks : actor.MarksAbandoned turn addr)
    (known : actor.paths.Known addr) : (actor.step turn).paths.Known addr := by
  obtain ⟨view, input⟩ := turn
  cases input with
  | pathEvent connId event =>
      cases event with
      | abandoned pathId =>
          obtain ⟨upgrades, conn, stored, path, found, -⟩ := marks
          exact (isOpen_step_abandoned stored upgrades found).2.mpr known
      | _ => exact marks.elim
  | _ => exact marks.elim

private theorem InStep.known_of_tracks (inStep : actor.InStep)
    (tracks : (actor.step turn).Tracks addr) : (actor.step turn).paths.Known addr := by
  rcases (tracks_step_iff.mp tracks).before with registers | tracked
  · exact (isOpen_step_iff.mpr (.inl registers)).known
  · have isOpen := (inStep addr).mpr tracked
    by_cases marks : actor.MarksAbandoned turn addr
    · exact marks.known_step isOpen.known
    · exact (isOpen_step_iff.mpr (.inr ⟨isOpen, marks⟩)).known

private theorem InStep.of_statusMatches_step (inStep : actor.InStep)
    (matched : (actor.step turn).StatusMatches) : (actor.step turn).InStep := by
  intro addr
  constructor
  · intro isOpen
    exact (matched addr isOpen.known).mp isOpen
  · intro tracks
    exact (matched addr (inStep.known_of_tracks tracks)).mpr tracks

/-- In all states of a run the known addresses have the right status exactly if every
turn marks as abandoned the addresses that it takes the last path from, and no
others. -/
theorem status_matches_iff_marks_last_paths {endpointId : EndpointId ed}
    {pathSelector : PathSelector ed} {history : List (ActorTurn ed)}
    {actor : RemoteStateActor ed}
    (reached : (turns endpointId pathSelector).Reaches history actor) :
    (turns endpointId pathSelector).Throughout StatusMatches history ↔
      ((turns endpointId pathSelector).restrict fun _ actor turn =>
        actor.MarksLastPaths turn).Reaches history actor := by
  have base := inStep_new endpointId pathSelector
  rw [reached.throughout_congr base (fun _ => InStep.statusMatches)
    fun actor turn inStep => inStep.of_statusMatches_step]
  apply reached.throughout_iff_restrict InStep base
  intro history actor turn before ready inStep
  exact inStep.step_iff turn

/-- A connection gives up one of its two paths. -/
theorem status_matches_abandoned_path :
    let history : List (ActorTurn _) :=
      [⟨.ordinary 0 .failed, .addConnection 0 true (some (some (.toPort 1)))⟩,
        ⟨.ordinary 10 .failed, .pathEvent 0 (.established 1 (some (some (.toPort 2))))⟩,
        ⟨.ordinary 20 .failed, .pathEvent 0 (.abandoned 1)⟩]
    defaultTurns.Throughout StatusMatches history ∧
      (defaultTurns.restrict fun _ actor turn => actor.MarksLastPaths turn).Reaches history
        (defaultTurns.runFrom defaultTurns.start history) := by
  intro history
  have always : defaultTurns.Throughout StatusMatches history := by decide
  exact ⟨always, (status_matches_iff_marks_last_paths
    (Machine.reaches_runFrom (by decide))).mp always⟩

/-- Two connections share an address and one of them gives its path to it up, though
it keeps another path; and a connection closes. -/
theorem status_differs_when_shared_or_closed :
    let shared : List (ActorTurn _) :=
      [⟨.ordinary 0 .failed, .addConnection 0 true (some (some (.toPort 1)))⟩,
        ⟨.ordinary 10 .failed, .pathEvent 0 (.established 1 (some (some (.toPort 2))))⟩,
        ⟨.ordinary 20 .failed, .addConnection 1 true (some (some (.toPort 1)))⟩,
        ⟨.ordinary 30 .failed, .pathEvent 0 (.abandoned 0)⟩]
    let closed : List (ActorTurn _) :=
      [⟨.ordinary 0 .failed, .addConnection 0 true (some (some (.toPort 1)))⟩,
        ⟨.ordinary 10 .failed, .connectionClosed 0⟩]
    let afterShared := defaultTurns.runFrom defaultTurns.start shared
    let afterClosed := defaultTurns.runFrom defaultTurns.start closed
    let addr := (FourTuple.toPort 1).remote
    (defaultTurns.Reaches shared afterShared ∧ afterShared.Tracks addr ∧
        (afterShared.paths.paths.lookup addr).map PathState.status = some (.inactive 30) ∧
        ¬ afterShared.StatusMatches) ∧
      (defaultTurns.Reaches closed afterClosed ∧ ¬ afterClosed.Tracks addr ∧
        (afterClosed.paths.paths.lookup addr).map PathState.status = some .opened ∧
        ¬ afterClosed.StatusMatches) := by
  intro shared closed afterShared afterClosed addr
  exact ⟨⟨Machine.reaches_runFrom (by decide), by decide, by decide, by decide⟩,
    Machine.reaches_runFrom (by decide), by decide, by decide, by decide⟩

/-- There is no selected path, or some connection has it. -/
def SelectedTracked (actor : RemoteStateActor ed) : Prop :=
  ∀ path ∈ actor.selectedPath, actor.TracksPath path

instance : DecidablePred (@SelectedTracked ed) := fun actor =>
  inferInstanceAs (Decidable (∀ path ∈ actor.selectedPath, actor.TracksPath path))

/-- The turn closes a connection and leaves none. -/
def closesLast (actor : RemoteStateActor ed) (turn : ActorTurn ed) : Bool :=
  match turn.input with
  | .connectionClosed connId => HashMap.isEmpty (actor.connections.erase connId)
  | _ => false

/-- The selector makes a choice in this turn, or the last connection goes. -/
def SelectsAnew (actor : RemoteStateActor ed) (turn : ActorTurn ed) : Prop :=
  (actor.selects turn = true ∧ (actor.selection turn).isSome = true) ∨
    actor.closesLast turn = true

/-- The turn takes the path from the last connection that has it. -/
def TakesLast (actor : RemoteStateActor ed) (turn : ActorTurn ed) (path : FourTuple ed) : Prop :=
  actor.TracksPath path ∧ ¬ actor.StillTracks turn path

/-- A turn that takes the selected path from the last connection selects anew. -/
def ReplacesLostSelection (actor : RemoteStateActor ed) (turn : ActorTurn ed) : Prop :=
  ∀ path ∈ actor.selectedPath, actor.TakesLast turn path → actor.SelectsAnew turn

private theorem tracksPath_of_choice (chosen : actor.choice view = some path) :
    actor.TracksPath path := by
  obtain ⟨data, inside, rfl⟩ := actor.pathSelector.candidate _ path chosen
  obtain ⟨⟨connId, conn⟩, filtered, listed⟩ := List.mem_flatMap.mp inside
  obtain ⟨⟨pathId, networkPath⟩, entry, rfl⟩ := List.mem_map.mp listed
  exact ⟨connId, pathId, Option.bind_eq_some_iff.mpr
    ⟨conn, HashMap.mem_iter.mp (List.mem_of_mem_filter filtered), HashMap.mem_iter.mp entry⟩⟩

private theorem closesLast_of_selects (selects : actor.selects turn = true) :
    actor.closesLast turn = false := by
  obtain ⟨view, input⟩ := turn
  cases input with
  | connectionClosed connId => cases selects
  | _ => rfl

theorem selectedPath_step (actor : RemoteStateActor ed) (turn : ActorTurn ed) :
    (actor.step turn).selectedPath =
      if actor.closesLast turn then none
      else if actor.selects turn then (actor.selection turn).or actor.selectedPath
      else actor.selectedPath := by
  cases found : actor.beforeSelect turn with
  | some recorded =>
      obtain ⟨selects, paths, opening, rfl⟩ := beforeSelect_eq found
      rw [step_of_beforeSelect found, closesLast_of_selects selects, selects]
      rfl
  | none =>
      rw [selects_eq_false_of_beforeSelect found]
      obtain ⟨view, input⟩ := turn
      cases input with
      | addConnection connId isClient pathZero => cases found
      | pathEvent connId event => simp [step, found, closesLast]
      | resolveRemote addrs request => simp [step, handleMsgResolveRemote, closesLast]
      | connectionClosed connId => rfl
      | scheduledPathOpen => rfl
      | addressLookupItem item => simp [step, closesLast]

private theorem tracksPath_of_selection (selects : actor.selects turn = true)
    (chosen : actor.selection turn = some path) : (actor.step turn).TracksPath path := by
  have offered : TracksIn (actor.offered turn) path := tracksPath_of_choice chosen
  obtain ⟨view, input⟩ := turn
  rw [TracksPath, connections_step, selects]
  cases input with
  | connectionClosed connId => cases selects
  | _ => exact offered

private theorem SelectedTracked.step_iff (tracked : actor.SelectedTracked) (turn : ActorTurn ed) :
    (actor.step turn).SelectedTracked ↔ actor.ReplacesLostSelection turn := by
  unfold SelectedTracked
  rw [selectedPath_step]
  by_cases closes : actor.closesLast turn = true
  · refine iff_of_true ?_ fun _ _ _ => .inr closes
    simp [closes]
  · have kept : (∀ path ∈ actor.selectedPath, (actor.step turn).TracksPath path) ↔
        ∀ path ∈ actor.selectedPath, ¬ actor.TakesLast turn path := by
      refine forall₂_congr fun path selected => ?_
      rw [tracksPath_step_iff, TakesLast, not_and, not_not]
      exact ⟨fun still _ => still, fun still => still (tracked path selected)⟩
    rw [if_neg closes]
    by_cases selects : actor.selects turn = true
    · cases chosen : actor.selection turn with
      | some choice =>
          refine iff_of_true ?_ fun _ _ _ => .inl ⟨selects, by rw [chosen]; rfl⟩
          simp [selects, tracksPath_of_selection selects chosen]
      | none =>
          rw [if_pos selects, Option.none_or, kept]
          simp [ReplacesLostSelection, SelectsAnew, chosen, closes]
    · rw [if_neg selects, kept]
      simp [ReplacesLostSelection, SelectsAnew, selects, closes]

/-- In all states of a run the selected path is one that some connection has exactly
if every turn that takes the selected path from the last connection that had it
selects another one, or closes the last connection. -/
theorem selected_tracked_iff_replaces_lost {endpointId : EndpointId ed}
    {pathSelector : PathSelector ed} {history : List (ActorTurn ed)}
    {actor : RemoteStateActor ed}
    (reached : (turns endpointId pathSelector).Reaches history actor) :
    (turns endpointId pathSelector).Throughout SelectedTracked history ↔
      ((turns endpointId pathSelector).restrict fun _ actor turn =>
        actor.ReplacesLostSelection turn).Reaches history actor := by
  apply reached.throughout_iff_restrict SelectedTracked
  · intro path selected
    cases selected
  · intro history actor turn before ready tracked
    exact tracked.step_iff turn

/-- The selected path is abandoned while there is another one. -/
theorem selected_tracked_other_path_left :
    let history : List (ActorTurn _) :=
      [⟨.ordinary 0 .failed, .addConnection 0 true (some (some (.toPort 1)))⟩,
        ⟨.ordinary 10 .failed, .pathEvent 0 (.established 1 (some (some (.toPort 2))))⟩,
        ⟨.ordinary 20 .failed, .pathEvent 0 (.abandoned 0)⟩]
    (defaultTurns.runFrom defaultTurns.start history).selectedPath = some (.toPort 2) ∧
      defaultTurns.Throughout SelectedTracked history ∧
      (defaultTurns.restrict fun _ actor turn => actor.ReplacesLostSelection turn).Reaches history
        (defaultTurns.runFrom defaultTurns.start history) := by
  intro history
  have always : defaultTurns.Throughout SelectedTracked history := by decide
  exact ⟨by decide, always, (selected_tracked_iff_replaces_lost
    (Machine.reaches_runFrom (by decide))).mp always⟩

/-- The connection with the selected path closes while there is another connection;
and the only path of the only connection is abandoned. -/
theorem selected_stale_after_close_or_abandon :
    let closed : List (ActorTurn _) :=
      [⟨.ordinary 0 .failed, .addConnection 0 true (some (some (.toPort 1)))⟩,
        ⟨.ordinary 10 .failed, .addConnection 1 true (some (some (.toPort 2)))⟩,
        ⟨.ordinary 20 .failed, .connectionClosed 0⟩]
    let abandoned : List (ActorTurn _) :=
      [⟨.ordinary 0 .failed, .addConnection 0 true (some (some (.toPort 1)))⟩,
        ⟨.ordinary 10 .failed, .pathEvent 0 (.abandoned 0)⟩]
    let afterClosed := defaultTurns.runFrom defaultTurns.start closed
    let afterAbandoned := defaultTurns.runFrom defaultTurns.start abandoned
    (defaultTurns.Reaches closed afterClosed ∧ afterClosed.selectedPath = some (.toPort 1) ∧
        trackedPaths afterClosed.connections = [.toPort 2] ∧ ¬ afterClosed.SelectedTracked) ∧
      (defaultTurns.Reaches abandoned afterAbandoned ∧
        afterAbandoned.selectedPath = some (.toPort 1) ∧
        trackedPaths afterAbandoned.connections = [] ∧ ¬ afterAbandoned.SelectedTracked) := by
  intro closed abandoned afterClosed afterAbandoned
  exact ⟨⟨Machine.reaches_runFrom (by decide), by decide, by decide, by decide⟩,
    Machine.reaches_runFrom (by decide), by decide, by decide, by decide⟩

end RemoteStateActor

end NexalinkTunnel.Socket
