import NexalinkTunnel.Lib.HashMap
import NexalinkTunnel.Socket.Transports

/-!
Contract: what is known about the addresses of one remote endpoint.

Owns `RemotePathState`: the known addresses with their status, the resolve
requests that wait for one, and pruning. The answers to resolve requests are kept
in the order they are given.

Does not own: the connections whose paths make an address open.
-/

namespace NexalinkTunnel.Socket

open Lib Base

/-- A time in milliseconds. -/
abbrev Instant := Nat

inductive Source where
  | app
  | addressLookup (name : String)
  | connection
deriving DecidableEq

inductive PathStatus where
  | opened
  | inactive (since : Instant)
  | unusable
  | unknown
deriving DecidableEq

structure PathState where
  sources : HashMap Source Instant
  status : PathStatus

def PathState.default : PathState := ⟨∅, .unknown⟩

def PathState.learn (source : Source) (now : Instant) (state : PathState) : PathState :=
  { state with sources := state.sources.insert source now }

structure AddressLookupError where
  provenance : String
  source : String
deriving DecidableEq

inductive AddressLookupFailed where
  | noServiceConfigured
  | noResults (errors : List AddressLookupError)
deriving DecidableEq

/-- A resolve request is named by a number; `answers` lists the results that were
sent back, oldest first. -/
structure RemotePathState (ed : Ed25519) where
  paths : HashMap (Addr ed) PathState
  pendingResolveRequests : List Nat
  answers : List (Nat × Except AddressLookupFailed Unit)

variable {ed : Ed25519}

def maxNonRelayPaths : Nat := 30

def maxInactiveNonRelayPaths : Nat := 10

/-- The addresses that `prune_non_relay_paths` removes from a map that it does not
leave alone, out of its non-relay entries. -/
def mustPrune (pathCount : Nat) (primaryPaths : List (Addr ed × PathState)) : List (Addr ed) :=
  let inactive := primaryPaths.filterMap fun entry =>
    match entry.2.status with
    | .inactive since => some (entry.1, since)
    | _ => none
  let failed := primaryPaths.filterMap fun entry =>
    match entry.2.status with
    | .unusable => some entry.1
    | _ => none
  -- All paths are bad, don't prune all of them.
  let failed :=
    if failed.length = pathCount then failed.take (pathCount - maxNonRelayPaths) else failed
  -- From most recently closed to least recently closed.
  let inactive := inactive.insertionSort fun first second => second.2 ≤ first.2
  let oldInactive := inactive.drop (inactive.length - maxInactiveNonRelayPaths)
  failed ++ oldInactive.map Prod.fst

def pruneNonRelayPaths (order : IterationOrder) (paths : HashMap (Addr ed) PathState) :
    HashMap (Addr ed) PathState :=
  if HashMap.len paths < maxNonRelayPaths then paths
  else
    let primaryPaths := (HashMap.iter order paths).filter fun entry => !entry.1.isRelay
    if primaryPaths.length < maxNonRelayPaths then paths
    else
      let pruned := mustPrune (HashMap.len paths) primaryPaths
      HashMap.retain (fun addr _ => !pruned.contains addr) paths

private theorem status_of_mem_mustPrune {pathCount : Nat}
    {primaryPaths : List (Addr ed × PathState)}
    {addr : Addr ed} (pruned : addr ∈ mustPrune pathCount primaryPaths) :
    ∃ state, (addr, state) ∈ primaryPaths ∧ state.status ≠ .opened ∧ state.status ≠ .unknown := by
  unfold mustPrune at pruned
  dsimp only at pruned
  rcases List.mem_append.mp pruned with failed | old
  · have failed := List.mem_filterMap.mp <| show addr ∈ List.filterMap _ _ by
      split at failed
      · exact List.mem_of_mem_take failed
      · exact failed
    obtain ⟨⟨found, state⟩, inside, matched⟩ := failed
    dsimp only at matched
    split at matched
    next isUnusable =>
      cases matched
      exact ⟨state, inside, by simp [isUnusable], by simp [isUnusable]⟩
    next => cases matched
  · obtain ⟨⟨closedAddr, since⟩, dropped, rfl⟩ := List.mem_map.mp old
    have sorted := List.mem_of_mem_drop dropped
    rw [List.mem_insertionSort, List.mem_filterMap] at sorted
    obtain ⟨⟨found, state⟩, inside, matched⟩ := sorted
    dsimp only at matched
    split at matched
    next isInactive =>
      cases matched
      exact ⟨state, inside, by simp [isInactive], by simp [isInactive]⟩
    next => cases matched

section Prune

variable {order : IterationOrder} {paths : HashMap (Addr ed) PathState} {addr : Addr ed}
  {state : PathState}

theorem lookup_of_lookup_prune (found : (pruneNonRelayPaths order paths).lookup addr = some state) :
    paths.lookup addr = some state := by
  unfold pruneNonRelayPaths at found
  split at found
  next => exact found
  next =>
    dsimp only at found
    split at found
    next => exact found
    next => exact (HashMap.lookup_retain_eq_some.mp found).1

/-- Pruning keeps relay entries, open ones and those of unknown status. -/
theorem lookup_prune_of_lookup (found : paths.lookup addr = some state)
    (kept : addr.isRelay = true ∨ state.status = .opened ∨ state.status = .unknown) :
    (pruneNonRelayPaths order paths).lookup addr = some state := by
  unfold pruneNonRelayPaths
  split
  next => exact found
  next =>
    dsimp only
    split
    next => exact found
    next =>
      apply HashMap.lookup_retain_eq_some.mpr
      refine ⟨found, ?_⟩
      rw [Bool.not_eq_true', Bool.eq_false_iff]
      intro pruned
      obtain ⟨other, inside, notOpen, notUnknown⟩ :=
        status_of_mem_mustPrune (List.contains_iff_mem.mp pruned)
      obtain ⟨listed, notRelay⟩ := List.mem_filter.mp inside
      cases found.symm.trans (HashMap.mem_iter.mp listed)
      rcases kept with isRelay | isOpen | isUnknown
      · rw [isRelay] at notRelay
        cases notRelay
      · exact notOpen isOpen
      · exact notUnknown isUnknown

theorem lookup_prune_of_isRelay (isRelay : addr.isRelay = true) :
    (pruneNonRelayPaths order paths).lookup addr = paths.lookup addr :=
  Option.ext fun _ =>
    ⟨lookup_of_lookup_prune, fun found => lookup_prune_of_lookup found (.inl isRelay)⟩

end Prune

namespace RemotePathState

def new : RemotePathState ed := ⟨∅, [], []⟩

def isEmpty (state : RemotePathState ed) : Bool := HashMap.isEmpty state.paths

def prunePaths (order : IterationOrder) (state : RemotePathState ed) : RemotePathState ed :=
  { state with paths := pruneNonRelayPaths order state.paths }

def result (addressLookupError : Option AddressLookupFailed) (state : RemotePathState ed) :
    Except AddressLookupFailed Unit :=
  match state.isEmpty, addressLookupError with
  | false, _ => .ok ()
  | true, some error => .error error
  | true, none => .error (.noResults [])

def emitPendingResolveRequests (addressLookupError : Option AddressLookupFailed)
    (state : RemotePathState ed) : RemotePathState ed :=
  if state.pendingResolveRequests.isEmpty then state
  else
    { state with
      pendingResolveRequests := []
      answers := state.answers ++ state.pendingResolveRequests.map fun request =>
        (request, state.result addressLookupError) }

def insertOpenPath (order : IterationOrder) (now : Instant) (addr : Addr ed) (source : Source)
    (state : RemotePathState ed) : RemotePathState ed :=
  let inserted := { state with
    paths := HashMap.update addr PathState.default
      (fun known => { known with status := .opened }.learn source now) state.paths }
  (inserted.emitPendingResolveRequests none).prunePaths order

def abandonedStatus (now : Instant) : PathStatus → PathStatus
  | .opened | .inactive _ => .inactive now
  | .unusable | .unknown => .unusable

def abandonedPath (now : Instant) (addr : Addr ed) (state : RemotePathState ed) :
    RemotePathState ed :=
  match state.paths.lookup addr with
  | some known =>
      { state with
        paths := state.paths.insert addr
          { known with status := abandonedStatus now known.status } }
  | none => state

/-- Learn of addresses without a change to their status. -/
def learnAddrs (now : Instant) (addrs : List (Addr ed)) (source : Source)
    (paths : HashMap (Addr ed) PathState) : HashMap (Addr ed) PathState :=
  addrs.foldl (fun paths addr => HashMap.update addr PathState.default (·.learn source now) paths)
    paths

def insertMultiple (order : IterationOrder) (now : Instant) (addrs : List (Addr ed))
    (source : Source) (state : RemotePathState ed) : RemotePathState ed :=
  let inserted := { state with paths := learnAddrs now addrs source state.paths }
  prunePaths order <|
    if state.isEmpty && !inserted.isEmpty then inserted.emitPendingResolveRequests none
    else inserted

def resolveRemote (request : Nat) (state : RemotePathState ed) : RemotePathState ed :=
  if !state.isEmpty then { state with answers := state.answers ++ [(request, .ok ())] }
  else { state with pendingResolveRequests := state.pendingResolveRequests ++ [request] }

def addressLookupFinished (result : Except AddressLookupFailed Unit)
    (state : RemotePathState ed) : RemotePathState ed :=
  state.emitPendingResolveRequests <|
    match result with
    | .ok () => none
    | .error error => some error

def requests (state : RemotePathState ed) : List Nat :=
  state.pendingResolveRequests ++ state.answers.map Prod.fst

/-! ## Known and open addresses -/

def OpenIn (paths : HashMap (Addr ed) PathState) (addr : Addr ed) : Prop :=
  ∃ known, paths.lookup addr = some known ∧ known.status = .opened

def IsOpen (state : RemotePathState ed) (addr : Addr ed) : Prop := OpenIn state.paths addr
deriving Decidable

def Known (state : RemotePathState ed) (addr : Addr ed) : Prop :=
  ∃ known, state.paths.lookup addr = some known

variable {state : RemotePathState ed} {paths : HashMap (Addr ed) PathState}
  {order : IterationOrder} {now : Instant} {addr other : Addr ed} {source : Source}

theorem IsOpen.known (isOpen : state.IsOpen addr) : state.Known addr :=
  isOpen.imp fun _ found => found.1

theorem Known.not_isEmpty (known : state.Known addr) : state.isEmpty = false :=
  known.elim fun _ found => HashMap.not_isEmpty_of_lookup found

theorem known_of_not_isEmpty (notEmpty : state.isEmpty = false) : ∃ addr, state.Known addr := by
  by_contra unknown
  have empty : state.isEmpty = true := by
    apply HashMap.isEmpty_iff.mpr
    intro addr
    apply Option.eq_none_iff_forall_ne_some.mpr
    exact fun known found => unknown ⟨addr, known, found⟩
  rw [notEmpty] at empty
  cases empty

theorem openIn_prune : OpenIn (pruneNonRelayPaths order paths) addr ↔ OpenIn paths addr := by
  apply exists_congr
  intro known
  apply and_congr_left
  intro isOpened
  exact ⟨lookup_of_lookup_prune, fun found => lookup_prune_of_lookup found (.inr (.inl isOpened))⟩

theorem openIn_update {change : PathState → PathState} :
    OpenIn (HashMap.update addr PathState.default change paths) other ↔
      if other = addr then
        (change ((paths.lookup addr).getD PathState.default)).status = .opened
      else OpenIn paths other := by
  unfold OpenIn HashMap.update
  rw [HashMap.lookup_insert_eq_ite]
  by_cases same : other = addr
  · rw [if_pos same, if_pos same]
    simp
  · rw [if_neg same, if_neg same]

/-- Known addresses keep their status, and that of new ones is unknown. -/
theorem status_learnAddrs (now : Instant) (addrs : List (Addr ed)) (source : Source)
    (paths : HashMap (Addr ed) PathState) (addr : Addr ed) :
    ((learnAddrs now addrs source paths).lookup addr).map PathState.status =
      if addr ∈ addrs then some (((paths.lookup addr).map PathState.status).getD .unknown)
      else (paths.lookup addr).map PathState.status := by
  induction addrs generalizing paths with
  | nil => rfl
  | cons learned addrs inductionHypothesis =>
      refine (inductionHypothesis _).trans ?_
      simp only [HashMap.update, HashMap.lookup_insert_eq_ite]
      by_cases same : addr = learned
      · subst same
        cases paths.lookup addr <;> simp [PathState.learn, PathState.default]
      · simp [same]

private theorem openIn_learnAddrs {addrs : List (Addr ed)} :
    OpenIn (learnAddrs now addrs source paths) other ↔ OpenIn paths other := by
  have isOpen (paths : HashMap (Addr ed) PathState) :
      OpenIn paths other ↔ (paths.lookup other).map PathState.status = some .opened :=
    Option.map_eq_some_iff.symm
  rw [isOpen, isOpen, status_learnAddrs]
  split
  · cases (paths.lookup other).map PathState.status <;> simp
  · rfl

@[simp] theorem paths_emitPendingResolveRequests (error : Option AddressLookupFailed) :
    (state.emitPendingResolveRequests error).paths = state.paths := by
  unfold emitPendingResolveRequests
  split <;> rfl

theorem paths_insertOpenPath :
    (state.insertOpenPath order now addr source).paths =
      pruneNonRelayPaths order (HashMap.update addr PathState.default
        (fun known => { known with status := .opened }.learn source now) state.paths) := by
  unfold insertOpenPath prunePaths
  dsimp only
  rw [paths_emitPendingResolveRequests]

theorem paths_insertMultiple {addrs : List (Addr ed)} :
    (state.insertMultiple order now addrs source).paths =
      pruneNonRelayPaths order (learnAddrs now addrs source state.paths) := by
  unfold insertMultiple prunePaths
  dsimp only
  split
  · rw [paths_emitPendingResolveRequests]
  · rfl

@[simp] theorem paths_resolveRemote (request : Nat) :
    (state.resolveRemote request).paths = state.paths := by
  unfold resolveRemote
  split <;> rfl

@[simp] theorem paths_addressLookupFinished (result : Except AddressLookupFailed Unit) :
    (state.addressLookupFinished result).paths = state.paths :=
  paths_emitPendingResolveRequests _

theorem isOpen_resolveRemote {request : Nat} :
    (state.resolveRemote request).IsOpen addr ↔ state.IsOpen addr := by
  unfold IsOpen
  rw [paths_resolveRemote]

theorem isOpen_addressLookupFinished {result : Except AddressLookupFailed Unit} :
    (state.addressLookupFinished result).IsOpen addr ↔ state.IsOpen addr := by
  unfold IsOpen
  rw [paths_addressLookupFinished]

theorem isOpen_insertOpenPath :
    (state.insertOpenPath order now addr source).IsOpen other ↔
      other = addr ∨ state.IsOpen other := by
  unfold IsOpen
  rw [paths_insertOpenPath, openIn_prune, openIn_update]
  by_cases same : other = addr
  · simp [same, PathState.learn]
  · simp [same]

theorem isOpen_insertMultiple {addrs : List (Addr ed)} :
    (state.insertMultiple order now addrs source).IsOpen other ↔ state.IsOpen other := by
  unfold IsOpen
  rw [paths_insertMultiple, openIn_prune, openIn_learnAddrs]

theorem isOpen_abandonedPath :
    (state.abandonedPath now addr).IsOpen other ↔ state.IsOpen other ∧ other ≠ addr := by
  unfold abandonedPath
  split
  next known found =>
    unfold IsOpen OpenIn
    rw [HashMap.lookup_insert_eq_ite]
    by_cases same : other = addr
    · have closed : abandonedStatus now known.status ≠ .opened := by
        cases known.status <;> simp [abandonedStatus]
      simp [same, closed]
    · simp [same]
  next missing =>
    constructor
    · intro isOpen
      refine ⟨isOpen, ?_⟩
      intro same
      obtain ⟨known, found, -⟩ := isOpen
      rw [same, missing] at found
      cases found
    · exact And.left

theorem known_abandonedPath : (state.abandonedPath now addr).Known other ↔ state.Known other := by
  unfold abandonedPath
  split
  next known found =>
    unfold Known
    rw [HashMap.lookup_insert_eq_ite]
    by_cases same : other = addr
    · rw [if_pos same, same, found]
      simp
    · rw [if_neg same]
  next => rfl

end RemotePathState

end NexalinkTunnel.Socket
