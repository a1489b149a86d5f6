import NexalinkTunnel.Socket.RemoteMap.PathState

/-!
Contract: which entries pruning keeps.

Owns the whole effect of `prune_non_relay_paths` on a map of any size: the entries it
leaves alone, which inactive entries it keeps and how many, and the map of only
unusable entries.

## Which part is split off

The inactive entries are sorted from the most recently closed one on, and the part
from `len - 10` on is pruned. So ten are pruned, and what stays is what is beyond ten.
-/

namespace NexalinkTunnel.Socket

open Lib Base

variable {ed : Ed25519}

/-! ## What pruning is to keep -/

def PathStatus.isInactive : PathStatus → Bool
  | .inactive _ => true
  | _ => false

def PathStatus.isUnusable : PathStatus → Bool
  | .unusable => true
  | _ => false

theorem PathStatus.isUnusable_iff {status : PathStatus} :
    status.isUnusable = true ↔ status = .unusable := by
  cases status <;> simp [isUnusable]

def nonRelayCount (paths : HashMap (Addr ed) PathState) : Nat :=
  HashMap.count (fun addr _ => !addr.isRelay) paths

def inactiveCount (paths : HashMap (Addr ed) PathState) : Nat :=
  HashMap.count (fun addr state => !addr.isRelay && state.status.isInactive) paths

def unusableCount (paths : HashMap (Addr ed) PathState) : Nat :=
  HashMap.count (fun addr state => !addr.isRelay && state.status.isUnusable) paths

def AllUnusable (paths : HashMap (Addr ed) PathState) : Prop :=
  ∀ addr state, paths.lookup addr = some state → addr.isRelay = false ∧ state.status = .unusable

/-- What pruning leaves alone and which entries it prefers, whatever their number. -/
structure KeepsPreferred (before after : HashMap (Addr ed) PathState) : Prop where
  only : ∀ addr state, after.lookup addr = some state → before.lookup addr = some state
  untouched : ∀ addr state, before.lookup addr = some state →
    addr.isRelay ∨ state.status = .opened ∨ state.status = .unknown →
      after.lookup addr = some state
  newest : ∀ kept keptState keptSince removed removedState removedSince,
    after.lookup kept = some keptState → kept.isRelay = false →
    keptState.status = .inactive keptSince →
    before.lookup removed = some removedState → removed.isRelay = false →
    removedState.status = .inactive removedSince → after.lookup removed = none →
      removedSince ≤ keptSince
  allUnusable : AllUnusable before → unusableCount after = maxNonRelayPaths
  unusable : ¬ AllUnusable before → ∀ addr state, after.lookup addr = some state →
    addr.isRelay = false → state.status ≠ .unusable

/-- The map with enough non-relay entries keeps ten of the inactive ones or all of them, and a
smaller one stays as it is. -/
def PrunesRight (before after : HashMap (Addr ed) PathState) : Prop :=
  (nonRelayCount before < maxNonRelayPaths → after = before) ∧
    (maxNonRelayPaths ≤ nonRelayCount before →
      KeepsPreferred before after ∧
        inactiveCount after = min maxInactiveNonRelayPaths (inactiveCount before))

/-! ## The parts of the entries -/

def inactivePaths (primaryPaths : List (Addr ed × PathState)) : List (Addr ed × Instant) :=
  primaryPaths.filterMap fun entry =>
    match entry.2.status with
    | .inactive since => some (entry.1, since)
    | _ => none

/-- The inactive entries from most recently closed to least recently closed. -/
def sortedInactive (primaryPaths : List (Addr ed × PathState)) : List (Addr ed × Instant) :=
  (inactivePaths primaryPaths).insertionSort fun first second => second.2 ≤ first.2

def failedPaths (primaryPaths : List (Addr ed × PathState)) : List (Addr ed) :=
  primaryPaths.filterMap fun entry =>
    match entry.2.status with
    | .unusable => some entry.1
    | _ => none

def prunedFailed (pathCount : Nat) (primaryPaths : List (Addr ed × PathState)) :
    List (Addr ed) :=
  if (failedPaths primaryPaths).length = pathCount then
    (failedPaths primaryPaths).take (pathCount - maxNonRelayPaths)
  else failedPaths primaryPaths

def keptInactive (primaryPaths : List (Addr ed × PathState)) : List (Addr ed × Instant) :=
  (sortedInactive primaryPaths).take
    ((sortedInactive primaryPaths).length - maxInactiveNonRelayPaths)

def oldInactive (primaryPaths : List (Addr ed × PathState)) : List (Addr ed × Instant) :=
  (sortedInactive primaryPaths).drop
    ((sortedInactive primaryPaths).length - maxInactiveNonRelayPaths)

variable {primaryPaths : List (Addr ed × PathState)} {addr : Addr ed} {since : Instant}

theorem mustPrune_eq (pathCount : Nat) (primaryPaths : List (Addr ed × PathState)) :
    mustPrune pathCount primaryPaths =
      prunedFailed pathCount primaryPaths ++ (oldInactive primaryPaths).map Prod.fst :=
  rfl

/-- The addresses of the entries whose status is one of those chosen. -/
def addrsWith (chosen : PathStatus → Bool) (primaryPaths : List (Addr ed × PathState)) :
    List (Addr ed) :=
  (primaryPaths.filter fun entry => chosen entry.2.status).map Prod.fst

theorem keys_inactivePaths (primaryPaths : List (Addr ed × PathState)) :
    (inactivePaths primaryPaths).map Prod.fst = addrsWith PathStatus.isInactive primaryPaths := by
  induction primaryPaths with
  | nil => rfl
  | cons entry rest inductionHypothesis =>
      obtain ⟨addr, sources, status⟩ := entry
      cases status with
      | inactive since => exact congrArg (addr :: ·) inductionHypothesis
      | opened | unusable | unknown => exact inductionHypothesis

theorem failedPaths_eq (primaryPaths : List (Addr ed × PathState)) :
    failedPaths primaryPaths = addrsWith PathStatus.isUnusable primaryPaths := by
  induction primaryPaths with
  | nil => rfl
  | cons entry rest inductionHypothesis =>
      obtain ⟨addr, sources, status⟩ := entry
      cases status with
      | unusable => exact congrArg (addr :: ·) inductionHypothesis
      | opened | inactive | unknown => exact inductionHypothesis

theorem mem_inactivePaths :
    (addr, since) ∈ inactivePaths primaryPaths ↔
      ∃ state, (addr, state) ∈ primaryPaths ∧ state.status = .inactive since := by
  rw [inactivePaths, List.mem_filterMap]
  constructor
  · rintro ⟨⟨found, state⟩, inside, matched⟩
    dsimp only at matched
    split at matched
    next isInactive =>
      cases matched
      exact ⟨state, inside, isInactive⟩
    next => cases matched
  · rintro ⟨state, inside, isInactive⟩
    exact ⟨(addr, state), inside, by simp [isInactive]⟩

theorem mem_failedPaths :
    addr ∈ failedPaths primaryPaths ↔
      ∃ state, (addr, state) ∈ primaryPaths ∧ state.status = .unusable := by
  rw [failedPaths_eq]
  simp [addrsWith, PathStatus.isUnusable_iff]

theorem mem_sortedInactive :
    (addr, since) ∈ sortedInactive primaryPaths ↔
      ∃ state, (addr, state) ∈ primaryPaths ∧ state.status = .inactive since := by
  rw [sortedInactive, List.mem_insertionSort, mem_inactivePaths]

theorem keptInactive_append_oldInactive (primaryPaths : List (Addr ed × PathState)) :
    keptInactive primaryPaths ++ oldInactive primaryPaths = sortedInactive primaryPaths :=
  List.take_append_drop _ _

private theorem since_le_of_kept_of_old {kept old : Addr ed × Instant}
    (isKept : kept ∈ keptInactive primaryPaths) (isOld : old ∈ oldInactive primaryPaths) :
    old.2 ≤ kept.2 := by
  let closedLater : Addr ed × Instant → Addr ed × Instant → Prop :=
    fun first second => second.2 ≤ first.2
  have : Std.Total closedLater := ⟨fun first second => Nat.le_total second.2 first.2⟩
  have : IsTrans _ closedLater := ⟨fun _ _ _ first second => Nat.le_trans second first⟩
  have sorted : (sortedInactive primaryPaths).Pairwise closedLater :=
    List.pairwise_insertionSort closedLater _
  rw [← keptInactive_append_oldInactive, List.pairwise_append] at sorted
  exact sorted.2.2 kept isKept old isOld

/-! ## The map after pruning -/

section Map

variable {order : IterationOrder} {paths : HashMap (Addr ed) PathState} {state : PathState}

def primaryPathsOf (order : IterationOrder) (paths : HashMap (Addr ed) PathState) :
    List (Addr ed × PathState) :=
  (HashMap.iter order paths).filter fun entry => !entry.1.isRelay

theorem mem_primaryPathsOf :
    (addr, state) ∈ primaryPathsOf order paths ↔
      paths.lookup addr = some state ∧ addr.isRelay = false := by
  rw [primaryPathsOf, List.mem_filter, HashMap.mem_iter, Bool.not_eq_true']

theorem length_primaryPathsOf : (primaryPathsOf order paths).length = nonRelayCount paths := by
  rw [primaryPathsOf, ← List.countP_eq_length_filter]
  exact HashMap.countP_iter order (fun addr _ => !addr.isRelay) paths

private theorem nodup_keys_primaryPathsOf : ((primaryPathsOf order paths).map Prod.fst).Nodup :=
  (HashMap.nodup_keys_iter order paths).sublist (List.filter_sublist.map Prod.fst)

/-- The addresses that are pruned from a map that is not left alone. -/
def prunedFrom (order : IterationOrder) (paths : HashMap (Addr ed) PathState) : List (Addr ed) :=
  mustPrune (HashMap.len paths) (primaryPathsOf order paths)

private theorem prune_of_few (few : nonRelayCount paths < maxNonRelayPaths) :
    pruneNonRelayPaths order paths = paths := by
  unfold pruneNonRelayPaths
  split
  · rfl
  · exact if_pos (length_primaryPathsOf.trans_lt few)

theorem nonRelayCount_le_len : nonRelayCount paths ≤ HashMap.len paths := List.countP_le_length

theorem prune_of_many (many : maxNonRelayPaths ≤ nonRelayCount paths) :
    pruneNonRelayPaths order paths =
      HashMap.retain (fun addr _ => !(prunedFrom order paths).contains addr) paths := by
  have enough : ¬ HashMap.len paths < maxNonRelayPaths :=
    Nat.not_lt.mpr (many.trans nonRelayCount_le_len)
  have enoughPrimary : ¬ (primaryPathsOf order paths).length < maxNonRelayPaths :=
    Nat.not_lt.mpr (length_primaryPathsOf.symm ▸ many)
  rw [pruneNonRelayPaths, if_neg enough]
  exact if_neg enoughPrimary

private theorem lookup_prune_of_many (many : maxNonRelayPaths ≤ nonRelayCount paths) :
    (pruneNonRelayPaths order paths).lookup addr = some state ↔
      paths.lookup addr = some state ∧ addr ∉ prunedFrom order paths := by
  rw [prune_of_many many, HashMap.lookup_retain_eq_some]
  simp

private theorem mem_of_mem_prunedFailed {pathCount : Nat}
    (pruned : addr ∈ prunedFailed pathCount primaryPaths) : addr ∈ failedPaths primaryPaths := by
  unfold prunedFailed at pruned
  split at pruned
  · exact List.mem_of_mem_take pruned
  · exact pruned

private theorem mem_prunedFrom_of_inactive (found : paths.lookup addr = some state)
    (isInactive : state.status = .inactive since) :
    addr ∈ prunedFrom order paths ↔
      addr ∈ (oldInactive (primaryPathsOf order paths)).map Prod.fst := by
  rw [prunedFrom, mustPrune_eq, List.mem_append]
  refine ⟨?_, .inr⟩
  intro pruned
  rcases pruned with failed | old
  · obtain ⟨other, inside, isUnusable⟩ := mem_failedPaths.mp (mem_of_mem_prunedFailed failed)
    cases found.symm.trans (mem_primaryPathsOf.mp inside).1
    rw [isInactive] at isUnusable
    cases isUnusable
  · exact old

theorem exists_inactive_of_mem_old
    (old : addr ∈ (oldInactive (primaryPathsOf order paths)).map Prod.fst) :
    ∃ state since, paths.lookup addr = some state ∧ addr.isRelay = false ∧
      state.status = .inactive since ∧
        (addr, since) ∈ oldInactive (primaryPathsOf order paths) := by
  obtain ⟨⟨found, since⟩, isOld, rfl⟩ := List.mem_map.mp old
  obtain ⟨state, inside, isInactive⟩ := mem_sortedInactive.mp (List.mem_of_mem_drop isOld)
  have entry := mem_primaryPathsOf.mp inside
  exact ⟨state, since, entry.1, entry.2, isInactive, isOld⟩

private theorem mem_prunedFrom_of_unusable (found : paths.lookup addr = some state)
    (isUnusable : state.status = .unusable) :
    addr ∈ prunedFrom order paths ↔
      addr ∈ prunedFailed (HashMap.len paths) (primaryPathsOf order paths) := by
  rw [prunedFrom, mustPrune_eq, List.mem_append]
  refine ⟨?_, .inl⟩
  intro pruned
  rcases pruned with failed | old
  · exact failed
  · obtain ⟨other, since, found', -, isInactive, -⟩ := exists_inactive_of_mem_old old
    cases found.symm.trans found'
    rw [isUnusable] at isInactive
    cases isInactive

private theorem countP_addrsWith (chosen : PathStatus → Bool) (keep : Addr ed → Bool) :
    (addrsWith chosen (primaryPathsOf order paths)).countP keep =
      HashMap.count (fun addr state => !addr.isRelay && chosen state.status && keep addr)
        paths := by
  rw [addrsWith, List.countP_map, List.countP_filter, primaryPathsOf, List.countP_filter,
    ← HashMap.countP_iter order _ paths]
  apply List.countP_congr
  intro entry _
  simp only [Function.comp_apply, Bool.and_eq_true]
  tauto

theorem length_addrsWith (chosen : PathStatus → Bool) :
    (addrsWith chosen (primaryPathsOf order paths)).length =
      HashMap.count (fun addr state => !addr.isRelay && chosen state.status) paths := by
  rw [← List.countP_true, countP_addrsWith]
  simp only [Bool.and_true]

private theorem count_prune (many : maxNonRelayPaths ≤ nonRelayCount paths)
    (chosen : PathStatus → Bool) {kept removed : List (Addr ed)}
    (parts : (addrsWith chosen (primaryPathsOf order paths)).Perm (kept ++ removed))
    (pruned : ∀ addr ∈ addrsWith chosen (primaryPathsOf order paths),
      addr ∈ prunedFrom order paths ↔ addr ∈ removed) :
    HashMap.count (fun addr state => !addr.isRelay && chosen state.status)
      (pruneNonRelayPaths order paths) = kept.length := by
  have distinct : (addrsWith chosen (primaryPathsOf order paths)).Nodup :=
    nodup_keys_primaryPathsOf.sublist (List.filter_sublist.map Prod.fst)
  rw [prune_of_many many, HashMap.count_retain, ← @countP_addrsWith _ order paths chosen]
  calc (addrsWith chosen (primaryPathsOf order paths)).countP
        (fun addr => !(prunedFrom order paths).contains addr)
    _ = (addrsWith chosen (primaryPathsOf order paths)).countP
          fun addr => !removed.contains addr := by
        apply List.countP_congr
        intro addr inside
        simp [pruned addr inside]
    _ = (kept ++ removed).countP fun addr => !removed.contains addr := parts.countP_eq _
    _ = kept.length := countP_notMem (parts.nodup_iff.mp distinct)

private theorem inactiveCount_eq_length :
    inactiveCount paths = (sortedInactive (primaryPathsOf order paths)).length := by
  rw [sortedInactive, List.length_insertionSort, ← List.length_map Prod.fst, keys_inactivePaths,
    length_addrsWith, inactiveCount]

/-- The ten inactive entries that were closed first are pruned, not those beyond ten. -/
theorem inactiveCount_prune (many : maxNonRelayPaths ≤ nonRelayCount paths) :
    inactiveCount (pruneNonRelayPaths order paths) =
      inactiveCount paths - maxInactiveNonRelayPaths := by
  have parts : (addrsWith PathStatus.isInactive (primaryPathsOf order paths)).Perm
      ((keptInactive (primaryPathsOf order paths)).map Prod.fst ++
        (oldInactive (primaryPathsOf order paths)).map Prod.fst) := by
    rw [← List.map_append, keptInactive_append_oldInactive, ← keys_inactivePaths]
    exact (List.perm_insertionSort _ _).symm.map Prod.fst
  rw [inactiveCount, count_prune many PathStatus.isInactive parts, List.length_map, keptInactive,
    List.length_take, ← inactiveCount_eq_length]
  · omega
  · intro addr inside
    rw [← keys_inactivePaths, List.mem_map] at inside
    obtain ⟨⟨_, since⟩, listed, rfl⟩ := inside
    obtain ⟨state, inside, isInactive⟩ := mem_inactivePaths.mp listed
    exact mem_prunedFrom_of_inactive (mem_primaryPathsOf.mp inside).1 isInactive

theorem allUnusable_iff :
    AllUnusable paths ↔
      (failedPaths (primaryPathsOf order paths)).length = HashMap.len paths := by
  rw [failedPaths_eq, length_addrsWith, HashMap.count_eq_len, AllUnusable]
  simp [PathStatus.isUnusable_iff]

/-- Of a map of unusable entries only, thirty stay. -/
theorem unusableCount_prune_of_allUnusable (many : maxNonRelayPaths ≤ nonRelayCount paths)
    (all : AllUnusable paths) :
    unusableCount (pruneNonRelayPaths order paths) = maxNonRelayPaths := by
  set failed := failedPaths (primaryPathsOf order paths) with failed_eq
  set removed := HashMap.len paths - maxNonRelayPaths
  have length : failed.length = HashMap.len paths := allUnusable_iff.mp all
  have pruned : prunedFailed (HashMap.len paths) (primaryPathsOf order paths) =
      failed.take removed := if_pos length
  have parts : (addrsWith PathStatus.isUnusable (primaryPathsOf order paths)).Perm
      (failed.drop removed ++ failed.take removed) := by
    rw [← failedPaths_eq, ← failed_eq]
    conv_lhs => rw [← List.take_append_drop removed failed]
    exact List.perm_append_comm
  have enough : maxNonRelayPaths ≤ HashMap.len paths := many.trans nonRelayCount_le_len
  rw [unusableCount, count_prune many PathStatus.isUnusable parts, List.length_drop, length]
  · omega
  · intro addr inside
    rw [← failedPaths_eq] at inside
    obtain ⟨state, inside, isUnusable⟩ := mem_failedPaths.mp inside
    rw [mem_prunedFrom_of_unusable (mem_primaryPathsOf.mp inside).1 isUnusable, pruned]

private theorem mem_prunedFrom_of_not_allUnusable (mixed : ¬ AllUnusable paths)
    (found : paths.lookup addr = some state) (notRelay : addr.isRelay = false)
    (isUnusable : state.status = .unusable) : addr ∈ prunedFrom order paths := by
  have notAll : ¬ (failedPaths (primaryPathsOf order paths)).length = HashMap.len paths :=
    fun all => mixed (allUnusable_iff.mpr all)
  rw [mem_prunedFrom_of_unusable found isUnusable, prunedFailed, if_neg notAll]
  exact mem_failedPaths.mpr ⟨state, mem_primaryPathsOf.mpr ⟨found, notRelay⟩, isUnusable⟩

/-- Every part of the law but the number of inactive entries. -/
theorem keepsPreferred_prune (many : maxNonRelayPaths ≤ nonRelayCount paths) :
    KeepsPreferred paths (pruneNonRelayPaths order paths) where
  only addr state found := lookup_of_lookup_prune found
  untouched addr state found kept := lookup_prune_of_lookup found kept
  newest kept keptState keptSince removed removedState removedSince := by
    intro found notRelay isInactive found' notRelay' isInactive' gone
    obtain ⟨found, notPruned⟩ := (lookup_prune_of_many many).mp found
    have isKept : (kept, keptSince) ∈ keptInactive (primaryPathsOf order paths) := by
      have sorted : (kept, keptSince) ∈ sortedInactive (primaryPathsOf order paths) :=
        mem_sortedInactive.mpr ⟨_, mem_primaryPathsOf.mpr ⟨found, notRelay⟩, isInactive⟩
      rw [← keptInactive_append_oldInactive] at sorted
      rcases List.mem_append.mp sorted with isKept | isOld
      · exact isKept
      · rw [mem_prunedFrom_of_inactive found isInactive] at notPruned
        exact absurd (List.mem_map_of_mem isOld) notPruned
    have pruned : removed ∈ prunedFrom order paths := by
      by_contra stays
      rw [(lookup_prune_of_many many).mpr ⟨found', stays⟩] at gone
      cases gone
    rw [mem_prunedFrom_of_inactive found' isInactive'] at pruned
    obtain ⟨state, since, found'', -, isInactive'', isOld⟩ := exists_inactive_of_mem_old pruned
    cases found'.symm.trans found''
    cases isInactive'.symm.trans isInactive''
    exact since_le_of_kept_of_old isKept isOld
  allUnusable all := unusableCount_prune_of_allUnusable many all
  unusable mixed addr state found notRelay isUnusable := by
    obtain ⟨found, notPruned⟩ := (lookup_prune_of_many many).mp found
    exact notPruned (mem_prunedFrom_of_not_allUnusable mixed found notRelay isUnusable)

/-- The map has enough entries, none of which is of a relay, open or of unknown status, and at least
one and at most ten of them are inactive. -/
def PrunesAll (paths : HashMap (Addr ed) PathState) : Prop :=
  maxNonRelayPaths ≤ HashMap.len paths ∧
    (∀ addr state, paths.lookup addr = some state → addr.isRelay = false ∧
      state.status ≠ .opened ∧ state.status ≠ .unknown) ∧
    0 < inactiveCount paths ∧ inactiveCount paths ≤ maxInactiveNonRelayPaths

private theorem isEmpty_prune_of_prunesAll (all : PrunesAll paths) :
    HashMap.isEmpty (pruneNonRelayPaths order paths) = true := by
  obtain ⟨enough, bad, some, few⟩ := all
  have count : nonRelayCount paths = HashMap.len paths := by
    refine HashMap.count_eq_len.mpr fun addr state found => ?_
    simp [(bad addr state found).1]
  have many : maxNonRelayPaths ≤ nonRelayCount paths := count ▸ enough
  have noInactive : inactiveCount (pruneNonRelayPaths order paths) = 0 := by
    rw [inactiveCount_prune many]
    omega
  have mixed : ¬ AllUnusable paths := by
    intro all
    refine some.ne' (HashMap.count_eq_zero.mpr fun addr state found => ?_)
    simp [(all addr state found).2, PathStatus.isInactive]
  rw [HashMap.isEmpty_iff]
  intro addr
  by_contra stays
  obtain ⟨state, found⟩ := Option.ne_none_iff_exists'.mp stays
  obtain ⟨notRelay, notOpened, notUnknown⟩ := bad addr state (lookup_of_lookup_prune found)
  have notInactive := HashMap.count_eq_zero.mp noInactive addr state found
  have notUnusable := (keepsPreferred_prune many).unusable mixed addr state found notRelay
  cases status : state.status <;> simp_all [PathStatus.isInactive]

/-- Pruning leaves nothing of such a map, and something of every other one that is not empty. -/
private theorem prunesAll_of_isEmpty_prune (many : maxNonRelayPaths ≤ nonRelayCount paths)
    (empty : HashMap.isEmpty (pruneNonRelayPaths order paths) = true) : PrunesAll paths := by
  have gone := HashMap.isEmpty_iff.mp empty
  have none (chosen : Addr ed → PathState → Bool) :
      HashMap.count chosen (pruneNonRelayPaths order paths) = 0 :=
    HashMap.count_eq_zero.mpr fun addr state found => by simp [gone addr] at found
  have bad : ∀ addr state, paths.lookup addr = some state → addr.isRelay = false ∧
      state.status ≠ .opened ∧ state.status ≠ .unknown := by
    intro addr state found
    by_contra good
    have stays : (pruneNonRelayPaths order paths).lookup addr = some state :=
      lookup_prune_of_lookup found (by grind)
    rw [gone addr] at stays
    cases stays
  refine ⟨many.trans nonRelayCount_le_len, bad, Nat.pos_of_ne_zero fun noInactive => ?_, ?_⟩
  · have all : AllUnusable paths := by
      intro addr state found
      obtain ⟨notRelay, notOpened, notUnknown⟩ := bad addr state found
      have notInactive := HashMap.count_eq_zero.mp noInactive addr state found
      refine ⟨notRelay, ?_⟩
      cases status : state.status <;> simp_all [PathStatus.isInactive]
    have kept : unusableCount (pruneNonRelayPaths order paths) = maxNonRelayPaths :=
      unusableCount_prune_of_allUnusable many all
    rw [unusableCount, none] at kept
    cases kept
  · have left : inactiveCount (pruneNonRelayPaths order paths) = _ := inactiveCount_prune many
    rw [inactiveCount, none] at left
    omega

theorem isEmpty_prune_iff :
    HashMap.isEmpty (pruneNonRelayPaths order paths) = true ↔
      HashMap.isEmpty paths = true ∨ PrunesAll paths := by
  constructor
  · intro empty
    by_cases few : nonRelayCount paths < maxNonRelayPaths
    · exact .inl (prune_of_few few ▸ empty)
    · exact .inr (prunesAll_of_isEmpty_prune (Nat.not_lt.mp few) empty)
  · rintro (empty | all)
    · rw [HashMap.isEmpty_iff] at empty ⊢
      intro addr
      by_contra stays
      obtain ⟨state, found⟩ := Option.ne_none_iff_exists'.mp stays
      cases (empty addr).symm.trans (lookup_of_lookup_prune found)
    · exact isEmpty_prune_of_prunesAll all

/-- Pruning keeps the right entries of a map exactly if it is left alone, has no inactive
non-relay entry or has twenty, where ten are both the pruned part and the kept one. -/
theorem pruneNonRelayPaths_prunesRight_iff (order : IterationOrder)
    (paths : HashMap (Addr ed) PathState) :
    PrunesRight paths (pruneNonRelayPaths order paths) ↔
      nonRelayCount paths < maxNonRelayPaths ∨ inactiveCount paths = 0 ∨
        inactiveCount paths = 2 * maxInactiveNonRelayPaths := by
  by_cases few : nonRelayCount paths < maxNonRelayPaths
  · refine iff_of_true ⟨fun _ => prune_of_few few, fun many => ?_⟩ (.inl few)
    exact absurd few (Nat.not_lt.mpr many)
  · have many : maxNonRelayPaths ≤ nonRelayCount paths := Nat.not_lt.mp few
    constructor
    · intro right
      have count := (right.2 many).2
      rw [inactiveCount_prune many] at count
      simp only [maxInactiveNonRelayPaths] at count ⊢
      omega
    · intro exact
      refine ⟨fun few' => absurd few' few, fun _ => ⟨keepsPreferred_prune many, ?_⟩⟩
      rw [inactiveCount_prune many]
      simp only [maxInactiveNonRelayPaths] at exact ⊢
      omega

end Map

def oneInactive : HashMap (Addr ⟨fun _ => true⟩) PathState :=
  (List.range 30).foldl
    (fun paths port => paths.insert (.ip (.v4 0 port.toUInt16))
      ⟨∅, if port = 0 then .inactive 5 else .unknown⟩) ∅

/-- The only inactive entry is pruned. -/
theorem pruneNonRelayPaths_oneInactive :
    nonRelayCount oneInactive = 30 ∧ inactiveCount oneInactive = 1 ∧
      inactiveCount (pruneNonRelayPaths .standing oneInactive) = 0 ∧
      ¬ PrunesRight oneInactive (pruneNonRelayPaths .standing oneInactive) := by
  have count : nonRelayCount oneInactive = 30 := by decide +kernel
  have inactive : inactiveCount oneInactive = 1 := by decide +kernel
  have pruned : inactiveCount (pruneNonRelayPaths .standing oneInactive) = 0 := by decide +kernel
  refine ⟨count, inactive, pruned, ?_⟩
  intro right
  have kept := (right.2 count.ge).2
  rw [inactive, pruned] at kept
  exact absurd kept (by decide)

end NexalinkTunnel.Socket
