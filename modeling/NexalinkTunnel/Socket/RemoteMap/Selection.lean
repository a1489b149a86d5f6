import Mathlib.Data.Prod.Lex
import NexalinkTunnel.Lib.MachineNumbers
import NexalinkTunnel.Lib.RunningLeast
import NexalinkTunnel.Socket.RemoteMap.PathSelector

/-!
Contract: how good the path is that the default selector chooses.

Owns that the effective path is of the best tier and within the switching margin of
the best round-trip time there, that the selector leaves a path only for a clear
advantage, that the order of the candidates does not matter, and that a selection is
stable under the same statistics.

Does not own: where the candidates and their statistics come from.

## Ties

Candidates with the same key are told apart by their place in the list, so permuting
the candidates may change the path that is chosen, but not its key.
-/

namespace NexalinkTunnel.Socket

open Lib Base

variable {ed : Ed25519}

/-! ## The order of the keys -/

def TransportType.rank : TransportType → Nat
  | .primary => 0
  | .backup => 1

private theorem TransportType.rank_injective : Function.Injective TransportType.rank := by
  intro left right same
  cases left <;> cases right <;> simp_all [TransportType.rank]

instance : LinearOrder TransportType :=
  LinearOrder.lift' TransportType.rank TransportType.rank_injective

def SortKey.toTuple (key : SortKey) : TransportType ×ₗ Int := toLex (key.tier, key.biasedRtt)

private theorem SortKey.toTuple_injective : Function.Injective SortKey.toTuple := by
  intro left right same
  cases left
  cases right
  cases same
  rfl

instance : LinearOrder SortKey := LinearOrder.lift' SortKey.toTuple SortKey.toTuple_injective

namespace SortKey

variable {left right : SortKey}

theorem le_iff :
    left ≤ right ↔
      left.tier < right.tier ∨ left.tier = right.tier ∧ left.biasedRtt ≤ right.biasedRtt :=
  Prod.Lex.toLex_le_toLex

private theorem lt_iff :
    left < right ↔
      left.tier < right.tier ∨ left.tier = right.tier ∧ left.biasedRtt < right.biasedRtt :=
  Prod.Lex.toLex_lt_toLex

private theorem less_iff : left.less right = true ↔ left < right := by
  have primary_lt : TransportType.primary < TransportType.backup := Nat.zero_lt_one
  rw [lt_iff]
  obtain ⟨tier, biasedRtt⟩ := left
  obtain ⟨tier', biasedRtt'⟩ := right
  cases tier <;> cases tier' <;> simp [less, primary_lt, primary_lt.not_gt]

private theorem tier_le (least : left ≤ right) : left.tier ≤ right.tier := by
  rcases le_iff.mp least with lower | same
  · exact lower.le
  · exact same.1.le

private theorem biasedRtt_le (least : left ≤ right) (sameTier : left.tier = right.tier) :
    left.biasedRtt ≤ right.biasedRtt := by
  rcases le_iff.mp least with lower | same
  · exact absurd sameTier lower.ne
  · exact same.2

end SortKey

namespace BiasedRttPathSelector

variable {selector : BiasedRttPathSelector} {current : Option (FourTuple ed)}
  {paths seen : List (PathSelectionData ed)} {path : FourTuple ed} {key : SortKey}

/-! ## The keys of the candidates -/

def keyOf (selector : BiasedRttPathSelector) (data : PathSelectionData ed) : Option SortKey :=
  data.rtt.map (selector.sortKey data.networkPath)

/-- The keys of the candidates with statistics whose path is eligible. -/
def keysWhere (selector : BiasedRttPathSelector) (paths : List (PathSelectionData ed))
    (Eligible : FourTuple ed → Prop) : Set SortKey :=
  {key | ∃ data ∈ paths, Eligible data.networkPath ∧ selector.keyOf data = some key}

def keys (selector : BiasedRttPathSelector) (paths : List (PathSelectionData ed)) : Set SortKey :=
  selector.keysWhere paths fun _ => True

/-- The keys of one path, which may be a candidate several times. -/
def keysAt (selector : BiasedRttPathSelector) (paths : List (PathSelectionData ed))
    (path : FourTuple ed) : Set SortKey :=
  selector.keysWhere paths fun other => other = path

def effective (selector : BiasedRttPathSelector) (context : PathSelectionContext ed) :
    Option (FourTuple ed) :=
  (selector.select context).or context.current

private theorem keysAt_subset : selector.keysAt paths path ⊆ selector.keys paths := by
  rintro key ⟨data, inside, -, found⟩
  exact ⟨data, inside, trivial, found⟩

section Append

variable {Eligible : FourTuple ed → Prop} {data : PathSelectionData ed}

private theorem keysWhere_append_of_key (eligible : Eligible data.networkPath)
    (found : selector.keyOf data = some key) :
    selector.keysWhere (seen ++ [data]) Eligible =
      insert key (selector.keysWhere seen Eligible) := by
  ext other
  simp only [keysWhere, List.mem_append, List.mem_singleton, Set.mem_ofPred_eq, Set.mem_insert_iff]
  constructor
  · rintro ⟨candidate, before | rfl, isEligible, found'⟩
    · exact .inr ⟨candidate, before, isEligible, found'⟩
    · exact .inl (Option.some.inj (found'.symm.trans found))
  · rintro (rfl | ⟨candidate, before, isEligible, found'⟩)
    · exact ⟨data, .inr rfl, eligible, found⟩
    · exact ⟨candidate, .inl before, isEligible, found'⟩

private theorem keysWhere_append_of_skip
    (skipped : Eligible data.networkPath → selector.keyOf data = none) :
    selector.keysWhere (seen ++ [data]) Eligible = selector.keysWhere seen Eligible := by
  ext other
  simp only [keysWhere, List.mem_append, List.mem_singleton, Set.mem_ofPred_eq]
  constructor
  · rintro ⟨candidate, before | rfl, isEligible, found⟩
    · exact ⟨candidate, before, isEligible, found⟩
    · rw [skipped isEligible] at found
      cases found
  · rintro ⟨candidate, before, isEligible, found⟩
    exact ⟨candidate, .inl before, isEligible, found⟩

end Append

/-! ## The pass over the candidates -/

/-- What the pass knows of the candidates that it has seen. -/
structure Scanned (selector : BiasedRttPathSelector) (current : Option (FourTuple ed))
    (seen : List (PathSelectionData ed)) (scan : Scan ed) : Prop where
  best : LeastOf (selector.keys seen) (scan.best.map Prod.snd)
  bestData : ∀ data key, scan.best = some (data, key) →
    data ∈ seen ∧ selector.keyOf data = some key
  currentKey : LeastOf (selector.keysWhere seen fun path => some path = current) scan.currentKey

private theorem scanned_nil : Scanned selector current [] ⟨none, none⟩ where
  best := by simp [LeastOf, keys, keysWhere]
  bestData := by simp
  currentKey := by simp [LeastOf, keysWhere]

private theorem all_less_iff {least : Option SortKey} :
    (least.all (key.less ·)) = true ↔ ∀ other ∈ least, key < other := by
  cases least <;> simp [SortKey.less_iff]

private theorem Scanned.step {scan : Scan ed} (scanned : Scanned selector current seen scan)
    (data : PathSelectionData ed) :
    Scanned selector current (seen ++ [data]) (selector.scanStep current scan data) := by
  cases stats : data.rtt with
  | none =>
      -- the candidate is skipped
      have noKey : selector.keyOf data = none := by rw [keyOf, stats, Option.map_none]
      have same : selector.scanStep current scan data = scan := by simp [scanStep, stats]
      rw [same]
      refine ⟨?_, ?_, ?_⟩
      · rw [keys, keysWhere_append_of_skip fun _ => noKey]
        exact scanned.best
      · intro best key found
        exact (scanned.bestData best key found).imp_left (List.mem_append_left _)
      · rw [keysWhere_append_of_skip fun _ => noKey]
        exact scanned.currentKey
  | some rtt =>
      set key := selector.sortKey data.networkPath rtt with key_eq
      have found : selector.keyOf data = some key := by rw [keyOf, stats, Option.map_some]
      have bestLess : (scan.best.all fun best => key.less best.2) = true ↔
          ∀ other ∈ scan.best.map Prod.snd, key < other := by
        rw [← all_less_iff]
        cases scan.best <;> rfl
      refine ⟨?_, ?_, ?_⟩
      · rw [keys, keysWhere_append_of_key trivial found]
        simp only [scanStep, stats]
        split
        next better => exact scanned.best.insert_of_lt (bestLess.mp better)
        next notBetter => exact scanned.best.insert_of_not_lt (mt bestLess.mpr notBetter)
      · intro best bestKey isBest
        simp only [scanStep, stats] at isBest
        split at isBest
        next =>
          cases isBest
          exact ⟨List.mem_append_right _ List.mem_cons_self, found⟩
        next => exact (scanned.bestData best bestKey isBest).imp_left (List.mem_append_left _)
      · simp only [scanStep, stats]
        by_cases isCurrent : some data.networkPath = current
        · rw [keysWhere_append_of_key isCurrent found]
          split
          next better =>
            exact scanned.currentKey.insert_of_lt (all_less_iff.mp better.2)
          next notBetter =>
            refine scanned.currentKey.insert_of_not_lt ?_
            intro below
            exact notBetter ⟨isCurrent, all_less_iff.mpr below⟩
        · rw [keysWhere_append_of_skip fun eligible => absurd eligible isCurrent,
            if_neg fun both => isCurrent both.1]
          exact scanned.currentKey

private theorem Scanned.foldl {scan : Scan ed} (scanned : Scanned selector current seen scan)
    (paths : List (PathSelectionData ed)) :
    Scanned selector current (seen ++ paths) (paths.foldl (selector.scanStep current) scan) := by
  induction paths generalizing seen scan with
  | nil => rwa [List.append_nil]
  | cons data paths inductionHypothesis =>
      have next := inductionHypothesis (scanned.step data)
      rwa [List.append_assoc] at next

variable {context : PathSelectionContext ed}

/-- The selector does nothing without statistics. Otherwise it compares the least key of all
candidates with the least one of the current path. -/
theorem select_cases (selector : BiasedRttPathSelector) (context : PathSelectionContext ed) :
    (selector.keys context.paths = ∅ ∧ selector.select context = none) ∨
      ∃ best bestKey currentKey, best ∈ context.paths ∧ selector.keyOf best = some bestKey ∧
        IsLeast (selector.keys context.paths) bestKey ∧
        LeastOf (selector.keysWhere context.paths fun path => some path = context.current)
          currentKey ∧
        selector.select context =
          if Switches bestKey currentKey then some best.networkPath else none := by
  have scanned : Scanned selector context.current context.paths _ :=
    scanned_nil.foldl context.paths
  unfold select
  set scan := context.paths.foldl (selector.scanStep context.current) ⟨none, none⟩
  obtain ⟨least, bestData, currentKey⟩ := scanned
  cases found : scan.best with
  | none =>
      rw [found] at least
      exact .inl ⟨least, by simp only [found]⟩
  | some best =>
      obtain ⟨best, bestKey⟩ := best
      rw [found] at least
      obtain ⟨inside, hasKey⟩ := bestData best bestKey found
      refine .inr ⟨best, bestKey, scan.currentKey, inside, hasKey, least, currentKey, ?_⟩
      simp only [found]

private theorem isLeast_keysAt {data : PathSelectionData ed} (inside : data ∈ paths)
    (found : selector.keyOf data = some key) (least : IsLeast (selector.keys paths) key) :
    IsLeast (selector.keysAt paths data.networkPath) key :=
  ⟨⟨data, inside, rfl, found⟩, fun _ other => least.2 (keysAt_subset other)⟩

theorem keysWhere_some_eq :
    (selector.keysWhere paths fun other => some other = some path) =
      selector.keysAt paths path := by
  simp only [keysAt, Option.some.injEq]

private theorem not_switches_self : ¬ Switches key (some key) := by
  have positive : (0 : Int) < rttSwitchingMin := by decide
  simp only [Switches, ne_eq, not_true_eq_false, false_or, not_le]
  omega

/-- What holds without a switch: the current path has statistics, and its key is of the best tier
and within the margin. -/
theorem exists_current_of_not_switches {bestKey : SortKey} {currentKey : Option SortKey}
    (leastCurrent : LeastOf (selector.keysWhere paths fun path => some path = current) currentKey)
    (stays : ¬ Switches bestKey currentKey) :
    ∃ path key, current = some path ∧ currentKey = some key ∧
      IsLeast (selector.keysAt paths path) key ∧ key.tier = bestKey.tier ∧
      key.biasedRtt < bestKey.biasedRtt + rttSwitchingMin := by
  cases currentKey with
  | none => exact absurd trivial stays
  | some key =>
      obtain ⟨data, inside, isCurrent, found⟩ := leastCurrent.1
      rw [← isCurrent] at leastCurrent
      simp only [Switches, ne_eq, not_or, not_not, not_le] at stays
      exact ⟨data.networkPath, key, isCurrent.symm, rfl, keysWhere_some_eq ▸ leastCurrent, stays⟩

private theorem keys_nonempty (stats : ∃ data ∈ paths, data.rtt.isSome = true) :
    (selector.keys paths).Nonempty := by
  obtain ⟨data, inside, hasStats⟩ := stats
  obtain ⟨rtt, found⟩ := Option.isSome_iff_exists.mp hasStats
  exact ⟨selector.sortKey data.networkPath rtt, data, inside, trivial, by simp [keyOf, found]⟩

theorem keysWhere_perm {Eligible : FourTuple ed → Prop} {other : List (PathSelectionData ed)}
    (permuted : other.Perm paths) :
    selector.keysWhere other Eligible = selector.keysWhere paths Eligible := by
  simp only [keysWhere, permuted.mem_iff]

/-- The effective path is of the best tier, and within the margin of the best one there. -/
def NearOptimal (selector : BiasedRttPathSelector) (context : PathSelectionContext ed) : Prop :=
  ∃ path key, selector.effective context = some path ∧
    IsLeast (selector.keysAt context.paths path) key ∧
    ∀ other ∈ selector.keys context.paths, key.tier ≤ other.tier ∧
      (other.tier = key.tier → key.biasedRtt < other.biasedRtt + rttSwitchingMin)

/-- Both contexts lead to a switch or neither, and to the same key. -/
def SameChoice (selector : BiasedRttPathSelector) (context other : PathSelectionContext ed) :
    Prop :=
  (selector.select other).isSome = (selector.select context).isSome ∧
    ∀ path key otherPath otherKey, selector.effective context = some path →
      selector.effective other = some otherPath →
      IsLeast (selector.keysAt context.paths path) key →
      IsLeast (selector.keysAt other.paths otherPath) otherKey → otherKey = key

/-- What a selection is to be: near the optimum, stable, independent of the order of the
candidates, and final for the same statistics. -/
structure SelectsWell (selector : BiasedRttPathSelector) (context : PathSelectionContext ed) :
    Prop where
  nearOptimal : (∃ data ∈ context.paths, data.rtt.isSome = true) → NearOptimal selector context
  stable : ∀ path key other otherKey, context.current = some path →
    IsLeast (selector.keysAt context.paths path) key → selector.select context = some other →
    IsLeast (selector.keysAt context.paths other) otherKey → otherKey.tier = key.tier →
      otherKey.biasedRtt + rttSwitchingMin ≤ key.biasedRtt
  permuted : ∀ paths, paths.Perm context.paths →
    SameChoice selector context ⟨context.current, paths⟩
  settled : selector.select ⟨selector.effective context, context.paths⟩ = none

private theorem nearOptimal_select (stats : ∃ data ∈ context.paths, data.rtt.isSome = true) :
    NearOptimal selector context := by
  rcases selector.select_cases context with ⟨empty, -⟩ | ⟨best, bestKey, currentKey, inside, found,
    least, leastCurrent, selected⟩
  · exact absurd empty (keys_nonempty stats).ne_empty
  by_cases switches : Switches bestKey currentKey
  · -- the best path is selected
    rw [if_pos switches] at selected
    refine ⟨best.networkPath, bestKey, by simp [effective, selected],
      isLeast_keysAt inside found least, ?_⟩
    intro other isKey
    refine ⟨SortKey.tier_le (least.2 isKey), ?_⟩
    intro sameTier
    have lower := SortKey.biasedRtt_le (least.2 isKey) sameTier.symm
    have positive : (0 : Int) < rttSwitchingMin := by decide
    omega
  · -- the current path is kept
    rw [if_neg switches] at selected
    obtain ⟨path, key, isCurrent, -, leastKey, sameTier, near⟩ :=
      exists_current_of_not_switches leastCurrent switches
    refine ⟨path, key, by simp [effective, selected, isCurrent], leastKey, ?_⟩
    intro other isKey
    refine ⟨sameTier ▸ SortKey.tier_le (least.2 isKey), ?_⟩
    intro sameTier'
    have lower := SortKey.biasedRtt_le (least.2 isKey) (sameTier'.trans sameTier).symm
    omega

private theorem stable_select {key otherKey : SortKey} {other : FourTuple ed}
    (isCurrent : context.current = some path)
    (least : IsLeast (selector.keysAt context.paths path) key)
    (selected : selector.select context = some other)
    (leastOther : IsLeast (selector.keysAt context.paths other) otherKey)
    (sameTier : otherKey.tier = key.tier) :
    otherKey.biasedRtt + rttSwitchingMin ≤ key.biasedRtt := by
  rcases selector.select_cases context with ⟨-, nothing⟩ | ⟨best, bestKey, currentKey, inside,
    found, leastBest, leastCurrent, choice⟩
  · rw [nothing] at selected
    cases selected
  rw [isCurrent, keysWhere_some_eq] at leastCurrent
  obtain rfl : currentKey = some key := leastCurrent.unique least
  rw [choice] at selected
  split at selected
  next switches =>
    cases selected
    obtain rfl := (isLeast_keysAt inside found leastBest).unique leastOther
    rcases switches with differentTier | lower
    · exact absurd sameTier.symm differentTier
    · exact lower
  next => cases selected

private theorem key_eq_of_kept {paths : List (PathSelectionData ed)} {other : FourTuple ed}
    {otherKey : SortKey} (permuted : paths.Perm context.paths)
    (kept : selector.select context = none)
    (kept' : selector.select ⟨context.current, paths⟩ = none)
    (effective_eq : selector.effective context = some path)
    (effective_eq' : selector.effective ⟨context.current, paths⟩ = some other)
    (least : IsLeast (selector.keysAt context.paths path) key)
    (least' : IsLeast (selector.keysAt paths other) otherKey) : otherKey = key := by
  rw [effective, kept, Option.none_or] at effective_eq
  rw [effective, kept', Option.none_or, effective_eq] at effective_eq'
  cases effective_eq'
  rw [keysAt, keysWhere_perm permuted] at least'
  exact least'.unique least

private theorem permuted_select {paths : List (PathSelectionData ed)}
    (permuted : paths.Perm context.paths) :
    SameChoice selector context ⟨context.current, paths⟩ := by
  have sameKeys : selector.keys paths = selector.keys context.paths := keysWhere_perm permuted
  rcases selector.select_cases context with ⟨empty, nothing⟩ | ⟨best, bestKey, currentKey, inside,
    found, leastBest, leastCurrent, choice⟩
  · rcases selector.select_cases ⟨context.current, paths⟩ with ⟨-, nothing'⟩ | ⟨_, _, _, -, -,
      leastBest, -⟩
    · refine ⟨by rw [nothing, nothing'], ?_⟩
      intro path key other otherKey
      exact key_eq_of_kept permuted nothing nothing'
    · rw [sameKeys, empty] at leastBest
      exact absurd leastBest.1 (Set.notMem_empty _)
  rcases selector.select_cases ⟨context.current, paths⟩ with ⟨empty, -⟩ | ⟨best', bestKey',
    currentKey', inside', found', leastBest', leastCurrent', choice'⟩
  · rw [← sameKeys, empty] at leastBest
    exact absurd leastBest.1 (Set.notMem_empty _)
  -- both passes end with the same two keys, so they decide the same
  obtain rfl : bestKey' = bestKey := (sameKeys ▸ leastBest').unique leastBest
  obtain rfl : currentKey' = currentKey := by
    rw [keysWhere_perm permuted] at leastCurrent'
    exact leastCurrent'.unique leastCurrent
  by_cases switches : Switches bestKey' currentKey'
  · rw [if_pos switches] at choice choice'
    refine ⟨by rw [choice, choice']; rfl, ?_⟩
    intro path key other otherKey effective_eq effective_eq' least least'
    rw [effective, choice, Option.some_or] at effective_eq
    rw [effective, choice', Option.some_or] at effective_eq'
    cases effective_eq
    cases effective_eq'
    have same := (isLeast_keysAt inside found leastBest).unique least
    have same' := (isLeast_keysAt inside' found' leastBest').unique least'
    exact same'.symm.trans same
  · rw [if_neg switches] at choice choice'
    refine ⟨by rw [choice, choice'], ?_⟩
    intro path key other otherKey
    exact key_eq_of_kept permuted choice choice'

private theorem settled_select :
    selector.select ⟨selector.effective context, context.paths⟩ = none := by
  rcases selector.select_cases context with ⟨empty, nothing⟩ | ⟨best, bestKey, currentKey, inside,
    found, least, leastCurrent, choice⟩
  · rw [effective, nothing, Option.none_or]
    exact nothing
  by_cases switches : Switches bestKey currentKey
  · rw [if_pos switches] at choice
    rw [effective, choice, Option.some_or]
    rcases selector.select_cases ⟨some best.networkPath, context.paths⟩ with ⟨-, nothing⟩ |
      ⟨best', bestKey', currentKey', -, -, least', leastCurrent', choice'⟩
    · exact nothing
    obtain rfl : bestKey' = bestKey := least'.unique least
    rw [keysWhere_some_eq] at leastCurrent'
    obtain rfl : currentKey' = some bestKey' :=
      leastCurrent'.unique (isLeast_keysAt inside found least)
    rw [choice', if_neg not_switches_self]
  · rw [if_neg switches] at choice
    rw [effective, choice, Option.none_or]
    exact choice

/-- Every selection is near the optimum, stable, independent of the order of the candidates, and
final for the same statistics. -/
theorem select_selectsWell (selector : BiasedRttPathSelector) (context : PathSelectionContext ed) :
    SelectsWell selector context where
  nearOptimal := nearOptimal_select
  stable _ _ _ _ := stable_select
  permuted _ := permuted_select
  settled := settled_select

/-! ## The sum that is compared -/

/-- The biases that the crate builds outside of its tests. -/
inductive Built : TransportBias → Prop where
  | primary : Built .primary
  | backup : Built .backup
  | withRttAdvantage {bias : TransportBias} (advantage : Nat) :
      Built bias → Built (bias.withRttAdvantage advantage)

private theorem Built.rttBias_nonpos {bias : TransportBias} (built : Built bias) :
    bias.rttBias ≤ 0 := by
  induction built with
  | primary => exact le_rfl
  | backup => exact le_rfl
  | withRttAdvantage advantage built inductionHypothesis =>
      simp only [TransportBias.withRttAdvantage]
      omega

/-- With such biases the sum of a biased round-trip time and the margin is an `i128`. -/
theorem biasedRtt_add_le_i128Max
    (built : ∀ kind bias, selector.biases.lookup kind = some bias → Built bias)
    (path : FourTuple ed) {rtt : Nat} (bounded : rtt ≤ durationMax) :
    (selector.sortKey path rtt).biasedRtt + rttSwitchingMin ≤ i128Max := by
  have nonpos : (selector.biasFor path).rttBias ≤ 0 := by
    unfold biasFor
    cases found : selector.biases.lookup path.addrKind with
    | none => exact le_rfl
    | some bias => exact (built _ _ found).rttBias_nonpos
  simp only [sortKey, saturatingAddI128, i128Max, rttSwitchingMin, durationMax] at *
  omega

end BiasedRttPathSelector

end NexalinkTunnel.Socket
