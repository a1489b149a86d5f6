import Mathlib

/-!
Contract: finite maps as programs use hash maps.

Owns the effect of each operation on lookups, keeping the entries that meet a
condition, and iteration. A hash map gives its entries in an order of its own, so
an iteration takes the order as an argument.
-/

namespace NexalinkTunnel.Lib

abbrev HashMap (Key Value : Type) := AList fun _ : Key => Value

/-- An order in which a hash map may give its entries. For each number of entries it
lists positions: the entries there are taken out one after another, and those that
are left come last. -/
structure IterationOrder where
  positions : Nat → List Nat

namespace IterationOrder

def standing : IterationOrder := ⟨fun _ => []⟩

def pick {Entry : Type} : List Nat → List Entry → List Entry
  | [], entries => entries
  | position :: positions, entries =>
      match entries[position]? with
      | some entry => entry :: pick positions (entries.eraseIdx position)
      | none => pick positions entries

def arrange {Entry : Type} (order : IterationOrder) (entries : List Entry) : List Entry :=
  pick (order.positions entries.length) entries

private theorem pick_perm {Entry : Type} (positions : List Nat) (entries : List Entry) :
    (pick positions entries).Perm entries := by
  induction positions generalizing entries with
  | nil => exact .refl entries
  | cons position positions inductionHypothesis =>
      unfold pick
      split
      next entry found =>
        obtain ⟨inside, rfl⟩ := List.getElem?_eq_some_iff.mp found
        exact ((inductionHypothesis _).cons _).trans (List.getElem_cons_eraseIdx_perm inside)
      next => exact inductionHypothesis entries

theorem perm {Entry : Type} (order : IterationOrder) (entries : List Entry) :
    (order.arrange entries).Perm entries :=
  pick_perm _ entries

end IterationOrder

namespace HashMap

variable {Key Value : Type} [DecidableEq Key]

theorem lookup_insert_eq_ite (map : HashMap Key Value) (key other : Key) (value : Value) :
    (map.insert key value).lookup other =
      if other = key then some value else map.lookup other := by
  split
  next same => rw [same, AList.lookup_insert]
  next different => rw [AList.lookup_insert_ne different]

theorem lookup_erase_eq_ite (map : HashMap Key Value) (key other : Key) :
    (map.erase key).lookup other = if other = key then none else map.lookup other := by
  split
  next same => rw [same, AList.lookup_erase]
  next different => rw [AList.lookup_erase_ne different]

def len (map : HashMap Key Value) : Nat := map.entries.length

def isEmpty (map : HashMap Key Value) : Bool := map.entries.isEmpty

theorem isEmpty_iff {map : HashMap Key Value} :
    isEmpty map = true ↔ ∀ key, map.lookup key = none := by
  rw [isEmpty, List.isEmpty_iff]
  constructor
  · intro noEntries key
    rw [AList.lookup_eq_none, AList.mem_keys, AList.keys, noEntries]
    simp
  · intro absent
    apply List.eq_nil_iff_forall_not_mem.mpr
    intro entry inside
    have found := AList.mem_lookup_iff.mpr inside
    rw [absent] at found
    cases found

theorem not_isEmpty_of_lookup {map : HashMap Key Value} {key : Key} {value : Value}
    (found : map.lookup key = some value) : isEmpty map = false := by
  apply Bool.eq_false_iff.mpr
  intro empty
  rw [isEmpty_iff.mp empty] at found
  cases found

/-- `entry(key).or_default()` with a change to the value that it gives. -/
def update (key : Key) (default : Value) (change : Value → Value) (map : HashMap Key Value) :
    HashMap Key Value :=
  map.insert key (change ((map.lookup key).getD default))

theorem lookup_update_ne {key other : Key} {default : Value} {change : Value → Value}
    {map : HashMap Key Value} (different : other ≠ key) :
    (update key default change map).lookup other = map.lookup other :=
  AList.lookup_insert_ne different

def retain (keep : Key → Value → Bool) (map : HashMap Key Value) : HashMap Key Value :=
  ⟨map.entries.filter fun entry => keep entry.1 entry.2,
    map.nodupKeys.sublist List.filter_sublist⟩

theorem lookup_retain_eq_some {keep : Key → Value → Bool} {map : HashMap Key Value} {key : Key}
    {value : Value} :
    (retain keep map).lookup key = some value ↔
      map.lookup key = some value ∧ keep key value = true := by
  rw [← Option.mem_def, ← Option.mem_def, AList.mem_lookup_iff, AList.mem_lookup_iff]
  simp [retain]

def values (map : HashMap Key Value) : List Value := map.entries.map fun entry => entry.2

theorem mem_values {map : HashMap Key Value} {value : Value} :
    value ∈ values map ↔ ∃ key, map.lookup key = some value := by
  rw [values, List.mem_map]
  constructor
  · rintro ⟨⟨key, _⟩, inside, rfl⟩
    exact ⟨key, AList.mem_lookup_iff.mpr inside⟩
  · rintro ⟨key, found⟩
    exact ⟨⟨key, value⟩, AList.mem_lookup_iff.mp found, rfl⟩

def iter (order : IterationOrder) (map : HashMap Key Value) : List (Key × Value) :=
  order.arrange (map.entries.map fun entry => (entry.1, entry.2))

theorem mem_iter {order : IterationOrder} {map : HashMap Key Value} {key : Key} {value : Value} :
    (key, value) ∈ iter order map ↔ map.lookup key = some value := by
  rw [iter, (order.perm _).mem_iff, ← Option.mem_def, AList.mem_lookup_iff, List.mem_map]
  constructor
  · rintro ⟨⟨_, _⟩, inside, same⟩
    cases same
    exact inside
  · intro inside
    exact ⟨⟨key, value⟩, inside, rfl⟩

end HashMap

namespace HashMap

variable {Key Value : Type}

theorem nodup_keys_iter (order : IterationOrder) (map : HashMap Key Value) :
    ((iter order map).map Prod.fst).Nodup := by
  rw [iter, ((order.perm _).map Prod.fst).nodup_iff, List.map_map]
  exact map.nodupKeys

def count (holds : Key → Value → Bool) (map : HashMap Key Value) : Nat :=
  map.entries.countP fun entry => holds entry.1 entry.2

theorem countP_iter (order : IterationOrder) (holds : Key → Value → Bool)
    (map : HashMap Key Value) :
    (iter order map).countP (fun entry => holds entry.1 entry.2) = count holds map := by
  rw [iter, (order.perm _).countP_eq, List.countP_map]
  rfl

theorem countP_iter_key [DecidableEq Key] (order : IterationOrder) (map : HashMap Key Value)
    (key : Key) (accept : Value → Bool) :
    (iter order map).countP (fun entry => decide (entry.1 = key) && accept entry.2) =
      ((map.lookup key).any accept).toNat := by
  cases stored : map.lookup key with
  | none =>
      rw [Option.any_none, Bool.toNat_false, List.countP_eq_zero]
      rintro ⟨other, value⟩ inside accepted
      obtain ⟨same, -⟩ := Bool.and_eq_true_iff.mp accepted
      rw [← of_decide_eq_true same, mem_iter.mp inside] at stored
      cases stored
  | some value =>
      have once : (iter order map).countP (fun entry => decide (entry.1 = key)) = 1 := by
        have inside : key ∈ (iter order map).map Prod.fst :=
          List.mem_map.mpr ⟨(key, value), mem_iter.mpr stored, rfl⟩
        have counted := List.count_eq_one_of_mem (nodup_keys_iter order map) inside
        rwa [List.count, List.countP_map] at counted
      have same : ∀ entry ∈ iter order map,
          (decide (entry.1 = key) && accept entry.2) =
            (decide (entry.1 = key) && accept value) := by
        rintro ⟨other, found⟩ inside
        by_cases own : other = key
        · subst own
          cases (mem_iter.mp inside).symm.trans stored
          rfl
        · simp [own]
      rw [List.countP_congr fun entry inside => by rw [same entry inside], Option.any_some]
      cases accept value with
      | false => simp
      | true => simpa using once

theorem count_retain (holds keep : Key → Value → Bool) (map : HashMap Key Value) :
    count holds (retain keep map) =
      count (fun key value => holds key value && keep key value) map :=
  List.countP_filter

private theorem count_eq_countP_keys [DecidableEq Key] (holds : Key → Value → Bool)
    (map : HashMap Key Value) :
    count holds map = map.keys.countP fun key => (map.lookup key).any (holds key) := by
  rw [count, AList.keys, List.keys, List.countP_map]
  apply List.countP_congr
  intro entry inside
  have found : map.lookup entry.1 = some entry.2 := AList.mem_lookup_iff.mpr inside
  simp [found]

/-- The number depends only on which keys have a value that meets the condition. -/
theorem count_congr [DecidableEq Key] {holds : Key → Value → Bool} {map other : HashMap Key Value}
    (same : ∀ key, (map.lookup key).any (holds key) = (other.lookup key).any (holds key)) :
    count holds map = count holds other := by
  have stored {map : HashMap Key Value} {key : Key} (met : (map.lookup key).any (holds key)) :
      key ∈ map.keys := by
    by_contra absent
    rw [AList.lookup_eq_none.mpr (mt AList.mem_keys.mp absent)] at met
    cases met
  rw [count_eq_countP_keys, count_eq_countP_keys, List.countP_eq_length_filter,
    List.countP_eq_length_filter]
  refine ((List.perm_ext_iff_of_nodup (map.keys_nodup.filter _) (other.keys_nodup.filter _)).mpr
    fun key => ?_).length_eq
  simp only [List.mem_filter, ← same key]
  exact and_congr_left fun met => iff_of_true (stored met) (stored (same key ▸ met))

theorem count_eq_zero [DecidableEq Key] {holds : Key → Value → Bool} {map : HashMap Key Value} :
    count holds map = 0 ↔ ∀ key value, map.lookup key = some value → ¬ holds key value := by
  rw [count, List.countP_eq_zero]
  constructor
  · intro none key value found
    exact none ⟨key, value⟩ (AList.mem_lookup_iff.mp found)
  · intro none entry inside
    exact none entry.1 entry.2 (AList.mem_lookup_iff.mpr inside)

theorem count_eq_len [DecidableEq Key] {holds : Key → Value → Bool} {map : HashMap Key Value} :
    count holds map = len map ↔ ∀ key value, map.lookup key = some value → holds key value := by
  rw [count, len, List.countP_eq_length]
  constructor
  · intro all key value found
    exact all ⟨key, value⟩ (AList.mem_lookup_iff.mp found)
  · intro all entry inside
    exact all entry.1 entry.2 (AList.mem_lookup_iff.mpr inside)

end HashMap

theorem countP_notMem {Key : Type} [DecidableEq Key] {first last : List Key}
    (distinct : (first ++ last).Nodup) :
    (first ++ last).countP (fun key => !last.contains key) = first.length := by
  rw [List.nodup_append] at distinct
  have all : first.countP (fun key => !last.contains key) = first.length := by
    rw [List.countP_eq_length]
    intro key inside
    rw [Bool.not_eq_true', Bool.eq_false_iff]
    intro among
    exact distinct.2.2 key inside key (List.contains_iff_mem.mp among) rfl
  have none : last.countP (fun key => !last.contains key) = 0 := by
    rw [List.countP_eq_zero]
    intro key inside
    simpa using inside
  rw [List.countP_append, all, none, Nat.add_zero]

end NexalinkTunnel.Lib
