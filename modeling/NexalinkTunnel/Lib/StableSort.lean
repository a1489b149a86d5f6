import Mathlib.Data.List.Sort

/-!
Contract: the first match in a list that was sorted by a key.

Owns the stable sort in descending order of a key, and which entry of the unsorted
list its first match is. Nothing here names a particular program.
-/

namespace NexalinkTunnel.Lib

variable {α : Type}

/-- Sorted in descending order of the key; entries with the same key keep their order. -/
def sortDescending (key : α → Nat) (list : List α) : List α :=
  list.insertionSort fun left right => key right ≤ key left

/-- The entry matches, has the greatest key of the entries that do, and is the first of these. -/
def FirstGreatest (accept : α → Bool) (key : α → Nat) (list : List α) (entry : α) : Prop :=
  ∃ before after, list = before ++ entry :: after ∧ accept entry = true ∧
    (∀ other ∈ before, accept other = true → key other < key entry) ∧
    ∀ other ∈ after, accept other = true → key other ≤ key entry

variable {accept : α → Bool} {key : α → Nat} {list : List α} {entry : α}

theorem sortDescending_perm (key : α → Nat) (list : List α) :
    (sortDescending key list).Perm list :=
  List.perm_insertionSort _ list

@[simp] theorem mem_sortDescending : entry ∈ sortDescending key list ↔ entry ∈ list :=
  (sortDescending_perm key list).mem_iff

private theorem sortDescending_pairwise (key : α → Nat) (list : List α) :
    (sortDescending key list).Pairwise fun left right => key right ≤ key left := by
  have : Std.Total fun left right : α => key right ≤ key left :=
    ⟨fun left right => Nat.le_total (key right) (key left)⟩
  have : IsTrans α fun left right => key right ≤ key left :=
    ⟨fun _ _ _ first second => Nat.le_trans second first⟩
  exact List.pairwise_insertionSort _ list

private theorem sortDescending_cons (key : α → Nat) (head : α) (list : List α) :
    sortDescending key (head :: list) =
      (sortDescending key list).orderedInsert (fun left right => key right ≤ key left) head :=
  rfl

private theorem FirstGreatest.key_le (first : FirstGreatest accept key list entry) {other : α}
    (inside : other ∈ list) (matching : accept other = true) : key other ≤ key entry := by
  obtain ⟨before, after, rfl, -, lower, notHigher⟩ := first
  rcases List.mem_append.mp inside with inside | inside
  · exact (lower other inside matching).le
  · rcases List.mem_cons.mp inside with rfl | inside
    · exact Nat.le_refl _
    · exact notHigher other inside matching

private theorem FirstGreatest.cons (first : FirstGreatest accept key list entry) {head : α}
    (lower : accept head = true → key head < key entry) :
    FirstGreatest accept key (head :: list) entry := by
  obtain ⟨before, after, rfl, matching, below, notHigher⟩ := first
  refine ⟨head :: before, after, rfl, matching, ?_, notHigher⟩
  rw [List.forall_mem_cons]
  exact ⟨lower, below⟩

private theorem firstGreatest_head (matching : accept entry = true)
    (notHigher : ∀ other ∈ list, accept other = true → key other ≤ key entry) :
    FirstGreatest accept key (entry :: list) entry :=
  ⟨[], list, rfl, matching, fun _ inside => absurd inside List.not_mem_nil, notHigher⟩

private theorem find?_orderedInsert {sorted : List α} (head : α) (matching : accept head = true)
    (ordered : sorted.Pairwise fun left right => key right ≤ key left) :
    (sorted.orderedInsert (fun left right => key right ≤ key left) head).find? accept =
      match sorted.find? accept with
      | none => some head
      | some found => if key found ≤ key head then some head else some found := by
  induction sorted with
  | nil => simp [matching]
  | cons next rest inductionHypothesis =>
      obtain ⟨lower, ordered⟩ := List.pairwise_cons.mp ordered
      by_cases here : key next ≤ key head
      · rw [List.orderedInsert_cons, if_pos here, List.find?_cons_of_pos matching]
        split
        · rfl
        next found search =>
          have below : key found ≤ key next := by
            rcases List.mem_cons.mp (List.mem_of_find?_eq_some search) with rfl | inside
            · exact Nat.le_refl _
            · exact lower found inside
          rw [if_pos (below.trans here)]
      · rw [List.orderedInsert_cons, if_neg here]
        cases known : accept next with
        | true => simp [known, here]
        | false => simpa [known] using inductionHypothesis ordered

private theorem find?_orderedInsert_of_not {sorted : List α} {head : α}
    (refused : accept head = false) :
    (sorted.orderedInsert (fun left right => key right ≤ key left) head).find? accept =
      sorted.find? accept := by
  induction sorted with
  | nil => simp [refused]
  | cons next rest inductionHypothesis =>
      rw [List.orderedInsert_cons]
      split
      · rw [List.find?_cons_of_neg (by simp [refused])]
      · rw [List.find?_cons, List.find?_cons, inductionHypothesis]

/-- The first match of the sorted list is the first greatest match of the list itself. -/
theorem firstGreatest_of_find? (found : (sortDescending key list).find? accept = some entry) :
    FirstGreatest accept key list entry := by
  induction list generalizing entry with
  | nil => cases found
  | cons head list inductionHypothesis =>
      rw [sortDescending_cons] at found
      cases matching : accept head with
      | false =>
          rw [find?_orderedInsert_of_not matching] at found
          exact (inductionHypothesis found).cons fun accepted => by simp [matching] at accepted
      | true =>
          rw [find?_orderedInsert head matching (sortDescending_pairwise key list)] at found
          split at found
          next search =>
            cases found
            refine firstGreatest_head matching fun other inside accepted => ?_
            exact absurd accepted
              (List.find?_eq_none.mp search other (mem_sortDescending.mpr inside))
          next earlier search =>
            have first := inductionHypothesis search
            split at found
            next low =>
              cases found
              exact firstGreatest_head matching fun other inside accepted =>
                (first.key_le inside accepted).trans low
            next high =>
              cases found
              exact first.cons fun _ => Nat.lt_of_not_le high

theorem find?_sortDescending_eq_none :
    (sortDescending key list).find? accept = none ↔ ∀ other ∈ list, ¬ accept other = true := by
  simp only [List.find?_eq_none, mem_sortDescending]

end NexalinkTunnel.Lib
