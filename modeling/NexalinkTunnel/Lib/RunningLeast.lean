import Mathlib.Order.Bounds.Basic

/-!
Contract: the least key of those a loop has seen.

Owns the notion of the least of a set that may be empty, and that of the first entry of a
list with the least key; that they are unique, and how they change by one more key or by
many. Nothing here names a particular program.
-/

namespace NexalinkTunnel.Lib

variable {Key : Type} [LinearOrder Key]

def LeastOf (keys : Set Key) : Option Key → Prop
  | none => keys = ∅
  | some least => IsLeast keys least

variable {keys : Set Key} {least : Option Key} {key : Key}

theorem LeastOf.unique {other : Option Key} (first : LeastOf keys least)
    (second : LeastOf keys other) : least = other := by
  cases least with
  | none =>
      cases other with
      | none => rfl
      | some other => exact absurd second.1 (first ▸ Set.notMem_empty _)
  | some least =>
      cases other with
      | none => exact absurd first.1 (second ▸ Set.notMem_empty _)
      | some other => exact congrArg some (IsLeast.unique first second)

theorem LeastOf.insert_of_lt (holds : LeastOf keys least) (below : ∀ other ∈ least, key < other) :
    LeastOf (insert key keys) (some key) := by
  refine ⟨Set.mem_insert key keys, ?_⟩
  intro other inside
  rcases Set.mem_insert_iff.mp inside with rfl | inside
  · exact le_rfl
  cases least with
  | none => exact absurd inside (holds ▸ Set.notMem_empty _)
  | some least => exact (below least rfl).le.trans (holds.2 inside)

theorem LeastOf.insert_of_not_lt (holds : LeastOf keys least)
    (notBelow : ¬ ∀ other ∈ least, key < other) : LeastOf (insert key keys) least := by
  cases least with
  | none => exact absurd (fun other none => by cases none) notBelow
  | some least =>
      refine ⟨Set.mem_insert_of_mem key holds.1, ?_⟩
      intro other inside
      rcases Set.mem_insert_iff.mp inside with rfl | inside
      · by_contra above
        exact notBelow fun _ same => Option.some.inj same ▸ lt_of_not_ge above
      · exact holds.2 inside

theorem LeastOf.exists_le (holds : LeastOf keys least) (inside : key ∈ keys) :
    ∃ lowest, least = some lowest ∧ lowest ≤ key := by
  cases least with
  | none => exact absurd inside (holds ▸ Set.notMem_empty _)
  | some lowest => exact ⟨lowest, rfl, holds.2 inside⟩

/-- More keys change nothing exactly if each of them is above one of the keys. -/
theorem LeastOf.superset_iff (holds : LeastOf keys least) {more : Set Key} (fewer : keys ⊆ more) :
    LeastOf more least ↔ ∀ key ∈ more, ∃ lower ∈ keys, lower ≤ key := by
  constructor
  · intro whole key inside
    obtain ⟨lowest, rfl, below⟩ := whole.exists_le inside
    exact ⟨lowest, holds.1, below⟩
  · intro covered
    cases least with
    | none =>
        refine Set.eq_empty_iff_forall_notMem.mpr fun key inside => ?_
        obtain ⟨lower, known, -⟩ := covered key inside
        exact absurd known (holds ▸ Set.notMem_empty _)
    | some lowest =>
        refine ⟨fewer holds.1, fun key inside => ?_⟩
        obtain ⟨lower, known, below⟩ := covered key inside
        exact (holds.2 known).trans below

/-! ## The first entry with the least key -/

/-- The entry has the least key of all entries that have one, and is the first of these. -/
def FirstLeast {Entry : Type} (key? : Entry → Option Key) (list : List Entry) (entry : Entry)
    (least : Key) : Prop :=
  ∃ before after, list = before ++ entry :: after ∧ key? entry = some least ∧
    (∀ other ∈ before, ∀ key ∈ key? other, least < key) ∧
    ∀ other ∈ after, ∀ key ∈ key? other, least ≤ key

section FirstLeast

variable {Entry : Type} {key? : Entry → Option Key} {list : List Entry} {entry : Entry}
  {lowest : Key}

theorem FirstLeast.le (first : FirstLeast key? list entry lowest) {other : Entry}
    (inside : other ∈ list) (known : key? other = some key) : lowest ≤ key := by
  obtain ⟨before, after, rfl, own, below, notAbove⟩ := first
  rcases List.mem_append.mp inside with inside | inside
  · exact (below other inside key known).le
  · rcases List.mem_cons.mp inside with rfl | inside
    · exact (Option.some.inj (own.symm.trans known)).le
    · exact notAbove other inside key known

theorem FirstLeast.mem (first : FirstLeast key? list entry lowest) :
    entry ∈ list ∧ key? entry = some lowest := by
  obtain ⟨before, after, rfl, own, -, -⟩ := first
  exact ⟨List.mem_append_right _ List.mem_cons_self, own⟩

theorem FirstLeast.concat (first : FirstLeast key? list entry lowest) {last : Entry}
    (notBelow : ∀ key ∈ key? last, lowest ≤ key) :
    FirstLeast key? (list ++ [last]) entry lowest := by
  obtain ⟨before, after, rfl, own, below, notAbove⟩ := first
  refine ⟨before, after ++ [last], by simp, own, below, ?_⟩
  intro other inside
  rcases List.mem_append.mp inside with inside | inside
  · exact notAbove other inside
  · exact List.mem_singleton.mp inside ▸ notBelow

theorem firstLeast_concat (own : key? entry = some lowest)
    (below : ∀ other ∈ list, ∀ key ∈ key? other, lowest < key) :
    FirstLeast key? (list ++ [entry]) entry lowest :=
  ⟨list, [], rfl, own, below, fun _ inside => absurd inside List.not_mem_nil⟩

theorem FirstLeast.unique {other : Entry} {least : Key}
    (first : FirstLeast key? list entry lowest) (second : FirstLeast key? list other least) :
    entry = other ∧ lowest = least := by
  have same : lowest = least :=
    (first.le second.mem.1 second.mem.2).antisymm (second.le first.mem.1 first.mem.2)
  subst same
  obtain ⟨before, after, rfl, own, below, -⟩ := first
  obtain ⟨before', after', split, own', below', -⟩ := second
  -- an entry that comes before the other one has a greater key
  refine ⟨?_, rfl⟩
  rcases List.append_eq_append_iff.mp split with ⟨middle, rfl, rest⟩ | ⟨middle, rfl, rest⟩
  · cases middle with
    | nil => exact (List.cons.inj rest).1
    | cons head tail =>
        obtain rfl := (List.cons.inj rest).1
        exact absurd (below' entry (by simp) lowest own) (lt_irrefl _)
  · cases middle with
    | nil => exact (List.cons.inj rest).1.symm
    | cons head tail =>
        obtain rfl := (List.cons.inj rest).1
        exact absurd (below other (by simp) lowest own') (lt_irrefl _)

end FirstLeast

end NexalinkTunnel.Lib
