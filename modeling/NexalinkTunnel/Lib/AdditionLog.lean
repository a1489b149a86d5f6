import Mathlib.Data.List.Induction
import Mathlib.Data.List.Nodup

/-!
Contract: lists that hold each added item once, in the order of first additions.

Owns logs of additions and of clearings, when a list shows a log, what one more entry
does to such a list, and how the removal of duplicates goes with additions at the end.
-/

namespace NexalinkTunnel.Lib

variable {Item Other : Type}

section Duplicates

variable [DecidableEq Item] [DecidableEq Other]

def pushNew (items : List Item) (item : Item) : List Item :=
  if item ∈ items then items else items ++ [item]

private theorem mem_pushNew {items : List Item} {item other : Item} :
    other ∈ pushNew items item ↔ other ∈ items ∨ other = item := by
  unfold pushNew
  split
  next inside => exact ⟨.inl, fun found => found.elim id fun same => same ▸ inside⟩
  · rw [List.mem_append, List.mem_singleton]

theorem nodup_pushNew {items : List Item} (distinct : items.Nodup) (item : Item) :
    (pushNew items item).Nodup := by
  unfold pushNew
  split
  · exact distinct
  next absent =>
    exact List.nodup_append'.mpr ⟨distinct, List.nodup_singleton item, by simpa using absent⟩

theorem eraseDups_concat (items : List Item) (item : Item) :
    (items ++ [item]).eraseDups = pushNew items.eraseDups item := by
  rw [List.eraseDups_append, pushNew]
  by_cases inside : item ∈ items
  · simp [List.removeAll, inside]
  · simp [List.removeAll, inside, List.eraseDups_cons]

theorem eraseDups_append (items added : List Item) :
    (items ++ added).eraseDups = added.foldl pushNew items.eraseDups := by
  induction added generalizing items with
  | nil => simp
  | cons item added inductionHypothesis =>
      rw [List.foldl_cons, ← eraseDups_concat, ← inductionHypothesis, List.append_assoc,
        List.singleton_append]

theorem eraseDups_eq_foldl (items : List Item) : items.eraseDups = items.foldl pushNew [] := by
  rw [← List.nil_append items, eraseDups_append, List.eraseDups_nil, List.nil_append]

theorem nodup_eraseDups (items : List Item) : items.eraseDups.Nodup := by
  induction items using List.reverseRecOn with
  | nil => simp
  | append_singleton items item inductionHypothesis =>
      rw [eraseDups_concat]
      exact nodup_pushNew inductionHypothesis item

theorem eraseDups_of_nodup {items : List Item} (distinct : items.Nodup) :
    items.eraseDups = items := by
  induction items using List.reverseRecOn with
  | nil => rfl
  | append_singleton items item inductionHypothesis =>
      obtain ⟨front, -, apart⟩ := List.nodup_append'.mp distinct
      have absent : item ∉ items := fun inside => apart inside (List.mem_singleton_self item)
      rw [eraseDups_concat, inductionHypothesis front, pushNew, if_neg absent]

/-- A part of the items that are told apart by it can be taken before or after. -/
theorem filterMap_eraseDups {part : Item → Option Other}
    (injective : ∀ left right value, part left = some value → part right = some value →
      left = right) (items : List Item) :
    items.eraseDups.filterMap part = (items.filterMap part).eraseDups := by
  induction items using List.reverseRecOn with
  | nil => rfl
  | append_singleton items item inductionHypothesis =>
      rw [eraseDups_concat, List.filterMap_append]
      cases found : part item with
      | none =>
          rw [List.filterMap_cons_none found, List.filterMap_nil, List.append_nil,
            ← inductionHypothesis, pushNew]
          split
          · rfl
          · rw [List.filterMap_append, List.filterMap_cons_none found, List.filterMap_nil,
              List.append_nil]
      | some value =>
          have same : value ∈ items.eraseDups.filterMap part ↔ item ∈ items.eraseDups := by
            rw [List.mem_filterMap]
            constructor
            · rintro ⟨other, inside, again⟩
              exact injective other item value again found ▸ inside
            · exact fun inside => ⟨item, inside, found⟩
          rw [List.filterMap_cons_some found, List.filterMap_nil, eraseDups_concat,
            ← inductionHypothesis, pushNew, pushNew]
          simp only [same]
          split
          · rfl
          · rw [List.filterMap_append, List.filterMap_cons_some found, List.filterMap_nil]

end Duplicates

inductive LogEntry (Item : Type) where
  | add (item : Item)
  /-- All items of a kind are removed. -/
  | clear (kind : Item → Bool)

/-- The item was added at the index of the log, and it was not cleared since. -/
def LiveAt (log : List (LogEntry Item)) (index : Nat) (item : Item) : Prop :=
  log[index]? = some (.add item) ∧
    ∀ later kind, index < later → log[later]? = some (.clear kind) → kind item = false

/-- Since the items were last cleared, the first was added before the second. -/
def AddedBefore (log : List (LogEntry Item)) (first second : Item) : Prop :=
  ∃ index, LiveAt log index first ∧ ∀ other, LiveAt log other second → index < other

/-- The items are those of the log that were added since they were last cleared, each once, in the
order of their first additions since then. -/
structure Shows (log : List (LogEntry Item)) (items : List Item) : Prop where
  distinct : items.Nodup
  mem_iff : ∀ item, item ∈ items ↔ ∃ index, LiveAt log index item
  ordered : items.Pairwise (AddedBefore log)

variable {log : List (LogEntry Item)} {items : List Item}

theorem LiveAt.lt_length {index : Nat} {item : Item} (live : LiveAt log index item) :
    index < log.length :=
  (List.getElem?_eq_some_iff.mp live.1).1

theorem liveAt_add {index : Nat} {item other : Item} :
    LiveAt (log ++ [.add item]) index other ↔
      LiveAt log index other ∨ (index = log.length ∧ other = item) := by
  constructor
  · rintro ⟨added, kept⟩
    by_cases old : index < log.length
    · rw [List.getElem?_append_left old] at added
      refine .inl ⟨added, fun later kind after cleared => kept later kind after ?_⟩
      rw [List.getElem?_append_left (List.getElem?_eq_some_iff.mp cleared).1, cleared]
    · obtain ⟨inside, -⟩ := List.getElem?_eq_some_iff.mp added
      rw [List.length_append, List.length_singleton] at inside
      have last : index = log.length := by omega
      subst last
      rw [List.getElem?_concat_length] at added
      cases added
      exact .inr ⟨rfl, rfl⟩
  · rintro (live | ⟨rfl, rfl⟩)
    · refine ⟨by rw [List.getElem?_append_left live.lt_length, live.1], ?_⟩
      intro later kind after cleared
      by_cases old : later < log.length
      · rw [List.getElem?_append_left old] at cleared
        exact live.2 later kind after cleared
      · rw [List.getElem?_append_right (Nat.le_of_not_lt old)] at cleared
        have entry := List.mem_of_getElem? cleared
        simp at entry
    · refine ⟨List.getElem?_concat_length, ?_⟩
      intro later kind after cleared
      rw [List.getElem?_append_right (Nat.le_of_lt after)] at cleared
      have entry := List.mem_of_getElem? cleared
      simp at entry

theorem liveAt_clear {kind : Item → Bool} {index : Nat} {item : Item} :
    LiveAt (log ++ [.clear kind]) index item ↔ LiveAt log index item ∧ kind item = false := by
  constructor
  · rintro ⟨added, kept⟩
    have old : index < log.length := by
      by_contra late
      rw [List.getElem?_append_right (Nat.le_of_not_lt late)] at added
      have entry := List.mem_of_getElem? added
      simp at entry
    rw [List.getElem?_append_left old] at added
    refine ⟨⟨added, fun later other after cleared => kept later other after ?_⟩, ?_⟩
    · rw [List.getElem?_append_left (List.getElem?_eq_some_iff.mp cleared).1, cleared]
    · exact kept log.length kind old List.getElem?_concat_length
  · rintro ⟨live, kept⟩
    refine ⟨by rw [List.getElem?_append_left live.lt_length, live.1], ?_⟩
    intro later other after cleared
    by_cases old : later < log.length
    · rw [List.getElem?_append_left old] at cleared
      exact live.2 later other after cleared
    · rw [List.getElem?_append_right (Nat.le_of_not_lt old)] at cleared
      have entry := List.mem_of_getElem? cleared
      rw [List.mem_singleton, LogEntry.clear.injEq] at entry
      rw [entry]
      exact kept

private theorem AddedBefore.add {first second : Item} (before : AddedBefore log first second)
    (item : Item) : AddedBefore (log ++ [.add item]) first second := by
  obtain ⟨index, live, least⟩ := before
  refine ⟨index, liveAt_add.mpr (.inl live), fun other again => ?_⟩
  rcases liveAt_add.mp again with old | ⟨rfl, -⟩
  · exact least other old
  · exact live.lt_length

namespace Shows

theorem nil : Shows ([] : List (LogEntry Item)) [] where
  distinct := List.nodup_nil
  mem_iff := by simp [LiveAt]
  ordered := .nil

theorem add [DecidableEq Item] (shows : Shows log items) (item : Item) :
    Shows (log ++ [.add item]) (pushNew items item) where
  distinct := nodup_pushNew shows.distinct item
  mem_iff other := by
    simp only [mem_pushNew, shows.mem_iff, liveAt_add, exists_or, exists_and_right, exists_eq,
      true_and]
  ordered := by
    have old : items.Pairwise (AddedBefore (log ++ [.add item])) :=
      shows.ordered.imp fun before => before.add item
    unfold pushNew
    split
    · exact old
    next absent =>
      refine List.pairwise_append.mpr ⟨old, List.pairwise_singleton _ _, ?_⟩
      intro earlier inside last isLast
      cases List.mem_singleton.mp isLast
      obtain ⟨index, live⟩ := (shows.mem_iff earlier).mp inside
      refine ⟨index, liveAt_add.mpr (.inl live), fun other again => ?_⟩
      rcases liveAt_add.mp again with before | ⟨rfl, -⟩
      · exact absurd ((shows.mem_iff item).mpr ⟨other, before⟩) absent
      · exact live.lt_length

theorem addAll [DecidableEq Item] (shows : Shows log items) (added : List Item) :
    Shows (log ++ added.map .add) (added.foldl pushNew items) := by
  induction added generalizing log items with
  | nil => simpa using shows
  | cons item added inductionHypothesis =>
      rw [List.map_cons, List.append_cons, List.foldl_cons]
      exact inductionHypothesis (shows.add item)

theorem clear (shows : Shows log items) (kind : Item → Bool) :
    Shows (log ++ [.clear kind]) (items.filter fun item => !kind item) where
  distinct := shows.distinct.filter _
  mem_iff item := by
    simp only [List.mem_filter, shows.mem_iff, liveAt_clear, exists_and_right,
      Bool.not_eq_eq_eq_not, Bool.not_true]
  ordered := by
    refine (shows.ordered.filter _).imp_of_mem fun {earlier later} inside _ before => ?_
    obtain ⟨index, live, least⟩ := before
    have kept : kind earlier = false := by simpa using (List.mem_filter.mp inside).2
    exact ⟨index, liveAt_clear.mpr ⟨live, kept⟩,
      fun other again => least other (liveAt_clear.mp again).1⟩

end Shows

end NexalinkTunnel.Lib
