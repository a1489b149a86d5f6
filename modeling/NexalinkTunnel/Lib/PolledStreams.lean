import Mathlib.Data.List.Induction
import Mathlib.Logic.Basic

/-!
Contract: streams that are polled, and the merging of several of them into one.

Owns the answers of a stream, a merge of finite streams whose environment chooses what each
poll answers, and which items such choices deliver.

A merge that has streams may keep its consumer waiting at any poll. It ends once all
streams are exhausted.
-/

namespace NexalinkTunnel.Lib

variable {Item : Type}

inductive Polled (Item : Type) where
  | pending
  | item (item : Item)
  | ended
deriving DecidableEq

namespace Polled

def item? : Polled Item → Option Item
  | .item value => some value
  | _ => none

def items (answers : List (Polled Item)) : List Item := answers.filterMap item?

theorem mem_items {answers : List (Polled Item)} {value : Item} :
    value ∈ items answers ↔ .item value ∈ answers := by
  rw [items, List.mem_filterMap]
  constructor
  · rintro ⟨answer, inside, found⟩
    cases answer with
    | item other =>
        cases found
        exact inside
    | pending | ended => cases found
  · intro inside
    exact ⟨.item value, inside, rfl⟩

theorem items_concat (answers : List (Polled Item)) (answer : Polled Item) :
    items (answers ++ [answer]) = items answers ++ answer.item?.toList := by
  unfold items
  rw [List.filterMap_append]
  cases answer <;> rfl

end Polled

structure Merge (Item : Type) where
  remaining : List (List Item)

/-- What the environment makes a poll of a merge answer. -/
inductive MergeChoice where
  | pending
  | item (index : Nat)
  | ended
deriving DecidableEq

namespace Merge

def poll (merge : Merge Item) : MergeChoice → Option (Polled Item × Merge Item)
  | .pending => if merge.remaining.isEmpty then none else some (.pending, merge)
  | .item index =>
      match merge.remaining[index]? with
      | some (item :: rest) => some (.item item, ⟨merge.remaining.set index rest⟩)
      | _ => none
  | .ended => if merge.remaining.all List.isEmpty then some (.ended, merge) else none

/-- What is left after a choice, and the items that were delivered, each with the number of its
stream. -/
def deliver (state : Merge Item × List (Nat × Item)) : MergeChoice → Merge Item × List (Nat × Item)
  | .item index =>
      match state.1.remaining[index]? with
      | some (item :: rest) =>
          (⟨state.1.remaining.set index rest⟩, state.2 ++ [(index, item)])
      | _ => state
  | _ => state

def after (merge : Merge Item) (choices : List MergeChoice) : Merge Item :=
  (choices.foldl deliver (merge, [])).1

def delivered (merge : Merge Item) (choices : List MergeChoice) : List (Nat × Item) :=
  (choices.foldl deliver (merge, [])).2

def left (merge : Merge Item) (index : Nat) : List Item := merge.remaining[index]?.getD []

variable {merge : Merge Item} {choices : List MergeChoice}

theorem after_concat (choice : MergeChoice) :
    merge.after (choices ++ [choice]) =
      (deliver (merge.after choices, merge.delivered choices) choice).1 := by
  rw [after, List.foldl_append]
  rfl

theorem delivered_concat (choice : MergeChoice) :
    merge.delivered (choices ++ [choice]) =
      (deliver (merge.after choices, merge.delivered choices) choice).2 := by
  rw [delivered, List.foldl_append]
  rfl

section Poll

variable {choice : MergeChoice} {index : Nat} {item : Item} {rest : List Item}
  {polled : Merge Item}

theorem of_poll_pending (answer : merge.poll choice = some (.pending, polled)) :
    choice = .pending ∧ polled = merge := by
  unfold poll at answer
  split at answer
  · split at answer <;> cases answer
    exact ⟨rfl, rfl⟩
  · split at answer <;> cases answer
  · split at answer <;> cases answer

theorem of_poll_item (answer : merge.poll choice = some (.item item, polled)) :
    ∃ index rest, choice = .item index ∧ merge.remaining[index]? = some (item :: rest) ∧
      polled = ⟨merge.remaining.set index rest⟩ := by
  unfold poll at answer
  split at answer
  · split at answer <;> cases answer
  next index =>
    split at answer
    next item rest next =>
      cases answer
      exact ⟨index, rest, rfl, next, rfl⟩
    · cases answer
  · split at answer <;> cases answer

theorem of_poll_ended (answer : merge.poll choice = some (.ended, polled)) :
    choice = .ended ∧ polled = merge ∧ merge.remaining.all List.isEmpty = true := by
  unfold poll at answer
  split at answer
  · split at answer <;> cases answer
  · split at answer <;> cases answer
  · split at answer
    next exhausted =>
      cases answer
      exact ⟨rfl, rfl, exhausted⟩
    · cases answer

theorem after_concat_item (next : (merge.after choices).remaining[index]? = some (item :: rest)) :
    merge.after (choices ++ [.item index]) = ⟨(merge.after choices).remaining.set index rest⟩ := by
  rw [after_concat, deliver]
  simp only [next]

theorem delivered_concat_item
    (next : (merge.after choices).remaining[index]? = some (item :: rest)) :
    merge.delivered (choices ++ [.item index]) = merge.delivered choices ++ [(index, item)] := by
  rw [delivered_concat, deliver]
  simp only [next]

end Poll

theorem deliver_of_exhausted {state : Merge Item × List (Nat × Item)}
    (exhausted : state.1.remaining.all List.isEmpty = true) (choice : MergeChoice) :
    deliver state choice = state := by
  cases choice with
  | pending => rfl
  | ended => rfl
  | item index =>
      unfold deliver
      dsimp only
      split
      next item rest next =>
        have empty := List.all_eq_true.mp exhausted _ (List.mem_of_getElem? next)
        cases empty
      · rfl

/-- A merge always has a poll: for its end or for an item. -/
theorem exhausted_or_exists_item (merge : Merge Item) :
    merge.remaining.all List.isEmpty = true ∨
      ∃ (index : Nat) (item : Item) (rest : List Item),
        merge.remaining[index]? = some (item :: rest) := by
  by_cases exhausted : merge.remaining.all List.isEmpty = true
  · exact .inl exhausted
  · right
    rw [List.all_eq_true] at exhausted
    push Not at exhausted
    obtain ⟨items, inside, someItem⟩ := exhausted
    obtain ⟨index, found⟩ := List.mem_iff_getElem?.mp inside
    cases items with
    | nil => exact absurd rfl someItem
    | cons item rest => exact ⟨index, item, rest, found⟩

theorem length_flatten_set {lists : List (List Item)} {index : Nat} {item : Item}
    {rest : List Item} (found : lists[index]? = some (item :: rest)) :
    (lists.set index rest).flatten.length + 1 = lists.flatten.length := by
  induction lists generalizing index with
  | nil => cases found
  | cons first lists inductionHypothesis =>
      cases index with
      | zero =>
          cases found
          simp only [List.set_cons_zero, List.flatten_cons, List.length_append, List.length_cons]
          omega
      | succ index =>
          have shorter := inductionHypothesis found
          simp only [List.set_cons_succ, List.flatten_cons, List.length_append]
          omega

/-- Each stream is delivered in its own order. -/
theorem delivered_append_left (merge : Merge Item) (choices : List MergeChoice) (index : Nat) :
    ((merge.delivered choices).filter (·.1 = index)).map Prod.snd ++
        (merge.after choices).left index =
      merge.left index := by
  induction choices using List.reverseRecOn with
  | nil => simp [delivered, after]
  | append_singleton choices choice inductionHypothesis =>
      rw [← inductionHypothesis, after_concat, delivered_concat]
      cases choice with
      | pending => rfl
      | ended => rfl
      | item other =>
          unfold deliver
          dsimp only
          split
          next item rest next =>
            obtain ⟨inside, now⟩ := List.getElem?_eq_some_iff.mp next
            by_cases same : other = index
            · subst same
              simp [left, inside, now]
            · simp [left, same]
          · rfl

theorem left_of_exhausted (exhausted : merge.remaining.all List.isEmpty = true) (index : Nat) :
    merge.left index = [] := by
  unfold left
  cases found : merge.remaining[index]? with
  | none => rfl
  | some items =>
      have empty := List.all_eq_true.mp exhausted items (List.mem_of_getElem? found)
      exact List.isEmpty_iff.mp empty

end Merge

end NexalinkTunnel.Lib
