import Mathlib.Data.List.Induction
import Mathlib.Data.List.TakeDrop

/-!
Contract: the run of good entries at the end of a list.

Owns what it means that a list ends with a number of good entries, and the counter that a
loop keeps for it: up by one for a good entry, back to zero for any other. Nothing here
names a particular program.
-/

namespace NexalinkTunnel.Lib

variable {α : Type} {Good : α → Prop} {list : List α} {count : Nat}

def EndsWithRun (Good : α → Prop) (count : Nat) (list : List α) : Prop :=
  ∃ earlier last, list = earlier ++ last ∧ last.length = count ∧ ∀ entry ∈ last, Good entry

private theorem endsWithRun_zero (Good : α → Prop) (list : List α) : EndsWithRun Good 0 list :=
  ⟨list, [], (List.append_nil _).symm, rfl, fun _ inside => absurd inside List.not_mem_nil⟩

private theorem not_endsWithRun_nil : ¬ EndsWithRun Good (count + 1) [] := by
  intro run
  obtain ⟨earlier, last, split, length, -⟩ := run
  rw [(List.append_eq_nil_iff.mp split.symm).2] at length
  cases length

theorem endsWithRun_append_singleton {entry : α} :
    EndsWithRun Good (count + 1) (list ++ [entry]) ↔ Good entry ∧ EndsWithRun Good count list := by
  constructor
  · intro run
    obtain ⟨earlier, last, split, length, all⟩ := run
    obtain rfl | ⟨middle, final, rfl⟩ := List.eq_nil_or_concat last
    · cases length
    · rw [List.concat_eq_append] at split length all
      rw [← List.append_assoc] at split
      obtain ⟨rfl, same⟩ := List.append_inj' split rfl
      cases same
      rw [List.length_append] at length
      exact ⟨all entry (by simp), earlier, middle, rfl, Nat.succ.inj length,
        fun other inside => all other (List.mem_append_left _ inside)⟩
  · intro both
    obtain ⟨good, earlier, last, rfl, rfl, all⟩ := both
    refine ⟨earlier, last ++ [entry], List.append_assoc _ _ _, by simp, ?_⟩
    intro other inside
    rcases List.mem_append.mp inside with inside | last
    · exact all other inside
    · rw [List.mem_singleton.mp last]
      exact good

theorem EndsWithRun.append (run : EndsWithRun Good count list) {later : List α}
    (all : ∀ entry ∈ later, Good entry) :
    EndsWithRun Good (count + later.length) (list ++ later) := by
  obtain ⟨earlier, last, rfl, rfl, before⟩ := run
  refine ⟨earlier, last ++ later, List.append_assoc _ _ _, List.length_append, ?_⟩
  intro entry inside
  rcases List.mem_append.mp inside with inside | inside
  · exact before entry inside
  · exact all entry inside

theorem EndsWithRun.mono (run : EndsWithRun Good count list) {fewer : Nat} (le : fewer ≤ count) :
    EndsWithRun Good fewer list := by
  obtain ⟨earlier, last, rfl, rfl, all⟩ := run
  refine ⟨earlier ++ last.take (last.length - fewer), last.drop (last.length - fewer), ?_, ?_, ?_⟩
  · rw [List.append_assoc, List.take_append_drop]
  · rw [List.length_drop]
    omega
  · intro entry inside
    exact all entry (List.mem_of_mem_drop inside)

variable [DecidablePred Good]

/-- The counter of a loop: how many good entries came since the last other one. -/
def streak (Good : α → Prop) [DecidablePred Good] (list : List α) : Nat :=
  list.foldl (fun count entry => if Good entry then count + 1 else 0) 0

theorem streak_append_singleton (list : List α) (entry : α) :
    streak Good (list ++ [entry]) = if Good entry then streak Good list + 1 else 0 := by
  rw [streak, List.foldl_append]
  rfl

/-- The counter is the length of the final run. -/
theorem le_streak_iff : count ≤ streak Good list ↔ EndsWithRun Good count list := by
  induction list using List.reverseRecOn generalizing count with
  | nil =>
      cases count with
      | zero => exact iff_of_true (Nat.le_refl 0) (endsWithRun_zero Good [])
      | succ count => exact iff_of_false (Nat.not_succ_le_zero count) not_endsWithRun_nil
  | append_singleton list entry inductionHypothesis =>
      cases count with
      | zero => exact iff_of_true (Nat.zero_le _) (endsWithRun_zero Good _)
      | succ count =>
          rw [endsWithRun_append_singleton, ← inductionHypothesis, streak_append_singleton]
          by_cases good : Good entry
          · rw [if_pos good, Nat.add_le_add_iff_right]
            exact (and_iff_right good).symm
          · rw [if_neg good]
            exact iff_of_false (Nat.not_succ_le_zero count) fun both => good both.1

theorem streak_le_length (list : List α) : streak Good list ≤ list.length := by
  obtain ⟨earlier, last, split, length, -⟩ := le_streak_iff.mp (Nat.le_refl (streak Good list))
  have total := congrArg List.length split
  rw [List.length_append] at total
  omega

end NexalinkTunnel.Lib
