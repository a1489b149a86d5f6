import Mathlib.Data.List.Basic

/-!
Contract: a list cut into pieces of one size.

Owns the cutting, in which only the last piece may be shorter, and how it goes with
taking a number of whole pieces off the front.
-/

namespace NexalinkTunnel.Lib

variable {α : Type}

/-- The pieces of a list, each of `size` elements except for the last. -/
def chunks (size : Nat) : List α → List (List α)
  | [] => []
  | first :: rest => (first :: rest.take (size - 1)) :: chunks size (rest.drop (size - 1))
termination_by list => list.length
decreasing_by simp only [List.length_drop, List.length_cons]; omega

variable {size : Nat} {list : List α}

@[simp] theorem chunks_nil : chunks size ([] : List α) = [] := by
  rw [chunks]

theorem chunks_eq_nil : chunks size list = [] ↔ list = [] := by
  cases list with
  | nil => simp
  | cons first rest => simp [chunks]

theorem chunks_eq_cons (positive : 0 < size) (nonempty : list ≠ []) :
    chunks size list = list.take size :: chunks size (list.drop size) := by
  obtain ⟨smaller, rfl⟩ := Nat.exists_eq_add_one.mpr positive
  cases list with
  | nil => exact absurd rfl nonempty
  | cons first rest => simp [chunks]

theorem chunks_of_length_le (nonempty : list ≠ []) (short : list.length ≤ size) :
    chunks size list = [list] := by
  have positive : 0 < size := Nat.lt_of_lt_of_le (List.length_pos_of_ne_nil nonempty) short
  rw [chunks_eq_cons positive nonempty, List.take_of_length_le short, List.drop_of_length_le short,
    chunks_nil]

theorem chunks_length (short : list.length ≤ size) :
    chunks list.length list = chunks size list := by
  by_cases empty : list = []
  · simp [empty]
  · rw [chunks_of_length_le empty short, chunks_of_length_le empty (Nat.le_refl _)]

theorem chunks_take_append_drop (positive : 0 < size) (count : Nat) :
    chunks size (list.take (count * size)) ++ chunks size (list.drop (count * size)) =
      chunks size list := by
  induction count generalizing list with
  | zero => simp
  | succ count inductionHypothesis =>
      by_cases empty : list = []
      · simp [empty]
      · have length : (count + 1) * size = size + count * size := by
          rw [Nat.succ_mul, Nat.add_comm]
        have taken : list.take (size + count * size) ≠ [] := by
          simp [empty, Nat.ne_of_gt positive]
        rw [length, chunks_eq_cons positive taken, chunks_eq_cons positive empty,
          List.take_take, Nat.min_eq_left (Nat.le_add_right _ _), List.drop_take,
          Nat.add_sub_cancel_left, ← List.drop_drop, List.cons_append, inductionHypothesis]

theorem length_chunks_le_iff (positive : 0 < size) (count : Nat) :
    (chunks size list).length ≤ count ↔ list.length ≤ count * size := by
  induction count generalizing list with
  | zero =>
      by_cases empty : list = []
      · simp [empty]
      · have nonempty := List.length_pos_of_ne_nil empty
        rw [chunks_eq_cons positive empty, List.length_cons]
        omega
  | succ count inductionHypothesis =>
      by_cases empty : list = []
      · simp [empty]
      · rw [chunks_eq_cons positive empty, List.length_cons, Nat.succ_le_succ_iff,
          inductionHypothesis, List.length_drop, Nat.succ_mul]
        omega

end NexalinkTunnel.Lib
