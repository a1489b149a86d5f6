import Mathlib.Data.List.Forall2
import NexalinkTunnel.Lib.Outcome

/-!
Contract: lookups that are repeated after jittered delays.

Owns `stagger_call` with the waiting time of each of its calls, and `add_jitter` with
its saturating arithmetic.

Does not own: what a call does, and how long it takes. The results are given in the
order in which the calls complete.

## Short delays

The jitter is drawn below two fifths of the delay, rounded down. For a delay of one or
two milliseconds this is zero, and the remainder of a division by zero is a panic.
-/

namespace NexalinkTunnel.Dns

open Lib

def u64Max : Nat := 18446744073709551615

def saturatingMul (left right : Nat) : Nat :=
  if left * right ≤ u64Max then left * right else u64Max

def saturatingAdd (left right : Nat) : Nat :=
  if left + right ≤ u64Max then left + right else u64Max

def checkedRem (dividend divisor : Nat) : Outcome Empty Nat :=
  if divisor = 0 then .panicked else .ok (dividend % divisor)

def maxJitterPercent : Nat := 20

def maxJitter (delay : Nat) : Nat := saturatingMul delay (maxJitterPercent * 2) / 100

def addJitter (delay random : UInt64) : Outcome Empty Nat :=
  if delay = 0 then .ok 0
  else do
    let jitter ← checkedRem random.toNat (maxJitter delay.toNat)
    return saturatingAdd (delay.toNat - maxJitter delay.toNat / 2) jitter

/-- At least 0.8 and at most 1.2 of the delay, rounded outward. -/
def Within (delay wait : Nat) : Prop :=
  delay * 8 / 10 ≤ wait ∧ wait ≤ (delay * 12 + 9) / 10

private theorem maxJitter_le (delay : Nat) : maxJitter delay ≤ delay * 40 / 100 := by
  have lower : saturatingMul delay (maxJitterPercent * 2) ≤ delay * 40 := by
    rw [saturatingMul, maxJitterPercent]
    split <;> omega
  exact Nat.div_le_div_right lower

theorem maxJitter_eq_zero_iff {delay : Nat} : maxJitter delay = 0 ↔ delay < 3 := by
  rw [maxJitter, saturatingMul, maxJitterPercent, u64Max]
  split <;> omega

private theorem within_saturatingAdd {delay jitter : Nat} (bounded : delay ≤ u64Max)
    (drawn : jitter < maxJitter delay) :
    Within delay (saturatingAdd (delay - maxJitter delay / 2) jitter) := by
  have small := maxJitter_le delay
  rw [saturatingAdd]
  split
  · constructor <;> omega
  · constructor <;> omega

theorem addJitter_of_lt_three {delay : UInt64} (random : UInt64) (positive : delay ≠ 0)
    (short : delay.toNat < 3) : addJitter delay random = .panicked := by
  rw [addJitter, if_neg positive, maxJitter_eq_zero_iff.mpr short]
  rfl

theorem addJitter_of_three_le {delay : UInt64} (random : UInt64) (long : 3 ≤ delay.toNat) :
    ∃ wait, addJitter delay random = .ok wait ∧ Within delay.toNat wait := by
  have positive : delay ≠ 0 := by
    rintro rfl
    simp at long
  have some : maxJitter delay.toNat ≠ 0 := by
    rw [Ne, maxJitter_eq_zero_iff]
    omega
  have bounded : delay.toNat ≤ u64Max := Nat.le_of_lt_succ delay.toNat_lt
  refine ⟨_, ?_, within_saturatingAdd bounded (Nat.mod_lt random.toNat (Nat.pos_of_ne_zero some))⟩
  rw [addJitter, if_neg positive, checkedRem, if_neg some]
  rfl

/-- A delay of one or two milliseconds is the only one without a jitter within the bounds. -/
theorem addJitter_within_iff {delay : UInt64} (random : UInt64) :
    (∃ wait, addJitter delay random = .ok wait ∧ Within delay.toNat wait) ↔
      delay ≠ 1 ∧ delay ≠ 2 := by
  have one : delay = 1 ↔ delay.toNat = 1 := UInt64.toNat_inj.symm
  have two : delay = 2 ↔ delay.toNat = 2 := UInt64.toNat_inj.symm
  by_cases zero : delay = 0
  · subst zero
    exact iff_of_true ⟨0, rfl, by decide, by decide⟩ (by decide)
  · have positive : delay.toNat ≠ 0 := fun none => zero (UInt64.toNat_inj.mp none)
    by_cases short : delay.toNat < 3
    · rw [addJitter_of_lt_three random zero short]
      simp only [reduceCtorEq, false_and, exists_false, false_iff, Ne, one, two]
      omega
    · refine iff_of_true (addJitter_of_three_le random (by omega)) ?_
      rw [Ne, Ne, one, two]
      omega

private theorem within_of_addJitter {delay random : UInt64} {wait : Nat}
    (added : addJitter delay random = .ok wait) : Within delay.toNat wait := by
  by_cases zero : delay = 0
  · subst zero
    cases added
    exact ⟨by decide, by decide⟩
  · by_cases short : delay.toNat < 3
    · rw [addJitter_of_lt_three random zero short] at added
      cases added
    · obtain ⟨_, same, within⟩ := addJitter_of_three_le random (Nat.le_of_not_lt short)
      rw [added] at same
      cases same
      exact within

/-- The waiting times of calls, each given by its delay and the random number it draws. -/
def buildCalls : List (UInt64 × UInt64) → Outcome Empty (List Nat)
  | [] => .ok []
  | (delay, random) :: calls => do
      let wait ← addJitter delay random
      let waits ← buildCalls calls
      return wait :: waits

/-- The calls of `stagger_call`: one without a delay, which draws no number, and the given ones. -/
def staggeredCalls (delays : List (UInt64 × UInt64)) : List (UInt64 × UInt64) := (0, 0) :: delays

section Collect

variable {Value Error : Type}

/-- The loop over the results: the first success, or else all errors. -/
def collectResults (errors : List Error) : List (Except Error Value) → Except (List Error) Value
  | [] => .error errors
  | .ok value :: _ => .ok value
  | .error error :: results => collectResults (errors ++ [error]) results

/-- `stagger_call`, with the results in the order in which the calls complete. -/
def staggerCall (delays : List (UInt64 × UInt64)) (results : List (Except Error Value)) :
    Outcome (List Error) Value :=
  match buildCalls (staggeredCalls delays) with
  | .ok _ => .ofExcept id (collectResults [] results)
  | .err error => error.elim
  | .panicked => .panicked

end Collect

theorem buildCalls_within_iff {calls : List (UInt64 × UInt64)} :
    (∃ waits, buildCalls calls = .ok waits ∧
      List.Forall₂ (fun call wait => Within call.1.toNat wait) calls waits) ↔
      ∀ call ∈ calls, call.1 ≠ 1 ∧ call.1 ≠ 2 := by
  induction calls with
  | nil => simp [buildCalls]
  | cons call calls inductionHypothesis =>
      obtain ⟨delay, random⟩ := call
      rw [List.forall_mem_cons, ← inductionHypothesis, ← addJitter_within_iff random]
      simp only [buildCalls, Outcome.bind_eq_ok, Outcome.pure_eq, Outcome.ok.injEq]
      constructor
      · rintro ⟨_, ⟨wait, added, waits, built, rfl⟩, within⟩
        obtain ⟨first, rest⟩ := List.forall₂_cons.mp within
        exact ⟨⟨wait, added, first⟩, waits, built, rest⟩
      · rintro ⟨⟨wait, added, first⟩, waits, built, rest⟩
        exact ⟨_, ⟨wait, added, waits, built, rfl⟩, .cons first rest⟩

private theorem forall₂_within_of_buildCalls {calls : List (UInt64 × UInt64)} {waits : List Nat}
    (built : buildCalls calls = .ok waits) :
    List.Forall₂ (fun call wait => Within call.1.toNat wait) calls waits := by
  induction calls generalizing waits with
  | nil =>
      cases built
      exact .nil
  | cons call calls inductionHypothesis =>
      simp only [buildCalls, Outcome.bind_eq_ok, Outcome.pure_eq, Outcome.ok.injEq] at built
      obtain ⟨wait, added, rest, built, rfl⟩ := built
      exact .cons (within_of_addJitter added) (inductionHypothesis built)

/-- Whatever the calls result in, the whole comes back exactly if no delay is that short. -/
theorem returns_staggerCall_iff {Value Error : Type} {delays : List (UInt64 × UInt64)}
    (results : List (Except Error Value)) :
    (staggerCall delays results).Returns ↔
      ∀ call ∈ staggeredCalls delays, call.1 ≠ 1 ∧ call.1 ≠ 2 := by
  rw [← buildCalls_within_iff]
  cases built : buildCalls (staggeredCalls delays) with
  | ok waits =>
      have within := forall₂_within_of_buildCalls built
      simp only [staggerCall, built]
      exact iff_of_true (Outcome.returns_ofExcept id _) ⟨waits, rfl, within⟩
  | err error => exact error.elim
  | panicked => simp [staggerCall, built]

/-- For every list of delays and all random numbers, the calls are built without a panic and each
of them waits within the bounds of its delay, exactly if no delay is of one or two milliseconds. -/
theorem staggerCall_within_iff (delays : List (UInt64 × UInt64)) :
    (∃ waits, buildCalls (staggeredCalls delays) = .ok waits ∧
      List.Forall₂ (fun call wait => Within call.1.toNat wait) (staggeredCalls delays) waits) ↔
      ∀ call ∈ delays, call.1 ≠ 1 ∧ call.1 ≠ 2 := by
  rw [buildCalls_within_iff, staggeredCalls, List.forall_mem_cons]
  exact and_iff_right (by decide)

/-- A retry after two milliseconds. -/
theorem staggerCall_two_panics :
    buildCalls (staggeredCalls [(300, 7), (2, 7)]) = .panicked := by
  decide

end NexalinkTunnel.Dns
