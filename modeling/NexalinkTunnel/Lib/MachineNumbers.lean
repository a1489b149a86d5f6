import Mathlib.Data.Int.Basic

/-!
Contract: numbers of a machine, as integers with the bounds of their types.

Owns saturation and casts of fixed-width integers, and the bounds of durations and instants.

Does not own: which operation of a program saturates, wraps or panics.
-/

namespace NexalinkTunnel.Lib

def i64Max : Int := 9223372036854775807

def u32Max : Int := 4294967295

def saturateI64 (value : Int) : Int :=
  if value < -i64Max - 1 then -i64Max - 1 else if i64Max < value then i64Max else value

theorem saturateI64_eq {value : Int} (low : -i64Max - 1 ≤ value) (high : value ≤ i64Max) :
    saturateI64 value = value := by
  rw [saturateI64, if_neg (by omega), if_neg (by omega)]

/-- `i64::try_from(value).unwrap_or(i64::MAX)`. -/
def tryFromI64 (value : Nat) : Int := if value ≤ i64Max then value else i64Max

def minI64 (left right : Int) : Int := if left ≤ right then left else right

def asU32 (value : Nat) : Nat := value % 4294967296

def asI64 (value : Nat) : Int := Int.bmod value 18446744073709551616

def asMillis (duration : Nat) : Nat := duration / 1000000

theorem le_saturateI64 (value : Int) : -i64Max - 1 ≤ saturateI64 value := by
  rw [saturateI64, i64Max]
  split <;> omega

theorem saturateI64_pos_iff {value : Int} : 0 < saturateI64 value ↔ 0 < value := by
  rw [saturateI64, i64Max]
  split <;> omega

theorem minI64_pos_iff {left right : Int} (positive : 0 < right) :
    0 < minI64 left right ↔ 0 < left := by
  rw [minI64]
  split <;> omega

def FitsI64 (value : Int) : Prop := -i64Max - 1 ≤ value ∧ value ≤ i64Max
deriving Decidable

def durationMax : Nat := 18446744073709551615999999999

/-- The last `Instant` of a Unix system, whose seconds are an `i64`. -/
def instantMax : Nat := 9223372036854775807999999999

end NexalinkTunnel.Lib
