import NexalinkTunnel.Lib.Outcome
import NexalinkTunnel.Relay.Server.RateLimit

/-!
Contract: the arithmetic of the token bucket, for every configuration that it accepts.

Owns the deadlines of `consume` against the refills of `update_state`, and when
`update_state` computes what it would over the integers.

Does not own: the reader that waits for the deadlines.

## Two divisions

A deadline counts the periods until there are tokens by a division that is rounded up,
and a refill counts the periods that have passed by one that is rounded down. For the
relay's own buckets the two meet. For a bucket of the public constructor they need not:
both times are cut to whole milliseconds and to 32 bits before they are divided.
-/

namespace NexalinkTunnel.Relay.Server

open Lib

structure ConsumeCall where
  now : Nat
  bytes : Nat

/-- Calls of `consume` on a bucket, at any times and for any numbers of bytes. -/
def consumeCalls (start : Bucket) : Machine Bucket ConsumeCall where
  start := start
  Enabled _ _ _ := True
  step bucket call := (bucket.consume call.now call.bytes).2

namespace Bucket

/-- A bucket with a period of 100 ms and a rate of 32 bits. -/
structure Regular (burst refill : Nat) (bucket : Bucket) : Prop where
  max_eq : bucket.max = burst
  refill_eq : bucket.refill = refill
  refillPeriod_eq : bucket.refillPeriod = Server.refillPeriod
  low : -i64Max - 1 ≤ bucket.fill

variable {burst refill now bytes time : Nat} {bucket : Bucket}

private theorem Regular.updateState (regular : bucket.Regular burst refill) :
    (bucket.updateState now).Regular burst refill := by
  have low := regular.low
  unfold Bucket.updateState
  split
  · exact regular
  · refine ⟨regular.max_eq, regular.refill_eq, regular.refillPeriod_eq, ?_⟩
    show _ ≤ minI64 (saturateI64 _) bucket.max
    have bounded := le_saturateI64 (bucket.fill + bucket.refillPeriods now * bucket.refill)
    rw [minI64, regular.max_eq]
    split
    · exact bounded
    · rw [i64Max]
      omega

private theorem Regular.take (regular : bucket.Regular burst refill) :
    (bucket.take now bytes).Regular burst refill :=
  have updated : (bucket.updateState now).Regular burst refill := regular.updateState
  ⟨updated.max_eq, updated.refill_eq, updated.refillPeriod_eq, le_saturateI64 _⟩

private theorem Regular.refillPeriods_eq (regular : bucket.Regular burst refill)
    (soon : time ≤ bucket.lastFill + 4294967295000000) :
    bucket.refillPeriods time = (time - bucket.lastFill) / Server.refillPeriod := by
  have period : asU32 (asMillis Server.refillPeriod) = 100 := by decide
  rw [refillPeriods, regular.refillPeriod_eq, period]
  simp only [asU32, asMillis, Server.refillPeriod]
  omega

/-- A refill leaves tokens exactly if it brings more than are missing. -/
theorem Regular.fill_updateState_pos_iff (regular : bucket.Regular burst refill)
    (burst_pos : 0 < burst) :
    0 < (bucket.updateState time).fill ↔
      -bucket.fill < refill * bucket.refillPeriods time := by
  unfold Bucket.updateState
  split
  next none =>
    rw [none]
    omega
  next =>
    show 0 < minI64 (saturateI64 _) bucket.max ↔ _
    rw [minI64_pos_iff (by rw [regular.max_eq]; omega), saturateI64_pos_iff, regular.refill_eq,
      Int.mul_comm]
    omega

private theorem Regular.periodsNeeded_le_iff (regular : bucket.Regular burst refill)
    (numbers : Numbers burst refill) (empty : bucket.fill ≤ 0) {periods : Nat}
    (few : periods ≤ 42949673) :
    bucket.periodsNeeded ≤ periods ↔ -bucket.fill < refill * periods := by
  have refill_pos := numbers.refill_pos
  have refill_le := numbers.refill_le
  have low := regular.low
  have tokens : refill * periods ≤ refill * 42949673 := Nat.mul_le_mul_left refill few
  have missing : 0 ≤ saturateI64 (-bucket.fill) := by
    rw [saturateI64, i64Max]
    split <;> omega
  -- a fill of `i64::MIN` is negated to `i64::MAX`, which no refill reaches either
  have sameMissing : saturateI64 (-bucket.fill) < refill * periods ↔
      -bucket.fill < refill * periods := by
    rw [saturateI64]
    rw [i64Max] at *
    split <;> omega
  rw [← sameMissing, periodsNeeded, regular.refill_eq, Int.tdiv_eq_ediv_of_nonneg missing,
    Int.add_one_le_iff, Int.ediv_lt_iff_lt_mul (by omega), Int.mul_comm]

private theorem Regular.deadline_le_iff (regular : bucket.Regular burst refill)
    (needs : 0 < bucket.periodsNeeded) (soon : time ≤ bucket.lastFill + 4294967295000000) :
    bucket.deadline ≤ time ↔ bucket.periodsNeeded ≤ bucket.refillPeriods time := by
  rw [regular.refillPeriods_eq soon]
  simp only [deadline, regular.refillPeriod_eq, Server.refillPeriod]
  by_cases cut : bucket.periodsNeeded ≤ u32Max
  · rw [if_pos cut]
    omega
  · rw [if_neg cut]
    rw [u32Max] at cut ⊢
    omega

private theorem Regular.periodsNeeded_pos (regular : bucket.Regular burst refill)
    (empty : bucket.fill ≤ 0) : 0 < bucket.periodsNeeded := by
  have missing : 0 ≤ saturateI64 (-bucket.fill) := by
    rw [saturateI64, i64Max]
    split <;> omega
  have quotient : 0 ≤ (saturateI64 (-bucket.fill)).tdiv refill :=
    Int.tdiv_nonneg missing (Int.natCast_nonneg refill)
  rw [periodsNeeded, regular.refill_eq]
  omega

/-- The deadline is the first time at which a refill leaves tokens. -/
theorem Regular.fill_pos_iff_deadline_le (regular : bucket.Regular burst refill)
    (numbers : Numbers burst refill) (burst_pos : 0 < burst) (empty : bucket.fill ≤ 0)
    (soon : time ≤ bucket.lastFill + 4294967295000000) :
    0 < (bucket.updateState time).fill ↔ bucket.deadline ≤ time := by
  have few : bucket.refillPeriods time ≤ 42949673 := by
    rw [regular.refillPeriods_eq soon, Server.refillPeriod]
    omega
  rw [regular.fill_updateState_pos_iff burst_pos,
    regular.deadline_le_iff (regular.periodsNeeded_pos empty) soon,
    regular.periodsNeeded_le_iff numbers empty few]

/-- After any calls the deadline that `consume` returns is exact: a refill at a time within
`2 ^ 32 - 1` milliseconds of the last one leaves tokens exactly from the deadline on. -/
theorem consume_deadline_exact {created : Nat} {maxBurstBytes bytesPerSecond : UInt32}
    {start : Bucket}
    (accepted : Bucket.new created maxBurstBytes.toNat bytesPerSecond.toNat Server.refillPeriod =
      .ok start)
    {history : List ConsumeCall} (reached : (consumeCalls start).Reaches history bucket)
    {deadline : Nat} {after : Bucket}
    (returned : bucket.consume now bytes = (some deadline, after))
    (soon : time ≤ after.lastFill + 4294967295000000) :
    0 < (after.updateState time).fill ↔ deadline ≤ time := by
  have limiter : RateLimited.new created maxBurstBytes bytesPerSecond =
      .ok ⟨some start, none, false, 0, 0⟩ := by
    rw [RateLimited.new, accepted]
    rfl
  obtain ⟨same, burst_pos, -⟩ := new_eq_ok limiter
  have numbers := numbers_of_accepted limiter
  have regular : bucket.Regular maxBurstBytes.toNat (refillOf bytesPerSecond) := by
    apply reached.invariant fun _ bucket =>
      bucket.Regular maxBurstBytes.toNat (refillOf bytesPerSecond)
    · cases same
      exact ⟨rfl, rfl, rfl, by rw [i64Max]; show _ ≤ (maxBurstBytes.toNat : Int); omega⟩
    · intro history bucket call _ _ regular
      exact regular.take
  have empty : (bucket.take now bytes).fill ≤ 0 := by
    by_contra positive
    rw [consume, if_pos (Int.lt_of_not_ge positive)] at returned
    cases returned
  rw [consume, if_neg (Int.not_lt.mpr empty)] at returned
  cases returned
  exact regular.take.fill_pos_iff_deadline_le numbers burst_pos empty soon

/-- A burst of 5 and 2 tokens per period, of which 9 are taken: 4 are missing, so that the deadline
is three periods later and not two. -/
theorem consume_deadline_exact_multiple :
    let start : Bucket := ⟨5, 5, 0, Server.refillPeriod, 2⟩
    let after : Bucket := ⟨-4, 5, 0, Server.refillPeriod, 2⟩
    start.consume 7 9 = (some (3 * Server.refillPeriod), after) ∧
      (0 < (after.updateState (3 * Server.refillPeriod - 1)).fill ↔
        3 * Server.refillPeriod ≤ 3 * Server.refillPeriod - 1) := by
  intro start after
  have accepted : Bucket.new 0 (5 : UInt32).toNat (20 : UInt32).toNat Server.refillPeriod =
      .ok start := by decide
  have returned : start.consume 7 9 = (some (3 * Server.refillPeriod), after) := by decide
  exact ⟨returned, consume_deadline_exact accepted .start returned (by decide)⟩

end Bucket

/-! ## Buckets of the public constructor -/

namespace Bucket

/-- None of the checked operations of `update_state` overflows: the product of two `i64`, the
product of a `Duration` and the sum of an `Instant`. Without periods there are none. -/
def RefillFits (bucket : Bucket) (now : Nat) : Prop :=
  bucket.refillPeriods now = 0 ∨
    (FitsI64 (bucket.refillPeriods now * bucket.refill) ∧
      bucket.refillPeriod * bucket.refillPeriods now ≤ durationMax ∧
      bucket.lastFill + bucket.refillPeriod * bucket.refillPeriods now ≤ instantMax)
deriving Decidable

def checkedUpdateState (bucket : Bucket) (now : Nat) : Outcome Empty Bucket :=
  if bucket.RefillFits now then .ok (bucket.updateState now) else .panicked

/-- The bucket after a `consume` whose refill does not panic. -/
def checkedTake (bucket : Bucket) (call : ConsumeCall) : Option Bucket :=
  match bucket.checkedUpdateState call.now with
  | .ok updated => some { updated with fill := saturateI64 (updated.fill - tryFromI64 call.bytes) }
  | _ => none

def wholePeriods (bucket : Bucket) (now : Nat) : Nat :=
  (now - bucket.lastFill) / bucket.refillPeriod

/-- The refill is the one over the integers, for all whole periods, and not for time to come. -/
def ExactUpdate (bucket : Bucket) (now : Nat) : Prop :=
  bucket.checkedUpdateState now =
      .ok { bucket with
        fill := minI64 bucket.max (bucket.fill + bucket.wholePeriods now * bucket.refill)
        lastFill := bucket.lastFill + bucket.refillPeriod * bucket.wholePeriods now } ∧
    bucket.lastFill + bucket.refillPeriod * bucket.wholePeriods now ≤ now

structure Configured (bucket : Bucket) : Prop where
  max_pos : 0 < bucket.max
  max_le : bucket.max ≤ i64Max
  refill_pos : 0 < bucket.refill
  millis_pos : 0 < asU32 (asMillis bucket.refillPeriod)
  low : -i64Max - 1 ≤ bucket.fill
  high : bucket.fill ≤ bucket.max

variable {bucket : Bucket} {now : Nat}

theorem Configured.refillPeriod_pos (configured : bucket.Configured) : 0 < bucket.refillPeriod := by
  have millis_pos := configured.millis_pos
  rw [asU32, asMillis] at millis_pos
  omega

/-- The relay's own buckets never overflow, so that for them `update_state` needs no checks. -/
theorem Regular.checkedUpdateState_eq {burst refill : Nat} (regular : bucket.Regular burst refill)
    (numbers : Numbers burst refill) (past : bucket.lastFill ≤ now)
    (representable : now ≤ instantMax) :
    bucket.checkedUpdateState now = .ok (bucket.updateState now) := by
  have refill_le := numbers.refill_le
  have period : asU32 (asMillis Server.refillPeriod) = 100 := by decide
  have counted : bucket.refillPeriods now =
      (now - bucket.lastFill) / 1000000 % 4294967296 / 100 := by
    rw [refillPeriods, regular.refillPeriod_eq, period]
    rfl
  have tokens : bucket.refillPeriods now * refill ≤ 42949673 * refill :=
    Nat.mul_le_mul_right refill (by omega)
  apply if_pos
  refine .inr ⟨?_, ?_, ?_⟩
  · rw [regular.refill_eq, FitsI64, i64Max]
    omega
  · rw [regular.refillPeriod_eq, Server.refillPeriod, durationMax]
    omega
  · rw [regular.refillPeriod_eq, Server.refillPeriod]
    omega

private theorem Configured.updateState (configured : bucket.Configured) :
    (bucket.updateState now).Configured := by
  have max_pos := configured.max_pos
  have bounded := le_saturateI64 (bucket.fill + bucket.refillPeriods now * bucket.refill)
  unfold Bucket.updateState
  split
  · exact configured
  · refine ⟨configured.max_pos, configured.max_le, configured.refill_pos,
      configured.millis_pos, ?_, ?_⟩
    · show _ ≤ minI64 _ _
      rw [minI64]
      split
      · exact bounded
      · rw [i64Max]
        omega
    · show minI64 _ _ ≤ bucket.max
      rw [minI64]
      split <;> omega

private theorem Configured.checkedTake (configured : bucket.Configured) {call : ConsumeCall}
    {after : Bucket} (taken : bucket.checkedTake call = some after) : after.Configured := by
  unfold Bucket.checkedTake at taken
  split at taken
  next updated returned =>
    cases taken
    obtain rfl : bucket.updateState call.now = updated := by
      unfold checkedUpdateState at returned
      split at returned
      · exact Outcome.ok.inj returned
      · cases returned
    have kept : (bucket.updateState call.now).Configured := configured.updateState
    have high := kept.high
    have max_le := kept.max_le
    have nonneg : 0 ≤ tryFromI64 call.bytes := by
      rw [tryFromI64, i64Max]
      split <;> omega
    refine ⟨kept.max_pos, kept.max_le, kept.refill_pos, kept.millis_pos,
      le_saturateI64 _, ?_⟩
    show saturateI64 _ ≤ (bucket.updateState call.now).max
    rw [saturateI64]
    rw [i64Max] at *
    have max_pos := kept.max_pos
    split <;> omega
  next => cases taken

end Bucket

/-- Calls of `consume` on a bucket of any configuration, at any times, none of which panics in its
refill. -/
abbrev publicCalls (start : Bucket) : Machine Bucket ConsumeCall :=
  .ofNext start Bucket.checkedTake

namespace Bucket

section Public

variable {created refillPeriod : Nat} {max bytesPerSecond : Int64} {start bucket : Bucket}
  {history : List ConsumeCall} {now : Nat}

private theorem configured_of_accepted
    (accepted : Bucket.new created max.toInt bytesPerSecond.toInt refillPeriod = .ok start) :
    start.Configured := by
  have max_le : max.toInt ≤ i64Max := Int64.toInt_le max
  unfold Bucket.new at accepted
  dsimp only at accepted
  split at accepted
  next positive =>
    obtain ⟨max_pos, -, millis_pos, refill_pos⟩ := positive
    cases accepted
    refine ⟨max_pos, max_le, refill_pos, millis_pos, ?_, Int.le_refl _⟩
    rw [i64Max]
    show _ ≤ max.toInt
    omega
  next => cases accepted

private theorem configured_of_reaches
    (accepted : Bucket.new created max.toInt bytesPerSecond.toInt refillPeriod = .ok start)
    (reached : (publicCalls start).Reaches history bucket) : bucket.Configured := by
  apply reached.invariant_next fun _ bucket => bucket.Configured
  · exact configured_of_accepted accepted
  · intro history bucket call after taken configured
    exact configured.checkedTake taken

private theorem lastFill_updateState (bucket : Bucket) (now : Nat) :
    (bucket.updateState now).lastFill =
      bucket.lastFill + bucket.refillPeriod * bucket.refillPeriods now := by
  unfold updateState
  split
  next none => rw [none, Nat.mul_zero, Nat.add_zero]
  next => rfl

private theorem Configured.fill_updateState (configured : bucket.Configured) :
    (bucket.updateState now).fill =
      minI64 bucket.max (bucket.fill + bucket.refillPeriods now * bucket.refill) := by
  have low := configured.low
  have high := configured.high
  have max_le := configured.max_le
  have tokens : 0 ≤ bucket.refillPeriods now * bucket.refill :=
    Int.mul_nonneg (Int.natCast_nonneg _) (Int.le_of_lt configured.refill_pos)
  unfold Bucket.updateState
  split
  next none =>
    rw [none, minI64]
    split <;> omega
  next =>
    show minI64 (saturateI64 _) bucket.max = _
    rw [saturateI64, minI64, minI64]
    rw [i64Max] at *
    split <;> split <;> omega

private theorem refillPeriod_mul_wholePeriods_le (bucket : Bucket) (now : Nat) :
    bucket.refillPeriod * bucket.wholePeriods now ≤ now - bucket.lastFill :=
  Nat.mul_div_le _ _

private theorem Configured.refillFits (configured : bucket.Configured)
    (representable : now ≤ instantMax) (past : bucket.lastFill ≤ now)
    (same : bucket.refillPeriods now = bucket.wholePeriods now)
    (small : bucket.wholePeriods now * bucket.refill ≤ i64Max) : bucket.RefillFits now := by
  have elapsed := bucket.refillPeriod_mul_wholePeriods_le now
  have tokens : 0 ≤ bucket.wholePeriods now * bucket.refill :=
    Int.mul_nonneg (Int.natCast_nonneg _) (Int.le_of_lt configured.refill_pos)
  rw [RefillFits, same]
  refine .inr ⟨⟨?_, small⟩, ?_, ?_⟩
  · rw [i64Max]
    omega
  · rw [instantMax] at representable
    rw [durationMax]
    omega
  · omega

/-- The refill is exact if and only if the last one is not ahead of the time, the right number of
periods is counted and their tokens are an `i64`. -/
theorem Configured.exactUpdate_iff (configured : bucket.Configured)
    (representable : now ≤ instantMax) :
    bucket.ExactUpdate now ↔ bucket.lastFill ≤ now ∧
      bucket.refillPeriods now = bucket.wholePeriods now ∧
        bucket.wholePeriods now * bucket.refill ≤ i64Max := by
  have elapsed := bucket.refillPeriod_mul_wholePeriods_le now
  constructor
  · rintro ⟨updated, notAhead⟩
    refine ⟨(Nat.le_add_right _ _).trans notAhead, ?_⟩
    unfold checkedUpdateState at updated
    split at updated
    next fits =>
      have advanced : (bucket.updateState now).lastFill =
          bucket.lastFill + bucket.refillPeriod * bucket.wholePeriods now :=
        congrArg lastFill (Outcome.ok.inj updated)
      rw [lastFill_updateState] at advanced
      have same : bucket.refillPeriods now = bucket.wholePeriods now :=
        Nat.eq_of_mul_eq_mul_left configured.refillPeriod_pos (Nat.add_left_cancel advanced)
      refine ⟨same, ?_⟩
      rcases fits with none | fits
      · rw [← same, none, i64Max]
        omega
      · rw [← same]
        exact fits.1.2
    next => cases updated
  · rintro ⟨past, same, small⟩
    have fits := configured.refillFits representable past same small
    have parts : bucket.updateState now = { bucket with
        fill := minI64 bucket.max (bucket.fill + bucket.wholePeriods now * bucket.refill)
        lastFill := bucket.lastFill + bucket.refillPeriod * bucket.wholePeriods now } := by
      have fill : (bucket.updateState now).fill = _ := configured.fill_updateState
      have lastFill := bucket.lastFill_updateState now
      rw [same] at fill lastFill
      rw [← fill, ← lastFill]
      unfold Bucket.updateState
      split <;> rfl
    refine ⟨?_, by omega⟩
    rw [checkedUpdateState, if_pos fits, parts]

/-- A time has so many whole periods of a length. -/
def Holds (length elapsed periods : Nat) : Prop :=
  length * periods ≤ elapsed ∧ elapsed < length * (periods + 1)
deriving Decidable

private theorem holds_iff {length elapsed periods : Nat} (positive : 0 < length) :
    Holds length elapsed periods ↔ elapsed / length = periods := by
  rw [Nat.div_eq_iff positive, Holds, Nat.mul_add_one, Nat.mul_comm length periods]
  omega

/-- After any calls on a bucket that was accepted, a refill is exact if and only if the last one is
not ahead of the time, the elapsed time has as many whole periods as the milliseconds of both have,
each cut to 32 bits, and the tokens of these periods are an `i64`. -/
theorem updateState_exact_iff
    (accepted : Bucket.new created max.toInt bytesPerSecond.toInt refillPeriod = .ok start)
    (reached : (publicCalls start).Reaches history bucket) (representable : now ≤ instantMax) :
    bucket.ExactUpdate now ↔ bucket.lastFill ≤ now ∧
      ∃ periods : Nat, Holds bucket.refillPeriod (now - bucket.lastFill) periods ∧
        Holds (bucket.refillPeriod / 1000000 % 4294967296)
          ((now - bucket.lastFill) / 1000000 % 4294967296) periods ∧
        periods * bucket.refill ≤ i64Max := by
  have configured := configured_of_reaches accepted reached
  rw [configured.exactUpdate_iff representable]
  refine and_congr_right fun _ => ⟨?_, ?_⟩
  · rintro ⟨same, small⟩
    exact ⟨_, (holds_iff configured.refillPeriod_pos).mpr rfl,
      (holds_iff configured.millis_pos).mpr same, small⟩
  · rintro ⟨periods, whole, counted, small⟩
    obtain rfl := (holds_iff configured.refillPeriod_pos).mp whole
    exact ⟨(holds_iff configured.millis_pos).mp counted, small⟩

/-- A period of 3 ms, with a refill after 7 ms. -/
theorem updateState_exact_threeMillis :
    let bucket : Bucket := ⟨1, 100, 0, 3000000, 3⟩
    bucket.ExactUpdate 7000000 ∧ bucket.checkedUpdateState 7000000 =
      .ok ⟨7, 100, 6000000, 3000000, 3⟩ := by
  intro bucket
  have accepted : Bucket.new 0 (100 : Int64).toInt (1000 : Int64).toInt 3000000 =
      .ok ⟨100, 100, 0, 3000000, 3⟩ := by decide
  have reached : (publicCalls ⟨100, 100, 0, 3000000, 3⟩).Reaches [⟨0, 99⟩] bucket :=
    Machine.reaches_runFrom (by decide)
  exact ⟨(updateState_exact_iff accepted reached (by decide)).mpr ⟨by decide, 2, by decide⟩,
    by decide⟩

/-- A period of 1.5 ms counts as 1 ms, so that a refill after 1 ms is one period ahead of the time.
With the highest rate the tokens of 1001 periods overflow. -/
theorem updateState_inexact :
    let bucket : Bucket := ⟨990, 1000, 0, 1500000, 1⟩
    let fast : Bucket := ⟨1, 1, 0, 1000000, 9223372036854775⟩
    Bucket.new 0 (1000 : Int64).toInt (1000 : Int64).toInt 1500000 =
        .ok ⟨1000, 1000, 0, 1500000, 1⟩ ∧
      (publicCalls ⟨1000, 1000, 0, 1500000, 1⟩).Reaches [⟨0, 10⟩] bucket ∧
      bucket.wholePeriods 1000000 = 0 ∧
      bucket.checkedUpdateState 1000000 = .ok ⟨991, 1000, 1500000, 1500000, 1⟩ ∧
      ¬ bucket.ExactUpdate 1000000 ∧
      Bucket.new 0 (1 : Int64).toInt Int64.maxValue.toInt 1000000 = .ok fast ∧
      fast.checkedUpdateState 1001000000 = .panicked := by
  intro bucket fast
  have updated : bucket.checkedUpdateState 1000000 = .ok ⟨991, 1000, 1500000, 1500000, 1⟩ := by
    decide
  refine ⟨by decide, Machine.reaches_runFrom (by decide), by decide, updated, ?_, by decide,
    by decide⟩
  intro holds
  have same := holds.1
  rw [updated] at same
  exact absurd same (by decide)

end Public

end Bucket

end NexalinkTunnel.Relay.Server
