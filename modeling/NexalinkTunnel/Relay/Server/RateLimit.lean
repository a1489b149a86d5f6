import NexalinkTunnel.Lib.MachineNumbers
import NexalinkTunnel.Lib.Transition

/-!
Contract: the rate limit of a relay server on what it reads from a client.

Owns `Bucket` and `RateLimited::poll_read`, with the machine arithmetic of the source, and
the bound on the bytes that were read when the inner reader is reached.

Does not own: the inner reader, which may answer anything, the timer, which fires at any
time from its deadline on, and the other traits of the stream.

## Time

Times are nanoseconds. The milliseconds since the last refill are cut to 32 bits, so a
refill after 50 days counts too few periods. This loses tokens and leaves the time of the
last refill behind, which alone does not break the bound. But the lost tokens can bring the
number of periods to wait for over `u32::MAX`, where it is cut too: the deadline is then
early, and may be in the past.
-/

namespace NexalinkTunnel.Relay.Server

open Lib

structure Bucket where
  fill : Int
  max : Int
  lastFill : Nat
  refillPeriod : Nat
  refill : Int
deriving DecidableEq

structure InvalidBucketConfig where
  max : Int
  bytesPerSecond : Int
  refillPeriod : Nat
deriving DecidableEq

namespace Bucket

def new (now : Nat) (max bytesPerSecond : Int) (refillPeriod : Nat) :
    Except InvalidBucketConfig Bucket :=
  let refill := (saturateI64 (bytesPerSecond * asI64 (asMillis refillPeriod))).tdiv 1000
  if 0 < max ∧ 0 < bytesPerSecond ∧ 0 < asU32 (asMillis refillPeriod) ∧ 0 < refill then
    .ok ⟨max, max, now, refillPeriod, refill⟩
  else .error ⟨max, bytesPerSecond, refillPeriod⟩

/-- The number of periods since the last refill, as `update_state` counts them. -/
def refillPeriods (bucket : Bucket) (now : Nat) : Nat :=
  asU32 (asMillis (now - bucket.lastFill)) / asU32 (asMillis bucket.refillPeriod)

def updateState (bucket : Bucket) (now : Nat) : Bucket :=
  if bucket.refillPeriods now = 0 then bucket
  else
    { bucket with
      fill := minI64 (saturateI64 (bucket.fill + bucket.refillPeriods now * bucket.refill))
        bucket.max
      lastFill := bucket.lastFill + bucket.refillPeriod * bucket.refillPeriods now }

def periodsNeeded (bucket : Bucket) : Int := (saturateI64 (-bucket.fill)).tdiv bucket.refill + 1

/-- When there are tokens again. The number of periods is cut at `u32::MAX`. -/
def deadline (bucket : Bucket) : Nat :=
  let periods := if bucket.periodsNeeded ≤ u32Max then bucket.periodsNeeded else u32Max
  bucket.lastFill + periods.toNat * bucket.refillPeriod

def take (bucket : Bucket) (now bytes : Nat) : Bucket :=
  let updated := bucket.updateState now
  { updated with fill := saturateI64 (updated.fill - tryFromI64 bytes) }

/-- The deadline that `consume` returns, if there are too few tokens, and the bucket after it. -/
def consume (bucket : Bucket) (now bytes : Nat) : Option Nat × Bucket :=
  let taken := bucket.take now bytes
  (if 0 < taken.fill then none else some taken.deadline, taken)

end Bucket

/-- `RateLimited`, without its inner reader. Of the metrics only those that are written. -/
structure RateLimited where
  bucket : Option Bucket
  bucketRefilled : Option Nat
  limitedOnce : Bool
  bytesRxRatelimitedTotal : Nat
  connsRxRatelimitedTotal : Nat
deriving DecidableEq

inductive InnerRead where
  | pending
  | failed
  | read (bytes : Nat)

def InnerRead.bytes? : InnerRead → Option Nat
  | .read bytes => some bytes
  | .pending | .failed => none

/-- A call of `poll_read`: when it is made, whether it finds that the timer has fired, what the
inner reader answers if it is reached, and when the bytes are consumed. -/
structure ReadCall where
  now : Nat
  fired : Bool
  inner : InnerRead
  consumed : Nat

def refillPeriod : Nat := 100000000

namespace RateLimited

def new (now : Nat) (maxBurstBytes bytesPerSecond : UInt32) :
    Except InvalidBucketConfig RateLimited :=
  (Bucket.new now maxBurstBytes.toNat bytesPerSecond.toNat refillPeriod).map fun bucket =>
    ⟨some bucket, none, false, 0, 0⟩

def unlimited : RateLimited := ⟨none, none, false, 0, 0⟩

def recordRateLimited (limited : RateLimited) (bytes : Nat) : RateLimited :=
  { limited with
    bytesRxRatelimitedTotal := limited.bytesRxRatelimitedTotal + bytes
    connsRxRatelimitedTotal :=
      if limited.limitedOnce then limited.connsRxRatelimitedTotal
      else limited.connsRxRatelimitedTotal + 1
    limitedOnce := true }

/-- The call reaches the inner reader: there is no bucket, the reader is not limited, or the timer
has fired. -/
def reachesInner (limited : RateLimited) (call : ReadCall) : Bool :=
  limited.bucket.isNone || limited.bucketRefilled.isNone || call.fired

def consumeRead (limited : RateLimited) (bucket : Bucket) (now bytes : Nat) : RateLimited :=
  match bucket.consume now bytes with
  | (none, bucket) => { limited with bucket := some bucket }
  | (some refillTime, bucket) =>
      { ({ limited with bucket := some bucket }).recordRateLimited bytes with
        bucketRefilled := some refillTime }

def pollRead (limited : RateLimited) (call : ReadCall) : RateLimited :=
  match limited.bucket with
  | none => limited
  | some bucket =>
      if limited.reachesInner call then
        let waited := { limited with bucketRefilled := none }
        match call.inner with
        | .pending | .failed => waited
        | .read bytes => waited.consumeRead bucket call.consumed bytes
      else limited

end RateLimited

/-- The stream, with the bytes that were read and the time of the last call. -/
structure LimitedRun where
  limited : RateLimited
  total : Nat
  clock : Nat

namespace LimitedRun

def bytesRead (run : LimitedRun) (call : ReadCall) : Nat :=
  match call.inner with
  | .read bytes => if run.limited.reachesInner call then bytes else 0
  | .pending | .failed => 0

def step (run : LimitedRun) (call : ReadCall) : LimitedRun :=
  ⟨run.limited.pollRead call, run.total + run.bytesRead call, call.consumed⟩

/-- Time does not go back, a read has less than `2 ^ 31` bytes, and the timer does not fire before
its deadline. -/
def Allowed (run : LimitedRun) (call : ReadCall) : Prop :=
  run.clock ≤ call.now ∧ call.now ≤ call.consumed ∧ run.bytesRead call < 2147483648 ∧
    (call.fired = true → ∀ deadline ∈ run.limited.bucketRefilled, deadline ≤ call.now)
deriving Decidable

end LimitedRun

def limitedReads (created : Nat) (limited : RateLimited) : Machine LimitedRun ReadCall where
  start := ⟨limited, 0, created⟩
  Enabled _ run call := run.Allowed call
  step := LimitedRun.step

instance (created : Nat) (limited : RateLimited) (history : List ReadCall) (run : LimitedRun)
    (call : ReadCall) : Decidable ((limitedReads created limited).Enabled history run call) :=
  inferInstanceAs (Decidable (run.Allowed call))

/-! ## A limiter that was accepted -/

/-- The whole periods from the creation of the limiter to a time. -/
def periodsSince (created now : Nat) : Nat := (now - created) / refillPeriod

/-- The tokens per period: a tenth of the rate, rounded down. -/
def refillOf (bytesPerSecond : UInt32) : Nat := bytesPerSecond.toNat / 10

theorem new_eq_ok {created : Nat} {maxBurstBytes bytesPerSecond : UInt32} {limited : RateLimited}
    (accepted : RateLimited.new created maxBurstBytes bytesPerSecond = .ok limited) :
    limited = ⟨some ⟨maxBurstBytes.toNat, maxBurstBytes.toNat, created, refillPeriod,
        refillOf bytesPerSecond⟩, none, false, 0, 0⟩ ∧
      0 < maxBurstBytes.toNat ∧ 0 < refillOf bytesPerSecond := by
  have bounded := bytesPerSecond.toNat_lt
  have millis : asI64 (asMillis refillPeriod) = 100 := by decide
  have product : saturateI64 (bytesPerSecond.toNat * 100) = bytesPerSecond.toNat * 100 :=
    saturateI64_eq (by simp only [i64Max]; omega) (by simp only [i64Max]; omega)
  have refill : ((bytesPerSecond.toNat : Int) * 100).tdiv 1000 = refillOf bytesPerSecond := by
    rw [Int.tdiv_eq_ediv_of_nonneg (by omega), refillOf]
    omega
  simp only [RateLimited.new, Bucket.new, millis, product, refill] at accepted
  split at accepted
  next positive =>
    cases accepted
    exact ⟨rfl, by omega, by omega⟩
  next => cases accepted

/-! ## Accounts of a bucket -/

/-- The bucket was refilled for `periods` periods since its creation, and has no more tokens than
these and the burst, less the bytes that were read. -/
structure Bucket.Accounts (created burst refill total : Nat) (bucket : Bucket) (periods : Nat) :
    Prop where
  max_eq : bucket.max = burst
  refill_eq : bucket.refill = refill
  refillPeriod_eq : bucket.refillPeriod = Server.refillPeriod
  lastFill_eq : bucket.lastFill = created + Server.refillPeriod * periods
  account : (total : Int) + bucket.fill ≤ burst + refill * periods

/-- At the time there are tokens, if the bucket is refilled for all whole periods. -/
def Bucket.ReadyAt (created refill : Nat) (bucket : Bucket) (periods time : Nat) : Prop :=
  ∃ more : Nat, created + Server.refillPeriod * (periods + more) ≤ time ∧
    0 < bucket.fill + refill * more

/-- The tokens are an `i64`, also after some more bytes. -/
def Bucket.Within (burst refill : Nat) (bucket : Bucket) : Prop :=
  -(u32Max * refill) < bucket.fill ∧ bucket.fill ≤ burst

structure Numbers (burst refill : Nat) : Prop where
  burst_le : burst ≤ 4294967295
  refill_pos : 0 < refill
  refill_le : refill ≤ 429496729

namespace Bucket

variable {created burst refill total periods now bytes : Nat} {bucket : Bucket}

theorem ReadyAt.mono {later : Nat} (ready : bucket.ReadyAt created refill periods now)
    (after : now ≤ later) : bucket.ReadyAt created refill periods later :=
  ready.imp fun _ holds => ⟨holds.1.trans after, holds.2⟩

/-- The bound, from the accounts of the bucket. -/
theorem Accounts.total_lt (accounts : bucket.Accounts created burst refill total periods)
    (ready : bucket.ReadyAt created refill periods now) :
    total < burst + refill * periodsSince created now := by
  obtain ⟨more, passed, positive⟩ := ready
  have whole : periods + more ≤ periodsSince created now := by
    rw [periodsSince, Nat.le_div_iff_mul_le (by decide), Nat.mul_comm]
    omega
  have tokens : refill * (periods + more) ≤ refill * periodsSince created now :=
    Nat.mul_le_mul_left refill whole
  have account := accounts.account
  rw [Nat.mul_add] at tokens
  omega

theorem refillPeriods_eq (accounts : bucket.Accounts created burst refill total periods) :
    bucket.refillPeriods now = (now - bucket.lastFill) / 1000000 % 4294967296 / 100 := by
  rw [refillPeriods, accounts.refillPeriod_eq]
  rfl

private theorem fill_updateState (numbers : Numbers burst refill)
    (accounts : bucket.Accounts created burst refill total periods)
    (within : bucket.Within burst refill) :
    (bucket.updateState now).fill =
      minI64 (bucket.fill + refill * bucket.refillPeriods now) burst := by
  have counted : bucket.refillPeriods now ≤ 42949673 := by
    rw [refillPeriods_eq accounts]
    omega
  have tokens : refill * bucket.refillPeriods now ≤ refill * 42949673 :=
    Nat.mul_le_mul_left refill counted
  have refill_le := numbers.refill_le
  have burst_le := numbers.burst_le
  obtain ⟨low, high⟩ := within
  rw [u32Max] at low
  unfold updateState
  split
  next none =>
    rw [none, minI64, if_pos (by omega)]
    omega
  next =>
    have exact : saturateI64 (bucket.fill + refill * bucket.refillPeriods now) =
        bucket.fill + refill * bucket.refillPeriods now :=
      saturateI64_eq (by rw [i64Max]; omega) (by rw [i64Max]; omega)
    simp only [accounts.max_eq, accounts.refill_eq]
    rw [Int.mul_comm, exact]

private theorem Accounts.updateState (numbers : Numbers burst refill)
    (accounts : bucket.Accounts created burst refill total periods)
    (within : bucket.Within burst refill) :
    (bucket.updateState now).Accounts created burst refill total
      (periods + bucket.refillPeriods now) := by
  have account := accounts.account
  have lastFill : (bucket.updateState now).lastFill =
      bucket.lastFill + Server.refillPeriod * bucket.refillPeriods now := by
    unfold Bucket.updateState
    split
    next none => rw [none, Nat.mul_zero, Nat.add_zero]
    next => simp only [accounts.refillPeriod_eq]
  refine ⟨?_, ?_, ?_, ?_, ?_⟩
  · rw [← accounts.max_eq, Bucket.updateState]
    split <;> rfl
  · rw [← accounts.refill_eq, Bucket.updateState]
    split <;> rfl
  · rw [← accounts.refillPeriod_eq, Bucket.updateState]
    split <;> rfl
  · rw [lastFill, accounts.lastFill_eq, Nat.mul_add, Nat.add_assoc]
  · rw [fill_updateState numbers accounts within, minI64, Int.natCast_add, Int.mul_add]
    split <;> omega

theorem Within.updateState (numbers : Numbers burst refill)
    (accounts : bucket.Accounts created burst refill total periods)
    (within : bucket.Within burst refill) : (bucket.updateState now).Within burst refill := by
  have refill_pos := numbers.refill_pos
  obtain ⟨low, high⟩ := within
  have tokens : 0 ≤ (refill : Int) * bucket.refillPeriods now := by
    rw [← Int.natCast_mul]
    omega
  rw [Within, fill_updateState numbers accounts ⟨low, high⟩, minI64]
  rw [u32Max] at low ⊢
  split <;> omega

private theorem Accounts.lastFill_updateState_le (numbers : Numbers burst refill)
    (accounts : bucket.Accounts created burst refill total periods)
    (within : bucket.Within burst refill) (past : bucket.lastFill ≤ now) :
    (bucket.updateState now).lastFill ≤ now := by
  have counted : bucket.refillPeriods now = _ := refillPeriods_eq accounts
  have updated : (bucket.updateState now).lastFill = _ :=
    (accounts.updateState numbers within).lastFill_eq
  have lastFill := accounts.lastFill_eq
  rw [Nat.mul_add] at updated
  simp only [Server.refillPeriod] at updated lastFill
  omega

theorem fill_take (numbers : Numbers burst refill)
    (accounts : bucket.Accounts created burst refill total periods)
    (within : bucket.Within burst refill) (small : bytes < 2147483648) :
    (bucket.take now bytes).fill = (bucket.updateState now).fill - bytes := by
  have refill_le := numbers.refill_le
  have burst_le := numbers.burst_le
  obtain ⟨low, high⟩ : (bucket.updateState now).Within burst refill :=
    within.updateState numbers accounts
  rw [u32Max] at low
  have fits : tryFromI64 bytes = bytes := by
    rw [tryFromI64, if_pos (by rw [i64Max]; omega)]
  show saturateI64 ((bucket.updateState now).fill - tryFromI64 bytes) = _
  rw [fits]
  exact saturateI64_eq (by rw [i64Max]; omega) (by rw [i64Max]; omega)

theorem Accounts.take (numbers : Numbers burst refill)
    (accounts : bucket.Accounts created burst refill total periods)
    (within : bucket.Within burst refill) (small : bytes < 2147483648) :
    (bucket.take now bytes).Accounts created burst refill (total + bytes)
      (periods + bucket.refillPeriods now) := by
  have updated : (bucket.updateState now).Accounts created burst refill total
      (periods + bucket.refillPeriods now) := accounts.updateState numbers within
  refine ⟨updated.max_eq, updated.refill_eq, updated.refillPeriod_eq, updated.lastFill_eq, ?_⟩
  have account := updated.account
  rw [fill_take numbers accounts within small]
  omega

theorem periodsNeeded_eq (accounts : bucket.Accounts created burst refill total periods)
    (low : -i64Max ≤ bucket.fill) (empty : bucket.fill ≤ 0) :
    bucket.periodsNeeded = -bucket.fill / refill + 1 := by
  have negated : saturateI64 (-bucket.fill) = -bucket.fill :=
    saturateI64_eq (by rw [i64Max] at *; omega) (by omega)
  rw [periodsNeeded, negated, accounts.refill_eq, Int.tdiv_eq_ediv_of_nonneg (by omega)]

private theorem periodsNeeded_le (numbers : Numbers burst refill)
    (accounts : bucket.Accounts created burst refill total periods)
    (low : -(u32Max * refill) < bucket.fill) (lowest : -i64Max ≤ bucket.fill)
    (empty : bucket.fill ≤ 0) : bucket.periodsNeeded ≤ u32Max := by
  have refill_pos := numbers.refill_pos
  rw [periodsNeeded_eq accounts lowest empty, Int.add_one_le_iff,
    Int.ediv_lt_iff_lt_mul (by omega)]
  omega

private theorem missing_lt (numbers : Numbers burst refill)
    (accounts : bucket.Accounts created burst refill total periods)
    (low : -i64Max ≤ bucket.fill) (empty : bucket.fill ≤ 0) :
    -bucket.fill < refill * bucket.periodsNeeded := by
  have refill_pos := numbers.refill_pos
  rw [periodsNeeded_eq accounts low empty, Int.mul_add, Int.mul_one]
  exact Int.lt_mul_ediv_self_add (by omega)

private theorem Accounts.readyAt_deadline (numbers : Numbers burst refill)
    (accounts : bucket.Accounts created burst refill total periods)
    (low : -(u32Max * refill) < bucket.fill) (lowest : -i64Max ≤ bucket.fill)
    (empty : bucket.fill ≤ 0) : bucket.ReadyAt created refill periods bucket.deadline := by
  have notCut := periodsNeeded_le numbers accounts low lowest empty
  have enough := missing_lt numbers accounts lowest empty
  have positive : 0 < bucket.periodsNeeded := by
    have quotient : 0 ≤ -bucket.fill / refill := Int.ediv_nonneg (by omega) (by omega)
    rw [periodsNeeded_eq accounts lowest empty]
    omega
  have whole : (bucket.periodsNeeded.toNat : Int) = bucket.periodsNeeded :=
    Int.toNat_of_nonneg (by omega)
  refine ⟨bucket.periodsNeeded.toNat, ?_, ?_⟩
  · simp only [deadline, if_pos notCut, accounts.lastFill_eq, accounts.refillPeriod_eq]
    rw [Nat.mul_add, Nat.mul_comm _ Server.refillPeriod, Nat.add_assoc]
  · rw [whole]
    omega

/-- What a `consume` leaves: tokens, now or at the deadline that it returns. -/
theorem consume_ready (numbers : Numbers burst refill)
    (accounts : bucket.Accounts created burst refill total periods)
    (within : bucket.Within burst refill) (past : bucket.lastFill ≤ now)
    (small : bytes < 2147483648) (low : -(u32Max * refill) < (bucket.take now bytes).fill) :
    (bucket.take now bytes).Within burst refill ∧
      (bucket.take now bytes).ReadyAt created refill (periods + bucket.refillPeriods now)
        ((bucket.consume now bytes).1.getD now) := by
  have taken : (bucket.take now bytes).Accounts created burst refill (total + bytes)
      (periods + bucket.refillPeriods now) := accounts.take numbers within small
  have fill : (bucket.take now bytes).fill = _ := fill_take numbers accounts within small
  have high : (bucket.updateState now).fill ≤ burst := (within.updateState numbers accounts).2
  have refill_le := numbers.refill_le
  have lowest : -i64Max ≤ (bucket.take now bytes).fill := by
    rw [u32Max] at low
    rw [i64Max]
    omega
  refine ⟨⟨low, by omega⟩, ?_⟩
  by_cases positive : 0 < (bucket.take now bytes).fill
  · -- the bucket has tokens: nothing is waited for
    refine ⟨0, ?_, by omega⟩
    simp only [consume, if_pos positive]
    rw [Nat.add_zero, ← taken.lastFill_eq]
    exact accounts.lastFill_updateState_le numbers within past
  · simp only [consume, if_neg positive]
    exact taken.readyAt_deadline numbers low lowest (by omega)

end Bucket

/-! ## Runs of the reader -/

namespace RateLimited

variable {limited : RateLimited} {bucket : Bucket} {now bytes : Nat}

private theorem bucket_consumeRead :
    (limited.consumeRead bucket now bytes).bucket = some (bucket.take now bytes) := by
  unfold consumeRead
  split
  next consumed => exact congrArg some (congrArg Prod.snd consumed).symm
  next consumed => exact congrArg some (congrArg Prod.snd consumed).symm

private theorem bucketRefilled_consumeRead (waited : limited.bucketRefilled = none) :
    (limited.consumeRead bucket now bytes).bucketRefilled = (bucket.consume now bytes).1 := by
  unfold consumeRead
  split
  next consumed => exact waited.trans (congrArg Prod.fst consumed).symm
  next consumed => exact (congrArg Prod.fst consumed).symm

end RateLimited

namespace LimitedRun

/-- The bytes that a call reads are less than the tokens of the bucket and of `u32::MAX` periods.
The bucket is refilled for the milliseconds since the last refill, cut to 32 bits. -/
def Covered (run : LimitedRun) (call : ReadCall) : Prop :=
  run.limited.reachesInner call = true →
    ∀ bucket ∈ run.limited.bucket, ∀ bytes ∈ call.inner.bytes?,
      (bytes : Int) < min bucket.max (bucket.fill + bucket.refill *
          ((call.consumed - bucket.lastFill) / 1000000 % 4294967296 / 100 : Nat)) +
        u32Max * bucket.refill
deriving Decidable

/-- A call is made, and its bytes are consumed, within `2 ^ 32` milliseconds of the last refill. -/
def Timely (run : LimitedRun) (call : ReadCall) : Prop :=
  ∀ bucket ∈ run.limited.bucket, call.consumed < bucket.lastFill + 4294967296000000
deriving Decidable

/-- The accounts of the bucket of a run: when the timer fires, or now if none is waited for, there
are tokens. -/
structure Sound (created burst refill : Nat) (run : LimitedRun) (bucket : Bucket)
    (periods : Nat) : Prop where
  bucket_eq : run.limited.bucket = some bucket
  accounts : bucket.Accounts created burst refill run.total periods
  within : bucket.Within burst refill
  past : bucket.lastFill ≤ run.clock
  ready : bucket.ReadyAt created refill periods (run.limited.bucketRefilled.getD run.clock)

variable {created burst refill periods : Nat} {run : LimitedRun} {bucket : Bucket}
  {call : ReadCall}

private theorem Sound.ready_of_reachesInner (sound : run.Sound created burst refill bucket periods)
    (allowed : run.Allowed call) (reaches : run.limited.reachesInner call = true) :
    bucket.ReadyAt created refill periods call.now := by
  apply sound.ready.mono
  obtain ⟨later, -, -, fires⟩ := allowed
  cases waits : run.limited.bucketRefilled with
  | none => exact later
  | some deadline =>
      rw [RateLimited.reachesInner, sound.bucket_eq, waits] at reaches
      exact fires (by simpa using reaches) deadline waits

theorem bytesRead_eq (reaches : run.limited.reachesInner call = true) {bytes : Nat}
    (has : bytes ∈ call.inner.bytes?) : run.bytesRead call = bytes := by
  cases answer : call.inner with
  | read count =>
      rw [answer] at has
      cases has
      simp only [bytesRead, answer, reaches, if_true]
  | pending | failed =>
      rw [answer] at has
      cases has

private theorem Sound.step_read (numbers : Numbers burst refill)
    (sound : run.Sound created burst refill bucket periods) (allowed : run.Allowed call)
    (reaches : run.limited.reachesInner call = true) {bytes : Nat}
    (reads : call.inner = .read bytes)
    (low : -(u32Max * refill) < (bucket.take call.consumed bytes).fill) :
    (run.step call).Sound created burst refill (bucket.take call.consumed bytes)
      (periods + bucket.refillPeriods call.consumed) := by
  have read : run.bytesRead call = bytes := bytesRead_eq reaches (by rw [reads]; rfl)
  obtain ⟨later, consumed, small, -⟩ := allowed
  rw [read] at small
  have past : bucket.lastFill ≤ call.consumed := (sound.past.trans later).trans consumed
  obtain ⟨within, ready⟩ := Bucket.consume_ready numbers sound.accounts sound.within past small
    low
  have after : (run.limited.pollRead call).bucket = some (bucket.take call.consumed bytes) ∧
      (run.limited.pollRead call).bucketRefilled = (bucket.consume call.consumed bytes).1 := by
    simp only [RateLimited.pollRead, sound.bucket_eq, reaches, reads, if_true]
    exact ⟨RateLimited.bucket_consumeRead, RateLimited.bucketRefilled_consumeRead rfl⟩
  refine ⟨after.1, ?_, within, ?_, ?_⟩
  · show Bucket.Accounts _ _ _ (run.total + run.bytesRead call) _ _
    rw [read]
    exact sound.accounts.take numbers sound.within small
  · exact sound.accounts.lastFill_updateState_le numbers sound.within past
  · show Bucket.ReadyAt _ _ _ _ ((run.limited.pollRead call).bucketRefilled.getD call.consumed)
    rw [after.2]
    exact ready

private theorem Sound.step_wait (sound : run.Sound created burst refill bucket periods)
    (allowed : run.Allowed call) (reaches : run.limited.reachesInner call = true)
    (unread : call.inner.bytes? = none) :
    (run.step call).Sound created burst refill bucket periods := by
  have later : call.now ≤ call.consumed := allowed.2.1
  have ready := (sound.ready_of_reachesInner allowed reaches).mono later
  have past : bucket.lastFill ≤ call.consumed := (sound.past.trans allowed.1).trans later
  have after : run.limited.pollRead call = { run.limited with bucketRefilled := none } ∧
      run.bytesRead call = 0 := by
    cases answer : call.inner with
    | read bytes =>
        rw [answer] at unread
        cases unread
    | pending | failed =>
        simp only [RateLimited.pollRead, sound.bucket_eq, reaches, answer, bytesRead, if_true,
          and_self]
  rw [step, after.1, after.2]
  exact ⟨sound.bucket_eq, sound.accounts, sound.within, past, ready⟩

private theorem Sound.step_limited (sound : run.Sound created burst refill bucket periods)
    (allowed : run.Allowed call) (limited : ¬ run.limited.reachesInner call = true) :
    (run.step call).Sound created burst refill bucket periods := by
  have unchanged : run.limited.pollRead call = run.limited ∧ run.bytesRead call = 0 := by
    refine ⟨?_, ?_⟩
    · simp only [RateLimited.pollRead, sound.bucket_eq, if_neg limited]
    · unfold bytesRead
      split
      · rw [if_neg limited]
      all_goals rfl
  have past : bucket.lastFill ≤ call.consumed :=
    (sound.past.trans allowed.1).trans allowed.2.1
  have ready := sound.ready
  rw [step, unchanged.1, unchanged.2]
  refine ⟨sound.bucket_eq, sound.accounts, sound.within, past, ?_⟩
  cases waits : run.limited.bucketRefilled with
  | none => exact absurd (by rw [RateLimited.reachesInner, waits]; simp) limited
  | some deadline => rwa [waits] at ready

private theorem Sound.fill_pos (numbers : Numbers burst refill) (burst_pos : 0 < burst)
    (sound : run.Sound created burst refill bucket periods) (allowed : run.Allowed call)
    (reaches : run.limited.reachesInner call = true)
    (timely : call.consumed < bucket.lastFill + 4294967296000000) :
    0 < (bucket.updateState call.consumed).fill := by
  obtain ⟨more, passed, positive⟩ := sound.ready_of_reachesInner allowed reaches
  have later : call.now ≤ call.consumed := allowed.2.1
  have counted : more ≤ bucket.refillPeriods call.consumed := by
    have lastFill := sound.accounts.lastFill_eq
    rw [Nat.mul_add] at passed
    rw [Bucket.refillPeriods_eq sound.accounts]
    simp only [refillPeriod] at passed lastFill
    omega
  have tokens : refill * more ≤ refill * bucket.refillPeriods call.consumed :=
    Nat.mul_le_mul_left refill counted
  rw [Bucket.fill_updateState numbers sound.accounts sound.within, minI64]
  split <;> omega

private theorem Sound.low_of_read (numbers : Numbers burst refill) (burst_pos : 0 < burst)
    (sound : run.Sound created burst refill bucket periods) (allowed : run.Allowed call)
    (reaches : run.limited.reachesInner call = true) (bounded : run.Timely call ∨ run.Covered call)
    {bytes : Nat} (read : bytes ∈ call.inner.bytes?) :
    -(u32Max * refill) < (bucket.take call.consumed bytes).fill := by
  have refill_pos := numbers.refill_pos
  have small : bytes < 2147483648 := bytesRead_eq reaches read ▸ allowed.2.2.1
  rw [Bucket.fill_take numbers sound.accounts sound.within small, u32Max]
  rcases bounded with timely | covered
  · have positive := sound.fill_pos numbers burst_pos allowed reaches
      (timely bucket sound.bucket_eq)
    omega
  · have enough := covered reaches bucket sound.bucket_eq bytes read
    rw [sound.accounts.max_eq, sound.accounts.refill_eq,
      ← Bucket.refillPeriods_eq sound.accounts, u32Max] at enough
    rw [Bucket.fill_updateState numbers sound.accounts sound.within, minI64]
    split <;> omega

/-- One call keeps the accounts. -/
theorem Sound.step (numbers : Numbers burst refill) (burst_pos : 0 < burst)
    (sound : run.Sound created burst refill bucket periods) (allowed : run.Allowed call)
    (bounded : run.Timely call ∨ run.Covered call) :
    ∃ bucket periods, (run.step call).Sound created burst refill bucket periods := by
  by_cases reaches : run.limited.reachesInner call = true
  · cases answer : call.inner with
    | read bytes =>
        have low := sound.low_of_read numbers burst_pos allowed reaches bounded
          (by rw [answer]; rfl : bytes ∈ call.inner.bytes?)
        exact ⟨_, _, sound.step_read numbers allowed reaches answer low⟩
    | pending | failed =>
        exact ⟨_, _, sound.step_wait allowed reaches (by rw [answer]; rfl)⟩
  · exact ⟨_, _, sound.step_limited allowed reaches⟩

end LimitedRun

section Accepted

variable {created : Nat} {maxBurstBytes bytesPerSecond : UInt32} {limited : RateLimited}

theorem numbers_of_accepted
    (accepted : RateLimited.new created maxBurstBytes bytesPerSecond = .ok limited) :
    Numbers maxBurstBytes.toNat (refillOf bytesPerSecond) := by
  have burst := maxBurstBytes.toNat_lt
  have rate := bytesPerSecond.toNat_lt
  have refill_pos := (new_eq_ok accepted).2.2
  refine ⟨by omega, refill_pos, ?_⟩
  rw [refillOf]
  omega

private theorem sound_start
    (accepted : RateLimited.new created maxBurstBytes bytesPerSecond = .ok limited) :
    ∃ bucket periods, (limitedReads created limited).start.Sound created maxBurstBytes.toNat
      (refillOf bytesPerSecond) bucket periods := by
  obtain ⟨rfl, burst_pos, refill_pos⟩ := new_eq_ok accepted
  refine ⟨_, 0, rfl, ⟨rfl, rfl, rfl, rfl, ?_⟩, ⟨?_, Int.le_refl _⟩, Nat.le_refl _, 0,
    Nat.le_refl _, ?_⟩
  · show ((0 : Nat) : Int) + maxBurstBytes.toNat ≤ maxBurstBytes.toNat + _ * ((0 : Nat) : Int)
    omega
  · show -(u32Max * _) < (maxBurstBytes.toNat : Int)
    rw [u32Max]
    omega
  · show 0 < (maxBurstBytes.toNat : Int) + _ * ((0 : Nat) : Int)
    omega

/-- The accounts hold after any calls that read soon enough or with enough tokens. -/
theorem sound_of_reaches
    (accepted : RateLimited.new created maxBurstBytes bytesPerSecond = .ok limited)
    {history : List ReadCall} {run : LimitedRun}
    (reached : ((limitedReads created limited).restrict fun _ run call =>
      run.Timely call ∨ run.Covered call).Reaches history run) :
    ∃ bucket periods, run.Sound created maxBurstBytes.toNat (refillOf bytesPerSecond) bucket
      periods := by
  apply reached.invariant fun _ run => ∃ bucket periods,
    run.Sound created maxBurstBytes.toNat (refillOf bytesPerSecond) bucket periods
  · exact sound_start accepted
  · intro history run call before enabled holds
    obtain ⟨bucket, periods, sound⟩ := holds
    exact sound.step (numbers_of_accepted accepted) (new_eq_ok accepted).2.1 enabled.1 enabled.2

/-- If each call came within `2 ^ 32` milliseconds of the last refill, or its bytes were covered by
the tokens of the bucket and of `u32::MAX` periods, a call that reaches the inner reader finds that
less was read than the burst and the tokens of all whole periods since the creation. -/
theorem rate_limit_bound
    (accepted : RateLimited.new created maxBurstBytes bytesPerSecond = .ok limited)
    {history : List ReadCall} {run : LimitedRun}
    (reached : ((limitedReads created limited).restrict fun _ run call =>
      run.Timely call ∨ run.Covered call).Reaches history run)
    {call : ReadCall} (allowed : run.Allowed call)
    (reaches : run.limited.reachesInner call = true) :
    run.total <
      maxBurstBytes.toNat + refillOf bytesPerSecond * periodsSince created call.now := by
  obtain ⟨bucket, periods, sound⟩ := sound_of_reaches accepted reached
  exact sound.accounts.total_lt (sound.ready_of_reachesInner allowed reaches)

end Accepted

/-- A burst of 5 and 2 tokens per period: after a read of 8 bytes the next one comes 2 periods
later. -/
theorem rate_limit_bound_two_periods :
    let limited : RateLimited := ⟨some ⟨5, 5, 0, refillPeriod, 2⟩, none, false, 0, 0⟩
    let reads := limitedReads 0 limited
    let history : List ReadCall :=
      [⟨7, false, .read 8, 7⟩, ⟨refillPeriod, false, .pending, refillPeriod⟩]
    let run := reads.runFrom reads.start history
    let call : ReadCall := ⟨2 * refillPeriod, true, .pending, 2 * refillPeriod⟩
    run.limited.bucketRefilled = some call.now ∧ run.total = 8 ∧
      run.total < 5 + 2 * periodsSince 0 call.now := by
  intro limited reads history run call
  have accepted : RateLimited.new 0 5 20 = .ok limited := by decide
  have reached : (reads.restrict fun _ run call => run.Timely call ∨ run.Covered call).Reaches
      history run := Machine.reaches_runFrom (by decide)
  have allowed : run.Allowed call := by decide
  exact ⟨by decide, by decide, rate_limit_bound accepted reached allowed (by decide)⟩

/-- Three reads, each 6 years or more after the one before. The milliseconds of each pause are a
multiple of `2 ^ 32`, so nothing is refilled. The third wait is cut, and ends at once. -/
theorem rate_limit_exceeded_after_cut :
    let limited : RateLimited := ⟨some ⟨1, 1, 0, refillPeriod, 1⟩, none, false, 0, 0⟩
    let reads := limitedReads 0 limited
    let pause := 214748364800000000
    let history : List ReadCall :=
      [⟨0, false, .read 2147483647, 0⟩, ⟨pause, true, .read 2147483647, pause⟩,
        ⟨2 * pause, true, .read 2147483647, 2 * pause⟩]
    let run := reads.runFrom reads.start history
    let call : ReadCall := ⟨2 * pause, true, .read 1, 2 * pause⟩
    RateLimited.new 0 1 10 = .ok limited ∧ reads.Reaches history run ∧ run.Allowed call ∧
      run.limited.reachesInner call = true ∧ refillOf 10 = 1 ∧ run.total = 6442450941 ∧
      1 + refillOf 10 * periodsSince 0 call.now = 4294967297 := by
  intro limited reads pause history run call
  exact ⟨by decide +kernel, Machine.reaches_runFrom (by decide +kernel), by decide +kernel,
    by decide +kernel, by decide +kernel, by decide +kernel, by decide +kernel⟩

end NexalinkTunnel.Relay.Server
