import Mathlib.Logic.Function.Basic
import NexalinkTunnel.Dns.Pkarr
import NexalinkTunnel.Lib.Transition

/-!
Contract: timestamps that many threads ask for at once.

Owns `Timestamp::now` as the steps between which other threads may run: the reading of
the clock, the load, and each attempt to exchange the last timestamp.

Does not own: how threads are scheduled, and whether a call ever succeeds. An attempt
may fail for no reason, any number of times.

## Relaxed ordering

A relaxed load, and an attempt that fails, may give any value that the atomic ever had.
An attempt that succeeds replaces the latest one. This admits more than the memory
model does.

A sum that is no `u64` panics. It takes as many calls as there are numbers left above
the clock to get there.
-/

namespace NexalinkTunnel.Dns.Pkarr.Timestamp

open Lib

inductive NowCall where
  | idle
  | read (micros : Nat)
  | trying (micros last : Nat)
  | returned (micros value : Nat)
  | panicked
deriving DecidableEq

structure NowCalls where
  last : Nat
  /-- The values that `LAST_TIMESTAMP` had before. -/
  earlier : List Nat
  calls : Nat → NowCall

inductive NowStep where
  /-- The time is in microseconds since the UNIX epoch. -/
  | readClock (call : Nat) (time : Int)
  | load (call value : Nat)
  | exchange (call : Nat)
  /-- The attempt fails and gives a value. -/
  | fail (call actual : Nat)
deriving DecidableEq

namespace NowCalls

def start : NowCalls := ⟨0, [], fun _ => .idle⟩

def setCall (state : NowCalls) (call : Nat) (now : NowCall) : NowCalls :=
  { state with calls := Function.update state.calls call now }

def Readable (state : NowCalls) (value : Nat) : Prop := value = state.last ∨ value ∈ state.earlier
deriving Decidable

def next (state : NowCalls) : NowStep → Option NowCalls
  | .readClock call time =>
      match state.calls call with
      | .idle =>
          -- the system time before the epoch is an error, which is expected not to be
          if time < 0 then some (state.setCall call .panicked)
          else if time < 2 ^ 63 then some (state.setCall call (.read (time.toNat % 2 ^ 64)))
          else none
      | _ => none
  | .load call value =>
      match state.calls call with
      | .read micros =>
          if state.Readable value then some (state.setCall call (.trying micros value)) else none
      | _ => none
  | .exchange call =>
      match state.calls call with
      | .trying micros last =>
          if last + 1 < 2 ^ 64 then
            if last = state.last then
              some { (state.setCall call (.returned micros (now last micros))) with
                last := now last micros
                earlier := state.last :: state.earlier }
            else none
          else some (state.setCall call .panicked)
      | _ => none
  | .fail call actual =>
      match state.calls call with
      | .trying micros last =>
          if last + 1 < 2 ^ 64 then
            if state.Readable actual then some (state.setCall call (.trying micros actual))
            else none
          else some (state.setCall call .panicked)
      | _ => none

end NowCalls

/-- Any number of calls, in any interleaving, with clock readings below 2^63. -/
abbrev nowCalls : Machine NowCalls NowStep := .ofNext .start NowCalls.next

variable {history : List NowStep} {state after : NowCalls} {step : NowStep}

/-! ## What a step does -/

inductive NowCalls.Does (state : NowCalls) : NowStep → NowCalls → Prop where
  | beforeEpoch {call : Nat} {time : Int} : state.calls call = .idle → time < 0 →
      Does state (.readClock call time) (state.setCall call .panicked)
  | reads {call : Nat} {time : Int} : state.calls call = .idle → 0 ≤ time → time < 2 ^ 63 →
      Does state (.readClock call time) (state.setCall call (.read time.toNat))
  | tries {call micros value : Nat} {step : NowStep} :
      (∀ other time, step ≠ .readClock other time) →
      (state.calls call = .read micros ∨ ∃ last, state.calls call = .trying micros last) →
      state.Readable value → Does state step (state.setCall call (.trying micros value))
  | overflows {call micros last : Nat} {step : NowStep} :
      (∀ other time, step ≠ .readClock other time) →
      state.calls call = .trying micros last → 2 ^ 64 ≤ last + 1 →
      Does state step (state.setCall call .panicked)
  | exchanges {call micros : Nat} : state.calls call = .trying micros state.last →
      Does state (.exchange call)
        { (state.setCall call (.returned micros (now state.last micros))) with
          last := now state.last micros
          earlier := state.last :: state.earlier }

theorem NowCalls.does_of_next (stepped : state.next step = some after) :
    state.Does step after := by
  cases step with
  | readClock call time =>
      simp only [next] at stepped
      split at stepped
      next idle =>
        split at stepped
        next early =>
          cases stepped
          exact .beforeEpoch idle early
        next late =>
          split at stepped <;> cases stepped
          next small =>
            have kept : time.toNat % 2 ^ 64 = time.toNat := Nat.mod_eq_of_lt (by omega)
            rw [kept]
            exact .reads idle (Int.not_lt.mp late) small
      next => cases stepped
  | load call value =>
      simp only [next] at stepped
      split at stepped
      next micros waiting =>
        split at stepped <;> cases stepped
        next readable => exact .tries nofun (.inl waiting) readable
      next => cases stepped
  | exchange call =>
      simp only [next] at stepped
      split at stepped
      next micros last waiting =>
        split at stepped
        next =>
          split at stepped <;> cases stepped
          next same =>
            subst same
            exact .exchanges waiting
        next large =>
          cases stepped
          exact .overflows nofun waiting (Nat.le_of_not_lt large)
      next => cases stepped
  | fail call actual =>
      simp only [next] at stepped
      split at stepped
      next micros last waiting =>
        split at stepped
        next =>
          split at stepped <;> cases stepped
          next readable => exact .tries nofun (.inr ⟨last, waiting⟩) readable
        next large =>
          cases stepped
          exact .overflows nofun waiting (Nat.le_of_not_lt large)
      next => cases stepped

namespace NowCalls

theorem calls_setCall (state : NowCalls) (call other : Nat) (now : NowCall) :
    (state.setCall call now).calls other = if other = call then now else state.calls other :=
  Function.update_apply _ _ _ _

private theorem Does.last_le (does : state.Does step after) : state.last ≤ after.last := by
  cases does with
  | exchanges _ => exact Nat.le_of_lt (lt_now _ _)
  | beforeEpoch _ _ => exact Nat.le_refl _
  | reads _ _ _ => exact Nat.le_refl _
  | tries _ _ _ => exact Nat.le_refl _
  | overflows _ _ _ => exact Nat.le_refl _

private theorem Does.returned (does : state.Does step after) {call micros value : Nat}
    (returned : after.calls call = .returned micros value) :
    state.calls call = .returned micros value ∨
      (step = .exchange call ∧ value = after.last ∧ state.last < after.last ∧
        micros ≤ after.last) := by
  -- only an exchange makes a call return
  have unchanged {other : Nat} {now : NowCall}
      (returned : (state.setCall other now).calls call = .returned micros value)
      (silent : ∀ micros value, now ≠ .returned micros value) :
      state.calls call = .returned micros value := by
    rw [calls_setCall] at returned
    split at returned
    · exact absurd returned (silent micros value)
    · exact returned
  cases does with
  | beforeEpoch _ _ => exact .inl (unchanged returned nofun)
  | reads _ _ _ => exact .inl (unchanged returned nofun)
  | tries _ _ _ => exact .inl (unchanged returned nofun)
  | overflows _ _ _ => exact .inl (unchanged returned nofun)
  | exchanges _ =>
      have found := (calls_setCall _ _ _ _).symm.trans returned
      split at found
      next same =>
        cases found
        exact .inr ⟨same ▸ rfl, rfl, lt_now _ _, Nat.le_max_left _ _⟩
      next => exact .inl found

end NowCalls

def NowCall.micros : NowCall → Option Nat
  | .idle => none
  | .read micros => some micros
  | .trying micros _ => some micros
  | .returned micros _ => some micros
  | .panicked => none

/-- What the calls have returned, and what they have read from the clock. -/
structure Ordered (history : List NowStep) (state : NowCalls) : Prop where
  bounded : ∀ call micros value, state.calls call = .returned micros value →
    value ≤ state.last ∧ micros ≤ value
  distinct : ∀ call other micros micros' value, state.calls call = .returned micros value →
    state.calls other = .returned micros' value → call = other
  read : ∀ call time, .readClock call time ∈ history →
    state.calls call = .panicked ∨ (state.calls call).micros = some time.toNat

private theorem Ordered.start : Ordered [] .start where
  bounded := by simp [NowCalls.start]
  distinct := by simp [NowCalls.start]
  read := by simp

private theorem NowCalls.Does.micros (does : state.Does step after) :
    ∃ call now, (∀ other, after.calls other = if other = call then now else state.calls other) ∧
      ((∃ time, step = .readClock call time ∧ state.calls call = .idle ∧
          (now = .panicked ∨ now.micros = some time.toNat)) ∨
        ((∀ other time, step ≠ .readClock other time) ∧ state.calls call ≠ .panicked ∧
          (now = .panicked ∨ now.micros = (state.calls call).micros))) := by
  cases does with
  | beforeEpoch idle _ =>
      exact ⟨_, _, fun _ => calls_setCall _ _ _ _, .inl ⟨_, rfl, idle, .inl rfl⟩⟩
  | reads idle _ _ =>
      exact ⟨_, _, fun _ => calls_setCall _ _ _ _, .inl ⟨_, rfl, idle, .inr rfl⟩⟩
  | tries silent waiting _ =>
      refine ⟨_, _, fun _ => calls_setCall _ _ _ _, .inr ⟨silent, ?_⟩⟩
      rcases waiting with waiting | ⟨last, waiting⟩
      · rw [waiting]
        exact ⟨nofun, .inr rfl⟩
      · rw [waiting]
        exact ⟨nofun, .inr rfl⟩
  | overflows silent waiting _ =>
      refine ⟨_, _, fun _ => calls_setCall _ _ _ _, .inr ⟨silent, ?_, .inl rfl⟩⟩
      rw [waiting]
      exact nofun
  | exchanges waiting =>
      refine ⟨_, _, fun _ => calls_setCall _ _ _ _, .inr ⟨nofun, ?_⟩⟩
      rw [waiting]
      exact ⟨nofun, .inr rfl⟩

private theorem Ordered.read_step (ordered : Ordered history state) (does : state.Does step after)
    (call : Nat) (time : Int) (listed : .readClock call time ∈ history ++ [step]) :
    after.calls call = .panicked ∨ (after.calls call).micros = some time.toNat := by
  obtain ⟨other, now, calls, starts | ⟨silent, goesOn, kept⟩⟩ := does.micros
  · obtain ⟨read, rfl, idle, result⟩ := starts
    rw [calls]
    rcases List.mem_append.mp listed with inside | last
    · -- a call that has read the clock does not do so again
      have started := ordered.read call time inside
      split
      next same => simp [same, idle, NowCall.micros] at started
      next => exact started
    · obtain ⟨rfl, rfl⟩ := NowStep.readClock.inj (List.mem_singleton.mp last)
      rw [if_pos rfl]
      exact result
  · have inside : .readClock call time ∈ history := by
      rcases List.mem_append.mp listed with inside | last
      · exact inside
      · exact absurd (List.mem_singleton.mp last).symm (silent call time)
    have started := ordered.read call time inside
    rw [calls]
    split
    next same =>
      subst same
      rcases kept with panicked | kept
      · exact .inl panicked
      · rw [kept]
        exact .inr (started.resolve_left goesOn)
    next => exact started

private theorem Ordered.does (ordered : Ordered history state) (does : state.Does step after) :
    Ordered (history ++ [step]) after where
  bounded := by
    intro call micros value returned
    rcases does.returned returned with before | ⟨-, rfl, -, enough⟩
    · have bounded := ordered.bounded call micros value before
      exact ⟨Nat.le_trans bounded.1 does.last_le, bounded.2⟩
    · exact ⟨Nat.le_refl _, enough⟩
  distinct := by
    intro call other micros micros' value first second
    rcases does.returned first with before | ⟨exchange, rfl, greater, -⟩
    · rcases does.returned second with before' | ⟨-, rfl, greater, -⟩
      · exact ordered.distinct call other micros micros' value before before'
      · have bounded := (ordered.bounded call micros _ before).1
        omega
    · rcases does.returned second with before' | ⟨again, -, -, -⟩
      · have bounded := (ordered.bounded other micros' _ before').1
        omega
      · exact NowStep.exchange.inj (exchange.symm.trans again)
  read := ordered.read_step does

private theorem ordered_of_reaches (reached : nowCalls.Reaches history state) :
    Ordered history state := by
  apply reached.invariant_next Ordered Ordered.start
  intro history state step after stepped ordered
  exact ordered.does (NowCalls.does_of_next stepped)

/-- A call that had not returned at some point returns more than the last timestamp was then. -/
theorem lt_of_returned_later {before rest : List NowStep} {earlier : NowCalls}
    (reached : nowCalls.Reaches (before ++ rest) state) (passed : nowCalls.Reaches before earlier)
    {call micros value : Nat}
    (pending : ∀ micros value, earlier.calls call ≠ .returned micros value)
    (returned : state.calls call = .returned micros value) : earlier.last < value := by
  have held := reached.invariant_from passed
    (fun state => earlier.last ≤ state.last ∧ ∀ micros value,
      state.calls call = .returned micros value → earlier.last < value)
    ⟨Nat.le_refl _, fun micros value returned => absurd returned (pending micros value)⟩
  refine (held ?_).2 micros value returned
  intro history state step _ enabled ⟨grown, above⟩
  obtain ⟨after, stepped, same⟩ := Machine.exists_next_of_enabled enabled
  have does := NowCalls.does_of_next stepped
  have same : nowCalls.step state step = after := same
  rw [same]
  refine ⟨Nat.le_trans grown does.last_le, fun micros value returned => ?_⟩
  rcases does.returned returned with before | ⟨-, rfl, greater, -⟩
  · exact above micros value before
  · exact Nat.lt_of_le_of_lt grown greater

/-- Timestamps are strictly monotonic, for any number of threads and any clock: no two calls return
the same value, a call that starts after another has returned yields a greater one, and each
value is at least the clock reading of its call. -/
theorem now_monotonic {history : List NowStep} {state : NowCalls}
    (reached : nowCalls.Reaches history state) :
    (∀ call other micros micros' value value', call ≠ other →
      state.calls call = .returned micros value →
      state.calls other = .returned micros' value' → value ≠ value') ∧
    (∀ before rest earlier, history = before ++ rest → nowCalls.Reaches before earlier →
      ∀ call other micros micros' value value',
        earlier.calls call = .returned micros value → earlier.calls other = .idle →
        state.calls other = .returned micros' value' → value < value') ∧
    ∀ (call : Nat) (time : Int) (micros value : Nat), .readClock call time ∈ history →
      state.calls call = .returned micros value → time ≤ value := by
  have ordered := ordered_of_reaches reached
  refine ⟨?_, ?_, ?_⟩
  · rintro call other micros micros' value _ different first second rfl
    exact different (ordered.distinct call other micros micros' value first second)
  · rintro before rest earlier rfl passed call other micros micros' value value' first idle second
    have bounded := (ordered_of_reaches passed).bounded call micros value first
    have later := lt_of_returned_later reached passed (by simp [idle]) second
    omega
  · intro call time micros value read returned
    have bounded := (ordered.bounded call micros value returned).2
    rcases ordered.read call time read with panicked | same
    · rw [returned] at panicked
      cases panicked
    · rw [returned] at same
      have same : micros = time.toNat := Option.some.inj same
      omega

/-- Two calls of which the second one starts in between, with a clock that goes backwards. -/
def backwards : List NowStep :=
  [.readClock 0 5, .load 0 0, .readClock 1 3, .fail 0 0, .exchange 0, .load 1 0, .readClock 2 2,
    .fail 1 5, .exchange 1, .load 2 5, .fail 2 6, .exchange 2]

theorem now_monotonic_backwards :
    (nowCalls.runFrom .start backwards).calls 0 = .returned 5 5 ∧
      (nowCalls.runFrom .start backwards).calls 2 = .returned 2 7 ∧ (5 : Nat) ≠ 7 ∧
      (2 : Int) ≤ (7 : Nat) := by
  have reached : nowCalls.Reaches backwards (nowCalls.runFrom .start backwards) :=
    Machine.reaches_runFrom (by decide)
  have first : (nowCalls.runFrom .start backwards).calls 0 = .returned 5 5 := by decide
  have third : (nowCalls.runFrom .start backwards).calls 2 = .returned 2 7 := by decide
  obtain ⟨distinct, -, late⟩ := now_monotonic reached
  exact ⟨first, third, distinct 0 2 5 2 5 7 (by decide) first third,
    late 2 2 2 7 (by decide) third⟩

/-- The numbers of a run without overflow: clock readings are below 2^63, and each step raises the
last timestamp above that by one at most. -/
structure Bounded (history : List NowStep) (state : NowCalls) : Prop where
  last_lt : state.last < 2 ^ 63 + history.length
  readable_le : ∀ value, state.Readable value → value ≤ state.last
  micros_lt : ∀ call micros, (state.calls call).micros = some micros → micros < 2 ^ 63
  trying_le : ∀ call micros last, state.calls call = .trying micros last → last ≤ state.last
  panicked : ∀ call, state.calls call = .panicked →
    2 ^ 63 ≤ history.length ∨ ∃ time < 0, .readClock call time ∈ history

private theorem Bounded.start : Bounded [] .start where
  last_lt := by decide
  readable_le := by simp [NowCalls.Readable, NowCalls.start]
  micros_lt := by simp [NowCalls.start, NowCall.micros]
  trying_le := by simp [NowCalls.start]
  panicked := by simp [NowCalls.start]

private theorem Bounded.setCall (bounded : Bounded history state) {call : Nat} {now : NowCall}
    (micros_lt : ∀ micros, now.micros = some micros → micros < 2 ^ 63)
    (trying_le : ∀ micros last, now = .trying micros last → last ≤ state.last)
    (panicked : now = .panicked → 2 ^ 63 ≤ history.length ∨
      ∃ time < 0, step = .readClock call time) :
    Bounded (history ++ [step]) (state.setCall call now) where
  last_lt := by
    have before := bounded.last_lt
    rw [List.length_append, List.length_singleton]
    exact Nat.lt_succ_of_lt before
  readable_le := bounded.readable_le
  micros_lt := by
    intro other micros known
    rw [NowCalls.calls_setCall] at known
    split at known
    · exact micros_lt micros known
    · exact bounded.micros_lt other micros known
  trying_le := by
    intro other micros last waiting
    rw [NowCalls.calls_setCall] at waiting
    split at waiting
    · exact trying_le micros last waiting
    · exact bounded.trying_le other micros last waiting
  panicked := by
    intro other stopped
    rw [NowCalls.calls_setCall] at stopped
    rw [List.length_append, List.length_singleton]
    split at stopped
    next same =>
      rcases panicked stopped with long | ⟨time, early, rfl⟩
      · exact .inl (by omega)
      · exact .inr ⟨time, early, by simp [same]⟩
    next =>
      rcases bounded.panicked other stopped with long | ⟨time, early, read⟩
      · exact .inl (by omega)
      · exact .inr ⟨time, early, List.mem_append_left _ read⟩

private theorem Bounded.exchange (bounded : Bounded history state) {call micros : Nat}
    (waiting : state.calls call = .trying micros state.last) :
    Bounded (history ++ [.exchange call])
      { (state.setCall call (.returned micros (now state.last micros))) with
        last := now state.last micros
        earlier := state.last :: state.earlier } := by
  have grown := lt_now state.last micros
  have small : micros < 2 ^ 63 := bounded.micros_lt call micros (by rw [waiting]; rfl)
  have set : Bounded (history ++ [.exchange call])
      (state.setCall call (.returned micros (now state.last micros))) :=
    bounded.setCall (fun _ known => Option.some.inj known ▸ small) nofun nofun
  refine ⟨?_, ?_, set.micros_lt, ?_, set.panicked⟩
  · have before := bounded.last_lt
    rw [List.length_append, List.length_singleton]
    show max micros (state.last + 1) < _
    omega
  · rintro value (rfl | old)
    · exact Nat.le_refl _
    · have below := bounded.readable_le value (List.mem_cons.mp old)
      exact Nat.le_trans below (Nat.le_of_lt grown)
  · intro other micros last waiting
    exact Nat.le_trans (set.trying_le other micros last waiting) (Nat.le_of_lt grown)

private theorem Bounded.does (bounded : Bounded history state) (does : state.Does step after) :
    Bounded (history ++ [step]) after := by
  cases does with
  | beforeEpoch _ early => exact bounded.setCall nofun nofun fun _ => .inr ⟨_, early, rfl⟩
  | reads _ _ small =>
      refine bounded.setCall (fun micros known => ?_) nofun nofun
      have same := Option.some.inj known
      omega
  | @tries call micros value _ _ waiting readable =>
      refine bounded.setCall (fun _ known => ?_) (fun _ _ same => ?_) nofun
      · refine bounded.micros_lt call _ ?_
        rcases waiting with waiting | ⟨last, waiting⟩
        · rw [waiting]
          exact known
        · rw [waiting]
          exact known
      · cases same
        exact bounded.readable_le value readable
  | overflows _ waiting large =>
      refine bounded.setCall nofun nofun fun _ => .inl ?_
      have below := bounded.trying_le _ _ _ waiting
      have before := bounded.last_lt
      omega
  | exchanges waiting => exact bounded.exchange waiting

/-- In a run of fewer than 2^63 steps, a call panics only if the clock is before the epoch. -/
theorem before_epoch_of_panicked (reached : nowCalls.Reaches history state)
    (short : history.length < 2 ^ 63) {call : Nat} (panicked : state.calls call = .panicked) :
    ∃ time < 0, .readClock call time ∈ history := by
  have bounded : Bounded history state := by
    apply reached.invariant_next Bounded Bounded.start
    intro history state step after stepped bounded
    exact bounded.does (NowCalls.does_of_next stepped)
  exact (bounded.panicked call panicked).resolve_left (Nat.not_le.mpr short)

theorem before_epoch_panicked : ∃ time < 0, .readClock 3 time ∈ [NowStep.readClock 3 (-1)] :=
  have reached : nowCalls.Reaches [.readClock 3 (-1)] _ := Machine.reaches_runFrom (by decide)
  before_epoch_of_panicked reached (by decide) (by decide)

end NexalinkTunnel.Dns.Pkarr.Timestamp
