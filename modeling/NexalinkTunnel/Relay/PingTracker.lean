import NexalinkTunnel.Lib.Bytes
import NexalinkTunnel.Lib.MachineNumbers
import NexalinkTunnel.Lib.Outcome
import NexalinkTunnel.Lib.Transition

/-!
Contract: the pings of one relay connection.

Owns `PingTracker` with all of its operations, and what a run of them at any times
remembers: the ping that is outstanding and the round-trip time of the last answer.

Does not own: the random payloads, which are given with each ping and may repeat, and
the timer. A `timeout` that is dropped changes nothing. One that completes does so at
its deadline or later.

## The clamp

Once a round-trip time is known, the timeout is clamped between half a second and the
maximum. A tracker may be created with a maximum below half a second, and then the
bounds of the clamp are in the wrong order, which is a panic.

Times and durations are in nanoseconds.
-/

namespace NexalinkTunnel.Relay

open Lib

def defaultPingTimeout : Nat := 5000000000

def minHealthCheckTimeout : Nat := 500000000

abbrev PingData := List.Vector UInt8 8

structure PingInner where
  data : PingData
  deadline : Nat
  sentAt : Nat

structure PingTracker where
  inner : Option PingInner
  maxTimeout : Nat
  lastRtt : Option Nat

/-- The product of a `Duration`, which panics if it is none. -/
def durationMul (duration factor : Nat) : Outcome Empty Nat :=
  if duration * factor ≤ durationMax then .ok (duration * factor) else .panicked

/-- `Ord::clamp`, which asserts that the bounds are in order. -/
def clamp (value low high : Nat) : Outcome Empty Nat :=
  if low ≤ high then .ok (if value < low then low else if high < value then high else value)
  else .panicked

namespace PingTracker

def new (maxTimeout : Nat) : PingTracker := ⟨none, maxTimeout, none⟩

def default : PingTracker := new defaultPingTimeout

def pingTimeout (tracker : PingTracker) : Outcome Empty Nat :=
  match tracker.lastRtt with
  | some rtt => do
      let timeout ← durationMul rtt 3
      clamp timeout minHealthCheckTimeout tracker.maxTimeout
  | none => .ok tracker.maxTimeout

/-- The sum of an `Instant` and a `Duration` panics if it is no `Instant`. -/
def newPingWithTimeout (tracker : PingTracker) (timeout now : Nat) (data : PingData) :
    Outcome Empty PingTracker :=
  if now + timeout ≤ instantMax then
    .ok { tracker with inner := some ⟨data, now + timeout, now⟩ }
  else .panicked

def newPing (tracker : PingTracker) (now : Nat) (data : PingData) : Outcome Empty PingTracker := do
  let timeout ← tracker.pingTimeout
  tracker.newPingWithTimeout timeout now data

def pongReceived (tracker : PingTracker) (now : Nat) (data : PingData) : PingTracker :=
  match tracker.inner with
  | some inner =>
      if inner.data = data then
        { tracker with inner := none, lastRtt := some (now - inner.sentAt) }
      else tracker
  | none => tracker

/-- `timeout`, if it completes at the given time. Without a ping it never does. -/
def timeout (tracker : PingTracker) (now : Nat) : Option PingTracker :=
  match tracker.inner with
  | some inner => if inner.deadline ≤ now then some { tracker with inner := none } else none
  | none => none

end PingTracker

inductive PingOp where
  | newPing (data : PingData)
  | newPingWithTimeout (timeout : Nat) (data : PingData)
  | pongReceived (data : PingData)
  /-- A `timeout` that completes, or one that is dropped before. -/
  | timeout (completes : Bool)

structure PingCall where
  now : Nat
  op : PingOp

def PingTracker.next (tracker : PingTracker) (call : PingCall) : Option PingTracker :=
  match call.op with
  | .newPing data => (tracker.newPing call.now data).toOption
  | .newPingWithTimeout timeout data =>
      (tracker.newPingWithTimeout timeout call.now data).toOption
  | .pongReceived data => some (tracker.pongReceived call.now data)
  | .timeout true => tracker.timeout call.now
  | .timeout false => some tracker

/-- Times do not decrease, and stay below 2^60 ns. -/
def Timely (history : List PingCall) (_ : PingTracker) (call : PingCall) : Prop :=
  (∀ earlier ∈ history, earlier.now ≤ call.now) ∧ call.now < 2 ^ 60
deriving Decidable

abbrev pingCalls (maxTimeout : Nat) : Machine PingTracker PingCall :=
  (Machine.ofNext (.new maxTimeout) PingTracker.next).restrict Timely

def trackerAfter (maxTimeout : Nat) (history : List PingCall) : PingTracker :=
  (pingCalls maxTimeout).runFrom (.new maxTimeout) history

def PingTracker.sends (tracker : PingTracker) (call : PingCall) : Option PingInner :=
  match call.op with
  | .newPing data =>
      tracker.pingTimeout.toOption.map fun timeout => ⟨data, call.now + timeout, call.now⟩
  | .newPingWithTimeout timeout data => some ⟨data, call.now + timeout, call.now⟩
  | _ => none

/-- The call sends another ping, has the answer to this one, or is a timeout that completes. -/
def PingCall.Ends (call : PingCall) (data : PingData) : Prop :=
  match call.op with
  | .newPing _ => True
  | .newPingWithTimeout _ _ => True
  | .pongReceived answer => answer = data
  | .timeout completes => completes = true

/-- The ping that was sent after `index` calls is the last one that was sent, and since then it was
neither answered nor has it timed out. -/
def Outstanding (maxTimeout : Nat) (history : List PingCall) (index : Nat) (ping : PingInner) :
    Prop :=
  Since
    (fun before call =>
      before.length = index ∧ (trackerAfter maxTimeout before).sends call = some ping)
    (fun _ call => call.Ends ping.data) history

/-- At `place` in the history, a timeout completes for the ping that was sent after `index`
calls. -/
def TimesOut (maxTimeout : Nat) (history : List PingCall) (place index : Nat) : Prop :=
  ∃ call ping, history[place]? = some call ∧ call.op = .timeout true ∧
    Outstanding maxTimeout (history.take place) index ping ∧ ping.deadline ≤ call.now

def Answered (maxTimeout : Nat) (history : List PingCall) : Prop :=
  Since
    (fun before call => ∃ index ping, Outstanding maxTimeout before index ping ∧
      call.op = .pongReceived ping.data)
    (fun _ _ => False) history

variable {maxTimeout : Nat} {history : List PingCall} {tracker after : PingTracker}
  {call : PingCall}

theorem outstanding_append {index : Nat} {ping : PingInner} :
    Outstanding maxTimeout (history ++ [call]) index ping ↔
      (history.length = index ∧ (trackerAfter maxTimeout history).sends call = some ping) ∨
        (Outstanding maxTimeout history index ping ∧ ¬ call.Ends ping.data) :=
  since_append_singleton

theorem answered_append :
    Answered maxTimeout (history ++ [call]) ↔
      (∃ index ping, Outstanding maxTimeout history index ping ∧
        call.op = .pongReceived ping.data) ∨ Answered maxTimeout history := by
  rw [Answered, since_append_singleton, not_false_eq_true, and_true]
  rfl

/-- What a call that does not panic does. -/
theorem PingTracker.next_cases (stepped : tracker.next call = some after) :
    (∃ ping, tracker.sends call = some ping ∧ (∀ data, call.Ends data) ∧
      after = { tracker with inner := some ping }) ∨
    (∃ data, call.op = .pongReceived data ∧ after = tracker.pongReceived call.now data) ∨
    (∃ ping, call.op = .timeout true ∧ tracker.inner = some ping ∧ ping.deadline ≤ call.now ∧
      after = { tracker with inner := none }) ∨
    (call.op = .timeout false ∧ after = tracker) := by
  obtain ⟨now, op⟩ := call
  cases op with
  | newPing data =>
      obtain ⟨timeout, asked, sent⟩ := Outcome.bind_eq_ok.mp (Outcome.toOption_eq_some.mp stepped)
      refine .inl ⟨⟨data, now + timeout, now⟩, ?_, fun _ => trivial, ?_⟩
      · simp only [sends, asked, Outcome.toOption, Option.map_some]
      · unfold newPingWithTimeout at sent
        split at sent <;> cases sent
        rfl
  | newPingWithTimeout timeout data =>
      have sent := Outcome.toOption_eq_some.mp stepped
      refine .inl ⟨⟨data, now + timeout, now⟩, rfl, fun _ => trivial, ?_⟩
      unfold newPingWithTimeout at sent
      split at sent <;> cases sent
      rfl
  | pongReceived data => exact .inr (.inl ⟨data, rfl, (Option.some.inj stepped).symm⟩)
  | timeout completes =>
      cases completes with
      | false => exact .inr (.inr (.inr ⟨rfl, (Option.some.inj stepped).symm⟩))
      | true =>
          have completed : tracker.timeout now = some after := stepped
          unfold timeout at completed
          split at completed
          next ping found =>
            split at completed <;> cases completed
            next due => exact .inr (.inr (.inl ⟨ping, rfl, found, due, rfl⟩))
          next => cases completed

/-- The tracker holds the outstanding ping, and a round-trip time if a ping was answered. -/
structure Remembers (maxTimeout : Nat) (history : List PingCall) (tracker : PingTracker) :
    Prop where
  maximum : tracker.maxTimeout = maxTimeout
  outstanding : ∃ current : Option (Nat × PingInner), tracker.inner = current.map Prod.snd ∧
    ∀ index ping, Outstanding maxTimeout history index ping ↔ current = some (index, ping)
  answered : tracker.lastRtt.isSome ↔ Answered maxTimeout history
  bounded : ∀ rtt ∈ tracker.lastRtt, rtt < 2 ^ 60

namespace Remembers

private theorem new (maxTimeout : Nat) : Remembers maxTimeout [] (.new maxTimeout) where
  maximum := rfl
  outstanding := ⟨none, rfl, fun _ _ => by simp [Outstanding]⟩
  answered := by simp [PingTracker.new, Answered]
  bounded := by simp [PingTracker.new]

private theorem send (remembers : Remembers maxTimeout history tracker)
    (same : trackerAfter maxTimeout history = tracker) {ping : PingInner}
    (sent : tracker.sends call = some ping) (ends : ∀ data, call.Ends data) :
    Remembers maxTimeout (history ++ [call]) { tracker with inner := some ping } where
  maximum := remembers.maximum
  outstanding := by
    refine ⟨some (history.length, ping), rfl, fun index other => ?_⟩
    rw [outstanding_append, same, sent]
    simp [ends]
  answered := by
    rw [answered_append]
    refine remembers.answered.trans (or_iff_right ?_).symm
    rintro ⟨_, other, -, pong⟩
    simp [PingTracker.sends, pong] at sent
  bounded := remembers.bounded

private theorem keep (remembers : Remembers maxTimeout history tracker)
    (silent : (trackerAfter maxTimeout history).sends call = none)
    (goesOn : ∀ index ping, Outstanding maxTimeout history index ping → ¬ call.Ends ping.data)
    (unanswered : ∀ index ping, Outstanding maxTimeout history index ping →
      call.op ≠ .pongReceived ping.data) :
    Remembers maxTimeout (history ++ [call]) tracker where
  maximum := remembers.maximum
  outstanding := by
    obtain ⟨current, held, only⟩ := remembers.outstanding
    refine ⟨current, held, fun index ping => ?_⟩
    rw [outstanding_append, silent, ← only]
    simp only [reduceCtorEq, and_false, false_or]
    exact and_iff_left_of_imp (goesOn index ping)
  answered := by
    rw [answered_append]
    refine remembers.answered.trans (or_iff_right ?_).symm
    rintro ⟨index, ping, outstanding, pong⟩
    exact unanswered index ping outstanding pong
  bounded := remembers.bounded

private theorem outstanding_of_ends (silent : (trackerAfter maxTimeout history).sends call = none)
    (ends : ∀ index ping, Outstanding maxTimeout history index ping → call.Ends ping.data)
    (index : Nat) (ping : PingInner) :
    ¬ Outstanding maxTimeout (history ++ [call]) index ping := by
  rw [outstanding_append, silent]
  simp only [reduceCtorEq, and_false, false_or]
  rintro ⟨outstanding, goesOn⟩
  exact goesOn (ends index ping outstanding)

private theorem timeOut (remembers : Remembers maxTimeout history tracker)
    (completes : call.op = .timeout true) :
    Remembers maxTimeout (history ++ [call]) { tracker with inner := none } where
  maximum := remembers.maximum
  outstanding := by
    refine ⟨none, rfl, fun index ping => iff_of_false ?_ (by simp)⟩
    apply outstanding_of_ends
    · simp [PingTracker.sends, completes]
    · simp [PingCall.Ends, completes]
  answered := by
    rw [answered_append]
    refine remembers.answered.trans (or_iff_right ?_).symm
    rintro ⟨_, ping, -, pong⟩
    simp [completes] at pong
  bounded := remembers.bounded

private theorem pong (remembers : Remembers maxTimeout history tracker) {data : PingData}
    (received : call.op = .pongReceived data) (early : call.now < 2 ^ 60) :
    Remembers maxTimeout (history ++ [call]) (tracker.pongReceived call.now data) := by
  have silent : (trackerAfter maxTimeout history).sends call = none := by
    simp [PingTracker.sends, received]
  obtain ⟨current, held, only⟩ := remembers.outstanding
  -- a pong for no ping, or for another one, ends nothing
  have other (kept : ∀ index ping, current = some (index, ping) → ping.data ≠ data) :
      Remembers maxTimeout (history ++ [call]) tracker := by
    apply remembers.keep silent
    · intro index ping outstanding
      rw [PingCall.Ends, received]
      exact (kept index ping ((only index ping).mp outstanding)).symm
    · intro index ping outstanding same
      rw [received, PingOp.pongReceived.injEq] at same
      exact kept index ping ((only index ping).mp outstanding) same.symm
  cases current with
  | none =>
      rw [PingTracker.pongReceived, held]
      exact other (by simp)
  | some current =>
      obtain ⟨index, ping⟩ := current
      rw [PingTracker.pongReceived, held]
      simp only [Option.map_some]
      split
      next same =>
        have outstanding := (only index ping).mpr rfl
        refine ⟨remembers.maximum, ⟨none, rfl, fun _ _ => iff_of_false ?_ (by simp)⟩, ?_, ?_⟩
        · apply outstanding_of_ends silent
          intro _ _ found
          cases (only _ _).mp found
          rw [PingCall.Ends, received]
          exact same.symm
        · refine iff_of_true rfl (answered_append.mpr (.inl ⟨index, ping, outstanding, ?_⟩))
          rw [received, same]
        · intro rtt known
          cases known
          omega
      next different =>
        apply other
        rintro _ _ ⟨⟩
        exact different

theorem of_reaches (reached : (pingCalls maxTimeout).Reaches history tracker) :
    Remembers maxTimeout history tracker := by
  apply reached.invariant fun history tracker => Remembers maxTimeout history tracker
  · exact new maxTimeout
  · intro history tracker call before enabled remembers
    have same : trackerAfter maxTimeout history = tracker := before.eq_runFrom.symm
    obtain ⟨after, stepped, next⟩ := Machine.exists_next_of_enabled enabled.1
    have next : (pingCalls maxTimeout).step tracker call = after := next
    rw [next]
    obtain ⟨ping, sent, ends, rfl⟩ | ⟨data, received, rfl⟩ | ⟨ping, completes, -, -, rfl⟩ |
      ⟨dropped, rfl⟩ := PingTracker.next_cases stepped
    · exact remembers.send same sent ends
    · exact remembers.pong received enabled.2.2
    · exact remembers.timeOut completes
    · apply remembers.keep
      · simp [PingTracker.sends, dropped]
      · simp [PingCall.Ends, dropped]
      · simp [dropped]

end Remembers

structure Precise (maxTimeout : Nat) (history : List PingCall) (tracker : PingTracker) : Prop where
  /-- The timeout of the next ping is defined, and at most the maximum. -/
  defined : ∃ timeout, tracker.pingTimeout = .ok timeout ∧ timeout ≤ maxTimeout
  /-- A pong with the payload of the outstanding ping clears it and sets the round-trip time. -/
  answers : ∀ now index ping, Outstanding maxTimeout history index ping →
    tracker.inner = some ping ∧ tracker.pongReceived now ping.data =
      { tracker with inner := none, lastRtt := some (now - ping.sentAt) }
  /-- Any other pong changes nothing. -/
  ignores : ∀ now data, (∀ index ping, Outstanding maxTimeout history index ping →
    ping.data ≠ data) → tracker.pongReceived now data = tracker
  /-- A timeout completes only for the outstanding ping, and not before its deadline. -/
  completes : ∀ place call, history[place]? = some call → call.op = .timeout true →
    ∃ index, TimesOut maxTimeout history place index
  /-- It does so at most once per ping. -/
  once : ∀ index place other, TimesOut maxTimeout history place index →
    TimesOut maxTimeout history other index → place = other

private theorem clamp_ok_iff {value low high : Nat} :
    (∃ result, clamp value low high = .ok result ∧ result ≤ high) ↔ low ≤ high := by
  unfold clamp
  split
  next ordered =>
    refine iff_of_true ⟨_, rfl, ?_⟩ ordered
    split
    · exact ordered
    · split
      · exact le_rfl
      · omega
  next wrong => simp [wrong]

private theorem Remembers.pingTimeout_ok_iff (remembers : Remembers maxTimeout history tracker) :
    (∃ timeout, tracker.pingTimeout = .ok timeout ∧ timeout ≤ maxTimeout) ↔
      minHealthCheckTimeout ≤ maxTimeout ∨ ¬ Answered maxTimeout history := by
  rw [← remembers.answered]
  unfold PingTracker.pingTimeout
  cases measured : tracker.lastRtt with
  | none => exact iff_of_true ⟨_, rfl, remembers.maximum.le⟩ (.inr (by simp))
  | some rtt =>
      have small : rtt * 3 ≤ durationMax := by
        have bounded := remembers.bounded rtt measured
        rw [durationMax]
        omega
      simp only [durationMul, if_pos small, Outcome.ok_bind, remembers.maximum, clamp_ok_iff,
        Option.isSome_some, not_true_eq_false, or_false]

private theorem Outstanding.lt_length {index : Nat} {ping : PingInner}
    (outstanding : Outstanding maxTimeout history index ping) : index < history.length := by
  obtain ⟨before, call, rest, rfl, ⟨rfl, -⟩, -⟩ := outstanding
  simp

private theorem Outstanding.not_ends {index place : Nat} {ping : PingInner}
    (outstanding : Outstanding maxTimeout history index ping) (later : index < place)
    (found : history[place]? = some call) : ¬ call.Ends ping.data := by
  obtain ⟨before, sent, rest, rfl, ⟨rfl, -⟩, goesOn⟩ := outstanding
  have inside : rest[place - before.length - 1]? = some call := by
    rw [← found, List.getElem?_append_right (by omega), List.getElem?_cons,
      if_neg (by omega)]
  obtain ⟨front, back, split⟩ := List.append_of_mem (List.mem_of_getElem? inside)
  exact goesOn front call back split

private theorem TimesOut.not_lt {index place other : Nat}
    (first : TimesOut maxTimeout history place index)
    (second : TimesOut maxTimeout history other index) : ¬ place < other := by
  intro earlier
  obtain ⟨call, ping, found, completes, outstanding, -⟩ := first
  obtain ⟨-, again, -, -, stillOutstanding, -⟩ := second
  have sent : index < place := by
    have inside := outstanding.lt_length
    rw [List.length_take] at inside
    omega
  have kept : (history.take other)[place]? = some call := by
    rw [List.getElem?_take_of_lt earlier, found]
  have ends : call.Ends again.data := by
    rw [PingCall.Ends, completes]
  exact stillOutstanding.not_ends sent kept ends

private theorem timesOut_of_completes (reached : (pingCalls maxTimeout).Reaches history tracker)
    {place : Nat} (found : history[place]? = some call) (completes : call.op = .timeout true) :
    ∃ index, TimesOut maxTimeout history place index := by
  have split : history = history.take place ++ call :: history.drop (place + 1) := by
    obtain ⟨inside, rfl⟩ := List.getElem?_eq_some_iff.mp found
    rw [← List.drop_eq_getElem_cons inside, List.take_append_drop]
  obtain ⟨earlier, before, enabled⟩ := reached.enabled_at split
  obtain ⟨after, stepped, -⟩ := Machine.exists_next_of_enabled enabled.1
  obtain ⟨current, held, only⟩ := (Remembers.of_reaches before).outstanding
  obtain ⟨ping, sent, -⟩ | ⟨data, received, -⟩ | ⟨ping, -, waiting, due, -⟩ | ⟨dropped, -⟩ :=
    PingTracker.next_cases stepped
  · simp [PingTracker.sends, completes] at sent
  · simp [completes] at received
  · rw [held, Option.map_eq_some_iff] at waiting
    obtain ⟨⟨index, _⟩, same, rfl⟩ := waiting
    exact ⟨index, call, _, found, completes, (only index _).mpr same, due⟩
  · simp [completes] at dropped

/-- After every run of operations at non-decreasing times, everything that is promised of a tracker
holds exactly if its maximum timeout is at least half a second or no ping has been answered. -/
theorem PingTracker.precise_iff {maxTimeout : Nat} {history : List PingCall} {tracker : PingTracker}
    (reached : (pingCalls maxTimeout).Reaches history tracker) :
    Precise maxTimeout history tracker ↔
      minHealthCheckTimeout ≤ maxTimeout ∨ ¬ Answered maxTimeout history := by
  have remembers := Remembers.of_reaches reached
  refine ⟨fun precise => remembers.pingTimeout_ok_iff.mp precise.defined, fun either => ?_⟩
  obtain ⟨current, held, only⟩ := remembers.outstanding
  refine ⟨remembers.pingTimeout_ok_iff.mpr either, ?_, ?_, ?_, ?_⟩
  · intro now index ping outstanding
    have inner : tracker.inner = some ping := by
      rw [held, (only index ping).mp outstanding, Option.map_some]
    exact ⟨inner, by simp only [pongReceived, inner, if_true]⟩
  · intro now data other
    unfold pongReceived
    split
    next ping inner =>
      rw [held, Option.map_eq_some_iff] at inner
      obtain ⟨⟨index, _⟩, same, rfl⟩ := inner
      exact if_neg (other index _ ((only index _).mpr same))
    next => rfl
  · intro place call found completes
    exact timesOut_of_completes reached found completes
  · intro index place other first second
    have notBefore := first.not_lt second
    have notAfter := second.not_lt first
    omega

def smallPing (number : UInt8) : PingData := ⟨number :: List.replicate 7 0, rfl⟩

/-- A ping that is answered after ten milliseconds, and one that times out. -/
def answeredThenLost : List PingCall :=
  [⟨0, .newPing (smallPing 1)⟩, ⟨10000000, .pongReceived (smallPing 1)⟩,
    ⟨10000000, .newPing (smallPing 2)⟩, ⟨600000000, .timeout true⟩]

theorem PingTracker.precise_default :
    (trackerAfter defaultPingTimeout answeredThenLost).lastRtt = some 10000000 ∧
      Precise defaultPingTimeout answeredThenLost
        (trackerAfter defaultPingTimeout answeredThenLost) :=
  ⟨by decide, (precise_iff (Machine.reaches_runFrom (by decide))).mpr (.inl (by decide))⟩

/-- With a maximum of 100 ms, the first answer makes the next timeout panic. -/
theorem PingTracker.pingTimeout_panics :
    (pingCalls 100000000).Reaches (answeredThenLost.take 2)
        (trackerAfter 100000000 (answeredThenLost.take 2)) ∧
      (trackerAfter 100000000 (answeredThenLost.take 2)).pingTimeout = .panicked :=
  ⟨Machine.reaches_runFrom (by decide), by decide⟩

end NexalinkTunnel.Relay
