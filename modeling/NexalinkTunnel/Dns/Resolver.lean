import Mathlib.Logic.Function.Basic
import NexalinkTunnel.Lib.Transition

/-!
Contract: DNS operations that run while the resolver under them is replaced.

Owns `Inner::op` and `Inner::reset` as the steps between which other calls may run, and
that an operation on a replaced resolver is woken.

Does not own: what a resolver does, the timeout of an attempt, which may end it at any
time, and `clear_cache`, which changes neither the resolver nor its notifications.

## Two calls that reset at once

Every call that resets builds a resolver of its own, but only the first one puts it in
place and notifies. An operation may have loaded the old resolver before the swap, or
the new one after it; its notification was enabled before either.
-/

namespace NexalinkTunnel.Dns

open Lib

/-! ## Notifications and shared pointers -/

/-- `tokio::sync::Notify`, by the number of calls of `notify_waiters`. -/
structure Notify where
  calls : Nat

structure Notified where
  since : Nat

def Notify.enable (notify : Notify) : Notified := ⟨notify.calls⟩

def Notify.notifyWaiters (notify : Notify) : Notify := ⟨notify.calls + 1⟩

def Notified.Ready (notified : Notified) (notify : Notify) : Prop := notified.since < notify.calls
deriving Decidable

abbrev CallId := Nat

/-- A shared pointer. Who holds one keeps its allocation alive, so allocations are told
apart by the call that made them; the first resolver is of no call. -/
structure Arc (Resolver : Type) where
  allocation : Option CallId
  value : Resolver

variable {Resolver : Type}

def Arc.PtrEq (left right : Arc Resolver) : Prop := left.allocation = right.allocation
deriving Decidable

inductive Op (Resolver : Type) where
  | idle
  | enabled (notified : Notified)
  | waiting (notified : Notified) (resolver : Arc Resolver)

def Op.notified : Op Resolver → Option Notified
  | .idle => none
  | .enabled notified | .waiting notified _ => some notified

/-- Where a call of `reset` is. A call that is done has swapped out a resolver and
notified, or has lost the race. -/
inductive Reset (Resolver : Type) where
  | idle
  | loaded (current : Arc Resolver)
  | built (current new : Arc Resolver)
  | swapped (old : Arc Resolver)
  | done (old : Option (Arc Resolver))

def Reset.replaced : Reset Resolver → Option (Arc Resolver)
  | .swapped old => some old
  | .done old => old
  | .idle | .loaded _ | .built _ _ => none

structure Inner (Resolver : Type) where
  notifyReset : Notify
  resolver : Arc Resolver
  ops : Nat → Op Resolver
  resets : CallId → Reset Resolver

inductive InnerStep where
  /-- The loop of `op` begins anew, with a notification of its own. -/
  | enable (op : Nat)
  | loadFull (op : Nat)
  /-- The lookup is done, the time is up, or the future is dropped. -/
  | finish (op : Nat)
  | load (call : CallId)
  | build (call : CallId)
  | compareAndSwap (call : CallId)
  | notifyWaiters (call : CallId)

namespace Inner

def new (resolver : Resolver) : Inner Resolver where
  notifyReset := ⟨0⟩
  resolver := ⟨none, resolver⟩
  ops := fun _ => .idle
  resets := fun _ => .idle

def setOp (inner : Inner Resolver) (id : Nat) (op : Op Resolver) : Inner Resolver :=
  { inner with ops := Function.update inner.ops id op }

def setReset (inner : Inner Resolver) (call : CallId) (reset : Reset Resolver) : Inner Resolver :=
  { inner with resets := Function.update inner.resets call reset }

/-- One step of one call. `reset` is what the resolvers build on a reset. -/
def next (reset : Resolver → Resolver) (inner : Inner Resolver) :
    InnerStep → Option (Inner Resolver)
  | .enable id =>
      match inner.ops id with
      | .idle => some (inner.setOp id (.enabled inner.notifyReset.enable))
      | .waiting notified _ =>
          if notified.Ready inner.notifyReset then
            some (inner.setOp id (.enabled inner.notifyReset.enable))
          else none
      | .enabled _ => none
  | .loadFull id =>
      match inner.ops id with
      | .enabled notified => some (inner.setOp id (.waiting notified inner.resolver))
      | _ => none
  | .finish id => some (inner.setOp id .idle)
  | .load call =>
      match inner.resets call with
      | .idle => some (inner.setReset call (.loaded inner.resolver))
      | _ => none
  | .build call =>
      match inner.resets call with
      | .loaded current =>
          some (inner.setReset call (.built current ⟨some call, reset current.value⟩))
      | _ => none
  | .compareAndSwap call =>
      match inner.resets call with
      | .built current new =>
          if current.PtrEq inner.resolver then
            some ({ inner with resolver := new }.setReset call (.swapped current))
          else some (inner.setReset call (.done none))
      | _ => none
  | .notifyWaiters call =>
      match inner.resets call with
      | .swapped old =>
          some ({ inner with notifyReset := inner.notifyReset.notifyWaiters }.setReset call
            (.done (some old)))
      | _ => none

abbrev machine (reset : Resolver → Resolver) (resolver : Resolver) :
    Machine (Inner Resolver) InnerStep :=
  .ofNext (new resolver) (next reset)

/-! ## Resolvers that were replaced -/

def Replaces (inner : Inner Resolver) (call : CallId) (resolver : Arc Resolver) : Prop :=
  ∃ old, (inner.resets call).replaced = some old ∧ old.PtrEq resolver

/-- If a call has built the resolver, it has put it in place. -/
def Placed (inner : Inner Resolver) (resolver : Arc Resolver) : Prop :=
  ∀ call, resolver.allocation = some call → (inner.resets call).replaced ≠ none

structure Sound (inner : Inner Resolver) : Prop where
  /-- No notification was enabled after the last call of `notify_waiters`. -/
  since : ∀ op notified, (inner.ops op).notified = some notified →
    notified.since ≤ inner.notifyReset.calls
  /-- An operation waits on the resolver in place or on one that was swapped out. -/
  held : ∀ op notified resolver, inner.ops op = .waiting notified resolver →
    resolver.PtrEq inner.resolver ∨ ∃ call, inner.Replaces call resolver
  woken : ∀ op notified resolver call old, inner.ops op = .waiting notified resolver →
    inner.resets call = .done (some old) → old.PtrEq resolver → notified.Ready inner.notifyReset
  /-- A resolver that was swapped out does not come back. -/
  gone : ∀ call old, (inner.resets call).replaced = some old → ¬ old.PtrEq inner.resolver
  placed : inner.Placed inner.resolver
  placedBefore : ∀ call old, (inner.resets call).replaced = some old → inner.Placed old
  built : ∀ call current new, inner.resets call = .built current new →
    new.allocation = some call

variable {inner after : Inner Resolver} {id : Nat} {call : CallId}

@[simp] theorem ops_setOp (op : Op Resolver) (other : Nat) :
    (inner.setOp id op).ops other = if other = id then op else inner.ops other :=
  Function.update_apply ..

@[simp] theorem resets_setReset (reset : Reset Resolver) (other : CallId) :
    (inner.setReset call reset).resets other =
      if other = call then reset else inner.resets other :=
  Function.update_apply ..

private theorem sound_new (resolver : Resolver) : (new resolver).Sound where
  since := by simp [new, Op.notified]
  held := by simp [new]
  woken := by simp [new]
  gone := by simp [new, Reset.replaced]
  placed := by simp [new, Placed]
  placedBefore := by simp [new, Reset.replaced]
  built := by simp [new]

private theorem Sound.setOp (sound : inner.Sound) {op : Op Resolver}
    (since : ∀ notified, op.notified = some notified →
      notified.since ≤ inner.notifyReset.calls)
    (held : ∀ notified resolver, op = .waiting notified resolver →
      resolver = inner.resolver) :
    (inner.setOp id op).Sound where
  since := by
    intro other notified found
    rw [ops_setOp] at found
    split at found
    next => exact since notified found
    next => exact sound.since other notified found
  held := by
    intro other notified resolver waits
    rw [ops_setOp] at waits
    split at waits
    next =>
      left
      rw [held notified resolver waits]
      rfl
    next => exact sound.held other notified resolver waits
  woken := by
    intro other notified resolver call old waits done same
    rw [ops_setOp] at waits
    split at waits
    next =>
      -- what is in place now was not swapped out before
      rw [held notified resolver waits] at same
      have replaced : (inner.resets call).replaced = some old := by
        rw [show inner.resets call = .done (some old) from done, Reset.replaced]
      exact absurd same (sound.gone call old replaced)
    next => exact sound.woken other notified resolver call old waits done same
  gone := sound.gone
  placed := sound.placed
  placedBefore := sound.placedBefore
  built := sound.built

private theorem replaced_setReset {reset : Reset Resolver}
    (same : reset.replaced = (inner.resets call).replaced) (other : CallId) :
    ((inner.setReset call reset).resets other).replaced = (inner.resets other).replaced := by
  rw [resets_setReset]
  split
  next own => rw [own, same]
  next => rfl

private theorem Sound.built_setReset (sound : inner.Sound) {reset : Reset Resolver}
    (own : ∀ current new, reset = .built current new → new.allocation = some call)
    (other : CallId) (current new : Arc Resolver)
    (found : (inner.setReset call reset).resets other = .built current new) :
    new.allocation = some other := by
  rw [resets_setReset] at found
  split at found
  next same => rw [own current new found, same]
  next => exact sound.built other current new found

private theorem Sound.woken_setReset (sound : inner.Sound) {reset : Reset Resolver}
    (quiet : ∀ old, reset ≠ .done (some old)) (op : Nat) (notified : Notified)
    (resolver : Arc Resolver) (other : CallId) (old : Arc Resolver)
    (waits : inner.ops op = .waiting notified resolver)
    (done : (inner.setReset call reset).resets other = .done (some old))
    (same : old.PtrEq resolver) : notified.Ready inner.notifyReset := by
  rw [resets_setReset] at done
  split at done
  next => exact absurd done (quiet old)
  next => exact sound.woken op notified resolver other old waits done same

private theorem Sound.setReset (sound : inner.Sound) {reset : Reset Resolver}
    (same : reset.replaced = (inner.resets call).replaced)
    (quiet : ∀ old, reset ≠ .done (some old))
    (built : ∀ current new, reset = .built current new → new.allocation = some call) :
    (inner.setReset call reset).Sound where
  since := sound.since
  held := by
    intro op notified resolver waits
    apply (sound.held op notified resolver waits).imp_right
    rintro ⟨other, old, replaced, pointer⟩
    exact ⟨other, old, (replaced_setReset same other).trans replaced, pointer⟩
  woken := sound.woken_setReset quiet
  gone := by
    intro other old replaced
    rw [replaced_setReset same] at replaced
    exact sound.gone other old replaced
  placed := by
    intro other allocated
    rw [replaced_setReset same]
    exact sound.placed other allocated
  placedBefore := by
    intro other old replaced maker allocated
    rw [replaced_setReset same] at replaced ⊢
    exact sound.placedBefore other old replaced maker allocated
  built := sound.built_setReset built

/-! ## The steps of a call of `op` -/

private theorem Sound.enable (sound : inner.Sound) :
    (inner.setOp id (.enabled inner.notifyReset.enable)).Sound := by
  apply sound.setOp
  · intro notified same
    cases same
    exact Nat.le_refl _
  · intro notified resolver waits
    cases waits

private theorem Sound.loadFull (sound : inner.Sound) {notified : Notified}
    (found : inner.ops id = .enabled notified) :
    (inner.setOp id (.waiting notified inner.resolver)).Sound := by
  apply sound.setOp
  · intro notified' same
    cases same
    exact sound.since id notified (by rw [found, Op.notified])
  · intro notified' resolver waits
    cases waits
    rfl

private theorem Sound.finish (sound : inner.Sound) : (inner.setOp id .idle).Sound := by
  apply sound.setOp
  · intro notified same
    cases same
  · intro notified resolver waits
    cases waits

/-! ## The steps of a call of `reset` -/

section Reset

variable {current new old : Arc Resolver}

private theorem Sound.load (sound : inner.Sound) (found : inner.resets call = .idle) :
    (inner.setReset call (.loaded inner.resolver)).Sound :=
  sound.setReset (by rw [found]; rfl) (by simp) (by simp)

private theorem Sound.build (sound : inner.Sound) (found : inner.resets call = .loaded current)
    (value : Resolver) : (inner.setReset call (.built current ⟨some call, value⟩)).Sound := by
  apply sound.setReset (by rw [found]; rfl) (by simp)
  intro current' new same
  cases same
  rfl

private theorem Sound.loses (sound : inner.Sound) (found : inner.resets call = .built current new) :
    (inner.setReset call (.done none)).Sound :=
  sound.setReset (by rw [found]; rfl) (by simp) (by simp)

private theorem replaced_swap (other : CallId) :
    (({ inner with resolver := new }.setReset call (.swapped current)).resets other).replaced =
      if other = call then some current else (inner.resets other).replaced := by
  rw [resets_setReset]
  split <;> rfl

private theorem Placed.swap {resolver : Arc Resolver} (placed : inner.Placed resolver) :
    ({ inner with resolver := new }.setReset call (.swapped current)).Placed resolver := by
  intro other allocated
  rw [replaced_swap]
  split
  · exact Option.some_ne_none current
  · exact placed other allocated

/-- What a call has built and not yet swapped in was never in place. -/
private theorem Sound.not_ptrEq_of_built (sound : inner.Sound)
    (found : inner.resets call = .built current new) {resolver : Arc Resolver}
    (placed : inner.Placed resolver) : ¬ resolver.PtrEq new := by
  intro same
  refine placed call (same.trans (sound.built call current new found)) ?_
  rw [found, Reset.replaced]

private theorem Sound.swap (sound : inner.Sound) (found : inner.resets call = .built current new)
    (inPlace : current.PtrEq inner.resolver) :
    ({ inner with resolver := new }.setReset call (.swapped current)).Sound where
  since := sound.since
  held := by
    intro op notified resolver waits
    right
    rcases sound.held op notified resolver waits with here | ⟨other, old, before, pointer⟩
    · exact ⟨call, current, by rw [replaced_swap, if_pos rfl], inPlace.trans here.symm⟩
    · have different : other ≠ call := by
        rintro rfl
        rw [found, Reset.replaced] at before
        cases before
      exact ⟨other, old, by rw [replaced_swap, if_neg different, before], pointer⟩
  woken := sound.woken_setReset nofun
  gone := by
    intro other old before
    rw [replaced_swap] at before
    split at before
    next =>
      cases before
      intro pointer
      exact sound.not_ptrEq_of_built found sound.placed (inPlace.symm.trans pointer)
    next => exact sound.not_ptrEq_of_built found (sound.placedBefore other old before)
  placed := by
    intro other allocated
    obtain rfl : call = other :=
      Option.some.inj ((sound.built call current new found).symm.trans allocated)
    rw [replaced_swap, if_pos rfl]
    exact Option.some_ne_none current
  placedBefore := by
    intro other old before
    rw [replaced_swap] at before
    split at before
    next =>
      cases before
      exact Placed.swap fun maker allocated =>
        sound.placed maker (inPlace.symm.trans allocated)
    next => exact (sound.placedBefore other old before).swap
  built := sound.built_setReset nofun

private theorem Sound.notifyWaiters (sound : inner.Sound)
    (found : inner.resets call = .swapped old) :
    ({ inner with notifyReset := inner.notifyReset.notifyWaiters }.setReset call
      (.done (some old))).Sound := by
  have same : (Reset.done (some old)).replaced = (inner.resets call).replaced := by
    rw [found, Reset.replaced, Reset.replaced]
  have replaced : ∀ other,
      (({ inner with notifyReset := inner.notifyReset.notifyWaiters }.setReset call
        (.done (some old))).resets other).replaced = (inner.resets other).replaced :=
    fun other => replaced_setReset same other
  refine ⟨?_, ?_, ?_, ?_, ?_, ?_, sound.built_setReset nofun⟩
  · intro op notified enabled
    exact Nat.le_succ_of_le (sound.since op notified enabled)
  · intro op notified resolver waits
    apply (sound.held op notified resolver waits).imp_right
    rintro ⟨other, old', before, pointer⟩
    exact ⟨other, old', (replaced other).trans before, pointer⟩
  · intro op notified resolver _ _ waits _ _
    have enabled : (inner.ops op).notified = some notified := by
      rw [show inner.ops op = _ from waits, Op.notified]
    exact Nat.lt_succ_of_le (sound.since op notified enabled)
  · intro other old' before
    rw [replaced] at before
    exact sound.gone other old' before
  · intro other allocated
    rw [replaced]
    exact sound.placed other allocated
  · intro other old' before maker allocated
    rw [replaced] at before ⊢
    exact sound.placedBefore other old' before maker allocated

end Reset

private theorem Sound.next {reset : Resolver → Resolver} (sound : inner.Sound) {step : InnerStep}
    (stepped : inner.next reset step = some after) : after.Sound := by
  cases step with
  | enable id =>
      simp only [Inner.next] at stepped
      split at stepped
      next =>
        cases stepped
        exact sound.enable
      next =>
        split at stepped <;> cases stepped
        exact sound.enable
      next => cases stepped
  | loadFull id =>
      simp only [Inner.next] at stepped
      split at stepped <;> cases stepped
      next found => exact sound.loadFull found
  | finish id =>
      cases stepped
      exact sound.finish
  | load call =>
      simp only [Inner.next] at stepped
      split at stepped <;> cases stepped
      next found => exact sound.load found
  | build call =>
      simp only [Inner.next] at stepped
      split at stepped <;> cases stepped
      next found => exact sound.build found _
  | compareAndSwap call =>
      simp only [Inner.next] at stepped
      split at stepped
      next found =>
        split at stepped <;> cases stepped
        next inPlace => exact sound.swap found inPlace
        next => exact sound.loses found
      next => cases stepped
  | notifyWaiters call =>
      simp only [Inner.next] at stepped
      split at stepped <;> cases stepped
      next found => exact sound.notifyWaiters found

private theorem sound_of_reaches {reset : Resolver → Resolver} {resolver : Resolver}
    {history : List InnerStep} (reached : (machine reset resolver).Reaches history inner) :
    inner.Sound :=
  reached.invariant_next (fun _ inner => inner.Sound) (sound_new resolver)
    fun _ _ _ _ stepped sound => sound.next stepped

/-- No operation waits on a replaced resolver unnoticed: if the resolver of a waiting operation is
not the one in place, a reset call has swapped it out, and once a call that did so has notified,
the notification of the operation is ready. -/
theorem ready_of_replaced {reset : Resolver → Resolver} {first : Resolver}
    {history : List InnerStep} (reached : (machine reset first).Reaches history inner)
    {op : Nat} {notified : Notified} {resolver : Arc Resolver}
    (waits : inner.ops op = .waiting notified resolver) :
    (¬ resolver.PtrEq inner.resolver → ∃ call, inner.Replaces call resolver) ∧
      ∀ call old, inner.resets call = .done (some old) → old.PtrEq resolver →
        notified.Ready inner.notifyReset := by
  have sound := sound_of_reaches reached
  constructor
  · intro replaced
    exact (sound.held op notified resolver waits).resolve_left replaced
  · intro call old done same
    exact sound.woken op notified resolver call old waits done same

/-- Two calls reset at once while an operation waits; the second one loses. -/
def twoResets : List InnerStep :=
  [.enable 0, .loadFull 0, .load 0, .load 1, .build 0, .build 1, .compareAndSwap 0,
    .compareAndSwap 1, .notifyWaiters 0]

theorem ready_of_twoResets :
    let inner := (machine Nat.succ 7).runFrom (new 7) twoResets
    inner.ops 0 = .waiting ⟨0⟩ ⟨none, 7⟩ ∧ inner.resets 0 = .done (some ⟨none, 7⟩) ∧
      inner.resets 1 = .done none ∧ (⟨0⟩ : Notified).Ready inner.notifyReset := by
  intro inner
  have reached : (machine Nat.succ 7).Reaches twoResets inner :=
    Machine.reaches_runFrom (by decide)
  have waits : inner.ops 0 = .waiting ⟨0⟩ ⟨none, 7⟩ := rfl
  have done : inner.resets 0 = .done (some ⟨none, 7⟩) := rfl
  exact ⟨waits, done, rfl, (ready_of_replaced reached waits).2 0 ⟨none, 7⟩ done rfl⟩

end Inner

end NexalinkTunnel.Dns
