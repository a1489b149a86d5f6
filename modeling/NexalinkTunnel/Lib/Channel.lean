import Mathlib.Tactic.SplitIfs

/-!
Contract: a bounded first-in first-out channel whose sender never waits.

Owns the channel state with its full log, sending, receiving and closing, and
the facts that tie the log to what the receiver has seen.
-/

namespace NexalinkTunnel.Lib

/-- A bounded channel. `received` is what the receiver has taken so far, oldest
first; `pending` is what it will take next. -/
structure Channel (α : Type) where
  capacity : Nat
  received : List α
  pending : List α
  closed : Bool
  within : pending.length ≤ capacity
deriving Repr

/-- Why a send without waiting was refused. -/
inductive TrySendError where
  | full
  | closed
deriving DecidableEq, Repr

namespace Channel

variable {α : Type}

def new (capacity : Nat) : Channel α := ⟨capacity, [], [], false, Nat.zero_le _⟩

/-- A channel whose receiver is gone and that never carried anything. -/
def dead : Channel α := ⟨0, [], [], true, Nat.le_refl _⟩

def sent (channel : Channel α) : List α := channel.received ++ channel.pending

def HasRoom (channel : Channel α) : Prop :=
  channel.closed = false ∧ channel.pending.length < channel.capacity
deriving Decidable

def push (channel : Channel α) (value : α) (room : channel.pending.length < channel.capacity) :
    Channel α :=
  { channel with
    pending := channel.pending ++ [value]
    within := by simp only [List.length_append, List.length_singleton]; omega }

/-- Send without waiting. A closed channel is reported before a full one. -/
def trySend (channel : Channel α) (value : α) : Except TrySendError (Channel α) :=
  if channel.closed then .error .closed
  else if room : channel.pending.length < channel.capacity then .ok (channel.push value room)
  else .error .full

def offer (channel : Channel α) (value : α) : Channel α :=
  match channel.trySend value with
  | .ok next => next
  | .error _ => channel

def recv (channel : Channel α) : Option (α × Channel α) :=
  match shape : channel.pending with
  | [] => none
  | value :: rest =>
      some (value,
        { channel with
          received := channel.received ++ [value]
          pending := rest
          within := by
            have := channel.within
            rw [shape, List.length_cons] at this
            omega })

/-- Take all pending values, as `recv_many` with the length as its limit. -/
def recvAll (channel : Channel α) : List α × Channel α :=
  (channel.pending,
    { channel with
      received := channel.received ++ channel.pending
      pending := []
      within := Nat.zero_le _ })

def close (channel : Channel α) : Channel α := { channel with closed := true }

variable {channel next : Channel α} {value : α}

@[simp] theorem sent_new (capacity : Nat) : (new capacity : Channel α).sent = [] := rfl

@[simp] theorem sent_close : channel.close.sent = channel.sent := rfl

theorem trySend_of_hasRoom (room : channel.HasRoom) (value : α) :
    channel.trySend value = .ok (channel.push value room.2) := by
  simp [trySend, room.1, room.2]

theorem trySend_error_of_not_hasRoom (noRoom : ¬ channel.HasRoom) (value : α) :
    ∃ error, channel.trySend value = .error error := by
  unfold HasRoom at noRoom
  unfold trySend
  split_ifs with isClosed room
  · exact ⟨_, rfl⟩
  · exact absurd ⟨by simpa using isClosed, room⟩ noRoom
  · exact ⟨_, rfl⟩

theorem offer_of_hasRoom (room : channel.HasRoom) (value : α) :
    channel.offer value = channel.push value room.2 := by
  rw [offer, trySend_of_hasRoom room]

theorem offer_of_not_hasRoom (noRoom : ¬ channel.HasRoom) (value : α) :
    channel.offer value = channel := by
  obtain ⟨error, refused⟩ := trySend_error_of_not_hasRoom noRoom value
  rw [offer, refused]

@[simp] theorem closed_offer : (channel.offer value).closed = channel.closed := by
  by_cases room : channel.HasRoom
  · rw [offer_of_hasRoom room, push]
  · rw [offer_of_not_hasRoom room]

@[simp] theorem received_offer : (channel.offer value).received = channel.received := by
  by_cases room : channel.HasRoom
  · rw [offer_of_hasRoom room, push]
  · rw [offer_of_not_hasRoom room]

@[simp] theorem sent_push (room : channel.pending.length < channel.capacity) :
    (channel.push value room).sent = channel.sent ++ [value] := by
  simp [sent, push]

theorem sent_offer : (channel.offer value).sent =
    channel.sent ++ if channel.HasRoom then [value] else [] := by
  by_cases room : channel.HasRoom
  · rw [offer_of_hasRoom room, sent_push, if_pos room]
  · rw [offer_of_not_hasRoom room, if_neg room, List.append_nil]

/-- What a receive changes: the front of the pending values moves to the
received ones. -/
theorem recv_eq_some (taken : channel.recv = some (value, next)) :
    channel.pending = value :: next.pending ∧ next.received = channel.received ++ [value] ∧
      next.closed = channel.closed ∧ next.capacity = channel.capacity := by
  unfold recv at taken
  split at taken
  next => simp at taken
  next head rest shape =>
    obtain ⟨rfl, rfl⟩ := Prod.mk.inj (Option.some.inj taken)
    exact ⟨shape, rfl, rfl, rfl⟩

theorem exists_recv (nonempty : channel.pending ≠ []) :
    ∃ value next, channel.recv = some (value, next) := by
  unfold recv
  split
  next empty => exact absurd empty nonempty
  next => exact ⟨_, _, rfl⟩

theorem sent_of_recv (taken : channel.recv = some (value, next)) : next.sent = channel.sent := by
  obtain ⟨pending, received, -⟩ := recv_eq_some taken
  rw [sent, sent, pending, received, List.append_assoc, List.singleton_append]

end Channel

end NexalinkTunnel.Lib
