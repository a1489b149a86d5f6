import Mathlib.Data.List.Perm.Basic
import NexalinkTunnel.Lib.Transition
import NexalinkTunnel.Socket.Relay.Recv

/-!
Contract: in which order the transports of a socket are asked for data.

Owns `Transports::inner_poll_recv` with its counters, and the order of the kinds of
transports in consecutive calls.

Does not own: the transports, which may answer anything, and what is done with the data.

## The counter

The order depends on `poll_recv_counter`, which is read in every call and written in
none, so every call finds it as it was bound.
-/

namespace NexalinkTunnel.Socket

open Lib

inductive TransportKind where
  | ip
  | relay
  | custom
deriving DecidableEq, Repr

/-- A transport, by its kind and its place among those of the kind. -/
structure TransportId where
  kind : TransportKind
  index : Nat
deriving Repr

/-- `Transports`, with the number of transports of each kind. -/
structure Transports where
  ipV4 : Nat
  ipV6 : Nat
  relay : Nat
  custom : Nat
  pollRecvCounter : UInt64
  /-- A `usize` in the source, where it counts no more than the calls there were. -/
  consecutiveTotalRecvFailures : Nat

/-- Why a call fails: an error of the kind `NetworkDown`. -/
inductive TransportsError where
  | networkDown (message : String)
deriving DecidableEq

def maxConsecutiveRecvErrors : Nat := 8

variable {Error : Type}

/-- What the `poll_recv` of each transport returns, if it is called. -/
abbrev TransportPolls (Error : Type) := TransportId → Relay.Poll (Except Error Nat)

def HasData (polls : TransportPolls Error) (transport : TransportId) : Prop :=
  match polls transport with
  | .ready (.ok (_ + 1)) => True
  | _ => False

instance (polls : TransportPolls Error) : DecidablePred (HasData polls) := fun transport =>
  match found : polls transport with
  | .ready (.ok (_ + 1)) => .isTrue (by simp [HasData, found])
  | .ready (.ok 0) | .ready (.error _) | .pending => .isFalse (by simp [HasData, found])

/-- The variables of a call, with the transports that it has asked. -/
structure PollLoop where
  totalPolled : Nat
  totalErrors : Nat
  returnReady : Bool
  tried : List TransportId

namespace Transports

def bind (ipV4 ipV6 relay custom : Nat) : Transports := ⟨ipV4, ipV6, relay, custom, 0, 0⟩

def ipIter (transports : Transports) : List TransportId :=
  (List.range (transports.ipV4 + transports.ipV6)).map (⟨.ip, ·⟩)

def relayIter (transports : Transports) : List TransportId :=
  (List.range transports.relay).map (⟨.relay, ·⟩)

def customIter (transports : Transports) : List TransportId :=
  (List.range transports.custom).map (⟨.custom, ·⟩)

def order (transports : Transports) : List TransportId :=
  if (transports.pollRecvCounter + 1) % 2 = 0 then
    transports.ipIter ++ transports.relayIter ++ transports.customIter
  else transports.customIter.reverse ++ transports.relayIter.reverse ++ transports.ipIter

/-- `poll_transport!` for one transport after another. A call that finds data returns from
here with the number of messages. -/
def pollTransports (polls : TransportPolls Error) :
    List TransportId → PollLoop → PollLoop × Option Nat
  | [], loop => (loop, none)
  | transport :: order, loop =>
      let loop := { loop with
        totalPolled := loop.totalPolled + 1
        tried := loop.tried ++ [transport] }
      match polls transport with
      | .pending => pollTransports polls order loop
      | .ready (.ok 0) => pollTransports polls order { loop with returnReady := true }
      | .ready (.ok (count + 1)) => (loop, some (count + 1))
      | .ready (.error _) =>
          pollTransports polls order { loop with totalErrors := loop.totalErrors + 1 }

end Transports

/-- A call with the transports that it has asked and its result. -/
structure PollCall (Error : Type) where
  polls : TransportPolls Error
  tried : List TransportId
  result : Relay.Poll (Except TransportsError Nat)

namespace Transports

def afterPolls (transports : Transports) (polls : TransportPolls Error) (loop : PollLoop) :
    Option Nat → PollCall Error × Transports
  | some count =>
      (⟨polls, loop.tried, .ready (.ok count)⟩,
        { transports with consecutiveTotalRecvFailures := 0 })
  | none =>
      if loop.totalPolled = loop.totalErrors then
        let failures := transports.consecutiveTotalRecvFailures + 1
        (⟨polls, loop.tried,
          if maxConsecutiveRecvErrors ≤ failures then
            .ready (.error (.networkDown "All transports failed to receive"))
          else .ready (.ok 0)⟩,
          { transports with consecutiveTotalRecvFailures := failures })
      else
        (⟨polls, loop.tried, if loop.returnReady then .ready (.ok 0) else .pending⟩,
          { transports with consecutiveTotalRecvFailures := 0 })

def innerPollRecv (transports : Transports) (polls : TransportPolls Error) :
    PollCall Error × Transports :=
  let asked := pollTransports polls transports.order ⟨0, 0, false, []⟩
  transports.afterPolls polls asked.1 asked.2

/-- Calls one after another, each with what the transports return in it. -/
def innerPollRecvs (transports : Transports) : List (TransportPolls Error) → List (PollCall Error)
  | [] => []
  | polls :: rest =>
      (transports.innerPollRecv polls).1 :: (transports.innerPollRecv polls).2.innerPollRecvs rest

def all (transports : Transports) : List TransportId :=
  transports.ipIter ++ transports.relayIter ++ transports.customIter

end Transports

/-! ## Orders of the kinds -/

/-- The transports that are asked in an order, up to the first one that has data. -/
def upToData (polls : TransportPolls Error) : List TransportId → List TransportId
  | [] => []
  | transport :: order =>
      if HasData polls transport then [transport] else transport :: upToData polls order

/-- The place of a kind in the order IP, relay, custom. -/
def TransportKind.fromIp : TransportKind → Nat
  | .ip => 0
  | .relay => 1
  | .custom => 2

/-- The place of a kind in the order custom, relay, IP. -/
def TransportKind.fromCustom : TransportKind → Nat
  | .custom => 0
  | .relay => 1
  | .ip => 2

/-- The call goes through all transports, kind after kind in the order of their places, and stops
at the first one that has data. -/
def PollCall.Follows (place : TransportKind → Nat) (transports : Transports)
    (call : PollCall Error) : Prop :=
  ∃ order : List TransportId,
    order.Perm transports.all ∧
    order.Pairwise (fun earlier later => place earlier.kind ≤ place later.kind) ∧
    call.tried = upToData call.polls order

/-- One of the calls starts with IP, the other one with custom transports. -/
def Opposite (transports : Transports) (first second : PollCall Error) : Prop :=
  (first.Follows TransportKind.fromIp transports ∧
      second.Follows TransportKind.fromCustom transports) ∨
    (first.Follows TransportKind.fromCustom transports ∧
      second.Follows TransportKind.fromIp transports)

namespace Transports

variable {transports : Transports}

/-! ## What a call asks -/

private theorem tried_pollTransports (polls : TransportPolls Error) (order : List TransportId)
    (loop : PollLoop) :
    (pollTransports polls order loop).1.tried = loop.tried ++ upToData polls order := by
  induction order generalizing loop with
  | nil => simp [pollTransports, upToData]
  | cons transport order inductionHypothesis =>
      -- a call goes on after everything but a positive number of messages
      cases returned : polls transport with
      | pending => simp [pollTransports, upToData, HasData, returned, inductionHypothesis]
      | ready result =>
          cases result with
          | error error => simp [pollTransports, upToData, HasData, returned, inductionHypothesis]
          | ok count =>
              cases count with
              | zero => simp [pollTransports, upToData, HasData, returned, inductionHypothesis]
              | succ count => simp [pollTransports, upToData, HasData, returned]

private theorem afterPolls_spec (polls : TransportPolls Error) (loop : PollLoop)
    (found : Option Nat) :
    ∃ result failures, transports.afterPolls polls loop found =
      (⟨polls, loop.tried, result⟩,
        { transports with consecutiveTotalRecvFailures := failures }) := by
  cases found with
  | some count => exact ⟨_, _, rfl⟩
  | none =>
      rw [afterPolls]
      split
      · exact ⟨_, _, rfl⟩
      · exact ⟨_, _, rfl⟩

/-- A call asks the transports in its order, up to the first one that has data. -/
theorem innerPollRecv_spec (polls : TransportPolls Error) :
    ∃ result failures, transports.innerPollRecv polls =
      (⟨polls, upToData polls transports.order, result⟩,
        { transports with consecutiveTotalRecvFailures := failures }) := by
  have tried := tried_pollTransports polls transports.order ⟨0, 0, false, []⟩
  rw [List.nil_append] at tried
  rw [← tried]
  exact afterPolls_spec polls _ _

/-- The counter stays, and with it the order: all calls ask in the order of the first one. -/
theorem tried_of_mem_innerPollRecvs {calls : List (TransportPolls Error)} {call : PollCall Error}
    (member : call ∈ transports.innerPollRecvs calls) :
    call.tried = upToData call.polls transports.order := by
  induction calls generalizing transports with
  | nil => cases member
  | cons polls rest inductionHypothesis =>
      obtain ⟨result, failures, spec⟩ := transports.innerPollRecv_spec polls
      rw [innerPollRecvs, spec] at member
      rcases List.mem_cons.mp member with rfl | member
      · rfl
      · have asked := inductionHypothesis member
        exact asked

end Transports

/-! ## The order of the kinds -/

namespace Transports

private theorem order_bind (ipV4 ipV6 relay custom : Nat) :
    (bind ipV4 ipV6 relay custom).order =
      (bind ipV4 ipV6 relay custom).customIter.reverse ++
        (bind ipV4 ipV6 relay custom).relayIter.reverse ++
        (bind ipV4 ipV6 relay custom).ipIter := by
  have odd : ¬ ((0 : UInt64) + 1) % 2 = 0 := by decide
  exact if_neg odd

private theorem order_bind_perm (ipV4 ipV6 relay custom : Nat) :
    (bind ipV4 ipV6 relay custom).order.Perm (bind ipV4 ipV6 relay custom).all := by
  rw [order_bind, all]
  generalize (bind ipV4 ipV6 relay custom).customIter = customs
  generalize (bind ipV4 ipV6 relay custom).relayIter = relays
  generalize (bind ipV4 ipV6 relay custom).ipIter = ips
  calc (customs.reverse ++ relays.reverse ++ ips).Perm (customs ++ relays ++ ips) :=
        ((List.reverse_perm _).append (List.reverse_perm _)).append_right _
    _ |>.Perm (relays ++ customs ++ ips) := List.perm_append_comm.append_right _
    _ |>.Perm (ips ++ (relays ++ customs)) := List.perm_append_comm
    _ = ips ++ relays ++ customs := (List.append_assoc _ _ _).symm

private theorem order_bind_pairwise (ipV4 ipV6 relay custom : Nat) :
    (bind ipV4 ipV6 relay custom).order.Pairwise
      fun earlier later => earlier.kind.fromCustom ≤ later.kind.fromCustom := by
  rw [order_bind]
  simp [customIter, relayIter, ipIter, List.pairwise_append, List.pairwise_reverse,
    List.pairwise_map, List.pairwise_of_forall, TransportKind.fromCustom]

variable {ipV4 ipV6 relay custom : Nat}

/-- Whatever the transports return, a call on a bound value starts with custom transports. -/
theorem follows_fromCustom {calls : List (TransportPolls Error)} {call : PollCall Error}
    (member : call ∈ (bind ipV4 ipV6 relay custom).innerPollRecvs calls) :
    call.Follows TransportKind.fromCustom (bind ipV4 ipV6 relay custom) :=
  ⟨_, order_bind_perm _ _ _ _, order_bind_pairwise _ _ _ _, tried_of_mem_innerPollRecvs member⟩

end Transports

private theorem head?_upToData (polls : TransportPolls Error) (order : List TransportId) :
    (upToData polls order).head? = order.head? := by
  cases order with
  | nil => rfl
  | cons transport order =>
      rw [upToData]
      split
      · rfl
      · rfl

private theorem TransportKind.eq_of_places {kind other : TransportKind}
    (fromIp : kind.fromIp ≤ other.fromIp) (fromCustom : kind.fromCustom ≤ other.fromCustom) :
    kind = other := by
  cases kind <;> cases other <;> simp_all [TransportKind.fromIp, TransportKind.fromCustom]

def Transports.OneKind (transports : Transports) : Prop :=
  ∀ left ∈ transports.all, ∀ right ∈ transports.all, left.kind = right.kind
deriving Decidable

private theorem oneKind_of_follows {transports : Transports} {call : PollCall Error}
    (fromIp : call.Follows TransportKind.fromIp transports)
    (fromCustom : call.Follows TransportKind.fromCustom transports) :
    transports.OneKind := by
  obtain ⟨order, perm, sorted, tried⟩ := fromIp
  obtain ⟨order', perm', sorted', tried'⟩ := fromCustom
  have sameHead : order.head? = order'.head? := by
    rw [← head?_upToData call.polls order, ← head?_upToData call.polls order', ← tried, ← tried']
  cases order with
  | nil =>
      intro left member
      exact absurd (perm.mem_iff.mpr member) List.not_mem_nil
  | cons head rest =>
      cases order' with
      | nil => cases sameHead
      | cons head' rest' =>
          obtain rfl : head = head' := Option.some.inj sameHead
          have sameKind : ∀ transport ∈ transports.all, head.kind = transport.kind := by
            intro transport member
            rcases List.mem_cons.mp (perm.mem_iff.mpr member) with rfl | later
            · rfl
            rcases List.mem_cons.mp (perm'.mem_iff.mpr member) with rfl | later'
            · rfl
            exact TransportKind.eq_of_places (List.rel_of_pairwise_cons sorted later)
              (List.rel_of_pairwise_cons sorted' later')
          intro left member right member'
          exact (sameKind left member).symm.trans (sameKind right member')

private theorem PollCall.Follows.of_oneKind {transports : Transports} (oneKind : transports.OneKind)
    {place : TransportKind → Nat} {call : PollCall Error} (follows : call.Follows place transports)
    (other : TransportKind → Nat) : call.Follows other transports := by
  obtain ⟨order, perm, -, tried⟩ := follows
  refine ⟨order, perm, ?_, tried⟩
  apply List.pairwise_of_forall_mem_list
  intro left member right member'
  exact (congrArg other (oneKind left (perm.mem_iff.mp member) right (perm.mem_iff.mp member'))).le

private theorem oneKind_of_opposite {ipV4 ipV6 relay custom : Nat}
    {calls : List (TransportPolls Error)} {first second : PollCall Error}
    (member : first ∈ (Transports.bind ipV4 ipV6 relay custom).innerPollRecvs calls)
    (member' : second ∈ (Transports.bind ipV4 ipV6 relay custom).innerPollRecvs calls)
    (opposite : Opposite (Transports.bind ipV4 ipV6 relay custom) first second) :
    (Transports.bind ipV4 ipV6 relay custom).OneKind := by
  rcases opposite with ⟨fromIp, -⟩ | ⟨-, fromIp⟩
  · exact oneKind_of_follows fromIp (Transports.follows_fromCustom member)
  · exact oneKind_of_follows fromIp (Transports.follows_fromCustom member')

/-- Two consecutive calls are opposite only where the order of the kinds says nothing, as all
transports are of one kind. -/
theorem consecutive_calls_opposite_iff {ipV4 ipV6 relay custom : Nat}
    {calls : List (TransportPolls Error)} {before after : List (PollCall Error)}
    {first second : PollCall Error}
    (consecutive : (Transports.bind ipV4 ipV6 relay custom).innerPollRecvs calls =
      before ++ first :: second :: after) :
    Opposite (Transports.bind ipV4 ipV6 relay custom) first second ↔
      (Transports.bind ipV4 ipV6 relay custom).OneKind := by
  have member : first ∈ (Transports.bind ipV4 ipV6 relay custom).innerPollRecvs calls := by
    simp [consecutive]
  have member' : second ∈ (Transports.bind ipV4 ipV6 relay custom).innerPollRecvs calls := by
    simp [consecutive]
  constructor
  · exact oneKind_of_opposite member member'
  · intro oneKind
    have fromIp := (Transports.follows_fromCustom member).of_oneKind oneKind TransportKind.fromIp
    exact .inl ⟨fromIp, Transports.follows_fromCustom member'⟩

def alwaysReady : TransportPolls Unit := fun _ => .ready (.ok 1)

/-- With sockets only, the order of the kinds makes no difference. -/
theorem consecutive_calls_opposite_of_sockets :
    Opposite (Transports.bind 1 1 0 0) ⟨alwaysReady, [⟨.ip, 0⟩], .ready (.ok 1)⟩
      ⟨alwaysReady, [⟨.ip, 0⟩], .ready (.ok 1)⟩ := by
  have consecutive : (Transports.bind 1 1 0 0).innerPollRecvs [alwaysReady, alwaysReady] =
      [] ++ ⟨alwaysReady, [⟨.ip, 0⟩], .ready (.ok 1)⟩ ::
        ⟨alwaysReady, [⟨.ip, 0⟩], .ready (.ok 1)⟩ :: [] := rfl
  exact (consecutive_calls_opposite_iff consecutive).mpr (by decide)

/-- A socket and a relay that is always ready: both calls ask the relay only. -/
theorem consecutive_calls_ask_relay :
    ∃ first second,
      (Transports.bind 1 0 1 0).innerPollRecvs [alwaysReady, alwaysReady] = [first, second] ∧
      first.tried = [⟨.relay, 0⟩] ∧ second.tried = [⟨.relay, 0⟩] ∧
      ¬ Opposite (Transports.bind 1 0 1 0) first second := by
  have run : (Transports.bind 1 0 1 0).innerPollRecvs [alwaysReady, alwaysReady] =
      [⟨alwaysReady, [⟨.relay, 0⟩], .ready (.ok 1)⟩,
        ⟨alwaysReady, [⟨.relay, 0⟩], .ready (.ok 1)⟩] := rfl
  refine ⟨_, _, run, rfl, rfl, ?_⟩
  intro opposite
  have oneKind := oneKind_of_opposite (run ▸ List.mem_cons_self)
    (run ▸ List.mem_cons_of_mem _ List.mem_cons_self) opposite
  exact absurd oneKind (by decide)

end NexalinkTunnel.Socket
