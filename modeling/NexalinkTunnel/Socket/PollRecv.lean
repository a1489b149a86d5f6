import NexalinkTunnel.Lib.FinalRun
import NexalinkTunnel.Lib.Outcome
import NexalinkTunnel.Socket.TransportPolling

/-!
Contract: when receiving from the transports of a socket fails.

Owns the errors of `Transports::inner_poll_recv` over any sequence of calls, and the
assertions about the numbers of buffers in `Transports::poll_recv` and in the functions
of the transports that it calls.

Does not own: what a transport answers, and what is done with the data.

## Two failures

An error is returned after eight calls in a row in which every transport failed. An
assertion is about slices: a socket and a relay transport want as many buffers as there
are entries in the array of the received infos, which has `BATCH_SIZE` of them.
-/

namespace NexalinkTunnel.Socket

open Lib

variable {Error : Type}

def Fails (polls : TransportPolls Error) (transport : TransportId) : Prop :=
  ∃ error, polls transport = .ready (.error error)

instance (polls : TransportPolls Error) : DecidablePred (Fails polls) := fun transport =>
  match returned : polls transport with
  | .ready (.error error) => .isTrue ⟨error, returned⟩
  | .ready (.ok _) | .pending => .isFalse (by simp [Fails, returned])

namespace Transports

def AllFail (transports : Transports) (polls : TransportPolls Error) : Prop :=
  ∀ transport ∈ transports.all, Fails polls transport
deriving Decidable

def afterCalls (transports : Transports) (calls : List (TransportPolls Error)) : Transports :=
  calls.foldl (fun transports polls => (transports.innerPollRecv polls).2) transports

variable {transports : Transports}

private theorem pollTransports_errors_iff (polls : TransportPolls Error) (order : List TransportId)
    {loop : PollLoop} (fewer : loop.totalErrors ≤ loop.totalPolled) :
    ((pollTransports polls order loop).2 = none ∧
        (pollTransports polls order loop).1.totalPolled =
          (pollTransports polls order loop).1.totalErrors) ↔
      loop.totalPolled = loop.totalErrors ∧ ∀ transport ∈ order, Fails polls transport := by
  induction order generalizing loop with
  | nil => simp [pollTransports]
  | cons transport order inductionHypothesis =>
      rw [List.forall_mem_cons]
      cases returned : polls transport with
      | pending =>
          have working : ¬ Fails polls transport := by simp [Fails, returned]
          simp only [pollTransports, returned]
          rw [inductionHypothesis (by simp only; omega)]
          simp only [working, false_and, and_false, iff_false, not_and]
          omega
      | ready result =>
          cases result with
          | error error =>
              have fails : Fails polls transport := ⟨error, returned⟩
              simp only [pollTransports, returned]
              rw [inductionHypothesis (by simp only; omega)]
              simp only [fails, true_and, Nat.add_right_cancel_iff]
          | ok count =>
              have working : ¬ Fails polls transport := by simp [Fails, returned]
              cases count with
              | zero =>
                  simp only [pollTransports, returned]
                  rw [inductionHypothesis (by simp only; omega)]
                  simp only [working, false_and, and_false, iff_false, not_and]
                  omega
              | succ count => simp [pollTransports, returned, working]

theorem mem_order {transport : TransportId} :
    transport ∈ transports.order ↔ transport ∈ transports.all := by
  unfold order all
  split
  · rfl
  · simp only [List.mem_append, List.mem_reverse]
    tauto

private theorem all_fail_order (polls : TransportPolls Error) :
    (∀ transport ∈ transports.order, Fails polls transport) ↔ transports.AllFail polls :=
  forall_congr' fun _ => imp_congr_left mem_order

private theorem innerPollRecv_failures (polls : TransportPolls Error) :
    (transports.AllFail polls →
      (transports.innerPollRecv polls).2.consecutiveTotalRecvFailures =
        transports.consecutiveTotalRecvFailures + 1) ∧
    (¬ transports.AllFail polls →
      (transports.innerPollRecv polls).2.consecutiveTotalRecvFailures = 0) ∧
    ((∃ error, (transports.innerPollRecv polls).1.result = .ready (.error error)) ↔
      transports.AllFail polls ∧
        maxConsecutiveRecvErrors ≤ transports.consecutiveTotalRecvFailures + 1) := by
  have errors := pollTransports_errors_iff polls transports.order
    (show (⟨0, 0, false, []⟩ : PollLoop).totalErrors ≤ 0 from Nat.le_refl 0)
  rw [all_fail_order] at errors
  simp only [true_and] at errors
  rw [← errors]
  unfold innerPollRecv
  generalize pollTransports polls transports.order ⟨0, 0, false, []⟩ = asked
  obtain ⟨loop, found⟩ := asked
  cases found with
  | some count => simp [afterPolls]
  | none =>
      by_cases all : loop.totalPolled = loop.totalErrors
      · by_cases enough :
          maxConsecutiveRecvErrors ≤ transports.consecutiveTotalRecvFailures + 1 <;>
          simp [afterPolls, all, enough]
      · by_cases ready : loop.returnReady = true <;> simp [afterPolls, all, ready]

private theorem all_innerPollRecv (polls : TransportPolls Error) :
    (transports.innerPollRecv polls).2.all = transports.all := by
  obtain ⟨result, failures, spec⟩ := transports.innerPollRecv_spec polls
  rw [spec]
  rfl

theorem afterCalls_append_singleton (calls : List (TransportPolls Error))
    (polls : TransportPolls Error) :
    transports.afterCalls (calls ++ [polls]) =
      ((transports.afterCalls calls).innerPollRecv polls).2 := by
  rw [afterCalls, List.foldl_append]
  rfl

private theorem all_afterCalls (calls : List (TransportPolls Error)) :
    (transports.afterCalls calls).all = transports.all := by
  induction calls using List.reverseRecOn with
  | nil => rfl
  | append_singleton calls polls inductionHypothesis =>
      rw [afterCalls_append_singleton, all_innerPollRecv, inductionHypothesis]

theorem allFail_afterCalls (calls : List (TransportPolls Error)) (polls : TransportPolls Error) :
    (transports.afterCalls calls).AllFail polls ↔ transports.AllFail polls := by
  rw [AllFail, all_afterCalls]
  rfl

/-- The number of failures counts the failed calls since the last one that did not fail. -/
theorem failures_afterCalls (fresh : transports.consecutiveTotalRecvFailures = 0)
    (calls : List (TransportPolls Error)) :
    (transports.afterCalls calls).consecutiveTotalRecvFailures =
      streak transports.AllFail calls := by
  induction calls using List.reverseRecOn with
  | nil => exact fresh
  | append_singleton calls polls inductionHypothesis =>
      obtain ⟨grows, resets, -⟩ := (transports.afterCalls calls).innerPollRecv_failures polls
      rw [allFail_afterCalls] at grows resets
      rw [afterCalls_append_singleton, streak_append_singleton]
      split
      next fails => rw [grows fails, inductionHypothesis]
      next works => exact resets works

/-- In the source the number is a `usize`. It grows by one a call, and so it does not overflow
before there were as many calls as a `usize` can count. -/
theorem failures_afterCalls_le (ipV4 ipV6 relay custom : Nat)
    (calls : List (TransportPolls Error)) :
    ((bind ipV4 ipV6 relay custom).afterCalls calls).consecutiveTotalRecvFailures ≤
      calls.length := by
  rw [failures_afterCalls rfl]
  exact streak_le_length calls

/-- The last of the calls, and the seven before it, failed on every transport. -/
def EightFailed (transports : Transports) (calls : List (TransportPolls Error)) : Prop :=
  EndsWithRun transports.AllFail maxConsecutiveRecvErrors calls

/-- After eight failed calls, all calls up to the last one failed as well. -/
def FailedOn (transports : Transports) (calls : List (TransportPolls Error)) : Prop :=
  ∃ earlier later, calls = earlier ++ later ∧ transports.EightFailed earlier ∧
    ∀ polls ∈ later, transports.AllFail polls

/-- After any calls, the next one returns an error exactly if it is the eighth or a later one of
an uninterrupted run of calls in which every transport failed. -/
theorem innerPollRecv_error_iff (ipV4 ipV6 relay custom : Nat)
    (calls : List (TransportPolls Error)) (polls : TransportPolls Error) :
    (∃ error, (((bind ipV4 ipV6 relay custom).afterCalls calls).innerPollRecv polls).1.result =
        .ready (.error error)) ↔
      (bind ipV4 ipV6 relay custom).EightFailed (calls ++ [polls]) ∨
        (bind ipV4 ipV6 relay custom).FailedOn (calls ++ [polls]) := by
  obtain ⟨-, -, error⟩ :=
    ((bind ipV4 ipV6 relay custom).afterCalls calls).innerPollRecv_failures polls
  have eight : maxConsecutiveRecvErrors = 7 + 1 := rfl
  rw [error, allFail_afterCalls, eight, Nat.add_le_add_iff_right, failures_afterCalls rfl,
    le_streak_iff, ← endsWithRun_append_singleton]
  constructor
  · exact .inl
  · intro either
    rcases either with now | ⟨earlier, later, split, failed, all⟩
    · exact now
    · rw [split]
      exact (failed.append all).mono (Nat.le_add_right _ _)

end Transports

def assertLengths (left right : Nat) : Outcome Empty Unit :=
  if left = right then .ok () else .panicked

/-- The assertions at the start of a transport's `poll_recv`. The trait of custom transports has
none. -/
def TransportKind.assertRecv (bufs metas recvInfos : Nat) : TransportKind → Outcome Empty Unit
  | .ip | .relay => do
      assertLengths bufs metas
      assertLengths bufs recvInfos
  | .custom => .ok ()

namespace Transports

/-- `poll_transport!` for one transport after another, with the assertions of the transports. -/
def assertedPollTransports (bufs metas recvInfos : Nat) (polls : TransportPolls Error) :
    List TransportId → PollLoop → Outcome Empty (PollLoop × Option Nat)
  | [], loop => .ok (loop, none)
  | transport :: order, loop => do
      let loop := { loop with
        totalPolled := loop.totalPolled + 1
        tried := loop.tried ++ [transport] }
      transport.kind.assertRecv bufs metas recvInfos
      match polls transport with
      | .pending => assertedPollTransports bufs metas recvInfos polls order loop
      | .ready (.ok 0) =>
          assertedPollTransports bufs metas recvInfos polls order { loop with returnReady := true }
      | .ready (.ok (count + 1)) => .ok (loop, some (count + 1))
      | .ready (.error _) =>
          assertedPollTransports bufs metas recvInfos polls order
            { loop with totalErrors := loop.totalErrors + 1 }

/-- `inner_poll_recv` with its assertion and those of the transports. The infos are an array of
`BATCH_SIZE` entries. -/
def assertedInnerPollRecv (batchSize bufs metas : Nat) (transports : Transports)
    (polls : TransportPolls Error) : Outcome Empty (PollCall Error × Transports) := do
  assertLengths bufs metas
  let (loop, found) ←
    assertedPollTransports bufs metas batchSize polls transports.order ⟨0, 0, false, []⟩
  return transports.afterPolls polls loop found

/-- What `Transports::poll_recv` returns and the transports after it. -/
def pollRecv (batchSize bufs metas : Nat) (isClosed : Bool) (transports : Transports)
    (polls : TransportPolls Error) :
    Outcome Empty (Relay.Poll (Except TransportsError Nat) × Transports) := do
  assertLengths bufs metas
  if bufs ≤ batchSize then
    if isClosed then
      return (.pending, transports)
    let (call, transports) ← transports.assertedInnerPollRecv batchSize bufs metas polls
    return (call.result, transports)
  else .panicked

variable {transports : Transports} {batchSize bufs metas recvInfos : Nat}

private theorem assertRecv_ok (kind : TransportKind) :
    kind.assertRecv bufs bufs bufs = .ok () := by
  cases kind <;> simp [TransportKind.assertRecv, assertLengths]

private theorem assertedPollTransports_ok (polls : TransportPolls Error) (order : List TransportId)
    (loop : PollLoop) :
    assertedPollTransports bufs bufs bufs polls order loop =
      .ok (pollTransports polls order loop) := by
  induction order generalizing loop with
  | nil => rfl
  | cons transport order inductionHypothesis =>
      rw [assertedPollTransports, assertRecv_ok]
      simp only [Outcome.ok_bind, pollTransports, inductionHypothesis]
      cases polls transport with
      | pending => rfl
      | ready result =>
          cases result with
          | error error => rfl
          | ok count => cases count <;> rfl

private theorem assertedInnerPollRecv_ok (polls : TransportPolls Error) :
    transports.assertedInnerPollRecv bufs bufs bufs polls =
      .ok (transports.innerPollRecv polls) := by
  simp [assertedInnerPollRecv, assertLengths, assertedPollTransports_ok, innerPollRecv]

private theorem assertedPollTransports_panics (fewer : bufs ≠ recvInfos)
    (polls : TransportPolls Error)
    {transport : TransportId} (notCustom : transport.kind ≠ .custom) (order : List TransportId)
    (loop : PollLoop) :
    assertedPollTransports bufs metas recvInfos polls (transport :: order) loop = .panicked := by
  have panics : transport.kind.assertRecv bufs metas recvInfos = .panicked := by
    cases kind : transport.kind with
    | custom => exact absurd kind notCustom
    | ip | relay =>
        have differs : assertLengths bufs recvInfos = .panicked := if_neg fewer
        rw [TransportKind.assertRecv, differs, assertLengths]
        split <;> rfl
  rw [assertedPollTransports, panics]
  rfl

private theorem kind_of_mem_order (noCustom : transports.custom = 0) {transport : TransportId}
    (member : transport ∈ transports.order) : transport.kind ≠ .custom := by
  rw [mem_order, all] at member
  simp only [ipIter, relayIter, customIter, noCustom, List.range_zero, List.map_nil,
    List.append_nil, List.mem_append, List.mem_map] at member
  rcases member with ⟨index, -, rfl⟩ | ⟨index, -, rfl⟩
  · exact TransportKind.noConfusion
  · exact TransportKind.noConfusion

private theorem order_eq_nil_iff : transports.order = [] ↔
    transports.ipV4 + transports.ipV6 + transports.relay + transports.custom = 0 := by
  unfold order
  split <;> simp [ipIter, relayIter, customIter] <;> omega

/-- A call that passes its own checks, on sockets and relay transports, returns only if the socket
is closed, there is no transport, or there are as many buffers as `BATCH_SIZE`. -/
theorem pollRecv_returns_iff (noCustom : transports.custom = 0) (equal : bufs = metas)
    (admitted : bufs ≤ batchSize) (isClosed : Bool) (polls : TransportPolls Error) :
    (transports.pollRecv batchSize bufs metas isClosed polls).Returns ↔
      isClosed = true ∨ transports.ipV4 + transports.ipV6 + transports.relay = 0 ∨
        bufs = batchSize := by
  subst equal
  have checked : assertLengths bufs bufs = .ok () := if_pos rfl
  simp only [pollRecv, checked, Outcome.ok_bind, if_pos admitted]
  cases isClosed with
  | true => simp
  | false =>
      by_cases full : bufs = batchSize
      · subst full
        simp [assertedInnerPollRecv_ok]
      · simp only [assertedInnerPollRecv, checked, Outcome.ok_bind]
        cases order : transports.order with
        | nil =>
            have empty := order_eq_nil_iff.mp order
            have none : transports.ipV4 + transports.ipV6 + transports.relay = 0 := by omega
            exact iff_of_true (Outcome.returns_ok _) (.inr (.inl none))
        | cons first rest =>
            have notCustom : first.kind ≠ .custom :=
              kind_of_mem_order noCustom (order ▸ List.mem_cons_self)
            have some : ¬ transports.ipV4 + transports.ipV6 + transports.relay = 0 := by
              intro none
              have nothing := order_eq_nil_iff.mpr (show _ + transports.custom = 0 by omega)
              rw [order] at nothing
              cases nothing
            rw [assertedPollTransports_panics full polls notCustom]
            simp only [Bool.false_eq_true, some, full, or_self, iff_false]
            exact Outcome.not_returns_panicked

/-- A batch of as many buffers as there are infos. -/
theorem pollRecv_returns_full :
    ((bind 1 1 1 0).pollRecv 32 32 32 false alwaysReady).Returns :=
  (pollRecv_returns_iff rfl rfl (Nat.le_refl 32) false alwaysReady).mpr (.inr (.inr rfl))

/-- One buffer, which is at most `BATCH_SIZE`, and one socket. -/
theorem pollRecv_one_buffer_panics :
    (bind 1 0 0 0).pollRecv 32 1 1 false alwaysReady = .panicked := rfl

end Transports

end NexalinkTunnel.Socket
