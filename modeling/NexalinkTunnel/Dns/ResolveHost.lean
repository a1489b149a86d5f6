import NexalinkTunnel.Dns.HostStream
import NexalinkTunnel.Lib.Transition

/-!
Contract: the consumer of the addresses of a host.

Owns what the stream of `resolve_host_all` yields whenever the two lookups finish and
whenever it is polled, that it ends, and how it agrees with `resolve_host`.

A poll is a sequence of turns of the loop, and a lookup may finish between any two of
them. The stream is not polled again once it has ended, where it would panic.
-/

namespace NexalinkTunnel.Dns

open Lib Base

/-- A stream, whether a poll of it is under way, and what its polls answered. -/
structure Resolving where
  stream : HostStream
  polling : Bool
  answers : List (Polled HostItem)

inductive ResolvingStep where
  | ipv4Ready
  | ipv6Ready
  | poll
  | turn

namespace Resolving

def next (resolving : Resolving) : ResolvingStep → Option Resolving
  | .ipv4Ready =>
      match resolving.stream with
      | .once _ => none
      | .lookups state => state.v4Fut.complete.map fun future =>
          { resolving with stream := .lookups { state with v4Fut := future } }
  | .ipv6Ready =>
      match resolving.stream with
      | .once _ => none
      | .lookups state => state.v6Fut.complete.map fun future =>
          { resolving with stream := .lookups { state with v6Fut := future } }
  | .poll =>
      if resolving.polling || resolving.answers.contains .ended then none
      else some { resolving with polling := true }
  | .turn =>
      if resolving.polling then
        match resolving.stream.turn with
        | .again stream => some { resolving with stream := stream }
        | .done answer stream => some ⟨stream, false, resolving.answers ++ [answer]⟩
      else none

abbrev machine (lookups : HostLookups) (host : Option Host) : Machine Resolving ResolvingStep :=
  .ofNext ⟨resolveHostAll lookups host, false, []⟩ next

end Resolving

/-- The answers are those of a stream that yields one of the outputs and then ends. -/
structure Yields (outputs : List (List HostItem)) (answers : List (Polled HostItem)) : Prop where
  items : ∃ output ∈ outputs, Polled.items answers <+: output ∧
    (.ended ∈ answers → Polled.items answers = output)
  last : answers.Pairwise fun earlier _ => earlier ≠ .ended

section Runs

variable {lookups : HostLookups} {host : Option Host} {stream : HostStream}
  {items : List HostItem}

/-- What a stream has to do with the items yielded so far. -/
def StreamFollows (lookups : HostLookups) (host : Option Host) :
    HostStream → List HostItem → Prop
  | .once item, items => hostOutputs lookups host = [items ++ item.toList]
  | .lookups state, items => ∃ name, host = some (.domain name) ∧
      Follows (lookups.ipv4 name) (lookups.ipv6 name) state items

private theorem streamFollows_start (lookups : HostLookups) (host : Option Host) :
    StreamFollows lookups host (resolveHostAll lookups host) [] := by
  match host with
  | none => rfl
  | some (.ipv4 ip) => rfl
  | some (.ipv6 ip) => rfl
  | some (.domain name) => exact ⟨name, rfl, follows_start lookups name⟩

private theorem StreamFollows.keeps_turn (follows : StreamFollows lookups host stream items) :
    stream.turn.Keeps (StreamFollows lookups host) (hostOutputs lookups host) items := by
  cases stream with
  | once item =>
      cases item with
      | none =>
          have all : hostOutputs lookups host = [items] := by
            rw [follows, Option.toList_none, List.append_nil]
          refine ⟨?_, fun _ => ?_⟩
          · simpa [StreamFollows, Polled.item?] using all
          · rw [all]
            exact List.mem_singleton_self items
      | some item =>
          refine ⟨?_, fun isEnd => ?_⟩
          · simpa [StreamFollows, Polled.item?] using follows
          · cases isEnd
  | lookups state =>
      obtain ⟨name, rfl, inner⟩ := follows
      have keeps := inner.keeps_turn
      rw [HostStream.turn]
      cases turned : state.turn with
      | again state =>
          rw [turned] at keeps
          exact ⟨name, rfl, keeps⟩
      | done answer state =>
          rw [turned] at keeps
          exact ⟨⟨name, rfl, keeps.1⟩, keeps.2⟩

private theorem StreamFollows.exists_output (follows : StreamFollows lookups host stream items) :
    ∃ output ∈ hostOutputs lookups host, items <+: output := by
  match stream with
  | .once item =>
      have all : hostOutputs lookups host = [items ++ item.toList] := follows
      exact ⟨items ++ item.toList, by simp [all], List.prefix_append _ _⟩
  | .lookups state =>
      obtain ⟨name, rfl, inner⟩ := follows
      exact inner.exists_output

structure ResolvingFollows (lookups : HostLookups) (host : Option Host) (resolving : Resolving) :
    Prop where
  stream : StreamFollows lookups host resolving.stream (Polled.items resolving.answers)
  ended : .ended ∈ resolving.answers →
    Polled.items resolving.answers ∈ hostOutputs lookups host
  polling : resolving.polling = true → .ended ∉ resolving.answers
  last : resolving.answers.Pairwise fun earlier _ => earlier ≠ .ended

private theorem resolvingFollows_start (lookups : HostLookups) (host : Option Host) :
    ResolvingFollows lookups host ⟨resolveHostAll lookups host, false, []⟩ where
  stream := streamFollows_start lookups host
  ended := nofun
  polling := nofun
  last := .nil

variable {resolving after : Resolving}

private theorem ResolvingFollows.withStream (follows : ResolvingFollows lookups host resolving)
    (kept : StreamFollows lookups host stream (Polled.items resolving.answers)) :
    ResolvingFollows lookups host { resolving with stream := stream } :=
  ⟨kept, follows.ended, follows.polling, follows.last⟩

private theorem ResolvingFollows.turn (follows : ResolvingFollows lookups host resolving)
    (turned : resolving.next .turn = some after) : ResolvingFollows lookups host after := by
  have keeps := follows.stream.keeps_turn
  unfold Resolving.next at turned
  dsimp only at turned
  split at turned
  next polling =>
    split at turned
    next stream again =>
      cases turned
      rw [again] at keeps
      exact follows.withStream keeps
    next answer stream returned =>
      cases turned
      rw [returned] at keeps
      have first : .ended ∉ resolving.answers := follows.polling polling
      refine ⟨?_, fun ended => ?_, nofun, ?_⟩
      · rw [Polled.items_concat]
        exact keeps.1
      · have isEnd : answer = .ended := by simpa [first, eq_comm] using ended
        have complete := keeps.2 isEnd
        rw [Polled.items_concat, isEnd]
        simpa [Polled.item?] using complete
      · refine List.pairwise_append.mpr ⟨follows.last, List.pairwise_singleton _ _, ?_⟩
        intro earlier inside _ _ isEnd
        exact first (isEnd ▸ inside)
  next => cases turned

private theorem ResolvingFollows.step (follows : ResolvingFollows lookups host resolving)
    (step : ResolvingStep) (moved : resolving.next step = some after) :
    ResolvingFollows lookups host after := by
  cases step with
  | turn => exact follows.turn moved
  | poll =>
      unfold Resolving.next at moved
      dsimp only at moved
      split at moved
      next => cases moved
      next idle =>
        cases moved
        refine ⟨follows.stream, follows.ended, fun _ ended => idle ?_, follows.last⟩
        simp [ended]
  | ipv4Ready =>
      unfold Resolving.next at moved
      dsimp only at moved
      split at moved
      next => cases moved
      next state isLookups =>
        obtain ⟨future, completes, rfl⟩ := Option.map_eq_some_iff.mp moved
        obtain ⟨name, rfl, inner⟩ := isLookups ▸ follows.stream
        exact follows.withStream ⟨name, rfl, inner.completeIpv4 completes⟩
  | ipv6Ready =>
      unfold Resolving.next at moved
      dsimp only at moved
      split at moved
      next => cases moved
      next state isLookups =>
        obtain ⟨future, completes, rfl⟩ := Option.map_eq_some_iff.mp moved
        obtain ⟨name, rfl, inner⟩ := isLookups ▸ follows.stream
        exact follows.withStream ⟨name, rfl, inner.completeIpv6 completes⟩

variable {history : List ResolvingStep}

private theorem resolvingFollows_of_reaches
    (reached : (Resolving.machine lookups host).Reaches history resolving) :
    ResolvingFollows lookups host resolving :=
  reached.invariant_next (fun _ resolving => ResolvingFollows lookups host resolving)
    (resolvingFollows_start lookups host) fun _ _ step _ moved follows => follows.step step moved

private theorem ResolvingFollows.yields (follows : ResolvingFollows lookups host resolving) :
    Yields (hostOutputs lookups host) resolving.answers := by
  refine ⟨?_, follows.last⟩
  by_cases ended : .ended ∈ resolving.answers
  · exact ⟨_, follows.ended ended, List.prefix_refl _, fun _ => rfl⟩
  · obtain ⟨output, isOutput, inside⟩ := follows.stream.exists_output
    exact ⟨output, isOutput, inside, fun isEnd => absurd isEnd ended⟩

end Runs

section Ending

variable {Addr : Type}

def addrCount : Except DnsError (List Addr) → Nat
  | .ok addrs => addrs.length
  | .error _ => 0

/-- How many steps a lookup is still good for: to finish, to be taken, and an answer for each
address. -/
def MaybeFuture.weight : MaybeFuture (Except DnsError (List Addr)) → Nat
  | .none => 0
  | .running result => addrCount result + 2
  | .ready result => addrCount result + 1

def HostStream.State.weight (state : HostStream.State) : Nat :=
  state.v4Fut.weight + state.v6Fut.weight + state.queue.length + (!state.closed).toNat

def HostStream.weight : HostStream → Nat
  | .once item => item.toList.length
  | .lookups state => state.weight

def MaybeFuture.Running {Output : Type} : MaybeFuture Output → Prop
  | .running _ => True
  | _ => False

/-- A turn uses up weight, unless it waits for a lookup or ends. -/
def HostStream.Turn.Lowers {Stream : Type} (weight : Stream → Nat) (Waits : Prop) (limit : Nat) :
    HostStream.Turn Stream → Prop
  | .again stream => weight stream < limit
  | .done .pending _ => Waits
  | .done (.item _) stream => weight stream < limit
  | .done .ended _ => True

private theorem weight_takeIpv4 {state : HostStream.State}
    {result : Except DnsError (List (BitVec 32))} (ready : state.v4Fut = .ready result) :
    (state.takeIpv4 result).weight < state.weight := by
  unfold HostStream.State.weight
  rw [ready]
  cases result <;> simp only [HostStream.State.takeIpv4, MaybeFuture.weight, addrCount,
    List.length_append, List.length_map] <;> omega

private theorem weight_takeIpv6 {state : HostStream.State}
    {result : Except DnsError (List (BitVec 128))} (ready : state.v6Fut = .ready result) :
    (state.takeIpv6 result).weight < state.weight := by
  unfold HostStream.State.weight
  rw [ready]
  cases result <;> simp only [HostStream.State.takeIpv6, MaybeFuture.weight, addrCount,
    List.length_append, List.length_map] <;> omega

private theorem lowers_finish {state : HostStream.State} (waiting : state.closed = false) :
    state.finish.Lowers HostStream.State.weight (state.v4Fut.Running ∨ state.v6Fut.Running)
      state.weight := by
  have lower : ({ state with closed := true, v4Err := none, v6Err := none } :
      HostStream.State).weight < state.weight := by
    simp [HostStream.State.weight, waiting]
  unfold HostStream.State.finish
  dsimp only
  split
  · exact lower
  · split
    · trivial
    · exact lower

private theorem lowers_select {state : HostStream.State}
    (left : (state.v4Fut.isNone && state.v6Fut.isNone) = false) :
    state.select.Lowers HostStream.State.weight (state.v4Fut.Running ∨ state.v6Fut.Running)
      state.weight := by
  unfold HostStream.State.select
  split
  next ready => exact weight_takeIpv4 ready
  next noReady4 =>
    split
    next ready => exact weight_takeIpv6 ready
    next noReady6 =>
      change state.v4Fut.Running ∨ state.v6Fut.Running
      cases fut4 : state.v4Fut with
      | running => exact .inl trivial
      | ready result => exact absurd fut4 (noReady4 result)
      | none =>
          cases fut6 : state.v6Fut with
          | running => exact .inr trivial
          | ready result => exact absurd fut6 (noReady6 result)
          | none => simp [fut4, fut6, MaybeFuture.isNone] at left

private theorem lowers_turn (state : HostStream.State) :
    state.turn.Lowers HostStream.State.weight (state.v4Fut.Running ∨ state.v6Fut.Running)
      state.weight := by
  unfold HostStream.State.turn
  split
  · trivial
  next waiting =>
    rw [Bool.not_eq_true] at waiting
    split
    next item queue queued =>
      change _ < _
      simp [HostStream.State.weight, queued]
    next =>
      split
      · exact lowers_finish waiting
      next left => exact lowers_select (Bool.not_eq_true _ ▸ left)

def HostStream.Waits : HostStream → Prop
  | .once _ => False
  | .lookups state => state.v4Fut.Running ∨ state.v6Fut.Running

private theorem HostStream.lowers_turn (stream : HostStream) :
    stream.turn.Lowers HostStream.weight stream.Waits stream.weight := by
  match stream with
  | .once none => trivial
  | .once (some item) => exact Nat.zero_lt_one
  | .lookups state =>
      have lowers := Dns.lowers_turn state
      rw [HostStream.turn]
      cases turned : state.turn with
      | again after =>
          rw [turned] at lowers
          exact lowers
      | done answer after =>
          rw [turned] at lowers
          cases answer with
          | pending => exact lowers
          | item item => exact lowers
          | ended => trivial

def Resolving.weight (resolving : Resolving) : Nat :=
  2 * resolving.stream.weight + (!resolving.polling).toNat

private theorem MaybeFuture.exists_complete {future : MaybeFuture (Except DnsError (List Addr))}
    (running : future.Running) :
    ∃ after, future.complete = some after ∧ after.weight < future.weight := by
  cases future with
  | running result => exact ⟨.ready result, rfl, Nat.lt_succ_self _⟩
  | none => cases running
  | ready result => cases running

variable {resolving : Resolving}

private theorem exists_ready_step {stream : HostStream} (waits : stream.Waits) (polling : Bool)
    (answers : List (Polled HostItem)) :
    ∃ step after, Resolving.next ⟨stream, polling, answers⟩ step = some after ∧
      after.weight < Resolving.weight ⟨stream, polling, answers⟩ := by
  match stream with
  | .lookups state =>
      rcases waits with running | running
      · obtain ⟨future, completes, lower⟩ := MaybeFuture.exists_complete running
        refine ⟨.ipv4Ready, _, Option.map_eq_some_iff.mpr ⟨future, completes, rfl⟩, ?_⟩
        simp only [Resolving.weight, HostStream.weight, HostStream.State.weight]
        omega
      · obtain ⟨future, completes, lower⟩ := MaybeFuture.exists_complete running
        refine ⟨.ipv6Ready, _, Option.map_eq_some_iff.mpr ⟨future, completes, rfl⟩, ?_⟩
        simp only [Resolving.weight, HostStream.weight, HostStream.State.weight]
        omega

private theorem exists_step (going : .ended ∉ resolving.answers) :
    ∃ step after, resolving.next step = some after ∧
      (.ended ∈ after.answers ∨ after.weight < resolving.weight) := by
  obtain ⟨stream, polling, answers⟩ := resolving
  cases polling with
  | false =>
      refine ⟨.poll, ⟨stream, true, answers⟩, ?_, .inr ?_⟩
      · simpa [Resolving.next] using going
      · simp [Resolving.weight]
  | true =>
      by_cases waits : stream.Waits
      · obtain ⟨step, after, moved, lower⟩ := exists_ready_step waits true answers
        exact ⟨step, after, moved, .inr lower⟩
      · have lowers := stream.lowers_turn
        cases turned : stream.turn with
        | again next =>
            rw [turned] at lowers
            have lower : next.weight < stream.weight := lowers
            refine ⟨.turn, ⟨next, true, answers⟩, by simp [Resolving.next, turned], .inr ?_⟩
            simp only [Resolving.weight]
            omega
        | done answer next =>
            rw [turned] at lowers
            refine ⟨.turn, ⟨next, false, answers ++ [answer]⟩, by
              simp [Resolving.next, turned], ?_⟩
            cases answer with
            | pending => exact absurd lowers waits
            | ended => exact .inl (by simp)
            | item item =>
                have lower : next.weight < stream.weight := lowers
                right
                simp only [Resolving.weight, Bool.not_false, Bool.toNat_true, Bool.not_true,
                  Bool.toNat_false]
                omega

private theorem exists_ended {lookups : HostLookups} {host : Option Host}
    {history : List ResolvingStep}
    (reached : (Resolving.machine lookups host).Reaches history resolving) :
    ∃ rest after, (Resolving.machine lookups host).Reaches (history ++ rest) after ∧
      .ended ∈ after.answers := by
  refine reached.exists_done (fun _ resolving => .ended ∈ resolving.answers)
    (fun _ resolving => resolving.weight) ?_
  intro history resolving _ going
  exact exists_step going

end Ending

/-- Whenever the lookups finish and the stream is polled, it yields the addresses of both
families, one family after the other and each in the order of its lookup, or one error if there
are none. Then it ends, which it can from wherever it is. -/
theorem resolveHostAll_yields {lookups : HostLookups} {host : Option Host}
    {history : List ResolvingStep} {resolving : Resolving}
    (reached : (Resolving.machine lookups host).Reaches history resolving) :
    Yields (hostOutputs lookups host) resolving.answers ∧
      ∃ rest after, (Resolving.machine lookups host).Reaches (history ++ rest) after ∧
        .ended ∈ after.answers :=
  ⟨(resolvingFollows_of_reaches reached).yields, exists_ended reached⟩

/-- Two lookups of a name: one finds an address, the other nothing. -/
def oneAddress : HostLookups := ⟨fun _ => .ok [7], fun _ => .ok []⟩

theorem oneAddress_yielded :
    Yields (hostOutputs oneAddress (some (.domain "host")))
        [.pending, .item (.ok (.v4 7)), .ended] ∧
      ∃ rest after, (Resolving.machine oneAddress (some (.domain "host"))).Reaches
        ([.poll, .turn, .ipv6Ready, .poll, .turn, .ipv4Ready, .turn, .turn, .poll, .turn] ++ rest)
          after ∧ .ended ∈ after.answers :=
  have reached : (Resolving.machine oneAddress (some (.domain "host"))).Reaches
      [.poll, .turn, .ipv6Ready, .poll, .turn, .ipv4Ready, .turn, .turn, .poll, .turn] _ :=
    Machine.reaches_runFrom (by decide)
  resolveHostAll_yields reached

/-- The first address of the preferred family, or else of the other. -/
def preferred (preferIpv6 : Bool) (v4 v6 : Option IpAddr) : HostItem :=
  match if preferIpv6 then v6.or v4 else v4.or v6 with
  | some ip => .ok ip
  | none => .error .noResponse

def resolveHost (lookups : HostLookups) (preferIpv6 : Bool) : Option Host → HostItem
  | none => .error .missingHost
  | some (.ipv4 ip) => .ok (.v4 ip)
  | some (.ipv6 ip) => .ok (.v6 ip)
  | some (.domain name) =>
      match lookups.ipv4 name, lookups.ipv6 name with
      | .error ipv4, .error ipv6 => .error (.resolveBoth ipv4 ipv6)
      | .error _, .ok v6 => preferred preferIpv6 none (v6.map IpAddr.v6).head?
      | .ok v4, .error _ => preferred preferIpv6 (v4.map IpAddr.v4).head? none
      | .ok v4, .ok v6 => preferred preferIpv6 (v4.map IpAddr.v4).head? (v6.map IpAddr.v6).head?

private theorem preferred_mem {addrs4 addrs6 order : List IpAddr} (preferIpv6 : Bool)
    (all : ∀ ip, ip ∈ order ↔ ip ∈ addrs4 ∨ ip ∈ addrs6) :
    preferred preferIpv6 addrs4.head? addrs6.head? ∈ addrsOrError .noResponse order := by
  have chosen : ∀ ip, (if preferIpv6 then addrs6.head?.or addrs4.head?
      else addrs4.head?.or addrs6.head?) = some ip → ip ∈ order := by
    intro ip found
    rw [all]
    split at found
    · rcases Option.or_eq_some_iff.mp found with first | ⟨-, first⟩
      · exact .inr (List.mem_of_head? first)
      · exact .inl (List.mem_of_head? first)
    · rcases Option.or_eq_some_iff.mp found with first | ⟨-, first⟩
      · exact .inl (List.mem_of_head? first)
      · exact .inr (List.mem_of_head? first)
  unfold preferred
  split
  next ip found =>
    have inside := chosen ip found
    rw [addrsOrError, if_neg (by simpa using List.ne_nil_of_mem inside)]
    exact List.mem_map_of_mem inside
  next silent =>
    have empty : order = [] := by
      have none : addrs4 = [] ∧ addrs6 = [] := by
        cases preferIpv6 <;> simpa [Option.or_eq_none_iff, and_comm] using silent
      rw [List.eq_nil_iff_forall_not_mem]
      intro ip inside
      simpa [none.1, none.2] using (all ip).mp inside
    rw [empty]
    exact List.mem_singleton_self _

private theorem resolveHost_mem_output {lookups : HostLookups} (preferIpv6 : Bool)
    {host : Option Host} {output : List HostItem} (isOutput : output ∈ hostOutputs lookups host) :
    resolveHost lookups preferIpv6 host ∈ output := by
  match host with
  | none | some (.ipv4 _) | some (.ipv6 _) =>
      rw [List.mem_singleton.mp isOutput]
      exact List.mem_singleton_self _
  | some (.domain name) =>
      have family : ∃ order, output =
          addrsOrError (noAddress (lookups.ipv4 name) (lookups.ipv6 name)) order ∧
            ∀ ip, ip ∈ order ↔ ip ∈ lookupAddrs .v4 (lookups.ipv4 name) ∨
              ip ∈ lookupAddrs .v6 (lookups.ipv6 name) := by
        rcases List.mem_cons.mp isOutput with rfl | last
        · exact ⟨_, rfl, fun ip => List.mem_append⟩
        · exact ⟨_, List.mem_singleton.mp last, fun ip => List.mem_append.trans or_comm⟩
      obtain ⟨order, rfl, all⟩ := family
      rw [resolveHost]
      cases found4 : lookups.ipv4 name <;> cases found6 : lookups.ipv6 name <;>
        rw [found4, found6] at all
      case error.error =>
        have empty : order = [] := by
          rw [List.eq_nil_iff_forall_not_mem]
          intro ip inside
          simpa [lookupAddrs] using (all ip).mp inside
        rw [empty]
        exact List.mem_singleton_self _
      -- One of the lookups found addresses.
      all_goals exact preferred_mem preferIpv6 all

/-- The one answer is among those of a stream that has ended, whichever family came first there. -/
theorem resolveHost_mem_answers {lookups : HostLookups} (preferIpv6 : Bool) {host : Option Host}
    {history : List ResolvingStep} {resolving : Resolving}
    (reached : (Resolving.machine lookups host).Reaches history resolving)
    (ended : .ended ∈ resolving.answers) :
    .item (resolveHost lookups preferIpv6 host) ∈ resolving.answers := by
  obtain ⟨output, isOutput, -, whole⟩ := (resolvingFollows_of_reaches reached).yields.items
  have yielded := resolveHost_mem_output preferIpv6 isOutput
  rw [← whole ended] at yielded
  exact Polled.mem_items.mp yielded

theorem oneAddress_resolved :
    Polled.item (resolveHost oneAddress true (some (.domain "host"))) ∈
      [.pending, .item (.ok (.v4 7)), .ended] := by
  have reached : (Resolving.machine oneAddress (some (.domain "host"))).Reaches
      [.poll, .turn, .ipv6Ready, .poll, .turn, .ipv4Ready, .turn, .turn, .poll, .turn] _ :=
    Machine.reaches_runFrom (by decide)
  exact resolveHost_mem_answers true reached (by decide)

end NexalinkTunnel.Dns
