import NexalinkTunnel.Base.EndpointAddr
import NexalinkTunnel.Lib.PolledStreams

/-!
Contract: the addresses of a host, of both families, as they are found.

Owns the stream of `resolve_host_all` with the turns of the loop that every poll of it
runs, and what it may yield in all for the results of the two lookups.

Does not own: the lookups themselves, with their retries and timeouts. Each of them
finishes at some time, with addresses or with an error.
-/

namespace NexalinkTunnel.Dns

open Lib Base

inductive DnsError where
  | timeout
  | noResponse
  | resolveBoth (ipv4 ipv6 : DnsError)
  | missingHost
  | resolve (source : String)
  | invalidResponse
deriving DecidableEq

inductive Host where
  | domain (name : String)
  | ipv4 (ip : BitVec 32)
  | ipv6 (ip : BitVec 128)

structure HostLookups where
  ipv4 : String → Except DnsError (List (BitVec 32))
  ipv6 : String → Except DnsError (List (BitVec 128))

abbrev HostItem := Except DnsError IpAddr

/-- A future that may have been taken. It carries the result that it has or will have. -/
inductive MaybeFuture (Output : Type) where
  | none
  | running (output : Output)
  | ready (output : Output)

namespace MaybeFuture

variable {Output : Type}

def isNone : MaybeFuture Output → Bool
  | .none => true
  | _ => false

def complete : MaybeFuture Output → Option (MaybeFuture Output)
  | .running output => some (.ready output)
  | _ => Option.none

end MaybeFuture

namespace HostStream

structure State where
  v4Fut : MaybeFuture (Except DnsError (List (BitVec 32)))
  v6Fut : MaybeFuture (Except DnsError (List (BitVec 128)))
  v4Err : Option DnsError
  v6Err : Option DnsError
  queue : List IpAddr
  closed : Bool
  yielded : Bool

/-- How a turn of the loop ends: with another turn or with an answer. -/
inductive Turn (Stream : Type) where
  | again (stream : Stream)
  | done (answer : Polled HostItem) (stream : Stream)

def Turn.map {Stream Other : Type} (f : Stream → Other) : Turn Stream → Turn Other
  | .again stream => .again (f stream)
  | .done answer stream => .done answer (f stream)

namespace State

def start (lookups : HostLookups) (name : String) : State :=
  ⟨.running (lookups.ipv4 name), .running (lookups.ipv6 name), none, none, [], false, false⟩

def takeIpv4 (state : State) : Except DnsError (List (BitVec 32)) → State
  | .ok items => { state with v4Fut := .none, queue := state.queue ++ items.map .v4 }
  | .error err => { state with v4Fut := .none, v4Err := some err }

def takeIpv6 (state : State) : Except DnsError (List (BitVec 128)) → State
  | .ok items => { state with v6Fut := .none, queue := state.queue ++ items.map .v6 }
  | .error err => { state with v6Fut := .none, v6Err := some err }

/-- The last item once both futures completed, or the end if items were yielded. -/
def finish (state : State) : Turn State :=
  let closed := { state with closed := true, v4Err := none, v6Err := none }
  match state.v4Err, state.v6Err with
  | some v4, some v6 => .done (.item (.error (.resolveBoth v4 v6))) closed
  | _, _ =>
      if state.yielded then .done .ended closed else .done (.item (.error .noResponse)) closed

/-- The futures are polled in this order. One that was taken stays pending. -/
def select (state : State) : Turn State :=
  match state.v4Fut with
  | .ready result => .again (state.takeIpv4 result)
  | _ =>
      match state.v6Fut with
      | .ready result => .again (state.takeIpv6 result)
      | _ => .done .pending state

def turn (state : State) : Turn State :=
  if state.closed then .done .ended state
  else
    match state.queue with
    | item :: queue => .done (.item (.ok item)) { state with queue := queue, yielded := true }
    | [] => if state.v4Fut.isNone && state.v6Fut.isNone then state.finish else state.select

end State

end HostStream

/-- The stream: one item, or the loop over the lookups. -/
inductive HostStream where
  | once (item : Option HostItem)
  | lookups (state : HostStream.State)

def resolveHostAll (lookups : HostLookups) : Option Host → HostStream
  | none => .once (some (.error .missingHost))
  | some (.ipv4 ip) => .once (some (.ok (.v4 ip)))
  | some (.ipv6 ip) => .once (some (.ok (.v6 ip)))
  | some (.domain name) => .lookups (.start lookups name)

def HostStream.turn : HostStream → Turn HostStream
  | .once (some item) => .done (.item item) (.once none)
  | .once none => .done .ended (.once none)
  | .lookups state => state.turn.map .lookups

section Outputs

variable {Addr : Type}

def lookupAddrs (ip : Addr → IpAddr) : Except DnsError (List Addr) → List IpAddr
  | .ok addrs => addrs.map ip
  | .error _ => []

def lookupError : Except DnsError (List Addr) → Option DnsError
  | .ok _ => none
  | .error error => some error

end Outputs

def noAddress (ipv4 : Except DnsError (List (BitVec 32)))
    (ipv6 : Except DnsError (List (BitVec 128))) : DnsError :=
  match ipv4, ipv6 with
  | .error ipv4, .error ipv6 => .resolveBoth ipv4 ipv6
  | _, _ => .noResponse

def addrsOrError (error : DnsError) (addrs : List IpAddr) : List HostItem :=
  if addrs.isEmpty then [.error error] else addrs.map .ok

def nameOutputs (ipv4 : Except DnsError (List (BitVec 32)))
    (ipv6 : Except DnsError (List (BitVec 128))) : List (List HostItem) :=
  [addrsOrError (noAddress ipv4 ipv6) (lookupAddrs .v4 ipv4 ++ lookupAddrs .v6 ipv6),
    addrsOrError (noAddress ipv4 ipv6) (lookupAddrs .v6 ipv6 ++ lookupAddrs .v4 ipv4)]

def hostOutputs (lookups : HostLookups) : Option Host → List (List HostItem)
  | none => [[.error .missingHost]]
  | some (.ipv4 ip) => [[.ok (.v4 ip)]]
  | some (.ipv6 ip) => [[.ok (.v6 ip)]]
  | some (.domain name) => nameOutputs (lookups.ipv4 name) (lookups.ipv6 name)

/-- A turn adds the item it answers with, and ends only when an output is complete. `Follows` says
what a stream has to do with the items yielded so far. -/
def HostStream.Turn.Keeps {Stream : Type} (Follows : Stream → List HostItem → Prop)
    (outputs : List (List HostItem)) (items : List HostItem) : HostStream.Turn Stream → Prop
  | .again stream => Follows stream items
  | .done answer stream => Follows stream (items ++ answer.item?.toList) ∧
      (answer = .ended → items ∈ outputs)

section Turns

variable {Addr : Type}

/-- How a future and an error slot belong to a lookup. -/
inductive Tracks (result : Except DnsError (List Addr)) :
    MaybeFuture (Except DnsError (List Addr)) → Option DnsError → Prop where
  | running : Tracks result (.running result) none
  | ready : Tracks result (.ready result) none
  | taken : Tracks result .none (lookupError result)

/-- The addresses of the lookups that were taken, in the order they were taken. -/
def takenAddrs (addrs4 addrs6 : List IpAddr) : Bool → Bool → List (List IpAddr)
  | false, false => [[]]
  | true, false => [addrs4]
  | false, true => [addrs6]
  | true, true => [addrs4 ++ addrs6, addrs6 ++ addrs4]

variable (ipv4 : Except DnsError (List (BitVec 32))) (ipv6 : Except DnsError (List (BitVec 128)))

/-- What an open state has to do with the items yielded so far. -/
structure OpenFollows (state : HostStream.State) (items : List HostItem) : Prop where
  tracksIpv4 : Tracks ipv4 state.v4Fut state.v4Err
  tracksIpv6 : Tracks ipv6 state.v6Fut state.v6Err
  yielded : state.yielded = !items.isEmpty
  taken : ∃ addrs ∈ takenAddrs (lookupAddrs .v4 ipv4) (lookupAddrs .v6 ipv6)
    state.v4Fut.isNone state.v6Fut.isNone, items ++ state.queue.map .ok = addrs.map .ok

structure Follows (state : HostStream.State) (items : List HostItem) : Prop where
  ofOpen : state.closed = false → OpenFollows ipv4 ipv6 state items
  ofClosed : state.closed = true → items ∈ nameOutputs ipv4 ipv6

abbrev Keeps (items : List HostItem) (turn : HostStream.Turn HostStream.State) : Prop :=
  turn.Keeps (Follows ipv4 ipv6) (nameOutputs ipv4 ipv6) items

variable {ipv4 ipv6} {state : HostStream.State} {items : List HostItem}

theorem follows_start (lookups : HostLookups) (name : String) :
    Follows (lookups.ipv4 name) (lookups.ipv6 name) (.start lookups name) [] where
  ofOpen _ := ⟨.running, .running, rfl, [], List.mem_singleton_self _, rfl⟩
  ofClosed := nofun

private theorem OpenFollows.keeps_pop (follows : OpenFollows ipv4 ipv6 state items)
    (waiting : state.closed = false) {item : IpAddr} {queue : List IpAddr}
    (queued : state.queue = item :: queue) :
    Keeps ipv4 ipv6 items
      (.done (.item (.ok item)) { state with queue := queue, yielded := true }) := by
  refine ⟨⟨fun _ => ⟨follows.tracksIpv4, follows.tracksIpv6, ?_, ?_⟩, ?_⟩, nofun⟩
  · simp [Polled.item?]
  · obtain ⟨addrs, taken, same⟩ := follows.taken
    refine ⟨addrs, taken, ?_⟩
    rw [← same, queued]
    simp [Polled.item?]
  · rw [waiting]
    nofun

private theorem Tracks.error_of_isNone {result : Except DnsError (List Addr)}
    {future : MaybeFuture (Except DnsError (List Addr))} {error : Option DnsError}
    (tracks : Tracks result future error) (taken : future.isNone = true) :
    error = lookupError result := by
  cases tracks with
  | running => cases taken
  | ready => cases taken
  | taken => rfl

private theorem OpenFollows.finish_eq (follows : OpenFollows ipv4 ipv6 state items)
    (taken4 : state.v4Fut.isNone = true) (taken6 : state.v6Fut.isNone = true)
    (empty : state.queue = []) :
    state.finish = .done (if items.isEmpty then .item (.error (noAddress ipv4 ipv6)) else .ended)
      { state with closed := true, v4Err := none, v6Err := none } := by
  have error4 := follows.tracksIpv4.error_of_isNone taken4
  have error6 := follows.tracksIpv6.error_of_isNone taken6
  obtain ⟨addrs, taken, same⟩ := follows.taken
  rw [taken4, taken6] at taken
  unfold HostStream.State.finish
  rw [error4, error6, follows.yielded]
  match ipv4, ipv6 with
  | .error ipv4, .error ipv6 =>
      -- two failed lookups have no addresses
      have none : addrs = [] := by simpa [takenAddrs, lookupAddrs] using taken
      have silent : items = [] := by simpa [empty, none] using same
      simp [silent, lookupError, noAddress]
  | .ok _, _ => cases items <;> simp [lookupError, noAddress]
  | .error _, .ok _ => cases items <;> simp [lookupError, noAddress]

private theorem OpenFollows.keeps_finish (follows : OpenFollows ipv4 ipv6 state items)
    (taken4 : state.v4Fut.isNone = true) (taken6 : state.v6Fut.isNone = true)
    (empty : state.queue = []) : Keeps ipv4 ipv6 items state.finish := by
  rw [follows.finish_eq taken4 taken6 empty]
  obtain ⟨addrs, taken, same⟩ := follows.taken
  rw [taken4, taken6] at taken
  have output : addrsOrError (noAddress ipv4 ipv6) addrs ∈ nameOutputs ipv4 ipv6 := by
    rcases List.mem_cons.mp taken with rfl | last
    · exact List.mem_cons_self
    · rw [List.mem_singleton.mp last]
      exact List.mem_cons_of_mem _ (List.mem_singleton_self _)
  rw [empty, List.map_nil, List.append_nil] at same
  subst same
  cases addrs with
  | nil => exact ⟨⟨nofun, fun _ => output⟩, nofun⟩
  | cons addr addrs =>
      refine ⟨⟨nofun, fun _ => ?_⟩, fun _ => output⟩
      simpa [Polled.item?, addrsOrError] using output

private theorem takeIpv4_eq (silent : state.v4Err = none)
    (result : Except DnsError (List (BitVec 32))) :
    state.takeIpv4 result =
      { state with
        v4Fut := .none
        v4Err := lookupError result
        queue := state.queue ++ lookupAddrs .v4 result } := by
  cases result with
  | ok addrs => simp [HostStream.State.takeIpv4, lookupError, lookupAddrs, silent]
  | error error => simp [HostStream.State.takeIpv4, lookupError, lookupAddrs]

private theorem takeIpv6_eq (silent : state.v6Err = none)
    (result : Except DnsError (List (BitVec 128))) :
    state.takeIpv6 result =
      { state with
        v6Fut := .none
        v6Err := lookupError result
        queue := state.queue ++ lookupAddrs .v6 result } := by
  cases result with
  | ok addrs => simp [HostStream.State.takeIpv6, lookupError, lookupAddrs, silent]
  | error error => simp [HostStream.State.takeIpv6, lookupError, lookupAddrs]

theorem Tracks.of_ready {result given : Except DnsError (List Addr)} {error : Option DnsError}
    (tracks : Tracks result (.ready given) error) : given = result ∧ error = none := by
  cases tracks
  exact ⟨rfl, rfl⟩

private theorem OpenFollows.takeIpv4 (follows : OpenFollows ipv4 ipv6 state items)
    {result : Except DnsError (List (BitVec 32))} (ready : state.v4Fut = .ready result) :
    OpenFollows ipv4 ipv6 (state.takeIpv4 result) items := by
  obtain ⟨rfl, silent⟩ := (ready ▸ follows.tracksIpv4).of_ready
  obtain ⟨addrs, taken, same⟩ := follows.taken
  rw [takeIpv4_eq silent]
  refine ⟨.taken, follows.tracksIpv6, follows.yielded, addrs ++ lookupAddrs .v4 result, ?_, ?_⟩
  · rw [ready] at taken
    revert taken
    cases state.v6Fut.isNone <;> simp +contextual [takenAddrs, MaybeFuture.isNone]
  · rw [List.map_append, ← List.append_assoc, same, List.map_append]

private theorem OpenFollows.takeIpv6 (follows : OpenFollows ipv4 ipv6 state items)
    {result : Except DnsError (List (BitVec 128))} (ready : state.v6Fut = .ready result) :
    OpenFollows ipv4 ipv6 (state.takeIpv6 result) items := by
  obtain ⟨rfl, silent⟩ := (ready ▸ follows.tracksIpv6).of_ready
  obtain ⟨addrs, taken, same⟩ := follows.taken
  rw [takeIpv6_eq silent]
  refine ⟨follows.tracksIpv4, .taken, follows.yielded, addrs ++ lookupAddrs .v6 result, ?_, ?_⟩
  · rw [ready] at taken
    revert taken
    cases state.v4Fut.isNone <;> simp +contextual [takenAddrs, MaybeFuture.isNone]
  · rw [List.map_append, ← List.append_assoc, same, List.map_append]

private theorem OpenFollows.keeps_again (follows : OpenFollows ipv4 ipv6 state items)
    (waiting : state.closed = false) : Keeps ipv4 ipv6 items (.again state) :=
  ⟨fun _ => follows, fun closed => by rw [waiting] at closed; cases closed⟩

private theorem closed_takeIpv4 (result : Except DnsError (List (BitVec 32))) :
    (state.takeIpv4 result).closed = state.closed := by
  cases result <;> rfl

private theorem closed_takeIpv6 (result : Except DnsError (List (BitVec 128))) :
    (state.takeIpv6 result).closed = state.closed := by
  cases result <;> rfl

private theorem OpenFollows.keeps_select (follows : OpenFollows ipv4 ipv6 state items)
    (waiting : state.closed = false) : Keeps ipv4 ipv6 items state.select := by
  unfold HostStream.State.select
  split
  next result ready =>
    exact (follows.takeIpv4 ready).keeps_again ((closed_takeIpv4 result).trans waiting)
  · split
    next result ready =>
      exact (follows.takeIpv6 ready).keeps_again ((closed_takeIpv6 result).trans waiting)
    · refine ⟨⟨fun _ => ?_, fun closed => ?_⟩, nofun⟩
      · simpa [Polled.item?] using follows
      · rw [waiting] at closed
        cases closed

theorem Follows.keeps_turn (follows : Follows ipv4 ipv6 state items) :
    Keeps ipv4 ipv6 items state.turn := by
  unfold HostStream.State.turn
  split
  next closed =>
    refine ⟨?_, fun _ => follows.ofClosed closed⟩
    simpa [Polled.item?] using follows
  next waiting =>
    rw [Bool.not_eq_true] at waiting
    have isOpen := follows.ofOpen waiting
    split
    next item queue queued => exact isOpen.keeps_pop waiting queued
    next empty =>
      split
      next taken =>
        obtain ⟨taken4, taken6⟩ := Bool.and_eq_true_iff.mp taken
        exact isOpen.keeps_finish taken4 taken6 empty
      next => exact isOpen.keeps_select waiting

private theorem map_prefix_addrsOrError {addrs order : List IpAddr} (error : DnsError)
    (inside : addrs <+: order) : addrs.map .ok <+: addrsOrError error order := by
  unfold addrsOrError
  split
  next empty =>
    rw [List.isEmpty_iff.mp empty, List.prefix_nil] at inside
    rw [inside]
    exact List.nil_prefix
  · exact inside.map _

private theorem exists_output_of_taken {addrs : List IpAddr} {taken4 taken6 : Bool}
    (taken : addrs ∈ takenAddrs (lookupAddrs .v4 ipv4) (lookupAddrs .v6 ipv6) taken4 taken6) :
    ∃ output ∈ nameOutputs ipv4 ipv6, addrs.map .ok <+: output := by
  have ordered : addrs <+: lookupAddrs .v4 ipv4 ++ lookupAddrs .v6 ipv6 ∨
      addrs <+: lookupAddrs .v6 ipv6 ++ lookupAddrs .v4 ipv4 := by
    cases taken4 <;> cases taken6 <;> simp only [takenAddrs, List.mem_cons, List.not_mem_nil,
      or_false] at taken
    · exact .inl (taken ▸ List.nil_prefix)
    · exact .inr (taken ▸ List.prefix_append _ _)
    · exact .inl (taken ▸ List.prefix_append _ _)
    · rcases taken with rfl | rfl
      · exact .inl (List.prefix_refl _)
      · exact .inr (List.prefix_refl _)
  rcases ordered with inside | inside
  · exact ⟨_, List.mem_cons_self, map_prefix_addrsOrError _ inside⟩
  · exact ⟨_, List.mem_cons_of_mem _ (List.mem_singleton_self _), map_prefix_addrsOrError _ inside⟩

theorem Follows.exists_output (follows : Follows ipv4 ipv6 state items) :
    ∃ output ∈ nameOutputs ipv4 ipv6, items <+: output := by
  cases closed : state.closed with
  | true => exact ⟨items, follows.ofClosed closed, List.prefix_refl items⟩
  | false =>
      obtain ⟨addrs, taken, same⟩ := (follows.ofOpen closed).taken
      obtain ⟨output, isOutput, inside⟩ := exists_output_of_taken taken
      exact ⟨output, isOutput, .trans ⟨state.queue.map .ok, same⟩ inside⟩

end Turns

section Finishing

variable {Output Addr : Type}

theorem isNone_of_complete {future after : MaybeFuture Output}
    (completes : future.complete = some after) : after.isNone = future.isNone := by
  cases future <;> cases completes
  rfl

theorem Tracks.complete {result : Except DnsError (List Addr)}
    {future after : MaybeFuture (Except DnsError (List Addr))} {error : Option DnsError}
    (tracks : Tracks result future error) (completes : future.complete = some after) :
    Tracks result after error := by
  cases tracks <;> cases completes
  exact .ready

variable {ipv4 : Except DnsError (List (BitVec 32))} {ipv6 : Except DnsError (List (BitVec 128))}
  {state : HostStream.State} {items : List HostItem}

theorem Follows.completeIpv4 (follows : Follows ipv4 ipv6 state items)
    {after : MaybeFuture (Except DnsError (List (BitVec 32)))}
    (completes : state.v4Fut.complete = some after) :
    Follows ipv4 ipv6 { state with v4Fut := after } items := by
  refine ⟨fun waiting => ?_, follows.ofClosed⟩
  have isOpen := follows.ofOpen waiting
  refine ⟨isOpen.tracksIpv4.complete completes, isOpen.tracksIpv6, isOpen.yielded, ?_⟩
  rw [isNone_of_complete completes]
  exact isOpen.taken

theorem Follows.completeIpv6 (follows : Follows ipv4 ipv6 state items)
    {after : MaybeFuture (Except DnsError (List (BitVec 128)))}
    (completes : state.v6Fut.complete = some after) :
    Follows ipv4 ipv6 { state with v6Fut := after } items := by
  refine ⟨fun waiting => ?_, follows.ofClosed⟩
  have isOpen := follows.ofOpen waiting
  refine ⟨isOpen.tracksIpv4, isOpen.tracksIpv6.complete completes, isOpen.yielded, ?_⟩
  rw [isNone_of_complete completes]
  exact isOpen.taken

end Finishing

end NexalinkTunnel.Dns
