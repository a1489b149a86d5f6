import NexalinkTunnel.Relay.Server.Clients
import NexalinkTunnel.Relay.Streams

/-!
Contract: the actor of one relay connection, as `server/client.rs` writes it.

Owns every branch of `run_inner` with the functions it calls, over arbitrary
answers of the underlying websocket, of both queues and of the timers, and how
a datagrams frame of one client reaches the sink of another.

Does not own: which of several ready branches is taken, and when timers fire.
A run is any list of branches. Other actors may change the registry between
two of them.
-/

namespace NexalinkTunnel.Relay.Server

open Lib
open Base
open Relay.Protos

/-- One wait for the underlying sink inside the write timeout. -/
inductive SinkPoll where
  | ready
  | failed (source : StreamError)
  | elapsed
deriving Repr

/-- What the underlying sink answers to the three calls of one `send`. -/
structure SinkAnswers where
  ready : SinkPoll
  startSend : Option StreamError
  flush : SinkPoll
deriving Repr

def SinkAnswers.prompt : SinkAnswers := ⟨.ready, none, .ready⟩

inductive WriteFrameError where
  | stream (source : SendError)
  | timeout
deriving DecidableEq, Repr

inductive HandleFrameError where
  | forwardPacket (source : ForwardPacketError)
  | streamTerminated
  | recv (source : RecvError)
  | send (source : WriteFrameError)
deriving DecidableEq, Repr

inductive RunError where
  | forwardPacket (source : ForwardPacketError)
  | flush
  | handleFrame (source : HandleFrameError)
  | packetSend (source : WriteFrameError)
  | handleDropped
  | writeFrame (source : WriteFrameError)
  | tickFlush
deriving DecidableEq, Repr

/-- The branches of the `select` in `run_inner`, each with what the environment
answers in it. The last argument of a branch that loops is the answer of the
flush at the end of the iteration. -/
inductive Branch (crates : Crates) where
  | cancelled (flush : Option StreamError)
  | frame (item : Option (Except StreamError Bytes)) (cache : KeyCache crates)
      (answers : SinkAnswers) (flush : Option StreamError)
  | packet (received : Option (Packet crates)) (answers : SinkAnswers)
      (flush : Option StreamError)
  | message (received : Option (RelayToClientMsg crates)) (answers : SinkAnswers)
      (flush : Option StreamError)
  | pongTimeout
  | pingTick (data : List.Vector UInt8 8) (answers : SinkAnswers) (flush : Option StreamError)

def polledDatagrams {crates : Crates} :
    Option (Outcome RecvError (ClientToRelayMsg crates)) →
      Option (EndpointId crates.ed25519 × Datagrams)
  | some (.ok msg) => msg.datagrams?
  | _ => none

def Branch.datagrams? {crates : Crates} :
    Branch crates → Option (EndpointId crates.ed25519 × Datagrams)
  | .frame item cache _ _ => polledDatagrams (RelayedStream.pollNext item cache)
  | _ => none

def Branch.packet? {crates : Crates} : Branch crates → Option (Packet crates)
  | .packet received _ _ => received
  | _ => none

def Branch.MayWrite {crates : Crates} : Branch crates → RelayToClientMsg crates → Prop
  | .packet (some queued) _ _, written => written = .datagrams queued.src queued.data
  | .message (some queued) _ _, written => written = queued
  | _, written => written.datagrams? = none

inductive Flow where
  | again
  | leave
deriving Repr

structure Actor (crates : Crates) where
  /-- What was handed to the underlying websocket, oldest first. -/
  written : List Bytes
  endpointId : EndpointId crates.ed25519
  connectionId : ConnectionId
  /-- The registry, shared with the other actors. -/
  clients : Clients crates
  /-- The ping that waits for its pong. -/
  pingTracker : Option (List.Vector UInt8 8)

variable {crates : Crates}

namespace Actor

def count (actor : Actor crates) (update : Metrics → Metrics) : Actor crates :=
  { actor with clients := { actor.clients with metrics := update actor.clients.metrics } }

/-- Writes the given frame to the connection, within the write timeout. -/
def writeFrame (actor : Actor crates) (frame : RelayToClientMsg crates)
    (answers : SinkAnswers) : Except WriteFrameError Unit × Actor crates :=
  match answers.ready with
  | .elapsed => (.error .timeout, actor)
  | .failed source => (.error (.stream (.streamError source)), actor)
  | .ready =>
      match RelayedStream.startSend frame answers.startSend with
      | .error source => (.error (.stream source), actor)
      | .ok bytes =>
          let actor := { actor with written := actor.written ++ [bytes] }
          match answers.flush with
          | .ready => (.ok (), actor)
          | .failed source => (.error (.stream (.streamError source)), actor)
          | .elapsed => (.error .timeout, actor)

def sendRaw (actor : Actor crates) (packet : Packet crates) (answers : SinkAnswers) :
    Except WriteFrameError Unit × Actor crates :=
  let actor := actor.count fun metrics =>
    { metrics with bytesSent := metrics.bytesSent + packet.data.contents.length }
  actor.writeFrame (.datagrams packet.src packet.data) answers

def sendPacket (actor : Actor crates) (packet : Packet crates) (answers : SinkAnswers) :
    Except WriteFrameError Unit × Actor crates :=
  match actor.sendRaw packet answers with
  | (.ok (), actor) =>
      (.ok (), actor.count fun metrics =>
        { metrics with sendPacketsSent := metrics.sendPacketsSent + 1 })
  | (.error error, actor) =>
      (.error error, actor.count fun metrics =>
        { metrics with sendPacketsDropped := metrics.sendPacketsDropped + 1 })

def handleFrameSendPacket (actor : Actor crates) (dst : EndpointId crates.ed25519)
    (data : Datagrams) : Except ForwardPacketError Unit × Actor crates :=
  let actor := actor.count fun metrics =>
    { metrics with sendPacketsRecv := metrics.sendPacketsRecv + 1 }
  let (result, clients) := actor.clients.sendPacket dst data actor.endpointId
  (result, { actor with clients := clients })

/-- Handles frame read results. A packet that could not be forwarded is only
logged. -/
def handleFrame (actor : Actor crates)
    (maybeFrame : Option (Outcome RecvError (ClientToRelayMsg crates)))
    (answers : SinkAnswers) : Outcome HandleFrameError Unit × Actor crates :=
  match maybeFrame with
  | none => (.err .streamTerminated, actor)
  | some (.err source) => (.err (.recv source), actor)
  | some .panicked => (.panicked, actor)
  | some (.ok (.datagrams dst payload)) =>
      let (_, actor) := actor.handleFrameSendPacket dst payload
      (.ok (), actor.count fun metrics =>
        { metrics with bytesRecv := metrics.bytesRecv + payload.contents.length })
  | some (.ok (.ping data)) =>
      let actor := actor.count fun metrics => { metrics with gotPing := metrics.gotPing + 1 }
      match actor.writeFrame (.pong data) answers with
      | (.ok (), actor) =>
          (.ok (), actor.count fun metrics => { metrics with sentPong := metrics.sentPong + 1 })
      | (.error source, actor) => (.err (.send source), actor)
  | some (.ok (.pong data)) =>
      (.ok (), { actor with
        pingTracker := if actor.pingTracker = some data then none else actor.pingTracker })

def finishIteration (actor : Actor crates) (flush : Option StreamError) :
    Outcome RunError Flow × Actor crates :=
  match flush with
  | none => (.ok .again, actor)
  | some _ => (.err .tickFlush, actor)

def finishWrite (written : Except WriteFrameError Unit × Actor crates)
    (wrap : WriteFrameError → RunError) (flush : Option StreamError) :
    Outcome RunError Flow × Actor crates :=
  match written with
  | (.ok (), actor) => actor.finishIteration flush
  | (.error source, actor) => (.err (wrap source), actor)

def iterate (actor : Actor crates) : Branch crates → Outcome RunError Flow × Actor crates
  | .cancelled none => (.ok .leave, actor)
  | .cancelled (some _) => (.err .flush, actor)
  | .frame item cache answers flush =>
      match actor.handleFrame (RelayedStream.pollNext item cache) answers with
      | (.ok (), actor) => actor.finishIteration flush
      | (.err source, actor) => (.err (.handleFrame source), actor)
      | (.panicked, actor) => (.panicked, actor)
  | .packet none _ _ => (.err .handleDropped, actor)
  | .packet (some packet) answers flush =>
      finishWrite (actor.sendPacket packet answers) .packetSend flush
  | .message none _ _ => (.err .handleDropped, actor)
  | .message (some message) answers flush =>
      finishWrite (actor.writeFrame message answers) .writeFrame flush
  | .pongTimeout => (.ok .leave, { actor with pingTracker := none })
  | .pingTick data answers flush =>
      let actor := { actor with pingTracker := some data }
      finishWrite (actor.writeFrame (.ping data) answers) .writeFrame flush

/-- `run_inner` along a list of branches, each with the registry as that iteration
finds it. Without a result it is still running at the end of the list. -/
def runInner (actor : Actor crates) :
    List (Clients crates × Branch crates) → Option (Outcome RunError Unit) × Actor crates
  | [] => (none, actor)
  | (clients, branch) :: rest =>
      match { actor with clients := clients }.iterate branch with
      | (.ok .again, actor) => actor.runInner rest
      | (.ok .leave, actor) => (some (.ok ()), actor)
      | (.err error, actor) => (some (.err error), actor)
      | (.panicked, actor) => (some .panicked, actor)

/-- A frame is written in full or refused: by the checks of the sink, by the
underlying stream, or by the timeout. -/
theorem writeFrame_error {actor : Actor crates} {frame : RelayToClientMsg crates}
    {answers : SinkAnswers} {error : WriteFrameError}
    (refused : (actor.writeFrame frame answers).1 = .error error) :
    error = .timeout ∨ (∃ source, error = .stream (.streamError source)) ∨
      ∃ source, error = .stream source ∧
        RelayedStream.startSend frame answers.startSend = .error source := by
  unfold writeFrame at refused
  cases ready : answers.ready with
  | elapsed =>
      simp only [ready, Except.error.injEq] at refused
      exact .inl refused.symm
  | failed source =>
      simp only [ready, Except.error.injEq] at refused
      exact .inr (.inl ⟨source, refused.symm⟩)
  | ready =>
      cases started : RelayedStream.startSend frame answers.startSend with
      | error source =>
          simp only [ready, started, Except.error.injEq] at refused
          exact .inr (.inr ⟨source, refused.symm, rfl⟩)
      | ok bytes =>
          cases flushed : answers.flush with
          | ready => simp [ready, started, flushed] at refused
          | failed source =>
              simp only [ready, started, flushed, Except.error.injEq] at refused
              exact .inr (.inl ⟨source, refused.symm⟩)
          | elapsed =>
              simp only [ready, started, flushed, Except.error.injEq] at refused
              exact .inl refused.symm

private theorem writeFrame_cases (actor : Actor crates) (frame : RelayToClientMsg crates)
    (answers : SinkAnswers) :
    ((actor.writeFrame frame answers).2 = actor ∧
        ∃ error, (actor.writeFrame frame answers).1 = .error error) ∨
      ((actor.writeFrame frame answers).2 =
          { actor with written := actor.written ++ [frame.toBytes] } ∧
        frame.body.length ≤ maxPacketSize) := by
  unfold writeFrame
  cases answers.ready with
  | elapsed => exact .inl ⟨rfl, _, rfl⟩
  | failed source => exact .inl ⟨rfl, _, rfl⟩
  | ready =>
      cases started : RelayedStream.startSend frame answers.startSend with
      | error source => exact .inl ⟨rfl, _, rfl⟩
      | ok bytes =>
          obtain ⟨within, rfl⟩ := RelayedStream.startSend_eq_ok started
          rw [RelayToClientMsg.encodedLen_eq] at within
          exact .inr ⟨by cases answers.flush <;> rfl, by omega⟩

private theorem writeFrame_count (actor : Actor crates) (update : Metrics → Metrics)
    (frame : RelayToClientMsg crates) (answers : SinkAnswers) :
    (actor.count update).writeFrame frame answers =
      ((actor.writeFrame frame answers).1, (actor.writeFrame frame answers).2.count update) := by
  unfold writeFrame
  cases answers.ready with
  | elapsed => rfl
  | failed source => rfl
  | ready =>
      cases RelayedStream.startSend frame answers.startSend with
      | error source => rfl
      | ok bytes => cases answers.flush <;> rfl

private theorem sendPacket_fst (actor : Actor crates) (packet : Packet crates)
    (answers : SinkAnswers) :
    (actor.sendPacket packet answers).1 =
      (actor.writeFrame (.datagrams packet.src packet.data) answers).1 := by
  unfold sendPacket sendRaw
  rw [writeFrame_count]
  split <;> simp_all

theorem finishIteration_eq_err {actor : Actor crates} {flush : Option StreamError}
    {error : RunError} (failed : (actor.finishIteration flush).1 = .err error) :
    error = .tickFlush := by
  cases flush with
  | none => simp [finishIteration] at failed
  | some source => simpa [finishIteration] using failed.symm

private theorem finishWrite_eq_err {written : Except WriteFrameError Unit × Actor crates}
    {wrap : WriteFrameError → RunError} {flush : Option StreamError} {error : RunError}
    (failed : (finishWrite written wrap flush).1 = .err error) :
    (∃ source, written.1 = .error source ∧ error = wrap source) ∨ error = .tickFlush := by
  obtain ⟨result, actor⟩ := written
  cases result with
  | ok _ => exact .inr (finishIteration_eq_err failed)
  | error source => exact .inl ⟨source, rfl, by simpa [finishWrite] using failed.symm⟩

private theorem iterate_eq_packetSend {actor : Actor crates} {branch : Branch crates}
    {source : WriteFrameError} (failed : (actor.iterate branch).1 = .err (.packetSend source)) :
    ∃ packet answers flush, branch = .packet (some packet) answers flush ∧
      (actor.sendPacket packet answers).1 = .error source := by
  cases branch with
  | cancelled flush => cases flush <;> simp [iterate] at failed
  | frame item cache answers flush =>
      simp only [iterate] at failed
      split at failed
      · exact absurd (finishIteration_eq_err failed) (by simp)
      · simp at failed
      · simp at failed
  | packet received answers flush =>
      cases received with
      | none => simp [iterate] at failed
      | some packet =>
          refine ⟨packet, answers, flush, rfl, ?_⟩
          rcases finishWrite_eq_err failed with ⟨cause, refused, same⟩ | flushed
          · rw [refused, RunError.packetSend.inj same]
          · simp at flushed
  | message received answers flush =>
      cases received with
      | none => simp [iterate] at failed
      | some message =>
          rcases finishWrite_eq_err failed with ⟨cause, -, same⟩ | flushed
          · simp at same
          · simp at flushed
  | pongTimeout => simp [iterate] at failed
  | pingTick data answers flush =>
      rcases finishWrite_eq_err failed with ⟨cause, -, same⟩ | flushed
      · simp at same
      · simp at flushed

private theorem runInner_eq_packetSend {actor : Actor crates}
    {run : List (Clients crates × Branch crates)} {source : WriteFrameError}
    (failed : (actor.runInner run).1 = some (.err (.packetSend source))) :
    ∃ clients packet answers flush, (clients, .packet (some packet) answers flush) ∈ run ∧
      ∃ last : Actor crates, (last.sendPacket packet answers).1 = .error source := by
  induction run generalizing actor with
  | nil => simp [runInner] at failed
  | cons first rest inductionHypothesis =>
      obtain ⟨clients, branch⟩ := first
      simp only [runInner] at failed
      split at failed
      · obtain ⟨found, packet, answers, flush, inside, last⟩ := inductionHypothesis failed
        exact ⟨found, packet, answers, flush, List.mem_cons_of_mem _ inside, last⟩
      · simp at failed
      · next error ended outcome =>
          simp only [Option.some.injEq, Outcome.err.injEq] at failed
          have result : ({ actor with clients := clients }.iterate branch).1 =
              .err (.packetSend source) := by
            rw [outcome, failed]
          obtain ⟨packet, answers, flush, rfl, refused⟩ := iterate_eq_packetSend result
          exact ⟨clients, packet, answers, flush, List.mem_cons_self, _, refused⟩
      · simp at failed

/-! ## What an iteration changes -/

end Actor

/-- `next` differs from `state` in the traffic counters at most. -/
structure Clients.SameTables (state next : Clients crates) : Prop where
  clients : next.clients = state.clients
  sentTo : next.sentTo = state.sentTo
  handles : next.handles = state.handles
  added : next.metrics.clientsInactiveAdded = state.metrics.clientsInactiveAdded
  removed : next.metrics.clientsInactiveRemoved = state.metrics.clientsInactiveRemoved

theorem Clients.SameTables.refl (state : Clients crates) : SameTables state state :=
  ⟨rfl, rfl, rfl, rfl, rfl⟩

theorem Clients.SameTables.trans {state next last : Clients crates}
    (first : SameTables state next) (second : SameTables next last) : SameTables state last where
  clients := second.clients.trans first.clients
  sentTo := second.sentTo.trans first.sentTo
  handles := second.handles.trans first.handles
  added := second.added.trans first.added
  removed := second.removed.trans first.removed

private theorem Clients.SameTables.sendPacket {state next : Clients crates}
    (same : SameTables state next) (dst : EndpointId crates.ed25519) (data : Datagrams)
    (src : EndpointId crates.ed25519) :
    SameTables (state.sendPacket dst data src).2 (next.sendPacket dst data src).2 := by
  obtain ⟨clients, sentTo, handles, metrics⟩ := state
  obtain ⟨nextClients, nextSentTo, nextHandles, nextMetrics⟩ := next
  obtain ⟨sameClients, sameSentTo, sameHandles, added, removed⟩ := same
  simp only at sameClients sameSentTo sameHandles added removed
  subst sameClients sameSentTo sameHandles
  unfold Clients.sendPacket
  simp only
  cases nextClients.lookup dst with
  | none => exact ⟨rfl, rfl, rfl, added, removed⟩
  | some entry =>
      simp only [Clients.trySendPacket]
      cases (nextHandles entry.active.connectionId).packetQueue.trySend ⟨src, data⟩ with
      | ok queue => exact ⟨rfl, rfl, rfl, added, removed⟩
      | error reason => cases reason <;> exact ⟨rfl, rfl, rfl, added, removed⟩

namespace Actor

theorem sameTables_count (actor : Actor crates) {update : Metrics → Metrics}
    (added : ∀ metrics, (update metrics).clientsInactiveAdded = metrics.clientsInactiveAdded)
    (removed : ∀ metrics,
      (update metrics).clientsInactiveRemoved = metrics.clientsInactiveRemoved) :
    Clients.SameTables actor.clients (actor.count update).clients :=
  ⟨rfl, rfl, rfl, added _, removed _⟩

theorem writeFrame_clients (actor : Actor crates) (frame : RelayToClientMsg crates)
    (answers : SinkAnswers) : (actor.writeFrame frame answers).2.clients = actor.clients := by
  rcases actor.writeFrame_cases frame answers with ⟨same, -⟩ | ⟨same, -⟩ <;> rw [same]

theorem finishIteration_snd (actor : Actor crates) (flush : Option StreamError) :
    (actor.finishIteration flush).2 = actor := by
  cases flush <;> rfl

theorem finishWrite_snd (written : Except WriteFrameError Unit × Actor crates)
    (wrap : WriteFrameError → RunError) (flush : Option StreamError) :
    (finishWrite written wrap flush).2 = written.2 := by
  obtain ⟨result, actor⟩ := written
  cases result with
  | ok _ => exact finishIteration_snd actor flush
  | error source => rfl

private theorem finishWrite_eq_again {written : Except WriteFrameError Unit × Actor crates}
    {wrap : WriteFrameError → RunError} {flush : Option StreamError}
    (again : (finishWrite written wrap flush).1 = .ok .again) : written.1 = .ok () := by
  obtain ⟨result, actor⟩ := written
  cases result with
  | ok _ => rfl
  | error source => simp [finishWrite] at again

theorem sendPacket_snd (actor : Actor crates) (packet : Packet crates) (answers : SinkAnswers) :
    Clients.SameTables actor.clients (actor.sendPacket packet answers).2.clients ∧
      (actor.sendPacket packet answers).2.written =
        (actor.writeFrame (.datagrams packet.src packet.data) answers).2.written := by
  have written : Clients.SameTables actor.clients
      ((actor.writeFrame (.datagrams packet.src packet.data) answers).2.count fun metrics =>
        { metrics with bytesSent := metrics.bytesSent + packet.data.contents.length }).clients := by
    rw [← actor.writeFrame_clients (.datagrams packet.src packet.data) answers]
    exact sameTables_count _ (fun _ => rfl) fun _ => rfl
  unfold sendPacket sendRaw
  rw [writeFrame_count]
  cases (actor.writeFrame (.datagrams packet.src packet.data) answers).1 with
  | ok _ => exact ⟨written.trans (sameTables_count _ (fun _ => rfl) fun _ => rfl), rfl⟩
  | error error => exact ⟨written.trans (sameTables_count _ (fun _ => rfl) fun _ => rfl), rfl⟩

def forwardedTables (actor : Actor crates) :
    Option (EndpointId crates.ed25519 × Datagrams) → Clients crates
  | some (dst, payload) => (actor.clients.sendPacket dst payload actor.endpointId).2
  | none => actor.clients

private theorem handleFrame_clients (actor : Actor crates)
    (maybeFrame : Option (Outcome RecvError (ClientToRelayMsg crates))) (answers : SinkAnswers) :
    Clients.SameTables (actor.forwardedTables (polledDatagrams maybeFrame))
      (actor.handleFrame maybeFrame answers).2.clients := by
  rcases maybeFrame with _ | msg | source | _
  · exact .refl _
  · cases msg with
    | datagrams dst payload =>
        have counted : Clients.SameTables actor.clients
            (actor.count fun metrics =>
              { metrics with sendPacketsRecv := metrics.sendPacketsRecv + 1 }).clients :=
          actor.sameTables_count (fun _ => rfl) fun _ => rfl
        have finished : Clients.SameTables (actor.handleFrameSendPacket dst payload).2.clients
            (actor.handleFrame (some (.ok (.datagrams dst payload))) answers).2.clients :=
          ⟨rfl, rfl, rfl, rfl, rfl⟩
        exact (counted.sendPacket dst payload actor.endpointId).trans finished
    | ping data =>
        have counted : Clients.SameTables actor.clients
            ((actor.writeFrame (.pong data) answers).2.count fun metrics =>
              { metrics with gotPing := metrics.gotPing + 1 }).clients := by
          rw [← actor.writeFrame_clients (.pong data) answers]
          exact sameTables_count _ (fun _ => rfl) fun _ => rfl
        simp only [handleFrame, writeFrame_count]
        cases (actor.writeFrame (.pong data) answers).1 with
        | ok _ => exact counted.trans (sameTables_count _ (fun _ => rfl) fun _ => rfl)
        | error source => exact counted
    | pong data => exact .refl _
  · exact .refl _
  · exact .refl _

/-- An iteration forwards the datagrams it received and touches nothing else of the
registry. -/
theorem iterate_clients (actor : Actor crates) (branch : Branch crates) :
    Clients.SameTables (actor.forwardedTables branch.datagrams?)
      (actor.iterate branch).2.clients := by
  cases branch with
  | cancelled flush => cases flush <;> exact .refl _
  | frame item cache answers flush =>
      have handled := actor.handleFrame_clients (RelayedStream.pollNext item cache) answers
      rw [iterate]
      split
      · next after outcome =>
          rw [outcome] at handled
          rwa [finishIteration_snd]
      · next source after outcome => rwa [outcome] at handled
      · next after outcome => rwa [outcome] at handled
  | packet received answers flush =>
      cases received with
      | none => exact .refl _
      | some packet =>
          rw [iterate, finishWrite_snd]
          exact (actor.sendPacket_snd packet answers).1
  | message received answers flush =>
      cases received with
      | none => exact .refl _
      | some message =>
          rw [iterate, finishWrite_snd, writeFrame_clients]
          exact .refl _
  | pongTimeout => exact .refl _
  | pingTick data answers flush =>
      rw [iterate, finishWrite_snd, writeFrame_clients]
      exact .refl _

/-- `after` has written at most one frame more than `actor`, and an allowed one. -/
def Wrote (actor after : Actor crates) (Allowed : RelayToClientMsg crates → Prop) : Prop :=
  ∃ frames : List (RelayToClientMsg crates),
    after.written = actor.written ++ frames.map RelayToClientMsg.toBytes ∧
      frames.length ≤ 1 ∧ ∀ frame ∈ frames, Allowed frame ∧ frame.body.length ≤ maxPacketSize

theorem Wrote.nothing {actor after : Actor crates} {Allowed : RelayToClientMsg crates → Prop}
    (same : after.written = actor.written) : Wrote actor after Allowed :=
  ⟨[], by simpa using same, by simp, by simp⟩

theorem wrote_writeFrame (actor : Actor crates) {frame : RelayToClientMsg crates}
    (answers : SinkAnswers) (Allowed : RelayToClientMsg crates → Prop) (allowed : Allowed frame) :
    Wrote actor (actor.writeFrame frame answers).2 Allowed := by
  rcases actor.writeFrame_cases frame answers with ⟨same, -⟩ | ⟨same, within⟩
  · exact .nothing (by rw [same])
  · refine ⟨[frame], by rw [same]; rfl, Nat.le_refl _, fun other inside => ?_⟩
    rw [List.mem_singleton.mp inside]
    exact ⟨allowed, within⟩

private theorem wrote_handleFrame (actor : Actor crates)
    (maybeFrame : Option (Outcome RecvError (ClientToRelayMsg crates))) (answers : SinkAnswers) :
    Wrote actor (actor.handleFrame maybeFrame answers).2 fun frame => frame.datagrams? = none := by
  rcases maybeFrame with _ | msg | source | _
  · exact .nothing rfl
  · cases msg with
    | datagrams dst payload => exact .nothing rfl
    | ping data =>
        have written : Wrote actor (actor.writeFrame (.pong data) answers).2 fun frame =>
          frame.datagrams? = none := actor.wrote_writeFrame answers _ rfl
        simp only [handleFrame, writeFrame_count]
        cases (actor.writeFrame (.pong data) answers).1 <;> exact written
    | pong data => exact .nothing rfl
  · exact .nothing rfl
  · exact .nothing rfl

/-- An iteration writes at most one frame, and only what its branch may write. -/
theorem wrote_iterate (actor : Actor crates) (branch : Branch crates) :
    Wrote actor (actor.iterate branch).2 branch.MayWrite := by
  cases branch with
  | cancelled flush => cases flush <;> exact .nothing rfl
  | frame item cache answers flush =>
      have handled := actor.wrote_handleFrame (RelayedStream.pollNext item cache) answers
      rw [iterate]
      split
      · next after outcome =>
          rw [outcome] at handled
          rw [finishIteration_snd]
          exact handled
      · next source after outcome =>
          rw [outcome] at handled
          exact handled
      · next after outcome =>
          rw [outcome] at handled
          exact handled
  | packet received answers flush =>
      cases received with
      | none => exact .nothing rfl
      | some packet =>
          obtain ⟨frames, written, single, allowed⟩ :
              Wrote actor (actor.writeFrame (.datagrams packet.src packet.data) answers).2
                (Branch.packet (some packet) answers flush).MayWrite :=
            actor.wrote_writeFrame answers _ rfl
          rw [iterate, finishWrite_snd]
          exact ⟨frames, (actor.sendPacket_snd packet answers).2.trans written, single, allowed⟩
  | message received answers flush =>
      cases received with
      | none => exact .nothing rfl
      | some message =>
          rw [iterate, finishWrite_snd]
          exact actor.wrote_writeFrame answers _ rfl
  | pongTimeout => exact .nothing rfl
  | pingTick data answers flush =>
      rw [iterate, finishWrite_snd]
      exact wrote_writeFrame { actor with pingTracker := some data } answers _ rfl

/-- A packet branch that goes on has written its packet. -/
theorem written_of_packet_again {actor : Actor crates} {packet : Packet crates}
    {answers : SinkAnswers} {flush : Option StreamError}
    (again : (actor.iterate (.packet (some packet) answers flush)).1 = .ok .again) :
    (actor.iterate (.packet (some packet) answers flush)).2.written = actor.written ++
      [(RelayToClientMsg.datagrams packet.src packet.data : RelayToClientMsg crates).toBytes] := by
  have finished := finishWrite_eq_again again
  rw [sendPacket_fst] at finished
  rw [iterate, finishWrite_snd, (actor.sendPacket_snd packet answers).2]
  rcases actor.writeFrame_cases (.datagrams packet.src packet.data) answers with
    ⟨-, error, failed⟩ | ⟨same, -⟩
  · rw [finished] at failed
    simp at failed
  · rw [same]

end Actor

/-! ## Frames that can be forwarded -/

/-- A datagram body with contents that is no longer, with a frame type byte, than the
sink allows. The decoder bounds the body alone. A batch body without a segment
size is forwarded without that field, and always fits. -/
def ForwardableBody (frameType : FrameType) (body : Bytes) : Prop :=
  (frameType = .clientToRelayDatagram ∧ publicKeyLength + 1 < body.length ∧
    body.length < maxPacketSize) ∨
  (frameType = .clientToRelayDatagramBatch ∧ publicKeyLength + 3 < body.length ∧
    (body.length < maxPacketSize ∨
      Datagrams.segmentSizeOf ((body.drop (publicKeyLength + 1)).take 2) = none))

def ForwardableFrame (crates : Crates) (bytes : Bytes) : Prop :=
  ∃ frameType body, FrameType.fromBytes crates bytes = .ok (frameType, body) ∧
    ForwardableBody frameType body

private theorem forwardableFrame_iff {bytes body : Bytes} {frameType : FrameType}
    (parsed : FrameType.fromBytes crates bytes = .ok (frameType, body)) :
    ForwardableFrame crates bytes ↔ ForwardableBody frameType body := by
  simp only [ForwardableFrame, parsed, Except.ok.injEq, Prod.mk.injEq]
  constructor
  · rintro ⟨_, _, ⟨rfl, rfl⟩, shape⟩
    exact shape
  · intro shape
    exact ⟨_, _, ⟨rfl, rfl⟩, shape⟩

private theorem passesChecks_datagrams (src : EndpointId crates.ed25519) (payload : Datagrams) :
    PassesChecks (RelayToClientMsg.datagrams src payload : RelayToClientMsg crates).encodedLen
        (RelayToClientMsg.datagrams src payload : RelayToClientMsg crates).datagramContents ↔
      publicKeyLength + payload.encodedLen < maxPacketSize ∧ payload.contents ≠ [] := by
  have length : (RelayToClientMsg.datagrams src payload : RelayToClientMsg crates).encodedLen =
      1 + (publicKeyLength + payload.encodedLen) := by
    rw [RelayToClientMsg.encodedLen_eq]
    simp [RelayToClientMsg.body]
  simp only [PassesChecks, length, RelayToClientMsg.datagramContents, ne_eq, Option.some.injEq]
  exact and_congr_left' (by omega)

/-- The sink's checks pass exactly for forwardable frames, for any source. -/
theorem passesChecks_iff_forwardable {bytes : Bytes} {cache : KeyCache crates}
    {dst : EndpointId crates.ed25519} {payload : Datagrams}
    (decoded : ClientToRelayMsg.fromBytes bytes cache = .ok (.datagrams dst payload))
    (src : EndpointId crates.ed25519) :
    PassesChecks (RelayToClientMsg.datagrams src payload : RelayToClientMsg crates).encodedLen
        (RelayToClientMsg.datagrams src payload : RelayToClientMsg crates).datagramContents ↔
      ForwardableFrame crates bytes := by
  obtain ⟨frameType, body, parsed, within, inner⟩ := ClientToRelayMsg.fromBytes_eq_ok.mp decoded
  obtain ⟨datagram, rest, rfl, payloadDecoded⟩ := ClientToRelayMsg.fromBody_eq_datagrams inner
  obtain ⟨ecnByte, field, rfl, fieldLength, segmentSize⟩ :=
    Datagrams.fromBytes_eq_ok payloadDecoded
  have nonempty : payload.contents ≠ [] ↔ 0 < payload.contents.length := List.length_pos_iff.symm
  have sizeField : (dst.asBytes ++ ecnByte :: (field ++ payload.contents)).drop
      (publicKeyLength + 1) = field ++ payload.contents := by
    rw [← dst.asBytes_length, List.drop_append]
    simp
  have length : (dst.asBytes ++ ecnByte :: (field ++ payload.contents)).length =
      publicKeyLength + (1 + field.length + payload.contents.length) := by
    simp only [List.length_append, PublicKey.asBytes_length, List.length_cons]
    omega
  rw [length] at within
  rw [passesChecks_datagrams, nonempty, forwardableFrame_iff parsed, ForwardableBody, sizeField,
    length, Datagrams.encodedLen, segmentSize]
  rcases datagram with rfl | rfl
  · simp only [reduceCtorEq, decide_false, Bool.false_eq_true, if_false] at fieldLength ⊢
    simp only [Option.elim_none, true_and, false_and, or_false]
    omega
  · simp only [decide_true, if_true] at fieldLength ⊢
    have taken : (field ++ payload.contents).take 2 = field := by
      rw [← fieldLength, List.take_left]
    rw [taken]
    cases Datagrams.segmentSizeOf field with
    | none =>
        simp only [Option.elim_none, reduceCtorEq, false_and, true_and, false_or, or_true, and_true]
        omega
    | some size =>
        simp only [Option.elim_some, reduceCtorEq, false_and, true_and, false_or, or_false]
        omega

private theorem Actor.iterate_packet_of_refusal (actor : Actor crates) (packet : Packet crates)
    {error : SendError}
    (refused : RelayedStream.startSend (.datagrams packet.src packet.data) none = .error error)
    (flush : Option StreamError) :
    (actor.iterate (.packet (some packet) .prompt flush)).1 =
      .err (.packetSend (.stream error)) := by
  simp [iterate, sendPacket, sendRaw, writeFrame, SinkAnswers.prompt, refused, finishWrite]

/-- Data frames and the recipient's connection. For every byte string that decodes to
datagrams, the recipient's sink refuses the forwarded message under no answer
of the underlying stream exactly when the frame is forwardable. A connection
whose packets all come from forwardable frames never ends in `PacketSend` but
for a failure or timeout of its stream. One packet from any other frame ends
a connection whose stream is prompt. -/
theorem recipient_survives_iff_frames_forwardable (crates : Crates) :
    (∀ (bytes : Bytes) (cache : KeyCache crates) (dst src : EndpointId crates.ed25519)
        (payload : Datagrams),
      ClientToRelayMsg.fromBytes bytes cache = .ok (.datagrams dst payload) →
        ((∀ inner error,
            RelayedStream.startSend (.datagrams src payload : RelayToClientMsg crates) inner =
              .error error → error.isRefusal = false) ↔
          ForwardableFrame crates bytes)) ∧
    (∀ (actor : Actor crates) (run : List (Clients crates × Branch crates)),
      (∀ clients packet answers flush, (clients, .packet (some packet) answers flush) ∈ run →
        ∃ (bytes : Bytes) (cache : KeyCache crates) (dst : EndpointId crates.ed25519),
          ClientToRelayMsg.fromBytes bytes cache = .ok (.datagrams dst packet.data) ∧
            ForwardableFrame crates bytes) →
        ∀ source, (actor.runInner run).1 = some (.err (.packetSend source)) →
          source = .timeout ∨ ∃ cause, source = .stream (.streamError cause)) ∧
    (∀ (actor : Actor crates) (bytes : Bytes) (cache : KeyCache crates)
        (dst src : EndpointId crates.ed25519) (payload : Datagrams) (flush : Option StreamError),
      ClientToRelayMsg.fromBytes bytes cache = .ok (.datagrams dst payload) →
        ¬ ForwardableFrame crates bytes →
          ∃ error, error.isRefusal = true ∧
            (actor.iterate (.packet (some ⟨src, payload⟩) .prompt flush)).1 =
              .err (.packetSend (.stream error))) := by
  refine ⟨fun bytes cache dst src payload decoded => ?_, fun actor run origin source ended => ?_,
    fun actor bytes cache dst src payload flush decoded stuck => ?_⟩
  · rw [← passesChecks_iff_forwardable decoded src]
    constructor
    · intro never
      by_contra fails
      obtain ⟨error, refused, isRefusal⟩ :=
        startSendWith_of_not_passesChecks fails
          (RelayToClientMsg.datagrams src payload).toBytes none
      simp [never none error refused] at isRefusal
    · intro passes inner error refused
      have refusalIff := startSendWith_eq_error refused
      simpa [passes] using refusalIff
  · obtain ⟨clients, packet, answers, flush, inside, last, refused⟩ :=
      Actor.runInner_eq_packetSend ended
    obtain ⟨bytes, cache, dst, decoded, forwardable⟩ := origin clients packet answers flush inside
    rw [Actor.sendPacket_fst] at refused
    rcases Actor.writeFrame_error refused with timeout | failed | ⟨error, rfl, checked⟩
    · exact .inl timeout
    · exact .inr failed
    · have passes := (passesChecks_iff_forwardable decoded packet.src).mpr forwardable
      have refusalIff := startSendWith_eq_error checked
      cases error with
      | streamError cause => exact .inr ⟨cause, rfl⟩
      | exceedsMaxPacketSize size => exact absurd passes (refusalIff.mp rfl)
      | emptyPacket => exact absurd passes (refusalIff.mp rfl)
  · have fails := mt (passesChecks_iff_forwardable decoded src).mp stuck
    obtain ⟨error, refused, isRefusal⟩ :=
      startSendWith_of_not_passesChecks fails (RelayToClientMsg.datagrams src payload).toBytes none
    exact ⟨error, isRefusal, actor.iterate_packet_of_refusal ⟨src, payload⟩ refused flush⟩

/-- One data byte reaches the recipient: no answer of its stream makes the sink refuse
the forwarded frame. -/
theorem single_byte_frame_is_forwardable :
    let key := Crates.smallKey 3 (by decide)
    let bytes : Bytes := 4 :: (key.asBytes ++ [0, 7])
    let payload : Datagrams := ⟨none, none, [7]⟩
    ClientToRelayMsg.fromBytes bytes .disabled =
        .ok (.datagrams key payload : ClientToRelayMsg Crates.reference) ∧
      ∀ inner error,
        RelayedStream.startSend (.datagrams key payload : RelayToClientMsg Crates.reference) inner =
          .error error → error.isRefusal = false := by
  intro key bytes payload
  have decoded : ClientToRelayMsg.fromBytes bytes .disabled =
      .ok (.datagrams key payload : ClientToRelayMsg Crates.reference) := by decide
  have forwardable : ForwardableFrame Crates.reference bytes :=
    ⟨.clientToRelayDatagram, key.asBytes ++ [0, 7], by decide, .inl ⟨rfl, by decide, by decide⟩⟩
  exact ⟨decoded, ((recipient_survives_iff_frames_forwardable Crates.reference).1 bytes .disabled
    key key payload decoded).mpr forwardable⟩

/-- A frame without contents is accepted from the sender and ends the recipient's
connection. -/
theorem empty_frame_ends_recipient :
    let key := Crates.smallKey 3 (by decide)
    let sender := Crates.smallKey 4 (by decide)
    let bytes : Bytes := 4 :: (key.asBytes ++ [0])
    let payload : Datagrams := ⟨none, none, []⟩
    let recipient : Actor Crates.reference := ⟨[], key, 1, Clients.new, none⟩
    ClientToRelayMsg.fromBytes bytes .disabled =
        .ok (.datagrams key payload : ClientToRelayMsg Crates.reference) ∧
      RelayedStream.startSend (.datagrams sender payload : RelayToClientMsg Crates.reference) none =
        .error .emptyPacket ∧
      (recipient.runInner [(Clients.new, .packet (some ⟨sender, payload⟩) .prompt none)]).1 =
        some (.err (.packetSend (.stream .emptyPacket))) := by
  decide

end NexalinkTunnel.Relay.Server
