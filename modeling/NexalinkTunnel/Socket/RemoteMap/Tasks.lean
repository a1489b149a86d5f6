import NexalinkTunnel.Lib.Channel
import NexalinkTunnel.Lib.HashMap
import NexalinkTunnel.Lib.Transition

/-!
Contract: the tasks of the remote state actors and the map of their inboxes.

Owns `RemoteMap` with `send_to_actor`, `cleanup` and `remove_or_restart_actor`,
and the life of an actor's task: its initial messages, its inbox, closing and
draining it, and being joined. Sends through the map by others are steps of
their own, also through a sender that was read from the map long before.

Does not own: what an actor does with a message, and when it decides to end. An
actor may end whenever it has handled its initial messages.

## Why nothing is lost

A task is joined by the owner of the map only, who in the same step starts a new
task with what the old one had left. So at any time at most one task exists for
an endpoint, and what it has not handled yet continues the handled messages to
all that were sent.
-/

namespace NexalinkTunnel.Socket

open Lib

inductive TaskPhase (Message : Type) where
  /-- The actor handles its initial messages, then its inbox. -/
  | running (initialMsgs : List Message) (inbox : Channel Message)
  /-- The inbox is closed and not drained yet. -/
  | closed (inbox : Channel Message)
  /-- The task has returned the messages that were left over. -/
  | finished (leftoverMsgs : List Message)

structure ActorTask (Endpoint Message : Type) where
  endpoint : Endpoint
  phase : TaskPhase Message

/-- Where the owner of the map stands: between calls, in a `send_to_actor` that
waits for room in the inbox of a task, or in its loop that joins tasks. -/
inductive MapOwner (Endpoint Message : Type) where
  | idle
  | sending (endpoint : Endpoint) (sender : Nat) (message : Message)
  | joining (endpoint : Endpoint) (message : Message)
deriving DecidableEq

/-- The inbox that the owner sends into, and what it sends. -/
def MapOwner.sends {Endpoint Message : Type} :
    MapOwner Endpoint Message → Option (Nat × Message)
  | .sending _ sender message => some (sender, message)
  | _ => none

/-- Tasks are numbered in the order they are spawned, and a sender is the number of
the task whose inbox it feeds. `sent` lists the messages that an inbox or a new
task took, `handled` those that an actor of the endpoint has handled. -/
structure RemoteMap (Endpoint Message : Type) where
  senders : HashMap Endpoint Nat
  tasks : HashMap Nat (ActorTask Endpoint Message)
  nextTask : Nat
  owner : MapOwner Endpoint Message
  sent : List (Endpoint × Message)
  handled : List (Endpoint × Message)

def inboxCapacity : Nat := 16

namespace TaskPhase

variable {Message : Type}

def waiting : TaskPhase Message → List Message
  | .running initialMsgs inbox => initialMsgs ++ inbox.pending
  | .closed inbox => inbox.pending
  | .finished leftoverMsgs => leftoverMsgs

/-- The task after a message was put into its inbox, if that succeeds. -/
def trySend (message : Message) : TaskPhase Message → Option (TaskPhase Message)
  | .running initialMsgs inbox =>
      match inbox.trySend message with
      | .ok inbox => some (.running initialMsgs inbox)
      | .error _ => none
  | .closed _ | .finished _ => none

/-- The actor handles the next message: the initial ones come before the inbox. -/
def handle : TaskPhase Message → Option (Message × TaskPhase Message)
  | .running (message :: initialMsgs) inbox => some (message, .running initialMsgs inbox)
  | .running [] inbox => inbox.recv.map fun taken => (taken.1, .running [] taken.2)
  | .closed _ | .finished _ => none

def close : TaskPhase Message → Option (TaskPhase Message)
  | .running [] inbox => some (.closed inbox.close)
  | _ => none

def Ended : TaskPhase Message → Prop
  | .running _ _ => False
  | .closed _ | .finished _ => True

instance : DecidablePred (@Ended Message)
  | .running _ _ => inferInstanceAs (Decidable False)
  | .closed _ | .finished _ => inferInstanceAs (Decidable True)

def isFinished : TaskPhase Message → Bool
  | .finished _ => true
  | .running _ _ | .closed _ => false

/-- The actor takes out all messages that are left over, and returns. -/
def drain : TaskPhase Message → Option (TaskPhase Message)
  | .closed inbox => some (.finished inbox.recvAll.1)
  | _ => none

variable {phase next : TaskPhase Message} {message : Message}

private theorem waiting_trySend (accepted : phase.trySend message = some next) :
    next.waiting = phase.waiting ++ [message] := by
  cases phase with
  | running initialMsgs inbox =>
      by_cases room : inbox.HasRoom
      · simp only [trySend, Channel.trySend_of_hasRoom room, Option.some.injEq] at accepted
        rw [← accepted]
        simp [waiting, Channel.push]
      · obtain ⟨error, refused⟩ := Channel.trySend_error_of_not_hasRoom room message
        simp [trySend, refused] at accepted
  | closed inbox => cases accepted
  | finished leftoverMsgs => cases accepted

private theorem waiting_handle (taken : phase.handle = some (message, next)) :
    phase.waiting = message :: next.waiting := by
  unfold handle at taken
  split at taken
  next => cases taken; rfl
  next inbox =>
    obtain ⟨⟨received, rest⟩, received_eq, same⟩ := Option.map_eq_some_iff.mp taken
    cases same
    exact (Channel.recv_eq_some received_eq).1
  next => cases taken
  next => cases taken

private theorem waiting_close (moved : phase.close = some next) : next.waiting = phase.waiting := by
  unfold close at moved
  split at moved
  next => cases moved; rfl
  next => cases moved

private theorem waiting_drain (moved : phase.drain = some next) : next.waiting = phase.waiting := by
  unfold drain at moved
  split at moved
  next => cases moved; rfl
  next => cases moved

private theorem Ended.trySend_eq_none (ended : phase.Ended) (message : Message) :
    phase.trySend message = none := by
  cases phase with
  | running initialMsgs inbox => exact ended.elim
  | closed inbox => rfl
  | finished leftoverMsgs => rfl

private theorem Ended.handle_eq_none (ended : phase.Ended) : phase.handle = none := by
  cases phase with
  | running initialMsgs inbox => exact ended.elim
  | closed inbox => rfl
  | finished leftoverMsgs => rfl

private theorem ended_close (moved : phase.close = some next) : next.Ended := by
  unfold close at moved
  split at moved
  next => cases moved; trivial
  next => cases moved

private theorem ended_drain (moved : phase.drain = some next) : next.Ended := by
  unfold drain at moved
  split at moved
  next => cases moved; trivial
  next => cases moved

end TaskPhase

namespace RemoteMap

variable {Endpoint Message : Type} [DecidableEq Endpoint]

def new : RemoteMap Endpoint Message := ⟨∅, ∅, 0, .idle, [], []⟩

/-- Spawn a task with its initial messages, and put its sender into the map. -/
def startRemoteStateActor (map : RemoteMap Endpoint Message) (endpoint : Endpoint)
    (initialMsgs : List Message) : RemoteMap Endpoint Message :=
  { map with
    tasks := map.tasks.insert map.nextTask
      ⟨endpoint, .running initialMsgs (Channel.new inboxCapacity)⟩
    senders := map.senders.insert endpoint map.nextTask
    nextTask := map.nextTask + 1 }

def removeOrRestartActor (map : RemoteMap Endpoint Message) (endpoint : Endpoint)
    (leftoverMsgs : List Message) : RemoteMap Endpoint Message :=
  if leftoverMsgs.isEmpty then { map with senders := map.senders.erase endpoint }
  else map.startRemoteStateActor endpoint leftoverMsgs

/-- The first part of `send_to_actor`: the sender of the endpoint's actor, which is
started if there is none. -/
def sendToActor (map : RemoteMap Endpoint Message) (endpoint : Endpoint) (message : Message) :
    RemoteMap Endpoint Message :=
  match map.senders.lookup endpoint with
  | some sender => { map with owner := .sending endpoint sender message }
  | none =>
      { map.startRemoteStateActor endpoint [] with
        owner := .sending endpoint map.nextTask message }

def advance (map : RemoteMap Endpoint Message) (sender : Nat)
    (move : TaskPhase Message → Option (TaskPhase Message)) : RemoteMap Endpoint Message :=
  match map.tasks.lookup sender with
  | none => map
  | some task =>
      match move task.phase with
      | none => map
      | some phase => { map with tasks := map.tasks.insert sender { task with phase := phase } }

/-- Put a message into the inbox of a task. A sender whose task is gone is refused. -/
def trySend (map : RemoteMap Endpoint Message) (sender : Nat) (message : Message) :
    RemoteMap Endpoint Message :=
  match map.tasks.lookup sender with
  | none => map
  | some task =>
      match task.phase.trySend message with
      | none => map
      | some phase =>
          { map with
            tasks := map.tasks.insert sender { task with phase := phase }
            sent := map.sent ++ [(task.endpoint, message)] }

def handle (map : RemoteMap Endpoint Message) (sender : Nat) : RemoteMap Endpoint Message :=
  match map.tasks.lookup sender with
  | none => map
  | some task =>
      match task.phase.handle with
      | none => map
      | some (message, phase) =>
          { map with
            tasks := map.tasks.insert sender { task with phase := phase }
            handled := map.handled ++ [(task.endpoint, message)] }

/-- A finished task is joined, by `cleanup` or by the loop of `send_to_actor`. The
loop passes its own message on with what the task of its endpoint left. -/
def joinNext (map : RemoteMap Endpoint Message) (sender : Nat) : RemoteMap Endpoint Message :=
  match map.tasks.lookup sender with
  | some ⟨endpoint, .finished leftoverMsgs⟩ =>
      let joined := { map with tasks := map.tasks.erase sender }
      match map.owner with
      | .joining awaited message =>
          if endpoint ≠ awaited then joined.removeOrRestartActor endpoint leftoverMsgs
          else
            { joined with owner := .idle, sent := map.sent ++ [(endpoint, message)] }
              |>.removeOrRestartActor endpoint (leftoverMsgs ++ [message])
      | _ => joined.removeOrRestartActor endpoint leftoverMsgs
  | _ => map

end RemoteMap

/-- The steps of the owner of the map, of those who read it, and of the tasks. -/
inductive MapAction (Endpoint Message : Type) where
  | sendToActor (endpoint : Endpoint) (message : Message)
  | completeSend
  | failSend
  | trySend (sender : Nat) (message : Message)
  | handle (task : Nat)
  | close (task : Nat)
  | drain (task : Nat)
  | joinNext (task : Nat)

namespace RemoteMap

variable {Endpoint Message : Type} [DecidableEq Endpoint]

def step (map : RemoteMap Endpoint Message) :
    MapAction Endpoint Message → RemoteMap Endpoint Message
  | .sendToActor endpoint message => map.sendToActor endpoint message
  | .completeSend =>
      match map.owner with
      | .sending _ sender message => { map.trySend sender message with owner := .idle }
      | _ => map
  | .failSend =>
      match map.owner with
      | .sending endpoint _ message => { map with owner := .joining endpoint message }
      | _ => map
  | .trySend sender message => map.trySend sender message
  | .handle task => map.handle task
  | .close task => map.advance task TaskPhase.close
  | .drain task => map.advance task TaskPhase.drain
  | .joinNext task => map.joinNext task

def Accepts (map : RemoteMap Endpoint Message) (sender : Nat) (message : Message) : Prop :=
  ((map.tasks.lookup sender).bind fun task => task.phase.trySend message).isSome

/-- The inbox of a task is closed, or its task is gone. -/
def Refuses (map : RemoteMap Endpoint Message) (sender : Nat) : Prop :=
  ∀ task ∈ map.tasks.lookup sender, task.phase.Ended

/-- The owner's calls exclude each other. A send waits for room, and fails when the
inbox is closed. -/
def Ready (map : RemoteMap Endpoint Message) : MapAction Endpoint Message → Prop
  | .sendToActor _ _ => map.owner = .idle
  | .completeSend => ∃ send ∈ map.owner.sends, map.Accepts send.1 send.2
  | .failSend => ∃ send ∈ map.owner.sends, map.Refuses send.1
  | .joinNext task =>
      map.owner.sends = none ∧ ∃ joined ∈ map.tasks.lookup task, joined.phase.isFinished
  | .trySend _ _ | .handle _ | .close _ | .drain _ => True

instance [DecidableEq Message] (map : RemoteMap Endpoint Message) : DecidablePred map.Ready
  | .sendToActor _ _ => inferInstanceAs (Decidable (map.owner = .idle))
  | .completeSend =>
      inferInstanceAs (Decidable (∃ send ∈ map.owner.sends, Option.isSome _ = true))
  | .failSend =>
      inferInstanceAs (Decidable (∃ send ∈ map.owner.sends,
        ∀ task ∈ map.tasks.lookup send.1, task.phase.Ended))
  | .joinNext _ => inferInstanceAs (Decidable (_ ∧ _))
  | .trySend _ _ | .handle _ | .close _ | .drain _ => inferInstanceAs (Decidable True)

def interleavings : Machine (RemoteMap Endpoint Message) (MapAction Endpoint Message) where
  start := new
  Enabled := fun _ map action => map.Ready action
  step := step

instance [DecidableEq Message] (history : List (MapAction Endpoint Message))
    (map : RemoteMap Endpoint Message) (action : MapAction Endpoint Message) :
    Decidable (interleavings.Enabled history map action) :=
  inferInstanceAs (Decidable (map.Ready action))

/-! ## Messages of one endpoint -/

def addressed (log : List (Endpoint × Message)) (endpoint : Endpoint) : List Message :=
  (log.filter fun entry => entry.1 = endpoint).map Prod.snd

theorem addressed_append_own (log : List (Endpoint × Message)) (endpoint : Endpoint)
    (messages : List Message) :
    addressed (log ++ messages.map (Prod.mk endpoint)) endpoint =
      addressed log endpoint ++ messages := by
  simp [addressed, List.filter_map, Function.comp_def]

theorem addressed_append_other (log : List (Endpoint × Message)) {endpoint other : Endpoint}
    (messages : List Message) (different : other ≠ endpoint) :
    addressed (log ++ messages.map (Prod.mk endpoint)) other = addressed log other := by
  simp [addressed, List.filter_map, Function.comp_def, different.symm]

/-! ## Tasks, senders and messages agree -/

/-- The tasks are those the senders name, and what a task has waiting continues what
was handled to all that was sent. -/
structure Consistent (map : RemoteMap Endpoint Message) : Prop where
  fresh : ∀ sender task, map.tasks.lookup sender = some task → sender < map.nextTask
  entry : ∀ endpoint sender, map.senders.lookup endpoint = some sender ↔
    ∃ task, map.tasks.lookup sender = some task ∧ task.endpoint = endpoint
  delivered : ∀ sender task, map.tasks.lookup sender = some task →
    addressed map.sent task.endpoint =
      addressed map.handled task.endpoint ++ task.phase.waiting
  settled : ∀ endpoint, map.senders.lookup endpoint = none →
    addressed map.sent endpoint = addressed map.handled endpoint

/-- The same while the owner has `messages` of `endpoint` in hand and no task runs
for it. -/
structure Detached (map : RemoteMap Endpoint Message) (endpoint : Endpoint)
    (messages : List Message) : Prop where
  fresh : ∀ sender task, map.tasks.lookup sender = some task → sender < map.nextTask
  absent : ∀ sender task, map.tasks.lookup sender = some task → task.endpoint ≠ endpoint
  entry : ∀ other, other ≠ endpoint → ∀ sender, map.senders.lookup other = some sender ↔
    ∃ task, map.tasks.lookup sender = some task ∧ task.endpoint = other
  delivered : ∀ sender task, map.tasks.lookup sender = some task →
    addressed map.sent task.endpoint =
      addressed map.handled task.endpoint ++ task.phase.waiting
  settled : ∀ other, other ≠ endpoint → map.senders.lookup other = none →
    addressed map.sent other = addressed map.handled other
  held : addressed map.sent endpoint = addressed map.handled endpoint ++ messages

variable {map : RemoteMap Endpoint Message} {endpoint : Endpoint} {messages : List Message}

private theorem Consistent.unique (consistent : map.Consistent) {first second : Nat}
    {task other : ActorTask Endpoint Message} (found : map.tasks.lookup first = some task)
    (foundOther : map.tasks.lookup second = some other) (same : task.endpoint = other.endpoint) :
    first = second := by
  have named := (consistent.entry task.endpoint first).mpr ⟨task, found, rfl⟩
  have namedOther := (consistent.entry task.endpoint second).mpr ⟨other, foundOther, same.symm⟩
  exact Option.some.inj (named.symm.trans namedOther)

private theorem Consistent.detach_absent (consistent : map.Consistent)
    (missing : map.senders.lookup endpoint = none) : map.Detached endpoint [] where
  fresh := consistent.fresh
  absent := by
    intro sender task found same
    have named := (consistent.entry endpoint sender).mpr ⟨task, found, same⟩
    rw [missing] at named
    cases named
  entry := fun other _ => consistent.entry other
  delivered := consistent.delivered
  settled := fun other _ => consistent.settled other
  held := by rw [consistent.settled endpoint missing, List.append_nil]

/-- Joining a finished task leaves its messages in hand. -/
theorem Consistent.detach_finished (consistent : map.Consistent) {sender : Nat}
    (found : map.tasks.lookup sender = some ⟨endpoint, .finished messages⟩) :
    Detached { map with tasks := map.tasks.erase sender } endpoint messages := by
  have remaining : ∀ other task, (map.tasks.erase sender).lookup other = some task ↔
      other ≠ sender ∧ map.tasks.lookup other = some task := by
    intro other task
    by_cases same : other = sender <;> simp [HashMap.lookup_erase_eq_ite, same]
  constructor
  · intro other task foundOther
    exact consistent.fresh other task ((remaining other task).mp foundOther).2
  · intro other task foundOther same
    have kept := (remaining other task).mp foundOther
    exact kept.1 (consistent.unique kept.2 found same)
  · intro other different number
    rw [consistent.entry other number]
    apply exists_congr
    intro task
    rw [remaining]
    constructor
    · intro named
      refine ⟨⟨?_, named.1⟩, named.2⟩
      intro same
      rw [same, found] at named
      cases named.1
      exact different named.2.symm
    · intro named
      exact ⟨named.1.2, named.2⟩
  · intro other task foundOther
    exact consistent.delivered other task ((remaining other task).mp foundOther).2
  · exact fun other _ => consistent.settled other
  · exact consistent.delivered sender _ found

private theorem Detached.pass (detached : map.Detached endpoint messages) (message : Message) :
    Detached { map with owner := .idle, sent := map.sent ++ [(endpoint, message)] } endpoint
      (messages ++ [message]) where
  fresh := detached.fresh
  absent := detached.absent
  entry := detached.entry
  delivered := by
    intro sender task found
    have different := detached.absent sender task found
    refine (addressed_append_other _ [message] different).trans ?_
    exact detached.delivered sender task found
  settled := by
    intro other different missing
    refine (addressed_append_other _ [message] different).trans ?_
    exact detached.settled other different missing
  held := by
    refine (addressed_append_own _ _ [message]).trans ?_
    rw [detached.held, List.append_assoc]

private theorem Detached.start (detached : map.Detached endpoint messages) :
    (map.startRemoteStateActor endpoint messages).Consistent := by
  let started : ActorTask Endpoint Message :=
    ⟨endpoint, .running messages (Channel.new inboxCapacity)⟩
  have tasks : ∀ sender task,
      (map.startRemoteStateActor endpoint messages).tasks.lookup sender = some task ↔
        (sender = map.nextTask ∧ task = started) ∨ map.tasks.lookup sender = some task := by
    intro sender task
    show (map.tasks.insert map.nextTask started).lookup sender = some task ↔ _
    rw [HashMap.lookup_insert_eq_ite]
    by_cases same : sender = map.nextTask
    · have unused : map.tasks.lookup sender ≠ some task := by
        intro found
        have older := detached.fresh sender task found
        omega
      rw [if_pos same, Option.some.injEq, eq_comm]
      simp [same, unused]
    · simp [same]
  have senders : ∀ other,
      (map.startRemoteStateActor endpoint messages).senders.lookup other =
        if other = endpoint then some map.nextTask else map.senders.lookup other :=
    fun other => HashMap.lookup_insert_eq_ite _ _ _ _
  constructor
  · intro sender task found
    show sender < map.nextTask + 1
    rcases (tasks sender task).mp found with ⟨same, -⟩ | found
    · omega
    · have older := detached.fresh sender task found
      omega
  · intro other sender
    rw [senders]
    by_cases same : other = endpoint
    · rw [if_pos same, same]
      constructor
      · intro named
        exact ⟨started, (tasks sender started).mpr (.inl ⟨(Option.some.inj named).symm, rfl⟩), rfl⟩
      · intro named
        obtain ⟨task, found, ofEndpoint⟩ := named
        rcases (tasks sender task).mp found with ⟨rfl, -⟩ | found
        · rfl
        · exact absurd ofEndpoint (detached.absent sender task found)
    · rw [if_neg same, detached.entry other same]
      apply exists_congr
      intro task
      rw [tasks]
      constructor
      · intro named
        exact ⟨.inr named.1, named.2⟩
      · intro named
        rcases named with ⟨⟨-, rfl⟩ | found, ofOther⟩
        · exact absurd ofOther.symm same
        · exact ⟨found, ofOther⟩
  · intro sender task found
    rcases (tasks sender task).mp found with ⟨-, rfl⟩ | found
    · show addressed map.sent endpoint = addressed map.handled endpoint ++ (messages ++ [])
      rw [List.append_nil]
      exact detached.held
    · exact detached.delivered sender task found
  · intro other missing
    rw [senders] at missing
    split at missing
    next same => cases missing
    next different => exact detached.settled other different missing

private theorem Detached.removeOrRestart (detached : map.Detached endpoint messages) :
    (map.removeOrRestartActor endpoint messages).Consistent := by
  unfold removeOrRestartActor
  split
  next isEmpty =>
    have noMessages : messages = [] := List.isEmpty_iff.mp isEmpty
    have senders : ∀ other, (map.senders.erase endpoint).lookup other =
        if other = endpoint then none else map.senders.lookup other :=
      HashMap.lookup_erase_eq_ite map.senders endpoint
    constructor
    · exact detached.fresh
    · intro other sender
      rw [senders]
      by_cases same : other = endpoint
      · rw [if_pos same]
        constructor
        · intro named
          cases named
        · intro named
          obtain ⟨task, found, ofOther⟩ := named
          exact absurd (ofOther.trans same) (detached.absent sender task found)
      · rw [if_neg same]
        exact detached.entry other same sender
    · exact detached.delivered
    · intro other missing
      by_cases same : other = endpoint
      · rw [same]
        have held := detached.held
        rwa [noMessages, List.append_nil] at held
      · rw [senders, if_neg same] at missing
        exact detached.settled other same missing
  next => exact detached.start

/-! ## Steps of a task -/

/-- What a task can do between being spawned and being joined: it takes messages in
behind those that wait, and handles messages from the front. -/
inductive TaskMoves (map : RemoteMap Endpoint Message) : RemoteMap Endpoint Message → Prop where
  | stays : TaskMoves map map
  | moves (sender : Nat) (task : ActorTask Endpoint Message) (phase : TaskPhase Message)
      (taken done : List Message) (found : map.tasks.lookup sender = some task)
      (accounted : task.phase.waiting ++ taken = done ++ phase.waiting)
      (ended : task.phase.Ended → phase.Ended) :
      TaskMoves map { map with
        tasks := map.tasks.insert sender { task with phase := phase }
        sent := map.sent ++ taken.map (Prod.mk task.endpoint)
        handled := map.handled ++ done.map (Prod.mk task.endpoint) }

omit [DecidableEq Endpoint] in
theorem taskMoves_trySend (map : RemoteMap Endpoint Message) (sender : Nat) (message : Message) :
    TaskMoves map (map.trySend sender message) := by
  unfold RemoteMap.trySend
  split
  next => exact .stays
  next task found =>
    split
    next => exact .stays
    next phase accepted =>
      have ended : task.phase.Ended → phase.Ended := by
        intro ended
        rw [ended.trySend_eq_none] at accepted
        cases accepted
      simpa using TaskMoves.moves sender task phase [message] [] found
        (TaskPhase.waiting_trySend accepted).symm ended

omit [DecidableEq Endpoint] in
theorem taskMoves_handle (map : RemoteMap Endpoint Message) (sender : Nat) :
    TaskMoves map (map.handle sender) := by
  unfold RemoteMap.handle
  split
  next => exact .stays
  next task found =>
    split
    next => exact .stays
    next message phase taken =>
      have ended : task.phase.Ended → phase.Ended := by
        intro ended
        rw [ended.handle_eq_none] at taken
        cases taken
      have accounted : task.phase.waiting ++ [] = [message] ++ phase.waiting := by
        rw [List.append_nil]
        exact TaskPhase.waiting_handle taken
      simpa using TaskMoves.moves sender task phase [] [message] found accounted ended

omit [DecidableEq Endpoint] in
private theorem taskMoves_advance (map : RemoteMap Endpoint Message) (sender : Nat)
    {move : TaskPhase Message → Option (TaskPhase Message)}
    (keeps : ∀ phase next, move phase = some next → next.waiting = phase.waiting)
    (ends : ∀ phase next, move phase = some next → next.Ended) :
    TaskMoves map (map.advance sender move) := by
  unfold RemoteMap.advance
  split
  next => exact .stays
  next task found =>
    split
    next => exact .stays
    next phase moved =>
      have accounted : task.phase.waiting ++ [] = [] ++ phase.waiting := by
        rw [List.append_nil]
        exact (keeps _ _ moved).symm
      simpa using TaskMoves.moves sender task phase [] [] found accounted fun _ => ends _ _ moved

omit [DecidableEq Endpoint] in
theorem taskMoves_close (map : RemoteMap Endpoint Message) (sender : Nat) :
    TaskMoves map (map.advance sender TaskPhase.close) :=
  taskMoves_advance map sender (fun _ _ => TaskPhase.waiting_close) fun _ _ => TaskPhase.ended_close

omit [DecidableEq Endpoint] in
theorem taskMoves_drain (map : RemoteMap Endpoint Message) (sender : Nat) :
    TaskMoves map (map.advance sender TaskPhase.drain) :=
  taskMoves_advance map sender (fun _ _ => TaskPhase.waiting_drain) fun _ _ => TaskPhase.ended_drain

private theorem Consistent.taskMoves (consistent : map.Consistent)
    {next : RemoteMap Endpoint Message} (step : TaskMoves map next) : next.Consistent := by
  cases step with
  | stays => exact consistent
  | moves sender task phase taken done found accounted ended =>
      have tasks : ∀ number other,
          (map.tasks.insert sender { task with phase := phase }).lookup number = some other ↔
            (number = sender ∧ other = { task with phase := phase }) ∨
            (number ≠ sender ∧ map.tasks.lookup number = some other) := by
        intro number other
        rw [HashMap.lookup_insert_eq_ite]
        by_cases same : number = sender <;> simp [same, eq_comm]
      constructor
      · intro number other foundOther
        rcases (tasks number other).mp foundOther with ⟨rfl, -⟩ | ⟨-, foundOther⟩
        · exact consistent.fresh number task found
        · exact consistent.fresh number other foundOther
      · intro other number
        refine (consistent.entry other number).trans ?_
        by_cases same : number = sender
        · rw [same, found]
          simp [AList.lookup_insert]
        · simp [AList.lookup_insert_ne same]
      · intro number other foundOther
        rcases (tasks number other).mp foundOther with ⟨-, rfl⟩ | ⟨elsewhere, foundOther⟩
        · dsimp only
          rw [addressed_append_own, addressed_append_own, consistent.delivered sender task found,
            List.append_assoc, accounted, List.append_assoc]
        · have apart : other.endpoint ≠ task.endpoint := fun same =>
            elsewhere (consistent.unique foundOther found same)
          dsimp only
          rw [addressed_append_other _ _ apart, addressed_append_other _ _ apart]
          exact consistent.delivered number other foundOther
      · intro other missing
        have apart : other ≠ task.endpoint := by
          intro same
          have named := (consistent.entry task.endpoint sender).mpr ⟨task, found, rfl⟩
          rw [← same] at named
          exact absurd (named.symm.trans missing) (by simp)
        dsimp only
        rw [addressed_append_other _ _ apart, addressed_append_other _ _ apart]
        exact consistent.settled other missing

/-! ## Steps of the owner -/

private theorem Consistent.withOwner (consistent : map.Consistent)
    (owner : MapOwner Endpoint Message) :
    Consistent { map with owner := owner } where
  fresh := consistent.fresh
  entry := consistent.entry
  delivered := consistent.delivered
  settled := consistent.settled

private theorem Consistent.sendToActor (consistent : map.Consistent) (endpoint : Endpoint)
    (message : Message) : (map.sendToActor endpoint message).Consistent := by
  unfold RemoteMap.sendToActor
  split
  next => exact consistent.withOwner _
  next missing => exact (consistent.detach_absent missing).start.withOwner _

private theorem Consistent.joinNext (consistent : map.Consistent) (sender : Nat) :
    (map.joinNext sender).Consistent := by
  unfold RemoteMap.joinNext
  split
  next endpoint leftoverMsgs found =>
    have joined := consistent.detach_finished found
    dsimp only
    split
    next awaited message waits =>
      split
      next => exact joined.removeOrRestart
      next => exact (joined.pass message).removeOrRestart
    next => exact joined.removeOrRestart
  next => exact consistent

private theorem Consistent.step (consistent : map.Consistent)
    (action : MapAction Endpoint Message) :
    (map.step action).Consistent := by
  cases action with
  | sendToActor endpoint message => exact consistent.sendToActor endpoint message
  | completeSend =>
      show Consistent (match map.owner with
        | .sending _ sender message => { map.trySend sender message with owner := .idle }
        | _ => map)
      split
      next => exact (consistent.taskMoves (taskMoves_trySend map _ _)).withOwner .idle
      next => exact consistent
  | failSend =>
      show Consistent (match map.owner with
        | .sending endpoint _ message => { map with owner := .joining endpoint message }
        | _ => map)
      split
      next => exact consistent.withOwner _
      next => exact consistent
  | trySend sender message => exact consistent.taskMoves (taskMoves_trySend map sender message)
  | handle task => exact consistent.taskMoves (taskMoves_handle map task)
  | close task => exact consistent.taskMoves (taskMoves_close map task)
  | drain task => exact consistent.taskMoves (taskMoves_drain map task)
  | joinNext task => exact consistent.joinNext task

theorem consistent_of_reaches {history : List (MapAction Endpoint Message)}
    (reached : interleavings.Reaches history map) : map.Consistent := by
  apply reached.invariant fun _ map => map.Consistent
  · constructor <;> simp [interleavings, new]
  · intro history map action before ready consistent
    exact consistent.step action

/-! ## The owner waits for a task that exists -/

/-- The task of `endpoint` has left its loop and was not joined yet. -/
def Terminating (map : RemoteMap Endpoint Message) (endpoint : Endpoint) : Prop :=
  ∃ sender task, map.tasks.lookup sender = some task ∧ task.endpoint = endpoint ∧ task.phase.Ended

/-- The inbox that the owner sends into is the one of its endpoint's task, and the
task that it waits to join will come. -/
def OwnerAnchored (map : RemoteMap Endpoint Message) : Prop :=
  match map.owner with
  | .idle => True
  | .sending endpoint sender _ => map.senders.lookup endpoint = some sender
  | .joining endpoint _ => map.Terminating endpoint

private theorem Terminating.removeOrRestart (terminating : map.Terminating endpoint)
    (fresh : ∀ sender task, map.tasks.lookup sender = some task → sender < map.nextTask)
    (other : Endpoint) (leftoverMsgs : List Message) :
    (map.removeOrRestartActor other leftoverMsgs).Terminating endpoint := by
  obtain ⟨sender, task, found, ofEndpoint, ended⟩ := terminating
  unfold removeOrRestartActor
  split
  next => exact ⟨sender, task, found, ofEndpoint, ended⟩
  next =>
    refine ⟨sender, task, ?_, ofEndpoint, ended⟩
    have older := fresh sender task found
    show (map.tasks.insert map.nextTask _).lookup sender = some task
    rw [AList.lookup_insert_ne (by omega)]
    exact found

omit [DecidableEq Endpoint] in
private theorem Terminating.taskMoves (terminating : map.Terminating endpoint)
    {next : RemoteMap Endpoint Message} (step : TaskMoves map next) :
    next.Terminating endpoint := by
  cases step with
  | stays => exact terminating
  | moves sender task phase taken done found accounted keeps =>
      obtain ⟨number, other, foundOther, ofEndpoint, ended⟩ := terminating
      by_cases same : number = sender
      · rw [same, found] at foundOther
        cases foundOther
        exact ⟨sender, { task with phase := phase }, AList.lookup_insert _, ofEndpoint,
          keeps ended⟩
      · exact ⟨number, other, (AList.lookup_insert_ne same).trans foundOther, ofEndpoint, ended⟩

private theorem OwnerAnchored.taskMoves (anchored : map.OwnerAnchored)
    {next : RemoteMap Endpoint Message} (step : TaskMoves map next) : next.OwnerAnchored := by
  have same : next.owner = map.owner ∧ next.senders = map.senders := by
    cases step <;> exact ⟨rfl, rfl⟩
  unfold OwnerAnchored at anchored ⊢
  rw [same.1, same.2]
  cases waits : map.owner with
  | idle => trivial
  | sending endpoint sender message =>
      simp only [waits] at anchored
      exact anchored
  | joining endpoint message =>
      simp only [waits] at anchored
      exact anchored.taskMoves step

private theorem ownerAnchored_sendToActor (map : RemoteMap Endpoint Message) (endpoint : Endpoint)
    (message : Message) : (map.sendToActor endpoint message).OwnerAnchored := by
  unfold RemoteMap.sendToActor
  split
  next sender found => exact found
  next => exact AList.lookup_insert _

private theorem OwnerAnchored.failSend (anchored : map.OwnerAnchored) (consistent : map.Consistent)
    {sender : Nat} {message : Message} (sends : map.owner = .sending endpoint sender message)
    (refused : map.Refuses sender) : map.Terminating endpoint := by
  unfold OwnerAnchored at anchored
  simp only [sends] at anchored
  obtain ⟨task, found, ofEndpoint⟩ := (consistent.entry endpoint sender).mp anchored
  exact ⟨sender, task, found, ofEndpoint, refused task found⟩

private theorem owner_removeOrRestartActor (map : RemoteMap Endpoint Message) (endpoint : Endpoint)
    (leftoverMsgs : List Message) :
    (map.removeOrRestartActor endpoint leftoverMsgs).owner = map.owner := by
  unfold removeOrRestartActor
  split <;> rfl

private theorem OwnerAnchored.joinNext (anchored : map.OwnerAnchored) (consistent : map.Consistent)
    {sender : Nat} (free : map.owner.sends = none) :
    (map.joinNext sender).OwnerAnchored := by
  unfold RemoteMap.joinNext
  split
  next endpoint leftoverMsgs found =>
    dsimp only
    split
    next awaited message waits =>
      split
      next different =>
        unfold OwnerAnchored at anchored ⊢
        simp only [waits] at anchored
        simp only [owner_removeOrRestartActor, waits]
        apply Terminating.removeOrRestart
        · obtain ⟨number, task, foundOther, ofEndpoint, ended⟩ := anchored
          refine ⟨number, task, ?_, ofEndpoint, ended⟩
          have apart : number ≠ sender := by
            intro same
            rw [same, found] at foundOther
            cases foundOther
            exact different ofEndpoint
          exact (AList.lookup_erase_ne apart).trans foundOther
        · exact (consistent.detach_finished found).fresh
      next =>
        unfold OwnerAnchored
        rw [owner_removeOrRestartActor]
        trivial
    next notJoining =>
      unfold OwnerAnchored
      rw [owner_removeOrRestartActor]
      cases waits : map.owner with
      | idle => trivial
      | sending endpoint sender message =>
          rw [waits] at free
          cases free
      | joining endpoint message => exact absurd waits (notJoining endpoint message)
  next => exact anchored

omit [DecidableEq Endpoint] in
private theorem exists_sending {Holds : Nat × Message → Prop}
    (sends : ∃ send ∈ map.owner.sends, Holds send) :
    ∃ endpoint sender message,
      map.owner = .sending endpoint sender message ∧ Holds (sender, message) := by
  obtain ⟨send, found, holds⟩ := sends
  cases waits : map.owner with
  | sending endpoint sender message =>
      rw [waits] at found
      cases found
      exact ⟨endpoint, sender, message, rfl, holds⟩
  | _ =>
      rw [waits] at found
      cases found

private theorem OwnerAnchored.step (anchored : map.OwnerAnchored) (consistent : map.Consistent)
    {action : MapAction Endpoint Message} (ready : map.Ready action) :
    (map.step action).OwnerAnchored := by
  cases action with
  | sendToActor endpoint message => exact ownerAnchored_sendToActor map endpoint message
  | completeSend =>
      obtain ⟨endpoint, sender, message, sends, -⟩ := exists_sending ready
      simp only [RemoteMap.step, sends]
      trivial
  | failSend =>
      obtain ⟨endpoint, sender, message, sends, refused⟩ := exists_sending ready
      simp only [RemoteMap.step, sends]
      exact anchored.failSend consistent sends refused
  | trySend sender message => exact anchored.taskMoves (taskMoves_trySend map sender message)
  | handle task => exact anchored.taskMoves (taskMoves_handle map task)
  | close task => exact anchored.taskMoves (taskMoves_close map task)
  | drain task => exact anchored.taskMoves (taskMoves_drain map task)
  | joinNext task => exact anchored.joinNext consistent ready.1

private theorem ownerAnchored_of_reaches {history : List (MapAction Endpoint Message)}
    (reached : interleavings.Reaches history map) : map.OwnerAnchored := by
  apply reached.invariant fun _ map => map.OwnerAnchored
  · trivial
  · intro history map action before ready anchored
    exact anchored.step (consistent_of_reaches before) ready

def waitingFor (map : RemoteMap Endpoint Message) (endpoint : Endpoint) : List Message :=
  match (map.senders.lookup endpoint).bind fun sender => map.tasks.lookup sender with
  | some task => task.phase.waiting
  | none => []

private theorem Consistent.sent_eq (consistent : map.Consistent) (endpoint : Endpoint) :
    addressed map.sent endpoint = addressed map.handled endpoint ++ map.waitingFor endpoint := by
  unfold waitingFor
  cases named : map.senders.lookup endpoint with
  | none =>
      rw [Option.bind_none, List.append_nil]
      exact consistent.settled endpoint named
  | some sender =>
      obtain ⟨task, found, rfl⟩ := (consistent.entry endpoint sender).mp named
      rw [Option.bind_some, found]
      exact consistent.delivered sender task found

/-- At any point of any interleaving there is at most one unjoined task for an
endpoint; the entry of an endpoint in the sender map is its task's, and it is there
exactly as long as the task; the messages that were taken for an endpoint are, in
that order, those that its actors handled and those that its task will handle. A
send of the owner is to the task of the endpoint it is for, and the task that the
owner waits for exists. -/
theorem one_actor_per_endpoint_loses_nothing {history : List (MapAction Endpoint Message)}
    {map : RemoteMap Endpoint Message} (reached : interleavings.Reaches history map) :
    (∀ first second task other, map.tasks.lookup first = some task →
      map.tasks.lookup second = some other → task.endpoint = other.endpoint → first = second) ∧
    (∀ endpoint sender, map.senders.lookup endpoint = some sender ↔
      ∃ task, map.tasks.lookup sender = some task ∧ task.endpoint = endpoint) ∧
    (∀ endpoint, addressed map.sent endpoint =
      addressed map.handled endpoint ++ map.waitingFor endpoint) ∧
    map.OwnerAnchored := by
  have consistent := consistent_of_reaches reached
  refine ⟨?_, consistent.entry, consistent.sent_eq, ownerAnchored_of_reaches reached⟩
  intro first second task other found foundOther same
  exact consistent.unique found foundOther same

/-- An actor ends while a message of the owner waits behind it; a new task takes the
message over and keeps the order. -/
theorem one_actor_per_endpoint_loses_nothing_restart :
    let actions : List (MapAction Nat Nat) :=
      [.sendToActor 7 1, .completeSend, .handle 0, .sendToActor 8 9, .completeSend, .trySend 0 2,
        .close 0, .sendToActor 7 3, .failSend, .trySend 0 4, .drain 0, .joinNext 0, .handle 2]
    let map := interleavings.runFrom interleavings.start actions
    addressed map.sent 7 = [1, 2, 3] ∧ addressed map.handled 7 = [1, 2] ∧ map.waitingFor 7 = [3] ∧
      addressed map.sent 7 = addressed map.handled 7 ++ map.waitingFor 7 := by
  intro actions map
  have reached : interleavings.Reaches actions map := Machine.reaches_runFrom (by decide)
  exact ⟨by decide, by decide, by decide,
    (one_actor_per_endpoint_loses_nothing reached).2.2.1 7⟩

end RemoteMap

end NexalinkTunnel.Socket
