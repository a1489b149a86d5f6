import Mathlib.Logic.Function.Basic
import NexalinkTunnel.Lib.Bytes
import NexalinkTunnel.Lib.Transition

/-!
Contract: the router that hands incoming connections to protocol handlers.

Owns the run loop that `RouterBuilder::spawn` starts, with its select, its set of
accept tasks and the tail that shuts everything down, and `Router::shutdown` for
any number of calls on clones of the router.

Does not own: what an accept task does with its connection. It ends in one of the
ways in which the run loop can find it.

## Who ends the run loop

The cancel token is cancelled by the calls of `shutdown` and by the guard that the
run loop drops when it exits, so a cancelled token alone does not say how far the run
loop is. The handle of the task can be taken once. The call that has it learns how
the task ended, and aborts the task if it is dropped before that.
-/

namespace NexalinkTunnel.Protocol

open Lib

/-! ## The parts of a router -/

abbrev Alpn := Bytes

structure RouterBuilder where
  protocols : List Alpn
  incomingFilter : Bool

inductive IncomingFilterOutcome where
  | accept
  | retry
  | reject
  | ignore
deriving DecidableEq

/-- How an accept task can end: `finished` and `tokenCancelled` are `Ok(Some(()))` and
`Ok(None)`, the others are what a `JoinError` can say. -/
inductive AcceptOutcome where
  | finished
  | tokenCancelled
  | panicked
  | aborted
  | failed
deriving DecidableEq

inductive AcceptTask where
  | running
  | ended (outcome : AcceptOutcome)
deriving DecidableEq

inductive JoinError where
  | panicked
  | cancelled
deriving DecidableEq

/-- The branches of the select, in the order in which each poll tries them. -/
inductive Branch where
  | cancelled
  | joinNext
  | accept

inductive RunLoop where
  | polling (branch : Branch)
  /-- Awaits `ProtocolMap::shutdown`. -/
  | shuttingDown
  /-- Awaits `Endpoint::close`. -/
  | closing
  | aborting
  | draining
  | done (result : Except JoinError Unit)

inductive ShutdownCall where
  | notCalled
  | cancelling
  | taking
  | awaiting
  | returned (result : Except JoinError Unit)
  /-- Its future was dropped. -/
  | abandoned

abbrev Caller := Nat

structure Router where
  cancelToken : Bool
  /-- Whether the handle of the run loop's task is still there. -/
  task : Bool
  calls : Caller → ShutdownCall
  runLoop : RunLoop
  handlerCancelToken : Bool
  joinSet : List AcceptTask
  /-- The handlers whose `shutdown` has completed. -/
  shutDown : List Alpn
  /-- Whether some `Endpoint::close` has completed. -/
  endpointClosed : Bool
  abortRequested : Bool

/-- What `endpoint.accept()` answers, and the filter to it, which may panic. -/
inductive Incoming where
  | pending
  | closed
  | incoming (verdict : Option IncomingFilterOutcome)
deriving DecidableEq

inductive LoopStep where
  | pollCancelled
  | pollJoinNext (index : Option Nat)
  | pollAccept (incoming : Incoming)
  | handlerShutdown (alpn : Alpn) (completes : Bool)
  | cancelHandlers
  | closeEndpoint
  | abortAll
  | drain (index : Nat)
  | finish
deriving DecidableEq

inductive CallStep where
  | check
  | cancel
  | take
  | await
  | abandon
deriving DecidableEq

/-- The steps of the run loop and of the calls, and those of their environment. -/
inductive RouterStep where
  | loop (step : LoopStep)
  | call (caller : Caller) (step : CallStep)
  | acceptTaskEnds (index : Nat) (outcome : AcceptOutcome)
  /-- The runtime drops the run loop's task as it was told to. -/
  | abort
  /-- `Endpoint::close` of somebody else completes. -/
  | endpointCloses
deriving DecidableEq

namespace Router

def spawn : Router where
  cancelToken := false
  task := true
  calls _ := .notCalled
  runLoop := .polling .cancelled
  handlerCancelToken := false
  joinSet := []
  shutDown := []
  endpointClosed := false
  abortRequested := false

/-- The task ends: the guard cancels the token, and the set is dropped. -/
def exit (router : Router) (result : Except JoinError Unit) : Router :=
  { router with runLoop := .done result, cancelToken := true, joinSet := [] }

def again (router : Router) : Router := { router with runLoop := .polling .cancelled }

def leave (router : Router) : Router := { router with runLoop := .shuttingDown }

def onJoined (router : Router) : AcceptOutcome → Router
  | .panicked | .failed => router.leave
  | .finished | .tokenCancelled | .aborted => router.again

/-- The branch of `accept`. A verdict that is missing is a panic of the filter. -/
def onIncoming (builder : RouterBuilder) (router : Router) : Incoming → Router
  | .pending => router.again
  | .closed => router.leave
  | .incoming verdict =>
      let accepted := { router.again with joinSet := router.joinSet ++ [.running] }
      if builder.incomingFilter then
        match verdict with
        | none => router.exit (.error .panicked)
        | some .accept => accepted
        | some .retry | some .reject | some .ignore => router.again
      else accepted

def nextLoop (builder : RouterBuilder) (router : Router) (step : LoopStep) : Option Router :=
  match step, router.runLoop with
  | .pollCancelled, .polling .cancelled =>
      some (if router.cancelToken then router.leave
        else { router with runLoop := .polling .joinNext })
  | .pollJoinNext none, .polling .joinNext =>
      if router.joinSet.all (· == .running) then
        some { router with runLoop := .polling .accept }
      else none
  | .pollJoinNext (some index), .polling .joinNext =>
      match router.joinSet[index]? with
      | some (.ended outcome) =>
          some ({ router with joinSet := router.joinSet.eraseIdx index }.onJoined outcome)
      | _ => none
  | .pollAccept incoming, .polling .accept => some (router.onIncoming builder incoming)
  | .handlerShutdown alpn completes, .shuttingDown =>
      if alpn ∈ builder.protocols ∧ alpn ∉ router.shutDown then
        some (if completes then { router with shutDown := router.shutDown ++ [alpn] }
          else router.exit (.error .panicked))
      else none
  | .cancelHandlers, .shuttingDown =>
      if ∀ alpn ∈ builder.protocols, alpn ∈ router.shutDown then
        some { router with runLoop := .closing, handlerCancelToken := true }
      else none
  | .closeEndpoint, .closing =>
      some { router with runLoop := .aborting, endpointClosed := true }
  | .abortAll, .aborting => some { router with runLoop := .draining }
  | .drain index, .draining =>
      match router.joinSet[index]? with
      | some (.ended _) => some { router with joinSet := router.joinSet.eraseIdx index }
      | _ => none
  | .finish, .draining => if router.joinSet = [] then some (router.exit (.ok ())) else none
  | _, _ => none

def goto (router : Router) (caller : Caller) (call : ShutdownCall) : Router :=
  { router with calls := Function.update router.calls caller call }

def nextCall (router : Router) (caller : Caller) (step : CallStep) : Option Router :=
  match step, router.calls caller with
  | .check, .notCalled =>
      some (router.goto caller (if router.cancelToken then .returned (.ok ()) else .cancelling))
  | .cancel, .cancelling => some { router.goto caller .taking with cancelToken := true }
  | .take, .taking =>
      some (if router.task then { router.goto caller .awaiting with task := false }
        else router.goto caller (.returned (.ok ())))
  | .await, .awaiting =>
      match router.runLoop with
      | .done result => some (router.goto caller (.returned result))
      | _ => none
  | .abandon, .cancelling => some (router.goto caller .abandoned)
  | .abandon, .taking => some (router.goto caller .abandoned)
  -- The handle aborts its task when it is dropped.
  | .abandon, .awaiting => some { router.goto caller .abandoned with abortRequested := true }
  | _, _ => none

def next (builder : RouterBuilder) (router : Router) : RouterStep → Option Router
  | .loop step => router.nextLoop builder step
  | .call caller step => router.nextCall caller step
  | .acceptTaskEnds index outcome =>
      if router.joinSet[index]? = some .running ∧
          (outcome = .tokenCancelled → router.handlerCancelToken = true) then
        some { router with joinSet := router.joinSet.set index (.ended outcome) }
      else none
  | .abort =>
      match router.runLoop with
      | .done _ => none
      | _ => if router.abortRequested then some (router.exit (.error .cancelled)) else none
  | .endpointCloses => some { router with endpointClosed := true }

end Router

/-! ## What a step can do -/

/-- A panic within the run loop, of the filter or of a handler's `shutdown`. -/
def LoopStep.panics (builder : RouterBuilder) : LoopStep → Bool
  | .pollAccept (.incoming none) => builder.incomingFilter
  | .handlerShutdown _ false => true
  | _ => false

def RunLoop.early : RunLoop → Bool
  | .polling _ | .shuttingDown => true
  | _ => false

namespace Router

def HandlersShutDown (builder : RouterBuilder) (router : Router) : Prop :=
  ∀ alpn ∈ builder.protocols, alpn ∈ router.shutDown

def Complete (builder : RouterBuilder) (router : Router) : Prop :=
  router.HandlersShutDown builder ∧ router.endpointClosed = true

instance (builder : RouterBuilder) (router : Router) : Decidable (router.Complete builder) :=
  inferInstanceAs (Decidable ((∀ alpn ∈ builder.protocols, alpn ∈ router.shutDown) ∧ _ = true))

/-- What the calls do is left alone, and what was shut down stays so. -/
structure Keeps (router after : Router) : Prop where
  calls : after.calls = router.calls
  task : after.task = router.task
  shutDown : router.shutDown ⊆ after.shutDown
  closed : router.endpointClosed = true → after.endpointClosed = true

inductive LoopMoves (builder : RouterBuilder) (router after : Router) : LoopStep → Prop where
  | early {step : LoopStep} : router.runLoop.early = true → after.runLoop.early = true →
      step.panics builder = false → LoopMoves builder router after step
  | panics {step : LoopStep} : router.runLoop.early = true →
      after.runLoop = .done (.error .panicked) → step.panics builder = true →
      LoopMoves builder router after step
  | cancelHandlers : router.runLoop = .shuttingDown → after.runLoop = .closing →
      after.HandlersShutDown builder → LoopMoves builder router after .cancelHandlers
  | closeEndpoint : router.runLoop = .closing → after.runLoop = .aborting →
      after.endpointClosed = true → LoopMoves builder router after .closeEndpoint
  | abortAll : router.runLoop = .aborting → after.runLoop = .draining →
      LoopMoves builder router after .abortAll
  | drain {index : Nat} : router.runLoop = .draining → after.runLoop = .draining →
      LoopMoves builder router after (.drain index)
  | finish : router.runLoop = .draining → after.runLoop = .done (.ok ()) →
      LoopMoves builder router after .finish

variable {builder : RouterBuilder} {router after : Router}

theorem keeps_of_eq (calls : after.calls = router.calls) (task : after.task = router.task)
    (shutDown : after.shutDown = router.shutDown)
    (closed : after.endpointClosed = router.endpointClosed) : router.Keeps after where
  calls := calls
  task := task
  shutDown := by rw [shutDown]; exact List.Subset.refl _
  closed := by rw [closed]; exact id

private theorem onIncoming_moves {incoming : Incoming}
    (polling : router.runLoop = .polling .accept) :
    router.Keeps (router.onIncoming builder incoming) ∧
      LoopMoves builder router (router.onIncoming builder incoming) (.pollAccept incoming) := by
  have early : router.runLoop.early = true := by rw [polling]; rfl
  cases incoming with
  | pending => exact ⟨keeps_of_eq rfl rfl rfl rfl, .early early rfl rfl⟩
  | closed => exact ⟨keeps_of_eq rfl rfl rfl rfl, .early early rfl rfl⟩
  | incoming verdict =>
      simp only [onIncoming]
      split
      next filtered =>
          split
          next => exact ⟨keeps_of_eq rfl rfl rfl rfl, .panics early rfl filtered⟩
          all_goals exact ⟨keeps_of_eq rfl rfl rfl rfl, .early early rfl rfl⟩
      next unfiltered =>
          refine ⟨keeps_of_eq rfl rfl rfl rfl, .early early rfl ?_⟩
          cases verdict with
          | none => simpa [LoopStep.panics] using unfiltered
          | some outcome => rfl

private theorem nextLoop_moves {step : LoopStep}
    (stepped : router.nextLoop builder step = some after) :
    router.Keeps after ∧ LoopMoves builder router after step := by
  unfold nextLoop at stepped
  split at stepped
  next polling =>
      have early : router.runLoop.early = true := by rw [polling]; rfl
      cases stepped
      split <;> exact ⟨keeps_of_eq rfl rfl rfl rfl, .early early rfl rfl⟩
  next polling =>
      have early : router.runLoop.early = true := by rw [polling]; rfl
      split at stepped
      next =>
          cases stepped
          exact ⟨keeps_of_eq rfl rfl rfl rfl, .early early rfl rfl⟩
      next => cases stepped
  next index polling =>
      have early : router.runLoop.early = true := by rw [polling]; rfl
      split at stepped
      next outcome found =>
          cases stepped
          cases outcome <;> exact ⟨keeps_of_eq rfl rfl rfl rfl, .early early rfl rfl⟩
      next => cases stepped
  next incoming polling =>
      cases stepped
      exact onIncoming_moves polling
  next alpn completes shuttingDown =>
      have early : router.runLoop.early = true := by rw [shuttingDown]; rfl
      split at stepped
      next =>
          cases stepped
          cases completes with
          | false => exact ⟨keeps_of_eq rfl rfl rfl rfl, .panics early rfl rfl⟩
          | true => exact ⟨⟨rfl, rfl, by simp, id⟩, .early early early rfl⟩
      next => cases stepped
  next shuttingDown =>
      split at stepped
      next all =>
          cases stepped
          exact ⟨keeps_of_eq rfl rfl rfl rfl, .cancelHandlers shuttingDown rfl all⟩
      next => cases stepped
  next closing =>
      cases stepped
      exact ⟨⟨rfl, rfl, List.Subset.refl _, fun _ => rfl⟩, .closeEndpoint closing rfl rfl⟩
  next aborting =>
      cases stepped
      exact ⟨keeps_of_eq rfl rfl rfl rfl, .abortAll aborting rfl⟩
  next index draining =>
      split at stepped
      next =>
          cases stepped
          exact ⟨keeps_of_eq rfl rfl rfl rfl, .drain draining draining⟩
      next => cases stepped
  next draining =>
      split at stepped
      next =>
          cases stepped
          exact ⟨keeps_of_eq rfl rfl rfl rfl, .finish draining rfl⟩
      next => cases stepped
  next => cases stepped

end Router

def ShutdownCall.untaken : ShutdownCall → Bool
  | .notCalled | .cancelling | .taking => true
  | _ => false

namespace Router

inductive CallMoves (router : Router) (caller : Caller) : CallStep → Router → Prop where
  /-- The call finds the token cancelled or the handle taken. -/
  | passes {step : CallStep} : (router.calls caller).untaken = true →
      (step = .check ∧ router.cancelToken = true ∨ step = .take ∧ router.task = false) →
      CallMoves router caller step (router.goto caller (.returned (.ok ())))
  | proceeds {step : CallStep} {call : ShutdownCall} {cancelToken : Bool} :
      (router.calls caller).untaken = true → call.untaken = true → step ≠ .take →
      (step = .check → router.cancelToken = false) →
      CallMoves router caller step { router.goto caller call with cancelToken := cancelToken }
  | takes : router.task = true →
      CallMoves router caller .take { router.goto caller .awaiting with task := false }
  | awaits {result : Except JoinError Unit} : router.calls caller = .awaiting →
      router.runLoop = .done result →
      CallMoves router caller .await (router.goto caller (.returned result))
  | abandons {abortRequested : Bool} :
      CallMoves router caller .abandon
        { router.goto caller .abandoned with abortRequested := abortRequested }

private theorem nextCall_moves {router after : Router} {caller : Caller} {step : CallStep}
    (stepped : router.nextCall caller step = some after) :
    CallMoves router caller step after := by
  unfold nextCall at stepped
  split at stepped
  next call =>
      have untaken : (router.calls caller).untaken = true := by rw [call]; rfl
      cases stepped
      cases cancelled : router.cancelToken with
      | true => exact .passes untaken (.inl ⟨rfl, cancelled⟩)
      | false => exact .proceeds untaken rfl (by decide) fun _ => cancelled
  next call =>
      cases stepped
      exact .proceeds (by rw [call]; rfl) rfl (by decide) (by simp)
  next call =>
      have untaken : (router.calls caller).untaken = true := by rw [call]; rfl
      cases stepped
      cases present : router.task with
      | true => exact .takes present
      | false => exact .passes untaken (.inr ⟨rfl, present⟩)
  next call =>
      split at stepped
      next result done =>
          cases stepped
          exact .awaits call done
      next => cases stepped
  next =>
      cases stepped
      exact .abandons
  next =>
      cases stepped
      exact .abandons
  next =>
      cases stepped
      exact .abandons
  next => cases stepped

end Router

/-- The run loop's task ends with an error: a panic of its own, or an abort. -/
def RouterStep.failsTask (builder : RouterBuilder) : RouterStep → Bool
  | .loop step => step.panics builder
  | .abort => true
  | _ => false

def RunLoop.isDone : RunLoop → Bool
  | .done _ => true
  | _ => false

namespace Router

inductive Moves (builder : RouterBuilder) (router after : Router) : RouterStep → Prop where
  | loop {step : LoopStep} : router.Keeps after → LoopMoves builder router after step →
      Moves builder router after (.loop step)
  | call {caller : Caller} {step : CallStep} : CallMoves router caller step after →
      Moves builder router after (.call caller step)
  | acceptTaskEnds {index : Nat} {outcome : AcceptOutcome} : router.Keeps after →
      after.runLoop = router.runLoop → Moves builder router after (.acceptTaskEnds index outcome)
  | abort : router.Keeps after → router.runLoop.isDone = false →
      after.runLoop = .done (.error .cancelled) → Moves builder router after .abort
  | endpointCloses : router.Keeps after → after.runLoop = router.runLoop →
      Moves builder router after .endpointCloses

theorem next_moves {builder : RouterBuilder} {router after : Router} {step : RouterStep}
    (stepped : router.next builder step = some after) : Moves builder router after step := by
  cases step with
  | loop step =>
      have moves := nextLoop_moves stepped
      exact .loop moves.1 moves.2
  | call caller step => exact .call (nextCall_moves stepped)
  | acceptTaskEnds index outcome =>
      simp only [next] at stepped
      split at stepped
      next =>
          cases stepped
          exact .acceptTaskEnds (keeps_of_eq rfl rfl rfl rfl) rfl
      next => cases stepped
  | abort =>
      simp only [next] at stepped
      split at stepped
      next => cases stepped
      next running =>
          have notDone : router.runLoop.isDone = false := by
            cases loop : router.runLoop with
            | done result => exact absurd loop (running result)
            | _ => rfl
          split at stepped
          next =>
              cases stepped
              exact .abort (keeps_of_eq rfl rfl rfl rfl) notDone rfl
          next => cases stepped
  | endpointCloses =>
      cases stepped
      exact .endpointCloses ⟨rfl, rfl, List.Subset.refl _, fun _ => rfl⟩ rfl

end Router

abbrev routerMachine (builder : RouterBuilder) : Machine Router RouterStep :=
  .ofNext .spawn (Router.next builder)

end NexalinkTunnel.Protocol
