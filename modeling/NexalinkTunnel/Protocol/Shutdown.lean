import NexalinkTunnel.Protocol.Router

/-!
Contract: what a call of `Router::shutdown` that returns says about the router.

Owns when `Ok` means that the handlers are shut down and the endpoint is closed, and
which panics reach the caller.

## Two calls that do not wait

A call returns `Ok` without waiting if it finds the token cancelled or the handle
taken. Only the call that takes the handle waits for the run loop, and only that
one learns of an error. The run loop in turn reports panics of accept tasks to the
log alone: it leaves the loop, shuts everything down and ends well.
-/

namespace NexalinkTunnel.Protocol

open Lib

variable {builder : RouterBuilder} {history : List RouterStep} {router after : Router}

namespace Router

theorem Keeps.handlersShutDown (keeps : router.Keeps after)
    (shut : router.HandlersShutDown builder) : after.HandlersShutDown builder :=
  fun alpn registered => keeps.shutDown (shut alpn registered)

theorem Keeps.complete (keeps : router.Keeps after) (complete : router.Complete builder) :
    after.Complete builder :=
  ⟨keeps.handlersShutDown complete.1, keeps.closed complete.2⟩

def Tail (builder : RouterBuilder) (router : Router) : Prop :=
  match router.runLoop with
  | .closing => router.HandlersShutDown builder
  | .aborting | .draining | .done (.ok ()) => router.Complete builder
  | _ => True

private theorem tail_of_early (early : router.runLoop.early = true) : router.Tail builder := by
  unfold Tail
  cases loop : router.runLoop with
  | polling branch => trivial
  | shuttingDown => trivial
  | _ => simp [loop, RunLoop.early] at early

theorem tail_of_error {error : JoinError} (done : router.runLoop = .done (.error error)) :
    router.Tail builder := by
  unfold Tail
  rw [done]
  trivial

private theorem Complete.tail (complete : router.Complete builder) : router.Tail builder := by
  unfold Tail
  split
  next => exact complete.1
  next => exact complete
  next => exact complete
  next => exact complete
  next => trivial

private theorem Tail.keeps (tail : router.Tail builder) (keeps : router.Keeps after)
    (same : after.runLoop = router.runLoop) : after.Tail builder := by
  unfold Tail at tail ⊢
  rw [same]
  split at tail
  next => exact keeps.handlersShutDown tail
  next => exact keeps.complete tail
  next => exact keeps.complete tail
  next => exact keeps.complete tail
  next => trivial

private theorem LoopMoves.tail {step : LoopStep} (moves : LoopMoves builder router after step)
    (keeps : router.Keeps after) (tail : router.Tail builder) : after.Tail builder := by
  unfold Tail at tail
  cases moves with
  | early _ early _ => exact tail_of_early early
  | panics _ done _ => exact tail_of_error done
  | cancelHandlers _ closing shut =>
      unfold Tail
      rw [closing]
      exact shut
  | closeEndpoint before _ closed =>
      rw [before] at tail
      exact Complete.tail ⟨keeps.handlersShutDown tail, closed⟩
  | abortAll before _ =>
      rw [before] at tail
      exact (keeps.complete tail).tail
  | drain before _ =>
      rw [before] at tail
      exact (keeps.complete tail).tail
  | finish before _ =>
      rw [before] at tail
      exact (keeps.complete tail).tail

theorem CallMoves.keepsLoop {caller : Caller} {step : CallStep}
    (moves : CallMoves router caller step after) :
    after.runLoop = router.runLoop ∧ after.shutDown = router.shutDown ∧
      after.endpointClosed = router.endpointClosed := by
  cases moves <;> exact ⟨rfl, rfl, rfl⟩

private theorem Moves.tail {step : RouterStep} (moves : Moves builder router after step)
    (tail : router.Tail builder) : after.Tail builder := by
  cases moves with
  | loop keeps moves => exact moves.tail keeps tail
  | call moves =>
      obtain ⟨loop, shutDown, closed⟩ := moves.keepsLoop
      unfold Tail Complete HandlersShutDown at *
      rwa [loop, shutDown, closed]
  | acceptTaskEnds keeps same => exact tail.keeps keeps same
  | abort keeps _ done => exact tail_of_error done
  | endpointCloses keeps same => exact tail.keeps keeps same

end Router

private theorem tail_of_reaches (reached : (routerMachine builder).Reaches history router) :
    router.Tail builder :=
  reached.invariant_next (fun _ router => router.Tail builder) trivial
    fun _ _ _ _ stepped tail => (Router.next_moves stepped).tail tail

/-- Every call that has returned `Ok` is right about the router. -/
def Router.OksRight (builder : RouterBuilder) (router : Router) : Prop :=
  ∀ caller, router.calls caller = .returned (.ok ()) → router.Complete builder

/-- A call that returns without waiting finds everything shut down. -/
def ReturnsLate (builder : RouterBuilder) (_ : List RouterStep) (router : Router) :
    RouterStep → Prop
  | .call _ .check => router.cancelToken = true → router.Complete builder
  | .call _ .take => router.task = false → router.Complete builder
  | _ => True

instance : (step : RouterStep) → Decidable (ReturnsLate builder history router step)
  | .call _ .check => inferInstanceAs (Decidable (_ = true → _))
  | .call _ .take => inferInstanceAs (Decidable (_ = false → _))
  | .call _ .cancel | .call _ .await | .call _ .abandon => .isTrue trivial
  | .loop _ | .acceptTaskEnds _ _ | .abort | .endpointCloses => .isTrue trivial

private theorem oksRight_update_iff {caller : Caller} {call : ShutdownCall}
    (right : router.OksRight builder)
    (calls : after.calls = Function.update router.calls caller call)
    (same : after.Complete builder ↔ router.Complete builder) :
    after.OksRight builder ↔ (call = .returned (.ok ()) → router.Complete builder) := by
  unfold Router.OksRight
  rw [calls, same, Function.forall_update_iff router.calls
    fun _ call => call = .returned (.ok ()) → router.Complete builder]
  exact and_iff_left fun other _ => right other

/-- A step leaves every `Ok` right exactly if no call returns too early by it. -/
theorem oksRight_step_iff {step : RouterStep} (right : router.OksRight builder)
    (tail : router.Tail builder) (moves : router.Moves builder after step) :
    after.OksRight builder ↔ ReturnsLate builder history router step := by
  have outside : router.Keeps after → after.OksRight builder := by
    intro keeps caller returned
    rw [keeps.calls] at returned
    exact keeps.complete (right caller returned)
  cases moves with
  | loop keeps _ => exact iff_of_true (outside keeps) trivial
  | acceptTaskEnds keeps _ => exact iff_of_true (outside keeps) trivial
  | abort keeps _ _ => exact iff_of_true (outside keeps) trivial
  | endpointCloses keeps _ => exact iff_of_true (outside keeps) trivial
  | @call caller step moves =>
      obtain ⟨-, shutDown, closed⟩ := moves.keepsLoop
      have same : after.Complete builder ↔ router.Complete builder := by
        unfold Router.Complete Router.HandlersShutDown
        rw [shutDown, closed]
      cases moves with
      | passes _ found =>
          rw [oksRight_update_iff right rfl same]
          rcases found with ⟨rfl, cancelled⟩ | ⟨rfl, taken⟩
          · simp [ReturnsLate, cancelled]
          · simp [ReturnsLate, taken]
      | @proceeds _ call _ _ untaken notTake unCancelled =>
          rw [oksRight_update_iff right rfl same]
          refine iff_of_true (fun returned => ?_) ?_
          · rw [returned] at untaken
            cases untaken
          · cases step with
            | check => simp [ReturnsLate, unCancelled]
            | take => exact absurd rfl notTake
            | _ => trivial
      | takes present =>
          rw [oksRight_update_iff right rfl same]
          simp [ReturnsLate, present]
      | awaits _ done =>
          rw [oksRight_update_iff right rfl same]
          refine iff_of_true (fun returned => ?_) trivial
          cases returned
          unfold Router.Tail at tail
          rwa [done] at tail
      | abandons =>
          rw [oksRight_update_iff right rfl same]
          simp [ReturnsLate]

/-- Along every interleaving of a run loop with any number of calls of `shutdown`,
whenever a call has returned `Ok` all handlers are shut down and the endpoint is closed,
exactly if no call found the token cancelled or the handle taken before that was so. -/
theorem shutdown_ok_complete_iff_returnsLate (builder : RouterBuilder)
    (history : List RouterStep) (router : Router)
    (reached : (routerMachine builder).Reaches history router) :
    (routerMachine builder).Throughout (Router.OksRight builder) history ↔
      ((routerMachine builder).restrict (ReturnsLate builder)).Reaches history router := by
  apply reached.throughout_iff_restrict_next
  · intro caller returned
    cases returned
  · intro history router step after before stepped right
    exact oksRight_step_iff right (tail_of_reaches before) (Router.next_moves stepped)

def oneHandler : RouterBuilder := ⟨[[1]], false⟩

/-- A call shuts the router down, and another comes late. -/
def orderlyShutdown : List RouterStep :=
  [.call 0 .check, .call 0 .cancel, .call 0 .take, .loop .pollCancelled,
    .loop (.handlerShutdown [1] true), .loop .cancelHandlers, .loop .closeEndpoint,
    .loop .abortAll, .loop .finish, .call 0 .await, .call 1 .check]

def routerAfter (steps : List RouterStep) : Router :=
  (routerMachine oneHandler).runFrom .spawn steps

theorem orderlyShutdown_ok_complete :
    (routerMachine oneHandler).Throughout (Router.OksRight oneHandler) orderlyShutdown ∧
      (routerAfter orderlyShutdown).calls 0 = .returned (.ok ()) ∧
      (routerAfter orderlyShutdown).calls 1 = .returned (.ok ()) :=
  ⟨(shutdown_ok_complete_iff_returnsLate oneHandler orderlyShutdown (routerAfter orderlyShutdown)
    (Machine.reaches_runFrom (by decide))).mpr (Machine.reaches_runFrom (by decide)), rfl, rfl⟩

/-- Two calls both find the router running, and a third one comes later. -/
def hastyShutdown : List RouterStep :=
  [.call 0 .check, .call 1 .check, .call 0 .cancel, .call 1 .cancel, .call 0 .take,
    .call 1 .take, .call 2 .check]

/-- The second call finds the handle taken and the third one the token cancelled. Both
return `Ok` before the run loop has done anything. -/
theorem hastyShutdown_ok_incomplete :
    (routerMachine oneHandler).Reaches hastyShutdown (routerAfter hastyShutdown) ∧
      (routerAfter hastyShutdown).calls 1 = .returned (.ok ()) ∧
      (routerAfter hastyShutdown).calls 2 = .returned (.ok ()) ∧
      (routerAfter hastyShutdown).shutDown = [] ∧
      (routerAfter hastyShutdown).endpointClosed = false :=
  ⟨Machine.reaches_runFrom (by decide), rfl, rfl, rfl, rfl⟩

/-! ## Which panics reach the caller -/

namespace RouterStep

/-- The call that checks whether the router is shut down. -/
def checkedBy : RouterStep → Option Caller
  | .call caller .check => some caller
  | _ => none

/-- The call that looks for the handle. -/
def takenBy : RouterStep → Option Caller
  | .call caller .take => some caller
  | _ => none

end RouterStep

def firstCall (history : List RouterStep) : Option Caller :=
  history.findSome? RouterStep.checkedBy

def firstTaker (history : List RouterStep) : Option Caller :=
  history.findSome? RouterStep.takenBy

def TaskFailed (builder : RouterBuilder) (history : List RouterStep) : Prop :=
  ∃ step ∈ history, step.failsTask builder = true

theorem firstTaker_append (history : List RouterStep) (step : RouterStep) :
    firstTaker (history ++ [step]) = (firstTaker history).or step.takenBy := by
  unfold firstTaker
  rw [List.findSome?_append]
  simp

theorem taskFailed_append {step : RouterStep} :
    TaskFailed builder (history ++ [step]) ↔
      TaskFailed builder history ∨ step.failsTask builder = true := by
  simp [TaskFailed, or_and_right, exists_or]

/-- What a call says about the handle and about how the run loop ended. -/
def ShutdownCall.Fits (taker : Option Caller) (loop : RunLoop) (caller : Caller) :
    ShutdownCall → Prop
  | .notCalled | .cancelling | .taking => taker ≠ some caller
  | .awaiting => taker = some caller
  | .returned (.ok ()) => taker = some caller → loop = .done (.ok ())
  | .returned (.error error) => taker = some caller ∧ loop = .done (.error error)
  | .abandoned => True

structure CallInvariant (builder : RouterBuilder) (history : List RouterStep)
    (router : Router) : Prop where
  handle : router.task = true ↔ firstTaker history = none
  failed : (∃ error, router.runLoop = .done (.error error)) ↔ TaskFailed builder history
  fits : ∀ caller, (router.calls caller).Fits (firstTaker history) router.runLoop caller

private theorem ShutdownCall.Fits.loop {taker : Option Caller} {loop later : RunLoop}
    {caller : Caller} {call : ShutdownCall} (fits : call.Fits taker loop caller)
    (final : loop.isDone = true → later = loop) : call.Fits taker later caller := by
  unfold Fits at fits ⊢
  split at fits
  next => exact fits
  next => exact fits
  next => exact fits
  next => exact fits
  next =>
      intro taken
      have done := fits taken
      rw [final (by rw [done]; rfl), done]
  next =>
      obtain ⟨taken, done⟩ := fits
      exact ⟨taken, by rw [final (by rw [done]; rfl), done]⟩
  next => trivial

namespace Router

private theorem LoopMoves.notDone {step : LoopStep} (moves : LoopMoves builder router after step) :
    router.runLoop.isDone = false := by
  have early : router.runLoop.early = true → router.runLoop.isDone = false := by
    cases router.runLoop <;> simp [RunLoop.early, RunLoop.isDone]
  cases moves with
  | early before _ _ => exact early before
  | panics before _ _ => exact early before
  | cancelHandlers before _ _ => rw [before]; rfl
  | closeEndpoint before _ _ => rw [before]; rfl
  | abortAll before _ => rw [before]; rfl
  | drain before _ => rw [before]; rfl
  | finish before _ => rw [before]; rfl

private theorem LoopMoves.failed_iff {step : LoopStep}
    (moves : LoopMoves builder router after step) :
    (∃ error, after.runLoop = .done (.error error)) ↔ step.panics builder = true := by
  cases moves with
  | early _ later calm =>
      rw [calm]
      refine iff_of_false ?_ (by decide)
      rintro ⟨error, done⟩
      rw [done] at later
      cases later
  | panics _ later panics => exact iff_of_true ⟨_, later⟩ panics
  | cancelHandlers _ later _ => simp [later, LoopStep.panics]
  | closeEndpoint _ later _ => simp [later, LoopStep.panics]
  | abortAll _ later => simp [later, LoopStep.panics]
  | drain _ later => simp [later, LoopStep.panics]
  | finish _ later => simp [later, LoopStep.panics]

private theorem not_failed_of_notDone (notDone : router.runLoop.isDone = false) :
    ¬ ∃ error, router.runLoop = .done (.error error) := by
  rintro ⟨error, done⟩
  rw [done] at notDone
  cases notDone

end Router

private theorem CallInvariant.outside {step : RouterStep}
    (invariant : CallInvariant builder history router)
    (keeps : router.Keeps after) (untaken : step.takenBy = none)
    (final : router.runLoop.isDone = true → after.runLoop = router.runLoop)
    (failed : (∃ error, after.runLoop = .done (.error error)) ↔
      (∃ error, router.runLoop = .done (.error error)) ∨ step.failsTask builder = true) :
    CallInvariant builder (history ++ [step]) after := by
  have taker : firstTaker (history ++ [step]) = firstTaker history := by
    rw [firstTaker_append, untaken, Option.or_none]
  refine ⟨?_, ?_, ?_⟩
  · rw [keeps.task, taker]
    exact invariant.handle
  · rw [failed, taskFailed_append, invariant.failed]
  · intro caller
    rw [keeps.calls, taker]
    exact (invariant.fits caller).loop final

theorem fits_of_update {taker : Option Caller} {loop : RunLoop}
    {calls : Caller → ShutdownCall} {caller : Caller} {call : ShutdownCall}
    (own : call.Fits taker loop caller)
    (others : ∀ other, other ≠ caller → (calls other).Fits taker loop other) (other : Caller) :
    (Function.update calls caller call other).Fits taker loop other :=
  (Function.forall_update_iff calls (ShutdownCall.Fits taker loop)).mpr ⟨own, others⟩ other

private theorem fits_iff_of_untaken {taker : Option Caller} {loop : RunLoop} {caller : Caller}
    {call : ShutdownCall} (untaken : call.untaken = true) :
    call.Fits taker loop caller ↔ taker ≠ some caller := by
  cases call <;> simp [ShutdownCall.untaken] at untaken <;> rfl

private theorem ShutdownCall.Fits.taken {loop : RunLoop} {caller other : Caller}
    {call : ShutdownCall} (fits : call.Fits none loop other) (different : other ≠ caller) :
    call.Fits (some caller) loop other := by
  have others : some caller ≠ some other := fun same => different (Option.some.inj same).symm
  unfold Fits at fits ⊢
  split at fits
  next => exact others
  next => exact others
  next => exact others
  next => cases fits
  next => exact fun same => absurd same others
  next => cases fits.1
  next => trivial

private theorem CallInvariant.updates {caller : Caller} {call : ShutdownCall} {step : CallStep}
    (invariant : CallInvariant builder history router)
    (calls : after.calls = Function.update router.calls caller call)
    (task : after.task = router.task) (loop : after.runLoop = router.runLoop)
    (taker : firstTaker (history ++ [.call caller step]) = firstTaker history)
    (own : call.Fits (firstTaker history) router.runLoop caller) :
    CallInvariant builder (history ++ [.call caller step]) after := by
  refine ⟨?_, ?_, ?_⟩
  · rw [task, taker]
    exact invariant.handle
  · rw [loop, taskFailed_append, invariant.failed]
    simp [RouterStep.failsTask]
  · rw [calls, taker, loop]
    exact fits_of_update own fun other _ => invariant.fits other

private theorem CallInvariant.call {caller : Caller} {step : CallStep}
    (invariant : CallInvariant builder history router)
    (moves : Router.CallMoves router caller step after) :
    CallInvariant builder (history ++ [.call caller step]) after := by
  have sameTaker : step ≠ .take →
      firstTaker (history ++ [.call caller step]) = firstTaker history := by
    intro notTake
    rw [firstTaker_append]
    cases step with
    | take => exact absurd rfl notTake
    | _ => exact Option.or_none
  cases moves with
  | passes untaken found =>
      have notTaker := (fits_iff_of_untaken untaken).mp (invariant.fits caller)
      refine invariant.updates rfl rfl rfl ?_ fun taker => absurd taker notTaker
      rcases found with ⟨rfl, -⟩ | ⟨rfl, gone⟩
      · exact sameTaker (by decide)
      · -- The handle has been taken, by an earlier call.
        have taken : firstTaker history ≠ none := by
          rw [Ne, ← invariant.handle, gone]
          decide
        obtain ⟨taker, found⟩ := Option.ne_none_iff_exists'.mp taken
        rw [firstTaker_append, found]
        rfl
  | proceeds untaken later notTake _ =>
      have notTaker := (fits_iff_of_untaken untaken).mp (invariant.fits caller)
      exact invariant.updates rfl rfl rfl (sameTaker notTake)
        ((fits_iff_of_untaken later).mpr notTaker)
  | takes present =>
      have free := invariant.handle.mp present
      have taker : firstTaker (history ++ [.call caller .take]) = some caller := by
        rw [firstTaker_append, free]
        rfl
      refine ⟨?_, ?_, ?_⟩
      · rw [taker]
        simp
      · rw [taskFailed_append, ← invariant.failed]
        simp [RouterStep.failsTask, Router.goto]
      · rw [taker]
        refine fits_of_update rfl fun other different => ?_
        have fits := invariant.fits other
        rw [free] at fits
        exact fits.taken different
  | @awaits result awaiting done =>
      have taker : firstTaker history = some caller := by
        have fits := invariant.fits caller
        rw [awaiting] at fits
        exact fits
      refine invariant.updates rfl rfl rfl (sameTaker (by decide)) ?_
      cases result with
      | ok => exact fun _ => done
      | error error => exact ⟨taker, done⟩
  | abandons => exact invariant.updates rfl rfl rfl (sameTaker (by decide)) trivial

private theorem CallInvariant.moves {step : RouterStep}
    (invariant : CallInvariant builder history router) (moves : router.Moves builder after step) :
    CallInvariant builder (history ++ [step]) after := by
  cases moves with
  | loop keeps moves =>
      have notDone := moves.notDone
      refine invariant.outside keeps rfl (by simp [notDone]) ?_
      rw [moves.failed_iff]
      simp [Router.not_failed_of_notDone notDone, RouterStep.failsTask]
  | call moves => exact invariant.call moves
  | acceptTaskEnds keeps same =>
      exact invariant.outside keeps rfl (fun _ => same) (by simp [same, RouterStep.failsTask])
  | abort keeps notDone done =>
      exact invariant.outside keeps rfl (by simp [notDone]) (by simp [done, RouterStep.failsTask])
  | endpointCloses keeps same =>
      exact invariant.outside keeps rfl (fun _ => same) (by simp [same, RouterStep.failsTask])

private theorem callInvariant_of_reaches
    (reached : (routerMachine builder).Reaches history router) :
    CallInvariant builder history router := by
  apply reached.invariant_next (CallInvariant builder)
  · refine ⟨by simp [Router.spawn, firstTaker], ?_, ?_⟩
    · simp [Router.spawn, TaskFailed]
    · intro caller
      simp [Router.spawn, ShutdownCall.Fits, firstTaker]
  · intro history router step after stepped invariant
    exact invariant.moves (Router.next_moves stepped)

/-- For every run in which some accept task panicked: the first call of `shutdown`, if
it has returned, returned an error exactly if it was the first to look for the handle
and the run loop's own task failed. It fails by a panic of the filter or of a handler's
`shutdown`, or by being aborted, but not by panics of accept tasks. -/
theorem first_shutdown_reports_iff_task_failed (builder : RouterBuilder)
    (history : List RouterStep) (router : Router)
    (reached : (routerMachine builder).Reaches history router) :
    ∀ index, .acceptTaskEnds index .panicked ∈ history →
    ∀ caller, firstCall history = some caller →
    ∀ result, router.calls caller = .returned result →
      ((∃ error, result = .error error) ↔
        firstTaker history = some caller ∧ TaskFailed builder history) := by
  intro index _ caller _ result returned
  obtain ⟨-, failed, fits⟩ := callInvariant_of_reaches reached
  have own := fits caller
  rw [returned] at own
  rw [← failed]
  cases result with
  | ok =>
      refine iff_of_false (by simp) ?_
      rintro ⟨taker, error, done⟩
      cases done.symm.trans (own taker)
  | error error => exact iff_of_true ⟨error, rfl⟩ ⟨own.1, error, own.2⟩

/-- An accept task panics, and the run loop leaves its loop. -/
def acceptPanics : List RouterStep :=
  [.loop .pollCancelled, .loop (.pollJoinNext none), .loop (.pollAccept (.incoming (some .accept))),
    .acceptTaskEnds 0 .panicked, .loop .pollCancelled, .loop (.pollJoinNext (some 0))]

def waitingCall : List RouterStep := [.call 0 .check, .call 0 .cancel, .call 0 .take]

def calmTail : List RouterStep :=
  [.loop (.handlerShutdown [1] true), .loop .cancelHandlers, .loop .closeEndpoint,
    .loop .abortAll, .loop .finish]

/-- The handler panics once more, in its `shutdown`. -/
def panicsTwice : List RouterStep :=
  acceptPanics ++ waitingCall ++ [.loop (.handlerShutdown [1] false), .call 0 .await]

theorem panicsTwice_reported :
    (routerAfter panicsTwice).calls 0 = .returned (.error .panicked) ∧
      ((∃ error, Except.error JoinError.panicked = (.error error : Except JoinError Unit)) ↔
        firstTaker panicsTwice = some 0 ∧ TaskFailed oneHandler panicsTwice) :=
  ⟨rfl, first_shutdown_reports_iff_task_failed oneHandler panicsTwice (routerAfter panicsTwice)
    (Machine.reaches_runFrom (by decide)) 0 (by decide) 0 rfl _ rfl⟩

/-- The panic of an accept task is not reported, neither to a call that waits for the
run loop nor to one that comes after it. -/
theorem acceptPanics_unreported :
    (routerMachine oneHandler).Reaches (acceptPanics ++ waitingCall ++ calmTail ++ [.call 0 .await])
        (routerAfter (acceptPanics ++ waitingCall ++ calmTail ++ [.call 0 .await])) ∧
      (routerAfter (acceptPanics ++ waitingCall ++ calmTail ++ [.call 0 .await])).calls 0 =
        .returned (.ok ()) ∧
      (routerMachine oneHandler).Reaches (acceptPanics ++ calmTail ++ [.call 0 .check])
        (routerAfter (acceptPanics ++ calmTail ++ [.call 0 .check])) ∧
      (routerAfter (acceptPanics ++ calmTail ++ [.call 0 .check])).calls 0 = .returned (.ok ()) :=
  ⟨Machine.reaches_runFrom (by decide), rfl, Machine.reaches_runFrom (by decide), rfl⟩

end NexalinkTunnel.Protocol
