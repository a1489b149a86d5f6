import NexalinkTunnel.Lib.Transition

/-!
Contract: the socket's direct address updates, at most one at a time.

Owns `DirectAddrUpdateState` with `schedule_run`, `try_run` and `run`, and the
task that a run spawns. The task owns the lock on the reporter: it produces the
report, sends the done message and releases the lock, in that order, and the
socket actor may act between any two of these.

Does not own: the contents of a report, and the port mapper beyond what it is
asked for.

## The single slot

A request that finds the lock taken is kept in `want_update`. The slot is filled
again by a later request and emptied only by a `try_run` that gets the lock, so
both the order of the done message and the release, and the order of two
requests, decide what becomes of it.
-/

namespace NexalinkTunnel.Socket

open Lib

inductive UpdateReason where
  | none
  | periodic
  | portmapUpdated
  | linkChangeMajor
  | linkChangeMinor
  | relayMapChange
deriving DecidableEq, Repr

def UpdateReason.isMajor : UpdateReason → Bool
  | .linkChangeMajor | .relayMapChange => true
  | _ => false

inductive RunStage where
  | reporting
  | sendingDone
  | releasing
deriving DecidableEq

structure RunTask (IfStateDetails : Type) where
  why : UpdateReason
  ifState : IfStateDetails
  stage : RunStage

inductive ReportOutcome (Report : Type) where
  | finished (report : Report)
  | timedOut
  | cancelled

inductive PortMapperRequest where
  | procureMapping
  | deactivate

/-- What a call of `run` reads: its argument, the shutdown token and the relay map. -/
structure RunContext (IfStateDetails : Type) where
  ifState : IfStateDetails
  shutdown : Bool
  relayMapEmpty : Bool

/-- The relay map is not empty and the socket does not shut down. -/
def RunContext.InService {IfStateDetails : Type} (context : RunContext IfStateDetails) : Prop :=
  context.shutdown = false ∧ context.relayMapEmpty = false
deriving Decidable

/-- `netReporter` is the lock: the task that holds it, if any. `runDone` counts the
done messages that wait in the channel, and `started` lists the reasons with
which `run` was called. -/
structure DirectAddrUpdateState (IfStateDetails Report : Type) where
  wantUpdate : Option UpdateReason
  netReporter : Option (RunTask IfStateDetails)
  netReport : Option Report × UpdateReason
  portMapper : List PortMapperRequest
  runDone : Nat
  started : List UpdateReason

def doneCapacity : Nat := 8

namespace DirectAddrUpdateState

variable {IfStateDetails Report : Type}

def new : DirectAddrUpdateState IfStateDetails Report where
  wantUpdate := none
  netReporter := none
  netReport := (none, .none)
  portMapper := []
  runDone := 0
  started := []

def run (state : DirectAddrUpdateState IfStateDetails Report) (why : UpdateReason)
    (context : RunContext IfStateDetails) : DirectAddrUpdateState IfStateDetails Report :=
  let state := { state with started := state.started ++ [why] }
  -- Both early returns drop the guard, so the lock is free again.
  if context.shutdown then
    { state with portMapper := state.portMapper ++ [.deactivate] }
  else if context.relayMapEmpty then
    { state with netReport := (none, why) }
  else
    { state with
      portMapper := state.portMapper ++ [.procureMapping]
      netReporter := some ⟨why, context.ifState, .reporting⟩ }

def scheduleRun (state : DirectAddrUpdateState IfStateDetails Report) (why : UpdateReason)
    (context : RunContext IfStateDetails) : DirectAddrUpdateState IfStateDetails Report :=
  match state.netReporter with
  | none => state.run why context
  | some _ => { state with wantUpdate := some why }

def tryRun (state : DirectAddrUpdateState IfStateDetails Report)
    (context : RunContext IfStateDetails) : DirectAddrUpdateState IfStateDetails Report :=
  match state.netReporter with
  | none =>
      match state.wantUpdate with
      | some why => { state with wantUpdate := none }.run why context
      | none => state
  | some _ => state

/-! ## The task of a run -/

def stage (state : DirectAddrUpdateState IfStateDetails Report) : Option RunStage :=
  state.netReporter.map RunTask.stage

def publish (state : DirectAddrUpdateState IfStateDetails Report) (why : UpdateReason) :
    ReportOutcome Report → Option Report × UpdateReason
  | .finished report => (some report, why)
  | .timedOut | .cancelled => state.netReport

def report (state : DirectAddrUpdateState IfStateDetails Report)
    (outcome : ReportOutcome Report) : DirectAddrUpdateState IfStateDetails Report :=
  match state.netReporter with
  | some ⟨why, ifState, .reporting⟩ =>
      { state with
        netReport := state.publish why outcome
        netReporter := some ⟨why, ifState, .sendingDone⟩ }
  | _ => state

def sendDone (state : DirectAddrUpdateState IfStateDetails Report) :
    DirectAddrUpdateState IfStateDetails Report :=
  match state.netReporter with
  | some ⟨why, ifState, .sendingDone⟩ =>
      { state with
        runDone := state.runDone + 1
        netReporter := some ⟨why, ifState, .releasing⟩ }
  | _ => state

def release (state : DirectAddrUpdateState IfStateDetails Report) :
    DirectAddrUpdateState IfStateDetails Report :=
  match state.netReporter with
  | some ⟨_, _, .releasing⟩ => { state with netReporter := none }
  | _ => state

end DirectAddrUpdateState

/-- The actor's calls, and the steps of the task that holds the lock. -/
inductive UpdateAction (IfStateDetails Report : Type) where
  | scheduleRun (why : UpdateReason) (context : RunContext IfStateDetails)
  | tryRun (context : RunContext IfStateDetails)
  | report (outcome : ReportOutcome Report)
  | sendDone
  | release

namespace DirectAddrUpdateState

variable {IfStateDetails Report : Type}

/-- The actor calls `try_run` when it has taken a done message from the channel. -/
def step (state : DirectAddrUpdateState IfStateDetails Report) :
    UpdateAction IfStateDetails Report → DirectAddrUpdateState IfStateDetails Report
  | .scheduleRun why context => state.scheduleRun why context
  | .tryRun context => { state with runDone := state.runDone - 1 }.tryRun context
  | .report outcome => state.report outcome
  | .sendDone => state.sendDone
  | .release => state.release

/-- A task takes its steps in their order; sending waits for room in the channel. -/
def Ready (state : DirectAddrUpdateState IfStateDetails Report) :
    UpdateAction IfStateDetails Report → Prop
  | .scheduleRun _ _ | .tryRun _ => True
  | .report _ => state.stage = some .reporting
  | .sendDone => state.stage = some .sendingDone ∧ state.runDone < doneCapacity
  | .release => state.stage = some .releasing

instance (state : DirectAddrUpdateState IfStateDetails Report) :
    DecidablePred state.Ready
  | .scheduleRun _ _ | .tryRun _ => inferInstanceAs (Decidable True)
  | .report _ | .release => inferInstanceAs (Decidable (_ = _))
  | .sendDone => inferInstanceAs (Decidable (_ ∧ _))

def updates : Machine (DirectAddrUpdateState IfStateDetails Report)
    (UpdateAction IfStateDetails Report) where
  start := new
  Enabled := fun _ state action => state.Ready action
  step := step

/-! ## What becomes of a request

A step from any state either starts a run or leaves the slot to the latest
request. -/

private theorem exists_task_of_stage {state : DirectAddrUpdateState IfStateDetails Report}
    {stage : RunStage} (reached : state.stage = some stage) :
    ∃ why ifState, state.netReporter = some ⟨why, ifState, stage⟩ := by
  obtain ⟨task, held, rfl⟩ := Option.map_eq_some_iff.mp reached
  exact ⟨task.why, task.ifState, held⟩

private theorem started_run (state : DirectAddrUpdateState IfStateDetails Report)
    (why : UpdateReason) (context : RunContext IfStateDetails) :
    (state.run why context).started = state.started ++ [why] := by
  simp only [run]
  split
  · rfl
  · split <;> rfl

private theorem step_of_busy {state : DirectAddrUpdateState IfStateDetails Report}
    (busy : state.netReporter ≠ none) (action : UpdateAction IfStateDetails Report) :
    (state.step action).started = state.started ∧
      (state.step action).wantUpdate =
        match action with
        | .scheduleRun why _ => some why
        | _ => state.wantUpdate := by
  obtain ⟨⟨why, ifState, stage⟩, held⟩ := Option.ne_none_iff_exists'.mp busy
  cases action with
  | scheduleRun why context => simp [step, scheduleRun, held]
  | tryRun context => simp [step, tryRun, held]
  | report outcome => cases stage <;> simp [step, report, held]
  | sendDone => cases stage <;> simp [step, sendDone, held]
  | release => cases stage <;> simp [step, release, held]

private theorem started_step_of_free {state : DirectAddrUpdateState IfStateDetails Report}
    (free : state.netReporter = none) (action : UpdateAction IfStateDetails Report) :
    (state.step action).started = state.started ++
      match action with
      | .scheduleRun why _ => [why]
      | .tryRun _ => state.wantUpdate.toList
      | _ => [] := by
  cases action with
  | scheduleRun why context => simp [step, scheduleRun, free, started_run]
  | tryRun context =>
      cases wanted : state.wantUpdate with
      | none => simp [step, tryRun, free, wanted]
      | some why => simp [step, tryRun, free, wanted, started_run]
  | report outcome => simp [step, report, free]
  | sendDone => simp [step, sendDone, free]
  | release => simp [step, release, free]

def requests (actions : List (UpdateAction IfStateDetails Report)) : List UpdateReason :=
  actions.filterMap fun
    | .scheduleRun why _ => some why
    | _ => none

theorem started_prefix_step (state : DirectAddrUpdateState IfStateDetails Report)
    (action : UpdateAction IfStateDetails Report) :
    state.started <+: (state.step action).started := by
  by_cases free : state.netReporter = none
  · rw [started_step_of_free free]
    exact List.prefix_append _ _
  · exact (step_of_busy free action).1 ▸ List.prefix_refl _

private theorem started_prefix_runFrom (state : DirectAddrUpdateState IfStateDetails Report)
    (actions : List (UpdateAction IfStateDetails Report)) :
    state.started <+: (updates.runFrom state actions).started := by
  induction actions generalizing state with
  | nil => exact List.prefix_refl _
  | cons action actions inductionHypothesis =>
      exact (started_prefix_step state action).trans (inductionHypothesis (state.step action))

private theorem wantUpdate_step_of_quiet {state : DirectAddrUpdateState IfStateDetails Report}
    {why : UpdateReason} (wanted : state.wantUpdate = some why)
    {action : UpdateAction IfStateDetails Report}
    (quiet : (state.step action).started = state.started) :
    (state.step action).wantUpdate = some ((requests [action]).getLastD why) := by
  by_cases free : state.netReporter = none
  · rw [started_step_of_free free] at quiet
    cases action with
    | scheduleRun other context => simp at quiet
    | tryRun context => simp [wanted] at quiet
    | report outcome => simpa [step, report, free, requests] using wanted
    | sendDone => simpa [step, sendDone, free, requests] using wanted
    | release => simpa [step, release, free, requests] using wanted
  · rw [(step_of_busy free action).2]
    cases action with
    | scheduleRun other context => rfl
    | _ => exact wanted

private theorem wantUpdate_of_quiet {state : DirectAddrUpdateState IfStateDetails Report}
    {why : UpdateReason} (wanted : state.wantUpdate = some why)
    {actions : List (UpdateAction IfStateDetails Report)}
    (quiet : (updates.runFrom state actions).started = state.started) :
    (updates.runFrom state actions).wantUpdate = some ((requests actions).getLastD why) := by
  induction actions generalizing state why with
  | nil => exact wanted
  | cons action actions inductionHypothesis =>
      have first : (state.step action).started = state.started := by
        apply List.IsPrefix.eq_of_length_le
        · rw [← quiet]
          exact started_prefix_runFrom (state.step action) actions
        · exact (started_prefix_step state action).length_le
      have next := wantUpdate_step_of_quiet wanted first
      apply (inductionHypothesis next (quiet.trans first.symm)).trans
      cases action with
      | scheduleRun other context =>
          exact congrArg some List.getLastD_cons.symm
      | _ => rfl

/-- The first run after a request carries the latest request. -/
theorem first_start_after_request {state : DirectAddrUpdateState IfStateDetails Report}
    (busy : state.netReporter ≠ none) {why : UpdateReason} {context : RunContext IfStateDetails}
    {middle : List (UpdateAction IfStateDetails Report)}
    {action : UpdateAction IfStateDetails Report} {reason : UpdateReason}
    (quiet : (updates.runFrom state (.scheduleRun why context :: middle)).started = state.started)
    (starts : (updates.runFrom state (.scheduleRun why context :: middle ++ [action])).started =
      state.started ++ [reason]) :
    reason = (requests (middle ++ [action])).getLastD why := by
  have requested := step_of_busy busy (.scheduleRun why context)
  have wanted := wantUpdate_of_quiet requested.2 (quiet.trans requested.1.symm)
  have last : ((updates.runFrom state (.scheduleRun why context :: middle)).step action).started =
      (updates.runFrom state (.scheduleRun why context :: middle)).started ++ [reason] := by
    rw [quiet, ← starts]
    simp [Machine.runFrom, updates]
  -- Only a call that finds the lock free starts a run.
  by_cases free : (updates.runFrom state (.scheduleRun why context :: middle)).netReporter = none
  · rw [started_step_of_free free, List.append_cancel_left_eq] at last
    cases action with
    | scheduleRun other otherContext =>
        have same : other = reason := by simpa using last
        simp [requests, same]
    | tryRun otherContext =>
        have slot : (updates.runFrom state (.scheduleRun why context :: middle)).wantUpdate =
          some ((requests middle).getLastD why) := wanted
        have same : (requests middle).getLastD why = reason := by simpa [slot] using last
        simp [← same, requests]
    | _ => simp at last
  · rw [(step_of_busy free action).1] at last
    simp at last

/-! ## The socket at work -/

/-- Every run spawns its task, and every `try_run` follows a done message. -/
def InService (state : DirectAddrUpdateState IfStateDetails Report) :
    UpdateAction IfStateDetails Report → Prop
  | .scheduleRun _ context => context.InService
  | .tryRun context => 0 < state.runDone ∧ context.InService
  | _ => True

instance (state : DirectAddrUpdateState IfStateDetails Report) : DecidablePred state.InService
  | .scheduleRun _ context => inferInstanceAs (Decidable (context.InService))
  | .tryRun context => inferInstanceAs (Decidable (_ ∧ context.InService))
  | .report _ | .sendDone | .release => inferInstanceAs (Decidable True)

def updatesInService : Machine (DirectAddrUpdateState IfStateDetails Report)
    (UpdateAction IfStateDetails Report) :=
  updates.restrict fun _ state action => state.InService action

instance (history : List (UpdateAction IfStateDetails Report))
    (state : DirectAddrUpdateState IfStateDetails Report)
    (action : UpdateAction IfStateDetails Report) :
    Decidable (updatesInService.Enabled history state action) :=
  inferInstanceAs (Decidable (state.Ready action ∧ state.InService action))

/-- A major request made during a run is followed by a major run exactly if the
last of the requests after it, up to the start of that run, is major too. -/
theorem major_request_kept_iff_latest_major
    (state : DirectAddrUpdateState IfStateDetails Report) (why : UpdateReason)
    (context : RunContext IfStateDetails) (middle : List (UpdateAction IfStateDetails Report))
    (action : UpdateAction IfStateDetails Report) (reason : UpdateReason)
    (busy : state.netReporter ≠ none) (major : why.isMajor = true)
    (quiet : (updates.runFrom state (.scheduleRun why context :: middle)).started = state.started)
    (starts : (updates.runFrom state (.scheduleRun why context :: middle ++ [action])).started =
      state.started ++ [reason]) :
    reason.isMajor = true ↔
      ∀ last, (requests (middle ++ [action])).getLast? = some last → last.isMajor = true := by
  rw [first_start_after_request busy quiet starts, List.getLastD_eq_getLast?]
  cases (requests (middle ++ [action])).getLast? with
  | none => simp [major]
  | some last => simp

def atWork : RunContext Unit := ⟨(), false, false⟩

def firstUpdate : List (UpdateAction Unit Unit) := [.scheduleRun .periodic atWork]

def endOfRun : List (UpdateAction Unit Unit) := [.report .timedOut, .sendDone, .release]

theorem lone_major_request_kept :
    (updates.runFrom new (firstUpdate ++ .scheduleRun .relayMapChange atWork :: endOfRun ++
        [.tryRun atWork])).started = [.periodic, .relayMapChange] ∧
      UpdateReason.relayMapChange.isMajor = true :=
  ⟨by decide,
    (major_request_kept_iff_latest_major (updates.runFrom new firstUpdate) .relayMapChange atWork
      endOfRun (.tryRun atWork) .relayMapChange (by decide) (by decide) (by decide)
      (by decide)).mpr (by simp [requests, endOfRun])⟩

/-- A periodic tick during a run replaces the link change that was waiting, so the
next run is not a major one. -/
theorem periodic_request_downgrades_link_change :
    let first := updates.runFrom new firstUpdate
    let later := .scheduleRun .linkChangeMajor atWork :: .scheduleRun .periodic atWork :: endOfRun
    updatesInService.Reaches (firstUpdate ++ later ++ [.tryRun atWork])
        (updates.runFrom new (firstUpdate ++ later ++ [.tryRun atWork])) ∧
      first.netReporter ≠ none ∧ UpdateReason.linkChangeMajor.isMajor = true ∧
      (updates.runFrom first later).started = first.started ∧
      (updates.runFrom first (later ++ [.tryRun atWork])).started = first.started ++ [.periodic] ∧
      UpdateReason.periodic.isMajor = false :=
  ⟨Machine.reaches_runFrom (by decide), by decide, by decide, by decide, by decide,
    by decide⟩

/-- With no run under way and no done message waiting, no update is wanted. -/
def Remembers (state : DirectAddrUpdateState IfStateDetails Report) : Prop :=
  state.netReporter = none → state.runDone = 0 → state.wantUpdate = none

/-- A task that releases the lock while an update is wanted leaves a done message
behind. The actor may have taken the task's own message before. -/
def ReleasesBeforeDone (state : DirectAddrUpdateState IfStateDetails Report) :
    UpdateAction IfStateDetails Report → Prop
  | .release => state.wantUpdate ≠ none → 0 < state.runDone
  | _ => True

instance (state : DirectAddrUpdateState IfStateDetails Report) :
    DecidablePred state.ReleasesBeforeDone
  | .release => inferInstanceAs (Decidable (_ → _))
  | .scheduleRun _ _ | .tryRun _ | .report _ | .sendDone => inferInstanceAs (Decidable True)

theorem Remembers.of_busy {state : DirectAddrUpdateState IfStateDetails Report}
    (busy : state.netReporter ≠ none) : state.Remembers :=
  fun free => absurd free busy

private theorem run_netReporter (state : DirectAddrUpdateState IfStateDetails Report)
    (why : UpdateReason) {context : RunContext IfStateDetails} (inService : context.InService) :
    (state.run why context).netReporter = some ⟨why, context.ifState, .reporting⟩ := by
  simp [run, inService.1, inService.2]

private theorem remembers_scheduleRun (state : DirectAddrUpdateState IfStateDetails Report)
    (why : UpdateReason) {context : RunContext IfStateDetails}
    (inService : context.InService) : (state.scheduleRun why context).Remembers := by
  apply Remembers.of_busy
  cases held : state.netReporter with
  | none => simp [scheduleRun, held, run_netReporter state why inService]
  | some task => simp [scheduleRun, held]

private theorem remembers_tryRun (state : DirectAddrUpdateState IfStateDetails Report)
    {context : RunContext IfStateDetails} (inService : context.InService) :
    (state.tryRun context).Remembers := by
  cases held : state.netReporter with
  | none =>
      cases wanted : state.wantUpdate with
      | none =>
          intro _ _
          simp [tryRun, held, wanted]
      | some why =>
          apply Remembers.of_busy
          simp [tryRun, held, wanted, run_netReporter _ why inService]
  | some task =>
      apply Remembers.of_busy
      simp [tryRun, held]

private theorem remembers_step_iff {state : DirectAddrUpdateState IfStateDetails Report}
    {action : UpdateAction IfStateDetails Report} (ready : state.Ready action)
    (inService : state.InService action) :
    (state.step action).Remembers ↔ state.ReleasesBeforeDone action := by
  cases action with
  | scheduleRun why context =>
      exact iff_of_true (remembers_scheduleRun state why inService) trivial
  | tryRun context => exact iff_of_true (remembers_tryRun _ inService.2) trivial
  | report outcome =>
      obtain ⟨why, ifState, held⟩ := exists_task_of_stage ready
      apply iff_of_true (Remembers.of_busy _) trivial
      simp [step, report, held]
  | sendDone =>
      obtain ⟨why, ifState, held⟩ := exists_task_of_stage ready.1
      apply iff_of_true (Remembers.of_busy _) trivial
      simp [step, sendDone, held]
  | release =>
      obtain ⟨why, ifState, held⟩ := exists_task_of_stage ready
      simp only [step, release, held, Remembers, ReleasesBeforeDone, forall_const]
      rw [← not_imp_not, Nat.pos_iff_ne_zero]

/-- The socket remembers every request exactly in the runs whose tasks release the
lock before their last done message is taken, unless nothing is wanted. In such a
run a request that waits with the lock free is started by the next `try_run`. -/
theorem requests_remembered_iff_released_before_done
    {history : List (UpdateAction IfStateDetails Report)}
    {state : DirectAddrUpdateState IfStateDetails Report}
    (reached : updatesInService.Reaches history state) :
    (updatesInService.Throughout Remembers history ↔
      (updatesInService.restrict fun _ => ReleasesBeforeDone).Reaches history state) ∧
    (updatesInService.Throughout Remembers history → ∀ why, state.wantUpdate = some why →
      state.netReporter = none → 0 < state.runDone ∧ ∀ context, context.InService →
        (state.step (.tryRun context)).netReporter = some ⟨why, context.ifState, .reporting⟩) := by
  constructor
  · apply reached.throughout_iff_restrict
    · intro _ _
      rfl
    · intro history state action _ enabled _
      exact remembers_step_iff enabled.1 enabled.2
  · intro always why wanted free
    constructor
    · apply Nat.pos_of_ne_zero
      intro drained
      simp [always.last reached free drained] at wanted
    · intro context inService
      simp [step, tryRun, free, wanted, run_netReporter _ why inService]

theorem request_remembered_until_done :
    let waiting := firstUpdate ++ .scheduleRun .linkChangeMajor atWork :: endOfRun
    (updates.runFrom new waiting).wantUpdate = some .linkChangeMajor ∧
      updatesInService.Throughout Remembers waiting :=
  ⟨by decide,
    (requests_remembered_iff_released_before_done (Machine.reaches_runFrom (by decide))).1.mpr
      (Machine.reaches_runFrom (by decide))⟩

/-- The actor takes the done message while the task that sent it still holds the
lock; then the lock is released and nothing will start the update. -/
theorem early_done_forgets_request :
    let forgotten : List (UpdateAction Unit Unit) := firstUpdate ++
      [.scheduleRun .linkChangeMajor atWork, .report .timedOut, .sendDone, .tryRun atWork, .release]
    let state := updates.runFrom new forgotten
    updatesInService.Reaches forgotten state ∧ state.netReporter = none ∧ state.runDone = 0 ∧
      state.wantUpdate = some .linkChangeMajor :=
  ⟨Machine.reaches_runFrom (by decide), by decide, by decide, by decide⟩

end DirectAddrUpdateState

end NexalinkTunnel.Socket
