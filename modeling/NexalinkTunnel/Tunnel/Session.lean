import Mathlib.Logic.Function.Basic
import NexalinkTunnel.Lib.Transition

/-!
Contract: the connection that the tasks of `tunnel-send` share.

Owns `TunnelSession`, with the lock around its cached connection, and the retry
loop of `forward_tcp_over_iroh`, for any number of tasks in any interleaving.

Does not own: what goes over the streams once they are open.

## What an invalidation evicts

A task invalidates the cache because `open_bi` failed on the connection it had
been given. The cache is emptied whatever it holds by then: another task may have
emptied it before and stored a new connection.
-/

namespace NexalinkTunnel.Tunnel

open Lib

abbrev Task := Nat

abbrev Connection := Nat

/-- The errors that `forward_tcp_over_iroh` makes itself, and those it passes on. -/
inductive FailureKind where
  | connectionReset
  | connectionAborted
  | passedOn

structure Failure where
  kind : FailureKind
  message : String

/-- Where a task is in `forward_tcp_over_iroh`. `retries` counts the turns of its
loop. -/
inductive Phase where
  /-- Not spawned yet. -/
  | absent
  /-- At the limiter. -/
  | waiting
  /-- In `get_connection`, before the read lock. -/
  | reading (retries : Nat)
  /-- In `get_connection`, before the write lock. -/
  | locking (retries : Nat)
  /-- In `get_connection`, with the write lock and the connection under way. -/
  | connecting (retries : Nat)
  /-- In `open_bi`. -/
  | opening (retries : Nat) (conn : Connection)
  /-- In `invalidate_connection`, before the write lock. -/
  | invalidating (retries : Nat) (conn : Connection)
  | sleeping (retries : Nat) (delayMs : Nat)
  | bridging (conn : Connection)
  | ended (result : Except Failure Unit)

structure TunnelSession where
  activeConn : Option Connection
  /-- The task that holds the write lock while it connects. Every other use of the
  lock is over within one step. -/
  writer : Option Task
  /-- How many connections were made. -/
  connections : Nat
  permits : Nat
  tasks : Task → Phase

/-- The steps of the tasks, with what the environment answers. The text of an error
is what `{:?}` makes of it. -/
inductive SessionStep where
  | spawn (task : Task)
  | acquire (task : Task) (noDelay : Except Failure Unit)
  | readCached (task : Task)
  | lockCached (task : Task)
  | connect (task : Task) (outcome : Except String Unit)
  | openBi (task : Task) (outcome : Except String Unit)
  | invalidate (task : Task)
  | wake (task : Task)
  | bridged (task : Task) (outcome : Except Failure Unit)

def SessionStep.task : SessionStep → Task
  | .spawn task | .acquire task _ | .readCached task | .lockCached task | .connect task _
  | .openBi task _ | .invalidate task | .wake task | .bridged task _ => task

namespace TunnelSession

def maxRetries : Nat := 10

def delayMs (retries : Nat) : Nat := min (100 * 1 <<< (retries - 1)) 2000

def start (permits : Nat) : TunnelSession where
  activeConn := none
  writer := none
  connections := 0
  permits := permits
  tasks _ := .absent

def goto (session : TunnelSession) (task : Task) (phase : Phase) : TunnelSession :=
  { session with tasks := Function.update session.tasks task phase }

def finish (session : TunnelSession) (task : Task) (result : Except Failure Unit) :
    TunnelSession :=
  { session.goto task (.ended result) with permits := session.permits + 1 }

def sleep (session : TunnelSession) (task : Task) (retries : Nat) : TunnelSession :=
  session.goto task (.sleeping retries (delayMs retries))

/-- `get_connection` up to the first lock. -/
def readCached (session : TunnelSession) (task : Task) (retries : Nat) : TunnelSession :=
  match session.activeConn with
  | some conn => session.goto task (.opening retries conn)
  | none => session.goto task (.locking retries)

/-- `get_connection` from the second lock. -/
def lockCached (session : TunnelSession) (task : Task) (retries : Nat) : TunnelSession :=
  match session.activeConn with
  | some conn => session.goto task (.opening retries conn)
  | none => { session.goto task (.connecting retries) with writer := some task }

/-- The end of `get_connection`, which releases the lock. -/
def connect (session : TunnelSession) (task : Task) (retries : Nat) :
    Except String Unit → TunnelSession
  | .ok () =>
      { session.goto task (.opening retries session.connections) with
        activeConn := some session.connections
        writer := none
        connections := session.connections + 1 }
  | .error text =>
      let session := { session with writer := none }
      if maxRetries ≤ retries then
        session.finish task (.error ⟨.connectionAborted,
          "在重试 " ++ toString maxRetries ++ " 次后，重新建立隧道物理连接仍然失败: " ++ text⟩)
      else session.sleep task retries

def openBi (session : TunnelSession) (task : Task) (retries : Nat) (conn : Connection) :
    Except String Unit → TunnelSession
  | .ok () => session.goto task (.bridging conn)
  | .error text =>
      if maxRetries ≤ retries then
        session.finish task (.error ⟨.connectionReset,
          "在重试 " ++ toString maxRetries ++ " 次后，物理通道流依然失效: " ++ text⟩)
      else session.goto task (.invalidating retries conn)

def invalidateConnection (session : TunnelSession) : TunnelSession :=
  { session with activeConn := none }

def acquire (session : TunnelSession) (task : Task) : Except Failure Unit → TunnelSession
  | .ok () => { session.goto task (.reading 1) with permits := session.permits - 1 }
  | .error failure => session.goto task (.ended (.error failure))

/-- A step is taken by a task that has come to it. The steps that take the lock wait
until no task connects under it. -/
def next (session : TunnelSession) (step : SessionStep) : Option TunnelSession :=
  match step, session.tasks step.task with
  | .spawn task, .absent => some (session.goto task .waiting)
  | .acquire task noDelay, .waiting =>
      if 0 < session.permits then some (session.acquire task noDelay) else none
  | .readCached task, .reading retries =>
      if session.writer = none then some (session.readCached task retries) else none
  | .lockCached task, .locking retries =>
      if session.writer = none then some (session.lockCached task retries) else none
  | .connect task outcome, .connecting retries => some (session.connect task retries outcome)
  | .openBi task outcome, .opening retries conn =>
      some (session.openBi task retries conn outcome)
  | .invalidate task, .invalidating retries _ =>
      if session.writer = none then some (session.invalidateConnection.sleep task retries)
      else none
  | .wake task, .sleeping retries _ => some (session.goto task (.reading (retries + 1)))
  | .bridged task outcome, .bridging _ => some (session.finish task outcome)
  | _, _ => none

end TunnelSession

/-- The tasks of one session behind a limiter with `permits` permits. -/
abbrev forwardTcpOverIroh (permits : Nat) : Machine TunnelSession SessionStep :=
  .ofNext (.start permits) TunnelSession.next

/-! ## What a step can do -/

/-- The connection that a task was given and has not opened a stream on. -/
def Phase.connection : Phase → Option Connection
  | .opening _ conn => some conn
  | .invalidating _ conn => some conn
  | _ => none

def Phase.holdsLock : Phase → Bool
  | .connecting _ => true
  | _ => false

namespace SessionStep

def stores : SessionStep → Bool
  | .connect _ (.ok ()) => true
  | _ => false

def evicts : SessionStep → Bool
  | .invalidate _ => true
  | _ => false

def asks : SessionStep → Bool
  | .readCached _ | .lockCached _ | .connect _ _ => true
  | _ => false

end SessionStep

/-- What a step does to the cache, the lock and the connection of the task that takes
it. The permits are left open. -/
inductive SessionEffect (session : TunnelSession) :
    SessionStep → TunnelSession → Prop where
  /-- The task goes on without the cache. -/
  | proceeds {step : SessionStep} {phase : Phase} {permits : Nat} :
      step.stores = false → step.evicts = false →
      (session.tasks step.task).holdsLock = false → phase.holdsLock = false →
      (∀ conn, phase.connection = some conn →
        (session.tasks step.task).connection = some conn ∧ step.asks = false) →
      SessionEffect session step
        { session.goto step.task phase with permits := permits }
  /-- The task is given the cached connection. -/
  | given {step : SessionStep} {retries : Nat} {conn : Connection} :
      step.stores = false → step.evicts = false → step.asks = true →
      (session.tasks step.task).holdsLock = false → session.activeConn = some conn →
      SessionEffect session step (session.goto step.task (.opening retries conn))
  /-- The task locks the empty cache. -/
  | locks {task : Task} {retries : Nat} :
      session.activeConn = none → session.writer = none →
      SessionEffect session (.lockCached task)
        { session.goto task (.connecting retries) with writer := some task }
  /-- The task stores a new connection and unlocks. -/
  | stores {task : Task} {retries : Nat} :
      (session.tasks task).holdsLock = true →
      SessionEffect session (.connect task (.ok ()))
        { session.goto task (.opening retries session.connections) with
          activeConn := some session.connections
          writer := none
          connections := session.connections + 1 }
  /-- The task unlocks the empty cache. -/
  | unlocks {task : Task} {text : String} {phase : Phase} {permits : Nat} :
      (session.tasks task).holdsLock = true → phase.holdsLock = false →
      phase.connection = none →
      SessionEffect session (.connect task (.error text))
        { session.goto task phase with writer := none, permits := permits }
  /-- The task empties the cache. -/
  | evicts {task : Task} {retries : Nat} :
      (session.tasks task).holdsLock = false → session.writer = none →
      SessionEffect session (.invalidate task) (session.invalidateConnection.sleep task retries)

private theorem SessionEffect.leaves {session : TunnelSession} {step : SessionStep} {phase : Phase}
    {permits : Nat} (stores : step.stores = false) (evicts : step.evicts = false)
    (unlocked : (session.tasks step.task).holdsLock = false) (idle : phase.holdsLock = false)
    (none : phase.connection = none) :
    SessionEffect session step { session.goto step.task phase with permits := permits } :=
  .proceeds stores evicts unlocked idle (by simp [none])

theorem TunnelSession.next_effect {session after : TunnelSession} {step : SessionStep}
    (stepped : session.next step = some after) : SessionEffect session step after := by
  unfold next at stepped
  split at stepped
  next task phase =>
      cases stepped
      exact .leaves rfl rfl (congrArg Phase.holdsLock phase) rfl rfl
  next task noDelay phase =>
      split at stepped
      next =>
          cases stepped
          cases noDelay <;> exact .leaves rfl rfl (congrArg Phase.holdsLock phase) rfl rfl
      next => cases stepped
  next task retries phase =>
      split at stepped
      next =>
          cases stepped
          unfold readCached
          split
          next cached =>
              exact .given rfl rfl rfl (congrArg Phase.holdsLock phase) cached
          next => exact .leaves rfl rfl (congrArg Phase.holdsLock phase) rfl rfl
      next => cases stepped
  next task retries phase =>
      split at stepped
      next unlocked =>
          cases stepped
          unfold lockCached
          split
          next cached =>
              exact .given rfl rfl rfl (congrArg Phase.holdsLock phase) cached
          next empty => exact .locks empty unlocked
      next => cases stepped
  next task outcome retries phase =>
      cases stepped
      cases outcome with
      | ok => exact .stores (congrArg Phase.holdsLock phase)
      | error text =>
          simp only [connect]
          split <;> exact .unlocks (congrArg Phase.holdsLock phase) rfl rfl
  next task outcome retries conn phase =>
      cases stepped
      cases outcome with
      | ok => exact .leaves rfl rfl (congrArg Phase.holdsLock phase) rfl rfl
      | error text =>
          simp only [openBi]
          split
          next => exact .leaves rfl rfl (congrArg Phase.holdsLock phase) rfl rfl
          next =>
              refine .proceeds rfl rfl (congrArg Phase.holdsLock phase) rfl ?_
              intro held same
              exact ⟨(congrArg Phase.connection phase).trans same, rfl⟩
  next task retries conn phase =>
      split at stepped
      next unlocked =>
          cases stepped
          exact .evicts (congrArg Phase.holdsLock phase) unlocked
      next => cases stepped
  next task retries delay phase =>
      cases stepped
      exact .leaves rfl rfl (congrArg Phase.holdsLock phase) rfl rfl
  next task outcome conn phase =>
      cases stepped
      exact .leaves rfl rfl (congrArg Phase.holdsLock phase) rfl rfl
  next => cases stepped

/-! ## Whose connection is cached -/

/-- Another task stored a new connection after `task` was last given one, and the cache
was not emptied since. -/
def ReplacedSince (task : Task) (history : List SessionStep) : Prop :=
  Since (fun _ step => step.stores = true ∧ step.task ≠ task)
    (fun _ step => step.evicts = true ∨ (step.asks = true ∧ step.task = task)) history
deriving Decidable

/-- The cache holds another connection than `conn`. -/
def TunnelSession.HoldsOther (session : TunnelSession) (conn : Connection) : Prop :=
  ∃ other, session.activeConn = some other ∧ other ≠ conn

theorem replacedSince_append {task : Task} {history : List SessionStep} {step : SessionStep} :
    ReplacedSince task (history ++ [step]) ↔
      (step.stores = true ∧ step.task ≠ task) ∨
        (ReplacedSince task history ∧
          ¬ (step.evicts = true ∨ (step.asks = true ∧ step.task = task))) :=
  since_append_singleton

private theorem replacedSince_append_of_keeps {task : Task} {history : List SessionStep}
    {step : SessionStep} (stores : step.stores = false) (evicts : step.evicts = false)
    (other : step.asks = false ∨ step.task ≠ task) :
    ReplacedSince task (history ++ [step]) ↔ ReplacedSince task history := by
  rw [replacedSince_append, stores, evicts]
  rcases other with unasked | other
  · simp [unasked]
  · simp [other]

/-- What is true of a task in `phase` between steps of any tasks. -/
structure Fits (history : List SessionStep) (session : TunnelSession) (task : Task)
    (phase : Phase) : Prop where
  locks : session.writer = some task ↔ phase.holdsLock = true
  made : ∀ conn, phase.connection = some conn → conn < session.connections
  replaced : ∀ conn, phase.connection = some conn →
    (session.HoldsOther conn ↔ ReplacedSince task history)

private theorem fits_of_no_connection {history : List SessionStep} {session : TunnelSession}
    {task : Task} {phase : Phase} (locks : session.writer = some task ↔ phase.holdsLock = true)
    (none : phase.connection = none) : Fits history session task phase where
  locks := locks
  made := by simp [none]
  replaced := by simp [none]

private theorem Fits.keeps {history : List SessionStep} {session after : TunnelSession}
    {task : Task} {phase : Phase} {step : SessionStep} (fits : Fits history session task phase)
    (active : after.activeConn = session.activeConn)
    (connections : after.connections = session.connections)
    (writer : after.writer = some task ↔ session.writer = some task)
    (since : ReplacedSince task (history ++ [step]) ↔ ReplacedSince task history) :
    Fits (history ++ [step]) after task phase where
  locks := writer.trans fits.locks
  made := by
    rw [connections]
    exact fits.made
  replaced := by
    rw [since]
    unfold TunnelSession.HoldsOther
    rw [active]
    exact fits.replaced

structure SessionInvariant (history : List SessionStep) (session : TunnelSession) : Prop where
  locked_empty : ∀ task, session.writer = some task → session.activeConn = none
  cached_made : ∀ conn, session.activeConn = some conn → conn < session.connections
  fits : ∀ task, Fits history session task (session.tasks task)

private theorem SessionInvariant.writer_of_holdsLock {history : List SessionStep}
    {session : TunnelSession} {task : Task} (invariant : SessionInvariant history session)
    (locked : (session.tasks task).holdsLock = true) : session.writer = some task :=
  (invariant.fits task).locks.mpr locked

/-- After a task went on, it fits its new phase and the others fit theirs. -/
theorem fits_of_update {history : List SessionStep} {session : TunnelSession}
    {tasks : Task → Phase} {task : Task} {phase : Phase}
    (updated : session.tasks = Function.update tasks task phase)
    (own : Fits history session task phase)
    (others : ∀ other, other ≠ task → Fits history session other (tasks other)) (other : Task) :
    Fits history session other (session.tasks other) := by
  rw [updated]
  exact (Function.forall_update_iff tasks (Fits history session)).mpr ⟨own, others⟩ other

section Effects

variable {history : List SessionStep} {session after : TunnelSession} {step : SessionStep}
  {task : Task} {retries permits : Nat} {phase : Phase}

private theorem SessionInvariant.fits_other {other : Task}
    (invariant : SessionInvariant history session) (different : other ≠ step.task)
    (stores : step.stores = false) (evicts : step.evicts = false)
    (active : after.activeConn = session.activeConn)
    (connections : after.connections = session.connections)
    (writer : after.writer = some other ↔ session.writer = some other) :
    Fits (history ++ [step]) after other (session.tasks other) :=
  (invariant.fits other).keeps active connections writer
    (replacedSince_append_of_keeps stores evicts (.inr different.symm))

private theorem SessionInvariant.proceeds (invariant : SessionInvariant history session)
    (stores : step.stores = false) (evicts : step.evicts = false)
    (unlocked : (session.tasks step.task).holdsLock = false) (idle : phase.holdsLock = false)
    (kept : ∀ conn, phase.connection = some conn →
      (session.tasks step.task).connection = some conn ∧ step.asks = false) :
    SessionInvariant (history ++ [step])
      { session.goto step.task phase with permits := permits } := by
  have fits := invariant.fits step.task
  refine ⟨invariant.locked_empty, invariant.cached_made, fits_of_update rfl ⟨?_, ?_, ?_⟩
    fun other different => invariant.fits_other different stores evicts rfl rfl .rfl⟩
  · rw [idle, ← unlocked]
    exact fits.locks
  · exact fun conn given => fits.made conn (kept conn given).1
  · intro conn given
    rw [replacedSince_append_of_keeps stores evicts (.inl (kept conn given).2)]
    exact fits.replaced conn (kept conn given).1

private theorem SessionInvariant.given {conn : Connection}
    (invariant : SessionInvariant history session) (stores : step.stores = false)
    (evicts : step.evicts = false) (asks : step.asks = true)
    (unlocked : (session.tasks step.task).holdsLock = false)
    (cached : session.activeConn = some conn) :
    SessionInvariant (history ++ [step]) (session.goto step.task (.opening retries conn)) := by
  refine ⟨invariant.locked_empty, invariant.cached_made, fits_of_update rfl ⟨?_, ?_, ?_⟩
    fun other different => invariant.fits_other different stores evicts rfl rfl .rfl⟩
  · have locks := (invariant.fits step.task).locks
    rw [unlocked] at locks
    exact locks
  · rintro _ ⟨⟩
    exact invariant.cached_made conn cached
  · rintro _ ⟨⟩
    rw [replacedSince_append]
    simp [TunnelSession.HoldsOther, TunnelSession.goto, cached, stores, asks]

private theorem SessionInvariant.locks (invariant : SessionInvariant history session)
    (empty : session.activeConn = none) (unlocked : session.writer = none) :
    SessionInvariant (history ++ [.lockCached task])
      { session.goto task (.connecting retries) with writer := some task } := by
  refine ⟨fun _ _ => empty, invariant.cached_made,
    fits_of_update rfl (fits_of_no_connection (by simp [Phase.holdsLock]) rfl) ?_⟩
  intro other different
  exact invariant.fits_other different rfl rfl rfl rfl (by simp [unlocked, different.symm])

private theorem SessionInvariant.stores (invariant : SessionInvariant history session)
    (locked : (session.tasks task).holdsLock = true) :
    SessionInvariant (history ++ [.connect task (.ok ())])
      { session.goto task (.opening retries session.connections) with
        activeConn := some session.connections
        writer := none
        connections := session.connections + 1 } := by
  have writer := invariant.writer_of_holdsLock locked
  refine ⟨by simp, by simp, fits_of_update rfl ⟨by simp [Phase.holdsLock], ?_, ?_⟩ ?_⟩
  · rintro _ ⟨⟩
    exact Nat.lt_succ_self _
  · rintro _ ⟨⟩
    rw [replacedSince_append]
    simp [TunnelSession.HoldsOther, SessionStep.task, SessionStep.asks]
  · intro other different
    have fits := invariant.fits other
    refine ⟨?_, fun conn given => Nat.lt_succ_of_lt (fits.made conn given), ?_⟩
    · have locks := fits.locks
      rw [writer] at locks
      simpa [different.symm] using locks
    · -- The new connection is none that was given to anyone before.
      intro conn given
      have older := fits.made conn given
      rw [replacedSince_append]
      simp [TunnelSession.HoldsOther, SessionStep.task, SessionStep.stores, different.symm,
        older.ne']

private theorem SessionInvariant.unlocks {text : String}
    (invariant : SessionInvariant history session)
    (locked : (session.tasks task).holdsLock = true) (idle : phase.holdsLock = false)
    (unconnected : phase.connection = none) :
    SessionInvariant (history ++ [.connect task (.error text)])
      { session.goto task phase with writer := none, permits := permits } := by
  have writer := invariant.writer_of_holdsLock locked
  refine ⟨by simp, invariant.cached_made,
    fits_of_update rfl (fits_of_no_connection (by simp [idle]) unconnected) ?_⟩
  intro other different
  exact invariant.fits_other different rfl rfl rfl rfl (by simp [writer, different.symm])

private theorem SessionInvariant.evicts (invariant : SessionInvariant history session)
    (free : session.writer = none) :
    SessionInvariant (history ++ [.invalidate task])
      (session.invalidateConnection.sleep task retries) := by
  have none_held (other : Task) : Fits (history ++ [.invalidate task])
      (session.invalidateConnection.sleep task retries) other (session.tasks other) := by
    refine ⟨(invariant.fits other).locks, (invariant.fits other).made, ?_⟩
    intro conn given
    rw [replacedSince_append]
    simp [TunnelSession.HoldsOther, TunnelSession.invalidateConnection, TunnelSession.sleep,
      TunnelSession.goto, SessionStep.stores, SessionStep.evicts]
  refine ⟨fun _ _ => rfl, nofun, fits_of_update rfl (fits_of_no_connection ?_ rfl)
    fun other _ => none_held other⟩
  simp [TunnelSession.invalidateConnection, TunnelSession.sleep, TunnelSession.goto, free,
    Phase.holdsLock]

private theorem SessionInvariant.effect (invariant : SessionInvariant history session)
    (effect : SessionEffect session step after) : SessionInvariant (history ++ [step]) after := by
  cases effect with
  | proceeds stores evicts unlocked idle kept =>
      exact invariant.proceeds stores evicts unlocked idle kept
  | given stores evicts asks unlocked cached =>
      exact invariant.given stores evicts asks unlocked cached
  | locks empty unlocked => exact invariant.locks empty unlocked
  | stores locked => exact invariant.stores locked
  | unlocks locked idle none => exact invariant.unlocks locked idle none
  | evicts _ free => exact invariant.evicts free

end Effects

private theorem sessionInvariant {permits : Nat} {history : List SessionStep}
    {session : TunnelSession} (reached : (forwardTcpOverIroh permits).Reaches history session) :
    SessionInvariant history session := by
  apply reached.invariant_next SessionInvariant
  · exact ⟨by simp [TunnelSession.start], by simp [TunnelSession.start],
      fun _ => fits_of_no_connection (by simp [TunnelSession.start, Phase.holdsLock]) rfl⟩
  · intro history session step after stepped invariant
    exact invariant.effect (TunnelSession.next_effect stepped)

/-- In every interleaving of any number of tasks, a task that invalidates the cache
because `open_bi` failed on `conn` leaves every other connection in the cache, exactly
if no other task has stored a new connection since the task was given `conn` and since
the cache was last emptied. -/
theorem invalidate_keeps_other_iff_not_replaced (permits : Nat) (history : List SessionStep)
    (session : TunnelSession) (reached : (forwardTcpOverIroh permits).Reaches history session)
    (task : Task) (retries : Nat) (conn : Connection)
    (failed : session.tasks task = .invalidating retries conn)
    (enabled : (forwardTcpOverIroh permits).Enabled history session (.invalidate task)) :
    (∀ other, session.activeConn = some other → other ≠ conn →
        ((forwardTcpOverIroh permits).step session (.invalidate task)).activeConn = some other) ↔
      ¬ ReplacedSince task history := by
  have given : (session.tasks task).connection = some conn := by rw [failed]; rfl
  rw [← ((sessionInvariant reached).fits task).replaced conn given]
  obtain ⟨after, stepped, same⟩ := Machine.exists_next_of_enabled enabled
  have emptied : after.activeConn = none := by
    cases TunnelSession.next_effect stepped with
    | proceeds _ evicts => cases evicts
    | given _ evicts => cases evicts
    | evicts => rfl
  change (∀ other, _ → _ → ((Machine.ofNext _ _).step session _).activeConn = _) ↔ _
  rw [same, emptied]
  simp [TunnelSession.HoldsOther]

def firstConnection : List SessionStep :=
  [.spawn 0, .acquire 0 (.ok ()), .readCached 0, .lockCached 0, .connect 0 (.ok ())]

def firstFailure : List SessionStep := firstConnection ++ [.openBi 0 (.error "timed out")]

/-- A second task is given the first connection too, and the first task replaces it
after both have failed. -/
def secondConnection : List SessionStep :=
  firstConnection ++
    [.spawn 1, .acquire 1 (.ok ()), .readCached 1, .openBi 0 (.error "timed out"),
      .openBi 1 (.error "timed out"), .invalidate 0, .wake 0, .readCached 0, .lockCached 0,
      .connect 0 (.ok ())]

def sessionAfter (steps : List SessionStep) : TunnelSession :=
  (forwardTcpOverIroh 2000).runFrom (.start 2000) steps

/-- A task that alone uses its connection evicts that one. -/
theorem invalidate_evicts_own :
    (sessionAfter firstFailure).activeConn = some 0 ∧
      ∀ other, (sessionAfter firstFailure).activeConn = some other → other ≠ 0 →
        ((forwardTcpOverIroh 2000).step (sessionAfter firstFailure)
          (.invalidate 0)).activeConn = some other :=
  ⟨rfl, (invalidate_keeps_other_iff_not_replaced 2000 firstFailure (sessionAfter firstFailure)
    (Machine.reaches_runFrom (by decide)) 0 1 0 rfl (by decide)).mpr (by decide)⟩

/-- The second task then evicts the second connection because of the first one. -/
theorem invalidate_evicts_replacement :
    (forwardTcpOverIroh 2000).Reaches (secondConnection ++ [.invalidate 1])
        (sessionAfter (secondConnection ++ [.invalidate 1])) ∧
      (sessionAfter secondConnection).tasks 1 = .invalidating 1 0 ∧
      (sessionAfter secondConnection).activeConn = some 1 ∧
      (sessionAfter (secondConnection ++ [.invalidate 1])).activeConn = none :=
  ⟨Machine.reaches_runFrom (by decide), rfl, rfl, rfl⟩

end NexalinkTunnel.Tunnel
