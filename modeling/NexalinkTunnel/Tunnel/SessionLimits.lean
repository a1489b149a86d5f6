import Mathlib.Data.Finset.Card
import NexalinkTunnel.Tunnel.Session

/-!
Contract: the limiter of a tunnel session.

Owns that no permit is lost, on whichever way a task ends.
-/

namespace NexalinkTunnel.Tunnel

open Lib

def Phase.holdsPermit : Phase → Bool
  | .absent | .waiting | .ended _ => false
  | _ => true

namespace TunnelSession

variable {permits : Nat} {session after : TunnelSession} {step : SessionStep}

/-- The step moves its task to another phase, and a permit with it where the task passes the
limiter or ends. -/
def MovesTo (session after : TunnelSession) (step : SessionStep) (phase : Phase) : Prop :=
  after.tasks = Function.update session.tasks step.task phase ∧
    after.permits + phase.holdsPermit.toNat =
      session.permits + (session.tasks step.task).holdsPermit.toNat

private theorem movesTo {was phase : Phase} (before : session.tasks step.task = was)
    (tasks : after.tasks = Function.update session.tasks step.task phase)
    (free : after.permits + phase.holdsPermit.toNat = session.permits + was.holdsPermit.toNat) :
    ∃ phase, session.MovesTo after step phase :=
  ⟨phase, tasks, before ▸ free⟩

private theorem next_movesTo (stepped : session.next step = some after) :
    ∃ phase, session.MovesTo after step phase := by
  unfold next at stepped
  split at stepped
  next task phase =>
      cases stepped
      exact movesTo phase rfl rfl
  next task noDelay phase =>
      obtain ⟨free, same⟩ := Option.ite_none_right_eq_some.mp stepped
      cases same
      cases noDelay with
      | ok => exact movesTo phase rfl (Nat.sub_add_cancel free)
      | error failure => exact movesTo phase rfl rfl
  next task retries phase =>
      obtain ⟨-, same⟩ := Option.ite_none_right_eq_some.mp stepped
      cases same
      unfold readCached
      split <;> exact movesTo phase rfl rfl
  next task retries phase =>
      obtain ⟨-, same⟩ := Option.ite_none_right_eq_some.mp stepped
      cases same
      unfold lockCached
      split <;> exact movesTo phase rfl rfl
  next task outcome retries phase =>
      cases stepped
      cases outcome with
      | ok => exact movesTo phase rfl rfl
      | error text =>
          simp only [connect]
          split <;> exact movesTo phase rfl rfl
  next task outcome retries conn phase =>
      cases stepped
      cases outcome with
      | ok => exact movesTo phase rfl rfl
      | error text =>
          simp only [openBi]
          split <;> exact movesTo phase rfl rfl
  next task retries conn phase =>
      obtain ⟨-, same⟩ := Option.ite_none_right_eq_some.mp stepped
      cases same
      exact movesTo phase rfl rfl
  next task retries delay phase =>
      cases stepped
      exact movesTo phase rfl rfl
  next task outcome conn phase =>
      cases stepped
      exact movesTo phase rfl rfl
  next => cases stepped

/-- Each permit is free or held by one of the tasks past the limiter. -/
def SharesPermits (permits : Nat) (session : TunnelSession) : Prop :=
  ∃ holders : Finset Task,
    (∀ task, task ∈ holders ↔ (session.tasks task).holdsPermit = true) ∧
      session.permits + holders.card = permits

private theorem SharesPermits.next (shares : SharesPermits permits session)
    (stepped : session.next step = some after) : SharesPermits permits after := by
  obtain ⟨phase, tasks, free⟩ := next_movesTo stepped
  obtain ⟨holders, holds, total⟩ := shares
  refine ⟨if phase.holdsPermit then insert step.task holders else holders.erase step.task,
    fun task => ?_, ?_⟩
  · rw [tasks, Function.update_apply]
    have before := holds task
    cases held : phase.holdsPermit <;> by_cases own : task = step.task <;> simp [own, held, before]
  · by_cases inside : step.task ∈ holders
    · have positive := Finset.card_pos.mpr ⟨_, inside⟩
      rw [(holds _).mp inside] at free
      cases held : phase.holdsPermit <;> simp [held, inside] at free ⊢ <;> omega
    · rw [Bool.eq_false_of_not_eq_true (mt (holds _).mpr inside)] at free
      cases held : phase.holdsPermit <;> simp [held, inside] at free ⊢ <;> omega

end TunnelSession

/-- In every interleaving of the tasks, with connections and streams that fail at any point, each
permit of the limiter is free or held by one task that is past it. -/
theorem limiter_loses_no_permit (permits : Nat) {history : List SessionStep}
    {session : TunnelSession} (reached : (forwardTcpOverIroh permits).Reaches history session) :
    session.SharesPermits permits :=
  reached.invariant_next (fun _ => TunnelSession.SharesPermits permits)
    ⟨∅, by simp [TunnelSession.start, Phase.holdsPermit], rfl⟩
    fun _ _ _ _ stepped shares => shares.next stepped

theorem secondConnection_shares : (sessionAfter secondConnection).SharesPermits 2000 :=
  limiter_loses_no_permit 2000 (Machine.reaches_runFrom (by decide))

end NexalinkTunnel.Tunnel
