import Mathlib.Logic.Relation
import NexalinkTunnel.Lib.Dialogue

/-!
Contract: two dialogues joined by a reliable ordered channel in each direction.

Owns the moves of one party, the interleaved steps of both, and `Ends`: every
schedule comes to an end where both parties are done, nothing is left in the
channel, and their results are related as asked. A move that is possible stays
possible and commutes with the moves of the peer, so a proof of `Ends` may
follow one schedule; the rules for that are at the end.

Does not own: faults. On this channel nothing fails and nothing closes.
-/

namespace NexalinkTunnel.Lib

structure Party (Random Frame Fault Result : Type) where
  program : Dialogue Random Frame Fault Result
  inbox : List Frame

namespace Party

variable {Random Frame Fault Result : Type}

/-- `party.Moves next sent`: one request of the party is answered, which makes it
`next`, and `sent` goes to its peer. -/
inductive Moves : Party Random Frame Fault Result → Party Random Frame Fault Result →
    List Frame → Prop where
  | draw (next : Random → Dialogue Random Frame Fault Result) (inbox : List Frame)
      (value : Random) : Moves ⟨.draw next, inbox⟩ ⟨next value, inbox⟩ []
  | send (frame : Frame) (next : Option Fault → Dialogue Random Frame Fault Result)
      (inbox : List Frame) : Moves ⟨.send frame next, inbox⟩ ⟨next none, inbox⟩ [frame]
  | flush (next : Option Fault → Dialogue Random Frame Fault Result) (inbox : List Frame) :
      Moves ⟨.flush next, inbox⟩ ⟨next none, inbox⟩ []
  | receive (next : Except Fault (Option Frame) → Dialogue Random Frame Fault Result)
      (frame : Frame) (inbox : List Frame) :
      Moves ⟨.receive next, frame :: inbox⟩ ⟨next (.ok (some frame)), inbox⟩ []

def deliver (party : Party Random Frame Fault Result) (frames : List Frame) :
    Party Random Frame Fault Result :=
  { party with inbox := party.inbox ++ frames }

variable {party next other : Party Random Frame Fault Result} {sent elsewhere : List Frame}

@[simp] theorem deliver_nil (party : Party Random Frame Fault Result) :
    party.deliver [] = party := by
  simp [deliver]

private theorem Moves.deliver (moves : party.Moves next sent) (frames : List Frame) :
    (party.deliver frames).Moves (next.deliver frames) sent := by
  cases moves with
  | draw next inbox value => exact .draw next _ value
  | send frame next inbox => exact .send frame next _
  | flush next inbox => exact .flush next _
  | receive next frame inbox => exact .receive next frame _

private theorem Moves.of_deliver (able : party.Moves other elsewhere) {frames : List Frame}
    (moves : (party.deliver frames).Moves next sent) :
    ∃ before, party.Moves before sent ∧ next = before.deliver frames := by
  cases able with
  | draw program inbox value =>
      cases moves with
      | draw _ _ drawn => exact ⟨_, .draw program inbox drawn, rfl⟩
  | send frame program inbox =>
      cases moves
      exact ⟨_, .send frame program inbox, rfl⟩
  | flush program inbox =>
      cases moves
      exact ⟨_, .flush program inbox, rfl⟩
  | receive program frame inbox =>
      cases moves
      exact ⟨_, .receive program frame inbox, rfl⟩

theorem not_moves_done {result : Result} {inbox : List Frame} :
    ¬ (Party.mk (.done result) inbox : Party Random Frame Fault Result).Moves next sent := by
  intro moves
  cases moves

end Party

/-- Two parties, each with what the other has sent it so far. -/
structure Duplex (Random Frame Fault Left Right : Type) where
  left : Party Random Frame Fault Left
  right : Party Random Frame Fault Right

namespace Duplex

variable {Random Frame Fault Left Right : Type}

def begin (left : Dialogue Random Frame Fault Left) (right : Dialogue Random Frame Fault Right) :
    Duplex Random Frame Fault Left Right :=
  ⟨⟨left, []⟩, ⟨right, []⟩⟩

inductive Step : Duplex Random Frame Fault Left Right → Duplex Random Frame Fault Left Right →
    Prop where
  | left {config : Duplex Random Frame Fault Left Right} {next : Party Random Frame Fault Left}
      {sent : List Frame} (moves : config.left.Moves next sent) :
      Step config ⟨next, config.right.deliver sent⟩
  | right {config : Duplex Random Frame Fault Left Right} {next : Party Random Frame Fault Right}
      {sent : List Frame} (moves : config.right.Moves next sent) :
      Step config ⟨config.left.deliver sent, next⟩

/-- Every schedule from here comes to an end, with results that are `Good`. -/
inductive Ends (Good : Left → Right → Prop) : Duplex Random Frame Fault Left Right → Prop where
  | done {leftResult : Left} {rightResult : Right} (good : Good leftResult rightResult) :
      Ends Good ⟨⟨.done leftResult, []⟩, ⟨.done rightResult, []⟩⟩
  | step {config : Duplex Random Frame Fault Left Right} (able : ∃ next, Step config next)
      (all : ∀ next, Step config next → Ends Good next) : Ends Good config

variable {Good : Left → Right → Prop} {config after : Duplex Random Frame Fault Left Right}

/-- Some schedule leads to an end. -/
theorem Ends.exists_run (ends : Ends Good config) : ∃ left right,
    Relation.ReflTransGen Step config ⟨⟨.done left, []⟩, ⟨.done right, []⟩⟩ ∧ Good left right := by
  induction ends with
  | done good => exact ⟨_, _, .refl, good⟩
  | step able _ inductionHypothesis =>
      obtain ⟨next, step⟩ := able
      obtain ⟨left, right, run, good⟩ := inductionHypothesis next step
      exact ⟨left, right, .head step run, good⟩

private theorem Ends.next (ends : Ends Good config) (step : Step config after) :
    Ends Good after := by
  cases ends with
  | done good =>
      cases step with
      | left moves => exact absurd moves Party.not_moves_done
      | right moves => exact absurd moves Party.not_moves_done
  | step able all => exact all after step

theorem Ends.left {next : Party Random Frame Fault Left} {sent : List Frame}
    (able : config.left.Moves next sent)
    (all : ∀ next sent, config.left.Moves next sent →
      Ends Good ⟨next, config.right.deliver sent⟩) :
    Ends Good config := by
  have ends := all next sent able
  generalize target : (⟨next, config.right.deliver sent⟩ :
    Duplex Random Frame Fault Left Right) = reached at ends
  -- Along the schedules after the left move: a right move made before it can be made after it.
  induction ends generalizing config next with
  | done good =>
      apply Ends.step ⟨_, .left able⟩
      intro after step
      cases step with
      | left moves => exact all _ _ moves
      | right moves =>
          have ended : config.right.deliver sent = ⟨.done _, []⟩ := congrArg Duplex.right target
          exact absurd (ended ▸ moves.deliver sent) Party.not_moves_done
  | step _ _ inductionHypothesis =>
      apply Ends.step ⟨_, .left able⟩
      intro after step
      cases step with
      | left moves => exact all _ _ moves
      | @right peer answer moves =>
          subst target
          have later : Step ⟨next, config.right.deliver sent⟩
              ⟨next.deliver answer, peer.deliver sent⟩ := .right (moves.deliver sent)
          apply inductionHypothesis _ later (able.deliver answer) ?_ rfl
          intro delayed emitted delayedMoves
          obtain ⟨before, beforeMoves, rfl⟩ := able.of_deliver delayedMoves
          exact (all before emitted beforeMoves).next (.right (moves.deliver emitted))

def swap (config : Duplex Random Frame Fault Left Right) :
    Duplex Random Frame Fault Right Left :=
  ⟨config.right, config.left⟩

private theorem Step.swap (step : Step config after) : Step config.swap after.swap := by
  cases step with
  | left moves => exact .right moves
  | right moves => exact .left moves

theorem Ends.swap (ends : Ends Good config) : Ends (fun right left => Good left right)
    config.swap := by
  induction ends with
  | done good => exact .done good
  | step able all inductionHypothesis =>
      obtain ⟨next, step⟩ := able
      apply Ends.step ⟨next.swap, step.swap⟩
      intro after back
      exact inductionHypothesis after.swap back.swap

private theorem Ends.right {next : Party Random Frame Fault Right} {sent : List Frame}
    (able : config.right.Moves next sent)
    (all : ∀ next sent, config.right.Moves next sent →
      Ends Good ⟨config.left.deliver sent, next⟩) :
    Ends Good config :=
  have swapped : Ends (fun right left => Good left right) config.swap :=
    Ends.left able fun next sent moves => (all next sent moves).swap
  swapped.swap

/-! ## One rule for each request -/

section Requests

variable {inbox : List Frame} {left : Party Random Frame Fault Left}
  {right : Party Random Frame Fault Right}

theorem Ends.left_send {frame : Frame} {next : Option Fault → Dialogue Random Frame Fault Left}
    (ends : Ends Good ⟨⟨next none, inbox⟩, right.deliver [frame]⟩) :
    Ends Good ⟨⟨.send frame next, inbox⟩, right⟩ := by
  apply Ends.left (.send frame next inbox)
  intro after sent moves
  cases moves
  exact ends

theorem Ends.left_flush {next : Option Fault → Dialogue Random Frame Fault Left}
    (ends : Ends Good ⟨⟨next none, inbox⟩, right⟩) :
    Ends Good ⟨⟨.flush next, inbox⟩, right⟩ := by
  apply Ends.left (.flush next inbox)
  intro after sent moves
  cases moves
  simpa using ends

theorem Ends.left_receive {frame : Frame}
    {next : Except Fault (Option Frame) → Dialogue Random Frame Fault Left}
    (ends : Ends Good ⟨⟨next (.ok (some frame)), inbox⟩, right⟩) :
    Ends Good ⟨⟨.receive next, frame :: inbox⟩, right⟩ := by
  apply Ends.left (.receive next frame inbox)
  intro after sent moves
  cases moves
  simpa using ends

theorem Ends.right_send {frame : Frame} {next : Option Fault → Dialogue Random Frame Fault Right}
    (ends : Ends Good ⟨left.deliver [frame], ⟨next none, inbox⟩⟩) :
    Ends Good ⟨left, ⟨.send frame next, inbox⟩⟩ :=
  (Ends.left_send ends.swap).swap

theorem Ends.right_flush {next : Option Fault → Dialogue Random Frame Fault Right}
    (ends : Ends Good ⟨left, ⟨next none, inbox⟩⟩) :
    Ends Good ⟨left, ⟨.flush next, inbox⟩⟩ :=
  (Ends.left_flush ends.swap).swap

theorem Ends.right_receive {frame : Frame}
    {next : Except Fault (Option Frame) → Dialogue Random Frame Fault Right}
    (ends : Ends Good ⟨left, ⟨next (.ok (some frame)), inbox⟩⟩) :
    Ends Good ⟨left, ⟨.receive next, frame :: inbox⟩⟩ :=
  (Ends.left_receive ends.swap).swap

theorem Ends.right_draw [Nonempty Random] {next : Random → Dialogue Random Frame Fault Right}
    (ends : ∀ value, Ends Good ⟨left, ⟨next value, inbox⟩⟩) :
    Ends Good ⟨left, ⟨.draw next, inbox⟩⟩ := by
  obtain ⟨some⟩ := ‹Nonempty Random›
  apply Ends.right (.draw next inbox some)
  intro after sent moves
  cases moves with
  | draw _ _ value => simpa using ends value

end Requests

end Duplex

end NexalinkTunnel.Lib
