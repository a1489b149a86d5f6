import Mathlib.Data.List.Basic

/-!
Contract: programs that talk to a peer over a stream of frames.

Owns a program as what it does next for every answer of its environment,
sequencing, the transcript of a run, and the rule that splits the transcript of
a sequence. Nothing here names a particular protocol.

Does not own: the peer. It may answer anything at any time.
-/

namespace NexalinkTunnel.Lib

/-- A program that draws random values and sends and receives frames. -/
inductive Dialogue (Random Frame Fault Result : Type) where
  | done (result : Result)
  | draw (next : Random → Dialogue Random Frame Fault Result)
  | send (frame : Frame) (next : Option Fault → Dialogue Random Frame Fault Result)
  | flush (next : Option Fault → Dialogue Random Frame Fault Result)
  | receive (next : Except Fault (Option Frame) → Dialogue Random Frame Fault Result)

/-- What a program asked for, and the answer. A stream that ended yields no frame. -/
inductive Exchange (Random Frame Fault : Type) where
  | drew (value : Random)
  | sent (frame : Frame) (fault : Option Fault)
  | flushed (fault : Option Fault)
  | received (item : Except Fault (Option Frame))
deriving DecidableEq

namespace Dialogue

variable {Random Frame Fault Result Other Failure : Type}

def bind : Dialogue Random Frame Fault Result → (Result → Dialogue Random Frame Fault Other) →
    Dialogue Random Frame Fault Other
  | .done result, rest => rest result
  | .draw next, rest => .draw fun answer => (next answer).bind rest
  | .send frame next, rest => .send frame fun answer => (next answer).bind rest
  | .flush next, rest => .flush fun answer => (next answer).bind rest
  | .receive next, rest => .receive fun answer => (next answer).bind rest

instance : Monad (Dialogue Random Frame Fault) where
  pure := .done
  bind := bind

private theorem bind_done (program : Dialogue Random Frame Fault Result) :
    program.bind .done = program := by
  induction program with
  | done result => rfl
  | draw next inductionHypothesis => exact congrArg draw (funext inductionHypothesis)
  | send frame next inductionHypothesis => exact congrArg (send frame) (funext inductionHypothesis)
  | flush next inductionHypothesis => exact congrArg flush (funext inductionHypothesis)
  | receive next inductionHypothesis => exact congrArg receive (funext inductionHypothesis)

private theorem bind_bind (program : Dialogue Random Frame Fault Result)
    (middle : Result → Dialogue Random Frame Fault Other)
    (last : Other → Dialogue Random Frame Fault Failure) :
    (program.bind middle).bind last = program.bind fun result => (middle result).bind last := by
  induction program with
  | done result => rfl
  | draw next inductionHypothesis => exact congrArg draw (funext inductionHypothesis)
  | send frame next inductionHypothesis => exact congrArg (send frame) (funext inductionHypothesis)
  | flush next inductionHypothesis => exact congrArg flush (funext inductionHypothesis)
  | receive next inductionHypothesis => exact congrArg receive (funext inductionHypothesis)

instance : LawfulMonad (Dialogue Random Frame Fault) :=
  LawfulMonad.mk' _ bind_done (fun _ _ => rfl) bind_bind

private theorem eq_done_of_bind {program : Dialogue Random Frame Fault Result}
    {rest : Result → Dialogue Random Frame Fault Other} {value : Other}
    (finished : program.bind rest = .done value) : ∃ result, program = .done result := by
  cases program with
  | done result => exact ⟨result, rfl⟩
  | _ => simp [bind] at finished

variable [DecidableEq Frame]

/-- The program after one exchange, if that is the one it waits for. -/
def resume : Dialogue Random Frame Fault Result → Exchange Random Frame Fault →
    Option (Dialogue Random Frame Fault Result)
  | .draw next, .drew value => some (next value)
  | .send frame next, .sent written fault => if frame = written then some (next fault) else none
  | .flush next, .flushed fault => some (next fault)
  | .receive next, .received item => some (next item)
  | _, _ => none

def follow (program : Dialogue Random Frame Fault Result) :
    List (Exchange Random Frame Fault) → Option (Dialogue Random Frame Fault Result)
  | [] => some program
  | exchange :: rest =>
      match program.resume exchange with
      | none => none
      | some next => next.follow rest

private theorem follow_append (program : Dialogue Random Frame Fault Result)
    (first second : List (Exchange Random Frame Fault)) :
    program.follow (first ++ second) =
      (program.follow first).bind fun middle => middle.follow second := by
  induction first generalizing program with
  | nil => rfl
  | cons exchange rest inductionHypothesis =>
      simp only [List.cons_append, follow]
      cases program.resume exchange with
      | none => rfl
      | some next => exact inductionHypothesis next

theorem follow_snoc {program middle next : Dialogue Random Frame Fault Result}
    {transcript : List (Exchange Random Frame Fault)} {exchange : Exchange Random Frame Fault}
    (followed : program.follow transcript = some middle)
    (resumed : middle.resume exchange = some next) :
    program.follow (transcript ++ [exchange]) = some next := by
  simp [follow_append, followed, follow, resumed]

theorem follow_done {result : Result} {transcript : List (Exchange Random Frame Fault)}
    {after : Dialogue Random Frame Fault Result} :
    (done result : Dialogue Random Frame Fault Result).follow transcript = some after ↔
      transcript = [] ∧ after = .done result := by
  cases transcript with
  | nil => simp [follow, eq_comm]
  | cons exchange rest => simp [follow, resume]

section Requests

variable {transcript : List (Exchange Random Frame Fault)} {result : Result}

theorem follow_draw {next : Random → Dialogue Random Frame Fault Result} :
    (draw next).follow transcript = some (.done result) ↔
      ∃ value rest, transcript = .drew value :: rest ∧
        (next value).follow rest = some (.done result) := by
  rcases transcript with _ | ⟨exchange, rest⟩
  · simp [follow]
  · cases exchange <;> simp [follow, resume, and_assoc]

theorem follow_send {frame : Frame} {next : Option Fault → Dialogue Random Frame Fault Result} :
    (send frame next).follow transcript = some (.done result) ↔
      ∃ fault rest, transcript = .sent frame fault :: rest ∧
        (next fault).follow rest = some (.done result) := by
  rcases transcript with _ | ⟨exchange, rest⟩
  · simp [follow]
  · cases exchange with
    | sent written fault =>
        by_cases same : frame = written
        · simp [follow, resume, same, and_assoc]
        · simp [follow, resume, same, Ne.symm same]
    | _ => simp [follow, resume]

theorem follow_flush {next : Option Fault → Dialogue Random Frame Fault Result} :
    (flush next).follow transcript = some (.done result) ↔
      ∃ fault rest, transcript = .flushed fault :: rest ∧
        (next fault).follow rest = some (.done result) := by
  rcases transcript with _ | ⟨exchange, rest⟩
  · simp [follow]
  · cases exchange <;> simp [follow, resume, and_assoc]

theorem follow_receive
    {next : Except Fault (Option Frame) → Dialogue Random Frame Fault Result} :
    (receive next).follow transcript = some (.done result) ↔
      ∃ item rest, transcript = .received item :: rest ∧
        (next item).follow rest = some (.done result) := by
  rcases transcript with _ | ⟨exchange, rest⟩
  · simp [follow]
  · cases exchange <;> simp [follow, resume, and_assoc]

end Requests

private theorem resume_bind (program : Dialogue Random Frame Fault Result)
    (rest : Result → Dialogue Random Frame Fault Other) (running : ∀ result, program ≠ .done result)
    (exchange : Exchange Random Frame Fault) :
    (program.bind rest).resume exchange =
      (program.resume exchange).map fun next => next.bind rest := by
  cases program with
  | done result => exact absurd rfl (running result)
  | draw next => cases exchange <;> rfl
  | send frame next =>
      cases exchange with
      | sent written fault =>
          by_cases same : frame = written
          · simp [bind, resume, same]
          · simp [bind, resume, same]
      | _ => rfl
  | flush next => cases exchange <;> rfl
  | receive next => cases exchange <;> rfl

theorem follow_bind {program : Dialogue Random Frame Fault Result}
    {rest : Result → Dialogue Random Frame Fault Other}
    {transcript : List (Exchange Random Frame Fault)} {value : Other} :
    (program.bind rest).follow transcript = some (.done value) ↔
      ∃ first second result, transcript = first ++ second ∧
        program.follow first = some (.done result) ∧
        (rest result).follow second = some (.done value) := by
  constructor
  · intro finished
    -- The transcript splits where `program` ends, which may be before its first exchange.
    induction transcript generalizing program with
    | nil =>
        have ended : program.bind rest = .done value := by simpa [follow] using finished
        obtain ⟨result, rfl⟩ := eq_done_of_bind ended
        exact ⟨[], [], result, rfl, rfl, finished⟩
    | cons exchange later inductionHypothesis =>
        by_cases ended : ∃ result, program = .done result
        · obtain ⟨result, rfl⟩ := ended
          exact ⟨[], exchange :: later, result, rfl, rfl, finished⟩
        · have running : ∀ result, program ≠ .done result := fun result same =>
            ended ⟨result, same⟩
          rw [follow, resume_bind program rest running] at finished
          cases resumed : program.resume exchange with
          | none => simp [resumed] at finished
          | some next =>
              rw [resumed] at finished
              obtain ⟨first, second, result, rfl, firstDone, secondDone⟩ :=
                inductionHypothesis finished
              refine ⟨exchange :: first, second, result, rfl, ?_, secondDone⟩
              rw [follow, resumed]
              exact firstDone
  · rintro ⟨first, second, result, rfl, firstDone, secondDone⟩
    induction first generalizing program with
    | nil =>
        obtain rfl : program = .done result := by simpa [follow] using firstDone
        exact secondDone
    | cons exchange later inductionHypothesis =>
        have running : ∀ value, program ≠ .done value := by
          rintro value rfl
          simp [follow, resume] at firstDone
        rw [List.cons_append, follow, resume_bind program rest running]
        cases resumed : program.resume exchange with
        | none => simp [follow, resumed] at firstDone
        | some next =>
            rw [follow, resumed] at firstDone
            exact inductionHypothesis firstDone

/-! ## Programs that may fail -/

def Succeeds (program : ExceptT Failure (Dialogue Random Frame Fault) Result)
    (transcript : List (Exchange Random Frame Fault)) (value : Result) : Prop :=
  program.run.follow transcript = some (.done (.ok value))

variable {transcript : List (Exchange Random Frame Fault)} {value : Result}

theorem succeeds_pure {result : Result} :
    Succeeds (pure result : ExceptT Failure (Dialogue Random Frame Fault) Result) transcript value ↔
      transcript = [] ∧ value = result := by
  unfold Succeeds
  simp only [ExceptT.run_pure]
  refine follow_done.trans ?_
  simp

theorem not_succeeds_throw {failure : Failure} :
    ¬ Succeeds (throw failure : ExceptT Failure (Dialogue Random Frame Fault) Result)
      transcript value := by
  unfold Succeeds
  intro finished
  have ended := follow_done.mp finished
  simp at ended

/-- The rule for sequences: both parts succeed, one transcript after the other. -/
theorem succeeds_bind {program : ExceptT Failure (Dialogue Random Frame Fault) Other}
    {rest : Other → ExceptT Failure (Dialogue Random Frame Fault) Result} :
    Succeeds (program >>= rest) transcript value ↔
      ∃ first second middle, transcript = first ++ second ∧ Succeeds program first middle ∧
        Succeeds (rest middle) second value := by
  refine follow_bind.trans ?_
  constructor
  · rintro ⟨first, second, result, split, firstDone, secondDone⟩
    cases result with
    | ok middle => exact ⟨first, second, middle, split, firstDone, secondDone⟩
    | error failure =>
        have ended := follow_done.mp secondDone
        simp at ended
  · rintro ⟨first, second, middle, split, firstDone, secondDone⟩
    exact ⟨first, second, .ok middle, split, firstDone, secondDone⟩

end Dialogue

end NexalinkTunnel.Lib
