import Mathlib.Logic.Basic

/-!
Contract: results of code that returns, fails or panics.

Owns the three-way result of one call, its sequencing, the early-return check
and the two inversion rules every caller uses: what a successful sequence went
through, and when a sequence returns at all.

Does not own: what any particular slice or read does. A panic is a result of
its own here, so that "never panics" is a statement about values.
-/

namespace NexalinkTunnel.Lib

/-- What one call gives back: a value, an error value, or no return at all. -/
inductive Outcome (ε α : Type) where
  | ok (value : α)
  | err (error : ε)
  | panicked
deriving DecidableEq, Repr

namespace Outcome

variable {ε ε' α β : Type}

/-- Sequencing stops at the first error or panic. -/
protected def bind (first : Outcome ε α) (next : α → Outcome ε β) : Outcome ε β :=
  match first with
  | .ok value => next value
  | .err error => .err error
  | .panicked => .panicked

instance : Monad (Outcome ε) where
  pure := .ok
  bind := Outcome.bind

def Returns : Outcome ε α → Prop
  | .ok _ => True
  | .err _ => True
  | .panicked => False

/-- Leave early with `error` unless `condition` holds. -/
def ensure (condition : Prop) [Decidable condition] (error : ε) : Outcome ε Unit :=
  if condition then .ok () else .err error

def ofExcept (convert : ε' → ε) : Except ε' α → Outcome ε α
  | .ok value => .ok value
  | .error error => .err (convert error)

def toOption : Outcome ε α → Option α
  | .ok value => some value
  | .err _ => none
  | .panicked => none

@[simp] theorem pure_eq (value : α) : (pure value : Outcome ε α) = .ok value := rfl

@[simp] theorem ok_bind (value : α) (next : α → Outcome ε β) :
    (Outcome.ok value >>= next) = next value := rfl

@[simp] theorem err_bind (error : ε) (next : α → Outcome ε β) :
    (Outcome.err error >>= next) = .err error := rfl

@[simp] theorem panicked_bind (next : α → Outcome ε β) :
    ((Outcome.panicked : Outcome ε α) >>= next) = .panicked := rfl

@[simp] theorem returns_ok (value : α) : (Outcome.ok value : Outcome ε α).Returns := trivial

@[simp] theorem returns_err (error : ε) : (Outcome.err error : Outcome ε α).Returns := trivial

@[simp] theorem not_returns_panicked : ¬ (Outcome.panicked : Outcome ε α).Returns := id

/-- A successful sequence went through a successful first call. -/
theorem bind_eq_ok {first : Outcome ε α} {next : α → Outcome ε β} {result : β} :
    (first >>= next) = .ok result ↔ ∃ value, first = .ok value ∧ next value = .ok result := by
  cases first with
  | ok value => simp
  | err error => simp
  | panicked => simp

theorem toOption_eq_some {outcome : Outcome ε α} {value : α} :
    outcome.toOption = some value ↔ outcome = .ok value := by
  cases outcome with
  | ok value => simp [toOption]
  | err error => simp [toOption]
  | panicked => simp [toOption]

/-- A sequence returns when its first call does and, after a success, the rest
does. -/
theorem returns_bind {first : Outcome ε α} {next : α → Outcome ε β} :
    (first >>= next).Returns ↔
      first.Returns ∧ ∀ value, first = .ok value → (next value).Returns := by
  cases first with
  | ok value => simp
  | err error => simp
  | panicked => simp

@[simp] theorem ensure_of_pos {condition : Prop} [Decidable condition] (error : ε)
    (holds : condition) : ensure condition error = .ok () := by
  simp [ensure, holds]

@[simp] theorem ensure_of_neg {condition : Prop} [Decidable condition] (error : ε)
    (fails : ¬ condition) : ensure condition error = .err error := by
  simp [ensure, fails]

theorem ensure_eq_ok {condition : Prop} [Decidable condition] {error : ε} {done : Unit} :
    ensure condition error = .ok done ↔ condition := by
  by_cases holds : condition <;> simp [ensure, holds]

theorem returns_ensure {condition : Prop} [Decidable condition] (error : ε) :
    (ensure condition error).Returns := by
  by_cases holds : condition <;> simp [ensure, holds]

theorem ofExcept_eq_ok {convert : ε' → ε} {result : Except ε' α} {value : α} :
    ofExcept convert result = .ok value ↔ result = .ok value := by
  cases result <;> simp [ofExcept]

theorem returns_ofExcept (convert : ε' → ε) (result : Except ε' α) :
    (ofExcept convert result).Returns := by
  cases result <;> simp [ofExcept]

end Outcome

end NexalinkTunnel.Lib
