/-
  Cidre.Lib.Partial

  Computations that may stop, in `Option` and `Except`: what a result that was
  reached says about the steps before it, and conditions whose operands may
  raise.
-/

import Mathlib.Logic.Basic

namespace Cidre.Partial

universe u

variable {ε : Type*} {α β : Type u}

/-- A sequence that reaches its end has reached the end of its first part. -/
theorem bind_eq_ok {x : Except ε α} {f : α → Except ε β} {b : β} :
    (x >>= f) = .ok b ↔ ∃ a, x = .ok a ∧ f a = .ok b := by
  cases x with
  | error e => simp [bind, Except.bind]
  | ok a => simp [bind, Except.bind]

@[simp] theorem pure_eq_ok {a b : α} : (pure a : Except ε α) = .ok b ↔ a = b := by
  simp [pure, Except.pure]

@[simp] theorem throw_ne_ok {e : ε} {a : α} : (throw e : Except ε α) ≠ .ok a := by
  simp [throw, throwThe, MonadExceptOf.throw]

/-- Go on if the condition holds, stop with `e` otherwise. -/
def ensure (c : Prop) [Decidable c] (e : ε) : Except ε Unit :=
  if c then pure () else throw e

/-- The value, or stop with `e` when there is none. -/
def orThrow (x : Option α) (e : ε) : Except ε α :=
  match x with
  | some a => pure a
  | none => throw e

@[simp] theorem ensure_eq_ok {c : Prop} [Decidable c] {e : ε} {u : Unit} :
    ensure c e = .ok u ↔ c := by
  by_cases hc : c
  · simp [ensure, hc]
  · simp [ensure, hc]

@[simp] theorem orThrow_eq_ok {x : Option α} {e : ε} {a : α} :
    orThrow x e = .ok a ↔ x = some a := by
  cases x with
  | none => simp [orThrow]
  | some b => simp [orThrow]

/-- `x and y` holds when both operands are reached and hold. -/
@[simp] theorem andM_eq_true {x y : Option Bool} :
    andM x y = some true ↔ x = some true ∧ y = some true := by
  rcases x with _ | _ | _ <;> simp [andM, toBool]

/-- `x or y` holds when the first operand that is reached and decides it does. -/
@[simp] theorem orM_eq_true {x y : Option Bool} :
    orM x y = some true ↔ x = some true ∨ (x = some false ∧ y = some true) := by
  rcases x with _ | _ | _ <;> simp [orM, toBool]

end Cidre.Partial
