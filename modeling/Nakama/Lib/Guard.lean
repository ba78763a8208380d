import Mathlib.Tactic.Common

/-!
# Guarded computations

A program that validates its inputs, reads, computes and commits is a sequence
of steps in `Except`, each of which may refuse.  This module has the two rules such
programs are reasoned with: what a success says about every step, and which refusals
cannot happen.
-/

namespace Guard

variable {ε α β : Type}

/-- Refuse with `error` unless `condition` holds. -/
def require (condition : Prop) [Decidable condition] (error : ε) : Except ε Unit :=
  if condition then .ok () else .error error

/-- Refuse with `error` when the optional value is missing. -/
def okOr (value : Option α) (error : ε) : Except ε α :=
  match value with
  | some result => .ok result
  | none => .error error

/-! ## Inversion -/

/-- A sequence succeeds exactly when each of its steps does. -/
theorem bind_eq_ok {first : Except ε α} {rest : α → Except ε β} {result : β} :
    (first >>= rest) = .ok result ↔
      ∃ value, first = .ok value ∧ rest value = .ok result := by
  cases first with
  | error refusal => simp [bind, Except.bind]
  | ok value => simp [bind, Except.bind]

theorem bind_of_ok {first : Except ε α} {value : α} (succeeds : first = .ok value)
    (rest : α → Except ε β) : (first >>= rest) = rest value := by
  rw [succeeds]
  rfl

theorem require_eq_ok {condition : Prop} [Decidable condition] {error : ε} {done : Unit} :
    require condition error = .ok done ↔ condition := by
  by_cases holds : condition <;> simp [require, holds]

theorem require_of {condition : Prop} [Decidable condition] (holds : condition) (error : ε) :
    require condition error = .ok () :=
  if_pos holds

theorem okOr_eq_ok {value : Option α} {error : ε} {result : α} :
    okOr value error = .ok result ↔ value = some result := by
  cases value <;> simp [okOr]

theorem pure_eq_ok {value result : α} :
    (pure value : Except ε α) = .ok result ↔ value = result := by
  simp [pure, Except.pure]

/-! ## Refusals that cannot happen -/

/-- The computation never refuses with an error in `bad`. -/
def Avoids (bad : ε → Prop) (computation : Except ε α) : Prop :=
  ∀ error, computation = .error error → ¬bad error

variable {bad : ε → Prop}

theorem Avoids.mono {worse : ε → Prop} {computation : Except ε α}
    (avoids : Avoids worse computation) (fewer : ∀ error, bad error → worse error) :
    Avoids bad computation := by
  intro error refused isBad
  exact avoids error refused (fewer error isBad)

@[simp] theorem avoids_ok {value : α} : Avoids bad (.ok value : Except ε α) := by
  intro error refused
  cases refused

@[simp] theorem avoids_pure {value : α} : Avoids bad (pure value : Except ε α) :=
  avoids_ok

theorem avoids_error {error : ε} : Avoids bad (.error error : Except ε α) ↔ ¬bad error := by
  constructor
  · intro avoids
    exact avoids error rfl
  · intro harmless other refused
    cases refused
    exact harmless

/-- A sequence avoids an error when its first step does and every continuation
that is actually reached does. -/
theorem avoids_bind {first : Except ε α} {rest : α → Except ε β} :
    Avoids bad (first >>= rest) ↔
      Avoids bad first ∧ ∀ value, first = .ok value → Avoids bad (rest value) := by
  cases first with
  | error refusal =>
      have whole : ((.error refusal : Except ε α) >>= rest) = .error refusal := rfl
      rw [whole, avoids_error, avoids_error]
      simp
  | ok value =>
      have whole : ((.ok value : Except ε α) >>= rest) = rest value := rfl
      rw [whole]
      simp

theorem avoids_map {first : Except ε α} {function : α → β} :
    Avoids bad (function <$> first) ↔ Avoids bad first := by
  cases first with
  | error refusal => exact avoids_error.trans avoids_error.symm
  | ok value => exact iff_of_true avoids_ok avoids_ok

/-- A guard refuses with its own error only, and only where it fails. -/
theorem avoids_require {condition : Prop} [Decidable condition] {error : ε} :
    Avoids bad (require condition error) ↔ (bad error → condition) := by
  by_cases holds : condition
  · simp [require, holds]
  · simp [require, holds, avoids_error]

theorem avoids_okOr {value : Option α} {error : ε} :
    Avoids bad (okOr value error) ↔ (bad error → ∃ result, value = some result) := by
  cases value with
  | none => simp [okOr, avoids_error]
  | some result => simp [okOr]

end Guard
