import Mathlib.Order.Basic
import Mathlib.Tactic.Linarith
import Mathlib.Tactic.Ring

/-!
# Linear accrual with a cap

A stream earns `price` units every `period` seconds, counted to the second and
rounded down once at the end, and never more than was deposited.
-/

namespace Accrual

/-- Units earned after some seconds, before the cap. -/
def accrued (price period seconds : Nat) : Nat :=
  seconds * price / period

/-- Units that may have been paid out after some seconds. -/
def unlocked (price period deposited seconds : Nat) : Nat :=
  min (accrued price period seconds) deposited

/-- The most that one second can earn: `price / period`, rounded up. -/
def perSecond (price period : Nat) : Nat :=
  (price + period - 1) / period

variable {price period deposited : Nat}

theorem accrued_mono {early late : Nat} (ordered : early ≤ late) :
    accrued price period early ≤ accrued price period late :=
  Nat.div_le_div_right (Nat.mul_le_mul_right price ordered)

theorem unlocked_le_deposited (seconds : Nat) :
    unlocked price period deposited seconds ≤ deposited :=
  Nat.min_le_right _ _

theorem unlocked_le_accrued (seconds : Nat) :
    unlocked price period deposited seconds ≤ accrued price period seconds :=
  Nat.min_le_left _ _

theorem unlocked_mono {early late : Nat} (ordered : early ≤ late) :
    unlocked price period deposited early ≤ unlocked price period deposited late := by
  have earned := @accrued_mono price period early late ordered
  unfold unlocked
  omega

theorem unlocked_mono_deposited {less more : Nat} (ordered : less ≤ more) (seconds : Nat) :
    unlocked price period less seconds ≤ unlocked price period more seconds := by
  unfold unlocked
  omega

theorem unlocked_of_deposited_le {seconds : Nat}
    (exhausted : deposited ≤ accrued price period seconds) :
    unlocked price period deposited seconds = deposited :=
  Nat.min_eq_right exhausted

/-- Inverting the accrual never looks into the future: the seconds that an earned
amount covers have passed. -/
theorem covered_le {amount seconds : Nat} (earned : amount ≤ accrued price period seconds) :
    amount * period / price ≤ seconds := by
  have product : amount * period ≤ seconds * price :=
    le_trans (Nat.mul_le_mul_right period earned) (Nat.div_mul_le_self _ _)
  rcases Nat.eq_zero_or_pos price with rfl | positive
  · simp
  · exact Nat.div_le_of_le_mul (by rwa [Nat.mul_comm price])

/-- With at least one unit a second, inverting the accrual loses at most a second. -/
theorem le_covered_add_one (positive : 0 < period) (rate : period ≤ price) (seconds : Nat) :
    seconds ≤ accrued price period seconds * period / price + 1 := by
  have priced : 0 < price := lt_of_lt_of_le positive rate
  have rounded : seconds * price < (accrued price period seconds + 1) * period :=
    Nat.lt_mul_of_div_lt (Nat.lt_succ_self _) positive
  rw [← Nat.add_div_right _ priced, Nat.le_div_iff_mul_le priced]
  rw [Nat.succ_mul] at rounded
  omega

/-- One period after the seconds that an amount covers, more than the amount is earned. -/
theorem lt_accrued_of_covered_add {amount seconds : Nat} (positive : 0 < period)
    (priced : 0 < price) (waited : amount * period / price + period ≤ seconds) :
    amount < accrued price period seconds := by
  obtain ⟨rest, rfl⟩ := Nat.exists_eq_succ_of_ne_zero (Nat.ne_of_gt positive)
  have rounded : amount * (rest + 1) < (amount * (rest + 1) / price + 1) * price :=
    Nat.lt_mul_of_div_lt (Nat.lt_succ_self _) priced
  -- The first second of the period makes up for the rounding, the others earn a unit each.
  have remaining : rest ≤ rest * price := Nat.le_mul_of_pos_right rest priced
  have reached : (amount + 1) * (rest + 1) ≤ seconds * price := by
    calc (amount + 1) * (rest + 1)
        = amount * (rest + 1) + (rest + 1) := Nat.succ_mul amount (rest + 1)
      _ ≤ (amount * (rest + 1) / price + 1) * price + rest * price := by omega
      _ = (amount * (rest + 1) / price + (rest + 1)) * price := by ring
      _ ≤ seconds * price := Nat.mul_le_mul_right price waited
  exact (Nat.le_div_iff_mul_le positive).mpr reached

/-- A period after the seconds that an amount covers, at most a price more is earned. -/
theorem accrued_covered_add_le (amount : Nat) :
    accrued price period (amount * period / price + period) ≤ amount + price := by
  have covered : amount * period / price * price ≤ amount * period := Nat.div_mul_le_self _ _
  apply Nat.div_le_of_le_mul
  calc (amount * period / price + period) * price
      = amount * period / price * price + period * price := Nat.add_mul _ _ _
    _ ≤ amount * period + period * price := Nat.add_le_add_right covered _
    _ = period * (amount + price) := by ring

/-- With at least one unit a second, every second earns at least one unit. -/
theorem accrued_add_le (positive : 0 < period) (rate : period ≤ price)
    (seconds more : Nat) :
    accrued price period seconds + more ≤ accrued price period (seconds + more) := by
  unfold accrued
  rw [← Nat.add_mul_div_right _ _ positive]
  apply Nat.div_le_div_right
  rw [Nat.add_mul]
  exact Nat.add_le_add_left (Nat.mul_le_mul_left more rate) _

/-- An amount that is not earned yet, without the rounding. -/
theorem accrued_lt_iff (positive : 0 < period) {seconds amount : Nat} :
    accrued price period seconds < amount ↔ seconds * price < amount * period :=
  Nat.div_lt_iff_lt_mul positive

/-- A deposit lasts for a number of seconds exactly when the last of them does not
complete it. -/
theorem lasts_iff (positive : 0 < period) (funded : 0 < deposited) {bound : Nat} :
    (∀ seconds < bound, accrued price period seconds < deposited) ↔
      bound * price < deposited * period + price := by
  cases bound with
  | zero =>
      have product : 0 < deposited * period := Nat.mul_pos funded positive
      constructor
      · intro _
        omega
      · intro _ seconds impossible
        omega
  | succ last =>
      rw [Nat.succ_mul, Nat.add_lt_add_iff_right, ← accrued_lt_iff positive]
      constructor
      · intro lasts
        exact lasts last (Nat.lt_succ_self last)
      · intro unfinished seconds earlier
        exact lt_of_le_of_lt (accrued_mono (Nat.le_of_lt_succ earlier)) unfinished

/-- A stream that earned its deposit does not notice a delay. -/
theorem unlocked_add_of_deposited_le {seconds : Nat}
    (exhausted : deposited ≤ accrued price period seconds) (more : Nat) :
    unlocked price period deposited (seconds + more) = deposited :=
  unlocked_of_deposited_le (le_trans exhausted (accrued_mono (Nat.le_add_right _ _)))

/-- Any other stream is behind after a delay. -/
theorem unlocked_lt_of_delay (positive : 0 < period) (rate : period ≤ price)
    {seconds delay : Nat} (delayed : 0 < delay)
    (unfinished : accrued price period seconds < deposited) :
    unlocked price period deposited seconds <
      unlocked price period deposited (seconds + delay) := by
  have earned := accrued_add_le positive rate seconds delay
  unfold unlocked
  omega

end Accrual
