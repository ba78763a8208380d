import Mathlib.Tactic.Ring

/-!
# Integers as binary64 numbers

The conversion of an arbitrarily large integer to the nearest double, ties to even.
The result is again an integer: a double above `2 ^ 53` has no fraction.  Integers of
2 ^ 1024 and more, which have no finite double, are outside the model.
-/

namespace Binary64

/-- The nearest double to a natural number. -/
def roundNat (value : Nat) : Nat :=
  if value < 2 ^ 53 then value
  else
    let shift := value.log2 - 52
    let significand := value / 2 ^ shift
    let rest := value % 2 ^ shift
    let half := 2 ^ (shift - 1)
    if half < rest ∨ rest = half ∧ significand % 2 = 1 then (significand + 1) * 2 ^ shift
    else significand * 2 ^ shift

/-- The nearest double to an integer. -/
def round (value : Int) : Int :=
  if 0 ≤ value then roundNat value.toNat else -roundNat (-value).toNat

theorem roundNat_of_lt {value : Nat} (small : value < 2 ^ 53) : roundNat value = value :=
  if_pos small

/-- A number that needs rounding has a full significand. -/
theorem le_significand {value : Nat} (large : 2 ^ 53 ≤ value) :
    2 ^ 52 ≤ value / 2 ^ (value.log2 - 52) := by
  have exponent : 53 ≤ value.log2 := (Nat.le_log2 (by omega)).mpr large
  have leading : 2 ^ value.log2 ≤ value := Nat.log2_self_le (by omega)
  have total : 52 + (value.log2 - 52) = value.log2 := by omega
  rw [Nat.le_div_iff_mul_le (Nat.two_pow_pos _), ← Nat.pow_add, total]
  exact leading

/-- Rounding does not bring a large number below `2 ^ 52`. -/
theorem le_roundNat {value : Nat} (large : 2 ^ 53 ≤ value) : 2 ^ 52 ≤ roundNat value := by
  have significand := le_significand large
  have scale : 1 ≤ 2 ^ (value.log2 - 52) := Nat.one_le_two_pow
  have scaled := Nat.mul_le_mul significand scale
  unfold roundNat
  rw [if_neg (by omega)]
  dsimp only
  split
  next up =>
    rw [Nat.add_mul]
    omega
  next down => omega

/-- Small bounds are decided by the exact number. -/
theorem roundNat_lt_iff {value bound : Nat} (small : bound ≤ 2 ^ 52) :
    roundNat value < bound ↔ value < bound := by
  rcases Nat.lt_or_ge value (2 ^ 53) with exact | large
  · rw [roundNat_of_lt exact]
  · have rounded := le_roundNat large
    omega

theorem round_natCast (value : Nat) : round value = roundNat value := by
  unfold round
  rw [if_pos (by omega), Int.toNat_natCast]

end Binary64
