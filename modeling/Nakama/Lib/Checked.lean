import Mathlib.Tactic.Common
import Mathlib.Tactic.Linarith

/-!
# Checked machine arithmetic

Rust's `checked_*` operations on `u64`, `i64` and `u128`, the conversions between
those types, and the subtraction that panics under `overflow-checks`.  Values of
the first two types are core `UInt64` and `Int64`; a `u128` intermediate is a
natural number below `2 ^ 128`.  Every operation is characterized by the plain
equation between naturals or integers that its success means.
-/

namespace Checked

/-! ## Unsigned 64-bit -/

/-- `u64::checked_add`. -/
def addU64 (left right : UInt64) : Option UInt64 :=
  if left.toNat + right.toNat < 2 ^ 64 then some (left + right) else none

/-- `u64::checked_sub`. -/
def subU64 (left right : UInt64) : Option UInt64 :=
  if right.toNat ≤ left.toNat then some (left - right) else none

/-- `u64::checked_mul`. -/
def mulU64 (left right : UInt64) : Option UInt64 :=
  if left.toNat * right.toNat < 2 ^ 64 then some (left * right) else none

/-- `u64::checked_div`. -/
def divU64 (left right : UInt64) : Option UInt64 :=
  if right = 0 then none else some (left / right)

@[simp] theorem addU64_eq_some {left right result : UInt64} :
    addU64 left right = some result ↔ result.toNat = left.toNat + right.toNat := by
  unfold addU64
  have bound := result.toNat_lt
  split
  next fits =>
    have sum : (left + right).toNat = left.toNat + right.toNat := by
      rw [UInt64.toNat_add]
      exact Nat.mod_eq_of_lt fits
    rw [Option.some.injEq, ← UInt64.toNat_inj, sum]
    exact eq_comm
  next overflows =>
    simp only [reduceCtorEq, false_iff]
    omega

@[simp] theorem subU64_eq_some {left right result : UInt64} :
    subU64 left right = some result ↔ result.toNat + right.toNat = left.toNat := by
  unfold subU64
  split
  next ordered =>
    have difference : (left - right).toNat = left.toNat - right.toNat :=
      UInt64.toNat_sub_of_le left right (UInt64.le_iff_toNat_le.mpr ordered)
    rw [Option.some.injEq, ← UInt64.toNat_inj, difference]
    omega
  next unordered =>
    simp only [reduceCtorEq, false_iff]
    omega

@[simp] theorem mulU64_eq_some {left right result : UInt64} :
    mulU64 left right = some result ↔ result.toNat = left.toNat * right.toNat := by
  unfold mulU64
  have bound := result.toNat_lt
  split
  next fits =>
    have product : (left * right).toNat = left.toNat * right.toNat := by
      rw [UInt64.toNat_mul]
      exact Nat.mod_eq_of_lt fits
    rw [Option.some.injEq, ← UInt64.toNat_inj, product]
    exact eq_comm
  next overflows =>
    simp only [reduceCtorEq, false_iff]
    omega

@[simp] theorem divU64_eq_some {left right result : UInt64} :
    divU64 left right = some result ↔
      right ≠ 0 ∧ result.toNat = left.toNat / right.toNat := by
  unfold divU64
  split
  next zero => simp [zero]
  next nonzero =>
    rw [Option.some.injEq, ← UInt64.toNat_inj, UInt64.toNat_div]
    simp [nonzero, eq_comm]

theorem exists_addU64 {left right : UInt64} (fits : left.toNat + right.toNat < 2 ^ 64) :
    ∃ result, addU64 left right = some result :=
  ⟨left + right, if_pos fits⟩

theorem exists_subU64 {left right : UInt64} (ordered : right.toNat ≤ left.toNat) :
    ∃ result, subU64 left right = some result :=
  ⟨left - right, if_pos ordered⟩

/-! ## Signed 64-bit -/

/-- The mathematical integer is an `i64`. -/
def FitsI64 (value : Int) : Prop := -2 ^ 63 ≤ value ∧ value < 2 ^ 63

instance (value : Int) : Decidable (FitsI64 value) :=
  inferInstanceAs (Decidable (_ ∧ _))

theorem fitsI64_toInt (value : Int64) : FitsI64 value.toInt :=
  ⟨value.le_toInt, value.toInt_lt⟩

/-- Narrow a mathematical integer to an `i64`, when it is one. -/
def toI64 (value : Int) : Option Int64 :=
  if FitsI64 value then some (Int64.ofInt value) else none

/-- `i64::checked_add`. -/
def addI64 (left right : Int64) : Option Int64 :=
  toI64 (left.toInt + right.toInt)

/-- `i64::checked_sub`, and also `-` under `overflow-checks`: there `none` is a
panic. -/
def subI64 (left right : Int64) : Option Int64 :=
  toI64 (left.toInt - right.toInt)

/-- `i64::saturating_sub`. -/
def saturatingSubI64 (left right : Int64) : Int64 :=
  Int64.ofInt (max (-2 ^ 63) (min (left.toInt - right.toInt) (2 ^ 63 - 1)))

/-- `i64::try_from` on a `u128`. -/
def tryFromU128 (value : Nat) : Option Int64 :=
  toI64 value

@[simp] theorem toI64_eq_some {value : Int} {result : Int64} :
    toI64 value = some result ↔ result.toInt = value := by
  unfold toI64
  split
  next fits =>
    rw [Option.some.injEq, ← Int64.toInt_inj, Int64.toInt_ofInt_of_le fits.1 fits.2]
    exact eq_comm
  next outside =>
    simp only [reduceCtorEq, false_iff]
    rintro rfl
    exact outside (fitsI64_toInt result)

@[simp] theorem addI64_eq_some {left right result : Int64} :
    addI64 left right = some result ↔ result.toInt = left.toInt + right.toInt :=
  toI64_eq_some

@[simp] theorem subI64_eq_some {left right result : Int64} :
    subI64 left right = some result ↔ result.toInt = left.toInt - right.toInt :=
  toI64_eq_some

@[simp] theorem tryFromU128_eq_some {value : Nat} {result : Int64} :
    tryFromU128 value = some result ↔ result.toInt = value :=
  toI64_eq_some

theorem toInt_saturatingSubI64 (left right : Int64) :
    (saturatingSubI64 left right).toInt =
      max (-2 ^ 63) (min (left.toInt - right.toInt) (2 ^ 63 - 1)) := by
  unfold saturatingSubI64
  exact Int64.toInt_ofInt_of_le (by omega) (by omega)

theorem toInt_min (left right : Int64) :
    (min left right).toInt = min left.toInt right.toInt := by
  change (if left ≤ right then left else right).toInt = _
  split
  next ordered =>
    rw [Int64.le_iff_toInt_le] at ordered
    omega
  next unordered =>
    rw [Int64.le_iff_toInt_le] at unordered
    omega

theorem toInt_max (left right : Int64) :
    (max left right).toInt = max left.toInt right.toInt := by
  change (if left ≤ right then right else left).toInt = _
  split
  next ordered =>
    rw [Int64.le_iff_toInt_le] at ordered
    omega
  next unordered =>
    rw [Int64.le_iff_toInt_le] at unordered
    omega

theorem exists_toI64 {value : Int} (fits : FitsI64 value) :
    ∃ result, toI64 value = some result := by
  simp [toI64, fits]

theorem toNat_toUInt64 {value : Int64} (nonneg : 0 ≤ value.toInt) :
    (value.toUInt64.toNat : Int) = value.toInt := by
  have ordered : (0 : Int64) ≤ value := by
    rw [Int64.le_iff_toInt_le]
    simpa using nonneg
  rw [Int64.toNat_toUInt64_of_le ordered, ← Int64.toNat_toInt]
  exact Int.toNat_of_nonneg nonneg

/-! ## Unsigned 128-bit intermediates -/

/-- `u128::checked_mul`. -/
def mulU128 (left right : Nat) : Option Nat :=
  if left * right < 2 ^ 128 then some (left * right) else none

/-- `u128::checked_div`. -/
def divU128 (left right : Nat) : Option Nat :=
  if right = 0 then none else some (left / right)

/-- `u128::saturating_mul`. -/
def saturatingMulU128 (left right : Nat) : Nat :=
  min (left * right) (2 ^ 128 - 1)

/-- `as u128` on an `i64`: sign extension. -/
def i64AsU128 (value : Int64) : Nat :=
  (value.toInt % 2 ^ 128).toNat

@[simp] theorem mulU128_eq_some {left right result : Nat} :
    mulU128 left right = some result ↔
      left * right < 2 ^ 128 ∧ left * right = result := by
  unfold mulU128
  split <;> simp_all

@[simp] theorem divU128_eq_some {left right result : Nat} :
    divU128 left right = some result ↔ right ≠ 0 ∧ left / right = result := by
  unfold divU128
  split <;> simp_all

theorem saturatingMulU128_of_lt {left right : Nat} (fits : left * right < 2 ^ 128) :
    saturatingMulU128 left right = left * right := by
  unfold saturatingMulU128
  omega

/-- The product of two `u64` values never overflows a `u128`. -/
theorem toNat_mul_toNat_lt (left right : UInt64) :
    left.toNat * right.toNat < 2 ^ 128 := by
  have leftBound := left.toNat_lt
  have rightBound := right.toNat_lt
  calc left.toNat * right.toNat
      < 2 ^ 64 * 2 ^ 64 := Nat.mul_lt_mul'' leftBound rightBound
    _ = 2 ^ 128 := by norm_num

/-- Sign extension keeps a nonnegative `i64`. -/
theorem i64AsU128_of_nonneg {value : Int64} (nonneg : 0 ≤ value.toInt) :
    (i64AsU128 value : Int) = value.toInt := by
  have upper := value.toInt_lt
  unfold i64AsU128
  rw [Int.emod_eq_of_lt nonneg (by omega)]
  exact Int.toNat_of_nonneg nonneg

/-- `as u64` keeps a `u128` that is capped by a `u64`. -/
theorem toNat_ofNat_min (value : Nat) (cap : UInt64) :
    (UInt64.ofNat (min value cap.toNat)).toNat = min value cap.toNat := by
  have bound := cap.toNat_lt
  apply UInt64.toNat_ofNat_of_lt'
  exact lt_of_le_of_lt (Nat.min_le_right _ _) bound

/-! ## Wrapping operators that do not wrap -/

theorem sub_eq_of_toNat {total part rest : UInt64}
    (sum : total.toNat = part.toNat + rest.toNat) : total - part = rest := by
  have ordered : part ≤ total := UInt64.le_iff_toNat_le.mpr (by omega)
  apply UInt64.toNat_inj.mp
  rw [UInt64.toNat_sub_of_le _ _ ordered]
  omega

theorem add_eq_of_toNat {total part rest : UInt64}
    (sum : total.toNat = part.toNat + rest.toNat) : part + rest = total := by
  have bound := total.toNat_lt
  apply UInt64.toNat_inj.mp
  rw [UInt64.toNat_add, sum, Nat.mod_eq_of_lt (by omega)]

theorem sub_eq_of_toInt {left right difference : Int64}
    (differenceEq : difference.toInt = left.toInt - right.toInt) :
    left - right = difference := by
  rw [← Int64.ofInt_toInt difference, differenceEq, Int64.ofInt_sub, Int64.ofInt_toInt,
    Int64.ofInt_toInt]

theorem add_sub_eq_of_toInt {anchor later earlier shifted : Int64}
    (shiftedEq : shifted.toInt = anchor.toInt + (later.toInt - earlier.toInt)) :
    anchor + (later - earlier) = shifted := by
  rw [← Int64.ofInt_toInt shifted, shiftedEq, Int64.ofInt_add, Int64.ofInt_sub,
    Int64.ofInt_toInt, Int64.ofInt_toInt, Int64.ofInt_toInt]

end Checked
