import Nakama.Lib.Accrual
import Nakama.Program.Ledger

/-!
# Unlock arithmetic and instruction outcomes

The lazy unlock formula that `charge`, `settle_usage`, `pause` and `cancel` each
compute with their own overflow code, the keeper hint that inverts it, and what a
successful instruction leaves behind.
-/

namespace Nakama

open Guard

/-- Which CPI moved the tokens, named by the account slots it connects. -/
inductive Route where
  /-- `subscriber_ata → vault`, in `subscribe` and `top_up`. -/
  | deposit
  /-- `vault → merchant_ata`, in `charge`, `settle_usage` and `cancel`. -/
  | settlement
  /-- `vault → subscriber_ata`, in `cancel`. -/
  | refund
  /-- A transfer that is not made by this program. -/
  | foreign
  deriving DecidableEq, Repr

/-- One token movement. -/
structure Transfer where
  route : Route
  source : Pubkey
  destination : Pubkey
  amount : UInt64
  deriving DecidableEq, Repr

/-- The result of a successful instruction. -/
structure Outcome where
  ledger : Ledger
  transfers : List Transfer
  events : List Event

variable {Key : Type}

/-- `min((moment - stream_start) * price / period, deposited_amount)`, with the
`u128` intermediate and the casts of the handlers. -/
def unlockedAt (overflow : NakamaError) (sub : Subscription Key) (moment : Int64) :
    Except Error UInt64 := do
  let elapsed ← okOr (Checked.subI64 moment sub.streamStart) .panic
  let product ← okOr (Checked.mulU128 elapsed.toUInt64.toNat sub.price.toNat)
    (.nakama overflow)
  let accrued ← okOr (Checked.divU128 product (Checked.i64AsU128 sub.period))
    (.nakama overflow)
  return UInt64.ofNat (min accrued sub.depositedAmount.toNat)

/-- The keeper hint `stream_start + withdrawn * period / price + period` of
`charge`. -/
def nextChargeHint (sub : Subscription Key) (withdrawn : UInt64) : Except Error Int64 := do
  let product ← okOr (Checked.mulU128 withdrawn.toNat (Checked.i64AsU128 sub.period))
    (.nakama .mathOverflow)
  let covered ← okOr (Checked.divU128 product sub.price.toNat) (.nakama .mathOverflow)
  let coveredSeconds ← okOr (Checked.tryFromU128 covered) (.nakama .mathOverflow)
  let settled ← okOr (Checked.addI64 sub.streamStart coveredSeconds) (.nakama .mathOverflow)
  okOr (Checked.addI64 settled sub.period) (.nakama .mathOverflow)

/-! ## What the formulas compute -/

namespace Subscription

/-- Whole seconds from the stream anchor to a moment. -/
def secondsAt (sub : Subscription Key) (moment : Int64) : Nat :=
  (moment.toInt - sub.streamStart.toInt).toNat

/-- Units the stream has earned at a moment, before the cap. -/
def accruedAt (sub : Subscription Key) (moment : Int64) : Nat :=
  Accrual.accrued sub.price.toNat sub.period.toInt.toNat (sub.secondsAt moment)

/-- Units unlocked at a moment. -/
def unlockedBy (sub : Subscription Key) (moment : Int64) : Nat :=
  Accrual.unlocked sub.price.toNat sub.period.toInt.toNat sub.depositedAmount.toNat
    (sub.secondsAt moment)

/-- Whole seconds of the stream that an amount pays for. -/
def coveredSeconds (sub : Subscription Key) (amount : UInt64) : Nat :=
  amount.toNat * sub.period.toInt.toNat / sub.price.toNat

theorem secondsAt_mono (sub : Subscription Key) {early late : Int64}
    (ordered : early.toInt ≤ late.toInt) : sub.secondsAt early ≤ sub.secondsAt late := by
  unfold secondsAt
  omega

theorem accruedAt_mono (sub : Subscription Key) {early late : Int64}
    (ordered : early.toInt ≤ late.toInt) : sub.accruedAt early ≤ sub.accruedAt late :=
  Accrual.accrued_mono (sub.secondsAt_mono ordered)

theorem unlockedBy_mono (sub : Subscription Key) {early late : Int64}
    (ordered : early.toInt ≤ late.toInt) : sub.unlockedBy early ≤ sub.unlockedBy late :=
  Accrual.unlocked_mono (sub.secondsAt_mono ordered)

theorem unlockedBy_le_deposited (sub : Subscription Key) (moment : Int64) :
    sub.unlockedBy moment ≤ sub.depositedAmount.toNat :=
  Accrual.unlocked_le_deposited _

theorem unlockedBy_le_accruedAt (sub : Subscription Key) (moment : Int64) :
    sub.unlockedBy moment ≤ sub.accruedAt moment :=
  Accrual.unlocked_le_accrued _

theorem coveredSeconds_le (sub : Subscription Key) {amount : UInt64} {moment : Int64}
    (earned : amount.toNat ≤ sub.unlockedBy moment) :
    sub.coveredSeconds amount ≤ sub.secondsAt moment :=
  Accrual.covered_le (le_trans earned (sub.unlockedBy_le_accruedAt moment))

theorem coveredSeconds_eq (sub : Subscription Key) (amount : UInt64)
    (period : 0 < sub.period.toInt) :
    (sub.coveredSeconds amount : Int) = amount.toNat * sub.period.toInt / sub.price.toNat := by
  have periods : (sub.period.toInt.toNat : Int) = sub.period.toInt := by omega
  unfold coveredSeconds
  rw [← periods]
  norm_cast

end Subscription

/-- The handlers compute the capped accrual, and panic only where the subtraction
of the two clocks leaves `i64`. -/
theorem unlockedAt_eq_ok {overflow : NakamaError} {sub : Subscription Key}
    {moment : Int64} {unlocked : UInt64}
    (started : sub.streamStart.toInt ≤ moment.toInt) (period : 0 < sub.period.toInt) :
    unlockedAt overflow sub moment = .ok unlocked ↔
      Checked.FitsI64 (moment.toInt - sub.streamStart.toInt) ∧
        unlocked.toNat = sub.unlockedBy moment := by
  have periodCast := Checked.i64AsU128_of_nonneg (le_of_lt period)
  have periodNat : Checked.i64AsU128 sub.period = sub.period.toInt.toNat := by omega
  have periodNonzero : sub.period.toInt.toNat ≠ 0 := by omega
  simp only [unlockedAt, bind_eq_ok, okOr_eq_ok, pure_eq_ok, Checked.subI64_eq_some,
    Checked.mulU128_eq_some, Checked.divU128_eq_some]
  constructor
  · rintro ⟨elapsed, elapsedEq, _, ⟨_, rfl⟩, _, ⟨_, rfl⟩, rfl⟩
    have fits := Checked.fitsI64_toInt elapsed
    have elapsedNat : elapsed.toUInt64.toNat = sub.secondsAt moment := by
      have cast := @Checked.toNat_toUInt64 elapsed (by omega)
      unfold Subscription.secondsAt
      omega
    refine ⟨elapsedEq ▸ fits, ?_⟩
    rw [Checked.toNat_ofNat_min, elapsedNat, periodNat]
    rfl
  · rintro ⟨fits, unlockedEq⟩
    obtain ⟨elapsed, narrowed⟩ := Checked.exists_toI64 fits
    have elapsedEq := Checked.toI64_eq_some.mp narrowed
    have elapsedNat : elapsed.toUInt64.toNat = sub.secondsAt moment := by
      have cast := @Checked.toNat_toUInt64 elapsed (by omega)
      unfold Subscription.secondsAt
      omega
    refine ⟨elapsed, elapsedEq, _, ⟨Checked.toNat_mul_toNat_lt _ _, rfl⟩, _,
      ⟨by omega, rfl⟩, ?_⟩
    apply UInt64.toNat_inj.mp
    rw [Checked.toNat_ofNat_min, elapsedNat, periodNat, unlockedEq]
    rfl

/-- Where the age of the stream is an `i64`, the unlock formula has a value. -/
theorem exists_unlockedAt {sub : Subscription Key} {moment : Int64} (overflow : NakamaError)
    (started : sub.streamStart.toInt ≤ moment.toInt) (period : 0 < sub.period.toInt)
    (fits : Checked.FitsI64 (moment.toInt - sub.streamStart.toInt)) :
    ∃ unlocked, unlockedAt overflow sub moment = .ok unlocked ∧
      unlocked.toNat = sub.unlockedBy moment := by
  have small : sub.unlockedBy moment < 2 ^ 64 :=
    lt_of_le_of_lt (sub.unlockedBy_le_deposited moment) sub.depositedAmount.toNat_lt
  have exact : (UInt64.ofNat (sub.unlockedBy moment)).toNat = sub.unlockedBy moment :=
    UInt64.toNat_ofNat_of_lt' small
  exact ⟨_, (unlockedAt_eq_ok started period).mpr ⟨fits, exact⟩, exact⟩

/-- The keeper hint is the end of the period after the covered seconds, and is refused
only where it, or the number of covered seconds, leaves `i64`. -/
theorem nextChargeHint_eq_ok {sub : Subscription Key} {withdrawn : UInt64} {hint : Int64}
    (period : 0 < sub.period.toInt) (price : 0 < sub.price.toNat) :
    nextChargeHint sub withdrawn = .ok hint ↔
      Checked.FitsI64 (sub.coveredSeconds withdrawn) ∧
        hint.toInt =
          sub.streamStart.toInt + sub.coveredSeconds withdrawn + sub.period.toInt := by
  have periodCast := Checked.i64AsU128_of_nonneg (le_of_lt period)
  have periodNat : Checked.i64AsU128 sub.period = sub.period.toInt.toNat := by omega
  have small : withdrawn.toNat * sub.period.toInt.toNat < 2 ^ 128 := by
    have cast := Checked.toNat_toUInt64 (le_of_lt period)
    rw [show sub.period.toInt.toNat = sub.period.toUInt64.toNat by omega]
    exact Checked.toNat_mul_toNat_lt _ _
  simp only [nextChargeHint, bind_eq_ok, okOr_eq_ok, Checked.mulU128_eq_some,
    Checked.divU128_eq_some, Checked.tryFromU128_eq_some, Checked.addI64_eq_some, periodNat]
  constructor
  · rintro ⟨_, ⟨_, rfl⟩, _, ⟨_, rfl⟩, seconds, secondsEq, settled, settledEq, hintEq⟩
    change seconds.toInt = sub.coveredSeconds withdrawn at secondsEq
    have fits := Checked.fitsI64_toInt seconds
    rw [secondsEq] at fits settledEq
    exact ⟨fits, by omega⟩
  · rintro ⟨fits, hintEq⟩
    obtain ⟨seconds, narrowed⟩ := Checked.exists_toI64 fits
    have secondsEq := Checked.toI64_eq_some.mp narrowed
    -- The sum before the last addition is between the anchor and the hint.
    have anchorBound := sub.streamStart.le_toInt
    have hintBound := hint.toInt_lt
    obtain ⟨settled, settledSome⟩ := @Checked.exists_toI64
      (sub.streamStart.toInt + seconds.toInt) (by
        unfold Checked.FitsI64
        omega)
    have settledEq := Checked.toI64_eq_some.mp settledSome
    exact ⟨_, ⟨small, rfl⟩, _, ⟨by omega, rfl⟩, seconds, secondsEq, settled, settledEq,
      by omega⟩

end Nakama
