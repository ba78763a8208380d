import Nakama.Client.Accounts
import Nakama.Lib.Accrual
import Nakama.Lib.Binary64
import Nakama.Lib.Checked

/-!
# Status derivation

The off-chain status of a subscription, once as `computed_status.rs` and once as
`computedStatus.ts` derive it.  Rust computes in saturating `u128`; TypeScript computes
in unbounded integers and converts to doubles at the end.
-/

namespace Nakama

variable {Key : Type}

/-! ## Rust -/

namespace Rust

/-- `ACTIVE_LOW_FUNDS_DAYS`. -/
def activeLowFundsDays : UInt32 := 7

/-- `ACTIVE_LOW_FUNDS_UTILIZATION_NUM`. -/
def activeLowFundsUtilizationNum : Nat := 80

/-- `ACTIVE_LOW_FUNDS_UTILIZATION_DEN`. -/
def activeLowFundsUtilizationDen : Nat := 100

/-- `SECONDS_PER_DAY`. -/
def secondsPerDay : Nat := 86400

/-- `DAYS_REMAINING_SENTINEL`, which is `u32::MAX`. -/
def daysRemainingSentinel : UInt32 := 4294967295

/-- `enum ComputedStatus`. -/
inductive ComputedStatus where
  | active (unlockedPct : UInt8) (claimable : UInt64)
  | activeLowFunds (unlockedPct : UInt8) (claimable : UInt64) (daysRemaining : UInt32)
  | paused (resumeAfter : Option Int64)
  | inGrace (graceUntil secondsRemaining : Int64)
  | graceExpired (graceUntil : Int64)
  | cancelled
  | exhausted
  | corrupt (stateByte : UInt8) (reason : String)
  deriving DecidableEq, Repr

/-- `unlocked - withdrawn`, with the elapsed time saturated below and above. -/
def claimable (sub : SubscriptionView Key) (now : Int64) : UInt64 :=
  let elapsed := Checked.i64AsU128 (max (Checked.saturatingSubI64 now sub.streamStart) 0)
  let accrued := (Checked.divU128 (Checked.saturatingMulU128 elapsed sub.price.toNat)
    (Checked.i64AsU128 sub.period)).getD 0
  let unlocked := min accrued sub.depositedAmount.toNat
  UInt64.ofNat (min (unlocked - sub.withdrawnAmount.toNat) (2 ^ 64 - 1))

/-- `withdrawn * 100 / deposited`, at most 100. -/
def unlockedPct (sub : SubscriptionView Key) : UInt8 :=
  ((Checked.divU128 (Checked.saturatingMulU128 sub.withdrawnAmount.toNat 100)
    sub.depositedAmount.toNat).map fun percent => UInt8.ofNat (min percent 100)).getD 0

/-- `remaining_liquid * period / (price * SECONDS_PER_DAY)`, clamped to a `u32`. -/
def daysRemaining (sub : SubscriptionView Key) : UInt32 :=
  let remainingLiquid := sub.depositedAmount.toNat - sub.withdrawnAmount.toNat
  if sub.price = 0 then daysRemainingSentinel
  else
    let denom := Checked.saturatingMulU128 sub.price.toNat secondsPerDay
    ((Checked.divU128
      (Checked.saturatingMulU128 remainingLiquid (Checked.i64AsU128 sub.period)) denom).map
      fun days => UInt32.ofNat (min days (2 ^ 32 - 1))).getD daysRemainingSentinel

def utilizationLow (sub : SubscriptionView Key) : Bool :=
  0 < sub.depositedAmount.toNat &&
    Checked.saturatingMulU128 sub.depositedAmount.toNat activeLowFundsUtilizationNum <
      Checked.saturatingMulU128 sub.withdrawnAmount.toNat activeLowFundsUtilizationDen

def runwayLow (sub : SubscriptionView Key) : Bool :=
  daysRemaining sub < activeLowFundsDays

/-- `active_or_low_funds`. -/
def activeOrLowFunds (sub : SubscriptionView Key) (now : Int64) : ComputedStatus :=
  if utilizationLow sub || runwayLow sub then
    .activeLowFunds (unlockedPct sub) (claimable sub now) (daysRemaining sub)
  else
    .active (unlockedPct sub) (claimable sub now)

/-- `derive_status`.  The third argument of the source, the paused satellite, is
reserved and never read. -/
def deriveStatus (sub : SubscriptionView Key) (graced : Option (GracedSubscriptionView Key))
    (now : Int64) : ComputedStatus :=
  match sub.stateByte with
  | .active => activeOrLowFunds sub now
  | .paused => .paused none
  | .gracePeriod =>
    match graced with
    | some graced =>
      if now ≤ graced.graceUntil then
        .inGrace graced.graceUntil (Checked.saturatingSubI64 graced.graceUntil now)
      else
        .graceExpired graced.graceUntil
    | none => .corrupt sub.state "state==GracePeriod but no GracedSubscription satellite"
  | .cancelled => .cancelled
  | .exhausted => .exhausted
  | .unknown byte =>
    .corrupt byte "unknown state discriminant — likely a forward-compat redeploy"

end Rust

/-! ## TypeScript -/

namespace TypeScript

/-- `LOW_FUNDS_UTILIZATION_THRESHOLD`. -/
def lowFundsUtilizationThreshold : Int := 80

/-- `ACTIVE_LOW_FUNDS_DAYS`. -/
def activeLowFundsDays : Int := 7

/-- `SECONDS_PER_DAY`. -/
def secondsPerDay : Int := 86400

/-- `DAYS_REMAINING_SENTINEL`, which is `0xffff_ffff`. -/
def daysRemainingSentinel : Int := 4294967295

/-- `type ComputedStatus`.  A `number` is the integer that the double holds. -/
inductive ComputedStatus where
  | active (unlockedPct claimable : Int)
  | activeLowFunds (unlockedPct claimable daysRemaining : Int)
  | paused
  | inGrace (graceUntil secondsRemaining : Int)
  | graceExpired (graceUntil : Int)
  | cancelled
  | exhausted
  | corrupt (reason : String)
  deriving DecidableEq, Repr

/-- The three numbers of `computeActiveAccrual`. -/
structure ActiveAccrual where
  unlockedPct : Int
  claimable : Int
  daysRemaining : Int
  deriving DecidableEq, Repr

/-- `computeActiveAccrual`.  `/` on `bigint` truncates toward zero, and `Number(…)`
rounds to the nearest double. -/
def computeActiveAccrual (sub : SubscriptionView Key) (now : Int) : ActiveAccrual :=
  let deposited : Int := sub.depositedAmount.toNat
  let withdrawn : Int := sub.withdrawnAmount.toNat
  let price : Int := sub.price.toNat
  let period : Int := sub.period.toInt
  let streamStart : Int := sub.streamStart.toInt
  let elapsed := if now > streamStart then now - streamStart else 0
  let accrued := if period > 0 then (elapsed * price).tdiv period else 0
  let unlocked := if accrued < deposited then accrued else deposited
  let claimable := if unlocked > withdrawn then unlocked - withdrawn else 0
  let utilization :=
    if deposited = 0 then 0 else min 100 (Binary64.round ((withdrawn * 100).tdiv deposited))
  let remainingLiquid := if deposited > withdrawn then deposited - withdrawn else 0
  let daysRemaining :=
    if price = 0 then daysRemainingSentinel
    else Binary64.round ((remainingLiquid * period).tdiv (price * secondsPerDay))
  ⟨utilization, claimable, daysRemaining⟩

/-- `deriveStatus`.  The paused satellite is not read. -/
def deriveStatus (sub : SubscriptionView Key) (graced : Option (GracedSubscriptionView Key))
    (now : Int) : ComputedStatus :=
  match sub.stateByte with
  | .active =>
    let accrual := computeActiveAccrual sub now
    let utilizationLow := accrual.unlockedPct > lowFundsUtilizationThreshold
    let runwayLow := accrual.daysRemaining < activeLowFundsDays
    if utilizationLow ∨ runwayLow then
      .activeLowFunds accrual.unlockedPct accrual.claimable accrual.daysRemaining
    else
      .active accrual.unlockedPct accrual.claimable
  | .paused => .paused
  | .gracePeriod =>
    match graced with
    | none =>
      .corrupt "Subscription.state == GracePeriod but no GracedSubscription satellite found"
    | some graced =>
      if now ≤ graced.graceUntil.toInt then
        .inGrace graced.graceUntil.toInt (graced.graceUntil.toInt - now)
      else
        .graceExpired graced.graceUntil.toInt
  | .cancelled => .cancelled
  | .exhausted => .exhausted
  | .unknown byte => .corrupt ("Unknown SubscriptionState byte: " ++ toString byte.toNat)

end TypeScript

/-! ## What the derivations compute -/

namespace SubscriptionView

/-- Units earned after some seconds, before the cap. -/
def accruedAfter (sub : SubscriptionView Key) (seconds : Nat) : Nat :=
  Accrual.accrued sub.price.toNat sub.period.toInt.toNat seconds

/-- Whole seconds from the stream anchor to a moment. -/
def secondsAt (sub : SubscriptionView Key) (moment : Int64) : Nat :=
  (moment.toInt - sub.streamStart.toInt).toNat

/-- Whole days that the undrawn deposit pays for. -/
def runwayDays (sub : SubscriptionView Key) : Nat :=
  (sub.depositedAmount.toNat - sub.withdrawnAmount.toNat) * sub.period.toInt.toNat /
    (sub.price.toNat * 86400)

/-- What both runtimes call the percentage. -/
def percentDrawn (sub : SubscriptionView Key) : Nat :=
  min (sub.withdrawnAmount.toNat * 100 / sub.depositedAmount.toNat) 100

end SubscriptionView

section Exact

variable {sub : SubscriptionView Key} {now : Int64}

theorem Rust.toNat_claimable (period : 0 < sub.period.toInt) :
    (Rust.claimable sub now).toNat =
      min (sub.accruedAfter (min (sub.secondsAt now) (2 ^ 63 - 1)))
        sub.depositedAmount.toNat - sub.withdrawnAmount.toNat := by
  have deposited := sub.depositedAmount.toNat_lt
  have price := sub.price.toNat_lt
  have saturated := Checked.toInt_saturatingSubI64 now sub.streamStart
  have periodCast := Checked.i64AsU128_of_nonneg (le_of_lt period)
  have periodNat : Checked.i64AsU128 sub.period = sub.period.toInt.toNat := by omega
  have elapsedInt : (max (Checked.saturatingSubI64 now sub.streamStart) 0).toInt =
      (min (sub.secondsAt now) (2 ^ 63 - 1) : Nat) := by
    rw [Checked.toInt_max, saturated]
    unfold SubscriptionView.secondsAt
    change max _ 0 = _
    omega
  have elapsedNat : Checked.i64AsU128 (max (Checked.saturatingSubI64 now sub.streamStart) 0) =
      min (sub.secondsAt now) (2 ^ 63 - 1) := by
    have cast := @Checked.i64AsU128_of_nonneg
      (max (Checked.saturatingSubI64 now sub.streamStart) 0) (by omega)
    omega
  have product : min (sub.secondsAt now) (2 ^ 63 - 1) * sub.price.toNat < 2 ^ 128 :=
    calc min (sub.secondsAt now) (2 ^ 63 - 1) * sub.price.toNat
        ≤ 2 ^ 63 * 2 ^ 64 := Nat.mul_le_mul (by omega) (by omega)
      _ < 2 ^ 128 := by norm_num
  unfold Rust.claimable
  dsimp only
  rw [elapsedNat, Checked.saturatingMulU128_of_lt product, periodNat]
  unfold Checked.divU128
  rw [if_neg (by omega), Option.getD_some]
  change (UInt64.ofNat (min (min (sub.accruedAfter _) _ - _) _)).toNat = _
  rw [UInt64.toNat_ofNat_of_lt' (by change _ < 2 ^ 64; omega)]
  omega

theorem Rust.toNat_unlockedPct : (Rust.unlockedPct sub).toNat = sub.percentDrawn := by
  have withdrawn := sub.withdrawnAmount.toNat_lt
  unfold Rust.unlockedPct SubscriptionView.percentDrawn
  rw [Checked.saturatingMulU128_of_lt (by omega)]
  unfold Checked.divU128
  split
  next empty =>
    rw [empty, Nat.div_zero]
    rfl
  next nonempty =>
    rw [Option.map_some, Option.getD_some]
    exact UInt8.toNat_ofNat_of_lt' (by change _ < 2 ^ 8; omega)

theorem Rust.toNat_daysRemaining (price : sub.price ≠ 0) (period : 0 < sub.period.toInt) :
    (Rust.daysRemaining sub).toNat = min sub.runwayDays (2 ^ 32 - 1) := by
  have deposited := sub.depositedAmount.toNat_lt
  have priceBound := sub.price.toNat_lt
  have pricePos : 0 < sub.price.toNat := by
    rw [Nat.pos_iff_ne_zero]
    exact fun zero => price (UInt64.toNat_inj.mp zero)
  have periodBound := sub.period.toInt_lt
  have periodCast := Checked.i64AsU128_of_nonneg (le_of_lt period)
  have periodNat : Checked.i64AsU128 sub.period = sub.period.toInt.toNat := by omega
  have product : (sub.depositedAmount.toNat - sub.withdrawnAmount.toNat) *
      sub.period.toInt.toNat < 2 ^ 128 :=
    calc (sub.depositedAmount.toNat - sub.withdrawnAmount.toNat) * sub.period.toInt.toNat
        ≤ 2 ^ 64 * 2 ^ 63 := Nat.mul_le_mul (by omega) (by omega)
      _ < 2 ^ 128 := by norm_num
  unfold Rust.daysRemaining Rust.secondsPerDay
  rw [if_neg price]
  dsimp only
  rw [periodNat, Checked.saturatingMulU128_of_lt product,
    Checked.saturatingMulU128_of_lt (by omega)]
  unfold Checked.divU128
  rw [if_neg (by omega), Option.map_some, Option.getD_some]
  exact UInt32.toNat_ofNat_of_lt' (by change _ < 2 ^ 32; omega)

theorem Rust.utilizationLow_iff :
    Rust.utilizationLow sub = true ↔ 0 < sub.depositedAmount.toNat ∧
      80 * sub.depositedAmount.toNat < 100 * sub.withdrawnAmount.toNat := by
  have deposited := sub.depositedAmount.toNat_lt
  have withdrawn := sub.withdrawnAmount.toNat_lt
  unfold Rust.utilizationLow Rust.activeLowFundsUtilizationNum
    Rust.activeLowFundsUtilizationDen
  rw [Checked.saturatingMulU128_of_lt (by omega), Checked.saturatingMulU128_of_lt (by omega),
    Bool.and_eq_true, decide_eq_true_iff, decide_eq_true_iff]
  omega

theorem Rust.runwayLow_iff (price : sub.price ≠ 0) (period : 0 < sub.period.toInt) :
    Rust.runwayLow sub = true ↔ sub.runwayDays < 7 := by
  have days := Rust.toNat_daysRemaining price period
  unfold Rust.runwayLow
  rw [decide_eq_true_iff, UInt32.lt_iff_toNat_lt, days]
  change _ < 7 ↔ _
  omega

theorem Rust.lowFunds_iff (price : sub.price ≠ 0) (period : 0 < sub.period.toInt) :
    (Rust.utilizationLow sub || Rust.runwayLow sub) = true ↔
      (0 < sub.depositedAmount.toNat ∧
        80 * sub.depositedAmount.toNat < 100 * sub.withdrawnAmount.toNat) ∨
        sub.runwayDays < 7 := by
  rw [Bool.or_eq_true, Rust.utilizationLow_iff, Rust.runwayLow_iff price period]

theorem TypeScript.accrual_claimable (started : sub.streamStart.toInt ≤ now.toInt)
    (period : 0 < sub.period.toInt) :
    (TypeScript.computeActiveAccrual sub now.toInt).claimable =
      (min (sub.accruedAfter (sub.secondsAt now)) sub.depositedAmount.toNat -
        sub.withdrawnAmount.toNat : Nat) := by
  have elapsed : (if now.toInt > sub.streamStart.toInt then
      now.toInt - sub.streamStart.toInt else 0) = (sub.secondsAt now : Int) := by
    unfold SubscriptionView.secondsAt
    split <;> omega
  have accrued : ((sub.secondsAt now : Int) * (sub.price.toNat : Int)).tdiv sub.period.toInt =
      (sub.accruedAfter (sub.secondsAt now) : Nat) := by
    have periodNat : sub.period.toInt = (sub.period.toInt.toNat : Int) := by omega
    rw [periodNat, ← Int.natCast_mul]
    rfl
  unfold TypeScript.computeActiveAccrual
  dsimp only
  rw [elapsed, if_pos period, accrued]
  omega

theorem TypeScript.accrual_unlockedPct (ordered : sub.withdrawnAmount.toNat ≤
    sub.depositedAmount.toNat) :
    (TypeScript.computeActiveAccrual sub now.toInt).unlockedPct = sub.percentDrawn := by
  have percent : sub.withdrawnAmount.toNat * 100 / sub.depositedAmount.toNat ≤ 100 :=
    Nat.div_le_of_le_mul (Nat.mul_le_mul_right 100 ordered)
  have quotient : ((sub.withdrawnAmount.toNat : Int) * 100).tdiv sub.depositedAmount.toNat =
      (sub.withdrawnAmount.toNat * 100 / sub.depositedAmount.toNat : Nat) := rfl
  unfold TypeScript.computeActiveAccrual SubscriptionView.percentDrawn
  dsimp only
  split
  next empty =>
    have zero : sub.depositedAmount.toNat = 0 := by omega
    rw [zero, Nat.div_zero]
    rfl
  next nonempty =>
    rw [quotient, Binary64.round_natCast, Binary64.roundNat_of_lt (by omega)]
    omega

theorem TypeScript.accrual_daysRemaining (price : sub.price ≠ 0)
    (period : 0 < sub.period.toInt) :
    (TypeScript.computeActiveAccrual sub now.toInt).daysRemaining =
      Binary64.roundNat sub.runwayDays := by
  have priceNonzero : (sub.price.toNat : Int) ≠ 0 := by
    intro zero
    exact price (UInt64.toNat_inj.mp (Int.natCast_eq_zero.mp zero))
  have remaining : (if (sub.depositedAmount.toNat : Int) > sub.withdrawnAmount.toNat then
      (sub.depositedAmount.toNat : Int) - sub.withdrawnAmount.toNat else 0) =
      (sub.depositedAmount.toNat - sub.withdrawnAmount.toNat : Nat) := by
    split <;> omega
  have quotient : (((sub.depositedAmount.toNat - sub.withdrawnAmount.toNat : Nat) : Int) *
      sub.period.toInt).tdiv (sub.price.toNat * 86400) = (sub.runwayDays : Nat) := by
    have periodNat : sub.period.toInt = (sub.period.toInt.toNat : Int) := by omega
    rw [periodNat, ← Int.natCast_mul]
    rfl
  unfold TypeScript.computeActiveAccrual TypeScript.secondsPerDay
  dsimp only
  rw [if_neg priceNonzero, remaining, quotient, Binary64.round_natCast]

end Exact

end Nakama
