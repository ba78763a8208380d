import Nakama.Client.Status

/-!
# The two status derivations

`computed_status.rs` and `computedStatus.ts` are committed to the same dispatch.  Both
are read as one report, with the payload that both publish, and compared on every view.
-/

namespace Nakama

variable {Key : Type}

/-- A status with its published payload.  The texts of a corrupt status are for
operators and differ. -/
inductive Report where
  | active (unlockedPct claimable : Int)
  | activeLowFunds (unlockedPct claimable daysRemaining : Int)
  | paused
  | inGrace (graceUntil secondsRemaining : Int)
  | graceExpired (graceUntil : Int)
  | cancelled
  | exhausted
  | corrupt
  deriving DecidableEq, Repr

/-- The report in a Rust status. -/
def Rust.ComputedStatus.report : Rust.ComputedStatus → Report
  | .active unlockedPct claimable => .active unlockedPct.toNat claimable.toNat
  | .activeLowFunds unlockedPct claimable daysRemaining =>
    .activeLowFunds unlockedPct.toNat claimable.toNat daysRemaining.toNat
  | .paused _ => .paused
  | .inGrace graceUntil secondsRemaining => .inGrace graceUntil.toInt secondsRemaining.toInt
  | .graceExpired graceUntil => .graceExpired graceUntil.toInt
  | .cancelled => .cancelled
  | .exhausted => .exhausted
  | .corrupt _ _ => .corrupt

/-- The report in a TypeScript status. -/
def TypeScript.ComputedStatus.report : TypeScript.ComputedStatus → Report
  | .active unlockedPct claimable => .active unlockedPct claimable
  | .activeLowFunds unlockedPct claimable daysRemaining =>
    .activeLowFunds unlockedPct claimable daysRemaining
  | .paused => .paused
  | .inGrace graceUntil secondsRemaining => .inGrace graceUntil secondsRemaining
  | .graceExpired graceUntil => .graceExpired graceUntil
  | .cancelled => .cancelled
  | .exhausted => .exhausted
  | .corrupt _ => .corrupt

namespace SubscriptionView

variable (sub : SubscriptionView Key)

/-- The drawn share is not strictly between 80 % and 81 %, where only the exact ratio is
above the threshold, unless the short runway fires anyway. -/
def SameGate : Prop :=
  100 * sub.withdrawnAmount.toNat ≤ 80 * sub.depositedAmount.toNat ∨
    81 * sub.depositedAmount.toNat ≤ 100 * sub.withdrawnAmount.toNat ∨ sub.runwayDays < 7

/-- A runway that is published beside a high utilization is a `u32`. -/
def SameRunway : Prop :=
  81 * sub.depositedAmount.toNat ≤ 100 * sub.withdrawnAmount.toNat → sub.runwayDays < 2 ^ 32

/-- The age of the stream is an `i64`, or what it earned after `i64::MAX` seconds makes
no difference to the merchant. -/
def SameAccrual (now : Int64) : Prop :=
  Checked.FitsI64 (now.toInt - sub.streamStart.toInt) ∨
    sub.depositedAmount.toNat ≤ sub.withdrawnAmount.toNat ∨
    sub.depositedAmount.toNat ≤ sub.accruedAfter (2 ^ 63 - 1) ∨
    sub.accruedAfter (sub.secondsAt now) ≤ sub.withdrawnAmount.toNat ∨
    sub.accruedAfter (sub.secondsAt now) = sub.accruedAfter (2 ^ 63 - 1)

instance : Decidable sub.SameGate := inferInstanceAs (Decidable (_ ∨ _))

instance : Decidable sub.SameRunway := inferInstanceAs (Decidable (_ → _))

instance (now : Int64) : Decidable (sub.SameAccrual now) := inferInstanceAs (Decidable (_ ∨ _))

end SubscriptionView

section Agreement

variable {sub : SubscriptionView Key} {now : Int64}

theorem SubscriptionView.percentDrawn_gt_iff :
    80 < sub.percentDrawn ↔ 0 < sub.depositedAmount.toNat ∧
      81 * sub.depositedAmount.toNat ≤ 100 * sub.withdrawnAmount.toNat := by
  unfold SubscriptionView.percentDrawn
  rcases Nat.eq_zero_or_pos sub.depositedAmount.toNat with empty | positive
  · rw [empty, Nat.div_zero]
    omega
  · have floor := @Nat.le_div_iff_mul_le sub.depositedAmount.toNat 81
      (sub.withdrawnAmount.toNat * 100) positive
    omega

theorem SubscriptionView.runwayDays_of_deposited_le
    (drawn : sub.depositedAmount.toNat ≤ sub.withdrawnAmount.toNat) : sub.runwayDays = 0 := by
  have nothing : sub.depositedAmount.toNat - sub.withdrawnAmount.toNat = 0 := by omega
  unfold SubscriptionView.runwayDays
  rw [nothing, Nat.zero_mul, Nat.zero_div]

theorem claimable_agrees_iff (period : 0 < sub.period.toInt)
    (started : sub.streamStart.toInt ≤ now.toInt) :
    ((Rust.claimable sub now).toNat : Int) =
        (TypeScript.computeActiveAccrual sub now.toInt).claimable ↔ sub.SameAccrual now := by
  have seconds : (sub.secondsAt now : Int) = now.toInt - sub.streamStart.toInt :=
    Int.toNat_of_nonneg (by omega)
  rw [Rust.toNat_claimable period, TypeScript.accrual_claimable started period, Nat.cast_inj]
  unfold SubscriptionView.SameAccrual Checked.FitsI64
  rcases Nat.lt_or_ge (sub.secondsAt now) (2 ^ 63) with short | long
  · have elapsed : min (sub.secondsAt now) (2 ^ 63 - 1) = sub.secondsAt now := by omega
    rw [elapsed]
    omega
  · have elapsed : min (sub.secondsAt now) (2 ^ 63 - 1) = 2 ^ 63 - 1 := by omega
    have earlier : sub.accruedAfter (2 ^ 63 - 1) ≤ sub.accruedAfter (sub.secondsAt now) :=
      Accrual.accrued_mono (by omega)
    rw [elapsed]
    omega

theorem runwayLow_agrees (price : sub.price ≠ 0) (period : 0 < sub.period.toInt) :
    (TypeScript.computeActiveAccrual sub now.toInt).daysRemaining < 7 ↔
      sub.runwayDays < 7 := by
  rw [TypeScript.accrual_daysRemaining price period]
  have small := @Binary64.roundNat_lt_iff sub.runwayDays 7 (by norm_num)
  omega

/-- The clamped and the rounded runway are the same number as long as it is a `u32`. -/
theorem daysRemaining_agrees_iff (price : sub.price ≠ 0) (period : 0 < sub.period.toInt) :
    ((Rust.daysRemaining sub).toNat : Int) =
        (TypeScript.computeActiveAccrual sub now.toInt).daysRemaining ↔
      sub.runwayDays < 2 ^ 32 := by
  rw [Rust.toNat_daysRemaining price period, TypeScript.accrual_daysRemaining price period,
    Nat.cast_inj]
  have small := @Binary64.roundNat_lt_iff sub.runwayDays (2 ^ 32) (by norm_num)
  constructor
  · intro same
    omega
  · intro fits
    rw [Binary64.roundNat_of_lt (by omega)]
    omega

theorem TypeScript.lowFunds_iff (price : sub.price ≠ 0) (period : 0 < sub.period.toInt)
    (ordered : sub.withdrawnAmount.toNat ≤ sub.depositedAmount.toNat) :
    ((TypeScript.computeActiveAccrual sub now.toInt).unlockedPct >
        TypeScript.lowFundsUtilizationThreshold ∨
      (TypeScript.computeActiveAccrual sub now.toInt).daysRemaining <
        TypeScript.activeLowFundsDays) ↔
      (0 < sub.depositedAmount.toNat ∧
        81 * sub.depositedAmount.toNat ≤ 100 * sub.withdrawnAmount.toNat) ∨
        sub.runwayDays < 7 := by
  have drawn := @SubscriptionView.percentDrawn_gt_iff _ sub
  have runway := @runwayLow_agrees _ _ now price period
  rw [TypeScript.accrual_unlockedPct ordered]
  unfold TypeScript.lowFundsUtilizationThreshold TypeScript.activeLowFundsDays
  rw [runway, ← drawn]
  omega

/-- The status of an active subscription is the same iff the gates, the published runway
and the accrual are. -/
theorem active_agrees_iff (price : sub.price ≠ 0) (period : 0 < sub.period.toInt)
    (ordered : sub.withdrawnAmount.toNat ≤ sub.depositedAmount.toNat)
    (started : sub.streamStart.toInt ≤ now.toInt) (graced : Option (GracedSubscriptionView Key))
    (active : sub.stateByte = .active) :
    (Rust.deriveStatus sub graced now).report =
        (TypeScript.deriveStatus sub graced now.toInt).report ↔
      sub.SameGate ∧ sub.SameRunway ∧ sub.SameAccrual now := by
  have accrual := claimable_agrees_iff period started
  have days := @daysRemaining_agrees_iff _ _ now price period
  have percent : ((Rust.unlockedPct sub).toNat : Int) =
      (TypeScript.computeActiveAccrual sub now.toInt).unlockedPct := by
    rw [Rust.toNat_unlockedPct, TypeScript.accrual_unlockedPct ordered]
  have rustLow := Rust.lowFunds_iff price period
  have scriptLow := @TypeScript.lowFunds_iff _ _ now price period ordered
  have empty := @SubscriptionView.runwayDays_of_deposited_le _ sub
  unfold Rust.deriveStatus TypeScript.deriveStatus
  rw [active]
  dsimp only
  unfold Rust.activeOrLowFunds SubscriptionView.SameGate SubscriptionView.SameRunway
  split
  next warns =>
    have rustGate := rustLow.mp warns
    split
    next warned =>
      have scriptGate := scriptLow.mp warned
      change Report.activeLowFunds _ _ _ = Report.activeLowFunds _ _ _ ↔ _
      rw [Report.activeLowFunds.injEq, days, accrual]
      constructor
      · rintro ⟨-, sameAccrual, sameDays⟩
        exact ⟨by omega, fun _ => sameDays, sameAccrual⟩
      · rintro ⟨-, sameRunway, sameAccrual⟩
        exact ⟨percent, sameAccrual, by omega⟩
    next missed =>
      have scriptGate := mt scriptLow.mpr missed
      change Report.activeLowFunds _ _ _ = Report.active _ _ ↔ _
      constructor
      · exact fun same => Report.noConfusion same
      · rintro ⟨sameGate, -, -⟩
        omega
  next quiet =>
    have rustGate := mt rustLow.mpr quiet
    split
    next warned =>
      have scriptGate := scriptLow.mp warned
      omega
    next missed =>
      change Report.active _ _ = Report.active _ _ ↔ _
      rw [Report.active.injEq, accrual]
      constructor
      · rintro ⟨-, sameAccrual⟩
        exact ⟨by omega, by omega, sameAccrual⟩
      · rintro ⟨-, -, sameAccrual⟩
        exact ⟨percent, sameAccrual⟩

/-- The status in the grace period is the same iff the rest of it is an `i64`. -/
theorem grace_agrees_iff (graced : GracedSubscriptionView Key)
    (grace : sub.stateByte = .gracePeriod) :
    (Rust.deriveStatus sub (some graced) now).report =
        (TypeScript.deriveStatus sub (some graced) now.toInt).report ↔
      (now.toInt ≤ graced.graceUntil.toInt →
        Checked.FitsI64 (graced.graceUntil.toInt - now.toInt)) := by
  have rest := Checked.toInt_saturatingSubI64 graced.graceUntil now
  unfold Rust.deriveStatus TypeScript.deriveStatus
  rw [grace]
  dsimp only
  simp only [Int64.le_iff_toInt_le]
  split
  next inside =>
    change Report.inGrace _ _ = Report.inGrace _ _ ↔ _
    rw [Report.inGrace.injEq, rest]
    unfold Checked.FitsI64
    omega
  next expired =>
    change Report.graceExpired _ = Report.graceExpired _ ↔ _
    constructor
    · exact fun _ inside => absurd inside expired
    · exact fun _ => rfl

/-- The two derivations publish the same report exactly when the drawn share is not
caught between the two thresholds, the published runway fits its type, and no clock
difference saturates to an effect. -/
theorem status_agrees_iff (price : sub.price ≠ 0) (period : 0 < sub.period.toInt)
    (ordered : sub.withdrawnAmount.toNat ≤ sub.depositedAmount.toNat)
    (started : sub.streamStart.toInt ≤ now.toInt)
    (graced : Option (GracedSubscriptionView Key)) :
    (Rust.deriveStatus sub graced now).report =
        (TypeScript.deriveStatus sub graced now.toInt).report ↔
      (sub.stateByte = .active → sub.SameGate ∧ sub.SameRunway ∧ sub.SameAccrual now) ∧
      (sub.stateByte = .gracePeriod → ∀ satellite ∈ graced,
        now.toInt ≤ satellite.graceUntil.toInt →
          Checked.FitsI64 (satellite.graceUntil.toInt - now.toInt)) := by
  cases state : sub.stateByte with
  | active =>
    rw [active_agrees_iff price period ordered started graced state]
    simp
  | gracePeriod =>
    cases graced with
    | none => simp [Rust.deriveStatus, TypeScript.deriveStatus, state,
        Rust.ComputedStatus.report, TypeScript.ComputedStatus.report]
    | some satellite =>
      rw [grace_agrees_iff satellite state]
      simp
  | paused | exhausted | cancelled | unknown =>
    simp [Rust.deriveStatus, TypeScript.deriveStatus, state, Rust.ComputedStatus.report,
      TypeScript.ComputedStatus.report]

end Agreement

/-- A daily price of one unit, with some units drawn of a deposit of a thousand. -/
def sampleView (withdrawn : UInt64) : SubscriptionView KeyBytes where
  nextChargeAt := 0
  subscriber := Vector.replicate 32 1
  plan := Vector.replicate 32 2
  price := 1
  period := 86400
  tokenMint := Vector.replicate 32 3
  merchant := Vector.replicate 32 4
  merchantAta := Vector.replicate 32 5
  state := 0
  bump := 255
  vaultBump := 254
  createdAt := 0
  lastChargeAt := 0
  depositedAmount := 1000
  withdrawnAmount := withdrawn
  ratePerSecond := 0
  streamStart := 0
  reserved := Vector.replicate 32 0

/-- At 81 % both runtimes warn alike. -/
theorem status_agrees_at_threshold :
    (Rust.deriveStatus (sampleView 810) none 69984000).report =
      (TypeScript.deriveStatus (sampleView 810) none (69984000 : Int64).toInt).report :=
  (status_agrees_iff (by decide) (by decide) (by decide) (by decide) none).mpr
    ⟨fun _ => by decide, fun grace => absurd grace (by decide)⟩

/-- At 80.5 % only Rust warns. -/
theorem status_differs_above_threshold :
    (sampleView 805).price ≠ 0 ∧ 0 < (sampleView 805).period.toInt ∧
      (sampleView 805).withdrawnAmount.toNat ≤ (sampleView 805).depositedAmount.toNat ∧
      (sampleView 805).stateByte = .active ∧
      (sampleView 805).streamStart.toInt ≤ (69552000 : Int64).toInt ∧
      (Rust.deriveStatus (sampleView 805) none 69552000).report = .activeLowFunds 80 0 195 ∧
      (TypeScript.deriveStatus (sampleView 805) none (69552000 : Int64).toInt).report =
        .active 80 0 := by
  decide +kernel

end Nakama
