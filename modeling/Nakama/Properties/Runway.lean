import Mathlib.Data.Rat.Cast.Order
import Nakama.Client.Status
import Nakama.Refinement.Lifecycle
import Nakama.Refinement.Solvency

/-!
# The low-funds warning

The runway of a status is documented as counted from now, and computed from what was
withdrawn.  The two differ by what the stream earned and nobody charged: the arrears.
-/

namespace Nakama

open Ledger

/-! ## Deposits are positive -/

theorem View.Step.deposited_pos {key : Pubkey} {now : Int64} {action : Action}
    {before after : View} {moved : Route → Nat}
    (taken : View.Step key now action before after moved)
    (funded : ∀ sub, before.subscription = some sub → 0 < sub.depositedAmount.toNat)
    (next : Subscription Pubkey) (nextAt : after.subscription = some next) :
    0 < next.depositedAmount.toNat := by
  cases taken with
  | subscribe _ _ _ _ _ _ _ _ _ _ positive =>
      cases nextAt
      exact positive
  | topUp _ _ found _ _ _ depositedEq =>
      cases nextAt
      have prior := funded _ found
      simp only
      omega
  | recover _ _ found _ _ _ _ depositedEq =>
      cases nextAt
      have prior := funded _ found
      simp only
      omega
  | charge _ found =>
      have prior := funded _ found
      cases nextAt
      exact prior
  | exhaust _ found =>
      have prior := funded _ found
      cases nextAt
      exact prior
  | settleUsage _ _ found =>
      have prior := funded _ found
      cases nextAt
      exact prior
  | pause _ _ found =>
      have prior := funded _ found
      cases nextAt
      exact prior
  | resume _ _ found =>
      have prior := funded _ found
      cases nextAt
      exact prior
  | cancel _ _ found =>
      have prior := funded _ found
      cases nextAt
      exact prior
  | cleanup => cases nextAt
  | openSession => exact funded _ nextAt
  | closeSession => exact funded _ nextAt
  | donate => exact funded _ nextAt
  | other => exact funded _ nextAt

namespace Subscription

variable {Key : Type} (sub : Subscription Key)

/-- What the stream earned until now and was not charged, in units times seconds of the
period. -/
def arrears (now : Int64) : Nat :=
  sub.secondsAt now * sub.price.toNat - sub.withdrawnAmount.toNat * sub.period.toInt.toNat

/-- What the undrawn deposit pays for, in units times seconds of the period. -/
def undrawn : Nat :=
  (sub.depositedAmount.toNat - sub.withdrawnAmount.toNat) * sub.period.toInt.toNat

/-- The warning is due by the counters: more than 80 % drawn, or less than seven days
undrawn. -/
def WarningDue : Prop :=
  80 * sub.depositedAmount.toNat < 100 * sub.withdrawnAmount.toNat ∨
    sub.undrawn < 604800 * sub.price.toNat

instance : Decidable sub.WarningDue := inferInstanceAs (Decidable (_ ∨ _))

/-- The arrears are covered by what the undrawn deposit has beyond the days that are
promised: seven without a warning, the whole ones with it. -/
def ArrearsCovered (now : Int64) : Prop :=
  (¬sub.WarningDue →
    sub.arrears now + 604800 * sub.price.toNat < sub.undrawn + sub.price.toNat) ∧
  (sub.WarningDue → sub.undrawn / (sub.price.toNat * 86400) < 2 ^ 32 - 1 →
    sub.arrears now < sub.undrawn % (sub.price.toNat * 86400) + sub.price.toNat)

instance (now : Int64) : Decidable (sub.ArrearsCovered now) :=
  inferInstanceAs (Decidable ((_ → _) ∧ (_ → _ → _)))

end Subscription

/-- Every subscription of a reachable chain has a deposit. -/
theorem Chain.deposited_pos {chain : Chain} (reachable : machine.Reachable chain)
    {subscriber planKey : Pubkey} {sub : Subscription Pubkey}
    (subAt : (chain.view (.sub subscriber planKey)).subscription = some sub) :
    0 < sub.depositedAmount.toNat := by
  have funded : ∀ found, (chain.view (.sub subscriber planKey)).subscription = some found →
      0 < found.depositedAmount.toNat := by
    apply reachable.strengthen fun _ => Invariant.of_reachable
    · intro start genesis found foundAt
      rw [genesis.view_eq] at foundAt
      cases foundAt
    · intro before tx invariant funded ordered found foundAt
      change ((before.step tx).view _).subscription = _ at foundAt
      rcases @step_cases before subscriber planKey invariant.wellFormed tx with
        ⟨_, unchanged⟩ | ⟨outcome, _, _, taken⟩
      · rw [unchanged] at foundAt
        exact funded found foundAt
      · exact taken.deposited_pos funded found foundAt
  exact funded sub subAt

/-! ## The promised days -/

section Promise

variable {sub : Subscription Pubkey} {now : Int64}

/-- A number of days is kept exactly when the arrears are covered beyond it. -/
theorem lasts_iff_arrears (ordered : sub.withdrawnAmount.toNat ≤ sub.depositedAmount.toNat)
    (charged : sub.withdrawnAmount.toNat * sub.period.toInt.toNat ≤
      sub.secondsAt now * sub.price.toNat) (days : Nat) :
    (sub.secondsAt now + days * 86400) * sub.price.toNat <
        sub.depositedAmount.toNat * sub.period.toInt.toNat + sub.price.toNat ↔
      sub.arrears now + sub.price.toNat * 86400 * days < sub.undrawn + sub.price.toNat := by
  have parts : sub.undrawn + sub.withdrawnAmount.toNat * sub.period.toInt.toNat =
      sub.depositedAmount.toNat * sub.period.toInt.toNat := by
    unfold Subscription.undrawn
    rw [← Nat.add_mul, Nat.sub_add_cancel ordered]
  have earned : (sub.secondsAt now + days * 86400) * sub.price.toNat =
      sub.secondsAt now * sub.price.toNat + sub.price.toNat * 86400 * days := by
    ring
  unfold Subscription.arrears
  rw [earned]
  omega

private theorem quotient_lt_iff {seconds price deposited period : Nat} (positive : 0 < period) :
    (seconds : ℚ) * price / period < deposited + (price : ℚ) / period ↔
      seconds * price < deposited * period + price := by
  have positiveCast : (0 : ℚ) < period := by exact_mod_cast positive
  rw [div_lt_iff₀ positiveCast, add_mul, div_mul_cancel₀ _ (ne_of_gt positiveCast)]
  exact_mod_cast Iff.rfl

/-- Seven days of runway, over the rationals and over the naturals. -/
theorem seven_days_iff (started : sub.streamStart.toInt ≤ now.toInt)
    (period : 0 < sub.period.toInt) :
    ((now.toInt + 7 * 86400 - sub.streamStart.toInt : Int) : ℚ) * sub.price.toNat /
          sub.period.toInt <
        sub.depositedAmount.toNat + (sub.price.toNat : ℚ) / sub.period.toInt ↔
      (sub.secondsAt now + 7 * 86400) * sub.price.toNat <
        sub.depositedAmount.toNat * sub.period.toInt.toNat + sub.price.toNat := by
  have elapsed : now.toInt + 7 * 86400 - sub.streamStart.toInt =
      ((sub.secondsAt now + 7 * 86400 : Nat) : Int) := by
    unfold Subscription.secondsAt
    omega
  obtain ⟨seconds, secondsEq⟩ := Int.eq_ofNat_of_zero_le (le_of_lt period)
  rw [elapsed, secondsEq, Int.cast_natCast, Int.cast_natCast, Int.toNat_natCast]
  exact quotient_lt_iff (by omega)

end Promise

/-- What a status promises about the time from now on: seven days without a warning, the
reported days with it. -/
def Subscription.RunwayKept (sub : Subscription Pubkey) (now : Int64) :
    Rust.ComputedStatus → Prop
  | .active _ _ =>
      ((now.toInt + 7 * 86400 - sub.streamStart.toInt : Int) : ℚ) * sub.price.toNat /
          sub.period.toInt <
        sub.depositedAmount.toNat + (sub.price.toNat : ℚ) / sub.period.toInt
  | .activeLowFunds _ _ daysRemaining =>
      daysRemaining < Rust.daysRemainingSentinel →
        ∀ seconds < sub.secondsAt now + daysRemaining.toNat * 86400,
          Accrual.accrued sub.price.toNat sub.period.toInt.toNat seconds <
            sub.depositedAmount.toNat
  | _ => True

section Kept

variable {sub : Subscription Pubkey} {now : Int64}

/-- What is reachable of a stream that is not charged up to now. -/
structure Streams (sub : Subscription Pubkey) (now : Int64) : Prop where
  funded : 0 < sub.depositedAmount.toNat
  period : 0 < sub.period.toInt
  price : sub.price ≠ 0
  started : sub.streamStart.toInt ≤ now.toInt
  ordered : sub.withdrawnAmount.toNat ≤ sub.depositedAmount.toNat
  charged : sub.withdrawnAmount.toNat * sub.period.toInt.toNat ≤
    sub.secondsAt now * sub.price.toNat

theorem Chain.streams_of_reachable {chain : Chain} {subscriber planKey : Pubkey}
    (reachable : machine.Reachable chain) (ordered : chain.clock.toInt ≤ now.toInt)
    (loaded : chain.ledger.account (.sub subscriber planKey) = some (.subscription sub))
    (active : sub.state = .active) : Streams sub now := by
  have invariant := Invariant.of_reachable reachable
  have period := invariant.wellFormed.sub_period loaded
  have rate := invariant.wellFormed.sub_rate loaded
  have subAt : (chain.view (.sub subscriber planKey)).subscription = some sub :=
    view_subscription.mpr loaded
  have sound := (invariant.sound subscriber planKey).advance ordered
  have streaming := sound.of_active subAt active
  have earned : sub.withdrawnAmount.toNat ≤ sub.accruedAt now :=
    le_trans streaming.covered (sub.unlockedBy_le_accruedAt now)
  constructor
  · exact deposited_pos reachable subAt
  · exact period
  · rintro zero
    rw [zero, UInt64.toNat_zero] at rate
    omega
  · exact streaming.started
  · exact sound.withdrawn_le subAt
  · exact le_trans (Nat.mul_le_mul_right _ earned) (Nat.div_mul_le_self _ _)

theorem Streams.lowFunds_iff (streams : Streams sub now) :
    (Rust.utilizationLow sub.seen || Rust.runwayLow sub.seen) = true ↔ sub.WarningDue := by
  have price : 0 < sub.price.toNat :=
    Nat.pos_of_ne_zero fun zero => streams.price (UInt64.toNat_inj.mp zero)
  have days : sub.seen.runwayDays < 7 ↔ sub.undrawn < 604800 * sub.price.toNat := by
    change sub.undrawn / (sub.price.toNat * 86400) < 7 ↔ _
    rw [Nat.div_lt_iff_lt_mul (by omega)]
    omega
  rw [@Rust.lowFunds_iff _ sub.seen streams.price streams.period, days]
  change (0 < sub.depositedAmount.toNat ∧ _) ∨ _ ↔ _
  unfold Subscription.WarningDue
  rw [and_iff_right streams.funded]
  exact Iff.rfl

/-- With a warning, the reported days are kept exactly when the arrears fit into the day
that was rounded off. -/
theorem Streams.reported_days_kept_iff (streams : Streams sub now) :
    (∀ seconds < sub.secondsAt now + sub.undrawn / (sub.price.toNat * 86400) * 86400,
        Accrual.accrued sub.price.toNat sub.period.toInt.toNat seconds <
          sub.depositedAmount.toNat) ↔
      sub.arrears now < sub.undrawn % (sub.price.toNat * 86400) + sub.price.toNat := by
  have period := streams.period
  have whole := Nat.div_add_mod sub.undrawn (sub.price.toNat * 86400)
  rw [Accrual.lasts_iff (by omega) streams.funded,
    lasts_iff_arrears streams.ordered streams.charged]
  omega

/-- A stream that was charged up to now keeps its promise. -/
theorem Streams.covered_of_charged (streams : Streams sub now)
    (rate : sub.period.toInt.toNat ≤ sub.price.toNat)
    (settled : sub.accruedAt now = sub.withdrawnAmount.toNat) : sub.ArrearsCovered now := by
  have period := streams.period
  have rounding : sub.secondsAt now * sub.price.toNat <
      (sub.withdrawnAmount.toNat + 1) * sub.period.toInt.toNat := by
    rw [← Accrual.accrued_lt_iff (by omega)]
    change sub.accruedAt now < _
    omega
  have small : sub.arrears now < sub.price.toNat := by
    rw [Nat.succ_mul] at rounding
    unfold Subscription.arrears
    omega
  constructor
  · intro quiet
    unfold Subscription.WarningDue at quiet
    omega
  · intro _ _
    omega

/-- The status keeps its promise exactly when the arrears are covered. -/
theorem Streams.kept_iff (streams : Streams sub now) (active : sub.state = .active)
    (graced : Option (GracedSubscriptionView Pubkey)) :
    sub.RunwayKept now (Rust.deriveStatus sub.seen graced now) ↔ sub.ArrearsCovered now := by
  have days := @Rust.toNat_daysRemaining _ sub.seen streams.price streams.period
  have state := sub.seen_stateByte
  rw [active] at state
  unfold Rust.deriveStatus
  rw [state]
  change sub.RunwayKept now (Rust.activeOrLowFunds sub.seen now) ↔ _
  unfold Rust.activeOrLowFunds Subscription.ArrearsCovered
  by_cases due : sub.WarningDue
  · rw [if_pos (streams.lowFunds_iff.mpr due), and_iff_right (absurd due),
      imp_iff_right due]
    change (_ → _) ↔ _
    have sentinel : Rust.daysRemaining sub.seen < Rust.daysRemainingSentinel ↔
        sub.undrawn / (sub.price.toNat * 86400) < 2 ^ 32 - 1 := by
      rw [UInt32.lt_iff_toNat_lt, days]
      change min (sub.undrawn / (sub.price.toNat * 86400)) (2 ^ 32 - 1) < 2 ^ 32 - 1 ↔ _
      omega
    rw [sentinel]
    apply imp_congr_right
    intro representable
    have exactly : (Rust.daysRemaining sub.seen).toNat =
        sub.undrawn / (sub.price.toNat * 86400) := by
      rw [days]
      exact Nat.min_eq_left (le_of_lt representable)
    rw [exactly]
    exact streams.reported_days_kept_iff
  · rw [if_neg (mt streams.lowFunds_iff.mp due), and_iff_left (fun isDue => absurd isDue due),
      imp_iff_right due]
    change _ < _ ↔ _
    rw [seven_days_iff streams.started streams.period,
      lasts_iff_arrears streams.ordered streams.charged]
    omega

end Kept

/-- In every reachable chain and at any later clock, the status of an active subscription
keeps its promise exactly when the arrears are covered, as they are when everything earned
by now was charged. -/
theorem runway_kept_iff {chain : Chain} {now : Int64} {subscriber planKey : Pubkey}
    {sub : Subscription Pubkey} (reachable : machine.Reachable chain)
    (ordered : chain.clock.toInt ≤ now.toInt)
    (loaded : chain.ledger.account (.sub subscriber planKey) = some (.subscription sub))
    (active : sub.state = .active) (graced : Option (GracedSubscriptionView Pubkey)) :
    (sub.RunwayKept now (Rust.deriveStatus sub.seen graced now) ↔ sub.ArrearsCovered now) ∧
      (sub.accruedAt now = sub.withdrawnAmount.toNat → sub.ArrearsCovered now) := by
  have streams := Chain.streams_of_reachable reachable ordered loaded active
  have rate := (Chain.Invariant.of_reachable reachable).wellFormed.sub_rate loaded
  exact ⟨streams.kept_iff active graced, streams.covered_of_charged rate⟩

section Witness

open Sample

/-- The sample with a subscriber who can afford a week. -/
def wealthyGenesis : Chain :=
  { genesis with
    ledger := genesis.ledger.set subscriberAta
      (.token ⟨usdcMint, subscriber.key, 2000000⟩) }

theorem wealthyGenesis_isGenesis : wealthyGenesis.Genesis := by
  constructor
  · rfl
  · intro key account found
    change (genesis.ledger.set _ _).account key = _ at found
    rw [set_account] at found
    split at found
    next isAta =>
      cases found
      rw [isAta]
      exact ⟨rfl, rfl⟩
    next => exact genesis_isGenesis.outside key account found
  · intro mint
    have bounded : Supply.Fits (2 ^ 64) (fun key : Pubkey =>
        if key = subscriberAta then 2000000 else if key = strangerAta then 10 else 0) := by
      apply Supply.Fits.of_support {subscriberAta, strangerAta}
      · decide
      · intro key absent
        simp only [Finset.mem_insert, Finset.mem_singleton, not_or] at absent
        simp [absent]
    apply bounded.mono
    intro key
    unfold wealthyGenesis
    by_cases isAta : key = subscriberAta
    · rw [isAta, held_of_token (set_account_self _ _ _)]
      split <;> decide
    · rw [held_congr (set_account_of_ne _ _ isAta), if_neg isAta]
      simp only [Ledger.held, genesis]
      split
      next token found =>
        split at found <;> cases found <;> split <;> simp_all [subscriberAta, strangerAta]
      next => exact Nat.zero_le _

/-- Eight days of one unit a second. -/
def eightDays : Chain :=
  machine.run wealthyGenesis
    [⟨0, .program (.createPlan ⟨merchant, planKey, usdcMint, merchantAta⟩ 7 345600 345600)⟩,
      subscribeTx 0]

theorem eightDays_reachable : machine.Reachable eightDays :=
  ⟨wealthyGenesis, _, wealthyGenesis_isGenesis, allowsRun_of_clocks (by decide), rfl⟩

/-- At the start there is no warning, and the stream lasts for seven days. -/
theorem runway_kept_iff_fresh :
    ∃ sub, eightDays.ledger.account subKey = some (.subscription sub) ∧
      sub.RunwayKept 0 (Rust.deriveStatus sub.seen none 0) := by
  obtain ⟨sub, subAt, fields⟩ := Option.map_eq_some_iff.mp
    (show (eightDays.view subKey).subscription.map (fun sub =>
      (sub.state, decide (sub.ArrearsCovered 0))) = some (.active, true) by decide +kernel)
  rw [Prod.mk.injEq] at fields
  have loaded := view_subscription.mp subAt
  exact ⟨sub, loaded, (runway_kept_iff eightDays_reachable (by decide +kernel) loaded fields.1
    none).1.mpr (of_decide_eq_true fields.2)⟩

/-- After seven days without a charge there is still no warning, and one day is left. -/
theorem uncharged_runway_missed :
    machine.Reachable eightDays ∧ eightDays.clock.toInt ≤ (604800 : Int64).toInt ∧
      ∃ sub, eightDays.ledger.account subKey = some (.subscription sub) ∧
        sub.state = .active ∧ Rust.deriveStatus sub.seen none 604800 = .active 0 604800 ∧
        ¬sub.RunwayKept 604800 (Rust.deriveStatus sub.seen none 604800) := by
  obtain ⟨sub, subAt, fields⟩ := Option.map_eq_some_iff.mp
    (show (eightDays.view subKey).subscription.map (fun sub => ((sub.state, sub.price,
      sub.period), (sub.streamStart, sub.depositedAmount,
        Rust.deriveStatus sub.seen none 604800))) =
      some ((.active, 345600, 345600), (0, 691200, .active 0 604800)) by decide +kernel)
  simp only [Prod.mk.injEq] at fields
  obtain ⟨⟨active, price, period⟩, start, deposited, status⟩ := fields
  refine ⟨eightDays_reachable, by decide +kernel, sub, view_subscription.mp subAt, active,
    status, ?_⟩
  rw [status]
  change ¬_ < _
  rw [price, period, start, deposited, show (691200 : UInt64).toNat = 691200 from rfl,
    show (345600 : UInt64).toNat = 345600 from rfl,
    show (345600 : Int64).toInt = 345600 from rfl, show (0 : Int64).toInt = 0 from rfl,
    show (604800 : Int64).toInt = 604800 from rfl]
  norm_num

end Witness

end Nakama
