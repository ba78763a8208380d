import Nakama.Properties.Drain
import Nakama.Refinement.Faults

/-!
# The keeper hint

`charge` stores when a keeper should come back: one period after the seconds that all
withdrawals so far pay for.  Those seconds invert the unlock formula, and the two roundings
in between cost at most a second.
-/

namespace Nakama

open Guard Ledger

/-! ## Finding something to pay -/

/-- A `charge` at the moment finds something to pay, on every ledger that stores the
subscription as it is: the formula leaves a positive amount, the handler computes just this
amount where the age of the stream is an `i64`, and no charge is refused for lack of
unlocked funds. -/
structure Subscription.Due (sub : Subscription Pubkey) (moment : Int64) : Prop where
  claimable : 0 < sub.claimable moment
  computed : Checked.FitsI64 (moment.toInt - sub.streamStart.toInt) →
    ∃ unlocked amount, unlockedAt .mathOverflow sub moment = .ok unlocked ∧
      Checked.subU64 unlocked sub.withdrawnAmount = some amount ∧
      amount.toNat = sub.claimable moment
  accepted : ∀ ledger accounts,
    ledger.account accounts.subscription = some (.subscription sub) →
    charge ledger moment accounts ≠ .error (.nakama .insufficientUnlockedFunds)

section Due

variable {ledger : Ledger} {sub : Subscription Pubkey} {moment : Int64} {accounts : Charge}

private theorem chargeTail_avoids_insufficient :
    Avoids (· = .nakama .insufficientUnlockedFunds)
      (chargeTail ledger moment accounts sub) := by
  unfold chargeTail
  split
  next => simp [avoids_bind, avoids_map, avoids_okOr]
  next => simp [avoids_map, avoids_require]

theorem chargeHandler_avoids_insufficient (started : sub.streamStart.toInt ≤ moment.toInt)
    (period : 0 < sub.period.toInt) (positive : 0 < sub.claimable moment) :
    Avoids (· = .nakama .insufficientUnlockedFunds)
      (chargeHandler ledger moment accounts sub) := by
  refine avoids_bind.mpr ⟨avoids_require.mpr (by simp), ?_⟩
  intro _ _
  refine avoids_bind.mpr ⟨avoids_require.mpr (by simp), ?_⟩
  intro _ _
  refine avoids_bind.mpr ⟨avoids_require.mpr (by simp), ?_⟩
  intro _ _
  refine avoids_bind.mpr ⟨by simp [unlockedAt, avoids_bind, avoids_map, avoids_okOr], ?_⟩
  intro unlocked unlocking
  have unlockedEq := ((unlockedAt_eq_ok started period).mp unlocking).2
  refine avoids_bind.mpr ⟨avoids_okOr.mpr (by simp), ?_⟩
  intro claimable subtracted
  rw [okOr_eq_ok, Checked.subU64_eq_some] at subtracted
  refine avoids_bind.mpr ⟨avoids_require.mpr fun _ => ?_, ?_⟩
  · unfold Subscription.claimable at positive
    rw [UInt64.lt_iff_toNat_lt, UInt64.toNat_zero]
    omega
  intro _ _
  refine avoids_bind.mpr ⟨transfer_avoids_of ⟨by simp, by simp⟩ (by simp) (by simp), ?_⟩
  intro paid _
  refine avoids_bind.mpr ⟨avoids_okOr.mpr (by simp), ?_⟩
  intro withdrawn _
  refine avoids_bind.mpr ⟨by simp [nextChargeHint, avoids_bind, avoids_okOr], ?_⟩
  intro hint _
  exact avoids_bind.mpr ⟨chargeTail_avoids_insufficient, fun _ _ => avoids_pure⟩

theorem Subscription.Due.of_claimable (started : sub.streamStart.toInt ≤ moment.toInt)
    (period : 0 < sub.period.toInt) (positive : 0 < sub.claimable moment) :
    sub.Due moment := by
  constructor
  · exact positive
  · intro fits
    obtain ⟨unlocked, unlocking, unlockedEq⟩ :=
      exists_unlockedAt .mathOverflow started period fits
    unfold Subscription.claimable at positive ⊢
    obtain ⟨amount, subtracted⟩ := Checked.exists_subU64
      (by omega : sub.withdrawnAmount.toNat ≤ unlocked.toNat)
    have amountEq := Checked.subU64_eq_some.mp subtracted
    exact ⟨unlocked, amount, unlocking, subtracted, by omega⟩
  · intro ledger accounts loaded refused
    have avoids : Avoids (· = .nakama .insufficientUnlockedFunds)
        (charge ledger moment accounts) := by
      refine avoids_bind.mpr ⟨accounts.tryAccounts_avoids ⟨by simp, by simp⟩ (by simp)
        (by simp), ?_⟩
      intro found passed
      cases loaded.symm.trans (Charge.loaded_of_tryAccounts passed).1
      exact chargeHandler_avoids_insufficient started period positive
    exact avoids _ refused rfl

end Due

/-! ## The stored hint -/

/-- What a successful `charge` stores: all that was unlocked is withdrawn, and the hint is
the one of this amount. -/
structure Subscription.ChargedAt (sub : Subscription Pubkey) (now : Int64) : Prop where
  started : sub.streamStart.toInt ≤ now.toInt
  drawn : sub.withdrawnAmount.toNat = sub.unlockedBy now
  hinted : nextChargeHint sub sub.withdrawnAmount = .ok sub.nextChargeAt

theorem charge_stores {ledger : Ledger} {now : Int64} {accounts : Charge} {outcome : Outcome}
    (executed : charge ledger now accounts = .ok outcome) :
    ∃ next, outcome.ledger.account accounts.subscription = some (.subscription next) ∧
      next.ChargedAt now := by
  cases charge_effect executed with
  | charge _ _ _ _ _ started _ _ drawn _ _ hinted =>
      exact ⟨_, set_account_self _ _ _, started, drawn, hinted⟩
  | exhaust _ _ _ _ _ started _ _ drawn _ _ hinted =>
      exact ⟨_, set_account_self _ _ _, started, drawn, hinted⟩

namespace Subscription.ChargedAt

variable {sub : Subscription Pubkey} {now : Int64} (charged : sub.ChargedAt now)
  (period : 0 < sub.period.toInt) (rate : sub.period.toInt.toNat ≤ sub.price.toNat)

include charged period rate

theorem hint_eq : sub.nextChargeAt.toInt = sub.streamStart.toInt +
    sub.coveredSeconds sub.withdrawnAmount + sub.period.toInt :=
  ((nextChargeHint_eq_ok period (by omega)).mp charged.hinted).2

/-- The hint is not later than a period from now. -/
theorem hint_le : sub.nextChargeAt.toInt ≤ now.toInt + sub.period.toInt := by
  have started := charged.started
  have covered := sub.coveredSeconds_le (le_of_eq charged.drawn)
  have hint := charged.hint_eq period rate
  unfold secondsAt at covered
  omega

omit period rate in
/-- A charge that did not exhaust the deposit drew the whole accrual and left some of the
deposit. -/
theorem drawn_of_unfinished (unfinished : sub.withdrawnAmount ≠ sub.depositedAmount) :
    sub.withdrawnAmount.toNat = sub.accruedAt now ∧
      sub.withdrawnAmount.toNat < sub.depositedAmount.toNat := by
  have different : sub.withdrawnAmount.toNat ≠ sub.depositedAmount.toNat :=
    fun same => unfinished (UInt64.toNat_inj.mp same)
  have drawn : sub.withdrawnAmount.toNat =
    min (sub.accruedAt now) sub.depositedAmount.toNat := charged.drawn
  omega

/-- After such a charge the hint is at most a second earlier than a period from now. -/
theorem le_hint (unfinished : sub.withdrawnAmount ≠ sub.depositedAmount) :
    now.toInt + sub.period.toInt - 1 ≤ sub.nextChargeAt.toInt := by
  obtain ⟨drawn, _⟩ := charged.drawn_of_unfinished unfinished
  have inverse : sub.secondsAt now ≤ sub.coveredSeconds sub.withdrawnAmount + 1 := by
    unfold coveredSeconds
    rw [drawn]
    exact Accrual.le_covered_add_one (by omega) rate _
  have hint := charged.hint_eq period rate
  unfold secondsAt at inverse
  omega

/-- From the hint on a charge finds something to pay again. -/
theorem due (unfinished : sub.withdrawnAmount ≠ sub.depositedAmount) {later : Int64}
    (waited : sub.nextChargeAt.toInt ≤ later.toInt) : sub.Due later := by
  have hint := charged.hint_eq period rate
  have earned : sub.withdrawnAmount.toNat < sub.accruedAt later := by
    apply Accrual.lt_accrued_of_covered_add (by omega) (by omega)
    change sub.coveredSeconds sub.withdrawnAmount + _ ≤ sub.secondsAt later
    unfold secondsAt
    omega
  obtain ⟨_, left⟩ := charged.drawn_of_unfinished unfinished
  apply Due.of_claimable _ period
  · change 0 < min (sub.accruedAt later) sub.depositedAmount.toNat - _
    omega
  · omega

end Subscription.ChargedAt

/-- In every reachable chain, a successful `charge` stores a hint that inverts the unlock
formula to within a second: the end of the period after the seconds that the withdrawn
amount pays for, never later than a period from now and, unless the charge exhausted the
deposit, at most a second earlier.  From the hint on, as long as nothing else touches the
subscription, a charge finds something to pay. -/
theorem hint_inverts_unlock {chain : Chain} {now : Int64} {accounts : Charge}
    (reachable : machine.Reachable chain) (ordered : chain.clock.toInt ≤ now.toInt)
    (succeeds : chain.Succeeds ⟨now, .program (.charge accounts)⟩) :
    ∃ next,
      (chain.step ⟨now, .program (.charge accounts)⟩).ledger.account accounts.subscription =
        some (.subscription next) ∧
      next.period.toInt ≤ next.price.toNat ∧
      next.nextChargeAt.toInt = next.streamStart.toInt +
        next.withdrawnAmount.toNat * next.period.toInt / next.price.toNat +
          next.period.toInt ∧
      next.nextChargeAt.toInt ≤ now.toInt + next.period.toInt ∧
      (next.withdrawnAmount ≠ next.depositedAmount →
        now.toInt + next.period.toInt - 1 ≤ next.nextChargeAt.toInt ∧
        ∀ later : Int64, next.nextChargeAt.toInt ≤ later.toInt → next.Due later) := by
  obtain ⟨outcome, executed⟩ := succeeds
  obtain ⟨next, stored, charged⟩ := charge_stores executed
  have nextAt : (chain.step ⟨now, .program (.charge accounts)⟩).ledger.account
      accounts.subscription = some (.subscription next) := by
    rw [Chain.step_of_ok executed]
    exact stored
  have reached : machine.Reachable (chain.step ⟨now, .program (.charge accounts)⟩) :=
    reachable.step ordered
  have wellFormed := (Chain.Invariant.of_reachable reached).wellFormed
  have period := wellFormed.sub_period nextAt
  have rate := wellFormed.sub_rate nextAt
  refine ⟨next, nextAt, by omega, ?_, charged.hint_le period rate, ?_⟩
  · rw [charged.hint_eq period rate, next.coveredSeconds_eq _ period]
  · intro unfinished
    exact ⟨charged.le_hint period rate unfinished,
      fun _ waited => charged.due period rate unfinished waited⟩

section Witness

open Sample

/-- A price of 15 units for 10 seconds, which is no whole number of units a second. -/
def unevenTxs : List Tx :=
  [⟨0, .program (.createPlan ⟨merchant, planKey, usdcMint, merchantAta⟩ 7 15 10)⟩,
    subscribeTx 0]

/-- A charge after one second takes one unit, which pays for no whole second: the keeper is
told to come back at second 10, and finds something to pay. -/
theorem hint_inverts_unlock_uneven :
    ∃ next, ((machine.run genesis unevenTxs).step (chargeTx 1 none)).ledger.account subKey =
        some (.subscription next) ∧
      next.nextChargeAt = 10 ∧ next.Due 10 := by
  have reachable : machine.Reachable (machine.run genesis unevenTxs) :=
    ⟨genesis, _, genesis_isGenesis, allowsRun_of_clocks (by decide), rfl⟩
  obtain ⟨next, nextAt, _, _, _, healthy⟩ := @hint_inverts_unlock _ 1
    ⟨subKey, planKey, .vault subKey, merchantAta, stranger, none⟩ reachable
    (by decide +kernel) (by decide +kernel)
  have fields : (((machine.run genesis unevenTxs).step (chargeTx 1 none)).view
      subKey).subscription.map (fun next => (next.nextChargeAt, next.withdrawnAmount,
        next.depositedAmount)) = some (10, 1, 30) := by
    decide +kernel
  rw [show (((machine.run genesis unevenTxs).step (chargeTx 1 none)).view
      subKey).subscription = some next from view_subscription.mpr nextAt, Option.map_some,
    Option.some.injEq, Prod.mk.injEq, Prod.mk.injEq] at fields
  obtain ⟨hint, withdrawn, deposited⟩ := fields
  have unfinished : next.withdrawnAmount ≠ next.depositedAmount := by
    rw [withdrawn, deposited]
    decide
  exact ⟨next, nextAt, hint, (healthy unfinished).2 10 (by rw [hint])⟩

end Witness

end Nakama
