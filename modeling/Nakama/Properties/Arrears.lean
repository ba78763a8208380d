import Nakama.Properties.Hint

/-!
# What a punctual keeper can miss

The stored hint goes stale: sessions draw on the stream without touching it, and a pause or
a grace recovery moves the anchor.  None of this lets more than one period's price become
overdue before the hint.
-/

namespace Nakama

open Guard Ledger

namespace Subscription

/-- The hint is the one that `charge` computes. -/
def Hinted (sub : Subscription Pubkey) : Prop :=
  sub.nextChargeAt.toInt =
    sub.streamStart.toInt + sub.coveredSeconds sub.withdrawnAmount + sub.period.toInt

/-- Up to the hint at most one price is earned beyond what was withdrawn. -/
def Timely (sub : Subscription Pubkey) : Prop :=
  sub.accruedAt sub.nextChargeAt ≤ sub.withdrawnAmount.toNat + sub.price.toNat

variable {sub next : Subscription Pubkey}

theorem Hinted.timely (hinted : sub.Hinted) (period : 0 < sub.period.toInt) : sub.Timely := by
  have seconds : sub.secondsAt sub.nextChargeAt =
      sub.coveredSeconds sub.withdrawnAmount + sub.period.toInt.toNat := by
    unfold Hinted at hinted
    unfold secondsAt
    omega
  unfold Timely accruedAt
  rw [seconds]
  exact Accrual.accrued_covered_add_le _

theorem Timely.mono (timely : sub.Timely) (price : next.price = sub.price)
    (period : next.period = sub.period) (hint : next.nextChargeAt = sub.nextChargeAt)
    (anchor : sub.streamStart.toInt ≤ next.streamStart.toInt)
    (withdrawn : sub.withdrawnAmount.toNat ≤ next.withdrawnAmount.toNat) : next.Timely := by
  have fewer : next.secondsAt sub.nextChargeAt ≤ sub.secondsAt sub.nextChargeAt := by
    unfold secondsAt
    omega
  have earned := @Accrual.accrued_mono sub.price.toNat sub.period.toInt.toNat _ _ fewer
  unfold Timely accruedAt at timely ⊢
  rw [price, period, hint]
  omega

end Subscription

/-- The instructions that compute the hint, and what they leave. -/
def View.Rehinted (after : View) : Instruction → Prop
  | .subscribe .. | .charge .. => ∀ sub ∈ after.subscription, sub.Hinted
  | _ => True

theorem instruction_rehinted {ledger : Ledger} {now : Int64} {outcome : Outcome}
    (wellFormed : outcome.ledger.WellFormed) {instruction : Instruction} {key : Pubkey}
    (executed : instruction.execute ledger now = .ok outcome)
    (target : instruction.subscription? = some key) :
    (outcome.ledger.view key).Rehinted instruction := by
  cases instruction with
  | subscribe accounts periodsToPrefund =>
      cases target
      cases subscribe_effect executed with
      | subscribe _ _ _ _ _ _ _ _ _ _ _ _ _ _ hint =>
          intro sub subAt
          rw [view_subscription.mpr (set_account_self _ _ _), Option.mem_some_iff] at subAt
          subst subAt
          simpa [Subscription.Hinted, Subscription.coveredSeconds, Subscribe.newSubscription]
            using hint
  | charge accounts =>
      cases target
      obtain ⟨next, stored, charged⟩ := charge_stores executed
      intro sub subAt
      rw [view_subscription.mpr stored, Option.mem_some_iff] at subAt
      subst subAt
      have period := wellFormed.sub_period stored
      have rate := wellFormed.sub_rate stored
      exact charged.hint_eq period rate
  | _ => trivial

theorem View.Step.timely {key : Pubkey} {now : Int64} {action : Action}
    {before after : View} {delta : Route → Nat}
    (taken : View.Step key now action before after delta)
    (rehinted : ∀ instruction, action = .program instruction →
      instruction.subscription? = some key → after.Rehinted instruction)
    (period : ∀ sub ∈ after.subscription, 0 < sub.period.toInt)
    (timely : ∀ sub ∈ before.subscription, sub.Timely) :
    ∀ sub ∈ after.subscription, sub.Timely := by
  intro next nextAt
  cases taken with
  | subscribe target =>
      exact (rehinted _ rfl (congrArg some target) next nextAt).timely (period next nextAt)
  | charge target =>
      exact (rehinted _ rfl (congrArg some target) next nextAt).timely (period next nextAt)
  | exhaust target =>
      exact (rehinted _ rfl (congrArg some target) next nextAt).timely (period next nextAt)
  | settleUsage _ _ subAt _ _ _ _ drawn =>
      cases nextAt
      exact (timely _ subAt).mono rfl rfl rfl (le_refl _) (by dsimp only; omega)
  | topUp _ _ subAt =>
      cases nextAt
      exact (timely _ subAt).mono rfl rfl rfl (le_refl _) (le_refl _)
  | recover _ _ subAt _ _ _ _ _ _ entered shifted =>
      cases nextAt
      exact (timely _ subAt).mono rfl rfl rfl (by dsimp only; omega) (le_refl _)
  | pause _ _ subAt =>
      cases nextAt
      exact (timely _ subAt).mono rfl rfl rfl (le_refl _) (le_refl _)
  | resume _ _ subAt _ _ ordered shifted =>
      cases nextAt
      exact (timely _ subAt).mono rfl rfl rfl (by dsimp only; omega) (le_refl _)
  | cancel _ _ subAt _ _ _ drawn =>
      cases nextAt
      exact (timely _ subAt).mono rfl rfl rfl (le_refl _) (by dsimp only; omega)
  | cleanup => cases nextAt
  | _ => exact timely next nextAt

namespace Chain

variable {chain : Chain} {subscriber planKey : Pubkey}

theorem timely_of_reachable (reachable : machine.Reachable chain) :
    ∀ sub ∈ (chain.view (.sub subscriber planKey)).subscription, sub.Timely := by
  apply reachable.strengthen fun _ => Invariant.of_reachable
  · intro start genesis sub subAt
    rw [genesis.view_eq] at subAt
    cases subAt
  · intro before tx invariant timely ordered
    have wellFormed := (invariant.step ordered).wellFormed
    rcases @step_cases before subscriber planKey invariant.wellFormed tx with
      ⟨_, unchanged⟩ | ⟨outcome, executed, stepped, taken⟩
    · rw [show machine.step before tx = _ from unchanged]
      exact timely
    · refine taken.timely ?_ ?_ timely
      · rintro instruction action target
        rw [stepped] at wellFormed ⊢
        obtain ⟨now, _⟩ := tx
        cases action
        exact instruction_rehinted wellFormed executed target
      · intro sub subAt
        exact wellFormed.sub_period (view_subscription.mp subAt)

end Chain

/-- In every reachable chain and at every moment up to the stored hint, at most one period's
price has unlocked and not been withdrawn: a keeper that comes back by the hint never leaves
the merchant more than one period behind, whatever sessions, pauses and grace recoveries
happened since the hint was stored. -/
theorem arrears_within_price {chain : Chain} (reachable : machine.Reachable chain)
    {subscriber planKey : Pubkey} {sub : Subscription Pubkey}
    (stored : chain.ledger.account (.sub subscriber planKey) = some (.subscription sub))
    {now : Int64} (punctual : now.toInt ≤ sub.nextChargeAt.toInt) :
    sub.claimable now ≤ sub.price.toNat := by
  have timely := Chain.timely_of_reachable reachable sub (view_subscription.mpr stored)
  have unlocked := sub.unlockedBy_le_accruedAt now
  have accrued := sub.accruedAt_mono punctual
  unfold Subscription.Timely at timely
  unfold Subscription.claimable
  omega

open Sample in
/-- A session draws and a pause shifts the anchor after the charge that stored the hint; at
the hint the merchant is 20 units behind, not 100. -/
def staleTxs : List Tx :=
  [createPlanTx, subscribeTx 0, chargeTx 5 none, openSessionTx 5, settleUsageTx 8 30,
    pauseTx 8, resumeTx 13]

open Sample in
theorem arrears_within_price_stale :
    ∃ sub, (machine.run genesis staleTxs).ledger.account subKey = some (.subscription sub) ∧
      sub.nextChargeAt = 15 ∧ sub.claimable 15 = 20 ∧
      sub.claimable 15 ≤ sub.price.toNat := by
  have reachable : machine.Reachable (machine.run genesis staleTxs) :=
    ⟨genesis, _, genesis_isGenesis, allowsRun_of_clocks (by decide), rfl⟩
  obtain ⟨sub, subAt, fields⟩ := Option.map_eq_some_iff.mp
    (show ((machine.run genesis staleTxs).view subKey).subscription.map
      (fun sub => (sub.nextChargeAt, sub.claimable 15)) = some (15, 20) by decide +kernel)
  obtain ⟨hint, behind⟩ := Prod.mk.inj fields
  have stored := view_subscription.mp subAt
  exact ⟨sub, stored, hint, behind, arrears_within_price reachable stored (by rw [hint])⟩

end Nakama
