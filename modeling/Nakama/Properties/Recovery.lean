import Nakama.Properties.Drain

/-!
# Recovery from grace

A `top_up` in grace moves the stream anchor by the time since `entered_grace_at`.  That
is the moment of the exhausting charge, not the one at which the deposit ran out, so what
the stream earned beyond its deposit before a late charge is claimable again at once.
-/

namespace Nakama

/-- One second's worth of streaming, rounded up. -/
def Subscription.perSecond {Key : Type} (sub : Subscription Key) : Nat :=
  Accrual.perSecond sub.price.toNat sub.period.toInt.toNat

/-- Right after a recovery the merchant may take what the stream had earned beyond the old
deposit when it entered grace, up to the top-up. -/
theorem View.Drained.claimable_recovered {clock now : Int64} {view : View}
    {sub next : Subscription Pubkey} {graced : GracedSubscription Pubkey} {amount : Nat}
    (drained : view.Drained clock sub graced)
    (refilled : Refilled sub next amount (now.toInt - graced.enteredGraceAt.toInt)) :
    next.claimable now =
      min (sub.accruedAt graced.enteredGraceAt - sub.depositedAmount.toNat) amount := by
  have earned := drained.earned
  have age : now.toInt - sub.streamStart.toInt -
      (now.toInt - graced.enteredGraceAt.toInt) =
        graced.enteredGraceAt.toInt - sub.streamStart.toInt := by omega
  unfold Subscription.claimable
  rw [refilled.unlockedBy_eq, refilled.withdrawn, age]
  change min (sub.accruedAt graced.enteredGraceAt) _ - _ = _
  omega

/-- In every reachable chain a successful `top_up` in grace leaves at most one second's
worth claimable if and only if the stream had earned at most that much beyond its deposit
when the exhausting charge came, or the top-up is no larger. -/
theorem recovery_claimable_iff {chain : Chain} {subscriber planKey : Pubkey}
    {sub : Subscription Pubkey} {now : Int64} {accounts : TopUp} {amount : UInt64}
    (reachable : machine.Reachable chain) (ordered : chain.clock.toInt ≤ now.toInt)
    (loaded : chain.ledger.account (.sub subscriber planKey) = some (.subscription sub))
    (grace : sub.state = .gracePeriod)
    (target : accounts.subscription = .sub subscriber planKey)
    (succeeds : chain.Succeeds ⟨now, .program (.topUp accounts amount)⟩) :
    ∃ graced next,
      chain.ledger.account (.grace (.sub subscriber planKey)) = some (.graced graced) ∧
      (chain.step ⟨now, .program (.topUp accounts amount)⟩).ledger.account
        (.sub subscriber planKey) = some (.subscription next) ∧
      (next.claimable now ≤ next.perSecond ↔
        sub.accruedAt graced.enteredGraceAt ≤ sub.depositedAmount.toNat + sub.perSecond ∨
          amount.toNat ≤ sub.perSecond) := by
  have invariant := Chain.Invariant.of_reachable reachable
  have subAt : (chain.view (.sub subscriber planKey)).subscription = some sub :=
    Ledger.view_subscription.mpr loaded
  have sound := (invariant.sound subscriber planKey).advance ordered
  obtain ⟨graced, drained⟩ := sound.of_grace subAt grace
  obtain ⟨_, taken⟩ := @Chain.step_view _ subscriber planKey invariant.wellFormed _ succeeds
  obtain ⟨next, nextAt, terms, deposited, withdrawn, _, recovers⟩ :=
    taken.topUp_refills target subAt
  obtain ⟨active, shifted⟩ := recovers graced grace drained.satellite
  have refilled : Refilled sub next amount.toNat
      (now.toInt - graced.enteredGraceAt.toInt) :=
    ⟨active, terms, deposited, withdrawn.trans drained.spent, shifted⟩
  refine ⟨graced, next, Ledger.view_graced.mp drained.satellite,
    Ledger.view_subscription.mp nextAt, ?_⟩
  have sameRate : next.perSecond = sub.perSecond := by
    unfold Subscription.perSecond
    rw [show next.price = sub.price from congrArg Terms.price terms,
      show next.period = sub.period from congrArg Terms.period terms]
  rw [sameRate, drained.claimable_recovered refilled]
  omega

section Witness

open Sample

/-- The deposit of 200 runs dry at second 20, and the keeper charges right then. -/
def promptTxs : List Tx :=
  [createPlanTx, subscribeTx 0, chargeTx 20 (some (.grace subKey))]

/-- The same deposit, charged thirty seconds after it ran dry. -/
def lateTxs : List Tx :=
  [createPlanTx, subscribeTx 0, chargeTx 50 (some (.grace subKey))]

theorem recovery_claimable_iff_prompt :
    ∃ next, ((machine.run genesis promptTxs).step
        (topUpTx 60 (some (.grace subKey)) 100)).ledger.account subKey =
          some (.subscription next) ∧
      next.claimable 60 ≤ next.perSecond := by
  have reachable : machine.Reachable (machine.run genesis promptTxs) :=
    ⟨genesis, _, genesis_isGenesis, allowsRun_of_clocks (by decide), rfl⟩
  obtain ⟨sub, loaded, grace⟩ := @Chain.subscription_of_state (machine.run genesis promptTxs)
    subKey .gracePeriod (by decide +kernel)
  obtain ⟨graced, next, gracedAt, nextAt, exactly⟩ :=
    @recovery_claimable_iff _ subscriber.key planKey sub 60
      ⟨subscriber, subKey, some (.grace subKey), .vault subKey, subscriberAta⟩ 100 reachable
      (by decide +kernel) loaded grace rfl (by decide +kernel)
  have prompt : (((machine.run genesis promptTxs).view subKey).subscription.bind fun sub =>
      ((machine.run genesis promptTxs).view subKey).graced.map fun graced =>
        decide (sub.accruedAt graced.enteredGraceAt ≤
          sub.depositedAmount.toNat + sub.perSecond)) = some true := by
    decide +kernel
  rw [show ((machine.run genesis promptTxs).view subKey).subscription = some sub from
      Ledger.view_subscription.mpr loaded,
    show ((machine.run genesis promptTxs).view subKey).graced = some graced from
      Ledger.view_graced.mpr gracedAt] at prompt
  simp only [Option.bind_some, Option.map_some, Option.some.injEq, decide_eq_true_eq]
    at prompt
  exact ⟨next, nextAt, exactly.mpr (.inl prompt)⟩

/-- After a late charge the whole top-up of 100 is claimable at once, at a rate of 10. -/
theorem late_recovery_claimable :
    machine.Reachable (machine.run genesis lateTxs) ∧
      ((machine.run genesis lateTxs).view subKey).subscription.map (·.state) =
        some .gracePeriod ∧
      (machine.run genesis lateTxs).Succeeds (topUpTx 60 (some (.grace subKey)) 100) ∧
      (((machine.run genesis lateTxs).step
          (topUpTx 60 (some (.grace subKey)) 100)).view subKey).subscription.map
        (fun next => (next.claimable 60, next.perSecond)) = some (100, 10) := by
  refine ⟨⟨genesis, _, genesis_isGenesis, allowsRun_of_clocks (by decide), rfl⟩, ?_, ?_, ?_⟩
  · decide +kernel
  · decide +kernel
  · decide +kernel

end Witness

end Nakama
