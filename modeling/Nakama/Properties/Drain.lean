import Nakama.Refinement.Metering

/-!
# Who drains the escrow

`charge` and `settle_usage` both can take the last unit, but only `charge` moves the
subscription into grace, and only a recovery from grace shifts the stream anchor.  After
the same later `top_up` the two histories are the same stream, one of them delayed by
the time between the two.
-/

namespace Nakama

namespace Subscription

variable {Key : Type}

/-- What the merchant may take at a moment. -/
def claimable (sub : Subscription Key) (moment : Int64) : Nat :=
  sub.unlockedBy moment - sub.withdrawnAmount.toNat

/-- What a `cancel` of an active subscription pays back at a moment. -/
def refundable (sub : Subscription Key) (moment : Int64) : Nat :=
  sub.depositedAmount.toNat - sub.unlockedBy moment

end Subscription

/-- A subscription with the terms of another, further funded and anchored elsewhere. -/
structure Refilled (sub next : Subscription Pubkey) (added : Nat) (shift : Int) : Prop where
  active : next.state = .active
  terms : next.terms = sub.terms
  deposited : next.depositedAmount.toNat = sub.depositedAmount.toNat + added
  withdrawn : next.withdrawnAmount = sub.depositedAmount
  anchor : next.streamStart.toInt = sub.streamStart.toInt + shift

namespace View

variable {key : Pubkey} {now : Int64} {before after : View} {delta : Route → Nat}
  {sub : Subscription Pubkey}

theorem Step.cancel_pays {accounts : Cancel}
    (taken : View.Step key now (.program (.cancel accounts)) before after delta)
    (target : accounts.subscription = key) (subAt : before.subscription = some sub)
    (active : sub.state = .active) :
    delta = Pi.single .settlement (sub.claimable now) +
      Pi.single .refund (sub.refundable now) := by
  cases taken with
  | cancel _ _ found _ settles _ withdrawnEq unlocked refundEq =>
      rw [found, Option.some.injEq] at subAt
      subst subAt
      rw [active] at settles
      cases settles with
      | active =>
          unfold Subscription.claimable Subscription.refundable
          congr 2 <;> omega
  | other elsewhere =>
      simp [Action.subscription?, Instruction.subscription?, target] at elsewhere

/-- A `charge` that takes the last unit. -/
theorem Step.charge_drains {accounts : Charge}
    (taken : View.Step key now (.program (.charge accounts)) before after delta)
    (target : accounts.subscription = key) (subAt : before.subscription = some sub)
    (exhausted : sub.unlockedBy now = sub.depositedAmount.toNat) :
    ∃ next graced, after.subscription = some next ∧ after.graced = some graced ∧
      next.state = .gracePeriod ∧ graced.enteredGraceAt = now ∧ next.terms = sub.terms ∧
      next.depositedAmount = sub.depositedAmount ∧
      next.withdrawnAmount = sub.depositedAmount ∧ next.streamStart = sub.streamStart := by
  cases taken with
  | charge _ found _ _ _ _ unlocked _ healthy =>
      rw [found, Option.some.injEq] at subAt
      subst subAt
      refine (healthy ?_).elim
      rw [← UInt64.toNat_inj]
      omega
  | exhaust _ found =>
      rw [found, Option.some.injEq] at subAt
      subst subAt
      exact ⟨_, _, rfl, rfl, rfl, rfl, rfl, rfl, rfl, rfl⟩
  | other elsewhere =>
      simp [Action.subscription?, Instruction.subscription?, target] at elsewhere

theorem Step.settleUsage_drains {accounts : SettleUsage} {amount : UInt64}
    (taken : View.Step key now (.program (.settleUsage accounts amount)) before after delta)
    (target : accounts.parent = key) (subAt : before.subscription = some sub)
    (remaining : sub.withdrawnAmount.toNat + amount.toNat = sub.depositedAmount.toNat) :
    ∃ next, after.subscription = some next ∧ next.state = .active ∧
      next.terms = sub.terms ∧ next.depositedAmount = sub.depositedAmount ∧
      next.withdrawnAmount = sub.depositedAmount ∧ next.streamStart = sub.streamStart := by
  cases taken with
  | settleUsage _ _ found _ _ active _ withdrawnEq =>
      rw [found, Option.some.injEq] at subAt
      subst subAt
      refine ⟨_, rfl, active, rfl, rfl, ?_, rfl⟩
      rw [← UInt64.toNat_inj]
      simp only
      omega
  | other elsewhere =>
      simp [Action.subscription?, Instruction.subscription?, target] at elsewhere

/-- A `top_up` shifts the anchor only out of grace, by the time spent there. -/
theorem Step.topUp_refills {accounts : TopUp} {amount : UInt64}
    (taken : View.Step key now (.program (.topUp accounts amount)) before after delta)
    (target : accounts.subscription = key) (subAt : before.subscription = some sub) :
    ∃ next, after.subscription = some next ∧ next.terms = sub.terms ∧
      next.depositedAmount.toNat = sub.depositedAmount.toNat + amount.toNat ∧
      next.withdrawnAmount = sub.withdrawnAmount ∧
      (sub.state = .active → next.state = .active ∧ next.streamStart = sub.streamStart) ∧
      (∀ graced, sub.state = .gracePeriod → before.graced = some graced →
        next.state = .active ∧ next.streamStart.toInt =
          sub.streamStart.toInt + (now.toInt - graced.enteredGraceAt.toInt)) := by
  cases taken with
  | topUp _ _ found _ running _ depositedEq =>
      rw [found, Option.some.injEq] at subAt
      subst subAt
      refine ⟨_, rfl, rfl, depositedEq, rfl, fun active => ⟨active, rfl⟩, ?_⟩
      intro graced grace _
      rcases running with active | paused
      · rw [active] at grace
        cases grace
      · rw [paused] at grace
        cases grace
  | recover _ _ found _ gracedAt grace _ depositedEq _ _ shifted =>
      rw [found, Option.some.injEq] at subAt
      subst subAt
      refine ⟨_, rfl, rfl, depositedEq, rfl, ?_, ?_⟩
      · intro active
        rw [grace] at active
        cases active
      · intro graced _ satellite
        rw [gracedAt, Option.some.injEq] at satellite
        subst satellite
        exact ⟨rfl, shifted⟩
  | other elsewhere =>
      simp [Action.subscription?, Instruction.subscription?, target] at elsewhere

end View

namespace Refilled

variable {sub next : Subscription Pubkey} {added : Nat} {shift : Int}

theorem unlockedBy_eq (refilled : Refilled sub next added shift) (moment : Int64) :
    next.unlockedBy moment = Accrual.unlocked sub.price.toNat sub.period.toInt.toNat
      (sub.depositedAmount.toNat + added)
      (moment.toInt - sub.streamStart.toInt - shift).toNat := by
  have price : next.price = sub.price := congrArg Terms.price refilled.terms
  have period : next.period = sub.period := congrArg Terms.period refilled.terms
  unfold Subscription.unlockedBy Subscription.secondsAt
  rw [price, period, refilled.deposited, refilled.anchor, Int.sub_sub]

/-- What was earned when the old deposit was drained stays unlocked. -/
theorem covered (refilled : Refilled sub next added shift) {drained moment : Int64}
    (earned : sub.depositedAmount.toNat ≤ sub.accruedAt drained)
    (after : drained.toInt + shift ≤ moment.toInt) :
    sub.depositedAmount.toNat ≤ next.unlockedBy moment := by
  rw [refilled.unlockedBy_eq]
  refine le_min (le_trans earned (Accrual.accrued_mono ?_)) (Nat.le_add_right _ _)
  unfold Subscription.secondsAt
  omega

/-- Two refills of one subscription pay the same where they unlocked the same. -/
theorem pays_eq_iff {other : Subscription Pubkey} {otherShift : Int}
    (refilled : Refilled sub next added shift) (another : Refilled sub other added otherShift)
    {moment otherMoment : Int64}
    (covered : sub.depositedAmount.toNat ≤ next.unlockedBy moment)
    (otherCovered : sub.depositedAmount.toNat ≤ other.unlockedBy otherMoment) :
    (next.claimable moment = other.claimable otherMoment ∧
        next.refundable moment = other.refundable otherMoment) ↔
      next.unlockedBy moment = other.unlockedBy otherMoment := by
  have capped := next.unlockedBy_le_deposited moment
  have otherCapped := other.unlockedBy_le_deposited otherMoment
  have deposited := refilled.deposited
  have otherDeposited := another.deposited
  unfold Subscription.claimable Subscription.refundable
  rw [refilled.withdrawn, another.withdrawn]
  omega

section Wait

variable {other : Subscription Pubkey} {drained refilled : Int64}
  (waited : Refilled sub next added (refilled.toInt - drained.toInt))
  (unwaited : Refilled sub other added 0) (started : sub.streamStart.toInt ≤ drained.toInt)

include waited unwaited started

/-- At the moment of the refill the waiting seconds are unlocked in one history only. -/
theorem unlockedBy_lt (period : 0 < sub.period.toInt)
    (rate : sub.period.toInt.toNat ≤ sub.price.toNat)
    (waiting : drained.toInt < refilled.toInt)
    (unfinished : sub.accruedAt drained < sub.depositedAmount.toNat + added) :
    next.unlockedBy refilled < other.unlockedBy refilled := by
  have base : (refilled.toInt - sub.streamStart.toInt -
      (refilled.toInt - drained.toInt)).toNat = sub.secondsAt drained := by
    unfold Subscription.secondsAt
    omega
  have ahead : (refilled.toInt - sub.streamStart.toInt - 0).toNat =
      sub.secondsAt drained + (refilled.toInt - drained.toInt).toNat := by
    unfold Subscription.secondsAt
    omega
  rw [waited.unlockedBy_eq, unwaited.unlockedBy_eq, base, ahead]
  exact Accrual.unlocked_lt_of_delay (by omega) rate (by omega) unfinished

/-- A refill that was already earned is unlocked at once in both. -/
theorem unlockedBy_eq_of_finished
    (finished : sub.depositedAmount.toNat + added ≤ sub.accruedAt drained) {moment : Int64}
    (later : drained.toInt ≤ refilled.toInt) (after : refilled.toInt ≤ moment.toInt) :
    next.unlockedBy moment = other.unlockedBy moment := by
  have behind : (moment.toInt - sub.streamStart.toInt -
      (refilled.toInt - drained.toInt)).toNat =
        sub.secondsAt drained + (moment.toInt - refilled.toInt).toNat := by
    unfold Subscription.secondsAt
    omega
  have ahead : (moment.toInt - sub.streamStart.toInt - 0).toNat =
      sub.secondsAt drained + (moment.toInt - drained.toInt).toNat := by
    unfold Subscription.secondsAt
    omega
  rw [waited.unlockedBy_eq, unwaited.unlockedBy_eq, behind, ahead,
    Accrual.unlocked_add_of_deposited_le finished, Accrual.unlocked_add_of_deposited_le finished]

end Wait

end Refilled

namespace Chain

variable {chain : Chain} {subscriber planKey : Pubkey} {sub : Subscription Pubkey}
  {drained refilled : Int64} {topUpAccounts : TopUp} {added : UInt64}

section Histories

variable (invariant : chain.Invariant)
  (loaded : chain.ledger.account (.sub subscriber planKey) = some (.subscription sub))
  (ordered : chain.clock.toInt ≤ drained.toInt)

include invariant loaded ordered

/-- Drained by `charge`, the subscription waits in grace for the `top_up`. -/
theorem Invariant.refilled_after_charge {accounts : Charge}
    (target : accounts.subscription = .sub subscriber planKey)
    (topUpTarget : topUpAccounts.subscription = .sub subscriber planKey)
    (exhausted : sub.unlockedBy drained = sub.depositedAmount.toNat)
    (charged : chain.Succeeds ⟨drained, .program (.charge accounts)⟩)
    (toppedUp : (chain.step ⟨drained, .program (.charge accounts)⟩).Succeeds
      ⟨refilled, .program (.topUp topUpAccounts added)⟩) :
    ∃ next, ((machine.run chain [⟨drained, .program (.charge accounts)⟩,
        ⟨refilled, .program (.topUp topUpAccounts added)⟩]).view
          (.sub subscriber planKey)).subscription = some next ∧
      Refilled sub next added.toNat (refilled.toInt - drained.toInt) := by
  have subAt : (chain.view (.sub subscriber planKey)).subscription = some sub :=
    Ledger.view_subscription.mpr loaded
  have later : (chain.step ⟨drained, .program (.charge accounts)⟩).Invariant :=
    invariant.step ordered
  obtain ⟨_, taken⟩ := step_view invariant.wellFormed charged
  obtain ⟨empty, graced, emptyAt, gracedAt, grace, entered, terms, deposited, withdrawn,
    anchor⟩ := taken.charge_drains target subAt exhausted
  obtain ⟨_, taken⟩ := step_view later.wellFormed toppedUp
  obtain ⟨next, nextAt, nextTerms, nextDeposited, nextWithdrawn, _, recovers⟩ :=
    taken.topUp_refills topUpTarget emptyAt
  obtain ⟨active, shifted⟩ := recovers graced grace gracedAt
  refine ⟨next, nextAt, active, nextTerms.trans terms, ?_, nextWithdrawn.trans withdrawn, ?_⟩
  · rw [nextDeposited, deposited]
  · rw [shifted, anchor, entered]

/-- Drained by `settle_usage`, the subscription stays active. -/
theorem Invariant.refilled_after_settleUsage {accounts : SettleUsage} {amount : UInt64}
    (target : accounts.parent = .sub subscriber planKey)
    (topUpTarget : topUpAccounts.subscription = .sub subscriber planKey)
    (remaining : sub.withdrawnAmount.toNat + amount.toNat = sub.depositedAmount.toNat)
    (settled : chain.Succeeds ⟨drained, .program (.settleUsage accounts amount)⟩)
    (toppedUp : (chain.step ⟨drained, .program (.settleUsage accounts amount)⟩).Succeeds
      ⟨refilled, .program (.topUp topUpAccounts added)⟩) :
    ∃ next, ((machine.run chain [⟨drained, .program (.settleUsage accounts amount)⟩,
        ⟨refilled, .program (.topUp topUpAccounts added)⟩]).view
          (.sub subscriber planKey)).subscription = some next ∧
      Refilled sub next added.toNat 0 := by
  have subAt : (chain.view (.sub subscriber planKey)).subscription = some sub :=
    Ledger.view_subscription.mpr loaded
  have later : (chain.step ⟨drained, .program (.settleUsage accounts amount)⟩).Invariant :=
    invariant.step ordered
  obtain ⟨_, taken⟩ := step_view invariant.wellFormed settled
  obtain ⟨empty, emptyAt, active, terms, deposited, withdrawn, anchor⟩ :=
    taken.settleUsage_drains target subAt remaining
  obtain ⟨_, taken⟩ := step_view later.wellFormed toppedUp
  obtain ⟨next, nextAt, nextTerms, nextDeposited, nextWithdrawn, stays, _⟩ :=
    taken.topUp_refills topUpTarget emptyAt
  obtain ⟨nextActive, sameAnchor⟩ := stays active
  refine ⟨next, nextAt, nextActive, nextTerms.trans terms, ?_, nextWithdrawn.trans withdrawn,
    ?_⟩
  · rw [nextDeposited, deposited]
  · rw [sameAnchor, anchor, add_zero]

end Histories

theorem cancel_pays (wellFormed : chain.ledger.WellFormed)
    (subAt : (chain.view (.sub subscriber planKey)).subscription = some sub)
    (active : sub.state = .active) {moment : Int64} {accounts : Cancel} {outcome : Outcome}
    (target : accounts.subscription = .sub subscriber planKey)
    (executed : cancel chain.ledger moment accounts = .ok outcome) :
    volume (.vault (.sub subscriber planKey)) outcome.transfers =
      Pi.single .settlement (sub.claimable moment) +
        Pi.single .refund (sub.refundable moment) := by
  have taken : View.Step (.sub subscriber planKey) moment (.program (.cancel accounts))
      (chain.view (.sub subscriber planKey)) (outcome.ledger.view (.sub subscriber planKey))
      (volume (.vault (.sub subscriber planKey)) outcome.transfers) :=
    action_view_step wellFormed executed
  exact taken.cancel_pays target subAt active

end Chain

/-- Drained at `drained` by `charge` or by `settle_usage`, and refilled by the same
`top_up` at `refilled`: what a merchant can take and what a `cancel` pays back is, after
the `charge`, what it was after the `settle_usage` as long before as the wait between the
two moments.  The two histories pay the same at every later moment exactly when there was
no wait or the stream had already earned the refill. -/
theorem drain_delay {chain : Chain} {subscriber planKey : Pubkey}
    {sub : Subscription Pubkey} {drained refilled : Int64} {chargeAccounts : Charge}
    {settleAccounts : SettleUsage} {topUpAccounts : TopUp} {amount added : UInt64}
    (reachable : machine.Reachable chain)
    (loaded : chain.ledger.account (.sub subscriber planKey) = some (.subscription sub))
    (active : sub.state = .active) (ordered : chain.clock.toInt ≤ drained.toInt)
    (later : drained.toInt ≤ refilled.toInt)
    (exhausted : sub.unlockedBy drained = sub.depositedAmount.toNat)
    (remaining : sub.withdrawnAmount.toNat + amount.toNat = sub.depositedAmount.toNat)
    (chargeTarget : chargeAccounts.subscription = .sub subscriber planKey)
    (settleTarget : settleAccounts.parent = .sub subscriber planKey)
    (topUpTarget : topUpAccounts.subscription = .sub subscriber planKey)
    (charged : chain.Succeeds ⟨drained, .program (.charge chargeAccounts)⟩)
    (recovered : (chain.step ⟨drained, .program (.charge chargeAccounts)⟩).Succeeds
      ⟨refilled, .program (.topUp topUpAccounts added)⟩)
    (settled : chain.Succeeds ⟨drained, .program (.settleUsage settleAccounts amount)⟩)
    (toppedUp : (chain.step ⟨drained, .program (.settleUsage settleAccounts amount)⟩).Succeeds
      ⟨refilled, .program (.topUp { topUpAccounts with gracedSubscription := none } added)⟩)
    {charging settling : Chain}
    (chargingEq : charging = machine.run chain
      [⟨drained, .program (.charge chargeAccounts)⟩,
        ⟨refilled, .program (.topUp topUpAccounts added)⟩])
    (settlingEq : settling = machine.run chain
      [⟨drained, .program (.settleUsage settleAccounts amount)⟩,
        ⟨refilled, .program (.topUp { topUpAccounts with gracedSubscription := none }
          added)⟩]) :
    ∃ first second : Subscription Pubkey,
      charging.ledger.account (.sub subscriber planKey) = some (.subscription first) ∧
      settling.ledger.account (.sub subscriber planKey) = some (.subscription second) ∧
      (∀ moment accounts outcome, accounts.subscription = .sub subscriber planKey →
        cancel charging.ledger moment accounts = .ok outcome →
        volume (.vault (.sub subscriber planKey)) outcome.transfers =
          Pi.single .settlement (first.claimable moment) +
            Pi.single .refund (first.refundable moment)) ∧
      (∀ moment accounts outcome, accounts.subscription = .sub subscriber planKey →
        cancel settling.ledger moment accounts = .ok outcome →
        volume (.vault (.sub subscriber planKey)) outcome.transfers =
          Pi.single .settlement (second.claimable moment) +
            Pi.single .refund (second.refundable moment)) ∧
      (∀ moment earlier : Int64, refilled.toInt ≤ moment.toInt →
        earlier.toInt = moment.toInt - (refilled.toInt - drained.toInt) →
        first.claimable moment = second.claimable earlier ∧
          first.refundable moment = second.refundable earlier) ∧
      ((∀ moment : Int64, refilled.toInt ≤ moment.toInt →
          first.claimable moment = second.claimable moment ∧
            first.refundable moment = second.refundable moment) ↔
        refilled = drained ∨
          sub.depositedAmount.toNat + added.toNat ≤ sub.accruedAt drained) := by
  have invariant := Chain.Invariant.of_reachable reachable
  obtain ⟨first, firstAt, firstRefilled⟩ := invariant.refilled_after_charge loaded ordered
    chargeTarget topUpTarget exhausted charged recovered
  have plainTarget : ({ topUpAccounts with gracedSubscription := none } : TopUp).subscription =
      .sub subscriber planKey := topUpTarget
  obtain ⟨second, secondAt, secondRefilled⟩ := invariant.refilled_after_settleUsage loaded
    ordered settleTarget plainTarget remaining settled toppedUp
  rw [← chargingEq] at firstAt
  rw [← settlingEq] at secondAt
  have formed : ∀ first second : Tx, first.now = drained → second.now = refilled →
      (machine.run chain [first, second]).ledger.WellFormed := by
    intro first second firstNow secondNow
    have allowed : machine.AllowsRun chain [first, second] := by
      apply allowsRun_of_clocks
      simp only [List.map_cons, List.map_nil, firstNow, secondNow, List.pairwise_cons,
        List.mem_cons, List.not_mem_nil, or_false, forall_eq_or_imp, forall_eq]
      exact ⟨⟨ordered, le_trans ordered later⟩, later, by simp⟩
    exact (Chain.Invariant.of_reachable (reachable.run allowed)).wellFormed
  have period := invariant.wellFormed.sub_period loaded
  have rate := invariant.wellFormed.sub_rate loaded
  have started : sub.streamStart.toInt ≤ drained.toInt :=
    le_trans ((invariant.sound subscriber planKey).of_active
      (Ledger.view_subscription.mpr loaded) active).started ordered
  -- Both streams had earned the old deposit when it was drained.
  have earned : sub.depositedAmount.toNat ≤ sub.accruedAt drained := by
    rw [← exhausted]
    exact sub.unlockedBy_le_accruedAt drained
  refine ⟨first, second, Ledger.view_subscription.mp firstAt,
    Ledger.view_subscription.mp secondAt, ?_, ?_, ?_, ?_⟩
  · intro moment accounts outcome target executed
    apply Chain.cancel_pays _ firstAt firstRefilled.active target executed
    rw [chargingEq]
    exact formed _ _ rfl rfl
  · intro moment accounts outcome target executed
    apply Chain.cancel_pays _ secondAt secondRefilled.active target executed
    rw [settlingEq]
    exact formed _ _ rfl rfl
  · intro moment earlier after delayed
    apply (firstRefilled.pays_eq_iff secondRefilled
      (firstRefilled.covered earned (by omega)) (secondRefilled.covered earned (by omega))).mpr
    rw [firstRefilled.unlockedBy_eq, secondRefilled.unlockedBy_eq]
    congr 2
    omega
  · have pays : ∀ moment : Int64, refilled.toInt ≤ moment.toInt →
        ((first.claimable moment = second.claimable moment ∧
          first.refundable moment = second.refundable moment) ↔
          first.unlockedBy moment = second.unlockedBy moment) := by
      intro moment after
      exact firstRefilled.pays_eq_iff secondRefilled
        (firstRefilled.covered earned (by omega)) (secondRefilled.covered earned (by omega))
    constructor
    · intro same
      by_contra different
      rw [not_or, not_le] at different
      obtain ⟨waited, unfinished⟩ := different
      have waiting : drained.toInt < refilled.toInt := by
        refine lt_of_le_of_ne later fun equal => waited ?_
        exact Int64.toInt_inj.mp equal.symm
      have equal := (pays refilled (le_refl _)).mp (same refilled (le_refl _))
      have less := firstRefilled.unlockedBy_lt secondRefilled started period rate waiting
        unfinished
      exact absurd equal (ne_of_lt less)
    · intro harmless moment after
      apply (pays moment after).mpr
      rcases harmless with rfl | finished
      · rw [firstRefilled.unlockedBy_eq, secondRefilled.unlockedBy_eq]
        simp
      · exact firstRefilled.unlockedBy_eq_of_finished secondRefilled started finished later after

section Witness

open Sample

/-- A stream of 100 units every 10 seconds, with 200 deposited and a session open. -/
def meteredTxs : List Tx :=
  [createPlanTx, subscribeTx 0, openSessionTx 1]

private theorem metered_reachable : machine.Reachable (machine.run genesis meteredTxs) :=
  ⟨genesis, _, genesis_isGenesis, allowsRun_of_clocks (by decide), rfl⟩

/-- Drained at 20 and refilled at 25: at 30 the history with the `charge` is where the
other one was at 25. -/
theorem drain_delay_metered :
    ∃ first second : Subscription Pubkey,
      (machine.run (machine.run genesis meteredTxs) [chargeTx 20 (some (.grace subKey)),
        topUpTx 25 (some (.grace subKey)) 100]).ledger.account subKey =
          some (.subscription first) ∧
      (machine.run (machine.run genesis meteredTxs) [settleUsageTx 20 200,
        topUpTx 25 none 100]).ledger.account subKey = some (.subscription second) ∧
      first.claimable 30 = second.claimable 25 ∧
      first.refundable 30 = second.refundable 25 := by
  have fields : ((machine.run genesis meteredTxs).view subKey).subscription.map (fun sub =>
      (sub.state, sub.unlockedBy 20, sub.depositedAmount, sub.withdrawnAmount)) =
        some (.active, 200, 200, 0) := by
    decide +kernel
  obtain ⟨sub, subAt, fieldsEq⟩ := Option.map_eq_some_iff.mp fields
  simp only [Prod.mk.injEq] at fieldsEq
  obtain ⟨active, unlocked, deposited, withdrawn⟩ := fieldsEq
  obtain ⟨first, second, firstAt, secondAt, _, _, delayed, _⟩ := @drain_delay
    (machine.run genesis meteredTxs) subscriber.key planKey sub 20 25 _ _ _ 200 100
    metered_reachable (Ledger.view_subscription.mp subAt) active (by decide +kernel)
    (by decide) (by rw [unlocked, deposited]; rfl) (by rw [withdrawn, deposited]; rfl)
    rfl rfl rfl
    (by decide +kernel : (machine.run genesis meteredTxs).Succeeds
      (chargeTx 20 (some (.grace subKey))))
    (by decide +kernel : ((machine.run genesis meteredTxs).step
      (chargeTx 20 (some (.grace subKey)))).Succeeds (topUpTx 25 (some (.grace subKey)) 100))
    (by decide +kernel : (machine.run genesis meteredTxs).Succeeds (settleUsageTx 20 200))
    (by decide +kernel : ((machine.run genesis meteredTxs).step
      (settleUsageTx 20 200)).Succeeds (topUpTx 25 none 100))
    _ _ rfl rfl
  obtain ⟨sameClaim, sameRefund⟩ := delayed 30 25 (by decide) (by decide)
  exact ⟨first, second, firstAt, secondAt, sameClaim, sameRefund⟩

/-- At 20 all of the 200 deposited units are unlocked and none is withdrawn.  Drained then
and refilled with 100 units at 25, the same `cancel` at 25 pays back all of them after the
`charge`, and half of them after the `settle_usage`. -/
theorem drain_histories_differ :
    machine.Reachable (machine.run genesis meteredTxs) ∧
    ((machine.run genesis meteredTxs).view subKey).subscription.map (fun sub =>
      (sub.state, sub.unlockedBy 20, sub.depositedAmount, sub.claimable 20)) =
        some (.active, 200, 200, 200) ∧
    (machine.run genesis (meteredTxs ++ [chargeTx 20 (some (.grace subKey)),
        topUpTx 25 (some (.grace subKey)) 100, cancelTx 25 none none])).log.length = 6 ∧
    (machine.run genesis (meteredTxs ++ [settleUsageTx 20 200, topUpTx 25 none 100,
        cancelTx 25 none none])).log.length = 6 ∧
    (machine.run genesis (meteredTxs ++ [chargeTx 20 (some (.grace subKey)),
        topUpTx 25 (some (.grace subKey)) 100, cancelTx 25 none none])).moved subKey .refund =
      100 ∧
    (machine.run genesis (meteredTxs ++ [settleUsageTx 20 200, topUpTx 25 none 100,
        cancelTx 25 none none])).moved subKey .refund = 50 := by
  refine ⟨metered_reachable, ?_⟩
  decide +kernel

end Witness

end Nakama
