import Nakama.Client.Status
import Nakama.Refinement.Availability
import Nakama.Refinement.Faults

/-!
# The keeper's prediction

A keeper derives the claimable amount off chain and attaches the grace satellite to
`charge` exactly when that amount exhausts the deposit.  The prediction decides what the
handler does.
-/

namespace Nakama

open Guard Ledger

/-- The claimable amount in a status. -/
def Rust.ComputedStatus.claimable? : Rust.ComputedStatus → Option UInt64
  | .active _ claimable | .activeLowFunds _ claimable _ => some claimable
  | _ => none

/-- The accounts that belong to a charge of this subscription, whatever is in the grace
slot: its plan, its vault, and a payee account that is alive. -/
structure Charge.Right (accounts : Charge) (ledger : Ledger) (sub : Subscription Pubkey) :
    Prop where
  subscription : ledger.account accounts.subscription = some (.subscription sub)
  plan : accounts.plan = sub.plan
  vault : accounts.vault = .vault accounts.subscription
  merchantAta : accounts.merchantAta = sub.merchantAta
  merchantToken : ∃ token, ledger.account accounts.merchantAta = some (.token token) ∧
    token.mint = sub.tokenMint

/-- The same accounts with another grace slot. -/
def Charge.attach (accounts : Charge) (slot : Option Pubkey) : Charge :=
  { accounts with gracedSubscription := slot }

/-- The status of an active subscription reports its unlocked units less the withdrawn
ones. -/
theorem reported_claimable {sub : Subscription Pubkey} {now : Int64}
    {graced : Option (GracedSubscriptionView Pubkey)} {claimable : UInt64}
    (period : 0 < sub.period.toInt)
    (age : Checked.FitsI64 (now.toInt - sub.streamStart.toInt)) (active : sub.state = .active)
    (reported : (Rust.deriveStatus sub.seen graced now).claimable? = some claimable) :
    claimable.toNat = sub.unlockedBy now - sub.withdrawnAmount.toNat := by
  have exact := @Rust.toNat_claimable _ sub.seen now period
  have seconds : min (sub.seen.secondsAt now) (2 ^ 63 - 1) = sub.secondsAt now := by
    change min (sub.secondsAt now) (2 ^ 63 - 1) = sub.secondsAt now
    unfold Subscription.secondsAt
    obtain ⟨_, upper⟩ := age
    omega
  rw [seconds] at exact
  have state := sub.seen_stateByte
  rw [active] at state
  unfold Rust.deriveStatus at reported
  rw [state] at reported
  change (Rust.activeOrLowFunds sub.seen now).claimable? = some claimable at reported
  unfold Rust.activeOrLowFunds at reported
  split at reported
  next =>
    cases reported
    exact exact
  next =>
    cases reported
    exact exact

section Handler

variable {ledger : Ledger} {now : Int64} {accounts : Charge} {sub : Subscription Pubkey}

/-- The right accounts pass validation with an empty slot, and with the derived satellite
while it does not exist. -/
theorem Charge.Right.passes (right : accounts.Right ledger sub)
    (wellFormed : ledger.WellFormed) {vault : TokenAccount}
    (vaultAt : ledger.account (.vault accounts.subscription) = some (.token vault))
    (vacant : ledger.account (.grace accounts.subscription) = none)
    (slot : accounts.gracedSubscription = none ∨
      accounts.gracedSubscription = some (.grace accounts.subscription)) :
    accounts.tryAccounts ledger = .ok sub := by
  have loaded := right.subscription
  have address := wellFormed.sub_key loaded
  have bumps := wellFormed.sub_bumps loaded
  have vaultTerms := wellFormed.vault_terms loaded vaultAt
  obtain ⟨plan, planAt, _⟩ := wellFormed.sub_plan loaded
  obtain ⟨merchantToken, merchantLoaded, merchantMint⟩ := right.merchantToken
  rw [← right.plan] at planAt
  rw [← right.vault] at vaultAt
  simp only [Charge.tryAccounts, bind_eq_ok, require_eq_ok, exists_const,
    loadSubscription_eq_ok, loadPlan_eq_ok, loadToken_eq_ok, seedsIfSome_eq_ok,
    vacantIfSome_eq_ok, seedsWithBump, requireMint, requireAuthority, pure_eq_ok]
  refine ⟨sub, loaded, plan, planAt, vault, vaultAt, merchantToken, merchantLoaded, ?_, ?_,
    ⟨address, ?_⟩, right.plan.symm, ⟨right.vault, bumps.2⟩, vaultTerms.1, vaultTerms.2,
    merchantMint, right.merchantAta, rfl⟩
  · rintro key given
    rcases slot with empty | attached
    · cases empty.symm.trans given
    · cases attached.symm.trans given
      rfl
  · rintro key given
    rcases slot with empty | attached
    · cases empty.symm.trans given
    · cases attached.symm.trans given
      exact vacant
  · rw [← address]
    exact bumps.1

/-- Any other account in the slot is refused by its address. -/
theorem charge_of_wrong_slot (right : accounts.Right ledger sub)
    (wellFormed : ledger.WellFormed) {vault : TokenAccount}
    (vaultAt : ledger.account (.vault accounts.subscription) = some (.token vault))
    {key : Pubkey} (slot : accounts.gracedSubscription = some key)
    (wrong : key ≠ .grace accounts.subscription) :
    charge ledger now accounts = .error (.anchor .constraintSeeds) := by
  obtain ⟨plan, planAt, _⟩ := wellFormed.sub_plan right.subscription
  obtain ⟨merchantToken, merchantLoaded, _⟩ := right.merchantToken
  rw [← right.plan] at planAt
  rw [← right.vault] at vaultAt
  unfold charge Charge.tryAccounts
  rw [loadSubscription_eq_ok.mpr right.subscription, loadPlan_eq_ok.mpr planAt,
    loadToken_eq_ok.mpr vaultAt, loadToken_eq_ok.mpr merchantLoaded, slot]
  simp only [seedsIfSome, seeds, require, if_neg wrong]
  rfl

/-- What the guards in front of the payment check of a stream, apart from the amount. -/
structure Chargeable (sub : Subscription Pubkey) (now : Int64) : Prop where
  active : sub.state = .active
  started : sub.streamStart.toInt ≤ now.toInt
  period : 0 < sub.period.toInt
  age : Checked.FitsI64 (now.toInt - sub.streamStart.toInt)

namespace Chargeable

theorem ordered (chargeable : Chargeable sub now) : sub.streamStart ≤ now :=
  Int64.le_iff_toInt_le.mpr chargeable.started

theorem periodPositive (chargeable : Chargeable sub now) : 0 < sub.period := by
  rw [Int64.lt_iff_toInt_lt]
  exact chargeable.period

theorem unlocks (chargeable : Chargeable sub now) {claimable : UInt64}
    (claimableEq : sub.withdrawnAmount.toNat + claimable.toNat = sub.unlockedBy now) :
    ∃ unlocked, unlockedAt .mathOverflow sub now = .ok unlocked ∧
      Checked.subU64 unlocked sub.withdrawnAmount = some claimable := by
  obtain ⟨unlocked, unlocking, unlockedEq⟩ :=
    exists_unlockedAt .mathOverflow chargeable.started chargeable.period chargeable.age
  refine ⟨unlocked, unlocking, ?_⟩
  rw [Checked.subU64_eq_some, unlockedEq]
  omega

end Chargeable

theorem charge_of_nothing (passed : accounts.tryAccounts ledger = .ok sub)
    (chargeable : Chargeable sub now)
    (nothing : sub.withdrawnAmount.toNat = sub.unlockedBy now) :
    charge ledger now accounts = .error (.nakama .insufficientUnlockedFunds) := by
  obtain ⟨unlocked, unlocking, subtracted⟩ := @Chargeable.unlocks _ _ chargeable 0 nothing
  unfold charge
  rw [bind_of_ok passed]
  unfold chargeHandler
  rw [bind_of_ok (require_of chargeable.active _),
    bind_of_ok (require_of chargeable.ordered _),
    bind_of_ok (require_of chargeable.periodPositive _), bind_of_ok unlocking,
    bind_of_ok (okOr_eq_ok.mpr subtracted)]
  rfl

theorem charge_of_claimable {claimable withdrawnAmount : UInt64} {nextChargeAt : Int64}
    {paid : Ledger} (passed : accounts.tryAccounts ledger = .ok sub)
    (chargeable : Chargeable sub now)
    (claimableEq : sub.withdrawnAmount.toNat + claimable.toNat = sub.unlockedBy now)
    (positive : 0 < claimable)
    (transferred : ledger.transfer accounts.vault accounts.merchantAta accounts.subscription
      claimable = .ok paid)
    (added : Checked.addU64 sub.withdrawnAmount claimable = some withdrawnAmount)
    (hinted : nextChargeHint sub withdrawnAmount = .ok nextChargeAt) :
    charge ledger now accounts =
      (chargeTail paid now accounts
        { sub with withdrawnAmount, lastChargeAt := now, nextChargeAt }).map
        fun (final, graceEvents) =>
          { ledger := final
            transfers := [⟨.settlement, accounts.vault, accounts.merchantAta, claimable⟩]
            events := graceEvents ++
              [.subscriptionCharged accounts.subscription claimable withdrawnAmount now] } := by
  obtain ⟨unlocked, unlocking, subtracted⟩ := chargeable.unlocks claimableEq
  unfold charge
  rw [bind_of_ok passed]
  unfold chargeHandler
  rw [bind_of_ok (require_of chargeable.active _),
    bind_of_ok (require_of chargeable.ordered _),
    bind_of_ok (require_of chargeable.periodPositive _), bind_of_ok unlocking,
    bind_of_ok (okOr_eq_ok.mpr subtracted), bind_of_ok (require_of positive _),
    bind_of_ok transferred, bind_of_ok (okOr_eq_ok.mpr added), bind_of_ok hinted]
  cases chargeTail paid now accounts
      { sub with withdrawnAmount, lastChargeAt := now, nextChargeAt } with
  | error refusal => rfl
  | ok result => rfl

/-! ## The tail -/

variable {charged : Subscription Pubkey}

theorem chargeTail_exhausted (exhausted : charged.withdrawnAmount = charged.depositedAmount)
    (room : Checked.FitsI64 (now.toInt + graceDuration.toInt))
    (slot : accounts.gracedSubscription = some (.grace accounts.subscription)) :
    ∃ final events, chargeTail ledger now accounts charged = .ok (final, events) ∧
      final.account accounts.subscription =
        some (.subscription { charged with state := .gracePeriod }) := by
  obtain ⟨graceUntil, added⟩ := Checked.exists_toI64 room
  change Checked.addI64 now graceDuration = some graceUntil at added
  unfold chargeTail
  rw [if_pos exhausted, added, slot]
  refine ⟨_, _, rfl, ?_⟩
  exact set_account_self _ _ _

theorem chargeTail_missing (exhausted : charged.withdrawnAmount = charged.depositedAmount)
    (room : Checked.FitsI64 (now.toInt + graceDuration.toInt))
    (slot : accounts.gracedSubscription = none) :
    chargeTail ledger now accounts charged = .error (.nakama .missingGraceSatellite) := by
  obtain ⟨graceUntil, added⟩ := Checked.exists_toI64 room
  change Checked.addI64 now graceDuration = some graceUntil at added
  unfold chargeTail
  rw [if_pos exhausted, added, slot]
  rfl

theorem chargeTail_routine (left : charged.withdrawnAmount ≠ charged.depositedAmount)
    (slot : accounts.gracedSubscription = none) :
    ∃ final events, chargeTail ledger now accounts charged = .ok (final, events) ∧
      final.account accounts.subscription = some (.subscription charged) := by
  unfold chargeTail
  rw [if_neg left, slot]
  refine ⟨_, _, rfl, ?_⟩
  exact set_account_self _ _ _

theorem chargeTail_unexpected {key : Pubkey}
    (left : charged.withdrawnAmount ≠ charged.depositedAmount)
    (slot : accounts.gracedSubscription = some key) :
    chargeTail ledger now accounts charged = .error (.nakama .unexpectedGraceSatellite) := by
  unfold chargeTail
  rw [if_neg left, slot]
  rfl

end Handler

/-- The slot that the keeper attaches for a predicted amount. -/
def predictedSlot (sub : Subscription Pubkey) (key : Pubkey) (claimable : UInt64) :
    Option Pubkey :=
  if sub.withdrawnAmount.toNat + claimable.toNat = sub.depositedAmount.toNat then
    some (.grace key)
  else none

/-- The other choice. -/
def mispredictedSlot (sub : Subscription Pubkey) (key : Pubkey) (claimable : UInt64) :
    Option Pubkey :=
  if sub.withdrawnAmount.toNat + claimable.toNat = sub.depositedAmount.toNat then none
  else some (.grace key)

/-- The error that tells the keeper which way it was wrong. -/
def mispredictedError (sub : Subscription Pubkey) (claimable : UInt64) : NakamaError :=
  if sub.withdrawnAmount.toNat + claimable.toNat = sub.depositedAmount.toNat then
    .missingGraceSatellite
  else .unexpectedGraceSatellite

section Prediction

variable {chain : Chain} {now : Int64} {accounts : Charge} {sub : Subscription Pubkey}

/-- What holds of every reachable active subscription that is charged with its accounts. -/
theorem Charge.Right.chargeable (right : accounts.Right chain.ledger sub)
    (reachable : machine.Reachable chain) (ordered : chain.clock.toInt ≤ now.toInt)
    (active : sub.state = .active)
    (age : Checked.FitsI64 (now.toInt - sub.streamStart.toInt)) :
    Chargeable sub now ∧ sub.withdrawnAmount.toNat ≤ sub.unlockedBy now ∧
      chain.ledger.account (.grace accounts.subscription) = none ∧
      ∃ vault, chain.ledger.account (.vault accounts.subscription) = some (.token vault) ∧
        sub.depositedAmount.toNat ≤ vault.amount.toNat + sub.withdrawnAmount.toNat := by
  have invariant := Chain.Invariant.of_reachable reachable
  have loaded := right.subscription
  have period := invariant.wellFormed.sub_period loaded
  have address := invariant.wellFormed.sub_key loaded
  rw [address] at loaded ⊢
  have subAt : (chain.view (.sub sub.subscriber sub.plan)).subscription = some sub :=
    view_subscription.mpr loaded
  have streaming := ((invariant.sound sub.subscriber sub.plan).advance ordered).of_active
    subAt active
  obtain ⟨vault, vaultAt⟩ := invariant.vault_of_running loaded (.inl active)
  obtain ⟨_, _, balance⟩ := Chain.Explained.of_reachable reachable _ _ sub subAt
  simp only [show (chain.view (.sub sub.subscriber sub.plan)).vault = some vault from
    view_vault.mpr vaultAt] at balance
  refine ⟨⟨active, streaming.started, period, age⟩, streaming.covered, ?_, vault, vaultAt, ?_⟩
  · cases found : chain.ledger.account (.grace (.sub sub.subscriber sub.plan)) with
    | none => rfl
    | some account =>
        obtain ⟨graced, rfl⟩ := invariant.wellFormed.graced_of_key found
        cases streaming.graced.symm.trans (view_graced.mpr found)
  · omega

theorem Charge.Right.attach (right : accounts.Right chain.ledger sub) (slot : Option Pubkey) :
    (accounts.attach slot).Right chain.ledger sub :=
  ⟨right.subscription, right.plan, right.vault, right.merchantAta, right.merchantToken⟩

theorem Charge.Right.pays (right : accounts.Right chain.ledger sub)
    (reachable : machine.Reachable chain) (ordered : chain.clock.toInt ≤ now.toInt)
    (active : sub.state = .active)
    (age : Checked.FitsI64 (now.toInt - sub.streamStart.toInt))
    (room : Checked.FitsI64 (now.toInt + sub.period.toInt)) {claimable : UInt64}
    (claimableEq : claimable.toNat = sub.unlockedBy now - sub.withdrawnAmount.toNat) :
    ∃ paid withdrawnAmount nextChargeAt,
      chain.ledger.transfer accounts.vault accounts.merchantAta accounts.subscription
        claimable = .ok paid ∧
      Checked.addU64 sub.withdrawnAmount claimable = some withdrawnAmount ∧
      nextChargeHint sub withdrawnAmount = .ok nextChargeAt := by
  have invariant := Chain.Invariant.of_reachable reachable
  obtain ⟨chargeable, covered, _, vault, vaultAt, funded⟩ :=
    right.chargeable reachable ordered active age
  have capped := sub.unlockedBy_le_deposited now
  have bound := sub.depositedAmount.toNat_lt
  have vaultTerms := invariant.wellFormed.vault_terms right.subscription vaultAt
  obtain ⟨merchantToken, merchantLoaded, merchantMint⟩ := right.merchantToken
  rw [← right.vault] at vaultAt
  obtain ⟨paid, transferred⟩ := @exists_transfer _ _ _ accounts.subscription _ _ claimable
    (Chain.supply_of_reachable reachable vault.mint) vaultAt merchantLoaded (by omega)
    (vaultTerms.1.trans merchantMint.symm) vaultTerms.2
  obtain ⟨withdrawnAmount, added⟩ := Checked.exists_addU64
    (by omega : sub.withdrawnAmount.toNat + claimable.toNat < 2 ^ 64)
  have withdrawnEq := Checked.addU64_eq_some.mp added
  have rate := invariant.wellFormed.sub_rate right.subscription
  have periodPositive := chargeable.period
  obtain ⟨nextChargeAt, hinted, _⟩ := @nextChargeHint_exact sub now withdrawnAmount age
    chargeable.started chargeable.period (by omega) (by omega) room.2
  exact ⟨paid, withdrawnAmount, nextChargeAt, transferred, added, hinted⟩

/-- With nothing to claim, `charge` fails for want of unlocked funds, or already at a
grace slot that is neither empty nor the derived one. -/
theorem Charge.Right.refused_of_nothing (right : accounts.Right chain.ledger sub)
    (reachable : machine.Reachable chain) (ordered : chain.clock.toInt ≤ now.toInt)
    (active : sub.state = .active)
    (age : Checked.FitsI64 (now.toInt - sub.streamStart.toInt))
    (nothing : sub.unlockedBy now - sub.withdrawnAmount.toNat = 0) (slot : Option Pubkey) :
    charge chain.ledger now (accounts.attach slot) =
      .error (if slot = none ∨ slot = some (.grace accounts.subscription) then
        .nakama .insufficientUnlockedFunds
      else .anchor .constraintSeeds) := by
  have wellFormed := (Chain.Invariant.of_reachable reachable).wellFormed
  obtain ⟨chargeable, covered, vacant, vault, vaultAt, _⟩ :=
    right.chargeable reachable ordered active age
  split
  next known =>
    apply charge_of_nothing ((right.attach slot).passes wellFormed vaultAt vacant known)
      chargeable
    omega
  next unknown =>
    rw [not_or] at unknown
    cases slot with
    | none => exact (unknown.1 rfl).elim
    | some key =>
        apply charge_of_wrong_slot (right.attach (some key)) wellFormed vaultAt rfl
        intro same
        exact unknown.2 (congrArg some same)

section Claimable

variable (right : accounts.Right chain.ledger sub) (reachable : machine.Reachable chain)
  (ordered : chain.clock.toInt ≤ now.toInt) (active : sub.state = .active)
  (age : Checked.FitsI64 (now.toInt - sub.streamStart.toInt))
  (periodRoom : Checked.FitsI64 (now.toInt + sub.period.toInt)) {claimable : UInt64}
  (claimableEq : claimable.toNat = sub.unlockedBy now - sub.withdrawnAmount.toNat)
  (positive : 0 < claimable)

include right reachable ordered active age periodRoom claimableEq positive

/-- With something to claim, every charge pays it and is decided by its last step. -/
theorem Charge.Right.reduces :
    ∃ paid withdrawnAmount nextChargeAt,
      withdrawnAmount.toNat = sub.withdrawnAmount.toNat + claimable.toNat ∧
      ∀ slot, slot = none ∨ slot = some (.grace accounts.subscription) →
        charge chain.ledger now (accounts.attach slot) =
          (chargeTail paid now (accounts.attach slot)
            { sub with withdrawnAmount, lastChargeAt := now, nextChargeAt }).map
            fun (final, graceEvents) =>
              { ledger := final
                transfers := [⟨.settlement, accounts.vault, accounts.merchantAta, claimable⟩]
                events := graceEvents ++
                  [.subscriptionCharged accounts.subscription claimable withdrawnAmount
                    now] } := by
  have wellFormed := (Chain.Invariant.of_reachable reachable).wellFormed
  obtain ⟨chargeable, covered, vacant, vault, vaultAt, _⟩ :=
    right.chargeable reachable ordered active age
  obtain ⟨paid, withdrawnAmount, nextChargeAt, transferred, added, hinted⟩ :=
    right.pays reachable ordered active age periodRoom claimableEq
  refine ⟨paid, withdrawnAmount, nextChargeAt, Checked.addU64_eq_some.mp added, ?_⟩
  intro slot choice
  have passed := (right.attach slot).passes wellFormed vaultAt vacant choice
  exact charge_of_claimable passed chargeable (by omega) positive transferred added hinted

variable (graceRoom : Checked.FitsI64 (now.toInt + graceDuration.toInt))

include graceRoom

theorem Charge.Right.charged_of_predicted :
    ∃ outcome after,
      charge chain.ledger now
        (accounts.attach (predictedSlot sub accounts.subscription claimable)) = .ok outcome ∧
      outcome.transfers =
        [⟨.settlement, accounts.vault, accounts.merchantAta, claimable⟩] ∧
      outcome.ledger.account accounts.subscription = some (.subscription after) ∧
      (after.state = .gracePeriod ↔
        sub.withdrawnAmount.toNat + claimable.toNat = sub.depositedAmount.toNat) := by
  obtain ⟨paid, withdrawnAmount, nextChargeAt, withdrawnEq, reduces⟩ :=
    right.reduces reachable ordered active age periodRoom claimableEq positive
  unfold predictedSlot
  split
  next exhausting =>
    have exhausted : withdrawnAmount = sub.depositedAmount :=
      UInt64.toNat_inj.mp (withdrawnEq.trans exhausting)
    rw [reduces _ (.inr rfl)]
    obtain ⟨final, events, tail, finalAt⟩ := @chargeTail_exhausted paid now
      (accounts.attach (some (.grace accounts.subscription)))
      { sub with withdrawnAmount, lastChargeAt := now, nextChargeAt } exhausted graceRoom rfl
    rw [tail]
    exact ⟨_, _, rfl, rfl, finalAt, fun _ => exhausting, fun _ => rfl⟩
  next routine =>
    have left : withdrawnAmount ≠ sub.depositedAmount := by
      rintro rfl
      exact routine withdrawnEq.symm
    rw [reduces _ (.inl rfl)]
    obtain ⟨final, events, tail, finalAt⟩ := @chargeTail_routine paid now
      (accounts.attach none)
      { sub with withdrawnAmount, lastChargeAt := now, nextChargeAt } left rfl
    rw [tail]
    refine ⟨_, _, rfl, rfl, finalAt, fun grace => ?_, fun exhausting => (routine exhausting).elim⟩
    cases active.symm.trans grace

theorem Charge.Right.refused_of_mispredicted :
    charge chain.ledger now
        (accounts.attach (mispredictedSlot sub accounts.subscription claimable)) =
      .error (.nakama (mispredictedError sub claimable)) := by
  obtain ⟨paid, withdrawnAmount, nextChargeAt, withdrawnEq, reduces⟩ :=
    right.reduces reachable ordered active age periodRoom claimableEq positive
  unfold mispredictedSlot mispredictedError
  split
  next exhausting =>
    have exhausted : withdrawnAmount = sub.depositedAmount :=
      UInt64.toNat_inj.mp (withdrawnEq.trans exhausting)
    rw [reduces _ (.inl rfl),
      @chargeTail_missing _ _ (accounts.attach none) _ exhausted graceRoom rfl]
    rfl
  next routine =>
    have left : withdrawnAmount ≠ sub.depositedAmount := by
      rintro rfl
      exact routine withdrawnEq.symm
    rw [reduces _ (.inr rfl),
      @chargeTail_unexpected _ _ (accounts.attach (some (.grace accounts.subscription))) _
        _ left rfl]
    rfl

end Claimable

end Prediction

/-- The keeper's protocol is exact in every reachable chain, at any later clock at which
the age of the stream is an `i64`: when the derived status reports nothing to claim, every
charge is refused; otherwise the charge with the predicted slot succeeds, pays exactly the
reported amount and enters grace iff the satellite was attached, and the other choice is
refused and changes no account. -/
theorem prediction_exact {chain : Chain} {now : Int64} {accounts : Charge}
    {sub : Subscription Pubkey} {graced : Option (GracedSubscriptionView Pubkey)}
    {claimable : UInt64} (reachable : machine.Reachable chain)
    (ordered : chain.clock.toInt ≤ now.toInt) (right : accounts.Right chain.ledger sub)
    (active : sub.state = .active)
    (age : Checked.FitsI64 (now.toInt - sub.streamStart.toInt))
    (periodRoom : Checked.FitsI64 (now.toInt + sub.period.toInt))
    (graceRoom : Checked.FitsI64 (now.toInt + graceDuration.toInt))
    (reported : (Rust.deriveStatus sub.seen graced now).claimable? = some claimable) :
    (claimable = 0 → ∀ slot, charge chain.ledger now (accounts.attach slot) =
      .error (if slot = none ∨ slot = some (.grace accounts.subscription) then
        .nakama .insufficientUnlockedFunds
      else .anchor .constraintSeeds)) ∧
    (0 < claimable →
      (∃ outcome after,
        charge chain.ledger now
          (accounts.attach (predictedSlot sub accounts.subscription claimable)) =
            .ok outcome ∧
        outcome.transfers =
          [⟨.settlement, accounts.vault, accounts.merchantAta, claimable⟩] ∧
        outcome.ledger.account accounts.subscription = some (.subscription after) ∧
        (after.state = .gracePeriod ↔
          sub.withdrawnAmount.toNat + claimable.toNat = sub.depositedAmount.toNat)) ∧
      charge chain.ledger now
          (accounts.attach (mispredictedSlot sub accounts.subscription claimable)) =
        .error (.nakama (mispredictedError sub claimable)) ∧
      chain.step ⟨now, .program (.charge
          (accounts.attach (mispredictedSlot sub accounts.subscription claimable)))⟩ =
        { chain with clock := now }) := by
  have period := (Chain.Invariant.of_reachable reachable).wellFormed.sub_period
    right.subscription
  have claimableEq := reported_claimable period age active reported
  constructor
  · rintro rfl
    exact right.refused_of_nothing reachable ordered active age claimableEq.symm
  · intro positive
    have refused := right.refused_of_mispredicted reachable ordered active age periodRoom
      claimableEq positive graceRoom
    exact ⟨right.charged_of_predicted reachable ordered active age periodRoom claimableEq
      positive graceRoom, refused, Chain.step_of_error refused⟩

section Witness

open Sample

/-- The accounts of a charge of the sample stream. -/
def chargeAccounts (slot : Option Pubkey) : Charge :=
  ⟨subKey, planKey, .vault subKey, merchantAta, stranger, slot⟩

private theorem chargeAccounts_right {chain : Chain}
    (fields : (chain.view subKey).subscription.map (fun sub =>
      (sub.plan, sub.merchantAta, sub.tokenMint)) = some (planKey, merchantAta, usdcMint))
    (merchantToken : ((chain.ledger.account merchantAta).bind Account.asToken).map
      (·.mint) = some usdcMint)
    (sub : Subscription Pubkey)
    (loaded : chain.ledger.account subKey = some (.subscription sub)) :
    (chargeAccounts none).Right chain.ledger sub := by
  obtain ⟨found, foundAt, fieldsEq⟩ := Option.map_eq_some_iff.mp fields
  cases loaded.symm.trans (view_subscription.mp foundAt)
  simp only [Prod.mk.injEq] at fieldsEq
  obtain ⟨plan, ata, mint⟩ := fieldsEq
  obtain ⟨token, tokenFound, tokenMint⟩ := Option.map_eq_some_iff.mp merchantToken
  simp only [Option.bind_eq_some_iff, Account.asToken_eq_some, exists_eq_right] at tokenFound
  exact ⟨loaded, plan.symm, rfl, ata.symm, token, tokenFound, tokenMint.trans mint.symm⟩

/-- Five seconds into the stream a keeper predicts 50 units, and no satellite. -/
theorem prediction_exact_streaming :
    ∃ outcome, charge (machine.run genesis [createPlanTx, subscribeTx 0]).ledger 5
        (chargeAccounts none) = .ok outcome ∧
      outcome.transfers = [⟨.settlement, .vault subKey, merchantAta, 50⟩] := by
  have reachable : machine.Reachable (machine.run genesis [createPlanTx, subscribeTx 0]) :=
    ⟨genesis, _, genesis_isGenesis, allowsRun_of_clocks (by decide), rfl⟩
  obtain ⟨sub, subAt, fields⟩ := Option.map_eq_some_iff.mp
    (show ((machine.run genesis [createPlanTx, subscribeTx 0]).view subKey).subscription.map
      (fun sub => ((sub.state, sub.streamStart, sub.period), (sub.withdrawnAmount,
        sub.depositedAmount, (Rust.deriveStatus sub.seen none 5).claimable?))) =
      some ((.active, 0, 10), (0, 200, some 50)) by decide +kernel)
  simp only [Prod.mk.injEq] at fields
  obtain ⟨⟨active, start, period⟩, withdrawn, deposited, reported⟩ := fields
  have loaded := view_subscription.mp subAt
  have right := chargeAccounts_right (by decide +kernel) (by decide +kernel) sub loaded
  obtain ⟨_, predicted⟩ := prediction_exact reachable (by decide +kernel) right active
    (by rw [start]; decide) (by rw [period]; decide) (by decide) reported
  obtain ⟨⟨outcome, _, executed, transfers, _⟩, _⟩ := predicted (by decide)
  have slot : predictedSlot sub subKey 50 = none := by
    unfold predictedSlot
    rw [withdrawn, deposited]
    rfl
  have executed : charge _ 5 ((chargeAccounts none).attach (predictedSlot sub subKey 50)) =
    .ok outcome := executed
  rw [slot] at executed
  exact ⟨outcome, executed, transfers⟩

/-- On a clock that starts at `i64::MIN` the derivation saturates the age of the stream
while `charge` overflows on it; and a slot that is not the derived satellite is refused by
its address. -/
theorem prediction_fails_beyond_range :
    machine.Reachable (machine.run { genesis with clock := Int64.minValue }
        [{ createPlanTx with now := Int64.minValue }, subscribeTx Int64.minValue]) ∧
      ((machine.run { genesis with clock := Int64.minValue }
        [{ createPlanTx with now := Int64.minValue }, subscribeTx Int64.minValue]).view
          subKey).subscription.map (fun sub =>
            (sub.state, (Rust.deriveStatus sub.seen none 0).claimable?)) =
        some (.active, some 200) ∧
      (charge (machine.run { genesis with clock := Int64.minValue }
          [{ createPlanTx with now := Int64.minValue }, subscribeTx Int64.minValue]).ledger 0
          (chargeAccounts (some (.grace subKey)))).map (·.transfers) = .error .panic ∧
      ((machine.run genesis [createPlanTx, subscribeTx 0]).view subKey).subscription.map
        (fun sub => (Rust.deriveStatus sub.seen none 0).claimable?) = some (some 0) ∧
      (charge (machine.run genesis [createPlanTx, subscribeTx 0]).ledger 0
          (chargeAccounts (some (.external 99)))).map (·.transfers) =
        .error (.anchor .constraintSeeds) := by
  refine ⟨?_, by decide +kernel, by decide +kernel, by decide +kernel, by decide +kernel⟩
  have ordered : machine.AllowsRun { genesis with clock := Int64.minValue }
      [{ createPlanTx with now := Int64.minValue }, subscribeTx Int64.minValue] :=
    allowsRun_of_clocks (by decide)
  exact ⟨{ genesis with clock := Int64.minValue }, _,
    ⟨genesis_isGenesis.log, genesis_isGenesis.outside, genesis_isGenesis.supply⟩, ordered, rfl⟩

end Witness

end Nakama
