import Nakama.Refinement.Availability

/-!
# Availability of `cancel`

`cancel` pays out what the counters say and then closes the vault, and SPL Token closes
an empty account only.  A subscriber can therefore leave exactly while nobody else has
paid into the vault.
-/

namespace Nakama

open Guard Ledger

namespace Chain

variable {chain : Chain} {now : Int64} {accounts : Cancel} {sub : Subscription Pubkey}
  {subscriber planKey : Pubkey}

/-- A `cancel` that succeeds found nothing foreign in the vault. -/
theorem foreign_of_cancel (reachable : machine.Reachable chain)
    (target : accounts.subscription = .sub subscriber planKey)
    (succeeds : chain.Succeeds ⟨now, .program (.cancel accounts)⟩) :
    chain.moved (.sub subscriber planKey) .foreign = 0 := by
  have invariant := Invariant.of_reachable reachable
  rcases @step_cases chain subscriber planKey invariant.wellFormed
      ⟨now, .program (.cancel accounts)⟩ with ⟨fails, _⟩ | ⟨outcome, _, _, taken⟩
  · exact (fails succeeds).elim
  · generalize (chain.step ⟨now, .program (.cancel accounts)⟩).view
      (.sub subscriber planKey) = after at taken
    generalize volume (.vault (.sub subscriber planKey)) outcome.transfers = delta at taken
    have explained := Explained.of_reachable reachable subscriber planKey
    cases taken with
    | cancel _ _ subAt vaultAt _ _ withdrawnEq _ refundEq emptied =>
        obtain ⟨_, _, balance⟩ := explained _ subAt
        simp only [vaultAt] at balance
        omega
    | other elsewhere =>
        simp [Action.subscription?, Instruction.subscription?, target] at elsewhere

/-- Without foreign units the vault holds exactly what was not withdrawn. -/
theorem vault_of_unforeign (reachable : machine.Reachable chain)
    (loaded : chain.ledger.account (.sub subscriber planKey) = some (.subscription sub))
    (running : sub.state = .active ∨ sub.state = .paused ∨ sub.state = .gracePeriod)
    (quiet : chain.moved (.sub subscriber planKey) .foreign = 0) :
    ∃ vault, chain.ledger.account (.vault (.sub subscriber planKey)) =
        some (.token vault) ∧
      vault.amount.toNat + sub.withdrawnAmount.toNat = sub.depositedAmount.toNat := by
  have invariant := Invariant.of_reachable reachable
  obtain ⟨vault, vaultAt⟩ := invariant.vault_of_running loaded running
  obtain ⟨_, _, balance⟩ := Explained.of_reachable reachable subscriber planKey sub
    (view_subscription.mpr loaded)
  simp only [show (chain.view (.sub subscriber planKey)).vault = some vault from
    view_vault.mpr vaultAt] at balance
  exact ⟨vault, vaultAt, by omega⟩

/-- A `cancel` that succeeds paid two accounts, and found the age of the stream within
`i64`. -/
theorem apart_age_of_cancel {outcome : Outcome}
    (executed : cancel chain.ledger now accounts = .ok outcome)
    (loaded : chain.ledger.account accounts.subscription = some (.subscription sub)) :
    accounts.merchantAta ≠ accounts.subscriberAta ∧
      ∃ moment, (chain.view accounts.subscription).SettlesAt now sub.state moment ∧
        Checked.FitsI64 (moment.toInt - sub.streamStart.toInt) := by
  have effect : Effect chain.ledger now (.cancel accounts) outcome := cancel_effect executed
  cases effect with
  | @cancel _ found _ moment _ _ _ _ _ _ _ foundAt _ _ _ _ _ _ _ _ settles _ _ _ _ _ _ _ _
      fits apart =>
      cases loaded.symm.trans foundAt
      exact ⟨apart, moment, settlesAt_view settles, fits⟩

/-- Without foreign units the subscriber can leave. -/
theorem cancel_of_unforeign {moment : Int64} (reachable : machine.Reachable chain)
    (ordered : chain.clock.toInt ≤ now.toInt) (right : accounts.Right chain.ledger sub)
    (apart : accounts.merchantAta ≠ accounts.subscriberAta)
    (signed : accounts.signer.key = sub.subscriber)
    (running : sub.state = .active ∨ sub.state = .paused ∨ sub.state = .gracePeriod)
    (quiet : chain.moved accounts.subscription .foreign = 0)
    (settles : (chain.view accounts.subscription).SettlesAt now sub.state moment)
    (fits : Checked.FitsI64 (moment.toInt - sub.streamStart.toInt)) :
    ∃ outcome, cancel chain.ledger now accounts = .ok outcome := by
  have invariant := Invariant.of_reachable reachable
  have loaded := right.subscription
  have address := invariant.wellFormed.sub_key loaded
  have sound := (invariant.sound sub.subscriber sub.plan).advance ordered
  have subAt : (chain.view accounts.subscription).subscription = some sub :=
    view_subscription.mpr loaded
  rw [address] at subAt settles quiet loaded
  obtain ⟨_, current, started, covered⟩ := sound.of_settles subAt settles
  obtain ⟨vault, vaultAt, exactly⟩ := vault_of_unforeign reachable loaded running quiet
  rw [← address] at settles vaultAt
  rw [← right.vault] at vaultAt
  exact cancel_succeeds invariant.wellFormed (supply_of_reachable reachable) right apart
    (.inl signed) settles current started fits covered vaultAt exactly

end Chain

/-- In every reachable chain a subscriber's `cancel` of a running subscription, with the
right accounts and at any later clock, succeeds if and only if the refund goes to another
account than the settlement, nothing but deposits entered the vault since `subscribe` and
the age of the stream at the settlement moment is an `i64`. -/
theorem cancel_available_iff {chain : Chain} {now : Int64} {accounts : Cancel}
    {sub : Subscription Pubkey} (reachable : machine.Reachable chain)
    (ordered : chain.clock.toInt ≤ now.toInt) (right : accounts.Right chain.ledger sub)
    (signed : accounts.signer.key = sub.subscriber)
    (running : sub.state = .active ∨ sub.state = .paused ∨ sub.state = .gracePeriod) :
    chain.Succeeds ⟨now, .program (.cancel accounts)⟩ ↔
      accounts.merchantAta ≠ accounts.subscriberAta ∧
      chain.moved accounts.subscription .foreign = 0 ∧
      ∃ moment, (chain.view accounts.subscription).SettlesAt now sub.state moment ∧
        Checked.FitsI64 (moment.toInt - sub.streamStart.toInt) := by
  have invariant := Chain.Invariant.of_reachable reachable
  have address := invariant.wellFormed.sub_key right.subscription
  constructor
  · intro succeeds
    obtain ⟨outcome, executed⟩ := succeeds
    obtain ⟨apart, age⟩ := Chain.apart_age_of_cancel executed right.subscription
    refine ⟨apart, ?_, age⟩
    rw [address]
    exact Chain.foreign_of_cancel reachable address ⟨outcome, executed⟩
  · rintro ⟨apart, quiet, moment, settles, fits⟩
    exact Chain.cancel_of_unforeign reachable ordered right apart signed running quiet settles
      fits

section Witness

open Sample

/-- What the samples below have in common: the subscription streams, and both parties
still own their token accounts. -/
private theorem right_of_fields {chain : Chain}
    (fields : (chain.view subKey).subscription.map (fun sub =>
      (sub.subscriber, sub.merchantAta, sub.tokenMint, sub.state, sub.streamStart)) =
        some (subscriber.key, merchantAta, usdcMint, .active, 0))
    (merchantToken : ((chain.ledger.account merchantAta).bind Account.asToken).map
      (·.mint) = some usdcMint)
    (subscriberToken : ((chain.ledger.account subscriberAta).bind Account.asToken).map
      (fun token => (token.mint, token.owner)) = some (usdcMint, subscriber.key)) :
    ∃ sub, (cancelAccounts none none).Right chain.ledger sub ∧
      sub.subscriber = subscriber.key ∧ sub.state = .active ∧ sub.streamStart = 0 := by
  obtain ⟨sub, subAt, fieldsEq⟩ := Option.map_eq_some_iff.mp fields
  simp only [Prod.mk.injEq] at fieldsEq
  obtain ⟨owner, ata, mint, active, start⟩ := fieldsEq
  obtain ⟨merchantAccount, merchantFound, merchantMint⟩ :=
    Option.map_eq_some_iff.mp merchantToken
  obtain ⟨subscriberAccount, subscriberFound, subscriberFields⟩ :=
    Option.map_eq_some_iff.mp subscriberToken
  simp only [Option.bind_eq_some_iff, Account.asToken_eq_some, exists_eq_right]
    at merchantFound subscriberFound
  rw [Prod.mk.injEq] at subscriberFields
  refine ⟨sub, ?_, owner, active, start⟩
  exact {
    subscription := view_subscription.mp subAt
    subscriber := owner.symm
    vault := rfl
    merchantAta := ata.symm
    merchantToken := ⟨merchantAccount, merchantFound, merchantMint.trans mint.symm⟩
    subscriberToken := ⟨subscriberAccount, subscriberFound,
      subscriberFields.1.trans mint.symm, subscriberFields.2.trans owner.symm⟩
    graced := by simp [active, cancelAccounts]
    paused := by simp [active, cancelAccounts] }

/-- Five seconds into an undisturbed stream the subscriber can leave. -/
theorem cancel_available_iff_undisturbed :
    (machine.run genesis [createPlanTx, subscribeTx 0]).Succeeds (cancelTx 5 none none) := by
  have reachable : machine.Reachable (machine.run genesis [createPlanTx, subscribeTx 0]) :=
    ⟨genesis, _, genesis_isGenesis, allowsRun_of_clocks (by decide), rfl⟩
  obtain ⟨sub, right, owner, active, start⟩ := @right_of_fields
    (machine.run genesis [createPlanTx, subscribeTx 0]) (by decide +kernel)
    (by decide +kernel) (by decide +kernel)
  refine (cancel_available_iff reachable (by decide +kernel) right owner.symm
    (.inl active)).mpr ⟨by decide, by decide +kernel, 5, active ▸ .active, ?_⟩
  rw [start]
  decide

/-- One unit from a stranger, and the same `cancel` with the right accounts fails. -/
theorem donation_blocks_cancel :
    machine.Reachable (machine.run genesis [createPlanTx, subscribeTx 0, donateTx 1 1]) ∧
      machine.allows (machine.run genesis [createPlanTx, subscribeTx 0, donateTx 1 1])
        (cancelTx 5 none none) ∧
      (∃ sub, (cancelAccounts none none).Right
          (machine.run genesis [createPlanTx, subscribeTx 0, donateTx 1 1]).ledger sub ∧
        (cancelAccounts none none).signer.key = sub.subscriber ∧ sub.state = .active) ∧
      ¬(machine.run genesis [createPlanTx, subscribeTx 0, donateTx 1 1]).Succeeds
        (cancelTx 5 none none) := by
  refine ⟨?_, by decide +kernel, ?_, by decide +kernel⟩
  · exact ⟨genesis, _, genesis_isGenesis, allowsRun_of_clocks (by decide), rfl⟩
  · obtain ⟨sub, right, owner, active, _⟩ := @right_of_fields
      (machine.run genesis [createPlanTx, subscribeTx 0, donateTx 1 1]) (by decide +kernel)
      (by decide +kernel) (by decide +kernel)
    exact ⟨sub, right, owner.symm, active⟩

end Witness

end Nakama
