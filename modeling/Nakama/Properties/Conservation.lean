import Nakama.Refinement.Payees

/-!
# Escrow conservation

What the subscriber paid in is in the vault, with the merchant, or back with the
subscriber, at every point of every run.
-/

namespace Nakama

theorem View.Step.cancelled {key : Pubkey} {now : Int64} {accounts : Cancel}
    {before after : View} {delta : Route → Nat} {sub : Subscription Pubkey}
    (taken : View.Step key now (.program (.cancel accounts)) before after delta)
    (target : accounts.subscription = key) (subAt : before.subscription = some sub) :
    ∃ ended, after.subscription = some ended ∧ ended.state = .cancelled ∧
      ended.depositedAmount = sub.depositedAmount := by
  cases taken with
  | cancel _ _ found =>
      rw [found, Option.some.injEq] at subAt
      subst subAt
      exact ⟨_, rfl, rfl, rfl⟩
  | other elsewhere =>
      simp [Action.subscription?, Instruction.subscription?, target] at elsewhere

namespace Chain

variable {chain : Chain} {subscriber planKey : Pubkey} {sub : Subscription Pubkey}

theorem step_cancel (wellFormed : chain.ledger.WellFormed) {tx : Tx} {accounts : Cancel}
    (action : tx.action = .program (.cancel accounts))
    (target : accounts.subscription = .sub subscriber planKey)
    (succeeds : chain.Succeeds tx)
    (loaded : chain.ledger.account (.sub subscriber planKey) = some (.subscription sub)) :
    ∃ ended, (chain.step tx).ledger.account (.sub subscriber planKey) =
        some (.subscription ended) ∧
      ended.state = .cancelled ∧ ended.depositedAmount = sub.depositedAmount := by
  rcases @step_cases chain subscriber planKey wellFormed tx with
    ⟨fails, _⟩ | ⟨outcome, _, _, taken⟩
  · exact (fails succeeds).elim
  · rw [action] at taken
    obtain ⟨ended, endedAt, cancelled, same⟩ :=
      taken.cancelled target (Ledger.view_subscription.mpr loaded)
    exact ⟨ended, Ledger.view_subscription.mp endedAt, cancelled, same⟩

end Chain

/-- Escrow conservation: the counters of a subscription and the balance of its vault
are exactly what the history of the run says, in every reachable chain in which only
the program pays into the vault. -/
theorem escrow_conserved {subscriber planKey : Pubkey} {chain : Chain}
    {sub : Subscription Pubkey}
    (reachable : (undisturbed (.sub subscriber planKey)).Reachable chain)
    (loaded : chain.ledger.account (.sub subscriber planKey) = some (.subscription sub)) :
    sub.withdrawnAmount.toNat ≤ sub.depositedAmount.toNat ∧
    ((sub.state = .active ∨ sub.state = .paused ∨ sub.state = .gracePeriod) →
      ∃ vault, chain.ledger.account (.vault (.sub subscriber planKey)) =
          some (.token vault) ∧
        vault.amount.toNat = sub.depositedAmount.toNat - sub.withdrawnAmount.toNat) ∧
    chain.moved (.sub subscriber planKey) .settlement = sub.withdrawnAmount.toNat ∧
    (∀ entry ∈ lifetime (.sub subscriber planKey) chain.log,
      ∀ transfer ∈ entry.transfers,
        transfer.source = .vault (.sub subscriber planKey) →
        transfer.route = .settlement → transfer.destination = sub.merchantAta) ∧
    chain.moved (.sub subscriber planKey) .deposit = sub.depositedAmount.toNat ∧
    (sub.state = .cancelled →
      chain.ledger.account (.vault (.sub subscriber planKey)) = none ∧
      chain.moved (.sub subscriber planKey) .settlement +
        chain.moved (.sub subscriber planKey) .refund = sub.depositedAmount.toNat) ∧
    (∀ tx accounts, tx.action = .program (.cancel accounts) →
      accounts.subscription = .sub subscriber planKey → chain.Succeeds tx →
      ∃ ended, (chain.step tx).ledger.account (.sub subscriber planKey) =
          some (.subscription ended) ∧
        ended.state = .cancelled ∧ ended.depositedAmount = sub.depositedAmount) := by
  have reached := reachable.of_restrict
  have invariant := Chain.Invariant.of_reachable reached
  have subAt : (chain.view (.sub subscriber planKey)).subscription = some sub :=
    Ledger.view_subscription.mpr loaded
  obtain ⟨deposits, settlements, balance⟩ :=
    Chain.Explained.of_reachable reached subscriber planKey sub subAt
  refine ⟨(invariant.sound subscriber planKey).withdrawn_le subAt, ?_, settlements, ?_,
    deposits, ?_, ?_⟩
  · intro running
    obtain ⟨vault, vaultAt⟩ := invariant.vault_of_running loaded running
    refine ⟨vault, vaultAt, ?_⟩
    simp only [show (chain.view (.sub subscriber planKey)).vault = some vault from
      Ledger.view_vault.mpr vaultAt, Chain.foreign_eq_zero reachable] at balance
    omega
  · intro entry member transfer moved source route
    obtain ⟨plan, planAt, _, _, _, _, payee⟩ := invariant.wellFormed.sub_plan loaded
    have key := invariant.wellFormed.sub_key loaded
    obtain ⟨found, foundAt, ⟨_, destination⟩ | ⟨refund, _⟩⟩ :=
      (Chain.Documented.of_reachable reached).payments entry (mem_of_mem_lifetime member)
        transfer moved subscriber planKey source
    · cases key
      rw [planAt] at foundAt
      cases foundAt
      rw [destination, payee]
    · rw [route] at refund
      cases refund
  · intro cancelled
    have bare := ((invariant.sound subscriber planKey).of_cancelled subAt cancelled).1
    simp only [bare.vault] at balance
    exact ⟨invariant.vault_eq_none bare.vault, by omega⟩
  · intro tx accounts action target succeeds
    exact Chain.step_cancel invariant.wellFormed action target succeeds loaded

section Witness

open Sample

/-- A charge, a settlement through a session, a pause and a resume, a top-up, and a
`cancel`. -/
def servedTxs : List Tx :=
  [createPlanTx, subscribeTx 0, chargeTx 5 none, openSessionTx 6, settleUsageTx 7 10,
    pauseTx 8, resumeTx 20, topUpTx 21 none 40, cancelTx 22 none none]

theorem escrow_conserved_served :
    ∃ sub, (machine.run genesis servedTxs).ledger.account subKey =
        some (.subscription sub) ∧
      sub.state = .cancelled ∧
      (machine.run genesis servedTxs).moved subKey .settlement +
        (machine.run genesis servedTxs).moved subKey .refund =
          sub.depositedAmount.toNat := by
  have reachable : (undisturbed subKey).Reachable (machine.run genesis servedTxs) := by
    refine ⟨genesis, servedTxs, genesis_isGenesis, ?_, rfl⟩
    exact Machine.allowsRun_restrict (allowsRun_of_clocks (by decide))
      (fun _ => by decide)
  obtain ⟨sub, loaded, cancelled⟩ := Chain.subscription_of_state
    (by decide +kernel : ((machine.run genesis servedTxs).view subKey).subscription.map
      (·.state) = some .cancelled)
  obtain ⟨_, _, _, _, _, ended, _⟩ := escrow_conserved reachable loaded
  exact ⟨sub, loaded, cancelled, (ended cancelled).2⟩

end Witness

end Nakama
