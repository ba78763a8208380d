import Nakama.Refinement.Metering

/-!
# The final settlement in closed form

Over a whole life, from `subscribe` to `cancel`, the merchant receives the accrual
of the time spent `Active`, rounded down once and capped by the deposits, and the
subscriber gets the rest back.
-/

namespace Nakama

namespace View.Step

variable {key : Pubkey} {now : Int64} {action : Action} {before after : View}
  {delta : Route → Nat}

theorem opened (taken : View.Step key now action before after delta)
    (opens : action.subscribes key = true) :
    ∃ sub, after.Running sub ∧ after.metered now = 0 := by
  obtain ⟨accounts, periodsToPrefund, rfl, target⟩ := Action.subscribes_eq_true.mp opens
  cases taken with
  | subscribe _ _ _ _ _ state clocks =>
      refine ⟨_, ⟨rfl, .inl state⟩, ?_⟩
      rw [metered_of_active rfl state, Subscription.secondsAt, clocks.1]
      simp
  | other elsewhere =>
      simp [Action.subscription?, Instruction.subscription?, target] at elsewhere

end View.Step

namespace Chain

variable {chain : Chain} {subscriber planKey : Pubkey}

theorem Invariant.opened (invariant : chain.Invariant) {tx : Tx}
    (opens : tx.action.subscribes (.sub subscriber planKey) = true)
    (ordered : chain.clock.toInt ≤ tx.now.toInt) (succeeds : chain.Succeeds tx) :
    (chain.step tx).Serving (.sub subscriber planKey) ∧
      ((chain.step tx).view (.sub subscriber planKey)).metered (chain.step tx).clock = 0 := by
  rcases @step_cases chain subscriber planKey invariant.wellFormed tx with
    ⟨fails, _⟩ | ⟨outcome, _, _, taken⟩
  · exact (fails succeeds).elim
  · obtain ⟨sub, running, empty⟩ := taken.opened opens
    refine ⟨⟨invariant.step ordered, sub, running⟩, ?_⟩
    rw [step_clock]
    exact empty

end Chain

/-- The closed form: over any run from a successful `subscribe` to a successful
`cancel`, the merchant receives `min (D, A * price / period)`, where `A` is the time
spent `Active` and `D` the final deposit, and the refund is the rest of `D`. -/
theorem final_settlement {chain : Chain} {subscriber planKey : Pubkey}
    {opening closing : Tx} {txs : List Tx}
    (reachable : machine.Reachable chain)
    (opens : opening.action.subscribes (.sub subscriber planKey) = true)
    (openingOrdered : machine.allows chain opening) (opened : chain.Succeeds opening)
    (served : (uncancelled (.sub subscriber planKey)).AllowsRun (chain.step opening) txs)
    (cancels : closing.action.cancels (.sub subscriber planKey) = true)
    (closingOrdered : machine.allows (machine.run (chain.step opening) txs) closing)
    (closed : (machine.run (chain.step opening) txs).Succeeds closing) :
    ∃ sub,
      (machine.run (chain.step opening) (txs ++ [closing])).ledger.account
          (.sub subscriber planKey) = some (.subscription sub) ∧
      (machine.run (chain.step opening) (txs ++ [closing])).moved
          (.sub subscriber planKey) .settlement =
        min sub.depositedAmount.toNat
          (machine.total (activeSeconds (.sub subscriber planKey)) (chain.step opening)
            (txs ++ [closing]) * sub.price.toNat / sub.period.toInt.toNat) ∧
      (machine.run (chain.step opening) (txs ++ [closing])).moved
          (.sub subscriber planKey) .refund =
        sub.depositedAmount.toNat - min sub.depositedAmount.toNat
          (machine.total (activeSeconds (.sub subscriber planKey)) (chain.step opening)
            (txs ++ [closing]) * sub.price.toNat / sub.period.toInt.toNat) := by
  have invariant := Chain.Invariant.of_reachable reachable
  obtain ⟨start, empty⟩ := invariant.opened opens openingOrdered opened
  obtain ⟨serving, metered⟩ := start.metered_run served
  have reached := ((reachable.step openingOrdered).run
    (Machine.allowsRun_of_restrict served)).step closingOrdered
  rw [empty, Nat.zero_add] at metered
  rw [Machine.run_append, Machine.total_append]
  change machine.Reachable (Chain.step (machine.run (chain.step opening) txs) closing) at reached
  generalize machine.run (chain.step opening) txs = before at *
  -- The last wait, up to the `cancel`.
  obtain ⟨sub, running⟩ := serving.running
  have sound := serving.invariant.sound subscriber planKey
  have advanced := sound.metered_advance running closingOrdered
  obtain ⟨ended, endedAt, settled, shared, _⟩ := serving.settled
    (Chain.Explained.of_reachable reached) cancels closingOrdered closed
  have seconds : (before.view (.sub subscriber planKey)).metered closing.now =
      machine.total (activeSeconds (.sub subscriber planKey)) (chain.step opening) txs +
        machine.total (activeSeconds (.sub subscriber planKey)) before [closing] := by
    rw [advanced, metered]
    rfl
  rw [seconds] at settled
  have closedForm : (before.step closing).moved (.sub subscriber planKey) .settlement =
      min ended.depositedAmount.toNat
        ((machine.total (activeSeconds (.sub subscriber planKey)) (chain.step opening) txs +
          machine.total (activeSeconds (.sub subscriber planKey)) before [closing]) *
            ended.price.toNat / ended.period.toInt.toNat) := by
    rw [settled]
    exact Nat.min_comm _ _
  refine ⟨ended, endedAt, closedForm, ?_⟩
  rw [← closedForm]
  change (before.step closing).moved (.sub subscriber planKey) .refund = _
  omega

section Witness

open Sample

private theorem served_uncancelled {chain : Chain} {txs : List Tx}
    (allowed : machine.AllowsRun chain txs)
    (quiet : ∀ tx ∈ txs, tx.action.cancels subKey = false) :
    (uncancelled subKey).AllowsRun chain txs := by
  apply Machine.allowsRun_restrict allowed
  intro before tx member both
  rw [quiet tx member] at both
  cases both.1

/-- Eight seconds before a pause and two after it. -/
theorem final_settlement_served :
    ∃ sub, (machine.run genesis [createPlanTx, subscribeTx 0, chargeTx 5 none, pauseTx 8,
        resumeTx 20, cancelTx 22 none none]).ledger.account subKey =
          some (.subscription sub) ∧
      (machine.run genesis [createPlanTx, subscribeTx 0, chargeTx 5 none, pauseTx 8,
        resumeTx 20, cancelTx 22 none none]).moved subKey .settlement =
          min sub.depositedAmount.toNat (10 * sub.price.toNat / sub.period.toInt.toNat) := by
  have seconds : machine.total (activeSeconds subKey)
      ((machine.run genesis [createPlanTx]).step (subscribeTx 0))
      ([chargeTx 5 none, pauseTx 8, resumeTx 20] ++ [cancelTx 22 none none]) = 10 := by
    decide +kernel
  obtain ⟨sub, loaded, settlement, _⟩ := @final_settlement
    (machine.run genesis [createPlanTx]) subscriber.key planKey (subscribeTx 0)
    (cancelTx 22 none none) [chargeTx 5 none, pauseTx 8, resumeTx 20]
    ⟨genesis, [createPlanTx], genesis_isGenesis, allowsRun_of_clocks (by decide), rfl⟩
    (by decide) (by decide +kernel) (by decide +kernel)
    (served_uncancelled (allowsRun_of_clocks (by decide +kernel)) (by decide))
    (by decide) (by decide +kernel) (by decide +kernel)
  refine ⟨sub, loaded, ?_⟩
  rw [← seconds]
  exact settlement

end Witness

end Nakama
