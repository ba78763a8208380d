import Nakama.Refinement.Schedule

/-!
# Keepers and facilitators do not influence the split

Two lives of a subscription with the same `subscribe`, `pause`, `resume`, `top_up` and
`cancel` steps pay the merchant and the subscriber the same, whatever `charge`,
`settle_usage` and session steps happen in between.
-/

namespace Nakama

/-- A whole life of a subscription to a plan, from its `subscribe` to its `cancel`, with no
`top_up` after the deposit was earned. -/
structure Served (subscriber planKey : Pubkey) (plan : Plan Pubkey) (chain : Chain)
    (opening : Tx) (txs : List Tx) (closing : Tx) : Prop where
  reachable : machine.Reachable chain
  planAt : chain.ledger.account planKey = some (.plan plan)
  opens : opening.action.subscribes (.sub subscriber planKey) = true
  openingOrdered : machine.allows chain opening
  opened : chain.Succeeds opening
  served : (timely (.sub subscriber planKey)).AllowsRun (chain.step opening) txs
  cancels : closing.action.cancels (.sub subscriber planKey) = true
  closingOrdered : machine.allows (machine.run (chain.step opening) txs) closing
  closed : (machine.run (chain.step opening) txs).Succeeds closing

/-- The meter that a `subscribe` to a plan starts. -/
def Tx.meter (plan : Plan Pubkey) (tx : Tx) : Meter where
  anchor := tx.now.toInt
  frozen := none
  deposited :=
    match tx.action with
    | .program (.subscribe _ periodsToPrefund) =>
        plan.price.toNat * periodsToPrefund.toNat
    | _ => 0

namespace Served

variable {subscriber planKey : Pubkey} {plan : Plan Pubkey} {chain : Chain}
  {opening closing : Tx} {txs : List Tx}

theorem starts (life : Served subscriber planKey plan chain opening txs closing) :
    ∃ terms, terms.price = plan.price ∧ terms.period = plan.period ∧
      terms.merchant = plan.merchant ∧
      (chain.step opening).Follows (.sub subscriber planKey) terms (opening.meter plan) := by
  have invariant := Chain.Invariant.of_reachable life.reachable
  have stepped := invariant.step life.openingOrdered
  have planAt := (Chain.step_evolves invariant.wellFormed opening).keeps.plans planKey plan
    life.planAt
  obtain ⟨_, taken⟩ := @Chain.step_view chain subscriber planKey invariant.wellFormed opening
    life.opened
  obtain ⟨accounts, periodsToPrefund, action, target⟩ :=
    Action.subscribes_eq_true.mp life.opens
  rw [action] at taken
  generalize afterEq : (chain.step opening).view (.sub subscriber planKey) = after at taken
  cases taken with
  | @subscribe _ _ _ sub _ _ _ _ _ _ active clocks _ _ depositedEq =>
      have subAt : ((chain.step opening).view (.sub subscriber planKey)).subscription =
          some sub := by
        rw [afterEq]
      have loaded := Ledger.view_subscription.mp subAt
      obtain ⟨source, sourceAt, price, period, _, merchant, _⟩ :=
        stepped.wellFormed.sub_plan loaded
      rw [(stepped.wellFormed.sub_parties loaded).2] at sourceAt
      cases sourceAt.symm.trans planAt
      have meterEq : opening.meter plan =
          ⟨sub.streamStart.toInt, none, sub.depositedAmount.toNat⟩ := by
        rw [Tx.meter, action, clocks.1, depositedEq, price]
      rw [meterEq]
      exact ⟨sub.terms, price, period, merchant, stepped, sub, ⟨subAt, .inl active⟩, rfl,
        .streaming active⟩
  | other elsewhere =>
      simp [Action.subscription?, Instruction.subscription?, target] at elsewhere

/-- The whole split is a function of the plan, the `subscribe`, the controls and the moment
of the `cancel`. -/
theorem pays (life : Served subscriber planKey plan chain opening txs closing) {meter : Meter}
    (driven : meter = (controls (.sub subscriber planKey) (chain.step opening) txs).foldl
      (Control.apply plan.merchant (.sub subscriber planKey)) (opening.meter plan)) :
    (machine.run (chain.step opening) (txs ++ [closing])).moved (.sub subscriber planKey)
        .settlement =
      meter.unlocked plan.price.toNat plan.period.toInt.toNat closing.now.toInt ∧
    (machine.run (chain.step opening) (txs ++ [closing])).moved (.sub subscriber planKey)
        .refund =
      meter.deposited -
        meter.unlocked plan.price.toNat plan.period.toInt.toNat closing.now.toInt := by
  obtain ⟨terms, price, period, merchant, start⟩ := life.starts
  have follows := start.run life.served
  rw [merchant, ← driven] at follows
  obtain ⟨sub, running, same, stream⟩ := follows.stream
  have sound := follows.invariant.sound subscriber planKey
  have advanced := stream.advance sound running life.closingOrdered
  have reached := ((life.reachable.step life.openingOrdered).run
    (Machine.allowsRun_of_restrict (Machine.allowsRun_of_restrict life.served))).step
      life.closingOrdered
  have serving : (machine.run (chain.step opening) txs).Serving (.sub subscriber planKey) :=
    ⟨follows.invariant, sub, running⟩
  obtain ⟨ended, _, settled, shared, kept⟩ := serving.settled
    (Chain.Explained.of_reachable reached) life.cancels life.closingOrdered life.closed
  obtain ⟨sameTerms, sameDeposit⟩ := kept sub running.1
  have unlocked := advanced.unlocked_eq running.1
  rw [show sub.price = plan.price from (congrArg Terms.price same).trans price,
    show sub.period = plan.period from (congrArg Terms.period same).trans period] at unlocked
  rw [show ended.price = plan.price from
      (congrArg Terms.price (sameTerms.trans same)).trans price,
    show ended.period = plan.period from
      (congrArg Terms.period (sameTerms.trans same)).trans period,
    sameDeposit, unlocked] at settled
  rw [sameDeposit, ← advanced.deposited_eq] at shared
  rw [Machine.run_append]
  change (Chain.step _ closing).moved _ _ = _ ∧ (Chain.step _ closing).moved _ _ = _
  exact ⟨settled, by omega⟩

end Served

section Witness

open Sample

end Witness

end Nakama
