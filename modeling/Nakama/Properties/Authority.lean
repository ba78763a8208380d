import Nakama.Refinement.Books
import Nakama.Properties.States

/-!
# Money goes to the two parties

Whoever signs and whatever accounts are passed: a vault pays its merchant or, in
`cancel`, its subscriber; nobody pays in for the subscriber; and the terms of a
subscription are those of its plan from `subscribe` to `cleanup`.
-/

namespace Nakama

/-- The wallet whose signature a transaction carries for the tokens that it moves. -/
def Action.signer? : Action → Option Pubkey
  | .program instruction => some instruction.signer
  | .spl (.transfer _ _ authority _) => some authority.key
  | .spl (.setOwner _ authority _) => some authority.key
  | .spl (.closeAccount _ authority) => some authority.key
  | .spl (.createAccount ..) => none

/-- The deposit on record, zero without a subscription. -/
def View.deposited (view : View) : Nat :=
  view.subscription.elim 0 (·.depositedAmount.toNat)

/-- The plan at an address names this token account since its `create_plan`. -/
def Chain.RecordedPayee (chain : Chain) (planKey ata : Pubkey) : Prop :=
  ∃ entry ∈ chain.log, ∃ accounts planId price period,
    entry.tx.action = .program (.createPlan accounts planId price period) ∧
    accounts.plan = planKey ∧ accounts.merchantAta = ata

namespace View

variable {key : Pubkey} {now : Int64} {action : Action} {before after : View}
  {delta : Route → Nat} {sub : Subscription Pubkey}

/-- Only `cleanup` removes a subscription. -/
theorem Step.kept (taken : View.Step key now action before after delta)
    (subAt : before.subscription = some sub) (uncleaned : action.cleans key = false) :
    ∃ next, after.subscription = some next := by
  cases taken with
  | cleanup target => simp [Action.cleans, target] at uncleaned
  | openSession => exact ⟨sub, subAt⟩
  | closeSession => exact ⟨sub, subAt⟩
  | donate => exact ⟨sub, subAt⟩
  | other => exact ⟨sub, subAt⟩
  | _ => exact ⟨_, rfl⟩

/-- A deposit grows in an instruction that the subscriber signed. -/
theorem Step.deposit_signed (taken : View.Step key now action before after delta)
    (grows : before.deposited < after.deposited) :
    ∃ instruction sub, action = .program instruction ∧ after.subscription = some sub ∧
      instruction.signer = sub.subscriber := by
  cases taken with
  | subscribe _ signed => exact ⟨_, _, rfl, rfl, signed.symm⟩
  | topUp _ signed => exact ⟨_, _, rfl, rfl, signed.symm⟩
  | recover _ signed => exact ⟨_, _, rfl, rfl, signed.symm⟩
  | charge _ found => simp [deposited, found] at grows
  | exhaust _ found => simp [deposited, found] at grows
  | settleUsage _ _ found => simp [deposited, found] at grows
  | pause _ _ found => simp [deposited, found] at grows
  | resume _ _ found => simp [deposited, found] at grows
  | cancel _ _ found => simp [deposited, found] at grows
  | cleanup => simp [deposited] at grows
  | openSession => exact (lt_irrefl _ grows).elim
  | closeSession => exact (lt_irrefl _ grows).elim
  | donate => exact (lt_irrefl _ grows).elim
  | other => exact (lt_irrefl _ grows).elim

end View

namespace Chain

variable {chain : Chain} {subscriber planKey : Pubkey} {sub : Subscription Pubkey}

/-- Along a run without `cleanup` the subscription stays, with its terms. -/
theorem Invariant.terms_of_run (invariant : chain.Invariant)
    (loaded : chain.ledger.account (.sub subscriber planKey) = some (.subscription sub))
    {txs : List Tx}
    (allowed : (uncleaned (.sub subscriber planKey)).AllowsRun chain txs) :
    ∃ later, (machine.run chain txs).ledger.account (.sub subscriber planKey) =
        some (.subscription later) ∧
      later.terms = sub.terms := by
  have result : (machine.run chain txs).Invariant ∧ ∃ later,
      ((machine.run chain txs).view (.sub subscriber planKey)).subscription = some later ∧
        later.terms = sub.terms := by
    apply @Machine.run_invariant _ _ (uncleaned (.sub subscriber planKey))
      (fun reached => reached.Invariant ∧ ∃ later,
        (reached.view (.sub subscriber planKey)).subscription = some later ∧
          later.terms = sub.terms) ?_ chain txs allowed
    · exact ⟨invariant, sub, Ledger.view_subscription.mpr loaded, rfl⟩
    · rintro before tx ⟨sound, current, currentAt, same⟩ ⟨ordered, kept⟩
      refine ⟨sound.step ordered, ?_⟩
      change ∃ later, ((before.step tx).view (.sub subscriber planKey)).subscription =
        some later ∧ later.terms = sub.terms
      rcases @step_cases before subscriber planKey sound.wellFormed tx with
        ⟨_, unchanged⟩ | ⟨outcome, executed, _, taken⟩
      · rw [unchanged]
        exact ⟨current, currentAt, same⟩
      · have noCleanup : tx.action.cleans (.sub subscriber planKey) = false := by
          cases cleans : tx.action.cleans (.sub subscriber planKey) with
          | false => rfl
          | true => exact (kept ⟨cleans, outcome, executed⟩).elim
        obtain ⟨later, laterAt⟩ := taken.kept currentAt noCleanup
        exact ⟨later, laterAt, (taken.terms currentAt laterAt).trans same⟩
  obtain ⟨_, later, laterAt, same⟩ := result
  exact ⟨later, Ledger.view_subscription.mp laterAt, same⟩

/-- The payee of a plan in the ledger was recorded by its `create_plan`. -/
theorem Documented.recordedPayee (documented : chain.Documented) {plan : Plan Pubkey}
    (planAt : chain.ledger.account planKey = some (.plan plan)) :
    chain.RecordedPayee planKey plan.merchantAta := by
  obtain ⟨entry, member, accounts, planId, price, period, action, address, written⟩ :=
    documented.plans planKey plan planAt
  refine ⟨entry, member, accounts, planId, price, period, action, address, ?_⟩
  rw [written]
  rfl

section Transaction

variable {tx : Tx} {outcome : Outcome} {transfer : Transfer}
  (executed : tx.action.execute chain.ledger tx.now = .ok outcome)
  (member : transfer ∈ outcome.transfers)

include executed member

theorem payee_of_debit (wellFormed : chain.ledger.WellFormed) (documented : chain.Documented)
    {subscription : Pubkey} (source : transfer.source = .vault subscription) :
    ∃ subscriber planKey, subscription = .sub subscriber planKey ∧
      (chain.RecordedPayee planKey transfer.destination ∨
        ∃ accounts token, tx.action = .program (.cancel accounts) ∧
          accounts.subscription = subscription ∧
          chain.ledger.account transfer.destination = some (.token token) ∧
          token.owner = subscriber) := by
  cases action : tx.action with
  | spl instruction =>
      rw [action] at executed
      have outside := spl_source wellFormed executed member
      rw [source] at outside
      cases outside
  | program instruction =>
      rw [action] at executed
      cases effect_payment wellFormed (execute_effect executed) member with
      | deposit _ _ _ _ _ _ outside =>
          rw [source] at outside
          cases outside
      | @settlement subscriber planKey _ _ _ sourceAt planAt destination =>
          rw [source, Pubkey.vault.injEq] at sourceAt
          refine ⟨subscriber, planKey, sourceAt, .inl ?_⟩
          rw [destination]
          exact documented.recordedPayee planAt
      | @refund subscriber planKey token accounts _ cancels _ target _ sourceAt destination
          owner =>
          rw [source, Pubkey.vault.injEq] at sourceAt
          refine ⟨subscriber, planKey, sourceAt, .inr ⟨accounts, token, ?_, ?_, destination,
            owner⟩⟩
          · rw [cancels]
          · rw [target, sourceAt]

/-- Tokens leave the account of a wallet with its signature only. -/
theorem signer_of_debit (wellFormed : chain.ledger.WellFormed) {token : TokenAccount}
    (loaded : chain.ledger.account transfer.source = some (.token token))
    (wallet : token.owner.isExternal = true) : tx.action.signer? = some token.owner := by
  cases action : tx.action with
  | spl instruction =>
      rw [action] at executed
      obtain ⟨authority, found, rfl, _, foundAt, owned⟩ := spl_movement executed member
      rw [foundAt] at loaded
      cases loaded
      rw [owned]
      rfl
  | program instruction =>
      rw [action] at executed
      have notVault : ∀ subscriber planKey : Pubkey,
          transfer.source ≠ .vault (.sub subscriber planKey) := by
        intro subscriber planKey sourceAt
        have outside := wellFormed.token_external loaded rfl wallet
        rw [sourceAt] at outside
        cases outside
      cases effect_payment wellFormed (execute_effect executed) member with
      | deposit _ signed _ _ source owner =>
          rw [source] at loaded
          cases loaded
          rw [owner, ← signed]
          rfl
      | settlement _ _ source => exact (notVault _ _ source).elim
      | refund _ _ _ _ source => exact (notVault _ _ source).elim

theorem payer_of_credit (wellFormed : chain.ledger.WellFormed)
    (destination : transfer.destination = .vault (.sub subscriber planKey)) :
    (∃ instruction token, tx.action = .program instruction ∧
        instruction.signer = subscriber ∧
        chain.ledger.account transfer.source = some (.token token) ∧
        token.owner = subscriber) ∨
      ∃ source authority amount,
        tx.action = .spl (.transfer source transfer.destination authority amount) := by
  cases action : tx.action with
  | spl instruction =>
      rw [action] at executed
      obtain ⟨authority, _, rfl, _⟩ := spl_movement executed member
      exact .inr ⟨transfer.source, authority, transfer.amount, rfl⟩
  | program instruction =>
      rw [action] at executed
      cases effect_payment wellFormed (execute_effect executed) member with
      | deposit _ signed _ vault source owner =>
          rw [vault, Pubkey.vault.injEq, Pubkey.sub.injEq] at destination
          obtain ⟨rfl, rfl⟩ := destination
          exact .inl ⟨instruction, _, rfl, signed, source, owner⟩
      | settlement _ _ _ planAt payee =>
          have outside := wellFormed.plan_ata planAt
          rw [← payee, destination] at outside
          cases outside
      | refund _ _ _ _ _ _ _ outside =>
          rw [destination] at outside
          cases outside

end Transaction

/-- The fields of a subscription that `subscribe` took from its plan or derived. -/
theorem snapshot_of_plan (wellFormed : chain.ledger.WellFormed)
    (loaded : chain.ledger.account (.sub subscriber planKey) = some (.subscription sub)) :
    ∃ plan, chain.ledger.account planKey = some (.plan plan) ∧
      sub.subscriber = subscriber ∧ sub.plan = planKey ∧
      sub.price = plan.price ∧ sub.period = plan.period ∧ sub.tokenMint = plan.tokenMint ∧
      sub.merchant = plan.merchant ∧ sub.merchantAta = plan.merchantAta ∧
      sub.ratePerSecond.toNat = plan.price.toNat / plan.period.toInt.toNat ∧
      sub.bump = chain.ledger.bump (.sub subscriber planKey) ∧
      sub.vaultBump = chain.ledger.bump (.vault (.sub subscriber planKey)) ∧
      sub.reserved = Reserved.zero := by
  cases wellFormed _ _ loaded with
  | @subscription _ plan address planAt _ terms payee rate _ bumps reserved =>
      rw [Pubkey.sub.injEq] at address
      refine ⟨plan, ?_, address.1.symm, address.2.symm, terms.1, terms.2.1, terms.2.2, payee.1,
        payee.2, rate, bumps.1, bumps.2, reserved⟩
      rw [address.2]
      exact planAt

end Chain

/-- In every reachable chain: a transaction changes balances as its transfers say; a
vault pays the token account that `create_plan` recorded or, in its `cancel`, one that
the subscriber owns; a deposit grows, and tokens of a wallet move, with that wallet's
signature; and until `cleanup` a subscription keeps its terms, which are its plan's. -/
theorem money_to_parties {chain : Chain} (reachable : machine.Reachable chain) :
    (∀ (tx : Tx) outcome, tx.action.execute chain.ledger tx.now = .ok outcome →
      Booked chain.ledger outcome.ledger outcome.transfers ∧
      (∀ transfer ∈ outcome.transfers, ∀ subscription,
        transfer.source = .vault subscription →
        ∃ subscriber planKey, subscription = .sub subscriber planKey ∧
          (chain.RecordedPayee planKey transfer.destination ∨
            ∃ accounts token, tx.action = .program (.cancel accounts) ∧
              accounts.subscription = subscription ∧
              chain.ledger.account transfer.destination = some (.token token) ∧
              token.owner = subscriber)) ∧
      (∀ subscriber planKey,
        (chain.view (.sub subscriber planKey)).deposited <
            (outcome.ledger.view (.sub subscriber planKey)).deposited →
          ∃ instruction, tx.action = .program instruction ∧
            instruction.signer = subscriber) ∧
      (∀ transfer ∈ outcome.transfers, ∀ subscriber planKey,
        transfer.destination = .vault (.sub subscriber planKey) →
        (∃ instruction token, tx.action = .program instruction ∧
            instruction.signer = subscriber ∧
            chain.ledger.account transfer.source = some (.token token) ∧
            token.owner = subscriber) ∨
          ∃ source authority amount,
            tx.action = .spl (.transfer source transfer.destination authority amount)) ∧
      (∀ transfer ∈ outcome.transfers, ∀ token,
        chain.ledger.account transfer.source = some (.token token) →
        token.owner.isExternal = true → tx.action.signer? = some token.owner)) ∧
    (∀ subscriber planKey sub,
      chain.ledger.account (.sub subscriber planKey) = some (.subscription sub) →
      (∀ txs, (uncleaned (.sub subscriber planKey)).AllowsRun chain txs →
        ∃ later, (machine.run chain txs).ledger.account (.sub subscriber planKey) =
            some (.subscription later) ∧
          later.terms = sub.terms) ∧
      ∃ plan, chain.ledger.account planKey = some (.plan plan) ∧
        sub.subscriber = subscriber ∧ sub.plan = planKey ∧
        sub.price = plan.price ∧ sub.period = plan.period ∧ sub.tokenMint = plan.tokenMint ∧
        sub.merchant = plan.merchant ∧ sub.merchantAta = plan.merchantAta ∧
        sub.ratePerSecond.toNat = plan.price.toNat / plan.period.toInt.toNat ∧
        sub.bump = chain.ledger.bump (.sub subscriber planKey) ∧
        sub.vaultBump = chain.ledger.bump (.vault (.sub subscriber planKey)) ∧
        sub.reserved = Reserved.zero) := by
  have invariant := Chain.Invariant.of_reachable reachable
  have wellFormed := invariant.wellFormed
  have documented := Chain.Documented.of_reachable reachable
  constructor
  · intro tx outcome executed
    refine ⟨action_booked wellFormed executed, ?_, ?_, ?_, ?_⟩
    · intro transfer member subscription source
      exact Chain.payee_of_debit executed member wellFormed documented source
    · intro subscriber planKey grows
      have taken : View.Step (.sub subscriber planKey) tx.now tx.action
          (chain.view (.sub subscriber planKey))
          (outcome.ledger.view (.sub subscriber planKey)) _ :=
        action_view_step wellFormed executed
      obtain ⟨instruction, sub, action, subAt, signed⟩ := taken.deposit_signed grows
      have after := (action_evolves wellFormed executed).wellFormed
      obtain ⟨owner, _⟩ := after.sub_parties (Ledger.view_subscription.mp subAt)
      exact ⟨instruction, action, signed.trans owner⟩
    · intro transfer member subscriber planKey destination
      exact Chain.payer_of_credit executed member wellFormed destination
    · intro transfer member token loaded wallet
      exact Chain.signer_of_debit executed member wellFormed loaded wallet
  · intro subscriber planKey sub loaded
    constructor
    · intro txs allowed
      exact invariant.terms_of_run loaded allowed
    · exact Chain.snapshot_of_plan wellFormed loaded

section Witness

open Sample

/-- A stranger's `charge` pays the account that the merchant recorded. -/
theorem money_to_parties_charged :
    ((chargeTx 5 none).action.execute
        (machine.run genesis [createPlanTx, subscribeTx 0]).ledger 5).toOption.map
        (·.transfers) = some [⟨.settlement, .vault subKey, merchantAta, 50⟩] ∧
      (machine.run genesis [createPlanTx, subscribeTx 0]).RecordedPayee planKey
        merchantAta := by
  have reachable : machine.Reachable (machine.run genesis [createPlanTx, subscribeTx 0]) :=
    ⟨genesis, _, genesis_isGenesis, allowsRun_of_clocks (by decide), rfl⟩
  have listed : ((chargeTx 5 none).action.execute
      (machine.run genesis [createPlanTx, subscribeTx 0]).ledger 5).toOption.map
      (·.transfers) = some [⟨.settlement, .vault subKey, merchantAta, 50⟩] := by
    decide +kernel
  refine ⟨listed, ?_⟩
  obtain ⟨outcome, executed, transfers⟩ := Option.map_eq_some_iff.mp listed
  cases result : (chargeTx 5 none).action.execute
      (machine.run genesis [createPlanTx, subscribeTx 0]).ledger 5 with
  | error refusal =>
      rw [result] at executed
      cases executed
  | ok produced =>
      rw [result] at executed
      cases executed
      obtain ⟨_, debits, _⟩ :=
        (money_to_parties reachable).1 (chargeTx 5 none) outcome result
      obtain ⟨_, _, same, payee | ⟨_, _, cancels, _⟩⟩ :=
        debits ⟨.settlement, .vault subKey, merchantAta, 50⟩ (by simp [transfers]) subKey rfl
      · cases same
        exact payee
      · cases cancels

end Witness

end Nakama
