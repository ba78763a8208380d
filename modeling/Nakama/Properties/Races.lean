import Nakama.Properties.Facilitator
import Nakama.Refinement.Availability
import Nakama.Refinement.Solvency

/-!
# What changes between reading and acting

The handlers of the facilitator read accounts one at a time, and act on what they read when
the chain has moved on.  Both are judged against a chain that took any steps in between.
-/

namespace Nakama

/-- Who signs and in which mint is the same for every subscription that was ever stored at
an address. -/
theorem Ledger.Evolves.parties {before after : Ledger} (evolved : before.Evolves after)
    (wellFormed : before.WellFormed) {key : Pubkey} {stale sub : Subscription Pubkey}
    (staleAt : before.account key = some (.subscription stale))
    (loaded : after.account key = some (.subscription sub)) :
    sub.subscriber = stale.subscriber ∧ sub.tokenMint = stale.tokenMint := by
  have address := (wellFormed.sub_key staleAt).symm.trans (evolved.wellFormed.sub_key loaded)
  injection address with sameSubscriber samePlan
  obtain ⟨plan, planAt, _, _, staleMint, _⟩ := wellFormed.sub_plan staleAt
  obtain ⟨newer, newerAt, _, _, mint, _⟩ := evolved.wellFormed.sub_plan loaded
  have kept := evolved.keeps.plans _ _ planAt
  rw [samePlan, newerAt] at kept
  cases kept
  exact ⟨sameSubscriber.symm, mint.trans staleMint.symm⟩

theorem Subscription.seen_gracePeriod {Key : Type} (sub : Subscription Key) :
    sub.seen.stateByte = .gracePeriod ↔ sub.state = .gracePeriod := by
  rw [sub.seen_stateByte]
  cases sub.state <;> simp

namespace Chain

variable {chain : Chain}

/-- The accounts of a stored subscription agree, and a running one has its vault. -/
theorem Invariant.at_stored (invariant : chain.Invariant) {key : Pubkey}
    {sub : Subscription Pubkey}
    (loaded : chain.ledger.account key = some (.subscription sub)) :
    (chain.view key).Sound chain.clock ∧
      ((sub.state = .active ∨ sub.state = .paused ∨ sub.state = .gracePeriod) →
        ∃ vault, chain.ledger.account (.vault key) = some (.token vault)) := by
  have address := invariant.wellFormed.sub_key loaded
  subst address
  exact ⟨invariant.sound _ _, invariant.vault_of_running loaded⟩

end Chain

namespace Facilitator

open Guard

variable {sdk : Sdk} {config : Config} {demoSubscriber : Option Signer}

section Stale

variable {before : Chain} {txs : List Tx}

/-- A `top-up` that was prepared from one state of the subscription is executed in another,
after any transactions of anyone.  It goes through exactly if a running subscription is stored
then and is in grace if and only if it was when it was read, the account that the handler
derived has the amount, and neither the deposit nor the time in grace leaves its range.  The
signer and the derived account are right even if the subscription was closed and opened again
meanwhile. -/
theorem stale_topUp_succeeds_iff (reachable : machine.Reachable before)
    (allowed : machine.AllowsRun before txs) {accepted : Accepted config demoSubscriber}
    {prepared : Prepared config demoSubscriber} {stale : Subscription Pubkey}
    (staleAt : before.ledger.account accepted.subscription = some (.subscription stale))
    (prepares : prepareTopUp sdk accepted (before.ledger.account accepted.subscription) =
      .ok prepared) {now : Int64} (later : (machine.run before txs).clock.toInt ≤ now.toInt) :
    let after := machine.run before txs
    after.Succeeds (prepared.tx now) ↔
      ∃ sub, after.ledger.account accepted.subscription = some (.subscription sub) ∧
        (sub.state = .active ∨ sub.state = .paused ∨ sub.state = .gracePeriod) ∧
        (sub.state = .gracePeriod ↔ stale.state = .gracePeriod) ∧
        Funds after.ledger sub (sdk.getAssociatedTokenAddress sub.subscriber sub.tokenMint)
          accepted.amount ∧
        sub.depositedAmount.toNat + accepted.amount.toNat < 2 ^ 64 ∧
        ∀ graced ∈ (after.view accepted.subscription).graced,
          Checked.FitsI64 (now.toInt - graced.enteredGraceAt.toInt) := by
  intro after
  have invariant : after.Invariant := .of_reachable (reachable.run allowed)
  have wellFormed := (Chain.Invariant.of_reachable reachable).wellFormed
  have evolved : before.ledger.Evolves after.ledger := Chain.run_evolves wellFormed txs
  obtain ⟨_, answered, signed, rfl⟩ := prepareTopUp_eq_ok.mp prepares
  rw [staleAt] at answered
  cases answered
  have positive : 0 < accepted.amount.toNat := by
    rw [Nat.pos_iff_ne_zero]
    exact fun zero => accepted.positive (UInt64.toNat_inj.mp zero)
  have slot : ∀ sub : Subscription Pubkey,
      gracedSlot accepted.subscription stale.seen.stateByte =
        (if sub.state = .gracePeriod then some (.grace accepted.subscription) else none) ↔
      (sub.state = .gracePeriod ↔ stale.state = .gracePeriod) := by
    intro sub
    have state := stale.seen_gracePeriod
    unfold gracedSlot
    split <;> split <;> simp_all
  -- The exact condition of the handler, for the accounts that the stale answer led to.
  have accepts {sub : Subscription Pubkey} (loaded : after.ledger.account accepted.subscription =
      some (.subscription sub)) := by
    have stored := invariant.at_stored loaded
    exact @topUp_succeeds_iff after.ledger now sub
      (Prepared.accounts ⟨accepted, gracedSlot accepted.subscription stale.seen.stateByte,
        sdk.getAssociatedTokenAddress accepted.signer.key stale.tokenMint⟩)
      accepted.amount invariant.wellFormed (Chain.supply_of_reachable (reachable.run allowed))
      loaded (stored.1.advance later) stored.2
  constructor
  · rintro ⟨outcome, executed⟩
    obtain ⟨sub, loaded⟩ : ∃ sub, after.ledger.account accepted.subscription =
        some (.subscription sub) := by
      cases topUp_effect executed with
      | topUp found => exact ⟨_, found⟩
      | recover found => exact ⟨_, found⟩
    obtain ⟨sameSubscriber, sameMint⟩ := evolved.parties wellFormed staleAt loaded
    obtain ⟨running, _, _, attached, _, funds, room, fits⟩ :=
      (accepts loaded).mp ⟨outcome, executed⟩
    refine ⟨sub, loaded, running, (slot sub).mp attached, ?_, room, fits⟩
    rw [sameSubscriber, sameMint, ← signed]
    exact funds
  · rintro ⟨sub, loaded, running, sameSlot, funds, room, fits⟩
    obtain ⟨sameSubscriber, sameMint⟩ := evolved.parties wellFormed staleAt loaded
    rw [sameSubscriber, sameMint, ← signed] at funds
    exact (accepts loaded).mpr ⟨running, signed.trans sameSubscriber.symm, rfl,
      (slot sub).mpr sameSlot, positive, funds, room, fits⟩

end Stale

section Torn

variable {before : Chain} {txs : List Tx} {key : Pubkey}

end Torn

section Witness

open Sample

/-- The sample subscription as it is read, with a deposit for twenty seconds. -/
def sampleRead : Chain := machine.run genesis [createPlanTx, subscribeTx 0]

/-- After a charge that found the stream drained. -/
def sampleDrained : Chain := machine.run sampleRead [chargeTx 100 (some (.grace subKey))]

theorem sampleRead_reachable : machine.Reachable sampleRead :=
  ⟨genesis, _, genesis_isGenesis, allowsRun_of_clocks (by decide), rfl⟩

def sampleAccepted : Accepted sampleConfig (some subscriber) where
  subscription := subKey
  signer := subscriber
  amount := 50
  loaded := rfl
  positive := by decide
  capped := by decide

/-- A top-up that was prepared before the charge is refused. -/
theorem stale_topUp_succeeds_iff_drained :
    ¬sampleDrained.Succeeds (Prepared.tx ⟨sampleAccepted, none, subscriberAta⟩ 100) := by
  intro succeeds
  obtain ⟨sub, loaded, _, same, _⟩ := (@stale_topUp_succeeds_iff sampleSdk _ _ sampleRead
    [chargeTx 100 (some (.grace subKey))] sampleRead_reachable
    (allowsRun_of_clocks (by decide)) sampleAccepted _ _ rfl rfl 100 (by decide)).mp succeeds
  have drained : (sampleDrained.ledger.account subKey).any fun account =>
      account.asSubscription.any fun sub => sub.state = .gracePeriod := by
    decide +kernel
  change sampleDrained.ledger.account subKey = _ at loaded
  rw [loaded] at drained
  have active := same.mp (by simpa [Account.asSubscription] using drained)
  revert active
  decide +kernel

end Witness

end Facilitator

end Nakama
