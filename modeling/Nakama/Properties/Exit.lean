import Nakama.Refinement.Metering
import Nakama.Properties.Cancellation

/-!
# The merchant and the subscriber's exit

`cancel` loads the `merchant_ata` of the plan as a live token account even when nothing is
owed to the merchant, and it can close the vault only when it holds no foreign unit.  Both
are in the merchant's hands: the account is his to close, and anyone may pay into a vault.
Nothing else that he does alone stands between the subscriber and his refund.
-/

namespace Nakama

open Guard Ledger

/-- The action is one of the merchant alone: a `pause`, a `resume`, or an SPL Token
instruction under his authority. -/
def Action.byMerchant (merchant : Pubkey) : Action → Bool
  | .program (.pause accounts) => accounts.merchant.key = merchant
  | .program (.resume accounts) => accounts.merchant.key = merchant
  | .program _ => false
  | .spl (.transfer _ _ authority _) => authority.key = merchant
  | .spl (.setOwner _ authority _) => authority.key = merchant
  | .spl (.closeAccount _ authority) => authority.key = merchant
  | .spl (.createAccount ..) => true

/-- The action closes a token account. -/
def Action.closes (account : Pubkey) : Action → Bool
  | .spl (.closeAccount closed _) => closed = account
  | _ => false

/-- The chain in which only the merchant acts. -/
def merchantAlone (merchant : Pubkey) : Machine Chain Tx :=
  machine.restrict fun _ tx => tx.action.byMerchant merchant = true

/-- The accounts of a `cancel` as the subscriber passes them: the right addresses, the
satellite of the present state, and a token account of his own. -/
structure Cancel.Addressed (accounts : Cancel) (ledger : Ledger)
    (sub : Subscription Pubkey) : Prop where
  subscription : ledger.account accounts.subscription = some (.subscription sub)
  signer : accounts.signer.key = sub.subscriber
  subscriber : accounts.subscriber = sub.subscriber
  vault : accounts.vault = .vault accounts.subscription
  merchantAta : accounts.merchantAta = sub.merchantAta
  subscriberToken : ∃ token, ledger.account accounts.subscriberAta = some (.token token) ∧
    token.mint = sub.tokenMint ∧ token.owner = sub.subscriber
  graced : accounts.gracedSubscription =
    if sub.state = .gracePeriod then some (.grace accounts.subscription) else none
  paused : accounts.pausedSubscription =
    if sub.state = .paused then some (.pausedSub accounts.subscription) else none

/-- The account is a live token account of the mint. -/
def Ledger.Receives (ledger : Ledger) (ata mint : Pubkey) : Prop :=
  ∃ token, ledger.account ata = some (.token token) ∧ token.mint = mint

theorem Cancel.Addressed.right {accounts : Cancel} {ledger : Ledger}
    {sub : Subscription Pubkey} (addressed : accounts.Addressed ledger sub)
    (live : ledger.Receives sub.merchantAta sub.tokenMint) : accounts.Right ledger sub where
  subscription := addressed.subscription
  subscriber := addressed.subscriber
  vault := addressed.vault
  merchantAta := addressed.merchantAta
  merchantToken := by
    rw [addressed.merchantAta]
    exact live
  subscriberToken := addressed.subscriberToken
  graced := addressed.graced
  paused := addressed.paused

/-- A `cancel` that succeeds found the merchant's token account alive. -/
theorem receives_of_cancel {ledger : Ledger} {now : Int64} {accounts : Cancel}
    {outcome : Outcome} {sub : Subscription Pubkey}
    (executed : cancel ledger now accounts = .ok outcome)
    (loaded : ledger.account accounts.subscription = some (.subscription sub)) :
    ledger.Receives sub.merchantAta sub.tokenMint := by
  simp only [cancel, Cancel.tryAccounts, bind_eq_ok, require_eq_ok, exists_const,
    loadSubscription_eq_ok, loadToken_eq_ok, requireMint, pure_eq_ok] at executed
  obtain ⟨_, ⟨found, foundAt, _, _, token, tokenAt, _, _, _, _, _, _, _, _, _, _, _, _, _, _,
    _, _, address, mint, _⟩, _⟩ := executed
  cases loaded.symm.trans foundAt
  rw [address] at tokenAt
  exact ⟨token, tokenAt, mint⟩

namespace View

variable {key merchant : Pubkey} {now : Int64} {action : Action} {before after : View}
  {delta : Route → Nat} {sub : Subscription Pubkey}

/-- Alone the merchant neither ends a running subscription nor changes its counters. -/
theorem Step.byMerchant (taken : View.Step key now action before after delta)
    (alone : action.byMerchant merchant = true) (running : before.Running sub) :
    ∃ next, after.Running next ∧ next.terms = sub.terms ∧
      next.depositedAmount = sub.depositedAmount ∧
      next.withdrawnAmount = sub.withdrawnAmount := by
  obtain ⟨subAt, state⟩ := running
  cases taken with
  | pause _ _ found =>
      cases found.symm.trans subAt
      exact ⟨_, ⟨rfl, .inr (.inl rfl)⟩, rfl, rfl, rfl⟩
  | resume _ _ found =>
      cases found.symm.trans subAt
      exact ⟨_, ⟨rfl, .inl rfl⟩, rfl, rfl, rfl⟩
  | donate => exact ⟨sub, ⟨subAt, state⟩, rfl, rfl, rfl⟩
  | other => exact ⟨sub, ⟨subAt, state⟩, rfl, rfl, rfl⟩
  | _ => cases alone

/-- A `cancel` refunds the deposit less what is unlocked at the settlement moment. -/
theorem Step.cancel_refunds {accounts : Cancel}
    (taken : View.Step key now (.program (.cancel accounts)) before after delta)
    (target : accounts.subscription = key) (subAt : before.subscription = some sub) :
    ∃ moment, before.SettlesAt now sub.state moment ∧
      delta .refund = sub.depositedAmount.toNat - sub.unlockedBy moment := by
  cases taken with
  | cancel _ _ found _ settles _ _ unlocked refundEq =>
      cases found.symm.trans subAt
      refine ⟨_, settles, ?_⟩
      simp
      omega
  | other elsewhere =>
      simp [Action.subscription?, Instruction.subscription?, target] at elsewhere

end View

/-- Alone the merchant removes a token account only by closing it. -/
theorem receives_byMerchant {ledger : Ledger} {now : Int64} {action : Action}
    {outcome : Outcome} {merchant ata mint : Pubkey}
    (executed : action.execute ledger now = .ok outcome)
    (alone : action.byMerchant merchant = true) (kept : action.closes ata = false)
    (live : ledger.Receives ata mint) : outcome.ledger.Receives ata mint := by
  obtain ⟨token, tokenAt, mintEq⟩ := live
  -- An address with another account, or with none, is not that of the token account.
  have elsewhere {key : Pubkey} {content : Option Account} (found : ledger.account key = content)
      (noToken : content ≠ some (.token token)) : ata ≠ key := by
    rintro rfl
    exact noToken (found.symm.trans tokenAt)
  cases action with
  | program instruction =>
      have effect : Effect ledger now instruction outcome := execute_effect executed
      cases effect with
      | pause loaded _ _ _ vacant =>
          refine ⟨token, ?_, mintEq⟩
          rw [set_account_of_ne _ _ (elsewhere loaded (by simp)),
            set_account_of_ne _ _ (elsewhere vacant (by simp)), tokenAt]
      | resume loaded _ _ _ satellite =>
          refine ⟨token, ?_, mintEq⟩
          rw [close_account, if_neg (elsewhere satellite (by simp)),
            set_account_of_ne _ _ (elsewhere loaded (by simp)), tokenAt]
      | _ => cases alone
  | spl instruction =>
      cases instruction with
      | transfer =>
          simp only [Action.execute, SplInstruction.execute, bind_eq_ok, pure_eq_ok]
            at executed
          obtain ⟨moved, transferred, rfl⟩ := executed
          rcases transfer_account transferred ata with
            same | ⟨first, last, firstAt, lastAt, sameMint, _⟩
          · exact ⟨token, same.trans tokenAt, mintEq⟩
          · cases firstAt.symm.trans tokenAt
            exact ⟨last, lastAt, sameMint.trans mintEq⟩
      | setOwner account authority owner =>
          simp only [Action.execute, SplInstruction.execute, setOwner, bind_eq_ok,
            require_eq_ok, exists_const, loadToken_eq_ok, pure_eq_ok] at executed
          obtain ⟨_, ⟨found, foundAt, _, rfl⟩, rfl⟩ := executed
          by_cases same : ata = account
          · subst same
            cases foundAt.symm.trans tokenAt
            exact ⟨_, set_account_self _ _ _, mintEq⟩
          · exact ⟨token, (set_account_of_ne _ _ same).trans tokenAt, mintEq⟩
      | closeAccount account authority =>
          simp only [Action.execute, SplInstruction.execute, bind_eq_ok, pure_eq_ok]
            at executed
          obtain ⟨closed, closing, rfl⟩ := executed
          obtain ⟨_, _, _, _, rfl⟩ := closeToken_eq_ok.mp closing
          have different : ata ≠ account := by
            rintro rfl
            simp [Action.closes] at kept
          refine ⟨token, ?_, mintEq⟩
          rw [close_account, if_neg different, tokenAt]
      | createAccount account mint owner =>
          simp only [Action.execute, SplInstruction.execute, createToken, vacant, bind_eq_ok,
            require_eq_ok, exists_const, loadMint_eq_ok, pure_eq_ok] at executed
          obtain ⟨_, ⟨_, vacant, _, rfl⟩, rfl⟩ := executed
          refine ⟨token, ?_, mintEq⟩
          rw [set_account_of_ne _ _ (elsewhere vacant (by simp)), tokenAt]

namespace Chain

variable {chain : Chain} {subscriber planKey merchant : Pubkey} {sub : Subscription Pubkey}

/-- Whatever the merchant does alone, a running subscription keeps running under its terms
and counters. -/
theorem Invariant.byMerchant_run {txs : List Tx} (invariant : chain.Invariant)
    (running : (chain.view (.sub subscriber planKey)).Running sub)
    (alone : (merchantAlone merchant).AllowsRun chain txs) :
    ∃ left, ((machine.run chain txs).view (.sub subscriber planKey)).Running left ∧
      left.terms = sub.terms ∧ left.depositedAmount = sub.depositedAmount ∧
      left.withdrawnAmount = sub.withdrawnAmount := by
  induction txs generalizing chain sub with
  | nil => exact ⟨sub, running, rfl, rfl, rfl⟩
  | cons tx txs ih =>
      obtain ⟨⟨ordered, mine⟩, rest⟩ := alone
      have later : (chain.step tx).Invariant := invariant.step ordered
      have kept : ∃ next, ((chain.step tx).view (.sub subscriber planKey)).Running next ∧
          next.terms = sub.terms ∧ next.depositedAmount = sub.depositedAmount ∧
          next.withdrawnAmount = sub.withdrawnAmount := by
        rcases @step_cases chain subscriber planKey invariant.wellFormed tx with
          ⟨_, unchanged⟩ | ⟨_, _, _, taken⟩
        · rw [unchanged]
          exact ⟨sub, running, rfl, rfl, rfl⟩
        · exact taken.byMerchant mine running
      obtain ⟨next, nextRunning, terms, deposited, withdrawn⟩ := kept
      obtain ⟨left, leftRunning, leftTerms, leftDeposited, leftWithdrawn⟩ :=
        ih later nextRunning rest
      exact ⟨left, leftRunning, leftTerms.trans terms, leftDeposited.trans deposited,
        leftWithdrawn.trans withdrawn⟩

/-- The two things that the merchant can take away. -/
structure Leavable (chain : Chain) (key ata mint : Pubkey) : Prop where
  receives : chain.ledger.Receives ata mint
  unforeign : chain.moved key .foreign = 0

/-- He takes them away only by closing his account or by paying into the vault. -/
theorem Leavable.step {ata mint : Pubkey} {tx : Tx} (invariant : chain.Invariant)
    (leavable : chain.Leavable (.sub subscriber planKey) ata mint)
    (mine : tx.action.byMerchant merchant = true) (kept : tx.action.closes ata = false)
    (quiet : tx.action.donates (.sub subscriber planKey) = false) :
    (chain.step tx).Leavable (.sub subscriber planKey) ata mint := by
  constructor
  · rcases @step_cases chain subscriber planKey invariant.wellFormed tx with
      ⟨_, unchanged⟩ | ⟨outcome, executed, stepEq, _⟩
    · rw [unchanged]
      exact leavable.receives
    · rw [stepEq]
      exact receives_byMerchant executed mine kept leavable.receives
  · exact unforeign_step invariant.wellFormed quiet leavable.unforeign

theorem Leavable.run {ata mint : Pubkey} {txs : List Tx} (invariant : chain.Invariant)
    (leavable : chain.Leavable (.sub subscriber planKey) ata mint)
    (alone : (merchantAlone merchant).AllowsRun chain txs)
    (harmless : ∀ tx ∈ txs, tx.action.closes ata = false ∧
      tx.action.donates (.sub subscriber planKey) = false) :
    (machine.run chain txs).Leavable (.sub subscriber planKey) ata mint := by
  induction txs generalizing chain with
  | nil => exact leavable
  | cons tx txs ih =>
      obtain ⟨⟨ordered, mine⟩, rest⟩ := alone
      obtain ⟨kept, quiet⟩ := harmless tx List.mem_cons_self
      apply ih (invariant.step ordered) (leavable.step invariant mine kept quiet) rest
      intro other member
      exact harmless other (List.mem_cons_of_mem _ member)

end Chain

/-- Whatever the merchant does alone from any reachable running state: afterwards the
subscriber can `cancel` and gets the deposit less the unlocked amount if and only if he is
refunded elsewhere than on the merchant's token account, that account is live, no foreign
unit is in the vault and the age of the stream is an `i64`.  The second and the third the
merchant changes only by closing his account or by paying into the vault. -/
theorem exit_available_iff {chain : Chain} {subscriber planKey : Pubkey}
    {sub : Subscription Pubkey} {txs : List Tx} (reachable : machine.Reachable chain)
    (loaded : chain.ledger.account (.sub subscriber planKey) = some (.subscription sub))
    (running : sub.state = .active ∨ sub.state = .paused ∨ sub.state = .gracePeriod)
    (alone : (merchantAlone sub.merchant).AllowsRun chain txs) :
    ∃ left, (machine.run chain txs).ledger.account (.sub subscriber planKey) =
        some (.subscription left) ∧
      (left.state = .active ∨ left.state = .paused ∨ left.state = .gracePeriod) ∧
      left.terms = sub.terms ∧ left.depositedAmount = sub.depositedAmount ∧
      left.withdrawnAmount = sub.withdrawnAmount ∧
      (∀ now accounts, (machine.run chain txs).clock.toInt ≤ now.toInt →
        accounts.subscription = .sub subscriber planKey →
        accounts.Addressed (machine.run chain txs).ledger left →
        ((∃ outcome moment,
            cancel (machine.run chain txs).ledger now accounts = .ok outcome ∧
            ((machine.run chain txs).view (.sub subscriber planKey)).SettlesAt now left.state
              moment ∧
            volume (.vault (.sub subscriber planKey)) outcome.transfers .refund =
              left.depositedAmount.toNat - left.unlockedBy moment) ↔
          accounts.merchantAta ≠ accounts.subscriberAta ∧
            (machine.run chain txs).Leavable (.sub subscriber planKey) sub.merchantAta
              sub.tokenMint ∧
            ∃ moment, ((machine.run chain txs).view (.sub subscriber planKey)).SettlesAt now
                left.state moment ∧
              Checked.FitsI64 (moment.toInt - left.streamStart.toInt))) ∧
      (chain.Leavable (.sub subscriber planKey) sub.merchantAta sub.tokenMint →
        (∀ tx ∈ txs, tx.action.closes sub.merchantAta = false ∧
          tx.action.donates (.sub subscriber planKey) = false) →
        (machine.run chain txs).Leavable (.sub subscriber planKey) sub.merchantAta
          sub.tokenMint) := by
  have invariant := Chain.Invariant.of_reachable reachable
  have stillReachable := reachable.run (Machine.allowsRun_of_restrict alone)
  obtain ⟨left, ⟨leftAt, leftRunning⟩, terms, deposited, withdrawn⟩ :=
    invariant.byMerchant_run ⟨view_subscription.mpr loaded, running⟩ alone
  have ata : left.merchantAta = sub.merchantAta := congrArg Terms.merchantAta terms
  have mint : left.tokenMint = sub.tokenMint := congrArg Terms.tokenMint terms
  refine ⟨left, view_subscription.mp leftAt, leftRunning, terms, deposited, withdrawn, ?_, ?_⟩
  · intro now accounts ordered target addressed
    have leftInvariant := Chain.Invariant.of_reachable stillReachable
    constructor
    · rintro ⟨outcome, _, executed, _, _⟩
      have live := receives_of_cancel executed addressed.subscription
      obtain ⟨apart, fits⟩ := Chain.apart_age_of_cancel executed addressed.subscription
      rw [ata, mint] at live
      rw [target] at fits
      exact ⟨apart,
        ⟨live, Chain.foreign_of_cancel stillReachable target ⟨outcome, executed⟩⟩, fits⟩
    · rintro ⟨apart, ⟨live, quiet⟩, _, settling, fits⟩
      rw [← ata, ← mint] at live
      rw [← target] at quiet settling
      obtain ⟨outcome, executed⟩ := Chain.cancel_of_unforeign stillReachable ordered
        (addressed.right live) apart addressed.signer leftRunning quiet settling fits
      have taken := @action_view_step _ now outcome subscriber planKey
        leftInvariant.wellFormed (.program (.cancel accounts)) executed
      obtain ⟨moment, settles, refund⟩ := taken.cancel_refunds target leftAt
      exact ⟨outcome, moment, executed, settles, refund⟩
  · intro leavable harmless
    exact leavable.run invariant alone harmless

section Witness

open Sample

/-- The merchant closes the token account that the plan names. -/
def closeMerchantAtaTx (now : Int64) : Tx :=
  ⟨now, .spl (.closeAccount merchantAta merchant)⟩

/-- A pause does not keep the subscriber. -/
theorem exit_available_iff_paused :
    ∃ outcome, cancel (machine.run (machine.run genesis [createPlanTx, subscribeTx 0])
        [pauseTx 3]).ledger 5 (cancelAccounts none (some (.pausedSub subKey))) = .ok outcome := by
  have reachable : machine.Reachable (machine.run genesis [createPlanTx, subscribeTx 0]) :=
    ⟨genesis, _, genesis_isGenesis, allowsRun_of_clocks (by decide), rfl⟩
  obtain ⟨sub, subAt, fields⟩ := Option.map_eq_some_iff.mp
    (show ((machine.run genesis [createPlanTx, subscribeTx 0]).view subKey).subscription.map
      (fun sub => (sub.state, sub.merchant, sub.merchantAta, sub.tokenMint, sub.subscriber)) =
        some (.active, merchant.key, merchantAta, usdcMint, subscriber.key) by decide +kernel)
  simp only [Prod.mk.injEq] at fields
  obtain ⟨active, merchantEq, ataEq, mintEq, subscriberEq⟩ := fields
  have alone : (merchantAlone sub.merchant).AllowsRun
      (machine.run genesis [createPlanTx, subscribeTx 0]) [pauseTx 3] := by
    rw [merchantEq]
    exact ⟨⟨by decide +kernel, by decide⟩, trivial⟩
  obtain ⟨left, leftAt, _, terms, _, _, leaves, _⟩ := @exit_available_iff _ subscriber.key
    planKey sub _ reachable (view_subscription.mp subAt) (.inl active) alone
  obtain ⟨found, foundAt, leftFields⟩ := Option.map_eq_some_iff.mp
    (show ((machine.run (machine.run genesis [createPlanTx, subscribeTx 0])
      [pauseTx 3]).view subKey).subscription.map (fun sub => (sub.state, sub.streamStart)) =
        some (.paused, 0) by decide +kernel)
  cases (view_subscription.mp foundAt).symm.trans leftAt
  rw [Prod.mk.injEq] at leftFields
  obtain ⟨paused, started⟩ := leftFields
  obtain ⟨satellite, satelliteAt, pausedAt⟩ := Option.map_eq_some_iff.mp
    (show ((machine.run (machine.run genesis [createPlanTx, subscribeTx 0])
      [pauseTx 3]).view subKey).paused.map (·.pausedAt) = some 3 by decide +kernel)
  have sameSubscriber : left.subscriber = subscriber.key :=
    (congrArg Terms.subscriber terms).trans subscriberEq
  have addressed : (cancelAccounts none (some (.pausedSub subKey))).Addressed
      (machine.run (machine.run genesis [createPlanTx, subscribeTx 0]) [pauseTx 3]).ledger
      left := {
    subscription := leftAt
    signer := sameSubscriber.symm
    subscriber := sameSubscriber.symm
    vault := rfl
    merchantAta := ((congrArg Terms.merchantAta terms).trans ataEq).symm
    subscriberToken := by
      refine ⟨⟨usdcMint, subscriber.key, 800⟩, by decide +kernel, ?_, sameSubscriber.symm⟩
      exact ((congrArg Terms.tokenMint terms).trans mintEq).symm
    graced := by simp [paused, cancelAccounts]
    paused := by simp [paused, cancelAccounts] }
  have settles : ((machine.run (machine.run genesis [createPlanTx, subscribeTx 0])
      [pauseTx 3]).view subKey).SettlesAt 5 left.state satellite.pausedAt := by
    rw [paused]
    exact .paused satelliteAt
  obtain ⟨outcome, _, executed, _⟩ := (leaves 5 _ (by decide +kernel) rfl addressed).mpr
    ⟨by decide, ⟨by rw [ataEq, mintEq]; exact ⟨⟨usdcMint, merchant.key, 0⟩, by decide +kernel, rfl⟩,
      by decide +kernel⟩, _, settles, by rw [pausedAt, started]; decide⟩
  exact ⟨outcome, executed⟩

/-- The merchant closes his empty token account one second after `subscribe`, and no
`cancel` of the running subscription succeeds any more, whatever is passed to it. -/
theorem closed_ata_blocks_exit :
    machine.Reachable (machine.run genesis [createPlanTx, subscribeTx 0]) ∧
      (merchantAlone merchant.key).AllowsRun
        (machine.run genesis [createPlanTx, subscribeTx 0]) [closeMerchantAtaTx 1] ∧
      ((machine.run genesis [createPlanTx, subscribeTx 0, closeMerchantAtaTx 1]).view
        subKey).subscription.map (fun sub => (sub.state, sub.merchant)) =
          some (.active, merchant.key) ∧
      ∀ now accounts, accounts.subscription = subKey →
        ¬(machine.run genesis [createPlanTx, subscribeTx 0, closeMerchantAtaTx 1]).Succeeds
          ⟨now, .program (.cancel accounts)⟩ := by
  refine ⟨⟨genesis, _, genesis_isGenesis, allowsRun_of_clocks (by decide), rfl⟩,
    ⟨⟨by decide +kernel, by decide⟩, trivial⟩, by decide +kernel, ?_⟩
  rintro now accounts target ⟨outcome, executed⟩
  obtain ⟨sub, subAt, ataEq⟩ := Option.map_eq_some_iff.mp
    (show ((machine.run genesis [createPlanTx, subscribeTx 0, closeMerchantAtaTx 1]).view
      subKey).subscription.map (·.merchantAta) = some merchantAta by decide +kernel)
  have loaded := view_subscription.mp subAt
  rw [← target] at loaded
  obtain ⟨token, tokenAt, _⟩ := receives_of_cancel executed loaded
  rw [ataEq, show (machine.run genesis [createPlanTx, subscribeTx 0,
    closeMerchantAtaTx 1]).ledger.account merchantAta = none by decide +kernel] at tokenAt
  cases tokenAt

end Witness

end Nakama
