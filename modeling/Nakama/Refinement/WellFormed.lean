import Nakama.Refinement.Effect

/-!
# Well-formed ledgers

Every account sits at the address that the program derives for its kind, and the
snapshots in subscriptions, vaults and sessions agree with their plan.  Plans are
never rewritten or closed, so the snapshots stay right whatever happens to the
accounts in between.
-/

namespace Nakama

open Guard Ledger

/-- The address is derived for a plan. -/
def Pubkey.isPlan : Pubkey → Bool
  | .plan .. => true
  | _ => false

/-- The fields of a subscription that only `subscribe` writes. -/
structure Terms (Key : Type) where
  subscriber : Key
  plan : Key
  price : UInt64
  period : Int64
  tokenMint : Key
  merchant : Key
  merchantAta : Key
  bump : UInt8
  vaultBump : UInt8
  createdAt : Int64
  ratePerSecond : UInt64
  reserved : Reserved
  deriving DecidableEq

def Subscription.terms {Key : Type} (sub : Subscription Key) : Terms Key where
  subscriber := sub.subscriber
  plan := sub.plan
  price := sub.price
  period := sub.period
  tokenMint := sub.tokenMint
  merchant := sub.merchant
  merchantAta := sub.merchantAta
  bump := sub.bump
  vaultBump := sub.vaultBump
  createdAt := sub.createdAt
  ratePerSecond := sub.ratePerSecond
  reserved := sub.reserved

/-- The account may be found at this address. -/
inductive Placed (ledger : Ledger) (key : Pubkey) : Account → Prop where
  | plan {plan : Plan Pubkey}
      (address : key = .plan plan.merchant plan.planId)
      (merchant : plan.merchant.isExternal = true)
      (merchantAta : plan.merchantAta.isExternal = true)
      (price : 0 < plan.price.toNat) (period : 0 < plan.period.toInt)
      (bump : plan.bump = ledger.bump key) :
      Placed ledger key (.plan plan)
  | subscription {sub : Subscription Pubkey} {plan : Plan Pubkey}
      (address : key = .sub sub.subscriber sub.plan)
      (planAt : ledger.account sub.plan = some (.plan plan))
      (subscriber : sub.subscriber.isExternal = true)
      (terms : sub.price = plan.price ∧ sub.period = plan.period ∧
        sub.tokenMint = plan.tokenMint)
      (payee : sub.merchant = plan.merchant ∧ sub.merchantAta = plan.merchantAta)
      (rate : sub.ratePerSecond.toNat = plan.price.toNat / plan.period.toInt.toNat)
      (ratePositive : 1 ≤ sub.ratePerSecond.toNat)
      (bumps : sub.bump = ledger.bump key ∧ sub.vaultBump = ledger.bump (.vault key))
      (reserved : sub.reserved = Reserved.zero) :
      Placed ledger key (.subscription sub)
  | graced {graced : GracedSubscription Pubkey}
      (address : key = .grace graced.subscription) :
      Placed ledger key (.graced graced)
  | paused {paused : PausedSubscription Pubkey}
      (address : key = .pausedSub paused.subscription)
      (bump : paused.bump = ledger.bump key) :
      Placed ledger key (.paused paused)
  | paySession {session : PaySession Pubkey} {subscriber planKey : Pubkey}
      {plan : Plan Pubkey}
      (address : key = .paySession session.subscription session.sessionId)
      (parent : session.subscription = .sub subscriber planKey)
      (planAt : ledger.account planKey = some (.plan plan))
      (payee : session.merchantAta = plan.merchantAta)
      (opened : session.state = PaySessionState.opened.toByte)
      (bump : session.bump = ledger.bump key) :
      Placed ledger key (.paySession session)
  | vault {token : TokenAccount} {subscriber planKey : Pubkey} {plan : Plan Pubkey}
      (address : key = .vault (.sub subscriber planKey))
      (owner : token.owner = .sub subscriber planKey)
      (planAt : ledger.account planKey = some (.plan plan))
      (mint : token.mint = plan.tokenMint) :
      Placed ledger key (.token token)
  | token {token : TokenAccount} (outside : key.isExternal = true) :
      Placed ledger key (.token token)
  | mint (outside : key.isExternal = true) : Placed ledger key .mint

/-- Every account is where it belongs. -/
def Ledger.WellFormed (ledger : Ledger) : Prop :=
  ∀ key account, ledger.account key = some account → Placed ledger key account

/-- The second ledger still has every plan of the first. -/
structure Ledger.KeepsPlans (before after : Ledger) : Prop where
  bumps : after.bump = before.bump
  plans : ∀ key plan, before.account key = some (.plan plan) →
    after.account key = some (.plan plan)

/-- Being well placed depends on the rest of the ledger through its plans only. -/
theorem Placed.mono {before after : Ledger} {key : Pubkey} {account : Account}
    (placed : Placed before key account) (keeps : before.KeepsPlans after) :
    Placed after key account := by
  obtain ⟨sameBumps, plans⟩ := keeps
  cases placed with
  | plan address merchant merchantAta price period bump =>
      rw [← sameBumps] at bump
      exact .plan address merchant merchantAta price period bump
  | subscription address planAt subscriber terms payee rate ratePositive bumps reserved =>
      rw [← sameBumps] at bumps
      exact .subscription address (plans _ _ planAt) subscriber terms payee rate
        ratePositive bumps reserved
  | graced address => exact .graced address
  | paused address bump =>
      rw [← sameBumps] at bump
      exact .paused address bump
  | paySession address parent planAt payee opened bump =>
      rw [← sameBumps] at bump
      exact .paySession address parent (plans _ _ planAt) payee opened bump
  | vault address owner planAt mint =>
      exact .vault address owner (plans _ _ planAt) mint
  | token outside => exact .token outside
  | mint outside => exact .mint outside

/-- The counters, clocks and state of a subscription are free to change. -/
theorem Placed.update {ledger : Ledger} {key : Pubkey} {sub changed : Subscription Pubkey}
    (placed : Placed ledger key (.subscription sub)) (same : changed.terms = sub.terms) :
    Placed ledger key (.subscription changed) := by
  simp only [Subscription.terms, Terms.mk.injEq] at same
  obtain ⟨sameSubscriber, samePlan, samePrice, samePeriod, sameMint, sameMerchant, sameAta,
    sameBump, sameVaultBump, _, sameRate, sameReserved⟩ := same
  cases placed with
  | subscription address planAt subscriber terms payee rate ratePositive bumps reserved =>
      rw [← sameSubscriber, ← samePlan] at address
      rw [← samePlan] at planAt
      rw [← sameSubscriber] at subscriber
      rw [← samePrice, ← samePeriod, ← sameMint] at terms
      rw [← sameMerchant, ← sameAta] at payee
      rw [← sameRate] at rate ratePositive
      rw [← sameBump, ← sameVaultBump] at bumps
      rw [← sameReserved] at reserved
      exact .subscription address planAt subscriber terms payee rate ratePositive bumps
        reserved

namespace Ledger.WellFormed

variable {ledger : Ledger}

/-! ## Where each kind of account is -/

theorem plan_key (wellFormed : ledger.WellFormed) {key : Pubkey} {plan : Plan Pubkey}
    (loaded : ledger.account key = some (.plan plan)) :
    key = .plan plan.merchant plan.planId := by
  cases wellFormed key _ loaded with
  | plan address => exact address

theorem plan_ata (wellFormed : ledger.WellFormed) {key : Pubkey} {plan : Plan Pubkey}
    (loaded : ledger.account key = some (.plan plan)) :
    plan.merchantAta.isExternal = true := by
  cases wellFormed key _ loaded with
  | plan _ _ merchantAta => exact merchantAta

theorem sub_key (wellFormed : ledger.WellFormed) {key : Pubkey}
    {sub : Subscription Pubkey}
    (loaded : ledger.account key = some (.subscription sub)) :
    key = .sub sub.subscriber sub.plan := by
  cases wellFormed key _ loaded with
  | subscription address => exact address

theorem sub_parties (wellFormed : ledger.WellFormed) {subscriber planKey : Pubkey}
    {sub : Subscription Pubkey}
    (loaded : ledger.account (.sub subscriber planKey) = some (.subscription sub)) :
    sub.subscriber = subscriber ∧ sub.plan = planKey := by
  have address := wellFormed.sub_key loaded
  rw [Pubkey.sub.injEq] at address
  exact ⟨address.1.symm, address.2.symm⟩

theorem sub_subscriber (wellFormed : ledger.WellFormed) {key : Pubkey}
    {sub : Subscription Pubkey}
    (loaded : ledger.account key = some (.subscription sub)) :
    sub.subscriber.isExternal = true := by
  cases wellFormed key _ loaded with
  | subscription _ _ subscriber => exact subscriber

/-- The snapshots of a subscription agree with its plan. -/
theorem sub_plan (wellFormed : ledger.WellFormed) {key : Pubkey}
    {sub : Subscription Pubkey}
    (loaded : ledger.account key = some (.subscription sub)) :
    ∃ plan, ledger.account sub.plan = some (.plan plan) ∧
      sub.price = plan.price ∧ sub.period = plan.period ∧ sub.tokenMint = plan.tokenMint ∧
      sub.merchant = plan.merchant ∧ sub.merchantAta = plan.merchantAta := by
  cases wellFormed key _ loaded with
  | @subscription _ plan _ planAt _ terms payee =>
      exact ⟨plan, planAt, terms.1, terms.2.1, terms.2.2, payee.1, payee.2⟩

theorem sub_bumps (wellFormed : ledger.WellFormed) {key : Pubkey}
    {sub : Subscription Pubkey}
    (loaded : ledger.account key = some (.subscription sub)) :
    sub.bump = ledger.bump key ∧ sub.vaultBump = ledger.bump (.vault key) := by
  cases wellFormed key _ loaded with
  | subscription _ _ _ _ _ _ _ bumps => exact bumps

theorem sub_merchantAta (wellFormed : ledger.WellFormed) {key : Pubkey}
    {sub : Subscription Pubkey}
    (loaded : ledger.account key = some (.subscription sub)) :
    sub.merchantAta.isExternal = true := by
  obtain ⟨plan, planAt, _, _, _, _, payee⟩ := wellFormed.sub_plan loaded
  rw [payee]
  exact wellFormed.plan_ata planAt

theorem sub_period (wellFormed : ledger.WellFormed) {key : Pubkey}
    {sub : Subscription Pubkey}
    (loaded : ledger.account key = some (.subscription sub)) :
    0 < sub.period.toInt := by
  obtain ⟨plan, planAt, _, period, _⟩ := wellFormed.sub_plan loaded
  cases wellFormed _ _ planAt with
  | plan _ _ _ _ positive => rwa [period]

/-- A stream earns at least one unit a second. -/
theorem sub_rate (wellFormed : ledger.WellFormed) {key : Pubkey}
    {sub : Subscription Pubkey}
    (loaded : ledger.account key = some (.subscription sub)) :
    sub.period.toInt.toNat ≤ sub.price.toNat := by
  cases wellFormed key _ loaded with
  | subscription _ _ _ terms _ rate ratePositive =>
      rw [rate] at ratePositive
      rw [terms.1, terms.2.1]
      exact (Nat.div_pos_iff.mp ratePositive).2

theorem paused_key (wellFormed : ledger.WellFormed) {key : Pubkey}
    {paused : PausedSubscription Pubkey}
    (loaded : ledger.account key = some (.paused paused)) :
    key = .pausedSub paused.subscription := by
  cases wellFormed key _ loaded with
  | paused address => exact address

theorem session_key (wellFormed : ledger.WellFormed) {key : Pubkey}
    {session : PaySession Pubkey} (loaded : ledger.account key = some (.paySession session)) :
    ∃ subscriber planKey sessionId, key = .paySession (.sub subscriber planKey) sessionId := by
  cases wellFormed key _ loaded with
  | @paySession _ subscriber planKey _ address parent =>
      rw [parent] at address
      exact ⟨subscriber, planKey, _, address⟩

/-- The payee of a session is the plan's, whatever became of the parent that the
session was opened under. -/
theorem session_plan (wellFormed : ledger.WellFormed) {subscriber planKey : Pubkey}
    {sessionId : UInt64} {session : PaySession Pubkey}
    (loaded : ledger.account (.paySession (.sub subscriber planKey) sessionId) =
      some (.paySession session)) :
    ∃ plan, ledger.account planKey = some (.plan plan) ∧
      session.merchantAta = plan.merchantAta := by
  cases wellFormed _ _ loaded with
  | @paySession _ _ _ plan address parent planAt payee =>
      rw [parent] at address
      cases address
      exact ⟨plan, planAt, payee⟩

/-- A token account that a wallet owns is not a vault. -/
theorem token_external (wellFormed : ledger.WellFormed) {key : Pubkey}
    {token : TokenAccount} {owner : Pubkey} (loaded : ledger.account key = some (.token token))
    (owned : token.owner = owner) (wallet : owner.isExternal = true) :
    key.isExternal = true := by
  cases wellFormed key _ loaded with
  | vault _ derived =>
      rw [← owned, derived] at wallet
      cases wallet
  | token outside => exact outside

/-- What is at a vault address is the vault of that subscription. -/
theorem vault_token (wellFormed : ledger.WellFormed) {subscriber planKey : Pubkey}
    {account : Account}
    (loaded : ledger.account (.vault (.sub subscriber planKey)) = some account) :
    ∃ token plan, account = .token token ∧ token.owner = .sub subscriber planKey ∧
      ledger.account planKey = some (.plan plan) ∧ token.mint = plan.tokenMint := by
  cases wellFormed _ _ loaded with
  | @vault token _ _ plan address owner planAt mint =>
      cases address
      exact ⟨token, plan, rfl, owner, planAt, mint⟩
  | plan address => cases address
  | subscription address => cases address
  | graced address => cases address
  | paused address => cases address
  | paySession address => cases address
  | token outside => cases outside
  | mint outside => cases outside

theorem vault_terms (wellFormed : ledger.WellFormed) {key : Pubkey}
    {sub : Subscription Pubkey} {vault : TokenAccount}
    (loaded : ledger.account key = some (.subscription sub))
    (vaultAt : ledger.account (.vault key) = some (.token vault)) :
    vault.mint = sub.tokenMint ∧ vault.owner = key := by
  have address := wellFormed.sub_key loaded
  rw [address] at vaultAt
  obtain ⟨token, plan, isToken, owner, planAt, mint⟩ := wellFormed.vault_token vaultAt
  cases isToken
  obtain ⟨sourcePlan, sourceAt, _, _, tokenMint, _⟩ := wellFormed.sub_plan loaded
  cases planAt.symm.trans sourceAt
  exact ⟨mint.trans tokenMint.symm, owner.trans address.symm⟩

theorem sub_of_key (wellFormed : ledger.WellFormed) {subscriber planKey : Pubkey}
    {account : Account} (loaded : ledger.account (.sub subscriber planKey) = some account) :
    ∃ sub, account = .subscription sub := by
  cases wellFormed _ _ loaded with
  | subscription => exact ⟨_, rfl⟩
  | plan address => cases address
  | graced address => cases address
  | paused address => cases address
  | paySession address => cases address
  | vault address => cases address
  | token outside => cases outside
  | mint outside => cases outside

theorem graced_of_key (wellFormed : ledger.WellFormed) {key : Pubkey} {account : Account}
    (loaded : ledger.account (.grace key) = some account) :
    ∃ graced, account = .graced graced := by
  cases wellFormed _ _ loaded with
  | graced => exact ⟨_, rfl⟩
  | plan address => cases address
  | subscription address => cases address
  | paused address => cases address
  | paySession address => cases address
  | vault address => cases address
  | token outside => cases outside
  | mint outside => cases outside

theorem paused_of_key (wellFormed : ledger.WellFormed) {key : Pubkey} {account : Account}
    (loaded : ledger.account (.pausedSub key) = some account) :
    ∃ paused, account = .paused paused := by
  cases wellFormed _ _ loaded with
  | paused => exact ⟨_, rfl⟩
  | plan address => cases address
  | subscription address => cases address
  | graced address => cases address
  | paySession address => cases address
  | vault address => cases address
  | token outside => cases outside
  | mint outside => cases outside

theorem ne_plan (wellFormed : ledger.WellFormed) {key : Pubkey}
    (notPlan : key.isPlan = false) (plan : Plan Pubkey) :
    ledger.account key ≠ some (.plan plan) := by
  intro loaded
  rw [wellFormed.plan_key loaded] at notPlan
  cases notPlan

end Ledger.WellFormed

/-! ## Preservation by the primitive writes -/

/-- A well-formed ledger after some writes that kept every plan. -/
structure Ledger.Evolves (before after : Ledger) : Prop where
  keeps : before.KeepsPlans after
  wellFormed : after.WellFormed

namespace Ledger.Evolves

variable {before after : Ledger}

theorem refl (wellFormed : before.WellFormed) : before.Evolves before :=
  ⟨⟨rfl, fun _ _ loaded => loaded⟩, wellFormed⟩

theorem trans {last : Ledger} (first : before.Evolves after) (second : after.Evolves last) :
    before.Evolves last := by
  refine ⟨⟨second.keeps.bumps.trans first.keeps.bumps, ?_⟩, second.wellFormed⟩
  intro key plan loaded
  exact second.keeps.plans key plan (first.keeps.plans key plan loaded)

/-- Any rewriting of the accounts, as long as no plan goes and what is new belongs
where it is. -/
theorem rewrite (evolved : before.Evolves after) {changed : Ledger}
    (sameBumps : changed.bump = after.bump)
    (plans : ∀ key plan, after.account key = some (.plan plan) →
      changed.account key = some (.plan plan))
    (placed : ∀ key account, changed.account key = some account →
      after.account key = some account ∨ Placed after key account) :
    before.Evolves changed := by
  have keeps : after.KeepsPlans changed := ⟨sameBumps, plans⟩
  constructor
  · constructor
    · rw [sameBumps, evolved.keeps.bumps]
    · intro key plan loaded
      exact plans key plan (evolved.keeps.plans key plan loaded)
  · intro key account loaded
    rcases placed key account loaded with old | new
    · exact (evolved.wellFormed key account old).mono keeps
    · exact new.mono keeps

theorem set (evolved : before.Evolves after) {key : Pubkey} {account : Account}
    (notPlan : ∀ plan, after.account key ≠ some (.plan plan))
    (placed : Placed after key account) : before.Evolves (after.set key account) := by
  apply evolved.rewrite (set_bump _ _ _)
  · intro planKey plan loaded
    rw [set_account_of_ne]
    · exact loaded
    · rintro rfl
      exact notPlan plan loaded
  · intro query found loaded
    rw [set_account] at loaded
    split at loaded
    next same =>
      cases loaded
      subst same
      exact .inr placed
    next => exact .inl loaded

/-- Writing at an address that is not a plan's. -/
theorem write (evolved : before.Evolves after) {key : Pubkey} {account : Account}
    (notPlan : key.isPlan = false) (placed : Placed after key account) :
    before.Evolves (after.set key account) :=
  evolved.set (evolved.wellFormed.ne_plan notPlan) placed

theorem close (evolved : before.Evolves after) {key : Pubkey}
    (notPlan : key.isPlan = false) : before.Evolves (after.close key) := by
  apply evolved.rewrite (close_bump _ _)
  · intro planKey plan loaded
    rw [close_account, if_neg]
    · exact loaded
    · rintro rfl
      exact evolved.wellFormed.ne_plan notPlan plan loaded
  · intro query found loaded
    rw [close_account] at loaded
    split at loaded
    next => cases loaded
    next => exact .inl loaded

theorem closeIfSome (evolved : before.Evolves after) {key : Option Pubkey}
    (notPlan : ∀ address, key = some address → address.isPlan = false) :
    before.Evolves (after.closeIfSome key) := by
  cases key with
  | none => exact evolved
  | some address => exact evolved.close (notPlan address rfl)

theorem set_amount (evolved : before.Evolves after) {key : Pubkey} {token : TokenAccount}
    (loaded : after.account key = some (.token token)) (amount : UInt64) :
    before.Evolves (after.set key (.token { token with amount })) := by
  apply evolved.set
  · intro plan found
    rw [loaded] at found
    cases found
  · cases evolved.wellFormed key _ loaded with
    | vault address owner planAt mint => exact .vault address owner planAt mint
    | token outside => exact .token outside

theorem transfer (evolved : before.Evolves after) {moved : Ledger}
    {source destination authority : Pubkey} {amount : UInt64}
    (transferred : after.transfer source destination authority amount = .ok moved) :
    before.Evolves moved := by
  obtain ⟨sourceToken, destinationToken, sourceLoaded, destinationLoaded, _, _, _,
    ⟨_, rfl⟩ | ⟨different, credited, _, rfl⟩⟩ := transfer_eq_ok.mp transferred
  · exact evolved
  · have debited := evolved.set_amount sourceLoaded (sourceToken.amount - amount)
    apply debited.set_amount
    rw [set_account_of_ne _ _ different.symm]
    exact destinationLoaded

theorem transferIfPositive (evolved : before.Evolves after) {moved : Ledger}
    {source destination authority : Pubkey} {amount : UInt64}
    (transferred : transferIfPositive after source destination authority amount =
      .ok moved) :
    before.Evolves moved := by
  unfold Nakama.transferIfPositive at transferred
  split at transferred
  next => exact evolved.transfer transferred
  next =>
    cases transferred
    exact evolved

theorem closeToken (evolved : before.Evolves after) {closed : Ledger}
    {key authority : Pubkey} (closing : after.closeToken key authority = .ok closed) :
    before.Evolves closed := by
  obtain ⟨token, loaded, _, _, rfl⟩ := closeToken_eq_ok.mp closing
  apply evolved.close
  cases evolved.wellFormed key _ loaded with
  | vault address =>
      rw [address]
      rfl
  | token outside =>
      cases key with
      | external => rfl
      | _ => cases outside

theorem set_sub (evolved : before.Evolves after) {key : Pubkey}
    {sub changed : Subscription Pubkey} (wellFormed : before.WellFormed)
    (loaded : before.account key = some (.subscription sub))
    (same : changed.terms = sub.terms) :
    before.Evolves (after.set key (.subscription changed)) := by
  apply evolved.write
  · rw [wellFormed.sub_key loaded]
    rfl
  · exact ((wellFormed key _ loaded).update same).mono evolved.keeps

end Ledger.Evolves

/-! ## Preservation by the actions -/

section Actions

variable {ledger : Ledger} {now : Int64} {outcome : Outcome}

/-- The new plan is where it belongs: its token account is owned by the merchant,
so it is not a vault. -/
private theorem createPlan_placed (wellFormed : ledger.WellFormed) {accounts : CreatePlan}
    {planId price : UInt64} {period : Int64} {ata : TokenAccount}
    (address : accounts.plan = .plan accounts.merchant.key planId)
    (ataLoaded : ledger.account accounts.merchantAta = some (.token ata))
    (ataOwner : ata.owner = accounts.merchant.key)
    (periodPositive : 0 < period.toInt) (pricePositive : 0 < price.toNat) :
    Placed ledger accounts.plan (.plan (accounts.newPlan ledger planId price period)) := by
  have outside : accounts.merchantAta.isExternal = true :=
    wellFormed.token_external ataLoaded ataOwner accounts.merchant.signs
  exact .plan address accounts.merchant.signs outside pricePositive periodPositive rfl

private theorem effect_evolves (wellFormed : ledger.WellFormed) {instruction : Instruction}
    (effect : Effect ledger now instruction outcome) : ledger.Evolves outcome.ledger := by
  have start := Evolves.refl wellFormed
  cases effect with
  | createPlan address vacant ataLoaded ataOwner periodPositive pricePositive =>
      apply start.set
      · intro plan found
        rw [vacant] at found
        cases found
      · exact createPlan_placed wellFormed address ataLoaded ataOwner periodPositive
          pricePositive
  | @subscribe accounts periods plan ata nextChargeAt deposited rate funded events planLoaded
      address vacant vaultAddress vaultVacant mint ataLoaded ataOwner periodPositive rateEq
      ratePositive depositedEq periodsPositive funding hint =>
      have opened : ledger.Evolves
          (ledger.set accounts.vault (.token accounts.emptyVault)) := by
        apply start.write
        · rw [vaultAddress]
          rfl
        · rw [address] at vaultAddress
          exact .vault vaultAddress address planLoaded mint
      have moved := opened.transfer funding
      apply moved.write
      · rw [address]
        rfl
      · have planKept := moved.keeps.plans _ _ planLoaded
        refine .subscription address planKept accounts.subscriber.signs ⟨rfl, rfl, rfl⟩
          ⟨rfl, rfl⟩ rateEq ratePositive ?_ rfl
        rw [moved.keeps.bumps, ← vaultAddress]
        exact ⟨rfl, rfl⟩
  | charge loaded address vaultAddress destination active started periodPositive withdrawnEq
      withdrawnUnlocked positive transferred =>
      exact (start.transfer transferred).set_sub wellFormed loaded rfl
  | exhaust loaded address vaultAddress destination active started periodPositive withdrawnEq
      withdrawnUnlocked positive transferred =>
      apply Evolves.set_sub
      · apply (start.transfer transferred).write rfl
        exact .graced rfl
      · exact wellFormed
      · exact loaded
      · rfl
  | @settleUsage accounts amount parent session withdrawn usage paid events loaded address
      sessionLoaded sessionAddress sessionParent facilitator vaultAddress destination active
      opened started periodPositive positive withdrawnEq withdrawnUnlocked usageEq cap
      transferred =>
      have debited : ledger.Evolves (paid.set accounts.parent
          (.subscription { parent with withdrawnAmount := withdrawn })) :=
        (start.transfer transferred).set_sub wellFormed loaded rfl
      apply debited.write
      · rw [sessionAddress]
        rfl
      · cases (wellFormed _ _ sessionLoaded).mono debited.keeps with
        | paySession sessionAt parentAt planAt payee _ bump =>
            exact .paySession sessionAt parentAt planAt payee rfl bump
  | topUp loaded address signed vaultAddress ataLoaded ataOwner running positive depositedEq
      transferred slot =>
      apply Evolves.closeIfSome
      · exact (start.transfer transferred).set_sub wellFormed loaded rfl
      · intro satellite attached
        rw [(slot satellite attached).1]
        rfl
  | recover loaded address signed vaultAddress ataLoaded ataOwner grace positive depositedEq
      transferred =>
      apply Evolves.close ?_ rfl
      exact (start.transfer transferred).set_sub wellFormed loaded rfl
  | pause loaded =>
      apply Evolves.set_sub
      · apply start.write rfl
        exact .paused rfl rfl
      · exact wellFormed
      · exact loaded
      · rfl
  | resume loaded =>
      apply Evolves.close ?_ rfl
      exact start.set_sub wellFormed loaded rfl
  | cancel loaded address signed vaultAddress destination ataLoaded ataOwner graceSlot
      pausedSlot settles started periodPositive withdrawnEq withdrawnUnlocked refundEq
      settlement refunding closing =>
      have settled := start.transferIfPositive settlement
      have closed := (settled.transferIfPositive refunding).closeToken closing
      apply Evolves.closeIfSome
      · apply Evolves.closeIfSome
        · exact closed.set_sub wellFormed loaded rfl
        · intro satellite attached
          rw [graceSlot satellite attached]
          rfl
      · intro satellite attached
        rw [pausedSlot satellite attached]
        rfl
  | cleanup loaded address =>
      apply start.close
      rw [address]
      rfl
  | openSession loaded address signed sessionAddress =>
      obtain ⟨plan, planAt, _, _, _, _, payee⟩ := wellFormed.sub_plan loaded
      apply start.write
      · rw [sessionAddress]
        rfl
      · exact .paySession sessionAddress address planAt payee rfl rfl
  | closeSession loaded address signed sessionLoaded sessionAddress =>
      apply start.close
      rw [sessionAddress]
      rfl

/-- A wallet can change the owner of its own token accounts only, and no vault is
one. -/
private theorem spl_evolves (wellFormed : ledger.WellFormed)
    {instruction : SplInstruction} (executed : instruction.execute ledger = .ok outcome) :
    ledger.Evolves outcome.ledger := by
  have start := Evolves.refl wellFormed
  cases instruction with
  | transfer source destination authority amount =>
      simp only [SplInstruction.execute, bind_eq_ok, pure_eq_ok] at executed
      obtain ⟨moved, transferred, rfl⟩ := executed
      exact start.transfer transferred
  | setOwner account authority owner =>
      simp only [SplInstruction.execute, setOwner, bind_eq_ok, require_eq_ok, exists_const,
        loadToken_eq_ok, pure_eq_ok] at executed
      obtain ⟨_, ⟨token, loaded, owned, rfl⟩, rfl⟩ := executed
      apply start.set
      · intro plan found
        rw [loaded] at found
        cases found
      · apply Placed.token
        exact wellFormed.token_external loaded owned authority.signs
  | closeAccount account authority =>
      simp only [SplInstruction.execute, bind_eq_ok, pure_eq_ok] at executed
      obtain ⟨closed, closing, rfl⟩ := executed
      exact start.closeToken closing
  | createAccount account mint owner =>
      simp only [SplInstruction.execute, createToken, vacant, bind_eq_ok, require_eq_ok,
        exists_const, pure_eq_ok] at executed
      obtain ⟨_, ⟨outside, free, _, _, rfl⟩, rfl⟩ := executed
      apply start.set
      · intro plan found
        rw [free] at found
        cases found
      · exact .token outside

/-- Every successful action keeps the ledger well formed and its plans in place. -/
theorem action_evolves (wellFormed : ledger.WellFormed) {action : Action}
    (executed : action.execute ledger now = .ok outcome) :
    ledger.Evolves outcome.ledger := by
  cases action with
  | program instruction => exact effect_evolves wellFormed (execute_effect executed)
  | spl instruction => exact spl_evolves wellFormed executed

end Actions

namespace Chain

theorem Genesis.wellFormed {chain : Chain} (genesis : chain.Genesis) :
    chain.ledger.WellFormed := by
  intro key account loaded
  obtain ⟨outside, spl⟩ := genesis.outside key account loaded
  cases account with
  | token => exact .token outside
  | mint => exact .mint outside
  | plan => cases spl
  | subscription => cases spl
  | graced => cases spl
  | paused => cases spl
  | paySession => cases spl

theorem step_evolves {chain : Chain} (wellFormed : chain.ledger.WellFormed) (tx : Tx) :
    chain.ledger.Evolves (chain.step tx).ledger := by
  cases executed : tx.action.execute chain.ledger tx.now with
  | error refusal =>
      rw [step_of_error executed]
      exact .refl wellFormed
  | ok outcome =>
      rw [step_of_ok executed]
      exact action_evolves wellFormed executed

theorem run_evolves {chain : Chain} (wellFormed : chain.ledger.WellFormed) (txs : List Tx) :
    chain.ledger.Evolves (machine.run chain txs).ledger := by
  induction txs generalizing chain with
  | nil => exact .refl wellFormed
  | cons tx txs ih =>
      have first := step_evolves wellFormed tx
      exact first.trans (ih first.wellFormed)

end Chain

end Nakama
