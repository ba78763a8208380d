import Nakama.Program.Chain

/-!
# What a successful instruction has checked and done

One constructor for each way an instruction of the program can succeed, with the
checks that later proofs rely on and the resulting ledger.  Everything else about
successful instructions is derived by cases on this relation; the handlers are
not unfolded again.
-/

namespace Nakama

open Guard Ledger

/-- The moment up to which `cancel` settles, and the satellite it reads it from. -/
inductive SettlesAt (ledger : Ledger) (now : Int64) (accounts : Cancel) :
    SubscriptionState → Int64 → Prop where
  | active : SettlesAt ledger now accounts .active now
  | grace {graced : GracedSubscription Pubkey}
      (slot : accounts.gracedSubscription = some (.grace accounts.subscription))
      (satellite : ledger.account (.grace accounts.subscription) = some (.graced graced)) :
      SettlesAt ledger now accounts .gracePeriod (min now graced.graceUntil)
  | paused {paused : PausedSubscription Pubkey}
      (slot : accounts.pausedSubscription = some (.pausedSub accounts.subscription))
      (satellite : ledger.account (.pausedSub accounts.subscription) =
        some (.paused paused)) :
      SettlesAt ledger now accounts .paused paused.pausedAt

/-- The effect of a successful instruction. -/
inductive Effect (ledger : Ledger) (now : Int64) : Instruction → Outcome → Prop where
  | createPlan {accounts : CreatePlan} {planId price : UInt64} {period : Int64}
      {ata : TokenAccount} {events : List Event}
      (address : accounts.plan = .plan accounts.merchant.key planId)
      (vacant : ledger.account accounts.plan = none)
      (ataLoaded : ledger.account accounts.merchantAta = some (.token ata))
      (ataOwner : ata.owner = accounts.merchant.key)
      (periodPositive : 0 < period.toInt) (pricePositive : 0 < price.toNat) :
      Effect ledger now (.createPlan accounts planId price period)
        ⟨ledger.set accounts.plan (.plan (accounts.newPlan ledger planId price period)),
          [], events⟩
  | subscribe {accounts : Subscribe} {periodsToPrefund : UInt8} {plan : Plan Pubkey}
      {ata : TokenAccount} {nextChargeAt : Int64} {deposited rate : UInt64}
      {funded : Ledger} {events : List Event}
      (planLoaded : ledger.account accounts.plan = some (.plan plan))
      (address : accounts.subscription = .sub accounts.subscriber.key accounts.plan)
      (vacant : ledger.account accounts.subscription = none)
      (vaultAddress : accounts.vault = .vault accounts.subscription)
      (vaultVacant : ledger.account accounts.vault = none)
      (mint : accounts.tokenMint = plan.tokenMint)
      (ataLoaded : ledger.account accounts.subscriberAta = some (.token ata))
      (ataOwner : ata.owner = accounts.subscriber.key)
      (periodPositive : 0 < plan.period.toInt)
      (rateEq : rate.toNat = plan.price.toNat / plan.period.toInt.toNat)
      (ratePositive : 1 ≤ rate.toNat)
      (depositedEq : deposited.toNat = plan.price.toNat * periodsToPrefund.toNat)
      (periods : 1 ≤ periodsToPrefund.toNat)
      (funding : (ledger.set accounts.vault (.token accounts.emptyVault)).transfer
        accounts.subscriberAta accounts.vault accounts.subscriber.key deposited = .ok funded)
      (hint : nextChargeAt.toInt = now.toInt + plan.period.toInt) :
      Effect ledger now (.subscribe accounts periodsToPrefund)
        ⟨funded.set accounts.subscription (.subscription
          (accounts.newSubscription ledger now plan nextChargeAt deposited rate)),
          [⟨.deposit, accounts.subscriberAta, accounts.vault, deposited⟩], events⟩
  | charge {accounts : Charge} {sub : Subscription Pubkey} {claimable withdrawn : UInt64}
      {nextChargeAt : Int64} {paid : Ledger} {events : List Event}
      (loaded : ledger.account accounts.subscription = some (.subscription sub))
      (address : accounts.subscription = .sub sub.subscriber sub.plan)
      (vaultAddress : accounts.vault = .vault accounts.subscription)
      (destination : accounts.merchantAta = sub.merchantAta)
      (active : sub.state = .active)
      (started : sub.streamStart.toInt ≤ now.toInt) (periodPositive : 0 < sub.period.toInt)
      (withdrawnEq : withdrawn.toNat = sub.withdrawnAmount.toNat + claimable.toNat)
      (withdrawnUnlocked : withdrawn.toNat = sub.unlockedBy now)
      (positive : 0 < claimable.toNat)
      (transferred : ledger.transfer accounts.vault accounts.merchantAta
        accounts.subscription claimable = .ok paid)
      (hint : nextChargeHint sub withdrawn = .ok nextChargeAt)
      (healthy : withdrawn ≠ sub.depositedAmount)
      (noSatellite : accounts.gracedSubscription = none) :
      Effect ledger now (.charge accounts)
        ⟨paid.set accounts.subscription (.subscription { sub with
            withdrawnAmount := withdrawn, lastChargeAt := now, nextChargeAt }),
          [⟨.settlement, accounts.vault, accounts.merchantAta, claimable⟩], events⟩
  | exhaust {accounts : Charge} {sub : Subscription Pubkey} {claimable : UInt64}
      {nextChargeAt graceUntil : Int64} {paid : Ledger} {events : List Event}
      (loaded : ledger.account accounts.subscription = some (.subscription sub))
      (address : accounts.subscription = .sub sub.subscriber sub.plan)
      (vaultAddress : accounts.vault = .vault accounts.subscription)
      (destination : accounts.merchantAta = sub.merchantAta)
      (active : sub.state = .active)
      (started : sub.streamStart.toInt ≤ now.toInt) (periodPositive : 0 < sub.period.toInt)
      (withdrawnEq : sub.depositedAmount.toNat =
        sub.withdrawnAmount.toNat + claimable.toNat)
      (withdrawnUnlocked : sub.depositedAmount.toNat = sub.unlockedBy now)
      (positive : 0 < claimable.toNat)
      (transferred : ledger.transfer accounts.vault accounts.merchantAta
        accounts.subscription claimable = .ok paid)
      (hint : nextChargeHint sub sub.depositedAmount = .ok nextChargeAt)
      (slot : accounts.gracedSubscription = some (.grace accounts.subscription))
      (satelliteVacant : ledger.account (.grace accounts.subscription) = none)
      (untilEq : graceUntil.toInt = now.toInt + graceDuration.toInt) :
      Effect ledger now (.charge accounts)
        ⟨(paid.set (.grace accounts.subscription)
            (.graced ⟨accounts.subscription, now, graceUntil⟩)).set accounts.subscription
          (.subscription { sub with
            withdrawnAmount := sub.depositedAmount
            lastChargeAt := now
            nextChargeAt
            state := .gracePeriod }),
          [⟨.settlement, accounts.vault, accounts.merchantAta, claimable⟩], events⟩
  | settleUsage {accounts : SettleUsage} {amount : UInt64} {parent : Subscription Pubkey}
      {session : PaySession Pubkey} {withdrawn usage : UInt64} {paid : Ledger}
      {events : List Event}
      (loaded : ledger.account accounts.parent = some (.subscription parent))
      (address : accounts.parent = .sub parent.subscriber parent.plan)
      (sessionLoaded : ledger.account accounts.paySession = some (.paySession session))
      (sessionAddress : accounts.paySession =
        .paySession accounts.parent session.sessionId)
      (sessionParent : session.subscription = accounts.parent)
      (facilitator : session.facilitator = accounts.facilitator.key)
      (vaultAddress : accounts.vault = .vault accounts.parent)
      (destination : accounts.merchantAta = session.merchantAta)
      (active : parent.state = .active)
      (opened : session.state = PaySessionState.opened.toByte)
      (started : parent.streamStart.toInt ≤ now.toInt)
      (periodPositive : 0 < parent.period.toInt)
      (positive : 0 < amount.toNat)
      (withdrawnEq : withdrawn.toNat = parent.withdrawnAmount.toNat + amount.toNat)
      (withdrawnUnlocked : withdrawn.toNat ≤ parent.unlockedBy now)
      (usageEq : usage.toNat = session.usageAmount.toNat + amount.toNat)
      (cap : 0 < session.reservationCap.toNat →
        usage.toNat ≤ session.reservationCap.toNat)
      (transferred : ledger.transfer accounts.vault accounts.merchantAta accounts.parent
        amount = .ok paid) :
      Effect ledger now (.settleUsage accounts amount)
        ⟨(paid.set accounts.parent (.subscription { parent with
            withdrawnAmount := withdrawn })).set accounts.paySession
          (.paySession { session with
            usageAmount := usage
            lastSettleAt := now
            state := PaySessionState.opened.toByte }),
          [⟨.settlement, accounts.vault, accounts.merchantAta, amount⟩], events⟩
  | topUp {accounts : TopUp} {amount deposited : UInt64} {sub : Subscription Pubkey}
      {ata : TokenAccount} {funded : Ledger} {events : List Event}
      (loaded : ledger.account accounts.subscription = some (.subscription sub))
      (address : accounts.subscription = .sub sub.subscriber sub.plan)
      (signed : sub.subscriber = accounts.subscriber.key)
      (vaultAddress : accounts.vault = .vault accounts.subscription)
      (ataLoaded : ledger.account accounts.subscriberAta = some (.token ata))
      (ataOwner : ata.owner = accounts.subscriber.key)
      (running : sub.state = .active ∨ sub.state = .paused)
      (positive : 0 < amount.toNat)
      (depositedEq : deposited.toNat = sub.depositedAmount.toNat + amount.toNat)
      (transferred : ledger.transfer accounts.subscriberAta accounts.vault
        accounts.subscriber.key amount = .ok funded)
      (slot : ∀ key, accounts.gracedSubscription = some key →
        key = .grace accounts.subscription ∧
          ∃ graced, ledger.account key = some (.graced graced)) :
      Effect ledger now (.topUp accounts amount)
        ⟨(funded.set accounts.subscription (.subscription { sub with
            depositedAmount := deposited })).closeIfSome accounts.gracedSubscription,
          [⟨.deposit, accounts.subscriberAta, accounts.vault, amount⟩], events⟩
  | recover {accounts : TopUp} {amount deposited : UInt64} {sub : Subscription Pubkey}
      {graced : GracedSubscription Pubkey} {ata : TokenAccount} {streamStart : Int64}
      {funded : Ledger} {events : List Event}
      (loaded : ledger.account accounts.subscription = some (.subscription sub))
      (address : accounts.subscription = .sub sub.subscriber sub.plan)
      (signed : sub.subscriber = accounts.subscriber.key)
      (vaultAddress : accounts.vault = .vault accounts.subscription)
      (ataLoaded : ledger.account accounts.subscriberAta = some (.token ata))
      (ataOwner : ata.owner = accounts.subscriber.key)
      (grace : sub.state = .gracePeriod)
      (positive : 0 < amount.toNat)
      (depositedEq : deposited.toNat = sub.depositedAmount.toNat + amount.toNat)
      (transferred : ledger.transfer accounts.subscriberAta accounts.vault
        accounts.subscriber.key amount = .ok funded)
      (slot : accounts.gracedSubscription = some (.grace accounts.subscription))
      (satellite : ledger.account (.grace accounts.subscription) = some (.graced graced))
      (entered : graced.enteredGraceAt.toInt ≤ now.toInt)
      (shifted : streamStart.toInt =
        sub.streamStart.toInt + (now.toInt - graced.enteredGraceAt.toInt)) :
      Effect ledger now (.topUp accounts amount)
        ⟨(funded.set accounts.subscription (.subscription { sub with
            depositedAmount := deposited, streamStart, state := .active })).close
          (.grace accounts.subscription),
          [⟨.deposit, accounts.subscriberAta, accounts.vault, amount⟩], events⟩
  | pause {accounts : Pause} {sub : Subscription Pubkey} {events : List Event}
      (loaded : ledger.account accounts.subscription = some (.subscription sub))
      (address : accounts.subscription = .sub sub.subscriber sub.plan)
      (signed : sub.merchant = accounts.merchant.key)
      (satelliteAddress : accounts.pausedSatellite = .pausedSub accounts.subscription)
      (satelliteVacant : ledger.account (.pausedSub accounts.subscription) = none)
      (active : sub.state = .active)
      (started : sub.streamStart.toInt ≤ now.toInt)
      (fits : Checked.FitsI64 (now.toInt - sub.streamStart.toInt)) :
      Effect ledger now (.pause accounts)
        ⟨(ledger.set (.pausedSub accounts.subscription) (.paused
            ⟨accounts.subscription, now, ledger.bump (.pausedSub accounts.subscription)⟩)).set
          accounts.subscription (.subscription { sub with state := .paused }), [], events⟩
  | resume {accounts : Resume} {sub : Subscription Pubkey}
      {paused : PausedSubscription Pubkey} {streamStart : Int64} {events : List Event}
      (loaded : ledger.account accounts.subscription = some (.subscription sub))
      (address : accounts.subscription = .sub sub.subscriber sub.plan)
      (signed : sub.merchant = accounts.merchant.key)
      (satelliteAddress : accounts.pausedSatellite = .pausedSub accounts.subscription)
      (satellite : ledger.account (.pausedSub accounts.subscription) =
        some (.paused paused))
      (frozen : sub.state = .paused)
      (ordered : paused.pausedAt.toInt ≤ now.toInt)
      (shifted : streamStart.toInt =
        sub.streamStart.toInt + (now.toInt - paused.pausedAt.toInt))
      (fits : Checked.FitsI64 (now.toInt - paused.pausedAt.toInt)) :
      Effect ledger now (.resume accounts)
        ⟨(ledger.set accounts.subscription (.subscription { sub with
            streamStart, state := .active })).close (.pausedSub accounts.subscription),
          [], events⟩
  | cancel {accounts : Cancel} {sub : Subscription Pubkey} {ata : TokenAccount}
      {moment : Int64} {claimable refund withdrawn : UInt64}
      {settled refunded closed : Ledger} {events : List Event}
      (loaded : ledger.account accounts.subscription = some (.subscription sub))
      (address : accounts.subscription = .sub sub.subscriber sub.plan)
      (signed : accounts.signer.key = sub.subscriber ∨ accounts.signer.key = sub.merchant)
      (vaultAddress : accounts.vault = .vault accounts.subscription)
      (destination : accounts.merchantAta = sub.merchantAta)
      (ataLoaded : ledger.account accounts.subscriberAta = some (.token ata))
      (ataOwner : ata.owner = sub.subscriber)
      (graceSlot : ∀ key, accounts.gracedSubscription = some key →
        key = .grace accounts.subscription)
      (pausedSlot : ∀ key, accounts.pausedSubscription = some key →
        key = .pausedSub accounts.subscription)
      (settles : SettlesAt ledger now accounts sub.state moment)
      (started : sub.streamStart.toInt ≤ moment.toInt)
      (periodPositive : 0 < sub.period.toInt)
      (withdrawnEq : withdrawn.toNat = sub.withdrawnAmount.toNat + claimable.toNat)
      (withdrawnUnlocked : withdrawn.toNat = sub.unlockedBy moment)
      (refundEq : withdrawn.toNat + refund.toNat = sub.depositedAmount.toNat)
      (settlement : transferIfPositive ledger accounts.vault accounts.merchantAta
        accounts.subscription claimable = .ok settled)
      (refunding : transferIfPositive settled accounts.vault accounts.subscriberAta
        accounts.subscription refund = .ok refunded)
      (closing : refunded.closeToken accounts.vault accounts.subscription = .ok closed)
      (fits : Checked.FitsI64 (moment.toInt - sub.streamStart.toInt))
      (apart : accounts.merchantAta ≠ accounts.subscriberAta) :
      Effect ledger now (.cancel accounts)
        ⟨((closed.set accounts.subscription (.subscription { sub with
            state := .cancelled, lastChargeAt := now, withdrawnAmount := withdrawn
            })).closeIfSome accounts.gracedSubscription).closeIfSome
          accounts.pausedSubscription,
          transferredIfPositive .settlement accounts.vault accounts.merchantAta claimable ++
          transferredIfPositive .refund accounts.vault accounts.subscriberAta refund,
          events⟩
  | cleanup {accounts : Cleanup} {sub : Subscription Pubkey} {events : List Event}
      (loaded : ledger.account accounts.subscription = some (.subscription sub))
      (address : accounts.subscription = .sub sub.subscriber sub.plan)
      (signed : sub.subscriber = accounts.subscriber.key)
      (ended : sub.state = .cancelled ∨ sub.state = .exhausted) :
      Effect ledger now (.cleanup accounts)
        ⟨ledger.close accounts.subscription, [], events⟩
  | openSession {accounts : OpenSession} {sessionId reservationCap : UInt64}
      {facilitator : Pubkey} {parent : Subscription Pubkey} {events : List Event}
      (loaded : ledger.account accounts.parent = some (.subscription parent))
      (address : accounts.parent = .sub parent.subscriber parent.plan)
      (signed : parent.subscriber = accounts.subscriber.key)
      (sessionAddress : accounts.paySession = .paySession accounts.parent sessionId)
      (vacant : ledger.account accounts.paySession = none)
      (active : parent.state = .active)
      (cap : reservationCap.toNat + parent.withdrawnAmount.toNat ≤
        parent.depositedAmount.toNat) :
      Effect ledger now (.openSession accounts sessionId facilitator reservationCap)
        ⟨ledger.set accounts.paySession (.paySession
          (accounts.newSession ledger now parent sessionId facilitator reservationCap)),
          [], events⟩
  | closeSession {accounts : CloseSession} {parent : Subscription Pubkey}
      {session : PaySession Pubkey} {events : List Event}
      (loaded : ledger.account accounts.parent = some (.subscription parent))
      (address : accounts.parent = .sub parent.subscriber parent.plan)
      (signed : parent.subscriber = accounts.subscriber.key)
      (sessionLoaded : ledger.account accounts.paySession = some (.paySession session))
      (sessionAddress : accounts.paySession =
        .paySession accounts.parent session.sessionId) :
      Effect ledger now (.closeSession accounts)
        ⟨ledger.close accounts.paySession, [], events⟩

/-! ## The handlers have these effects -/

section Inversion

variable {ledger : Ledger} {now : Int64} {outcome : Outcome}

theorem createPlan_effect {accounts : CreatePlan} {planId price : UInt64} {period : Int64}
    (executed : createPlan ledger now accounts planId price period = .ok outcome) :
    Effect ledger now (.createPlan accounts planId price period) outcome := by
  simp only [createPlan, CreatePlan.tryAccounts, createPlanHandler, bind_eq_ok,
    require_eq_ok, exists_const, loadMint_eq_ok, loadToken_eq_ok, seeds, vacant,
    requireMint, requireAuthority, pure_eq_ok] at executed
  obtain ⟨⟨_, ata, ataLoaded, address, vacant, _, _, ataOwner⟩, periodPositive,
    pricePositive, rfl⟩ := executed
  refine .createPlan address vacant ataLoaded ataOwner ?_ ?_
  · simpa [Int64.lt_iff_toInt_lt] using periodPositive
  · simpa [UInt64.lt_iff_toNat_lt] using pricePositive

theorem subscribe_effect {accounts : Subscribe} {periodsToPrefund : UInt8}
    (executed : subscribe ledger now accounts periodsToPrefund = .ok outcome) :
    Effect ledger now (.subscribe accounts periodsToPrefund) outcome := by
  simp only [subscribe, Subscribe.tryAccounts, subscribeHandler, bind_eq_ok,
    require_eq_ok, exists_const, loadPlan_eq_ok, loadMint_eq_ok, loadToken_eq_ok, seeds,
    seedsWithBump, vacant, requireMint, requireAuthority, pure_eq_ok, okOr_eq_ok,
    Checked.divU64_eq_some, Checked.mulU64_eq_some, Checked.addI64_eq_some] at executed
  obtain ⟨_, ⟨plan, planLoaded, _, ata, ataLoaded, address, vacant, vaultAddress,
    vaultVacant, _, mint, _, ataOwner, rfl⟩, _, periodPositive, periods, rate,
    ⟨_, rateEq⟩, ratePositive, deposited, depositedEq, funded, funding, nextChargeAt,
    hint, rfl⟩ := executed
  have positive : 0 < plan.period.toInt := by
    simpa [Int64.lt_iff_toInt_lt] using periodPositive
  have periodCast := Checked.toNat_toUInt64 (le_of_lt positive)
  refine .subscribe planLoaded address vacant vaultAddress vaultVacant mint ataLoaded
    ataOwner positive ?_ ?_ ?_ ?_ funding hint
  · rw [rateEq]
    congr 1
    omega
  · simpa [UInt64.le_iff_toNat_le] using ratePositive
  · simpa using depositedEq
  · simpa [UInt8.le_iff_toNat_le] using periods

theorem charge_effect {accounts : Charge}
    (executed : charge ledger now accounts = .ok outcome) :
    Effect ledger now (.charge accounts) outcome := by
  simp only [charge, Charge.tryAccounts, chargeHandler, bind_eq_ok, require_eq_ok,
    exists_const, loadSubscription_eq_ok, loadPlan_eq_ok, loadToken_eq_ok, seedsWithBump,
    seedsIfSome_eq_ok, vacantIfSome_eq_ok, requireMint, requireAuthority, pure_eq_ok,
    okOr_eq_ok, Checked.subU64_eq_some, Checked.addU64_eq_some,
    Int64.le_iff_toInt_le, Int64.lt_iff_toInt_lt, Int64.toInt_zero,
    UInt64.lt_iff_toNat_lt, UInt64.toNat_zero] at executed
  obtain ⟨_, ⟨sub, loaded, _, _, _, _, _, _, slot, vacant, ⟨address, _⟩, _,
    ⟨vaultAddress, _⟩, _, _, _, destination, rfl⟩, active, started, periodPositive,
    unlocked, unlocking, claimable, claimableEq, positive, paid, transferred, withdrawn,
    withdrawnEq, nextChargeAt, hint, ⟨final, graceEvents⟩, tail, rfl⟩ := executed
  have unlockedEq := ((unlockedAt_eq_ok started periodPositive).mp unlocking).2
  unfold chargeTail at tail
  split at tail
  next exhausted =>
    simp only [bind_eq_ok, okOr_eq_ok, pure_eq_ok, Checked.addI64_eq_some,
      Prod.mk.injEq] at tail
    obtain ⟨graceUntil, untilEq, graceKey, attached, rfl, rfl⟩ := tail
    obtain rfl := slot graceKey attached
    simp only at exhausted
    subst exhausted
    exact .exhaust loaded address vaultAddress destination active started periodPositive
      withdrawnEq (by omega) positive transferred hint attached (vacant _ attached) untilEq
  next healthy =>
    simp only [bind_eq_ok, require_eq_ok, exists_const, pure_eq_ok, Prod.mk.injEq] at tail
    obtain ⟨noSatellite, rfl, rfl⟩ := tail
    exact .charge loaded address vaultAddress destination active started periodPositive
      withdrawnEq (by omega) positive transferred hint healthy noSatellite

private theorem reservationCheck_usage {session : PaySession Pubkey} {amount usage : UInt64}
    {done : Unit} (checked : reservationCheck session amount = .ok done)
    (usageEq : usage.toNat = session.usageAmount.toNat + amount.toNat)
    (capped : 0 < session.reservationCap.toNat) :
    usage.toNat ≤ session.reservationCap.toNat := by
  have positive : 0 < session.reservationCap := by simpa [UInt64.lt_iff_toNat_lt] using capped
  simp only [reservationCheck, if_pos positive, bind_eq_ok, okOr_eq_ok, require_eq_ok,
    Checked.addU64_eq_some, UInt64.le_iff_toNat_le] at checked
  obtain ⟨newTotal, newTotalEq, within⟩ := checked
  omega

theorem settleUsage_effect {accounts : SettleUsage} {amount : UInt64}
    (executed : settleUsage ledger now accounts amount = .ok outcome) :
    Effect ledger now (.settleUsage accounts amount) outcome := by
  simp only [settleUsage, SettleUsage.tryAccounts, settleUsageHandler, bind_eq_ok,
    require_eq_ok, exists_const, loadSubscription_eq_ok, loadPaySession_eq_ok,
    loadToken_eq_ok, seedsWithBump, requireMint, requireAuthority, pure_eq_ok, okOr_eq_ok,
    Checked.subU64_eq_some, Checked.addU64_eq_some, Int64.le_iff_toInt_le,
    Int64.lt_iff_toInt_lt, Int64.toInt_zero, UInt64.lt_iff_toNat_lt,
    UInt64.le_iff_toNat_le, UInt64.toNat_zero, Prod.exists, Prod.mk.injEq] at executed
  obtain ⟨_, _, ⟨parent, loaded, session, sessionLoaded, _, _, _, _, ⟨address, _⟩,
    ⟨sessionAddress, _⟩, sessionParent, facilitator, ⟨vaultAddress, _⟩, _, _, destination,
    _, rfl, rfl⟩, positive, active, opened, _, capCheck, started, periodPositive, unlocked,
    unlocking, remaining, remainingEq, within, paid, transferred, withdrawn, withdrawnEq,
    usage, usageEq, rfl⟩ := executed
  have unlockedEq := ((unlockedAt_eq_ok started periodPositive).mp unlocking).2
  exact .settleUsage loaded address sessionLoaded sessionAddress sessionParent facilitator
    vaultAddress destination active opened started periodPositive positive withdrawnEq
    (by omega) usageEq (reservationCheck_usage capCheck usageEq) transferred

theorem openSession_effect {accounts : OpenSession} {sessionId reservationCap : UInt64}
    {facilitator : Pubkey}
    (executed : openSession ledger now accounts sessionId facilitator reservationCap =
      .ok outcome) :
    Effect ledger now (.openSession accounts sessionId facilitator reservationCap)
      outcome := by
  simp only [openSession, OpenSession.tryAccounts, openSessionHandler, bind_eq_ok,
    require_eq_ok, exists_const, loadSubscription_eq_ok, seeds, vacant, seedsWithBump,
    pure_eq_ok, okOr_eq_ok, Checked.subU64_eq_some, UInt64.le_iff_toNat_le] at executed
  obtain ⟨_, ⟨parent, loaded, sessionAddress, vacant, ⟨address, _⟩, signed, rfl⟩, active,
    remaining, remainingEq, cap, rfl⟩ := executed
  refine .openSession loaded address signed sessionAddress vacant active ?_
  rcases cap with rfl | within
  · simp only [UInt64.toNat_zero]
    omega
  · omega

theorem closeSession_effect {accounts : CloseSession}
    (executed : closeSession ledger now accounts = .ok outcome) :
    Effect ledger now (.closeSession accounts) outcome := by
  simp only [closeSession, CloseSession.tryAccounts, closeSessionHandler, bind_eq_ok,
    require_eq_ok, exists_const, loadSubscription_eq_ok, loadPaySession_eq_ok,
    seedsWithBump, pure_eq_ok] at executed
  obtain ⟨_, ⟨parent, loaded, session, sessionLoaded, ⟨address, _⟩, signed,
    ⟨sessionAddress, _⟩, _, rfl⟩, _, rfl⟩ := executed
  exact .closeSession loaded address signed sessionLoaded sessionAddress

theorem topUp_effect {accounts : TopUp} {amount : UInt64}
    (executed : topUp ledger now accounts amount = .ok outcome) :
    Effect ledger now (.topUp accounts amount) outcome := by
  simp only [topUp, TopUp.tryAccounts, topUpHandler, bind_eq_ok, require_eq_ok,
    exists_const, loadSubscription_eq_ok, loadToken_eq_ok, loadOptional_eq_ok,
    loadGraced_eq_ok, seedsIfSome_eq_ok, seedsWithBump, requireMint, requireAuthority,
    pure_eq_ok, okOr_eq_ok, Checked.addU64_eq_some, UInt64.lt_iff_toNat_lt,
    UInt64.toNat_zero, Prod.exists, Prod.mk.injEq] at executed
  obtain ⟨_, _, ⟨sub, loaded, graced, gracedLoaded, _, _, ata, ataLoaded, ⟨address, _⟩,
    signed, slot, ⟨vaultAddress, _⟩, _, _, _, ataOwner, rfl, rfl⟩, positive, live,
    required, funded, transferred, deposited, depositedEq, final, events, branch, rfl⟩ :=
    executed
  unfold topUpTail at branch
  split at branch
  next grace =>
    -- The satellite is required here, so the optional slot was loaded.
    rcases gracedLoaded with ⟨_, rfl⟩ | ⟨graceKey, satellite, attached, rfl, satelliteLoaded⟩
    · exact absurd (required grace) (by simp)
    · obtain rfl := slot graceKey attached
      simp only [recoverFromGrace, bind_eq_ok, okOr_eq_ok, require_eq_ok, exists_const,
        pure_eq_ok, Option.some.injEq, exists_eq_left', Int64.le_iff_toInt_le,
        Checked.subI64_eq_some, Checked.addI64_eq_some, Prod.mk.injEq] at branch
      obtain ⟨_, ⟨entered, duration, durationEq, streamStart, shifted, rfl⟩, rfl, rfl⟩ :=
        branch
      simp only [attached, closeIfSome]
      exact .recover loaded address signed vaultAddress ataLoaded ataOwner grace positive
        depositedEq transferred attached satelliteLoaded entered (by omega)
  next notGrace =>
    simp only [pure_eq_ok, Prod.mk.injEq] at branch
    obtain ⟨rfl, rfl⟩ := branch
    refine .topUp loaded address signed vaultAddress ataLoaded ataOwner ?_ positive
      depositedEq transferred ?_
    · rcases live with active | paused | grace
      · exact .inl active
      · exact .inr paused
      · exact (notGrace grace).elim
    · intro key attached
      rcases gracedLoaded with ⟨absent, _⟩ | ⟨graceKey, satellite, present, _, satelliteLoaded⟩
      · rw [absent] at attached
        cases attached
      · rw [present, Option.some.injEq] at attached
        subst attached
        exact ⟨slot _ present, satellite, satelliteLoaded⟩

theorem pause_effect {accounts : Pause}
    (executed : pause ledger now accounts = .ok outcome) :
    Effect ledger now (.pause accounts) outcome := by
  simp only [pause, Pause.tryAccounts, pauseHandler, bind_eq_ok, require_eq_ok,
    exists_const, loadSubscription_eq_ok, seeds, vacant, seedsWithBump, pure_eq_ok,
    Int64.le_iff_toInt_le, Int64.lt_iff_toInt_lt, Int64.toInt_zero] at executed
  obtain ⟨_, ⟨sub, loaded, satelliteAddress, vacant, ⟨address, _⟩, signed, rfl⟩, active,
    started, periodPositive, unlocked, unlocking, rfl⟩ := executed
  have fits := ((unlockedAt_eq_ok started periodPositive).mp unlocking).1
  rw [satelliteAddress] at vacant ⊢
  exact .pause loaded address signed satelliteAddress vacant active started fits

theorem resume_effect {accounts : Resume}
    (executed : resume ledger now accounts = .ok outcome) :
    Effect ledger now (.resume accounts) outcome := by
  simp only [resume, Resume.tryAccounts, resumeHandler, bind_eq_ok, require_eq_ok,
    exists_const, loadSubscription_eq_ok, loadPaused_eq_ok, seedsWithBump, pure_eq_ok,
    okOr_eq_ok, Checked.subI64_eq_some, Checked.addI64_eq_some, Int64.le_iff_toInt_le,
    Prod.exists, Prod.mk.injEq] at executed
  obtain ⟨_, _, ⟨sub, loaded, paused, satellite, ⟨address, _⟩, signed,
    ⟨satelliteAddress, _⟩, _, rfl, rfl⟩, frozen, ordered, duration, durationEq,
    streamStart, shifted, rfl⟩ := executed
  have fits := Checked.fitsI64_toInt duration
  rw [durationEq] at fits
  rw [satelliteAddress] at satellite ⊢
  exact .resume loaded address signed satelliteAddress satellite frozen ordered (by omega) fits

/-- The settlement moment comes from the satellite that the state requires. -/
theorem settlesAt_of_effectiveNow {accounts : Cancel} {loaded : Cancel.Loaded}
    {moment : Int64}
    (gracedLoaded : ledger.loadOptional loadGraced accounts.gracedSubscription =
      .ok loaded.graced)
    (pausedLoaded : ledger.loadOptional loadPaused accounts.pausedSubscription =
      .ok loaded.paused)
    (graceSlot : ∀ key, accounts.gracedSubscription = some key →
      key = .grace accounts.subscription)
    (pausedSlot : ∀ key, accounts.pausedSubscription = some key →
      key = .pausedSub accounts.subscription)
    (effective : effectiveNow now loaded = .ok moment) :
    SettlesAt ledger now accounts loaded.subscription.state moment := by
  unfold effectiveNow at effective
  split at effective
  next active =>
    cases effective
    rw [active]
    exact .active
  next grace =>
    simp only [bind_eq_ok, okOr_eq_ok, pure_eq_ok] at effective
    obtain ⟨graced, present, rfl⟩ := effective
    rcases loadOptional_eq_ok.mp gracedLoaded with ⟨_, absent⟩ |
      ⟨key, found, attached, foundEq, satellite⟩
    · rw [absent] at present
      cases present
    · rw [foundEq, Option.some.injEq] at present
      subst present
      obtain rfl := graceSlot key attached
      rw [grace]
      exact .grace attached (loadGraced_eq_ok.mp satellite)
  next paused =>
    simp only [bind_eq_ok, okOr_eq_ok, pure_eq_ok] at effective
    obtain ⟨satellite, present, rfl⟩ := effective
    rcases loadOptional_eq_ok.mp pausedLoaded with ⟨_, absent⟩ |
      ⟨key, found, attached, foundEq, loadedSatellite⟩
    · rw [absent] at present
      cases present
    · rw [foundEq, Option.some.injEq] at present
      subst present
      obtain rfl := pausedSlot key attached
      rw [paused]
      exact .paused attached (loadPaused_eq_ok.mp loadedSatellite)
  next => cases effective

theorem cancel_effect {accounts : Cancel}
    (executed : cancel ledger now accounts = .ok outcome) :
    Effect ledger now (.cancel accounts) outcome := by
  simp only [cancel, Cancel.tryAccounts, cancelHandler, bind_eq_ok, require_eq_ok,
    exists_const, loadSubscription_eq_ok, loadToken_eq_ok, seedsIfSome_eq_ok,
    distinctMut_eq_ok, seedsWithBump, requireMint, requireAuthority, pure_eq_ok, okOr_eq_ok,
    Checked.subU64_eq_some, Checked.addU64_eq_some, Int64.le_iff_toInt_le,
    Int64.lt_iff_toInt_lt, Int64.toInt_zero] at executed
  obtain ⟨_, ⟨sub, loaded, _, _, _, _, ata, ataLoaded, graced, gracedLoaded, paused,
    pausedLoaded, distinct, ⟨address, _⟩, _, ⟨vaultAddress, _⟩, _, _, destination, _, _,
    ataOwner, graceSlot, pausedSlot, _, rfl⟩, signed, _, _, periodPositive, moment, effective,
    started, unlocked, unlocking, claimable, claimableEq, refund, refundEq, settled,
    settlement, refunded, refunding, withdrawn, withdrawnEq, closed, closing, rfl⟩ :=
    executed
  obtain ⟨fits, unlockedEq⟩ := (unlockedAt_eq_ok started periodPositive).mp unlocking
  exact .cancel loaded address signed vaultAddress destination ataLoaded ataOwner graceSlot
    pausedSlot
    (settlesAt_of_effectiveNow gracedLoaded pausedLoaded graceSlot pausedSlot effective)
    started periodPositive withdrawnEq (by omega) (by omega) settlement refunding closing
    fits (Cancel.apart_of_mutAccounts distinct)

theorem cleanup_effect {accounts : Cleanup}
    (executed : cleanup ledger now accounts = .ok outcome) :
    Effect ledger now (.cleanup accounts) outcome := by
  simp only [cleanup, Cleanup.tryAccounts, cleanupHandler, bind_eq_ok, require_eq_ok,
    exists_const, loadSubscription_eq_ok, seedsWithBump, pure_eq_ok] at executed
  obtain ⟨_, ⟨sub, loaded, ⟨address, _⟩, signed, rfl⟩, ended, rfl⟩ := executed
  exact .cleanup loaded address signed ended

/-- Every successful instruction has one of the effects. -/
theorem execute_effect {instruction : Instruction}
    (executed : instruction.execute ledger now = .ok outcome) :
    Effect ledger now instruction outcome := by
  cases instruction with
  | createPlan => exact createPlan_effect executed
  | subscribe => exact subscribe_effect executed
  | charge => exact charge_effect executed
  | cancel => exact cancel_effect executed
  | cleanup => exact cleanup_effect executed
  | topUp => exact topUp_effect executed
  | openSession => exact openSession_effect executed
  | closeSession => exact closeSession_effect executed
  | settleUsage => exact settleUsage_effect executed
  | pause => exact pause_effect executed
  | resume => exact resume_effect executed

end Inversion

end Nakama
