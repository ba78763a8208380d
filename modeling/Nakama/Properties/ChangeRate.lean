import Nakama.Properties.Exit
import Nakama.Properties.Resubscribe

/-!
# Moving to another plan

`build_change_rate_tx` leaves the old subscription and opens one on the new plan in a single
transaction.  It emits a `cancel` for every old subscription that exists, also for one that
is cancelled already and has no vault any more.
-/

namespace Nakama

open Guard Ledger

namespace ChangeRateOptions

variable (opts : ChangeRateOptions) (getAssociatedTokenAddress : Pubkey → Pubkey → Pubkey)

/-- The subscription that is left. -/
abbrev oldSub : Pubkey := .sub opts.subscriber.key opts.oldPlan

/-- The subscription that is opened. -/
abbrev newSub : Pubkey := .sub opts.subscriber.key opts.newPlan

/-- The accounts of the `cancel`. -/
def cancel (sub : Subscription Pubkey) : Cancel where
  signer := opts.subscriber
  subscription := opts.oldSub
  subscriber := opts.subscriber.key
  vault := .vault opts.oldSub
  merchantAta := sub.merchantAta
  subscriberAta := getAssociatedTokenAddress opts.subscriber.key sub.tokenMint
  gracedSubscription := if sub.state = .gracePeriod then some (.grace opts.oldSub) else none
  pausedSubscription := if sub.state = .paused then some (.pausedSub opts.oldSub) else none

/-- The accounts of the `subscribe`. -/
def subscribe (tokenMint : Pubkey) : Subscribe where
  subscriber := opts.subscriber
  plan := opts.newPlan
  tokenMint := tokenMint
  subscription := opts.newSub
  vault := .vault opts.newSub
  subscriberAta := getAssociatedTokenAddress opts.subscriber.key tokenMint

/-- The sessions that are closed first. -/
def closed (rpc : Rpc) : List Pubkey :=
  if opts.closeAlivePaySessions then rpc.derivedPaySessions opts.oldSub else []

/-- The instructions that leave the old subscription. -/
abbrev leaveIxs (rpc : Rpc) (sub : Subscription Pubkey) : List Instruction :=
  closeSessionIxs opts.subscriber opts.oldPlan (opts.closed rpc) ++
    [.cancel (opts.cancel getAssociatedTokenAddress sub),
      .cleanup ⟨opts.oldSub, opts.subscriber⟩]

/-- The instruction that opens the new one. -/
abbrev openIx (tokenMint : Pubkey) : Instruction :=
  .subscribe (opts.subscribe getAssociatedTokenAddress tokenMint) opts.newDepositPeriods

end ChangeRateOptions

section Building

variable {getAssociatedTokenAddress : Pubkey → Pubkey → Pubkey} {rpc : Rpc} {ledger : Ledger}
  {opts : ChangeRateOptions} {ixs : List Instruction} {sub : Subscription Pubkey}

theorem selectCancelSatellites_eq (subscription : Pubkey) :
    selectCancelSatellites sub.seen.stateByte subscription =
      .ok (if sub.state = .gracePeriod then some (.grace subscription) else none,
        if sub.state = .paused then some (.pausedSub subscription) else none) := by
  rw [sub.seen_stateByte]
  cases sub.state with
  | active | paused | gracePeriod | exhausted | cancelled => rfl

theorem buildLeaveIxs_eq_ok
    (built : buildLeaveIxs getAssociatedTokenAddress rpc opts sub.seen = .ok ixs) :
    ixs = opts.leaveIxs getAssociatedTokenAddress rpc sub := by
  rw [buildLeaveIxs, bind_eq_ok] at built
  obtain ⟨closed, selected, built⟩ := built
  have closedEq : closed = opts.closed rpc := by
    unfold selectClosedSessions at selected
    unfold ChangeRateOptions.closed
    split at selected
    next close =>
      simp only [bind_eq_ok, require_eq_ok, exists_const, pure_eq_ok] at selected
      rw [if_pos close]
      exact selected.2.symm
    next keep =>
      cases selected
      rw [if_neg keep]
  rw [selectCancelSatellites_eq, bind_of_ok rfl] at built
  cases built
  rw [closedEq]
  rfl

/-- The two lists that `build_change_rate_tx` emits. -/
theorem changeRate_cases (wellFormed : ledger.WellFormed) (serves : rpc.Serves ledger)
    {plan : Plan Pubkey} (planAt : ledger.account opts.newPlan = some (.plan plan))
    (built : buildChangeRateTx getAssociatedTokenAddress rpc opts = .ok ixs) :
    (ledger.account opts.oldSub = none ∧
      ixs = [opts.openIx getAssociatedTokenAddress plan.tokenMint]) ∨
    ∃ sub, ledger.account opts.oldSub = some (.subscription sub) ∧
      ixs = opts.leaveIxs getAssociatedTokenAddress rpc sub ++
        [opts.openIx getAssociatedTokenAddress plan.tokenMint] := by
  simp only [buildChangeRateTx, bind_eq_ok, okOr_eq_ok, require_eq_ok, exists_const,
    serves.account, pure_eq_ok] at built
  obtain ⟨oldAccount, _, newAccount, newAt, oldPlan, _, newPlan, decoded, _, leave, leaving,
    rfl⟩ := built
  cases newAt.symm.trans planAt
  cases decoded
  unfold buildLeaveIfExists at leaving
  rw [serves.account] at leaving
  cases found : ledger.account opts.oldSub with
  | none =>
      rw [found] at leaving
      cases leaving
      exact .inl ⟨rfl, rfl⟩
  | some account =>
      obtain ⟨sub, rfl⟩ := wellFormed.sub_of_key found
      rw [found] at leaving
      change (require _ _ >>= fun _ => buildLeaveIxs _ _ _ sub.seen) = _ at leaving
      rw [bind_eq_ok] at leaving
      obtain ⟨_, _, leaving⟩ := leaving
      refine .inr ⟨sub, rfl, ?_⟩
      rw [buildLeaveIxs_eq_ok leaving]
      rfl

end Building

/-! ## Leaving the old subscription -/

/-- The subscriber can leave a subscription that exists with a refund to this account: it
runs, the merchant is paid elsewhere on a live token account, and the age of the stream is
an `i64`. -/
structure Chain.Cancellable (chain : Chain) (key : Pubkey) (sub : Subscription Pubkey)
    (ata : Pubkey) (now : Int64) : Prop where
  running : sub.state = .active ∨ sub.state = .paused ∨ sub.state = .gracePeriod
  apart : sub.merchantAta ≠ ata
  receives : chain.ledger.Receives sub.merchantAta sub.tokenMint
  age : ∃ moment, (chain.view key).SettlesAt now sub.state moment ∧
    Checked.FitsI64 (moment.toInt - sub.streamStart.toInt)

/-- What a `cancel` at this time pays back: the deposit less the accrual of the meter. -/
def View.returned (view : View) (now : Int64) : Nat :=
  match view.subscription with
  | none => 0
  | some sub =>
      if sub.state = .cancelled then 0
      else
        sub.depositedAmount.toNat - Accrual.unlocked sub.price.toNat sub.period.toInt.toNat
          sub.depositedAmount.toNat (view.metered now)

theorem View.Sound.returned_of_settles {view : View} {sub : Subscription Pubkey}
    {now moment : Int64} (sound : view.Sound now) (subAt : view.subscription = some sub)
    (settles : view.SettlesAt now sub.state moment) :
    view.returned now = sub.depositedAmount.toNat - sub.unlockedBy moment := by
  have running : sub.state ≠ .cancelled := by
    intro cancelled
    rw [cancelled] at settles
    cases settles
  simp only [returned, subAt, if_neg running, sound.unlocked_of_settles subAt settles]

theorem settlesAt_congr {before after : Ledger} {key : Pubkey} {now moment : Int64}
    {state : SubscriptionState}
    (graced : after.account (.grace key) = before.account (.grace key))
    (paused : after.account (.pausedSub key) = before.account (.pausedSub key))
    (settles : (after.view key).SettlesAt now state moment) :
    (before.view key).SettlesAt now state moment := by
  cases settles with
  | active => exact .active
  | grace gracedAt =>
      apply View.SettlesAt.grace
      rw [view_graced] at gracedAt ⊢
      exact graced.symm.trans gracedAt
  | paused pausedAt =>
      apply View.SettlesAt.paused
      rw [view_paused] at pausedAt ⊢
      exact paused.symm.trans pausedAt

section Leaving

variable {getAssociatedTokenAddress : Pubkey → Pubkey → Pubkey} {rpc : Rpc} {chain : Chain}
  {opts : ChangeRateOptions} {sub : Subscription Pubkey} {now : Int64}

theorem ChangeRateOptions.holds (serves : rpc.Serves chain.ledger) :
    chain.ledger.HoldsSessions opts.oldSub (opts.closed rpc) := by
  unfold closed
  split
  next => exact serves.holds
  next => exact ⟨List.nodup_nil, by simp⟩

theorem ChangeRateOptions.closed_account (serves : rpc.Serves chain.ledger)
    (wellFormed : chain.ledger.WellFormed) (sessionId : UInt64) :
    (chain.ledger.closeAll (opts.closed rpc)).account (.paySession opts.oldSub sessionId) =
      if opts.closeAlivePaySessions = true then none
      else chain.ledger.account (.paySession opts.oldSub sessionId) := by
  unfold closed
  split
  next => exact (serves.closed wellFormed).1 sessionId
  next => rfl

theorem Chain.exists_sessionless (reachable : machine.Reachable chain)
    (ordered : chain.clock.toInt ≤ now.toInt) (serves : rpc.Serves chain.ledger)
    (loaded : chain.ledger.account opts.oldSub = some (.subscription sub)) :
    ∃ closed, chain.Passes now
        (closeSessionIxs opts.subscriber opts.oldPlan (opts.closed rpc)) closed ∧
      closed.ledger = chain.ledger.closeAll (opts.closed rpc) ∧
      ∀ key, (∀ sessionId, key ≠ .paySession opts.oldSub sessionId) →
        closed.ledger.account key = chain.ledger.account key := by
  have holds := @ChangeRateOptions.holds rpc chain opts serves
  obtain ⟨closed, passes, closedEq⟩ := exists_closed reachable ordered loaded holds
  refine ⟨closed, passes, closedEq, ?_⟩
  intro key other
  rw [closedEq]
  exact holds.kept (Invariant.of_reachable reachable).wellFormed other

/-- The token account is one of the subscriber for this mint. -/
structure ChangeRateOptions.Wallet (opts : ChangeRateOptions) (ledger : Ledger)
    (ata mint : Pubkey) (token : TokenAccount) : Prop where
  found : ledger.account ata = some (.token token)
  mint : token.mint = mint
  owner : token.owner = opts.subscriber.key

theorem ChangeRateOptions.Wallet.external {ata mint : Pubkey} {token : TokenAccount}
    (wallet : opts.Wallet chain.ledger ata mint token) (wellFormed : chain.ledger.WellFormed) :
    ata.isExternal = true :=
  wellFormed.token_external wallet.found wallet.owner opts.subscriber.signs

section Closed

variable {closed : Chain} {front : List Instruction} {token : TokenAccount}
  (passes : chain.Passes now front closed) (wellFormed : chain.ledger.WellFormed)
  (loaded : chain.ledger.account opts.oldSub = some (.subscription sub))
  (kept : ∀ key, (∀ sessionId, key ≠ .paySession opts.oldSub sessionId) →
    closed.ledger.account key = chain.ledger.account key)

include kept

omit passes wellFormed loaded in
private theorem external_kept {key : Pubkey} (external : key.isExternal = true) :
    closed.ledger.account key = chain.ledger.account key := by
  apply kept
  rintro _ rfl
  cases external

omit passes wellFormed loaded in
private theorem settles_kept {state : SubscriptionState} {moment : Int64} :
    (closed.view opts.oldSub).SettlesAt now state moment ↔
      (chain.view opts.oldSub).SettlesAt now state moment := by
  have graced := kept (.grace opts.oldSub) (fun _ same => Pubkey.noConfusion same)
  have paused := kept (.pausedSub opts.oldSub) (fun _ same => Pubkey.noConfusion same)
  exact ⟨settlesAt_congr graced paused, settlesAt_congr graced.symm paused.symm⟩

include passes wellFormed loaded

/-- A `cancel` on a ledger that differs in sessions alone succeeds exactly when the
subscription is cancellable. -/
theorem Chain.cancel_iff_cancellable (quiet : chain.moved opts.oldSub .foreign = 0)
    (wallet : opts.Wallet chain.ledger
      (getAssociatedTokenAddress opts.subscriber.key sub.tokenMint) sub.tokenMint token) :
    (∃ outcome, cancel closed.ledger now (opts.cancel getAssociatedTokenAddress sub) =
      .ok outcome) ↔ chain.Cancellable opts.oldSub sub
        (getAssociatedTokenAddress opts.subscriber.key sub.tokenMint) now := by
  have owner := (wellFormed.sub_parties loaded).1.symm
  have merchant := external_kept kept (wellFormed.sub_merchantAta loaded)
  have loadedClosed : closed.ledger.account opts.oldSub = some (.subscription sub) :=
    (kept _ (fun _ same => Pubkey.noConfusion same)).trans loaded
  constructor
  · rintro ⟨outcome, executed⟩
    obtain ⟨apart, moment, settles, fits⟩ := apart_age_of_cancel executed loadedClosed
    obtain ⟨live, liveAt, liveMint⟩ := receives_of_cancel executed loadedClosed
    constructor
    · exact settles.running
    · exact apart
    · exact ⟨live, merchant.symm.trans liveAt, liveMint⟩
    · exact ⟨moment, (settles_kept kept).mp settles, fits⟩
  · rintro ⟨running, apart, ⟨live, liveAt, liveMint⟩, moment, settles, fits⟩
    have addressed : (opts.cancel getAssociatedTokenAddress sub).Addressed closed.ledger sub := {
      subscription := loadedClosed
      signer := owner
      subscriber := owner
      vault := rfl
      merchantAta := rfl
      subscriberToken := ⟨token, (external_kept kept (wallet.external wellFormed)).trans
        wallet.found, wallet.mint, wallet.owner.trans owner⟩
      graced := rfl
      paused := rfl }
    exact cancel_of_unforeign passes.reachable passes.clock
      (addressed.right ⟨live, merchant.trans liveAt, liveMint⟩) apart owner running
      (passes.unforeign _ _ quiet) ((settles_kept kept).mpr settles) fits

/-- Such a `cancel` leaves a tombstone, and the refund in the subscriber's account. -/
theorem Chain.exists_ended (reachable : machine.Reachable chain)
    (ordered : chain.clock.toInt ≤ now.toInt) (quiet : chain.moved opts.oldSub .foreign = 0)
    (wallet : opts.Wallet chain.ledger
      (getAssociatedTokenAddress opts.subscriber.key sub.tokenMint) sub.tokenMint token)
    (cancellable : chain.Cancellable opts.oldSub sub
      (getAssociatedTokenAddress opts.subscriber.key sub.tokenMint) now) :
    ∃ ended, closed.Passes now [.cancel (opts.cancel getAssociatedTokenAddress sub)] ended ∧
      (∃ left, ended.ledger.account opts.oldSub = some (.subscription left) ∧
        left.state = .cancelled) ∧
      (∃ paid, opts.Wallet ended.ledger
          (getAssociatedTokenAddress opts.subscriber.key sub.tokenMint) sub.tokenMint paid ∧
        paid.amount.toNat = token.amount.toNat + (chain.view opts.oldSub).returned now) ∧
      ∀ key, key.isExternal = false → key ∉ opts.oldSub.own →
        ended.ledger.account key = closed.ledger.account key := by
  obtain ⟨outcome, executed⟩ := (cancel_iff_cancellable passes wellFormed loaded kept quiet
    wallet).mpr cancellable
  obtain ⟨ended, passesCancel, endedEq⟩ := @Passes.of_execute _ _
    (.cancel (opts.cancel getAssociatedTokenAddress sub)) _ passes.reachable passes.clock executed
  obtain ⟨moment, settles, leaves⟩ := cancel_leaves
    (Invariant.of_reachable passes.reachable).wellFormed
    ((kept _ (fun _ same => Pubkey.noConfusion same)).trans loaded) executed
  rw [← endedEq] at leaves
  refine ⟨ended, passesCancel, leaves.tombstone, ?_, leaves.kept⟩
  obtain ⟨paid, paidAt, paidMint, paidOwner, paidAmount⟩ := leaves.paid token
    ((external_kept kept (wallet.external wellFormed)).trans wallet.found)
  refine ⟨paid, ⟨paidAt, paidMint.trans wallet.mint, paidOwner.trans wallet.owner⟩, ?_⟩
  have sound := ((Invariant.of_reachable reachable).sound opts.subscriber.key
    opts.oldPlan).advance ordered
  exact paidAmount.trans (congrArg _ (sound.returned_of_settles (view_subscription.mpr loaded)
    ((settles_kept kept).mp settles)).symm)

end Closed

variable {token : TokenAccount} (reachable : machine.Reachable chain)
  (ordered : chain.clock.toInt ≤ now.toInt) (serves : rpc.Serves chain.ledger)
  (loaded : chain.ledger.account opts.oldSub = some (.subscription sub))
  (quiet : chain.moved opts.oldSub .foreign = 0)
  (wallet : opts.Wallet chain.ledger
    (getAssociatedTokenAddress opts.subscriber.key sub.tokenMint) sub.tokenMint token)

include reachable ordered serves loaded quiet wallet

/-- Closing the sessions, cancelling and cleaning up leaves a chain without the old
subscription, with the refund in the subscriber's account. -/
theorem Chain.exists_left (cancellable : chain.Cancellable opts.oldSub sub
    (getAssociatedTokenAddress opts.subscriber.key sub.tokenMint) now) :
    ∃ left, chain.Passes now (opts.leaveIxs getAssociatedTokenAddress rpc sub) left ∧
      left.ledger.account opts.oldSub = none ∧
      (∃ paid, opts.Wallet left.ledger
          (getAssociatedTokenAddress opts.subscriber.key sub.tokenMint) sub.tokenMint paid ∧
        paid.amount.toNat = token.amount.toNat + (chain.view opts.oldSub).returned now) ∧
      ∀ key, key.isExternal = false → key ∉ opts.oldSub.own →
        left.ledger.account key =
          (chain.ledger.closeAll (opts.closed rpc)).account key := by
  have wellFormed := (Invariant.of_reachable reachable).wellFormed
  obtain ⟨closed, passes, closedEq, kept⟩ := exists_sessionless reachable ordered serves loaded
  obtain ⟨ended, passesCancel, ⟨tombstone, tombstoneAt, cancelled⟩, ⟨paid, refunded, paidAmount⟩,
    endedKept⟩ := exists_ended passes wellFormed loaded kept reachable ordered quiet wallet
      cancellable
  obtain ⟨events, cleaned⟩ := @cleanup_eq _ now opts.subscriber opts.oldPlan
    (Invariant.of_reachable passesCancel.reachable).wellFormed _ tombstoneAt cancelled
  obtain ⟨left, passesCleanup, leftEq⟩ := @Passes.of_execute _ _
    (.cleanup ⟨opts.oldSub, opts.subscriber⟩) _ passesCancel.reachable passesCancel.clock cleaned
  refine ⟨left, passes.trans (passesCancel.trans passesCleanup), ?_, ?_, ?_⟩
  · rw [leftEq, close_account, if_pos rfl]
  · refine ⟨paid, ⟨?_, refunded.mint, refunded.owner⟩, paidAmount⟩
    rw [leftEq, close_account, if_neg]
    · exact refunded.found
    · intro same
      have external := wallet.external wellFormed
      rw [same] at external
      cases external
  · intro key derived outside
    have notOld : key ≠ opts.oldSub := by
      rintro rfl
      exact outside List.mem_cons_self
    rw [leftEq, close_account, if_neg notOld, endedKept key derived outside, closedEq]

theorem Chain.cancellable_of_executed {rest : List Instruction} {final : Ledger}
    (executed : Instruction.executeAll now chain.ledger
      (closeSessionIxs opts.subscriber opts.oldPlan (opts.closed rpc) ++
        .cancel (opts.cancel getAssociatedTokenAddress sub) :: rest) = .ok final) :
    chain.Cancellable opts.oldSub sub
      (getAssociatedTokenAddress opts.subscriber.key sub.tokenMint) now := by
  obtain ⟨closed, passes, _, kept⟩ := exists_sessionless reachable ordered serves loaded
  rw [passes.rest, Instruction.executeAll, bind_eq_ok] at executed
  obtain ⟨outcome, cancelled, _⟩ := executed
  exact (cancel_iff_cancellable passes (Invariant.of_reachable reachable).wellFormed loaded kept
    quiet wallet).mp ⟨outcome, cancelled⟩

end Leaving

/-! ## Opening the new one -/

/-- The old subscription is gone and the new one starts now under the terms of the plan. -/
structure Ledger.Migrated (ledger : Ledger) (old new : Pubkey) (plan : Plan Pubkey)
    (now : Int64) : Prop where
  gone : ∀ key ∈ old.own, ledger.account key = none
  fresh : ∃ sub, ledger.account new = some (.subscription sub) ∧ sub.Fresh plan now

/-- Of a subscription that is not there no vault and no satellite is left. -/
theorem Chain.Invariant.own_eq_none {chain : Chain} {subscriber planKey : Pubkey}
    (invariant : chain.Invariant)
    (absent : chain.ledger.account (.sub subscriber planKey) = none) :
    ∀ key ∈ (Pubkey.sub subscriber planKey).own, chain.ledger.account key = none := by
  have bare := (invariant.sound subscriber planKey).of_none
    (by simp only [Chain.view, Ledger.view, absent, Option.bind_none])
  have graced : chain.ledger.account (.grace (.sub subscriber planKey)) = none := by
    cases found : chain.ledger.account (.grace (.sub subscriber planKey)) with
    | none => rfl
    | some account =>
        obtain ⟨satellite, rfl⟩ := invariant.wellFormed.graced_of_key found
        cases bare.graced.symm.trans (view_graced.mpr found)
  have paused : chain.ledger.account (.pausedSub (.sub subscriber planKey)) = none := by
    cases found : chain.ledger.account (.pausedSub (.sub subscriber planKey)) with
    | none => rfl
    | some account =>
        obtain ⟨satellite, rfl⟩ := invariant.wellFormed.paused_of_key found
        cases bare.paused.symm.trans (view_paused.mpr found)
  intro key member
  simp only [Pubkey.own, List.mem_cons, List.not_mem_nil, or_false] at member
  rcases member with rfl | rfl | rfl | rfl
  · exact absent
  · exact invariant.vault_eq_none bare.vault
  · exact graced
  · exact paused

section Opening

variable {left : Chain} {now : Int64} {accounts : Subscribe} {plan : Plan Pubkey}
  {periodsToPrefund : UInt8}

/-- On a ready chain without the old subscription, `subscribe` ends the migration. -/
theorem Chain.migrated_iff {subscriber planKey : Pubkey} (reachable : machine.Reachable left)
    (ordered : left.clock.toInt ≤ now.toInt)
    (ready : accounts.Ready left.ledger plan periodsToPrefund)
    (removed : left.ledger.account (.sub subscriber planKey) = none) :
    (∃ final,
      Instruction.executeAll now left.ledger [.subscribe accounts periodsToPrefund] =
        .ok final ∧
      final.Migrated (.sub subscriber planKey) accounts.subscription plan now) ↔
    plan.Opens now ∧ accounts.subscription ≠ .sub subscriber planKey := by
  constructor
  · rintro ⟨final, submitted, migrated⟩
    obtain ⟨outcome, executed, rfl⟩ := Instruction.executeAll_singleton.mp submitted
    refine ⟨.of_subscribe ready.planAt executed, ?_⟩
    intro same
    obtain ⟨sub, subAt, _⟩ := migrated.fresh
    rw [same, migrated.gone _ List.mem_cons_self] at subAt
    cases subAt
  · rintro ⟨opens, distinct⟩
    obtain ⟨outcome, executed⟩ := ready.succeeds opens
    obtain ⟨final, passes, finalEq⟩ := @Passes.of_execute _ _
      (.subscribe accounts periodsToPrefund) _ reachable ordered executed
    refine ⟨final.ledger, passes.executed, ?_, ?_⟩
    · apply (Invariant.of_reachable passes.reachable).own_eq_none
      rw [finalEq, ready.kept executed rfl]
      · exact removed
      · simp [Pubkey.own, distinct.symm]
    · rw [finalEq]
      exact (subscribe_leaves ready.planAt executed).1

end Opening

/-! ## The whole transaction -/

/-- The subscriber's token account covers the new deposit once the old subscription is
cancelled. -/
def ChangeRateOptions.Covered (opts : ChangeRateOptions)
    (getAssociatedTokenAddress : Pubkey → Pubkey → Pubkey) (chain : Chain) (now : Int64)
    (plan : Plan Pubkey) : Prop :=
  ∃ token, opts.Wallet chain.ledger
      (getAssociatedTokenAddress opts.subscriber.key plan.tokenMint) plan.tokenMint token ∧
    plan.price.toNat * opts.newDepositPeriods.toNat ≤
      token.amount.toNat + (chain.view opts.oldSub).returned now

section Migration

variable {getAssociatedTokenAddress : Pubkey → Pubkey → Pubkey} {rpc : Rpc} {chain : Chain}
  {opts : ChangeRateOptions} {now : Int64} {plan : Plan Pubkey}
  (reachable : machine.Reachable chain)
  (planAt : chain.ledger.account opts.newPlan = some (.plan plan))
  (vacant : chain.ledger.account opts.newSub = none)
  (periods : 1 ≤ opts.newDepositPeriods.toNat)
  (covered : opts.Covered getAssociatedTokenAddress chain now plan)

include reachable planAt vacant periods covered

theorem ChangeRateOptions.ready_of_absent
    (absent : chain.ledger.account opts.oldSub = none) :
    (opts.subscribe getAssociatedTokenAddress plan.tokenMint).Ready chain.ledger plan
      opts.newDepositPeriods := by
  obtain ⟨token, wallet, enough⟩ := covered
  refine .of_reachable reachable planAt rfl rfl vacant rfl periods
    ⟨token, wallet.found, wallet.mint, wallet.owner, ?_⟩
  have nothing : (chain.view opts.oldSub).subscription = none := by
    simp only [Chain.view, Ledger.view, absent, Option.bind_none]
  simp only [View.returned, nothing, Nat.add_zero] at enough
  exact enough

variable {sub : Subscription Pubkey} (ordered : chain.clock.toInt ≤ now.toInt)
  (serves : rpc.Serves chain.ledger) (quiet : chain.moved opts.oldSub .foreign = 0)
  (loaded : chain.ledger.account opts.oldSub = some (.subscription sub))
  (mint : sub.tokenMint = plan.tokenMint)

include ordered serves quiet loaded mint

/-- After leaving the old subscription the ledger is ready for the new one. -/
theorem ChangeRateOptions.exists_ready (cancellable : chain.Cancellable opts.oldSub sub
    (getAssociatedTokenAddress opts.subscriber.key sub.tokenMint) now) :
    ∃ left, chain.Passes now (opts.leaveIxs getAssociatedTokenAddress rpc sub) left ∧
      left.ledger.account opts.oldSub = none ∧
      (opts.subscribe getAssociatedTokenAddress plan.tokenMint).Ready left.ledger plan
        opts.newDepositPeriods ∧
      ∀ sessionId, left.ledger.account (.paySession opts.oldSub sessionId) =
        (chain.ledger.closeAll (opts.closed rpc)).account
          (.paySession opts.oldSub sessionId) := by
  have wellFormed := (Chain.Invariant.of_reachable reachable).wellFormed
  obtain ⟨token, wallet, enough⟩ := covered
  rw [← mint] at wallet
  obtain ⟨left, passes, removed, ⟨paid, refunded, paidAmount⟩, kept⟩ :=
    Chain.exists_left reachable ordered serves loaded quiet wallet cancellable
  rw [mint] at refunded
  have distinct : opts.newSub ≠ opts.oldSub := by
    intro same
    rw [same, loaded] at vacant
    cases vacant
  have stillVacant : left.ledger.account opts.newSub = none := by
    rw [kept opts.newSub rfl (by simp [Pubkey.own, distinct]),
      (ChangeRateOptions.holds serves).kept wellFormed
        (fun _ same => Pubkey.noConfusion same)]
    exact vacant
  refine ⟨left, passes, removed, ?_, ?_⟩
  · exact .of_reachable passes.reachable (passes.evolves.keeps.plans _ _ planAt) rfl rfl
      stillVacant rfl periods
      ⟨paid, refunded.found, refunded.mint, refunded.owner, by omega⟩
  · intro sessionId
    exact kept _ rfl (by simp [Pubkey.own])

omit planAt vacant periods in
theorem ChangeRateOptions.cancellable_of_final {final : Ledger}
    (executed : Instruction.executeAll now chain.ledger
      (opts.leaveIxs getAssociatedTokenAddress rpc sub ++
        [opts.openIx getAssociatedTokenAddress plan.tokenMint]) = .ok final) :
    chain.Cancellable opts.oldSub sub
      (getAssociatedTokenAddress opts.subscriber.key sub.tokenMint) now := by
  obtain ⟨token, wallet, _⟩ := covered
  rw [← mint] at wallet
  rw [List.append_assoc] at executed
  exact Chain.cancellable_of_executed reachable ordered serves loaded quiet wallet executed

/-- An old subscription is exchanged for the new one exactly when it is cancellable. -/
theorem ChangeRateOptions.migrates_of_loaded :
    (∃ final, Instruction.executeAll now chain.ledger
        (opts.leaveIxs getAssociatedTokenAddress rpc sub ++
          [opts.openIx getAssociatedTokenAddress plan.tokenMint]) = .ok final ∧
        final.Migrated opts.oldSub opts.newSub plan now) ↔
      plan.Opens now ∧ opts.newSub ≠ opts.oldSub ∧ chain.Cancellable opts.oldSub sub
        (getAssociatedTokenAddress opts.subscriber.key sub.tokenMint) now := by
  have ready := @exists_ready getAssociatedTokenAddress rpc chain opts now plan reachable planAt
    vacant periods covered sub ordered serves quiet loaded mint
  constructor
  · rintro ⟨final, executed, migrated⟩
    have cancellable := cancellable_of_final reachable covered ordered serves quiet loaded mint
      executed
    obtain ⟨left, passes, removed, ready, _⟩ := ready cancellable
    rw [passes.rest] at executed
    obtain ⟨opens, distinct⟩ := (Chain.migrated_iff passes.reachable passes.clock ready
      removed).mp ⟨final, executed, migrated⟩
    exact ⟨opens, distinct, cancellable⟩
  · rintro ⟨opens, distinct, cancellable⟩
    obtain ⟨left, passes, removed, ready, _⟩ := ready cancellable
    rw [passes.rest]
    exact (Chain.migrated_iff passes.reachable passes.clock ready removed).mpr ⟨opens, distinct⟩

theorem ChangeRateOptions.sessions_of_loaded {final : Ledger}
    (submitted : Instruction.executeAll now chain.ledger
      (opts.leaveIxs getAssociatedTokenAddress rpc sub ++
        [opts.openIx getAssociatedTokenAddress plan.tokenMint]) = .ok final) (sessionId : UInt64) :
    final.account (.paySession opts.oldSub sessionId) =
      if opts.closeAlivePaySessions = true then none
      else chain.ledger.account (.paySession opts.oldSub sessionId) := by
  have cancellable := cancellable_of_final reachable covered ordered serves quiet loaded mint
    submitted
  obtain ⟨left, passes, _, ready, kept⟩ := exists_ready reachable planAt vacant periods covered
    ordered serves quiet loaded mint cancellable
  rw [passes.rest] at submitted
  obtain ⟨outcome, executed, rfl⟩ := Instruction.executeAll_singleton.mp submitted
  rw [ready.kept executed rfl (by simp [Pubkey.own, ChangeRateOptions.subscribe]), kept]
  exact closed_account serves (Chain.Invariant.of_reachable reachable).wellFormed sessionId

end Migration

/-- On every reachable chain with both plans on one mint, no subscription on the new plan,
nothing foreign in the old vault and a wallet that covers the deposit after the refund: what
`build_change_rate_tx` builds is executed as a whole and ends with the old subscription gone
and the new one fresh if and only if the new plan opens, the plans differ, and the old
subscription is not there or can be cancelled with a refund to the subscriber's associated
token account.  The sessions of the old one are closed if that was asked for and it existed,
and stay otherwise. -/
theorem changeRate_migrates_iff {getAssociatedTokenAddress : Pubkey → Pubkey → Pubkey}
    {chain : Chain} {rpc : Rpc} {now : Int64} {opts : ChangeRateOptions}
    {oldPlan newPlan : Plan Pubkey} {ixs : List Instruction}
    (reachable : machine.Reachable chain) (ordered : chain.clock.toInt ≤ now.toInt)
    (serves : rpc.Serves chain.ledger)
    (oldPlanAt : chain.ledger.account opts.oldPlan = some (.plan oldPlan))
    (newPlanAt : chain.ledger.account opts.newPlan = some (.plan newPlan))
    (mints : oldPlan.tokenMint = newPlan.tokenMint)
    (vacant : chain.ledger.account opts.newSub = none)
    (quiet : chain.moved opts.oldSub .foreign = 0)
    (periods : 1 ≤ opts.newDepositPeriods.toNat)
    (covered : opts.Covered getAssociatedTokenAddress chain now newPlan)
    (built : buildChangeRateTx getAssociatedTokenAddress rpc opts = .ok ixs) :
    ((∃ final, Instruction.executeAll now chain.ledger ixs = .ok final ∧
        final.Migrated opts.oldSub opts.newSub newPlan now) ↔
      newPlan.Opens now ∧ opts.newSub ≠ opts.oldSub ∧
        ∀ sub, chain.ledger.account opts.oldSub = some (.subscription sub) →
          chain.Cancellable opts.oldSub sub
            (getAssociatedTokenAddress opts.subscriber.key sub.tokenMint) now) ∧
    ∀ final, Instruction.executeAll now chain.ledger ixs = .ok final → ∀ sessionId,
      final.account (.paySession opts.oldSub sessionId) =
        if chain.ledger.account opts.oldSub ≠ none ∧ opts.closeAlivePaySessions = true then none
        else chain.ledger.account (.paySession opts.oldSub sessionId) := by
  have wellFormed := (Chain.Invariant.of_reachable reachable).wellFormed
  rcases changeRate_cases wellFormed serves newPlanAt built with
    ⟨absent, rfl⟩ | ⟨sub, loaded, rfl⟩
  · have ready := ChangeRateOptions.ready_of_absent reachable newPlanAt vacant periods covered
      absent
    have migrates := Chain.migrated_iff reachable ordered ready absent
    constructor
    · constructor
      · intro migrated
        obtain ⟨opens, distinct⟩ := migrates.mp migrated
        refine ⟨opens, distinct, ?_⟩
        intro sub loaded
        cases absent.symm.trans loaded
      · rintro ⟨opens, distinct, _⟩
        exact migrates.mpr ⟨opens, distinct⟩
    · intro final submitted sessionId
      obtain ⟨outcome, executed, rfl⟩ := Instruction.executeAll_singleton.mp submitted
      rw [if_neg (fun both => both.1 absent)]
      exact ready.kept executed rfl (by simp [Pubkey.own, ChangeRateOptions.subscribe])
  · have mint : sub.tokenMint = newPlan.tokenMint := by
      obtain ⟨plan, planAt, _, _, mint, _⟩ := wellFormed.sub_plan loaded
      rw [(wellFormed.sub_parties loaded).2] at planAt
      cases planAt.symm.trans oldPlanAt
      exact mint.trans mints
    have migrates := ChangeRateOptions.migrates_of_loaded reachable newPlanAt vacant periods
      covered ordered serves quiet loaded mint
    constructor
    · constructor
      · intro migrated
        obtain ⟨opens, distinct, cancellable⟩ := migrates.mp migrated
        refine ⟨opens, distinct, ?_⟩
        intro other otherAt
        cases loaded.symm.trans otherAt
        exact cancellable
      · rintro ⟨opens, distinct, cancellable⟩
        exact migrates.mpr ⟨opens, distinct, cancellable sub loaded⟩
    · intro final submitted sessionId
      rw [ChangeRateOptions.sessions_of_loaded reachable newPlanAt vacant periods covered ordered
        serves quiet loaded mint submitted]
      simp [loaded]

section Witness

open Sample

def dearPlanKey : Pubkey := .plan merchant.key 8

/-- Twice the price for the same period. -/
def dearPlan : Plan Pubkey :=
  ⟨merchant.key, 8, 200, 10, usdcMint, merchantAta, 255, Reserved.zero⟩

def createDearPlanTx : Tx :=
  ⟨0, .program (.createPlan ⟨merchant, dearPlanKey, usdcMint, merchantAta⟩ 8 200 10)⟩

/-- The subscriber moves to the dear plan for one period and closes the sessions. -/
def changeRateOptions : ChangeRateOptions := ⟨subscriber, planKey, dearPlanKey, 1, true⟩

/-- The subscription is paused with a session open. -/
def pausedSample : Chain :=
  machine.run genesis [createPlanTx, createDearPlanTx, subscribeTx 0, openSessionTx 1, pauseTx 3]

/-- The subscription is cancelled and not cleaned up. -/
def cancelledSample : Chain :=
  machine.run genesis [createPlanTx, createDearPlanTx, subscribeTx 0, cancelTx 2 none none]

/-- A paused subscription with an open session migrates. -/
theorem changeRate_migrates_iff_paused :
    ∃ ixs final,
      buildChangeRateTx (fun _ _ => subscriberAta)
        (.listing pausedSample.ledger [.paySession subKey 1]) changeRateOptions = .ok ixs ∧
      Instruction.executeAll 5 pausedSample.ledger ixs = .ok final ∧
      final.Migrated subKey (.sub subscriber.key dearPlanKey) dearPlan 5 ∧
      final.account (.paySession subKey 1) = none := by
  have allowed : machine.AllowsRun genesis
      [createPlanTx, createDearPlanTx, subscribeTx 0, openSessionTx 1, pauseTx 3] :=
    allowsRun_of_clocks (by decide)
  have serves : Rpc.Serves (.listing pausedSample.ledger [.paySession subKey 1])
      pausedSample.ledger := by
    apply serves_of_opens allowed
    simp [createPlanTx, createDearPlanTx, subscribeTx, openSessionTx, pauseTx, Action.opens]
  have built : buildChangeRateTx (fun _ _ => subscriberAta)
      (.listing pausedSample.ledger [.paySession subKey 1]) changeRateOptions =
        .ok [.closeSession ⟨subKey, .paySession subKey 1, subscriber⟩,
          .cancel (cancelAccounts none (some (.pausedSub subKey))),
          .cleanup ⟨subKey, subscriber⟩,
          .subscribe (changeRateOptions.subscribe (fun _ _ => subscriberAta) usdcMint) 1] := by
    decide +kernel
  obtain ⟨migrates, sessions⟩ := @changeRate_migrates_iff (fun _ _ => subscriberAta)
    pausedSample _ 5 changeRateOptions samplePlan dearPlan _
    ⟨genesis, _, genesis_isGenesis, allowed, rfl⟩ (by decide +kernel) serves
    (by decide +kernel) (by decide +kernel) rfl (by decide +kernel) (by decide +kernel)
    (by decide)
    ⟨⟨usdcMint, subscriber.key, 800⟩, ⟨by decide +kernel, rfl, rfl⟩, by decide +kernel⟩ built
  obtain ⟨found, foundAt, fields⟩ := Option.map_eq_some_iff.mp
    (show (pausedSample.view subKey).subscription.map (fun sub =>
      (sub.state, sub.streamStart, sub.merchantAta, sub.tokenMint)) =
        some (.paused, 0, merchantAta, usdcMint) by decide +kernel)
  simp only [Prod.mk.injEq] at fields
  obtain ⟨state, start, ata, mint⟩ := fields
  obtain ⟨satellite, satelliteAt, pausedAt⟩ := Option.map_eq_some_iff.mp
    (show (pausedSample.view subKey).paused.map (·.pausedAt) = some 3 by decide +kernel)
  have cancellable : ∀ sub, pausedSample.ledger.account changeRateOptions.oldSub =
      some (.subscription sub) →
      pausedSample.Cancellable changeRateOptions.oldSub sub subscriberAta 5 := by
    intro sub loaded
    cases (view_subscription.mp foundAt).symm.trans loaded
    constructor
    · exact .inr (.inl state)
    · rw [ata]
      decide
    · rw [ata, mint]
      exact ⟨⟨usdcMint, merchant.key, 0⟩, by decide +kernel, rfl⟩
    · rw [state, start]
      exact ⟨satellite.pausedAt, .paused satelliteAt, by rw [pausedAt]; decide⟩
  obtain ⟨final, executed, migrated⟩ := migrates.mpr
    ⟨⟨by decide, by decide⟩, by decide, cancellable⟩
  refine ⟨_, final, built, executed, migrated, ?_⟩
  rw [show (Pubkey.paySession subKey 1) = .paySession changeRateOptions.oldSub 1 from rfl,
    sessions final executed 1]
  decide +kernel

/-- From a cancelled subscription the builder emits a `cancel`, which does not find the
vault that the first one closed. -/
theorem cancelled_migration_refused :
    ∃ rpc : Rpc, ∃ ixs, machine.Reachable cancelledSample ∧ rpc.Serves cancelledSample.ledger ∧
      cancelledSample.ledger.account planKey = some (.plan samplePlan) ∧
      cancelledSample.ledger.account dearPlanKey = some (.plan dearPlan) ∧
      samplePlan.tokenMint = dearPlan.tokenMint ∧ dearPlan.Opens 5 ∧
      cancelledSample.ledger.account changeRateOptions.newSub = none ∧
      cancelledSample.ledger.account (.vault subKey) = none ∧
      cancelledSample.moved subKey .foreign = 0 ∧
      cancelledSample.ledger.account subscriberAta =
        some (.token ⟨usdcMint, subscriber.key, 980⟩) ∧
      buildChangeRateTx (fun _ _ => subscriberAta) rpc changeRateOptions = .ok ixs ∧
      ¬∃ final, Instruction.executeAll 5 cancelledSample.ledger ixs = .ok final := by
  have allowed : machine.AllowsRun genesis
      [createPlanTx, createDearPlanTx, subscribeTx 0, cancelTx 2 none none] :=
    allowsRun_of_clocks (by decide)
  refine ⟨.listing cancelledSample.ledger [.paySession subKey 1],
    [.cancel (cancelAccounts none none), .cleanup ⟨subKey, subscriber⟩,
      .subscribe (changeRateOptions.subscribe (fun _ _ => subscriberAta) usdcMint) 1],
    ⟨genesis, _, genesis_isGenesis, allowed, rfl⟩, ?_, by decide +kernel, by decide +kernel, rfl,
    ⟨by decide, by decide⟩, by decide +kernel, by decide +kernel, by decide +kernel,
    by decide +kernel, by decide +kernel, ?_⟩
  · apply serves_of_opens allowed
    simp [createPlanTx, createDearPlanTx, subscribeTx, cancelTx, Action.opens]
  · rintro ⟨final, executed⟩
    have refused : (Instruction.executeAll 5 cancelledSample.ledger
        [.cancel (cancelAccounts none none), .cleanup ⟨subKey, subscriber⟩,
          .subscribe (changeRateOptions.subscribe (fun _ _ => subscriberAta) usdcMint)
            1]).isOk = false := by decide +kernel
    rw [executed] at refused
    cases refused

end Witness

end Nakama
