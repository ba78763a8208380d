import Nakama.Properties.Clients

/-!
# Whatever the node answers

A client builds a composite transaction from what a node tells it, and the subscriber signs
it.  A false answer can make the transaction fail, or leave a session behind.  If it
executes, it opens the subscription that was asked for, the deposit is all that it can cost,
and nobody else's accounts change.
-/

namespace Nakama

open Guard Ledger

/-! ## What the clients can build -/

/-- An instruction that closes accounts of the subscription to a plan. -/
inductive Instruction.Leaves (subscriber : Signer) (planKey : Pubkey) : Instruction → Prop where
  | closeSession (paySession : Pubkey) :
      Leaves subscriber planKey
        (.closeSession ⟨.sub subscriber.key planKey, paySession, subscriber⟩)
  | cancel {accounts : Cancel} (target : accounts.subscription = .sub subscriber.key planKey) :
      Leaves subscriber planKey (.cancel accounts)
  | cleanup : Leaves subscriber planKey (.cleanup ⟨.sub subscriber.key planKey, subscriber⟩)

/-- The instruction that subscribes to a plan. -/
inductive Instruction.Opens (subscriber : Signer) (planKey : Pubkey) (periods : Nat) :
    Instruction → Prop where
  | subscribe {accounts : Subscribe} {periodsToPrefund : UInt8}
      (signed : accounts.subscriber = subscriber) (plan : accounts.plan = planKey)
      (same : periodsToPrefund.toNat = periods) :
      Opens subscriber planKey periods (.subscribe accounts periodsToPrefund)

/-- The instructions leave the old plan and then subscribe to the new one. -/
def Instruction.Replaces (subscriber : Signer) (oldPlan newPlan : Pubkey) (periods : Nat)
    (ixs : List Instruction) : Prop :=
  ∃ front last, ixs = front ++ [last] ∧
    (∀ instruction ∈ front, instruction.Leaves subscriber oldPlan) ∧
    last.Opens subscriber newPlan periods

/-- One of the clients built the instructions from the answers of the node. -/
inductive Rpc.Built (getAssociatedTokenAddress : Pubkey → Pubkey → Pubkey) (rpc : Rpc)
    (ixs : List Instruction) : Signer → Pubkey → Pubkey → Nat → Prop where
  | resubscribe {args : ResubscribeArgs}
      (built : resubscribeOrSubscribe getAssociatedTokenAddress rpc args = .ok ixs) :
      Built getAssociatedTokenAddress rpc ixs args.subscriber args.plan args.plan
        args.periodsToPrefund.toNat
  | changeRate {opts : ChangeRateOptions}
      (built : buildChangeRateTx getAssociatedTokenAddress rpc opts = .ok ixs) :
      Built getAssociatedTokenAddress rpc ixs opts.subscriber opts.oldPlan opts.newPlan
        opts.newDepositPeriods.toNat
  | typeScriptResubscribe {args : TypeScript.ResubscribeOrSubscribeArgs}
      (built : TypeScript.resubscribeOrSubscribe rpc args = .ok ixs) :
      Built getAssociatedTokenAddress rpc ixs args.subscriber args.plan args.plan
        args.periodsToPrefund.toNat
  | typeScriptChangeRate {opts : TypeScript.ChangeRateOptions}
      (built : TypeScript.buildChangeRateTx getAssociatedTokenAddress rpc opts = .ok ixs) :
      Built getAssociatedTokenAddress rpc ixs opts.subscriber opts.oldPlan opts.newPlan
        opts.newDepositPeriods.toNat

section Shape

variable {getAssociatedTokenAddress : Pubkey → Pubkey → Pubkey} {rpc : Rpc}
  {subscriber : Signer} {oldPlan newPlan : Pubkey} {periods : Nat} {ixs : List Instruction}

theorem leaves_closeSessions {keys : List Pubkey} :
    ∀ instruction ∈ closeSessionIxs subscriber oldPlan keys,
      instruction.Leaves subscriber oldPlan := by
  intro instruction member
  obtain ⟨key, _, rfl⟩ := List.mem_map.mp member
  exact .closeSession key

theorem resubscribe_replaces {args : ResubscribeArgs}
    (built : resubscribeOrSubscribe getAssociatedTokenAddress rpc args = .ok ixs) :
    Instruction.Replaces args.subscriber args.plan args.plan args.periodsToPrefund.toNat
      ixs := by
  simp only [resubscribeOrSubscribe, buildResubscribeIxs, bind_eq_ok] at built
  obtain ⟨state, _, _, _, _, _, listed⟩ := built
  have opens : (buildSubscribeIx getAssociatedTokenAddress args.subscriber args.plan
      args.tokenMint args.periodsToPrefund).Opens args.subscriber args.plan
        args.periodsToPrefund.toNat := .subscribe rfl rfl rfl
  cases state with
  | none =>
      cases listed
      exact ⟨[], _, rfl, by simp, opens⟩
  | some state =>
      by_cases ended : state = 4
      · simp only [ended, if_true, pure_eq_ok] at listed
        subst listed
        refine ⟨_ ++ [buildCleanupIx (.sub args.subscriber.key args.plan) args.subscriber], _,
          (List.append_assoc _ [_] [_]).symm, ?_, opens⟩
        intro instruction member
        rcases List.mem_append.mp member with closing | cleaning
        · split at closing
          next => exact leaves_closeSessions instruction closing
          next => cases closing
        · cases List.mem_singleton.mp cleaning
          exact .cleanup
      · simp only [if_neg ended] at listed
        cases listed

theorem buildLeaveIfExists_leaves {opts : ChangeRateOptions}
    (built : buildLeaveIfExists getAssociatedTokenAddress rpc opts = .ok ixs) :
    ∀ instruction ∈ ixs, instruction.Leaves opts.subscriber opts.oldPlan := by
  unfold buildLeaveIfExists at built
  split at built
  next =>
    cases built
    simp
  next =>
    split at built
    next => cases built
    next =>
      simp only [buildLeaveIxs, bind_eq_ok, pure_eq_ok] at built
      obtain ⟨_, _, closed, _, _, _, rfl⟩ := built
      simp only [List.mem_append, List.mem_cons, List.not_mem_nil, or_false]
      rintro instruction (closing | rfl | rfl)
      · exact leaves_closeSessions instruction closing
      · exact .cancel rfl
      · exact .cleanup

theorem changeRate_replaces {opts : ChangeRateOptions}
    (built : buildChangeRateTx getAssociatedTokenAddress rpc opts = .ok ixs) :
    Instruction.Replaces opts.subscriber opts.oldPlan opts.newPlan
      opts.newDepositPeriods.toNat ixs := by
  simp only [buildChangeRateTx, bind_eq_ok, pure_eq_ok] at built
  obtain ⟨_, _, _, _, _, _, _, _, _, _, leave, left, rfl⟩ := built
  exact ⟨leave, _, rfl, buildLeaveIfExists_leaves left, .subscribe rfl rfl rfl⟩

theorem leaves_typeScript_closeSessions {alive : List UInt64} :
    ∀ instruction ∈ alive.map (TypeScript.buildCloseSessionIx (.sub subscriber.key oldPlan)
      subscriber), instruction.Leaves subscriber oldPlan := by
  rw [typeScript_closes]
  exact leaves_closeSessions

/-- The TypeScript builders send the number that they have checked. -/
theorem toNat_ofNat_periods {count : Int} (within : 1 ≤ count ∧ count ≤ 255) :
    (UInt8.ofNat count.toNat).toNat = count.toNat :=
  UInt8.toNat_ofNat_of_lt' (by
    change count.toNat < 256
    omega)

theorem typeScript_resubscribe_replaces {args : TypeScript.ResubscribeOrSubscribeArgs}
    (built : TypeScript.resubscribeOrSubscribe rpc args = .ok ixs) :
    Instruction.Replaces args.subscriber args.plan args.plan
      args.periodsToPrefund.toNat ixs := by
  simp only [TypeScript.resubscribeOrSubscribe, TypeScript.buildResubscribeIxs, bind_eq_ok,
    require_eq_ok, pure_eq_ok] at built
  obtain ⟨_, _, _, _, _, _, _, within, rfl⟩ := built
  refine ⟨_, _, rfl, ?_, .subscribe rfl rfl (toNat_ofNat_periods within)⟩
  intro instruction member
  rcases List.mem_append.mp member with closing | cleaning
  · split at closing
    next => exact leaves_typeScript_closeSessions instruction closing
    next => cases closing
  · split at cleaning
    next =>
      cases List.mem_singleton.mp cleaning
      exact .cleanup
    next => cases cleaning

theorem typeScript_changeRate_replaces {opts : TypeScript.ChangeRateOptions}
    (built : TypeScript.buildChangeRateTx getAssociatedTokenAddress rpc opts = .ok ixs) :
    Instruction.Replaces opts.subscriber opts.oldPlan opts.newPlan
      opts.newDepositPeriods.toNat ixs := by
  simp only [TypeScript.buildChangeRateTx, bind_eq_ok, require_eq_ok] at built
  obtain ⟨_, within, _, _, _, _, _, _, _, _, oldSub, _, listed⟩ := built
  cases oldSub with
  | none =>
      cases listed
      exact ⟨[], _, rfl, by simp, .subscribe rfl rfl (toNat_ofNat_periods within)⟩
  | some sub =>
      simp only [TypeScript.buildLeaveIxs, bind_eq_ok, pure_eq_ok] at listed
      obtain ⟨_, ⟨_, _, _, _, _, _, rfl⟩, rfl⟩ := listed
      refine ⟨_, _, rfl, ?_, .subscribe rfl rfl (toNat_ofNat_periods within)⟩
      simp only [List.mem_append, List.mem_cons, List.not_mem_nil, or_false]
      rintro instruction (closing | rfl | rfl)
      · exact leaves_typeScript_closeSessions instruction closing
      · exact .cancel rfl
      · exact .cleanup

/-- Every client leaves the old plan and subscribes to the new one, and does nothing else. -/
theorem Rpc.Built.replaces
    (built : rpc.Built getAssociatedTokenAddress ixs subscriber oldPlan newPlan periods) :
    Instruction.Replaces subscriber oldPlan newPlan periods ixs := by
  cases built with
  | resubscribe built => exact resubscribe_replaces built
  | changeRate built => exact changeRate_replaces built
  | typeScriptResubscribe built => exact typeScript_resubscribe_replaces built
  | typeScriptChangeRate built => exact typeScript_changeRate_replaces built

end Shape

/-! ## What leaving a plan can do -/

/-- What a `cancel` would pay to the merchant: the accrual of the meter that is not withdrawn
yet. -/
def View.owed (view : View) (now : Int64) : Nat :=
  match view.subscription with
  | none => 0
  | some sub =>
      if sub.state = .cancelled then 0
      else Accrual.unlocked sub.price.toNat sub.period.toInt.toNat sub.depositedAmount.toNat
        (view.metered now) - sub.withdrawnAmount.toNat

theorem View.owed_of_cancelled {view : View} {sub : Subscription Pubkey} {now : Int64}
    (subAt : view.subscription = some sub) (cancelled : sub.state = .cancelled) :
    view.owed now = 0 := by
  simp only [owed, subAt, if_pos cancelled]

theorem View.Sound.owed_of_settles {view : View} {sub : Subscription Pubkey}
    {now moment : Int64} (sound : view.Sound now) (subAt : view.subscription = some sub)
    (settles : view.SettlesAt now sub.state moment) :
    view.owed now = sub.unlockedBy moment - sub.withdrawnAmount.toNat := by
  have running : sub.state ≠ .cancelled := by
    intro cancelled
    rw [cancelled] at settles
    cases settles
  simp only [owed, subAt, if_neg running, sound.unlocked_of_settles subAt settles]

/-- The subscriber's accounts lose nothing, an account of anybody else gains at most what is
owed, and outside the subscription nothing changes but the two parties' token accounts. -/
structure Ledger.Left (subscriber planKey : Pubkey) (now : Int64) (before after : Ledger) :
    Prop where
  funds : ∀ key token, key.isExternal = true → before.account key = some (.token token) →
    ∃ left, after.account key = some (.token left) ∧ left.mint = token.mint ∧
      left.owner = token.owner ∧ token.amount.toNat ≤ left.amount.toNat ∧
      (token.owner ≠ subscriber →
        left.amount.toNat + (after.view (.sub subscriber planKey)).owed now ≤
          token.amount.toNat + (before.view (.sub subscriber planKey)).owed now)
  others : ∀ key, key.subject ≠ some (.sub subscriber planKey) →
    after.account key = before.account key ∨
      ∃ token, before.account key = some (.token token) ∧
        (token.owner = subscriber ∨
          ∃ plan, before.account planKey = some (.plan plan) ∧ plan.merchantAta = key)

namespace Ledger.Left

variable {subscriber planKey : Pubkey} {now : Int64} {before between after : Ledger}

theorem of_inside
    (inside : ∀ key, key.subject ≠ some (.sub subscriber planKey) →
      after.account key = before.account key)
    (less : (after.view (.sub subscriber planKey)).owed now ≤
      (before.view (.sub subscriber planKey)).owed now) :
    Left subscriber planKey now before after := by
  constructor
  · intro key token external tokenAt
    refine ⟨token, ?_, rfl, rfl, le_rfl, fun _ => Nat.add_le_add_left less _⟩
    rw [inside key (by rw [Pubkey.subject_of_external external]; simp)]
    exact tokenAt
  · intro key elsewhere
    exact .inl (inside key elsewhere)

theorem refl : Left subscriber planKey now before before :=
  of_inside (fun _ _ => rfl) le_rfl

theorem plan_back (left : Left subscriber planKey now before between)
    (wellFormed : before.WellFormed) (later : between.WellFormed) {key : Pubkey}
    {plan : Plan Pubkey} (planAt : between.account key = some (.plan plan)) :
    before.account key = some (.plan plan) := by
  have address := later.plan_key planAt
  have elsewhere : key.subject ≠ some (.sub subscriber planKey) := by
    rw [address]
    exact (Option.some_ne_none _).symm
  obtain unchanged | ⟨token, tokenAt, _⟩ := left.others key elsewhere
  · exact unchanged.symm.trans planAt
  · cases wellFormed key _ tokenAt with
    | vault atVault =>
        rw [address] at atVault
        cases atVault
    | token outside =>
        rw [address] at outside
        cases outside

theorem trans (first : Left subscriber planKey now before between)
    (second : Left subscriber planKey now between after) (wellFormed : before.WellFormed)
    (later : between.WellFormed) : Left subscriber planKey now before after := by
  constructor
  · intro key token external tokenAt
    obtain ⟨middle, middleAt, mint, owner, kept, others⟩ :=
      first.funds key token external tokenAt
    obtain ⟨last, lastAt, lastMint, lastOwner, lastKept, lastOthers⟩ :=
      second.funds key middle external middleAt
    refine ⟨last, lastAt, lastMint.trans mint, lastOwner.trans owner, kept.trans lastKept, ?_⟩
    intro other
    exact (lastOthers (by rwa [owner])).trans (others other)
  · intro key elsewhere
    obtain unchanged | changed := first.others key elsewhere
    · obtain again | ⟨token, tokenAt, party⟩ := second.others key elsewhere
      · exact .inl (again.trans unchanged)
      · refine .inr ⟨token, unchanged.symm.trans tokenAt, ?_⟩
        obtain own | ⟨plan, planAt, payee⟩ := party
        · exact .inl own
        · exact .inr ⟨plan, first.plan_back wellFormed later planAt, payee⟩
    · exact .inr changed

end Ledger.Left

section Leaving

variable {ledger : Ledger} {now : Int64} {subscriber : Signer} {planKey : Pubkey}
  {outcome : Outcome}

theorem closeSession_left {paySession : Pubkey}
    (executed : closeSession ledger now ⟨.sub subscriber.key planKey, paySession, subscriber⟩ =
      .ok outcome) :
    Ledger.Left subscriber.key planKey now ledger outcome.ledger := by
  cases closeSession_effect executed with
  | closeSession _ _ _ _ sessionAddress =>
      simp only at sessionAddress ⊢
      subst sessionAddress
      apply Ledger.Left.of_inside
      · intro key elsewhere
        rw [close_account, if_neg]
        rintro rfl
        exact elsewhere rfl
      · rw [close_view_session]
        exact le_rfl

theorem cleanup_left (executed : cleanup ledger now
      ⟨.sub subscriber.key planKey, subscriber⟩ = .ok outcome) :
    Ledger.Left subscriber.key planKey now ledger outcome.ledger := by
  cases cleanup_effect executed with
  | cleanup =>
      apply Ledger.Left.of_inside
      · intro key elsewhere
        rw [close_account, if_neg]
        rintro rfl
        exact elsewhere rfl
      · rw [close_view_subscription]
        exact Nat.zero_le _

/-- A payment changes the receiving account only, which is one before as well. -/
theorem transferIfPositive_account {moved : Ledger} {source destination authority key : Pubkey}
    {amount : UInt64}
    (transferred : transferIfPositive ledger source destination authority amount = .ok moved)
    (notSource : key ≠ source) :
    moved.account key = ledger.account key ∨
      key = destination ∧ ∃ token, ledger.account key = some (.token token) := by
  by_cases receives : key = destination
  · unfold transferIfPositive at transferred
    split at transferred
    next =>
      obtain unchanged | ⟨token, _, tokenAt, _⟩ := transfer_account transferred key
      · exact .inl unchanged
      · exact .inr ⟨receives, token, tokenAt⟩
    next =>
      cases transferred
      exact .inl rfl
  · exact .inl (transferIfPositive_account_of_ne transferred notSource receives)

/-- After its payments a `cancel` writes to accounts of the subscription only. -/
theorem ended_account {refunded : Ledger} {subscription key : Pubkey} {account : Account}
    {graced paused : Option Pubkey} (self : subscription.subject = some subscription)
    (graceSlot : ∀ given, graced = some given → given = .grace subscription)
    (pausedSlot : ∀ given, paused = some given → given = .pausedSub subscription)
    (elsewhere : key.subject ≠ some subscription) :
    ((((refunded.close (.vault subscription)).set subscription account).closeIfSome
      graced).closeIfSome paused).account key = refunded.account key := by
  rw [closeIfSome_account, if_neg, closeIfSome_account, if_neg, set_account_of_ne,
    close_account, if_neg]
  · rintro rfl
    exact elsewhere rfl
  · rintro rfl
    exact elsewhere self
  · intro given
    rw [graceSlot key given.symm] at elsewhere
    exact elsewhere rfl
  · intro given
    rw [pausedSlot key given.symm] at elsewhere
    exact elsewhere rfl

theorem cancel_left (wellFormed : ledger.WellFormed)
    (sound : (ledger.view (.sub subscriber.key planKey)).Sound now) {accounts : Cancel}
    (target : accounts.subscription = .sub subscriber.key planKey)
    (executed : cancel ledger now accounts = .ok outcome) :
    Ledger.Left subscriber.key planKey now ledger outcome.ledger := by
  have effect : Effect ledger now (.cancel accounts) outcome := cancel_effect executed
  cases effect with
  | @cancel _ sub ata moment claimable refund withdrawn settled refunded _ _ loaded address _
      vaultAddress destination ataLoaded ataOwner graceSlot pausedSlot settles _ _ withdrawnEq
      unlocked _ settlement refunding closing =>
      obtain ⟨_, _, _, _, rfl⟩ := closeToken_eq_ok.mp closing
      obtain ⟨_, _, leaves⟩ := cancel_leaves wellFormed loaded executed
      obtain ⟨tombstone, tombstoneAt, ended⟩ := leaves.tombstone
      have settlesHere := settlesAt_view settles
      simp only [target] at loaded tombstoneAt settlesHere vaultAddress graceSlot pausedSlot ⊢
      obtain ⟨owner, planKeyEq⟩ := wellFormed.sub_parties loaded
      have nothingOwed := @View.owed_of_cancelled _ _ now (view_subscription.mpr tombstoneAt)
        ended
      have owed := sound.owed_of_settles (view_subscription.mpr loaded) settlesHere
      constructor
      · intro key token external tokenAt
        have elsewhere : key.subject ≠ some (.sub subscriber.key planKey) := by
          rw [Pubkey.subject_of_external external]
          exact (Option.some_ne_none _).symm
        have notVault : key ≠ accounts.vault := by
          rintro rfl
          rw [vaultAddress] at elsewhere
          exact elsewhere rfl
        obtain ⟨first, firstAt, firstMint, firstOwner, firstAmount⟩ :=
          transferIfPositive_credit settlement tokenAt notVault
        obtain ⟨second, secondAt, secondMint, secondOwner, secondAmount⟩ :=
          transferIfPositive_credit refunding firstAt notVault
        refine ⟨second, ?_, secondMint.trans firstMint, secondOwner.trans firstOwner, by omega,
          ?_⟩
        · rw [vaultAddress, ended_account rfl graceSlot pausedSlot elsewhere]
          exact secondAt
        · intro other
          have notRefunded : key ≠ accounts.subscriberAta := by
            rintro rfl
            cases ataLoaded.symm.trans tokenAt
            exact other (ataOwner.trans owner)
          rw [nothingOwed, owed, secondAmount, if_neg notRefunded, firstAmount]
          split
          next => omega
          next => omega
      · intro key elsewhere
        have notVault : key ≠ accounts.vault := by
          rintro rfl
          rw [vaultAddress] at elsewhere
          exact elsewhere rfl
        rw [vaultAddress, ended_account rfl graceSlot pausedSlot elsewhere]
        obtain unpaid | ⟨paidAt, token, tokenAt⟩ :=
          transferIfPositive_account settlement notVault
        · obtain unrefunded | ⟨refundedAt, _⟩ := transferIfPositive_account refunding notVault
          · exact .inl (unrefunded.trans unpaid)
          · rw [← refundedAt] at ataLoaded
            exact .inr ⟨ata, ataLoaded, .inl (ataOwner.trans owner)⟩
        · obtain ⟨plan, planAt, _, _, _, _, payee⟩ := wellFormed.sub_plan loaded
          rw [planKeyEq] at planAt
          exact .inr ⟨token, tokenAt, .inr ⟨plan, planAt,
            (paidAt.trans (destination.trans payee)).symm⟩⟩

theorem Instruction.Leaves.left {instruction : Instruction} (wellFormed : ledger.WellFormed)
    (sound : (ledger.view (.sub subscriber.key planKey)).Sound now)
    (leaves : instruction.Leaves subscriber planKey)
    (executed : instruction.execute ledger now = .ok outcome) :
    Ledger.Left subscriber.key planKey now ledger outcome.ledger := by
  cases leaves with
  | closeSession => exact closeSession_left executed
  | cancel target => exact cancel_left wellFormed sound target executed
  | cleanup => exact cleanup_left executed

theorem Chain.exists_left_behind {chain : Chain} (reachable : machine.Reachable chain)
    (ordered : chain.clock.toInt ≤ now.toInt) {front : List Instruction}
    (leaving : ∀ instruction ∈ front, instruction.Leaves subscriber planKey) {left : Ledger}
    (executed : Instruction.executeAll now chain.ledger front = .ok left) :
    ∃ next, chain.Passes now front next ∧ next.ledger = left ∧
      Ledger.Left subscriber.key planKey now chain.ledger left := by
  induction front generalizing chain with
  | nil =>
      cases executed
      exact ⟨chain, .refl reachable ordered, rfl, .refl⟩
  | cons instruction front ih =>
      rw [Instruction.executeAll, bind_eq_ok] at executed
      obtain ⟨outcome, first, rest⟩ := executed
      have invariant := Chain.Invariant.of_reachable reachable
      have sound := (invariant.sound subscriber.key planKey).advance ordered
      have stepped := (leaving _ List.mem_cons_self).left invariant.wellFormed sound first
      obtain ⟨between, passes, betweenEq⟩ := Chain.Passes.of_execute reachable ordered first
      rw [← betweenEq] at rest stepped
      obtain ⟨next, onward, nextEq, behind⟩ := ih passes.reachable passes.clock
        (fun other member => leaving other (List.mem_cons_of_mem _ member)) rest
      exact ⟨next, passes.trans onward, nextEq, stepped.trans behind invariant.wellFormed
        passes.evolves.wellFormed⟩

end Leaving

/-! ## What the whole transaction can do -/

/-- One token account of the subscriber pays at most the deposit, an account of anybody else
gains at most what was owed, no wallet's token account disappears or changes its owner, and
outside the two subscriptions nothing changes but the token accounts of the parties. -/
structure Ledger.Contained (subscriber oldPlan newPlan payer : Pubkey) (deposit : UInt64)
    (owed : Nat) (before after : Ledger) : Prop where
  paying : ∃ token, before.account payer = some (.token token) ∧ token.owner = subscriber
  funds : ∀ key token, key.isExternal = true → before.account key = some (.token token) →
    ∃ left, after.account key = some (.token left) ∧ left.mint = token.mint ∧
      left.owner = token.owner ∧
      token.amount.toNat ≤ left.amount.toNat + (if key = payer then deposit.toNat else 0) ∧
      (token.owner ≠ subscriber → left.amount.toNat ≤ token.amount.toNat + owed)
  others : ∀ key, key.subject ≠ some (.sub subscriber oldPlan) →
    key.subject ≠ some (.sub subscriber newPlan) →
    after.account key = before.account key ∨
      ∃ token, before.account key = some (.token token) ∧
        (token.owner = subscriber ∨
          ∃ plan, before.account oldPlan = some (.plan plan) ∧ plan.merchantAta = key)

section Replacing

variable {ledger left : Ledger} {now : Int64} {subscriber : Signer}
  {oldPlan newPlan : Pubkey} {outcome : Outcome}

/-- A token account of a wallet was there before, for the same wallet. -/
theorem Ledger.Left.token_back {subscriber key : Pubkey}
    (behind : Left subscriber oldPlan now ledger left) (external : key.isExternal = true)
    {token : TokenAccount} (tokenAt : left.account key = some (.token token)) :
    ∃ before, ledger.account key = some (.token before) ∧ before.owner = token.owner := by
  have elsewhere : key.subject ≠ some (.sub subscriber oldPlan) := by
    rw [Pubkey.subject_of_external external]
    exact (Option.some_ne_none _).symm
  obtain unchanged | ⟨before, beforeAt, _⟩ := behind.others key elsewhere
  · exact ⟨token, unchanged.symm.trans tokenAt, rfl⟩
  · obtain ⟨after, afterAt, _, owner, _⟩ := behind.funds key before external beforeAt
    cases afterAt.symm.trans tokenAt
    exact ⟨before, beforeAt, owner.symm⟩

theorem Ledger.Left.contained {accounts : Subscribe} {periodsToPrefund : UInt8}
    (behind : Left subscriber.key oldPlan now ledger left) (wellFormed : left.WellFormed)
    (signed : accounts.subscriber = subscriber) (plan : accounts.plan = newPlan)
    (executed : subscribe left now accounts periodsToPrefund = .ok outcome) :
    ∃ plan sub, left.account newPlan = some (.plan plan) ∧
      outcome.ledger.account (.sub subscriber.key newPlan) = some (.subscription sub) ∧
      sub.Fresh plan now ∧
      sub.depositedAmount.toNat = plan.price.toNat * periodsToPrefund.toNat ∧
      Ledger.Contained subscriber.key oldPlan newPlan accounts.subscriberAta
        sub.depositedAmount ((ledger.view (.sub subscriber.key oldPlan)).owed now) ledger
        outcome.ledger := by
  subst signed plan
  have effect : Effect left now (.subscribe accounts periodsToPrefund) outcome :=
    subscribe_effect executed
  cases effect with
  | @subscribe _ _ plan ata nextChargeAt deposited rate funded _ planLoaded address _
      vaultAddress _ _ ataLoaded ataOwner _ _ _ depositedEq _ funding =>
      have external : accounts.subscriberAta.isExternal = true :=
        wellFormed.token_external ataLoaded ataOwner accounts.subscriber.signs
      have derived : accounts.vault.isExternal = false := by
        rw [vaultAddress]
        rfl
      have apart : accounts.subscriberAta ≠ accounts.vault := by
        intro same
        rw [same] at external
        cases derived.symm.trans external
      obtain ⟨_, untouched⟩ := subscribe_leaves planLoaded executed
      refine ⟨plan, accounts.newSubscription left now plan nextChargeAt deposited rate,
        planLoaded, ?_, ⟨rfl, rfl, rfl, rfl, rfl⟩, depositedEq, ?_, ?_, ?_⟩
      · rw [← address]
        exact set_account_self _ _ _
      · obtain ⟨before, beforeAt, owner⟩ := behind.token_back external ataLoaded
        exact ⟨before, beforeAt, owner.trans ataOwner⟩
      · intro key token outside tokenAt
        obtain ⟨middle, middleAt, mint, owner, kept, gained⟩ :=
          behind.funds key token outside tokenAt
        have notVault : key ≠ accounts.vault := by
          rintro rfl
          cases derived.symm.trans outside
        have notSubscription : key ≠ accounts.subscription := by
          rintro rfl
          rw [address] at outside
          cases outside
        by_cases pays : key = accounts.subscriberAta
        · subst pays
          obtain ⟨source, sourceAt, covered, _, debited⟩ :=
            transfer_account_source funding apart
          rw [set_account_of_ne _ _ apart, middleAt] at sourceAt
          cases sourceAt
          refine ⟨{ middle with amount := middle.amount - deposited }, ?_, mint, owner, ?_, ?_⟩
          · rw [set_account_of_ne _ _ notSubscription]
            exact debited
          · rw [if_pos rfl]
            change token.amount.toNat ≤ (middle.amount - deposited).toNat + deposited.toNat
            rw [UInt64.toNat_sub_of_le _ _ (UInt64.le_iff_toNat_le.mpr covered)]
            omega
          · intro other
            cases middleAt.symm.trans ataLoaded
            exact (other (owner.symm.trans ataOwner)).elim
        · refine ⟨middle, ?_, mint, owner, ?_, ?_⟩
          · exact (untouched key notSubscription notVault pays).trans middleAt
          · rw [if_neg pays]
            exact kept
          · intro other
            exact (Nat.le_add_right _ _).trans (gained other)
      · intro key notOld notNew
        have notVault : key ≠ accounts.vault := by
          rintro rfl
          rw [vaultAddress, address] at notNew
          exact notNew rfl
        have notSubscription : key ≠ accounts.subscription := by
          rintro rfl
          rw [address] at notNew
          exact notNew rfl
        by_cases pays : key = accounts.subscriberAta
        · obtain ⟨before, beforeAt, owner⟩ := behind.token_back external ataLoaded
          rw [← pays] at beforeAt
          exact .inr ⟨before, beforeAt, .inl (owner.trans ataOwner)⟩
        · have same := untouched key notSubscription notVault pays
          obtain unchanged | changed := behind.others key notOld
          · exact .inl (same.trans unchanged)
          · exact .inr changed

end Replacing

/-- On a reachable chain, whatever a node answers: if a transaction that one of the clients
builds from the answers executes, then the subscription that was asked for is there, fresh,
on the terms that the plan has on chain and for the periods that were asked for.  The
deposit of one token account of the subscriber is all that it can cost, the merchant of the
old plan gets at most what the meter owes, and nothing else changes outside the two
subscriptions. -/
theorem composite_contained {chain : Chain} (reachable : machine.Reachable chain)
    {getAssociatedTokenAddress : Pubkey → Pubkey → Pubkey} {rpc : Rpc}
    {ixs : List Instruction} {subscriber : Signer} {oldPlan newPlan : Pubkey} {periods : Nat}
    (built : rpc.Built getAssociatedTokenAddress ixs subscriber oldPlan newPlan periods)
    {now : Int64} (ordered : chain.clock.toInt ≤ now.toInt) {final : Ledger}
    (executed : Instruction.executeAll now chain.ledger ixs = .ok final) :
    ∃ plan sub payer, chain.ledger.account newPlan = some (.plan plan) ∧
      final.account (.sub subscriber.key newPlan) = some (.subscription sub) ∧
      sub.Fresh plan now ∧ sub.depositedAmount.toNat = plan.price.toNat * periods ∧
      Ledger.Contained subscriber.key oldPlan newPlan payer sub.depositedAmount
        ((chain.view (.sub subscriber.key oldPlan)).owed now) chain.ledger final := by
  obtain ⟨front, last, rfl, leaving, opening⟩ := built.replaces
  rw [Instruction.executeAll_append, bind_eq_ok] at executed
  obtain ⟨left, cleared, opened⟩ := executed
  obtain ⟨next, passes, rfl, behind⟩ :=
    Chain.exists_left_behind reachable ordered leaving cleared
  obtain ⟨outcome, subscribed, rfl⟩ := Instruction.executeAll_singleton.mp opened
  cases opening with
  | subscribe signed planEq same =>
      obtain ⟨plan, sub, planAt, subAt, fresh, deposited, contained⟩ :=
        behind.contained passes.evolves.wellFormed signed planEq subscribed
      refine ⟨plan, sub, _, ?_, subAt, fresh, ?_, contained⟩
      · exact behind.plan_back (Chain.Invariant.of_reachable reachable).wellFormed
          passes.evolves.wellFormed planAt
      · rw [← same]
        exact deposited

section Witness

open Sample

/-- A node that hides the second session of the subscription. -/
def oneHidden : Rpc := .listing twoSessions.ledger [.paySession subKey 1]

def hidingIxs : List Instruction :=
  [.closeSession ⟨subKey, .paySession subKey 1, subscriber⟩,
    .cancel (cancelAccounts none none), .cleanup ⟨subKey, subscriber⟩,
    .subscribe (changeRateOptions.subscribe (fun _ _ => subscriberAta) usdcMint) 1]

/-- The transaction executes and leaves the hidden session behind. -/
theorem composite_contained_hiding :
    ¬oneHidden.Serves twoSessions.ledger ∧
    ∃ ixs final,
      buildChangeRateTx (fun _ _ => subscriberAta) oneHidden changeRateOptions = .ok ixs ∧
      Instruction.executeAll 5 twoSessions.ledger ixs = .ok final ∧
      (final.account (.paySession subKey 2)).isSome = true ∧
      ∃ sub payer, final.account (.sub subscriber.key dearPlanKey) = some (.subscription sub) ∧
        sub.Fresh dearPlan 5 ∧ sub.depositedAmount.toNat = 200 ∧
        Ledger.Contained subscriber.key planKey dearPlanKey payer sub.depositedAmount 50
          twoSessions.ledger final := by
  have allowed : machine.AllowsRun genesis
      [createPlanTx, createDearPlanTx, subscribeTx 0, openSessionTx 1, openOtherTx 1] :=
    allowsRun_of_clocks (by decide)
  have built : buildChangeRateTx (fun _ _ => subscriberAta) oneHidden changeRateOptions =
      .ok hidingIxs := by
    decide +kernel
  constructor
  · intro serves
    obtain ⟨session, sessionAt, parent⟩ := Option.map_eq_some_iff.mp
      (show ((twoSessions.view subKey).session 2).map (·.subscription) = some subKey by
        decide +kernel)
    have listed := (serves.selected subKey (.paySession subKey 2) session.seen).mpr
      ⟨session, view_session.mp sessionAt, parent, rfl⟩
    have hidden : ¬∃ listed ∈ oneHidden.getProgramAccounts subKey,
        listed.1 = .paySession subKey 2 := by decide +kernel
    exact hidden ⟨_, listed, rfl⟩
  · have ran : (Instruction.executeAll 5 twoSessions.ledger hidingIxs).toOption.map
        (fun final => (final.account (.paySession subKey 2)).isSome) = some true := by
      decide +kernel
    cases executed : Instruction.executeAll 5 twoSessions.ledger hidingIxs with
    | error refusal =>
        rw [executed] at ran
        cases ran
    | ok final =>
        rw [executed] at ran
        obtain ⟨plan, sub, payer, planAt, subAt, fresh, deposited, contained⟩ :=
          composite_contained ⟨genesis, _, genesis_isGenesis, allowed, rfl⟩
            (.changeRate built) (by decide +kernel) executed
        cases planAt.symm.trans
          (show twoSessions.ledger.account dearPlanKey = some (.plan dearPlan) by
            decide +kernel)
        have owed : (twoSessions.view subKey).owed 5 = 50 := by decide +kernel
        refine ⟨_, final, built, executed, Option.some.inj ran, sub, payer, subAt, fresh,
          deposited, ?_⟩
        rw [← owed]
        exact contained

end Witness

end Nakama
