import Nakama.Properties.Sessions
import Nakama.Refinement.Composition

/-!
# Re-subscribing with a clean slate

`resubscribe_or_subscribe` closes the open sessions of a cancelled subscription, removes
the tombstone and subscribes again, in one transaction.  Where no tombstone is left it
only subscribes, although sessions may be left.
-/

namespace Nakama

open Guard Ledger

/-- A subscription that starts now, without a session under it. -/
structure Ledger.CleanSlate (ledger : Ledger) (subscription : Pubkey) (plan : Plan Pubkey)
    (now : Int64) : Prop where
  fresh : ∃ sub, ledger.account subscription = some (.subscription sub) ∧ sub.Fresh plan now
  sessionless : ∀ sessionId, ledger.account (.paySession subscription sessionId) = none

/-- The address that the arguments are about. -/
abbrev ResubscribeArgs.subscription (args : ResubscribeArgs) : Pubkey :=
  .sub args.subscriber.key args.plan

/-- The accounts of the `subscribe` at the end. -/
def ResubscribeArgs.subscribe (args : ResubscribeArgs)
    (getAssociatedTokenAddress : Pubkey → Pubkey → Pubkey) : Subscribe where
  subscriber := args.subscriber
  plan := args.plan
  tokenMint := args.tokenMint
  subscription := args.subscription
  vault := .vault args.subscription
  subscriberAta := getAssociatedTokenAddress args.subscriber.key args.tokenMint

section Building

variable {getAssociatedTokenAddress : Pubkey → Pubkey → Pubkey} {rpc : Rpc} {ledger : Ledger}
  {args : ResubscribeArgs} {ixs : List Instruction}

theorem buildResubscribeIxs_absent {sessions : List Pubkey}
    (built : buildResubscribeIxs getAssociatedTokenAddress args none sessions = .ok ixs) :
    ixs = [.subscribe (args.subscribe getAssociatedTokenAddress) args.periodsToPrefund] := by
  simp only [buildResubscribeIxs, bind_eq_ok, pure_eq_ok] at built
  obtain ⟨_, _, rfl⟩ := built
  rfl

theorem buildResubscribeIxs_cancelled {sessions : List Pubkey}
    (close : args.closeAlivePaySessions = true)
    (built : buildResubscribeIxs getAssociatedTokenAddress args (some 4) sessions = .ok ixs) :
    ixs = closeSessionIxs args.subscriber args.plan sessions ++
      [.cleanup ⟨args.subscription, args.subscriber⟩,
        .subscribe (args.subscribe getAssociatedTokenAddress) args.periodsToPrefund] := by
  simp only [buildResubscribeIxs, bind_eq_ok, if_pos, close, pure_eq_ok] at built
  obtain ⟨_, _, rfl⟩ := built
  rfl

/-- The two lists that `resubscribe_or_subscribe` submits. -/
theorem resubscribe_cases (wellFormed : ledger.WellFormed) (serves : rpc.Serves ledger)
    (close : args.closeAlivePaySessions = true)
    (built : resubscribeOrSubscribe getAssociatedTokenAddress rpc args = .ok ixs) :
    (ledger.account args.subscription = none ∧
      ixs = [.subscribe (args.subscribe getAssociatedTokenAddress) args.periodsToPrefund]) ∨
    ∃ sub, ledger.account args.subscription = some (.subscription sub) ∧
      sub.state = .cancelled ∧
      ixs = closeSessionIxs args.subscriber args.plan
          (rpc.derivedPaySessions args.subscription) ++
        [.cleanup ⟨args.subscription, args.subscriber⟩,
          .subscribe (args.subscribe getAssociatedTokenAddress) args.periodsToPrefund] := by
  unfold resubscribeOrSubscribe observeState at built
  simp only [serves.account] at built
  cases found : ledger.account args.subscription with
  | none =>
      rw [found, bind_of_ok rfl] at built
      exact .inl ⟨rfl, buildResubscribeIxs_absent built⟩
  | some account =>
      obtain ⟨sub, rfl⟩ := wellFormed.sub_of_key found
      rw [found] at built
      change (requireEnded (some sub.seen.state) >>= _) = _ at built
      rw [bind_eq_ok] at built
      obtain ⟨_, ended, built⟩ := built
      have cancelledByte : sub.seen.state = 4 := require_eq_ok.mp ended
      have cancelled : sub.state = .cancelled := by
        change sub.state.toByte = 4 at cancelledByte
        cases state : sub.state with
        | cancelled => rfl
        | active | paused | gracePeriod | exhausted =>
            rw [state] at cancelledByte
            cases cancelledByte
      rw [cancelledByte, if_pos ⟨close, rfl⟩] at built
      exact .inr ⟨sub, rfl, cancelled, buildResubscribeIxs_cancelled close built⟩

end Building

/-! ## The ledger in between -/

theorem Subscribe.Ready.clean_iff {accounts : Subscribe} {ledger : Ledger}
    {plan : Plan Pubkey} {periodsToPrefund : UInt8} {now : Int64}
    (ready : accounts.Ready ledger plan periodsToPrefund) :
    (∃ final,
      Instruction.executeAll now ledger [.subscribe accounts periodsToPrefund] = .ok final ∧
      final.CleanSlate accounts.subscription plan now) ↔
    plan.Opens now ∧
      ∀ sessionId, ledger.account (.paySession accounts.subscription sessionId) = none := by
  have kept : ∀ {outcome : Outcome},
      subscribe ledger now accounts periodsToPrefund = .ok outcome → ∀ sessionId,
        outcome.ledger.account (.paySession accounts.subscription sessionId) =
          ledger.account (.paySession accounts.subscription sessionId) := by
    intro outcome executed sessionId
    apply ready.kept executed rfl
    simp [Pubkey.own, ready.address]
  constructor
  · rintro ⟨final, submitted, clean⟩
    obtain ⟨outcome, executed, rfl⟩ := Instruction.executeAll_singleton.mp submitted
    refine ⟨.of_subscribe ready.planAt executed, ?_⟩
    intro sessionId
    rw [← kept executed]
    exact clean.sessionless sessionId
  · rintro ⟨opens, sessionless⟩
    obtain ⟨outcome, executed⟩ := ready.succeeds opens
    refine ⟨outcome.ledger, Instruction.executeAll_singleton.mpr ⟨outcome, executed, rfl⟩, ?_⟩
    constructor
    · exact (subscribe_leaves ready.planAt executed).1
    · intro sessionId
      rw [kept executed]
      exact sessionless sessionId

/-- Closing the sessions and cleaning up leaves a chain without the subscription and its
sessions. -/
theorem Chain.exists_cleared {chain : Chain} {rpc : Rpc} {now : Int64} {subscriber : Signer}
    {planKey : Pubkey} {sub : Subscription Pubkey} (reachable : machine.Reachable chain)
    (ordered : chain.clock.toInt ≤ now.toInt) (serves : rpc.Serves chain.ledger)
    (loaded : chain.ledger.account (.sub subscriber.key planKey) = some (.subscription sub))
    (cancelled : sub.state = .cancelled) :
    ∃ cleared, chain.Passes now
        (closeSessionIxs subscriber planKey
          (rpc.derivedPaySessions (.sub subscriber.key planKey)) ++
            [.cleanup ⟨.sub subscriber.key planKey, subscriber⟩]) cleared ∧
      cleared.ledger.account (.sub subscriber.key planKey) = none ∧
      (∀ sessionId, cleared.ledger.account
        (.paySession (.sub subscriber.key planKey) sessionId) = none) ∧
      ∀ key, key.subject = none → cleared.ledger.account key = chain.ledger.account key := by
  have wellFormed := (Invariant.of_reachable reachable).wellFormed
  obtain ⟨sessionless, kept⟩ := @Rpc.Serves.closed _ _ (.sub subscriber.key planKey) serves
    wellFormed
  obtain ⟨closed, passes, closedEq⟩ := exists_closed reachable ordered loaded serves.holds
  have tombstone : closed.ledger.account (.sub subscriber.key planKey) =
      some (.subscription sub) := by
    rw [closedEq, kept _ (fun _ same => Pubkey.noConfusion same)]
    exact loaded
  obtain ⟨events, cleaned⟩ := @cleanup_eq _ now _ _
    (Invariant.of_reachable passes.reachable).wellFormed _ tombstone cancelled
  obtain ⟨cleared, passesCleanup, clearedEq⟩ := @Passes.of_execute _ _
    (.cleanup ⟨.sub subscriber.key planKey, subscriber⟩) _ passes.reachable passes.clock cleaned
  refine ⟨cleared, passes.trans passesCleanup, ?_, ?_, ?_⟩
  · rw [clearedEq, close_account, if_pos rfl]
  · intro sessionId
    rw [clearedEq, close_account, if_neg (fun same => Pubkey.noConfusion same), closedEq]
    exact sessionless sessionId
  · intro key unrelated
    have notSubscription : key ≠ .sub subscriber.key planKey := by
      rintro rfl
      cases unrelated
    have notSession : ∀ sessionId, key ≠ .paySession (.sub subscriber.key planKey) sessionId := by
      rintro sessionId rfl
      cases unrelated
    rw [clearedEq, close_account, if_neg notSubscription, closedEq]
    exact kept key notSession

/-! ## Nodes that serve a ledger -/

/-- What a node lists of one address for a subscription. -/
def Ledger.listed (ledger : Ledger) (subscription key : Pubkey) :
    Option (Pubkey × PaySessionView Pubkey) :=
  match ledger.account key with
  | some (.paySession session) =>
      if session.subscription = subscription then some (key, session.seen) else none
  | _ => none

theorem Ledger.listed_eq_some {ledger : Ledger} {subscription key : Pubkey}
    {shown : Pubkey × PaySessionView Pubkey} :
    ledger.listed subscription key = some shown ↔
      key = shown.1 ∧ ∃ session, ledger.account key = some (.paySession session) ∧
        session.subscription = subscription ∧ session.seen = shown.2 := by
  unfold listed
  constructor
  · intro showing
    split at showing
    next session found =>
      split at showing
      next parent =>
        cases showing
        exact ⟨rfl, session, found, parent, rfl⟩
      next => cases showing
    next => cases showing
  · obtain ⟨listedKey, view⟩ := shown
    rintro ⟨rfl, session, found, parent, rfl⟩
    simp only [found, parent, if_true]

/-- A node that knows the addresses at which sessions were opened. -/
def Rpc.listing (ledger : Ledger) (keys : List Pubkey) : Rpc where
  getAccount := ledger.account
  getProgramAccounts subscription := keys.filterMap (ledger.listed subscription)

theorem Rpc.listing_sublist (ledger : Ledger) (subscription : Pubkey) (keys : List Pubkey) :
    ((keys.filterMap (ledger.listed subscription)).map Prod.fst).Sublist keys := by
  induction keys with
  | nil => exact .slnil
  | cons key keys ih =>
      rw [List.filterMap_cons]
      split
      next => exact .cons key ih
      next shown showing =>
        rw [List.map_cons, ← (listed_eq_some.mp showing).1]
        exact .cons_cons key ih

/-- It serves the ledger when it knows every session address once. -/
theorem Rpc.listing_serves {ledger : Ledger} {keys : List Pubkey} (once : keys.Nodup)
    (known : ∀ key session, ledger.account key = some (.paySession session) → key ∈ keys) :
    (Rpc.listing ledger keys).Serves ledger where
  account _ := rfl
  once subscription := once.sublist (listing_sublist ledger subscription keys)
  selected subscription key view := by
    simp only [Rpc.listing, List.mem_filterMap, listed_eq_some]
    constructor
    · rintro ⟨_, _, rfl, shown⟩
      exact shown
    · rintro ⟨session, found, shown⟩
      exact ⟨key, known key session found, rfl, session, found, shown⟩

theorem Chain.opened_of_session {chain : Chain} {txs : List Tx} (invariant : chain.Invariant)
    (allowed : machine.AllowsRun chain txs) {key : Pubkey} {session : PaySession Pubkey}
    (found : (machine.run chain txs).ledger.account key = some (.paySession session)) :
    (∃ old, chain.ledger.account key = some (.paySession old)) ∨
      ∃ tx ∈ txs, tx.action.opens key = true := by
  induction txs generalizing chain with
  | nil => exact .inl ⟨session, found⟩
  | cons tx txs ih =>
      obtain ⟨ordered, rest⟩ := allowed
      have later : (chain.step tx).Invariant := invariant.step ordered
      rcases ih later rest found with ⟨old, oldAt⟩ | ⟨opener, member, opens⟩
      · obtain ⟨subscriber, planKey, sessionId, rfl⟩ := later.wellFormed.session_key oldAt
        rcases @step_cases chain subscriber planKey invariant.wellFormed tx with
          ⟨_, unchanged⟩ | ⟨_, _, _, taken⟩
        · rw [unchanged] at oldAt
          exact .inl ⟨old, oldAt⟩
        · rcases taken.session (view_session.mpr oldAt) with before | opens
          · obtain ⟨older, olderAt⟩ := Option.ne_none_iff_exists'.mp before
            exact .inl ⟨older, view_session.mp olderAt⟩
          · exact .inr ⟨tx, List.mem_cons_self, opens⟩
      · exact .inr ⟨opener, List.mem_cons_of_mem _ member, opens⟩

/-! ## The clean slate -/

/-- On every reachable chain, for a wallet that covers the deposit and a positive number of
periods: what `resubscribe_or_subscribe` submits is executed as a whole and leaves a clean
slate if and only if the plan opens and a tombstone is left or no session is. -/
theorem resubscribe_clean_iff {getAssociatedTokenAddress : Pubkey → Pubkey → Pubkey}
    {chain : Chain} {rpc : Rpc} {now : Int64} {args : ResubscribeArgs} {plan : Plan Pubkey}
    {ixs : List Instruction} (reachable : machine.Reachable chain)
    (ordered : chain.clock.toInt ≤ now.toInt) (serves : rpc.Serves chain.ledger)
    (planAt : chain.ledger.account args.plan = some (.plan plan))
    (mint : args.tokenMint = plan.tokenMint) (close : args.closeAlivePaySessions = true)
    (periods : 1 ≤ args.periodsToPrefund.toNat)
    (covered : ∃ token, chain.ledger.account
        (getAssociatedTokenAddress args.subscriber.key args.tokenMint) = some (.token token) ∧
      token.mint = args.tokenMint ∧ token.owner = args.subscriber.key ∧
      plan.price.toNat * args.periodsToPrefund.toNat ≤ token.amount.toNat)
    (built : resubscribeOrSubscribe getAssociatedTokenAddress rpc args = .ok ixs) :
    (∃ final, Instruction.executeAll now chain.ledger ixs = .ok final ∧
        final.CleanSlate args.subscription plan now) ↔
      plan.Opens now ∧
        (chain.ledger.account args.subscription ≠ none ∨
          ∀ sessionId,
            chain.ledger.account (.paySession args.subscription sessionId) = none) := by
  have wellFormed := (Chain.Invariant.of_reachable reachable).wellFormed
  rcases resubscribe_cases wellFormed serves close built with
    ⟨absent, rfl⟩ | ⟨sub, loaded, cancelled, rfl⟩
  · have ready : (args.subscribe getAssociatedTokenAddress).Ready chain.ledger plan
        args.periodsToPrefund :=
      .of_reachable reachable planAt mint rfl absent rfl periods covered
    have clean := @Subscribe.Ready.clean_iff _ _ _ _ now ready
    constructor
    · intro leaves
      exact ⟨(clean.mp leaves).1, .inr (clean.mp leaves).2⟩
    · rintro ⟨opens, present | sessionless⟩
      · exact (present absent).elim
      · exact clean.mpr ⟨opens, sessionless⟩
  · obtain ⟨cleared, passes, removed, sessionless, kept⟩ :=
      Chain.exists_cleared reachable ordered serves loaded cancelled
    have planKept : cleared.ledger.account args.plan = some (.plan plan) := by
      rw [kept, planAt]
      rw [wellFormed.plan_key planAt]
      rfl
    have ready : (args.subscribe getAssociatedTokenAddress).Ready cleared.ledger plan
        args.periodsToPrefund := by
      apply Subscribe.Ready.of_reachable passes.reachable planKept mint rfl removed rfl periods
      obtain ⟨token, tokenAt, tokenMint, tokenOwner, enough⟩ := covered
      refine ⟨token, (kept _ ?_).trans tokenAt, tokenMint, tokenOwner, enough⟩
      apply Pubkey.subject_of_external
      exact wellFormed.token_external tokenAt tokenOwner args.subscriber.signs
    rw [loaded, List.append_cons, passes.rest]
    have clean := @Subscribe.Ready.clean_iff _ _ _ _ now ready
    constructor
    · intro leaves
      exact ⟨(clean.mp leaves).1, .inl (by simp)⟩
    · rintro ⟨opens, _⟩
      exact clean.mpr ⟨opens, sessionless⟩

section Witness

open Sample

/-- The subscriber asks for two periods and for every session to be closed. -/
def resubscribeArgs : ResubscribeArgs := ⟨planKey, usdcMint, 2, subscriber, true⟩

/-- The subscription is cancelled with a session open. -/
def tombstone : Chain :=
  machine.run genesis [createPlanTx, subscribeTx 0, openSessionTx 1, cancelTx 2 none none]

/-- Then the tombstone is removed as well. -/
def orphaned : Chain :=
  machine.run genesis
    [createPlanTx, subscribeTx 0, openSessionTx 1, cancelTx 2 none none, cleanupTx 3]

theorem serves_of_opens {txs : List Tx}
    (allowed : machine.AllowsRun genesis txs)
    (one : ∀ tx ∈ txs, ∀ key, tx.action.opens key = true → key = .paySession subKey 1) :
    (Rpc.listing (machine.run genesis txs).ledger [.paySession subKey 1]).Serves
      (machine.run genesis txs).ledger := by
  apply Rpc.listing_serves (List.nodup_singleton _)
  intro key session found
  rcases Chain.opened_of_session (.of_genesis genesis_isGenesis) allowed found with
    ⟨old, oldAt⟩ | ⟨tx, member, opens⟩
  · cases (genesis_isGenesis.outside _ _ oldAt).2
  · rw [List.mem_singleton]
    exact one tx member key opens

/-- A cancelled subscription with an open session gives a clean slate. -/
theorem resubscribe_clean_iff_tombstone :
    ∃ ixs final,
      resubscribeOrSubscribe (fun _ _ => subscriberAta)
        (.listing tombstone.ledger [.paySession subKey 1]) resubscribeArgs = .ok ixs ∧
      Instruction.executeAll 5 tombstone.ledger ixs = .ok final ∧
      final.CleanSlate subKey samplePlan 5 := by
  have allowed : machine.AllowsRun genesis
      [createPlanTx, subscribeTx 0, openSessionTx 1, cancelTx 2 none none] :=
    allowsRun_of_clocks (by decide)
  have serves : Rpc.Serves (.listing tombstone.ledger [.paySession subKey 1])
      tombstone.ledger := by
    apply serves_of_opens allowed
    simp [createPlanTx, subscribeTx, openSessionTx, cancelTx, Action.opens]
  have built : resubscribeOrSubscribe (fun _ _ => subscriberAta)
      (.listing tombstone.ledger [.paySession subKey 1]) resubscribeArgs =
        .ok [.closeSession ⟨subKey, .paySession subKey 1, subscriber⟩,
          .cleanup ⟨subKey, subscriber⟩,
          .subscribe (resubscribeArgs.subscribe fun _ _ => subscriberAta) 2] := by
    decide +kernel
  have iff := @resubscribe_clean_iff (fun _ _ => subscriberAta) tombstone _ 5 resubscribeArgs
    samplePlan _ ⟨genesis, _, genesis_isGenesis, allowed, rfl⟩ (by decide +kernel) serves
    (by decide +kernel) rfl rfl (by decide)
    ⟨⟨usdcMint, subscriber.key, 980⟩, by decide +kernel, rfl, rfl, by decide⟩ built
  obtain ⟨final, executed, clean⟩ := iff.mpr
    ⟨⟨by decide, by decide⟩, .inl (by decide +kernel)⟩
  exact ⟨_, final, built, executed, clean⟩

/-- After `cleanup` the open session is still there.  The builder takes an absent
subscription for one without sessions, and the new subscription inherits the old one. -/
theorem orphan_survives_resubscribe :
    ∃ rpc : Rpc, ∃ ixs, machine.Reachable orphaned ∧ rpc.Serves orphaned.ledger ∧
      orphaned.ledger.account planKey = some (.plan samplePlan) ∧
      samplePlan.Opens 5 ∧
      orphaned.ledger.account subscriberAta =
        some (.token ⟨usdcMint, subscriber.key, 980⟩) ∧
      resubscribeOrSubscribe (fun _ _ => subscriberAta) rpc resubscribeArgs = .ok ixs ∧
      ¬∃ final, Instruction.executeAll 5 orphaned.ledger ixs = .ok final ∧
        final.CleanSlate subKey samplePlan 5 := by
  have allowed : machine.AllowsRun genesis
      [createPlanTx, subscribeTx 0, openSessionTx 1, cancelTx 2 none none, cleanupTx 3] :=
    allowsRun_of_clocks (by decide)
  refine ⟨.listing orphaned.ledger [.paySession subKey 1],
    [.subscribe (resubscribeArgs.subscribe fun _ _ => subscriberAta) 2],
    ⟨genesis, _, genesis_isGenesis, allowed, rfl⟩, ?_, by decide +kernel,
    ⟨by decide, by decide⟩, by decide +kernel, by decide +kernel, ?_⟩
  · apply serves_of_opens allowed
    simp [createPlanTx, subscribeTx, openSessionTx, cancelTx, cleanupTx, Action.opens]
  · rintro ⟨final, executed, clean⟩
    have left : ((Instruction.executeAll 5 orphaned.ledger
        [.subscribe (resubscribeArgs.subscribe fun _ _ => subscriberAta) 2]).toOption.bind
          (·.account (.paySession subKey 1))).isSome = true := by decide +kernel
    rw [executed] at left
    change (final.account (.paySession subKey 1)).isSome = true at left
    rw [clean.sessionless] at left
    cases left

end Witness

end Nakama
