import Nakama.Client.Composite
import Nakama.Refinement.Availability
import Nakama.Refinement.Payees

/-!
# What composite transactions find and leave

The instructions of a composite transaction run on ledgers that no transaction of their
own was committed on.  Each is described by what it needs of the ledger and by the ledger
that it leaves.
-/

namespace Nakama

open Guard Ledger

/-! ## Mints stay -/

section Mints

variable {ledger : Ledger} {key : Pubkey}

private theorem minted_set (minted : ledger.account key = some .mint)
    (outside : key.isExternal = true) {written : Pubkey} (derived : written.isExternal = false)
    (account : Account) : (ledger.set written account).account key = some .mint := by
  rw [set_account_of_ne]
  · exact minted
  · rintro rfl
    cases outside.symm.trans derived

private theorem minted_close (minted : ledger.account key = some .mint)
    (outside : key.isExternal = true) {closed : Pubkey} (derived : closed.isExternal = false) :
    (ledger.close closed).account key = some .mint := by
  rw [close_account, if_neg]
  · exact minted
  · rintro rfl
    cases outside.symm.trans derived

private theorem minted_closeIfSome (minted : ledger.account key = some .mint)
    (outside : key.isExternal = true) {slot : Option Pubkey} {derived : Pubkey}
    (pinned : ∀ closed, slot = some closed → closed = derived)
    (inside : derived.isExternal = false) :
    (ledger.closeIfSome slot).account key = some .mint := by
  cases slot with
  | none => exact minted
  | some closed =>
      apply minted_close minted outside
      rw [pinned closed rfl]
      exact inside

private theorem minted_transfer {moved : Ledger} {source destination authority : Pubkey}
    {amount : UInt64} (minted : ledger.account key = some .mint)
    (transferred : ledger.transfer source destination authority amount = .ok moved) :
    moved.account key = some .mint := by
  rcases transfer_account transferred key with same | ⟨before, after, beforeAt, _⟩
  · rw [same]
    exact minted
  · cases minted.symm.trans beforeAt

private theorem minted_transferIfPositive {moved : Ledger}
    {source destination authority : Pubkey} {amount : UInt64}
    (minted : ledger.account key = some .mint)
    (transferred : transferIfPositive ledger source destination authority amount = .ok moved) :
    moved.account key = some .mint := by
  unfold transferIfPositive at transferred
  split at transferred
  next => exact minted_transfer minted transferred
  next =>
    cases transferred
    exact minted

private theorem minted_closeToken {closed : Ledger} {account authority : Pubkey}
    (minted : ledger.account key = some .mint)
    (closing : ledger.closeToken account authority = .ok closed) :
    closed.account key = some .mint := by
  obtain ⟨token, tokenAt, _, _, rfl⟩ := closeToken_eq_ok.mp closing
  rw [close_account, if_neg]
  · exact minted
  · rintro rfl
    cases minted.symm.trans tokenAt

variable {now : Int64} {outcome : Outcome}

private theorem effect_minted {instruction : Instruction}
    (effect : Effect ledger now instruction outcome)
    (minted : ledger.account key = some .mint) (outside : key.isExternal = true) :
    outcome.ledger.account key = some .mint := by
  have written : ∀ {ledger : Ledger} {address derived : Pubkey} (account : Account),
      ledger.account key = some .mint → address = derived → derived.isExternal = false →
        (ledger.set address account).account key = some .mint := by
    rintro ledger address derived account minted rfl inside
    exact minted_set minted outside inside account
  cases effect with
  | createPlan address => exact written _ minted address rfl
  | subscribe _ address _ vaultAddress _ _ _ _ _ _ _ _ _ funding =>
      apply written _ _ address rfl
      exact minted_transfer (written _ minted vaultAddress rfl) funding
  | charge _ address _ _ _ _ _ _ _ _ transferred =>
      exact written _ (minted_transfer minted transferred) address rfl
  | @exhaust accounts _ _ _ _ _ _ _ address _ _ _ _ _ _ _ _ transferred =>
      apply written _ _ address rfl
      exact minted_set (minted_transfer minted transferred) outside (by rfl) _
  | settleUsage _ address _ sessionAddress _ _ _ _ _ _ _ _ _ _ _ _ _ transferred =>
      apply written _ _ sessionAddress rfl
      exact written _ (minted_transfer minted transferred) address rfl
  | topUp _ address _ _ _ _ _ _ _ transferred slot =>
      apply minted_closeIfSome _ outside (fun closed given => (slot closed given).1) rfl
      exact written _ (minted_transfer minted transferred) address rfl
  | recover _ address _ _ _ _ _ _ _ transferred =>
      apply minted_close _ outside rfl
      exact written _ (minted_transfer minted transferred) address rfl
  | pause _ address =>
      apply written _ _ address rfl
      exact minted_set minted outside (by rfl) _
  | resume _ address =>
      apply minted_close _ outside rfl
      exact written _ minted address rfl
  | cancel _ address _ _ _ _ _ graceSlot pausedSlot _ _ _ _ _ _ settlement refunding closing =>
      apply minted_closeIfSome _ outside pausedSlot rfl
      apply minted_closeIfSome _ outside graceSlot rfl
      apply written _ _ address rfl
      exact minted_closeToken (minted_transferIfPositive
        (minted_transferIfPositive minted settlement) refunding) closing
  | cleanup _ address =>
      apply minted_close minted outside
      rw [address]
      rfl
  | openSession _ _ _ sessionAddress => exact written _ minted sessionAddress rfl
  | closeSession _ _ _ _ sessionAddress =>
      apply minted_close minted outside
      rw [sessionAddress]
      rfl

private theorem spl_minted {instruction : SplInstruction}
    (executed : instruction.execute ledger = .ok outcome)
    (minted : ledger.account key = some .mint) : outcome.ledger.account key = some .mint := by
  cases instruction with
  | transfer source destination authority amount =>
      simp only [SplInstruction.execute, bind_eq_ok, pure_eq_ok] at executed
      obtain ⟨moved, transferred, rfl⟩ := executed
      exact minted_transfer minted transferred
  | setOwner account authority owner =>
      simp only [SplInstruction.execute, setOwner, bind_eq_ok, require_eq_ok, exists_const,
        loadToken_eq_ok, pure_eq_ok] at executed
      obtain ⟨_, ⟨token, loaded, _, rfl⟩, rfl⟩ := executed
      rw [set_account_of_ne]
      · exact minted
      · rintro rfl
        cases minted.symm.trans loaded
  | closeAccount account authority =>
      simp only [SplInstruction.execute, bind_eq_ok, pure_eq_ok] at executed
      obtain ⟨closed, closing, rfl⟩ := executed
      exact minted_closeToken minted closing
  | createAccount account mint owner =>
      simp only [SplInstruction.execute, createToken, vacant, bind_eq_ok, require_eq_ok,
        exists_const, loadMint_eq_ok, pure_eq_ok] at executed
      obtain ⟨_, ⟨_, vacant, _, rfl⟩, rfl⟩ := executed
      rw [set_account_of_ne]
      · exact minted
      · rintro rfl
        cases minted.symm.trans vacant

theorem action_minted {action : Action} (wellFormed : ledger.WellFormed)
    (executed : action.execute ledger now = .ok outcome)
    (minted : ledger.account key = some .mint) : outcome.ledger.account key = some .mint := by
  have outside : key.isExternal = true := by
    cases wellFormed _ _ minted with
    | mint outside => exact outside
  cases action with
  | program instruction => exact effect_minted (execute_effect executed) minted outside
  | spl instruction => exact spl_minted executed minted

end Mints

/-- The mint of every plan of a reachable chain exists. -/
theorem Chain.mint_of_plan {chain : Chain} (reachable : machine.Reachable chain)
    {key : Pubkey} {plan : Plan Pubkey}
    (planAt : chain.ledger.account key = some (.plan plan)) :
    chain.ledger.account plan.tokenMint = some .mint := by
  have minted : ∀ key plan, chain.ledger.account key = some (.plan plan) →
      chain.ledger.account plan.tokenMint = some .mint := by
    apply reachable.strengthen fun _ => Invariant.of_reachable
    · intro start genesis key plan found
      cases (genesis.outside _ _ found).2
    · intro before tx invariant minted ordered key plan found
      change (before.step tx).ledger.account _ = _ at found ⊢
      cases executed : tx.action.execute before.ledger tx.now with
      | error refusal =>
          rw [step_of_error executed] at found ⊢
          exact minted key plan found
      | ok outcome =>
          rw [step_of_ok executed] at found ⊢
          have keeps := @action_minted _ plan.tokenMint _ _ _ invariant.wellFormed executed
          rcases action_plan executed found with
            old | ⟨accounts, planId, price, period, action, _, written⟩
          · exact keeps (minted key plan old)
          · apply keeps
            rw [action] at executed
            simp only [Action.execute, Instruction.execute, createPlan, CreatePlan.tryAccounts,
              bind_eq_ok, loadMint_eq_ok] at executed
            obtain ⟨_, ⟨_, minted, _⟩, _⟩ := executed
            rw [written]
            exact minted
  exact minted key plan planAt

/-! ## A composite transaction is a run of single ones -/

theorem Instruction.executeAll_append (now : Int64) (ledger : Ledger)
    (front back : List Instruction) :
    executeAll now ledger (front ++ back) =
      executeAll now ledger front >>= fun between => executeAll now between back := by
  induction front generalizing ledger with
  | nil => rfl
  | cons instruction front ih =>
      rw [List.cons_append, executeAll, executeAll]
      cases executed : instruction.execute ledger now with
      | error refusal => rfl
      | ok outcome => exact ih outcome.ledger

theorem Instruction.executeAll_singleton {now : Int64} {ledger final : Ledger}
    {instruction : Instruction} :
    executeAll now ledger [instruction] = .ok final ↔
      ∃ outcome, instruction.execute ledger now = .ok outcome ∧ outcome.ledger = final := by
  simp only [executeAll, bind_eq_ok, Except.ok.injEq]

/-- The first instructions of a composite transaction go through and leave the ledger of a
reachable chain: the one after the same instructions as transactions of their own. -/
structure Chain.Passes (now : Int64) (chain : Chain) (front : List Instruction)
    (next : Chain) : Prop where
  reachable : machine.Reachable next
  clock : next.clock.toInt ≤ now.toInt
  executed : Instruction.executeAll now chain.ledger front = .ok next.ledger
  evolves : chain.ledger.Evolves next.ledger
  unforeign : ∀ subscriber planKey, chain.moved (.sub subscriber planKey) .foreign = 0 →
    next.moved (.sub subscriber planKey) .foreign = 0

namespace Chain.Passes

variable {now : Int64} {chain between next : Chain} {front back : List Instruction}

theorem refl (reachable : machine.Reachable chain) (ordered : chain.clock.toInt ≤ now.toInt) :
    chain.Passes now [] chain :=
  ⟨reachable, ordered, rfl, .refl (Invariant.of_reachable reachable).wellFormed,
    fun _ _ quiet => quiet⟩

theorem trans (first : chain.Passes now front between) (second : between.Passes now back next) :
    chain.Passes now (front ++ back) next where
  reachable := second.reachable
  clock := second.clock
  executed := by
    rw [Instruction.executeAll_append, bind_of_ok first.executed]
    exact second.executed
  evolves := first.evolves.trans second.evolves
  unforeign subscriber planKey quiet :=
    second.unforeign subscriber planKey (first.unforeign subscriber planKey quiet)

theorem of_execute {instruction : Instruction} {outcome : Outcome}
    (reachable : machine.Reachable chain) (ordered : chain.clock.toInt ≤ now.toInt)
    (executed : instruction.execute chain.ledger now = .ok outcome) :
    ∃ next, chain.Passes now [instruction] next ∧ next.ledger = outcome.ledger := by
  have wellFormed := (Invariant.of_reachable reachable).wellFormed
  have stepEq := @step_of_ok chain ⟨now, .program instruction⟩ outcome executed
  have ledgerEq : (chain.step ⟨now, .program instruction⟩).ledger = outcome.ledger := by
    rw [stepEq]
  refine ⟨chain.step ⟨now, .program instruction⟩, ?_, ledgerEq⟩
  constructor
  · exact @Machine.Reachable.step _ _ machine chain reachable ⟨now, .program instruction⟩
      ordered
  · rw [step_clock]
  · rw [ledgerEq]
    exact Instruction.executeAll_singleton.mpr ⟨outcome, executed, rfl⟩
  · exact step_evolves wellFormed _
  · intro subscriber planKey quiet
    exact @unforeign_step _ _ _ wellFormed ⟨now, .program instruction⟩ rfl quiet

theorem rest (passes : chain.Passes now front next) (rest : List Instruction) :
    Instruction.executeAll now chain.ledger (front ++ rest) =
      Instruction.executeAll now next.ledger rest := by
  rw [Instruction.executeAll_append, bind_of_ok passes.executed]

end Chain.Passes

/-! ## Closing the sessions and the tombstone -/

/-- Close some accounts one after the other. -/
def Ledger.closeAll (ledger : Ledger) (keys : List Pubkey) : Ledger :=
  keys.foldl Ledger.close ledger

theorem Ledger.closeAll_account (ledger : Ledger) (keys : List Pubkey) (query : Pubkey) :
    (ledger.closeAll keys).account query =
      if query ∈ keys then none else ledger.account query := by
  induction keys generalizing ledger with
  | nil => simp [closeAll]
  | cons key keys ih =>
      change ((ledger.close key).closeAll keys).account query = _
      rw [ih, close_account]
      by_cases isKey : query = key
      · simp [isKey]
      · simp [isKey]

section Closing

variable {ledger : Ledger} {now : Int64} {subscriber : Signer} {planKey : Pubkey}

/-- A subscriber can close every session account of his subscription. -/
theorem closeSession_eq (wellFormed : ledger.WellFormed) {sub : Subscription Pubkey}
    {session : PaySession Pubkey} {key : Pubkey}
    (parentAt : ledger.account (.sub subscriber.key planKey) = some (.subscription sub))
    (sessionAt : ledger.account key = some (.paySession session))
    (parent : session.subscription = .sub subscriber.key planKey) :
    ∃ events, closeSession ledger now ⟨.sub subscriber.key planKey, key, subscriber⟩ =
      .ok ⟨ledger.close key, [], events⟩ := by
  have address := wellFormed.sub_key parentAt
  have bumps := wellFormed.sub_bumps parentAt
  cases wellFormed _ _ sessionAt with
  | paySession sessionAddress _ _ _ opened bump =>
      rw [parent] at sessionAddress
      simp only [closeSession, CloseSession.tryAccounts, closeSessionHandler, bind_eq_ok,
        require_eq_ok, exists_const, loadSubscription_eq_ok, loadPaySession_eq_ok,
        seedsWithBump, pure_eq_ok]
      refine ⟨_, session, ⟨sub, parentAt, session, sessionAt, ⟨address, ?_⟩,
        (wellFormed.sub_parties parentAt).1,
        ⟨sessionAddress, ?_⟩, parent, rfl⟩, opened, rfl⟩
      · rw [← address]
        exact bumps.1
      · rw [← sessionAddress]
        exact bump

theorem cleanup_eq (wellFormed : ledger.WellFormed) {sub : Subscription Pubkey}
    (loaded : ledger.account (.sub subscriber.key planKey) = some (.subscription sub))
    (ended : sub.state = .cancelled) :
    ∃ events, cleanup ledger now ⟨.sub subscriber.key planKey, subscriber⟩ =
      .ok ⟨ledger.close (.sub subscriber.key planKey), [], events⟩ := by
  have address := wellFormed.sub_key loaded
  have bumps := wellFormed.sub_bumps loaded
  simp only [cleanup, Cleanup.tryAccounts, cleanupHandler, bind_eq_ok, require_eq_ok,
    exists_const, loadSubscription_eq_ok, seedsWithBump, pure_eq_ok]
  refine ⟨_, sub, ⟨sub, loaded, ⟨address, ?_⟩, (wellFormed.sub_parties loaded).1, rfl⟩,
    .inl ended, rfl⟩
  rw [← address]
  exact bumps.1

/-- The addresses hold session accounts of the subscription, each once. -/
structure Ledger.HoldsSessions (ledger : Ledger) (subscription : Pubkey)
    (keys : List Pubkey) : Prop where
  once : keys.Nodup
  session : ∀ key ∈ keys, ∃ session, ledger.account key = some (.paySession session) ∧
    session.subscription = subscription

theorem Ledger.HoldsSessions.tail {subscription key : Pubkey} {keys : List Pubkey}
    (holds : ledger.HoldsSessions subscription (key :: keys)) :
    (ledger.close key).HoldsSessions subscription keys := by
  obtain ⟨fresh, once⟩ := List.nodup_cons.mp holds.once
  refine ⟨once, ?_⟩
  intro other member
  rw [close_account, if_neg]
  · exact holds.session other (List.mem_cons_of_mem key member)
  · rintro rfl
    exact fresh member

/-- Closing them touches no other account. -/
theorem Ledger.HoldsSessions.kept {subscription key : Pubkey} {keys : List Pubkey}
    (holds : ledger.HoldsSessions subscription keys) (wellFormed : ledger.WellFormed)
    (other : ∀ sessionId, key ≠ .paySession subscription sessionId) :
    (ledger.closeAll keys).account key = ledger.account key := by
  rw [closeAll_account, if_neg]
  intro member
  obtain ⟨session, sessionAt, parent⟩ := holds.session key member
  cases wellFormed _ _ sessionAt with
  | paySession address =>
      rw [parent] at address
      exact other _ address

/-- The closing instructions that the builders emit. -/
abbrev closeSessionIxs (subscriber : Signer) (planKey : Pubkey) (keys : List Pubkey) :
    List Instruction :=
  keys.map fun key => buildCloseSessionIx (.sub subscriber.key planKey) key subscriber

theorem Chain.exists_closed {chain : Chain} (reachable : machine.Reachable chain)
    (ordered : chain.clock.toInt ≤ now.toInt) {sub : Subscription Pubkey}
    (parentAt : chain.ledger.account (.sub subscriber.key planKey) = some (.subscription sub))
    {keys : List Pubkey}
    (holds : chain.ledger.HoldsSessions (.sub subscriber.key planKey) keys) :
    ∃ closed, chain.Passes now (closeSessionIxs subscriber planKey keys) closed ∧
      closed.ledger = chain.ledger.closeAll keys := by
  induction keys generalizing chain with
  | nil => exact ⟨chain, .refl reachable ordered, rfl⟩
  | cons key keys ih =>
      have wellFormed := (Invariant.of_reachable reachable).wellFormed
      obtain ⟨session, sessionAt, parent⟩ := holds.session key List.mem_cons_self
      obtain ⟨events, closed⟩ := @closeSession_eq _ now _ _ wellFormed _ _ _ parentAt sessionAt
        parent
      obtain ⟨next, passes, ledgerEq⟩ := @Passes.of_execute _ _
        (buildCloseSessionIx (.sub subscriber.key planKey) key subscriber) _ reachable ordered
        closed
      have notParent : (.sub subscriber.key planKey : Pubkey) ≠ key := by
        rintro rfl
        cases sessionAt.symm.trans parentAt
      have parentKept : next.ledger.account (.sub subscriber.key planKey) =
          some (.subscription sub) := by
        rw [ledgerEq, close_account, if_neg notParent]
        exact parentAt
      have tail : next.ledger.HoldsSessions (.sub subscriber.key planKey) keys := by
        rw [ledgerEq]
        exact holds.tail
      obtain ⟨last, passesRest, lastEq⟩ := ih passes.reachable passes.clock parentKept tail
      refine ⟨last, passes.trans passesRest, ?_⟩
      rw [lastEq, ledgerEq]
      rfl

end Closing

theorem Ledger.WellFormed.session_of_key {ledger : Ledger} (wellFormed : ledger.WellFormed)
    {subscription : Pubkey} {sessionId : UInt64} {account : Account}
    (found : ledger.account (.paySession subscription sessionId) = some account) :
    ∃ session, account = .paySession session ∧ session.subscription = subscription ∧
      session.sessionId = sessionId ∧ session.state = 0 := by
  cases wellFormed _ _ found with
  | paySession address _ _ _ opened =>
      cases address
      exact ⟨_, rfl, rfl, rfl, opened⟩
  | plan address => cases address
  | subscription address => cases address
  | graced address => cases address
  | paused address => cases address
  | vault address => cases address
  | token outside => cases outside
  | mint outside => cases outside

namespace Rpc.Serves

variable {rpc : Rpc} {ledger : Ledger} {subscription : Pubkey}

theorem holds (serves : rpc.Serves ledger) :
    ledger.HoldsSessions subscription (rpc.derivedPaySessions subscription) := by
  constructor
  · apply List.Nodup.sublist _ (serves.once subscription)
    apply List.Sublist.map
    exact List.filter_sublist.trans List.filter_sublist
  · intro key member
    simp only [Rpc.derivedPaySessions, Rpc.listAlivePaySessions, List.mem_map,
      List.mem_filter] at member
    obtain ⟨⟨_, view⟩, ⟨⟨listed, _⟩, _⟩, rfl⟩ := member
    obtain ⟨session, sessionAt, parent, _⟩ := (serves.selected subscription _ view).mp listed
    exact ⟨session, sessionAt, parent⟩

theorem complete (serves : rpc.Serves ledger) (wellFormed : ledger.WellFormed)
    (sessionId : UInt64)
    (present : ledger.account (.paySession subscription sessionId) ≠ none) :
    .paySession subscription sessionId ∈ rpc.derivedPaySessions subscription := by
  obtain ⟨account, found⟩ := Option.ne_none_iff_exists'.mp present
  obtain ⟨session, rfl, parent, id, opened⟩ := wellFormed.session_of_key found
  have listed := (serves.selected subscription _ session.seen).mpr
    ⟨session, found, parent, rfl⟩
  simp only [Rpc.derivedPaySessions, Rpc.listAlivePaySessions, List.mem_map, List.mem_filter]
  refine ⟨(_, session.seen), ⟨⟨listed, ?_⟩, ?_⟩, rfl⟩
  · exact decide_eq_true ⟨parent, opened⟩
  · apply decide_eq_true
    change Pubkey.paySession subscription session.sessionId = _
    rw [id]

/-- After the closing instructions no session is left, and nothing else changed. -/
theorem closed (serves : rpc.Serves ledger) (wellFormed : ledger.WellFormed) :
    (∀ sessionId, (ledger.closeAll (rpc.derivedPaySessions subscription)).account
      (.paySession subscription sessionId) = none) ∧
    ∀ key, (∀ sessionId, key ≠ .paySession subscription sessionId) →
      (ledger.closeAll (rpc.derivedPaySessions subscription)).account key =
        ledger.account key := by
  constructor
  · intro sessionId
    rw [closeAll_account]
    split
    next => rfl
    next missing =>
      by_contra present
      exact missing (serves.complete wellFormed sessionId present)
  · intro key other
    exact serves.holds.kept wellFormed other

end Rpc.Serves

/-! ## Cancelling in between -/

section Cancelling

variable {ledger moved : Ledger} {source destination authority key : Pubkey} {amount : UInt64}

theorem transferIfPositive_account_of_ne
    (transferred : transferIfPositive ledger source destination authority amount = .ok moved)
    (notSource : key ≠ source) (notDestination : key ≠ destination) :
    moved.account key = ledger.account key := by
  unfold transferIfPositive at transferred
  split at transferred
  next => exact transfer_account_of_ne transferred notSource notDestination
  next =>
    cases transferred
    rfl

/-- A token account that is not debited keeps its terms and grows by what it receives. -/
theorem transferIfPositive_credit {token : TokenAccount}
    (transferred : transferIfPositive ledger source destination authority amount = .ok moved)
    (found : ledger.account key = some (.token token)) (notSource : key ≠ source) :
    ∃ after, moved.account key = some (.token after) ∧ after.mint = token.mint ∧
      after.owner = token.owner ∧
      after.amount.toNat =
        token.amount.toNat + if key = destination then amount.toNat else 0 := by
  by_cases receives : key = destination
  · subst receives
    unfold transferIfPositive at transferred
    split at transferred
    next =>
      obtain ⟨before, credited, beforeAt, sum, received⟩ :=
        transfer_account_destination transferred notSource.symm
      cases beforeAt.symm.trans found
      exact ⟨_, received, rfl, rfl, by rw [if_pos rfl]; exact sum⟩
    next nothing =>
      cases transferred
      have zero : amount.toNat = 0 := by
        simpa [UInt64.lt_iff_toNat_lt] using nothing
      exact ⟨token, found, rfl, rfl, by rw [if_pos rfl, zero, Nat.add_zero]⟩
  · refine ⟨token, ?_, rfl, rfl, by rw [if_neg receives, Nat.add_zero]⟩
    rw [transferIfPositive_account_of_ne transferred notSource receives]
    exact found

/-- The addresses that `cancel` and `cleanup` clear. -/
def Pubkey.own (subscription : Pubkey) : List Pubkey :=
  [subscription, .vault subscription, .grace subscription, .pausedSub subscription]

variable {now : Int64} {accounts : Cancel} {outcome : Outcome} {sub : Subscription Pubkey}

private theorem closeIfSome_account_of_pinned {slot : Option Pubkey} {derived : Pubkey}
    (pinned : ∀ closed, slot = some closed → closed = derived) (other : key ≠ derived) :
    (ledger.closeIfSome slot).account key = ledger.account key := by
  rw [closeIfSome_account, if_neg]
  intro given
  exact other (pinned key given.symm)

/-- What a `cancel` leaves: a tombstone, the subscriber's account with the refund, and every
account of the program that is not the subscription's own. -/
structure Cancel.Leaves (accounts : Cancel) (sub : Subscription Pubkey) (moment : Int64)
    (before after : Ledger) : Prop where
  tombstone : ∃ left, after.account accounts.subscription = some (.subscription left) ∧
    left.state = .cancelled
  paid : ∀ token, before.account accounts.subscriberAta = some (.token token) →
    ∃ paid, after.account accounts.subscriberAta = some (.token paid) ∧
      paid.mint = token.mint ∧ paid.owner = token.owner ∧
      paid.amount.toNat = token.amount.toNat +
        (sub.depositedAmount.toNat - sub.unlockedBy moment)
  kept : ∀ key, key.isExternal = false → key ∉ accounts.subscription.own →
    after.account key = before.account key

theorem cancel_leaves (wellFormed : ledger.WellFormed)
    (loaded : ledger.account accounts.subscription = some (.subscription sub))
    (executed : cancel ledger now accounts = .ok outcome) :
    ∃ moment, (ledger.view accounts.subscription).SettlesAt now sub.state moment ∧
      accounts.Leaves sub moment ledger outcome.ledger := by
  have effect : Effect ledger now (.cancel accounts) outcome := cancel_effect executed
  cases effect with
  | @cancel _ found ata moment claimable refund withdrawn settled refunded _ _ foundAt address _
      vaultAddress destination ataLoaded ataOwner graceSlot pausedSlot settles _ _ withdrawnEq
      unlocked refundEq settlement refunding closing _ apart =>
      cases loaded.symm.trans foundAt
      obtain ⟨_, _, _, _, rfl⟩ := closeToken_eq_ok.mp closing
      have merchantExternal : accounts.merchantAta.isExternal = true := by
        rw [destination]
        exact wellFormed.sub_merchantAta loaded
      have subscriberExternal : accounts.subscriberAta.isExternal = true :=
        wellFormed.token_external ataLoaded ataOwner (wellFormed.sub_subscriber loaded)
      -- Addresses of the program are not outside it.
      have inside {key other : Pubkey} (derived : key.isExternal = false)
          (external : other.isExternal = true) : key ≠ other := by
        rintro rfl
        cases derived.symm.trans external
      have vaultDerived : accounts.vault.isExternal = false := by
        rw [vaultAddress]
        rfl
      have subDerived : accounts.subscription.isExternal = false := by
        rw [address]
        rfl
      refine ⟨moment, settlesAt_view settles, ?_, ?_, ?_⟩
      · rw [closeIfSome_account_of_pinned pausedSlot (by rw [address]; simp),
          closeIfSome_account_of_pinned graceSlot (by rw [address]; simp), set_account_self]
        exact ⟨_, rfl, rfl⟩
      · intro token tokenAt
        obtain ⟨first, firstAt, firstMint, firstOwner, firstAmount⟩ :=
          transferIfPositive_credit settlement tokenAt
            (inside vaultDerived subscriberExternal).symm
        obtain ⟨second, secondAt, secondMint, secondOwner, secondAmount⟩ :=
          transferIfPositive_credit refunding firstAt
            (inside vaultDerived subscriberExternal).symm
        refine ⟨second, ?_, secondMint.trans firstMint, secondOwner.trans firstOwner, ?_⟩
        · rw [closeIfSome_account_of_pinned pausedSlot (inside rfl subscriberExternal).symm,
            closeIfSome_account_of_pinned graceSlot (inside rfl subscriberExternal).symm,
            set_account_of_ne _ _ (inside subDerived subscriberExternal).symm, close_account,
            if_neg (inside vaultDerived subscriberExternal).symm]
          exact secondAt
        · rw [if_pos rfl] at secondAmount
          rw [if_neg apart.symm] at firstAmount
          omega
      · intro key derived outside
        simp only [Pubkey.own, List.mem_cons, List.not_mem_nil, or_false, not_or] at outside
        obtain ⟨notSubscription, notVault, notGrace, notPaused⟩ := outside
        rw [← vaultAddress] at notVault
        rw [closeIfSome_account_of_pinned pausedSlot notPaused,
          closeIfSome_account_of_pinned graceSlot notGrace,
          set_account_of_ne _ _ notSubscription, close_account, if_neg notVault,
          transferIfPositive_account_of_ne refunding notVault
            (inside derived subscriberExternal),
          transferIfPositive_account_of_ne settlement notVault
            (inside derived merchantExternal)]

end Cancelling

/-! ## Subscribing at the end -/

/-- A ledger on which `subscribe` with these accounts meets no obstacle but the terms of
the plan: the plan and its mint exist, nothing is at the two new addresses, and the wallet
covers the deposit. -/
structure Subscribe.Ready (accounts : Subscribe) (ledger : Ledger) (plan : Plan Pubkey)
    (periodsToPrefund : UInt8) : Prop where
  wellFormed : ledger.WellFormed
  supply : ∀ mint, Supply.Fits (2 ^ 64) (ledger.held mint)
  planAt : ledger.account accounts.plan = some (.plan plan)
  mintAt : ledger.account accounts.tokenMint = some .mint
  mint : accounts.tokenMint = plan.tokenMint
  address : accounts.subscription = .sub accounts.subscriber.key accounts.plan
  vacant : ledger.account accounts.subscription = none
  vaultAddress : accounts.vault = .vault accounts.subscription
  vaultVacant : ledger.account accounts.vault = none
  periods : 1 ≤ periodsToPrefund.toNat
  covered : ∃ token, ledger.account accounts.subscriberAta = some (.token token) ∧
    token.mint = accounts.tokenMint ∧ token.owner = accounts.subscriber.key ∧
    plan.price.toNat * periodsToPrefund.toNat ≤ token.amount.toNat

/-- What the terms of the plan must allow: at least one unit a second, and a first period
within the clock. -/
structure Plan.Opens (plan : Plan Pubkey) (now : Int64) : Prop where
  rate : plan.period.toInt.toNat ≤ plan.price.toNat
  room : Checked.FitsI64 (now.toInt + plan.period.toInt)

section Subscribing

variable {ledger : Ledger} {now : Int64} {accounts : Subscribe} {plan : Plan Pubkey}
  {periodsToPrefund : UInt8}

/-- On a reachable chain nothing is at the vault address of a subscription that does not
exist. -/
theorem Subscribe.Ready.of_reachable {chain : Chain} (reachable : machine.Reachable chain)
    (planAt : chain.ledger.account accounts.plan = some (.plan plan))
    (mint : accounts.tokenMint = plan.tokenMint)
    (address : accounts.subscription = .sub accounts.subscriber.key accounts.plan)
    (vacant : chain.ledger.account accounts.subscription = none)
    (vaultAddress : accounts.vault = .vault accounts.subscription)
    (periods : 1 ≤ periodsToPrefund.toNat)
    (covered : ∃ token, chain.ledger.account accounts.subscriberAta = some (.token token) ∧
      token.mint = accounts.tokenMint ∧ token.owner = accounts.subscriber.key ∧
      plan.price.toNat * periodsToPrefund.toNat ≤ token.amount.toNat) :
    accounts.Ready chain.ledger plan periodsToPrefund := by
  have invariant := Chain.Invariant.of_reachable reachable
  have absent : (chain.view (.sub accounts.subscriber.key accounts.plan)).subscription =
      none := by
    rw [← address]
    simp only [Chain.view, Ledger.view, vacant, Option.bind_none]
  have bare := (invariant.sound _ _).of_none absent
  exact {
    wellFormed := invariant.wellFormed
    supply := Chain.supply_of_reachable reachable
    planAt := planAt
    mintAt := by
      rw [mint]
      exact Chain.mint_of_plan reachable planAt
    mint := mint
    address := address
    vacant := vacant
    vaultAddress := vaultAddress
    vaultVacant := by
      rw [vaultAddress, address]
      exact invariant.vault_eq_none bare.vault
    periods := periods
    covered := covered }

/-- A plan that a subscription was opened on opens. -/
theorem Plan.Opens.of_subscribe {outcome : Outcome}
    (planAt : ledger.account accounts.plan = some (.plan plan))
    (executed : subscribe ledger now accounts periodsToPrefund = .ok outcome) :
    plan.Opens now := by
  cases subscribe_effect executed with
  | @subscribe _ _ found _ nextChargeAt _ _ _ _ planLoaded _ _ _ _ _ _ _ periodPositive rateEq
      ratePositive _ _ _ hint =>
      cases planAt.symm.trans planLoaded
      constructor
      · rw [rateEq, Nat.le_div_iff_mul_le (by omega), Nat.one_mul] at ratePositive
        exact ratePositive
      · rw [← hint]
        exact Checked.fitsI64_toInt nextChargeAt

/-- What a fresh subscription is. -/
structure Subscription.Fresh (sub : Subscription Pubkey) (plan : Plan Pubkey) (now : Int64) :
    Prop where
  active : sub.state = .active
  withdrawn : sub.withdrawnAmount = 0
  started : sub.streamStart = now
  price : sub.price = plan.price
  period : sub.period = plan.period

/-- `subscribe` leaves a fresh subscription and touches nothing but it, its vault and the
wallet. -/
theorem subscribe_leaves {outcome : Outcome}
    (planAt : ledger.account accounts.plan = some (.plan plan))
    (executed : subscribe ledger now accounts periodsToPrefund = .ok outcome) :
    (∃ sub, outcome.ledger.account accounts.subscription = some (.subscription sub) ∧
      sub.Fresh plan now) ∧
    ∀ key, key ≠ accounts.subscription → key ≠ accounts.vault →
      key ≠ accounts.subscriberAta → outcome.ledger.account key = ledger.account key := by
  cases subscribe_effect executed with
  | subscribe planLoaded _ _ _ _ _ _ _ _ _ _ _ _ funding =>
      cases planAt.symm.trans planLoaded
      constructor
      · exact ⟨_, set_account_self _ _ _, rfl, rfl, rfl, rfl, rfl⟩
      · intro key notSubscription notVault notAta
        rw [set_account_of_ne _ _ notSubscription,
          transfer_account_of_ne funding notAta notVault, set_account_of_ne _ _ notVault]

theorem Subscribe.Ready.kept {ledger : Ledger} {outcome : Outcome} {key : Pubkey}
    (ready : accounts.Ready ledger plan periodsToPrefund)
    (executed : subscribe ledger now accounts periodsToPrefund = .ok outcome)
    (derived : key.isExternal = false) (outside : key ∉ accounts.subscription.own) :
    outcome.ledger.account key = ledger.account key := by
  obtain ⟨token, tokenAt, _, tokenOwner, _⟩ := ready.covered
  have external : accounts.subscriberAta.isExternal = true :=
    ready.wellFormed.token_external tokenAt tokenOwner accounts.subscriber.signs
  apply (subscribe_leaves ready.planAt executed).2
  · rintro rfl
    exact outside List.mem_cons_self
  · rw [ready.vaultAddress]
    rintro rfl
    exact outside (List.mem_cons_of_mem _ List.mem_cons_self)
  · rintro rfl
    cases derived.symm.trans external

theorem Plan.Opens.rates (opens : plan.Opens now) (periodPositive : 0 < plan.period.toInt) :
    ∃ rate, Checked.divU64 plan.price plan.period.toUInt64 = some rate ∧ 1 ≤ rate := by
  have periodCast := Checked.toNat_toUInt64 (le_of_lt periodPositive)
  have nonzero : plan.period.toUInt64 ≠ 0 := by
    intro zero
    rw [zero, UInt64.toNat_zero] at periodCast
    omega
  have rate := opens.rate
  refine ⟨plan.price / plan.period.toUInt64, if_neg nonzero, ?_⟩
  rw [UInt64.le_iff_toNat_le, UInt64.toNat_div, UInt64.toNat_one,
    Nat.le_div_iff_mul_le (by omega)]
  omega

theorem Subscribe.Ready.funds (ready : accounts.Ready ledger plan periodsToPrefund) :
    accounts.subscriberAta ≠ accounts.vault ∧
    ∃ deposited funded,
      Checked.mulU64 plan.price periodsToPrefund.toUInt64 = some deposited ∧
      (ledger.set accounts.vault (.token accounts.emptyVault)).transfer
        accounts.subscriberAta accounts.vault accounts.subscriber.key deposited =
          .ok funded := by
  obtain ⟨token, tokenAt, tokenMint, tokenOwner, covered⟩ := ready.covered
  have tokenBound := token.amount.toNat_lt
  have external : accounts.subscriberAta.isExternal = true :=
    ready.wellFormed.token_external tokenAt tokenOwner accounts.subscriber.signs
  have apart : accounts.subscriberAta ≠ accounts.vault := by
    intro same
    rw [same, ready.vaultAddress] at external
    cases external
  -- The deposit is a `u64` because the wallet holds it.
  have periodsNat : periodsToPrefund.toUInt64.toNat = periodsToPrefund.toNat := by simp
  have multiplied : Checked.mulU64 plan.price periodsToPrefund.toUInt64 =
      some (plan.price * periodsToPrefund.toUInt64) :=
    if_pos (by rw [periodsNat]; omega)
  have depositedEq := Checked.mulU64_eq_some.mp multiplied
  rw [periodsNat] at depositedEq
  have supply : Supply.Fits (2 ^ 64)
      ((ledger.set accounts.vault (.token accounts.emptyVault)).held token.mint) := by
    apply Conserves.refl.set _ _ (ready.supply token.mint)
    intro fresh isFresh
    cases isFresh
    rfl
  obtain ⟨funded, funding⟩ := @exists_transfer
    (ledger.set accounts.vault (.token accounts.emptyVault)) _ _ accounts.subscriber.key _
    accounts.emptyVault (plan.price * periodsToPrefund.toUInt64) supply
    ((set_account_of_ne _ _ apart).trans tokenAt) (set_account_self _ _ _) (by omega) tokenMint
    tokenOwner
  exact ⟨apart, _, funded, multiplied, funding⟩

/-- `subscribe` on a ready ledger succeeds when the plan opens. -/
theorem Subscribe.Ready.succeeds (ready : accounts.Ready ledger plan periodsToPrefund)
    (opens : plan.Opens now) :
    ∃ outcome, subscribe ledger now accounts periodsToPrefund = .ok outcome := by
  have planTerms : accounts.plan = .plan plan.merchant plan.planId ∧
      0 < plan.period.toInt ∧ plan.bump = ledger.bump accounts.plan := by
    cases ready.wellFormed _ _ ready.planAt with
    | plan address _ _ _ period bump => exact ⟨address, period, bump⟩
  obtain ⟨planAddress, periodPositive, planBump⟩ := planTerms
  obtain ⟨token, tokenAt, tokenMint, tokenOwner, _⟩ := ready.covered
  obtain ⟨rate, divided, rateAtLeast⟩ := opens.rates periodPositive
  obtain ⟨apart, deposited, funded, multiplied, funding⟩ := ready.funds
  obtain ⟨nextChargeAt, hint⟩ := Checked.exists_toI64 opens.room
  have passed : accounts.tryAccounts ledger = .ok plan := by
    simp only [Subscribe.tryAccounts, bind_eq_ok, require_eq_ok, exists_const, loadPlan_eq_ok,
      loadMint_eq_ok, loadToken_eq_ok, seeds, Ledger.vacant, seedsWithBump, requireMint,
      requireAuthority, pure_eq_ok]
    refine ⟨plan, ready.planAt, ready.mintAt, token, tokenAt, ready.address, ready.vacant,
      ready.vaultAddress, ready.vaultVacant, ⟨planAddress, ?_⟩, ready.mint, tokenMint,
      tokenOwner, rfl⟩
    rw [← planAddress]
    exact planBump
  have handled : ∃ outcome, subscribeHandler ledger now accounts plan periodsToPrefund =
      .ok outcome := by
    simp only [subscribeHandler, bind_eq_ok, require_eq_ok, exists_const, okOr_eq_ok,
      Int64.lt_iff_toInt_lt, Int64.toInt_zero, UInt8.le_iff_toNat_le, UInt8.toNat_one]
    exact ⟨_, apart, periodPositive, ready.periods, rate, divided, rateAtLeast, deposited,
      multiplied, funded, funding, nextChargeAt, hint, rfl⟩
  obtain ⟨outcome, handled⟩ := handled
  exact ⟨outcome, bind_eq_ok.mpr ⟨_, passed, handled⟩⟩

end Subscribing

end Nakama
