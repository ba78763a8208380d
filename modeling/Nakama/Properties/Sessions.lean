import Nakama.Refinement.Accounting

/-!
# Session authority across re-subscription

A session is keyed by the address of its parent, and a later `subscribe` of the same
subscriber to the same plan re-creates the parent at that address.  Neither `cancel`
nor `cleanup` nor `subscribe` looks at sessions, so one that was not closed in time
can be settled against the next deposit.  Without leftover sessions at the moment of
a `subscribe`, every settlement is made under a delegation of the present life.
-/

namespace Nakama

/-- The action opens the session at this address. -/
def Action.opens (paySession : Pubkey) : Action → Bool
  | .program (.openSession accounts _ _ _) => accounts.paySession = paySession
  | _ => false

/-- The session was opened after the last `subscribe` of its parent. -/
def Chain.OpenedSince (chain : Chain) (parent paySession : Pubkey) : Prop :=
  ∃ entry ∈ lifetime parent chain.log, entry.tx.action.opens paySession = true

instance (chain : Chain) (parent paySession : Pubkey) :
    Decidable (chain.OpenedSince parent paySession) :=
  inferInstanceAs (Decidable (∃ entry ∈ lifetime parent chain.log, _ = true))

/-- The chain in an environment where the subscription is opened only when no session is
left under its address. -/
def orphanFree (parent : Pubkey) : Machine Chain Tx :=
  machine.restrict fun chain tx =>
    tx.action.subscribes parent = true → chain.Succeeds tx →
      ∀ sessionId, chain.ledger.account (.paySession parent sessionId) = none

theorem View.Step.session {key : Pubkey} {now : Int64} {action : Action}
    {before after : View} {delta : Route → Nat} {sessionId : UInt64}
    {session : PaySession Pubkey} (taken : View.Step key now action before after delta)
    (sessionAt : after.session sessionId = some session) :
    before.session sessionId ≠ none ∨ action.opens (.paySession key sessionId) = true := by
  cases taken with
  | settleUsage _ _ _ _ found =>
      simp only [Function.update_apply] at sessionAt
      split at sessionAt
      next same =>
        subst same
        rw [found]
        exact .inl (by simp)
      next =>
        rw [sessionAt]
        exact .inl (by simp)
  | openSession _ address =>
      simp only [Function.update_apply] at sessionAt
      split at sessionAt
      next same =>
        subst same
        exact .inr (by simp [Action.opens, address])
      next =>
        rw [sessionAt]
        exact .inl (by simp)
  | closeSession =>
      simp only [Function.update_apply] at sessionAt
      split at sessionAt
      next => cases sessionAt
      next =>
        rw [sessionAt]
        exact .inl (by simp)
  | _ =>
      rw [show before.session sessionId = some session from sessionAt]
      exact .inl (by simp)

namespace Chain

variable {chain : Chain} {subscriber planKey : Pubkey}

/-- Every session under the address was opened in the present life. -/
def Delegated (chain : Chain) (parent : Pubkey) : Prop :=
  ∀ sessionId, (chain.view parent).session sessionId ≠ none →
    chain.OpenedSince parent (.paySession parent sessionId)

theorem Delegated.step (delegated : chain.Delegated (.sub subscriber planKey))
    (wellFormed : chain.ledger.WellFormed) {tx : Tx}
    (clean : tx.action.subscribes (.sub subscriber planKey) = true → chain.Succeeds tx →
      ∀ sessionId, chain.ledger.account (.paySession (.sub subscriber planKey) sessionId) =
        none) :
    (chain.step tx).Delegated (.sub subscriber planKey) := by
  intro sessionId present
  rcases @step_cases chain subscriber planKey wellFormed tx with
    ⟨_, unchanged⟩ | ⟨outcome, executed, stepEq, taken⟩
  · rw [unchanged] at present ⊢
    exact delegated sessionId present
  · obtain ⟨session, sessionAt⟩ := Option.ne_none_iff_exists'.mp present
    have origin := taken.session sessionAt
    rw [stepEq, OpenedSince, lifetime]
    cases opens : tx.action.subscribes (.sub subscriber planKey) with
    | true =>
        -- A `subscribe` finds no session, and opens none.
        rcases origin with old | opened
        · have vacant := clean opens ⟨outcome, executed⟩ sessionId
          simp [view, Ledger.view, vacant] at old
        · cases action : tx.action with
          | spl => simp [action, Action.opens] at opened
          | program instruction =>
              cases instruction with
              | openSession => simp [action, Action.subscribes] at opens
              | _ => simp [action, Action.opens] at opened
    | false =>
        simp only [Bool.false_eq_true, if_false]
        rcases origin with old | opened
        · obtain ⟨entry, member, byEntry⟩ := delegated sessionId old
          exact ⟨entry, List.mem_cons_of_mem _ member, byEntry⟩
        · exact ⟨_, List.mem_cons_self, opened⟩

theorem Delegated.of_reachable
    (reachable : (orphanFree (.sub subscriber planKey)).Reachable chain) :
    chain.Delegated (.sub subscriber planKey) := by
  apply reachable.strengthen fun _ reached => Invariant.of_reachable reached.of_restrict
  · intro start genesis sessionId present
    rw [Genesis.view_eq genesis] at present
    exact (present rfl).elim
  · rintro before tx invariant delegated ⟨_, clean⟩
    exact delegated.step invariant.wellFormed clean

end Chain

/-- In every run in which no session is left at a `subscribe`, every successful
`settle_usage` acts on a session that was opened after the last `subscribe` of its
parent. -/
theorem settlement_delegated_since_subscribe {chain : Chain} {subscriber planKey : Pubkey}
    (reachable : (orphanFree (.sub subscriber planKey)).Reachable chain)
    {tx : Tx} {accounts : SettleUsage} {amount : UInt64}
    (action : tx.action = .program (.settleUsage accounts amount))
    (target : accounts.parent = .sub subscriber planKey) (succeeds : chain.Succeeds tx) :
    chain.OpenedSince (.sub subscriber planKey) accounts.paySession := by
  obtain ⟨outcome, executed⟩ := succeeds
  rw [action] at executed
  have effect : Effect chain.ledger tx.now (.settleUsage accounts amount) outcome :=
    execute_effect executed
  cases effect with
  | settleUsage _ _ sessionLoaded sessionAddress =>
      rw [target] at sessionAddress
      rw [sessionAddress] at sessionLoaded ⊢
      apply Chain.Delegated.of_reachable reachable
      rw [show (chain.view (.sub subscriber planKey)).session _ = some _ from
        Ledger.view_session.mpr sessionLoaded]
      simp

section Witness

open Sample

/-- A session that is used in the life in which it was opened. -/
theorem settlement_delegated_since_subscribe_served :
    (machine.run genesis [createPlanTx, subscribeTx 0, openSessionTx 1]).OpenedSince subKey
      (.paySession subKey 1) := by
  have reachable : (orphanFree subKey).Reachable
      (machine.run genesis [createPlanTx, subscribeTx 0, openSessionTx 1]) := by
    refine ⟨genesis, _, genesis_isGenesis, ?_, rfl⟩
    refine ⟨⟨by decide, ?_⟩, ⟨by decide +kernel, ?_⟩, ⟨by decide +kernel, ?_⟩, trivial⟩
    · intro opens
      cases opens
    · intro _ _ sessionId
      rfl
    · intro opens
      cases opens
  exact @settlement_delegated_since_subscribe _ subscriber.key planKey reachable
    (settleUsageTx 2 5) _ _ rfl rfl (by decide +kernel)

/-- The session of a cancelled and cleaned-up life settles against the next deposit. -/
theorem orphan_session_settles :
    machine.Reachable (machine.run genesis [createPlanTx, subscribeTx 0, openSessionTx 1,
      cancelTx 2 none none, cleanupTx 3, subscribeTx 10]) ∧
    (machine.run genesis [createPlanTx, subscribeTx 0, openSessionTx 1,
      cancelTx 2 none none, cleanupTx 3, subscribeTx 10]).Succeeds (settleUsageTx 12 5) ∧
    ¬(machine.run genesis [createPlanTx, subscribeTx 0, openSessionTx 1,
      cancelTx 2 none none, cleanupTx 3, subscribeTx 10]).OpenedSince subKey
        (.paySession subKey 1) := by
  refine ⟨⟨genesis, _, genesis_isGenesis, allowsRun_of_clocks (by decide), rfl⟩, ?_, ?_⟩
  · decide +kernel
  · decide +kernel

end Witness

end Nakama
