import Nakama.Refinement.Solvency

/-!
# Who pays whom

Every token movement that the program makes connects a vault with one of the two
parties of its subscription, and the plan that names the merchant's side stays
what `create_plan` wrote.
-/

namespace Nakama

open Guard Ledger

/-- The key that signed the instruction. -/
def Instruction.signer : Instruction → Pubkey
  | .createPlan accounts .. => accounts.merchant.key
  | .subscribe accounts _ => accounts.subscriber.key
  | .charge accounts => accounts.payer.key
  | .cancel accounts => accounts.signer.key
  | .cleanup accounts => accounts.subscriber.key
  | .topUp accounts _ => accounts.subscriber.key
  | .openSession accounts .. => accounts.subscriber.key
  | .closeSession accounts => accounts.subscriber.key
  | .settleUsage accounts _ => accounts.facilitator.key
  | .pause accounts => accounts.merchant.key
  | .resume accounts => accounts.merchant.key

/-- A movement of an instruction, with the parties that it connects. -/
inductive Payment (ledger : Ledger) (instruction : Instruction) (transfer : Transfer) :
    Prop where
  | deposit {subscriber planKey : Pubkey} {token : TokenAccount}
      (target : instruction.subscription? = some (.sub subscriber planKey))
      (signed : instruction.signer = subscriber)
      (route : transfer.route = .deposit)
      (destination : transfer.destination = .vault (.sub subscriber planKey))
      (source : ledger.account transfer.source = some (.token token))
      (owner : token.owner = subscriber)
      (outside : transfer.source.isExternal = true)
  | settlement {subscriber planKey : Pubkey} {plan : Plan Pubkey}
      (target : instruction.subscription? = some (.sub subscriber planKey))
      (route : transfer.route = .settlement)
      (source : transfer.source = .vault (.sub subscriber planKey))
      (planAt : ledger.account planKey = some (.plan plan))
      (destination : transfer.destination = plan.merchantAta)
  | refund {subscriber planKey : Pubkey} {token : TokenAccount} {accounts : Cancel}
      {plan : Plan Pubkey}
      (cancels : instruction = .cancel accounts)
      (planAt : ledger.account planKey = some (.plan plan))
      (target : accounts.subscription = .sub subscriber planKey)
      (route : transfer.route = .refund)
      (source : transfer.source = .vault (.sub subscriber planKey))
      (destination : ledger.account transfer.destination = some (.token token))
      (owner : token.owner = subscriber)
      (outside : transfer.destination.isExternal = true)

section Instructions

variable {ledger : Ledger} {now : Int64} {outcome : Outcome}

/-- The payee of a settlement that is pinned to the subscription's snapshot. -/
private theorem settlement_payment (wellFormed : ledger.WellFormed)
    {instruction : Instruction} {parent vault ata : Pubkey} {amount : UInt64}
    {sub : Subscription Pubkey}
    (loaded : ledger.account parent = some (.subscription sub))
    (address : parent = .sub sub.subscriber sub.plan)
    (target : instruction.subscription? = some parent)
    (vaultAddress : vault = .vault parent) (destination : ata = sub.merchantAta) :
    Payment ledger instruction ⟨.settlement, vault, ata, amount⟩ := by
  obtain ⟨plan, planAt, _, _, _, _, payee⟩ := wellFormed.sub_plan loaded
  rw [address] at target vaultAddress
  rw [payee] at destination
  exact .settlement target rfl vaultAddress planAt destination

/-- Every movement of a successful instruction is one of the three payments. -/
theorem effect_payment (wellFormed : ledger.WellFormed) {instruction : Instruction}
    (effect : Effect ledger now instruction outcome) {transfer : Transfer}
    (member : transfer ∈ outcome.transfers) : Payment ledger instruction transfer := by
  cases effect with
  | createPlan => cases member
  | @subscribe accounts _ _ _ _ _ _ _ _ _ address _ vaultAddress _ _ ataLoaded ataOwner =>
      rw [List.mem_singleton] at member
      subst member
      rw [address] at vaultAddress
      refine .deposit (congrArg some address) rfl rfl vaultAddress ataLoaded ataOwner ?_
      exact wellFormed.token_external ataLoaded ataOwner accounts.subscriber.signs
  | charge loaded address vaultAddress destination =>
      rw [List.mem_singleton] at member
      subst member
      exact settlement_payment wellFormed loaded address rfl vaultAddress destination
  | exhaust loaded address vaultAddress destination =>
      rw [List.mem_singleton] at member
      subst member
      exact settlement_payment wellFormed loaded address rfl vaultAddress destination
  | settleUsage loaded address sessionLoaded sessionAddress _ _ vaultAddress destination =>
      rw [List.mem_singleton] at member
      subst member
      -- Pinned to the session's snapshot, which is the same plan's.
      rw [sessionAddress, address] at sessionLoaded
      obtain ⟨plan, planAt, payee⟩ := wellFormed.session_plan sessionLoaded
      rw [payee] at destination
      rw [address] at vaultAddress
      exact .settlement (congrArg some address) rfl vaultAddress planAt destination
  | @topUp accounts _ _ _ _ _ _ loaded address signed vaultAddress ataLoaded ataOwner =>
      rw [List.mem_singleton] at member
      subst member
      rw [address] at vaultAddress
      refine .deposit (congrArg some address) signed.symm rfl vaultAddress ataLoaded
        (ataOwner.trans signed.symm) ?_
      exact wellFormed.token_external ataLoaded ataOwner accounts.subscriber.signs
  | @recover accounts _ _ _ _ _ _ _ _ loaded address signed vaultAddress ataLoaded ataOwner =>
      rw [List.mem_singleton] at member
      subst member
      rw [address] at vaultAddress
      refine .deposit (congrArg some address) signed.symm rfl vaultAddress ataLoaded
        (ataOwner.trans signed.symm) ?_
      exact wellFormed.token_external ataLoaded ataOwner accounts.subscriber.signs
  | pause => cases member
  | resume => cases member
  | @cancel accounts _ _ _ _ _ _ _ _ _ _ loaded address _ vaultAddress destination ataLoaded
      ataOwner =>
      simp only [List.mem_append] at member
      rcases member with settled | refunded
      · unfold transferredIfPositive at settled
        split at settled
        next =>
          rw [List.mem_singleton] at settled
          subst settled
          exact settlement_payment wellFormed loaded address rfl vaultAddress destination
        next => cases settled
      · unfold transferredIfPositive at refunded
        split at refunded
        next =>
          rw [List.mem_singleton] at refunded
          subst refunded
          rw [address] at vaultAddress
          obtain ⟨plan, planAt, _⟩ := wellFormed.sub_plan loaded
          refine .refund rfl planAt address rfl vaultAddress ataLoaded ataOwner ?_
          exact wellFormed.token_external ataLoaded ataOwner (wellFormed.sub_subscriber loaded)
        next => cases refunded
  | cleanup => cases member
  | openSession => cases member
  | closeSession => cases member

/-! ## Plans come from `create_plan` -/

private theorem plan_of_set {key written : Pubkey} {plan : Plan Pubkey} {account : Account}
    (found : (ledger.set written account).account key = some (.plan plan))
    (notPlan : ∀ other, account ≠ .plan other) : ledger.account key = some (.plan plan) := by
  rw [set_account] at found
  split at found
  next =>
    rw [Option.some.injEq] at found
    exact (notPlan plan found).elim
  next => exact found

private theorem plan_of_close {key closed : Pubkey} {plan : Plan Pubkey}
    (found : (ledger.close closed).account key = some (.plan plan)) :
    ledger.account key = some (.plan plan) := by
  rw [close_account] at found
  split at found
  next => cases found
  next => exact found

private theorem plan_of_closeIfSome {key : Pubkey} {slot : Option Pubkey}
    {plan : Plan Pubkey}
    (found : (ledger.closeIfSome slot).account key = some (.plan plan)) :
    ledger.account key = some (.plan plan) := by
  cases slot with
  | none => exact found
  | some closed => exact plan_of_close found

private theorem plan_of_transfer {moved : Ledger} {source destination authority key : Pubkey}
    {amount : UInt64} {plan : Plan Pubkey}
    (transferred : ledger.transfer source destination authority amount = .ok moved)
    (found : moved.account key = some (.plan plan)) :
    ledger.account key = some (.plan plan) := by
  rcases transfer_account transferred key with same | ⟨_, _, _, token, _⟩
  · rwa [same] at found
  · rw [token] at found
    cases found

private theorem plan_of_transferIfPositive {moved : Ledger}
    {source destination authority key : Pubkey} {amount : UInt64} {plan : Plan Pubkey}
    (transferred : transferIfPositive ledger source destination authority amount =
      .ok moved)
    (found : moved.account key = some (.plan plan)) :
    ledger.account key = some (.plan plan) := by
  unfold transferIfPositive at transferred
  split at transferred
  next => exact plan_of_transfer transferred found
  next =>
    cases transferred
    exact found

/-- A plan that is new was written by `create_plan`. -/
theorem effect_plan {instruction : Instruction}
    (effect : Effect ledger now instruction outcome) {key : Pubkey} {plan : Plan Pubkey}
    (found : outcome.ledger.account key = some (.plan plan)) :
    ledger.account key = some (.plan plan) ∨
      ∃ accounts planId price period,
        instruction = .createPlan accounts planId price period ∧ accounts.plan = key ∧
        plan = accounts.newPlan ledger planId price period := by
  cases effect with
  | @createPlan accounts planId price period =>
      simp only [set_account] at found
      split at found
      next same =>
        cases found
        exact .inr ⟨accounts, planId, price, period, rfl, same.symm, rfl⟩
      next => exact .inl found
  | subscribe _ _ _ _ _ _ _ _ _ _ _ _ _ funding =>
      exact .inl (plan_of_set (plan_of_transfer funding (plan_of_set found (by simp)))
        (by simp))
  | charge _ _ _ _ _ _ _ _ _ _ transferred =>
      exact .inl (plan_of_transfer transferred (plan_of_set found (by simp)))
  | exhaust _ _ _ _ _ _ _ _ _ _ transferred =>
      exact .inl (plan_of_transfer transferred
        (plan_of_set (plan_of_set found (by simp)) (by simp)))
  | settleUsage _ _ _ _ _ _ _ _ _ _ _ _ _ _ _ _ _ transferred =>
      exact .inl (plan_of_transfer transferred
        (plan_of_set (plan_of_set found (by simp)) (by simp)))
  | topUp _ _ _ _ _ _ _ _ _ transferred =>
      exact .inl (plan_of_transfer transferred
        (plan_of_set (plan_of_closeIfSome found) (by simp)))
  | recover _ _ _ _ _ _ _ _ _ transferred =>
      exact .inl (plan_of_transfer transferred (plan_of_set (plan_of_close found) (by simp)))
  | pause => exact .inl (plan_of_set (plan_of_set found (by simp)) (by simp))
  | resume => exact .inl (plan_of_set (plan_of_close found) (by simp))
  | cancel _ _ _ _ _ _ _ _ _ _ _ _ _ _ _ settlement refunding closing =>
      obtain ⟨_, _, _, _, rfl⟩ := closeToken_eq_ok.mp closing
      have paid := plan_of_close
        (plan_of_set (plan_of_closeIfSome (plan_of_closeIfSome found)) (by simp))
      exact .inl (plan_of_transferIfPositive settlement
        (plan_of_transferIfPositive refunding paid))
  | cleanup => exact .inl (plan_of_close found)
  | openSession => exact .inl (plan_of_set found (by simp))
  | closeSession => exact .inl (plan_of_close found)

/-- The only movement outside the program is a transfer by the owner of the source. -/
theorem spl_movement {instruction : SplInstruction}
    (executed : instruction.execute ledger = .ok outcome) {transfer : Transfer}
    (member : transfer ∈ outcome.transfers) :
    ∃ authority token,
      instruction = .transfer transfer.source transfer.destination authority transfer.amount ∧
      transfer.route = .foreign ∧
      ledger.account transfer.source = some (.token token) ∧ token.owner = authority.key := by
  cases instruction with
  | transfer source destination authority amount =>
      simp only [SplInstruction.execute, bind_eq_ok, pure_eq_ok] at executed
      obtain ⟨moved, transferred, rfl⟩ := executed
      rw [List.mem_singleton] at member
      subst member
      obtain ⟨token, _, loaded, _, _, _, owned, _⟩ := transfer_eq_ok.mp transferred
      exact ⟨authority, token, rfl, rfl, loaded, owned⟩
  | setOwner account authority owner =>
      simp only [SplInstruction.execute, bind_eq_ok, pure_eq_ok] at executed
      obtain ⟨_, _, rfl⟩ := executed
      cases member
  | closeAccount account authority =>
      simp only [SplInstruction.execute, bind_eq_ok, pure_eq_ok] at executed
      obtain ⟨_, _, rfl⟩ := executed
      cases member
  | createAccount account mint owner =>
      simp only [SplInstruction.execute, bind_eq_ok, pure_eq_ok] at executed
      obtain ⟨_, _, rfl⟩ := executed
      cases member

/-- Outside the program no vault pays. -/
theorem spl_source (wellFormed : ledger.WellFormed) {instruction : SplInstruction}
    (executed : instruction.execute ledger = .ok outcome) {transfer : Transfer}
    (member : transfer ∈ outcome.transfers) : transfer.source.isExternal = true := by
  obtain ⟨authority, token, _, _, loaded, owned⟩ := spl_movement executed member
  exact wellFormed.token_external loaded owned authority.signs

theorem spl_plan {instruction : SplInstruction}
    (executed : instruction.execute ledger = .ok outcome) {key : Pubkey} {plan : Plan Pubkey}
    (found : outcome.ledger.account key = some (.plan plan)) :
    ledger.account key = some (.plan plan) := by
  cases instruction with
  | transfer source destination authority amount =>
      simp only [SplInstruction.execute, bind_eq_ok, pure_eq_ok] at executed
      obtain ⟨moved, transferred, rfl⟩ := executed
      exact plan_of_transfer transferred found
  | setOwner account authority owner =>
      simp only [SplInstruction.execute, setOwner, bind_eq_ok, require_eq_ok, exists_const,
        loadToken_eq_ok, pure_eq_ok] at executed
      obtain ⟨_, ⟨token, loaded, owned, rfl⟩, rfl⟩ := executed
      exact plan_of_set found (by simp)
  | closeAccount account authority =>
      simp only [SplInstruction.execute, bind_eq_ok, pure_eq_ok] at executed
      obtain ⟨closed, closing, rfl⟩ := executed
      obtain ⟨_, _, _, _, rfl⟩ := closeToken_eq_ok.mp closing
      exact plan_of_close found
  | createAccount account mint owner =>
      simp only [SplInstruction.execute, createToken, vacant, bind_eq_ok, require_eq_ok,
        exists_const, pure_eq_ok] at executed
      obtain ⟨_, ⟨outside, free, _, _, rfl⟩, rfl⟩ := executed
      exact plan_of_set found (by simp)

theorem action_plan {action : Action} (executed : action.execute ledger now = .ok outcome)
    {key : Pubkey} {plan : Plan Pubkey}
    (found : outcome.ledger.account key = some (.plan plan)) :
    ledger.account key = some (.plan plan) ∨
      ∃ accounts planId price period,
        action = .program (.createPlan accounts planId price period) ∧
        accounts.plan = key ∧ plan = accounts.newPlan ledger planId price period := by
  cases action with
  | program instruction =>
      rcases effect_plan (execute_effect executed) found with
        old | ⟨accounts, planId, price, period, same, at_, written⟩
      · exact .inl old
      · exact .inr ⟨accounts, planId, price, period, by rw [same], at_, written⟩
  | spl instruction => exact .inl (spl_plan executed found)

end Instructions

namespace Chain

variable {chain : Chain}

/-- A payment out of a vault, as the log and the plan in the ledger explain it. -/
def PaidOut (chain : Chain) (entry : Entry) (transfer : Transfer) (planKey : Pubkey) : Prop :=
  ∃ plan, chain.ledger.account planKey = some (.plan plan) ∧
    ((transfer.route = .settlement ∧ transfer.destination = plan.merchantAta) ∨
      (transfer.route = .refund ∧ ∃ accounts, entry.tx.action = .program (.cancel accounts)))

/-- What the log says about plans and about where the tokens of the vaults went. -/
structure Documented (chain : Chain) : Prop where
  plans : ∀ key plan, chain.ledger.account key = some (.plan plan) →
    ∃ entry ∈ chain.log, ∃ accounts planId price period,
      entry.tx.action = .program (.createPlan accounts planId price period) ∧
      accounts.plan = key ∧ plan = accounts.newPlan chain.ledger planId price period
  payments : ∀ entry ∈ chain.log, ∀ transfer ∈ entry.transfers, ∀ subscriber planKey,
    transfer.source = .vault (.sub subscriber planKey) → chain.PaidOut entry transfer planKey

theorem paidOut_of_action {ledger : Ledger} {now : Int64} {outcome : Outcome} {tx : Tx}
    {events : List Event} (wellFormed : ledger.WellFormed)
    (executed : tx.action.execute ledger now = .ok outcome) {transfer : Transfer}
    (member : transfer ∈ outcome.transfers) {subscriber planKey : Pubkey}
    (source : transfer.source = .vault (.sub subscriber planKey)) :
    PaidOut ⟨ledger, now, []⟩ ⟨tx, outcome.transfers, events⟩ transfer planKey := by
  cases action : tx.action with
  | spl instruction =>
      rw [action] at executed
      have outside := spl_source wellFormed executed member
      rw [source] at outside
      cases outside
  | program instruction =>
      rw [action] at executed
      cases effect_payment wellFormed (execute_effect executed) member with
      | deposit _ _ _ _ _ _ outside =>
          rw [source] at outside
          cases outside
      | settlement _ route sourceAt planAt destination =>
          rw [source] at sourceAt
          cases sourceAt
          exact ⟨_, planAt, .inl ⟨route, destination⟩⟩
      | @refund _ _ _ accounts _ cancels planAt _ route sourceAt =>
          rw [source] at sourceAt
          cases sourceAt
          exact ⟨_, planAt, .inr ⟨route, accounts, by simp only [action, cancels]⟩⟩

theorem Documented.step (documented : chain.Documented)
    (wellFormed : chain.ledger.WellFormed) (tx : Tx) : (chain.step tx).Documented := by
  have keeps := (step_evolves wellFormed tx).keeps
  cases executed : tx.action.execute chain.ledger tx.now with
  | error refusal =>
      rw [step_of_error executed]
      exact ⟨documented.plans, documented.payments⟩
  | ok outcome =>
      rw [step_of_ok executed] at keeps ⊢
      constructor
      · intro key plan found
        rcases action_plan executed found with
          old | ⟨accounts, planId, price, period, action, address, written⟩
        · obtain ⟨entry, member, accounts, planId, price, period, action, address, written⟩ :=
            documented.plans key plan old
          refine ⟨entry, List.mem_cons_of_mem _ member, accounts, planId, price, period, action,
            address, ?_⟩
          rw [written, CreatePlan.newPlan, CreatePlan.newPlan, keeps.bumps]
        · refine ⟨_, List.mem_cons_self, accounts, planId, price, period, action, address, ?_⟩
          rw [written, CreatePlan.newPlan, CreatePlan.newPlan, keeps.bumps]
      · intro entry member transfer moved subscriber planKey source
        rcases List.mem_cons.mp member with rfl | old
        · obtain ⟨plan, planAt, reason⟩ := @paidOut_of_action chain.ledger tx.now outcome tx
            outcome.events wellFormed executed transfer moved subscriber planKey source
          exact ⟨plan, keeps.plans _ _ planAt, reason⟩
        · obtain ⟨plan, planAt, reason⟩ :=
            documented.payments entry old transfer moved subscriber planKey source
          exact ⟨plan, keeps.plans _ _ planAt, reason⟩

theorem Documented.of_reachable (reachable : machine.Reachable chain) :
    chain.Documented := by
  apply reachable.strengthen fun _ => Invariant.of_reachable
  · intro start genesis
    constructor
    · intro key plan found
      cases (genesis.outside _ _ found).2
    · intro entry member
      rw [genesis.log] at member
      cases member
  · intro before tx invariant documented ordered
    exact documented.step invariant.wellFormed tx

end Chain

end Nakama
