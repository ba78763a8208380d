import Nakama.Refinement.Lifecycle

/-!
# What the events say

The events of a successful instruction are read off the accounts of its subscription before
and after it.
-/

namespace Nakama

open Guard Ledger

/-- The subscription that an event is about. -/
def Event.subscription? : Event → Option Pubkey
  | .planCreated .. => none
  | .subscriptionStarted subscription .. => some subscription
  | .subscriptionCancelled subscription .. => some subscription
  | .subscriptionCharged subscription .. => some subscription
  | .subscriptionCleaned subscription .. => some subscription
  | .graceEntered subscription .. => some subscription
  | .graceRecovered subscription .. => some subscription
  | .paySessionOpened _ subscription .. => some subscription
  | .usageSettled _ subscription .. => some subscription
  | .paySessionClosed _ subscription .. => some subscription
  | .subscriptionPaused subscription .. => some subscription
  | .subscriptionResumed subscription .. => some subscription

/-- The id in the address of a session. -/
def Pubkey.sessionId? : Pubkey → Option UInt64
  | .paySession _ sessionId => some sessionId
  | _ => none

/-- The events of an instruction on the subscription at `key`, from its accounts before and
after. -/
def View.reported (key : Pubkey) (now : Int64) (before after : View) :
    Instruction → List Event
  | .createPlan .. => []
  | .subscribe .. =>
      match after.subscription with
      | some sub => [.subscriptionStarted key sub.subscriber sub.plan sub.depositedAmount
          sub.ratePerSecond sub.streamStart]
      | none => []
  | .charge .. =>
      match before.subscription, after.subscription with
      | some old, some new =>
          let entered := if new.state = .gracePeriod then
              after.graced.toList.map fun graced =>
                .graceEntered key graced.enteredGraceAt graced.graceUntil
            else []
          entered ++ [.subscriptionCharged key (new.withdrawnAmount - old.withdrawnAmount)
            new.withdrawnAmount new.lastChargeAt]
      | _, _ => []
  | .cancel accounts =>
      match before.subscription, after.subscription with
      | some old, some new => [.subscriptionCancelled key old.subscriber old.plan old.merchant
          accounts.signer.key (new.withdrawnAmount - old.withdrawnAmount)
          (old.depositedAmount - new.withdrawnAmount) accounts.pausedSubscription.isSome
          accounts.gracedSubscription.isSome new.lastChargeAt]
      | _, _ => []
  | .cleanup accounts => [.subscriptionCleaned key accounts.subscriber.key now]
  | .topUp _ amount =>
      match before.subscription, after.subscription with
      | some old, some new =>
          if old.state = .gracePeriod then [.graceRecovered key amount new.depositedAmount]
          else []
      | _, _ => []
  | .openSession accounts sessionId .. =>
      (after.session sessionId).toList.map fun session =>
        .paySessionOpened accounts.paySession key session.facilitator session.reservationCap
          session.openedAt
  | .closeSession accounts =>
      (accounts.paySession.sessionId?.bind before.session).toList.map fun session =>
        .paySessionClosed accounts.paySession key session.usageAmount
          accounts.subscriber.key now
  | .settleUsage accounts amount =>
      (accounts.paySession.sessionId?.bind after.session).toList.map fun session =>
        .usageSettled accounts.paySession key amount session.usageAmount session.lastSettleAt
  | .pause .. =>
      match before.subscription, after.paused with
      | some old, some paused =>
          [.subscriptionPaused key paused.pausedAt (UInt64.ofNat (old.unlockedBy now))]
      | _, _ => []
  | .resume .. =>
      match before.paused, after.subscription with
      | some paused, some new =>
          [.subscriptionResumed key now (now - paused.pausedAt) new.streamStart]
      | _, _ => []

section Reports

variable {ledger : Ledger} {now : Int64} {outcome : Outcome}

private theorem view_written (key : Pubkey) (sub : Subscription Pubkey) :
    ((ledger.set key (.subscription sub)).view key).subscription = some sub :=
  view_subscription.mpr (set_account_self _ _ _)

theorem subscribe_emits {accounts : Subscribe} {periodsToPrefund : UInt8}
    (executed : subscribe ledger now accounts periodsToPrefund = .ok outcome) :
    outcome.events = (ledger.view accounts.subscription).reported accounts.subscription now
      (outcome.ledger.view accounts.subscription) (.subscribe accounts periodsToPrefund) := by
  simp only [subscribe, subscribeHandler, bind_eq_ok, pure_eq_ok] at executed
  obtain ⟨plan, _, _, _, _, _, _, _, rate, _, _, _, deposited, _, funded, _, nextChargeAt, _,
    rfl⟩ := executed
  simp only [View.reported, view_written]
  rfl

private theorem view_entered {key : Pubkey} {sub : Subscription Pubkey}
    {graced : GracedSubscription Pubkey} (address : key = .sub sub.subscriber sub.plan)
    (next : Subscription Pubkey) :
    (((ledger.set (.grace key) (.graced graced)).set key (.subscription next)).view key).graced =
      some graced := by
  have different : Pubkey.grace key ≠ key := by
    rw [address]
    simp
  apply view_graced.mpr
  rw [set_account_of_ne _ _ different, set_account_self]

theorem charge_emits {accounts : Charge}
    (executed : charge ledger now accounts = .ok outcome) :
    outcome.events = (ledger.view accounts.subscription).reported accounts.subscription now
      (outcome.ledger.view accounts.subscription) (.charge accounts) := by
  simp only [charge, Charge.tryAccounts, chargeHandler, bind_eq_ok, require_eq_ok,
    exists_const, loadSubscription_eq_ok, loadPlan_eq_ok, loadToken_eq_ok, seedsWithBump,
    seedsIfSome_eq_ok, vacantIfSome_eq_ok, requireMint, requireAuthority, pure_eq_ok,
    okOr_eq_ok, Checked.addU64_eq_some] at executed
  obtain ⟨_, ⟨sub, loaded, _, _, _, _, _, _, slot, _, ⟨address, _⟩, _, _, _, _, _, _, rfl⟩,
    active, _, _, _, _, claimable, _, _, paid, _, withdrawn, withdrawnEq, nextChargeAt, _,
    ⟨final, graceEvents⟩, tail, rfl⟩ := executed
  have before := view_subscription.mpr loaded
  have claimed : withdrawn - sub.withdrawnAmount = claimable :=
    Checked.sub_eq_of_toNat withdrawnEq
  unfold chargeTail at tail
  split at tail
  next exhausted =>
    simp only [bind_eq_ok, okOr_eq_ok, pure_eq_ok, Prod.mk.injEq] at tail
    obtain ⟨graceUntil, _, graceKey, attached, rfl, rfl⟩ := tail
    obtain rfl := slot graceKey attached
    simp only [View.reported, before, view_written, view_entered address, claimed, if_pos,
      Option.toList_some, List.map_cons, List.map_nil]
  next healthy =>
    simp only [bind_eq_ok, require_eq_ok, exists_const, pure_eq_ok, Prod.mk.injEq] at tail
    obtain ⟨_, rfl, rfl⟩ := tail
    simp only [View.reported, before, view_written, active, reduceCtorEq, if_false, claimed]

theorem topUp_emits {accounts : TopUp} {amount : UInt64}
    (executed : topUp ledger now accounts amount = .ok outcome) :
    outcome.events = (ledger.view accounts.subscription).reported accounts.subscription now
      (outcome.ledger.view accounts.subscription) (.topUp accounts amount) := by
  simp only [topUp, TopUp.tryAccounts, topUpHandler, bind_eq_ok, require_eq_ok,
    exists_const, loadSubscription_eq_ok, loadToken_eq_ok, seedsIfSome_eq_ok, seedsWithBump,
    requireMint, requireAuthority, pure_eq_ok, okOr_eq_ok, Prod.exists,
    Prod.mk.injEq] at executed
  obtain ⟨_, _, ⟨sub, loaded, graced, _, _, _, _, _, ⟨address, _⟩, _, slot, _, _, _, _, _, rfl,
    rfl⟩, _, _, _, funded, _, deposited, _, final, events, branch, rfl⟩ := executed
  have before := view_subscription.mpr loaded
  -- The optional slot is a satellite address, so the subscription stays where it was written.
  have after : (((funded.set accounts.subscription (.subscription final)).closeIfSome
      accounts.gracedSubscription).view accounts.subscription).subscription = some final := by
    apply view_subscription.mpr
    rw [closeIfSome_account, if_neg, set_account_self]
    intro attached
    have same := slot _ attached.symm
    rw [address] at same
    cases same
  unfold topUpTail at branch
  split at branch
  next grace =>
    simp only [recoverFromGrace, bind_eq_ok, okOr_eq_ok, require_eq_ok, exists_const,
      pure_eq_ok, Prod.mk.injEq] at branch
    obtain ⟨_, ⟨_, _, _, _, _, streamStart, _, rfl⟩, rfl, rfl⟩ := branch
    simp only [View.reported, before, after, if_pos grace]
  next notGrace =>
    simp only [pure_eq_ok, Prod.mk.injEq] at branch
    obtain ⟨rfl, rfl⟩ := branch
    simp only [View.reported, before, after, if_neg notGrace]

theorem settleUsage_emits {accounts : SettleUsage} {amount : UInt64}
    (executed : settleUsage ledger now accounts amount = .ok outcome) :
    outcome.events = (ledger.view accounts.parent).reported accounts.parent now
      (outcome.ledger.view accounts.parent) (.settleUsage accounts amount) := by
  simp only [settleUsage, SettleUsage.tryAccounts, settleUsageHandler, bind_eq_ok,
    require_eq_ok, exists_const, loadSubscription_eq_ok, loadPaySession_eq_ok,
    loadToken_eq_ok, seedsWithBump, requireMint, requireAuthority, pure_eq_ok, okOr_eq_ok,
    Prod.exists, Prod.mk.injEq] at executed
  obtain ⟨_, _, ⟨parent, _, session, _, _, _, _, _, _, ⟨sessionAddress, _⟩, _, _, _, _, _, _,
    _, rfl, rfl⟩, _, _, _, _, _, _, _, _, _, _, _, _, paid, _, withdrawn, _, usage, _,
    rfl⟩ := executed
  have after := view_session.mpr (set_account_self
    (paid.set accounts.parent (.subscription { parent with withdrawnAmount := withdrawn }))
    (.paySession accounts.parent session.sessionId)
    (.paySession { session with
      usageAmount := usage
      lastSettleAt := now
      state := PaySessionState.opened.toByte }))
  simp only [View.reported, sessionAddress, Pubkey.sessionId?, Option.bind_some, after,
    Option.toList_some, List.map_cons, List.map_nil]

theorem openSession_emits {accounts : OpenSession} {sessionId reservationCap : UInt64}
    {facilitator : Pubkey}
    (executed : openSession ledger now accounts sessionId facilitator reservationCap =
      .ok outcome) :
    outcome.events = (ledger.view accounts.parent).reported accounts.parent now
      (outcome.ledger.view accounts.parent)
      (.openSession accounts sessionId facilitator reservationCap) := by
  simp only [openSession, OpenSession.tryAccounts, openSessionHandler, bind_eq_ok,
    require_eq_ok, exists_const, seeds, pure_eq_ok] at executed
  obtain ⟨_, ⟨_, _, sessionAddress, _⟩, _, _, _, _, rfl⟩ := executed
  simp only [View.reported, sessionAddress, view_session.mpr (set_account_self _ _ _),
    Option.toList_some, List.map_cons, List.map_nil]
  rfl

theorem closeSession_emits {accounts : CloseSession}
    (executed : closeSession ledger now accounts = .ok outcome) :
    outcome.events = (ledger.view accounts.parent).reported accounts.parent now
      (outcome.ledger.view accounts.parent) (.closeSession accounts) := by
  simp only [closeSession, CloseSession.tryAccounts, closeSessionHandler, bind_eq_ok,
    require_eq_ok, exists_const, loadSubscription_eq_ok, loadPaySession_eq_ok,
    seedsWithBump, pure_eq_ok] at executed
  obtain ⟨_, ⟨_, _, session, sessionLoaded, _, _, ⟨sessionAddress, _⟩, _, rfl⟩, _, rfl⟩ :=
    executed
  rw [sessionAddress] at sessionLoaded
  have before := view_session.mpr sessionLoaded
  simp only [View.reported, sessionAddress, Pubkey.sessionId?, Option.bind_some, before,
    Option.toList_some, List.map_cons, List.map_nil]

theorem pause_emits {accounts : Pause}
    (executed : pause ledger now accounts = .ok outcome) :
    outcome.events = (ledger.view accounts.subscription).reported accounts.subscription now
      (outcome.ledger.view accounts.subscription) (.pause accounts) := by
  simp only [pause, Pause.tryAccounts, pauseHandler, bind_eq_ok, require_eq_ok,
    exists_const, loadSubscription_eq_ok, seeds, vacant, seedsWithBump, pure_eq_ok,
    Int64.le_iff_toInt_le, Int64.lt_iff_toInt_lt, Int64.toInt_zero] at executed
  obtain ⟨_, ⟨sub, loaded, satelliteAddress, _, ⟨address, _⟩, _, rfl⟩, _, started,
    periodPositive, unlocked, unlocking, rfl⟩ := executed
  have before := view_subscription.mpr loaded
  have unlockedEq : UInt64.ofNat (sub.unlockedBy now) = unlocked := by
    rw [← ((unlockedAt_eq_ok started periodPositive).mp unlocking).2, UInt64.ofNat_toNat]
  have after : (((ledger.set accounts.pausedSatellite (.paused
      ⟨accounts.subscription, now, ledger.bump accounts.pausedSatellite⟩)).set
      accounts.subscription (.subscription { sub with state := .paused })).view
        accounts.subscription).paused =
      some ⟨accounts.subscription, now, ledger.bump accounts.pausedSatellite⟩ := by
    have different : accounts.pausedSatellite ≠ accounts.subscription := by
      rw [satelliteAddress, address]
      simp
    apply view_paused.mpr
    rw [← satelliteAddress, set_account_of_ne _ _ different, set_account_self]
  simp only [View.reported, before, after, unlockedEq]

theorem resume_emits {accounts : Resume}
    (executed : resume ledger now accounts = .ok outcome) :
    outcome.events = (ledger.view accounts.subscription).reported accounts.subscription now
      (outcome.ledger.view accounts.subscription) (.resume accounts) := by
  simp only [resume, Resume.tryAccounts, resumeHandler, bind_eq_ok, require_eq_ok,
    exists_const, loadSubscription_eq_ok, loadPaused_eq_ok, seedsWithBump, pure_eq_ok,
    okOr_eq_ok, Checked.subI64_eq_some, Prod.exists, Prod.mk.injEq] at executed
  obtain ⟨_, _, ⟨sub, loaded, paused, satellite, ⟨address, _⟩, _, ⟨satelliteAddress, _⟩, _,
    rfl, rfl⟩, _, _, duration, durationEq, streamStart, _, rfl⟩ := executed
  rw [satelliteAddress] at satellite
  have before := view_paused.mpr satellite
  have after : (((ledger.set accounts.subscription (.subscription { sub with
      streamStart, state := .active })).close accounts.pausedSatellite).view
        accounts.subscription).subscription =
      some { sub with streamStart, state := .active } := by
    apply view_subscription.mpr
    rw [close_account, if_neg, set_account_self]
    rw [satelliteAddress, address]
    simp
  simp only [View.reported, before, after, Checked.sub_eq_of_toInt durationEq]

private theorem isSome_of_loadOptional {α : Type} {loader : Ledger → Pubkey → Except Error α}
    {slot : Option Pubkey} {found : Option α}
    (loaded : ledger.loadOptional loader slot = .ok found) : slot.isSome = found.isSome := by
  rcases loadOptional_eq_ok.mp loaded with ⟨rfl, rfl⟩ | ⟨_, _, rfl, rfl, _⟩
  · rfl
  · rfl

theorem cancel_emits {accounts : Cancel}
    (executed : cancel ledger now accounts = .ok outcome) :
    outcome.events = (ledger.view accounts.subscription).reported accounts.subscription now
      (outcome.ledger.view accounts.subscription) (.cancel accounts) := by
  simp only [cancel, Cancel.tryAccounts, cancelHandler, bind_eq_ok, require_eq_ok,
    exists_const, loadSubscription_eq_ok, loadToken_eq_ok, distinctMut_eq_ok,
    seedsIfSome_eq_ok, seedsWithBump, requireMint, requireAuthority, pure_eq_ok, okOr_eq_ok,
    Checked.subU64_eq_some, Checked.addU64_eq_some] at executed
  obtain ⟨_, ⟨sub, loaded, _, _, _, _, _, _, graced, gracedLoaded, paused,
    pausedLoaded, _, ⟨address, _⟩, _, _, _, _, _, _, _, _, graceSlot, pausedSlot, _, rfl⟩, _, _,
    _, _, _, _, _, unlocked, _, claimable, claimableEq, refund, refundEq, settled,
    _, refunded, _, withdrawn, withdrawnEq, closed, _, rfl⟩ := executed
  have before := view_subscription.mpr loaded
  have after : ((((closed.set accounts.subscription (.subscription { sub with
      state := .cancelled, lastChargeAt := now, withdrawnAmount := withdrawn })).closeIfSome
        accounts.gracedSubscription).closeIfSome accounts.pausedSubscription).view
        accounts.subscription).subscription =
      some { sub with
        state := .cancelled, lastChargeAt := now, withdrawnAmount := withdrawn } := by
    apply view_subscription.mpr
    rw [closeIfSome_account, if_neg, closeIfSome_account, if_neg, set_account_self]
    · intro attached
      have same := graceSlot _ attached.symm
      rw [address] at same
      cases same
    · intro attached
      have same := pausedSlot _ attached.symm
      rw [address] at same
      cases same
  dsimp only at claimableEq refundEq withdrawnEq
  have refunds : sub.depositedAmount - withdrawn = refund := Checked.sub_eq_of_toNat (by omega)
  simp only [View.reported, before, after, isSome_of_loadOptional gracedLoaded,
    isSome_of_loadOptional pausedLoaded, Checked.sub_eq_of_toNat withdrawnEq, refunds]

theorem cleanup_emits {accounts : Cleanup}
    (executed : cleanup ledger now accounts = .ok outcome) :
    outcome.events = (ledger.view accounts.subscription).reported accounts.subscription now
      (outcome.ledger.view accounts.subscription) (.cleanup accounts) := by
  simp only [cleanup, cleanupHandler, bind_eq_ok, require_eq_ok, exists_const,
    pure_eq_ok] at executed
  obtain ⟨_, _, _, rfl⟩ := executed
  rfl

/-- The events of an instruction are the ones that its subscription shows. -/
theorem instruction_emits {instruction : Instruction} {key : Pubkey}
    (executed : instruction.execute ledger now = .ok outcome)
    (target : instruction.subscription? = some key) :
    outcome.events = (ledger.view key).reported key now (outcome.ledger.view key)
      instruction := by
  cases instruction with
  | createPlan => cases target
  | subscribe =>
      cases target
      exact subscribe_emits executed
  | charge =>
      cases target
      exact charge_emits executed
  | cancel =>
      cases target
      exact cancel_emits executed
  | cleanup =>
      cases target
      exact cleanup_emits executed
  | topUp =>
      cases target
      exact topUp_emits executed
  | openSession =>
      cases target
      exact openSession_emits executed
  | closeSession =>
      cases target
      exact closeSession_emits executed
  | settleUsage =>
      cases target
      exact settleUsage_emits executed
  | pause =>
      cases target
      exact pause_emits executed
  | resume =>
      cases target
      exact resume_emits executed

/-- Every reported event is about the subscription that it was read off. -/
theorem View.subscription_of_reported {key : Pubkey} {before after : View}
    {instruction : Instruction} {event : Event}
    (member : event ∈ before.reported key now after instruction) :
    event.subscription? = some key := by
  unfold View.reported at member
  split at member
  case h_3 =>
    split at member
    · simp only [List.mem_append, List.mem_singleton] at member
      rcases member with entered | rfl
      · split at entered
        · obtain ⟨graced, _, rfl⟩ := List.mem_map.mp entered
          rfl
        · cases entered
      · rfl
    · cases member
  case h_7 =>
    obtain ⟨session, _, rfl⟩ := List.mem_map.mp member
    rfl
  case h_8 =>
    obtain ⟨session, _, rfl⟩ := List.mem_map.mp member
    rfl
  case h_9 =>
    obtain ⟨session, _, rfl⟩ := List.mem_map.mp member
    rfl
  all_goals
    repeat' split at member
    all_goals simp only [List.mem_singleton, List.not_mem_nil] at member
  all_goals
    subst member
    rfl

/-- The events of an action are about the subscription that the action is about. -/
theorem action_events_subscription {action : Action}
    (executed : action.execute ledger now = .ok outcome) :
    ∀ event ∈ outcome.events, event.subscription? = action.subscription? := by
  cases action with
  | program instruction =>
      cases target : instruction.subscription? with
      | some key =>
          rw [instruction_emits executed target]
          intro event member
          exact (View.subscription_of_reported member).trans target.symm
      | none =>
          cases instruction with
          | createPlan accounts planId price period =>
              simp only [Action.execute, Instruction.execute, createPlan, createPlanHandler,
                bind_eq_ok, pure_eq_ok] at executed
              obtain ⟨_, _, _, _, _, _, rfl⟩ := executed
              intro event member
              rw [List.mem_singleton] at member
              subst member
              rfl
          | _ => cases target
  | spl instruction =>
      intro event member
      cases instruction with
      | _ =>
          simp only [Action.execute, SplInstruction.execute, bind_eq_ok, pure_eq_ok] at executed
          obtain ⟨_, _, rfl⟩ := executed
          cases member

/-- What a new account starts with and no event mentions. -/
def View.Fresh (after : View) : Instruction → Prop
  | .subscribe .. => ∀ sub ∈ after.subscription, sub.lastChargeAt = 0
  | .openSession _ sessionId .. =>
      ∀ session ∈ after.session sessionId, session.usageAmount = 0 ∧ session.lastSettleAt = 0
  | _ => True

theorem instruction_fresh {instruction : Instruction} {key : Pubkey}
    (executed : instruction.execute ledger now = .ok outcome)
    (target : instruction.subscription? = some key) :
    (outcome.ledger.view key).Fresh instruction := by
  cases instruction with
  | subscribe accounts periodsToPrefund =>
      cases target
      simp only [Instruction.execute, subscribe, subscribeHandler, bind_eq_ok,
        pure_eq_ok] at executed
      obtain ⟨_, _, _, _, _, _, _, _, _, _, _, _, _, _, _, _, _, _, rfl⟩ := executed
      intro sub subAt
      rw [view_written, Option.mem_some_iff] at subAt
      subst subAt
      rfl
  | openSession accounts sessionId facilitator reservationCap =>
      cases target
      simp only [Instruction.execute, openSession, OpenSession.tryAccounts, openSessionHandler,
        bind_eq_ok, require_eq_ok, exists_const, seeds, pure_eq_ok] at executed
      obtain ⟨_, ⟨_, _, sessionAddress, _⟩, _, _, _, _, rfl⟩ := executed
      intro session sessionAt
      rw [sessionAddress, view_session.mpr (set_account_self _ _ _),
        Option.mem_some_iff] at sessionAt
      subst sessionAt
      exact ⟨rfl, rfl⟩
  | _ => trivial

end Reports

end Nakama
