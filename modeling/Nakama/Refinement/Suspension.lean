import Nakama.Refinement.Delay

/-!
# Paused and running at once

Two ledgers that differ in whether one subscription is paused.  Funding it and closing its
sessions goes through on both or on neither, and so does a `cancel`, which settles a paused
subscription up to the moment of its pause.
-/

namespace Nakama

open Guard Ledger

/-- What may differ: the stream runs, or it stands since a moment. -/
inductive Phase where
  | streaming
  | standing (since : Int64)

namespace Phase

def state : Phase → SubscriptionState
  | .streaming => .active
  | .standing _ => .paused

/-- The satellite that goes with the state. -/
def paused (key : Pubkey) (bump : UInt8) : Phase → Option (PausedSubscription Pubkey)
  | .streaming => none
  | .standing since => some ⟨key, since, bump⟩

/-- The satellite that a `cancel` has to pass. -/
def slot (key : Pubkey) : Phase → Option Pubkey
  | .streaming => none
  | .standing _ => some (.pausedSub key)

/-- The moment that a `cancel` settles up to. -/
def moment (now : Int64) : Phase → Int64
  | .streaming => now
  | .standing since => since

theorem state_ne_grace (phase : Phase) : phase.state ≠ .gracePeriod := by
  cases phase <;> simp [state]

theorem state_running (phase : Phase) :
    phase.state = .active ∨ phase.state = .paused ∨ phase.state = .gracePeriod := by
  cases phase <;> simp [state]

theorem closeIfSome_slot (phase : Phase) (ledger : Ledger) {key query : Pubkey}
    (different : query ≠ .pausedSub key) :
    (ledger.closeIfSome (phase.slot key)).account query = ledger.account query := by
  cases phase with
  | streaming => rfl
  | standing since => rw [slot, closeIfSome, close_account, if_neg different]

theorem closeIfSome_slot_self (phase : Phase) (ledger : Ledger) {key : Pubkey} {bump : UInt8}
    (satellite : ledger.account (.pausedSub key) =
      (phase.paused key bump).map Account.paused) :
    (ledger.closeIfSome (phase.slot key)).account (.pausedSub key) = none := by
  cases phase with
  | streaming => exact satellite
  | standing since => rw [slot, closeIfSome, close_account, if_pos rfl]

end Phase

/-- The subscription at `key` is in one phase on the left and in one on the right, and
everything else is the same. -/
structure Ledger.Twin (key : Pubkey) (phase other : Phase) (left right : Ledger) : Prop where
  bump : right.bump = left.bump
  elsewhere : ∀ query, query ≠ key → query ≠ .pausedSub key →
    right.account query = left.account query
  subscription : ∃ sub : Subscription Pubkey,
    left.account key = some (.subscription { sub with state := phase.state }) ∧
    right.account key = some (.subscription { sub with state := other.state })
  satellite : left.account (.pausedSub key) =
    (phase.paused key (left.bump (.pausedSub key))).map Account.paused
  otherSatellite : right.account (.pausedSub key) =
    (other.paused key (left.bump (.pausedSub key))).map Account.paused

namespace Ledger.Twin

variable {key : Pubkey} {phase other : Phase} {left right : Ledger}

theorem symm (twin : left.Twin key phase other right) :
    right.Twin key other phase left := by
  obtain ⟨sub, leftAt, rightAt⟩ := twin.subscription
  constructor
  · exact twin.bump.symm
  · intro query notKey notSatellite
    exact (twin.elsewhere query notKey notSatellite).symm
  · exact ⟨sub, rightAt, leftAt⟩
  · rw [twin.bump]
    exact twin.otherSatellite
  · rw [twin.bump]
    exact twin.satellite

/-! ## Reading -/

section Reading

variable {query : Pubkey} {account : Account}

theorem apart (twin : left.Twin key phase other right)
    (found : left.account query = some account)
    (notSub : ∀ sub, account ≠ .subscription sub)
    (notPaused : ∀ paused, account ≠ .paused paused) :
    query ≠ key ∧ query ≠ .pausedSub key := by
  obtain ⟨sub, leftAt, _⟩ := twin.subscription
  constructor
  · rintro rfl
    rw [leftAt, Option.some.injEq] at found
    exact notSub _ found.symm
  · rintro rfl
    rw [twin.satellite] at found
    cases phase with
    | streaming => cases found
    | standing since =>
        cases found
        exact notPaused _ rfl

theorem find (twin : left.Twin key phase other right)
    (found : left.account query = some account)
    (notSub : ∀ sub, account ≠ .subscription sub)
    (notPaused : ∀ paused, account ≠ .paused paused) :
    right.account query = some account := by
  obtain ⟨notKey, notSatellite⟩ := twin.apart found notSub notPaused
  rw [twin.elsewhere query notKey notSatellite, found]

theorem token (twin : left.Twin key phase other right) {token : TokenAccount}
    (found : left.account query = some (.token token)) :
    right.account query = some (.token token) :=
  twin.find found (by simp) (by simp)

theorem paySession (twin : left.Twin key phase other right) {session : PaySession Pubkey}
    (found : left.account query = some (.paySession session)) :
    right.account query = some (.paySession session) :=
  twin.find found (by simp) (by simp)

theorem loadGraced (twin : left.Twin key phase other right) {slot : Option Pubkey}
    {graced : Option (GracedSubscription Pubkey)}
    (loaded : left.loadOptional Ledger.loadGraced slot = .ok graced) :
    right.loadOptional Ledger.loadGraced slot = .ok graced := by
  rcases loadOptional_eq_ok.mp loaded with ⟨rfl, rfl⟩ | ⟨address, found, rfl, rfl, foundAt⟩
  · rfl
  · have rightAt := twin.find (loadGraced_eq_ok.mp foundAt) (by simp) (by simp)
    exact loadOptional_eq_ok.mpr (.inr ⟨_, _, rfl, rfl, loadGraced_eq_ok.mpr rightAt⟩)

theorem loadPaused (twin : left.Twin key phase other right) :
    left.loadOptional Ledger.loadPaused (phase.slot key) =
      .ok (phase.paused key (left.bump (.pausedSub key))) := by
  have found := twin.satellite
  cases phase with
  | streaming => rfl
  | standing since =>
      exact loadOptional_eq_ok.mpr (.inr ⟨_, _, rfl, rfl, loadPaused_eq_ok.mpr found⟩)

end Reading

/-! ## Writing -/

section Writing

variable {written : Pubkey} {account : Account}

theorem set (twin : left.Twin key phase other right)
    (apart : written ≠ key ∧ written ≠ .pausedSub key) :
    (left.set written account).Twin key phase other (right.set written account) := by
  obtain ⟨sub, leftAt, rightAt⟩ := twin.subscription
  constructor
  · exact twin.bump
  · intro query notKey notSatellite
    rw [set_account, set_account]
    split
    next => rfl
    next => exact twin.elsewhere query notKey notSatellite
  · refine ⟨sub, ?_, ?_⟩
    · rw [set_account_of_ne _ _ apart.1.symm]
      exact leftAt
    · rw [set_account_of_ne _ _ apart.1.symm]
      exact rightAt
  · rw [set_account_of_ne _ _ apart.2.symm]
    exact twin.satellite
  · rw [set_account_of_ne _ _ apart.2.symm]
    exact twin.otherSatellite

theorem close (twin : left.Twin key phase other right)
    (apart : written ≠ key ∧ written ≠ .pausedSub key) :
    (left.close written).Twin key phase other (right.close written) := by
  obtain ⟨sub, leftAt, rightAt⟩ := twin.subscription
  constructor
  · exact twin.bump
  · intro query notKey notSatellite
    rw [close_account, close_account]
    split
    next => rfl
    next => exact twin.elsewhere query notKey notSatellite
  · refine ⟨sub, ?_, ?_⟩
    · rw [close_account, if_neg apart.1.symm]
      exact leftAt
    · rw [close_account, if_neg apart.1.symm]
      exact rightAt
  · rw [close_account, if_neg apart.2.symm]
    exact twin.satellite
  · rw [close_account, if_neg apart.2.symm]
    exact twin.otherSatellite

theorem set_subscription {subscriber planKey : Pubkey}
    (twin : left.Twin (.sub subscriber planKey) phase other right)
    (sub : Subscription Pubkey) :
    (left.set (.sub subscriber planKey) (.subscription { sub with state := phase.state })).Twin
      (.sub subscriber planKey) phase other
      (right.set (.sub subscriber planKey)
        (.subscription { sub with state := other.state })) := by
  constructor
  · exact twin.bump
  · intro query notKey notSatellite
    rw [set_account_of_ne _ _ notKey, set_account_of_ne _ _ notKey]
    exact twin.elsewhere query notKey notSatellite
  · exact ⟨sub, set_account_self _ _ _, set_account_self _ _ _⟩
  · rw [set_account_of_ne _ _ (by simp)]
    exact twin.satellite
  · rw [set_account_of_ne _ _ (by simp)]
    exact twin.otherSatellite

theorem transfer (twin : left.Twin key phase other right) {moved : Ledger}
    {source destination authority : Pubkey} {amount : UInt64}
    (transferred : left.transfer source destination authority amount = .ok moved) :
    ∃ otherMoved, right.transfer source destination authority amount = .ok otherMoved ∧
      moved.Twin key phase other otherMoved := by
  obtain ⟨sourceToken, destinationToken, sourceAt, destinationAt, funds, mints, owner,
    ⟨same, rfl⟩ | ⟨different, credited, sum, rfl⟩⟩ := transfer_eq_ok.mp transferred
  · exact ⟨right, transfer_eq_ok.mpr ⟨_, _, twin.token sourceAt, twin.token destinationAt,
      funds, mints, owner, .inl ⟨same, rfl⟩⟩, twin⟩
  · refine ⟨_, transfer_eq_ok.mpr ⟨_, _, twin.token sourceAt, twin.token destinationAt,
      funds, mints, owner, .inr ⟨different, credited, sum, rfl⟩⟩, ?_⟩
    exact (twin.set (twin.apart sourceAt (by simp) (by simp))).set
      (twin.apart destinationAt (by simp) (by simp))

theorem transferIfPositive (twin : left.Twin key phase other right) {moved : Ledger}
    {source destination authority : Pubkey} {amount : UInt64}
    (transferred : Nakama.transferIfPositive left source destination authority amount =
      .ok moved) :
    ∃ otherMoved,
      Nakama.transferIfPositive right source destination authority amount = .ok otherMoved ∧
      moved.Twin key phase other otherMoved := by
  unfold Nakama.transferIfPositive at transferred ⊢
  by_cases positive : 0 < amount
  · rw [if_pos positive] at transferred ⊢
    exact twin.transfer transferred
  · rw [if_neg positive] at transferred ⊢
    cases transferred
    exact ⟨right, rfl, twin⟩

end Writing

end Ledger.Twin

/-- Ledgers that agree outside of the subscription account are a delay apart, when there is
no satellite. -/
theorem Ledger.Delayed.of_agree {subscriber planKey : Pubkey} {delay : Int}
    {early late : Ledger} (wellFormed : early.WellFormed) (bump : late.bump = early.bump)
    (elsewhere : ∀ query, query ≠ .sub subscriber planKey →
      query ≠ .pausedSub (.sub subscriber planKey) →
      late.account query = early.account query)
    (subscription : Option.Rel (Account.Delayed delay)
      (early.account (.sub subscriber planKey)) (late.account (.sub subscriber planKey)))
    (graceFree : early.account (.grace (.sub subscriber planKey)) = none)
    (free : early.account (.pausedSub (.sub subscriber planKey)) = none)
    (lateFree : late.account (.pausedSub (.sub subscriber planKey)) = none) :
    early.Delayed (.sub subscriber planKey) delay late := by
  constructor
  · exact bump
  · intro query outside
    apply elsewhere
    · rintro rfl
      exact outside rfl
    · rintro rfl
      exact outside rfl
  · intro query subject
    by_cases isSub : query = .sub subscriber planKey
    · rw [isSub]
      exact subscription
    · by_cases isSatellite : query = .pausedSub (.sub subscriber planKey)
      · rw [isSatellite, free, lateFree]
        exact .none
      · rw [elsewhere query isSub isSatellite]
        cases found : early.account query with
        | none => exact .none
        | some account =>
            apply Option.Rel.some
            cases wellFormed query account found with
            | plan address => simp [address, Pubkey.subject] at subject
            | subscription address =>
                rw [address, Pubkey.subject, Option.some.injEq, ← address] at subject
                exact (isSub subject).elim
            | graced address =>
                rw [address, Pubkey.subject, Option.some.injEq] at subject
                rw [address, subject, graceFree] at found
                cases found
            | paused address =>
                rw [address, Pubkey.subject, Option.some.injEq] at subject
                rw [subject] at address
                exact (isSatellite address).elim
            | paySession => exact .paySession
            | vault => exact .token
            | token => exact .token
            | mint outside =>
                rw [Pubkey.subject_of_external outside] at subject
                cases subject

/-! ## Handlers -/

section Handlers

variable {subscriber planKey : Pubkey} {phase other : Phase} {left right : Ledger}
  {now later : Int64} {outcome : Outcome}

/-- The answer is a success with the same token movements, and the phases stay. -/
def Outcome.Twin (key : Pubkey) (phase other : Phase) (outcome : Outcome)
    (answer : Except Error Outcome) : Prop :=
  ∃ twin, answer = .ok twin ∧ twin.transfers = outcome.transfers ∧
    outcome.ledger.Twin key phase other twin.ledger

/-- Outside of grace a `top_up` reads neither the state nor the clock. -/
theorem topUp_twin (twin : left.Twin (.sub subscriber planKey) phase other right)
    {accounts : TopUp} {amount : UInt64}
    (target : accounts.subscription = .sub subscriber planKey)
    (executed : topUp left now accounts amount = .ok outcome) :
    outcome.Twin (.sub subscriber planKey) phase other (topUp right later accounts amount) := by
  simp only [topUp, TopUp.tryAccounts, topUpHandler, bind_eq_ok, require_eq_ok, exists_const,
    loadSubscription_eq_ok, loadToken_eq_ok, seedsIfSome_eq_ok, seedsWithBump, requireMint,
    requireAuthority, pure_eq_ok, okOr_eq_ok, Prod.exists, Prod.mk.injEq, target] at executed
  obtain ⟨_, _, ⟨_, loaded, graced, gracedLoaded, vault, vaultAt, ata, ataAt, own, signed,
    slot, vaultOwn, mint, owner, ataMint, ataOwner, rfl, rfl⟩, positive, live, required, funded,
    transferred, deposited, depositedEq, final, events, tail, rfl⟩ := executed
  obtain ⟨sub, leftAt, rightAt⟩ := twin.subscription
  cases loaded.symm.trans leftAt
  obtain ⟨otherFunded, otherTransferred, fundedTwin⟩ := twin.transfer transferred
  rw [topUpTail, if_neg phase.state_ne_grace] at tail
  cases tail
  have otherTail : topUpTail later accounts
      { sub with state := other.state, depositedAmount := deposited } graced amount =
        .ok ({ sub with state := other.state, depositedAmount := deposited }, []) := by
    rw [topUpTail, if_neg other.state_ne_grace]
    rfl
  simp only [Outcome.Twin, topUp, TopUp.tryAccounts, topUpHandler, bind_eq_ok, require_eq_ok,
    exists_const, loadSubscription_eq_ok, loadToken_eq_ok, seedsIfSome_eq_ok, seedsWithBump,
    requireMint, requireAuthority, pure_eq_ok, okOr_eq_ok, Prod.exists, Prod.mk.injEq, target,
    twin.bump]
  refine ⟨_, ⟨_, _, ⟨_, rightAt, graced, twin.loadGraced gracedLoaded, vault, twin.token vaultAt,
    ata, twin.token ataAt, own, signed, slot, vaultOwn, mint, owner, ataMint, ataOwner, rfl,
    rfl⟩, positive, other.state_running, fun grace => (other.state_ne_grace grace).elim,
    otherFunded, otherTransferred, deposited, depositedEq, _, _, otherTail, rfl⟩, rfl, ?_⟩
  have updated := fundedTwin.set_subscription { sub with depositedAmount := deposited }
  cases attached : accounts.gracedSubscription with
  | none => exact updated
  | some satellite =>
      obtain rfl := slot satellite attached
      exact updated.close (by simp)

/-- A `close_session` looks at the session only. -/
theorem closeSession_twin (twin : left.Twin (.sub subscriber planKey) phase other right)
    {accounts : CloseSession} (target : accounts.parent = .sub subscriber planKey)
    (executed : closeSession left now accounts = .ok outcome) :
    outcome.Twin (.sub subscriber planKey) phase other (closeSession right later accounts) := by
  simp only [closeSession, CloseSession.tryAccounts, closeSessionHandler, bind_eq_ok,
    require_eq_ok, exists_const, loadSubscription_eq_ok, loadPaySession_eq_ok, seedsWithBump,
    pure_eq_ok, target] at executed
  obtain ⟨_, ⟨_, loaded, session, sessionAt, own, signed, sessionOwn, sessionParent, rfl⟩,
    opened, rfl⟩ := executed
  obtain ⟨sub, leftAt, rightAt⟩ := twin.subscription
  cases loaded.symm.trans leftAt
  simp only [Outcome.Twin, closeSession, CloseSession.tryAccounts, closeSessionHandler,
    bind_eq_ok, require_eq_ok, exists_const, loadSubscription_eq_ok, loadPaySession_eq_ok,
    seedsWithBump, pure_eq_ok, target, twin.bump]
  exact ⟨_, ⟨_, ⟨_, rightAt, session, twin.paySession sessionAt, own, signed, sessionOwn,
    sessionParent, rfl⟩, opened, rfl⟩, rfl,
    twin.close (twin.apart sessionAt (by simp) (by simp))⟩

theorem Cancel.tryAccounts_twin (twin : left.Twin (.sub subscriber planKey) phase other right)
    {accounts : Cancel} (target : accounts.subscription = .sub subscriber planKey)
    {loaded : Cancel.Loaded}
    (passed : Cancel.tryAccounts
      { accounts with pausedSubscription := phase.slot (.sub subscriber planKey) } left =
        .ok loaded) :
    ∃ (sub : Subscription Pubkey) (graced : Option (GracedSubscription Pubkey)),
      loaded = ⟨{ sub with state := phase.state }, graced,
        phase.paused (.sub subscriber planKey)
          (left.bump (.pausedSub (.sub subscriber planKey)))⟩ ∧
      (∀ address, accounts.gracedSubscription = some address →
        address = .grace (.sub subscriber planKey)) ∧
      Cancel.tryAccounts
        { accounts with pausedSubscription := other.slot (.sub subscriber planKey) } right =
          .ok ⟨{ sub with state := other.state }, graced,
            other.paused (.sub subscriber planKey)
              (left.bump (.pausedSub (.sub subscriber planKey)))⟩ := by
  simp only [Cancel.tryAccounts, bind_eq_ok, require_eq_ok, exists_const,
    loadSubscription_eq_ok, loadToken_eq_ok, distinctMut_eq_ok, seedsIfSome_eq_ok,
    seedsWithBump, requireMint, requireAuthority, pure_eq_ok, target] at passed
  obtain ⟨_, subAt, vault, vaultAt, ata, ataAt, subscriberAta, subscriberAtaAt, graced,
    gracedLoaded, paused, pausedLoaded, distinct, own, sameSubscriber, vaultOwn, mint, owner,
    destination, ataMint, subscriberMint, subscriberOwner, graceSlot, _, _, rfl⟩ := passed
  obtain ⟨sub, leftAt, rightAt⟩ := twin.subscription
  cases subAt.symm.trans leftAt
  cases pausedLoaded.symm.trans twin.loadPaused
  have otherLoaded := twin.symm.loadPaused
  rw [twin.bump] at otherLoaded
  refine ⟨sub, graced, rfl, graceSlot, ?_⟩
  simp only [Cancel.tryAccounts, bind_eq_ok, require_eq_ok, exists_const,
    loadSubscription_eq_ok, loadToken_eq_ok, distinctMut_eq_ok, seedsIfSome_eq_ok,
    seedsWithBump, requireMint, requireAuthority, pure_eq_ok, target, twin.bump]
  refine ⟨_, rightAt, vault, twin.token vaultAt, ata, twin.token ataAt, subscriberAta,
    twin.token subscriberAtaAt, graced, twin.loadGraced gracedLoaded, _, otherLoaded, ?_, own,
    sameSubscriber, vaultOwn, mint, owner, destination, ataMint, subscriberMint,
    subscriberOwner, graceSlot, ?_, ?_, rfl⟩
  · -- The satellite is never one of the token accounts.
    have tokens : [accounts.vault, accounts.merchantAta, accounts.subscriberAta].Nodup :=
      (@Cancel.mutAccounts_nodup_iff
        { accounts with
          subscription := .sub subscriber planKey
          pausedSubscription := phase.slot (.sub subscriber planKey) }
        left _ _ _ _ _ _ subAt vaultAt ataAt subscriberAtaAt gracedLoaded pausedLoaded).mp
        distinct
    exact (@Cancel.mutAccounts_nodup_iff
      { accounts with
        subscription := .sub subscriber planKey
        pausedSubscription := other.slot (.sub subscriber planKey) }
      right _ _ _ _ _ _ rightAt (twin.token vaultAt) (twin.token ataAt)
      (twin.token subscriberAtaAt) (twin.loadGraced gracedLoaded) otherLoaded).mpr tokens
  · cases other <;> simp [Phase.slot]
  · cases other <;> simp [Phase.paused]

theorem effectiveNow_phase (sub : Subscription Pubkey)
    (graced : Option (GracedSubscription Pubkey)) (key : Pubkey) (bump : UInt8) :
    effectiveNow now ⟨{ sub with state := phase.state }, graced, phase.paused key bump⟩ =
      .ok (phase.moment now) := by
  cases phase <;> rfl

/-- A `cancel` with the satellite that the phase requires settles both up to the same
moment. -/
theorem cancel_twin (twin : left.Twin (.sub subscriber planKey) phase other right)
    (wellFormed : outcome.ledger.WellFormed)
    (graceFree : outcome.ledger.account (.grace (.sub subscriber planKey)) = none)
    (sameMoment : other.moment later = phase.moment now)
    (past : (other.moment later).toInt ≤ later.toInt) {accounts : Cancel}
    (target : accounts.subscription = .sub subscriber planKey)
    (executed : cancel left now
      { accounts with pausedSubscription := phase.slot (.sub subscriber planKey) } =
        .ok outcome) :
    outcome.Delayed (.sub subscriber planKey) 0 (cancel right later
      { accounts with pausedSubscription := other.slot (.sub subscriber planKey) }) := by
  obtain ⟨_, passed, handled⟩ := bind_eq_ok.mp executed
  obtain ⟨sub, graced, rfl, graceSlot, otherPassed⟩ :=
    Cancel.tryAccounts_twin twin target passed
  simp only [cancelHandler, bind_eq_ok, require_eq_ok, exists_const, pure_eq_ok, okOr_eq_ok,
    Int64.le_iff_toInt_le, effectiveNow_phase, Except.ok.injEq, exists_eq_left'] at handled
  obtain ⟨signed, _, current, period, started, unlocked, unlocking, claimable, claimableSome,
    refund, refundSome, settled, settlement, refunded, refunding, withdrawn, withdrawnSome,
    closed, closing, rfl⟩ := handled
  obtain ⟨otherSettled, otherSettlement, settledTwin⟩ := twin.transferIfPositive settlement
  obtain ⟨otherRefunded, otherRefunding, refundedTwin⟩ :=
    settledTwin.transferIfPositive refunding
  obtain ⟨token, tokenAt, empty, owned, rfl⟩ := closeToken_eq_ok.mp closing
  have otherClosing := closeToken_eq_ok.mpr
    ⟨token, refundedTwin.token tokenAt, empty, owned, rfl⟩
  have closedTwin := refundedTwin.close (refundedTwin.apart tokenAt (by simp) (by simp))
  -- Only the satellite of a grace may be closed with the subscription.
  have unaffected : ∀ (ledger : Ledger) (query : Pubkey),
      query ≠ .grace (.sub subscriber planKey) →
      (ledger.closeIfSome accounts.gracedSubscription).account query =
        ledger.account query := by
    intro ledger query different
    rw [closeIfSome_account, if_neg]
    intro attached
    exact different (graceSlot _ attached.symm)
  simp only [Outcome.Delayed, cancel, cancelHandler, bind_eq_ok, require_eq_ok, exists_const,
    pure_eq_ok, okOr_eq_ok, Int64.le_iff_toInt_le]
  rw [← sameMoment] at started unlocking
  refine ⟨_, ⟨_, otherPassed, signed, other.state_running, le_trans started past, period, _,
    effectiveNow_phase _ _ _ _, started, unlocked, unlocking, claimable, claimableSome, refund,
    refundSome, otherSettled, otherSettlement, otherRefunded, otherRefunding, withdrawn,
    withdrawnSome, _, otherClosing, rfl⟩, rfl, ?_⟩
  rw [target] at wellFormed graceFree ⊢
  apply Ledger.Delayed.of_agree wellFormed
  · simp only [closeIfSome_bump, set_bump]
    exact closedTwin.bump
  · intro query notKey notSatellite
    rw [phase.closeIfSome_slot _ notSatellite, other.closeIfSome_slot _ notSatellite,
      closeIfSome_account, closeIfSome_account, set_account_of_ne _ _ notKey,
      set_account_of_ne _ _ notKey, closedTwin.elsewhere query notKey notSatellite]
  · rw [phase.closeIfSome_slot _ (by simp), other.closeIfSome_slot _ (by simp),
      unaffected _ _ (by simp), unaffected _ _ (by simp), set_account_self, set_account_self]
    exact .some (.subscription (by simp))
  · exact graceFree
  · apply phase.closeIfSome_slot_self
    rw [unaffected _ _ (by simp), set_account_of_ne _ _ (by simp)]
    exact closedTwin.satellite
  · apply other.closeIfSome_slot_self
    rw [unaffected _ _ (by simp), set_account_of_ne _ _ (by simp)]
    exact closedTwin.otherSatellite

/-- A `pause` makes the twin. -/
theorem pause_twin {accounts : Pause}
    (target : accounts.subscription = .sub subscriber planKey)
    (executed : pause left now accounts = .ok outcome) :
    left.Twin (.sub subscriber planKey) .streaming (.standing now) outcome.ledger := by
  cases pause_effect executed with
  | @pause _ sub _ loaded _ _ _ vacant active =>
      rw [target] at loaded vacant ⊢
      have running : { sub with state := .active } = sub := by
        rw [← active]
      constructor
      · rfl
      · intro query notKey notSatellite
        rw [set_account_of_ne _ _ notKey, set_account_of_ne _ _ notSatellite]
      · refine ⟨sub, ?_, set_account_self _ _ _⟩
        rw [Phase.state, running]
        exact loaded
      · exact vacant
      · rw [set_account_of_ne _ _ (by simp), set_account_self]
        rfl

/-- A `resume` leaves the subscription as if it had run, on a clock that is ahead by the
length of the pause. -/
theorem resume_twin {since : Int64}
    (twin : left.Twin (.sub subscriber planKey) .streaming (.standing since) right)
    (wellFormed : left.WellFormed)
    (graceFree : left.account (.grace (.sub subscriber planKey)) = none) {accounts : Resume}
    (target : accounts.subscription = .sub subscriber planKey)
    (executed : resume right now accounts = .ok outcome) :
    left.Delayed (.sub subscriber planKey) (now.toInt - since.toInt) outcome.ledger := by
  cases resume_effect executed with
  | @resume _ _ paused streamStart _ loaded _ _ _ satellite _ _ shifted =>
      rw [target] at loaded satellite ⊢
      obtain ⟨sub, leftAt, rightAt⟩ := twin.subscription
      cases loaded.symm.trans rightAt
      cases satellite.symm.trans twin.otherSatellite
      apply Ledger.Delayed.of_agree wellFormed
      · exact twin.bump
      · intro query notKey notSatellite
        rw [close_account, if_neg notSatellite, set_account_of_ne _ _ notKey]
        exact twin.elsewhere query notKey notSatellite
      · rw [leftAt, close_account, if_neg (by simp), set_account_self]
        exact .some (.subscription shifted)
      · exact graceFree
      · exact twin.satellite
      · rw [close_account, if_pos rfl]

end Handlers

end Nakama
