import Mathlib.Algebra.Group.Pi.Basic
import Nakama.Refinement.WellFormed

/-!
# One subscription at a time

The accounts that belong to one subscription, and what each action does to them.
An instruction on another subscription leaves them alone, and the only thing that
happens to them from outside the program is a transfer into the vault.
-/

namespace Nakama

open Guard Ledger

/-- The subscription that an address belongs to. -/
def Pubkey.subject : Pubkey → Option Pubkey
  | .sub subscriber planKey => some (.sub subscriber planKey)
  | .vault subscription => some subscription
  | .grace subscription => some subscription
  | .pausedSub subscription => some subscription
  | .paySession subscription _ => some subscription
  | .external _ => none
  | .plan _ _ => none

theorem Pubkey.subject_of_external {key : Pubkey} (outside : key.isExternal = true) :
    key.subject = none := by
  cases key with
  | external => rfl
  | _ => cases outside

/-- The subscription account, its vault, its satellites and its sessions. -/
@[ext]
structure View where
  subscription : Option (Subscription Pubkey)
  vault : Option TokenAccount
  graced : Option (GracedSubscription Pubkey)
  paused : Option (PausedSubscription Pubkey)
  session : UInt64 → Option (PaySession Pubkey)

/-- The view of the subscription at an address. -/
def Ledger.view (ledger : Ledger) (key : Pubkey) : View where
  subscription := (ledger.account key).bind Account.asSubscription
  vault := (ledger.account (.vault key)).bind Account.asToken
  graced := (ledger.account (.grace key)).bind Account.asGraced
  paused := (ledger.account (.pausedSub key)).bind Account.asPaused
  session sessionId := (ledger.account (.paySession key sessionId)).bind Account.asPaySession

namespace Ledger

variable {ledger : Ledger}

section Reading

variable {key : Pubkey}

theorem view_subscription {sub : Subscription Pubkey} :
    (ledger.view key).subscription = some sub ↔
      ledger.account key = some (.subscription sub) := by
  simp [view, Option.bind_eq_some_iff]

theorem view_vault {token : TokenAccount} :
    (ledger.view key).vault = some token ↔
      ledger.account (.vault key) = some (.token token) := by
  simp [view, Option.bind_eq_some_iff]

theorem view_graced {graced : GracedSubscription Pubkey} :
    (ledger.view key).graced = some graced ↔
      ledger.account (.grace key) = some (.graced graced) := by
  simp [view, Option.bind_eq_some_iff]

theorem view_paused {paused : PausedSubscription Pubkey} :
    (ledger.view key).paused = some paused ↔
      ledger.account (.pausedSub key) = some (.paused paused) := by
  simp [view, Option.bind_eq_some_iff]

theorem view_session {sessionId : UInt64} {session : PaySession Pubkey} :
    (ledger.view key).session sessionId = some session ↔
      ledger.account (.paySession key sessionId) = some (.paySession session) := by
  simp [view, Option.bind_eq_some_iff]

/-- The view depends on the addresses that belong to the subscription. -/
theorem view_congr {before after : Ledger} {subscriber planKey : Pubkey}
    (unchanged : ∀ query, query.subject = some (.sub subscriber planKey) →
      after.account query = before.account query) :
    after.view (.sub subscriber planKey) = before.view (.sub subscriber planKey) := by
  unfold view
  rw [unchanged (.sub subscriber planKey) rfl, unchanged (.vault _) rfl,
    unchanged (.grace _) rfl, unchanged (.pausedSub _) rfl]
  congr 1
  funext sessionId
  rw [unchanged (.paySession _ sessionId) rfl]

end Reading

/-! ## Writes -/

section Writing

variable {subscriber planKey : Pubkey}

theorem set_view_of_subject {written : Pubkey} {account : Account}
    (elsewhere : written.subject ≠ some (.sub subscriber planKey)) :
    (ledger.set written account).view (.sub subscriber planKey) =
      ledger.view (.sub subscriber planKey) := by
  apply view_congr
  intro query subject
  apply set_account_of_ne
  rintro rfl
  exact elsewhere subject

theorem close_view_of_subject {written : Pubkey}
    (elsewhere : written.subject ≠ some (.sub subscriber planKey)) :
    (ledger.close written).view (.sub subscriber planKey) =
      ledger.view (.sub subscriber planKey) := by
  apply view_congr
  intro query subject
  rw [close_account, if_neg]
  rintro rfl
  exact elsewhere subject

theorem transfer_view_of_subject {moved : Ledger} {source destination authority : Pubkey}
    {amount : UInt64}
    (transferred : ledger.transfer source destination authority amount = .ok moved)
    (sourceElsewhere : source.subject ≠ some (.sub subscriber planKey))
    (destinationElsewhere : destination.subject ≠ some (.sub subscriber planKey)) :
    moved.view (.sub subscriber planKey) = ledger.view (.sub subscriber planKey) := by
  apply view_congr
  intro query subject
  apply transfer_account_of_ne transferred
  · rintro rfl
    exact sourceElsewhere subject
  · rintro rfl
    exact destinationElsewhere subject

@[simp] theorem set_view_subscription (sub : Subscription Pubkey) :
    (ledger.set (.sub subscriber planKey) (.subscription sub)).view
        (.sub subscriber planKey) =
      { ledger.view (.sub subscriber planKey) with subscription := some sub } := by
  simp [view, set_account, Account.asSubscription]

@[simp] theorem set_view_vault (token : TokenAccount) :
    (ledger.set (.vault (.sub subscriber planKey)) (.token token)).view
        (.sub subscriber planKey) =
      { ledger.view (.sub subscriber planKey) with vault := some token } := by
  simp [view, set_account, Account.asToken]

@[simp] theorem set_view_graced (graced : GracedSubscription Pubkey) :
    (ledger.set (.grace (.sub subscriber planKey)) (.graced graced)).view
        (.sub subscriber planKey) =
      { ledger.view (.sub subscriber planKey) with graced := some graced } := by
  simp [view, set_account, Account.asGraced]

@[simp] theorem set_view_paused (paused : PausedSubscription Pubkey) :
    (ledger.set (.pausedSub (.sub subscriber planKey)) (.paused paused)).view
        (.sub subscriber planKey) =
      { ledger.view (.sub subscriber planKey) with paused := some paused } := by
  simp [view, set_account, Account.asPaused]

@[simp] theorem set_view_session (sessionId : UInt64) (session : PaySession Pubkey) :
    (ledger.set (.paySession (.sub subscriber planKey) sessionId)
        (.paySession session)).view (.sub subscriber planKey) =
      { ledger.view (.sub subscriber planKey) with
        session := Function.update (ledger.view (.sub subscriber planKey)).session sessionId
          (some session) } := by
  ext1
  · simp [view, set_account]
  · simp [view, set_account]
  · simp [view, set_account]
  · simp [view, set_account]
  · funext query
    by_cases same : query = sessionId <;>
      simp [view, set_account, Function.update_apply, same, Account.asPaySession]

@[simp] theorem close_view_subscription :
    (ledger.close (.sub subscriber planKey)).view (.sub subscriber planKey) =
      { ledger.view (.sub subscriber planKey) with subscription := none } := by
  simp [view, close_account]

@[simp] theorem close_view_vault :
    (ledger.close (.vault (.sub subscriber planKey))).view (.sub subscriber planKey) =
      { ledger.view (.sub subscriber planKey) with vault := none } := by
  simp [view, close_account]

@[simp] theorem close_view_graced :
    (ledger.close (.grace (.sub subscriber planKey))).view (.sub subscriber planKey) =
      { ledger.view (.sub subscriber planKey) with graced := none } := by
  simp [view, close_account]

@[simp] theorem close_view_paused :
    (ledger.close (.pausedSub (.sub subscriber planKey))).view (.sub subscriber planKey) =
      { ledger.view (.sub subscriber planKey) with paused := none } := by
  simp [view, close_account]

@[simp] theorem close_view_session (sessionId : UInt64) :
    (ledger.close (.paySession (.sub subscriber planKey) sessionId)).view
        (.sub subscriber planKey) =
      { ledger.view (.sub subscriber planKey) with
        session := Function.update (ledger.view (.sub subscriber planKey)).session sessionId
          none } := by
  ext1
  · simp [view, close_account]
  · simp [view, close_account]
  · simp [view, close_account]
  · simp [view, close_account]
  · funext query
    by_cases same : query = sessionId <;>
      simp [view, close_account, Function.update_apply, same]

theorem transfer_view_debit {moved : Ledger} {destination authority : Pubkey}
    {amount : UInt64} (outside : destination.isExternal = true)
    (transferred : ledger.transfer (.vault (.sub subscriber planKey)) destination authority
      amount = .ok moved) :
    ∃ token remaining, (ledger.view (.sub subscriber planKey)).vault = some token ∧
      remaining.toNat + amount.toNat = token.amount.toNat ∧
      moved.view (.sub subscriber planKey) =
        { ledger.view (.sub subscriber planKey) with
          vault := some { token with amount := remaining } } := by
  have different : Pubkey.vault (.sub subscriber planKey) ≠ destination := by
    rintro rfl
    cases outside
  obtain ⟨token, _, loaded, _, funds, _, _, ⟨same, _⟩ | ⟨_, credited, _, rfl⟩⟩ :=
    transfer_eq_ok.mp transferred
  · exact (different same).elim
  · have elsewhere : destination.subject ≠ some (.sub subscriber planKey) := by
      rw [Pubkey.subject_of_external outside]
      simp
    refine ⟨token, token.amount - amount, view_vault.mpr loaded, ?_, ?_⟩
    · rw [UInt64.toNat_sub_of_le _ _ (UInt64.le_iff_toNat_le.mpr funds)]
      omega
    · rw [set_view_of_subject elsewhere, set_view_vault]

theorem transfer_view_credit {moved : Ledger} {source authority : Pubkey}
    {amount : UInt64} (outside : source.isExternal = true)
    (transferred : ledger.transfer source (.vault (.sub subscriber planKey)) authority
      amount = .ok moved) :
    ∃ token credited, (ledger.view (.sub subscriber planKey)).vault = some token ∧
      credited.toNat = token.amount.toNat + amount.toNat ∧
      moved.view (.sub subscriber planKey) =
        { ledger.view (.sub subscriber planKey) with
          vault := some { token with amount := credited } } := by
  have different : source ≠ .vault (.sub subscriber planKey) := by
    rintro rfl
    cases outside
  obtain ⟨_, token, _, loaded, _, _, _, ⟨same, _⟩ | ⟨_, credited, sum, rfl⟩⟩ :=
    transfer_eq_ok.mp transferred
  · exact (different same).elim
  · have elsewhere : source.subject ≠ some (.sub subscriber planKey) := by
      rw [Pubkey.subject_of_external outside]
      simp
    refine ⟨token, credited, view_vault.mpr loaded, sum, ?_⟩
    rw [set_view_vault, set_view_of_subject elsewhere]

end Writing

end Ledger

/-! ## Token movements -/

/-- The end of a transfer at which its route has the vault. -/
def Transfer.vaultSlot (transfer : Transfer) : Pubkey :=
  match transfer.route with
  | .deposit | .foreign => transfer.destination
  | .settlement | .refund => transfer.source

/-- How much the transfers move through a vault, by route. -/
def volume (vault : Pubkey) (transfers : List Transfer) : Route → Nat :=
  (transfers.map fun transfer =>
    if transfer.vaultSlot = vault then
      Pi.single transfer.route transfer.amount.toNat
    else
      0).sum

@[simp] theorem volume_nil (vault : Pubkey) : volume vault [] = 0 := rfl

theorem volume_append (vault : Pubkey) (front back : List Transfer) :
    volume vault (front ++ back) = volume vault front + volume vault back := by
  simp [volume]

theorem volume_singleton (vault : Pubkey) (transfer : Transfer) :
    volume vault [transfer] =
      if transfer.vaultSlot = vault then Pi.single transfer.route transfer.amount.toNat
      else 0 := by
  simp [volume]

@[simp] theorem volume_deposit (vault source : Pubkey) (amount : UInt64) :
    volume vault [⟨.deposit, source, vault, amount⟩] = Pi.single .deposit amount.toNat := by
  simp [volume_singleton, Transfer.vaultSlot]

@[simp] theorem volume_settlement (vault destination : Pubkey) (amount : UInt64) :
    volume vault [⟨.settlement, vault, destination, amount⟩] =
      Pi.single .settlement amount.toNat := by
  simp [volume_singleton, Transfer.vaultSlot]

@[simp] theorem volume_refund (vault destination : Pubkey) (amount : UInt64) :
    volume vault [⟨.refund, vault, destination, amount⟩] =
      Pi.single .refund amount.toNat := by
  simp [volume_singleton, Transfer.vaultSlot]

@[simp] theorem volume_foreign (vault source : Pubkey) (amount : UInt64) :
    volume vault [⟨.foreign, source, vault, amount⟩] = Pi.single .foreign amount.toNat := by
  simp [volume_singleton, Transfer.vaultSlot]

/-- A skipped transfer counts as a transfer of nothing. -/
theorem volume_transferredIfPositive (vault : Pubkey) (route : Route)
    (source destination : Pubkey) (amount : UInt64) :
    volume vault (transferredIfPositive route source destination amount) =
      volume vault [⟨route, source, destination, amount⟩] := by
  unfold transferredIfPositive
  split
  next => rfl
  next nothing =>
    have zero : amount = 0 := by
      simpa [UInt64.lt_iff_toNat_lt, ← UInt64.toNat_inj] using nothing
    simp [volume_singleton, zero]

/-! ## Steps of one subscription -/

/-- The subscription that an action is about. -/
def Action.subscription? : Action → Option Pubkey
  | .program instruction => instruction.subscription?
  | .spl _ => none

/-- The moment up to which `cancel` settles, read off the satellites. -/
inductive View.SettlesAt (view : View) (now : Int64) : SubscriptionState → Int64 → Prop where
  | active : SettlesAt view now .active now
  | grace {graced : GracedSubscription Pubkey} (gracedAt : view.graced = some graced) :
      SettlesAt view now .gracePeriod (min now graced.graceUntil)
  | paused {paused : PausedSubscription Pubkey} (pausedAt : view.paused = some paused) :
      SettlesAt view now .paused paused.pausedAt

theorem View.SettlesAt.running {view : View} {now moment : Int64} {state : SubscriptionState}
    (settles : view.SettlesAt now state moment) :
    state = .active ∨ state = .paused ∨ state = .gracePeriod := by
  cases settles with
  | active => exact .inl rfl
  | paused => exact .inr (.inl rfl)
  | grace => exact .inr (.inr rfl)

/-- What a successful action does to the subscription at `key`, with the tokens that
it moves through the vault. -/
inductive View.Step (key : Pubkey) (now : Int64) :
    Action → View → View → (Route → Nat) → Prop where
  | subscribe {accounts : Subscribe} {periodsToPrefund : UInt8} {view : View}
      {sub : Subscription Pubkey} {vault : TokenAccount}
      (target : accounts.subscription = key)
      (signed : sub.subscriber = accounts.subscriber.key)
      (planEq : sub.plan = accounts.plan)
      (vacant : view.subscription = none) (vaultVacant : view.vault = none)
      (state : sub.state = .active)
      (clocks : sub.streamStart = now ∧ sub.createdAt = now)
      (withdrawn : sub.withdrawnAmount.toNat = 0)
      (funded : vault.amount = sub.depositedAmount)
      (depositedEq : sub.depositedAmount.toNat = sub.price.toNat * periodsToPrefund.toNat)
      (positive : 0 < sub.depositedAmount.toNat) :
      Step key now (.program (.subscribe accounts periodsToPrefund)) view
        { view with subscription := some sub, vault := some vault }
        (Pi.single .deposit sub.depositedAmount.toNat)
  | charge {accounts : Charge} {view : View} {sub : Subscription Pubkey}
      {vault : TokenAccount} {claimable withdrawn remaining : UInt64} {nextChargeAt : Int64}
      (target : accounts.subscription = key)
      (subAt : view.subscription = some sub) (vaultAt : view.vault = some vault)
      (active : sub.state = .active) (started : sub.streamStart.toInt ≤ now.toInt)
      (withdrawnEq : withdrawn.toNat = sub.withdrawnAmount.toNat + claimable.toNat)
      (unlocked : withdrawn.toNat = sub.unlockedBy now)
      (remainingEq : remaining.toNat + claimable.toNat = vault.amount.toNat)
      (healthy : withdrawn ≠ sub.depositedAmount) :
      Step key now (.program (.charge accounts)) view
        { view with
          subscription := some { sub with
            withdrawnAmount := withdrawn, lastChargeAt := now, nextChargeAt }
          vault := some { vault with amount := remaining } }
        (Pi.single .settlement claimable.toNat)
  | exhaust {accounts : Charge} {view : View} {sub : Subscription Pubkey}
      {vault : TokenAccount} {claimable remaining : UInt64} {nextChargeAt graceUntil : Int64}
      (target : accounts.subscription = key)
      (subAt : view.subscription = some sub) (vaultAt : view.vault = some vault)
      (gracedAt : view.graced = none)
      (active : sub.state = .active) (started : sub.streamStart.toInt ≤ now.toInt)
      (withdrawnEq : sub.depositedAmount.toNat =
        sub.withdrawnAmount.toNat + claimable.toNat)
      (unlocked : sub.depositedAmount.toNat = sub.unlockedBy now)
      (remainingEq : remaining.toNat + claimable.toNat = vault.amount.toNat)
      (untilEq : graceUntil.toInt = now.toInt + graceDuration.toInt) :
      Step key now (.program (.charge accounts)) view
        { view with
          subscription := some { sub with
            withdrawnAmount := sub.depositedAmount
            lastChargeAt := now
            nextChargeAt
            state := .gracePeriod }
          vault := some { vault with amount := remaining }
          graced := some ⟨key, now, graceUntil⟩ }
        (Pi.single .settlement claimable.toNat)
  | settleUsage {accounts : SettleUsage} {amount : UInt64} {view : View}
      {sub : Subscription Pubkey} {vault : TokenAccount} {session : PaySession Pubkey}
      {withdrawn remaining usage : UInt64}
      (target : accounts.parent = key)
      (sessionAddress : accounts.paySession = .paySession key session.sessionId)
      (subAt : view.subscription = some sub) (vaultAt : view.vault = some vault)
      (sessionAt : view.session session.sessionId = some session)
      (active : sub.state = .active) (started : sub.streamStart.toInt ≤ now.toInt)
      (withdrawnEq : withdrawn.toNat = sub.withdrawnAmount.toNat + amount.toNat)
      (unlocked : withdrawn.toNat ≤ sub.unlockedBy now)
      (remainingEq : remaining.toNat + amount.toNat = vault.amount.toNat)
      (usageEq : usage.toNat = session.usageAmount.toNat + amount.toNat)
      (cap : 0 < session.reservationCap.toNat →
        usage.toNat ≤ session.reservationCap.toNat) :
      Step key now (.program (.settleUsage accounts amount)) view
        { view with
          subscription := some { sub with withdrawnAmount := withdrawn }
          vault := some { vault with amount := remaining }
          session := Function.update view.session session.sessionId (some { session with
            usageAmount := usage
            lastSettleAt := now
            state := PaySessionState.opened.toByte }) }
        (Pi.single .settlement amount.toNat)
  | topUp {accounts : TopUp} {amount : UInt64} {view : View} {sub : Subscription Pubkey}
      {vault : TokenAccount} {deposited credited : UInt64}
      {graced : Option (GracedSubscription Pubkey)}
      (target : accounts.subscription = key)
      (signed : sub.subscriber = accounts.subscriber.key)
      (subAt : view.subscription = some sub) (vaultAt : view.vault = some vault)
      (running : sub.state = .active ∨ sub.state = .paused)
      (positive : 0 < amount.toNat)
      (depositedEq : deposited.toNat = sub.depositedAmount.toNat + amount.toNat)
      (creditedEq : credited.toNat = vault.amount.toNat + amount.toNat)
      (slot : view.graced = none → graced = none) :
      Step key now (.program (.topUp accounts amount)) view
        { view with
          subscription := some { sub with depositedAmount := deposited }
          vault := some { vault with amount := credited }
          graced := graced }
        (Pi.single .deposit amount.toNat)
  | recover {accounts : TopUp} {amount : UInt64} {view : View} {sub : Subscription Pubkey}
      {vault : TokenAccount} {deposited credited : UInt64}
      {graced : GracedSubscription Pubkey} {streamStart : Int64}
      (target : accounts.subscription = key)
      (signed : sub.subscriber = accounts.subscriber.key)
      (subAt : view.subscription = some sub) (vaultAt : view.vault = some vault)
      (gracedAt : view.graced = some graced)
      (grace : sub.state = .gracePeriod)
      (positive : 0 < amount.toNat)
      (depositedEq : deposited.toNat = sub.depositedAmount.toNat + amount.toNat)
      (creditedEq : credited.toNat = vault.amount.toNat + amount.toNat)
      (entered : graced.enteredGraceAt.toInt ≤ now.toInt)
      (shifted : streamStart.toInt =
        sub.streamStart.toInt + (now.toInt - graced.enteredGraceAt.toInt)) :
      Step key now (.program (.topUp accounts amount)) view
        { view with
          subscription := some { sub with
            depositedAmount := deposited, streamStart, state := .active }
          vault := some { vault with amount := credited }
          graced := none }
        (Pi.single .deposit amount.toNat)
  | pause {accounts : Pause} {view : View} {sub : Subscription Pubkey} {bump : UInt8}
      (target : accounts.subscription = key)
      (signed : sub.merchant = accounts.merchant.key)
      (subAt : view.subscription = some sub) (pausedAt : view.paused = none)
      (active : sub.state = .active) (started : sub.streamStart.toInt ≤ now.toInt) :
      Step key now (.program (.pause accounts)) view
        { view with
          subscription := some { sub with state := .paused }
          paused := some ⟨key, now, bump⟩ }
        0
  | resume {accounts : Resume} {view : View} {sub : Subscription Pubkey}
      {paused : PausedSubscription Pubkey} {streamStart : Int64}
      (target : accounts.subscription = key)
      (signed : sub.merchant = accounts.merchant.key)
      (subAt : view.subscription = some sub) (pausedAt : view.paused = some paused)
      (frozen : sub.state = .paused)
      (ordered : paused.pausedAt.toInt ≤ now.toInt)
      (shifted : streamStart.toInt =
        sub.streamStart.toInt + (now.toInt - paused.pausedAt.toInt)) :
      Step key now (.program (.resume accounts)) view
        { view with
          subscription := some { sub with streamStart, state := .active }
          paused := none }
        0
  | cancel {accounts : Cancel} {view : View} {sub : Subscription Pubkey}
      {vault : TokenAccount} {moment : Int64} {claimable refund withdrawn : UInt64}
      {graced : Option (GracedSubscription Pubkey)}
      {paused : Option (PausedSubscription Pubkey)}
      (target : accounts.subscription = key)
      (signed : accounts.signer.key = sub.subscriber ∨ accounts.signer.key = sub.merchant)
      (subAt : view.subscription = some sub) (vaultAt : view.vault = some vault)
      (settles : view.SettlesAt now sub.state moment)
      (started : sub.streamStart.toInt ≤ moment.toInt)
      (withdrawnEq : withdrawn.toNat = sub.withdrawnAmount.toNat + claimable.toNat)
      (unlocked : withdrawn.toNat = sub.unlockedBy moment)
      (refundEq : withdrawn.toNat + refund.toNat = sub.depositedAmount.toNat)
      (emptied : vault.amount.toNat = claimable.toNat + refund.toNat)
      (gracedClosed : view.graced = none ∨ sub.state = .gracePeriod → graced = none)
      (pausedClosed : view.paused = none ∨ sub.state = .paused → paused = none) :
      Step key now (.program (.cancel accounts)) view
        { view with
          subscription := some { sub with
            state := .cancelled, lastChargeAt := now, withdrawnAmount := withdrawn }
          vault := none
          graced := graced
          paused := paused }
        (Pi.single .settlement claimable.toNat + Pi.single .refund refund.toNat)
  | cleanup {accounts : Cleanup} {view : View} {sub : Subscription Pubkey}
      (target : accounts.subscription = key)
      (signed : sub.subscriber = accounts.subscriber.key)
      (subAt : view.subscription = some sub)
      (ended : sub.state = .cancelled ∨ sub.state = .exhausted) :
      Step key now (.program (.cleanup accounts)) view
        { view with subscription := none } 0
  | openSession {accounts : OpenSession} {sessionId reservationCap : UInt64}
      {facilitator : Pubkey} {view : View} {sub : Subscription Pubkey}
      {session : PaySession Pubkey}
      (target : accounts.parent = key)
      (sessionAddress : accounts.paySession = .paySession key sessionId)
      (signed : sub.subscriber = accounts.subscriber.key)
      (subAt : view.subscription = some sub) (sessionAt : view.session sessionId = none)
      (active : sub.state = .active)
      (cap : reservationCap.toNat + sub.withdrawnAmount.toNat ≤ sub.depositedAmount.toNat)
      (usage : session.usageAmount.toNat = 0)
      (capEq : session.reservationCap = reservationCap)
      (sessionIdEq : session.sessionId = sessionId) :
      Step key now (.program (.openSession accounts sessionId facilitator reservationCap))
        view { view with session := Function.update view.session sessionId (some session) } 0
  | closeSession {accounts : CloseSession} {view : View} {sub : Subscription Pubkey}
      {session : PaySession Pubkey}
      (target : accounts.parent = key)
      (sessionAddress : accounts.paySession = .paySession key session.sessionId)
      (signed : sub.subscriber = accounts.subscriber.key)
      (subAt : view.subscription = some sub)
      (sessionAt : view.session session.sessionId = some session) :
      Step key now (.program (.closeSession accounts)) view
        { view with session := Function.update view.session session.sessionId none } 0
  | donate {source : Pubkey} {authority : Signer} {amount : UInt64} {view : View}
      {vault : TokenAccount} {credited : UInt64}
      (vaultAt : view.vault = some vault)
      (creditedEq : credited.toNat = vault.amount.toNat + amount.toNat) :
      Step key now (.spl (.transfer source (.vault key) authority amount)) view
        { view with vault := some { vault with amount := credited } }
        (Pi.single .foreign amount.toNat)
  | other {action : Action} {view : View} (elsewhere : action.subscription? ≠ some key) :
      Step key now action view view 0

/-- Where a subscription after a step comes from: it was there with the same terms, or
`subscribe` wrote it. -/
theorem View.Step.origin {key : Pubkey} {now : Int64} {action : Action} {before after : View}
    {delta : Route → Nat} (taken : View.Step key now action before after delta)
    {next : Subscription Pubkey} (nextAt : after.subscription = some next) :
    (∃ sub, before.subscription = some sub ∧ next.terms = sub.terms) ∨
      (before.subscription = none ∧ next.createdAt = now) := by
  cases taken with
  | subscribe _ _ _ vacant _ _ clocks =>
      cases nextAt
      exact .inr ⟨vacant, clocks.2⟩
  | charge _ found =>
      cases nextAt
      exact .inl ⟨_, found, rfl⟩
  | exhaust _ found =>
      cases nextAt
      exact .inl ⟨_, found, rfl⟩
  | settleUsage _ _ found =>
      cases nextAt
      exact .inl ⟨_, found, rfl⟩
  | topUp _ _ found =>
      cases nextAt
      exact .inl ⟨_, found, rfl⟩
  | recover _ _ found =>
      cases nextAt
      exact .inl ⟨_, found, rfl⟩
  | pause _ _ found =>
      cases nextAt
      exact .inl ⟨_, found, rfl⟩
  | resume _ _ found =>
      cases nextAt
      exact .inl ⟨_, found, rfl⟩
  | cancel _ _ found =>
      cases nextAt
      exact .inl ⟨_, found, rfl⟩
  | cleanup => cases nextAt
  | openSession => exact .inl ⟨next, nextAt, rfl⟩
  | closeSession => exact .inl ⟨next, nextAt, rfl⟩
  | donate => exact .inl ⟨next, nextAt, rfl⟩
  | other => exact .inl ⟨next, nextAt, rfl⟩

/-- No step rewrites the terms of a subscription. -/
theorem View.Step.terms {key : Pubkey} {now : Int64} {action : Action} {before after : View}
    {delta : Route → Nat} (taken : View.Step key now action before after delta)
    {sub next : Subscription Pubkey} (subAt : before.subscription = some sub)
    (nextAt : after.subscription = some next) : next.terms = sub.terms := by
  rcases taken.origin nextAt with ⟨found, foundAt, same⟩ | ⟨vacant, _⟩
  · rw [subAt, Option.some.injEq] at foundAt
    rw [same, foundAt]
  · rw [vacant] at subAt
    cases subAt

end Nakama
