import Nakama.Program.Streaming

/-!
# `cancel` and `cleanup`

The final settlement, which leaves a `Cancelled` tombstone, and its removal.
-/

namespace Nakama

open Guard Ledger

/-- Accounts of `cancel`. -/
structure Cancel where
  signer : Signer
  subscription : Pubkey
  subscriber : Pubkey
  vault : Pubkey
  merchantAta : Pubkey
  subscriberAta : Pubkey
  gracedSubscription : Option Pubkey
  pausedSubscription : Option Pubkey
  deriving DecidableEq, Repr

/-- The deserialized accounts that the handler of `cancel` reads. -/
structure Cancel.Loaded where
  subscription : Subscription Pubkey
  graced : Option (GracedSubscription Pubkey)
  paused : Option (PausedSubscription Pubkey)

/-- The `mut` accounts that are compared with each other: the typed ones. -/
def Cancel.mutAccounts (accounts : Cancel) : List Pubkey :=
  [accounts.subscription, accounts.vault, accounts.merchantAta, accounts.subscriberAta] ++
    accounts.gracedSubscription.toList ++ accounts.pausedSubscription.toList

theorem Cancel.apart_of_mutAccounts {accounts : Cancel} (distinct : accounts.mutAccounts.Nodup) :
    accounts.merchantAta ≠ accounts.subscriberAta := by
  rw [mutAccounts, List.append_assoc] at distinct
  have ends := (List.nodup_append.mp distinct).1
  simp only [List.nodup_cons, List.mem_cons, List.not_mem_nil, or_false] at ends
  exact ends.2.2.1

/-- Accounts of different types are never one. -/
theorem Cancel.mutAccounts_nodup_iff {accounts : Cancel} {ledger : Ledger}
    {sub : Subscription Pubkey} {vault ata refund : TokenAccount}
    {graced : Option (GracedSubscription Pubkey)} {paused : Option (PausedSubscription Pubkey)}
    (subAt : ledger.account accounts.subscription = some (.subscription sub))
    (vaultAt : ledger.account accounts.vault = some (.token vault))
    (ataAt : ledger.account accounts.merchantAta = some (.token ata))
    (refundAt : ledger.account accounts.subscriberAta = some (.token refund))
    (gracedLoaded : ledger.loadOptional loadGraced accounts.gracedSubscription = .ok graced)
    (pausedLoaded : ledger.loadOptional loadPaused accounts.pausedSubscription = .ok paused) :
    accounts.mutAccounts.Nodup ↔
      [accounts.vault, accounts.merchantAta, accounts.subscriberAta].Nodup := by
  have kinds {key other : Pubkey} {account another : Account}
      (found : ledger.account key = some account)
      (foundOther : ledger.account other = some another) (different : account ≠ another) :
      key ≠ other := by
    rintro rfl
    exact different (Option.some.inj (found.symm.trans foundOther))
  have token {key : Pubkey} {account : Account} (found : ledger.account key = some account)
      (noToken : account.asToken = none) : accounts.vault ≠ key ∧ accounts.merchantAta ≠ key ∧
        accounts.subscriberAta ≠ key := by
    have other (data : TokenAccount) : .token data ≠ account := by
      rintro rfl
      cases noToken
    exact ⟨kinds vaultAt found (other _), kinds ataAt found (other _),
      kinds refundAt found (other _)⟩
  obtain ⟨vaultApart, ataApart, refundApart⟩ := token subAt rfl
  rcases loadOptional_eq_ok.mp gracedLoaded with ⟨noGraced, _⟩ |
    ⟨grace, _, graceSlot, _, graceAt⟩
  · rcases loadOptional_eq_ok.mp pausedLoaded with ⟨noPaused, _⟩ |
      ⟨pause, _, pauseSlot, _, pauseAt⟩
    · simp [mutAccounts, noGraced, noPaused, vaultApart.symm, ataApart.symm, refundApart.symm]
    · have pauseAt := loadPaused_eq_ok.mp pauseAt
      simp [mutAccounts, noGraced, pauseSlot, vaultApart.symm, ataApart.symm, refundApart.symm,
        token pauseAt rfl, kinds subAt pauseAt (by simp)]
  · have graceAt := loadGraced_eq_ok.mp graceAt
    rcases loadOptional_eq_ok.mp pausedLoaded with ⟨noPaused, _⟩ |
      ⟨pause, _, pauseSlot, _, pauseAt⟩
    · simp [mutAccounts, graceSlot, noPaused, vaultApart.symm, ataApart.symm, refundApart.symm,
        token graceAt rfl, kinds subAt graceAt (by simp)]
    · have pauseAt := loadPaused_eq_ok.mp pauseAt
      simp [mutAccounts, graceSlot, pauseSlot, vaultApart.symm, ataApart.symm, refundApart.symm,
        token graceAt rfl, kinds subAt graceAt (by simp), token pauseAt rfl,
        kinds subAt pauseAt (by simp), kinds graceAt pauseAt (by simp)]

def Cancel.tryAccounts (accounts : Cancel) (ledger : Ledger) :
    Except Error Cancel.Loaded := do
  let sub ← ledger.loadSubscription accounts.subscription
  let vault ← ledger.loadToken accounts.vault
  let merchantAta ← ledger.loadToken accounts.merchantAta
  let subscriberAta ← ledger.loadToken accounts.subscriberAta
  let graced ← ledger.loadOptional loadGraced accounts.gracedSubscription
  let paused ← ledger.loadOptional loadPaused accounts.pausedSubscription
  -- In front of the other constraints.  The `mut` accounts of the other instructions never
  -- meet.
  distinctMut accounts.mutAccounts
  ledger.seedsWithBump accounts.subscription (.sub sub.subscriber sub.plan) sub.bump
  require (accounts.subscriber = sub.subscriber) (.nakama .subscriberAccountMismatch)
  ledger.seedsWithBump accounts.vault (.vault accounts.subscription) sub.vaultBump
  requireMint vault sub.tokenMint
  requireAuthority vault accounts.subscription
  require (accounts.merchantAta = sub.merchantAta) (.anchor .constraintAddress)
  requireMint merchantAta sub.tokenMint
  requireMint subscriberAta sub.tokenMint
  requireAuthority subscriberAta sub.subscriber
  seedsIfSome accounts.gracedSubscription (.grace accounts.subscription)
  seedsIfSome accounts.pausedSubscription (.pausedSub accounts.subscription)
  require (∀ satellite ∈ paused, satellite.subscription = accounts.subscription)
    (.nakama .illegalStateForCancel)
  return { subscription := sub, graced, paused }

/-- The moment up to which `cancel` settles. -/
def effectiveNow (now : Int64) (loaded : Cancel.Loaded) : Except Error Int64 :=
  match loaded.subscription.state with
  | .active => .ok now
  | .gracePeriod => do
      let graced ← okOr loaded.graced (.nakama .missingGraceSatellite)
      return min now graced.graceUntil
  | .paused => do
      let paused ← okOr loaded.paused (.nakama .illegalStateForCancel)
      return paused.pausedAt
  | _ => .error (.nakama .illegalStateForCancel)

/-- The CPI of `cancel` that is skipped when there is nothing to move. -/
def transferIfPositive (ledger : Ledger) (source destination authority : Pubkey)
    (amount : UInt64) : Except Error Ledger :=
  if 0 < amount then
    ledger.transfer source destination authority amount
  else
    .ok ledger

/-- The movement that `transferIfPositive` makes. -/
def transferredIfPositive (route : Route) (source destination : Pubkey) (amount : UInt64) :
    List Transfer :=
  if 0 < amount then [⟨route, source, destination, amount⟩] else []

def cancelHandler (ledger : Ledger) (now : Int64) (accounts : Cancel)
    (loaded : Cancel.Loaded) : Except Error Outcome := do
  let sub := loaded.subscription
  require (accounts.signer.key = sub.subscriber ∨ accounts.signer.key = sub.merchant)
    (.nakama .noCancelAuthority)
  require (sub.state = .active ∨ sub.state = .paused ∨ sub.state = .gracePeriod)
    (.nakama .illegalStateForCancel)
  require (sub.streamStart ≤ now) (.nakama .clockBackwards)
  require (0 < sub.period) (.nakama .invalidPeriod)
  let moment ← effectiveNow now loaded
  require (sub.streamStart ≤ moment) (.nakama .clockBackwards)
  let unlocked ← unlockedAt .mathOverflow sub moment
  let finalClaimable ← okOr (Checked.subU64 unlocked sub.withdrawnAmount)
    (.nakama .mathOverflow)
  let refund ← okOr (Checked.subU64 sub.depositedAmount unlocked) (.nakama .mathOverflow)
  let settled ← transferIfPositive ledger accounts.vault accounts.merchantAta
    accounts.subscription finalClaimable
  let refunded ← transferIfPositive settled accounts.vault accounts.subscriberAta
    accounts.subscription refund
  let withdrawnAmount ← okOr (Checked.addU64 sub.withdrawnAmount finalClaimable)
    (.nakama .mathOverflow)
  let closed ← refunded.closeToken accounts.vault accounts.subscription
  return {
    ledger := ((closed.set accounts.subscription
        (.subscription { sub with
          state := .cancelled, lastChargeAt := now, withdrawnAmount })).closeIfSome
        accounts.gracedSubscription).closeIfSome accounts.pausedSubscription
    transfers :=
      transferredIfPositive .settlement accounts.vault accounts.merchantAta finalClaimable ++
      transferredIfPositive .refund accounts.vault accounts.subscriberAta refund
    events := [.subscriptionCancelled accounts.subscription sub.subscriber sub.plan
      sub.merchant accounts.signer.key finalClaimable refund loaded.paused.isSome
      loaded.graced.isSome now] }

/-- `cancel()`. -/
def cancel (ledger : Ledger) (now : Int64) (accounts : Cancel) : Except Error Outcome := do
  let loaded ← accounts.tryAccounts ledger
  cancelHandler ledger now accounts loaded

/-- Accounts of `cleanup`. -/
structure Cleanup where
  subscription : Pubkey
  subscriber : Signer
  deriving DecidableEq, Repr

def Cleanup.tryAccounts (accounts : Cleanup) (ledger : Ledger) :
    Except Error (Subscription Pubkey) := do
  let sub ← ledger.loadSubscription accounts.subscription
  ledger.seedsWithBump accounts.subscription (.sub sub.subscriber sub.plan) sub.bump
  require (sub.subscriber = accounts.subscriber.key) (.nakama .unauthorizedCleanup)
  return sub

def cleanupHandler (ledger : Ledger) (now : Int64) (accounts : Cleanup)
    (sub : Subscription Pubkey) : Except Error Outcome := do
  require (sub.state = .cancelled ∨ sub.state = .exhausted) (.nakama .illegalStateForCleanup)
  return {
    ledger := ledger.close accounts.subscription
    transfers := []
    events := [.subscriptionCleaned accounts.subscription accounts.subscriber.key now] }

/-- `cleanup()`. -/
def cleanup (ledger : Ledger) (now : Int64) (accounts : Cleanup) : Except Error Outcome := do
  let sub ← accounts.tryAccounts ledger
  cleanupHandler ledger now accounts sub

end Nakama
