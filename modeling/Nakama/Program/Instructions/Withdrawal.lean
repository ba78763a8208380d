import Nakama.Program.Streaming

/-!
# `charge` and `settle_usage`

The two writers of `withdrawn_amount`: a permissionless keeper that takes all that
has unlocked, and a delegated facilitator that takes part of it.
-/

namespace Nakama

open Guard Ledger

/-- Accounts of `charge`. -/
structure Charge where
  subscription : Pubkey
  plan : Pubkey
  vault : Pubkey
  merchantAta : Pubkey
  payer : Signer
  gracedSubscription : Option Pubkey
  deriving DecidableEq, Repr

def Charge.tryAccounts (accounts : Charge) (ledger : Ledger) :
    Except Error (Subscription Pubkey) := do
  let sub ← ledger.loadSubscription accounts.subscription
  let _plan ← ledger.loadPlan accounts.plan
  let vault ← ledger.loadToken accounts.vault
  let merchantAta ← ledger.loadToken accounts.merchantAta
  -- `init` runs in front of the other constraints, and only on a real account.
  seedsIfSome accounts.gracedSubscription (.grace accounts.subscription)
  ledger.vacantIfSome accounts.gracedSubscription
  ledger.seedsWithBump accounts.subscription (.sub sub.subscriber sub.plan) sub.bump
  require (sub.plan = accounts.plan) (.anchor .constraintHasOne)
  ledger.seedsWithBump accounts.vault (.vault accounts.subscription) sub.vaultBump
  requireMint vault sub.tokenMint
  requireAuthority vault accounts.subscription
  require (merchantAta.mint = sub.tokenMint) (.nakama .mintMismatch)
  require (accounts.merchantAta = sub.merchantAta) (.nakama .ataMismatch)
  return sub

/-- The tail of `charge`: enter grace when the charge exhausted the deposit, and
refuse a satellite that is missing there or present elsewhere. -/
def chargeTail (ledger : Ledger) (now : Int64) (accounts : Charge)
    (charged : Subscription Pubkey) : Except Error (Ledger × List Event) := do
  if charged.withdrawnAmount = charged.depositedAmount then
    let graceUntil ← okOr (Checked.addI64 now graceDuration) (.nakama .mathOverflow)
    let graceKey ← okOr accounts.gracedSubscription (.nakama .missingGraceSatellite)
    let graced : GracedSubscription Pubkey :=
      { subscription := accounts.subscription, enteredGraceAt := now, graceUntil }
    return ((ledger.set graceKey (.graced graced)).set accounts.subscription
        (.subscription { charged with state := .gracePeriod }),
      [.graceEntered accounts.subscription now graceUntil])
  else
    require (accounts.gracedSubscription = none) (.nakama .unexpectedGraceSatellite)
    return (ledger.set accounts.subscription (.subscription charged), [])

def chargeHandler (ledger : Ledger) (now : Int64) (accounts : Charge)
    (sub : Subscription Pubkey) : Except Error Outcome := do
  require (sub.state = .active) (.nakama .illegalStateForCharge)
  require (sub.streamStart ≤ now) (.nakama .clockBackwards)
  require (0 < sub.period) (.nakama .invalidPeriod)
  let unlocked ← unlockedAt .mathOverflow sub now
  let claimable ← okOr (Checked.subU64 unlocked sub.withdrawnAmount) (.nakama .mathOverflow)
  require (0 < claimable) (.nakama .insufficientUnlockedFunds)
  let paid ← ledger.transfer accounts.vault accounts.merchantAta accounts.subscription
    claimable
  let withdrawnAmount ← okOr (Checked.addU64 sub.withdrawnAmount claimable)
    (.nakama .mathOverflow)
  let nextChargeAt ← nextChargeHint sub withdrawnAmount
  let (final, graceEvents) ← chargeTail paid now accounts
    { sub with withdrawnAmount, lastChargeAt := now, nextChargeAt }
  return {
    ledger := final
    transfers := [⟨.settlement, accounts.vault, accounts.merchantAta, claimable⟩]
    events := graceEvents ++
      [.subscriptionCharged accounts.subscription claimable withdrawnAmount now] }

/-- `charge()`. -/
def charge (ledger : Ledger) (now : Int64) (accounts : Charge) : Except Error Outcome := do
  let sub ← accounts.tryAccounts ledger
  chargeHandler ledger now accounts sub

/-- Accounts of `settle_usage`. -/
structure SettleUsage where
  parent : Pubkey
  paySession : Pubkey
  vault : Pubkey
  merchantAta : Pubkey
  facilitator : Signer
  deriving DecidableEq, Repr

def SettleUsage.tryAccounts (accounts : SettleUsage) (ledger : Ledger) :
    Except Error (Subscription Pubkey × PaySession Pubkey) := do
  let parent ← ledger.loadSubscription accounts.parent
  let session ← ledger.loadPaySession accounts.paySession
  let vault ← ledger.loadToken accounts.vault
  let merchantAta ← ledger.loadToken accounts.merchantAta
  ledger.seedsWithBump accounts.parent (.sub parent.subscriber parent.plan) parent.bump
  ledger.seedsWithBump accounts.paySession (.paySession accounts.parent session.sessionId)
    session.bump
  require (session.subscription = accounts.parent) (.nakama .paySessionParentMismatch)
  require (session.facilitator = accounts.facilitator.key) (.nakama .unauthorizedFacilitator)
  ledger.seedsWithBump accounts.vault (.vault accounts.parent) parent.vaultBump
  requireMint vault parent.tokenMint
  requireAuthority vault accounts.parent
  -- Pinned to the session's snapshot, not to the parent's.
  require (accounts.merchantAta = session.merchantAta)
    (.nakama .paySessionMerchantAtaMismatch)
  requireMint merchantAta parent.tokenMint
  return (parent, session)

/-- The reservation cap, `0` meaning none. -/
def reservationCheck (session : PaySession Pubkey) (amount : UInt64) : Except Error Unit :=
  if 0 < session.reservationCap then do
    let newTotal ← okOr (Checked.addU64 session.usageAmount amount)
      (.nakama .arithmeticOverflow)
    require (newTotal ≤ session.reservationCap) (.nakama .reservationCapExceeded)
  else
    .ok ()

def settleUsageHandler (ledger : Ledger) (now : Int64) (accounts : SettleUsage)
    (parent : Subscription Pubkey) (session : PaySession Pubkey) (amount : UInt64) :
    Except Error Outcome := do
  require (0 < amount) (.nakama .illegalAmountForSettle)
  require (parent.state = .active) (.nakama .parentNotActive)
  require (session.state = PaySessionState.opened.toByte) (.nakama .illegalStateForSettle)
  reservationCheck session amount
  require (parent.streamStart ≤ now) (.nakama .clockBackwards)
  require (0 < parent.period) (.nakama .invalidPeriod)
  let unlocked ← unlockedAt .arithmeticOverflow parent now
  let parentRemaining ← okOr (Checked.subU64 unlocked parent.withdrawnAmount)
    (.nakama .arithmeticOverflow)
  require (amount ≤ parentRemaining) (.nakama .insufficientUnlockedFunds)
  -- The session is `Settling` during this CPI and `Open` again after it.
  let paid ← ledger.transfer accounts.vault accounts.merchantAta accounts.parent amount
  let withdrawnAmount ← okOr (Checked.addU64 parent.withdrawnAmount amount)
    (.nakama .arithmeticOverflow)
  let usageAmount ← okOr (Checked.addU64 session.usageAmount amount)
    (.nakama .arithmeticOverflow)
  return {
    ledger := (paid.set accounts.parent
        (.subscription { parent with withdrawnAmount })).set accounts.paySession
      (.paySession { session with
        usageAmount, lastSettleAt := now, state := PaySessionState.opened.toByte })
    transfers := [⟨.settlement, accounts.vault, accounts.merchantAta, amount⟩]
    events := [.usageSettled accounts.paySession accounts.parent amount usageAmount now] }

/-- `settle_usage(amount)`. -/
def settleUsage (ledger : Ledger) (now : Int64) (accounts : SettleUsage) (amount : UInt64) :
    Except Error Outcome := do
  let (parent, session) ← accounts.tryAccounts ledger
  settleUsageHandler ledger now accounts parent session amount

end Nakama
