import Nakama.Program.Streaming

/-!
# `top_up`, `pause` and `resume`

The subscriber adds funds, which also recovers a subscription from grace; the
merchant freezes and thaws the stream.
-/

namespace Nakama

open Guard Ledger

/-- Accounts of `top_up`. -/
structure TopUp where
  subscriber : Signer
  subscription : Pubkey
  gracedSubscription : Option Pubkey
  vault : Pubkey
  subscriberAta : Pubkey
  deriving DecidableEq, Repr

def TopUp.tryAccounts (accounts : TopUp) (ledger : Ledger) :
    Except Error (Subscription Pubkey × Option (GracedSubscription Pubkey)) := do
  let sub ← ledger.loadSubscription accounts.subscription
  let graced ← ledger.loadOptional loadGraced accounts.gracedSubscription
  let vault ← ledger.loadToken accounts.vault
  let subscriberAta ← ledger.loadToken accounts.subscriberAta
  ledger.seedsWithBump accounts.subscription (.sub sub.subscriber sub.plan) sub.bump
  require (sub.subscriber = accounts.subscriber.key) (.anchor .constraintHasOne)
  seedsIfSome accounts.gracedSubscription (.grace accounts.subscription)
  ledger.seedsWithBump accounts.vault (.vault accounts.subscription) sub.vaultBump
  requireMint vault sub.tokenMint
  requireAuthority vault accounts.subscription
  requireMint subscriberAta sub.tokenMint
  requireAuthority subscriberAta accounts.subscriber.key
  return (sub, graced)

/-- The recovery branch of `top_up`: shift the stream anchor by the time spent in
grace and reactivate. -/
def recoverFromGrace (now : Int64) (sub : Subscription Pubkey)
    (graced : Option (GracedSubscription Pubkey)) : Except Error (Subscription Pubkey) := do
  let graced ← okOr graced (.nakama .missingGraceSatellite)
  require (graced.enteredGraceAt ≤ now) (.nakama .clockBackwards)
  let graceDuration ← okOr (Checked.subI64 now graced.enteredGraceAt) (.nakama .mathOverflow)
  let streamStart ← okOr (Checked.addI64 sub.streamStart graceDuration)
    (.nakama .mathOverflow)
  return { sub with streamStart, state := .active }

/-- The tail of `top_up`: only a subscription in grace changes state. -/
def topUpTail (now : Int64) (accounts : TopUp) (deposited : Subscription Pubkey)
    (graced : Option (GracedSubscription Pubkey)) (amount : UInt64) :
    Except Error (Subscription Pubkey × List Event) :=
  if deposited.state = .gracePeriod then do
    let recovered ← recoverFromGrace now deposited graced
    return (recovered,
      [.graceRecovered accounts.subscription amount deposited.depositedAmount])
  else
    return (deposited, [])

def topUpHandler (ledger : Ledger) (now : Int64) (accounts : TopUp)
    (sub : Subscription Pubkey) (graced : Option (GracedSubscription Pubkey))
    (amount : UInt64) : Except Error Outcome := do
  require (0 < amount) (.nakama .illegalAmountForTopUp)
  require (sub.state = .active ∨ sub.state = .paused ∨ sub.state = .gracePeriod)
    (.nakama .illegalStateForTopUp)
  require (sub.state = .gracePeriod → graced.isSome = true) (.nakama .missingGraceSatellite)
  let funded ← ledger.transfer accounts.subscriberAta accounts.vault
    accounts.subscriber.key amount
  let depositedAmount ← okOr (Checked.addU64 sub.depositedAmount amount)
    (.nakama .mathOverflow)
  let (final, events) ← topUpTail now accounts { sub with depositedAmount } graced amount
  return {
    ledger := (funded.set accounts.subscription (.subscription final)).closeIfSome
      accounts.gracedSubscription
    transfers := [⟨.deposit, accounts.subscriberAta, accounts.vault, amount⟩]
    events }

/-- `top_up(amount)`. -/
def topUp (ledger : Ledger) (now : Int64) (accounts : TopUp) (amount : UInt64) :
    Except Error Outcome := do
  let (sub, graced) ← accounts.tryAccounts ledger
  topUpHandler ledger now accounts sub graced amount

/-- Accounts of `pause`. -/
structure Pause where
  subscription : Pubkey
  pausedSatellite : Pubkey
  merchant : Signer
  deriving DecidableEq, Repr

def Pause.tryAccounts (accounts : Pause) (ledger : Ledger) :
    Except Error (Subscription Pubkey) := do
  let sub ← ledger.loadSubscription accounts.subscription
  seeds accounts.pausedSatellite (.pausedSub accounts.subscription)
  ledger.vacant accounts.pausedSatellite
  ledger.seedsWithBump accounts.subscription (.sub sub.subscriber sub.plan) sub.bump
  require (sub.merchant = accounts.merchant.key) (.nakama .unauthorizedPause)
  return sub

def pauseHandler (ledger : Ledger) (now : Int64) (accounts : Pause)
    (sub : Subscription Pubkey) : Except Error Outcome := do
  require (sub.state = .active) (.nakama .illegalStateForPause)
  require (sub.streamStart ≤ now) (.nakama .clockBackwards)
  require (0 < sub.period) (.nakama .invalidPeriod)
  let unlocked ← unlockedAt .mathOverflow sub now
  let satellite : PausedSubscription Pubkey :=
    { subscription := accounts.subscription
      pausedAt := now
      bump := ledger.bump accounts.pausedSatellite }
  return {
    ledger := (ledger.set accounts.pausedSatellite (.paused satellite)).set
      accounts.subscription (.subscription { sub with state := .paused })
    transfers := []
    events := [.subscriptionPaused accounts.subscription now unlocked] }

/-- `pause()`. -/
def pause (ledger : Ledger) (now : Int64) (accounts : Pause) : Except Error Outcome := do
  let sub ← accounts.tryAccounts ledger
  pauseHandler ledger now accounts sub

/-- Accounts of `resume`. -/
structure Resume where
  subscription : Pubkey
  pausedSatellite : Pubkey
  merchant : Signer
  deriving DecidableEq, Repr

def Resume.tryAccounts (accounts : Resume) (ledger : Ledger) :
    Except Error (Subscription Pubkey × PausedSubscription Pubkey) := do
  let sub ← ledger.loadSubscription accounts.subscription
  let paused ← ledger.loadPaused accounts.pausedSatellite
  ledger.seedsWithBump accounts.subscription (.sub sub.subscriber sub.plan) sub.bump
  require (sub.merchant = accounts.merchant.key) (.nakama .unauthorizedResume)
  ledger.seedsWithBump accounts.pausedSatellite (.pausedSub accounts.subscription)
    paused.bump
  require (paused.subscription = accounts.subscription) (.nakama .illegalStateForResume)
  return (sub, paused)

def resumeHandler (ledger : Ledger) (now : Int64) (accounts : Resume)
    (sub : Subscription Pubkey) (paused : PausedSubscription Pubkey) :
    Except Error Outcome := do
  require (sub.state = .paused) (.nakama .illegalStateForResume)
  require (paused.pausedAt ≤ now) (.nakama .clockBackwards)
  let pauseDuration ← okOr (Checked.subI64 now paused.pausedAt) (.nakama .mathOverflow)
  let streamStart ← okOr (Checked.addI64 sub.streamStart pauseDuration)
    (.nakama .mathOverflow)
  return {
    ledger := (ledger.set accounts.subscription
        (.subscription { sub with streamStart, state := .active })).close
      accounts.pausedSatellite
    transfers := []
    events := [.subscriptionResumed accounts.subscription now pauseDuration streamStart] }

/-- `resume()`. -/
def resume (ledger : Ledger) (now : Int64) (accounts : Resume) : Except Error Outcome := do
  let (sub, paused) ← accounts.tryAccounts ledger
  resumeHandler ledger now accounts sub paused

end Nakama
