import Nakama.Program.Streaming

/-!
# `create_plan` and `subscribe`

A merchant publishes a plan; a subscriber opens a subscription on it and prefunds
its vault.
-/

namespace Nakama

open Guard Ledger

/-- Accounts of `create_plan`. -/
structure CreatePlan where
  merchant : Signer
  plan : Pubkey
  tokenMint : Pubkey
  merchantAta : Pubkey
  deriving DecidableEq, Repr

def CreatePlan.tryAccounts (accounts : CreatePlan) (ledger : Ledger) (planId : UInt64) :
    Except Error Unit := do
  ledger.loadMint accounts.tokenMint
  let merchantAta ← ledger.loadToken accounts.merchantAta
  seeds accounts.plan (.plan accounts.merchant.key planId)
  ledger.vacant accounts.plan
  require (accounts.tokenMint = usdcMint) (.anchor .constraintAddress)
  requireMint merchantAta accounts.tokenMint
  requireAuthority merchantAta accounts.merchant.key

/-- The plan that `create_plan` writes. -/
def CreatePlan.newPlan (accounts : CreatePlan) (ledger : Ledger) (planId price : UInt64)
    (period : Int64) : Plan Pubkey where
  merchant := accounts.merchant.key
  planId := planId
  price := price
  period := period
  tokenMint := accounts.tokenMint
  merchantAta := accounts.merchantAta
  bump := ledger.bump accounts.plan
  reserved := Reserved.zero

def createPlanHandler (ledger : Ledger) (now : Int64) (accounts : CreatePlan)
    (planId price : UInt64) (period : Int64) : Except Error Outcome := do
  require (0 < period) (.nakama .zeroPeriod)
  require (0 < price) (.nakama .zeroPrice)
  return {
    ledger := ledger.set accounts.plan
      (.plan (accounts.newPlan ledger planId price period))
    transfers := []
    events := [.planCreated accounts.plan accounts.merchant.key planId price period now] }

/-- `create_plan(plan_id, price, period)`. -/
def createPlan (ledger : Ledger) (now : Int64) (accounts : CreatePlan)
    (planId price : UInt64) (period : Int64) : Except Error Outcome := do
  accounts.tryAccounts ledger planId
  createPlanHandler ledger now accounts planId price period

/-- Accounts of `subscribe`. -/
structure Subscribe where
  subscriber : Signer
  plan : Pubkey
  tokenMint : Pubkey
  subscription : Pubkey
  vault : Pubkey
  subscriberAta : Pubkey
  deriving DecidableEq, Repr

/-- The plan is the only loaded account that the handler reads. -/
def Subscribe.tryAccounts (accounts : Subscribe) (ledger : Ledger) :
    Except Error (Plan Pubkey) := do
  let plan ← ledger.loadPlan accounts.plan
  ledger.loadMint accounts.tokenMint
  let subscriberAta ← ledger.loadToken accounts.subscriberAta
  seeds accounts.subscription (.sub accounts.subscriber.key accounts.plan)
  ledger.vacant accounts.subscription
  seeds accounts.vault (.vault accounts.subscription)
  ledger.vacant accounts.vault
  ledger.seedsWithBump accounts.plan (.plan plan.merchant plan.planId) plan.bump
  require (accounts.tokenMint = plan.tokenMint) (.anchor .constraintAddress)
  requireMint subscriberAta accounts.tokenMint
  requireAuthority subscriberAta accounts.subscriber.key
  return plan

/-- The fresh token account that `init` puts at the vault address. -/
def Subscribe.emptyVault (accounts : Subscribe) : TokenAccount :=
  { mint := accounts.tokenMint, owner := accounts.subscription, amount := 0 }

/-- The subscription that `subscribe` writes. -/
def Subscribe.newSubscription (accounts : Subscribe) (ledger : Ledger) (now : Int64)
    (plan : Plan Pubkey) (nextChargeAt : Int64) (depositedAmount ratePerSecond : UInt64) :
    Subscription Pubkey where
  nextChargeAt := nextChargeAt
  subscriber := accounts.subscriber.key
  plan := accounts.plan
  price := plan.price
  period := plan.period
  tokenMint := plan.tokenMint
  merchant := plan.merchant
  merchantAta := plan.merchantAta
  state := .active
  bump := ledger.bump accounts.subscription
  vaultBump := ledger.bump accounts.vault
  createdAt := now
  lastChargeAt := 0
  depositedAmount := depositedAmount
  withdrawnAmount := 0
  ratePerSecond := ratePerSecond
  streamStart := now
  reserved := Reserved.zero

def subscribeHandler (ledger : Ledger) (now : Int64) (accounts : Subscribe)
    (plan : Plan Pubkey) (periodsToPrefund : UInt8) : Except Error Outcome := do
  require (accounts.subscriberAta ≠ accounts.vault) (.nakama .duplicateAtaAndVault)
  require (0 < plan.period) (.nakama .zeroPeriod)
  require (1 ≤ periodsToPrefund) (.nakama .zeroPeriodsToFund)
  let ratePerSecond ← okOr (Checked.divU64 plan.price plan.period.toUInt64)
    (.nakama .mathOverflow)
  require (1 ≤ ratePerSecond) (.nakama .zeroRatePerSecond)
  let depositedAmount ← okOr (Checked.mulU64 plan.price periodsToPrefund.toUInt64)
    (.nakama .mathOverflow)
  let funded ← (ledger.set accounts.vault (.token accounts.emptyVault)).transfer
    accounts.subscriberAta accounts.vault accounts.subscriber.key depositedAmount
  let nextChargeAt ← okOr (Checked.addI64 now plan.period) (.nakama .mathOverflow)
  return {
    ledger := funded.set accounts.subscription (.subscription
      (accounts.newSubscription ledger now plan nextChargeAt depositedAmount ratePerSecond))
    transfers := [⟨.deposit, accounts.subscriberAta, accounts.vault, depositedAmount⟩]
    events := [.subscriptionStarted accounts.subscription accounts.subscriber.key
      accounts.plan depositedAmount ratePerSecond now] }

/-- `subscribe(periods_to_prefund)`. -/
def subscribe (ledger : Ledger) (now : Int64) (accounts : Subscribe)
    (periodsToPrefund : UInt8) : Except Error Outcome := do
  let plan ← accounts.tryAccounts ledger
  subscribeHandler ledger now accounts plan periodsToPrefund

end Nakama
