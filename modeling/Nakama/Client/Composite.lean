import Nakama.Client.Accounts
import Nakama.Program.Chain

/-!
# Composite transactions

The builders of `resubscribe.rs` and `change_rate.rs`: they read the accounts of one
subscriber over RPC and emit the instructions of one transaction, which the runtime
executes as a whole or not at all.
-/

namespace Nakama

open Guard

/-- Execute the instructions of one transaction in order, at one clock.  The first refusal
refuses the transaction. -/
def Instruction.executeAll (now : Int64) (ledger : Ledger) :
    List Instruction → Except Error Ledger
  | [] => .ok ledger
  | instruction :: rest => do
      let outcome ← instruction.execute ledger now
      executeAll now outcome.ledger rest

/-! ## RPC -/

/-- What a node answers: the account at an address, and the session accounts that the
`memcmp` filters select for a subscription. -/
structure Rpc where
  getAccount : Pubkey → Option Account
  getProgramAccounts : Pubkey → List (Pubkey × PaySessionView Pubkey)

/-- The node serves this ledger: it returns every selected account once. -/
structure Rpc.Serves (rpc : Rpc) (ledger : Ledger) : Prop where
  account : ∀ key, rpc.getAccount key = ledger.account key
  once : ∀ subscription, ((rpc.getProgramAccounts subscription).map Prod.fst).Nodup
  selected : ∀ subscription key view,
    (key, view) ∈ rpc.getProgramAccounts subscription ↔
      ∃ session, ledger.account key = some (.paySession session) ∧
        session.subscription = subscription ∧ session.seen = view

/-- Why an account that exists is not the one that was asked for. -/
inductive ObservationError where
  | tooShort
  | wrongOwner
  | wrongDiscriminator
  deriving DecidableEq, Repr

/-- `SubscriptionView::decode_owned` of an account that the ledger holds. -/
def SubscriptionView.observe : Account → Except ObservationError (SubscriptionView Pubkey)
  | .subscription sub => .ok sub.seen
  | .token _ | .mint => .error .wrongOwner
  | _ => .error .wrongDiscriminator

/-- `PlanView::decode_owned` of an account that the ledger holds. -/
def PlanView.observe : Account → Except ObservationError (PlanView Pubkey)
  | .plan plan => .ok plan.seen
  | .token _ | .mint => .error .wrongOwner
  | _ => .error .wrongDiscriminator

/-- The loop of `list_alive_pay_sessions` over the answer of the node. -/
def Rpc.listAlivePaySessions (rpc : Rpc) (subscription : Pubkey) :
    List (Pubkey × PaySessionView Pubkey) :=
  (rpc.getProgramAccounts subscription).filter fun listed =>
    listed.2.subscription = subscription ∧ listed.2.state = 0

/-- The listed sessions whose address is derived from their id. -/
def Rpc.derivedPaySessions (rpc : Rpc) (subscription : Pubkey) : List Pubkey :=
  ((rpc.listAlivePaySessions subscription).filter fun listed =>
    Pubkey.paySession subscription listed.2.sessionId = listed.1).map Prod.fst

/-! ## Single instructions -/

section Builders

-- `get_associated_token_address` of the SPL client, from a wallet and a mint.
variable (getAssociatedTokenAddress : Pubkey → Pubkey → Pubkey)

/-- `build_subscribe_ix`. -/
def buildSubscribeIx (subscriber : Signer) (plan tokenMint : Pubkey)
    (periodsToPrefund : UInt8) : Instruction :=
  .subscribe
    { subscriber
      plan
      tokenMint
      subscription := .sub subscriber.key plan
      vault := .vault (.sub subscriber.key plan)
      subscriberAta := getAssociatedTokenAddress subscriber.key tokenMint }
    periodsToPrefund

/-- `build_cleanup_ix`. -/
def buildCleanupIx (subscription : Pubkey) (subscriber : Signer) : Instruction :=
  .cleanup { subscription, subscriber }

/-- `build_close_session_ix`. -/
def buildCloseSessionIx (parent paySession : Pubkey) (subscriber : Signer) : Instruction :=
  .closeSession { parent, paySession, subscriber }

/-- `build_cancel_ix`. -/
def buildCancelIx (signer : Signer) (subscription subscriber vault merchantAta
    subscriberAta : Pubkey) (graced paused : Option Pubkey) : Instruction :=
  .cancel
    { signer
      subscription
      subscriber
      vault
      merchantAta
      subscriberAta
      gracedSubscription := graced
      pausedSubscription := paused }

/-! ## Re-subscribe -/

/-- `MAX_INLINE_PAY_SESSION_CLOSES`. -/
def maxInlinePaySessionCloses : Nat := 4

/-- `ResubscribeArgs`. -/
structure ResubscribeArgs where
  plan : Pubkey
  tokenMint : Pubkey
  periodsToPrefund : UInt8
  subscriber : Signer
  closeAlivePaySessions : Bool
  deriving DecidableEq, Repr

/-- `ResubscribeError`, without the transport errors. -/
inductive ResubscribeError where
  | subscriptionAlive (state : UInt8)
  | tooManyPaySessions (n : Nat)
  | accountDecode (error : ObservationError)
  deriving DecidableEq, Repr

/-- `build_resubscribe_ixs`. -/
def buildResubscribeIxs (args : ResubscribeArgs) (subscriptionState : Option UInt8)
    (alivePaySessions : List Pubkey) : Except ResubscribeError (List Instruction) := do
  let nSessions := if subscriptionState = some 4 then alivePaySessions.length else 0
  require (¬(args.closeAlivePaySessions = true ∧ maxInlinePaySessionCloses < nSessions))
    (.tooManyPaySessions nSessions)
  let subscription := Pubkey.sub args.subscriber.key args.plan
  let subscribeIx := buildSubscribeIx getAssociatedTokenAddress args.subscriber args.plan
    args.tokenMint args.periodsToPrefund
  match subscriptionState with
  | none => return [subscribeIx]
  | some state =>
      if state = 4 then
        let closes := if args.closeAlivePaySessions then
            alivePaySessions.map fun paySession =>
              buildCloseSessionIx subscription paySession args.subscriber
          else []
        return closes ++ [buildCleanupIx subscription args.subscriber, subscribeIx]
      else
        throw (.subscriptionAlive state)

/-- Step 1 of `resubscribe_or_subscribe`: the state byte of the subscription, if it
exists. -/
def observeState (rpc : Rpc) (subscription : Pubkey) :
    Except ResubscribeError (Option UInt8) :=
  match rpc.getAccount subscription with
  | none => .ok none
  | some account =>
      match SubscriptionView.observe account with
      | .ok view => .ok (some view.state)
      | .error error => .error (.accountDecode error)

/-- The early check of the state byte. -/
def requireEnded : Option UInt8 → Except ResubscribeError Unit
  | none => .ok ()
  | some state => require (state = 4) (.subscriptionAlive state)

/-- `resubscribe_or_subscribe` up to the instruction list: what it observes and what it
builds from that. -/
def resubscribeOrSubscribe (rpc : Rpc) (args : ResubscribeArgs) :
    Except ResubscribeError (List Instruction) := do
  let subscription := Pubkey.sub args.subscriber.key args.plan
  let subscriptionState ← observeState rpc subscription
  requireEnded subscriptionState
  let aliveSessions :=
    if args.closeAlivePaySessions = true ∧ subscriptionState = some 4 then
      rpc.derivedPaySessions subscription
    else []
  buildResubscribeIxs getAssociatedTokenAddress args subscriptionState aliveSessions

/-! ## Change of rate -/

/-- `ChangeRateOptions`. -/
structure ChangeRateOptions where
  subscriber : Signer
  oldPlan : Pubkey
  newPlan : Pubkey
  newDepositPeriods : UInt8
  closeAlivePaySessions : Bool
  deriving DecidableEq, Repr

/-- `ChangeRateError`, without the transport errors. -/
inductive ChangeRateError where
  | crossMintMigrationUnsupported
  | tooManyAliveSessions (count : Nat)
  | decode (error : ObservationError)
  | subscriberMismatch (opts actual : Pubkey)
  | unknownSubscriptionState (byte : UInt8)
  deriving DecidableEq, Repr

/-- `select_cancel_satellites`: the grace and the pause satellite. -/
def selectCancelSatellites (state : SubscriptionStateByte) (subscription : Pubkey) :
    Except ChangeRateError (Option Pubkey × Option Pubkey) :=
  match state with
  | .active | .exhausted | .cancelled => .ok (none, none)
  | .gracePeriod => .ok (some (.grace subscription), none)
  | .paused => .ok (none, some (.pausedSub subscription))
  | .unknown byte => .error (.unknownSubscriptionState byte)

/-- Step 3 of `build_change_rate_tx`: the sessions of the old subscription, if they are to
be closed.  The cap is on what RPC lists. -/
def selectClosedSessions (rpc : Rpc) (opts : ChangeRateOptions) (oldSub : Pubkey) :
    Except ChangeRateError (List Pubkey) :=
  if opts.closeAlivePaySessions then do
    let alive := rpc.listAlivePaySessions oldSub
    require (alive.length ≤ maxInlinePaySessionCloses) (.tooManyAliveSessions alive.length)
    return rpc.derivedPaySessions oldSub
  else .ok []

/-- Steps 3 to 5 of `build_change_rate_tx`: leave the old subscription. -/
def buildLeaveIxs (rpc : Rpc) (opts : ChangeRateOptions) (sub : SubscriptionView Pubkey) :
    Except ChangeRateError (List Instruction) := do
  let oldSub := Pubkey.sub opts.subscriber.key opts.oldPlan
  let closed ← selectClosedSessions rpc opts oldSub
  let (graced, paused) ← selectCancelSatellites sub.stateByte oldSub
  return closed.map (fun paySession => buildCloseSessionIx oldSub paySession opts.subscriber) ++
    [buildCancelIx opts.subscriber oldSub opts.subscriber.key (.vault oldSub) sub.merchantAta
        (getAssociatedTokenAddress opts.subscriber.key sub.tokenMint) graced paused,
      buildCleanupIx oldSub opts.subscriber]

/-- Steps 2 to 5 of `build_change_rate_tx`: leave the old subscription if it exists. -/
def buildLeaveIfExists (rpc : Rpc) (opts : ChangeRateOptions) :
    Except ChangeRateError (List Instruction) :=
  match rpc.getAccount (.sub opts.subscriber.key opts.oldPlan) with
  | none => .ok []
  | some account =>
      match SubscriptionView.observe account with
      | .error error => .error (.decode error)
      | .ok view => do
          require (opts.subscriber.key = view.subscriber)
            (.subscriberMismatch opts.subscriber.key view.subscriber)
          buildLeaveIxs getAssociatedTokenAddress rpc opts view

/-- `PlanView::decode_owned` with its error wrapped. -/
def decodePlan (account : Account) : Except ChangeRateError (PlanView Pubkey) :=
  match PlanView.observe account with
  | .ok view => .ok view
  | .error error => .error (.decode error)

/-- `build_change_rate_tx`: the instructions of the transaction. -/
def buildChangeRateTx (rpc : Rpc) (opts : ChangeRateOptions) :
    Except ChangeRateError (List Instruction) := do
  let oldPlanAccount ← okOr (rpc.getAccount opts.oldPlan) (.decode .tooShort)
  let newPlanAccount ← okOr (rpc.getAccount opts.newPlan) (.decode .tooShort)
  let oldPlan ← decodePlan oldPlanAccount
  let newPlan ← decodePlan newPlanAccount
  require (oldPlan.tokenMint = newPlan.tokenMint) .crossMintMigrationUnsupported
  let leave ← buildLeaveIfExists getAssociatedTokenAddress rpc opts
  return leave ++ [buildSubscribeIx getAssociatedTokenAddress opts.subscriber opts.newPlan
    newPlan.tokenMint opts.newDepositPeriods]

end Builders

end Nakama
