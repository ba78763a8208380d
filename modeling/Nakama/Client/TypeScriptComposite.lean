import Nakama.Client.Composite

/-!
# Composite transactions of the TypeScript client

The builders of `resubscribe.ts` and `changeRate.ts`, over the same node as those of the
Rust client.  A `number` is an integer here, and a `PublicKey` that signs is a signer.
-/

namespace Nakama.TypeScript

open Guard

/-- The kinds of `AccountFetchError` that a decoder on an existing account ends in.  The
Anchor decoder behind the owner check refuses another discriminator. -/
inductive AccountFetchError where
  | wrongAccountOwner
  | decodeFailed
  deriving DecidableEq, Repr

/-- `DecodedSubscription`. -/
structure DecodedSubscription where
  merchantAta : Pubkey
  subscriber : Pubkey
  tokenMint : Pubkey
  state : SubscriptionState
  deriving DecidableEq, Repr

/-- `DecodedPlan`. -/
structure DecodedPlan where
  tokenMint : Pubkey
  merchantAta : Pubkey
  deriving DecidableEq, Repr

/-- `fetchSubscription`, and the state alone in `fetchSubscriptionState`. -/
def fetchSubscription (rpc : Rpc) (subscription : Pubkey) :
    Except AccountFetchError (Option DecodedSubscription) :=
  match rpc.getAccount subscription with
  | none => .ok none
  | some (.subscription sub) =>
      .ok (some ⟨sub.merchantAta, sub.subscriber, sub.tokenMint, sub.state⟩)
  | some (.token _) | some .mint => .error .wrongAccountOwner
  | some _ => .error .decodeFailed

/-- `fetchPlan`. -/
def fetchPlan (rpc : Rpc) (plan : Pubkey) : Except AccountFetchError (Option DecodedPlan) :=
  match rpc.getAccount plan with
  | none => .ok none
  | some (.plan data) => .ok (some ⟨data.tokenMint, data.merchantAta⟩)
  | some (.token _) | some .mint => .error .wrongAccountOwner
  | some _ => .error .decodeFailed

/-- `findAlivePaySessions`, over decoded accounts. -/
def findAlivePaySessions (rpc : Rpc) (subscription : Pubkey) : List UInt64 :=
  ((rpc.getProgramAccounts subscription).filterMap fun listed =>
    if listed.2.state = 0 then some listed.2.sessionId else none).mergeSort

/-- `MAX_ALIVE_PAY_SESSIONS_IN_COMPOSITE`. -/
def maxAlivePaySessionsInComposite : Nat := 4

/-! ## Single instructions -/

/-- `buildCloseSessionIxInline`. -/
def buildCloseSessionIx (subscription : Pubkey) (subscriber : Signer) (sessionId : UInt64) :
    Instruction :=
  .closeSession
    { parent := subscription
      paySession := .paySession subscription sessionId
      subscriber }

/-- `buildCleanupIxInline`. -/
def buildCleanupIx (subscription : Pubkey) (subscriber : Signer) : Instruction :=
  .cleanup { subscription, subscriber }

/-- `buildSubscribeIx`. -/
def buildSubscribeIx (subscriber : Signer) (plan tokenMint subscriberAta : Pubkey)
    (periodsToPrefund : Int) : Instruction :=
  .subscribe
    { subscriber
      plan
      tokenMint
      subscription := .sub subscriber.key plan
      vault := .vault (.sub subscriber.key plan)
      subscriberAta }
    (UInt8.ofNat periodsToPrefund.toNat)

/-- `buildCancelIx`. -/
def buildCancelIx (signer : Signer) (subscriber subscription vault merchantAta
    subscriberAta : Pubkey) (state : SubscriptionState) : Instruction :=
  .cancel
    { signer
      subscription
      subscriber
      vault
      merchantAta
      subscriberAta
      gracedSubscription := if state = .gracePeriod then some (.grace subscription) else none
      pausedSubscription := if state = .paused then some (.pausedSub subscription) else none }

/-! ## Re-subscribe -/

/-- What `resubscribeOrSubscribe` throws in front of the transaction. -/
inductive ResubscribeError where
  | tooManyAlivePaySessions (n : Nat)
  | alive (state : SubscriptionState)
  | periodsToPrefund (periods : Int)
  | fetch (error : AccountFetchError)
  deriving DecidableEq, Repr

/-- `BuildResubscribeIxsArgs`. -/
structure BuildResubscribeIxsArgs where
  subscriber : Signer
  plan : Pubkey
  tokenMint : Pubkey
  subscriberAta : Pubkey
  periodsToPrefund : Int
  existingState : Option SubscriptionState
  alivePaySessions : List UInt64
  deriving DecidableEq, Repr

/-- The guard on `existingState`. -/
def requireEnded : Option SubscriptionState → Except ResubscribeError Unit
  | none => .ok ()
  | some state => require (state = .cancelled) (.alive state)

/-- `buildResubscribeIxs`. -/
def buildResubscribeIxs (args : BuildResubscribeIxsArgs) :
    Except ResubscribeError (List Instruction) := do
  require (args.alivePaySessions.length ≤ maxAlivePaySessionsInComposite)
    (.tooManyAlivePaySessions args.alivePaySessions.length)
  requireEnded args.existingState
  require (1 ≤ args.periodsToPrefund ∧ args.periodsToPrefund ≤ 255)
    (.periodsToPrefund args.periodsToPrefund)
  let subscription := Pubkey.sub args.subscriber.key args.plan
  let closes := if args.existingState = some .cancelled then
      args.alivePaySessions.map (buildCloseSessionIx subscription args.subscriber)
    else []
  let cleanup := if args.existingState = some .cancelled then
      [buildCleanupIx subscription args.subscriber]
    else []
  return closes ++ cleanup ++ [buildSubscribeIx args.subscriber args.plan args.tokenMint
    args.subscriberAta args.periodsToPrefund]

/-- `ResubscribeOrSubscribeArgs`. -/
structure ResubscribeOrSubscribeArgs where
  subscriber : Signer
  plan : Pubkey
  tokenMint : Pubkey
  subscriberAta : Pubkey
  periodsToPrefund : Int
  closeAlivePaySessions : Option Bool
  deriving DecidableEq, Repr

/-- An error of the fetch layer goes up as it is. -/
def fetched {α Error : Type} (wrap : AccountFetchError → Error) :
    Except AccountFetchError α → Except Error α
  | .ok value => .ok value
  | .error error => .error (wrap error)

/-- `resubscribeOrSubscribe` up to the instruction list. -/
def resubscribeOrSubscribe (rpc : Rpc) (args : ResubscribeOrSubscribeArgs) :
    Except ResubscribeError (List Instruction) := do
  let subscription := Pubkey.sub args.subscriber.key args.plan
  let existing ← fetched .fetch (fetchSubscription rpc subscription)
  let existingState := existing.map DecodedSubscription.state
  let wantClose := args.closeAlivePaySessions ≠ some false ∧ existingState = some .cancelled
  buildResubscribeIxs
    { subscriber := args.subscriber
      plan := args.plan
      tokenMint := args.tokenMint
      subscriberAta := args.subscriberAta
      periodsToPrefund := args.periodsToPrefund
      existingState
      alivePaySessions := if wantClose then findAlivePaySessions rpc subscription else [] }

/-! ## Change of rate -/

/-- `ChangeRateOptions`. -/
structure ChangeRateOptions where
  subscriber : Signer
  oldPlan : Pubkey
  newPlan : Pubkey
  newDepositPeriods : Int
  closeAlivePaySessions : Option Bool
  deriving DecidableEq, Repr

/-- `ChangeRateError`, with the errors that have no code. -/
inductive ChangeRateError where
  | newDepositPeriods (periods : Int)
  | fetch (error : AccountFetchError)
  | newPlanInactive (plan : Pubkey)
  | crossMintMigrationUnsupported (old new : Pubkey)
  | subscriberMismatch (opts actual : Pubkey)
  | tooManyAliveSessions (count : Nat)
  deriving DecidableEq, Repr

-- `getAssociatedTokenAddress` of `@solana/spl-token`, from a wallet and a mint.
variable (getAssociatedTokenAddress : Pubkey → Pubkey → Pubkey)

/-- The same-mint check; an absent old plan is tolerated. -/
def requireSameMint (newPlan : DecodedPlan) : Option DecodedPlan → Except ChangeRateError Unit
  | none => .ok ()
  | some oldPlan => require (oldPlan.tokenMint = newPlan.tokenMint)
      (.crossMintMigrationUnsupported oldPlan.tokenMint newPlan.tokenMint)

/-- `buildChangeRateTx` on an old subscription: what stands in front of the `subscribe`. -/
def buildLeaveIxs (rpc : Rpc) (opts : ChangeRateOptions) (newPlan : DecodedPlan)
    (oldSub : DecodedSubscription) : Except ChangeRateError (List Instruction) := do
  require (opts.subscriber.key = oldSub.subscriber)
    (.subscriberMismatch opts.subscriber.key oldSub.subscriber)
  require (oldSub.tokenMint = newPlan.tokenMint)
    (.crossMintMigrationUnsupported oldSub.tokenMint newPlan.tokenMint)
  let subscription := Pubkey.sub opts.subscriber.key opts.oldPlan
  let alivePaySessions := if opts.closeAlivePaySessions ≠ some false then
      findAlivePaySessions rpc subscription
    else []
  require (alivePaySessions.length ≤ maxAlivePaySessionsInComposite)
    (.tooManyAliveSessions alivePaySessions.length)
  return alivePaySessions.map (buildCloseSessionIx subscription opts.subscriber) ++
    [buildCancelIx opts.subscriber oldSub.subscriber subscription (.vault subscription)
        oldSub.merchantAta (getAssociatedTokenAddress opts.subscriber.key oldSub.tokenMint)
        oldSub.state,
      buildCleanupIx subscription opts.subscriber]

/-- The `subscribe` at the end.  After an old subscription it pays from that one's token
account. -/
def buildOpenIx (opts : ChangeRateOptions) (newPlan : DecodedPlan)
    (oldSub : Option DecodedSubscription) : Instruction :=
  let payMint := (oldSub.map DecodedSubscription.tokenMint).getD newPlan.tokenMint
  buildSubscribeIx opts.subscriber opts.newPlan newPlan.tokenMint
    (getAssociatedTokenAddress opts.subscriber.key payMint) opts.newDepositPeriods

/-- `buildChangeRateTx`: the instructions of the transaction. -/
def buildChangeRateTx (rpc : Rpc) (opts : ChangeRateOptions) :
    Except ChangeRateError (List Instruction) := do
  require (1 ≤ opts.newDepositPeriods ∧ opts.newDepositPeriods ≤ 255)
    (.newDepositPeriods opts.newDepositPeriods)
  let oldPlan ← fetched .fetch (fetchPlan rpc opts.oldPlan)
  let newPlan ← fetched .fetch (fetchPlan rpc opts.newPlan)
  let newPlan ← okOr newPlan (.newPlanInactive opts.newPlan)
  requireSameMint newPlan oldPlan
  let oldSub ← fetched .fetch
    (fetchSubscription rpc (.sub opts.subscriber.key opts.oldPlan))
  match oldSub with
  | none => return [buildOpenIx getAssociatedTokenAddress opts newPlan none]
  | some sub => do
      let leave ← buildLeaveIxs getAssociatedTokenAddress rpc opts newPlan sub
      return leave ++ [buildOpenIx getAssociatedTokenAddress opts newPlan (some sub)]

end Nakama.TypeScript
