import Nakama.Client.Composite
import Nakama.Client.Status
import Nakama.Program.Metas

/-!
# The facilitator's handlers

What the HTTP service of `nakama-x402-facilitator` computes between two of its awaits: the
bearer check, the two endpoints up to and after each answer of the RPC node, and the account
lists that it sends.  Strings that are compared are their UTF-8 bytes.
-/

namespace Nakama.Facilitator

open Guard

/-- What the Solana SDK computes for the service: base58 in both directions and the address
of an associated token account. -/
structure Sdk where
  fromStr : String → Except String Pubkey
  display : Pubkey → String
  getAssociatedTokenAddress : Pubkey → Pubkey → Pubkey

/-- `Config`, as far as the handlers read it. -/
structure Config where
  apiKey : Option (List UInt8)
  maxTopUpAmount : UInt64
  deriving DecidableEq, Repr

/-! ## Errors -/

/-- `ApiError`. -/
inductive ApiError where
  | badRequest (message : String)
  | notFound (message : String)
  | unauthorized
  | signingUnavailable
  | decode (error : ObservationError)
  | rpc (message : String)
  | internal (message : String)
  deriving DecidableEq, Repr

namespace ApiError

def code : ApiError → String
  | badRequest _ => "bad_request"
  | notFound _ => "not_found"
  | unauthorized => "unauthorized"
  | signingUnavailable => "signing_unavailable"
  | decode .wrongOwner | decode .wrongDiscriminator => "not_found"
  | decode _ => "decode_error"
  | rpc _ => "rpc_error"
  | internal _ => "internal_error"

def status : ApiError → Nat
  | badRequest _ => 400
  | notFound _ => 404
  | unauthorized => 401
  | signingUnavailable => 503
  -- No subscription of the program at this address: the caller sees no difference.
  | decode .wrongOwner | decode .wrongDiscriminator => 404
  | decode _ => 502
  | rpc _ => 502
  | internal _ => 500

end ApiError

/-- `?` on a decoder. -/
def decoded {α : Type} : Except ObservationError α → Except ApiError α
  | .ok value => .ok value
  | .error refusal => .error (.decode refusal)

theorem decoded_eq_ok {α : Type} {observed : Except ObservationError α} {value : α} :
    decoded observed = .ok value ↔ observed = .ok value := by
  cases observed <;> simp [decoded]

/-! ## Bearer check -/

/-- `HeaderValue::to_str`: visible ASCII and tabs only. -/
def headerToStr (header : List UInt8) : Option (List UInt8) :=
  if header.all fun byte => (32 ≤ byte ∧ byte < 127) ∨ byte = 9 then some header else none

/-- `"Bearer "`. -/
def bearerPrefix : List UInt8 := [66, 101, 97, 114, 101, 114, 32]

/-- `extract_bearer`. -/
def extractBearer (authorization : Option (List UInt8)) : Option (List UInt8) := do
  let header ← authorization
  let value ← headerToStr header
  let token ← bearerPrefix.isPrefixOf? value
  if token.isEmpty then none else some token

/-- `token_matches`. -/
def tokenMatches (expected presented : List UInt8) : Bool :=
  if expected.length ≠ presented.length then false else expected = presented

/-- `require_bearer`, in front of both protected routes. -/
def requireBearer (config : Config) (authorization : Option (List UInt8)) :
    Except ApiError Unit := do
  let expected ← okOr config.apiKey (.internal "api_key not configured")
  let presented ← okOr (extractBearer authorization) .unauthorized
  require (tokenMatches expected presented = true) .unauthorized

/-! ## `POST /subscriptions/{sub_pda}/top-up` -/

/-- A top-up that may go to the node.  It carries what was checked in front of it: the key
that signs is the loaded one, and the amount is within the cap. -/
structure Accepted (config : Config) (demoSubscriber : Option Signer) where
  subscription : Pubkey
  signer : Signer
  amount : UInt64
  loaded : demoSubscriber = some signer
  positive : amount ≠ 0
  capped : ¬config.maxTopUpAmount < amount
  deriving DecidableEq

section TopUp

variable (sdk : Sdk) (config : Config) (demoSubscriber : Option Signer)

/-- `top_up::handle` in front of its first await. -/
def acceptTopUp (path : String) (amount : UInt64) :
    Except ApiError (Accepted config demoSubscriber) :=
  match sdk.fromStr path with
  | .error refusal => .error (.badRequest ("sub_pda: " ++ refusal))
  | .ok subscription =>
      if positive : amount = 0 then
        .error (.badRequest "amount must be greater than zero")
      else if capped : config.maxTopUpAmount < amount then
        .error (.badRequest ("amount " ++ toString amount.toNat ++
          " exceeds configured max_top_up_amount (" ++
          toString config.maxTopUpAmount.toNat ++ ")"))
      else
        match demoSubscriber with
        | none => .error .signingUnavailable
        | some signer => .ok { subscription, signer, amount, loaded := rfl, positive, capped }

variable {sdk config demoSubscriber}

theorem acceptTopUp_eq_ok {path : String} {amount : UInt64}
    {accepted : Accepted config demoSubscriber}
    (accepts : acceptTopUp sdk config demoSubscriber path amount = .ok accepted) :
    sdk.fromStr path = .ok accepted.subscription ∧ accepted.amount = amount := by
  unfold acceptTopUp at accepts
  split at accepts
  next => cases accepts
  next subscription parsed =>
    split at accepts
    next => cases accepts
    next =>
      split at accepts
      next => cases accepts
      next =>
        split at accepts
        next => cases accepts
        next =>
          cases accepts
          exact ⟨parsed, rfl⟩

/-- The satellite slot of `build_top_up_metas`. -/
def gracedSlot (subscription : Pubkey) (state : SubscriptionStateByte) : Option Pubkey :=
  if state = .gracePeriod then some (.grace subscription) else none

end TopUp

/-- A top-up that is ready to be signed.  Only the satellite slot and the token account
depend on what the node answered. -/
structure Prepared (config : Config) (demoSubscriber : Option Signer) where
  accepted : Accepted config demoSubscriber
  gracedSubscription : Option Pubkey
  subscriberAta : Pubkey
  deriving DecidableEq

/-- The accounts of the instruction. -/
def Prepared.accounts {config : Config} {demoSubscriber : Option Signer}
    (prepared : Prepared config demoSubscriber) : TopUp where
  subscriber := prepared.accepted.signer
  subscription := prepared.accepted.subscription
  gracedSubscription := prepared.gracedSubscription
  vault := .vault prepared.accepted.subscription
  subscriberAta := prepared.subscriberAta

/-- `top_up::handle` after the answer to its account query. -/
def prepareTopUp (sdk : Sdk) {config : Config} {demoSubscriber : Option Signer}
    (accepted : Accepted config demoSubscriber) (answer : Option Account) :
    Except ApiError (Prepared config demoSubscriber) := do
  let account ← okOr answer
    (.notFound ("subscription account not found: " ++ sdk.display accepted.subscription))
  let sub ← decoded (SubscriptionView.observe account)
  require (accepted.signer.key = sub.subscriber)
    (.badRequest "loaded demo keypair does not match subscription.subscriber")
  return {
    accepted
    gracedSubscription := gracedSlot accepted.subscription sub.stateByte
    subscriberAta := sdk.getAssociatedTokenAddress accepted.signer.key sub.tokenMint }

theorem prepareTopUp_eq_ok {sdk : Sdk} {config : Config} {demoSubscriber : Option Signer}
    {accepted : Accepted config demoSubscriber} {answer : Option Account}
    {prepared : Prepared config demoSubscriber} :
    prepareTopUp sdk accepted answer = .ok prepared ↔
      ∃ sub, answer = some (.subscription sub) ∧ accepted.signer.key = sub.subscriber ∧
        prepared = {
          accepted
          gracedSubscription := gracedSlot accepted.subscription sub.seen.stateByte
          subscriberAta := sdk.getAssociatedTokenAddress accepted.signer.key sub.tokenMint } := by
  simp only [prepareTopUp, bind_eq_ok, okOr_eq_ok, require_eq_ok, exists_const,
    decoded_eq_ok, pure_eq_ok]
  constructor
  · rintro ⟨account, rfl, view, observed, signed, rfl⟩
    cases account with
    | subscription sub =>
        cases observed
        exact ⟨sub, rfl, signed, rfl⟩
    | _ => cases observed
  · rintro ⟨sub, rfl, signed, rfl⟩
    exact ⟨_, rfl, sub.seen, rfl, signed, rfl⟩

/-! ## `GET /subscriptions/{sub_pda}/computed-status` -/

/-- `GracedSubscriptionView::decode_owned` of an account that the ledger holds. -/
def observeGraced : Account → Except ObservationError (GracedSubscriptionView Pubkey)
  | .graced graced => .ok graced.seen
  | .token _ | .mint => .error .wrongOwner
  | _ => .error .wrongDiscriminator

/-- `computed_status::handle` after the first answer. -/
def readStatus (sdk : Sdk) (subscription : Pubkey) (answer : Option Account) :
    Except ApiError (SubscriptionView Pubkey) := do
  let account ← okOr answer
    (.notFound ("subscription account not found: " ++ sdk.display subscription))
  decoded (SubscriptionView.observe account)

/-- `computed_status::handle` after the second answer, at the time of the host clock. -/
def answerStatus (sub : SubscriptionView Pubkey) (answer : Option Account) (now : Int64) :
    Except ApiError Rust.ComputedStatus := do
  match answer with
  | none => return Rust.deriveStatus sub none now
  | some account =>
      let graced ← decoded (observeGraced account)
      return Rust.deriveStatus sub (some graced) now

/-! ## Account lists -/

open AccountMeta

/-- `build_top_up_metas`. -/
def buildTopUpMetas (subscriber : Signer) (subscription gracePda vault subscriberAta : Pubkey)
    (state : SubscriptionStateByte) : List AccountMeta :=
  let graced :=
    if state = .gracePeriod then writable gracePda else program .nakama
  [payer subscriber, writable subscription, graced, writable vault, writable subscriberAta,
    program .tokenProgram]

/-- `build_open_session_metas`. -/
def buildOpenSessionMetas (parent paySession : Pubkey) (subscriber : Signer) :
    List AccountMeta :=
  [readonly parent, writable paySession, payer subscriber, program .systemProgram]

/-- `build_close_session_metas`. -/
def buildCloseSessionMetas (parent paySession : Pubkey) (subscriber : Signer) :
    List AccountMeta :=
  [readonly parent, writable paySession, payer subscriber]

/-- `build_settle_usage_metas`. -/
def buildSettleUsageMetas (parent paySession vault merchantAta : Pubkey)
    (facilitator : Signer) : List AccountMeta :=
  [writable parent, writable paySession, writable vault, writable merchantAta,
    signer facilitator, program .tokenProgram]

/-- The lists for the sessions are the ones that the program declares. -/
theorem sessionMetas_declared (opening : OpenSession) (closing : CloseSession)
    (settling : SettleUsage) (sessionId reservationCap amount : UInt64)
    (facilitator : Pubkey) :
    buildOpenSessionMetas opening.parent opening.paySession opening.subscriber =
        (Instruction.openSession opening sessionId facilitator reservationCap).metas ∧
      buildCloseSessionMetas closing.parent closing.paySession closing.subscriber =
        (Instruction.closeSession closing).metas ∧
      buildSettleUsageMetas settling.parent settling.paySession settling.vault
          settling.merchantAta settling.facilitator =
        (Instruction.settleUsage settling amount).metas :=
  ⟨rfl, rfl, rfl⟩

/-- The list that `top_up::handle` sends is the one that the program declares. -/
theorem prepareTopUp_metas {sdk : Sdk} {config : Config} {demoSubscriber : Option Signer}
    {accepted : Accepted config demoSubscriber} {sub : Subscription Pubkey}
    {prepared : Prepared config demoSubscriber}
    (succeeds : prepareTopUp sdk accepted (some (.subscription sub)) = .ok prepared) :
    buildTopUpMetas accepted.signer accepted.subscription (.grace accepted.subscription)
        (.vault accepted.subscription) prepared.subscriberAta sub.seen.stateByte =
      (Instruction.topUp prepared.accounts accepted.amount).metas := by
  obtain ⟨_, answered, _, rfl⟩ := prepareTopUp_eq_ok.mp succeeds
  cases answered
  unfold buildTopUpMetas Instruction.metas gracedSlot
  split <;> rfl

end Nakama.Facilitator
