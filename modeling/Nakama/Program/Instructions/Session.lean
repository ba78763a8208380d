import Nakama.Program.Streaming

/-!
# `open_session` and `close_session`

A subscriber delegates settlement to a facilitator and takes the delegation back.
-/

namespace Nakama

open Guard Ledger

/-- Accounts of `open_session`. -/
structure OpenSession where
  parent : Pubkey
  paySession : Pubkey
  subscriber : Signer
  deriving DecidableEq, Repr

def OpenSession.tryAccounts (accounts : OpenSession) (ledger : Ledger)
    (sessionId : UInt64) : Except Error (Subscription Pubkey) := do
  let parent ← ledger.loadSubscription accounts.parent
  seeds accounts.paySession (.paySession accounts.parent sessionId)
  ledger.vacant accounts.paySession
  ledger.seedsWithBump accounts.parent (.sub parent.subscriber parent.plan) parent.bump
  require (parent.subscriber = accounts.subscriber.key) (.nakama .unauthorizedOpenSession)
  return parent

/-- The session that `open_session` writes. -/
def OpenSession.newSession (accounts : OpenSession) (ledger : Ledger) (now : Int64)
    (parent : Subscription Pubkey) (sessionId : UInt64) (facilitator : Pubkey)
    (reservationCap : UInt64) : PaySession Pubkey where
  subscription := accounts.parent
  merchant := parent.merchant
  merchantAta := parent.merchantAta
  facilitator := facilitator
  sessionId := sessionId
  openedAt := now
  lastSettleAt := 0
  usageAmount := 0
  reservationCap := reservationCap
  state := PaySessionState.opened.toByte
  bump := ledger.bump accounts.paySession
  reserved := Reserved.zero

def openSessionHandler (ledger : Ledger) (now : Int64) (accounts : OpenSession)
    (parent : Subscription Pubkey) (sessionId : UInt64) (facilitator : Pubkey)
    (reservationCap : UInt64) : Except Error Outcome := do
  require (parent.state = .active) (.nakama .parentNotActive)
  let remaining ← okOr (Checked.subU64 parent.depositedAmount parent.withdrawnAmount)
    (.nakama .arithmeticOverflow)
  require (reservationCap = 0 ∨ reservationCap ≤ remaining)
    (.nakama .reservationCapExceedsEscrow)
  return {
    ledger := ledger.set accounts.paySession (.paySession
      (accounts.newSession ledger now parent sessionId facilitator reservationCap))
    transfers := []
    events := [.paySessionOpened accounts.paySession accounts.parent facilitator
      reservationCap now] }

/-- `open_session(session_id, facilitator, reservation_cap)`. -/
def openSession (ledger : Ledger) (now : Int64) (accounts : OpenSession)
    (sessionId : UInt64) (facilitator : Pubkey) (reservationCap : UInt64) :
    Except Error Outcome := do
  let parent ← accounts.tryAccounts ledger sessionId
  openSessionHandler ledger now accounts parent sessionId facilitator reservationCap

/-- Accounts of `close_session`. -/
structure CloseSession where
  parent : Pubkey
  paySession : Pubkey
  subscriber : Signer
  deriving DecidableEq, Repr

def CloseSession.tryAccounts (accounts : CloseSession) (ledger : Ledger) :
    Except Error (PaySession Pubkey) := do
  let parent ← ledger.loadSubscription accounts.parent
  let session ← ledger.loadPaySession accounts.paySession
  ledger.seedsWithBump accounts.parent (.sub parent.subscriber parent.plan) parent.bump
  require (parent.subscriber = accounts.subscriber.key) (.nakama .unauthorizedClose)
  ledger.seedsWithBump accounts.paySession (.paySession accounts.parent session.sessionId)
    session.bump
  require (session.subscription = accounts.parent) (.nakama .paySessionParentMismatch)
  return session

/-- There is no guard on the state of the parent. -/
def closeSessionHandler (ledger : Ledger) (now : Int64) (accounts : CloseSession)
    (session : PaySession Pubkey) : Except Error Outcome := do
  require (session.state = PaySessionState.opened.toByte) (.nakama .illegalStateForClose)
  return {
    ledger := ledger.close accounts.paySession
    transfers := []
    events := [.paySessionClosed accounts.paySession accounts.parent session.usageAmount
      accounts.subscriber.key now] }

/-- `close_session()`. -/
def closeSession (ledger : Ledger) (now : Int64) (accounts : CloseSession) :
    Except Error Outcome := do
  let session ← accounts.tryAccounts ledger
  closeSessionHandler ledger now accounts session

end Nakama
