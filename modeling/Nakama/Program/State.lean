import Mathlib.Tactic.Common

/-!
# On-chain data model

Keys, account layouts, events and constants of the program, in the field order of
`state.rs`.  The layouts are generic in the type of keys: the ledger stores them
over the symbolic keys below, a byte codec over 32-byte ones.
-/

namespace Nakama

/-- Account addresses.  A key derived by this program is the seeds it was derived
from, one constructor for each seed constant, so that derivation is injective and
no derived key is a wallet.  Every other address is `external`: wallets, mints,
token accounts, keys of other programs. -/
inductive Pubkey where
  | external (index : Nat)
  | plan (merchant : Pubkey) (planId : UInt64)
  | sub (subscriber plan : Pubkey)
  | vault (subscription : Pubkey)
  | grace (subscription : Pubkey)
  | pausedSub (subscription : Pubkey)
  | paySession (subscription : Pubkey) (sessionId : UInt64)
  deriving DecidableEq, Repr

namespace Pubkey

/-- The key is not derived by this program. -/
def isExternal : Pubkey → Bool
  | .external _ => true
  | _ => false

@[simp] theorem isExternal_external (index : Nat) : isExternal (.external index) = true := rfl

@[simp] theorem isExternal_vault (subscription : Pubkey) :
    isExternal (.vault subscription) = false := rfl

@[simp] theorem isExternal_sub (subscriber plan : Pubkey) :
    isExternal (.sub subscriber plan) = false := rfl

end Pubkey

/-- A key that signed the transaction.  Derived keys have no private key, so the
runtime never presents one as a signer of an instruction. -/
structure Signer where
  key : Pubkey
  signs : key.isExternal = true
  deriving DecidableEq, Repr

/-- Grace period duration: 7 days in seconds. -/
def graceDuration : Int64 := 7 * 24 * 60 * 60

/-- The whitelisted payment mint. -/
def usdcMint : Pubkey := .external 0

/-- The 32 forward-compatibility bytes at the end of a layout. -/
abbrev Reserved := Vector UInt8 32

/-- `[0u8; 32]`. -/
def Reserved.zero : Reserved := Vector.replicate 32 0

/-- Subscription FSM state. -/
inductive SubscriptionState where
  | active
  | paused
  | gracePeriod
  | exhausted
  | cancelled
  deriving DecidableEq, Repr

/-- PaySession FSM state. -/
inductive PaySessionState where
  | opened
  | settling
  | closed
  deriving DecidableEq, Repr

/-- The discriminant stored in the `state: u8` field of a session. -/
def PaySessionState.toByte : PaySessionState → UInt8
  | .opened => 0
  | .settling => 1
  | .closed => 2

/-- Plan account: a merchant-owned subscription template. -/
structure Plan (Key : Type) where
  merchant : Key
  planId : UInt64
  price : UInt64
  period : Int64
  tokenMint : Key
  merchantAta : Key
  bump : UInt8
  reserved : Reserved
  deriving DecidableEq, Repr

/-- Subscription account, one for each subscriber and plan. -/
structure Subscription (Key : Type) where
  nextChargeAt : Int64
  subscriber : Key
  plan : Key
  price : UInt64
  period : Int64
  tokenMint : Key
  merchant : Key
  merchantAta : Key
  state : SubscriptionState
  bump : UInt8
  vaultBump : UInt8
  createdAt : Int64
  lastChargeAt : Int64
  depositedAmount : UInt64
  withdrawnAmount : UInt64
  ratePerSecond : UInt64
  streamStart : Int64
  reserved : Reserved
  deriving DecidableEq, Repr

/-- Satellite of a subscription in grace. -/
structure GracedSubscription (Key : Type) where
  subscription : Key
  enteredGraceAt : Int64
  graceUntil : Int64
  deriving DecidableEq, Repr

/-- Satellite of a paused subscription. -/
structure PausedSubscription (Key : Type) where
  subscription : Key
  pausedAt : Int64
  bump : UInt8
  deriving DecidableEq, Repr

/-- Satellite ledger of one x402 micropayment session. -/
structure PaySession (Key : Type) where
  subscription : Key
  merchant : Key
  merchantAta : Key
  facilitator : Key
  sessionId : UInt64
  openedAt : Int64
  lastSettleAt : Int64
  usageAmount : UInt64
  reservationCap : UInt64
  state : UInt8
  bump : UInt8
  reserved : Reserved
  deriving DecidableEq, Repr

/-- SPL token account, as far as classic SPL Token and the constraints of the
program read it. -/
structure TokenAccount where
  mint : Pubkey
  owner : Pubkey
  amount : UInt64
  deriving DecidableEq, Repr

/-- Events emitted by the handlers. -/
inductive Event where
  | planCreated (plan merchant : Pubkey) (planId price : UInt64) (period timestamp : Int64)
  | subscriptionStarted (subscription subscriber plan : Pubkey)
      (depositedAmount ratePerSecond : UInt64) (streamStart : Int64)
  | subscriptionCancelled (subscription subscriber plan merchant cancelledBy : Pubkey)
      (finalSettled refunded : UInt64) (hadPausedSatellite hadGracedSatellite : Bool)
      (timestamp : Int64)
  | subscriptionCharged (subscription : Pubkey) (amount withdrawnTotal : UInt64)
      (timestamp : Int64)
  | subscriptionCleaned (subscription rentReturnedTo : Pubkey) (timestamp : Int64)
  | graceEntered (subscription : Pubkey) (enteredGraceAt graceUntil : Int64)
  | graceRecovered (subscription : Pubkey) (topUpAmount newDeposited : UInt64)
  | paySessionOpened (paySession subscription facilitator : Pubkey)
      (reservationCap : UInt64) (timestamp : Int64)
  | usageSettled (paySession subscription : Pubkey) (amount cumulativeUsage : UInt64)
      (timestamp : Int64)
  | paySessionClosed (paySession subscription : Pubkey) (finalUsage : UInt64)
      (rentReturnedTo : Pubkey) (timestamp : Int64)
  | subscriptionPaused (subscription : Pubkey) (pausedAt : Int64) (unlockedAtPause : UInt64)
  | subscriptionResumed (subscription : Pubkey)
      (resumedAt pauseDuration newStreamStart : Int64)
  deriving DecidableEq, Repr

end Nakama
