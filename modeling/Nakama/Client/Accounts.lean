import Nakama.Lib.Borsh
import Nakama.Lib.Guard
import Nakama.Program.State

/-!
# Account layouts

The bytes that the program writes, in the field order of `state.rs`, the views of the
off-chain client, in the field order of `accounts.rs`, and the decoder in front of them.
The two descriptions are maintained by hand on both sides and are kept apart here.
-/

namespace Nakama

open Guard

/-- An address as its 32 bytes. -/
abbrev KeyBytes := Vector UInt8 32

/-- The 8-byte tag in front of every account. -/
abbrev Discriminator := Vector UInt8 8

/-- The `repr(u8)` discriminant of a subscription state. -/
def SubscriptionState.toByte : SubscriptionState → UInt8
  | .active => 0
  | .paused => 1
  | .gracePeriod => 2
  | .exhausted => 3
  | .cancelled => 4

/-! ## What the program writes -/

section Written

open Borsh

/-- `Pubkey`. -/
def keyLayout : Borsh KeyBytes := array 32

def Plan.serialize (plan : Plan KeyBytes) : List UInt8 :=
  keyLayout.serialize plan.merchant ++ u64.serialize plan.planId ++
    u64.serialize plan.price ++ i64.serialize plan.period ++
    keyLayout.serialize plan.tokenMint ++ keyLayout.serialize plan.merchantAta ++
    u8.serialize plan.bump ++ (array 32).serialize plan.reserved

def Subscription.serialize (sub : Subscription KeyBytes) : List UInt8 :=
  i64.serialize sub.nextChargeAt ++ keyLayout.serialize sub.subscriber ++
    keyLayout.serialize sub.plan ++ u64.serialize sub.price ++ i64.serialize sub.period ++
    keyLayout.serialize sub.tokenMint ++ keyLayout.serialize sub.merchant ++
    keyLayout.serialize sub.merchantAta ++ u8.serialize sub.state.toByte ++
    u8.serialize sub.bump ++ u8.serialize sub.vaultBump ++ i64.serialize sub.createdAt ++
    i64.serialize sub.lastChargeAt ++ u64.serialize sub.depositedAmount ++
    u64.serialize sub.withdrawnAmount ++ u64.serialize sub.ratePerSecond ++
    i64.serialize sub.streamStart ++ (array 32).serialize sub.reserved

def GracedSubscription.serialize (graced : GracedSubscription KeyBytes) : List UInt8 :=
  keyLayout.serialize graced.subscription ++ i64.serialize graced.enteredGraceAt ++
    i64.serialize graced.graceUntil

def PausedSubscription.serialize (paused : PausedSubscription KeyBytes) : List UInt8 :=
  keyLayout.serialize paused.subscription ++ i64.serialize paused.pausedAt ++
    u8.serialize paused.bump

def PaySession.serialize (session : PaySession KeyBytes) : List UInt8 :=
  keyLayout.serialize session.subscription ++ keyLayout.serialize session.merchant ++
    keyLayout.serialize session.merchantAta ++ keyLayout.serialize session.facilitator ++
    u64.serialize session.sessionId ++ i64.serialize session.openedAt ++
    i64.serialize session.lastSettleAt ++ u64.serialize session.usageAmount ++
    u64.serialize session.reservationCap ++ u8.serialize session.state ++
    u8.serialize session.bump ++ (array 32).serialize session.reserved

end Written

/-! ## The views of the client -/

/-- `SubscriptionStateByte`. -/
inductive SubscriptionStateByte where
  | active
  | paused
  | gracePeriod
  | exhausted
  | cancelled
  | unknown (byte : UInt8)
  deriving DecidableEq, Repr

/-- `impl From<u8> for SubscriptionStateByte`. -/
def SubscriptionStateByte.ofByte (byte : UInt8) : SubscriptionStateByte :=
  if byte = 0 then .active
  else if byte = 1 then .paused
  else if byte = 2 then .gracePeriod
  else if byte = 3 then .exhausted
  else if byte = 4 then .cancelled
  else .unknown byte

/-- `SubscriptionView`.  The state is the raw byte. -/
structure SubscriptionView (Key : Type) where
  nextChargeAt : Int64
  subscriber : Key
  plan : Key
  price : UInt64
  period : Int64
  tokenMint : Key
  merchant : Key
  merchantAta : Key
  state : UInt8
  bump : UInt8
  vaultBump : UInt8
  createdAt : Int64
  lastChargeAt : Int64
  depositedAmount : UInt64
  withdrawnAmount : UInt64
  ratePerSecond : UInt64
  streamStart : Int64
  reserved : Reserved
  deriving DecidableEq, Repr

/-- `GracedSubscriptionView`. -/
structure GracedSubscriptionView (Key : Type) where
  subscription : Key
  enteredGraceAt : Int64
  graceUntil : Int64
  deriving DecidableEq, Repr

/-- `PausedSubscriptionView`. -/
structure PausedSubscriptionView (Key : Type) where
  subscription : Key
  pausedAt : Int64
  bump : UInt8
  deriving DecidableEq, Repr

/-- `PlanView`. -/
structure PlanView (Key : Type) where
  merchant : Key
  planId : UInt64
  price : UInt64
  period : Int64
  tokenMint : Key
  merchantAta : Key
  bump : UInt8
  reserved : Reserved
  deriving DecidableEq, Repr

/-- `PaySessionView`.  The state is the raw byte. -/
structure PaySessionView (Key : Type) where
  subscription : Key
  merchant : Key
  merchantAta : Key
  facilitator : Key
  sessionId : UInt64
  openedAt : Int64
  lastSettleAt : Int64
  usageAmount : UInt64
  reservationCap : UInt64
  state : UInt8
  bump : UInt8
  reserved : Reserved
  deriving DecidableEq, Repr

/-- `state_byte()`. -/
def SubscriptionView.stateByte {Key : Type} (view : SubscriptionView Key) :
    SubscriptionStateByte :=
  .ofByte view.state

section Seen

variable {Key : Type}

/-- The field values of an account as its view holds them. -/
def Plan.seen (plan : Plan Key) : PlanView Key where
  merchant := plan.merchant
  planId := plan.planId
  price := plan.price
  period := plan.period
  tokenMint := plan.tokenMint
  merchantAta := plan.merchantAta
  bump := plan.bump
  reserved := plan.reserved

@[inherit_doc Plan.seen]
def Subscription.seen (sub : Subscription Key) : SubscriptionView Key where
  nextChargeAt := sub.nextChargeAt
  subscriber := sub.subscriber
  plan := sub.plan
  price := sub.price
  period := sub.period
  tokenMint := sub.tokenMint
  merchant := sub.merchant
  merchantAta := sub.merchantAta
  state := sub.state.toByte
  bump := sub.bump
  vaultBump := sub.vaultBump
  createdAt := sub.createdAt
  lastChargeAt := sub.lastChargeAt
  depositedAmount := sub.depositedAmount
  withdrawnAmount := sub.withdrawnAmount
  ratePerSecond := sub.ratePerSecond
  streamStart := sub.streamStart
  reserved := sub.reserved

@[inherit_doc Plan.seen]
def GracedSubscription.seen (graced : GracedSubscription Key) :
    GracedSubscriptionView Key where
  subscription := graced.subscription
  enteredGraceAt := graced.enteredGraceAt
  graceUntil := graced.graceUntil

@[inherit_doc Plan.seen]
def PausedSubscription.seen (paused : PausedSubscription Key) :
    PausedSubscriptionView Key where
  subscription := paused.subscription
  pausedAt := paused.pausedAt
  bump := paused.bump

@[inherit_doc Plan.seen]
def PaySession.seen (session : PaySession Key) : PaySessionView Key where
  subscription := session.subscription
  merchant := session.merchant
  merchantAta := session.merchantAta
  facilitator := session.facilitator
  sessionId := session.sessionId
  openedAt := session.openedAt
  lastSettleAt := session.lastSettleAt
  usageAmount := session.usageAmount
  reservationCap := session.reservationCap
  state := session.state
  bump := session.bump
  reserved := session.reserved

/-- The state byte of an account that the program wrote is a known one. -/
theorem Subscription.seen_stateByte (sub : Subscription Key) :
    sub.seen.stateByte = match sub.state with
      | .active => .active
      | .paused => .paused
      | .gracePeriod => .gracePeriod
      | .exhausted => .exhausted
      | .cancelled => .cancelled := by
  change SubscriptionStateByte.ofByte sub.state.toByte = _
  cases sub.state <;> rfl

end Seen

/-! ## The derived `BorshDeserialize` of the views -/

section Layouts

open Borsh

def SubscriptionView.layout : Borsh (SubscriptionView KeyBytes) :=
  (i64.pair (keyLayout.pair (keyLayout.pair (u64.pair (i64.pair (keyLayout.pair
    (keyLayout.pair (keyLayout.pair (u8.pair (u8.pair (u8.pair (i64.pair (i64.pair
    (u64.pair (u64.pair (u64.pair (i64.pair (array 32)))))))))))))))))).map
    (fun ⟨nextChargeAt, subscriber, plan, price, period, tokenMint, merchant, merchantAta,
        state, bump, vaultBump, createdAt, lastChargeAt, depositedAmount, withdrawnAmount,
        ratePerSecond, streamStart, reserved⟩ =>
      ⟨nextChargeAt, subscriber, plan, price, period, tokenMint, merchant, merchantAta,
        state, bump, vaultBump, createdAt, lastChargeAt, depositedAmount, withdrawnAmount,
        ratePerSecond, streamStart, reserved⟩)
    (fun view =>
      (view.nextChargeAt, view.subscriber, view.plan, view.price, view.period,
        view.tokenMint, view.merchant, view.merchantAta, view.state, view.bump,
        view.vaultBump, view.createdAt, view.lastChargeAt, view.depositedAmount,
        view.withdrawnAmount, view.ratePerSecond, view.streamStart, view.reserved))
    (fun _ => rfl) (fun _ => rfl)

def GracedSubscriptionView.layout : Borsh (GracedSubscriptionView KeyBytes) :=
  (keyLayout.pair (i64.pair i64)).map
    (fun ⟨subscription, enteredGraceAt, graceUntil⟩ =>
      ⟨subscription, enteredGraceAt, graceUntil⟩)
    (fun view => (view.subscription, view.enteredGraceAt, view.graceUntil))
    (fun _ => rfl) (fun _ => rfl)

def PausedSubscriptionView.layout : Borsh (PausedSubscriptionView KeyBytes) :=
  (keyLayout.pair (i64.pair u8)).map
    (fun ⟨subscription, pausedAt, bump⟩ => ⟨subscription, pausedAt, bump⟩)
    (fun view => (view.subscription, view.pausedAt, view.bump))
    (fun _ => rfl) (fun _ => rfl)

def PlanView.layout : Borsh (PlanView KeyBytes) :=
  (keyLayout.pair (u64.pair (u64.pair (i64.pair (keyLayout.pair (keyLayout.pair
    (u8.pair (array 32)))))))).map
    (fun ⟨merchant, planId, price, period, tokenMint, merchantAta, bump, reserved⟩ =>
      ⟨merchant, planId, price, period, tokenMint, merchantAta, bump, reserved⟩)
    (fun view => (view.merchant, view.planId, view.price, view.period, view.tokenMint,
      view.merchantAta, view.bump, view.reserved))
    (fun _ => rfl) (fun _ => rfl)

def PaySessionView.layout : Borsh (PaySessionView KeyBytes) :=
  (keyLayout.pair (keyLayout.pair (keyLayout.pair (keyLayout.pair (u64.pair (i64.pair
    (i64.pair (u64.pair (u64.pair (u8.pair (u8.pair (array 32)))))))))))).map
    (fun ⟨subscription, merchant, merchantAta, facilitator, sessionId, openedAt,
        lastSettleAt, usageAmount, reservationCap, state, bump, reserved⟩ =>
      ⟨subscription, merchant, merchantAta, facilitator, sessionId, openedAt, lastSettleAt,
        usageAmount, reservationCap, state, bump, reserved⟩)
    (fun view => (view.subscription, view.merchant, view.merchantAta, view.facilitator,
      view.sessionId, view.openedAt, view.lastSettleAt, view.usageAmount,
      view.reservationCap, view.state, view.bump, view.reserved))
    (fun _ => rfl) (fun _ => rfl)

end Layouts

/-! ## Decoding -/

/-- An account as RPC returns it, as far as the decoder reads it. -/
structure RawAccount where
  owner : KeyBytes
  data : List UInt8
  deriving DecidableEq, Repr

/-- `AccountDecodeError`. -/
inductive AccountDecodeError where
  | tooShort
  | wrongOwner (expected actual : KeyBytes)
  | wrongDiscriminator (expected actual : List UInt8)
  | borsh
  deriving DecidableEq, Repr

/-- `compute_account_discriminator`: the first 8 bytes of the hash of `account:<Name>`. -/
def computeAccountDiscriminator (sha256 : List UInt8 → Vector UInt8 32) (name : String) :
    Discriminator :=
  Vector.ofFn fun i : Fin 8 =>
    (sha256 ("account:" ++ name).toUTF8.data.toList)[i.val]

/-- `decode_program_owned`. -/
def decodeProgramOwned {α : Type} (layout : Borsh α) (account : RawAccount)
    (expectedOwner : KeyBytes) (expectedDiscriminator : Discriminator) :
    Except AccountDecodeError α := do
  require (account.owner = expectedOwner) (.wrongOwner expectedOwner account.owner)
  require (8 ≤ account.data.length) .tooShort
  let actual := account.data.take 8
  require (actual = expectedDiscriminator.toList)
    (.wrongDiscriminator expectedDiscriminator.toList actual)
  okOr (layout.tryFromSlice (account.data.drop 8)) .borsh

/-- `strip_discriminator`. -/
def stripDiscriminator (data : List UInt8) : Except AccountDecodeError (List UInt8) := do
  require (8 ≤ data.length) .tooShort
  return data.drop 8

section Decoders

variable (sha256 : List UInt8 → Vector UInt8 32)

def SubscriptionView.discriminator : Discriminator :=
  computeAccountDiscriminator sha256 "Subscription"

def GracedSubscriptionView.discriminator : Discriminator :=
  computeAccountDiscriminator sha256 "GracedSubscription"

def PausedSubscriptionView.discriminator : Discriminator :=
  computeAccountDiscriminator sha256 "PausedSubscription"

def PlanView.discriminator : Discriminator :=
  computeAccountDiscriminator sha256 "Plan"

def PaySessionView.discriminator : Discriminator :=
  computeAccountDiscriminator sha256 "PaySession"

def SubscriptionView.decodeOwned (account : RawAccount) (programId : KeyBytes) :
    Except AccountDecodeError (SubscriptionView KeyBytes) :=
  decodeProgramOwned layout account programId (discriminator sha256)

def GracedSubscriptionView.decodeOwned (account : RawAccount) (programId : KeyBytes) :
    Except AccountDecodeError (GracedSubscriptionView KeyBytes) :=
  decodeProgramOwned layout account programId (discriminator sha256)

def PausedSubscriptionView.decodeOwned (account : RawAccount) (programId : KeyBytes) :
    Except AccountDecodeError (PausedSubscriptionView KeyBytes) :=
  decodeProgramOwned layout account programId (discriminator sha256)

def PlanView.decodeOwned (account : RawAccount) (programId : KeyBytes) :
    Except AccountDecodeError (PlanView KeyBytes) :=
  decodeProgramOwned layout account programId (discriminator sha256)

def PaySessionView.decodeOwned (account : RawAccount) (programId : KeyBytes) :
    Except AccountDecodeError (PaySessionView KeyBytes) :=
  decodeProgramOwned layout account programId (discriminator sha256)

end Decoders

/-- `PaySessionView::try_decode`. -/
def PaySessionView.tryDecode (data : List UInt8) :
    Except AccountDecodeError (PaySessionView KeyBytes) := do
  let body ← stripDiscriminator data
  okOr (layout.tryFromSlice body) .borsh

/-- Decoding accepts exactly the accounts of the owner that are the tag followed by the
bytes of a value, and returns that value. -/
theorem decodeProgramOwned_eq_ok {α : Type} {layout : Borsh α} {account : RawAccount}
    {owner : KeyBytes} {tag : Discriminator} {value : α} :
    decodeProgramOwned layout account owner tag = .ok value ↔
      account.owner = owner ∧ account.data = tag.toList ++ layout.serialize value := by
  simp only [decodeProgramOwned, bind_eq_ok, require_eq_ok, exists_const, okOr_eq_ok,
    Borsh.tryFromSlice_eq_some]
  constructor
  · rintro ⟨owned, _, tagged, body⟩
    refine ⟨owned, ?_⟩
    rw [← tagged, ← body, List.take_append_drop]
  · rintro ⟨owned, data⟩
    have eight : tag.toList.length = 8 := tag.length_toList
    refine ⟨owned, ?_, ?_, ?_⟩
    · rw [data, List.length_append]
      omega
    · rw [data, List.take_left' eight]
    · rw [data, List.drop_left' eight]

/-- Decoding succeeds exactly on the owner, the tag and the length. -/
theorem exists_decodeProgramOwned {α : Type} {layout : Borsh α} {account : RawAccount}
    {owner : KeyBytes} {tag : Discriminator} :
    (∃ value, decodeProgramOwned layout account owner tag = .ok value) ↔
      account.owner = owner ∧ account.data.take 8 = tag.toList ∧
        account.data.length = 8 + layout.size := by
  have eight : tag.toList.length = 8 := tag.length_toList
  constructor
  · rintro ⟨value, decoded⟩
    obtain ⟨owned, data⟩ := decodeProgramOwned_eq_ok.mp decoded
    refine ⟨owned, ?_, ?_⟩
    · rw [data, List.take_left' eight]
    · rw [data, List.length_append, eight, layout.width]
  · rintro ⟨owned, tagged, length⟩
    have body : (account.data.drop 8).length = layout.size := by
      rw [List.length_drop]
      omega
    obtain ⟨value, read⟩ := layout.exists_tryFromSlice.mpr body
    refine ⟨value, decodeProgramOwned_eq_ok.mpr ⟨owned, ?_⟩⟩
    rw [← layout.tryFromSlice_eq_some.mp read, ← tagged, List.take_append_drop]

end Nakama
