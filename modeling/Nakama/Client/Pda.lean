import Nakama.Client.Accounts

/-!
# Derived addresses

The seeds of the six kinds of accounts as the program, the Rust client and the TypeScript
client write them, each maintained by hand, and the addresses as bytes that they stand for.
-/

namespace Nakama

/-! ## Seed constants -/

/-- `PLAN_SEED`. -/
def planSeed : List UInt8 := "plan".toUTF8.data.toList

/-- `SUB_SEED`. -/
def subSeed : List UInt8 := "sub".toUTF8.data.toList

/-- `VAULT_SEED`. -/
def vaultSeed : List UInt8 := "vault".toUTF8.data.toList

/-- `GRACE_SEED`. -/
def graceSeed : List UInt8 := "grace".toUTF8.data.toList

/-- `PAUSED_SUB_SEED`. -/
def pausedSubSeed : List UInt8 := "paused_sub".toUTF8.data.toList

/-- `PAY_SESSION_SEED`. -/
def paySessionSeed : List UInt8 := "pay_session".toUTF8.data.toList

/-- A value of `seeds = […]`. -/
abbrev Seeds := List (List UInt8)

/-- `to_le_bytes` of a `u64`. -/
def toLeBytes (value : UInt64) : List UInt8 := Borsh.u64.serialize value

/-- `seeds = […]` in the `Accounts` structs, from the bytes of the keys in it. -/
def Pubkey.seeds (bytes : Pubkey → KeyBytes) : Pubkey → Option Seeds
  | .external _ => none
  | .plan merchant planId => some [planSeed, (bytes merchant).toList, toLeBytes planId]
  | .sub subscriber planKey =>
      some [subSeed, (bytes subscriber).toList, (bytes planKey).toList]
  | .vault subscription => some [vaultSeed, (bytes subscription).toList]
  | .grace subscription => some [graceSeed, (bytes subscription).toList]
  | .pausedSub subscription => some [pausedSubSeed, (bytes subscription).toList]
  | .paySession subscription sessionId =>
      some [paySessionSeed, (bytes subscription).toList, toLeBytes sessionId]

section Derivation

-- `find_program_address` of the Solana SDK: the address and the bump.
variable (findProgramAddress : Seeds → KeyBytes → KeyBytes × UInt8)

/-! ## The Rust client -/

section

variable (programId : KeyBytes)

/-- `derive_subscription_pda`. -/
def deriveSubscriptionPda (subscriber plan : KeyBytes) : KeyBytes × UInt8 :=
  findProgramAddress [subSeed, subscriber.toList, plan.toList] programId

/-- `derive_vault_pda`. -/
def deriveVaultPda (subscription : KeyBytes) : KeyBytes × UInt8 :=
  findProgramAddress [vaultSeed, subscription.toList] programId

/-- `derive_grace_pda`. -/
def deriveGracePda (subscription : KeyBytes) : KeyBytes × UInt8 :=
  findProgramAddress [graceSeed, subscription.toList] programId

/-- `derive_paused_sub_pda`. -/
def derivePausedSubPda (subscription : KeyBytes) : KeyBytes × UInt8 :=
  findProgramAddress [pausedSubSeed, subscription.toList] programId

/-- `derive_pay_session_pda`. -/
def derivePaySessionPda (subscription : KeyBytes) (sessionId : UInt64) : KeyBytes × UInt8 :=
  findProgramAddress [paySessionSeed, subscription.toList, toLeBytes sessionId] programId

/-! ## The TypeScript client -/

namespace TypeScript

/-- `derivePlanPda`. -/
def derivePlanPda (merchant : KeyBytes) (planId : UInt64) : KeyBytes × UInt8 :=
  findProgramAddress [planSeed, merchant.toList, toLeBytes planId] programId

/-- `deriveSubscriptionPda`. -/
def deriveSubscriptionPda (subscriber plan : KeyBytes) : KeyBytes × UInt8 :=
  findProgramAddress [subSeed, subscriber.toList, plan.toList] programId

/-- `deriveVaultPda`. -/
def deriveVaultPda (subscription : KeyBytes) : KeyBytes × UInt8 :=
  findProgramAddress [vaultSeed, subscription.toList] programId

/-- `deriveGracedSubscriptionPda`. -/
def deriveGracedSubscriptionPda (subscription : KeyBytes) : KeyBytes × UInt8 :=
  findProgramAddress [graceSeed, subscription.toList] programId

/-- `derivePausedSubscriptionPda`. -/
def derivePausedSubscriptionPda (subscription : KeyBytes) : KeyBytes × UInt8 :=
  findProgramAddress [pausedSubSeed, subscription.toList] programId

/-- `derivePaySessionPda`. -/
def derivePaySessionPda (subscription : KeyBytes) (sessionId : UInt64) : KeyBytes × UInt8 :=
  findProgramAddress [paySessionSeed, subscription.toList, toLeBytes sessionId] programId

end TypeScript

end

/-! ## Addresses as bytes -/

/-- The 32 bytes of an address, from those of the wallets. -/
def Pubkey.address (programId : KeyBytes) (wallet : Nat → KeyBytes) : Pubkey → KeyBytes
  | .external index => wallet index
  | .plan merchant planId =>
      (TypeScript.derivePlanPda findProgramAddress programId
        (merchant.address programId wallet) planId).1
  | .sub subscriber planKey =>
      (deriveSubscriptionPda findProgramAddress programId
        (subscriber.address programId wallet) (planKey.address programId wallet)).1
  | .vault subscription =>
      (deriveVaultPda findProgramAddress programId (subscription.address programId wallet)).1
  | .grace subscription =>
      (deriveGracePda findProgramAddress programId (subscription.address programId wallet)).1
  | .pausedSub subscription =>
      (derivePausedSubPda findProgramAddress programId
        (subscription.address programId wallet)).1
  | .paySession subscription sessionId =>
      (derivePaySessionPda findProgramAddress programId
        (subscription.address programId wallet) sessionId).1

/-- The same with the functions of the TypeScript client. -/
def TypeScript.address (programId : KeyBytes) (wallet : Nat → KeyBytes) : Pubkey → KeyBytes
  | .external index => wallet index
  | .plan merchant planId =>
      (derivePlanPda findProgramAddress programId
        (address programId wallet merchant) planId).1
  | .sub subscriber planKey =>
      (deriveSubscriptionPda findProgramAddress programId
        (address programId wallet subscriber) (address programId wallet planKey)).1
  | .vault subscription =>
      (deriveVaultPda findProgramAddress programId (address programId wallet subscription)).1
  | .grace subscription =>
      (deriveGracedSubscriptionPda findProgramAddress programId
        (address programId wallet subscription)).1
  | .pausedSub subscription =>
      (derivePausedSubscriptionPda findProgramAddress programId
        (address programId wallet subscription)).1
  | .paySession subscription sessionId =>
      (derivePaySessionPda findProgramAddress programId
        (address programId wallet subscription) sessionId).1

end Derivation

end Nakama
