import Nakama.Program.Chain

/-!
# Account metas

The accounts of each instruction in the order of its `Accounts` struct, with the flags
that the struct asks for.  `mut`, `init` and `close` make an account writable.
-/

namespace Nakama

/-- An address in the account list of an instruction.  The programs and the sysvar hold no
data of the ledger; the address of this program stands for an absent optional account. -/
inductive Address where
  | account (key : Pubkey)
  | nakama
  | tokenProgram
  | systemProgram
  | rent
  deriving DecidableEq, Repr

/-- The account of the ledger at the address. -/
def Address.key? : Address → Option Pubkey
  | .account key => some key
  | _ => none

/-- One entry of the account list. -/
structure AccountMeta where
  address : Address
  isSigner : Bool
  isWritable : Bool
  deriving DecidableEq, Repr

namespace AccountMeta

/-- `Signer<'info>` with `mut`. -/
def payer (signer : Signer) : AccountMeta := ⟨.account signer.key, true, true⟩

/-- `Signer<'info>`. -/
def signer (signer : Signer) : AccountMeta := ⟨.account signer.key, true, false⟩

/-- An account with `mut` or `init`. -/
def writable (key : Pubkey) : AccountMeta := ⟨.account key, false, true⟩

/-- An account that is only read. -/
def readonly (key : Pubkey) : AccountMeta := ⟨.account key, false, false⟩

/-- A program or a sysvar. -/
def program (address : Address) : AccountMeta := ⟨address, false, false⟩

/-- `Option<Account<'info, T>>` with `mut` or `init`. -/
def optional : Option Pubkey → AccountMeta
  | some key => writable key
  | none => program .nakama

/-- The account of the ledger that is listed. -/
def key? (listed : AccountMeta) : Option Pubkey := listed.address.key?

@[simp] theorem key?_payer (signer : Signer) : (payer signer).key? = some signer.key := rfl

@[simp] theorem key?_signer (wallet : Signer) : (signer wallet).key? = some wallet.key := rfl

@[simp] theorem key?_writable (key : Pubkey) : (writable key).key? = some key := rfl

@[simp] theorem key?_readonly (key : Pubkey) : (readonly key).key? = some key := rfl

@[simp] theorem key?_program (address : Address) :
    (program address).key? = address.key? := rfl

@[simp] theorem key?_optional (slot : Option Pubkey) : (optional slot).key? = slot := by
  cases slot <;> rfl

@[simp] theorem isWritable_payer (signer : Signer) : (payer signer).isWritable = true := rfl

@[simp] theorem isWritable_signer (wallet : Signer) :
    (signer wallet).isWritable = false := rfl

@[simp] theorem isWritable_writable (key : Pubkey) : (writable key).isWritable = true := rfl

@[simp] theorem isWritable_readonly (key : Pubkey) :
    (readonly key).isWritable = false := rfl

@[simp] theorem isWritable_program (address : Address) :
    (program address).isWritable = false := rfl

@[simp] theorem isWritable_optional (slot : Option Pubkey) :
    (optional slot).isWritable = slot.isSome := by
  cases slot <;> rfl

end AccountMeta

open AccountMeta

/-- The account list of an instruction. -/
def Instruction.metas : Instruction → List AccountMeta
  | .createPlan accounts .. =>
      [payer accounts.merchant, writable accounts.plan, readonly accounts.tokenMint,
        readonly accounts.merchantAta, program .tokenProgram, program .systemProgram]
  | .subscribe accounts _ =>
      [payer accounts.subscriber, readonly accounts.plan, readonly accounts.tokenMint,
        writable accounts.subscription, writable accounts.vault,
        writable accounts.subscriberAta, program .tokenProgram, program .systemProgram,
        program .rent]
  | .charge accounts =>
      [writable accounts.subscription, readonly accounts.plan, writable accounts.vault,
        writable accounts.merchantAta, program .tokenProgram, payer accounts.payer,
        optional accounts.gracedSubscription, program .systemProgram]
  | .cancel accounts =>
      [signer accounts.signer, writable accounts.subscription, writable accounts.subscriber,
        writable accounts.vault, writable accounts.merchantAta,
        writable accounts.subscriberAta, program .tokenProgram,
        optional accounts.gracedSubscription, optional accounts.pausedSubscription]
  | .cleanup accounts => [writable accounts.subscription, payer accounts.subscriber]
  | .topUp accounts _ =>
      [payer accounts.subscriber, writable accounts.subscription,
        optional accounts.gracedSubscription, writable accounts.vault,
        writable accounts.subscriberAta, program .tokenProgram]
  | .openSession accounts .. =>
      [readonly accounts.parent, writable accounts.paySession, payer accounts.subscriber,
        program .systemProgram]
  | .closeSession accounts =>
      [readonly accounts.parent, writable accounts.paySession, payer accounts.subscriber]
  | .settleUsage accounts _ =>
      [writable accounts.parent, writable accounts.paySession, writable accounts.vault,
        writable accounts.merchantAta, signer accounts.facilitator, program .tokenProgram]
  | .pause accounts =>
      [writable accounts.subscription, writable accounts.pausedSatellite,
        payer accounts.merchant, program .systemProgram]
  | .resume accounts =>
      [writable accounts.subscription, writable accounts.pausedSatellite,
        payer accounts.merchant]

/-- The account list of an SPL Token instruction. -/
def SplInstruction.metas : SplInstruction → List AccountMeta
  | .transfer source destination authority _ =>
      [writable source, writable destination, signer authority]
  | .setOwner account authority _ => [writable account, signer authority]
  | .closeAccount account authority => [writable account, signer authority]
  | .createAccount account mint owner => [writable account, readonly mint, readonly owner]

/-- The account list of a transaction. -/
def Action.metas : Action → List AccountMeta
  | .program instruction => instruction.metas
  | .spl instruction => instruction.metas

namespace Action

/-- The accounts of the ledger that a transaction names. -/
def reads (action : Action) : List Pubkey :=
  action.metas.filterMap (·.key?)

/-- The accounts of the ledger that a transaction names as writable. -/
def writes (action : Action) : List Pubkey :=
  (action.metas.filter (·.isWritable)).filterMap (·.key?)

theorem mem_reads {action : Action} {key : Pubkey} :
    key ∈ action.reads ↔ ∃ listed ∈ action.metas, listed.key? = some key :=
  List.mem_filterMap

theorem mem_writes {action : Action} {key : Pubkey} :
    key ∈ action.writes ↔
      ∃ listed ∈ action.metas, listed.isWritable = true ∧ listed.key? = some key := by
  simp [writes, and_assoc]

theorem writes_subset_reads (action : Action) {key : Pubkey} (written : key ∈ action.writes) :
    key ∈ action.reads := by
  obtain ⟨listed, member, _, named⟩ := mem_writes.mp written
  exact mem_reads.mpr ⟨listed, member, named⟩

/-- The runtime runs the two transactions one after the other: an account that one of them
may write is an account of the other. -/
def Conflicts (first second : Action) : Prop :=
  (∃ key ∈ first.writes, key ∈ second.reads) ∨ ∃ key ∈ second.writes, key ∈ first.reads

instance (first second : Action) : Decidable (first.Conflicts second) :=
  inferInstanceAs (Decidable (_ ∨ _))

end Action

end Nakama
