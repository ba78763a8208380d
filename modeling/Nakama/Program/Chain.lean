import Nakama.Lib.Machine
import Nakama.Lib.Supply
import Nakama.Program.Instructions.Enrollment
import Nakama.Program.Instructions.Withdrawal
import Nakama.Program.Instructions.Session
import Nakama.Program.Instructions.Control
import Nakama.Program.Instructions.Termination

/-!
# The chain

The eleven instructions of the program, the SPL Token instructions that anyone may
send besides, and the machine that takes them one at a time under a clock.  A
failed transaction changes no account.
-/

namespace Nakama

open Guard

/-- The instructions of the program, with the accounts and arguments that the
caller passes. -/
inductive Instruction where
  | createPlan (accounts : CreatePlan) (planId price : UInt64) (period : Int64)
  | subscribe (accounts : Subscribe) (periodsToPrefund : UInt8)
  | charge (accounts : Charge)
  | cancel (accounts : Cancel)
  | cleanup (accounts : Cleanup)
  | topUp (accounts : TopUp) (amount : UInt64)
  | openSession (accounts : OpenSession) (sessionId : UInt64) (facilitator : Pubkey)
      (reservationCap : UInt64)
  | closeSession (accounts : CloseSession)
  | settleUsage (accounts : SettleUsage) (amount : UInt64)
  | pause (accounts : Pause)
  | resume (accounts : Resume)
  deriving DecidableEq, Repr

namespace Instruction

def execute (ledger : Ledger) (now : Int64) : Instruction → Except Error Outcome
  | .createPlan accounts planId price period =>
      Nakama.createPlan ledger now accounts planId price period
  | .subscribe accounts periodsToPrefund =>
      Nakama.subscribe ledger now accounts periodsToPrefund
  | .charge accounts => Nakama.charge ledger now accounts
  | .cancel accounts => Nakama.cancel ledger now accounts
  | .cleanup accounts => Nakama.cleanup ledger now accounts
  | .topUp accounts amount => Nakama.topUp ledger now accounts amount
  | .openSession accounts sessionId facilitator reservationCap =>
      Nakama.openSession ledger now accounts sessionId facilitator reservationCap
  | .closeSession accounts => Nakama.closeSession ledger now accounts
  | .settleUsage accounts amount => Nakama.settleUsage ledger now accounts amount
  | .pause accounts => Nakama.pause ledger now accounts
  | .resume accounts => Nakama.resume ledger now accounts

/-- The subscription that an instruction is about. -/
def subscription? : Instruction → Option Pubkey
  | .createPlan .. => none
  | .subscribe accounts _ => some accounts.subscription
  | .charge accounts => some accounts.subscription
  | .cancel accounts => some accounts.subscription
  | .cleanup accounts => some accounts.subscription
  | .topUp accounts _ => some accounts.subscription
  | .openSession accounts .. => some accounts.parent
  | .closeSession accounts => some accounts.parent
  | .settleUsage accounts _ => some accounts.parent
  | .pause accounts => some accounts.subscription
  | .resume accounts => some accounts.subscription

end Instruction

/-- SPL Token instructions that a wallet can send without this program. -/
inductive SplInstruction where
  | transfer (source destination : Pubkey) (authority : Signer) (amount : UInt64)
  | setOwner (account : Pubkey) (authority : Signer) (owner : Pubkey)
  | closeAccount (account : Pubkey) (authority : Signer)
  | createAccount (account mint owner : Pubkey)
  deriving DecidableEq, Repr

namespace SplInstruction

def execute (ledger : Ledger) : SplInstruction → Except Error Outcome
  | .transfer source destination authority amount => do
      let moved ← ledger.transfer source destination authority.key amount
      return {
        ledger := moved
        transfers := [⟨.foreign, source, destination, amount⟩]
        events := [] }
  | .setOwner account authority owner => do
      let changed ← ledger.setOwner account authority.key owner
      return { ledger := changed, transfers := [], events := [] }
  | .closeAccount account authority => do
      let closed ← ledger.closeToken account authority.key
      return { ledger := closed, transfers := [], events := [] }
  | .createAccount account mint owner => do
      let created ← ledger.createToken account mint owner
      return { ledger := created, transfers := [], events := [] }

end SplInstruction

/-- One step of the environment. -/
inductive Action where
  | program (instruction : Instruction)
  | spl (instruction : SplInstruction)
  deriving DecidableEq, Repr

def Action.execute (ledger : Ledger) (now : Int64) : Action → Except Error Outcome
  | .program instruction => instruction.execute ledger now
  | .spl instruction => instruction.execute ledger

/-- The action opens the subscription at `key`. -/
def Action.subscribes (key : Pubkey) : Action → Bool
  | .program (.subscribe accounts _) => accounts.subscription = key
  | _ => false

theorem Action.subscribes_eq_true {key : Pubkey} {action : Action} :
    action.subscribes key = true ↔ ∃ accounts periodsToPrefund,
      action = .program (.subscribe accounts periodsToPrefund) ∧
        accounts.subscription = key := by
  constructor
  · intro opens
    unfold Action.subscribes at opens
    split at opens
    next accounts periodsToPrefund =>
      exact ⟨accounts, periodsToPrefund, rfl, of_decide_eq_true opens⟩
    next => cases opens
  · rintro ⟨accounts, periodsToPrefund, rfl, target⟩
    exact decide_eq_true target

/-- A transaction with the clock it is executed at. -/
structure Tx where
  now : Int64
  action : Action
  deriving DecidableEq, Repr

/-- A transaction that succeeded. -/
structure Entry where
  tx : Tx
  transfers : List Transfer
  events : List Event
  deriving DecidableEq, Repr

/-- The ledger with its clock and, newest first, all that succeeded so far. -/
structure Chain where
  ledger : Ledger
  clock : Int64
  log : List Entry

namespace Chain

/-- Execute a transaction: it commits as a whole or not at all. -/
def step (chain : Chain) (tx : Tx) : Chain :=
  match tx.action.execute chain.ledger tx.now with
  | .ok outcome =>
      { ledger := outcome.ledger
        clock := tx.now
        log := ⟨tx, outcome.transfers, outcome.events⟩ :: chain.log }
  | .error _ => { chain with clock := tx.now }

/-- The transaction succeeds now. -/
def Succeeds (chain : Chain) (tx : Tx) : Prop :=
  ∃ outcome, tx.action.execute chain.ledger tx.now = .ok outcome

theorem succeeds_iff_isOk {chain : Chain} {tx : Tx} :
    (tx.action.execute chain.ledger tx.now).isOk = true ↔ chain.Succeeds tx := by
  unfold Succeeds
  cases tx.action.execute chain.ledger tx.now with
  | error refusal => simp [Except.isOk, Except.toBool]
  | ok outcome => simp [Except.isOk, Except.toBool]

instance (chain : Chain) (tx : Tx) : Decidable (chain.Succeeds tx) :=
  decidable_of_iff _ succeeds_iff_isOk

/-- Before the program ran there are only token accounts and mints, nothing is at an
address that it derives, and no mint has issued more than a `u64` of units. -/
structure Genesis (chain : Chain) : Prop where
  log : chain.log = []
  outside : ∀ key account, chain.ledger.account key = some account →
    key.isExternal = true ∧ account.isSpl = true
  supply : ∀ mint, Supply.Fits (2 ^ 64) (chain.ledger.held mint)

theorem step_of_ok {chain : Chain} {tx : Tx} {outcome : Outcome}
    (executed : tx.action.execute chain.ledger tx.now = .ok outcome) :
    chain.step tx =
      { ledger := outcome.ledger
        clock := tx.now
        log := ⟨tx, outcome.transfers, outcome.events⟩ :: chain.log } := by
  simp [step, executed]

theorem step_of_error {chain : Chain} {tx : Tx} {error : Error}
    (refused : tx.action.execute chain.ledger tx.now = .error error) :
    chain.step tx = { chain with clock := tx.now } := by
  simp [step, refused]

@[simp] theorem step_clock (chain : Chain) (tx : Tx) : (chain.step tx).clock = tx.now := by
  unfold step
  split <;> rfl

end Chain

/-- The program in any environment whose clock does not run backwards. -/
def machine : Machine Chain Tx where
  initial := Chain.Genesis
  allows chain tx := chain.clock.toInt ≤ tx.now.toInt
  step := Chain.step

instance (chain : Chain) (tx : Tx) : Decidable (machine.allows chain tx) :=
  inferInstanceAs (Decidable (chain.clock.toInt ≤ tx.now.toInt))

/-- Transactions in clock order are a run, whatever they do. -/
theorem allowsRun_of_clocks {chain : Chain} {txs : List Tx}
    (ordered : (chain.clock :: txs.map Tx.now).Pairwise (·.toInt ≤ ·.toInt)) :
    machine.AllowsRun chain txs := by
  induction txs generalizing chain with
  | nil => trivial
  | cons tx txs ih =>
      rw [List.map_cons, List.pairwise_cons] at ordered
      refine ⟨ordered.1 tx.now (by simp), ih ?_⟩
      rw [show (machine.step chain tx).clock = tx.now from Chain.step_clock chain tx]
      exact ordered.2

/-! ## A small chain

One merchant, one subscriber and one stranger, for the concrete runs below. -/

namespace Sample

def merchant : Signer := ⟨.external 1, rfl⟩

def subscriber : Signer := ⟨.external 2, rfl⟩

def stranger : Signer := ⟨.external 3, rfl⟩

def merchantAta : Pubkey := .external 11

def subscriberAta : Pubkey := .external 12

def strangerAta : Pubkey := .external 13

def planKey : Pubkey := .plan merchant.key 7

def subKey : Pubkey := .sub subscriber.key planKey

/-- The subscriber owns 1000 units, the stranger 10. -/
def genesis : Chain where
  ledger :=
    { account := fun
        | .external 0 => some .mint
        | .external 11 => some (.token ⟨usdcMint, merchant.key, 0⟩)
        | .external 12 => some (.token ⟨usdcMint, subscriber.key, 1000⟩)
        | .external 13 => some (.token ⟨usdcMint, stranger.key, 10⟩)
        | _ => none
      bump := fun _ => 255 }
  clock := 0
  log := []

def createPlanTx : Tx :=
  ⟨0, .program (.createPlan ⟨merchant, planKey, usdcMint, merchantAta⟩ 7 100 10)⟩

def subscribeTx (now : Int64) : Tx :=
  ⟨now, .program (.subscribe
    ⟨subscriber, planKey, usdcMint, subKey, .vault subKey, subscriberAta⟩ 2)⟩

def chargeTx (now : Int64) (graced : Option Pubkey) : Tx :=
  ⟨now, .program (.charge ⟨subKey, planKey, .vault subKey, merchantAta, stranger, graced⟩)⟩

def topUpTx (now : Int64) (graced : Option Pubkey) (amount : UInt64) : Tx :=
  ⟨now, .program (.topUp ⟨subscriber, subKey, graced, .vault subKey, subscriberAta⟩ amount)⟩

def pauseTx (now : Int64) : Tx :=
  ⟨now, .program (.pause ⟨subKey, .pausedSub subKey, merchant⟩)⟩

def resumeTx (now : Int64) : Tx :=
  ⟨now, .program (.resume ⟨subKey, .pausedSub subKey, merchant⟩)⟩

def cancelAccounts (graced paused : Option Pubkey) : Cancel :=
  ⟨subscriber, subKey, subscriber.key, .vault subKey, merchantAta, subscriberAta, graced,
    paused⟩

def cancelTx (now : Int64) (graced paused : Option Pubkey) : Tx :=
  ⟨now, .program (.cancel (cancelAccounts graced paused))⟩

def cleanupTx (now : Int64) : Tx :=
  ⟨now, .program (.cleanup ⟨subKey, subscriber⟩)⟩

def openSessionTx (now : Int64) : Tx :=
  ⟨now, .program (.openSession ⟨subKey, .paySession subKey 1, subscriber⟩ 1 stranger.key 0)⟩

def settleUsageTx (now : Int64) (amount : UInt64) : Tx :=
  ⟨now, .program (.settleUsage
    ⟨subKey, .paySession subKey 1, .vault subKey, merchantAta, stranger⟩ amount)⟩

def donateTx (now : Int64) (amount : UInt64) : Tx :=
  ⟨now, .spl (.transfer strangerAta (.vault subKey) stranger amount)⟩

theorem genesis_isGenesis : genesis.Genesis := by
  constructor
  · rfl
  · intro key account found
    simp only [genesis] at found
    split at found <;> cases found <;> exact ⟨rfl, rfl⟩
  · intro mint
    have bounded : Supply.Fits (2 ^ 64) (fun key : Pubkey =>
        if key = subscriberAta then 1000 else if key = strangerAta then 10 else 0) := by
      apply Supply.Fits.of_support {subscriberAta, strangerAta}
      · decide
      · intro key absent
        simp only [Finset.mem_insert, Finset.mem_singleton, not_or] at absent
        simp [absent]
    apply bounded.mono
    intro key
    simp only [Ledger.held, genesis]
    split
    next token found =>
      split at found <;> cases found <;>
        split <;> simp [subscriberAta, strangerAta]
    next => exact Nat.zero_le _

end Sample

open Sample in
/-- The plan of the sample subscription. -/
def samplePlan : Plan Pubkey :=
  ⟨merchant.key, 7, 100, 10, usdcMint, merchantAta, 255, Reserved.zero⟩

end Nakama
