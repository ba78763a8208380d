import Nakama.Lib.Footprint
import Nakama.Program.Metas
import Nakama.Refinement.Effect

/-!
# Locality

The outcome of a transaction is decided by the accounts that it names, and only those
that it names as writable change.  Every transaction is thus a footprint transaction over
the accounts of the ledger.
-/

namespace Nakama

open Guard

/-- The ledgers derive the same bumps and hold the same at the addresses. -/
structure Ledger.Agree (keys : List Pubkey) (left right : Ledger) : Prop where
  bump : left.bump = right.bump
  account : ∀ key ∈ keys, left.account key = right.account key

/-- The outcomes differ at most at addresses outside the list. -/
structure Outcome.Agree (keys : List Pubkey) (left right : Outcome) : Prop where
  ledger : Ledger.Agree keys left.ledger right.ledger
  transfers : left.transfers = right.transfers
  events : left.events = right.events

namespace Ledger.Agree

variable {keys : List Pubkey} {left right : Ledger}

/-! ## Reading -/

section Reading

variable (agree : Ledger.Agree keys left right) {key : Pubkey} (listed : key ∈ keys)

include agree listed

theorem load {α : Type} (decode : Account → Option α) (expectSpl : Bool) :
    Ledger.load decode expectSpl left key = Ledger.load decode expectSpl right key := by
  unfold Ledger.load
  rw [agree.account key listed]

theorem loadPlan : left.loadPlan key = right.loadPlan key :=
  agree.load listed Account.asPlan false

theorem loadSubscription : left.loadSubscription key = right.loadSubscription key :=
  agree.load listed Account.asSubscription false

theorem loadGraced : left.loadGraced key = right.loadGraced key :=
  agree.load listed Account.asGraced false

theorem loadPaused : left.loadPaused key = right.loadPaused key :=
  agree.load listed Account.asPaused false

theorem loadPaySession : left.loadPaySession key = right.loadPaySession key :=
  agree.load listed Account.asPaySession false

theorem loadToken : left.loadToken key = right.loadToken key :=
  agree.load listed Account.asToken true

theorem loadMint : left.loadMint key = right.loadMint key :=
  agree.load listed Account.asMint true

theorem vacant : left.vacant key = right.vacant key := by
  unfold Ledger.vacant
  rw [agree.account key listed]

end Reading

theorem seedsWithBump (agree : Ledger.Agree keys left right) :
    left.seedsWithBump = right.seedsWithBump := by
  funext key derived stored
  unfold Ledger.seedsWithBump
  rw [agree.bump]

theorem loadOptional {α : Type} {loader : Ledger → Pubkey → Except Error α}
    {key : Option Pubkey} (same : ∀ address, key = some address →
      loader left address = loader right address) :
    left.loadOptional loader key = right.loadOptional loader key := by
  cases key with
  | none => rfl
  | some address => rw [Ledger.loadOptional, Ledger.loadOptional, same address rfl]

theorem vacantIfSome (agree : Ledger.Agree keys left right) {key : Option Pubkey}
    (listed : ∀ address, key = some address → address ∈ keys) :
    left.vacantIfSome key = right.vacantIfSome key := by
  cases key with
  | none => rfl
  | some address => exact agree.vacant (listed address rfl)

/-! ## Writing -/

theorem set (agree : Ledger.Agree keys left right) (key : Pubkey) (account : Account) :
    Ledger.Agree keys (left.set key account) (right.set key account) := by
  refine ⟨agree.bump, fun query listed => ?_⟩
  rw [set_account, set_account, agree.account query listed]

theorem close (agree : Ledger.Agree keys left right) (key : Pubkey) :
    Ledger.Agree keys (left.close key) (right.close key) := by
  refine ⟨agree.bump, fun query listed => ?_⟩
  rw [close_account, close_account, agree.account query listed]

theorem closeIfSome (agree : Ledger.Agree keys left right) (key : Option Pubkey) :
    Ledger.Agree keys (left.closeIfSome key) (right.closeIfSome key) := by
  cases key with
  | none => exact agree
  | some key => exact agree.close key

theorem transfer (agree : Ledger.Agree keys left right) {source destination : Pubkey}
    (sourceListed : source ∈ keys) (destinationListed : destination ∈ keys)
    (authority : Pubkey) (amount : UInt64) :
    Related (Ledger.Agree keys) (left.transfer source destination authority amount)
      (right.transfer source destination authority amount) := by
  unfold Ledger.transfer
  rw [agree.loadToken sourceListed, agree.loadToken destinationListed]
  refine .bind_same _ fun sourceToken => .bind_same _ fun destinationToken => ?_
  refine .bind_same _ fun _ => .bind_same _ fun _ => .bind_same _ fun _ => ?_
  split
  · exact .succeeded agree
  · refine .bind_same _ fun credited => .succeeded ?_
    exact (agree.set _ _).set _ _

theorem transferIfPositive (agree : Ledger.Agree keys left right)
    {source destination : Pubkey} (sourceListed : source ∈ keys)
    (destinationListed : destination ∈ keys) (authority : Pubkey) (amount : UInt64) :
    Related (Ledger.Agree keys) (Nakama.transferIfPositive left source destination authority
      amount) (Nakama.transferIfPositive right source destination authority amount) := by
  unfold Nakama.transferIfPositive
  split
  · exact agree.transfer sourceListed destinationListed authority amount
  · exact .succeeded agree

theorem closeToken (agree : Ledger.Agree keys left right) {key : Pubkey} (listed : key ∈ keys)
    (authority : Pubkey) :
    Related (Ledger.Agree keys) (left.closeToken key authority)
      (right.closeToken key authority) := by
  unfold Ledger.closeToken
  rw [agree.loadToken listed]
  refine .bind_same _ fun token => .bind_same _ fun _ => .bind_same _ fun _ => ?_
  exact .succeeded (agree.close key)

theorem setOwner (agree : Ledger.Agree keys left right) {key : Pubkey} (listed : key ∈ keys)
    (authority owner : Pubkey) :
    Related (Ledger.Agree keys) (left.setOwner key authority owner)
      (right.setOwner key authority owner) := by
  unfold Ledger.setOwner
  rw [agree.loadToken listed]
  refine .bind_same _ fun token => .bind_same _ fun _ => ?_
  exact .succeeded (agree.set key _)

theorem createToken (agree : Ledger.Agree keys left right) {key mint : Pubkey}
    (listed : key ∈ keys) (mintListed : mint ∈ keys) (owner : Pubkey) :
    Related (Ledger.Agree keys) (left.createToken key mint owner)
      (right.createToken key mint owner) := by
  unfold Ledger.createToken
  rw [agree.vacant listed, agree.loadMint mintListed]
  refine .bind_same _ fun _ => .bind_same _ fun _ => .bind_same _ fun _ => ?_
  exact .succeeded (agree.set key _)

end Ledger.Agree

/-! ## What decides the outcome -/

section Depends

variable {keys : List Pubkey} {left right : Ledger}

theorem createPlan_depends (agree : Ledger.Agree keys left right) (now : Int64)
    (accounts : CreatePlan) (planId price : UInt64) (period : Int64)
    (listed : accounts.tokenMint ∈ keys ∧ accounts.merchantAta ∈ keys ∧ accounts.plan ∈ keys) :
    Related (Outcome.Agree keys) (createPlan left now accounts planId price period)
      (createPlan right now accounts planId price period) := by
  obtain ⟨mintListed, ataListed, planListed⟩ := listed
  unfold createPlan CreatePlan.tryAccounts createPlanHandler
  rw [agree.loadMint mintListed, agree.loadToken ataListed, agree.vacant planListed]
  refine .bind_same _ fun _ => .bind_same _ fun _ => .bind_same _ fun _ => ?_
  unfold CreatePlan.newPlan
  rw [agree.bump]
  exact .succeeded ⟨agree.set _ _, rfl, rfl⟩

theorem subscribe_depends (agree : Ledger.Agree keys left right) (now : Int64)
    (accounts : Subscribe) (periodsToPrefund : UInt8)
    (listed : accounts.plan ∈ keys ∧ accounts.tokenMint ∈ keys ∧
      accounts.subscription ∈ keys ∧ accounts.vault ∈ keys ∧ accounts.subscriberAta ∈ keys) :
    Related (Outcome.Agree keys) (subscribe left now accounts periodsToPrefund)
      (subscribe right now accounts periodsToPrefund) := by
  obtain ⟨planListed, mintListed, subListed, vaultListed, ataListed⟩ := listed
  unfold subscribe Subscribe.tryAccounts subscribeHandler
  rw [agree.loadPlan planListed, agree.loadMint mintListed, agree.loadToken ataListed,
    agree.vacant subListed, agree.vacant vaultListed, agree.seedsWithBump]
  refine .bind_same _ fun plan => ?_
  refine .bind_same _ fun _ => .bind_same _ fun _ => .bind_same _ fun _ => ?_
  refine .bind_same _ fun rate => .bind_same _ fun _ => .bind_same _ fun deposited => ?_
  refine ((agree.set _ _).transfer ataListed vaultListed _ _).bind fun _ _ funded => ?_
  refine .bind_same _ fun nextChargeAt => ?_
  unfold Subscribe.newSubscription
  rw [agree.bump]
  exact .succeeded ⟨funded.set _ _, rfl, rfl⟩

theorem chargeTail_depends (agree : Ledger.Agree keys left right) (now : Int64)
    (accounts : Charge) (charged : Subscription Pubkey) :
    Related (fun one other => Ledger.Agree keys one.1 other.1 ∧ one.2 = other.2)
      (chargeTail left now accounts charged) (chargeTail right now accounts charged) := by
  unfold chargeTail
  split
  · refine .bind_same _ fun graceUntil => .bind_same _ fun graceKey => ?_
    exact .succeeded ⟨(agree.set _ _).set _ _, rfl⟩
  · exact .bind_same _ fun _ => .succeeded ⟨agree.set _ _, rfl⟩

theorem charge_depends (agree : Ledger.Agree keys left right) (now : Int64)
    (accounts : Charge)
    (listed : accounts.subscription ∈ keys ∧ accounts.plan ∈ keys ∧ accounts.vault ∈ keys ∧
      accounts.merchantAta ∈ keys ∧
      ∀ key, accounts.gracedSubscription = some key → key ∈ keys) :
    Related (Outcome.Agree keys) (charge left now accounts) (charge right now accounts) := by
  obtain ⟨subListed, planListed, vaultListed, ataListed, slotListed⟩ := listed
  unfold charge Charge.tryAccounts chargeHandler
  rw [agree.loadSubscription subListed, agree.loadPlan planListed,
    agree.loadToken vaultListed, agree.loadToken ataListed, agree.vacantIfSome slotListed,
    agree.seedsWithBump]
  refine .bind_same _ fun sub => ?_
  refine .bind_same _ fun _ => .bind_same _ fun _ => .bind_same _ fun _ => ?_
  refine .bind_same _ fun unlocked => .bind_same _ fun claimable => .bind_same _ fun _ => ?_
  refine (agree.transfer vaultListed ataListed _ _).bind fun _ _ paid => ?_
  refine .bind_same _ fun withdrawn => .bind_same _ fun hint => ?_
  refine (chargeTail_depends paid _ _ _).bind ?_
  rintro ⟨one, events⟩ ⟨other, _⟩ ⟨final, rfl⟩
  exact .succeeded ⟨final, rfl, rfl⟩

theorem settleUsage_depends (agree : Ledger.Agree keys left right) (now : Int64)
    (accounts : SettleUsage) (amount : UInt64)
    (listed : accounts.parent ∈ keys ∧ accounts.paySession ∈ keys ∧ accounts.vault ∈ keys ∧
      accounts.merchantAta ∈ keys) :
    Related (Outcome.Agree keys) (settleUsage left now accounts amount)
      (settleUsage right now accounts amount) := by
  obtain ⟨parentListed, sessionListed, vaultListed, ataListed⟩ := listed
  unfold settleUsage SettleUsage.tryAccounts settleUsageHandler
  rw [agree.loadSubscription parentListed, agree.loadPaySession sessionListed,
    agree.loadToken vaultListed, agree.loadToken ataListed, agree.seedsWithBump]
  refine .bind_same _ fun (parent, session) => ?_
  refine .bind_same _ fun _ => .bind_same _ fun _ => .bind_same _ fun _ => ?_
  refine .bind_same _ fun _ => .bind_same _ fun _ => .bind_same _ fun _ => ?_
  refine .bind_same _ fun unlocked => .bind_same _ fun remaining => .bind_same _ fun _ => ?_
  refine (agree.transfer vaultListed ataListed _ _).bind fun _ _ paid => ?_
  refine .bind_same _ fun withdrawn => .bind_same _ fun usage => ?_
  exact .succeeded ⟨(paid.set _ _).set _ _, rfl, rfl⟩

theorem openSession_depends (agree : Ledger.Agree keys left right) (now : Int64)
    (accounts : OpenSession) (sessionId : UInt64) (facilitator : Pubkey)
    (reservationCap : UInt64)
    (listed : accounts.parent ∈ keys ∧ accounts.paySession ∈ keys) :
    Related (Outcome.Agree keys)
      (openSession left now accounts sessionId facilitator reservationCap)
      (openSession right now accounts sessionId facilitator reservationCap) := by
  obtain ⟨parentListed, sessionListed⟩ := listed
  unfold openSession OpenSession.tryAccounts openSessionHandler
  rw [agree.loadSubscription parentListed, agree.vacant sessionListed, agree.seedsWithBump]
  refine .bind_same _ fun parent => .bind_same _ fun _ => ?_
  refine .bind_same _ fun remaining => .bind_same _ fun _ => ?_
  unfold OpenSession.newSession
  rw [agree.bump]
  exact .succeeded ⟨agree.set _ _, rfl, rfl⟩

theorem closeSession_depends (agree : Ledger.Agree keys left right) (now : Int64)
    (accounts : CloseSession)
    (listed : accounts.parent ∈ keys ∧ accounts.paySession ∈ keys) :
    Related (Outcome.Agree keys) (closeSession left now accounts)
      (closeSession right now accounts) := by
  obtain ⟨parentListed, sessionListed⟩ := listed
  unfold closeSession CloseSession.tryAccounts closeSessionHandler
  rw [agree.loadSubscription parentListed, agree.loadPaySession sessionListed,
    agree.seedsWithBump]
  refine .bind_same _ fun session => .bind_same _ fun _ => ?_
  exact .succeeded ⟨agree.close _, rfl, rfl⟩

theorem topUp_depends (agree : Ledger.Agree keys left right) (now : Int64)
    (accounts : TopUp) (amount : UInt64)
    (listed : accounts.subscription ∈ keys ∧ accounts.vault ∈ keys ∧
      accounts.subscriberAta ∈ keys ∧
      ∀ key, accounts.gracedSubscription = some key → key ∈ keys) :
    Related (Outcome.Agree keys) (topUp left now accounts amount)
      (topUp right now accounts amount) := by
  obtain ⟨subListed, vaultListed, ataListed, slotListed⟩ := listed
  unfold topUp TopUp.tryAccounts topUpHandler
  rw [agree.loadSubscription subListed,
    Ledger.Agree.loadOptional fun key slot => agree.loadGraced (slotListed key slot),
    agree.loadToken vaultListed, agree.loadToken ataListed, agree.seedsWithBump]
  refine .bind_same _ fun (sub, graced) => ?_
  refine .bind_same _ fun _ => .bind_same _ fun _ => .bind_same _ fun _ => ?_
  refine (agree.transfer ataListed vaultListed _ _).bind fun _ _ funded => ?_
  refine .bind_same _ fun deposited => .bind_same _ fun (final, events) => ?_
  exact .succeeded ⟨(funded.set _ _).closeIfSome _, rfl, rfl⟩

theorem pause_depends (agree : Ledger.Agree keys left right) (now : Int64)
    (accounts : Pause)
    (listed : accounts.subscription ∈ keys ∧ accounts.pausedSatellite ∈ keys) :
    Related (Outcome.Agree keys) (pause left now accounts) (pause right now accounts) := by
  obtain ⟨subListed, satelliteListed⟩ := listed
  unfold pause Pause.tryAccounts pauseHandler
  rw [agree.loadSubscription subListed, agree.vacant satelliteListed, agree.seedsWithBump]
  refine .bind_same _ fun sub => ?_
  refine .bind_same _ fun _ => .bind_same _ fun _ => .bind_same _ fun _ => ?_
  refine .bind_same _ fun unlocked => ?_
  rw [agree.bump]
  exact .succeeded ⟨(agree.set _ _).set _ _, rfl, rfl⟩

theorem resume_depends (agree : Ledger.Agree keys left right) (now : Int64)
    (accounts : Resume)
    (listed : accounts.subscription ∈ keys ∧ accounts.pausedSatellite ∈ keys) :
    Related (Outcome.Agree keys) (resume left now accounts) (resume right now accounts) := by
  obtain ⟨subListed, satelliteListed⟩ := listed
  unfold resume Resume.tryAccounts resumeHandler
  rw [agree.loadSubscription subListed, agree.loadPaused satelliteListed,
    agree.seedsWithBump]
  refine .bind_same _ fun (sub, paused) => .bind_same _ fun _ => .bind_same _ fun _ => ?_
  refine .bind_same _ fun duration => .bind_same _ fun streamStart => ?_
  exact .succeeded ⟨(agree.set _ _).close _, rfl, rfl⟩

theorem cancel_depends (agree : Ledger.Agree keys left right) (now : Int64)
    (accounts : Cancel)
    (listed : accounts.subscription ∈ keys ∧ accounts.vault ∈ keys ∧
      accounts.merchantAta ∈ keys ∧ accounts.subscriberAta ∈ keys)
    (slots : (∀ key, accounts.gracedSubscription = some key → key ∈ keys) ∧
      ∀ key, accounts.pausedSubscription = some key → key ∈ keys) :
    Related (Outcome.Agree keys) (cancel left now accounts) (cancel right now accounts) := by
  obtain ⟨subListed, vaultListed, ataListed, refundListed⟩ := listed
  unfold cancel Cancel.tryAccounts cancelHandler
  rw [agree.loadSubscription subListed, agree.loadToken vaultListed,
    agree.loadToken ataListed, agree.loadToken refundListed,
    Ledger.Agree.loadOptional fun key slot => agree.loadGraced (slots.1 key slot),
    Ledger.Agree.loadOptional fun key slot => agree.loadPaused (slots.2 key slot),
    agree.seedsWithBump]
  refine .bind_same _ fun loaded => ?_
  refine .bind_same _ fun _ => .bind_same _ fun _ => .bind_same _ fun _ => ?_
  refine .bind_same _ fun _ => .bind_same _ fun moment => .bind_same _ fun _ => ?_
  refine .bind_same _ fun unlocked => .bind_same _ fun claimable => ?_
  refine .bind_same _ fun refund => ?_
  refine (agree.transferIfPositive vaultListed ataListed _ _).bind fun _ _ settled => ?_
  refine (settled.transferIfPositive vaultListed refundListed _ _).bind fun _ _ refunded => ?_
  refine .bind_same _ fun withdrawn => ?_
  refine (refunded.closeToken vaultListed _).bind fun _ _ closed => ?_
  exact .succeeded ⟨((closed.set _ _).closeIfSome _).closeIfSome _, rfl, rfl⟩

theorem cleanup_depends (agree : Ledger.Agree keys left right) (now : Int64)
    (accounts : Cleanup) (listed : accounts.subscription ∈ keys) :
    Related (Outcome.Agree keys) (cleanup left now accounts)
      (cleanup right now accounts) := by
  unfold cleanup Cleanup.tryAccounts cleanupHandler
  rw [agree.loadSubscription listed, agree.seedsWithBump]
  refine .bind_same _ fun sub => .bind_same _ fun _ => ?_
  exact .succeeded ⟨agree.close _, rfl, rfl⟩

/-- The outcome of an instruction is decided by the accounts it names. -/
theorem instruction_depends (instruction : Instruction) (now : Int64)
    (listed : ∀ key ∈ (Action.program instruction).reads, key ∈ keys)
    (agree : Ledger.Agree keys left right) :
    Related (Outcome.Agree keys) (instruction.execute left now)
      (instruction.execute right now) := by
  simp only [Action.mem_reads, Action.metas] at listed
  cases instruction with
  | createPlan accounts planId price period =>
      refine createPlan_depends agree now accounts planId price period ⟨?_, ?_, ?_⟩ <;>
        exact listed _ (by simp [Instruction.metas])
  | subscribe accounts periodsToPrefund =>
      refine subscribe_depends agree now accounts periodsToPrefund ⟨?_, ?_, ?_, ?_, ?_⟩ <;>
        exact listed _ (by simp [Instruction.metas])
  | charge accounts =>
      refine charge_depends agree now accounts ⟨?_, ?_, ?_, ?_, fun key slot => ?_⟩ <;>
        exact listed _ (by simp [Instruction.metas, *])
  | cancel accounts =>
      refine cancel_depends agree now accounts ⟨?_, ?_, ?_, ?_⟩
        ⟨fun key slot => ?_, fun key slot => ?_⟩ <;>
        exact listed _ (by simp [Instruction.metas, *])
  | cleanup accounts =>
      exact cleanup_depends agree now accounts (listed _ (by simp [Instruction.metas]))
  | topUp accounts amount =>
      refine topUp_depends agree now accounts amount ⟨?_, ?_, ?_, fun key slot => ?_⟩ <;>
        exact listed _ (by simp [Instruction.metas, *])
  | openSession accounts sessionId facilitator reservationCap =>
      refine openSession_depends agree now accounts sessionId facilitator reservationCap
        ⟨?_, ?_⟩ <;>
        exact listed _ (by simp [Instruction.metas])
  | closeSession accounts =>
      refine closeSession_depends agree now accounts ⟨?_, ?_⟩ <;>
        exact listed _ (by simp [Instruction.metas])
  | settleUsage accounts amount =>
      refine settleUsage_depends agree now accounts amount ⟨?_, ?_, ?_, ?_⟩ <;>
        exact listed _ (by simp [Instruction.metas])
  | pause accounts =>
      refine pause_depends agree now accounts ⟨?_, ?_⟩ <;>
        exact listed _ (by simp [Instruction.metas])
  | resume accounts =>
      refine resume_depends agree now accounts ⟨?_, ?_⟩ <;>
        exact listed _ (by simp [Instruction.metas])

theorem spl_depends (instruction : SplInstruction)
    (listed : ∀ key ∈ (Action.spl instruction).reads, key ∈ keys)
    (agree : Ledger.Agree keys left right) :
    Related (Outcome.Agree keys) (instruction.execute left) (instruction.execute right) := by
  simp only [Action.mem_reads, Action.metas] at listed
  cases instruction with
  | transfer source destination authority amount =>
      have sourceListed := listed source (by simp [SplInstruction.metas])
      have destinationListed := listed destination (by simp [SplInstruction.metas])
      refine (agree.transfer sourceListed destinationListed _ _).bind fun _ _ moved => ?_
      exact .succeeded ⟨moved, rfl, rfl⟩
  | setOwner account authority owner =>
      have accountListed := listed account (by simp [SplInstruction.metas])
      refine (agree.setOwner accountListed _ _).bind fun _ _ changed => ?_
      exact .succeeded ⟨changed, rfl, rfl⟩
  | closeAccount account authority =>
      have accountListed := listed account (by simp [SplInstruction.metas])
      refine (agree.closeToken accountListed _).bind fun _ _ closed => ?_
      exact .succeeded ⟨closed, rfl, rfl⟩
  | createAccount account mint owner =>
      have accountListed := listed account (by simp [SplInstruction.metas])
      have mintListed := listed mint (by simp [SplInstruction.metas])
      refine (agree.createToken accountListed mintListed _).bind fun _ _ created => ?_
      exact .succeeded ⟨created, rfl, rfl⟩

/-- The outcome of a transaction is decided by the accounts it names. -/
theorem action_depends (action : Action) (now : Int64)
    (listed : ∀ key ∈ action.reads, key ∈ keys) (agree : Ledger.Agree keys left right) :
    Related (Outcome.Agree keys) (action.execute left now) (action.execute right now) := by
  cases action with
  | program instruction => exact instruction_depends instruction now listed agree
  | spl instruction => exact spl_depends instruction listed agree

end Depends

/-! ## What changes -/

/-- The second ledger differs from the first at the addresses only. -/
structure Ledger.Frame (keys : List Pubkey) (before after : Ledger) : Prop where
  bump : after.bump = before.bump
  account : ∀ key ∉ keys, after.account key = before.account key

namespace Ledger.Frame

variable {keys : List Pubkey} {before after : Ledger}

theorem refl (keys : List Pubkey) (ledger : Ledger) : Ledger.Frame keys ledger ledger :=
  ⟨rfl, fun _ _ => rfl⟩

theorem set (frame : Ledger.Frame keys before after) {key : Pubkey} (listed : key ∈ keys)
    (account : Account) : Ledger.Frame keys before (after.set key account) := by
  refine ⟨frame.bump, fun query unlisted => ?_⟩
  have apart : query ≠ key := by
    rintro rfl
    exact unlisted listed
  rw [set_account_of_ne _ _ apart, frame.account query unlisted]

theorem close (frame : Ledger.Frame keys before after) {key : Pubkey} (listed : key ∈ keys) :
    Ledger.Frame keys before (after.close key) := by
  refine ⟨frame.bump, fun query unlisted => ?_⟩
  have apart : query ≠ key := by
    rintro rfl
    exact unlisted listed
  rw [close_account, if_neg apart, frame.account query unlisted]

theorem closeIfSome (frame : Ledger.Frame keys before after) {slot : Option Pubkey}
    (listed : ∀ key, slot = some key → key ∈ keys) :
    Ledger.Frame keys before (after.closeIfSome slot) := by
  cases slot with
  | none => exact frame
  | some key => exact frame.close (listed key rfl)

theorem transfer (frame : Ledger.Frame keys before after) {moved : Ledger}
    {source destination authority : Pubkey} {amount : UInt64}
    (transferred : after.transfer source destination authority amount = .ok moved)
    (sourceListed : source ∈ keys) (destinationListed : destination ∈ keys) :
    Ledger.Frame keys before moved := by
  obtain ⟨_, _, _, _, _, _, _, ⟨_, rfl⟩ | ⟨_, _, _, rfl⟩⟩ := transfer_eq_ok.mp transferred
  · exact frame
  · exact (frame.set sourceListed _).set destinationListed _

theorem transferIfPositive (frame : Ledger.Frame keys before after) {moved : Ledger}
    {source destination authority : Pubkey} {amount : UInt64}
    (transferred : Nakama.transferIfPositive after source destination authority amount =
      .ok moved)
    (sourceListed : source ∈ keys) (destinationListed : destination ∈ keys) :
    Ledger.Frame keys before moved := by
  unfold Nakama.transferIfPositive at transferred
  split at transferred
  next => exact frame.transfer transferred sourceListed destinationListed
  next =>
    cases transferred
    exact frame

theorem closeToken (frame : Ledger.Frame keys before after) {closed : Ledger}
    {key authority : Pubkey} (closing : after.closeToken key authority = .ok closed)
    (listed : key ∈ keys) : Ledger.Frame keys before closed := by
  obtain ⟨_, _, _, _, rfl⟩ := closeToken_eq_ok.mp closing
  exact frame.close listed

end Ledger.Frame

section Frame

variable {keys : List Pubkey} {ledger : Ledger} {now : Int64} {outcome : Outcome}

/-- An instruction changes no account that it does not name as writable. -/
theorem instruction_frame {instruction : Instruction}
    (executed : instruction.execute ledger now = .ok outcome)
    (listed : ∀ key ∈ (Action.program instruction).writes, key ∈ keys) :
    Ledger.Frame keys ledger outcome.ledger := by
  simp only [Action.mem_writes, Action.metas] at listed
  have start := Ledger.Frame.refl keys ledger
  cases execute_effect executed with
  | createPlan => exact start.set (listed _ (by simp [Instruction.metas])) _
  | @subscribe accounts =>
      rename_i funding _
      have subListed := listed accounts.subscription (by simp [Instruction.metas])
      have vaultListed := listed accounts.vault (by simp [Instruction.metas])
      have ataListed := listed accounts.subscriberAta (by simp [Instruction.metas])
      exact ((start.set vaultListed _).transfer funding ataListed vaultListed).set subListed _
  | @charge accounts =>
      rename_i transferred _ _ _
      have subListed := listed accounts.subscription (by simp [Instruction.metas])
      have vaultListed := listed accounts.vault (by simp [Instruction.metas])
      have ataListed := listed accounts.merchantAta (by simp [Instruction.metas])
      exact (start.transfer transferred vaultListed ataListed).set subListed _
  | @exhaust accounts =>
      rename_i transferred _ slot _ _
      have subListed := listed accounts.subscription (by simp [Instruction.metas])
      have vaultListed := listed accounts.vault (by simp [Instruction.metas])
      have ataListed := listed accounts.merchantAta (by simp [Instruction.metas])
      have slotListed := listed (.grace accounts.subscription)
        (by simp [Instruction.metas, slot])
      exact ((start.transfer transferred vaultListed ataListed).set slotListed _).set
        subListed _
  | @settleUsage accounts =>
      rename_i transferred
      have parentListed := listed accounts.parent (by simp [Instruction.metas])
      have sessionListed := listed accounts.paySession (by simp [Instruction.metas])
      have vaultListed := listed accounts.vault (by simp [Instruction.metas])
      have ataListed := listed accounts.merchantAta (by simp [Instruction.metas])
      exact ((start.transfer transferred vaultListed ataListed).set parentListed _).set
        sessionListed _
  | @topUp accounts =>
      rename_i transferred _
      have subListed := listed accounts.subscription (by simp [Instruction.metas])
      have vaultListed := listed accounts.vault (by simp [Instruction.metas])
      have ataListed := listed accounts.subscriberAta (by simp [Instruction.metas])
      refine ((start.transfer transferred ataListed vaultListed).set subListed _).closeIfSome
        fun key slot => ?_
      exact listed key (by simp [Instruction.metas, slot])
  | @recover accounts =>
      rename_i transferred slot _ _ _
      have subListed := listed accounts.subscription (by simp [Instruction.metas])
      have vaultListed := listed accounts.vault (by simp [Instruction.metas])
      have ataListed := listed accounts.subscriberAta (by simp [Instruction.metas])
      have slotListed := listed (.grace accounts.subscription)
        (by simp [Instruction.metas, slot])
      exact ((start.transfer transferred ataListed vaultListed).set subListed _).close
        slotListed
  | @pause accounts =>
      rename_i satelliteAddress _ _ _ _
      have subListed := listed accounts.subscription (by simp [Instruction.metas])
      have satelliteListed := listed accounts.pausedSatellite (by simp [Instruction.metas])
      rw [satelliteAddress] at satelliteListed
      exact (start.set satelliteListed _).set subListed _
  | @resume accounts =>
      rename_i satelliteAddress _ _ _ _ _
      have subListed := listed accounts.subscription (by simp [Instruction.metas])
      have satelliteListed := listed accounts.pausedSatellite (by simp [Instruction.metas])
      rw [satelliteAddress] at satelliteListed
      exact (start.set subListed _).close satelliteListed
  | @cancel accounts =>
      rename_i settlement refunding closing _ _
      have subListed := listed accounts.subscription (by simp [Instruction.metas])
      have vaultListed := listed accounts.vault (by simp [Instruction.metas])
      have ataListed := listed accounts.merchantAta (by simp [Instruction.metas])
      have refundListed := listed accounts.subscriberAta (by simp [Instruction.metas])
      have settled := start.transferIfPositive settlement vaultListed ataListed
      have refunded := settled.transferIfPositive refunding vaultListed refundListed
      refine (((refunded.closeToken closing vaultListed).set subListed _).closeIfSome
        fun key slot => ?_).closeIfSome fun key slot => ?_
      · exact listed key (by simp [Instruction.metas, slot])
      · exact listed key (by simp [Instruction.metas, slot])
  | @cleanup accounts => exact start.close (listed _ (by simp [Instruction.metas]))
  | @openSession accounts => exact start.set (listed _ (by simp [Instruction.metas])) _
  | @closeSession accounts => exact start.close (listed _ (by simp [Instruction.metas]))

theorem spl_frame {instruction : SplInstruction}
    (executed : instruction.execute ledger = .ok outcome)
    (listed : ∀ key ∈ (Action.spl instruction).writes, key ∈ keys) :
    Ledger.Frame keys ledger outcome.ledger := by
  simp only [Action.mem_writes, Action.metas] at listed
  have start := Ledger.Frame.refl keys ledger
  cases instruction with
  | transfer source destination authority amount =>
      simp only [SplInstruction.execute, bind_eq_ok, pure_eq_ok] at executed
      obtain ⟨moved, transferred, rfl⟩ := executed
      exact start.transfer transferred (listed _ (by simp [SplInstruction.metas]))
        (listed _ (by simp [SplInstruction.metas]))
  | setOwner account authority owner =>
      simp only [SplInstruction.execute, Ledger.setOwner, bind_eq_ok, pure_eq_ok] at executed
      obtain ⟨_, ⟨_, _, _, _, rfl⟩, rfl⟩ := executed
      exact start.set (listed _ (by simp [SplInstruction.metas])) _
  | closeAccount account authority =>
      simp only [SplInstruction.execute, bind_eq_ok, pure_eq_ok] at executed
      obtain ⟨closed, closing, rfl⟩ := executed
      exact start.closeToken closing (listed _ (by simp [SplInstruction.metas]))
  | createAccount account mint owner =>
      simp only [SplInstruction.execute, Ledger.createToken, bind_eq_ok, pure_eq_ok] at executed
      obtain ⟨_, ⟨_, _, _, _, _, _, rfl⟩, rfl⟩ := executed
      exact start.set (listed _ (by simp [SplInstruction.metas])) _

/-- A transaction changes no account that it does not name as writable. -/
theorem action_frame {action : Action} (executed : action.execute ledger now = .ok outcome)
    (listed : ∀ key ∈ action.writes, key ∈ keys) :
    Ledger.Frame keys ledger outcome.ledger := by
  cases action with
  | program instruction => exact instruction_frame executed listed
  | spl instruction => exact spl_frame executed listed

end Frame

end Nakama
