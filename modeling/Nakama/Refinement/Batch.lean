import Mathlib.Data.UInt
import Nakama.Refinement.Availability
import Nakama.Refinement.Composition

/-!
# Settlements as adjustments

A `settle_usage` adds its amount to two counters and moves it between two token accounts.
Seen as adjustments of four accounts, settlements commute, whatever accounts they share.
-/

namespace Nakama

open Guard Ledger

/-! ## Adjustments -/

/-- One adjustment of an account by an amount. -/
inductive Adjustment where
  | debit (amount : UInt64)
  | credit (amount : UInt64)
  | withdraw (amount : UInt64)
  | use (amount : UInt64)
  deriving DecidableEq, Repr

/-- An adjustment changes accounts of its own kind only. -/
def Adjustment.apply (now : Int64) : Adjustment → Account → Account
  | .debit amount, .token token => .token { token with amount := token.amount - amount }
  | .credit amount, .token token => .token { token with amount := token.amount + amount }
  | .withdraw amount, .subscription sub =>
      .subscription { sub with withdrawnAmount := sub.withdrawnAmount + amount }
  | .use amount, .paySession session =>
      .paySession { session with
        usageAmount := session.usageAmount + amount
        lastSettleAt := now
        state := PaySessionState.opened.toByte }
  | _, account => account

theorem Adjustment.apply_comm (now : Int64) (first second : Adjustment) (account : Account) :
    first.apply now (second.apply now account) =
      second.apply now (first.apply now account) := by
  cases account with
  | token token =>
      cases first <;> cases second <;>
        simp [apply, sub_right_comm, add_right_comm, sub_add_eq_add_sub]
  | subscription sub =>
      cases first <;> cases second <;> simp [apply, add_right_comm]
  | paySession session =>
      cases first <;> cases second <;> simp [apply, add_right_comm]
  | _ => cases first <;> cases second <;> rfl

namespace Ledger

/-- Adjust the account at an address, if there is one. -/
def adjust (now : Int64) (ledger : Ledger) (change : Pubkey × Adjustment) : Ledger :=
  { ledger with
    account := Function.update ledger.account change.1
      ((ledger.account change.1).map (change.2.apply now)) }

variable {ledger : Ledger} {now : Int64}

theorem adjust_account (change : Pubkey × Adjustment) (query : Pubkey) :
    (ledger.adjust now change).account query =
      if query = change.1 then (ledger.account query).map (change.2.apply now)
      else ledger.account query := by
  by_cases same : query = change.1
  · rw [if_pos same, same]
    simp [adjust]
  · rw [if_neg same]
    simp [adjust, same]

theorem adjust_of_account {key : Pubkey} {account : Account} {adjustment : Adjustment}
    (found : ledger.account key = some account) :
    ledger.adjust now (key, adjustment) = ledger.set key (adjustment.apply now account) := by
  simp [adjust, set, found]

theorem adjust_comm (first second : Pubkey × Adjustment) :
    (ledger.adjust now first).adjust now second =
      (ledger.adjust now second).adjust now first := by
  have accounts : ((ledger.adjust now first).adjust now second).account =
      ((ledger.adjust now second).adjust now first).account := by
    funext query
    simp only [adjust_account]
    by_cases atFirst : query = first.1
    · by_cases atSecond : query = second.1
      · simp only [atFirst ▸ atSecond, atFirst, if_true, Option.map_map]
        congr 1
        funext account
        exact second.2.apply_comm now first.2 account
      · simp only [if_pos atFirst, if_neg atSecond]
    · simp only [if_neg atFirst]
  exact congrArg (fun account => { ledger with account }) accounts

/-- Adjust several accounts. -/
def adjustAll (now : Int64) (ledger : Ledger) (changes : List (Pubkey × Adjustment)) : Ledger :=
  changes.foldl (adjust now) ledger

/-- Adjustments may be made in any order. -/
theorem adjustAll_perm {changes reordered : List (Pubkey × Adjustment)}
    (same : changes.Perm reordered) :
    ledger.adjustAll now changes = ledger.adjustAll now reordered := by
  refine same.foldl_eq' ?_ ledger
  intro first _ second _ adjusted
  exact adjust_comm first second

theorem adjustAll_append (front back : List (Pubkey × Adjustment)) :
    ledger.adjustAll now (front ++ back) = (ledger.adjustAll now front).adjustAll now back := by
  simp [adjustAll, List.foldl_append]

end Ledger

/-! ## One settlement -/

/-- The adjustments of a settlement. -/
def SettleUsage.changes (accounts : SettleUsage) (amount : UInt64) :
    List (Pubkey × Adjustment) :=
  [(accounts.vault, .debit amount), (accounts.merchantAta, .credit amount),
    (accounts.parent, .withdraw amount), (accounts.paySession, .use amount)]

/-- The accounts of a settlement match, whatever its amount. -/
structure SettleUsage.Matches (accounts : SettleUsage) (ledger : Ledger) (now : Int64)
    (parent : Subscription Pubkey) (session : PaySession Pubkey) : Prop where
  parentAt : ledger.account accounts.parent = some (.subscription parent)
  sessionAt : ledger.account accounts.paySession = some (.paySession session)
  ofParent : session.subscription = accounts.parent
  facilitator : session.facilitator = accounts.facilitator.key
  vault : accounts.vault = .vault accounts.parent
  payee : accounts.merchantAta = session.merchantAta
  payeeOpen : ∃ token, ledger.account accounts.merchantAta = some (.token token) ∧
    token.mint = parent.tokenMint
  active : parent.state = .active
  fits : Checked.FitsI64 (now.toInt - parent.streamStart.toInt)

section Settlement

variable {ledger : Ledger} {now : Int64} {accounts : SettleUsage} {amount : UInt64}

private theorem eq_add_of_toNat {result left right : UInt64}
    (sum : result.toNat = left.toNat + right.toNat) : result = left + right := by
  have bound := result.toNat_lt
  apply UInt64.toNat_inj.mp
  rw [UInt64.toNat_add, ← sum, Nat.mod_eq_of_lt bound]

private theorem settleUsage_fits {outcome : Outcome} {parent : Subscription Pubkey}
    (executed : settleUsage ledger now accounts amount = .ok outcome)
    (loaded : ledger.account accounts.parent = some (.subscription parent)) :
    Checked.FitsI64 (now.toInt - parent.streamStart.toInt) := by
  simp only [settleUsage, SettleUsage.tryAccounts, settleUsageHandler, bind_eq_ok,
    require_eq_ok, exists_const, loadSubscription_eq_ok, loadPaySession_eq_ok,
    loadToken_eq_ok, seedsWithBump, requireMint, requireAuthority, pure_eq_ok,
    Int64.le_iff_toInt_le, Int64.lt_iff_toInt_lt, Int64.toInt_zero, Prod.exists,
    Prod.mk.injEq] at executed
  obtain ⟨_, _, ⟨found, foundAt, _, _, _, _, _, _, _, _, _, _, _, _, _, _, _, rfl, _⟩, _, _, _,
    _, _, started, periodPositive, _, unlocking, _⟩ := executed
  cases loaded.symm.trans foundAt
  exact ((unlockedAt_eq_ok started periodPositive).mp unlocking).1

/-- What a successful settlement has checked, and that it adjusts four accounts. -/
theorem settleUsage_adjusts (wellFormed : ledger.WellFormed) {outcome : Outcome}
    (executed : settleUsage ledger now accounts amount = .ok outcome) :
    outcome.ledger = ledger.adjustAll now (accounts.changes amount) ∧
      ∃ parent session, accounts.Matches ledger now parent session ∧ 0 < amount.toNat ∧
        parent.withdrawnAmount.toNat + amount.toNat ≤ parent.unlockedBy now ∧
        session.usageAmount.toNat + amount.toNat < 2 ^ 64 ∧
        (0 < session.reservationCap.toNat →
          session.usageAmount.toNat + amount.toNat ≤ session.reservationCap.toNat) := by
  cases settleUsage_effect executed with
  | @settleUsage _ _ parent session withdrawn usage paid events loaded address sessionLoaded
      sessionAddress sessionParent facilitator vaultAddress destination active opened started
      periodPositive positive withdrawnEq withdrawnUnlocked usageEq cap transferred =>
      have outside : accounts.merchantAta.isExternal = true := by
        rw [sessionAddress, address] at sessionLoaded
        obtain ⟨plan, planAt, payee⟩ := wellFormed.session_plan sessionLoaded
        rw [destination, payee]
        exact wellFormed.plan_ata planAt
      have different : accounts.vault ≠ accounts.merchantAta := by
        intro same
        rw [← same, vaultAddress] at outside
        cases outside
      obtain ⟨vault, ata, vaultAt, ataAt, funds, mints, owner, ⟨same, _⟩ |
        ⟨_, credited, creditedEq, rfl⟩⟩ := transfer_eq_ok.mp transferred
      · exact (different same).elim
      have vaultTerms := wellFormed.vault_terms loaded (vaultAddress ▸ vaultAt)
      have bound := usage.toNat_lt
      refine ⟨?_, parent, session, ⟨loaded, sessionLoaded, sessionParent, facilitator,
        vaultAddress, destination, ⟨ata, ataAt, mints.symm.trans vaultTerms.1⟩, active,
        settleUsage_fits executed loaded⟩, positive, by omega, by omega, ?_⟩
      · -- The four accounts are of different kinds, so each is found where it was.
        have parentNe : accounts.parent ≠ accounts.vault ∧
            accounts.parent ≠ accounts.merchantAta := by
          constructor
          · rw [vaultAddress, address]
            exact Pubkey.noConfusion
          · intro same
            rw [← same, address] at outside
            cases outside
        have sessionNe : accounts.paySession ≠ accounts.vault ∧
            accounts.paySession ≠ accounts.merchantAta ∧
            accounts.paySession ≠ accounts.parent := by
          refine ⟨?_, ?_, ?_⟩
          · rw [vaultAddress, sessionAddress]
            exact Pubkey.noConfusion
          · intro same
            rw [← same, sessionAddress] at outside
            cases outside
          · rw [sessionAddress, address]
            exact Pubkey.noConfusion
        rw [eq_add_of_toNat withdrawnEq, eq_add_of_toNat usageEq, eq_add_of_toNat creditedEq]
        have ataKept : ∀ one, (ledger.set accounts.vault one).account accounts.merchantAta =
            some (.token ata) := by
          intro one
          rw [set_account_of_ne _ _ different.symm, ataAt]
        have parentKept : ∀ one two, ((ledger.set accounts.vault one).set
            accounts.merchantAta two).account accounts.parent =
              some (.subscription parent) := by
          intro one two
          rw [set_account_of_ne _ _ parentNe.2, set_account_of_ne _ _ parentNe.1, loaded]
        have sessionKept : ∀ one two three, (((ledger.set accounts.vault one).set
            accounts.merchantAta two).set accounts.parent three).account
              accounts.paySession = some (.paySession session) := by
          intro one two three
          rw [set_account_of_ne _ _ sessionNe.2.2, set_account_of_ne _ _ sessionNe.2.1,
            set_account_of_ne _ _ sessionNe.1, sessionLoaded]
        simp only [SettleUsage.changes, adjustAll, List.foldl_cons, List.foldl_nil]
        rw [adjust_of_account vaultAt, adjust_of_account (ataKept _),
          adjust_of_account (parentKept _ _), adjust_of_account (sessionKept _ _ _)]
        rfl
      · intro capped
        have := cap capped
        omega

end Settlement

/-! ## Reading an adjusted ledger -/

section Adjusted

variable {ledger : Ledger} {now : Int64} {accounts : SettleUsage} {amount : UInt64}
  {key : Pubkey}

theorem adjusted_subscription {after : Subscription Pubkey} :
    (ledger.adjustAll now (accounts.changes amount)).account key =
        some (.subscription after) ↔
      ∃ sub, ledger.account key = some (.subscription sub) ∧
        after = { sub with withdrawnAmount :=
          sub.withdrawnAmount + if key = accounts.parent then amount else 0 } := by
  simp only [SettleUsage.changes, adjustAll, List.foldl_cons, List.foldl_nil, adjust_account]
  cases ledger.account key with
  | none => simp
  | some account => cases account <;> split_ifs <;> simp [Adjustment.apply, eq_comm]

theorem adjusted_session {after : PaySession Pubkey} :
    (ledger.adjustAll now (accounts.changes amount)).account key =
        some (.paySession after) ↔
      ∃ session, ledger.account key = some (.paySession session) ∧
        after = if key = accounts.paySession then { session with
            usageAmount := session.usageAmount + amount
            lastSettleAt := now
            state := PaySessionState.opened.toByte } else session := by
  simp only [SettleUsage.changes, adjustAll, List.foldl_cons, List.foldl_nil, adjust_account]
  cases ledger.account key with
  | none => simp
  | some account => cases account <;> split_ifs <;> simp [Adjustment.apply, eq_comm]

theorem adjusted_mint {mint : Pubkey} :
    (∃ after, (ledger.adjustAll now (accounts.changes amount)).account key =
        some (.token after) ∧ after.mint = mint) ↔
      ∃ token, ledger.account key = some (.token token) ∧ token.mint = mint := by
  simp only [SettleUsage.changes, adjustAll, List.foldl_cons, List.foldl_nil, adjust_account]
  cases ledger.account key with
  | none => simp
  | some account => cases account <;> split_ifs <;> simp [Adjustment.apply]

/-- The parent of a settlement after another one. -/
def SettleUsage.parentAfter (other : SettleUsage) (accounts : SettleUsage) (amount : UInt64)
    (parent : Subscription Pubkey) : Subscription Pubkey :=
  { parent with withdrawnAmount :=
      parent.withdrawnAmount + if other.parent = accounts.parent then amount else 0 }

/-- The session of a settlement after another one. -/
def SettleUsage.sessionAfter (other : SettleUsage) (accounts : SettleUsage) (now : Int64)
    (amount : UInt64) (session : PaySession Pubkey) : PaySession Pubkey :=
  if other.paySession = accounts.paySession then
    { session with
      usageAmount := session.usageAmount + amount
      lastSettleAt := now
      state := PaySessionState.opened.toByte }
  else session

theorem matches_adjusted {other : SettleUsage} {parentAfter : Subscription Pubkey}
    {sessionAfter : PaySession Pubkey} :
    other.Matches (ledger.adjustAll now (accounts.changes amount)) now parentAfter
        sessionAfter ↔
      ∃ parent session, other.Matches ledger now parent session ∧
        parentAfter = other.parentAfter accounts amount parent ∧
        sessionAfter = other.sessionAfter accounts now amount session := by
  constructor
  · intro right
    obtain ⟨parent, parentAt, rfl⟩ := adjusted_subscription.mp right.parentAt
    obtain ⟨session, sessionAt, rfl⟩ := adjusted_session.mp right.sessionAt
    refine ⟨parent, session, ⟨parentAt, sessionAt, ?_, ?_, right.vault, ?_,
      adjusted_mint.mp right.payeeOpen, right.active, right.fits⟩, rfl, rfl⟩
    · rw [← right.ofParent]
      split <;> rfl
    · rw [← right.facilitator]
      split <;> rfl
    · rw [right.payee]
      split <;> rfl
  · rintro ⟨parent, session, right, rfl, rfl⟩
    refine ⟨adjusted_subscription.mpr ⟨parent, right.parentAt, rfl⟩,
      adjusted_session.mpr ⟨session, right.sessionAt, rfl⟩, ?_, ?_, right.vault, ?_,
      adjusted_mint.mpr right.payeeOpen, right.active, right.fits⟩
    · rw [← right.ofParent]
      unfold SettleUsage.sessionAfter
      split <;> rfl
    · rw [← right.facilitator]
      unfold SettleUsage.sessionAfter
      split <;> rfl
    · rw [right.payee]
      unfold SettleUsage.sessionAfter
      split <;> rfl

private theorem toNat_add_ite {condition : Prop} [Decidable condition] {left right : UInt64}
    (fits : condition → left.toNat + right.toNat < 2 ^ 64) :
    (left + if condition then right else 0).toNat =
      (if condition then right.toNat else 0) + left.toNat := by
  by_cases holds : condition
  · rw [if_pos holds, if_pos holds, UInt64.toNat_add, Nat.mod_eq_of_lt (fits holds),
      Nat.add_comm]
  · simp [holds]

theorem toNat_parentAfter {other : SettleUsage} {parent own : Subscription Pubkey}
    (ownAt : ledger.account accounts.parent = some (.subscription own))
    (parentAt : ledger.account other.parent = some (.subscription parent))
    (earned : own.withdrawnAmount.toNat + amount.toNat ≤ own.unlockedBy now) :
    (other.parentAfter accounts amount parent).withdrawnAmount.toNat =
      (if accounts.parent = other.parent then amount.toNat else 0) +
        parent.withdrawnAmount.toNat := by
  simp only [eq_comm (a := accounts.parent)]
  apply toNat_add_ite
  intro same
  rw [same] at parentAt
  cases ownAt.symm.trans parentAt
  have capped := parent.unlockedBy_le_deposited now
  have bound := parent.depositedAmount.toNat_lt
  omega

theorem toNat_sessionAfter {other : SettleUsage} {session own : PaySession Pubkey}
    (ownAt : ledger.account accounts.paySession = some (.paySession own))
    (sessionAt : ledger.account other.paySession = some (.paySession session))
    (room : own.usageAmount.toNat + amount.toNat < 2 ^ 64) :
    (other.sessionAfter accounts now amount session).usageAmount.toNat =
      (if accounts.paySession = other.paySession then amount.toNat else 0) +
        session.usageAmount.toNat := by
  simp only [eq_comm (a := accounts.paySession)]
  unfold SettleUsage.sessionAfter
  by_cases same : other.paySession = accounts.paySession
  · rw [same] at sessionAt
    cases ownAt.symm.trans sessionAt
    rw [if_pos same, if_pos same, UInt64.toNat_add, Nat.mod_eq_of_lt room, Nat.add_comm]
  · simp [same]

theorem sessionAfter_cap (other : SettleUsage) (session : PaySession Pubkey) :
    (other.sessionAfter accounts now amount session).reservationCap =
      session.reservationCap := by
  unfold SettleUsage.sessionAfter
  split <;> rfl

end Adjusted

section Success

variable {chain : Chain} {now : Int64} {accounts : SettleUsage} {amount : UInt64}
  {parent : Subscription Pubkey} {session : PaySession Pubkey}

/-- In a reachable chain the vault of a stream holds what is not withdrawn. -/
theorem Chain.exists_vault (reachable : machine.Reachable chain) {key : Pubkey}
    (loaded : chain.ledger.account key = some (.subscription parent))
    (active : parent.state = .active) :
    ∃ vault, chain.ledger.account (.vault key) = some (.token vault) ∧
      parent.depositedAmount.toNat ≤ vault.amount.toNat + parent.withdrawnAmount.toNat := by
  have invariant := Chain.Invariant.of_reachable reachable
  have address := invariant.wellFormed.sub_key loaded
  rw [address] at loaded ⊢
  obtain ⟨vault, vaultAt⟩ := invariant.vault_of_running loaded (.inl active)
  have balanced := Chain.Explained.of_reachable reachable _ _ parent
    (Ledger.view_subscription.mpr loaded)
  rw [show (chain.view _).vault = some vault from Ledger.view_vault.mpr vaultAt] at balanced
  exact ⟨vault, vaultAt, by have := balanced.2.2.1; omega⟩

/-- In a reachable chain a matching settlement goes through, if the stream has unlocked
its amount and the session has room for it. -/
theorem settleUsage_of_matches (reachable : machine.Reachable chain)
    (ordered : chain.clock.toInt ≤ now.toInt)
    (right : accounts.Matches chain.ledger now parent session) (positive : 0 < amount.toNat)
    (earned : parent.withdrawnAmount.toNat + amount.toNat ≤ parent.unlockedBy now)
    (room : session.usageAmount.toNat + amount.toNat < 2 ^ 64)
    (cap : 0 < session.reservationCap.toNat →
      session.usageAmount.toNat + amount.toNat ≤ session.reservationCap.toNat) :
    ∃ outcome, settleUsage chain.ledger now accounts amount = .ok outcome := by
  have invariant := Chain.Invariant.of_reachable reachable
  have wellFormed := invariant.wellFormed
  have loaded := right.parentAt
  have address := wellFormed.sub_key loaded
  have bumps := wellFormed.sub_bumps loaded
  have period := wellFormed.sub_period loaded
  have capped := parent.unlockedBy_le_deposited now
  have started : parent.streamStart.toInt ≤ now.toInt := by
    have subAt := loaded
    rw [address] at subAt
    have streaming := (invariant.sound _ _).of_active (Ledger.view_subscription.mpr subAt)
      right.active
    exact le_trans streaming.started ordered
  obtain ⟨vault, vaultAt, covered⟩ := Chain.exists_vault reachable loaded right.active
  have terms := wellFormed.vault_terms loaded vaultAt
  rw [← right.vault] at vaultAt
  obtain ⟨ata, ataAt, ataMint⟩ := right.payeeOpen
  obtain ⟨moved, transferred⟩ := @exists_transfer _ accounts.vault accounts.merchantAta
    accounts.parent vault ata amount (Chain.supply_of_reachable reachable vault.mint) vaultAt
    ataAt (by omega) (terms.1.trans ataMint.symm) terms.2
  obtain ⟨unlocked, unlocking, unlockedEq⟩ := exists_unlockedAt .arithmeticOverflow started
    period right.fits
  have depositBound := parent.depositedAmount.toNat_lt
  obtain ⟨remaining, remainingSome⟩ := @Checked.exists_subU64 unlocked parent.withdrawnAmount
    (by omega)
  have remainingEq := Checked.subU64_eq_some.mp remainingSome
  obtain ⟨withdrawn, withdrawnSome⟩ := @Checked.exists_addU64 parent.withdrawnAmount amount
    (by omega)
  obtain ⟨usage, usageSome⟩ := Checked.exists_addU64 room
  have usageEq := Checked.addU64_eq_some.mp usageSome
  have checked : reservationCheck session amount = .ok () := by
    unfold reservationCheck
    split
    next capped =>
      rw [usageSome]
      apply require_of
      rw [UInt64.le_iff_toNat_le, usageEq]
      exact cap (by simpa [UInt64.lt_iff_toNat_lt] using capped)
    next => rfl
  cases wellFormed _ _ right.sessionAt with
  | paySession sessionAddress _ _ _ opened bump =>
      rw [right.ofParent] at sessionAddress
      rw [sessionAddress] at bump
      simp only [settleUsage, SettleUsage.tryAccounts, settleUsageHandler, bind_eq_ok,
        require_eq_ok, exists_const, loadSubscription_eq_ok, loadPaySession_eq_ok,
        loadToken_eq_ok, seedsWithBump, requireMint, requireAuthority, pure_eq_ok,
        Int64.le_iff_toInt_le, Int64.lt_iff_toInt_lt, Int64.toInt_zero,
        UInt64.lt_iff_toNat_lt, UInt64.le_iff_toNat_le, UInt64.toNat_zero, Prod.exists,
        Prod.mk.injEq, okOr_eq_ok]
      refine ⟨_, parent, session, ⟨parent, loaded, session, right.sessionAt, vault, vaultAt,
        ata, ataAt, ⟨address, address ▸ bumps.1⟩, ⟨sessionAddress, bump⟩, right.ofParent,
        right.facilitator, ⟨right.vault, bumps.2⟩, terms.1, terms.2, right.payee, ataMint,
        rfl, rfl⟩, positive, right.active, opened, (), checked, started, period, unlocked,
        unlocking, remaining, remainingSome, by omega, moved, transferred, withdrawn,
        withdrawnSome, usage, usageSome, rfl⟩

end Success

end Nakama
