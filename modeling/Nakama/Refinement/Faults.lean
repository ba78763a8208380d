import Nakama.Refinement.Solvency

/-!
# Refusals that a sound ledger rules out

On a ledger that agrees with its clock the checked arithmetic of the handlers never
overflows, their clock and period guards never fire, and a vault covers what is paid
out of it.
-/

namespace Nakama

open Guard Ledger

/-- Refusals of the arithmetic, clock and period checks, and the overflow panic. -/
def Error.isArithmetic : Error → Bool
  | .nakama .mathOverflow | .nakama .arithmeticOverflow => true
  | .nakama .clockBackwards | .nakama .invalidPeriod => true
  | .panic => true
  | _ => false

/-- Arithmetic refusals, and a payer without the money. -/
def Error.Fault (error : Error) : Prop :=
  error.isArithmetic = true ∨ error = .token .insufficientFunds

/-- The chain in an environment whose clock starts at the epoch. -/
def sinceEpoch : Machine Chain Tx :=
  machine.restrict fun _ tx => 0 ≤ tx.now.toInt

/-- The ledger agrees with a moment: its subscriptions are sound, date from after the
epoch, and their vaults hold what was deposited and not withdrawn. -/
structure Ledger.Ready (ledger : Ledger) (now : Int64) : Prop where
  wellFormed : ledger.WellFormed
  nonneg : 0 ≤ now.toInt
  sound : ∀ subscriber planKey, (ledger.view (.sub subscriber planKey)).Sound now
  dated : ∀ subscriber planKey sub,
    (ledger.view (.sub subscriber planKey)).subscription = some sub → 0 ≤ sub.createdAt.toInt
  funded : ∀ subscriber planKey sub vault,
    (ledger.view (.sub subscriber planKey)).subscription = some sub →
    (ledger.view (.sub subscriber planKey)).vault = some vault →
    sub.depositedAmount.toNat ≤ vault.amount.toNat + sub.withdrawnAmount.toNat

namespace Chain

variable {chain : Chain}

theorem dated_of_reachable (reachable : sinceEpoch.Reachable chain)
    {subscriber planKey : Pubkey} {sub : Subscription Pubkey}
    (subAt : (chain.view (.sub subscriber planKey)).subscription = some sub) :
    0 ≤ sub.createdAt.toInt := by
  have dated : ∀ found, (chain.view (.sub subscriber planKey)).subscription = some found →
      0 ≤ found.createdAt.toInt := by
    apply reachable.strengthen fun _ reached => Invariant.of_reachable reached.of_restrict
    · intro start genesis found foundAt
      rw [genesis.view_eq] at foundAt
      cases foundAt
    · rintro before tx invariant dated ⟨_, nonneg⟩ found foundAt
      change ((before.step tx).view _).subscription = _ at foundAt
      rcases @step_cases before subscriber planKey invariant.wellFormed tx with
        ⟨_, unchanged⟩ | ⟨outcome, _, _, taken⟩
      · rw [unchanged] at foundAt
        exact dated found foundAt
      · rcases taken.origin foundAt with ⟨sub, subAt, same⟩ | ⟨_, opened⟩
        · have sameDate : found.createdAt = sub.createdAt := congrArg Terms.createdAt same
          rw [sameDate]
          exact dated sub subAt
        · rw [opened]
          exact nonneg
  exact dated sub subAt

theorem ready_of_reachable (reachable : sinceEpoch.Reachable chain) {now : Int64}
    (ordered : chain.clock.toInt ≤ now.toInt) (nonneg : 0 ≤ now.toInt) :
    chain.ledger.Ready now := by
  have reached := reachable.of_restrict
  have invariant := Invariant.of_reachable reached
  constructor
  · exact invariant.wellFormed
  · exact nonneg
  · intro subscriber planKey
    exact (invariant.sound subscriber planKey).advance ordered
  · intro subscriber planKey sub subAt
    exact dated_of_reachable reachable subAt
  · intro subscriber planKey sub vault subAt vaultAt
    obtain ⟨_, _, balance⟩ := Explained.of_reachable reached subscriber planKey sub subAt
    simp only [show (chain.view (.sub subscriber planKey)).vault = some vault from vaultAt]
      at balance
    omega

end Chain

/-! ## The formulas -/

section Formulas

variable {sub : Subscription Pubkey} {moment : Int64}

/-- After the epoch the age of a stream is an `i64`. -/
theorem age_fits (epoch : 0 ≤ sub.streamStart.toInt)
    (started : sub.streamStart.toInt ≤ moment.toInt) :
    Checked.FitsI64 (moment.toInt - sub.streamStart.toInt) := by
  have bound := moment.toInt_lt
  unfold Checked.FitsI64
  omega

/-- After the epoch the unlock formula computes the capped accrual. -/
theorem unlockedAt_exact (overflow : NakamaError) (epoch : 0 ≤ sub.streamStart.toInt)
    (started : sub.streamStart.toInt ≤ moment.toInt) (period : 0 < sub.period.toInt) :
    ∃ unlocked, unlockedAt overflow sub moment = .ok unlocked ∧
      unlocked.toNat = sub.unlockedBy moment :=
  exists_unlockedAt overflow started period (age_fits epoch started)

theorem unlockedBy_eq (started : sub.streamStart.toInt ≤ moment.toInt)
    (period : 0 < sub.period.toInt) :
    (sub.unlockedBy moment : Int) =
      min ((moment.toInt - sub.streamStart.toInt) * sub.price.toNat / sub.period.toInt)
        sub.depositedAmount.toNat := by
  have seconds : (sub.secondsAt moment : Int) = moment.toInt - sub.streamStart.toInt := by
    unfold Subscription.secondsAt
    omega
  have periods : (sub.period.toInt.toNat : Int) = sub.period.toInt := by omega
  unfold Subscription.unlockedBy Accrual.unlocked Accrual.accrued
  rw [← seconds]
  conv_rhs => rw [← periods]
  norm_cast

/-- The keeper hint of an amount that was unlocked stays within a period of now. -/
theorem nextChargeHint_exact {withdrawn : UInt64}
    (fits : Checked.FitsI64 (moment.toInt - sub.streamStart.toInt))
    (started : sub.streamStart.toInt ≤ moment.toInt) (period : 0 < sub.period.toInt)
    (price : 0 < sub.price.toNat) (earned : withdrawn.toNat ≤ sub.unlockedBy moment)
    (room : moment.toInt + sub.period.toInt < 2 ^ 63) :
    ∃ hint, nextChargeHint sub withdrawn = .ok hint ∧
      hint.toInt = sub.streamStart.toInt +
        withdrawn.toNat * sub.period.toInt / sub.price.toNat + sub.period.toInt := by
  -- What is covered has passed, so the anchor plus the covered time is not after now.
  have covered := sub.coveredSeconds_le earned
  unfold Subscription.secondsAt at covered
  have anchorBound := sub.streamStart.le_toInt
  obtain ⟨hint, narrowed⟩ := @Checked.exists_toI64
    (sub.streamStart.toInt + sub.coveredSeconds withdrawn + sub.period.toInt) (by
      unfold Checked.FitsI64
      omega)
  have hintEq := Checked.toI64_eq_some.mp narrowed
  refine ⟨hint, (nextChargeHint_eq_ok period price).mpr ⟨?_, hintEq⟩, ?_⟩
  · unfold Checked.FitsI64 at fits ⊢
    omega
  · rw [hintEq, sub.coveredSeconds_eq withdrawn period]

end Formulas

/-! ## Loads, constraints and transfers -/

section Checks

variable {ledger : Ledger}

@[simp] theorem fault_nakama {code : NakamaError} :
    (Error.nakama code).Fault ↔ (Error.nakama code).isArithmetic = true := by
  simp [Error.Fault]

@[simp] theorem not_fault_anchor {code : AnchorError} : ¬(Error.anchor code).Fault := by
  simp [Error.Fault, Error.isArithmetic]

@[simp] theorem fault_token {code : TokenError} :
    (Error.token code).Fault ↔ code = .insufficientFunds := by
  simp [Error.Fault, Error.isArithmetic]

@[simp] theorem not_fault_inUse : ¬Error.accountAlreadyInUse.Fault := by
  simp [Error.Fault, Error.isArithmetic]

variable {bad : Error → Prop}

/-- Refusals that no account check in front of a handler makes. -/
structure Error.BeyondAccounts (bad : Error → Prop) : Prop where
  anchor : ∀ code, ¬bad (.anchor code)
  inUse : ¬bad .accountAlreadyInUse

@[simp] theorem fault_beyond : Error.BeyondAccounts Error.Fault :=
  ⟨fun _ => not_fault_anchor, not_fault_inUse⟩

@[simp] theorem load_avoids {α : Type} {decode : Account → Option α} {expectSpl : Bool}
    {key : Pubkey} (beyond : Error.BeyondAccounts bad) :
    Avoids bad (ledger.load decode expectSpl key) := by
  unfold load
  split
  next => exact avoids_error.mpr (beyond.anchor _)
  next =>
    split
    next => exact avoids_ok
    next =>
      split
      next => exact avoids_error.mpr (beyond.anchor _)
      next => exact avoids_error.mpr (beyond.anchor _)

@[simp] theorem loadOptional_avoids {α : Type} {loader : Ledger → Pubkey → Except Error α}
    {slot : Option Pubkey} (loads : ∀ key, Avoids bad (loader ledger key)) :
    Avoids bad (ledger.loadOptional loader slot) := by
  cases slot with
  | none => exact avoids_ok
  | some key => exact avoids_bind.mpr ⟨loads key, fun _ _ => avoids_pure⟩

@[simp] theorem seedsIfSome_avoids {slot : Option Pubkey} {derived : Pubkey}
    (beyond : Error.BeyondAccounts bad) : Avoids bad (seedsIfSome slot derived) := by
  cases slot with
  | none => exact avoids_ok
  | some key => exact avoids_require.mpr fun refused => (beyond.anchor _ refused).elim

@[simp] theorem vacantIfSome_avoids {slot : Option Pubkey}
    (beyond : Error.BeyondAccounts bad) : Avoids bad (ledger.vacantIfSome slot) := by
  cases slot with
  | none => exact avoids_ok
  | some key => exact avoids_require.mpr fun refused => (beyond.inUse refused).elim

/-- A transfer refuses with errors of the framework and of the token program, and for lack
of funds only where the source does not cover it. -/
theorem transfer_avoids_of {source destination authority : Pubkey} {amount : UInt64}
    (beyond : Error.BeyondAccounts bad)
    (fundsOnly : ∀ code, bad (.token code) → code = .insufficientFunds)
    (covered : bad (.token .insufficientFunds) → ∀ token,
      ledger.account source = some (.token token) → amount.toNat ≤ token.amount.toNat) :
    Avoids bad (ledger.transfer source destination authority amount) := by
  have harmless : ∀ code, code ≠ .insufficientFunds → ¬bad (.token code) :=
    fun code other isBad => other (fundsOnly code isBad)
  refine avoids_bind.mpr ⟨load_avoids beyond, ?_⟩
  intro sourceToken sourceLoaded
  refine avoids_bind.mpr ⟨load_avoids beyond, ?_⟩
  intro destinationToken _
  refine avoids_bind.mpr ⟨avoids_require.mpr fun isBad => ?_, ?_⟩
  · rw [UInt64.le_iff_toNat_le]
    exact covered isBad sourceToken (loadToken_eq_ok.mp sourceLoaded)
  intro _ _
  simp only [avoids_bind, avoids_require, harmless _ (by decide : TokenError.mintMismatch ≠ _),
    harmless _ (by decide : TokenError.ownerMismatch ≠ _), false_implies, true_and]
  intro _ _ _ _
  split
  next => exact avoids_pure
  next => simp [avoids_map, avoids_okOr, harmless]

theorem transfer_avoids {source destination authority : Pubkey} {amount : UInt64}
    (covered : ∀ token, ledger.account source = some (.token token) →
      amount.toNat ≤ token.amount.toNat) :
    Avoids Error.Fault (ledger.transfer source destination authority amount) :=
  transfer_avoids_of fault_beyond (fun _ => fault_token.mp) fun _ => covered

end Checks

section Accounts

variable {ledger : Ledger}

theorem Charge.tryAccounts_avoids {bad : Error → Prop} (accounts : Charge)
    (beyond : Error.BeyondAccounts bad) (ata : ¬bad (.nakama .ataMismatch))
    (mint : ¬bad (.nakama .mintMismatch)) :
    Avoids bad (accounts.tryAccounts ledger) := by
  simp [Charge.tryAccounts, loadSubscription, loadPlan, loadToken, seedsWithBump, requireMint,
    requireAuthority, avoids_bind, avoids_map, avoids_require, beyond, beyond.anchor, ata, mint]

/-- The subscription that `charge` reads, and the vault that it pays from. -/
theorem Charge.loaded_of_tryAccounts {accounts : Charge} {sub : Subscription Pubkey}
    (passed : accounts.tryAccounts ledger = .ok sub) :
    ledger.account accounts.subscription = some (.subscription sub) ∧
      accounts.vault = .vault accounts.subscription := by
  simp only [Charge.tryAccounts, bind_eq_ok, loadSubscription_eq_ok, seedsWithBump,
    require_eq_ok, exists_const, pure_eq_ok] at passed
  obtain ⟨_, loaded, _, _, _, _, _, _, _, _, _, _, _, _, ⟨vaultAddress, _⟩, _, _, _, _, _, _,
    rfl⟩ := passed
  exact ⟨loaded, vaultAddress⟩

theorem SettleUsage.tryAccounts_avoids (accounts : SettleUsage) :
    Avoids Error.Fault (accounts.tryAccounts ledger) := by
  simp [SettleUsage.tryAccounts, loadSubscription, loadPaySession, loadToken, seedsWithBump,
    requireMint, requireAuthority, avoids_bind, avoids_map, avoids_require, Error.isArithmetic]

theorem Cancel.tryAccounts_avoids (accounts : Cancel) :
    Avoids Error.Fault (accounts.tryAccounts ledger) := by
  simp [Cancel.tryAccounts, loadSubscription, loadGraced, loadPaused, loadToken, distinctMut,
    seedsWithBump, requireMint, requireAuthority, avoids_bind, avoids_map, avoids_require,
    Error.isArithmetic]

theorem Pause.tryAccounts_avoids (accounts : Pause) :
    Avoids Error.Fault (accounts.tryAccounts ledger) := by
  simp [Pause.tryAccounts, loadSubscription, seeds, vacant, seedsWithBump, avoids_bind,
    avoids_map, avoids_require, Error.isArithmetic]

theorem Resume.tryAccounts_avoids (accounts : Resume) :
    Avoids Error.Fault (accounts.tryAccounts ledger) := by
  simp [Resume.tryAccounts, loadSubscription, loadPaused, seedsWithBump, avoids_bind,
    avoids_map, avoids_require, Error.isArithmetic]

theorem OpenSession.tryAccounts_avoids (accounts : OpenSession) (sessionId : UInt64) :
    Avoids Error.Fault (accounts.tryAccounts ledger sessionId) := by
  simp [OpenSession.tryAccounts, loadSubscription, seeds, vacant, seedsWithBump, avoids_bind,
    avoids_map, avoids_require, Error.isArithmetic]

theorem TopUp.tryAccounts_avoids (accounts : TopUp) :
    Avoids Error.Fault (accounts.tryAccounts ledger) := by
  simp [TopUp.tryAccounts, loadSubscription, loadGraced, loadToken, seedsWithBump, requireMint,
    requireAuthority, avoids_bind, avoids_map, avoids_require]

end Accounts

/-! ## Settling a subscription -/

/-- What the handlers need to know before they settle a subscription up to a moment. -/
structure Settleable (sub : Subscription Pubkey) (now moment : Int64) : Prop where
  epoch : 0 ≤ sub.streamStart.toInt
  current : sub.streamStart.toInt ≤ now.toInt
  started : sub.streamStart.toInt ≤ moment.toInt
  period : 0 < sub.period.toInt
  price : 0 < sub.price.toNat
  covered : sub.withdrawnAmount.toNat ≤ sub.unlockedBy moment

namespace Ledger.Ready

variable {ledger : Ledger} {now : Int64} {key : Pubkey} {sub : Subscription Pubkey}

theorem created (ready : ledger.Ready now)
    (loaded : ledger.account key = some (.subscription sub)) : 0 ≤ sub.createdAt.toInt := by
  rw [ready.wellFormed.sub_key loaded] at loaded
  exact ready.dated _ _ _ (view_subscription.mpr loaded)

theorem frozen (ready : ledger.Ready now)
    (loaded : ledger.account key = some (.subscription sub)) (state : sub.state = .paused)
    {paused : PausedSubscription Pubkey} (pausedAt : (ledger.view key).paused = some paused) :
    (ledger.view key).Frozen now sub paused := by
  have address := ready.wellFormed.sub_key loaded
  rw [address] at loaded pausedAt ⊢
  obtain ⟨satellite, standing⟩ :=
    (ready.sound _ _).of_paused (view_subscription.mpr loaded) state
  rw [standing.satellite, Option.some.injEq] at pausedAt
  rwa [← pausedAt]

theorem drained (ready : ledger.Ready now)
    (loaded : ledger.account key = some (.subscription sub)) (grace : sub.state = .gracePeriod)
    {graced : GracedSubscription Pubkey} (gracedAt : (ledger.view key).graced = some graced) :
    (ledger.view key).Drained now sub graced := by
  have address := ready.wellFormed.sub_key loaded
  rw [address] at loaded gracedAt ⊢
  obtain ⟨satellite, standing⟩ :=
    (ready.sound _ _).of_grace (view_subscription.mpr loaded) grace
  rw [standing.satellite, Option.some.injEq] at gracedAt
  rwa [← gracedAt]

theorem settleable (ready : ledger.Ready now)
    (loaded : ledger.account key = some (.subscription sub)) {moment : Int64}
    (settles : (ledger.view key).SettlesAt now sub.state moment) :
    Settleable sub now moment := by
  have created := ready.created loaded
  have period := ready.wellFormed.sub_period loaded
  have rate := ready.wellFormed.sub_rate loaded
  have price : 0 < sub.price.toNat := by omega
  have address := ready.wellFormed.sub_key loaded
  rw [address] at loaded settles
  obtain ⟨anchored, current, started, covered⟩ :=
    (ready.sound _ _).of_settles (view_subscription.mpr loaded) settles
  exact ⟨le_trans created anchored, current, started, period, price, covered⟩

/-- While a subscription runs its anchor has passed. -/
theorem current (ready : ledger.Ready now)
    (loaded : ledger.account key = some (.subscription sub))
    (running : sub.state = .active ∨ sub.state = .paused ∨ sub.state = .gracePeriod) :
    sub.streamStart.toInt ≤ now.toInt := by
  rw [ready.wellFormed.sub_key loaded] at loaded
  have sound := ready.sound sub.subscriber sub.plan
  obtain ⟨moment, settles⟩ := sound.exists_settles (view_subscription.mpr loaded) running
  exact (sound.of_settles (view_subscription.mpr loaded) settles).2.1

theorem withdrawn_le (ready : ledger.Ready now)
    (loaded : ledger.account key = some (.subscription sub)) :
    sub.withdrawnAmount.toNat ≤ sub.depositedAmount.toNat := by
  rw [ready.wellFormed.sub_key loaded] at loaded
  exact (ready.sound _ _).withdrawn_le (view_subscription.mpr loaded)

/-- The vault covers every payment that stays within what is not withdrawn. -/
theorem covers (ready : ledger.Ready now)
    (loaded : ledger.account key = some (.subscription sub)) {amount : UInt64}
    (bounded : sub.withdrawnAmount.toNat + amount.toNat ≤ sub.depositedAmount.toNat)
    {vault : TokenAccount} (vaultAt : ledger.account (.vault key) = some (.token vault)) :
    amount.toNat ≤ vault.amount.toNat := by
  have address := ready.wellFormed.sub_key loaded
  rw [address] at loaded vaultAt
  have funded := ready.funded _ _ _ _ (view_subscription.mpr loaded) (view_vault.mpr vaultAt)
  omega

end Ledger.Ready

/-! ## The handlers -/

section Handlers

variable {ledger : Ledger} {now : Int64}

/-- The clock and period guards and the unlock formula, as `charge`, `settle_usage` and
`pause` begin. -/
private theorem guards_avoid {α : Type} {bad : Error → Prop} {sub : Subscription Pubkey}
    {overflow : NakamaError} {rest : UInt64 → Except Error α} (ok : Settleable sub now now)
    (continues : ∀ unlocked, unlocked.toNat = sub.unlockedBy now →
      Avoids bad (rest unlocked)) :
    Avoids bad (do
      require (sub.streamStart ≤ now) (.nakama .clockBackwards)
      require (0 < sub.period) (.nakama .invalidPeriod)
      let unlocked ← unlockedAt overflow sub now
      rest unlocked) := by
  obtain ⟨unlocked, computed, unlockedEq⟩ :=
    unlockedAt_exact overflow ok.epoch ok.started ok.period
  refine avoids_bind.mpr ⟨avoids_require.mpr fun _ => ?_, ?_⟩
  · exact Int64.le_iff_toInt_le.mpr ok.started
  intro _ _
  refine avoids_bind.mpr ⟨avoids_require.mpr fun _ => ?_, ?_⟩
  · simpa [Int64.lt_iff_toInt_lt] using ok.period
  intro _ _
  rw [computed]
  exact continues unlocked unlockedEq

theorem pause_avoids (ready : ledger.Ready now) (accounts : Pause) :
    Avoids Error.Fault (pause ledger now accounts) := by
  refine avoids_bind.mpr ⟨accounts.tryAccounts_avoids, ?_⟩
  intro sub passed
  have loaded : ledger.account accounts.subscription = some (.subscription sub) := by
    simp only [Pause.tryAccounts, bind_eq_ok, loadSubscription_eq_ok, pure_eq_ok] at passed
    obtain ⟨_, loaded, _, _, _, _, _, _, _, _, rfl⟩ := passed
    exact loaded
  refine avoids_bind.mpr ⟨avoids_require.mpr (by simp [Error.isArithmetic]), ?_⟩
  intro _ active
  rw [require_eq_ok] at active
  apply guards_avoid (ready.settleable loaded (active ▸ View.SettlesAt.active))
  intro unlocked _
  exact avoids_pure

/-- Shifting the anchor by the length of an interruption, as `resume` and the recovery
branch of `top_up` do. -/
private theorem shift_avoids {α : Type} {bad : Error → Prop} {streamStart since : Int64}
    {rest : Int64 → Int64 → Except Error α} (epoch : 0 ≤ streamStart.toInt)
    (started : streamStart.toInt ≤ since.toInt) (past : since.toInt ≤ now.toInt)
    (continues : ∀ duration shifted, Avoids bad (rest duration shifted)) :
    Avoids bad (do
      require (since ≤ now) (.nakama .clockBackwards)
      let duration ← okOr (Checked.subI64 now since) (.nakama .mathOverflow)
      let shifted ← okOr (Checked.addI64 streamStart duration) (.nakama .mathOverflow)
      rest duration shifted) := by
  have bound := now.toInt_lt
  refine avoids_bind.mpr ⟨avoids_require.mpr fun _ => Int64.le_iff_toInt_le.mpr past, ?_⟩
  intro _ _
  refine avoids_bind.mpr ⟨avoids_okOr.mpr fun _ => ?_, ?_⟩
  · apply Checked.exists_toI64
    unfold Checked.FitsI64
    omega
  intro duration subtracted
  rw [okOr_eq_ok, Checked.subI64_eq_some] at subtracted
  refine avoids_bind.mpr ⟨avoids_okOr.mpr fun _ => ?_, ?_⟩
  · apply Checked.exists_toI64
    unfold Checked.FitsI64
    omega
  intro shifted _
  exact continues duration shifted

theorem resume_avoids (ready : ledger.Ready now) (accounts : Resume) :
    Avoids Error.Fault (resume ledger now accounts) := by
  refine avoids_bind.mpr ⟨accounts.tryAccounts_avoids, ?_⟩
  rintro ⟨sub, paused⟩ passed
  simp only [Resume.tryAccounts, bind_eq_ok, loadSubscription_eq_ok, loadPaused_eq_ok,
    seedsWithBump, require_eq_ok, exists_const, pure_eq_ok, Prod.mk.injEq] at passed
  obtain ⟨_, loaded, _, satellite, _, _, ⟨address, _⟩, _, rfl, rfl⟩ := passed
  rw [address] at satellite
  refine avoids_bind.mpr ⟨avoids_require.mpr (by simp [Error.isArithmetic]), ?_⟩
  intro _ state
  rw [require_eq_ok] at state
  have frozen := ready.frozen loaded state (view_paused.mpr satellite)
  apply shift_avoids (le_trans (ready.created loaded) frozen.anchored) frozen.started frozen.past
  intro duration shifted
  exact avoids_pure

private theorem chargeTail_avoids {accounts : Charge} {charged : Subscription Pubkey}
    (nonneg : 0 ≤ now.toInt) (graceRoom : now.toInt + graceDuration.toInt < 2 ^ 63) :
    Avoids Error.Fault (chargeTail ledger now accounts charged) := by
  unfold chargeTail
  split
  next =>
    refine avoids_bind.mpr ⟨avoids_okOr.mpr fun _ => ?_, ?_⟩
    · have positive : 0 ≤ graceDuration.toInt := by decide
      apply Checked.exists_toI64
      unfold Checked.FitsI64
      omega
    intro graceUntil _
    simp [avoids_map, avoids_okOr, Error.isArithmetic]
  next => simp [avoids_map, avoids_require, Error.isArithmetic]

theorem charge_avoids (ready : ledger.Ready now) (accounts : Charge)
    (graceRoom : now.toInt + graceDuration.toInt < 2 ^ 63)
    (periodRoom : ∀ sub, ledger.account accounts.subscription = some (.subscription sub) →
      now.toInt + sub.period.toInt < 2 ^ 63) :
    Avoids Error.Fault (charge ledger now accounts) := by
  refine avoids_bind.mpr ⟨accounts.tryAccounts_avoids fault_beyond (by simp [Error.isArithmetic])
    (by simp [Error.isArithmetic]), ?_⟩
  intro sub passed
  obtain ⟨loaded, vaultAddress⟩ := Charge.loaded_of_tryAccounts passed
  refine avoids_bind.mpr ⟨avoids_require.mpr (by simp [Error.isArithmetic]), ?_⟩
  intro _ active
  rw [require_eq_ok] at active
  have ok := ready.settleable loaded (active ▸ View.SettlesAt.active)
  apply guards_avoid ok
  intro unlocked unlockedEq
  have capped := sub.unlockedBy_le_deposited now
  have covered := ok.covered
  refine avoids_bind.mpr ⟨avoids_okOr.mpr fun _ => ?_, ?_⟩
  · apply Checked.exists_subU64
    omega
  intro claimable subtracted
  rw [okOr_eq_ok, Checked.subU64_eq_some] at subtracted
  refine avoids_bind.mpr ⟨avoids_require.mpr (by simp [Error.isArithmetic]), ?_⟩
  intro _ _
  refine avoids_bind.mpr ⟨transfer_avoids ?_, ?_⟩
  · intro vault vaultAt
    rw [vaultAddress] at vaultAt
    exact ready.covers loaded (by omega) vaultAt
  intro paid _
  refine avoids_bind.mpr ⟨avoids_okOr.mpr fun _ => ?_, ?_⟩
  · have bound := sub.depositedAmount.toNat_lt
    apply Checked.exists_addU64
    omega
  intro withdrawn added
  rw [okOr_eq_ok, Checked.addU64_eq_some] at added
  have earned : withdrawn.toNat ≤ sub.unlockedBy now := by omega
  obtain ⟨hint, computed, _⟩ := nextChargeHint_exact (age_fits ok.epoch ok.started)
    ok.started ok.period ok.price earned (periodRoom sub loaded)
  refine avoids_bind.mpr ⟨by rw [computed]; exact avoids_ok, ?_⟩
  intro nextChargeAt _
  exact avoids_bind.mpr ⟨chargeTail_avoids ready.nonneg graceRoom, fun _ _ => avoids_pure⟩

theorem openSession_avoids (ready : ledger.Ready now) (accounts : OpenSession)
    (sessionId : UInt64) (facilitator : Pubkey) (reservationCap : UInt64) :
    Avoids Error.Fault
      (openSession ledger now accounts sessionId facilitator reservationCap) := by
  refine avoids_bind.mpr ⟨accounts.tryAccounts_avoids sessionId, ?_⟩
  intro found passed
  simp only [OpenSession.tryAccounts, bind_eq_ok, loadSubscription_eq_ok, pure_eq_ok] at passed
  obtain ⟨parent, loaded, _, _, _, _, _, _, _, _, rfl⟩ := passed
  refine avoids_bind.mpr ⟨avoids_require.mpr (by simp [Error.isArithmetic]), ?_⟩
  intro _ _
  refine avoids_bind.mpr ⟨avoids_okOr.mpr fun _ => ?_, ?_⟩
  · exact Checked.exists_subU64 (ready.withdrawn_le loaded)
  intro remaining _
  simp [avoids_map, avoids_require, Error.isArithmetic]

/-- The only overflow that `settle_usage` admits is that of the session's counter. -/
theorem settleUsage_avoids (ready : ledger.Ready now) (accounts : SettleUsage)
    (amount : UInt64) :
    Avoids (fun error => error.Fault ∧
        ¬(error = .nakama .arithmeticOverflow ∧ ∃ session,
          ledger.account accounts.paySession = some (.paySession session) ∧
          2 ^ 64 ≤ session.usageAmount.toNat + amount.toNat))
      (settleUsage ledger now accounts amount) := by
  refine avoids_bind.mpr ⟨accounts.tryAccounts_avoids.mono fun _ isBad => isBad.1, ?_⟩
  rintro ⟨_, _⟩ passed
  simp only [SettleUsage.tryAccounts, bind_eq_ok, loadSubscription_eq_ok, loadPaySession_eq_ok,
    seedsWithBump, require_eq_ok, exists_const, pure_eq_ok, Prod.mk.injEq] at passed
  obtain ⟨parent, loaded, session, sessionLoaded, _, _, _, _, _, _, _, _, ⟨vaultAddress, _⟩, _,
    _, _, _, _, _, _, rfl, rfl⟩ := passed
  -- A refusal that is no fault at all, or the admitted one.
  have usageFits : ¬(∃ session, ledger.account accounts.paySession =
      some (.paySession session) ∧ 2 ^ 64 ≤ session.usageAmount.toNat + amount.toNat) →
      ∃ usage, Checked.addU64 session.usageAmount amount = some usage := by
    intro fits
    apply Checked.exists_addU64
    by_contra overflows
    exact fits ⟨session, sessionLoaded, not_lt.mp overflows⟩
  refine avoids_bind.mpr ⟨avoids_require.mpr (by simp [Error.isArithmetic]), ?_⟩
  intro _ _
  refine avoids_bind.mpr ⟨avoids_require.mpr (by simp [Error.isArithmetic]), ?_⟩
  intro _ active
  rw [require_eq_ok] at active
  refine avoids_bind.mpr ⟨avoids_require.mpr (by simp [Error.isArithmetic]), ?_⟩
  intro _ _
  refine avoids_bind.mpr ⟨?_, ?_⟩
  · unfold reservationCheck
    split
    next =>
      refine avoids_bind.mpr ⟨avoids_okOr.mpr fun isBad => ?_, ?_⟩
      · exact usageFits fun overflows => isBad.2 ⟨rfl, overflows⟩
      intro newTotal _
      exact avoids_require.mpr (by simp [Error.isArithmetic])
    next => exact avoids_ok
  intro _ _
  have ok := ready.settleable loaded (active ▸ View.SettlesAt.active)
  apply guards_avoid ok
  intro unlocked unlockedEq
  have capped := parent.unlockedBy_le_deposited now
  have covered := ok.covered
  refine avoids_bind.mpr ⟨avoids_okOr.mpr fun _ => ?_, ?_⟩
  · apply Checked.exists_subU64
    omega
  intro remaining subtracted
  rw [okOr_eq_ok, Checked.subU64_eq_some] at subtracted
  refine avoids_bind.mpr ⟨avoids_require.mpr (by simp [Error.isArithmetic]), ?_⟩
  intro _ bounded
  rw [require_eq_ok, UInt64.le_iff_toNat_le] at bounded
  refine avoids_bind.mpr ⟨(transfer_avoids ?_).mono fun _ isBad => isBad.1, ?_⟩
  · intro vault vaultAt
    rw [vaultAddress] at vaultAt
    exact ready.covers loaded (by omega) vaultAt
  intro paid _
  refine avoids_bind.mpr ⟨avoids_okOr.mpr fun _ => ?_, ?_⟩
  · have bound := parent.depositedAmount.toNat_lt
    apply Checked.exists_addU64
    omega
  intro withdrawn _
  refine avoids_bind.mpr ⟨avoids_okOr.mpr fun isBad => ?_, fun _ _ => avoids_pure⟩
  exact usageFits fun overflows => isBad.2 ⟨rfl, overflows⟩

theorem transferIfPositive_avoids {source destination authority : Pubkey} {amount : UInt64}
    (covered : ∀ token, ledger.account source = some (.token token) →
      amount.toNat ≤ token.amount.toNat) :
    Avoids Error.Fault (transferIfPositive ledger source destination authority amount) := by
  unfold transferIfPositive
  split
  next => exact transfer_avoids covered
  next => exact avoids_ok

private theorem closeToken_avoids {key authority : Pubkey} :
    Avoids Error.Fault (ledger.closeToken key authority) := by
  simp [closeToken, loadToken, avoids_bind, avoids_map, avoids_require]

private theorem effectiveNow_avoids {loaded : Cancel.Loaded} :
    Avoids Error.Fault (effectiveNow now loaded) := by
  unfold effectiveNow
  split
  next => exact avoids_ok
  next => simp [avoids_map, avoids_okOr, Error.isArithmetic]
  next => simp [avoids_map, avoids_okOr, Error.isArithmetic]
  next => simp [avoids_error, Error.isArithmetic]

theorem cancel_avoids (ready : ledger.Ready now) (accounts : Cancel) :
    Avoids Error.Fault (cancel ledger now accounts) := by
  refine avoids_bind.mpr ⟨accounts.tryAccounts_avoids, ?_⟩
  intro found passed
  simp only [Cancel.tryAccounts, bind_eq_ok, loadSubscription_eq_ok, loadToken_eq_ok,
    distinctMut_eq_ok, seedsIfSome_eq_ok, seedsWithBump, requireMint, requireAuthority,
    require_eq_ok, exists_const, pure_eq_ok] at passed
  obtain ⟨sub, loaded, _, _, _, _, ata, ataLoaded, graced, gracedLoaded, paused, pausedLoaded,
    _, _, _, ⟨vaultAddress, _⟩, _, _, destination, _, _, ataOwner, graceSlot, pausedSlot, _,
    rfl⟩ := passed
  refine avoids_bind.mpr ⟨avoids_require.mpr (by simp [Error.isArithmetic]), ?_⟩
  intro _ _
  refine avoids_bind.mpr ⟨avoids_require.mpr (by simp [Error.isArithmetic]), ?_⟩
  intro _ running
  rw [require_eq_ok] at running
  refine avoids_bind.mpr ⟨avoids_require.mpr fun _ => ?_, ?_⟩
  · exact Int64.le_iff_toInt_le.mpr (ready.current loaded running)
  intro _ _
  refine avoids_bind.mpr ⟨avoids_require.mpr fun _ => ?_, ?_⟩
  · simpa [Int64.lt_iff_toInt_lt] using ready.wellFormed.sub_period loaded
  intro _ _
  refine avoids_bind.mpr ⟨effectiveNow_avoids, ?_⟩
  intro moment effective
  have ok := ready.settleable loaded (settlesAt_view
    (settlesAt_of_effectiveNow gracedLoaded pausedLoaded graceSlot pausedSlot effective))
  obtain ⟨unlocked, computed, unlockedEq⟩ :=
    unlockedAt_exact .mathOverflow ok.epoch ok.started ok.period
  have capped := sub.unlockedBy_le_deposited moment
  have covered := ok.covered
  refine avoids_bind.mpr ⟨avoids_require.mpr fun _ => ?_, ?_⟩
  · exact Int64.le_iff_toInt_le.mpr ok.started
  intro _ _
  simp only [computed]
  change Avoids _ (okOr (Checked.subU64 unlocked sub.withdrawnAmount) _ >>= _)
  refine avoids_bind.mpr ⟨avoids_okOr.mpr fun _ => ?_, ?_⟩
  · apply Checked.exists_subU64
    omega
  intro claimable claimableSome
  rw [okOr_eq_ok, Checked.subU64_eq_some] at claimableSome
  refine avoids_bind.mpr ⟨avoids_okOr.mpr fun _ => ?_, ?_⟩
  · apply Checked.exists_subU64
    omega
  intro refund refundSome
  rw [okOr_eq_ok, Checked.subU64_eq_some] at refundSome
  refine avoids_bind.mpr ⟨transferIfPositive_avoids ?_, ?_⟩
  · intro vault vaultAt
    rw [vaultAddress] at vaultAt
    exact ready.covers loaded (by omega) vaultAt
  intro settled settlement
  refine avoids_bind.mpr ⟨transferIfPositive_avoids ?_, ?_⟩
  · intro rest restAt
    -- The settlement left the vault with the refund and what was donated.
    have address := ready.wellFormed.sub_key loaded
    rw [vaultAddress, address] at settlement restAt
    rw [destination] at settlement
    obtain ⟨vault, vaultAt, vaultEq, _⟩ := transferIfPositive_view_debit
      (ready.wellFormed.sub_merchantAta loaded) settlement (view_vault.mpr restAt)
    rw [address] at loaded
    have funded := ready.funded _ _ _ _ (view_subscription.mpr loaded) vaultAt
    omega
  intro refunded _
  refine avoids_bind.mpr ⟨avoids_okOr.mpr fun _ => ?_, ?_⟩
  · have bound := sub.depositedAmount.toNat_lt
    apply Checked.exists_addU64
    omega
  intro withdrawn _
  refine avoids_bind.mpr ⟨closeToken_avoids, fun _ _ => avoids_pure⟩

private theorem transfer_not_arithmetic {source destination authority : Pubkey}
    {amount : UInt64} :
    Avoids (fun error => error.isArithmetic = true)
      (ledger.transfer source destination authority amount) := by
  have harmless : ∀ code, ¬(Error.token code).isArithmetic = true := fun _ => Bool.false_ne_true
  apply transfer_avoids_of
  · exact ⟨fun _ => Bool.false_ne_true, Bool.false_ne_true⟩
  · intro code isBad
    exact (harmless code isBad).elim
  · intro isBad
    exact (harmless _ isBad).elim

/-- The only overflow that `top_up` admits is that of the deposit; the payer here is the
subscriber, who may lack the money. -/
theorem topUp_avoids (ready : ledger.Ready now) (accounts : TopUp) (amount : UInt64) :
    Avoids (fun error => error.isArithmetic = true ∧
        ¬(error = .nakama .mathOverflow ∧ ∃ sub,
          ledger.account accounts.subscription = some (.subscription sub) ∧
          2 ^ 64 ≤ sub.depositedAmount.toNat + amount.toNat))
      (topUp ledger now accounts amount) := by
  refine avoids_bind.mpr ⟨accounts.tryAccounts_avoids.mono fun _ isBad => .inl isBad.1, ?_⟩
  rintro ⟨_, _⟩ passed
  simp only [TopUp.tryAccounts, bind_eq_ok, loadSubscription_eq_ok, seedsIfSome_eq_ok,
    require_eq_ok, exists_const, pure_eq_ok, Prod.mk.injEq] at passed
  obtain ⟨sub, loaded, graced, gracedLoaded, _, _, _, _, _, _, _, graceSlot, _, _, _, _, _, _,
    _, _, _, _, rfl, rfl⟩ := passed
  refine avoids_bind.mpr ⟨avoids_require.mpr (by simp [Error.isArithmetic]), ?_⟩
  intro _ _
  refine avoids_bind.mpr ⟨avoids_require.mpr (by simp [Error.isArithmetic]), ?_⟩
  intro _ _
  refine avoids_bind.mpr ⟨avoids_require.mpr (by simp [Error.isArithmetic]), ?_⟩
  intro _ _
  refine avoids_bind.mpr ⟨transfer_not_arithmetic.mono fun _ isBad => isBad.1, ?_⟩
  intro funded _
  refine avoids_bind.mpr ⟨avoids_okOr.mpr fun isBad => ?_, ?_⟩
  · apply Checked.exists_addU64
    by_contra overflows
    exact isBad.2 ⟨rfl, sub, loaded, not_lt.mp overflows⟩
  intro deposited _
  refine avoids_bind.mpr ⟨?_, fun _ _ => avoids_pure⟩
  unfold topUpTail
  split
  next grace =>
    rw [avoids_bind]
    refine ⟨?_, fun _ _ => avoids_pure⟩
    refine avoids_bind.mpr ⟨avoids_okOr.mpr (by simp [Error.isArithmetic]), ?_⟩
    intro satellite present
    rw [okOr_eq_ok] at present
    have satelliteAt : ledger.account (.grace accounts.subscription) =
        some (.graced satellite) := by
      rcases loadOptional_eq_ok.mp gracedLoaded with
        ⟨_, absent⟩ | ⟨key, found, attached, foundEq, loadedSatellite⟩
      · rw [absent] at present
        cases present
      · rw [foundEq, Option.some.injEq] at present
        subst present
        obtain rfl := graceSlot key attached
        exact loadGraced_eq_ok.mp loadedSatellite
    have drained := ready.drained loaded grace (view_graced.mpr satelliteAt)
    apply shift_avoids (le_trans (ready.created loaded) drained.anchored) drained.started
      drained.past
    intro duration shifted
    exact avoids_pure
  next => exact avoids_pure

end Handlers

end Nakama
