import Nakama.Refinement.Solvency

/-!
# When transfers and `cancel` go through

The forward direction of the checks: on a well-formed ledger with a bounded supply a
transfer that its source covers succeeds, and so does a `cancel` with the right accounts
whose vault holds exactly what was not withdrawn.
-/

namespace Nakama

open Guard Ledger

namespace Ledger

variable {ledger : Ledger} {source destination authority : Pubkey}
  {sourceToken destinationToken : TokenAccount} {amount : UInt64}

/-- A covered transfer between accounts of one mint succeeds: the destination has room,
because the supply does not exceed a `u64`. -/
theorem exists_transfer (supply : Supply.Fits (2 ^ 64) (ledger.held sourceToken.mint))
    (sourceLoaded : ledger.account source = some (.token sourceToken))
    (destinationLoaded : ledger.account destination = some (.token destinationToken))
    (funds : amount.toNat ≤ sourceToken.amount.toNat)
    (mints : sourceToken.mint = destinationToken.mint)
    (owner : sourceToken.owner = authority) :
    ∃ moved, ledger.transfer source destination authority amount = .ok moved := by
  by_cases same : source = destination
  · exact ⟨ledger, transfer_eq_ok.mpr ⟨sourceToken, destinationToken, sourceLoaded,
      destinationLoaded, funds, mints, owner, .inl ⟨same, rfl⟩⟩⟩
  · have bounded := supply.pair same
    rw [held_of_token sourceLoaded, held_of_token destinationLoaded, if_pos rfl,
      if_pos mints.symm] at bounded
    obtain ⟨credited, sum⟩ := Checked.exists_addU64
      (by omega : destinationToken.amount.toNat + amount.toNat < 2 ^ 64)
    exact ⟨_, transfer_eq_ok.mpr ⟨sourceToken, destinationToken, sourceLoaded,
      destinationLoaded, funds, mints, owner,
      .inr ⟨same, credited, Checked.addU64_eq_some.mp sum, rfl⟩⟩⟩

/-- The same for a transfer of `cancel`, with what it leaves. -/
theorem exists_transferIfPositive
    (supply : Supply.Fits (2 ^ 64) (ledger.held sourceToken.mint))
    (sourceLoaded : ledger.account source = some (.token sourceToken))
    (destinationLoaded : ledger.account destination = some (.token destinationToken))
    (different : source ≠ destination)
    (funds : amount.toNat ≤ sourceToken.amount.toNat)
    (mints : sourceToken.mint = destinationToken.mint)
    (owner : sourceToken.owner = authority) :
    ∃ moved, transferIfPositive ledger source destination authority amount = .ok moved ∧
      (∃ rest : UInt64, rest.toNat + amount.toNat = sourceToken.amount.toNat ∧
        moved.account source = some (.token { sourceToken with amount := rest })) ∧
      ∀ key token, ledger.account key = some (.token token) →
        ∃ after, moved.account key = some (.token after) ∧ after.mint = token.mint ∧
          after.owner = token.owner := by
  by_cases positive : 0 < amount
  · obtain ⟨moved, transferred⟩ := exists_transfer supply sourceLoaded destinationLoaded funds
      mints owner
    refine ⟨moved, ?_, ?_, ?_⟩
    · rw [transferIfPositive, if_pos positive]
      exact transferred
    · obtain ⟨token, found, _, _, debited⟩ := transfer_account_source transferred different
      rw [sourceLoaded] at found
      cases found
      refine ⟨_, ?_, debited⟩
      rw [UInt64.toNat_sub_of_le _ _ (UInt64.le_iff_toNat_le.mpr funds)]
      omega
    · intro key token loaded
      rcases transfer_account transferred key with same | ⟨before, after, found, moves, kept⟩
      · exact ⟨token, same.trans loaded, rfl, rfl⟩
      · rw [loaded] at found
        cases found
        exact ⟨after, moves, kept⟩
  · have zero : amount.toNat = 0 := by
      simpa [UInt64.lt_iff_toNat_lt] using positive
    refine ⟨ledger, ?_, ⟨sourceToken.amount, by omega, sourceLoaded⟩, ?_⟩
    · rw [transferIfPositive, if_neg positive]
    · intro key token loaded
      exact ⟨token, loaded, rfl, rfl⟩

end Ledger

/-- The accounts of a `cancel` are the right ones: the derived addresses, the recorded
merchant account and one of the subscriber, both of the right mint, and of the satellites
exactly the one that the state requires. -/
structure Cancel.Right (accounts : Cancel) (ledger : Ledger) (sub : Subscription Pubkey) :
    Prop where
  subscription : ledger.account accounts.subscription = some (.subscription sub)
  subscriber : accounts.subscriber = sub.subscriber
  vault : accounts.vault = .vault accounts.subscription
  merchantAta : accounts.merchantAta = sub.merchantAta
  merchantToken : ∃ token, ledger.account accounts.merchantAta = some (.token token) ∧
    token.mint = sub.tokenMint
  subscriberToken : ∃ token, ledger.account accounts.subscriberAta = some (.token token) ∧
    token.mint = sub.tokenMint ∧ token.owner = sub.subscriber
  graced : accounts.gracedSubscription =
    if sub.state = .gracePeriod then some (.grace accounts.subscription) else none
  paused : accounts.pausedSubscription =
    if sub.state = .paused then some (.pausedSub accounts.subscription) else none

section Control

variable {ledger : Ledger} {now : Int64} {sub : Subscription Pubkey}

/-- On a sound ledger a `pause` succeeds exactly for the merchant of an active stream, with
the derived satellite address and an age that is an `i64`. -/
theorem pause_succeeds_iff {accounts : Pause} (wellFormed : ledger.WellFormed)
    (loaded : ledger.account accounts.subscription = some (.subscription sub))
    (sound : (ledger.view accounts.subscription).Sound now) :
    (∃ outcome, pause ledger now accounts = .ok outcome) ↔
      sub.state = .active ∧ accounts.pausedSatellite = .pausedSub accounts.subscription ∧
        sub.merchant = accounts.merchant.key ∧
        Checked.FitsI64 (now.toInt - sub.streamStart.toInt) := by
  constructor
  · rintro ⟨outcome, executed⟩
    cases pause_effect executed with
    | pause found _ signed satelliteAddress _ active _ fits =>
        rw [loaded] at found
        cases found
        exact ⟨active, satelliteAddress, signed, fits⟩
  · rintro ⟨active, satelliteAddress, signed, fits⟩
    have address := wellFormed.sub_key loaded
    have bumps := wellFormed.sub_bumps loaded
    have period := wellFormed.sub_period loaded
    have streaming := sound.of_active (view_subscription.mpr loaded) active
    have vacant : ledger.account (.pausedSub accounts.subscription) = none := by
      cases found : ledger.account (.pausedSub accounts.subscription) with
      | none => rfl
      | some account =>
          obtain ⟨paused, rfl⟩ := wellFormed.paused_of_key found
          have present := view_paused.mpr found
          rw [streaming.paused] at present
          cases present
    obtain ⟨_, unlocking, _⟩ := exists_unlockedAt .mathOverflow streaming.started period fits
    simp only [pause, Pause.tryAccounts, pauseHandler, bind_eq_ok, require_eq_ok, exists_const,
      loadSubscription_eq_ok, seeds, Ledger.vacant, seedsWithBump, pure_eq_ok,
      Int64.le_iff_toInt_le, Int64.lt_iff_toInt_lt, Int64.toInt_zero]
    refine ⟨_, sub, ⟨sub, loaded, satelliteAddress, ?_, ⟨address, ?_⟩, signed, rfl⟩, active,
      streaming.started, period, _, unlocking, rfl⟩
    · rw [satelliteAddress]
      exact vacant
    · rw [← address]
      exact bumps.1

/-- On a well-formed ledger a `resume` succeeds exactly for the merchant of a paused stream,
with the derived satellite address and clocks that are `i64`s. -/
theorem resume_succeeds_iff {accounts : Resume} (wellFormed : ledger.WellFormed)
    (loaded : ledger.account accounts.subscription = some (.subscription sub)) :
    (∃ outcome, resume ledger now accounts = .ok outcome) ↔
      ∃ paused, sub.state = .paused ∧
        (ledger.view accounts.subscription).paused = some paused ∧
        accounts.pausedSatellite = .pausedSub accounts.subscription ∧
        sub.merchant = accounts.merchant.key ∧ paused.pausedAt.toInt ≤ now.toInt ∧
        Checked.FitsI64 (now.toInt - paused.pausedAt.toInt) ∧
        Checked.FitsI64 (sub.streamStart.toInt + (now.toInt - paused.pausedAt.toInt)) := by
  constructor
  · rintro ⟨outcome, executed⟩
    cases resume_effect executed with
    | @resume _ _ paused streamStart _ found _ signed satelliteAddress satellite frozen ordered
        shifted fits =>
        rw [loaded] at found
        cases found
        refine ⟨paused, frozen, view_paused.mpr satellite, satelliteAddress, signed, ordered,
          fits, ?_⟩
        rw [← shifted]
        exact Checked.fitsI64_toInt streamStart
  · rintro ⟨paused, frozen, pausedAt, satelliteAddress, signed, ordered, fits, anchorFits⟩
    have address := wellFormed.sub_key loaded
    have bumps := wellFormed.sub_bumps loaded
    have satellite := view_paused.mp pausedAt
    have placed := wellFormed _ _ satellite
    obtain ⟨duration, durationSome⟩ := Checked.exists_toI64 fits
    have durationEq := Checked.toI64_eq_some.mp durationSome
    rw [← durationEq] at anchorFits
    obtain ⟨streamStart, streamStartSome⟩ := Checked.exists_toI64 anchorFits
    cases placed with
    | paused satelliteKey satelliteBump =>
        rw [Pubkey.pausedSub.injEq] at satelliteKey
        simp only [resume, Resume.tryAccounts, resumeHandler, bind_eq_ok, require_eq_ok,
          exists_const, loadSubscription_eq_ok, loadPaused_eq_ok, seedsWithBump, pure_eq_ok,
          okOr_eq_ok, Int64.le_iff_toInt_le]
        refine ⟨_, (sub, paused), ⟨sub, loaded, paused, ?_, ⟨address, ?_⟩, signed,
          ⟨satelliteAddress, satelliteBump⟩, satelliteKey.symm, rfl⟩, frozen, ordered, duration,
          durationSome, streamStart, streamStartSome, rfl⟩
        · rw [satelliteAddress]
          exact satellite
        · rw [← address]
          exact bumps.1

/-- The token account that funds a deposit of the amount. -/
def Funds (ledger : Ledger) (sub : Subscription Pubkey) (ata : Pubkey) (amount : UInt64) :
    Prop :=
  ∃ token, ledger.account ata = some (.token token) ∧ token.mint = sub.tokenMint ∧
    token.owner = sub.subscriber ∧ amount.toNat ≤ token.amount.toNat

private theorem topUp_graced_fits {accounts : TopUp} {amount : UInt64} {outcome : Outcome}
    {graced : GracedSubscription Pubkey}
    (executed : topUp ledger now accounts amount = .ok outcome)
    (loaded : ledger.account accounts.subscription = some (.subscription sub))
    (grace : sub.state = .gracePeriod)
    (satellite : ledger.account (.grace accounts.subscription) = some (.graced graced)) :
    Checked.FitsI64 (now.toInt - graced.enteredGraceAt.toInt) := by
  simp only [topUp, TopUp.tryAccounts, topUpHandler, bind_eq_ok, require_eq_ok,
    exists_const, loadSubscription_eq_ok, loadToken_eq_ok, loadOptional_eq_ok,
    loadGraced_eq_ok, seedsIfSome_eq_ok, seedsWithBump, requireMint, requireAuthority,
    pure_eq_ok, okOr_eq_ok, Prod.exists, Prod.mk.injEq] at executed
  obtain ⟨_, _, ⟨found, foundAt, slotted, slotLoaded, _, _, _, _, _, _, slot, _, _, _, _, _,
    rfl, rfl⟩, _, _, required, _, _, _, _, final, events, branch, _⟩ := executed
  rw [loaded] at foundAt
  cases foundAt
  rw [topUpTail, if_pos grace] at branch
  rcases slotLoaded with ⟨_, rfl⟩ | ⟨key, present, attached, rfl, presentAt⟩
  · exact absurd (required grace) (by simp)
  · obtain rfl := slot key attached
    rw [satellite] at presentAt
    cases presentAt
    simp only [recoverFromGrace, bind_eq_ok, okOr_eq_ok, Option.some.injEq, exists_eq_left',
      Checked.subI64_eq_some] at branch
    obtain ⟨_, ⟨_, _, duration, durationEq, _⟩, _⟩ := branch
    rw [← durationEq]
    exact Checked.fitsI64_toInt duration

private theorem funds_of_transfer {ata vaultKey : Pubkey} {amount : UInt64} {funded : Ledger}
    {key : Pubkey} (wellFormed : ledger.WellFormed)
    (loaded : ledger.account key = some (.subscription sub)) (vaultAddress : vaultKey = .vault key)
    (transferred : ledger.transfer ata vaultKey sub.subscriber amount = .ok funded) :
    Funds ledger sub ata amount := by
  subst vaultAddress
  obtain ⟨token, vault, tokenAt, vaultAt, covers, mints, owner, _⟩ :=
    transfer_eq_ok.mp transferred
  exact ⟨token, tokenAt, mints.trans (wellFormed.vault_terms loaded vaultAt).1, owner, covers⟩

/-- On a sound ledger a `top_up` succeeds exactly for the subscriber of a running stream, with
the satellite attached in grace and only there, out of an account that has the amount, and
unless the deposit or the time in grace leaves its range. -/
theorem topUp_succeeds_iff {accounts : TopUp} {amount : UInt64}
    (wellFormed : ledger.WellFormed)
    (supply : ∀ mint, Supply.Fits (2 ^ 64) (ledger.held mint))
    (loaded : ledger.account accounts.subscription = some (.subscription sub))
    (sound : (ledger.view accounts.subscription).Sound now)
    (vaulted : (sub.state = .active ∨ sub.state = .paused ∨ sub.state = .gracePeriod) →
      ∃ vault, ledger.account (.vault accounts.subscription) = some (.token vault)) :
    (∃ outcome, topUp ledger now accounts amount = .ok outcome) ↔
      (sub.state = .active ∨ sub.state = .paused ∨ sub.state = .gracePeriod) ∧
        accounts.subscriber.key = sub.subscriber ∧
        accounts.vault = .vault accounts.subscription ∧
        accounts.gracedSubscription = (if sub.state = .gracePeriod then
          some (.grace accounts.subscription) else none) ∧
        0 < amount.toNat ∧ Funds ledger sub accounts.subscriberAta amount ∧
        sub.depositedAmount.toNat + amount.toNat < 2 ^ 64 ∧
        ∀ graced ∈ (ledger.view accounts.subscription).graced,
          Checked.FitsI64 (now.toInt - graced.enteredGraceAt.toInt) := by
  constructor
  · rintro ⟨outcome, executed⟩
    cases topUp_effect executed with
    | @topUp _ _ deposited _ ata _ _ found address signed vaultAddress ataLoaded ataOwner running
        positive depositedEq transferred slot =>
        rw [loaded] at found
        cases found
        have alive : sub.state = .active ∨ sub.state = .paused ∨ sub.state = .gracePeriod := by
          tauto
        have notGrace : sub.state ≠ .gracePeriod := by
          rcases running with active | paused <;> simp [*]
        have plain : (ledger.view accounts.subscription).graced = none := by
          rcases running with active | paused
          · exact (sound.of_active (view_subscription.mpr loaded) active).graced
          · obtain ⟨_, frozen⟩ := sound.of_paused (view_subscription.mpr loaded) paused
            exact frozen.graced
        have bound := deposited.toNat_lt
        rw [← signed] at transferred
        refine ⟨alive, signed.symm, vaultAddress, ?_, positive,
          funds_of_transfer wellFormed loaded vaultAddress transferred, by omega, ?_⟩
        · rw [if_neg notGrace]
          cases attached : accounts.gracedSubscription with
          | none => rfl
          | some key =>
              obtain ⟨rfl, graced, present⟩ := slot key attached
              rw [view_graced.mpr present] at plain
              cases plain
        · intro graced present
          rw [plain] at present
          cases present
    | @recover _ _ deposited _ graced ata _ _ _ found address signed vaultAddress ataLoaded
        ataOwner grace positive depositedEq transferred slot satellite =>
        rw [loaded] at found
        cases found
        have bound := deposited.toNat_lt
        rw [← signed] at transferred
        refine ⟨.inr (.inr grace), signed.symm, vaultAddress, ?_, positive,
          funds_of_transfer wellFormed loaded vaultAddress transferred, by omega, ?_⟩
        · rw [if_pos grace, slot]
        · intro found foundAt
          rw [view_graced.mpr satellite, Option.mem_some_iff] at foundAt
          subst foundAt
          exact topUp_graced_fits executed loaded grace satellite
  · rintro ⟨alive, signed, vaultAddress, slot, positive, ⟨token, tokenAt, mint, owner, covers⟩,
      room, fits⟩
    have address := wellFormed.sub_key loaded
    have bumps := wellFormed.sub_bumps loaded
    obtain ⟨vault, vaultAt⟩ := vaulted alive
    have vaultTerms := wellFormed.vault_terms loaded vaultAt
    obtain ⟨funded, transferred⟩ := exists_transfer (supply token.mint) tokenAt vaultAt covers
      (mint.trans vaultTerms.1.symm) owner
    obtain ⟨deposited, added⟩ := Checked.exists_addU64 room
    have nonzero : 0 < amount := by simpa [UInt64.lt_iff_toNat_lt] using positive
    have checks : ∀ graced, ledger.loadOptional loadGraced accounts.gracedSubscription =
        .ok graced → accounts.tryAccounts ledger = .ok (sub, graced) := by
      intro graced slotLoaded
      simp only [TopUp.tryAccounts, bind_eq_ok, loadSubscription_eq_ok, loadToken_eq_ok,
        seedsWithBump, seedsIfSome_eq_ok, requireMint, requireAuthority, require_eq_ok,
        exists_const, pure_eq_ok]
      refine ⟨sub, loaded, graced, slotLoaded, vault, ?_, token, tokenAt, ⟨address, ?_⟩,
        signed.symm, ?_, ⟨vaultAddress, bumps.2⟩, vaultTerms.1, vaultTerms.2, mint,
        owner.trans signed.symm, rfl⟩
      · rw [vaultAddress]
        exact vaultAt
      · rw [← address]
        exact bumps.1
      · intro key attached
        rw [slot] at attached
        split at attached
        · exact (Option.some.inj attached).symm
        · cases attached
    rw [← signed, ← vaultAddress] at transferred
    by_cases grace : sub.state = .gracePeriod
    · obtain ⟨graced, drained⟩ := sound.of_grace (view_subscription.mpr loaded) grace
      have satellite := view_graced.mp drained.satellite
      have entered := drained.past
      have started := drained.started
      obtain ⟨duration, durationSome⟩ := Checked.exists_toI64 (fits graced drained.satellite)
      have durationEq := Checked.toI64_eq_some.mp durationSome
      -- The shifted anchor is between the old one and now.
      have anchorBound := sub.streamStart.le_toInt
      have clockBound := now.toInt_lt
      obtain ⟨streamStart, streamStartSome⟩ := @Checked.exists_toI64
        (sub.streamStart.toInt + duration.toInt) (by
          unfold Checked.FitsI64
          omega)
      have passed := checks (some graced) (by
        rw [slot, if_pos grace]
        exact loadOptional_eq_ok.mpr (.inr ⟨_, _, rfl, rfl, loadGraced_eq_ok.mpr satellite⟩))
      have tail : ∃ final, topUpTail now accounts { sub with depositedAmount := deposited }
          (some graced) amount = .ok final := by
        rw [topUpTail, if_pos grace]
        simp only [recoverFromGrace, bind_eq_ok, okOr_eq_ok, require_eq_ok, exists_const,
          pure_eq_ok, Int64.le_iff_toInt_le]
        exact ⟨_, _, ⟨graced, rfl, entered, duration, durationSome, streamStart,
          streamStartSome, rfl⟩, rfl⟩
      obtain ⟨final, finalEq⟩ := tail
      simp only [topUp, topUpHandler, bind_eq_ok, require_eq_ok, exists_const, pure_eq_ok,
        okOr_eq_ok]
      exact ⟨_, (sub, some graced), passed, nonzero, alive, fun _ => rfl, funded, transferred,
        deposited, added, final, finalEq, rfl⟩
    · have passed := checks none (by
        rw [slot, if_neg grace]
        rfl)
      have tail : ∃ final, topUpTail now accounts { sub with depositedAmount := deposited }
          none amount = .ok final := by
        rw [topUpTail, if_neg grace]
        exact ⟨_, rfl⟩
      obtain ⟨final, finalEq⟩ := tail
      simp only [topUp, topUpHandler, bind_eq_ok, require_eq_ok, exists_const, pure_eq_ok,
        okOr_eq_ok]
      exact ⟨_, (sub, none), passed, nonzero, alive, fun inGrace => (grace inGrace).elim, funded,
        transferred, deposited, added, final, finalEq, rfl⟩

end Control

section Cancel

variable {ledger : Ledger} {now moment : Int64} {accounts : Cancel}
  {sub : Subscription Pubkey}

private theorem exists_satellites (right : accounts.Right ledger sub)
    (wellFormed : ledger.WellFormed)
    (settles : (ledger.view accounts.subscription).SettlesAt now sub.state moment) :
    ∃ graced paused,
      ledger.loadOptional loadGraced accounts.gracedSubscription = .ok graced ∧
      ledger.loadOptional loadPaused accounts.pausedSubscription = .ok paused ∧
      (∀ satellite ∈ paused, satellite.subscription = accounts.subscription) ∧
      effectiveNow now ⟨sub, graced, paused⟩ = .ok moment := by
  rw [right.graced, right.paused]
  generalize stateEq : sub.state = state at settles
  cases settles with
  | active =>
      refine ⟨none, none, rfl, rfl, by simp, ?_⟩
      simp only [effectiveNow, stateEq]
  | @grace graced gracedAt =>
      have satellite := view_graced.mp gracedAt
      refine ⟨some graced, none, ?_, rfl, by simp, ?_⟩
      · exact loadOptional_eq_ok.mpr (.inr ⟨_, graced, if_pos rfl, rfl,
          loadGraced_eq_ok.mpr satellite⟩)
      · simp only [effectiveNow, stateEq]
        rfl
  | @paused paused pausedAt =>
      have satellite := view_paused.mp pausedAt
      refine ⟨none, some paused, rfl, ?_, ?_, ?_⟩
      · exact loadOptional_eq_ok.mpr (.inr ⟨_, paused, if_pos rfl, rfl,
          loadPaused_eq_ok.mpr satellite⟩)
      · intro found member
        cases member
        have address := wellFormed.paused_key satellite
        rw [Pubkey.pausedSub.injEq] at address
        exact address.symm
      · simp only [effectiveNow, stateEq]
        rfl

private theorem vault_terms_of_right (wellFormed : ledger.WellFormed)
    (right : accounts.Right ledger sub) {vault : TokenAccount}
    (vaultAt : ledger.account accounts.vault = some (.token vault)) :
    vault.mint = sub.tokenMint ∧ vault.owner = accounts.subscription := by
  rw [right.vault] at vaultAt
  exact wellFormed.vault_terms right.subscription vaultAt

/-- The vault is none of the accounts that are paid, which are outside the program. -/
private theorem vault_apart_of_right (wellFormed : ledger.WellFormed)
    (right : accounts.Right ledger sub) :
    accounts.vault ≠ accounts.merchantAta ∧ accounts.vault ≠ accounts.subscriberAta := by
  have outside : ∀ {key : Pubkey}, key.isExternal = true → accounts.vault ≠ key := by
    rintro _ external rfl
    rw [right.vault] at external
    cases external
  obtain ⟨token, loaded, _, owner⟩ := right.subscriberToken
  constructor
  · apply outside
    rw [right.merchantAta]
    exact wellFormed.sub_merchantAta right.subscription
  · apply outside
    exact wellFormed.token_external loaded owner (wellFormed.sub_subscriber right.subscription)

/-- The right accounts pass the account checks, when the two that are paid differ. -/
private theorem tryAccounts_of_right (wellFormed : ledger.WellFormed)
    (right : accounts.Right ledger sub)
    (apart : accounts.merchantAta ≠ accounts.subscriberAta) {vault : TokenAccount}
    (vaultAt : ledger.account accounts.vault = some (.token vault))
    {graced : Option (GracedSubscription Pubkey)} {paused : Option (PausedSubscription Pubkey)}
    (gracedLoaded : ledger.loadOptional loadGraced accounts.gracedSubscription = .ok graced)
    (pausedLoaded : ledger.loadOptional loadPaused accounts.pausedSubscription = .ok paused)
    (parent : ∀ satellite ∈ paused, satellite.subscription = accounts.subscription) :
    accounts.tryAccounts ledger = .ok ⟨sub, graced, paused⟩ := by
  have loaded := right.subscription
  have address := wellFormed.sub_key loaded
  have bumps := wellFormed.sub_bumps loaded
  have vaultTerms := vault_terms_of_right wellFormed right vaultAt
  obtain ⟨merchantToken, merchantLoaded, merchantMint⟩ := right.merchantToken
  obtain ⟨subscriberToken, subscriberLoaded, subscriberMint, subscriberOwner⟩ :=
    right.subscriberToken
  obtain ⟨merchantApart, subscriberApart⟩ := vault_apart_of_right wellFormed right
  simp only [Cancel.tryAccounts, bind_eq_ok, require_eq_ok, exists_const,
    loadSubscription_eq_ok, loadToken_eq_ok, distinctMut_eq_ok, seedsIfSome_eq_ok,
    seedsWithBump, requireMint, requireAuthority, pure_eq_ok]
  refine ⟨sub, loaded, vault, vaultAt, merchantToken, merchantLoaded, subscriberToken,
    subscriberLoaded, graced, gracedLoaded, paused, pausedLoaded, ?_, ⟨address, ?_⟩,
    right.subscriber, ⟨right.vault, bumps.2⟩, vaultTerms.1, vaultTerms.2, right.merchantAta,
    merchantMint, subscriberMint, subscriberOwner, ?_, ?_, parent, rfl⟩
  · rw [Cancel.mutAccounts_nodup_iff loaded vaultAt merchantLoaded subscriberLoaded gracedLoaded
      pausedLoaded]
    simp [merchantApart, subscriberApart, apart]
  · rw [← address]
    exact bumps.1
  · intro key given
    rw [right.graced] at given
    split at given
    next =>
      cases given
      rfl
    next => cases given
  · intro key given
    rw [right.paused] at given
    split at given
    next =>
      cases given
      rfl
    next => cases given

/-- Two payments that add up to the balance of the vault can be made, and the vault can be
closed after them. -/
private theorem exists_payout (wellFormed : ledger.WellFormed)
    (supply : ∀ mint, Supply.Fits (2 ^ 64) (ledger.held mint))
    (right : accounts.Right ledger sub) {vault : TokenAccount}
    (vaultAt : ledger.account accounts.vault = some (.token vault)) {claimable refund : UInt64}
    (total : claimable.toNat + refund.toNat = vault.amount.toNat) :
    ∃ settled refunded,
      transferIfPositive ledger accounts.vault accounts.merchantAta accounts.subscription
        claimable = .ok settled ∧
      transferIfPositive settled accounts.vault accounts.subscriberAta accounts.subscription
        refund = .ok refunded ∧
      refunded.closeToken accounts.vault accounts.subscription =
        .ok (refunded.close accounts.vault) := by
  have loaded := right.subscription
  have vaultTerms := vault_terms_of_right wellFormed right vaultAt
  obtain ⟨merchantToken, merchantLoaded, merchantMint⟩ := right.merchantToken
  obtain ⟨subscriberToken, subscriberLoaded, subscriberMint, subscriberOwner⟩ :=
    right.subscriberToken
  obtain ⟨merchantApart, subscriberApart⟩ := vault_apart_of_right wellFormed right
  obtain ⟨settled, settlement, ⟨rest, restEq, restAt⟩, kept⟩ :=
    @exists_transferIfPositive ledger _ _ accounts.subscription _ _ claimable
      (supply vault.mint) vaultAt merchantLoaded merchantApart (by omega)
      (vaultTerms.1.trans merchantMint.symm) vaultTerms.2
  obtain ⟨remaining, remainingAt, remainingMint, _⟩ := kept _ _ subscriberLoaded
  have supplied : Supply.Fits (2 ^ 64) (settled.held vault.mint) :=
    Conserves.refl.transferIfPositive settlement _ (supply vault.mint)
  obtain ⟨refunded, refunding, ⟨last, lastEq, lastAt⟩, _⟩ :=
    @exists_transferIfPositive settled _ _ accounts.subscription { vault with amount := rest }
      _ refund supplied restAt remainingAt subscriberApart (by simp only; omega)
      (vaultTerms.1.trans (subscriberMint.symm.trans remainingMint.symm)) vaultTerms.2
  have empty : last = 0 := by
    apply UInt64.toNat_inj.mp
    simp only at lastEq
    rw [UInt64.toNat_zero]
    omega
  exact ⟨settled, refunded, settlement, refunding,
    closeToken_eq_ok.mpr ⟨_, lastAt, empty, vaultTerms.2, rfl⟩⟩

/-- A `cancel` with the right accounts empties a vault that holds what was not withdrawn. -/
theorem cancel_succeeds (wellFormed : ledger.WellFormed)
    (supply : ∀ mint, Supply.Fits (2 ^ 64) (ledger.held mint))
    (right : accounts.Right ledger sub)
    (apart : accounts.merchantAta ≠ accounts.subscriberAta)
    (signed : accounts.signer.key = sub.subscriber ∨ accounts.signer.key = sub.merchant)
    (settles : (ledger.view accounts.subscription).SettlesAt now sub.state moment)
    (current : sub.streamStart.toInt ≤ now.toInt)
    (started : sub.streamStart.toInt ≤ moment.toInt)
    (fits : Checked.FitsI64 (moment.toInt - sub.streamStart.toInt))
    (covered : sub.withdrawnAmount.toNat ≤ sub.unlockedBy moment) {vault : TokenAccount}
    (vaultAt : ledger.account accounts.vault = some (.token vault))
    (exactly : vault.amount.toNat + sub.withdrawnAmount.toNat = sub.depositedAmount.toNat) :
    ∃ outcome, cancel ledger now accounts = .ok outcome := by
  have period := wellFormed.sub_period right.subscription
  obtain ⟨graced, paused, gracedLoaded, pausedLoaded, parent, effective⟩ :=
    exists_satellites right wellFormed settles
  have passed := tryAccounts_of_right wellFormed right apart vaultAt gracedLoaded pausedLoaded
    parent
  -- The two payments add up to what the vault holds.
  have capped := sub.unlockedBy_le_deposited moment
  have bound := sub.depositedAmount.toNat_lt
  obtain ⟨unlocked, unlocking, unlockedEq⟩ :=
    exists_unlockedAt .mathOverflow started period fits
  obtain ⟨claimable, claimableSome⟩ := Checked.exists_subU64
    (by omega : sub.withdrawnAmount.toNat ≤ unlocked.toNat)
  have claimableEq := Checked.subU64_eq_some.mp claimableSome
  obtain ⟨refund, refundSome⟩ := Checked.exists_subU64
    (by omega : unlocked.toNat ≤ sub.depositedAmount.toNat)
  have refundEq := Checked.subU64_eq_some.mp refundSome
  obtain ⟨withdrawn, withdrawnSome⟩ := Checked.exists_addU64
    (by omega : sub.withdrawnAmount.toNat + claimable.toNat < 2 ^ 64)
  obtain ⟨settled, refunded, settlement, refunding, closing⟩ :=
    exists_payout wellFormed supply right vaultAt
      (by omega : claimable.toNat + refund.toNat = vault.amount.toNat)
  have handled : ∃ outcome, cancelHandler ledger now accounts ⟨sub, graced, paused⟩ =
      .ok outcome := by
    simp only [cancelHandler, bind_eq_ok, require_eq_ok, exists_const, okOr_eq_ok,
      Int64.le_iff_toInt_le, Int64.lt_iff_toInt_lt, Int64.toInt_zero]
    exact ⟨_, signed, settles.running, current, period, moment, effective, started, unlocked,
      unlocking, claimable, claimableSome, refund, refundSome, settled, settlement, refunded,
      refunding, withdrawn, withdrawnSome, _, closing, rfl⟩
  obtain ⟨outcome, handled⟩ := handled
  exact ⟨outcome, bind_eq_ok.mpr ⟨_, passed, handled⟩⟩

end Cancel

end Nakama
