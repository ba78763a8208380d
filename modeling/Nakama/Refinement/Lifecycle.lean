import Nakama.Refinement.Projection

/-!
# The life cycle of a subscription

State byte, satellites, vault, counters and clocks of a subscription agree in every
reachable chain.  The stream anchor never passes the moment at which the stream
stands, and what was withdrawn had been unlocked by then.
-/

namespace Nakama

/-! ## Moving the anchor -/

namespace Subscription

variable {Key : Type}

/-- Shifting the anchor by the length of an interruption leaves the seconds that
were counted before it. -/
theorem secondsAt_shift {sub : Subscription Key} {streamStart moment now : Int64}
    (shifted : streamStart.toInt = sub.streamStart.toInt + (now.toInt - moment.toInt)) :
    secondsAt { sub with streamStart } now = sub.secondsAt moment := by
  simp only [secondsAt]
  omega

theorem unlockedBy_shift {sub : Subscription Key} {streamStart moment now : Int64}
    (shifted : streamStart.toInt = sub.streamStart.toInt + (now.toInt - moment.toInt)) :
    unlockedBy { sub with streamStart } now = sub.unlockedBy moment := by
  simp only [unlockedBy, secondsAt_shift shifted]

theorem unlockedBy_deposit {sub : Subscription Key} {depositedAmount : UInt64}
    (more : sub.depositedAmount.toNat ≤ depositedAmount.toNat) (moment : Int64) :
    sub.unlockedBy moment ≤ unlockedBy { sub with depositedAmount } moment :=
  Accrual.unlocked_mono_deposited more _

end Subscription

/-! ## The four phases -/

namespace View

/-- An `Active` subscription: the stream runs. -/
structure Streaming (clock : Int64) (view : View) (sub : Subscription Pubkey) : Prop where
  vault : view.vault ≠ none
  graced : view.graced = none
  paused : view.paused = none
  anchored : sub.createdAt.toInt ≤ sub.streamStart.toInt
  started : sub.streamStart.toInt ≤ clock.toInt
  covered : sub.withdrawnAmount.toNat ≤ sub.unlockedBy clock

/-- A `Paused` subscription: the stream stands where the satellite says. -/
structure Frozen (clock : Int64) (view : View) (sub : Subscription Pubkey)
    (paused : PausedSubscription Pubkey) : Prop where
  vault : view.vault ≠ none
  graced : view.graced = none
  satellite : view.paused = some paused
  anchored : sub.createdAt.toInt ≤ sub.streamStart.toInt
  started : sub.streamStart.toInt ≤ paused.pausedAt.toInt
  past : paused.pausedAt.toInt ≤ clock.toInt
  covered : sub.withdrawnAmount.toNat ≤ sub.unlockedBy paused.pausedAt

/-- A subscription in `GracePeriod`: all that was deposited had been earned. -/
structure Drained (clock : Int64) (view : View) (sub : Subscription Pubkey)
    (graced : GracedSubscription Pubkey) : Prop where
  vault : view.vault ≠ none
  satellite : view.graced = some graced
  paused : view.paused = none
  anchored : sub.createdAt.toInt ≤ sub.streamStart.toInt
  started : sub.streamStart.toInt ≤ graced.enteredGraceAt.toInt
  past : graced.enteredGraceAt.toInt ≤ clock.toInt
  untilEq : graced.graceUntil.toInt = graced.enteredGraceAt.toInt + graceDuration.toInt
  spent : sub.withdrawnAmount = sub.depositedAmount
  earned : sub.depositedAmount.toNat ≤ sub.accruedAt graced.enteredGraceAt

/-- A `cancel` in grace settles up to no moment before grace began. -/
theorem Drained.entered_le {clock : Int64} {view : View} {sub : Subscription Pubkey}
    {graced : GracedSubscription Pubkey} (drained : view.Drained clock sub graced) :
    graced.enteredGraceAt.toInt ≤ (min clock graced.graceUntil).toInt := by
  have past := drained.past
  have untilEq := drained.untilEq
  have positive : 0 ≤ graceDuration.toInt := by decide
  rw [Checked.toInt_min]
  omega

/-- Without a running subscription there is no vault and no satellite. -/
structure Bare (view : View) : Prop where
  vault : view.vault = none
  graced : view.graced = none
  paused : view.paused = none

/-- The accounts of a subscription agree at a moment. -/
def Sound (clock : Int64) (view : View) : Prop :=
  match view.subscription with
  | none => view.Bare
  | some sub =>
      match sub.state with
      | .active => view.Streaming clock sub
      | .paused => ∃ paused, view.Frozen clock sub paused
      | .gracePeriod => ∃ graced, view.Drained clock sub graced
      | .exhausted => False
      | .cancelled => view.Bare ∧ sub.withdrawnAmount.toNat ≤ sub.depositedAmount.toNat

namespace Sound

variable {clock later : Int64} {view : View} {sub : Subscription Pubkey}

/-! ## Reading the invariant -/

theorem of_none (sound : view.Sound clock) (absent : view.subscription = none) :
    view.Bare := by
  simpa only [Sound, absent] using sound

theorem of_active (sound : view.Sound clock) (subAt : view.subscription = some sub)
    (active : sub.state = .active) : view.Streaming clock sub := by
  simpa only [Sound, subAt, active] using sound

theorem of_paused (sound : view.Sound clock) (subAt : view.subscription = some sub)
    (frozen : sub.state = .paused) : ∃ paused, view.Frozen clock sub paused := by
  simpa only [Sound, subAt, frozen] using sound

theorem of_grace (sound : view.Sound clock) (subAt : view.subscription = some sub)
    (grace : sub.state = .gracePeriod) : ∃ graced, view.Drained clock sub graced := by
  simpa only [Sound, subAt, grace] using sound

theorem not_exhausted (sound : view.Sound clock) (subAt : view.subscription = some sub) :
    sub.state ≠ .exhausted := by
  intro exhausted
  simp only [Sound, subAt, exhausted] at sound

theorem of_cancelled (sound : view.Sound clock) (subAt : view.subscription = some sub)
    (cancelled : sub.state = .cancelled) :
    view.Bare ∧ sub.withdrawnAmount.toNat ≤ sub.depositedAmount.toNat := by
  simpa only [Sound, subAt, cancelled] using sound

/-- Nothing is ever withdrawn beyond the deposit. -/
theorem withdrawn_le (sound : view.Sound clock) (subAt : view.subscription = some sub) :
    sub.withdrawnAmount.toNat ≤ sub.depositedAmount.toNat := by
  cases state : sub.state with
  | active =>
      exact le_trans (sound.of_active subAt state).covered (sub.unlockedBy_le_deposited _)
  | paused =>
      obtain ⟨paused, frozen⟩ := sound.of_paused subAt state
      exact le_trans frozen.covered (sub.unlockedBy_le_deposited _)
  | gracePeriod =>
      obtain ⟨graced, drained⟩ := sound.of_grace subAt state
      rw [drained.spent]
  | exhausted => exact (sound.not_exhausted subAt state).elim
  | cancelled => exact (sound.of_cancelled subAt state).2

/-- Without a vault there is no satellite either. -/
theorem bare_of_vault (sound : view.Sound clock) (closed : view.vault = none) : view.Bare := by
  cases found : view.subscription with
  | none => exact sound.of_none found
  | some sub =>
      cases state : sub.state with
      | active => exact ((sound.of_active found state).vault closed).elim
      | paused =>
          obtain ⟨paused, frozen⟩ := sound.of_paused found state
          exact (frozen.vault closed).elim
      | gracePeriod =>
          obtain ⟨graced, drained⟩ := sound.of_grace found state
          exact (drained.vault closed).elim
      | exhausted => exact (sound.not_exhausted found state).elim
      | cancelled => exact (sound.of_cancelled found state).1

/-! ## The moment of a settlement -/

/-- Every running subscription can be settled up to some moment. -/
theorem exists_settles (sound : view.Sound clock) (subAt : view.subscription = some sub)
    (running : sub.state = .active ∨ sub.state = .paused ∨ sub.state = .gracePeriod) :
    ∃ moment, view.SettlesAt clock sub.state moment := by
  rcases running with active | frozen | grace
  · rw [active]
    exact ⟨clock, .active⟩
  · obtain ⟨paused, standing⟩ := sound.of_paused subAt frozen
    rw [frozen]
    exact ⟨paused.pausedAt, .paused standing.satellite⟩
  · obtain ⟨graced, drained⟩ := sound.of_grace subAt grace
    rw [grace]
    exact ⟨_, .grace drained.satellite⟩

/-- Where a settlement moment lies, and that it covers what was withdrawn. -/
theorem of_settles (sound : view.Sound clock) (subAt : view.subscription = some sub)
    {moment : Int64} (settles : view.SettlesAt clock sub.state moment) :
    sub.createdAt.toInt ≤ sub.streamStart.toInt ∧
      sub.streamStart.toInt ≤ clock.toInt ∧ sub.streamStart.toInt ≤ moment.toInt ∧
      sub.withdrawnAmount.toNat ≤ sub.unlockedBy moment := by
  generalize stateEq : sub.state = state at settles
  cases settles with
  | active =>
      have streaming := sound.of_active subAt stateEq
      exact ⟨streaming.anchored, streaming.started, streaming.started, streaming.covered⟩
  | paused pausedAt =>
      obtain ⟨paused, frozen⟩ := sound.of_paused subAt stateEq
      rw [frozen.satellite, Option.some.injEq] at pausedAt
      subst pausedAt
      exact ⟨frozen.anchored, le_trans frozen.started frozen.past, frozen.started,
        frozen.covered⟩
  | grace gracedAt =>
      obtain ⟨graced, drained⟩ := sound.of_grace subAt stateEq
      rw [drained.satellite, Option.some.injEq] at gracedAt
      subst gracedAt
      refine ⟨drained.anchored, le_trans drained.started drained.past,
        le_trans drained.started drained.entered_le, ?_⟩
      rw [drained.spent]
      exact le_min (le_trans drained.earned (sub.accruedAt_mono drained.entered_le)) (le_refl _)

/-! ## Preservation -/

theorem advance (sound : view.Sound clock) (ordered : clock.toInt ≤ later.toInt) :
    view.Sound later := by
  unfold Sound at sound ⊢
  split at sound
  next => exact sound
  next sub _ =>
    split at sound
    next =>
      have more := sub.unlockedBy_mono ordered
      exact { sound with
        started := le_trans sound.started ordered
        covered := le_trans sound.covered more }
    next =>
      obtain ⟨paused, frozen⟩ := sound
      exact ⟨paused, { frozen with past := le_trans frozen.past ordered }⟩
    next =>
      obtain ⟨graced, drained⟩ := sound
      exact ⟨graced, { drained with past := le_trans drained.past ordered }⟩
    next => exact sound
    next => exact sound

theorem congr {before after : View} (sound : before.Sound clock)
    (sameSubscription : after.subscription = before.subscription)
    (sameVault : after.vault = none ↔ before.vault = none)
    (sameGraced : after.graced = before.graced) (samePaused : after.paused = before.paused) :
    after.Sound clock := by
  unfold Sound at sound ⊢
  rw [sameSubscription]
  split at sound
  next => exact ⟨sameVault.mpr sound.vault, sameGraced.trans sound.graced,
    samePaused.trans sound.paused⟩
  next sub _ =>
    split at sound
    next => exact { sound with
      vault := fun absent => sound.vault (sameVault.mp absent)
      graced := sameGraced.trans sound.graced
      paused := samePaused.trans sound.paused }
    next =>
      obtain ⟨paused, frozen⟩ := sound
      exact ⟨paused, { frozen with
        vault := fun absent => frozen.vault (sameVault.mp absent)
        graced := sameGraced.trans frozen.graced
        satellite := samePaused.trans frozen.satellite }⟩
    next =>
      obtain ⟨graced, drained⟩ := sound
      exact ⟨graced, { drained with
        vault := fun absent => drained.vault (sameVault.mp absent)
        satellite := sameGraced.trans drained.satellite
        paused := samePaused.trans drained.paused }⟩
    next => exact sound
    next =>
      obtain ⟨bare, spent⟩ := sound
      exact ⟨⟨sameVault.mpr bare.vault, sameGraced.trans bare.graced,
        samePaused.trans bare.paused⟩, spent⟩

/-- Every step of the subscription keeps its accounts in agreement. -/
theorem step {key : Pubkey} {now : Int64} {action : Action} {before after : View}
    {moved : Route → Nat} (sound : before.Sound now)
    (taken : View.Step key now action before after moved) : after.Sound now := by
  cases taken with
  | subscribe target signed planEq vacant vaultVacant state clocks withdrawn funded
      depositedEq positive =>
      have bare := sound.of_none vacant
      simp only [Sound, state]
      exact {
        vault := by simp
        graced := bare.graced
        paused := bare.paused
        anchored := by rw [clocks.1, clocks.2]
        started := by rw [clocks.1]
        covered := by rw [withdrawn]; exact Nat.zero_le _ }
  | charge target subAt vaultAt active started withdrawnEq unlocked remainingEq healthy =>
      have streaming := sound.of_active subAt active
      simp only [Sound, active]
      exact { streaming with
        vault := by simp
        covered := le_of_eq unlocked }
  | @exhaust _ _ sub _ _ _ _ graceUntil _ subAt vaultAt gracedAt active started withdrawnEq unlocked
      remainingEq untilEq =>
      have streaming := sound.of_active subAt active
      refine ⟨⟨key, now, graceUntil⟩, ?_⟩
      exact {
        vault := by simp
        satellite := rfl
        paused := streaming.paused
        anchored := streaming.anchored
        started := started
        past := le_refl _
        untilEq := untilEq
        spent := rfl
        earned := by
          change sub.depositedAmount.toNat ≤ sub.accruedAt now
          rw [unlocked]
          exact sub.unlockedBy_le_accruedAt now }
  | settleUsage target sessionAddress subAt vaultAt sessionAt active started withdrawnEq
      unlocked =>
      have streaming := sound.of_active subAt active
      simp only [Sound, active]
      exact { streaming with
        vault := by simp
        covered := unlocked }
  | @topUp _ _ _ sub _ deposited _ _ target signed subAt vaultAt running positive depositedEq
      creditedEq slot =>
      have more := @Subscription.unlockedBy_deposit _ sub deposited (by omega)
      rcases running with active | frozen
      · have streaming := sound.of_active subAt active
        simp only [Sound, active]
        exact { streaming with
          vault := by simp
          graced := slot streaming.graced
          covered := le_trans streaming.covered (more now) }
      · obtain ⟨paused, standing⟩ := sound.of_paused subAt frozen
        simp only [Sound, frozen]
        exact ⟨paused, { standing with
          vault := by simp
          graced := slot standing.graced
          covered := le_trans standing.covered (more _) }⟩
  | @recover _ _ _ sub _ deposited _ graced streamStart target signed subAt vaultAt gracedAt
      grace positive depositedEq creditedEq entered shifted =>
      obtain ⟨satellite, drained⟩ := sound.of_grace subAt grace
      rw [drained.satellite, Option.some.injEq] at gracedAt
      subst gracedAt
      have anchored := drained.anchored
      have started := drained.started
      simp only [Sound]
      exact {
        vault := by simp
        graced := rfl
        paused := drained.paused
        anchored := by simp only; omega
        started := by simp only; omega
        covered := by
          -- The anchor moved with the clock: the seconds are those at grace entry.
          have standing := @Subscription.unlockedBy_shift _ { sub with
            depositedAmount := deposited } streamStart _ now shifted
          change sub.withdrawnAmount.toNat ≤ Subscription.unlockedBy { sub with
            depositedAmount := deposited, streamStart } now
          rw [standing, drained.spent]
          exact le_min drained.earned (by simp only; omega) }
  | @pause _ _ _ bump target signed subAt pausedAt active started =>
      have streaming := sound.of_active subAt active
      refine ⟨⟨key, now, bump⟩, ?_⟩
      exact {
        vault := streaming.vault
        graced := streaming.graced
        satellite := rfl
        anchored := streaming.anchored
        started := started
        past := le_refl _
        covered := streaming.covered }
  | @resume _ _ sub paused streamStart target signed subAt pausedAt frozen ordered shifted =>
      obtain ⟨satellite, standing⟩ := sound.of_paused subAt frozen
      rw [standing.satellite, Option.some.injEq] at pausedAt
      subst pausedAt
      have anchored := standing.anchored
      have started := standing.started
      simp only [Sound]
      exact {
        vault := standing.vault
        graced := standing.graced
        paused := rfl
        anchored := by simp only; omega
        started := by simp only; omega
        covered := by
          have unchanged := Subscription.unlockedBy_shift shifted
          change sub.withdrawnAmount.toNat ≤
            Subscription.unlockedBy { sub with streamStart } now
          rw [unchanged]
          exact standing.covered }
  | @cancel _ _ sub _ _ _ _ _ _ _ target signed subAt vaultAt settles started withdrawnEq
      unlocked refundEq emptied gracedClosed pausedClosed =>
      refine ⟨⟨rfl, ?_, ?_⟩, ?_⟩
      · apply gracedClosed
        cases state : sub.state with
        | active => exact .inl (sound.of_active subAt state).graced
        | paused =>
            obtain ⟨paused, standing⟩ := sound.of_paused subAt state
            exact .inl standing.graced
        | gracePeriod => exact .inr rfl
        | exhausted => exact (sound.not_exhausted subAt state).elim
        | cancelled => exact .inl (sound.of_cancelled subAt state).1.graced
      · apply pausedClosed
        cases state : sub.state with
        | active => exact .inl (sound.of_active subAt state).paused
        | paused => exact .inr rfl
        | gracePeriod =>
            obtain ⟨graced, drained⟩ := sound.of_grace subAt state
            exact .inl drained.paused
        | exhausted => exact (sound.not_exhausted subAt state).elim
        | cancelled => exact .inl (sound.of_cancelled subAt state).1.paused
      · change _ ≤ sub.depositedAmount.toNat
        simp only
        omega
  | cleanup target signed subAt ended =>
      rcases ended with cancelled | exhausted
      · have bare := (sound.of_cancelled subAt cancelled).1
        exact ⟨bare.vault, bare.graced, bare.paused⟩
      · exact (sound.not_exhausted subAt exhausted).elim
  | openSession => exact sound.congr rfl Iff.rfl rfl rfl
  | closeSession => exact sound.congr rfl Iff.rfl rfl rfl
  | donate vaultAt => exact sound.congr rfl (by simp [vaultAt]) rfl rfl
  | other => exact sound

end Sound

end View

/-! ## Along runs of the chain -/

namespace Chain

variable {chain : Chain} {subscriber planKey : Pubkey}

/-- The view of one subscription. -/
def view (chain : Chain) (key : Pubkey) : View := chain.ledger.view key

theorem subscription_of_state {key : Pubkey} {state : SubscriptionState}
    (found : (chain.view key).subscription.map (·.state) = some state) :
    ∃ sub, chain.ledger.account key = some (.subscription sub) ∧ sub.state = state := by
  obtain ⟨sub, subAt, stateEq⟩ := Option.map_eq_some_iff.mp found
  exact ⟨sub, Ledger.view_subscription.mp subAt, stateEq⟩

/-- One transaction, seen from one subscription: it failed, or it is a step. -/
theorem step_cases (wellFormed : chain.ledger.WellFormed) (tx : Tx) :
    ((¬chain.Succeeds tx) ∧ chain.step tx = { chain with clock := tx.now }) ∨
      ∃ outcome, tx.action.execute chain.ledger tx.now = .ok outcome ∧
        chain.step tx =
          { ledger := outcome.ledger
            clock := tx.now
            log := ⟨tx, outcome.transfers, outcome.events⟩ :: chain.log } ∧
        View.Step (.sub subscriber planKey) tx.now tx.action
          (chain.view (.sub subscriber planKey))
          ((chain.step tx).view (.sub subscriber planKey))
          (volume (.vault (.sub subscriber planKey)) outcome.transfers) := by
  cases executed : tx.action.execute chain.ledger tx.now with
  | error refusal =>
      refine .inl ⟨?_, step_of_error executed⟩
      rintro ⟨outcome, succeeded⟩
      rw [executed] at succeeded
      cases succeeded
  | ok outcome =>
      refine .inr ⟨outcome, rfl, step_of_ok executed, ?_⟩
      rw [step_of_ok executed]
      exact action_view_step wellFormed executed

/-- A transaction that succeeds is a step of every subscription. -/
theorem step_view (wellFormed : chain.ledger.WellFormed) {tx : Tx}
    (succeeds : chain.Succeeds tx) :
    ∃ delta, View.Step (.sub subscriber planKey) tx.now tx.action
      (chain.view (.sub subscriber planKey)) ((chain.step tx).view (.sub subscriber planKey))
      delta := by
  rcases @step_cases chain subscriber planKey wellFormed tx with
    ⟨fails, _⟩ | ⟨outcome, _, _, taken⟩
  · exact (fails succeeds).elim
  · exact ⟨_, taken⟩

/-- The invariants of a reachable chain: well formed, and sound for every
subscription. -/
structure Invariant (chain : Chain) : Prop where
  wellFormed : chain.ledger.WellFormed
  sound : ∀ subscriber planKey, (chain.view (.sub subscriber planKey)).Sound chain.clock

theorem Genesis.view_eq (genesis : chain.Genesis) :
    chain.view (.sub subscriber planKey) = ⟨none, none, none, none, fun _ => none⟩ := by
  have vacant : ∀ query : Pubkey, query.isExternal = false →
      chain.ledger.account query = none := by
    intro query derived
    cases found : chain.ledger.account query with
    | none => rfl
    | some account =>
        rw [(genesis.outside query account found).1] at derived
        cases derived
  unfold view Ledger.view
  rw [vacant (.sub _ _) rfl, vacant (.vault _) rfl, vacant (.grace _) rfl,
    vacant (.pausedSub _) rfl]
  congr 1
  funext sessionId
  rw [vacant (.paySession _ _) rfl]
  rfl

theorem Invariant.of_genesis (genesis : chain.Genesis) : chain.Invariant := by
  constructor
  · exact genesis.wellFormed
  · intro subscriber planKey
    rw [genesis.view_eq]
    exact ⟨rfl, rfl, rfl⟩

theorem Invariant.step (invariant : chain.Invariant) {tx : Tx}
    (ordered : chain.clock.toInt ≤ tx.now.toInt) : (chain.step tx).Invariant := by
  constructor
  · exact (step_evolves invariant.wellFormed tx).wellFormed
  · intro subscriber planKey
    have sound := (invariant.sound subscriber planKey).advance ordered
    rw [step_clock]
    rcases @step_cases chain subscriber planKey invariant.wellFormed tx with
      ⟨_, unchanged⟩ | ⟨outcome, _, _, taken⟩
    · rw [unchanged]
      exact sound
    · exact sound.step taken

theorem Invariant.of_reachable (reachable : machine.Reachable chain) : chain.Invariant := by
  apply reachable.invariant
  · intro start genesis
    exact .of_genesis genesis
  · intro before tx invariant ordered
    exact invariant.step ordered

/-- The vault is there exactly while the subscription runs. -/
theorem Invariant.vault_of_running (invariant : chain.Invariant)
    {sub : Subscription Pubkey}
    (loaded : chain.ledger.account (.sub subscriber planKey) = some (.subscription sub))
    (running : sub.state = .active ∨ sub.state = .paused ∨ sub.state = .gracePeriod) :
    ∃ vault, chain.ledger.account (.vault (.sub subscriber planKey)) =
      some (.token vault) := by
  have sound := invariant.sound subscriber planKey
  have subAt := Ledger.view_subscription.mpr loaded
  have present : (chain.view (.sub subscriber planKey)).vault ≠ none := by
    rcases running with active | frozen | grace
    · exact (sound.of_active subAt active).vault
    · obtain ⟨paused, standing⟩ := sound.of_paused subAt frozen
      exact standing.vault
    · obtain ⟨graced, drained⟩ := sound.of_grace subAt grace
      exact drained.vault
  obtain ⟨vault, vaultAt⟩ := Option.ne_none_iff_exists'.mp present
  exact ⟨vault, Ledger.view_vault.mp vaultAt⟩

theorem Invariant.vault_eq_none (invariant : chain.Invariant)
    (bare : (chain.view (.sub subscriber planKey)).vault = none) :
    chain.ledger.account (.vault (.sub subscriber planKey)) = none := by
  cases found : chain.ledger.account (.vault (.sub subscriber planKey)) with
  | none => rfl
  | some account =>
      obtain ⟨token, plan, rfl, _⟩ := invariant.wellFormed.vault_token found
      rw [show (chain.view (.sub subscriber planKey)).vault = some token from
        Ledger.view_vault.mpr found] at bare
      cases bare

end Chain

end Nakama
