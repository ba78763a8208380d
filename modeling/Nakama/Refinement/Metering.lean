import Nakama.Refinement.Accounting

/-!
# Metered time

How long a stream has run, read off the anchor and the satellites.  Pauses and
grace periods shift the anchor by exactly their length, so the meter counts the
seconds spent `Active` and nothing else, and the final settlement is the accrual of
the meter.
-/

namespace Nakama

namespace View

/-- Seconds on the meter at a moment. -/
def metered (view : View) (clock : Int64) : Nat :=
  match view.subscription with
  | none => 0
  | some sub =>
      match sub.state, view.paused, view.graced with
      | .active, _, _ => sub.secondsAt clock
      | .paused, some paused, _ => sub.secondsAt paused.pausedAt
      | .gracePeriod, _, some graced => sub.secondsAt graced.enteredGraceAt
      | _, _, _ => 0

/-- The subscription is in one of the states that `cancel` accepts. -/
def Running (view : View) (sub : Subscription Pubkey) : Prop :=
  view.subscription = some sub ∧
    (sub.state = .active ∨ sub.state = .paused ∨ sub.state = .gracePeriod)

/-- The stream runs. -/
def isActive (view : View) : Bool :=
  view.subscription.any (·.state = .active)

variable {key : Pubkey} {clock later now : Int64} {action : Action}
  {view before after : View} {sub : Subscription Pubkey} {delta : Route → Nat}

theorem metered_of_active (subAt : view.subscription = some sub)
    (active : sub.state = .active) : view.metered clock = sub.secondsAt clock := by
  simp only [metered, subAt, active]

theorem metered_of_frozen (subAt : view.subscription = some sub)
    (state : sub.state = .paused) {paused : PausedSubscription Pubkey}
    (pausedAt : view.paused = some paused) :
    view.metered clock = sub.secondsAt paused.pausedAt := by
  simp only [metered, subAt, state, pausedAt]

theorem metered_of_grace (subAt : view.subscription = some sub)
    (state : sub.state = .gracePeriod) {graced : GracedSubscription Pubkey}
    (gracedAt : view.graced = some graced) :
    view.metered clock = sub.secondsAt graced.enteredGraceAt := by
  simp only [metered, subAt, state, gracedAt]

theorem isActive_of (subAt : view.subscription = some sub) :
    view.isActive = decide (sub.state = .active) := by
  simp [isActive, subAt]

/-- The meter runs with the clock while the stream does. -/
theorem Sound.metered_advance (sound : view.Sound clock) (running : view.Running sub)
    (ordered : clock.toInt ≤ later.toInt) :
    view.metered later = view.metered clock +
      if view.isActive then (later.toInt - clock.toInt).toNat else 0 := by
  obtain ⟨subAt, state⟩ := running
  rw [isActive_of subAt]
  rcases state with active | frozen | grace
  · have streaming := sound.of_active subAt active
    have started := streaming.started
    rw [metered_of_active subAt active, metered_of_active subAt active, active]
    simp only [Subscription.secondsAt, decide_true, if_true]
    omega
  · obtain ⟨paused, standing⟩ := sound.of_paused subAt frozen
    rw [metered_of_frozen subAt frozen standing.satellite,
      metered_of_frozen subAt frozen standing.satellite, frozen]
    rfl
  · obtain ⟨graced, drained⟩ := sound.of_grace subAt grace
    rw [metered_of_grace subAt grace drained.satellite,
      metered_of_grace subAt grace drained.satellite, grace]
    rfl

/-- No step between two running states touches the meter. -/
theorem Step.metered (taken : View.Step key now action before after delta)
    (sound : before.Sound now) (running : before.Running sub)
    {next : Subscription Pubkey} (continues : after.Running next) :
    after.metered now = before.metered now := by
  obtain ⟨subAt, state⟩ := running
  obtain ⟨nextAt, nextState⟩ := continues
  cases taken with
  | subscribe _ _ _ vacant =>
      rw [vacant] at subAt
      cases subAt
  | charge _ found _ active =>
      rw [metered_of_active found active]
      simp only [View.metered, active]
      rfl
  | exhaust _ found _ _ active =>
      rw [metered_of_active found active, metered_of_grace rfl rfl rfl]
      rfl
  | settleUsage _ _ found _ _ active =>
      rw [metered_of_active found active]
      simp only [View.metered, active]
      rfl
  | topUp _ _ found _ runs =>
      rcases runs with active | frozen
      · rw [metered_of_active found active]
        simp only [View.metered, active]
        rfl
      · obtain ⟨paused, standing⟩ := sound.of_paused found frozen
        rw [metered_of_frozen found frozen standing.satellite]
        simp only [View.metered, frozen, standing.satellite]
        rfl
  | recover _ _ found _ gracedAt grace _ _ _ _ shifted =>
      rw [metered_of_grace found grace gracedAt, metered_of_active rfl rfl]
      exact Subscription.secondsAt_shift shifted
  | pause _ _ found _ active =>
      rw [metered_of_active found active, metered_of_frozen rfl rfl rfl]
      rfl
  | resume _ _ found pausedAt frozen _ shifted =>
      rw [metered_of_frozen found frozen pausedAt, metered_of_active rfl rfl]
      exact Subscription.secondsAt_shift shifted
  | cancel =>
      cases nextAt
      simp at nextState
  | cleanup => cases nextAt
  | openSession => rfl
  | closeSession => rfl
  | donate => rfl
  | other => rfl

/-- A step from a running state either keeps the subscription running or is the
`cancel` that ends it. -/
theorem Step.running (taken : View.Step key now action before after delta)
    (running : before.Running sub) :
    (∃ next, after.Running next) ∨
      ∃ accounts, action = .program (.cancel accounts) ∧ accounts.subscription = key := by
  obtain ⟨subAt, state⟩ := running
  cases taken with
  | subscribe _ _ _ vacant =>
      rw [vacant] at subAt
      cases subAt
  | charge _ _ _ active => exact .inl ⟨_, rfl, .inl active⟩
  | exhaust => exact .inl ⟨_, rfl, .inr (.inr rfl)⟩
  | settleUsage _ _ _ _ _ active => exact .inl ⟨_, rfl, .inl active⟩
  | topUp _ _ _ _ runs =>
      rcases runs with active | frozen
      · exact .inl ⟨_, rfl, .inl active⟩
      · exact .inl ⟨_, rfl, .inr (.inl frozen)⟩
  | recover => exact .inl ⟨_, rfl, .inl rfl⟩
  | pause => exact .inl ⟨_, rfl, .inr (.inl rfl)⟩
  | resume => exact .inl ⟨_, rfl, .inl rfl⟩
  | cancel target => exact .inr ⟨_, rfl, target⟩
  | cleanup _ _ found ended =>
      rw [subAt, Option.some.injEq] at found
      subst found
      rcases ended with cancelled | exhausted
      · simp [cancelled] at state
      · simp [exhausted] at state
  | openSession => exact .inl ⟨sub, subAt, state⟩
  | closeSession => exact .inl ⟨sub, subAt, state⟩
  | donate => exact .inl ⟨sub, subAt, state⟩
  | other => exact .inl ⟨sub, subAt, state⟩

/-- At every moment that `cancel` may settle at, what is unlocked is the accrual of the
meter. -/
theorem Sound.unlocked_of_settles (sound : view.Sound now) (subAt : view.subscription = some sub)
    {moment : Int64} (settles : view.SettlesAt now sub.state moment) :
    sub.unlockedBy moment = Accrual.unlocked sub.price.toNat sub.period.toInt.toNat
      sub.depositedAmount.toNat (view.metered now) := by
  generalize stateEq : sub.state = state at settles
  cases settles with
  | active =>
      rw [metered_of_active subAt stateEq]
      rfl
  | paused pausedAt =>
      rw [metered_of_frozen subAt stateEq pausedAt]
      rfl
  | grace gracedAt =>
      obtain ⟨graced, drained⟩ := sound.of_grace subAt stateEq
      rw [drained.satellite, Option.some.injEq] at gracedAt
      subst gracedAt
      rw [metered_of_grace subAt stateEq drained.satellite]
      -- Everything was earned when grace began, and the settlement is not earlier.
      have early := drained.earned
      have late := le_trans early (sub.accruedAt_mono drained.entered_le)
      unfold Subscription.accruedAt at early late
      unfold Subscription.unlockedBy
      rw [Accrual.unlocked_of_deposited_le early, Accrual.unlocked_of_deposited_le late]

end View

/-- Seconds of a transaction's wait that the subscription spent `Active`. -/
def activeSeconds (key : Pubkey) (chain : Chain) (tx : Tx) : Nat :=
  if (chain.view key).isActive then (tx.now.toInt - chain.clock.toInt).toNat else 0

/-- The action cancels the subscription at `key`. -/
def Action.cancels (key : Pubkey) : Action → Bool
  | .program (.cancel accounts) => accounts.subscription = key
  | _ => false

theorem Action.cancels_eq_true {key : Pubkey} {action : Action} :
    action.cancels key = true ↔ ∃ accounts, action = .program (.cancel accounts) ∧
      accounts.subscription = key := by
  constructor
  · intro ends
    unfold Action.cancels at ends
    split at ends
    next accounts => exact ⟨accounts, rfl, of_decide_eq_true ends⟩
    next => cases ends
  · rintro ⟨accounts, rfl, target⟩
    exact decide_eq_true target

theorem View.Step.settled {key : Pubkey} {now : Int64} {action : Action} {before after : View}
    {sub : Subscription Pubkey} {delta : Route → Nat}
    (taken : View.Step key now action before after delta)
    (cancels : action.cancels key = true) (sound : before.Sound now)
    (subAt : before.subscription = some sub) :
    ∃ ended, after.subscription = some ended ∧ after.vault = none ∧
      ended.depositedAmount = sub.depositedAmount ∧
      ended.withdrawnAmount.toNat = Accrual.unlocked ended.price.toNat
        ended.period.toInt.toNat ended.depositedAmount.toNat (before.metered now) := by
  obtain ⟨accounts, rfl, target⟩ := Action.cancels_eq_true.mp cancels
  cases taken with
  | cancel _ _ found _ settles _ _ unlocked =>
      cases found.symm.trans subAt
      refine ⟨_, rfl, rfl, rfl, ?_⟩
      rw [sound.unlocked_of_settles subAt settles] at unlocked
      exact unlocked
  | other elsewhere =>
      simp [Action.subscription?, Instruction.subscription?, target] at elsewhere

/-- The chain in an environment where the subscription is not cancelled. -/
def uncancelled (key : Pubkey) : Machine Chain Tx :=
  machine.restrict fun chain tx => ¬(tx.action.cancels key = true ∧ chain.Succeeds tx)

namespace Chain

variable {chain : Chain} {subscriber planKey : Pubkey}

/-- A running subscription in a reachable chain. -/
structure Serving (chain : Chain) (key : Pubkey) : Prop where
  invariant : chain.Invariant
  running : ∃ sub, (chain.view key).Running sub

theorem Serving.step (serving : chain.Serving (.sub subscriber planKey)) {tx : Tx}
    (allowed : (uncancelled (.sub subscriber planKey)).allows chain tx) :
    (chain.step tx).Serving (.sub subscriber planKey) := by
  obtain ⟨ordered, kept⟩ := allowed
  refine ⟨serving.invariant.step ordered, ?_⟩
  obtain ⟨sub, running⟩ := serving.running
  rcases @step_cases chain subscriber planKey serving.invariant.wellFormed tx with
    ⟨_, unchanged⟩ | ⟨outcome, executed, _, taken⟩
  · rw [unchanged]
    exact ⟨sub, running⟩
  · rcases taken.running running with continues | ⟨accounts, action, target⟩
    · exact continues
    · refine (kept ⟨?_, outcome, executed⟩).elim
      simp [action, Action.cancels, target]

theorem Serving.metered_step (serving : chain.Serving (.sub subscriber planKey)) {tx : Tx}
    (allowed : (uncancelled (.sub subscriber planKey)).allows chain tx) :
    ((chain.step tx).view (.sub subscriber planKey)).metered (chain.step tx).clock =
      (chain.view (.sub subscriber planKey)).metered chain.clock +
        activeSeconds (.sub subscriber planKey) chain tx := by
  obtain ⟨sub, running⟩ := serving.running
  obtain ⟨next, continues⟩ := (serving.step allowed).running
  have sound := serving.invariant.sound subscriber planKey
  have advanced := sound.metered_advance running allowed.1
  rw [step_clock]
  rcases @step_cases chain subscriber planKey serving.invariant.wellFormed tx with
    ⟨_, unchanged⟩ | ⟨outcome, _, _, taken⟩
  · rw [unchanged]
    exact advanced
  · rw [taken.metered (sound.advance allowed.1) running continues]
    exact advanced

/-- The meter of a service that starts at zero is the total time spent `Active`. -/
theorem Serving.metered_run (serving : chain.Serving (.sub subscriber planKey))
    {txs : List Tx}
    (allowed : (uncancelled (.sub subscriber planKey)).AllowsRun chain txs) :
    (machine.run chain txs).Serving (.sub subscriber planKey) ∧
      ((machine.run chain txs).view (.sub subscriber planKey)).metered
          (machine.run chain txs).clock =
        (chain.view (.sub subscriber planKey)).metered chain.clock +
          machine.total (activeSeconds (.sub subscriber planKey)) chain txs := by
  have kept : ∀ before tx, before.Serving (.sub subscriber planKey) →
      (uncancelled (.sub subscriber planKey)).allows before tx →
      (before.step tx).Serving (.sub subscriber planKey) :=
    fun before tx serving permitted => serving.step permitted
  have grown := @Machine.run_potential _ _ (uncancelled (.sub subscriber planKey))
    (activeSeconds (.sub subscriber planKey))
    (fun before => before.Serving (.sub subscriber planKey))
    (fun before => (before.view (.sub subscriber planKey)).metered before.clock) kept
    (fun before tx serving permitted => serving.metered_step permitted) chain txs allowed
    serving
  rw [uncancelled, Machine.restrict_total] at grown
  exact ⟨Machine.run_invariant kept allowed serving, grown⟩

/-- What moved over a life that a `cancel` ended. -/
theorem Serving.settled (serving : chain.Serving (.sub subscriber planKey)) {tx : Tx}
    (explained : (chain.step tx).Explained)
    (cancels : tx.action.cancels (.sub subscriber planKey) = true)
    (ordered : machine.allows chain tx) (succeeds : chain.Succeeds tx) :
    ∃ ended,
      (chain.step tx).ledger.account (.sub subscriber planKey) = some (.subscription ended) ∧
      (chain.step tx).moved (.sub subscriber planKey) .settlement =
        Accrual.unlocked ended.price.toNat ended.period.toInt.toNat
          ended.depositedAmount.toNat
          ((chain.view (.sub subscriber planKey)).metered tx.now) ∧
      (chain.step tx).moved (.sub subscriber planKey) .settlement +
        (chain.step tx).moved (.sub subscriber planKey) .refund =
          ended.depositedAmount.toNat ∧
      ∀ sub, (chain.view (.sub subscriber planKey)).subscription = some sub →
        ended.terms = sub.terms ∧ ended.depositedAmount = sub.depositedAmount := by
  obtain ⟨sub, running⟩ := serving.running
  have sound := (serving.invariant.sound subscriber planKey).advance ordered
  obtain ⟨_, taken⟩ := step_view serving.invariant.wellFormed succeeds
  obtain ⟨ended, endedAt, emptied, sameDeposit, settled⟩ :=
    taken.settled cancels sound running.1
  obtain ⟨_, settlements, balance⟩ := explained subscriber planKey ended endedAt
  simp only [emptied] at balance
  refine ⟨ended, Ledger.view_subscription.mp endedAt, settlements.trans settled, ?_, ?_⟩
  · rw [settlements]
    exact balance.1
  · intro found foundAt
    cases foundAt.symm.trans running.1
    exact ⟨taken.terms running.1 endedAt, sameDeposit⟩

end Chain

end Nakama
