import Nakama.Refinement.Metering

/-!
# State byte, satellites and vault agree

Which of the four accounts of a subscription exist is decided by its state byte, in
every state of every run, whatever the callers put into the optional slots.
-/

namespace Nakama

/-- The action removes the subscription at `key`. -/
def Action.cleans (key : Pubkey) : Action → Bool
  | .program (.cleanup accounts) => accounts.subscription = key
  | _ => false

/-- The chain in an environment where the subscription is not cleaned up. -/
def uncleaned (key : Pubkey) : Machine Chain Tx :=
  machine.restrict fun chain tx => ¬(tx.action.cleans key = true ∧ chain.Succeeds tx)

namespace View

/-- In grace with this satellite. -/
def InGrace (view : View) (graced : GracedSubscription Pubkey) : Prop :=
  view.graced = some graced ∧
    ∃ sub, view.subscription = some sub ∧ sub.state = .gracePeriod

variable {key : Pubkey} {now : Int64} {action : Action} {before after : View}
  {delta : Route → Nat} {graced : GracedSubscription Pubkey}

/-- Only a `charge` leads into grace, and its clock is the one that is stored. -/
theorem Step.grace_entry (taken : View.Step key now action before after delta)
    (inGrace : after.InGrace graced) :
    before.InGrace graced ∨
      ∃ accounts, action = .program (.charge accounts) ∧ accounts.subscription = key ∧
        graced.enteredGraceAt = now := by
  obtain ⟨gracedAt, sub, subAt, grace⟩ := inGrace
  cases taken with
  | subscribe _ _ _ _ _ state =>
      cases subAt
      rw [state] at grace
      cases grace
  | charge _ _ _ active =>
      cases subAt
      rw [show _ = SubscriptionState.active from active] at grace
      cases grace
  | exhaust target =>
      cases gracedAt
      exact .inr ⟨_, rfl, target, rfl⟩
  | settleUsage _ _ _ _ _ active =>
      cases subAt
      rw [show _ = SubscriptionState.active from active] at grace
      cases grace
  | topUp _ _ _ _ runs =>
      cases subAt
      rcases runs with active | frozen
      · rw [show _ = SubscriptionState.active from active] at grace
        cases grace
      · rw [show _ = SubscriptionState.paused from frozen] at grace
        cases grace
  | recover =>
      cases subAt
      cases grace
  | pause =>
      cases subAt
      cases grace
  | resume =>
      cases subAt
      cases grace
  | cancel =>
      cases subAt
      cases grace
  | cleanup => cases subAt
  | openSession => exact .inl ⟨gracedAt, sub, subAt, grace⟩
  | closeSession => exact .inl ⟨gracedAt, sub, subAt, grace⟩
  | donate => exact .inl ⟨gracedAt, sub, subAt, grace⟩
  | other => exact .inl ⟨gracedAt, sub, subAt, grace⟩

/-- A tombstone stays as it is until `cleanup` removes it. -/
theorem Step.tombstone {sub : Subscription Pubkey}
    (taken : View.Step key now action before after delta)
    (subAt : before.subscription = some sub) (cancelled : sub.state = .cancelled) :
    after.subscription = some sub ∨ action.cleans key = true := by
  have different : ∀ {found : Subscription Pubkey}, before.subscription = some found →
      found.state = .cancelled := by
    intro found foundAt
    rw [subAt, Option.some.injEq] at foundAt
    rw [← foundAt, cancelled]
  cases taken with
  | subscribe _ _ _ vacant =>
      rw [vacant] at subAt
      cases subAt
  | charge _ found _ active => simp [different found] at active
  | exhaust _ found _ _ active => simp [different found] at active
  | settleUsage _ _ found _ _ active => simp [different found] at active
  | topUp _ _ found _ runs => simp [different found] at runs
  | recover _ _ found _ _ grace => simp [different found] at grace
  | pause _ _ found _ active => simp [different found] at active
  | resume _ _ found _ frozen => simp [different found] at frozen
  | cancel _ _ found _ settles =>
      rw [different found] at settles
      cases settles
  | cleanup target => exact .inr (by simp [Action.cleans, target])
  | openSession _ _ _ found _ active => simp [different found] at active
  | closeSession => exact .inl subAt
  | donate => exact .inl subAt
  | other => exact .inl subAt

end View

namespace Chain.Invariant

variable {chain : Chain} {subscriber planKey : Pubkey}

theorem paused_iff (invariant : chain.Invariant) :
    chain.ledger.account (.pausedSub (.sub subscriber planKey)) ≠ none ↔
      ∃ sub, chain.ledger.account (.sub subscriber planKey) = some (.subscription sub) ∧
        sub.state = .paused := by
  have sound := invariant.sound subscriber planKey
  constructor
  · intro present
    obtain ⟨account, found⟩ := Option.ne_none_iff_exists'.mp present
    obtain ⟨paused, rfl⟩ := invariant.wellFormed.paused_of_key found
    have pausedAt : (chain.view (.sub subscriber planKey)).paused = some paused :=
      Ledger.view_paused.mpr found
    cases subAt : (chain.view (.sub subscriber planKey)).subscription with
    | none =>
        rw [(sound.of_none subAt).paused] at pausedAt
        cases pausedAt
    | some sub =>
        refine ⟨sub, Ledger.view_subscription.mp subAt, ?_⟩
        cases state : sub.state with
        | paused => rfl
        | active =>
            rw [(sound.of_active subAt state).paused] at pausedAt
            cases pausedAt
        | gracePeriod =>
            obtain ⟨graced, drained⟩ := sound.of_grace subAt state
            rw [drained.paused] at pausedAt
            cases pausedAt
        | exhausted => exact (sound.not_exhausted subAt state).elim
        | cancelled =>
            rw [(sound.of_cancelled subAt state).1.paused] at pausedAt
            cases pausedAt
  · rintro ⟨sub, loaded, state⟩
    obtain ⟨paused, standing⟩ := sound.of_paused (Ledger.view_subscription.mpr loaded) state
    rw [Ledger.view_paused.mp standing.satellite]
    simp

theorem graced_iff (invariant : chain.Invariant) :
    chain.ledger.account (.grace (.sub subscriber planKey)) ≠ none ↔
      ∃ sub, chain.ledger.account (.sub subscriber planKey) = some (.subscription sub) ∧
        sub.state = .gracePeriod := by
  have sound := invariant.sound subscriber planKey
  constructor
  · intro present
    obtain ⟨account, found⟩ := Option.ne_none_iff_exists'.mp present
    obtain ⟨graced, rfl⟩ := invariant.wellFormed.graced_of_key found
    have gracedAt : (chain.view (.sub subscriber planKey)).graced = some graced :=
      Ledger.view_graced.mpr found
    cases subAt : (chain.view (.sub subscriber planKey)).subscription with
    | none =>
        rw [(sound.of_none subAt).graced] at gracedAt
        cases gracedAt
    | some sub =>
        refine ⟨sub, Ledger.view_subscription.mp subAt, ?_⟩
        cases state : sub.state with
        | gracePeriod => rfl
        | active =>
            rw [(sound.of_active subAt state).graced] at gracedAt
            cases gracedAt
        | paused =>
            obtain ⟨paused, standing⟩ := sound.of_paused subAt state
            rw [standing.graced] at gracedAt
            cases gracedAt
        | exhausted => exact (sound.not_exhausted subAt state).elim
        | cancelled =>
            rw [(sound.of_cancelled subAt state).1.graced] at gracedAt
            cases gracedAt
  · rintro ⟨sub, loaded, state⟩
    obtain ⟨graced, drained⟩ := sound.of_grace (Ledger.view_subscription.mpr loaded) state
    rw [Ledger.view_graced.mp drained.satellite]
    simp

theorem vault_iff (invariant : chain.Invariant) :
    chain.ledger.account (.vault (.sub subscriber planKey)) ≠ none ↔
      ∃ sub, chain.ledger.account (.sub subscriber planKey) = some (.subscription sub) ∧
        (sub.state = .active ∨ sub.state = .paused ∨ sub.state = .gracePeriod) := by
  have sound := invariant.sound subscriber planKey
  constructor
  · intro present
    obtain ⟨account, found⟩ := Option.ne_none_iff_exists'.mp present
    obtain ⟨vault, _, rfl, _⟩ := invariant.wellFormed.vault_token found
    have vaultAt : (chain.view (.sub subscriber planKey)).vault = some vault :=
      Ledger.view_vault.mpr found
    cases subAt : (chain.view (.sub subscriber planKey)).subscription with
    | none =>
        rw [(sound.of_none subAt).vault] at vaultAt
        cases vaultAt
    | some sub =>
        refine ⟨sub, Ledger.view_subscription.mp subAt, ?_⟩
        cases state : sub.state with
        | active => exact .inl rfl
        | paused => exact .inr (.inl rfl)
        | gracePeriod => exact .inr (.inr rfl)
        | exhausted => exact (sound.not_exhausted subAt state).elim
        | cancelled =>
            rw [(sound.of_cancelled subAt state).1.vault] at vaultAt
            cases vaultAt
  · rintro ⟨sub, loaded, running⟩
    obtain ⟨vault, vaultAt⟩ := invariant.vault_of_running loaded running
    rw [vaultAt]
    simp

/-- A tombstone outlasts every run without a `cleanup`. -/
theorem tombstone_run (invariant : chain.Invariant) {sub : Subscription Pubkey}
    {txs : List Tx}
    (loaded : chain.ledger.account (.sub subscriber planKey) = some (.subscription sub))
    (cancelled : sub.state = .cancelled)
    (kept : (uncleaned (.sub subscriber planKey)).AllowsRun chain txs) :
    (machine.run chain txs).ledger.account (.sub subscriber planKey) =
      some (.subscription sub) := by
  have both := @Machine.run_invariant _ _ (uncleaned (.sub subscriber planKey))
    (fun before => before.Invariant ∧
      (before.view (.sub subscriber planKey)).subscription = some sub)
  refine Ledger.view_subscription.mp (both ?_ kept
    ⟨invariant, Ledger.view_subscription.mpr loaded⟩).2
  rintro before tx ⟨invariant, subAt⟩ ⟨ordered, notCleaned⟩
  refine ⟨invariant.step ordered, ?_⟩
  change ((before.step tx).view _).subscription = _
  rcases @step_cases before subscriber planKey invariant.wellFormed tx with
    ⟨_, unchanged⟩ | ⟨outcome, executed, _, taken⟩
  · rw [unchanged]
    exact subAt
  · rcases taken.tombstone subAt cancelled with same | cleans
    · exact same
    · exact (notCleaned ⟨cleans, outcome, executed⟩).elim

end Chain.Invariant

theorem exists_charge_of_grace {start : Chain} {txs : List Tx}
    {subscriber planKey : Pubkey} {graced : GracedSubscription Pubkey}
    (genesis : start.Genesis) (allowed : machine.AllowsRun start txs)
    (inGrace : ((machine.run start txs).view (.sub subscriber planKey)).InGrace graced) :
    ∃ front tx back accounts, txs = front ++ tx :: back ∧
      tx.action = .program (.charge accounts) ∧
      accounts.subscription = .sub subscriber planKey ∧
      graced.enteredGraceAt = tx.now ∧
      ¬((machine.run start front).view (.sub subscriber planKey)).InGrace graced ∧
      ∀ middle rest, back = middle ++ rest →
        ((machine.run start (front ++ tx :: middle)).view (.sub subscriber planKey)).InGrace
          graced := by
  have notAtStart : ¬(start.view (.sub subscriber planKey)).InGrace graced := by
    rintro ⟨_, sub, subAt, _⟩
    rw [genesis.view_eq] at subAt
    cases subAt
  obtain ⟨front, tx, back, rfl, entry, since⟩ := @Machine.exists_entry _ _ machine
    (fun chain => (chain.view (.sub subscriber planKey)).InGrace graced) start txs notAtStart
    inGrace
  have reached : machine.Reachable (machine.run start front) :=
    ⟨start, front, genesis, (Machine.allowsRun_append.mp allowed).1, rfl⟩
  have invariant := Chain.Invariant.of_reachable reached
  have entered := since [] back rfl
  rw [Machine.run_append] at entered
  rcases @Chain.step_cases (machine.run start front) subscriber planKey invariant.wellFormed tx
    with ⟨_, unchanged⟩ | ⟨outcome, _, _, taken⟩
  · change ((Chain.step _ tx).view _).InGrace graced at entered
    rw [unchanged] at entered
    exact (entry entered).elim
  · rcases taken.grace_entry entered with already | ⟨accounts, action, target, clock⟩
    · exact (entry already).elim
    · exact ⟨front, tx, back, accounts, rfl, action, target, clock, entry, since⟩

/-- State byte, satellites and vault agree in every state of every run; grace is entered
by a `charge` whose clock it stores; `Exhausted` is never reached; and a tombstone stays
until `cleanup`. -/
theorem states_agree {start chain : Chain} {txs : List Tx} (genesis : start.Genesis)
    (allowed : machine.AllowsRun start txs) (runs : machine.run start txs = chain)
    (subscriber planKey : Pubkey) :
    (chain.ledger.account (.pausedSub (.sub subscriber planKey)) ≠ none ↔
      ∃ sub, chain.ledger.account (.sub subscriber planKey) = some (.subscription sub) ∧
        sub.state = .paused) ∧
    (chain.ledger.account (.grace (.sub subscriber planKey)) ≠ none ↔
      ∃ sub, chain.ledger.account (.sub subscriber planKey) = some (.subscription sub) ∧
        sub.state = .gracePeriod) ∧
    (chain.ledger.account (.vault (.sub subscriber planKey)) ≠ none ↔
      ∃ sub, chain.ledger.account (.sub subscriber planKey) = some (.subscription sub) ∧
        (sub.state = .active ∨ sub.state = .paused ∨ sub.state = .gracePeriod)) ∧
    (∀ sub, chain.ledger.account (.sub subscriber planKey) = some (.subscription sub) →
      sub.state ≠ .exhausted ∧
      (sub.state = .gracePeriod → ∃ graced,
        chain.ledger.account (.grace (.sub subscriber planKey)) = some (.graced graced) ∧
        sub.withdrawnAmount = sub.depositedAmount ∧
        graced.graceUntil.toInt = graced.enteredGraceAt.toInt + graceDuration.toInt ∧
        ∃ front tx back accounts, txs = front ++ tx :: back ∧
          tx.action = .program (.charge accounts) ∧
          accounts.subscription = .sub subscriber planKey ∧
          graced.enteredGraceAt = tx.now ∧
          ¬((machine.run start front).view (.sub subscriber planKey)).InGrace graced ∧
          ∀ middle rest, back = middle ++ rest →
            ((machine.run start (front ++ tx :: middle)).view
              (.sub subscriber planKey)).InGrace graced) ∧
      (sub.state = .cancelled → ∀ more,
        (uncleaned (.sub subscriber planKey)).AllowsRun chain more →
        (machine.run chain more).ledger.account (.sub subscriber planKey) =
          some (.subscription sub))) := by
  subst runs
  have invariant := Chain.Invariant.of_reachable
    (⟨start, txs, genesis, allowed, rfl⟩ : machine.Reachable (machine.run start txs))
  refine ⟨invariant.paused_iff, invariant.graced_iff, invariant.vault_iff, ?_⟩
  intro sub loaded
  have sound := invariant.sound subscriber planKey
  have subAt : ((machine.run start txs).view (.sub subscriber planKey)).subscription =
    some sub := Ledger.view_subscription.mpr loaded
  refine ⟨sound.not_exhausted subAt, ?_, ?_⟩
  · intro grace
    obtain ⟨graced, drained⟩ := sound.of_grace subAt grace
    refine ⟨graced, Ledger.view_graced.mp drained.satellite, drained.spent, drained.untilEq, ?_⟩
    exact exists_charge_of_grace genesis allowed ⟨drained.satellite, sub, subAt, grace⟩
  · intro cancelled more kept
    exact invariant.tombstone_run loaded cancelled kept

section Witness

open Sample

/-- A charge five seconds after the deposit ran out. -/
def drainedTxs : List Tx :=
  [createPlanTx, subscribeTx 0, chargeTx 25 (some (.grace subKey))]

theorem states_agree_drained :
    ∃ sub graced,
      (machine.run genesis drainedTxs).ledger.account subKey = some (.subscription sub) ∧
      (machine.run genesis drainedTxs).ledger.account (.grace subKey) =
        some (.graced graced) ∧
      sub.withdrawnAmount = sub.depositedAmount ∧
      graced.graceUntil.toInt = graced.enteredGraceAt.toInt + graceDuration.toInt := by
  have allowed : machine.AllowsRun genesis drainedTxs := allowsRun_of_clocks (by decide)
  obtain ⟨sub, loaded, grace⟩ := Chain.subscription_of_state
    (by decide +kernel : ((machine.run genesis drainedTxs).view subKey).subscription.map
      (·.state) = some .gracePeriod)
  obtain ⟨_, _, _, each⟩ :=
    states_agree genesis_isGenesis allowed rfl subscriber.key planKey
  obtain ⟨_, inGrace, _⟩ := each sub loaded
  obtain ⟨graced, satellite, spent, untilEq, _⟩ := inGrace grace
  exact ⟨sub, graced, loaded, satellite, spent, untilEq⟩

end Witness

end Nakama
