import Nakama.Refinement.Suspension

/-!
# A pause is invisible up to a time shift

After a `pause` and a `resume` the subscription behaves as if it had never been paused, on a
clock that is ahead by the length of the pause; a `cancel` while it is paused pays what one
at the moment of the `pause` would have paid.
-/

namespace Nakama

/-- The action is one that a paused subscription accepts and that leaves it paused. -/
def Action.idles (key : Pubkey) : Action → Bool
  | .program (.topUp accounts _) => accounts.subscription = key
  | .program (.closeSession accounts) => accounts.parent = key
  | _ => false

/-- The chain in an environment that funds a subscription and closes its sessions, and does
nothing else. -/
def idling (key : Pubkey) : Machine Chain Tx :=
  machine.restrict fun _ tx => tx.action.idles key = true

/-- The chain in an environment that acts on no other subscription, a period and a grace away
from the end of the clock. -/
def attending (key : Pubkey) (period : Int64) : Machine Chain Tx :=
  machine.restrict fun _ tx =>
    (∀ other ∈ tx.action.subscription?, other = key) ∧
      tx.now.toInt + period.toInt < 2 ^ 63 ∧ tx.now.toInt + graceDuration.toInt < 2 ^ 63

instance (key : Pubkey) (chain : Chain) (tx : Tx) : Decidable ((idling key).allows chain tx) :=
  inferInstanceAs (Decidable (machine.allows chain tx ∧ _ = _))

instance (key : Pubkey) (period : Int64) (chain : Chain) (tx : Tx) :
    Decidable ((attending key period).allows chain tx) :=
  inferInstanceAs (Decidable (machine.allows chain tx ∧ _ ∧ _ < _ ∧ _ < _))

/-- The same action at a moment. -/
def Tx.at (moment : Int64) (tx : Tx) : Tx :=
  { tx with now := moment }

/-- The same action so much earlier. -/
def Tx.earlier (delay : Int) (tx : Tx) : Tx :=
  { tx with now := Int64.ofInt (tx.now.toInt - delay) }

theorem Tx.earlier_now {delay : Int} {tx : Tx} {clock : Int64} (nonneg : 0 ≤ delay)
    (after : clock.toInt + delay ≤ tx.now.toInt) :
    (tx.earlier delay).now.toInt = tx.now.toInt - delay := by
  have lower := clock.le_toInt
  have upper := tx.now.toInt_lt
  rw [Tx.earlier, Int64.toInt_ofInt_of_le]
  · omega
  · omega

/-- The token movements of the transactions of a run, in order, `none` for each that
fails. -/
def movementsAlong (chain : Chain) (txs : List Tx) : List (Option (List Transfer)) :=
  machine.trace (fun before tx => [before.movements tx]) chain txs

namespace Chain

variable {subscriber planKey : Pubkey}

/-! ## While the subscription is paused -/

/-- One chain has the subscription paused since a moment, the other runs at that moment. -/
structure Parted (subscriber planKey : Pubkey) (since : Int64) (suspended running : Chain) :
    Prop where
  paused : suspended.Invariant
  unpaused : running.Invariant
  twin : running.ledger.Twin (.sub subscriber planKey) .streaming (.standing since)
    suspended.ledger
  past : since.toInt ≤ suspended.clock.toInt
  current : running.clock.toInt ≤ since.toInt

/-- An action that idles answers both phases in the same way. -/
theorem idles_twin {left right : Ledger} {phase other : Phase} {action : Action}
    {now later : Int64} {outcome : Outcome}
    (twin : left.Twin (.sub subscriber planKey) phase other right)
    (idles : action.idles (.sub subscriber planKey) = true)
    (executed : action.execute left now = .ok outcome) :
    outcome.Twin (.sub subscriber planKey) phase other (action.execute right later) := by
  unfold Action.idles at idles
  split at idles
  next accounts amount => exact topUp_twin twin (of_decide_eq_true idles) executed
  next accounts => exact closeSession_twin twin (of_decide_eq_true idles) executed
  next => cases idles

theorem Parted.step {since : Int64} {suspended running : Chain}
    (parted : Parted subscriber planKey since suspended running) {tx : Tx}
    (allowed : (idling (.sub subscriber planKey)).allows suspended tx) :
    Parted subscriber planKey since (suspended.step tx) (running.step (tx.at since)) ∧
      [suspended.movements tx] = [running.movements (tx.at since)] := by
  obtain ⟨ordered, idles⟩ := allowed
  have paused := parted.paused.step ordered
  have unpaused : (running.step (tx.at since)).Invariant := parted.unpaused.step parted.current
  have past : since.toInt ≤ (suspended.step tx).clock.toInt := by
    rw [step_clock]
    exact le_trans parted.past ordered
  have current : (running.step (tx.at since)).clock.toInt ≤ since.toInt := by
    rw [step_clock]
    exact le_refl _
  unfold movements
  cases executed : (tx.at since).action.execute running.ledger (tx.at since).now with
  | ok outcome =>
      obtain ⟨other, otherExecuted, transfers, stays⟩ :=
        @idles_twin _ _ _ _ _ _ tx.action _ tx.now _ parted.twin idles executed
      rw [otherExecuted]
      refine ⟨⟨paused, unpaused, ?_, past, current⟩, ?_⟩
      · rw [step_of_ok executed, step_of_ok otherExecuted]
        exact stays
      · exact congrArg (fun moved => [some moved]) transfers
  | error refusal =>
      cases otherExecuted : tx.action.execute suspended.ledger tx.now with
      | ok other =>
          obtain ⟨outcome, succeeded, _⟩ :=
            @idles_twin _ _ _ _ _ _ tx.action _ since _ parted.twin.symm idles otherExecuted
          rw [show tx.action.execute running.ledger since = .error refusal from executed]
            at succeeded
          cases succeeded
      | error otherRefusal =>
          refine ⟨⟨paused, unpaused, ?_, past, current⟩, rfl⟩
          rw [step_of_error executed, step_of_error otherExecuted]
          exact parted.twin

/-- A stream that runs has no grace. -/
theorem Invariant.grace_free {chain : Chain} (invariant : chain.Invariant)
    (bare : (chain.view (.sub subscriber planKey)).graced = none) :
    chain.ledger.account (.grace (.sub subscriber planKey)) = none := by
  cases found : chain.ledger.account (.grace (.sub subscriber planKey)) with
  | none => rfl
  | some account =>
      obtain ⟨graced, rfl⟩ := invariant.wellFormed.graced_of_key found
      rw [show (chain.view (.sub subscriber planKey)).graced = some graced from
        Ledger.view_graced.mpr found] at bare
      cases bare

/-! ## After the pause -/

/-- One chain is a delay ahead of the other with the subscription. -/
structure Shifted (subscriber planKey : Pubkey) (period : Int64) (delay : Int)
    (late early : Chain) : Prop where
  ahead : late.Invariant
  behind : early.Invariant
  delayed : early.ledger.Delayed (.sub subscriber planKey) delay late.ledger
  nonneg : 0 ≤ delay
  clocks : early.clock.toInt + delay ≤ late.clock.toInt
  terms : ∃ plan, late.ledger.account planKey = some (.plan plan) ∧ plan.period = period

theorem Shifted.step {period : Int64} {delay : Int} {late early : Chain}
    (shifted : Shifted subscriber planKey period delay late early) {tx : Tx}
    (allowed : (attending (.sub subscriber planKey) period).allows late tx) :
    Shifted subscriber planKey period delay (late.step tx) (early.step (tx.earlier delay)) ∧
      [late.movements tx] = [early.movements (tx.earlier delay)] := by
  obtain ⟨ordered, concerns, periodRoom, graceRoom⟩ := allowed
  obtain ⟨plan, planAt, periodEq⟩ := shifted.terms
  have clocks := shifted.clocks
  have after : early.clock.toInt + delay ≤ tx.now.toInt := le_trans clocks ordered
  have earlierNow := Tx.earlier_now shifted.nonneg after
  have earlierOrdered : early.clock.toInt ≤ (tx.earlier delay).now.toInt := by omega
  have room : late.ledger.Roomy planKey tx.now := by
    constructor
    · intro found foundAt
      cases foundAt.symm.trans planAt
      rw [periodEq]
      exact periodRoom
    · exact graceRoom
  obtain ⟨same, stays⟩ := @step_delayed early late subscriber planKey delay shifted.delayed
    shifted.behind shifted.ahead shifted.nonneg (tx.earlier delay) tx rfl (by omega)
    earlierOrdered ordered concerns room
  refine ⟨⟨shifted.ahead.step ordered, shifted.behind.step earlierOrdered, stays,
    shifted.nonneg, ?_, plan, ?_, periodEq⟩, by rw [same]⟩
  · rw [step_clock, step_clock]
    omega
  · exact (step_evolves shifted.ahead.wellFormed tx).keeps.plans planKey plan planAt

/-! ## The three phases -/

section Phases

variable {chain suspended running : Chain} {since now : Int64}

theorem Invariant.parted (invariant : chain.Invariant) {accounts : Pause}
    (target : accounts.subscription = .sub subscriber planKey)
    (ordered : machine.allows chain ⟨since, .program (.pause accounts)⟩)
    (paused : chain.Succeeds ⟨since, .program (.pause accounts)⟩) :
    Parted subscriber planKey since (chain.step ⟨since, .program (.pause accounts)⟩)
      chain := by
  obtain ⟨outcome, executed⟩ := paused
  refine ⟨invariant.step ordered, invariant, ?_, ?_, ordered⟩
  · rw [step_of_ok executed]
    exact pause_twin target executed
  · rw [step_clock]

theorem Parted.run (parted : Parted subscriber planKey since suspended running)
    {txs : List Tx} (idle : (idling (.sub subscriber planKey)).AllowsRun suspended txs) :
    Parted subscriber planKey since (machine.run suspended txs)
        (machine.run running (txs.map (Tx.at since))) ∧
      movementsAlong suspended txs = movementsAlong running (txs.map (Tx.at since)) := by
  have both := @Machine.run_lockstep _ _ (idling (.sub subscriber planKey)) _
    (fun before tx => [before.movements tx]) _ _ machine
    (fun before tx => [before.movements tx]) (Parted subscriber planKey since) (Tx.at since)
    (fun _ _ _ stands permitted => stands.step permitted) suspended running txs idle parted
  rw [idling, Machine.restrict_trace] at both
  exact both

theorem Parted.grace_free (parted : Parted subscriber planKey since suspended running) :
    running.ledger.account (.grace (.sub subscriber planKey)) = none := by
  obtain ⟨sub, found, _⟩ := parted.twin.subscription
  apply parted.unpaused.grace_free
  exact ((parted.unpaused.sound subscriber planKey).of_active
    (Ledger.view_subscription.mpr found) rfl).graced

theorem Parted.resumed (parted : Parted subscriber planKey since suspended running)
    {accounts : Resume} (target : accounts.subscription = .sub subscriber planKey)
    (ordered : machine.allows suspended ⟨now, .program (.resume accounts)⟩)
    (resumed : suspended.Succeeds ⟨now, .program (.resume accounts)⟩)
    {plan : Plan Pubkey} (planAt : suspended.ledger.account planKey = some (.plan plan)) :
    Shifted subscriber planKey plan.period (now.toInt - since.toInt)
      (suspended.step ⟨now, .program (.resume accounts)⟩) running := by
  obtain ⟨outcome, executed⟩ := resumed
  have past := parted.past
  have current := parted.current
  have later : suspended.clock.toInt ≤ now.toInt := ordered
  refine ⟨parted.paused.step ordered, parted.unpaused, ?_, by omega, ?_, plan, ?_, rfl⟩
  · rw [step_of_ok executed]
    exact resume_twin parted.twin parted.unpaused.wellFormed parted.grace_free target executed
  · rw [step_clock]
    dsimp only
    omega
  · exact (step_evolves parted.paused.wellFormed _).keeps.plans planKey plan planAt

theorem Shifted.run {period : Int64} {delay : Int} {late early : Chain}
    (shifted : Shifted subscriber planKey period delay late early) {txs : List Tx}
    (allowed : (attending (.sub subscriber planKey) period).AllowsRun late txs) :
    Shifted subscriber planKey period delay (machine.run late txs)
        (machine.run early (txs.map (Tx.earlier delay))) ∧
      movementsAlong late txs = movementsAlong early (txs.map (Tx.earlier delay)) := by
  have both := @Machine.run_lockstep _ _ (attending (.sub subscriber planKey) period) _
    (fun before tx => [before.movements tx]) _ _ machine
    (fun before tx => [before.movements tx]) (Shifted subscriber planKey period delay)
    (Tx.earlier delay) (fun _ _ _ stands permitted => stands.step permitted) late early txs
    allowed shifted
  rw [attending, Machine.restrict_trace] at both
  exact both

/-- What a `cancel` leaves behind is well formed and without a grace. -/
theorem Invariant.after_cancel (invariant : chain.Invariant) {accounts : Cancel}
    (target : accounts.subscription = .sub subscriber planKey)
    (ordered : chain.clock.toInt ≤ now.toInt) {outcome : Outcome}
    (executed : cancel chain.ledger now accounts = .ok outcome) :
    outcome.ledger.WellFormed ∧
      outcome.ledger.account (.grace (.sub subscriber planKey)) = none := by
  have stepped := @Invariant.step chain invariant ⟨now, .program (.cancel accounts)⟩ ordered
  obtain ⟨_, taken⟩ := @step_view chain subscriber planKey invariant.wellFormed
    ⟨now, .program (.cancel accounts)⟩ ⟨outcome, executed⟩
  have closed : ((chain.step ⟨now, .program (.cancel accounts)⟩).view
      (.sub subscriber planKey)).vault = none := by
    generalize (chain.step ⟨now, .program (.cancel accounts)⟩).view
      (.sub subscriber planKey) = after at taken
    cases taken with
    | cancel => rfl
    | other elsewhere =>
        simp [Action.subscription?, Instruction.subscription?, target] at elsewhere
  have graceFree := stepped.grace_free
    ((stepped.sound subscriber planKey).bare_of_vault closed).graced
  have wellFormed := stepped.wellFormed
  rw [@step_of_ok chain ⟨now, .program (.cancel accounts)⟩ outcome executed]
    at wellFormed graceFree
  exact ⟨wellFormed, graceFree⟩

/-- A `cancel` of the paused subscription is a `cancel` at the moment of the `pause`. -/
theorem Parted.cancelled (parted : Parted subscriber planKey since suspended running)
    {accounts : Cancel} (target : accounts.subscription = .sub subscriber planKey)
    {cancelling plain : Tx}
    (cancellingEq : cancelling = ⟨now, .program (.cancel { accounts with
      pausedSubscription := some (.pausedSub (.sub subscriber planKey)) })⟩)
    (plainEq : plain = ⟨since, .program (.cancel { accounts with
      pausedSubscription := none })⟩)
    (ordered : machine.allows suspended cancelling) :
    suspended.movements cancelling = running.movements plain ∧
      (suspended.Succeeds cancelling → (running.step plain).ledger.Delayed
        (.sub subscriber planKey) 0 (suspended.step cancelling).ledger) := by
  subst cancellingEq plainEq
  have past : since.toInt ≤ now.toInt := le_trans parted.past ordered
  have forth : ∀ outcome, cancel running.ledger since
      { accounts with pausedSubscription := none } = .ok outcome →
      outcome.Delayed (.sub subscriber planKey) 0 (cancel suspended.ledger now { accounts with
        pausedSubscription := some (.pausedSub (.sub subscriber planKey)) }) := by
    intro outcome executed
    obtain ⟨wellFormed, graceFree⟩ := @Invariant.after_cancel subscriber planKey running since
      parted.unpaused { accounts with pausedSubscription := none } target parted.current outcome
      executed
    exact cancel_twin parted.twin wellFormed graceFree rfl past target executed
  have back : ∀ outcome, cancel suspended.ledger now { accounts with
        pausedSubscription := some (.pausedSub (.sub subscriber planKey)) } = .ok outcome →
      outcome.Delayed (.sub subscriber planKey) 0 (cancel running.ledger since
        { accounts with pausedSubscription := none }) := by
    intro outcome executed
    obtain ⟨wellFormed, graceFree⟩ := @Invariant.after_cancel subscriber planKey suspended now
      parted.paused { accounts with
        pausedSubscription := some (.pausedSub (.sub subscriber planKey)) } target ordered
      outcome executed
    exact cancel_twin parted.twin.symm wellFormed graceFree rfl (le_refl _) target executed
  generalize { accounts with pausedSubscription := none } = plainAccounts at *
  generalize { accounts with
    pausedSubscription := some (.pausedSub (.sub subscriber planKey)) } = pausedAccounts at *
  cases executed : cancel running.ledger since plainAccounts with
  | ok outcome =>
      obtain ⟨other, otherExecuted, transfers, stays⟩ := forth outcome executed
      rw [@movements_of_ok _ _ (.program (.cancel pausedAccounts)) _ otherExecuted,
        @movements_of_ok _ _ (.program (.cancel plainAccounts)) _ executed, transfers]
      refine ⟨rfl, fun _ => ?_⟩
      rw [@step_of_ok _ ⟨_, .program (.cancel plainAccounts)⟩ _ executed,
        @step_of_ok _ ⟨_, .program (.cancel pausedAccounts)⟩ _ otherExecuted]
      exact stays
  | error refusal =>
      cases otherExecuted : cancel suspended.ledger now pausedAccounts with
      | ok other =>
          obtain ⟨outcome, succeeded, _⟩ := back other otherExecuted
          rw [executed] at succeeded
          cases succeeded
      | error otherRefusal =>
          rw [@movements_of_error _ _ (.program (.cancel pausedAccounts)) _ otherExecuted,
            @movements_of_error _ _ (.program (.cancel plainAccounts)) _ executed]
          refine ⟨rfl, ?_⟩
          rintro ⟨outcome, succeeded⟩
          cases succeeded.symm.trans otherExecuted

end Phases

end Chain

/-- From a `pause` on, the subscription runs as if it had not been paused.  Whatever is
funded and closed while it is `Paused` is funded and closed alike at the moment of the
`pause`.  After a `resume` every transaction on it succeeds exactly when it does earlier by
the length of the pause without one, moves the same tokens, and leaves the same accounts but
for the clock.  A `cancel` in place of the `resume` does what it does at the moment of the
`pause`. -/
theorem pause_invisible {chain suspended running : Chain} {subscriber planKey : Pubkey}
    {sub : Subscription Pubkey} {pausing : Int64} {pauseAccounts : Pause}
    {interlude : List Tx} (reachable : machine.Reachable chain)
    (loaded : chain.ledger.account (.sub subscriber planKey) = some (.subscription sub))
    (target : pauseAccounts.subscription = .sub subscriber planKey)
    (ordered : machine.allows chain ⟨pausing, .program (.pause pauseAccounts)⟩)
    (paused : chain.Succeeds ⟨pausing, .program (.pause pauseAccounts)⟩)
    (idle : (idling (.sub subscriber planKey)).AllowsRun
      (chain.step ⟨pausing, .program (.pause pauseAccounts)⟩) interlude)
    (suspendedEq : suspended =
      machine.run (chain.step ⟨pausing, .program (.pause pauseAccounts)⟩) interlude)
    (runningEq : running = machine.run chain (interlude.map (Tx.at pausing))) :
    movementsAlong (chain.step ⟨pausing, .program (.pause pauseAccounts)⟩) interlude =
      movementsAlong chain (interlude.map (Tx.at pausing)) ∧
    (∀ (resuming : Int64) (accounts : Resume) (later : List Tx) (delay : Int)
      (resumed : Chain),
      accounts.subscription = .sub subscriber planKey →
      machine.allows suspended ⟨resuming, .program (.resume accounts)⟩ →
      suspended.Succeeds ⟨resuming, .program (.resume accounts)⟩ →
      resumed = suspended.step ⟨resuming, .program (.resume accounts)⟩ →
      delay = resuming.toInt - pausing.toInt →
      (attending (.sub subscriber planKey) sub.period).AllowsRun resumed later →
      movementsAlong resumed later = movementsAlong running (later.map (Tx.earlier delay)) ∧
      (machine.run running (later.map (Tx.earlier delay))).ledger.Delayed
        (.sub subscriber planKey) delay (machine.run resumed later).ledger) ∧
    (∀ (ending : Int64) (accounts : Cancel) (cancelling plain : Tx),
      accounts.subscription = .sub subscriber planKey →
      cancelling = ⟨ending, .program (.cancel { accounts with
        pausedSubscription := some (.pausedSub (.sub subscriber planKey)) })⟩ →
      plain = ⟨pausing, .program (.cancel { accounts with pausedSubscription := none })⟩ →
      machine.allows suspended cancelling →
      suspended.movements cancelling = running.movements plain ∧
      (suspended.Succeeds cancelling → (running.step plain).ledger.Delayed
        (.sub subscriber planKey) 0 (suspended.step cancelling).ledger)) := by
  have invariant := Chain.Invariant.of_reachable reachable
  obtain ⟨parted, sameMovements⟩ := (invariant.parted target ordered paused).run idle
  rw [← suspendedEq, ← runningEq] at parted
  -- The plan is older than the subscription, and plans stay.
  obtain ⟨plan, planAt, _, periodEq, _⟩ := invariant.wellFormed.sub_plan loaded
  rw [(invariant.wellFormed.sub_parties loaded).2] at planAt
  have planStays : suspended.ledger.account planKey = some (.plan plan) := by
    rw [suspendedEq]
    exact (Chain.run_evolves invariant.wellFormed
      (⟨pausing, .program (.pause pauseAccounts)⟩ :: interlude)).keeps.plans planKey plan planAt
  refine ⟨sameMovements, ?_, ?_⟩
  · rintro resuming accounts later delay resumed resumeTarget resumeOrdered succeeds rfl rfl
      attends
    have shifted := parted.resumed resumeTarget resumeOrdered succeeds planStays
    rw [periodEq] at attends
    obtain ⟨ends, same⟩ := shifted.run attends
    exact ⟨same, ends.delayed⟩
  · intro ending accounts cancelling plain cancelTarget cancellingEq plainEq cancelOrdered
    exact parted.cancelled cancelTarget cancellingEq plainEq cancelOrdered

section Witness

open Sample

/-- A subscription that is charged once, at 5. -/
def chargedTxs : List Tx :=
  [createPlanTx, subscribeTx 0, chargeTx 5 none]

/-- Paused from 8 to 20 and funded meanwhile, the subscription does at 25, 30 and 31 what it
would have done at 13, 18 and 19. -/
theorem pause_invisible_funded :
    movementsAlong (machine.run genesis (chargedTxs ++
        [pauseTx 8, topUpTx 9 none 100, resumeTx 20]))
        [chargeTx 25 none, cancelTx 30 none none, cleanupTx 31] =
      movementsAlong (machine.run genesis (chargedTxs ++ [topUpTx 8 none 100]))
        [chargeTx 13 none, cancelTx 18 none none, cleanupTx 19] := by
  have reachable : machine.Reachable (machine.run genesis chargedTxs) :=
    ⟨genesis, _, genesis_isGenesis, allowsRun_of_clocks (by decide), rfl⟩
  have periods : ((machine.run genesis chargedTxs).view subKey).subscription.map (·.period) =
      some 10 := by
    decide +kernel
  obtain ⟨sub, subAt, period⟩ := Option.map_eq_some_iff.mp periods
  obtain ⟨_, resumes, _⟩ := @pause_invisible (machine.run genesis chargedTxs)
    (machine.run genesis (chargedTxs ++ [pauseTx 8, topUpTx 9 none 100]))
    (machine.run genesis (chargedTxs ++ [topUpTx 8 none 100])) subscriber.key planKey sub 8
    ⟨subKey, .pausedSub subKey, merchant⟩ [topUpTx 9 none 100] reachable
    (Ledger.view_subscription.mp subAt) rfl (by decide +kernel) (by decide +kernel)
    (by decide +kernel) rfl rfl
  exact (resumes 20 ⟨subKey, .pausedSub subKey, merchant⟩
    [chargeTx 25 none, cancelTx 30 none none, cleanupTx 31] 12 _ rfl (by decide +kernel)
    (by decide +kernel) rfl rfl (by rw [period]; decide +kernel)).1

end Witness

end Nakama
