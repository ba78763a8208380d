import Nakama.Properties.Drain

/-!
# The stream while it is paused

`cancel` and `resume` recompute the unlocked amount from `paused_at` and from the deposit
of the moment.  The amount that `pause` reports is capped by the deposit of its own moment,
so a `top_up` in between lifts the cap: the stream is frozen exactly while the cap was not
binding at the pause or no `top_up` succeeded since.
-/

namespace Nakama

open Guard Ledger

/-- The chain in an environment that leaves the subscription paused. -/
def stillPaused (key : Pubkey) : Machine Chain Tx :=
  machine.restrict fun chain tx =>
    ((chain.step tx).view key).subscription.map (·.state) = some .paused

instance (key : Pubkey) (chain : Chain) (tx : Tx) :
    Decidable ((stillPaused key).allows chain tx) :=
  inferInstanceAs (Decidable (machine.allows chain tx ∧ _ = _))

/-- What a `top_up` of the subscription asks for. -/
def Action.topUpAmount (key : Pubkey) : Action → Nat
  | .program (.topUp accounts amount) =>
      if accounts.subscription = key then amount.toNat else 0
  | _ => 0

/-- What a transaction adds to the deposit. -/
def toppedUp (key : Pubkey) (chain : Chain) (tx : Tx) : Nat :=
  if chain.Succeeds tx then tx.action.topUpAmount key else 0

/-- What `pause` reports is what the stream has unlocked. -/
theorem pause_reports {ledger : Ledger} {now : Int64} {accounts : Pause} {outcome : Outcome}
    {sub : Subscription Pubkey} (executed : pause ledger now accounts = .ok outcome)
    (loaded : ledger.account accounts.subscription = some (.subscription sub)) :
    ∃ unlockedAtPause : UInt64,
      outcome.events = [.subscriptionPaused accounts.subscription now unlockedAtPause] ∧
      unlockedAtPause.toNat = sub.unlockedBy now := by
  simp only [pause, Pause.tryAccounts, pauseHandler, bind_eq_ok, require_eq_ok,
    exists_const, loadSubscription_eq_ok, seeds, vacant, seedsWithBump, pure_eq_ok,
    Int64.le_iff_toInt_le, Int64.lt_iff_toInt_lt, Int64.toInt_zero] at executed
  obtain ⟨_, ⟨found, foundAt, _, _, _, _, rfl⟩, _, started, period, unlocked, unlocking,
    rfl⟩ := executed
  rw [loaded] at foundAt
  cases foundAt
  exact ⟨unlocked, rfl, ((unlockedAt_eq_ok started period).mp unlocking).2⟩

namespace View

variable {key : Pubkey} {now : Int64} {action : Action} {before after : View}
  {delta : Route → Nat} {sub : Subscription Pubkey} {paused : PausedSubscription Pubkey}
  {deposited : UInt64}

/-- The subscription as its pause left it, except for the deposit. -/
structure Stopped (view : View) (sub : Subscription Pubkey)
    (paused : PausedSubscription Pubkey) (deposited : UInt64) : Prop where
  subscription : view.subscription =
    some { sub with state := .paused, depositedAmount := deposited }
  satellite : view.paused = some paused

/-- A step that leaves the subscription paused changes nothing but the deposit, and that by
a `top_up`. -/
theorem Step.stopped (taken : View.Step key now action before after delta)
    (stopped : before.Stopped sub paused deposited)
    (stays : after.subscription.map (·.state) = some .paused) :
    ∃ more, after.Stopped sub paused more ∧
      more.toNat = deposited.toNat + action.topUpAmount key := by
  have subAt := stopped.subscription
  cases taken with
  | subscribe _ _ _ vacant => cases vacant.symm.trans subAt
  | charge _ found _ active =>
      cases found.symm.trans subAt
      cases active
  | exhaust _ found _ _ active =>
      cases found.symm.trans subAt
      cases active
  | settleUsage _ _ found _ _ active =>
      cases found.symm.trans subAt
      cases active
  | topUp target _ found _ _ _ depositedEq =>
      cases found.symm.trans subAt
      refine ⟨_, ⟨rfl, stopped.satellite⟩, ?_⟩
      rw [depositedEq]
      simp [Action.topUpAmount, target]
  | recover _ _ found _ _ grace =>
      cases found.symm.trans subAt
      cases grace
  | pause _ _ found _ active =>
      cases found.symm.trans subAt
      cases active
  | resume => cases stays
  | cancel => cases stays
  | cleanup => cases stays
  | openSession _ _ _ found _ active =>
      cases found.symm.trans subAt
      cases active
  | closeSession => exact ⟨deposited, ⟨subAt, stopped.satellite⟩, rfl⟩
  | donate => exact ⟨deposited, ⟨subAt, stopped.satellite⟩, rfl⟩
  | other elsewhere =>
      refine ⟨deposited, stopped, ?_⟩
      have nothing : action.topUpAmount key = 0 := by
        unfold Action.topUpAmount
        split
        next =>
          apply if_neg
          simpa [Action.subscription?, Instruction.subscription?] using elsewhere
        next => rfl
      rw [nothing, add_zero]

/-- A `cancel` settles up to the moment of the pause, under the deposit of its own. -/
theorem Step.cancel_stopped {accounts : Cancel}
    (taken : View.Step key now (.program (.cancel accounts)) before after delta)
    (target : accounts.subscription = key) (stopped : before.Stopped sub paused deposited) :
    delta .settlement =
        min (sub.accruedAt paused.pausedAt) deposited.toNat - sub.withdrawnAmount.toNat ∧
      delta .refund =
        deposited.toNat - min (sub.accruedAt paused.pausedAt) deposited.toNat := by
  cases taken with
  | cancel _ _ found _ settles _ withdrawnEq unlocked refundEq =>
      cases found.symm.trans stopped.subscription
      cases settles with
      | paused pausedAt =>
          cases pausedAt.symm.trans stopped.satellite
          change _ = min (sub.accruedAt paused.pausedAt) deposited.toNat at unlocked
          simp only at withdrawnEq refundEq
          simp
          omega
  | other elsewhere =>
      simp [Action.subscription?, Instruction.subscription?, target] at elsewhere

/-- A `resume` leaves what was earned up to the pause, under the deposit of its own moment. -/
theorem Step.resume_stopped {accounts : Resume}
    (taken : View.Step key now (.program (.resume accounts)) before after delta)
    (target : accounts.subscription = key) (stopped : before.Stopped sub paused deposited) :
    ∃ next, after.subscription = some next ∧
      next.claimable now =
        min (sub.accruedAt paused.pausedAt) deposited.toNat - sub.withdrawnAmount.toNat := by
  cases taken with
  | @resume _ _ _ _ streamStart _ _ found pausedAt _ _ shifted =>
      cases found.symm.trans stopped.subscription
      cases pausedAt.symm.trans stopped.satellite
      refine ⟨_, rfl, ?_⟩
      unfold Subscription.claimable
      rw [@Subscription.unlockedBy_shift _
        { sub with state := .active, depositedAmount := deposited } streamStart
        paused.pausedAt now shifted]
      rfl
  | other elsewhere =>
      simp [Action.subscription?, Instruction.subscription?, target] at elsewhere

end View

namespace Chain

variable {chain : Chain} {subscriber planKey : Pubkey} {sub : Subscription Pubkey}
  {paused : PausedSubscription Pubkey}

/-- Along a run that leaves the subscription paused the deposit grows by the top-ups. -/
theorem Invariant.stopped_run {deposited : UInt64} {txs : List Tx}
    (invariant : chain.Invariant)
    (stopped : (chain.view (.sub subscriber planKey)).Stopped sub paused deposited)
    (stays : (stillPaused (.sub subscriber planKey)).AllowsRun chain txs) :
    (machine.run chain txs).Invariant ∧
      ∃ more, ((machine.run chain txs).view (.sub subscriber planKey)).Stopped sub paused
          more ∧
        more.toNat = deposited.toNat +
          machine.total (toppedUp (.sub subscriber planKey)) chain txs := by
  induction txs generalizing chain deposited with
  | nil => exact ⟨invariant, deposited, stopped, rfl⟩
  | cons tx txs ih =>
      obtain ⟨⟨ordered, remains⟩, rest⟩ := stays
      have later : (chain.step tx).Invariant := invariant.step ordered
      have grown : ∃ more, ((chain.step tx).view (.sub subscriber planKey)).Stopped sub paused
          more ∧ more.toNat = deposited.toNat + toppedUp (.sub subscriber planKey) chain tx := by
        rcases @step_cases chain subscriber planKey invariant.wellFormed tx with
          ⟨fails, unchanged⟩ | ⟨outcome, executed, _, taken⟩
        · rw [unchanged, toppedUp, if_neg fails]
          exact ⟨deposited, stopped, rfl⟩
        · rw [toppedUp, if_pos ⟨outcome, executed⟩]
          exact taken.stopped stopped remains
      obtain ⟨more, holds, moreEq⟩ := grown
      obtain ⟨ended, last, lastHolds, lastEq⟩ := ih later holds rest
      refine ⟨ended, last, lastHolds, ?_⟩
      rw [lastEq, moreEq, add_assoc]
      rfl

theorem stopped_of_pause {pausedAt : Int64} {accounts : Pause} {outcome : Outcome}
    (invariant : chain.Invariant) (target : accounts.subscription = .sub subscriber planKey)
    (loaded : chain.ledger.account (.sub subscriber planKey) = some (.subscription sub))
    (executed : pause chain.ledger pausedAt accounts = .ok outcome) :
    sub.state = .active ∧ ∃ paused : PausedSubscription Pubkey, paused.pausedAt = pausedAt ∧
      ((chain.step ⟨pausedAt, .program (.pause accounts)⟩).view
        (.sub subscriber planKey)).Stopped sub paused sub.depositedAmount := by
  have succeeds : chain.Succeeds ⟨pausedAt, .program (.pause accounts)⟩ := ⟨outcome, executed⟩
  have subAt : (chain.view (.sub subscriber planKey)).subscription = some sub :=
    view_subscription.mpr loaded
  obtain ⟨_, taken⟩ := @step_view chain subscriber planKey invariant.wellFormed _ succeeds
  generalize (chain.step ⟨pausedAt, .program (.pause accounts)⟩).view
    (.sub subscriber planKey) = after at taken
  cases taken with
  | pause _ _ found _ active =>
      cases found.symm.trans subAt
      exact ⟨active, _, rfl, rfl, rfl⟩
  | other elsewhere =>
      simp [Action.subscription?, Instruction.subscription?, target] at elsewhere

end Chain

/-- After any run that leaves the subscription paused, a `cancel` pays the merchant what was
unlocked at the pause and not withdrawn, and the subscriber the rest, and a `resume` leaves
just that claimable, if and only if the deposit covered the accrual at the pause or no
`top_up` succeeded since. -/
theorem pause_freezes_iff {chain : Chain} {subscriber planKey : Pubkey}
    {sub : Subscription Pubkey} {pausedAt : Int64} {accounts : Pause} {outcome : Outcome}
    {txs : List Tx} (reachable : machine.Reachable chain)
    (ordered : chain.clock.toInt ≤ pausedAt.toInt)
    (target : accounts.subscription = .sub subscriber planKey)
    (loaded : chain.ledger.account (.sub subscriber planKey) = some (.subscription sub))
    (executed : pause chain.ledger pausedAt accounts = .ok outcome)
    (stays : (stillPaused (.sub subscriber planKey)).AllowsRun
      (chain.step ⟨pausedAt, .program (.pause accounts)⟩) txs) :
    ∃ (unlockedAtPause : UInt64) (held : Subscription Pubkey),
      outcome.events = [.subscriptionPaused (.sub subscriber planKey) pausedAt
        unlockedAtPause] ∧
      (machine.run (chain.step ⟨pausedAt, .program (.pause accounts)⟩) txs).ledger.account
        (.sub subscriber planKey) = some (.subscription held) ∧
      (∀ now cancelAccounts cancelled,
        cancelAccounts.subscription = .sub subscriber planKey →
        cancel (machine.run (chain.step ⟨pausedAt, .program (.pause accounts)⟩) txs).ledger
          now cancelAccounts = .ok cancelled →
        (volume (.vault (.sub subscriber planKey)) cancelled.transfers .settlement =
            unlockedAtPause.toNat - sub.withdrawnAmount.toNat ∧
          volume (.vault (.sub subscriber planKey)) cancelled.transfers .refund =
            held.depositedAmount.toNat - unlockedAtPause.toNat ↔
          sub.accruedAt pausedAt ≤ sub.depositedAmount.toNat ∨
            machine.total (toppedUp (.sub subscriber planKey))
              (chain.step ⟨pausedAt, .program (.pause accounts)⟩) txs = 0)) ∧
      (∀ now resumeAccounts resumed,
        resumeAccounts.subscription = .sub subscriber planKey →
        resume (machine.run (chain.step ⟨pausedAt, .program (.pause accounts)⟩) txs).ledger
          now resumeAccounts = .ok resumed →
        ∃ next, resumed.ledger.account (.sub subscriber planKey) =
            some (.subscription next) ∧
          (next.claimable now = unlockedAtPause.toNat - sub.withdrawnAmount.toNat ↔
            sub.accruedAt pausedAt ≤ sub.depositedAmount.toNat ∨
              machine.total (toppedUp (.sub subscriber planKey))
                (chain.step ⟨pausedAt, .program (.pause accounts)⟩) txs = 0)) := by
  have invariant := Chain.Invariant.of_reachable reachable
  have subAt : (chain.view (.sub subscriber planKey)).subscription = some sub :=
    view_subscription.mpr loaded
  obtain ⟨unlockedAtPause, reports, unlockedEq⟩ :=
    pause_reports executed (by rw [target]; exact loaded)
  obtain ⟨active, paused, rfl, stopped⟩ :=
    Chain.stopped_of_pause invariant target loaded executed
  -- What was withdrawn before the pause was unlocked then.
  have covered := (((invariant.sound subscriber planKey).advance ordered).of_active subAt
    active).covered
  change _ = min (sub.accruedAt paused.pausedAt) sub.depositedAmount.toNat at unlockedEq
  change _ ≤ min (sub.accruedAt paused.pausedAt) sub.depositedAmount.toNat at covered
  have pausing : (chain.step ⟨paused.pausedAt, .program (.pause accounts)⟩).Invariant :=
    invariant.step ordered
  obtain ⟨later, more, holds, moreEq⟩ := pausing.stopped_run stopped stays
  rw [target] at reports
  refine ⟨unlockedAtPause, _, reports, view_subscription.mp holds.subscription, ?_, ?_⟩
  · intro now cancelAccounts cancelled cancelTarget cancels
    have taken := @action_view_step _ now cancelled subscriber planKey later.wellFormed
      (.program (.cancel cancelAccounts)) cancels
    obtain ⟨settlement, refund⟩ := taken.cancel_stopped cancelTarget holds
    rw [settlement, refund]
    simp only
    omega
  · intro now resumeAccounts resumed resumeTarget resumes
    have taken := @action_view_step _ now resumed subscriber planKey later.wellFormed
      (.program (.resume resumeAccounts)) resumes
    obtain ⟨next, nextAt, claimable⟩ := taken.resume_stopped resumeTarget holds
    refine ⟨next, view_subscription.mp nextAt, ?_⟩
    rw [claimable]
    omega

section Witness

open Sample

/-- Paused at second 8 with 80 of 200 earned, and topped up: a later `cancel` pays 80. -/
theorem pause_freezes_iff_covered :
    ∃ cancelled, cancel (machine.run genesis [createPlanTx, subscribeTx 0, pauseTx 8,
          topUpTx 10 none 100]).ledger 50 (cancelAccounts none (some (.pausedSub subKey))) =
        .ok cancelled ∧
      volume (.vault subKey) cancelled.transfers .settlement = 80 := by
  have reachable : machine.Reachable (machine.run genesis [createPlanTx, subscribeTx 0]) :=
    ⟨genesis, _, genesis_isGenesis, allowsRun_of_clocks (by decide), rfl⟩
  obtain ⟨sub, subAt, fields⟩ := Option.map_eq_some_iff.mp
    (show ((machine.run genesis [createPlanTx, subscribeTx 0]).view subKey).subscription.map
      (fun sub => (sub.accruedAt 8, sub.unlockedBy 8, sub.depositedAmount.toNat,
        sub.withdrawnAmount.toNat)) = some (80, 80, 200, 0) by decide +kernel)
  simp only [Prod.mk.injEq] at fields
  obtain ⟨accrued, unlocked, deposited, withdrawn⟩ := fields
  have loaded := Ledger.view_subscription.mp subAt
  obtain ⟨outcome, executed⟩ : (machine.run genesis [createPlanTx, subscribeTx 0]).Succeeds
    (pauseTx 8) := by decide +kernel
  obtain ⟨cancelled, cancels⟩ : (machine.run genesis [createPlanTx, subscribeTx 0, pauseTx 8,
      topUpTx 10 none 100]).Succeeds (cancelTx 50 none (some (.pausedSub subKey))) := by
    decide +kernel
  obtain ⟨unlockedAtPause, held, reports, _, onCancel, _⟩ :=
    @pause_freezes_iff _ subscriber.key planKey sub 8 ⟨subKey, .pausedSub subKey, merchant⟩
      outcome [topUpTx 10 none 100] reachable (by decide +kernel) rfl loaded executed
      (by decide +kernel)
  obtain ⟨reported, sameReport, reportedEq⟩ := pause_reports executed loaded
  have same : unlockedAtPause = reported := by
    have events := reports.symm.trans sameReport
    simp only [List.cons.injEq, Event.subscriptionPaused.injEq, and_true] at events
    exact events.2.2
  have pays := ((onCancel 50 _ cancelled rfl cancels).mpr (.inl (by omega))).1
  rw [same, reportedEq, show sub.unlockedBy (pauseTx 8).now = 80 from unlocked, withdrawn]
    at pays
  exact ⟨cancelled, cancels, pays⟩

/-- Paused at second 30 with the 200 long earned, and topped up by 100: `pause` reports 200
unlocked, and a later `cancel` pays 300. -/
theorem topped_up_pause_pays_more :
    machine.Reachable (machine.run genesis [createPlanTx, subscribeTx 0]) ∧
      (machine.run genesis [createPlanTx, subscribeTx 0]).Succeeds (pauseTx 30) ∧
      (machine.run genesis [createPlanTx, subscribeTx 0, pauseTx 30]).log.head?.map
        Entry.events = some [.subscriptionPaused subKey 30 200] ∧
      (stillPaused subKey).AllowsRun
        (machine.run genesis [createPlanTx, subscribeTx 0, pauseTx 30])
        [topUpTx 40 none 100] ∧
      ((machine.run genesis [createPlanTx, subscribeTx 0]).view subKey).subscription.map
        (·.withdrawnAmount) = some 0 ∧
      (machine.run genesis [createPlanTx, subscribeTx 0, pauseTx 30, topUpTx 40 none 100,
          cancelTx 50 none (some (.pausedSub subKey))]).log.head?.map
        (fun entry => volume (.vault subKey) entry.transfers .settlement) = some 300 := by
  refine ⟨⟨genesis, _, genesis_isGenesis, allowsRun_of_clocks (by decide), rfl⟩, ?_⟩
  decide +kernel

end Witness

end Nakama
