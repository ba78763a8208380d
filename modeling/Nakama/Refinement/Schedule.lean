import Nakama.Lib.Meter
import Nakama.Refinement.Availability
import Nakama.Refinement.Metering

/-!
# Streams and the controls of their parties

Only the two parties start, stop and fund a stream.  The meter that is driven by their
controls alone agrees with the subscription until the deposit is earned; afterwards a
`charge` may have moved the subscription into grace, where controls are refused that the
meter obeys, but then both have paid out everything.
-/

namespace Nakama

/-- What the parties do to a stream: a `pause` or `resume` that somebody tries, and a
`top_up` that goes through. -/
inductive Control where
  | pause (accounts : Pause)
  | resume (accounts : Resume)
  | topUp (amount : UInt64)
  deriving DecidableEq

/-- The control in an action on the subscription at `key`. -/
def Action.control? (key : Pubkey) : Action → Option Control
  | .program (.pause accounts) =>
      if accounts.subscription = key then some (.pause accounts) else none
  | .program (.resume accounts) =>
      if accounts.subscription = key then some (.resume accounts) else none
  | .program (.topUp accounts amount) =>
      if accounts.subscription = key then some (.topUp amount) else none
  | _ => none

/-- Every action has no control over the stream, or is one of the three. -/
theorem Action.control?_cases (key : Pubkey) (action : Action) :
    action.control? key = none ∨
      (∃ accounts, action = .program (.pause accounts) ∧ accounts.subscription = key) ∨
      (∃ accounts, action = .program (.resume accounts) ∧ accounts.subscription = key) ∨
      (∃ accounts amount, action = .program (.topUp accounts amount) ∧
        accounts.subscription = key) := by
  cases action with
  | spl => exact .inl rfl
  | program instruction =>
      cases instruction with
      | pause accounts =>
          by_cases target : accounts.subscription = key
          · exact .inr (.inl ⟨accounts, rfl, target⟩)
          · exact .inl (if_neg target)
      | resume accounts =>
          by_cases target : accounts.subscription = key
          · exact .inr (.inr (.inl ⟨accounts, rfl, target⟩))
          · exact .inl (if_neg target)
      | topUp accounts amount =>
          by_cases target : accounts.subscription = key
          · exact .inr (.inr (.inr ⟨accounts, amount, rfl, target⟩))
          · exact .inl (if_neg target)
      | _ => exact .inl rfl

/-- The control that a transaction exerts, with its time. -/
def Chain.control (key : Pubkey) (chain : Chain) (tx : Tx) : List (Int64 × Control) :=
  match tx.action.control? key with
  | none => []
  | some (.topUp amount) => if chain.Succeeds tx then [(tx.now, .topUp amount)] else []
  | some control => [(tx.now, control)]

/-- The controls along a run. -/
def controls (key : Pubkey) (chain : Chain) (txs : List Tx) : List (Int64 × Control) :=
  machine.trace (Chain.control key) chain txs

/-- What a control does to a meter.  A merchant's `pause` freezes one that runs, and a
merchant's `resume` thaws one that stands, both within the range of the clock. -/
def Control.apply (merchant key : Pubkey) (meter : Meter) : Int64 × Control → Meter
  | (now, .pause accounts) =>
      if meter.frozen = none ∧ accounts.pausedSatellite = .pausedSub key ∧
          merchant = accounts.merchant.key ∧
          Checked.FitsI64 (now.toInt - meter.anchor) then
        meter.freeze now.toInt
      else
        meter
  | (now, .resume accounts) =>
      match meter.frozen with
      | none => meter
      | some since =>
          if accounts.pausedSatellite = .pausedSub key ∧ merchant = accounts.merchant.key ∧
              since ≤ now.toInt ∧ Checked.FitsI64 (now.toInt - since) ∧
              Checked.FitsI64 (meter.anchor + (now.toInt - since)) then
            meter.thaw now.toInt
          else
            meter
  | (_, .topUp amount) => meter.refill amount.toNat

/-- All that was deposited for the stream has been earned. -/
def View.Exhausted (view : View) (clock : Int64) (sub : Subscription Pubkey) : Prop :=
  sub.depositedAmount.toNat ≤
    Accrual.accrued sub.price.toNat sub.period.toInt.toNat (view.metered clock)

instance (view : View) (clock : Int64) (sub : Subscription Pubkey) :
    Decidable (view.Exhausted clock sub) :=
  inferInstanceAs (Decidable (_ ≤ _))

/-- The meter is where the stream is, or both are exhausted. -/
inductive View.Follows (view : View) (clock : Int64) (sub : Subscription Pubkey) :
    Meter → Prop where
  | streaming (active : sub.state = .active) :
      Follows view clock sub ⟨sub.streamStart.toInt, none, sub.depositedAmount.toNat⟩
  | frozen {paused : PausedSubscription Pubkey} (state : sub.state = .paused)
      (satellite : view.paused = some paused) :
      Follows view clock sub ⟨sub.streamStart.toInt, some paused.pausedAt.toInt,
        sub.depositedAmount.toNat⟩
  | exhausted {meter : Meter} (depositedEq : meter.deposited = sub.depositedAmount.toNat)
      (spent : meter.Exhausted sub.price.toNat sub.period.toInt.toNat clock.toInt)
      (earned : view.Exhausted clock sub) : Follows view clock sub meter

namespace View.Step

variable {key : Pubkey} {now : Int64} {action : Action} {before after : View}
  {sub next : Subscription Pubkey} {delta : Route → Nat}

/-- Only a `top_up` changes the deposit. -/
theorem deposited_eq (taken : View.Step key now action before after delta)
    (running : before.Running sub) (continues : after.Running next)
    (frugal : ∀ amount, action.control? key ≠ some (.topUp amount)) :
    next.depositedAmount = sub.depositedAmount := by
  have subAt := running.1
  have nextAt := continues.1
  cases taken with
  | subscribe _ _ _ vacant =>
      rw [vacant] at subAt
      cases subAt
  | charge _ found => cases nextAt; cases found.symm.trans subAt; rfl
  | exhaust _ found => cases nextAt; cases found.symm.trans subAt; rfl
  | settleUsage _ _ found => cases nextAt; cases found.symm.trans subAt; rfl
  | topUp target => simp [Action.control?, target] at frugal
  | recover target => simp [Action.control?, target] at frugal
  | pause _ _ found => cases nextAt; cases found.symm.trans subAt; rfl
  | resume _ _ found => cases nextAt; cases found.symm.trans subAt; rfl
  | cancel _ _ found => cases nextAt; cases found.symm.trans subAt; rfl
  | cleanup => cases nextAt
  | openSession => cases subAt.symm.trans nextAt; rfl
  | closeSession => cases subAt.symm.trans nextAt; rfl
  | donate => cases subAt.symm.trans nextAt; rfl
  | other => cases subAt.symm.trans nextAt; rfl

/-- A step without control over the stream leaves it alone, or drains the escrow. -/
theorem uncontrolled (taken : View.Step key now action before after delta)
    (running : before.Running sub) (continues : after.Running next)
    (quiet : action.control? key = none) :
    (next.state = sub.state ∧ next.streamStart = sub.streamStart ∧
        after.paused = before.paused) ∨
      (sub.state = .active ∧ sub.depositedAmount.toNat = sub.unlockedBy now) := by
  have subAt := running.1
  have nextAt := continues.1
  cases taken with
  | subscribe _ _ _ vacant =>
      rw [vacant] at subAt
      cases subAt
  | charge _ found => cases nextAt; cases found.symm.trans subAt; exact .inl ⟨rfl, rfl, rfl⟩
  | exhaust _ found _ _ active _ _ unlocked =>
      cases found.symm.trans subAt
      exact .inr ⟨active, unlocked⟩
  | settleUsage _ _ found =>
      cases nextAt
      cases found.symm.trans subAt
      exact .inl ⟨rfl, rfl, rfl⟩
  | topUp target => simp [Action.control?, target] at quiet
  | recover target => simp [Action.control?, target] at quiet
  | pause target => simp [Action.control?, target] at quiet
  | resume target => simp [Action.control?, target] at quiet
  | cancel =>
      cases nextAt
      simpa using continues.2
  | cleanup => cases nextAt
  | openSession => cases subAt.symm.trans nextAt; exact .inl ⟨rfl, rfl, rfl⟩
  | closeSession => cases subAt.symm.trans nextAt; exact .inl ⟨rfl, rfl, rfl⟩
  | donate => cases subAt.symm.trans nextAt; exact .inl ⟨rfl, rfl, rfl⟩
  | other => cases subAt.symm.trans nextAt; exact .inl ⟨rfl, rfl, rfl⟩

end View.Step

namespace View.Follows

variable {key : Pubkey} {clock later now : Int64} {action : Action} {before after view : View}
  {sub next : Subscription Pubkey} {meter : Meter} {delta : Route → Nat}

theorem deposited_eq (follows : view.Follows clock sub meter) :
    meter.deposited = sub.depositedAmount.toNat := by
  cases follows with
  | streaming => rfl
  | frozen => rfl
  | exhausted depositedEq => exact depositedEq

/-- Stream and meter have the same seconds, or both are exhausted. -/
theorem elapsed_eq (follows : view.Follows clock sub meter)
    (subAt : view.subscription = some sub) :
    meter.elapsed clock.toInt = view.metered clock ∨
      meter.Exhausted sub.price.toNat sub.period.toInt.toNat clock.toInt ∧
        view.Exhausted clock sub := by
  cases follows with
  | streaming active =>
      rw [metered_of_active subAt active]
      exact .inl rfl
  | frozen state satellite =>
      rw [metered_of_frozen subAt state satellite]
      exact .inl rfl
  | exhausted _ spent earned => exact .inr ⟨spent, earned⟩

theorem unlocked_eq (follows : view.Follows clock sub meter)
    (subAt : view.subscription = some sub) :
    Accrual.unlocked sub.price.toNat sub.period.toInt.toNat sub.depositedAmount.toNat
        (view.metered clock) =
      meter.unlocked sub.price.toNat sub.period.toInt.toNat clock.toInt := by
  rcases follows.elapsed_eq subAt with same | ⟨spent, earned⟩
  · rw [Meter.unlocked, same, follows.deposited_eq]
  · rw [spent.unlocked_eq, follows.deposited_eq]
    exact Accrual.unlocked_of_deposited_le earned

theorem of_exhausted (follows : view.Follows clock sub meter)
    (subAt : view.subscription = some sub) (earned : view.Exhausted clock sub) :
    meter.Exhausted sub.price.toNat sub.period.toInt.toNat clock.toInt := by
  rcases follows.elapsed_eq subAt with same | ⟨spent, _⟩
  · rw [Meter.Exhausted, same, follows.deposited_eq]
    exact earned
  · exact spent

theorem advance (follows : view.Follows clock sub meter) (sound : view.Sound clock)
    (running : view.Running sub) (ordered : clock.toInt ≤ later.toInt) :
    view.Follows later sub meter := by
  cases follows with
  | streaming active => exact .streaming active
  | frozen state satellite => exact .frozen state satellite
  | exhausted depositedEq spent earned =>
      refine .exhausted depositedEq (spent.mono ordered) ?_
      have grown := sound.metered_advance running ordered
      exact le_trans earned (Accrual.accrued_mono (by omega))

/-- The meter of an exhausted stream may do anything that keeps it exhausted. -/
theorem of_spent (earned : before.Exhausted now sub)
    (taken : View.Step key now action before after delta) (sound : before.Sound now)
    (running : before.Running sub) (continues : after.Running next)
    (frugal : ∀ amount, action.control? key ≠ some (.topUp amount))
    (depositedEq : meter.deposited = sub.depositedAmount.toNat)
    (spent : meter.Exhausted sub.price.toNat sub.period.toInt.toNat now.toInt) :
    after.Follows now next meter := by
  have sameDeposit := taken.deposited_eq running continues frugal
  have terms := taken.terms running.1 continues.1
  have price : next.price = sub.price := congrArg Terms.price terms
  have period : next.period = sub.period := congrArg Terms.period terms
  apply View.Follows.exhausted
  · rw [depositedEq, sameDeposit]
  · rw [price, period]
    exact spent
  · unfold View.Exhausted
    rw [taken.metered sound running continues, sameDeposit, price, period]
    exact earned

/-- A step without control over the stream keeps the meter. -/
theorem step_of_uncontrolled (follows : before.Follows now sub meter)
    (taken : View.Step key now action before after delta) (sound : before.Sound now)
    (running : before.Running sub) (continues : after.Running next)
    (quiet : action.control? key = none) : after.Follows now next meter := by
  have frugal : ∀ amount, action.control? key ≠ some (.topUp amount) := by
    intro amount
    rw [quiet]
    simp
  have sameDeposit := taken.deposited_eq running continues frugal
  rcases taken.uncontrolled running continues quiet with
    ⟨sameState, sameStart, samePaused⟩ | ⟨active, unlocked⟩
  · cases follows with
    | streaming active =>
        rw [← sameStart, ← sameDeposit]
        exact .streaming (sameState.trans active)
    | frozen state satellite =>
        rw [← sameStart, ← sameDeposit]
        exact .frozen (sameState.trans state) (samePaused.trans satellite)
    | exhausted depositedEq spent earned =>
        exact of_spent earned taken sound running continues frugal depositedEq spent
  · -- The `charge` that drains the escrow: from here on the meter may go its own way.
    have earned : before.Exhausted now sub := by
      unfold View.Exhausted
      rw [metered_of_active running.1 active, unlocked]
      exact sub.unlockedBy_le_accruedAt now
    exact of_spent earned taken sound running continues frugal follows.deposited_eq
      (follows.of_exhausted running.1 earned)

theorem step_of_topUp {accounts : TopUp} {amount : UInt64}
    (follows : before.Follows now sub meter)
    (taken : View.Step key now (.program (.topUp accounts amount)) before after delta)
    (target : accounts.subscription = key) (running : before.Running sub)
    (continues : after.Running next) (timely : ¬before.Exhausted now sub) :
    after.Follows now next (meter.refill amount.toNat) := by
  have subAt := running.1
  have nextAt := continues.1
  cases taken with
  | topUp _ _ found _ runs _ depositedEq =>
      rw [found, Option.some.injEq] at subAt
      cases nextAt
      subst subAt
      cases follows with
      | streaming active =>
          unfold Meter.refill
          rw [← depositedEq]
          exact .streaming active
      | frozen state satellite =>
          unfold Meter.refill
          rw [← depositedEq]
          exact .frozen state satellite
      | exhausted _ _ earned => exact (timely earned).elim
  | recover _ _ found _ _ grace =>
      rw [found, Option.some.injEq] at subAt
      subst subAt
      cases follows with
      | streaming active => simp [grace] at active
      | frozen state => simp [grace] at state
      | exhausted _ _ earned => exact (timely earned).elim
  | other elsewhere =>
      simp [Action.subscription?, Instruction.subscription?, target] at elsewhere

theorem step_of_pause {accounts : Pause}
    (taken : View.Step key now (.program (.pause accounts)) before after delta)
    (target : accounts.subscription = key) (running : before.Running sub)
    (continues : after.Running next) :
    after.Follows now next (Meter.freeze ⟨sub.streamStart.toInt, none,
      sub.depositedAmount.toNat⟩ now.toInt) := by
  cases taken with
  | pause _ _ found =>
      cases continues.1
      cases found.symm.trans running.1
      exact @View.Follows.frozen _ _ _ ⟨key, now, _⟩ rfl rfl
  | other elsewhere =>
      simp [Action.subscription?, Instruction.subscription?, target] at elsewhere

theorem step_of_resume {accounts : Resume} {paused : PausedSubscription Pubkey}
    (taken : View.Step key now (.program (.resume accounts)) before after delta)
    (target : accounts.subscription = key) (running : before.Running sub)
    (continues : after.Running next) (satellite : before.paused = some paused) :
    after.Follows now next (Meter.thaw ⟨sub.streamStart.toInt, some paused.pausedAt.toInt,
      sub.depositedAmount.toNat⟩ now.toInt) := by
  cases taken with
  | resume _ _ found pausedAt _ _ shifted =>
      cases continues.1
      cases found.symm.trans running.1
      cases pausedAt.symm.trans satellite
      unfold Meter.thaw
      simp only [Option.getD_some]
      rw [← shifted]
      exact .streaming rfl
  | other elsewhere =>
      simp [Action.subscription?, Instruction.subscription?, target] at elsewhere

end View.Follows

/-- No control but a `top_up` touches the deposit or wakes an exhausted meter. -/
theorem Control.apply_exhausted {merchant key : Pubkey} {meter : Meter} {price period : Nat}
    {now : Int64} {control : Control} (spent : meter.Exhausted price period now.toInt)
    (frugal : ∀ amount, control ≠ .topUp amount) :
    (Control.apply merchant key meter (now, control)).deposited = meter.deposited ∧
      (Control.apply merchant key meter (now, control)).Exhausted price period now.toInt := by
  cases control with
  | pause accounts =>
      simp only [Control.apply]
      split
      next obeyed => exact ⟨rfl, spent.freeze obeyed.1⟩
      next => exact ⟨rfl, spent⟩
  | resume accounts =>
      simp only [Control.apply]
      split
      next => exact ⟨rfl, spent⟩
      next =>
        split
        next => exact ⟨rfl, spent.thaw⟩
        next => exact ⟨rfl, spent⟩
  | topUp amount => exact (frugal amount rfl).elim

/-! ## Along runs -/

/-- The action adds to the deposit of the subscription at `key`. -/
def Action.topsUp (key : Pubkey) : Action → Bool
  | .program (.topUp accounts _) => accounts.subscription = key
  | _ => false

/-- The chain in an environment where the subscription is not cancelled, and no `top_up` goes
through once the deposit is earned. -/
def timely (key : Pubkey) : Machine Chain Tx :=
  (uncancelled key).restrict fun chain tx =>
    tx.action.topsUp key = true → chain.Succeeds tx →
      ∀ sub ∈ (chain.view key).subscription, ¬(chain.view key).Exhausted tx.now sub

instance (key : Pubkey) (chain : Chain) (tx : Tx) : Decidable ((timely key).allows chain tx) :=
  inferInstanceAs (Decidable ((machine.allows chain tx ∧ ¬(_ ∧ _)) ∧ (_ → _ → _)))

/-- A running subscription on these terms that a meter follows. -/
structure Chain.Follows (chain : Chain) (key : Pubkey) (terms : Terms Pubkey)
    (meter : Meter) : Prop where
  invariant : chain.Invariant
  stream : ∃ sub, (chain.view key).Running sub ∧ sub.terms = terms ∧
    (chain.view key).Follows chain.clock sub meter

namespace Chain.Follows

variable {chain : Chain} {subscriber planKey : Pubkey} {terms : Terms Pubkey} {meter : Meter}
  {tx : Tx}

/-- A transaction that fails leaves the stream to the clock. -/
theorem of_fails (invariant : chain.Invariant) (ordered : chain.clock.toInt ≤ tx.now.toInt)
    (fails : ¬chain.Succeeds tx) {sub : Subscription Pubkey}
    (running : (chain.view (.sub subscriber planKey)).Running sub) (same : sub.terms = terms)
    (stream : (chain.view (.sub subscriber planKey)).Follows tx.now sub meter) :
    (chain.step tx).Follows (.sub subscriber planKey) terms meter := by
  refine ⟨invariant.step ordered, sub, ?_⟩
  rcases @step_cases chain subscriber planKey invariant.wellFormed tx with
    ⟨_, unchanged⟩ | ⟨outcome, executed, _, _⟩
  · rw [unchanged]
    exact ⟨running, same, stream⟩
  · exact (fails ⟨outcome, executed⟩).elim

theorem exists_step (follows : chain.Follows (.sub subscriber planKey) terms meter)
    (allowed : (uncancelled (.sub subscriber planKey)).allows chain tx)
    (succeeds : chain.Succeeds tx) :
    ∃ sub next delta,
      View.Step (.sub subscriber planKey) tx.now tx.action
        (chain.view (.sub subscriber planKey))
        ((chain.step tx).view (.sub subscriber planKey)) delta ∧
      (chain.view (.sub subscriber planKey)).Running sub ∧
      ((chain.step tx).view (.sub subscriber planKey)).Running next ∧
      sub.terms = terms ∧ next.terms = terms ∧
      (chain.view (.sub subscriber planKey)).Follows tx.now sub meter := by
  obtain ⟨sub, running, same, stream⟩ := follows.stream
  have serving : chain.Serving (.sub subscriber planKey) := ⟨follows.invariant, sub, running⟩
  obtain ⟨next, continues⟩ := (serving.step allowed).running
  obtain ⟨delta, taken⟩ := step_view follows.invariant.wellFormed succeeds
  have sound := follows.invariant.sound subscriber planKey
  exact ⟨sub, next, delta, taken, running, continues, same,
    (taken.terms running.1 continues.1).trans same, stream.advance sound running allowed.1⟩

/-- Once the deposit is earned, nothing but a `top_up` matters to the stream, and the meter
need not agree about its phase. -/
theorem step_of_exhausted (follows : chain.Follows (.sub subscriber planKey) terms meter)
    (allowed : (uncancelled (.sub subscriber planKey)).allows chain tx)
    (frugal : ∀ amount, tx.action.control? (.sub subscriber planKey) ≠ some (.topUp amount))
    {sub : Subscription Pubkey} (running : (chain.view (.sub subscriber planKey)).Running sub)
    (same : sub.terms = terms)
    (earned : (chain.view (.sub subscriber planKey)).Exhausted tx.now sub) {driven : Meter}
    (depositedEq : driven.deposited = sub.depositedAmount.toNat)
    (spent : driven.Exhausted sub.price.toNat sub.period.toInt.toNat tx.now.toInt) :
    (chain.step tx).Follows (.sub subscriber planKey) terms driven := by
  by_cases succeeds : chain.Succeeds tx
  · obtain ⟨found, next, _, taken, foundRunning, continues, _, nextTerms, _⟩ :=
      follows.exists_step allowed succeeds
    cases foundRunning.1.symm.trans running.1
    have sound := (follows.invariant.sound subscriber planKey).advance allowed.1
    refine ⟨follows.invariant.step allowed.1, next, continues, nextTerms, ?_⟩
    rw [step_clock]
    exact View.Follows.of_spent earned taken sound running continues frugal depositedEq spent
  · exact of_fails follows.invariant allowed.1 succeeds running same
      (.exhausted depositedEq spent earned)

theorem step_of_pause (follows : chain.Follows (.sub subscriber planKey) terms meter)
    {now : Int64} {accounts : Pause}
    (target : accounts.subscription = .sub subscriber planKey)
    (allowed : (uncancelled (.sub subscriber planKey)).allows chain
      ⟨now, .program (.pause accounts)⟩) :
    (chain.step ⟨now, .program (.pause accounts)⟩).Follows (.sub subscriber planKey) terms
      (Control.apply terms.merchant (.sub subscriber planKey) meter
        (now, .pause accounts)) := by
  obtain ⟨sub, running, same, stream⟩ := follows.stream
  have sound := follows.invariant.sound subscriber planKey
  have merchant : sub.merchant = terms.merchant := congrArg Terms.merchant same
  have decides := @pause_succeeds_iff chain.ledger now sub accounts
    follows.invariant.wellFormed (by rw [target]; exact Ledger.view_subscription.mp running.1)
    (by rw [target]; exact sound.advance allowed.1)
  rw [target, merchant] at decides
  cases stream.advance sound running allowed.1 with
  | streaming active =>
      by_cases succeeds : chain.Succeeds ⟨now, .program (.pause accounts)⟩
      · obtain ⟨_, address, signed, fits⟩ := decides.mp succeeds
        obtain ⟨found, next, _, taken, foundRunning, continues, _, nextTerms, _⟩ :=
          follows.exists_step allowed succeeds
        cases foundRunning.1.symm.trans running.1
        rw [Control.apply, if_pos ⟨rfl, address, signed, fits⟩]
        refine ⟨follows.invariant.step allowed.1, next, continues, nextTerms, ?_⟩
        rw [step_clock]
        exact View.Follows.step_of_pause taken target running continues
      · rw [Control.apply, if_neg]
        · exact of_fails follows.invariant allowed.1 succeeds running same (.streaming active)
        · rintro ⟨_, address, signed, fits⟩
          exact succeeds (decides.mpr ⟨active, address, signed, fits⟩)
  | frozen state satellite =>
      have fails : ¬chain.Succeeds ⟨now, .program (.pause accounts)⟩ := by
        intro succeeds
        simpa [state] using (decides.mp succeeds).1
      rw [Control.apply, if_neg (by simp)]
      exact of_fails follows.invariant allowed.1 fails running same (.frozen state satellite)
  | exhausted depositedEq spent earned =>
      obtain ⟨kept, dry⟩ := @Control.apply_exhausted terms.merchant (.sub subscriber planKey)
        meter _ _ now (.pause accounts) spent (by simp)
      exact follows.step_of_exhausted allowed (by simp [Action.control?, target]) running same
        earned (kept.trans depositedEq) dry

theorem step_of_resume (follows : chain.Follows (.sub subscriber planKey) terms meter)
    {now : Int64} {accounts : Resume}
    (target : accounts.subscription = .sub subscriber planKey)
    (allowed : (uncancelled (.sub subscriber planKey)).allows chain
      ⟨now, .program (.resume accounts)⟩) :
    (chain.step ⟨now, .program (.resume accounts)⟩).Follows (.sub subscriber planKey) terms
      (Control.apply terms.merchant (.sub subscriber planKey) meter
        (now, .resume accounts)) := by
  obtain ⟨sub, running, same, stream⟩ := follows.stream
  have sound := follows.invariant.sound subscriber planKey
  have merchant : sub.merchant = terms.merchant := congrArg Terms.merchant same
  have decides := @resume_succeeds_iff chain.ledger now sub accounts
    follows.invariant.wellFormed (by rw [target]; exact Ledger.view_subscription.mp running.1)
  rw [target, merchant] at decides
  cases stream.advance sound running allowed.1 with
  | streaming active =>
      have fails : ¬chain.Succeeds ⟨now, .program (.resume accounts)⟩ := by
        intro succeeds
        obtain ⟨_, state, _⟩ := decides.mp succeeds
        simp [active] at state
      exact of_fails follows.invariant allowed.1 fails running same (.streaming active)
  | @frozen paused state satellite =>
      simp only [Control.apply]
      by_cases succeeds : chain.Succeeds ⟨now, .program (.resume accounts)⟩
      · obtain ⟨recorded, _, recordedAt, address, signed, ordered, fits, anchorFits⟩ :=
          decides.mp succeeds
        cases recordedAt.symm.trans satellite
        obtain ⟨found, next, _, taken, foundRunning, continues, _, nextTerms, _⟩ :=
          follows.exists_step allowed succeeds
        cases foundRunning.1.symm.trans running.1
        rw [if_pos ⟨address, signed, ordered, fits, anchorFits⟩]
        refine ⟨follows.invariant.step allowed.1, next, continues, nextTerms, ?_⟩
        rw [step_clock]
        exact View.Follows.step_of_resume taken target running continues satellite
      · rw [if_neg]
        · exact of_fails follows.invariant allowed.1 succeeds running same
            (.frozen state satellite)
        · rintro ⟨address, signed, ordered, fits, anchorFits⟩
          exact succeeds (decides.mpr ⟨paused, state, satellite, address, signed, ordered, fits,
            anchorFits⟩)
  | exhausted depositedEq spent earned =>
      obtain ⟨kept, dry⟩ := @Control.apply_exhausted terms.merchant (.sub subscriber planKey)
        meter _ _ now (.resume accounts) spent (by simp)
      exact follows.step_of_exhausted allowed (by simp [Action.control?, target]) running same
        earned (kept.trans depositedEq) dry

/-- Whatever happens, the meter follows by the controls alone. -/
theorem step (follows : chain.Follows (.sub subscriber planKey) terms meter)
    (allowed : (timely (.sub subscriber planKey)).allows chain tx) :
    (chain.step tx).Follows (.sub subscriber planKey) terms
      ((Chain.control (.sub subscriber planKey) chain tx).foldl
        (Control.apply terms.merchant (.sub subscriber planKey)) meter) := by
  obtain ⟨kept, inTime⟩ := allowed
  obtain ⟨now, action⟩ := tx
  obtain ⟨sub, running, same, stream⟩ := follows.stream
  have sound := follows.invariant.sound subscriber planKey
  have advanced := stream.advance sound running kept.1
  rcases action.control?_cases (.sub subscriber planKey) with
    quiet | ⟨accounts, rfl, target⟩ | ⟨accounts, rfl, target⟩ | ⟨accounts, amount, rfl, target⟩
  · simp only [Chain.control, quiet, List.foldl_nil]
    by_cases succeeds : chain.Succeeds ⟨now, action⟩
    · obtain ⟨found, next, _, taken, foundRunning, continues, _, nextTerms, _⟩ :=
        follows.exists_step kept succeeds
      cases foundRunning.1.symm.trans running.1
      refine ⟨follows.invariant.step kept.1, next, continues, nextTerms, ?_⟩
      rw [step_clock]
      exact advanced.step_of_uncontrolled taken (sound.advance kept.1) running continues quiet
    · exact of_fails follows.invariant kept.1 succeeds running same advanced
  · simp only [Chain.control, Action.control?, target, if_true, List.foldl_cons,
      List.foldl_nil]
    exact follows.step_of_pause target kept
  · simp only [Chain.control, Action.control?, target, if_true, List.foldl_cons,
      List.foldl_nil]
    exact follows.step_of_resume target kept
  · simp only [Chain.control, Action.control?, target, if_true]
    by_cases succeeds : chain.Succeeds ⟨now, .program (.topUp accounts amount)⟩
    · obtain ⟨found, next, _, taken, foundRunning, continues, _, nextTerms, _⟩ :=
        follows.exists_step kept succeeds
      cases foundRunning.1.symm.trans running.1
      rw [if_pos succeeds, List.foldl_cons, List.foldl_nil]
      refine ⟨follows.invariant.step kept.1, next, continues, nextTerms, ?_⟩
      rw [step_clock]
      exact advanced.step_of_topUp taken target running continues
        (inTime (decide_eq_true target) succeeds sub running.1)
    · rw [if_neg succeeds, List.foldl_nil]
      exact of_fails follows.invariant kept.1 succeeds running same advanced

theorem run (follows : chain.Follows (.sub subscriber planKey) terms meter) {txs : List Tx}
    (allowed : (timely (.sub subscriber planKey)).AllowsRun chain txs) :
    (machine.run chain txs).Follows (.sub subscriber planKey) terms
      ((controls (.sub subscriber planKey) chain txs).foldl
        (Control.apply terms.merchant (.sub subscriber planKey)) meter) := by
  have simulated := Machine.run_simulates (fun before tx meter follows permitted =>
    @step before subscriber planKey terms meter tx follows permitted) allowed follows
  rw [timely, uncancelled, Machine.restrict_trace, Machine.restrict_trace] at simulated
  exact simulated

end Chain.Follows

end Nakama
