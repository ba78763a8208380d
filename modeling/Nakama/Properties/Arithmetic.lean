import Nakama.Refinement.Faults

/-!
# No arithmetic, clock or solvency failure

On every chain since the epoch the instructions of a stream compute what their
formulas say: checks of overflow, clock and period never refuse them, apart from the
two counters that may really be full.
-/

namespace Nakama

open Guard

/-- The instruction works on the stream of a subscription. -/
def Instruction.streams : Instruction → Bool
  | .charge .. | .settleUsage .. | .cancel .. | .pause .. | .resume .. => true
  | .openSession .. | .topUp .. => true
  | .createPlan .. | .subscribe .. | .cleanup .. | .closeSession .. => false

/-- The instruction pays out of a vault. -/
def Instruction.paysOut : Instruction → Bool
  | .charge .. | .settleUsage .. | .cancel .. => true
  | _ => false

/-- Overflows that can really happen: of a session's usage counter and of the deposit. -/
inductive Admitted (ledger : Ledger) : Instruction → Error → Prop where
  | usage {accounts : SettleUsage} {amount : UInt64} {session : PaySession Pubkey}
      (loaded : ledger.account accounts.paySession = some (.paySession session))
      (full : 2 ^ 64 ≤ session.usageAmount.toNat + amount.toNat) :
      Admitted ledger (.settleUsage accounts amount) (.nakama .arithmeticOverflow)
  | deposit {accounts : TopUp} {amount : UInt64} {sub : Subscription Pubkey}
      (loaded : ledger.account accounts.subscription = some (.subscription sub))
      (full : 2 ^ 64 ≤ sub.depositedAmount.toNat + amount.toNat) :
      Admitted ledger (.topUp accounts amount) (.nakama .mathOverflow)

section Refusals

variable {ledger : Ledger} {now : Int64} {instruction : Instruction} {error : Error}

theorem refusal_of_ready (ready : ledger.Ready now) (streams : instruction.streams = true)
    (graceRoom : now.toInt + graceDuration.toInt < 2 ^ 63)
    (periodRoom : ∀ key sub, instruction.subscription? = some key →
      ledger.account key = some (.subscription sub) →
      now.toInt + sub.period.toInt < 2 ^ 63)
    (refused : instruction.execute ledger now = .error error) :
    (error.isArithmetic = true → Admitted ledger instruction error) ∧
      (instruction.paysOut = true → error ≠ .token .insufficientFunds) := by
  have sound : ∀ {faultless : ¬error.Fault},
      (error.isArithmetic = true → Admitted ledger instruction error) ∧
        (instruction.paysOut = true → error ≠ .token .insufficientFunds) := by
    intro faultless
    constructor
    · intro arithmetic
      exact (faultless (.inl arithmetic)).elim
    · intro _ broke
      exact faultless (.inr broke)
  cases instruction with
  | createPlan => cases streams
  | subscribe => cases streams
  | cleanup => cases streams
  | closeSession => cases streams
  | charge accounts =>
      have room := fun sub => periodRoom accounts.subscription sub rfl
      exact @sound (charge_avoids ready accounts graceRoom room error refused)
  | cancel accounts => exact @sound (cancel_avoids ready accounts error refused)
  | pause accounts => exact @sound (pause_avoids ready accounts error refused)
  | resume accounts => exact @sound (resume_avoids ready accounts error refused)
  | openSession accounts sessionId facilitator reservationCap =>
      exact @sound (openSession_avoids ready accounts sessionId facilitator reservationCap
        error refused)
  | settleUsage accounts amount =>
      have avoided := settleUsage_avoids ready accounts amount error refused
      rw [not_and, not_not] at avoided
      constructor
      · intro arithmetic
        obtain ⟨rfl, session, loaded, full⟩ := avoided (.inl arithmetic)
        exact .usage loaded full
      · rintro _ rfl
        cases (avoided (.inr rfl)).1
  | topUp accounts amount =>
      have avoided := topUp_avoids ready accounts amount error refused
      rw [not_and, not_not] at avoided
      constructor
      · intro arithmetic
        obtain ⟨rfl, sub, loaded, full⟩ := avoided arithmetic
        exact .deposit loaded full
      · intro paysOut
        cases paysOut

end Refusals

/-- On every chain since the epoch, with room for one period and one grace period after
now: no instruction of a stream is refused for its arithmetic, its clock or its period
but by a full counter; a vault covers what is paid out of it; and the unlock formula and
the keeper hint are the exact integers of their definitions, without loss in any cast. -/
theorem arithmetic_exact {chain : Chain} {now : Int64}
    (reachable : sinceEpoch.Reachable chain) (ordered : chain.clock.toInt ≤ now.toInt)
    (nonneg : 0 ≤ now.toInt) (graceRoom : now.toInt + graceDuration.toInt < 2 ^ 63) :
    (∀ instruction error, instruction.streams = true →
      (∀ key sub, instruction.subscription? = some key →
        chain.ledger.account key = some (.subscription sub) →
        now.toInt + sub.period.toInt < 2 ^ 63) →
      instruction.execute chain.ledger now = .error error →
      (error.isArithmetic = true → Admitted chain.ledger instruction error) ∧
        (instruction.paysOut = true → error ≠ .token .insufficientFunds)) ∧
    (∀ subscriber planKey sub moment overflow,
      chain.ledger.account (.sub subscriber planKey) = some (.subscription sub) →
      (chain.view (.sub subscriber planKey)).SettlesAt now sub.state moment →
      ∃ unlocked, unlockedAt overflow sub moment = .ok unlocked ∧
        (unlocked.toNat : Int) =
          min ((moment.toInt - sub.streamStart.toInt) * sub.price.toNat / sub.period.toInt)
            sub.depositedAmount.toNat ∧
        sub.withdrawnAmount.toNat ≤ unlocked.toNat ∧
        unlocked.toNat ≤ sub.depositedAmount.toNat) ∧
    (∀ subscriber planKey sub (withdrawn : UInt64),
      chain.ledger.account (.sub subscriber planKey) = some (.subscription sub) →
      sub.state = .active → withdrawn.toNat ≤ sub.unlockedBy now →
      now.toInt + sub.period.toInt < 2 ^ 63 →
      ∃ hint, nextChargeHint sub withdrawn = .ok hint ∧
        hint.toInt = sub.streamStart.toInt +
          withdrawn.toNat * sub.period.toInt / sub.price.toNat + sub.period.toInt) := by
  have ready := Chain.ready_of_reachable reachable ordered nonneg
  refine ⟨?_, ?_, ?_⟩
  · intro instruction error streams periodRoom refused
    exact refusal_of_ready ready streams graceRoom periodRoom refused
  · intro subscriber planKey sub moment overflow loaded settles
    have ok := ready.settleable loaded settles
    obtain ⟨unlocked, computed, unlockedEq⟩ :=
      unlockedAt_exact overflow ok.epoch ok.started ok.period
    refine ⟨unlocked, computed, ?_, ?_, ?_⟩
    · rw [unlockedEq]
      exact unlockedBy_eq ok.started ok.period
    · rw [unlockedEq]
      exact ok.covered
    · rw [unlockedEq]
      exact sub.unlockedBy_le_deposited moment
  · intro subscriber planKey sub withdrawn loaded active earned periodRoom
    have ok := ready.settleable loaded (active ▸ View.SettlesAt.active)
    exact nextChargeHint_exact (age_fits ok.epoch ok.started) ok.started ok.period ok.price
      earned periodRoom

section Witness

open Sample

/-- Five seconds into a stream of 100 units every 10 seconds, 50 are unlocked. -/
theorem arithmetic_exact_streaming :
    ∃ sub unlocked, (machine.run genesis [createPlanTx, subscribeTx 0]).ledger.account subKey =
        some (.subscription sub) ∧
      unlockedAt .mathOverflow sub 5 = .ok unlocked ∧
      (unlocked.toNat : Int) = min ((5 - sub.streamStart.toInt) * sub.price.toNat /
        sub.period.toInt) sub.depositedAmount.toNat := by
  have ordered : machine.AllowsRun genesis [createPlanTx, subscribeTx 0] :=
    allowsRun_of_clocks (by decide)
  have reachable : sinceEpoch.Reachable
      (machine.run genesis [createPlanTx, subscribeTx 0]) :=
    ⟨genesis, _, genesis_isGenesis,
      Machine.allowsRun_restrict ordered (fun _ => by decide), rfl⟩
  have later : (machine.run genesis [createPlanTx, subscribeTx 0]).clock.toInt ≤
      (5 : Int64).toInt := by
    decide +kernel
  obtain ⟨sub, loaded, active⟩ := Chain.subscription_of_state
    (by decide +kernel : ((machine.run genesis [createPlanTx, subscribeTx 0]).view
      subKey).subscription.map (·.state) = some .active)
  obtain ⟨_, exact, _⟩ := arithmetic_exact reachable later (by decide) (by decide)
  obtain ⟨unlocked, computed, unlockedEq, _⟩ := exact subscriber.key planKey sub 5
    .mathOverflow loaded (active ▸ View.SettlesAt.active)
  exact ⟨sub, unlocked, loaded, computed, unlockedEq⟩

end Witness

end Nakama
