import Nakama.Refinement.Accounting

/-!
# Supply

The program and SPL Token together never create units: what a mint issued before
the first transaction bounds all balances of every reachable chain.  A payment
therefore never fails for a full destination.
-/

namespace Nakama

open Guard Ledger

namespace Ledger

/-- The second ledger holds no more of any mint than a bound on the first allows. -/
def Conserves (before after : Ledger) : Prop :=
  ∀ mint, Supply.Fits (2 ^ 64) (before.held mint) → Supply.Fits (2 ^ 64) (after.held mint)

theorem held_of_token {ledger : Ledger} {key : Pubkey} {token : TokenAccount}
    (loaded : ledger.account key = some (.token token)) (mint : Pubkey) :
    ledger.held mint key = if token.mint = mint then token.amount.toNat else 0 := by
  simp only [held, loaded]

theorem held_congr {before after : Ledger} {key : Pubkey}
    (same : after.account key = before.account key) (mint : Pubkey) :
    after.held mint key = before.held mint key := by
  simp only [held, same]

namespace Conserves

variable {before after : Ledger}

theorem refl : before.Conserves before := fun _ fits => fits

theorem set (conserved : before.Conserves after) {key : Pubkey} {account : Account}
    (empty : ∀ token, account = .token token → token.amount = 0) :
    before.Conserves (after.set key account) := by
  intro mint fits
  apply (conserved mint fits).mono
  intro holder
  by_cases same : holder = key
  · subst same
    cases account with
    | token token =>
        rw [held_of_token (set_account_self _ _ _), empty token rfl]
        simp
    | _ => simp [held, set_account_self]
  · rw [held_congr (set_account_of_ne _ _ same)]

theorem close (conserved : before.Conserves after) {key : Pubkey} :
    before.Conserves (after.close key) := by
  intro mint fits
  apply (conserved mint fits).mono
  intro holder
  by_cases same : holder = key
  · simp [held, close_account, same]
  · have kept : (after.close key).account holder = after.account holder := by
      rw [close_account, if_neg same]
    rw [held_congr kept]

theorem closeIfSome (conserved : before.Conserves after) {key : Option Pubkey} :
    before.Conserves (after.closeIfSome key) := by
  cases key with
  | none => exact conserved
  | some address => exact conserved.close

theorem transfer (conserved : before.Conserves after) {moved : Ledger}
    {source destination authority : Pubkey} {amount : UInt64}
    (transferred : after.transfer source destination authority amount = .ok moved) :
    before.Conserves moved := by
  intro mint fits
  have fitsBefore := conserved mint fits
  obtain ⟨sourceToken, destinationToken, sourceLoaded, destinationLoaded, funds, mints, _,
    ⟨_, rfl⟩ | ⟨different, credited, sum, _⟩⟩ := transfer_eq_ok.mp transferred
  · exact fitsBefore
  · have debited : (sourceToken.amount - amount).toNat =
        sourceToken.amount.toNat - amount.toNat :=
      UInt64.toNat_sub_of_le _ _ (UInt64.le_iff_toNat_le.mpr funds)
    obtain ⟨_, found, _, _, sourceMoved⟩ := transfer_account_source transferred different
    rw [sourceLoaded] at found
    cases found
    obtain ⟨_, credited, found, credit, destinationMoved⟩ :=
      transfer_account_destination transferred different
    rw [destinationLoaded] at found
    cases found
    apply fitsBefore.move different
    · show _ + (if sourceToken.mint = mint then amount.toNat else 0) = _
      rw [held_of_token sourceMoved, held_of_token sourceLoaded]
      simp only
      split <;> omega
    · rw [held_of_token destinationMoved, held_of_token destinationLoaded, mints]
      simp only
      split <;> omega
    · intro holder notSource notDestination
      exact held_congr (transfer_account_of_ne transferred notSource notDestination) mint

theorem transferIfPositive (conserved : before.Conserves after) {moved : Ledger}
    {source destination authority : Pubkey} {amount : UInt64}
    (transferred : transferIfPositive after source destination authority amount =
      .ok moved) :
    before.Conserves moved := by
  unfold Nakama.transferIfPositive at transferred
  split at transferred
  next => exact conserved.transfer transferred
  next =>
    cases transferred
    exact conserved

end Conserves

end Ledger

section Actions

variable {ledger : Ledger} {now : Int64} {outcome : Outcome}

private theorem effect_conserves {instruction : Instruction}
    (effect : Effect ledger now instruction outcome) : ledger.Conserves outcome.ledger := by
  have start : ledger.Conserves ledger := .refl
  cases effect with
  | createPlan => exact start.set (by simp)
  | @subscribe accounts _ _ _ _ _ _ _ _ _ _ _ _ _ _ _ _ _ _ _ _ _ funding =>
      have opened : ledger.Conserves
          (ledger.set accounts.vault (.token accounts.emptyVault)) :=
        start.set (by simp [Subscribe.emptyVault])
      exact (opened.transfer funding).set (by simp)
  | charge _ _ _ _ _ _ _ _ _ _ transferred =>
      exact (start.transfer transferred).set (by simp)
  | exhaust _ _ _ _ _ _ _ _ _ _ transferred =>
      exact ((start.transfer transferred).set (by simp)).set (by simp)
  | settleUsage _ _ _ _ _ _ _ _ _ _ _ _ _ _ _ _ _ transferred =>
      exact ((start.transfer transferred).set (by simp)).set (by simp)
  | topUp _ _ _ _ _ _ _ _ _ transferred =>
      exact ((start.transfer transferred).set (by simp)).closeIfSome
  | recover _ _ _ _ _ _ _ _ _ transferred =>
      exact ((start.transfer transferred).set (by simp)).close
  | pause => exact (start.set (by simp)).set (by simp)
  | resume => exact (start.set (by simp)).close
  | cancel _ _ _ _ _ _ _ _ _ _ _ _ _ _ _ settlement refunding closing =>
      have paid := (start.transferIfPositive settlement).transferIfPositive refunding
      obtain ⟨_, _, _, _, rfl⟩ := closeToken_eq_ok.mp closing
      exact ((paid.close).set (by simp)).closeIfSome.closeIfSome
  | cleanup => exact start.close
  | openSession => exact start.set (by simp)
  | closeSession => exact start.close

private theorem spl_conserves {instruction : SplInstruction}
    (executed : instruction.execute ledger = .ok outcome) :
    ledger.Conserves outcome.ledger := by
  have start : ledger.Conserves ledger := .refl
  cases instruction with
  | transfer source destination authority amount =>
      simp only [SplInstruction.execute, bind_eq_ok, pure_eq_ok] at executed
      obtain ⟨moved, transferred, rfl⟩ := executed
      exact start.transfer transferred
  | setOwner account authority owner =>
      simp only [SplInstruction.execute, setOwner, bind_eq_ok, require_eq_ok, exists_const,
        loadToken_eq_ok, pure_eq_ok] at executed
      obtain ⟨_, ⟨token, loaded, owned, rfl⟩, rfl⟩ := executed
      intro mint fits
      apply fits.mono
      intro holder
      by_cases same : holder = account
      · subst same
        rw [held_of_token (set_account_self _ _ _), held_of_token loaded]
      · rw [held_congr (set_account_of_ne _ _ same)]
  | closeAccount account authority =>
      simp only [SplInstruction.execute, bind_eq_ok, pure_eq_ok] at executed
      obtain ⟨closed, closing, rfl⟩ := executed
      obtain ⟨_, _, _, _, rfl⟩ := closeToken_eq_ok.mp closing
      exact start.close
  | createAccount account mint owner =>
      simp only [SplInstruction.execute, createToken, vacant, bind_eq_ok, require_eq_ok,
        exists_const, pure_eq_ok] at executed
      obtain ⟨_, ⟨outside, free, _, _, rfl⟩, rfl⟩ := executed
      exact start.set (by simp)

end Actions

namespace Chain

variable {chain : Chain}

/-- The supply of every mint is bounded in every reachable chain. -/
theorem supply_of_reachable (reachable : machine.Reachable chain) (mint : Pubkey) :
    Supply.Fits (2 ^ 64) (chain.ledger.held mint) := by
  revert mint
  apply reachable.invariant
  · intro start genesis
    exact genesis.supply
  · intro before tx fits _ mint
    cases executed : tx.action.execute before.ledger tx.now with
    | error refusal =>
        change Supply.Fits (2 ^ 64) ((before.step tx).ledger.held mint)
        rw [step_of_error executed]
        exact fits mint
    | ok outcome =>
        change Supply.Fits (2 ^ 64) ((before.step tx).ledger.held mint)
        rw [step_of_ok executed]
        cases action : tx.action with
        | program instruction =>
            rw [action] at executed
            exact effect_conserves (execute_effect executed) mint (fits mint)
        | spl instruction =>
            rw [action] at executed
            exact spl_conserves executed mint (fits mint)

end Chain

end Nakama
