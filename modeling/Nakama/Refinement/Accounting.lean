import Nakama.Refinement.Lifecycle

/-!
# Accounting since the last `subscribe`

The log of a chain is cut at the transaction that opened the subscription; what
moved through the vault since then explains the counters and the balance.
-/

namespace Nakama

/-- The transactions of a log, newest first, back to the one that last opened the
subscription. -/
def lifetime (key : Pubkey) : List Entry → List Entry
  | [] => []
  | entry :: log =>
      if entry.tx.action.subscribes key then [entry] else entry :: lifetime key log

theorem mem_of_mem_lifetime {key : Pubkey} {log : List Entry} {entry : Entry}
    (member : entry ∈ lifetime key log) : entry ∈ log := by
  induction log with
  | nil => cases member
  | cons newest log ih =>
      rw [lifetime] at member
      split at member
      next =>
        rw [List.mem_singleton] at member
        rw [member]
        exact List.mem_cons_self
      next =>
        rcases List.mem_cons.mp member with rfl | older
        · exact List.mem_cons_self
        · exact List.mem_cons_of_mem _ (ih older)

/-- What moved through the vault since the subscription was last opened, by route. -/
def Chain.moved (chain : Chain) (key : Pubkey) : Route → Nat :=
  ((lifetime key chain.log).map fun entry => volume (.vault key) entry.transfers).sum

/-- The action moves tokens into the vault without the program. -/
def Action.donates (key : Pubkey) : Action → Bool
  | .spl (.transfer _ destination _ _) => destination = .vault key
  | _ => false

/-- The chain in an environment where nobody but the program pays into the vault. -/
def undisturbed (key : Pubkey) : Machine Chain Tx :=
  machine.restrict fun _ tx => tx.action.donates key = false

namespace View

/-- The counters and the balance of a subscription are explained by what moved. -/
def Balanced (view : View) (moved : Route → Nat) : Prop :=
  ∀ sub, view.subscription = some sub →
    moved .deposit = sub.depositedAmount.toNat ∧
    moved .settlement = sub.withdrawnAmount.toNat ∧
    match view.vault with
    | some vault =>
        vault.amount.toNat + sub.withdrawnAmount.toNat =
            sub.depositedAmount.toNat + moved .foreign ∧
          moved .refund = 0
    | none =>
        sub.withdrawnAmount.toNat + moved .refund = sub.depositedAmount.toNat ∧
          moved .foreign = 0

variable {key : Pubkey} {now : Int64} {action : Action} {before after : View}
  {moved delta : Route → Nat}

/-- The step that opens a subscription starts its accounts. -/
theorem Step.balanced_of_subscribes
    (taken : View.Step key now action before after delta)
    (opens : action.subscribes key = true) : after.Balanced delta := by
  obtain ⟨accounts, periodsToPrefund, rfl, target⟩ := Action.subscribes_eq_true.mp opens
  cases taken with
  | subscribe _ _ _ _ _ _ _ withdrawn funded =>
      intro sub subAt
      cases subAt
      simp [withdrawn, funded]
  | other elsewhere =>
      simp [Action.subscription?, Instruction.subscription?, target] at elsewhere

/-- Through a vault that stays, the counters follow the movements. -/
theorem Balanced.keep {sub next : Subscription Pubkey} {vault left : TokenAccount}
    (balanced : before.Balanced moved) (subAt : before.subscription = some sub)
    (vaultAt : before.vault = some vault) (nextAt : after.subscription = some next)
    (leftAt : after.vault = some left)
    (deposited : next.depositedAmount.toNat = sub.depositedAmount.toNat + delta .deposit)
    (withdrawn : next.withdrawnAmount.toNat = sub.withdrawnAmount.toNat + delta .settlement)
    (amount : left.amount.toNat + delta .settlement =
      vault.amount.toNat + delta .deposit + delta .foreign)
    (unrefunded : delta .refund = 0) : after.Balanced (moved + delta) := by
  have accounts := balanced _ subAt
  simp only [vaultAt] at accounts
  intro found foundAt
  cases nextAt.symm.trans foundAt
  simp only [leftAt, Pi.add_apply]
  omega

theorem Step.balanced (taken : View.Step key now action before after delta)
    (continues : action.subscribes key = false) (balanced : before.Balanced moved) :
    after.Balanced (moved + delta) := by
  cases taken with
  | subscribe target => simp [Action.subscribes, target] at continues
  | charge target subAt vaultAt active started withdrawnEq unlocked remainingEq =>
      exact balanced.keep subAt vaultAt rfl rfl (by simp) (by simp [withdrawnEq])
        (by simp [remainingEq]) (by simp)
  | exhaust target subAt vaultAt gracedAt active started withdrawnEq unlocked remainingEq =>
      exact balanced.keep subAt vaultAt rfl rfl (by simp) (by simp [withdrawnEq])
        (by simp [remainingEq]) (by simp)
  | settleUsage target sessionAddress subAt vaultAt sessionAt active started withdrawnEq
      unlocked remainingEq =>
      exact balanced.keep subAt vaultAt rfl rfl (by simp) (by simp [withdrawnEq])
        (by simp [remainingEq]) (by simp)
  | topUp target signed subAt vaultAt running positive depositedEq creditedEq =>
      exact balanced.keep subAt vaultAt rfl rfl (by simp [depositedEq]) (by simp)
        (by simp [creditedEq]) (by simp)
  | recover target signed subAt vaultAt gracedAt grace positive depositedEq creditedEq =>
      exact balanced.keep subAt vaultAt rfl rfl (by simp [depositedEq]) (by simp)
        (by simp [creditedEq]) (by simp)
  | cancel target signed subAt vaultAt settles started withdrawnEq unlocked refundEq
      emptied =>
      have accounts := balanced _ subAt
      simp only [vaultAt] at accounts
      intro sub found
      cases found
      simp
      omega
  | pause target signed subAt =>
      intro sub found
      cases found
      simpa using balanced _ subAt
  | resume target signed subAt =>
      intro sub found
      cases found
      simpa using balanced _ subAt
  | cleanup =>
      intro sub found
      cases found
  | openSession =>
      rw [add_zero]
      exact balanced
  | closeSession =>
      rw [add_zero]
      exact balanced
  | donate vaultAt creditedEq =>
      intro sub subAt
      exact balanced.keep subAt vaultAt subAt rfl (by simp) (by simp) (by simp [creditedEq])
        (by simp) sub subAt
  | other =>
      rw [add_zero]
      exact balanced

theorem Step.foreign_eq_zero (taken : View.Step key now action before after delta)
    (quiet : action.donates key = false) : delta .foreign = 0 := by
  cases taken with
  | donate => simp [Action.donates] at quiet
  | other => rfl
  | pause => rfl
  | resume => rfl
  | cleanup => rfl
  | openSession => rfl
  | closeSession => rfl
  | _ => simp

end View

namespace Chain

variable {chain : Chain} {subscriber planKey : Pubkey}

theorem moved_cons {chain : Chain} {key : Pubkey} {entry : Entry} {log : List Entry}
    (logEq : chain.log = entry :: log) (continues : entry.tx.action.subscribes key = false) :
    chain.moved key =
      ((lifetime key log).map fun entry => volume (.vault key) entry.transfers).sum +
        volume (.vault key) entry.transfers := by
  simp [moved, logEq, lifetime, continues, add_comm]

theorem moved_cons_of_subscribes {chain : Chain} {key : Pubkey} {entry : Entry}
    {log : List Entry} (logEq : chain.log = entry :: log)
    (opens : entry.tx.action.subscribes key = true) :
    chain.moved key = volume (.vault key) entry.transfers := by
  simp [moved, logEq, lifetime, opens]

/-- The counters of every subscription are explained by its history. -/
def Explained (chain : Chain) : Prop :=
  ∀ subscriber planKey, (chain.view (.sub subscriber planKey)).Balanced
    (chain.moved (.sub subscriber planKey))

theorem Explained.step (explained : chain.Explained) (wellFormed : chain.ledger.WellFormed)
    (tx : Tx) : (chain.step tx).Explained := by
  intro subscriber planKey
  rcases @step_cases chain subscriber planKey wellFormed tx with
    ⟨_, unchanged⟩ | ⟨outcome, _, stepEq, taken⟩
  · rw [unchanged]
    exact explained subscriber planKey
  · have logEq : (chain.step tx).log =
        ⟨tx, outcome.transfers, outcome.events⟩ :: chain.log := by
      rw [stepEq]
    cases opens : tx.action.subscribes (.sub subscriber planKey) with
    | true =>
        rw [moved_cons_of_subscribes logEq opens]
        exact taken.balanced_of_subscribes opens
    | false =>
        rw [moved_cons logEq opens]
        exact taken.balanced opens (explained subscriber planKey)

theorem Explained.of_reachable (reachable : machine.Reachable chain) : chain.Explained := by
  apply reachable.strengthen fun _ => Invariant.of_reachable
  · intro start genesis subscriber planKey sub subAt
    rw [genesis.view_eq] at subAt
    cases subAt
  · intro before tx invariant explained ordered
    exact explained.step invariant.wellFormed tx

theorem unforeign_step (wellFormed : chain.ledger.WellFormed) {tx : Tx}
    (harmless : tx.action.donates (.sub subscriber planKey) = false)
    (quiet : chain.moved (.sub subscriber planKey) .foreign = 0) :
    (chain.step tx).moved (.sub subscriber planKey) .foreign = 0 := by
  rcases @step_cases chain subscriber planKey wellFormed tx with
    ⟨_, unchanged⟩ | ⟨outcome, _, stepEq, taken⟩
  · rw [unchanged]
    exact quiet
  · have logEq : (chain.step tx).log =
        ⟨tx, outcome.transfers, outcome.events⟩ :: chain.log := by
      rw [stepEq]
    have nothing := taken.foreign_eq_zero harmless
    cases opens : tx.action.subscribes (.sub subscriber planKey) with
    | true =>
        rw [moved_cons_of_subscribes logEq opens]
        exact nothing
    | false =>
        rw [moved_cons logEq opens, Pi.add_apply, nothing]
        exact quiet

theorem foreign_eq_zero
    (reachable : (undisturbed (.sub subscriber planKey)).Reachable chain) :
    chain.moved (.sub subscriber planKey) .foreign = 0 := by
  apply reachable.strengthen fun _ reached => Invariant.of_reachable reached.of_restrict
  · intro start genesis
    simp [moved, show start.log = [] from genesis.log, lifetime]
  · rintro before tx invariant quiet ⟨_, harmless⟩
    exact unforeign_step invariant.wellFormed harmless quiet

end Chain

end Nakama
