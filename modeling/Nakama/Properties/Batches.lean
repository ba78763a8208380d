import Nakama.Refinement.Batch

/-!
# Settlements of many facilitators

Facilitators settle independently of each other, on the same stream or on different ones.
A batch of settlements goes through exactly when its sums fit, and then it does so in
every order and with the same result.
-/

namespace Nakama

open Guard Ledger

theorem exists_of_isOk {ε α : Type} {computation : Except ε α}
    (succeeds : computation.isOk = true) : ∃ value, computation = .ok value := by
  cases computation with
  | error error => cases succeeds
  | ok value => exact ⟨value, rfl⟩

/-- One settlement of a batch. -/
structure Settlement where
  accounts : SettleUsage
  amount : UInt64
  deriving DecidableEq, Repr

namespace Settlement

def instruction (item : Settlement) : Instruction := .settleUsage item.accounts item.amount

/-- Units that a batch settles through one account of a slot. -/
def total (slot : SettleUsage → Pubkey) (key : Pubkey) (batch : List Settlement) : Nat :=
  (batch.map fun item => if slot item.accounts = key then item.amount.toNat else 0).sum

/-- The settlement fits beside the rest of its batch: the stream has unlocked what the
batch draws from it, and the session has room for what the batch books on it. -/
def Admitted (ledger : Ledger) (now : Int64) (batch : List Settlement)
    (item : Settlement) : Prop :=
  ∃ parent session, item.accounts.Matches ledger now parent session ∧
    0 < item.amount.toNat ∧
    parent.withdrawnAmount.toNat + total (·.parent) item.accounts.parent batch ≤
      parent.unlockedBy now ∧
    session.usageAmount.toNat + total (·.paySession) item.accounts.paySession batch <
      2 ^ 64 ∧
    (0 < session.reservationCap.toNat →
      session.usageAmount.toNat + total (·.paySession) item.accounts.paySession batch ≤
        session.reservationCap.toNat)

section Totals

variable {slot : SettleUsage → Pubkey} {key : Pubkey}

theorem total_cons (head : Settlement) (batch : List Settlement) :
    total slot key (head :: batch) =
      (if slot head.accounts = key then head.amount.toNat else 0) + total slot key batch := by
  simp [total]

theorem total_perm {batch other : List Settlement} (same : batch.Perm other) :
    total slot key batch = total slot key other :=
  (same.map _).sum_eq

theorem total_eq_zero {batch : List Settlement}
    (elsewhere : ∀ item ∈ batch, slot item.accounts ≠ key) : total slot key batch = 0 := by
  unfold total
  apply List.sum_eq_zero
  intro amount member
  obtain ⟨item, itemIn, rfl⟩ := List.mem_map.mp member
  exact if_neg (elsewhere item itemIn)

end Totals

section Step

variable {ledger : Ledger} {now : Int64} {head : Settlement} {batch : List Settlement}

/-- After its first settlement the rest of a batch fits as it did before beside it. -/
theorem admitted_adjusted {parent : Subscription Pubkey} {session : PaySession Pubkey}
    (right : head.accounts.Matches ledger now parent session)
    (earned : parent.withdrawnAmount.toNat + head.amount.toNat ≤ parent.unlockedBy now)
    (room : session.usageAmount.toNat + head.amount.toNat < 2 ^ 64) (item : Settlement) :
    item.Admitted (ledger.adjustAll now (head.accounts.changes head.amount)) now batch ↔
      item.Admitted ledger now (head :: batch) := by
  unfold Admitted
  simp only [total_cons]
  have unlocked : ∀ own, (item.accounts.parentAfter head.accounts head.amount own).unlockedBy
      now = own.unlockedBy now := fun _ => rfl
  constructor
  · rintro ⟨_, _, found, positive, within, fits, capped⟩
    obtain ⟨own, ownSession, matched, rfl, rfl⟩ := matches_adjusted.mp found
    rw [toNat_parentAfter right.parentAt matched.parentAt earned, unlocked] at within
    rw [toNat_sessionAfter right.sessionAt matched.sessionAt room] at fits capped
    rw [sessionAfter_cap] at capped
    exact ⟨own, ownSession, matched, positive, by omega, by omega, fun limited => by
      have := capped limited
      omega⟩
  · rintro ⟨own, ownSession, matched, positive, within, fits, capped⟩
    refine ⟨_, _, matches_adjusted.mpr ⟨own, ownSession, matched, rfl, rfl⟩, positive, ?_, ?_,
      ?_⟩
    · rw [toNat_parentAfter right.parentAt matched.parentAt earned, unlocked]
      omega
    · rw [toNat_sessionAfter right.sessionAt matched.sessionAt room]
      omega
    · rw [toNat_sessionAfter right.sessionAt matched.sessionAt room, sessionAfter_cap]
      intro limited
      have := capped limited
      omega

/-- The first settlement of a batch fits beside the rest, if it goes through and the rest
fits after it. -/
theorem admitted_head {parent : Subscription Pubkey} {session : PaySession Pubkey}
    (right : head.accounts.Matches ledger now parent session)
    (positive : 0 < head.amount.toNat)
    (earned : parent.withdrawnAmount.toNat + head.amount.toNat ≤ parent.unlockedBy now)
    (room : session.usageAmount.toNat + head.amount.toNat < 2 ^ 64)
    (cap : 0 < session.reservationCap.toNat →
      session.usageAmount.toNat + head.amount.toNat ≤ session.reservationCap.toNat)
    (rest : ∀ item ∈ batch, item.Admitted ledger now (head :: batch)) :
    head.Admitted ledger now (head :: batch) := by
  refine ⟨parent, session, right, positive, ?_, ?_⟩
  · by_cases shared : ∃ item ∈ batch, item.accounts.parent = head.accounts.parent
    · -- Another settlement on the same stream has counted this one already.
      obtain ⟨item, member, same⟩ := shared
      obtain ⟨own, _, matched, _, within, _⟩ := rest item member
      have found := matched.parentAt
      rw [same] at found within
      cases right.parentAt.symm.trans found
      exact within
    · have alone : total (·.parent) head.accounts.parent batch = 0 :=
        total_eq_zero fun item member same => shared ⟨item, member, same⟩
      rw [total_cons, if_pos rfl, alone]
      exact earned
  · by_cases shared : ∃ item ∈ batch, item.accounts.paySession = head.accounts.paySession
    · obtain ⟨item, member, same⟩ := shared
      obtain ⟨_, own, matched, _, _, fits⟩ := rest item member
      have found := matched.sessionAt
      rw [same] at found fits
      cases right.sessionAt.symm.trans found
      exact fits
    · have alone : total (·.paySession) head.accounts.paySession batch = 0 :=
        total_eq_zero fun item member same => shared ⟨item, member, same⟩
      rw [total_cons, if_pos rfl, alone]
      exact ⟨room, cap⟩

end Step

/-- The adjustments of a batch. -/
def changes (batch : List Settlement) : List (Pubkey × Adjustment) :=
  batch.flatMap fun item => item.accounts.changes item.amount

/-- A batch that is executed adjusts the ledger item by item. -/
theorem executed_iff {chain : Chain} (reachable : machine.Reachable chain) {now : Int64}
    (ordered : chain.clock.toInt ≤ now.toInt) {batch : List Settlement} {final : Ledger} :
    Instruction.executeAll now chain.ledger (batch.map instruction) = .ok final ↔
      (∀ item ∈ batch, item.Admitted chain.ledger now batch) ∧
        final = chain.ledger.adjustAll now (changes batch) := by
  induction batch generalizing chain with
  | nil =>
      simp only [List.map_nil, Instruction.executeAll, List.not_mem_nil, false_imp_iff,
        implies_true, true_and]
      constructor
      · rintro ⟨⟩
        rfl
      · rintro rfl
        rfl
  | cons head batch ih =>
      have wellFormed := (Chain.Invariant.of_reachable reachable).wellFormed
      -- What the rest does once the first settlement went through.
      have rest : ∀ {outcome : Outcome} {parent session},
          settleUsage chain.ledger now head.accounts head.amount = .ok outcome →
          head.accounts.Matches chain.ledger now parent session →
          parent.withdrawnAmount.toNat + head.amount.toNat ≤ parent.unlockedBy now →
          session.usageAmount.toNat + head.amount.toNat < 2 ^ 64 →
          (Instruction.executeAll now outcome.ledger (batch.map instruction) = .ok final ↔
            (∀ item ∈ batch, item.Admitted chain.ledger now (head :: batch)) ∧
              final = chain.ledger.adjustAll now (changes (head :: batch))) := by
        intro outcome parent session executed right earned room
        have adjusted := (settleUsage_adjusts wellFormed executed).1
        obtain ⟨next, passes, nextEq⟩ := @Chain.Passes.of_execute _ _
          head.instruction _ reachable ordered executed
        have tail := @ih next passes.reachable passes.clock
        rw [nextEq, adjusted] at tail
        rw [adjusted, tail]
        simp only [admitted_adjusted right earned room]
        rw [← adjustAll_append]
        rfl
      rw [List.map_cons, Instruction.executeAll, bind_eq_ok, List.forall_mem_cons, and_assoc]
      constructor
      · rintro ⟨outcome, executed, finally'⟩
        obtain ⟨_, parent, session, right, positive, earned, room, cap⟩ :=
          settleUsage_adjusts wellFormed executed
        have whole := (rest executed right earned room).mp finally'
        exact ⟨admitted_head right positive earned room cap whole.1, whole⟩
      · rintro ⟨⟨parent, session, right, positive, earned, room, cap⟩, whole⟩
        rw [total_cons, if_pos rfl] at earned room cap
        obtain ⟨outcome, executed⟩ := settleUsage_of_matches reachable ordered right positive
          (by omega) (by omega) fun limited => by
            have := cap limited
            omega
        exact ⟨outcome, executed, (rest executed right (by omega) (by omega)).mpr whole⟩

end Settlement

open Settlement

section Sample

open Sample

/-- The subscriber delegates to the stranger and to the merchant. -/
def delegatedTxs : List Tx :=
  [createPlanTx, subscribeTx 0, openSessionTx 1,
    ⟨1, .program (.openSession ⟨subKey, .paySession subKey 2, subscriber⟩ 2 merchant.key 40)⟩]

def strangerSettles : Settlement :=
  ⟨⟨subKey, .paySession subKey 1, .vault subKey, merchantAta, stranger⟩, 60⟩

def merchantSettles : Settlement :=
  ⟨⟨subKey, .paySession subKey 2, .vault subKey, merchantAta, merchant⟩, 40⟩

theorem delegated_reachable : machine.Reachable (machine.run genesis delegatedTxs) :=
  ⟨genesis, _, genesis_isGenesis, allowsRun_of_clocks (by decide), rfl⟩

end Sample

/-- A batch of settlements on any streams and sessions goes through as one transaction
exactly when every one of them fits beside the others. -/
theorem batch_admitted_iff {chain : Chain} (reachable : machine.Reachable chain) {now : Int64}
    (ordered : chain.clock.toInt ≤ now.toInt) (batch : List Settlement) :
    (∃ final, Instruction.executeAll now chain.ledger (batch.map instruction) = .ok final) ↔
      ∀ item ∈ batch, item.Admitted chain.ledger now batch := by
  constructor
  · rintro ⟨final, executed⟩
    exact ((executed_iff reachable ordered).mp executed).1
  · intro admitted
    exact ⟨_, (executed_iff reachable ordered).mpr ⟨admitted, rfl⟩⟩

/-- Two facilitators share what has unlocked after ten seconds, and fit; a unit more does
not. -/
theorem batch_admitted_iff_shared :
    (∀ item ∈ [strangerSettles, merchantSettles], item.Admitted
      (machine.run Sample.genesis delegatedTxs).ledger 10 [strangerSettles, merchantSettles]) ∧
    ¬∀ item ∈ [{ strangerSettles with amount := 61 }, merchantSettles], item.Admitted
      (machine.run Sample.genesis delegatedTxs).ledger 10
        [{ strangerSettles with amount := 61 }, merchantSettles] := by
  constructor
  · rw [← batch_admitted_iff delegated_reachable (by decide)]
    exact exists_of_isOk (by decide +kernel)
  · rw [← batch_admitted_iff delegated_reachable (by decide)]
    rintro ⟨final, executed⟩
    have refused : (Instruction.executeAll 10 (machine.run Sample.genesis delegatedTxs).ledger
        ([{ strangerSettles with amount := 61 }, merchantSettles].map instruction)).isOk =
          false := by decide +kernel
    rw [executed] at refused
    cases refused

/-- A batch of settlements that goes through does so in every order, with the same
result. -/
theorem batch_order_irrelevant {chain : Chain} (reachable : machine.Reachable chain)
    {now : Int64} (ordered : chain.clock.toInt ≤ now.toInt) {batch other : List Settlement}
    (same : batch.Perm other) {final : Ledger}
    (executed : Instruction.executeAll now chain.ledger (batch.map instruction) =
      .ok final) :
    Instruction.executeAll now chain.ledger (other.map instruction) = .ok final := by
  obtain ⟨admitted, rfl⟩ := (executed_iff reachable ordered).mp executed
  refine (executed_iff reachable ordered).mpr ⟨?_, ?_⟩
  · intro item member
    obtain ⟨parent, session, right, fits⟩ := admitted item (same.symm.subset member)
    simp only [total_perm same] at fits
    exact ⟨parent, session, right, fits⟩
  · exact adjustAll_perm (same.flatMap_right _)

theorem batch_order_irrelevant_shared :
    ∃ final, Instruction.executeAll 10 (machine.run Sample.genesis delegatedTxs).ledger
        ([strangerSettles, merchantSettles].map instruction) = .ok final ∧
      Instruction.executeAll 10 (machine.run Sample.genesis delegatedTxs).ledger
        ([merchantSettles, strangerSettles].map instruction) = .ok final := by
  obtain ⟨final, executed⟩ : ∃ final,
      Instruction.executeAll 10 (machine.run Sample.genesis delegatedTxs).ledger
        ([strangerSettles, merchantSettles].map instruction) = .ok final :=
    exists_of_isOk (by decide +kernel)
  exact ⟨final, executed,
    batch_order_irrelevant delegated_reachable (by decide) (.swap _ _ _) executed⟩

end Nakama
