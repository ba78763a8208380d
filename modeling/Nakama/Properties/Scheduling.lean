import Nakama.Refinement.Locality

/-!
# Parallel execution

The runtime executes transactions in parallel under the locks that their account lists ask
for.  The locks are enough: two schedules that agree on the order of conflicting
transactions end in the same ledger, with the same transactions committed.
-/

namespace Nakama

open Guard

/-- A transaction as a footprint transaction over the accounts of the ledger. -/
def Tx.footprint (bump : Pubkey → UInt8) (tx : Tx) :
    Footprint.Transaction Pubkey (Option Account) Error (List Transfer × List Event) where
  reads := {key | key ∈ tx.action.reads}
  writes := {key | key ∈ tx.action.writes}
  execute account := do
    let outcome ← tx.action.execute ⟨account, bump⟩ tx.now
    return (outcome.ledger.account, outcome.transfers, outcome.events)
  writes_subset := fun _ written => tx.action.writes_subset_reads written
  frame := by
    intro store after result executed key unwritten
    simp only [bind_eq_ok, pure_eq_ok, Prod.mk.injEq] at executed
    obtain ⟨outcome, executed, rfl, _⟩ := executed
    exact (action_frame executed fun _ written => written).account key unwritten
  depends := by
    intro left right agree
    have related := @action_depends tx.action.reads ⟨left, bump⟩ ⟨right, bump⟩ tx.action tx.now
      (fun _ read => read) ⟨rfl, agree⟩
    refine related.bind fun one other same => .succeeded ⟨?_, ?_⟩
    · intro key written
      exact same.ledger.account key (tx.action.writes_subset_reads written)
    · rw [same.transfers, same.events]

theorem Tx.independent_of_not_conflicts {bump : Pubkey → UInt8} {first second : Tx}
    (harmless : ¬first.action.Conflicts second.action) :
    (first.footprint bump).Independent (second.footprint bump) := by
  constructor
  · intro key written read
    exact harmless (.inl ⟨key, written, read⟩)
  · intro key written read
    exact harmless (.inr ⟨key, written, read⟩)

/-- What the log says of a transaction: nothing, if it was refused. -/
def Entry.committed? (tx : Tx) : Except Error (List Transfer × List Event) → Option Entry
  | .ok (transfers, events) => some ⟨tx, transfers, events⟩
  | .error _ => none

namespace Chain

/-- One step of the chain performs the footprint transaction. -/
theorem step_performs (chain : Chain) (tx : Tx) :
    (chain.step tx).ledger.bump = chain.ledger.bump ∧
      ((tx.footprint chain.ledger.bump).perform chain.ledger.account).1 =
        (chain.step tx).ledger.account ∧
      (chain.step tx).log = (Entry.committed? tx
        ((tx.footprint chain.ledger.bump).perform chain.ledger.account).2).toList ++
          chain.log := by
  cases executed : tx.action.execute chain.ledger tx.now with
  | error refusal =>
      have refused : (tx.footprint chain.ledger.bump).execute chain.ledger.account =
          .error refusal := by
        change (tx.action.execute chain.ledger tx.now >>= _) = _
        rw [executed]
        rfl
      rw [step_of_error executed, Footprint.Transaction.perform, refused]
      exact ⟨rfl, rfl, rfl⟩
  | ok outcome =>
      have performed : (tx.footprint chain.ledger.bump).execute chain.ledger.account =
          .ok (outcome.ledger.account, outcome.transfers, outcome.events) := by
        change (tx.action.execute chain.ledger tx.now >>= _) = _
        rw [executed]
        rfl
      have frame := action_frame executed fun _ written => written
      rw [step_of_ok executed, Footprint.Transaction.perform, performed]
      exact ⟨frame.bump, rfl, rfl⟩

theorem run_performs (chain : Chain) (txs : List Tx) :
    (machine.run chain txs).ledger.bump = chain.ledger.bump ∧
      (Footprint.run (Tx.footprint chain.ledger.bump) chain.ledger.account txs).1 =
        (machine.run chain txs).ledger.account ∧
      (machine.run chain txs).log =
        ((Footprint.run (Tx.footprint chain.ledger.bump) chain.ledger.account txs).2.filterMap
          fun performed => Entry.committed? performed.1 performed.2).reverse ++ chain.log := by
  induction txs generalizing chain with
  | nil => exact ⟨rfl, rfl, rfl⟩
  | cons tx txs ih =>
      obtain ⟨sameBumps, accounts, log⟩ := chain.step_performs tx
      obtain ⟨restBumps, restAccounts, restLog⟩ := ih (chain.step tx)
      rw [sameBumps, ← accounts] at restAccounts restLog
      refine ⟨restBumps.trans sameBumps, restAccounts, ?_⟩
      rw [show (machine.run chain (tx :: txs)).log = _ from restLog, log]
      simp only [Footprint.run, List.filterMap_cons]
      cases Entry.committed? tx _ with
      | none => simp
      | some entry => simp

end Chain

/-- Schedules of the same transactions that keep the order of every two conflicting ones
end in the same ledger and commit the same transactions, with the same transfers and
events. -/
theorem schedule_serializable {chain : Chain} {txs rearranged : List Tx}
    (distinct : txs.Nodup) (same : txs.Perm rearranged)
    (ordered : ∀ first ∈ txs, ∀ second ∈ txs, first.action.Conflicts second.action →
      [first, second].Sublist txs → [first, second].Sublist rearranged) :
    (machine.run chain rearranged).ledger = (machine.run chain txs).ledger ∧
      (machine.run chain rearranged).log.Perm (machine.run chain txs).log := by
  have reorders : Footprint.Reorders (Tx.footprint chain.ledger.bump) txs rearranged := by
    apply Footprint.reorders_of_conflict_order distinct same
    intro first firstIn second secondIn dependent before
    refine ordered first firstIn second secondIn ?_ before
    by_contra harmless
    exact dependent (Tx.independent_of_not_conflicts harmless)
  obtain ⟨sameStore, sameResults⟩ := reorders.run_eq chain.ledger.account
  obtain ⟨bumps, accounts, log⟩ := chain.run_performs txs
  obtain ⟨otherBumps, otherAccounts, otherLog⟩ := chain.run_performs rearranged
  constructor
  · have sameAccounts : (machine.run chain rearranged).ledger.account =
        (machine.run chain txs).ledger.account := by
      rw [← otherAccounts, ← accounts, sameStore]
    have sameBumps := otherBumps.trans bumps.symm
    generalize (machine.run chain rearranged).ledger = one at sameAccounts sameBumps
    generalize (machine.run chain txs).ledger = other at sameAccounts sameBumps
    cases one
    cases other
    simp_all
  · rw [otherLog, log]
    refine List.Perm.append_right chain.log ?_
    exact ((List.reverse_perm _).trans (sameResults.filterMap _)).trans
      (List.reverse_perm _).symm

open Sample in
/-- The payment of a stranger changes places with the publication of the plan, but not with
the subscription, which debits the same account. -/
theorem schedule_serializable_sample :
    (machine.run genesis
        [⟨0, .spl (.transfer strangerAta subscriberAta stranger 5)⟩, createPlanTx,
          subscribeTx 0]).ledger =
      (machine.run genesis
        [createPlanTx, ⟨0, .spl (.transfer strangerAta subscriberAta stranger 5)⟩,
          subscribeTx 0]).ledger ∧
    (machine.run genesis
        [⟨0, .spl (.transfer strangerAta subscriberAta stranger 5)⟩, createPlanTx,
          subscribeTx 0]).log.Perm
      (machine.run genesis
        [createPlanTx, ⟨0, .spl (.transfer strangerAta subscriberAta stranger 5)⟩,
          subscribeTx 0]).log :=
  schedule_serializable (by decide) (by decide) (by decide)

end Nakama
