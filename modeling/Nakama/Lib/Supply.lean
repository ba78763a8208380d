import Mathlib.Algebra.BigOperators.Group.Finset.Basic
import Mathlib.Algebra.Order.BigOperators.Group.Finset
import Mathlib.Tactic.Linarith

/-!
# Bounded supply

Balances whose total stays below a bound, without naming the holders: every finite
set of them holds less than the bound.  Moving units between two holders and
destroying units keep it so, and therefore no credit of a move overflows.
-/

namespace Supply

variable {Holder : Type}

/-- Every finite set of holders has less than `bound` units together. -/
def Fits (bound : Nat) (balance : Holder → Nat) : Prop :=
  ∀ holders : Finset Holder, ∑ holder ∈ holders, balance holder < bound

variable {bound : Nat} {before after : Holder → Nat}

theorem Fits.mono (fits : Fits bound before) (less : ∀ holder, after holder ≤ before holder) :
    Fits bound after := by
  intro holders
  exact lt_of_le_of_lt (Finset.sum_le_sum fun holder _ => less holder) (fits holders)

theorem Fits.pair [DecidableEq Holder] (fits : Fits bound before) {first second : Holder}
    (different : first ≠ second) : before first + before second < bound := by
  have both := fits {first, second}
  rwa [Finset.sum_pair different] at both

/-- Finitely many holders in bounds are enough when nobody else holds anything. -/
theorem Fits.of_support [DecidableEq Holder] (support : Finset Holder)
    (inside : ∑ holder ∈ support, before holder < bound)
    (outside : ∀ holder, holder ∉ support → before holder = 0) : Fits bound before := by
  intro holders
  have larger : ∑ holder ∈ holders, before holder ≤
      ∑ holder ∈ holders ∪ support, before holder :=
    Finset.sum_le_sum_of_subset Finset.subset_union_left
  have same : ∑ holder ∈ support, before holder =
      ∑ holder ∈ holders ∪ support, before holder := by
    apply Finset.sum_subset Finset.subset_union_right
    intro holder _ notMember
    exact outside holder notMember
  omega

theorem Fits.move [DecidableEq Holder] (fits : Fits bound before)
    {source destination : Holder} {amount : Nat} (different : source ≠ destination)
    (debit : after source + amount = before source)
    (credit : after destination = before destination + amount)
    (rest : ∀ holder, holder ≠ source → holder ≠ destination →
      after holder = before holder) :
    Fits bound after := by
  intro holders
  -- Adding both ends to the set makes the two totals equal.
  have split : ∀ balance : Holder → Nat,
      ∑ holder ∈ insert source (insert destination holders), balance holder =
        balance source + (balance destination +
          ∑ holder ∈ (holders.erase source).erase destination, balance holder) := by
    intro balance
    have whole : insert source (insert destination holders) =
        insert source (insert destination ((holders.erase source).erase destination)) := by
      ext holder
      by_cases atSource : holder = source <;> by_cases atDestination : holder = destination <;>
        simp [atSource, atDestination]
    rw [whole, Finset.sum_insert (by simp [different]), Finset.sum_insert (by simp)]
  have same : ∑ holder ∈ (holders.erase source).erase destination, after holder =
      ∑ holder ∈ (holders.erase source).erase destination, before holder := by
    apply Finset.sum_congr rfl
    intro holder member
    simp only [Finset.mem_erase] at member
    exact rest holder member.2.1 member.1
  calc ∑ holder ∈ holders, after holder
      ≤ ∑ holder ∈ insert source (insert destination holders), after holder := by
        apply Finset.sum_le_sum_of_subset
        intro holder member
        simp [member]
    _ = ∑ holder ∈ insert source (insert destination holders), before holder := by
        rw [split after, split before, same]
        omega
    _ < bound := fits _

end Supply
