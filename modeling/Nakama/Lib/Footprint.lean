import Mathlib.Data.Set.Basic
import Nakama.Lib.Guard

/-!
# Footprints

An atomic transaction over a store that looks at some addresses only and changes some of
those only.  Transactions whose footprints do not conflict commute, and a schedule
matters only through the order of the transactions that do conflict.
-/

namespace Guard

variable {ε α β γ δ : Type}

/-- Two computations refuse alike, or succeed with related results. -/
inductive Related (relation : α → β → Prop) : Except ε α → Except ε β → Prop where
  | refused (error : ε) : Related relation (.error error) (.error error)
  | succeeded {left : α} {right : β} (related : relation left right) :
      Related relation (.ok left) (.ok right)

theorem Related.refl {relation : α → α → Prop} (reflexive : ∀ value, relation value value)
    (computation : Except ε α) : Related relation computation computation := by
  cases computation with
  | error error => exact .refused error
  | ok value => exact .succeeded (reflexive value)

/-- Related steps with related continuations are related. -/
theorem Related.bind {relation : α → β → Prop} {next : γ → δ → Prop}
    {left : Except ε α} {right : Except ε β} {leftRest : α → Except ε γ}
    {rightRest : β → Except ε δ} (first : Related relation left right)
    (rest : ∀ leftValue rightValue, relation leftValue rightValue →
      Related next (leftRest leftValue) (rightRest rightValue)) :
    Related next (left >>= leftRest) (right >>= rightRest) := by
  cases first with
  | refused error => exact .refused error
  | succeeded related => exact rest _ _ related

/-- After the same step only the continuations have to be compared. -/
theorem Related.bind_same {next : γ → δ → Prop} (first : Except ε α)
    {leftRest : α → Except ε γ} {rightRest : α → Except ε δ}
    (rest : ∀ value, Related next (leftRest value) (rightRest value)) :
    Related next (first >>= leftRest) (first >>= rightRest) := by
  refine (Related.refl (fun _ => rfl) first).bind ?_
  rintro value _ rfl
  exact rest value

end Guard

open Guard

namespace Footprint

variable {Key Value Failure Result Label : Type}

/-- The stores hold the same at the addresses. -/
def Agree (keys : Set Key) (left right : Key → Value) : Prop :=
  ∀ key ∈ keys, left key = right key

/-- An atomic computation over a store, with the addresses that decide its outcome and
those that it may change. -/
structure Transaction (Key Value Failure Result : Type) where
  reads : Set Key
  writes : Set Key
  execute : (Key → Value) → Except Failure ((Key → Value) × Result)
  writes_subset : writes ⊆ reads
  frame : ∀ {store after result}, execute store = .ok (after, result) →
    ∀ key ∉ writes, after key = store key
  depends : ∀ {left right}, Agree reads left right →
    Related (fun one other => Agree writes one.1 other.1 ∧ one.2 = other.2)
      (execute left) (execute right)

namespace Transaction

variable (transaction other : Transaction Key Value Failure Result)

/-- Commit, or leave the store as it was. -/
def perform (store : Key → Value) : (Key → Value) × Except Failure Result :=
  match transaction.execute store with
  | .ok (after, result) => (after, .ok result)
  | .error failure => (store, .error failure)

/-- Neither transaction changes what the other looks at. -/
def Independent : Prop :=
  (∀ key ∈ transaction.writes, key ∉ other.reads) ∧
    ∀ key ∈ other.writes, key ∉ transaction.reads

variable {transaction other}

theorem perform_frame (store : Key → Value) {key : Key} (unwritten : key ∉ transaction.writes) :
    (transaction.perform store).1 key = store key := by
  unfold perform
  split
  next executed => exact transaction.frame executed key unwritten
  next => rfl

theorem perform_depends {left right : Key → Value} (agree : Agree transaction.reads left right) :
    Agree transaction.writes (transaction.perform left).1 (transaction.perform right).1 ∧
      (transaction.perform left).2 = (transaction.perform right).2 := by
  have related := transaction.depends agree
  unfold perform
  generalize transaction.execute left = one at related ⊢
  generalize transaction.execute right = two at related ⊢
  cases related with
  | refused failure =>
      exact ⟨fun key written => agree key (transaction.writes_subset written), rfl⟩
  | succeeded related => exact ⟨related.1, congrArg Except.ok related.2⟩

theorem Independent.symm (independent : transaction.Independent other) :
    other.Independent transaction :=
  ⟨independent.2, independent.1⟩

/-- What an independent transaction looks at is the same before and after. -/
theorem Independent.agree (independent : transaction.Independent other) (store : Key → Value) :
    Agree other.reads (transaction.perform store).1 store := by
  intro key read
  exact perform_frame store fun written => independent.1 key written read

/-- An independent transaction in front does not show in the result. -/
theorem Independent.result (independent : transaction.Independent other)
    (store : Key → Value) :
    (other.perform (transaction.perform store).1).2 = (other.perform store).2 :=
  (perform_depends (independent.agree store)).2

/-- At an address that only the first of two independent transactions may change, the order
does not matter. -/
private theorem Independent.store_at (independent : transaction.Independent other)
    (store : Key → Value) {key : Key} (unwritten : key ∉ other.writes) :
    (other.perform (transaction.perform store).1).1 key =
      (transaction.perform (other.perform store).1).1 key := by
  rw [perform_frame _ unwritten]
  by_cases written : key ∈ transaction.writes
  · exact ((perform_depends (independent.symm.agree store)).1 key written).symm
  · rw [perform_frame _ written, perform_frame _ written, perform_frame _ unwritten]

/-- Independent transactions commute. -/
theorem Independent.store (independent : transaction.Independent other)
    (store : Key → Value) :
    (other.perform (transaction.perform store).1).1 =
      (transaction.perform (other.perform store).1).1 := by
  funext key
  by_cases written : key ∈ other.writes
  · have unwritten : key ∉ transaction.writes := by
      intro both
      exact independent.1 key both (other.writes_subset written)
    exact (independent.symm.store_at store unwritten).symm
  · exact independent.store_at store written

end Transaction

/-! ## Schedules -/

section Schedule

variable (transaction : Label → Transaction Key Value Failure Result)

/-- The store after a schedule and what every transaction of it came to. -/
def run (store : Key → Value) :
    List Label → (Key → Value) × List (Label × Except Failure Result)
  | [] => (store, [])
  | label :: labels =>
      let (after, result) := (transaction label).perform store
      let (final, results) := run after labels
      (final, (label, result) :: results)

/-- Neighbours that do not conflict change places. -/
inductive Reorders : List Label → List Label → Prop where
  | nil : Reorders [] []
  | cons {labels reordered : List Label} (label : Label) (rest : Reorders labels reordered) :
      Reorders (label :: labels) (label :: reordered)
  | swap {first second : Label} (labels : List Label)
      (independent : (transaction first).Independent (transaction second)) :
      Reorders (first :: second :: labels) (second :: first :: labels)
  | trans {labels middle reordered : List Label} (front : Reorders labels middle)
      (back : Reorders middle reordered) : Reorders labels reordered

variable {transaction}

theorem Reorders.refl (labels : List Label) : Reorders transaction labels labels := by
  induction labels with
  | nil => exact .nil
  | cons label labels ih => exact .cons label ih

/-- A label moves to the front past labels that are independent of it. -/
theorem Reorders.to_front {label : Label} {front : List Label} (back : List Label)
    (independent : ∀ passed ∈ front, (transaction label).Independent (transaction passed)) :
    Reorders transaction (label :: (front ++ back)) (front ++ label :: back) := by
  induction front with
  | nil => exact .refl _
  | cons passed front ih =>
      have moved := ih fun later member => independent later (List.mem_cons_of_mem _ member)
      exact .trans (.swap _ (independent passed List.mem_cons_self)) (.cons passed moved)

/-- Reordering changes neither the store nor what any transaction comes to. -/
theorem Reorders.run_eq {labels reordered : List Label}
    (reorders : Reorders transaction labels reordered) (store : Key → Value) :
    (run transaction store reordered).1 = (run transaction store labels).1 ∧
      (run transaction store reordered).2.Perm (run transaction store labels).2 := by
  induction reorders generalizing store with
  | nil => exact ⟨rfl, .nil⟩
  | cons label rest ih =>
      have tail := ih ((transaction label).perform store).1
      exact ⟨tail.1, tail.2.cons _⟩
  | @swap first second labels independent =>
      simp only [run, independent.store store, independent.result store,
        independent.symm.result store]
      exact ⟨trivial, .swap _ _ _⟩
  | trans front back ihFront ihBack =>
      exact ⟨(ihBack store).1.trans (ihFront store).1, (ihBack store).2.trans (ihFront store).2⟩

/-- A rearrangement that keeps the order of every two conflicting labels is made of swaps
of neighbours that do not conflict. -/
theorem reorders_of_conflict_order {labels reordered : List Label} (distinct : labels.Nodup)
    (rearranged : labels.Perm reordered)
    (ordered : ∀ first ∈ labels, ∀ second ∈ labels,
      ¬(transaction first).Independent (transaction second) →
      [first, second].Sublist labels → [first, second].Sublist reordered) :
    Reorders transaction labels reordered := by
  classical
  induction labels generalizing reordered with
  | nil =>
      rw [List.nil_perm.mp rearranged]
      exact .nil
  | cons label labels ih =>
      obtain ⟨fresh, distinctRest⟩ := List.nodup_cons.mp distinct
      obtain ⟨front, back, rfl⟩ := List.append_of_mem (rearranged.subset List.mem_cons_self)
      have distinctAll : (front ++ label :: back).Nodup := rearranged.nodup_iff.mp distinct
      obtain ⟨_, distinctBack, apart⟩ := List.nodup_append.mp distinctAll
      have notFront : label ∉ front := fun member =>
        apart label member label List.mem_cons_self rfl
      have erased : (front ++ label :: back).erase label = front ++ back := by
        rw [List.erase_append_right _ notFront, List.erase_cons_head]
      have rest : labels.Perm (front ++ back) := by
        have := rearranged.erase label
        rwa [List.erase_cons_head, erased] at this
      -- What stands in front of `label` now stood behind it before.
      have independent : ∀ passed ∈ front,
          (transaction label).Independent (transaction passed) := by
        intro passed member
        by_contra conflict
        have later : passed ∈ labels := rest.symm.subset (List.mem_append_left _ member)
        have kept := ordered label List.mem_cons_self passed (List.mem_cons_of_mem _ later)
          conflict (List.Sublist.cons_cons label (List.singleton_sublist.mpr later))
        have tail : [label, passed].Sublist (label :: back) := by
          obtain ⟨one, two, split, inFront, inBack⟩ := List.sublist_append_iff.mp kept
          cases one with
          | nil =>
              rw [List.nil_append] at split
              rwa [split]
          | cons head one =>
              obtain ⟨rfl, _⟩ := List.cons.inj split
              exact (notFront (inFront.subset List.mem_cons_self)).elim
        have behind : passed ∈ back :=
          List.singleton_sublist.mp (List.cons_sublist_cons.mp tail)
        exact apart passed member passed (List.mem_cons_of_mem _ behind) rfl
      refine .trans (.cons label (ih distinctRest rest ?_)) (.to_front back independent)
      intro first firstIn second secondIn conflict before
      have kept := (ordered first (List.mem_cons_of_mem _ firstIn) second
        (List.mem_cons_of_mem _ secondIn) conflict (before.cons label)).erase label
      have firstNe : first ≠ label := fun same => fresh (same ▸ firstIn)
      have secondNe : second ≠ label := fun same => fresh (same ▸ secondIn)
      rwa [erased, List.erase_of_not_mem (by simp [firstNe.symm, secondNe.symm])] at kept

end Schedule

end Footprint
