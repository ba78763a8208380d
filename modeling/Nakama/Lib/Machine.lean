import Mathlib.Data.List.Induction
import Mathlib.Tactic.Common

/-!
# Deterministic machines and their runs

A machine takes one label at a time from any state; which labels may be taken
where is a separate relation, so that one step function serves several
assumptions about the environment.  The module has the invariant rule for runs and
reachable states, the accounting rule for quantities summed along a run, and the
simulation rule for what a run shows.
-/

/-- A deterministic labelled transition system. -/
structure Machine (State Label : Type) where
  initial : State → Prop
  allows : State → Label → Prop
  step : State → Label → State

namespace Machine

variable {State Label : Type} (machine : Machine State Label)

/-- The state after a list of labels. -/
def run (state : State) (labels : List Label) : State :=
  labels.foldl machine.step state

/-- Every label of the list is allowed in the state in which it is taken. -/
def AllowsRun : State → List Label → Prop
  | _, [] => True
  | state, label :: labels =>
      machine.allows state label ∧ AllowsRun (machine.step state label) labels

instance decidableAllowsRun [∀ state label, Decidable (machine.allows state label)] :
    (state : State) → (labels : List Label) → Decidable (machine.AllowsRun state labels)
  | _, [] => .isTrue trivial
  | state, label :: labels =>
      @instDecidableAnd _ _ _ (decidableAllowsRun (machine.step state label) labels)

/-- A state that some allowed run from an initial state ends in. -/
def Reachable (state : State) : Prop :=
  ∃ start labels, machine.initial start ∧ machine.AllowsRun start labels ∧
    machine.run start labels = state

/-- The same machine in an environment that allows less. -/
def restrict (also : State → Label → Prop) : Machine State Label where
  initial := machine.initial
  allows state label := machine.allows state label ∧ also state label
  step := machine.step

variable {machine}

@[simp] theorem run_nil (state : State) : machine.run state [] = state := rfl

@[simp] theorem run_cons (state : State) (label : Label) (labels : List Label) :
    machine.run state (label :: labels) = machine.run (machine.step state label) labels :=
  rfl

theorem run_append (state : State) (front back : List Label) :
    machine.run state (front ++ back) = machine.run (machine.run state front) back := by
  simp [run, List.foldl_append]

theorem allowsRun_append {state : State} {front back : List Label} :
    machine.AllowsRun state (front ++ back) ↔
      machine.AllowsRun state front ∧ machine.AllowsRun (machine.run state front) back := by
  induction front generalizing state with
  | nil => simp [AllowsRun]
  | cons label front ih => simp [AllowsRun, ih, and_assoc]

/-- The invariant rule along one run. -/
theorem run_invariant {invariant : State → Prop}
    (preserved : ∀ state label, invariant state → machine.allows state label →
      invariant (machine.step state label))
    {state : State} {labels : List Label} (allowed : machine.AllowsRun state labels)
    (start : invariant state) : invariant (machine.run state labels) := by
  induction labels generalizing state with
  | nil => exact start
  | cons label labels ih =>
      exact ih allowed.2 (preserved state label start allowed.1)

theorem Reachable.of_initial {state : State} (initial : machine.initial state) :
    machine.Reachable state :=
  ⟨state, [], initial, trivial, rfl⟩

theorem Reachable.run {state : State} (reachable : machine.Reachable state)
    {labels : List Label} (allowed : machine.AllowsRun state labels) :
    machine.Reachable (machine.run state labels) := by
  obtain ⟨start, front, initial, frontAllowed, rfl⟩ := reachable
  exact ⟨start, front ++ labels, initial, allowsRun_append.mpr ⟨frontAllowed, allowed⟩,
    run_append _ _ _⟩

theorem Reachable.step {state : State} (reachable : machine.Reachable state)
    {label : Label} (allowed : machine.allows state label) :
    machine.Reachable (machine.step state label) :=
  @Reachable.run _ _ machine state reachable [label] ⟨allowed, trivial⟩

/-- The invariant rule for reachable states. -/
theorem Reachable.invariant {invariant : State → Prop}
    (established : ∀ state, machine.initial state → invariant state)
    (preserved : ∀ state label, invariant state → machine.allows state label →
      invariant (machine.step state label))
    {state : State} (reachable : machine.Reachable state) : invariant state := by
  obtain ⟨start, labels, initial, allowed, rfl⟩ := reachable
  exact run_invariant preserved allowed (established start initial)

/-- The invariant rule with what is already known of every reachable state. -/
theorem Reachable.strengthen {known invariant : State → Prop}
    (always : ∀ state, machine.Reachable state → known state)
    (established : ∀ state, machine.initial state → invariant state)
    (preserved : ∀ state label, known state → invariant state → machine.allows state label →
      invariant (machine.step state label))
    {state : State} (reachable : machine.Reachable state) : invariant state := by
  have both : machine.Reachable state ∧ invariant state := by
    apply reachable.invariant
    · intro start initial
      exact ⟨.of_initial initial, established start initial⟩
    · rintro before label ⟨reached, holds⟩ allowed
      exact ⟨reached.step allowed, preserved before label (always before reached) holds allowed⟩
  exact both.2

/-- A restricted machine reaches nothing new. -/
theorem Reachable.of_restrict {also : State → Label → Prop} {state : State}
    (reachable : (machine.restrict also).Reachable state) : machine.Reachable state := by
  apply Reachable.invariant ?_ ?_ reachable
  · intro start initial
    exact .of_initial initial
  · intro before label reached allowed
    exact reached.step allowed.1

theorem allowsRun_of_restrict {also : State → Label → Prop} {state : State}
    {labels : List Label} (allowed : (machine.restrict also).AllowsRun state labels) :
    machine.AllowsRun state labels := by
  induction labels generalizing state with
  | nil => trivial
  | cons label labels ih => exact ⟨allowed.1.1, ih allowed.2⟩

/-- A restriction of the labels alone is checked label by label. -/
theorem allowsRun_restrict {also : State → Label → Prop} {state : State}
    {labels : List Label} (allowed : machine.AllowsRun state labels)
    (harmless : ∀ before, ∀ label ∈ labels, also before label) :
    (machine.restrict also).AllowsRun state labels := by
  induction labels generalizing state with
  | nil => trivial
  | cons label labels ih =>
      refine ⟨⟨allowed.1, harmless state label List.mem_cons_self⟩, ih allowed.2 ?_⟩
      intro before later member
      exact harmless before later (List.mem_cons_of_mem _ member)

/-- What holds at the end of a run and not at its start was brought about by one step
and held ever since. -/
theorem exists_entry {property : State → Prop} {state : State} {labels : List Label}
    (notInitially : ¬property state) (eventually : property (machine.run state labels)) :
    ∃ front label back, labels = front ++ label :: back ∧
      ¬property (machine.run state front) ∧
      ∀ middle rest, back = middle ++ rest →
        property (machine.run state (front ++ label :: middle)) := by
  induction labels using List.reverseRecOn with
  | nil => exact (notInitially eventually).elim
  | append_singleton labels last ih =>
      by_cases already : property (machine.run state labels)
      · obtain ⟨front, label, back, rfl, entry, since⟩ := ih already
        refine ⟨front, label, back ++ [last], by simp, entry, ?_⟩
        intro middle rest split
        rcases List.append_eq_append_iff.mp split with ⟨tail, rfl, tailEq⟩ | ⟨tail, backEq, _⟩
        · cases tail with
          | nil =>
              rw [List.append_nil]
              exact since back [] (by simp)
          | cons head tail =>
              have whole : tail = [] ∧ head = last := by
                simp only [List.cons_append, List.cons.injEq, List.nil_eq,
                  List.append_eq_nil_iff] at tailEq
                exact ⟨tailEq.2.1, tailEq.1.symm⟩
              obtain ⟨rfl, rfl⟩ := whole
              simpa using eventually
        · exact since middle tail backEq
      · refine ⟨labels, last, [], rfl, already, ?_⟩
        intro middle rest split
        obtain ⟨rfl, _⟩ := List.append_eq_nil_iff.mp split.symm
        exact eventually

/-! ## Quantities summed along a run -/

/-- The sum of a per-step quantity along a run. -/
def total (machine : Machine State Label) (measure : State → Label → Nat) :
    State → List Label → Nat
  | _, [] => 0
  | state, label :: labels =>
      measure state label + machine.total measure (machine.step state label) labels

/-- Forbidding labels does not change what they do. -/
theorem restrict_total (also : State → Label → Prop) (measure : State → Label → Nat)
    (state : State) (labels : List Label) :
    (machine.restrict also).total measure state labels =
      machine.total measure state labels := by
  induction labels generalizing state with
  | nil => rfl
  | cons label labels ih => exact congrArg _ (ih (machine.step state label))

theorem total_append (measure : State → Label → Nat) (state : State)
    (front back : List Label) :
    machine.total measure state (front ++ back) =
      machine.total measure state front +
        machine.total measure (machine.run state front) back := by
  induction front generalizing state with
  | nil => simp [total]
  | cons label front ih =>
      rw [List.cons_append, total, total, ih, run_cons, Nat.add_assoc]

/-- A potential that grows in every step by the measure grows along a run by the
total. -/
theorem run_potential {measure : State → Label → Nat} {invariant : State → Prop}
    {potential : State → Nat}
    (preserved : ∀ state label, invariant state → machine.allows state label →
      invariant (machine.step state label))
    (grows : ∀ state label, invariant state → machine.allows state label →
      potential (machine.step state label) = potential state + measure state label)
    {state : State} {labels : List Label} (allowed : machine.AllowsRun state labels)
    (start : invariant state) :
    potential (machine.run state labels) =
      potential state + machine.total measure state labels := by
  induction labels generalizing state with
  | nil => simp [total]
  | cons label labels ih =>
      rw [run_cons, ih allowed.2 (preserved state label start allowed.1),
        grows state label start allowed.1, total]
      omega

/-! ## Simulation by what a run shows -/

section Trace

variable {Observed Abstract : Type} {observe : State → Label → List Observed}

/-- What the steps of a run show, in order. -/
def trace (machine : Machine State Label) (observe : State → Label → List Observed) :
    State → List Label → List Observed
  | _, [] => []
  | state, label :: labels =>
      observe state label ++ machine.trace observe (machine.step state label) labels

/-- Whatever follows every step by what the step shows follows a run by its trace. -/
theorem run_simulates {follows : State → Abstract → Prop}
    {react : Abstract → Observed → Abstract}
    (preserved : ∀ state label abstract, follows state abstract →
      machine.allows state label →
      follows (machine.step state label) ((observe state label).foldl react abstract))
    {state : State} {abstract : Abstract} {labels : List Label}
    (allowed : machine.AllowsRun state labels) (start : follows state abstract) :
    follows (machine.run state labels)
      ((machine.trace observe state labels).foldl react abstract) := by
  induction labels generalizing state abstract with
  | nil => exact start
  | cons label labels ih =>
      rw [run_cons, trace, List.foldl_append]
      exact ih allowed.2 (preserved state label abstract start allowed.1)

/-- Two machines that show the same in every step, and stay related, show the same in every
run. -/
theorem run_lockstep {OtherState OtherLabel : Type} {other : Machine OtherState OtherLabel}
    {otherObserve : OtherState → OtherLabel → List Observed}
    {related : State → OtherState → Prop} {translate : Label → OtherLabel}
    (preserved : ∀ state otherState label, related state otherState →
      machine.allows state label →
      related (machine.step state label) (other.step otherState (translate label)) ∧
        observe state label = otherObserve otherState (translate label))
    {state : State} {otherState : OtherState} {labels : List Label}
    (allowed : machine.AllowsRun state labels) (start : related state otherState) :
    related (machine.run state labels) (other.run otherState (labels.map translate)) ∧
      machine.trace observe state labels =
        other.trace otherObserve otherState (labels.map translate) := by
  induction labels generalizing state otherState with
  | nil => exact ⟨start, rfl⟩
  | cons label labels ih =>
      obtain ⟨stays, shows⟩ := preserved state otherState label start allowed.1
      obtain ⟨ends, rest⟩ := ih allowed.2 stays
      refine ⟨ends, ?_⟩
      rw [List.map_cons, trace, trace, shows, rest]

theorem restrict_trace (also : State → Label → Prop) (state : State) (labels : List Label) :
    (machine.restrict also).trace observe state labels =
      machine.trace observe state labels := by
  induction labels generalizing state with
  | nil => rfl
  | cons label labels ih => exact congrArg _ (ih (machine.step state label))

end Trace

end Machine
