import Mathlib.Algebra.Order.BigOperators.Group.List
import Nakama.Facilitator.Safety

/-!
# What the facilitator can be made to do

The service signs with a hot key.  Over every interleaving of requests, answers and
executions, with a node that may answer anything, the key pays for accepted requests only.
-/

namespace Nakama.Facilitator

open Guard

variable {sdk : Sdk} {config : Config} {demoSubscriber : Option Signer}

/-- The tokens that an executed transaction moved. -/
def Landing.moved (landing : Landing config demoSubscriber) : Nat :=
  match landing.result with
  | .ok _ => landing.prepared.accepted.amount.toNat
  | .error _ => 0

theorem Landing.moved_le (landing : Landing config demoSubscriber) :
    landing.moved ≤ landing.prepared.accepted.amount.toNat := by
  unfold moved
  split
  · exact le_refl _
  · exact Nat.zero_le _

theorem sum_le_of_subperm {Item : Type} {few many : List Item} (within : few.Subperm many)
    (weight : Item → Nat) : (few.map weight).sum ≤ (many.map weight).sum := by
  obtain ⟨between, rearranged, kept⟩ := within
  rw [← (rearranged.map weight).sum_eq]
  exact (kept.map weight).sum_le_sum fun _ _ => Nat.zero_le _

/-- Over every run of the service, whatever the node answers and whoever else acts: the
chain only takes steps of the program and its environment; a transaction of the service is
executed for a request that presented the configured key and asked for this subscription and
amount, at most once for each request; it then moves the requested amount, within the cap,
from a token account of the loaded key to the vault of one of its own subscriptions; and all
of them together move no more than was requested. -/
theorem facilitator_spends_accepted_only {start : System config demoSubscriber}
    (idle : start.Idle) {labels : List Label}
    (allowed : (service sdk config demoSubscriber).AllowsRun start labels) :
    let final := (service sdk config demoSubscriber).run start labels
    let accepted := labels.filterMap (Label.accepted? sdk config demoSubscriber)
    Nakama.machine.Reachable final.core.chain ∧
      (final.core.landed.map (·.prepared.accepted)).Subperm accepted ∧
      (∀ item ∈ accepted, item.amount ≤ config.maxTopUpAmount ∧
        ∃ authorization path,
          Label.request authorization (.topUp path item.amount) ∈ labels ∧
          config.knows authorization = true ∧ sdk.fromStr path = .ok item.subscription) ∧
      (∀ landing ∈ final.core.landed, ∀ outcome, landing.result = .ok outcome →
        landing.Deposits outcome) ∧
      (final.core.landed.map Landing.moved).sum ≤
        (accepted.map fun item => item.amount.toNat).sum := by
  intro final accepted
  have landedWithin : (final.core.landed.map (·.prepared.accepted)).Subperm accepted := by
    have held := @held_subperm sdk config demoSubscriber start labels
    have nothing : start.core.held = [] := by
      simp [Core.held, idle.tasks, idle.inFlight, idle.landed]
    rw [nothing, List.nil_append] at held
    exact (List.sublist_append_right _ _).subperm.trans held
  refine ⟨?_, landedWithin, ?_, ?_, ?_⟩
  · exact chain_reachable ⟨start, labels, idle, allowed, rfl⟩
  · intro item member
    obtain ⟨label, labelIn, found⟩ := List.mem_filterMap.mp member
    obtain ⟨authorization, path, rfl, known, parsed⟩ := Label.accepted_spec found
    exact ⟨UInt64.not_lt.mp item.capped, authorization, path, labelIn, known, parsed⟩
  · intro landing _ outcome executed
    exact landing.deposits executed
  · calc (final.core.landed.map Landing.moved).sum
        ≤ (final.core.landed.map fun landing =>
            landing.prepared.accepted.amount.toNat).sum :=
          List.sum_le_sum fun landing _ => landing.moved_le
      _ = ((final.core.landed.map (·.prepared.accepted)).map fun item =>
            item.amount.toNat).sum := by
          rw [List.map_map]
          rfl
      _ ≤ (accepted.map fun item => item.amount.toNat).sum :=
          sum_le_of_subperm landedWithin _

/-- Requests that the bearer check refuses leave no trace: without them every run ends with
the same chain, the same handlers waiting and the same transactions under way and executed.
Each of them is answered at once, as unauthorized where a key is configured. -/
theorem refused_requests_leave_no_trace (start : System config demoSubscriber)
    (labels : List Label) :
    ((service sdk config demoSubscriber).run start labels).core =
        ((service sdk config demoSubscriber).run start
          (labels.filter (Label.authentic config))).core ∧
      ∀ (system : System config demoSubscriber), ∀ label : Label,
        label.authentic config = false → config.apiKey.isSome = true →
        system.step sdk label = system.reply (.error .unauthorized) := by
  constructor
  · suffices same : ∀ other : System config demoSubscriber, start.core = other.core →
        ((service sdk config demoSubscriber).run start labels).core =
          ((service sdk config demoSubscriber).run other
            (labels.filter (Label.authentic config))).core from same start rfl
    induction labels generalizing start with
    | nil => exact fun other same => same
    | cons label labels ih =>
        intro other same
        cases honest : label.authentic config with
        | true =>
            rw [List.filter_cons_of_pos honest, Machine.run_cons, Machine.run_cons]
            exact ih _ _ (step_core_congr same label)
        | false =>
            rw [List.filter_cons_of_neg (by simp [honest]), Machine.run_cons]
            obtain ⟨refusal, _, replied⟩ :=
              @step_of_not_authentic sdk config demoSubscriber start label honest
            apply ih
            change (start.step sdk label).core = _
            rw [replied]
            exact same
  · intro system label stranger configured
    obtain ⟨refusal, rfl | ⟨missing, _⟩, replied⟩ :=
      @step_of_not_authentic sdk config demoSubscriber system label stranger
    · exact replied
    · rw [missing] at configured
      cases configured

section Witness

open Sample

/-- Every path names the sample subscription. -/
def sampleSdk : Sdk where
  fromStr _ := .ok subKey
  display _ := "subscription"
  getAssociatedTokenAddress _ _ := subscriberAta

/-- The key is `k`, and a request may ask for 100 units. -/
def sampleConfig : Config := ⟨some [107], 100⟩

/-- `Bearer k`. -/
def sampleHeader : List UInt8 := [66, 101, 97, 114, 101, 114, 32, 107]

def sampleStart : System sampleConfig (some subscriber) where
  core := ⟨machine.run genesis [createPlanTx, subscribeTx 0], [], [], []⟩
  replies := []

/-- Two requests, one of them without the key, and an execution after the handler gave up. -/
def sampleLabels : List Label :=
  [.request (some sampleHeader) (.topUp "pda" 50), .request none (.topUp "pda" 50),
    .account 0 (.ok (sampleStart.core.chain.ledger.account subKey)) 0, .blockhash 0 (.ok ()),
    .timeout 0 "timed out", .land 0 5 "failed"]

theorem sampleStart_idle : sampleStart.Idle where
  chain := ⟨genesis, _, genesis_isGenesis, allowsRun_of_clocks (by decide), rfl⟩
  tasks := rfl
  inFlight := rfl
  landed := rfl

/-- One of the two requests is accepted, and 50 units move. -/
theorem facilitator_spends_accepted_only_sample :
    (sampleLabels.filterMap (Label.accepted? sampleSdk sampleConfig (some subscriber))).map
        (·.amount) = [50] ∧
      (((service sampleSdk sampleConfig (some subscriber)).run sampleStart
        sampleLabels).core.landed.map Landing.moved).sum = 50 ∧
      (((service sampleSdk sampleConfig (some subscriber)).run sampleStart
        sampleLabels).core.landed.map Landing.moved).sum ≤
        ((sampleLabels.filterMap (Label.accepted? sampleSdk sampleConfig
          (some subscriber))).map fun item => item.amount.toNat).sum := by
  have allowed : (service sampleSdk sampleConfig (some subscriber)).AllowsRun sampleStart
      sampleLabels := by decide +kernel
  exact ⟨by decide +kernel, by decide +kernel,
    (facilitator_spends_accepted_only sampleStart_idle allowed).2.2.2.2⟩

/-- The request without the key is answered as unauthorized and changes nothing else. -/
theorem refused_requests_leave_no_trace_sample :
    sampleStart.step sampleSdk (.request none (.topUp "pda" 50)) =
      sampleStart.reply (.error .unauthorized) :=
  (refused_requests_leave_no_trace sampleStart sampleLabels).2 _ _ (by decide) (by decide)

end Witness

end Nakama.Facilitator
