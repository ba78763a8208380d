import Mathlib.Algebra.Group.Pi.Lemmas
import Nakama.Refinement.Metering
import Nakama.Properties.Sessions

/-!
# The session ledger

Any number of sessions and a keeper draw on one parent.  Every session carries the
sum of its own settlements since it was opened, and the parent the sum of all of
them, of all charges and of the final settlement since it was last subscribed.
-/

namespace Nakama

/-- The session account that an action names. -/
def Action.session? : Action → Option Pubkey
  | .program (.openSession accounts _ _ _) => some accounts.paySession
  | .program (.closeSession accounts) => some accounts.paySession
  | .program (.settleUsage accounts _) => some accounts.paySession
  | _ => none

/-- What a `settle_usage` on this session account asks for. -/
def Action.usage (paySession : Pubkey) : Action → Nat
  | .program (.settleUsage accounts amount) =>
      if accounts.paySession = paySession then amount.toNat else 0
  | _ => 0

/-- What a `settle_usage` on any session of this parent asks for. -/
def Action.usageUnder (parent : Pubkey) : Action → Nat
  | .program (.settleUsage accounts amount) =>
      if accounts.parent = parent then amount.toNat else 0
  | _ => 0

/-- The action charges the subscription. -/
def Action.charges (key : Pubkey) : Action → Bool
  | .program (.charge accounts) => accounts.subscription = key
  | _ => false

/-- What a successful `charge` of the subscription paid to the merchant. -/
def Entry.charged (key : Pubkey) (entry : Entry) : Nat :=
  if entry.tx.action.charges key then volume (.vault key) entry.transfers .settlement else 0

/-- What a successful `cancel` of the subscription paid to the merchant. -/
def Entry.finallySettled (key : Pubkey) (entry : Entry) : Nat :=
  if entry.tx.action.cancels key then volume (.vault key) entry.transfers .settlement else 0

/-- The transactions of a log, newest first, back to the one that last opened the
session. -/
def delegation (paySession : Pubkey) : List Entry → List Entry
  | [] => []
  | entry :: log =>
      if entry.tx.action.opens paySession then [entry] else entry :: delegation paySession log

/-- The amounts of the successful `settle_usage` calls on a session since its
`open_session`. -/
def Chain.usage (chain : Chain) (paySession : Pubkey) : Nat :=
  ((delegation paySession chain.log).map fun entry => entry.tx.action.usage paySession).sum

/-- A sum over the transactions since the subscription was last opened. -/
def Chain.since (chain : Chain) (key : Pubkey) (amount : Entry → Nat) : Nat :=
  ((lifetime key chain.log).map amount).sum

/-- A session account is only ever used together with its own parent. -/
theorem session_parent {ledger : Ledger} {now : Int64} {action : Action} {outcome : Outcome}
    (executed : action.execute ledger now = .ok outcome) {parent : Pubkey}
    {sessionId : UInt64} (named : action.session? = some (.paySession parent sessionId)) :
    action.subscription? = some parent := by
  cases action with
  | spl => cases named
  | program instruction =>
      have effect : Effect ledger now instruction outcome := execute_effect executed
      cases effect with
      | openSession _ _ _ address =>
          cases address.symm.trans (Option.some.inj named)
          rfl
      | closeSession _ _ _ _ address =>
          cases address.symm.trans (Option.some.inj named)
          rfl
      | settleUsage _ _ _ address =>
          cases address.symm.trans (Option.some.inj named)
          rfl
      | _ => cases named

theorem Action.opens_eq_false {paySession : Pubkey} {action : Action}
    (unnamed : action.session? ≠ some paySession) : action.opens paySession = false := by
  unfold Action.opens
  split
  next => simpa [Action.session?] using unnamed
  next => rfl

theorem Action.usage_eq_zero {paySession : Pubkey} {action : Action}
    (unnamed : action.session? ≠ some paySession) : action.usage paySession = 0 := by
  unfold Action.usage
  split
  next =>
    apply if_neg
    simpa [Action.session?] using unnamed
  next => rfl

namespace View

variable {key : Pubkey} {now : Int64} {action : Action} {before after : View}
  {delta : Route → Nat} {sessionId : UInt64} {session : PaySession Pubkey}

/-- A step leaves a session with its reservation and with what was settled on it, or has
just opened it with nothing settled. -/
theorem Step.tally (taken : View.Step key now action before after delta)
    (parent : action.session? = some (.paySession key sessionId) →
      action.subscription? = some key)
    (sessionAt : after.session sessionId = some session) :
    (action.opens (.paySession key sessionId) = true ∧ session.usageAmount.toNat = 0) ∨
      (action.opens (.paySession key sessionId) = false ∧
        ∃ old, before.session sessionId = some old ∧
          session.reservationCap = old.reservationCap ∧
          session.usageAmount.toNat =
            old.usageAmount.toNat + action.usage (.paySession key sessionId) ∧
          (0 < action.usage (.paySession key sessionId) → 0 < old.reservationCap.toNat →
            session.usageAmount.toNat ≤ old.reservationCap.toNat)) := by
  -- A step that does not name the session leaves it as it is.
  have untouched (unnamed : action.session? ≠ some (.paySession key sessionId))
      (same : before.session sessionId = some session) :
      action.opens (.paySession key sessionId) = false ∧
        ∃ old, before.session sessionId = some old ∧
          session.reservationCap = old.reservationCap ∧
          session.usageAmount.toNat =
            old.usageAmount.toNat + action.usage (.paySession key sessionId) ∧
          (0 < action.usage (.paySession key sessionId) → 0 < old.reservationCap.toNat →
            session.usageAmount.toNat ≤ old.reservationCap.toNat) := by
    have nothing := Action.usage_eq_zero unnamed
    refine ⟨Action.opens_eq_false unnamed, session, same, rfl, ?_, ?_⟩
    · rw [nothing, add_zero]
    · intro settled
      omega
  cases taken with
  | settleUsage target address _ _ found _ _ _ _ _ usageEq cap =>
      simp only [Function.update_apply] at sessionAt
      split at sessionAt
      next same =>
        subst same
        cases sessionAt
        refine .inr ⟨rfl, _, found, rfl, ?_, ?_⟩
        · simp [Action.usage, address, usageEq]
        · intro _
          exact cap
      next different =>
        refine .inr (untouched ?_ sessionAt)
        simp [Action.session?, address, Ne.symm different]
  | openSession target address _ _ _ _ _ usage =>
      simp only [Function.update_apply] at sessionAt
      split at sessionAt
      next same =>
        subst same
        cases sessionAt
        exact .inl ⟨by simp [Action.opens, address], usage⟩
      next different =>
        refine .inr (untouched ?_ sessionAt)
        simp [Action.session?, address, Ne.symm different]
  | closeSession target address =>
      simp only [Function.update_apply] at sessionAt
      split at sessionAt
      next => cases sessionAt
      next different =>
        refine .inr (untouched ?_ sessionAt)
        simp [Action.session?, address, Ne.symm different]
  | other elsewhere =>
      refine .inr (untouched ?_ sessionAt)
      intro named
      exact elsewhere (parent named)
  | _ => exact .inr (untouched (by simp [Action.session?]) sessionAt)

/-- Tokens go to the merchant by a charge, by a session or by the final settlement. -/
theorem Step.itemized (taken : View.Step key now action before after delta) :
    delta .settlement = (if action.charges key then delta .settlement else 0) +
      action.usageUnder key + (if action.cancels key then delta .settlement else 0) := by
  cases taken with
  | charge target => simp [Action.charges, Action.usageUnder, Action.cancels, target]
  | exhaust target => simp [Action.charges, Action.usageUnder, Action.cancels, target]
  | settleUsage target => simp [Action.charges, Action.usageUnder, Action.cancels, target]
  | cancel target => simp [Action.charges, Action.usageUnder, Action.cancels, target]
  | other elsewhere =>
      have nothing : action.usageUnder key = 0 := by
        unfold Action.usageUnder
        split
        next =>
          apply if_neg
          simpa [Action.subscription?, Instruction.subscription?] using elsewhere
        next => rfl
      simp [nothing]
  | _ => simp [Action.charges, Action.usageUnder, Action.cancels]

end View

namespace Chain

variable {chain : Chain} {subscriber planKey : Pubkey}

theorem usage_cons {entry : Entry} {log : List Entry} {paySession : Pubkey}
    (logEq : chain.log = entry :: log)
    (continues : entry.tx.action.opens paySession = false) :
    chain.usage paySession =
      ((delegation paySession log).map fun entry => entry.tx.action.usage paySession).sum +
        entry.tx.action.usage paySession := by
  simp [usage, logEq, delegation, continues, add_comm]

theorem usage_cons_of_opens {entry : Entry} {log : List Entry} {paySession : Pubkey}
    (logEq : chain.log = entry :: log) (opens : entry.tx.action.opens paySession = true) :
    chain.usage paySession = 0 := by
  have nothing : entry.tx.action.usage paySession = 0 := by
    unfold Action.opens at opens
    split at opens
    next action => simp [action, Action.usage]
    next => cases opens
  simp [usage, logEq, delegation, opens, nothing]

/-- The sessions of a parent agree with the log. -/
structure Tallied (chain : Chain) (parent : Pubkey) (sessionId : UInt64)
    (session : PaySession Pubkey) : Prop where
  opened : ∃ entry ∈ chain.log, entry.tx.action.opens (.paySession parent sessionId) = true
  usage : session.usageAmount.toNat = chain.usage (.paySession parent sessionId)
  cap : 0 < session.reservationCap.toNat →
    session.usageAmount.toNat ≤ session.reservationCap.toNat

/-- Every session under the address is tallied. -/
def Tallies (chain : Chain) : Prop :=
  ∀ subscriber planKey sessionId session,
    (chain.view (.sub subscriber planKey)).session sessionId = some session →
    chain.Tallied (.sub subscriber planKey) sessionId session

theorem Tallies.step (tallies : chain.Tallies) (wellFormed : chain.ledger.WellFormed)
    (tx : Tx) : (chain.step tx).Tallies := by
  intro subscriber planKey sessionId session sessionAt
  rcases @step_cases chain subscriber planKey wellFormed tx with
    ⟨_, unchanged⟩ | ⟨outcome, executed, stepEq, taken⟩
  · rw [unchanged] at sessionAt ⊢
    have old := tallies subscriber planKey sessionId session sessionAt
    exact ⟨old.opened, old.usage, old.cap⟩
  · have logEq : (chain.step tx).log =
        ⟨tx, outcome.transfers, outcome.events⟩ :: chain.log := by
      rw [stepEq]
    rcases taken.tally (session_parent executed) sessionAt with
      ⟨opens, nothing⟩ | ⟨continues, old, oldAt, capEq, usageEq, capped⟩
    · refine ⟨⟨_, by rw [logEq]; exact List.mem_cons_self, opens⟩, ?_, ?_⟩
      · rw [nothing, usage_cons_of_opens logEq opens]
      · omega
    · have tallied := tallies subscriber planKey sessionId old oldAt
      obtain ⟨entry, member, byEntry⟩ := tallied.opened
      refine ⟨⟨entry, by rw [logEq]; exact List.mem_cons_of_mem _ member, byEntry⟩, ?_, ?_⟩
      · rw [usageEq, usage_cons logEq continues, tallied.usage]
        rfl
      · rw [capEq]
        intro positive
        by_cases settled : 0 < tx.action.usage (.paySession (.sub subscriber planKey) sessionId)
        · exact capped settled positive
        · have bounded := tallied.cap positive
          omega

/-- Every transaction of the log moved to the merchant what its kind accounts for. -/
def Itemized (chain : Chain) : Prop :=
  ∀ subscriber planKey, ∀ entry ∈ chain.log,
    volume (.vault (.sub subscriber planKey)) entry.transfers .settlement =
      entry.charged (.sub subscriber planKey) +
        entry.tx.action.usageUnder (.sub subscriber planKey) +
        entry.finallySettled (.sub subscriber planKey)

theorem Itemized.step (itemized : chain.Itemized) (wellFormed : chain.ledger.WellFormed)
    (tx : Tx) : (chain.step tx).Itemized := by
  intro subscriber planKey entry member
  rcases @step_cases chain subscriber planKey wellFormed tx with
    ⟨_, unchanged⟩ | ⟨outcome, _, stepEq, taken⟩
  · rw [unchanged] at member
    exact itemized subscriber planKey entry member
  · rw [stepEq] at member
    rcases List.mem_cons.mp member with rfl | older
    · exact taken.itemized
    · exact itemized subscriber planKey entry older

theorem tallies_of_reachable (reachable : machine.Reachable chain) :
    chain.Tallies ∧ chain.Itemized := by
  apply reachable.strengthen fun _ => Invariant.of_reachable
  · intro start genesis
    constructor
    · intro subscriber planKey sessionId session sessionAt
      rw [Genesis.view_eq genesis] at sessionAt
      cases sessionAt
    · intro subscriber planKey entry member
      rw [show start.log = [] from genesis.log] at member
      cases member
  · rintro before tx invariant ⟨tallies, itemized⟩ ordered
    exact ⟨tallies.step invariant.wellFormed tx, itemized.step invariant.wellFormed tx⟩

/-- What moved to the merchant is the sum over the three kinds. -/
theorem Itemized.moved (itemized : chain.Itemized) :
    chain.moved (.sub subscriber planKey) .settlement =
      chain.since (.sub subscriber planKey) (Entry.charged (.sub subscriber planKey)) +
      chain.since (.sub subscriber planKey)
        (fun entry => entry.tx.action.usageUnder (.sub subscriber planKey)) +
      chain.since (.sub subscriber planKey)
        (Entry.finallySettled (.sub subscriber planKey)) := by
  have entries : ∀ entry ∈ lifetime (.sub subscriber planKey) chain.log,
      volume (.vault (.sub subscriber planKey)) entry.transfers .settlement =
        entry.charged (.sub subscriber planKey) +
          entry.tx.action.usageUnder (.sub subscriber planKey) +
          entry.finallySettled (.sub subscriber planKey) := by
    intro entry member
    exact itemized subscriber planKey entry (mem_of_mem_lifetime member)
  calc chain.moved (.sub subscriber planKey) .settlement
      = ((lifetime (.sub subscriber planKey) chain.log).map fun entry =>
          volume (.vault (.sub subscriber planKey)) entry.transfers .settlement).sum := by
        have evaluated := map_list_sum (Pi.evalAddMonoidHom (fun _ : Route => Nat) .settlement)
          ((lifetime (.sub subscriber planKey) chain.log).map fun entry =>
            volume (.vault (.sub subscriber planKey)) entry.transfers)
        rw [List.map_map] at evaluated
        exact evaluated
    _ = ((lifetime (.sub subscriber planKey) chain.log).map fun entry =>
          entry.charged (.sub subscriber planKey) +
            entry.tx.action.usageUnder (.sub subscriber planKey) +
            entry.finallySettled (.sub subscriber planKey)).sum :=
        congrArg List.sum (List.map_congr_left entries)
    _ = _ := by
        rw [List.sum_map_add, List.sum_map_add]
        rfl

end Chain

/-- In every reachable state every session is open, carries exactly what was settled on it
since it was opened and stays within its reservation; the parent carries all charges, the
settlements of all its sessions and the final settlement since it was last subscribed. -/
theorem session_ledger {chain : Chain} (reachable : machine.Reachable chain) :
    (∀ key session, chain.ledger.account key = some (.paySession session) →
      session.state = PaySessionState.opened.toByte ∧
      (∃ entry ∈ chain.log, entry.tx.action.opens key = true) ∧
      session.usageAmount.toNat = chain.usage key ∧
      (0 < session.reservationCap.toNat →
        session.usageAmount.toNat ≤ session.reservationCap.toNat)) ∧
    (∀ key sub, chain.ledger.account key = some (.subscription sub) →
      sub.withdrawnAmount.toNat =
        chain.since key (Entry.charged key) +
        chain.since key (fun entry => entry.tx.action.usageUnder key) +
        chain.since key (Entry.finallySettled key)) := by
  have wellFormed := (Chain.Invariant.of_reachable reachable).wellFormed
  obtain ⟨tallies, itemized⟩ := Chain.tallies_of_reachable reachable
  constructor
  · intro key session loaded
    have placed := wellFormed key _ loaded
    cases placed with
    | @paySession _ subscriber planKey _ address parent _ _ opened =>
        rw [address, parent] at loaded ⊢
        have tallied := tallies subscriber planKey _ session (Ledger.view_session.mpr loaded)
        exact ⟨opened, tallied.opened, tallied.usage, tallied.cap⟩
  · intro key sub loaded
    have address := wellFormed.sub_key loaded
    rw [address] at loaded ⊢
    have accounts := Chain.Explained.of_reachable reachable _ _ sub
      (Ledger.view_subscription.mpr loaded)
    rw [← itemized.moved]
    exact accounts.2.1.symm

section Witness

open Sample

/-- Two settlements on one session around a charge. -/
def interleavedTxs : List Tx :=
  [createPlanTx, subscribeTx 0, openSessionTx 1, settleUsageTx 3 10, chargeTx 5 none,
    settleUsageTx 8 20]

/-- The charge takes what the first settlement left, and both count. -/
theorem session_ledger_interleaved :
    ∃ session sub,
      (machine.run genesis interleavedTxs).ledger.account (.paySession subKey 1) =
        some (.paySession session) ∧
      (machine.run genesis interleavedTxs).ledger.account subKey = some (.subscription sub) ∧
      session.usageAmount.toNat = 30 ∧ sub.withdrawnAmount.toNat = 40 + 30 + 0 := by
  have reachable : machine.Reachable (machine.run genesis interleavedTxs) :=
    ⟨genesis, _, genesis_isGenesis, allowsRun_of_clocks (by decide), rfl⟩
  obtain ⟨sessions, parents⟩ := session_ledger reachable
  obtain ⟨session, sessionAt⟩ : ∃ session,
      (machine.run genesis interleavedTxs).ledger.account (.paySession subKey 1) =
        some (.paySession session) := ⟨_, rfl⟩
  obtain ⟨sub, subAt⟩ : ∃ sub,
      (machine.run genesis interleavedTxs).ledger.account subKey =
        some (.subscription sub) := ⟨_, rfl⟩
  have sums : (machine.run genesis interleavedTxs).usage (.paySession subKey 1) = 30 ∧
      (machine.run genesis interleavedTxs).since subKey (Entry.charged subKey) = 40 ∧
      (machine.run genesis interleavedTxs).since subKey
        (fun entry => entry.tx.action.usageUnder subKey) = 30 ∧
      (machine.run genesis interleavedTxs).since subKey (Entry.finallySettled subKey) = 0 := by
    decide +kernel
  refine ⟨session, sub, sessionAt, subAt, ?_, ?_⟩
  · rw [(sessions _ _ sessionAt).2.2.1]
    exact sums.1
  · rw [parents _ _ subAt, sums.2.1, sums.2.2.1, sums.2.2.2]

end Witness

end Nakama
