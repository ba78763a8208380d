import Mathlib.Data.Option.Basic
import Nakama.Refinement.Events

/-!
# Rebuilding a subscription from its events

An indexer that reads nothing but the events and the clock of the transactions that emitted
them.  The state, the anchors, the satellites, the sessions and the amount withdrawn are
what it computes; of the deposit it knows a lower bound, because `top_up` is silent outside
of grace.
-/

namespace Nakama

open Guard Ledger

/-- What an indexer keeps of a subscription. -/
structure Record where
  subscriber : Pubkey
  plan : Pubkey
  ratePerSecond : UInt64
  createdAt : Int64
  streamStart : Int64
  lastChargeAt : Int64
  withdrawn : UInt64
  deposited : UInt64
  state : SubscriptionState
  deriving DecidableEq, Repr

/-- What an indexer keeps of a session. -/
structure SessionRecord where
  facilitator : Pubkey
  reservationCap : UInt64
  usage : UInt64
  openedAt : Int64
  lastSettleAt : Int64
  deriving DecidableEq, Repr

/-- What an indexer keeps of a subscription and its satellites. -/
structure Index where
  subscription : Option Record
  graced : Option (Int64 × Int64)
  paused : Option Int64
  session : UInt64 → Option SessionRecord

namespace Index

/-- Before the first event. -/
def empty : Index := ⟨none, none, none, fun _ => none⟩

/-- Change the record of the subscription, if there is one. -/
def update (index : Index) (change : Record → Record) : Index :=
  { index with subscription := index.subscription.map change }

/-- Change the record of the session at an address. -/
def updateSession (index : Index) (key : Pubkey)
    (change : Option SessionRecord → Option SessionRecord) : Index :=
  match key.sessionId? with
  | some sessionId =>
      { index with
        session := Function.update index.session sessionId (change (index.session sessionId)) }
  | none => index

/-- Take in an event that was emitted at `now`. -/
def observe (now : Int64) (index : Index) : Event → Index
  | .planCreated .. => index
  | .subscriptionStarted _ subscriber plan depositedAmount ratePerSecond streamStart =>
      let record : Record :=
        { subscriber, plan, ratePerSecond, createdAt := now, streamStart, lastChargeAt := 0
          withdrawn := 0, deposited := depositedAmount, state := .active }
      { index with subscription := some record }
  | .subscriptionCharged _ _ withdrawnTotal timestamp =>
      index.update fun record => { record with
        withdrawn := withdrawnTotal
        lastChargeAt := timestamp
        -- A charge that enters grace has paid out the whole deposit.
        deposited := if record.state = .gracePeriod then withdrawnTotal else record.deposited }
  | .graceEntered _ enteredGraceAt graceUntil =>
      { index.update fun record => { record with state := .gracePeriod } with
        graced := some (enteredGraceAt, graceUntil) }
  | .graceRecovered _ _ newDeposited =>
      let shift := (index.graced.map fun graced => now - graced.1).getD 0
      { index.update fun record => { record with
          deposited := newDeposited
          streamStart := record.streamStart + shift
          state := .active } with
        graced := none }
  | .subscriptionPaused _ pausedAt _ =>
      { index.update fun record => { record with state := .paused } with
        paused := some pausedAt }
  | .subscriptionResumed _ _ _ newStreamStart =>
      { index.update fun record => { record with
          streamStart := newStreamStart, state := .active } with
        paused := none }
  | .subscriptionCancelled _ _ _ _ _ finalSettled refunded _ _ timestamp =>
      { index.update fun record => { record with
          withdrawn := record.withdrawn + finalSettled
          deposited := record.withdrawn + finalSettled + refunded
          lastChargeAt := timestamp
          state := .cancelled } with
        graced := none
        paused := none }
  | .subscriptionCleaned .. => { index with subscription := none }
  | .paySessionOpened paySession _ facilitator reservationCap timestamp =>
      index.updateSession paySession fun _ => some
        { facilitator, reservationCap, usage := 0, openedAt := timestamp, lastSettleAt := 0 }
  | .usageSettled paySession _ amount cumulativeUsage timestamp =>
      (index.update fun record => { record with
        withdrawn := record.withdrawn + amount }).updateSession paySession fun session =>
          session.map fun session => { session with
            usage := cumulativeUsage, lastSettleAt := timestamp }
  | .paySessionClosed paySession .. => index.updateSession paySession fun _ => none

/-- Take in an event if it is about the subscription at `key`. -/
def apply (key : Pubkey) (now : Int64) (index : Index) (event : Event) : Index :=
  if event.subscription? = some key then index.observe now event else index

/-- Take in all that succeeded, oldest first. -/
def replay (key : Pubkey) (log : List Entry) : Index :=
  log.foldr (fun entry index => entry.events.foldl (apply key entry.tx.now) index) empty

@[simp] theorem replay_nil (key : Pubkey) : replay key [] = empty := rfl

@[simp] theorem replay_cons (key : Pubkey) (entry : Entry) (log : List Entry) :
    replay key (entry :: log) =
      entry.events.foldl (apply key entry.tx.now) (replay key log) :=
  rfl

end Index

/-! ## What a record says -/

/-- The record is exact, up to a deposit that may have grown silently. -/
structure Record.Describes (record : Record) (sub : Subscription Pubkey) : Prop where
  subscriber : record.subscriber = sub.subscriber
  plan : record.plan = sub.plan
  ratePerSecond : record.ratePerSecond = sub.ratePerSecond
  createdAt : record.createdAt = sub.createdAt
  streamStart : record.streamStart = sub.streamStart
  lastChargeAt : record.lastChargeAt = sub.lastChargeAt
  withdrawn : record.withdrawn = sub.withdrawnAmount
  state : record.state = sub.state
  deposited_le : record.deposited.toNat ≤ sub.depositedAmount.toNat
  deposited_eq : sub.state = .gracePeriod ∨ sub.state = .cancelled →
    record.deposited = sub.depositedAmount

/-- What the events say of a session. -/
def PaySession.record (session : PaySession Pubkey) : SessionRecord where
  facilitator := session.facilitator
  reservationCap := session.reservationCap
  usage := session.usageAmount
  openedAt := session.openedAt
  lastSettleAt := session.lastSettleAt

/-- The index agrees with the accounts of a subscription. -/
structure Index.Describes (index : Index) (view : View) : Prop where
  subscription : Option.Rel Record.Describes index.subscription view.subscription
  graced : index.graced = view.graced.map fun graced =>
    (graced.enteredGraceAt, graced.graceUntil)
  paused : index.paused = view.paused.map (·.pausedAt)
  session : ∀ sessionId, index.session sessionId = (view.session sessionId).map (·.record)

namespace Index.Describes

variable {index : Index} {view : View} {sub : Subscription Pubkey}

theorem exists_record (described : index.Describes view)
    (subAt : view.subscription = some sub) :
    ∃ record, index.subscription = some record ∧ record.Describes sub := by
  have related := described.subscription
  rw [subAt] at related
  cases found : index.subscription with
  | none =>
      rw [found] at related
      cases related
  | some record =>
      rw [found] at related
      cases related with
      | some agree => exact ⟨record, rfl, agree⟩

theorem update_session (described : index.Describes view) {changed : UInt64}
    {known : Option SessionRecord} {session : Option (PaySession Pubkey)}
    (agree : known = session.map (·.record)) (sessionId : UInt64) :
    Function.update index.session changed known sessionId =
      (Function.update view.session changed session sessionId).map (·.record) := by
  by_cases same : sessionId = changed
  · subst same
    simp [agree]
  · simp [same, described.session sessionId]

end Index.Describes

private theorem add_sub_self (total part : UInt64) : part + (total - part) = total := by
  rw [UInt64.add_comm, UInt64.sub_add_cancel]

/-- The events of an instruction carry its effect over to the index. -/
theorem Index.Describes.step {index : Index} {key : Pubkey} {clock now : Int64}
    {instruction : Instruction} {before after : View} {delta : Route → Nat}
    (described : index.Describes before) (sound : before.Sound clock)
    (soundAfter : after.Sound now)
    (taken : View.Step key now (.program instruction) before after delta)
    (target : instruction.subscription? = some key) (fresh : after.Fresh instruction) :
    ((before.reported key now after instruction).foldl (Index.apply key now) index).Describes
      after := by
  cases taken with
  | @subscribe accounts periodsToPrefund view sub vault _ _ _ vacant _ state clocks withdrawn =>
      obtain ⟨startEq, createdEq⟩ := clocks
      have uncharged := fresh sub rfl
      have untouched : sub.withdrawnAmount = 0 := UInt64.toNat_inj.mp withdrawn
      simp only [View.reported, List.foldl_cons, List.foldl_nil, apply, observe,
        Event.subscription?, if_true]
      refine ⟨?_, described.graced, described.paused, described.session⟩
      exact .some ⟨rfl, rfl, rfl, createdEq.symm, rfl, uncharged.symm, untouched.symm,
        state.symm, le_refl _, fun _ => rfl⟩
  | @charge accounts view sub vault claimable withdrawn remaining nextChargeAt _ subAt _
      active =>
      obtain ⟨record, recordAt, agree⟩ := described.exists_record subAt
      have running : record.state = .active := agree.state.trans active
      simp only [View.reported, subAt, active, reduceCtorEq, if_false, List.nil_append,
        List.foldl_cons, List.foldl_nil, apply, observe, Event.subscription?, if_true]
      refine ⟨?_, described.graced, described.paused, described.session⟩
      simp only [update, recordAt, Option.map_some, running, reduceCtorEq, if_false]
      exact .some { agree with
        lastChargeAt := rfl
        withdrawn := rfl
        state := rfl
        deposited_eq := by rintro (grace | cancelled) <;> contradiction }
  | @exhaust accounts view sub vault claimable remaining nextChargeAt graceUntil _ subAt _ _ =>
      obtain ⟨record, recordAt, agree⟩ := described.exists_record subAt
      simp only [View.reported, subAt, if_true, Option.toList_some, List.map_cons,
        List.map_nil, List.cons_append, List.nil_append, List.foldl_cons, List.foldl_nil, apply,
        observe, Event.subscription?]
      refine ⟨?_, rfl, described.paused, described.session⟩
      simp only [update, recordAt, Option.map_some, if_true]
      exact .some { agree with
        lastChargeAt := rfl
        withdrawn := rfl
        state := rfl
        deposited_le := le_refl _
        deposited_eq := fun _ => rfl }
  | @settleUsage accounts amount view sub vault session withdrawn remaining usage _
      sessionAddress subAt _ sessionAt active _ withdrawnEq =>
      obtain ⟨record, recordAt, agree⟩ := described.exists_record subAt
      have known := described.session session.sessionId
      simp only [View.reported, sessionAddress, Pubkey.sessionId?, Option.bind_some,
        Function.update_self, Option.toList_some, List.map_cons, List.map_nil, List.foldl_cons,
        List.foldl_nil, apply, observe, Event.subscription?, if_true, updateSession]
      refine ⟨?_, described.graced, described.paused, described.update_session ?_⟩
      · simp only [update, recordAt, Option.map_some]
        exact .some { agree with
          withdrawn := by rw [agree.withdrawn, Checked.add_eq_of_toNat withdrawnEq] }
      · simp only [update, known, sessionAt, Option.map_some, PaySession.record]
  | @topUp accounts amount view sub vault deposited credited graced _ _ subAt _ running _
      depositedEq _ slot =>
      obtain ⟨record, recordAt, agree⟩ := described.exists_record subAt
      obtain ⟨notGrace, notCancelled, plain⟩ : sub.state ≠ .gracePeriod ∧
          sub.state ≠ .cancelled ∧ before.graced = none := by
        rcases running with active | paused
        · exact ⟨by simp [active], by simp [active], (sound.of_active subAt active).graced⟩
        · obtain ⟨satellite, frozen⟩ := sound.of_paused subAt paused
          exact ⟨by simp [paused], by simp [paused], frozen.graced⟩
      simp only [View.reported, subAt, if_neg notGrace, List.foldl_nil]
      refine ⟨?_, ?_, described.paused, described.session⟩
      · rw [recordAt]
        exact .some { agree with
          deposited_le := le_trans agree.deposited_le (by dsimp only; omega)
          deposited_eq := by
            rintro (grace | cancelled)
            · exact (notGrace grace).elim
            · exact (notCancelled cancelled).elim }
      · rw [described.graced, plain, slot plain]
  | @recover accounts amount view sub vault deposited credited graced streamStart _ _ subAt _
      gracedAt grace _ depositedEq _ _ shifted =>
      obtain ⟨record, recordAt, agree⟩ := described.exists_record subAt
      have entered := described.graced
      simp only [View.reported, subAt, grace, if_true, List.foldl_cons, List.foldl_nil, apply,
        observe, Event.subscription?]
      refine ⟨?_, rfl, described.paused, described.session⟩
      rw [gracedAt, Option.map_some] at entered
      simp only [update, recordAt, Option.map_some, entered, Option.getD_some]
      exact .some { agree with
        streamStart := by rw [agree.streamStart, Checked.add_sub_eq_of_toInt shifted]
        state := rfl
        deposited_le := le_refl _
        deposited_eq := fun _ => rfl }
  | @pause accounts view sub bump _ _ subAt _ active =>
      obtain ⟨record, recordAt, agree⟩ := described.exists_record subAt
      simp only [View.reported, subAt, List.foldl_cons, List.foldl_nil, apply,
        observe, Event.subscription?, if_true]
      refine ⟨?_, described.graced, rfl, described.session⟩
      simp only [update, recordAt, Option.map_some]
      exact .some { agree with
        state := rfl
        deposited_eq := by rintro (grace | cancelled) <;> contradiction }
  | @resume accounts view sub paused streamStart _ _ subAt pausedAt =>
      obtain ⟨record, recordAt, agree⟩ := described.exists_record subAt
      simp only [View.reported, pausedAt, List.foldl_cons, List.foldl_nil, apply,
        observe, Event.subscription?, if_true]
      refine ⟨?_, described.graced, rfl, described.session⟩
      simp only [update, recordAt, Option.map_some]
      exact .some { agree with
        streamStart := rfl
        state := rfl
        deposited_eq := by rintro (grace | cancelled) <;> contradiction }
  | @cancel accounts view sub vault moment claimable refund withdrawn graced paused _ _ subAt =>
      obtain ⟨record, recordAt, agree⟩ := described.exists_record subAt
      have bare := (soundAfter.of_cancelled rfl rfl).1
      simp only [View.reported, subAt, List.foldl_cons, List.foldl_nil, apply,
        observe, Event.subscription?, if_true]
      refine ⟨?_, ?_, ?_, described.session⟩
      · simp only [update, recordAt, Option.map_some, agree.withdrawn, add_sub_self]
        exact .some { agree with
          lastChargeAt := rfl
          withdrawn := rfl
          state := rfl
          deposited_le := le_refl _
          deposited_eq := fun _ => rfl }
      · rw [bare.graced, Option.map_none]
      · rw [bare.paused, Option.map_none]
  | cleanup =>
      simp only [View.reported, List.foldl_cons, List.foldl_nil, apply, observe,
        Event.subscription?, if_true]
      exact ⟨.none, described.graced, described.paused, described.session⟩
  | @openSession accounts sessionId reservationCap facilitator view sub session _
      sessionAddress =>
      obtain ⟨unused, unsettled⟩ := fresh session (by simp)
      simp only [View.reported, sessionAddress, Function.update_self, Option.toList_some,
        List.map_cons, List.map_nil, List.foldl_cons, List.foldl_nil, apply, observe,
        Event.subscription?, if_true, updateSession, Pubkey.sessionId?]
      refine ⟨described.subscription, described.graced, described.paused,
        described.update_session ?_⟩
      simp only [Option.map_some, PaySession.record, unused, unsettled]
  | @closeSession accounts view sub session _ sessionAddress _ _ sessionAt =>
      simp only [View.reported, sessionAddress, Pubkey.sessionId?, Option.bind_some, sessionAt,
        Option.toList_some, List.map_cons, List.map_nil, List.foldl_cons, List.foldl_nil, apply,
        observe, Event.subscription?, if_true, updateSession]
      exact ⟨described.subscription, described.graced, described.paused,
        described.update_session rfl⟩
  | other elsewhere => exact (elsewhere target).elim

/-- What is done elsewhere can only fund the vault. -/
theorem Index.Describes.of_elsewhere {index : Index} {key : Pubkey} {now : Int64}
    {action : Action} {before after : View} {delta : Route → Nat}
    (described : index.Describes before)
    (taken : View.Step key now action before after delta)
    (elsewhere : action.subscription? ≠ some key) : index.Describes after := by
  cases taken with
  | donate =>
      exact ⟨described.subscription, described.graced, described.paused, described.session⟩
  | other => exact described
  | _ => exact (elsewhere (congrArg some (by assumption))).elim

/-- Events about other subscriptions leave the index alone. -/
theorem Index.foldl_apply_of_elsewhere {key : Pubkey} {now : Int64} {events : List Event}
    (elsewhere : ∀ event ∈ events, event.subscription? ≠ some key) (index : Index) :
    events.foldl (Index.apply key now) index = index := by
  induction events generalizing index with
  | nil => rfl
  | cons event events ih =>
      rw [List.foldl_cons, Index.apply, if_neg (elsewhere event List.mem_cons_self)]
      exact ih (fun later member => elsewhere later (List.mem_cons_of_mem _ member)) index

namespace Chain

variable {chain : Chain} {subscriber planKey : Pubkey}

/-- One more transaction, and one more entry to replay. -/
theorem replay_step (invariant : chain.Invariant) {tx : Tx}
    (ordered : chain.clock.toInt ≤ tx.now.toInt)
    (described : (Index.replay (.sub subscriber planKey) chain.log).Describes
      (chain.view (.sub subscriber planKey))) :
    (Index.replay (.sub subscriber planKey) (chain.step tx).log).Describes
      ((chain.step tx).view (.sub subscriber planKey)) := by
  have soundAfter := (invariant.step ordered).sound subscriber planKey
  rcases @step_cases chain subscriber planKey invariant.wellFormed tx with
    ⟨_, unchanged⟩ | ⟨outcome, executed, stepped, taken⟩
  · rw [unchanged]
    exact described
  rw [step_clock] at soundAfter
  simp only [stepped, Index.replay_cons] at taken soundAfter ⊢
  by_cases target : tx.action.subscription? = some (.sub subscriber planKey)
  · obtain ⟨now, action⟩ := tx
    cases action with
    | spl => cases target
    | program instruction =>
        rw [instruction_emits executed target]
        exact described.step (invariant.sound subscriber planKey) soundAfter taken target
          (instruction_fresh executed target)
  · rw [Index.foldl_apply_of_elsewhere]
    · exact described.of_elsewhere taken target
    · intro event member
      rw [action_events_subscription executed event member]
      exact target

end Chain

/-- After any run, an indexer that replays the events knows the state of every subscription,
its anchors, its satellites, its sessions and what it has paid; it knows the deposit exactly
in grace and after the end, and at any time a lower bound of it. -/
theorem events_rebuild_subscription {chain : Chain} (reachable : machine.Reachable chain)
    (subscriber planKey : Pubkey) :
    (Index.replay (.sub subscriber planKey) chain.log).Describes
      (chain.view (.sub subscriber planKey)) := by
  apply reachable.strengthen fun _ => Chain.Invariant.of_reachable
  · intro start genesis
    rw [genesis.log, genesis.view_eq]
    exact ⟨.none, rfl, rfl, fun _ => rfl⟩
  · intro before tx invariant described ordered
    exact Chain.replay_step invariant ordered described

open Sample in
/-- A run through grace, recovery, a silent top-up, a session and a pause. -/
def reportedTxs : List Tx :=
  [createPlanTx, subscribeTx 0, chargeTx 20 (some (.grace subKey)),
    topUpTx 25 (some (.grace subKey)) 200, topUpTx 26 none 50, openSessionTx 27,
    settleUsageTx 30 10, pauseTx 31]

open Sample in
theorem events_rebuild_subscription_reported :
    (Index.replay subKey (machine.run genesis reportedTxs).log).Describes
      ((machine.run genesis reportedTxs).view subKey) ∧
    (Index.replay subKey (machine.run genesis reportedTxs).log).subscription =
      some ⟨subscriber.key, planKey, 10, 0, 5, 20, 210, 400, .paused⟩ :=
  ⟨events_rebuild_subscription
    ⟨genesis, reportedTxs, genesis_isGenesis, allowsRun_of_clocks (by decide), rfl⟩ _ _,
    by decide +kernel⟩

/-! ## Events and token movements -/

/-- The movement that an event reports, by route. -/
def Event.moved : Event → Route → Nat
  | .subscriptionStarted _ _ _ depositedAmount .. => Pi.single .deposit depositedAmount.toNat
  | .graceRecovered _ topUpAmount _ => Pi.single .deposit topUpAmount.toNat
  | .subscriptionCharged _ amount .. => Pi.single .settlement amount.toNat
  | .usageSettled _ _ amount .. => Pi.single .settlement amount.toNat
  | .subscriptionCancelled _ _ _ _ _ finalSettled refunded .. =>
      Pi.single .settlement finalSettled.toNat + Pi.single .refund refunded.toNat
  | _ => 0

/-- What the events report of the subscription at `key`. -/
def reportedVolume (key : Pubkey) (events : List Event) : Route → Nat :=
  (events.map fun event => if event.subscription? = some key then event.moved else 0).sum

@[simp] theorem reportedVolume_nil (key : Pubkey) : reportedVolume key [] = 0 := rfl

theorem reportedVolume_of_elsewhere {key : Pubkey} {events : List Event}
    (elsewhere : ∀ event ∈ events, event.subscription? ≠ some key) :
    reportedVolume key events = 0 := by
  induction events with
  | nil => rfl
  | cons event events ih =>
      have rest := ih fun later member => elsewhere later (List.mem_cons_of_mem _ member)
      rw [reportedVolume, List.map_cons, List.sum_cons,
        if_neg (elsewhere event List.mem_cons_self), zero_add]
      exact rest

/-- The reported volume is the moved one, but for deposits that no event mentions. -/
structure Reconciled (reported moved : Route → Nat) : Prop where
  settlement : reported .settlement = moved .settlement
  refund : reported .refund = moved .refund
  deposit : reported .deposit ≤ moved .deposit

theorem Reconciled.of_eq {reported moved : Route → Nat} (same : reported = moved) :
    Reconciled reported moved := by
  subst same
  exact ⟨rfl, rfl, le_refl _⟩

/-- The events of an instruction report what it moves. -/
theorem View.Step.reconciled {key : Pubkey} {now : Int64} {instruction : Instruction}
    {before after : View} {delta : Route → Nat}
    (taken : View.Step key now (.program instruction) before after delta)
    (target : instruction.subscription? = some key) :
    Reconciled (reportedVolume key (before.reported key now after instruction)) delta := by
  cases taken with
  | subscribe =>
      exact .of_eq (by simp [View.reported, reportedVolume, Event.subscription?, Event.moved])
  | @charge accounts view sub vault claimable withdrawn remaining nextChargeAt _ subAt _ active
      _ withdrawnEq =>
      apply Reconciled.of_eq
      simp [View.reported, reportedVolume, Event.subscription?, Event.moved, subAt, active,
        Checked.sub_eq_of_toNat withdrawnEq]
  | @exhaust accounts view sub vault claimable remaining nextChargeAt graceUntil _ subAt _ _ _ _
      withdrawnEq =>
      apply Reconciled.of_eq
      simp [View.reported, reportedVolume, Event.subscription?, Event.moved, subAt,
        Checked.sub_eq_of_toNat withdrawnEq]
  | @settleUsage accounts amount view sub vault session withdrawn remaining usage _
      sessionAddress =>
      apply Reconciled.of_eq
      simp [View.reported, reportedVolume, Event.subscription?, Event.moved, sessionAddress,
        Pubkey.sessionId?]
  | @topUp accounts amount view sub vault deposited credited graced _ _ subAt _ running =>
      -- Outside of grace nothing is reported.
      have notGrace : sub.state ≠ .gracePeriod := by
        rcases running with active | paused <;> simp [*]
      simp only [View.reported, subAt, if_neg notGrace, reportedVolume_nil]
      exact ⟨by simp, by simp, by simp⟩
  | recover _ _ subAt _ _ grace =>
      apply Reconciled.of_eq
      simp [View.reported, reportedVolume, Event.subscription?, Event.moved, subAt, grace]
  | @cancel accounts view sub vault moment claimable refund withdrawn graced paused _ _ subAt _ _
      _ withdrawnEq _ refundEq =>
      apply Reconciled.of_eq
      simp [View.reported, reportedVolume, Event.subscription?, Event.moved, subAt,
        Checked.sub_eq_of_toNat withdrawnEq, Checked.sub_eq_of_toNat refundEq.symm]
  | pause _ _ subAt =>
      exact .of_eq
        (by simp [View.reported, reportedVolume, Event.subscription?, Event.moved, subAt])
  | resume _ _ subAt pausedAt =>
      exact .of_eq
        (by simp [View.reported, reportedVolume, Event.subscription?, Event.moved, pausedAt])
  | cleanup =>
      exact .of_eq (by simp [View.reported, reportedVolume, Event.subscription?, Event.moved])
  | openSession =>
      exact .of_eq (by simp [View.reported, reportedVolume, Event.subscription?, Event.moved])
  | closeSession _ sessionAddress _ _ sessionAt =>
      exact .of_eq (by
        simp [View.reported, reportedVolume, Event.subscription?, Event.moved, sessionAddress,
          Pubkey.sessionId?, sessionAt])
  | other elsewhere => exact (elsewhere target).elim

/-- What is done elsewhere reports nothing here and moves nothing but donations. -/
theorem View.Step.reconciled_of_elsewhere {key : Pubkey} {now : Int64} {action : Action}
    {before after : View} {delta : Route → Nat}
    (taken : View.Step key now action before after delta)
    (elsewhere : action.subscription? ≠ some key) : Reconciled 0 delta := by
  cases taken with
  | donate => exact ⟨by simp, by simp, by simp⟩
  | other => exact .of_eq rfl
  | _ => exact (elsewhere (congrArg some (by assumption))).elim

/-- In every transaction of every run the events account for the tokens: what they report as
charged, settled and refunded is what left the vault on these routes, and what they report
as deposited did arrive. -/
theorem events_reconcile {chain : Chain} (reachable : machine.Reachable chain)
    (subscriber planKey : Pubkey) :
    ∀ entry ∈ chain.log, Reconciled (reportedVolume (.sub subscriber planKey) entry.events)
      (volume (.vault (.sub subscriber planKey)) entry.transfers) := by
  apply reachable.strengthen fun _ => Chain.Invariant.of_reachable
  · intro start genesis entry member
    rw [genesis.log] at member
    cases member
  · intro before tx invariant reconciled ordered
    rcases @Chain.step_cases before subscriber planKey invariant.wellFormed tx with
      ⟨_, unchanged⟩ | ⟨outcome, executed, stepped, taken⟩
    · rw [show machine.step before tx = _ from unchanged]
      exact reconciled
    rw [stepped] at taken
    rw [show machine.step before tx = _ from stepped]
    intro entry member
    rcases List.mem_cons.mp member with rfl | older
    · by_cases target : tx.action.subscription? = some (.sub subscriber planKey)
      · obtain ⟨now, action⟩ := tx
        cases action with
        | spl => cases target
        | program instruction =>
            dsimp only
            rw [instruction_emits executed target]
            exact taken.reconciled target
      · dsimp only
        rw [reportedVolume_of_elsewhere]
        · exact taken.reconciled_of_elsewhere target
        · intro event member
          rw [action_events_subscription executed event member]
          exact target
    · exact reconciled entry older

open Sample in
/-- The charge into grace, which emits two events. -/
theorem events_reconcile_reported :
    ∃ entry ∈ (machine.run genesis reportedTxs).log, entry.tx.now = 20 ∧
      Reconciled (reportedVolume subKey entry.events)
        (volume (.vault subKey) entry.transfers) := by
  have reachable : machine.Reachable (machine.run genesis reportedTxs) :=
    ⟨genesis, reportedTxs, genesis_isGenesis, allowsRun_of_clocks (by decide), rfl⟩
  obtain ⟨entry, member, clock⟩ :
      ∃ entry ∈ (machine.run genesis reportedTxs).log, entry.tx.now = 20 := by
    decide +kernel
  exact ⟨entry, member, clock, events_reconcile reachable _ _ entry member⟩

end Nakama
