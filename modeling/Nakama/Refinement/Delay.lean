import Nakama.Refinement.Faults

/-!
# Clock delays

Two ledgers that hold the same subscription on clocks a fixed delay apart.  Every action
on it that succeeds on one of them succeeds on the other, later by the delay, moves the
same tokens and leaves such ledgers behind.  Nothing reads a timestamp but in a difference
with the clock, and the records of past moments are never read.
-/

namespace Nakama

open Guard Ledger

/-- The same grace on a clock that is ahead. -/
structure GracedSubscription.Delayed (delay : Int) (early late : GracedSubscription Pubkey) :
    Prop where
  entered : late.enteredGraceAt.toInt = early.enteredGraceAt.toInt + delay
  untilEq : late.graceUntil.toInt = early.graceUntil.toInt + delay

/-- The same pause on a clock that is ahead. -/
structure PausedSubscription.Delayed (delay : Int) (early late : PausedSubscription Pubkey) :
    Prop where
  subscription : late.subscription = early.subscription
  since : late.pausedAt.toInt = early.pausedAt.toInt + delay

/-- The same account on a clock that is ahead.  Anchors and satellites move with the clock;
the moments that no handler reads are free, and so is the keeper hint. -/
inductive Account.Delayed (delay : Int) : Account → Account → Prop where
  | subscription {sub : Subscription Pubkey}
      {streamStart nextChargeAt createdAt lastChargeAt : Int64}
      (anchor : streamStart.toInt = sub.streamStart.toInt + delay) :
      Delayed delay (.subscription sub)
        (.subscription { sub with streamStart, nextChargeAt, createdAt, lastChargeAt })
  | graced {graced : GracedSubscription Pubkey} {enteredGraceAt graceUntil : Int64}
      (entered : enteredGraceAt.toInt = graced.enteredGraceAt.toInt + delay)
      (untilEq : graceUntil.toInt = graced.graceUntil.toInt + delay) :
      Delayed delay (.graced graced) (.graced { graced with enteredGraceAt, graceUntil })
  | paused {paused : PausedSubscription Pubkey} {pausedAt : Int64}
      (since : pausedAt.toInt = paused.pausedAt.toInt + delay) :
      Delayed delay (.paused paused) (.paused { paused with pausedAt })
  | paySession {session : PaySession Pubkey} {openedAt lastSettleAt : Int64} :
      Delayed delay (.paySession session)
        (.paySession { session with openedAt, lastSettleAt })
  | token {token : TokenAccount} : Delayed delay (.token token) (.token token)

theorem Account.Delayed.symm {delay : Int} {early late : Account}
    (delayed : Account.Delayed delay early late) : Account.Delayed (-delay) late early := by
  cases delayed with
  | @subscription sub _ _ _ _ anchor =>
      exact @Account.Delayed.subscription (-delay) _ sub.streamStart sub.nextChargeAt
        sub.createdAt sub.lastChargeAt (by simp only; omega)
  | @graced graced _ _ entered untilEq =>
      exact @Account.Delayed.graced (-delay) _ graced.enteredGraceAt graced.graceUntil
        (by simp only; omega) (by simp only; omega)
  | @paused paused _ since =>
      exact @Account.Delayed.paused (-delay) _ paused.pausedAt (by simp only; omega)
  | @paySession session =>
      exact @Account.Delayed.paySession (-delay) _ session.openedAt session.lastSettleAt
  | token => exact .token

/-- The subscription at `key` is the same but for the clock, and everything else is the
same. -/
structure Ledger.Delayed (key : Pubkey) (delay : Int) (early late : Ledger) : Prop where
  bump : late.bump = early.bump
  outside : ∀ query, query.subject ≠ some key → late.account query = early.account query
  owned : ∀ query, query.subject = some key →
    Option.Rel (Account.Delayed delay) (early.account query) (late.account query)

namespace Ledger.Delayed

variable {key : Pubkey} {delay : Int} {early late : Ledger}

theorem symm (delayed : early.Delayed key delay late) : late.Delayed key (-delay) early := by
  constructor
  · exact delayed.bump.symm
  · intro query elsewhere
    exact (delayed.outside query elsewhere).symm
  · intro query subject
    have related := delayed.owned query subject
    generalize early.account query = before at related ⊢
    generalize late.account query = after at related ⊢
    cases related with
    | none => exact .none
    | some same => exact .some same.symm

/-! ## Reading -/

section Reading

variable {query : Pubkey} {account : Account}

theorem vacant (delayed : early.Delayed key delay late) (free : early.account query = none) :
    late.account query = none := by
  by_cases subject : query.subject = some key
  · have related := delayed.owned query subject
    rw [free] at related
    generalize late.account query = after at related ⊢
    cases related
    rfl
  · rw [delayed.outside query subject, free]

theorem find (delayed : early.Delayed key delay late)
    (found : early.account query = some account) :
    ∃ after, late.account query = some after ∧
      (after = account ∨ Account.Delayed delay account after) ∧
      (query.subject = some key → Account.Delayed delay account after) := by
  by_cases subject : query.subject = some key
  · have related := delayed.owned query subject
    rw [found] at related
    generalize late.account query = after at related
    cases related with
    | some same => exact ⟨_, rfl, .inr same, fun _ => same⟩
  · refine ⟨account, ?_, .inl rfl, fun own => (subject own).elim⟩
    rw [delayed.outside query subject, found]

theorem token (delayed : early.Delayed key delay late) {token : TokenAccount}
    (found : early.account query = some (.token token)) :
    late.account query = some (.token token) := by
  obtain ⟨after, afterAt, rfl | same, _⟩ := delayed.find found
  · exact afterAt
  · cases same
    exact afterAt

theorem plan (delayed : early.Delayed key delay late) {plan : Plan Pubkey}
    (found : early.account query = some (.plan plan)) :
    late.account query = some (.plan plan) := by
  obtain ⟨after, afterAt, rfl | same, _⟩ := delayed.find found
  · exact afterAt
  · cases same

theorem mint (delayed : early.Delayed key delay late)
    (found : early.account query = some .mint) : late.account query = some .mint := by
  obtain ⟨after, afterAt, rfl | same, _⟩ := delayed.find found
  · exact afterAt
  · cases same

theorem paySession (delayed : early.Delayed key delay late) {session : PaySession Pubkey}
    (found : early.account query = some (.paySession session)) :
    ∃ openedAt lastSettleAt, late.account query =
      some (.paySession { session with openedAt, lastSettleAt }) := by
  obtain ⟨after, afterAt, rfl | same, _⟩ := delayed.find found
  · exact ⟨session.openedAt, session.lastSettleAt, afterAt⟩
  · cases same
    exact ⟨_, _, afterAt⟩

theorem subscription {subscriber planKey : Pubkey} {sub : Subscription Pubkey}
    (delayed : early.Delayed (.sub subscriber planKey) delay late)
    (found : early.account (.sub subscriber planKey) = some (.subscription sub)) :
    ∃ streamStart nextChargeAt createdAt lastChargeAt : Int64,
      streamStart.toInt = sub.streamStart.toInt + delay ∧
      late.account (.sub subscriber planKey) = some (.subscription
        { sub with streamStart, nextChargeAt, createdAt, lastChargeAt }) := by
  obtain ⟨after, afterAt, _, own⟩ := delayed.find found
  cases own rfl with
  | subscription anchor => exact ⟨_, _, _, _, anchor, afterAt⟩

theorem graced (delayed : early.Delayed key delay late) {graced : GracedSubscription Pubkey}
    (found : early.account (.grace key) = some (.graced graced)) :
    ∃ enteredGraceAt graceUntil : Int64,
      enteredGraceAt.toInt = graced.enteredGraceAt.toInt + delay ∧
      graceUntil.toInt = graced.graceUntil.toInt + delay ∧
      late.account (.grace key) =
        some (.graced { graced with enteredGraceAt, graceUntil }) := by
  obtain ⟨after, afterAt, _, own⟩ := delayed.find found
  cases own rfl with
  | graced entered untilEq => exact ⟨_, _, entered, untilEq, afterAt⟩

theorem paused (delayed : early.Delayed key delay late) {paused : PausedSubscription Pubkey}
    (found : early.account (.pausedSub key) = some (.paused paused)) :
    ∃ pausedAt : Int64, pausedAt.toInt = paused.pausedAt.toInt + delay ∧
      late.account (.pausedSub key) = some (.paused { paused with pausedAt }) := by
  obtain ⟨after, afterAt, _, own⟩ := delayed.find found
  cases own rfl with
  | paused since => exact ⟨_, since, afterAt⟩

theorem loadGraced (delayed : early.Delayed key delay late) {slot : Option Pubkey}
    {graced : Option (GracedSubscription Pubkey)}
    (address : ∀ query, slot = some query → query = .grace key)
    (loaded : early.loadOptional Ledger.loadGraced slot = .ok graced) :
    ∃ laterGraced, late.loadOptional Ledger.loadGraced slot = .ok laterGraced ∧
      Option.Rel (GracedSubscription.Delayed delay) graced laterGraced := by
  rcases loadOptional_eq_ok.mp loaded with ⟨rfl, rfl⟩ | ⟨query, found, rfl, rfl, foundAt⟩
  · exact ⟨none, rfl, .none⟩
  · obtain rfl := address query rfl
    obtain ⟨enteredGraceAt, graceUntil, entered, untilEq, laterAt⟩ :=
      delayed.graced (loadGraced_eq_ok.mp foundAt)
    exact ⟨_, loadOptional_eq_ok.mpr (.inr ⟨_, _, rfl, rfl, loadGraced_eq_ok.mpr laterAt⟩),
      .some ⟨entered, untilEq⟩⟩

theorem loadPaused (delayed : early.Delayed key delay late) {slot : Option Pubkey}
    {paused : Option (PausedSubscription Pubkey)}
    (address : ∀ query, slot = some query → query = .pausedSub key)
    (loaded : early.loadOptional Ledger.loadPaused slot = .ok paused) :
    ∃ laterPaused, late.loadOptional Ledger.loadPaused slot = .ok laterPaused ∧
      Option.Rel (PausedSubscription.Delayed delay) paused laterPaused := by
  rcases loadOptional_eq_ok.mp loaded with ⟨rfl, rfl⟩ | ⟨query, found, rfl, rfl, foundAt⟩
  · exact ⟨none, rfl, .none⟩
  · obtain rfl := address query rfl
    obtain ⟨pausedAt, since, laterAt⟩ := delayed.paused (loadPaused_eq_ok.mp foundAt)
    exact ⟨_, loadOptional_eq_ok.mpr (.inr ⟨_, _, rfl, rfl, loadPaused_eq_ok.mpr laterAt⟩),
      .some ⟨rfl, since⟩⟩

end Reading

/-! ## Writing -/

section Writing

variable {written : Pubkey} {before after : Account}

theorem set (delayed : early.Delayed key delay late) (subject : written.subject = some key)
    (same : Account.Delayed delay before after) :
    (early.set written before).Delayed key delay (late.set written after) := by
  constructor
  · exact delayed.bump
  · intro query elsewhere
    have different : query ≠ written := by
      rintro rfl
      exact elsewhere subject
    rw [set_account_of_ne _ _ different, set_account_of_ne _ _ different]
    exact delayed.outside query elsewhere
  · intro query own
    rw [set_account, set_account]
    split
    next => exact .some same
    next => exact delayed.owned query own

theorem set_outside (delayed : early.Delayed key delay late)
    (elsewhere : written.subject ≠ some key) :
    (early.set written before).Delayed key delay (late.set written before) := by
  constructor
  · exact delayed.bump
  · intro query outside
    rw [set_account, set_account]
    split
    next => rfl
    next => exact delayed.outside query outside
  · intro query own
    have different : query ≠ written := by
      rintro rfl
      exact elsewhere own
    rw [set_account_of_ne _ _ different, set_account_of_ne _ _ different]
    exact delayed.owned query own

theorem set_token (delayed : early.Delayed key delay late) {token : TokenAccount} :
    (early.set written (.token token)).Delayed key delay (late.set written (.token token)) := by
  by_cases subject : written.subject = some key
  · exact delayed.set subject .token
  · exact delayed.set_outside subject

theorem close (delayed : early.Delayed key delay late) :
    (early.close written).Delayed key delay (late.close written) := by
  constructor
  · exact delayed.bump
  · intro query elsewhere
    rw [close_account, close_account]
    split
    next => rfl
    next => exact delayed.outside query elsewhere
  · intro query own
    rw [close_account, close_account]
    split
    next => exact .none
    next => exact delayed.owned query own

theorem closeIfSome (delayed : early.Delayed key delay late) {slot : Option Pubkey} :
    (early.closeIfSome slot).Delayed key delay (late.closeIfSome slot) := by
  cases slot with
  | none => exact delayed
  | some written => exact delayed.close

theorem transfer (delayed : early.Delayed key delay late) {moved : Ledger}
    {source destination authority : Pubkey} {amount : UInt64}
    (transferred : early.transfer source destination authority amount = .ok moved) :
    ∃ later, late.transfer source destination authority amount = .ok later ∧
      moved.Delayed key delay later := by
  obtain ⟨sourceToken, destinationToken, sourceAt, destinationAt, funds, mints, owner,
    ⟨same, rfl⟩ | ⟨different, credited, sum, rfl⟩⟩ := transfer_eq_ok.mp transferred
  · exact ⟨late, transfer_eq_ok.mpr ⟨_, _, delayed.token sourceAt, delayed.token destinationAt,
      funds, mints, owner, .inl ⟨same, rfl⟩⟩, delayed⟩
  · exact ⟨_, transfer_eq_ok.mpr ⟨_, _, delayed.token sourceAt, delayed.token destinationAt,
      funds, mints, owner, .inr ⟨different, credited, sum, rfl⟩⟩,
      delayed.set_token.set_token⟩

theorem transferIfPositive (delayed : early.Delayed key delay late) {moved : Ledger}
    {source destination authority : Pubkey} {amount : UInt64}
    (transferred : Nakama.transferIfPositive early source destination authority amount =
      .ok moved) :
    ∃ later, Nakama.transferIfPositive late source destination authority amount = .ok later ∧
      moved.Delayed key delay later := by
  unfold Nakama.transferIfPositive at transferred ⊢
  by_cases positive : 0 < amount
  · rw [if_pos positive] at transferred ⊢
    exact delayed.transfer transferred
  · rw [if_neg positive] at transferred ⊢
    cases transferred
    exact ⟨late, rfl, delayed⟩

end Writing

end Ledger.Delayed

/-! ## The clock -/

section Clock

variable {delay : Int} {sub : Subscription Pubkey} {now later : Int64}
  {streamStart nextChargeAt createdAt lastChargeAt : Int64}

theorem subI64_delayed {moment since laterMoment laterSince : Int64}
    (momentEq : laterMoment.toInt = moment.toInt + delay)
    (sinceEq : laterSince.toInt = since.toInt + delay) :
    Checked.subI64 laterMoment laterSince = Checked.subI64 moment since := by
  unfold Checked.subI64
  congr 1
  omega

/-- The unlock formula reads the anchor in a difference with the moment. -/
theorem unlockedAt_delayed {overflow : NakamaError}
    (momentEq : later.toInt = now.toInt + delay)
    (anchor : streamStart.toInt = sub.streamStart.toInt + delay) :
    unlockedAt overflow { sub with streamStart, nextChargeAt, createdAt, lastChargeAt } later =
      unlockedAt overflow sub now := by
  simp only [unlockedAt, subI64_delayed momentEq anchor]

end Clock

/-- The clock is far enough from the end of `i64` that a period and a grace still fit. -/
structure Ledger.Roomy (ledger : Ledger) (planKey : Pubkey) (now : Int64) : Prop where
  period : ∀ plan, ledger.account planKey = some (.plan plan) →
    now.toInt + plan.period.toInt < 2 ^ 63
  grace : now.toInt + graceDuration.toInt < 2 ^ 63

theorem Ledger.Roomy.of_sub {ledger : Ledger} {subscriber planKey : Pubkey} {now : Int64}
    {sub : Subscription Pubkey} (room : ledger.Roomy planKey now)
    (wellFormed : ledger.WellFormed)
    (loaded : ledger.account (.sub subscriber planKey) = some (.subscription sub)) :
    now.toInt + sub.period.toInt < 2 ^ 63 := by
  obtain ⟨plan, planAt, _, period, _⟩ := wellFormed.sub_plan loaded
  rw [(wellFormed.sub_parties loaded).2] at planAt
  rw [period]
  exact room.period plan planAt

/-! ## Handlers -/

section Handlers

variable {subscriber planKey : Pubkey} {delay : Int} {early late : Ledger} {now later : Int64}
  {outcome : Outcome}

/-- The answer is a success with the same token movements, and the delay stays. -/
def Outcome.Delayed (key : Pubkey) (delay : Int) (outcome : Outcome)
    (answer : Except Error Outcome) : Prop :=
  ∃ delayed, answer = .ok delayed ∧ delayed.transfers = outcome.transfers ∧
    outcome.ledger.Delayed key delay delayed.ledger

theorem pause_delayed (delayed : early.Delayed (.sub subscriber planKey) delay late)
    (clock : later.toInt = now.toInt + delay) {accounts : Pause}
    (target : accounts.subscription = .sub subscriber planKey)
    (executed : pause early now accounts = .ok outcome) :
    outcome.Delayed (.sub subscriber planKey) delay (pause late later accounts) := by
  simp only [pause, Pause.tryAccounts, pauseHandler, bind_eq_ok, require_eq_ok, exists_const,
    loadSubscription_eq_ok, seeds, Ledger.vacant, seedsWithBump, pure_eq_ok,
    Int64.le_iff_toInt_le, target] at executed
  obtain ⟨_, ⟨sub, loaded, address, free, own, signed, rfl⟩, active, started, period, unlocked,
    unlocking, rfl⟩ := executed
  obtain ⟨streamStart, nextChargeAt, createdAt, lastChargeAt, anchor, found⟩ :=
    delayed.subscription loaded
  simp only [Outcome.Delayed, pause, Pause.tryAccounts, pauseHandler, bind_eq_ok, require_eq_ok,
    exists_const, loadSubscription_eq_ok, seeds, Ledger.vacant, seedsWithBump, pure_eq_ok,
    Int64.le_iff_toInt_le, target]
  rw [← @unlockedAt_delayed delay sub now later streamStart nextChargeAt createdAt lastChargeAt
    _ clock anchor] at unlocking
  refine ⟨_, ⟨_, ⟨_, found, address, delayed.vacant free, ?_, signed, rfl⟩, active, ?_, period,
    unlocked, unlocking, rfl⟩, rfl, ?_⟩
  · rw [delayed.bump]
    exact own
  · simp only
    omega
  · rw [address, delayed.bump]
    exact (delayed.set rfl (.paused clock)).set rfl (.subscription anchor)

/-- The shifted anchor is not after now, so that it is an `i64` on every clock. -/
theorem resume_delayed (delayed : early.Delayed (.sub subscriber planKey) delay late)
    (clock : later.toInt = now.toInt + delay)
    (sound : (early.view (.sub subscriber planKey)).Sound now) {accounts : Resume}
    (target : accounts.subscription = .sub subscriber planKey)
    (executed : resume early now accounts = .ok outcome) :
    outcome.Delayed (.sub subscriber planKey) delay (resume late later accounts) := by
  simp only [resume, Resume.tryAccounts, resumeHandler, bind_eq_ok, require_eq_ok, exists_const,
    loadSubscription_eq_ok, loadPaused_eq_ok, seedsWithBump, pure_eq_ok, okOr_eq_ok,
    Checked.addI64_eq_some, Int64.le_iff_toInt_le, target] at executed
  obtain ⟨_, ⟨sub, loaded, paused, pausedAt, own, signed, address, parent, rfl⟩, frozen, ordered,
    duration, durationSome, shifted, shiftedEq, rfl⟩ := executed
  dsimp only at frozen ordered durationSome shiftedEq ⊢
  have durationEq := Checked.subI64_eq_some.mp durationSome
  rw [address.1] at pausedAt
  have started : sub.streamStart.toInt ≤ paused.pausedAt.toInt := by
    obtain ⟨satellite, standing⟩ := sound.of_paused (view_subscription.mpr loaded) frozen
    cases standing.satellite.symm.trans (view_paused.mpr pausedAt)
    exact standing.started
  obtain ⟨streamStart, nextChargeAt, createdAt, lastChargeAt, anchor, found⟩ :=
    delayed.subscription loaded
  obtain ⟨since, sinceEq, satelliteAt⟩ := delayed.paused pausedAt
  have lower := streamStart.le_toInt
  have upper := later.toInt_lt
  obtain ⟨laterStart, laterStartSome⟩ := @Checked.exists_toI64
    (streamStart.toInt + duration.toInt) (by
      unfold Checked.FitsI64
      omega)
  have laterStartEq := Checked.toI64_eq_some.mp laterStartSome
  rw [← subI64_delayed clock sinceEq] at durationSome
  simp only [Outcome.Delayed, resume, Resume.tryAccounts, resumeHandler, bind_eq_ok,
    require_eq_ok, exists_const, loadSubscription_eq_ok, loadPaused_eq_ok, seedsWithBump,
    pure_eq_ok, okOr_eq_ok, Checked.addI64_eq_some, Int64.le_iff_toInt_le, target]
  refine ⟨_, ⟨_, ⟨_, found, { paused with pausedAt := since }, ?_, ?_, signed, ?_, parent,
    rfl⟩, frozen, ?_, duration, durationSome, laterStart, laterStartEq, rfl⟩, rfl, ?_⟩
  · rw [address.1]
    exact satelliteAt
  · rw [delayed.bump]
    exact own
  · rw [delayed.bump]
    exact address
  · simp only
    omega
  · apply Ledger.Delayed.close
    apply delayed.set rfl
    apply Account.Delayed.subscription
    dsimp only
    omega

/-- The branch of `top_up` that recovers from grace: the shifted anchor is not after now
either. -/
theorem topUpTail_delayed (clock : later.toInt = now.toInt + delay) {accounts : TopUp}
    {sub final : Subscription Pubkey} {graced laterGraced : Option (GracedSubscription Pubkey)}
    {amount : UInt64} {events : List Event}
    {streamStart nextChargeAt createdAt lastChargeAt : Int64}
    (anchor : streamStart.toInt = sub.streamStart.toInt + delay)
    (satellites : Option.Rel (GracedSubscription.Delayed delay) graced laterGraced)
    (started : ∀ satellite, sub.state = .gracePeriod → graced = some satellite →
      sub.streamStart.toInt ≤ satellite.enteredGraceAt.toInt)
    (executed : topUpTail now accounts sub graced amount = .ok (final, events)) :
    ∃ laterFinal laterEvents,
      topUpTail later accounts { sub with streamStart, nextChargeAt, createdAt, lastChargeAt }
        laterGraced amount = .ok (laterFinal, laterEvents) ∧
      Account.Delayed delay (.subscription final) (.subscription laterFinal) := by
  unfold topUpTail at executed ⊢
  by_cases grace : sub.state = .gracePeriod
  · rw [if_pos grace] at executed ⊢
    simp only [recoverFromGrace, bind_eq_ok, okOr_eq_ok, require_eq_ok, exists_const,
      pure_eq_ok, Int64.le_iff_toInt_le, Checked.addI64_eq_some, Prod.mk.injEq] at executed ⊢
    obtain ⟨_, ⟨satellite, rfl, entered, duration, durationSome, shifted, shiftedEq, rfl⟩, rfl,
      _⟩ := executed
    cases satellites with
    | @some _ laterSatellite same =>
        have durationEq := Checked.subI64_eq_some.mp durationSome
        have before := started satellite grace rfl
        have sameEntered := same.entered
        have lower := streamStart.le_toInt
        have upper := later.toInt_lt
        obtain ⟨laterStart, laterStartSome⟩ := @Checked.exists_toI64
          (streamStart.toInt + duration.toInt) (by
            unfold Checked.FitsI64
            omega)
        have laterStartEq := Checked.toI64_eq_some.mp laterStartSome
        rw [← subI64_delayed clock sameEntered] at durationSome
        refine ⟨_, _, ⟨_, ⟨laterSatellite, rfl, by omega, duration, durationSome, laterStart,
          laterStartEq, rfl⟩, rfl, rfl⟩, ?_⟩
        apply Account.Delayed.subscription
        dsimp only
        omega
  · rw [if_neg grace] at executed ⊢
    cases executed
    exact ⟨_, _, rfl, .subscription anchor⟩

theorem topUp_delayed (delayed : early.Delayed (.sub subscriber planKey) delay late)
    (clock : later.toInt = now.toInt + delay)
    (sound : (early.view (.sub subscriber planKey)).Sound now) {accounts : TopUp}
    {amount : UInt64} (target : accounts.subscription = .sub subscriber planKey)
    (executed : topUp early now accounts amount = .ok outcome) :
    outcome.Delayed (.sub subscriber planKey) delay (topUp late later accounts amount) := by
  simp only [topUp, TopUp.tryAccounts, topUpHandler, bind_eq_ok, require_eq_ok, exists_const,
    loadSubscription_eq_ok, loadToken_eq_ok, seedsIfSome_eq_ok, seedsWithBump, requireMint,
    requireAuthority, pure_eq_ok, okOr_eq_ok, Prod.exists, Prod.mk.injEq, target] at executed
  obtain ⟨_, _, ⟨sub, loaded, graced, gracedLoaded, vault, vaultAt, ata, ataAt, own, signed,
    slot, vaultOwn, mint, owner, ataMint, ataOwner, rfl, rfl⟩, positive, live, required, funded,
    transferred, deposited, depositedEq, final, events, tail, rfl⟩ := executed
  obtain ⟨streamStart, nextChargeAt, createdAt, lastChargeAt, anchor, found⟩ :=
    delayed.subscription loaded
  obtain ⟨laterGraced, laterLoaded, satellites⟩ := delayed.loadGraced slot gracedLoaded
  obtain ⟨laterFunded, laterTransferred, fundedDelayed⟩ := delayed.transfer transferred
  have started : ∀ satellite, sub.state = .gracePeriod → graced = some satellite →
      sub.streamStart.toInt ≤ satellite.enteredGraceAt.toInt := by
    rintro satellite grace rfl
    obtain ⟨recorded, drained⟩ := sound.of_grace (view_subscription.mpr loaded) grace
    rcases loadOptional_eq_ok.mp gracedLoaded with ⟨_, absent⟩ | ⟨query, _, attached, same, at_⟩
    · cases absent
    · cases same
      obtain rfl := slot query attached
      cases drained.satellite.symm.trans (view_graced.mpr (loadGraced_eq_ok.mp at_))
      exact drained.started
  obtain ⟨laterFinal, laterEvents, laterTail, finalDelayed⟩ :=
    @topUpTail_delayed delay now later clock accounts { sub with depositedAmount := deposited }
      final graced laterGraced amount events streamStart nextChargeAt createdAt lastChargeAt
      anchor satellites started tail
  simp only [Outcome.Delayed, topUp, TopUp.tryAccounts, topUpHandler, bind_eq_ok,
    require_eq_ok, exists_const, loadSubscription_eq_ok, loadToken_eq_ok, seedsIfSome_eq_ok,
    seedsWithBump, requireMint, requireAuthority, pure_eq_ok, okOr_eq_ok, Prod.exists,
    Prod.mk.injEq, target]
  refine ⟨_, ⟨_, _, ⟨_, found, laterGraced, laterLoaded, vault, delayed.token vaultAt, ata,
    delayed.token ataAt, ?_, signed, slot, ?_, mint, owner, ataMint, ataOwner, rfl, rfl⟩,
    positive, live, ?_, laterFunded, laterTransferred, deposited, depositedEq, laterFinal,
    laterEvents, laterTail, rfl⟩, rfl, ?_⟩
  · rw [delayed.bump]
    exact own
  · rw [delayed.bump]
    exact vaultOwn
  · intro grace
    cases satellites with
    | none => exact absurd (required grace) (by simp)
    | some => rfl
  · exact (fundedDelayed.set rfl finalDelayed).closeIfSome

/-- The tail of `charge`: the end of grace moves with the clock. -/
theorem chargeTail_delayed (delayed : early.Delayed (.sub subscriber planKey) delay late)
    (clock : later.toInt = now.toInt + delay)
    (room : later.toInt + graceDuration.toInt < 2 ^ 63) {accounts : Charge}
    (target : accounts.subscription = .sub subscriber planKey)
    (slot : ∀ query, accounts.gracedSubscription = some query →
      query = .grace (.sub subscriber planKey))
    {sub : Subscription Pubkey} {final : Ledger} {events : List Event}
    {streamStart nextChargeAt createdAt lastChargeAt : Int64}
    (anchor : streamStart.toInt = sub.streamStart.toInt + delay)
    (executed : chargeTail early now accounts sub = .ok (final, events)) :
    ∃ laterFinal laterEvents,
      chargeTail late later accounts
        { sub with streamStart, nextChargeAt, createdAt, lastChargeAt } =
          .ok (laterFinal, laterEvents) ∧
      final.Delayed (.sub subscriber planKey) delay laterFinal := by
  unfold chargeTail at executed ⊢
  rw [target] at executed ⊢
  by_cases exhausted : sub.withdrawnAmount = sub.depositedAmount
  · rw [if_pos exhausted] at executed ⊢
    simp only [bind_eq_ok, okOr_eq_ok, pure_eq_ok, Checked.addI64_eq_some,
      Prod.mk.injEq] at executed ⊢
    obtain ⟨graceUntil, untilEq, graceKey, attached, rfl, _⟩ := executed
    obtain rfl := slot graceKey attached
    have lower := later.le_toInt
    have duration : 0 ≤ graceDuration.toInt := by decide
    obtain ⟨laterUntil, laterUntilSome⟩ := @Checked.exists_toI64
      (later.toInt + graceDuration.toInt) (by
        unfold Checked.FitsI64
        omega)
    have laterUntilEq := Checked.toI64_eq_some.mp laterUntilSome
    refine ⟨_, _, ⟨laterUntil, laterUntilEq, _, attached, rfl, rfl⟩, ?_⟩
    exact (delayed.set rfl (.graced clock (by dsimp only; omega))).set rfl
      (.subscription anchor)
  · rw [if_neg exhausted] at executed ⊢
    simp only [bind_eq_ok, require_eq_ok, exists_const, pure_eq_ok, Prod.mk.injEq]
      at executed ⊢
    obtain ⟨noSatellite, rfl, _⟩ := executed
    exact ⟨_, _, ⟨noSatellite, rfl, rfl⟩, delayed.set rfl (.subscription anchor)⟩

theorem Charge.tryAccounts_delayed
    (delayed : early.Delayed (.sub subscriber planKey) delay late) {accounts : Charge}
    (target : accounts.subscription = .sub subscriber planKey) {sub : Subscription Pubkey}
    (passed : accounts.tryAccounts early = .ok sub) :
    early.account (.sub subscriber planKey) = some (.subscription sub) ∧
      (∀ query, accounts.gracedSubscription = some query →
        query = .grace (.sub subscriber planKey)) ∧
      ∃ streamStart nextChargeAt createdAt lastChargeAt : Int64,
        streamStart.toInt = sub.streamStart.toInt + delay ∧
        accounts.tryAccounts late =
          .ok { sub with streamStart, nextChargeAt, createdAt, lastChargeAt } := by
  simp only [Charge.tryAccounts, bind_eq_ok, require_eq_ok, exists_const,
    loadSubscription_eq_ok, loadPlan_eq_ok, loadToken_eq_ok, seedsWithBump, seedsIfSome_eq_ok,
    vacantIfSome_eq_ok, requireMint, requireAuthority, pure_eq_ok, target] at passed
  obtain ⟨_, loaded, plan, planAt, vault, vaultAt, ata, ataAt, slot, free, own, samePlan,
    vaultOwn, mint, owner, destination, ataMint, rfl⟩ := passed
  obtain ⟨streamStart, nextChargeAt, createdAt, lastChargeAt, anchor, found⟩ :=
    delayed.subscription loaded
  refine ⟨loaded, slot, streamStart, nextChargeAt, createdAt, lastChargeAt, anchor, ?_⟩
  simp only [Charge.tryAccounts, bind_eq_ok, require_eq_ok, exists_const,
    loadSubscription_eq_ok, loadPlan_eq_ok, loadToken_eq_ok, seedsWithBump, seedsIfSome_eq_ok,
    vacantIfSome_eq_ok, requireMint, requireAuthority, pure_eq_ok, target, delayed.bump]
  exact ⟨_, found, plan, delayed.plan planAt, vault, delayed.token vaultAt, ata,
    delayed.token ataAt, slot, fun query attached => delayed.vacant (free query attached), own,
    samePlan, vaultOwn, mint, owner, destination, ataMint, rfl⟩

theorem charge_delayed (delayed : early.Delayed (.sub subscriber planKey) delay late)
    (clock : later.toInt = now.toInt + delay) (wellFormed : early.WellFormed)
    (room : early.Roomy planKey later) {accounts : Charge}
    (target : accounts.subscription = .sub subscriber planKey)
    (executed : charge early now accounts = .ok outcome) :
    outcome.Delayed (.sub subscriber planKey) delay (charge late later accounts) := by
  obtain ⟨sub, passed, handled⟩ := bind_eq_ok.mp executed
  obtain ⟨loaded, slot, streamStart, nextChargeAt, createdAt, lastChargeAt, anchor,
    laterPassed⟩ := Charge.tryAccounts_delayed delayed target passed
  simp only [chargeHandler, bind_eq_ok, require_eq_ok, exists_const, pure_eq_ok, okOr_eq_ok,
    Int64.le_iff_toInt_le, Int64.lt_iff_toInt_lt, Int64.toInt_zero, Prod.exists] at handled
  obtain ⟨active, started, period, unlocked, unlocking, claimable, claimableSome, positive, paid,
    transferred, withdrawn, withdrawnSome, hint, _, final, events, tail, rfl⟩ := handled
  obtain ⟨laterPaid, laterTransferred, paidDelayed⟩ := delayed.transfer transferred
  rw [← @unlockedAt_delayed delay sub now later streamStart nextChargeAt createdAt lastChargeAt
    _ clock anchor] at unlocking
  have laterStarted : streamStart.toInt ≤ later.toInt := by omega
  obtain ⟨fits, unlockedEq⟩ := (@unlockedAt_eq_ok Pubkey .mathOverflow
    { sub with streamStart, nextChargeAt, createdAt, lastChargeAt } later unlocked laterStarted
    period).mp unlocking
  have claimableEq := Checked.subU64_eq_some.mp claimableSome
  have withdrawnEq := Checked.addU64_eq_some.mp withdrawnSome
  have rate := wellFormed.sub_rate loaded
  have periodRoom := room.of_sub wellFormed loaded
  obtain ⟨laterHint, laterHinted, _⟩ := @nextChargeHint_exact
    { sub with streamStart, nextChargeAt, createdAt, lastChargeAt } later withdrawn fits
    laterStarted period (by dsimp only; omega) (by omega) periodRoom
  obtain ⟨laterFinal, laterEvents, laterTail, finalDelayed⟩ :=
    @chargeTail_delayed _ _ delay paid laterPaid now later paidDelayed clock room.grace accounts
      target slot
      { sub with withdrawnAmount := withdrawn, lastChargeAt := now, nextChargeAt := hint }
      final events streamStart laterHint createdAt later anchor tail
  simp only [Outcome.Delayed, charge, chargeHandler, bind_eq_ok, require_eq_ok, exists_const,
    pure_eq_ok, okOr_eq_ok, Int64.le_iff_toInt_le, Int64.lt_iff_toInt_lt, Int64.toInt_zero,
    Prod.exists]
  exact ⟨_, ⟨_, laterPassed, active, laterStarted, period, unlocked, unlocking, claimable,
    claimableSome, positive, laterPaid, laterTransferred, withdrawn, withdrawnSome, laterHint,
    laterHinted, laterFinal, laterEvents, laterTail, rfl⟩, rfl, finalDelayed⟩

theorem SettleUsage.tryAccounts_delayed
    (delayed : early.Delayed (.sub subscriber planKey) delay late) {accounts : SettleUsage}
    (target : accounts.parent = .sub subscriber planKey) {parent : Subscription Pubkey}
    {session : PaySession Pubkey}
    (passed : accounts.tryAccounts early = .ok (parent, session)) :
    accounts.paySession = .paySession (.sub subscriber planKey) session.sessionId ∧
      ∃ streamStart nextChargeAt createdAt lastChargeAt openedAt lastSettleAt : Int64,
        streamStart.toInt = parent.streamStart.toInt + delay ∧
        accounts.tryAccounts late =
          .ok ({ parent with streamStart, nextChargeAt, createdAt, lastChargeAt },
            { session with openedAt, lastSettleAt }) := by
  simp only [SettleUsage.tryAccounts, bind_eq_ok, require_eq_ok, exists_const,
    loadSubscription_eq_ok, loadPaySession_eq_ok, loadToken_eq_ok, seedsWithBump, requireMint,
    requireAuthority, pure_eq_ok, Prod.mk.injEq, target] at passed
  obtain ⟨_, loaded, _, sessionAt, vault, vaultAt, ata, ataAt, own, sessionOwn, sessionParent,
    facilitator, vaultOwn, mint, owner, destination, ataMint, rfl, rfl⟩ := passed
  obtain ⟨streamStart, nextChargeAt, createdAt, lastChargeAt, anchor, found⟩ :=
    delayed.subscription loaded
  obtain ⟨openedAt, lastSettleAt, sessionFound⟩ := delayed.paySession sessionAt
  refine ⟨sessionOwn.1, streamStart, nextChargeAt, createdAt, lastChargeAt, openedAt,
    lastSettleAt, anchor, ?_⟩
  simp only [SettleUsage.tryAccounts, bind_eq_ok, require_eq_ok, exists_const,
    loadSubscription_eq_ok, loadPaySession_eq_ok, loadToken_eq_ok, seedsWithBump, requireMint,
    requireAuthority, pure_eq_ok, Prod.mk.injEq, target, delayed.bump]
  exact ⟨_, found, _, sessionFound, vault, delayed.token vaultAt, ata, delayed.token ataAt, own,
    sessionOwn, sessionParent, facilitator, vaultOwn, mint, owner, destination, ataMint, rfl,
    rfl⟩

theorem settleUsage_delayed (delayed : early.Delayed (.sub subscriber planKey) delay late)
    (clock : later.toInt = now.toInt + delay) {accounts : SettleUsage} {amount : UInt64}
    (target : accounts.parent = .sub subscriber planKey)
    (executed : settleUsage early now accounts amount = .ok outcome) :
    outcome.Delayed (.sub subscriber planKey) delay
      (settleUsage late later accounts amount) := by
  obtain ⟨⟨parent, session⟩, passed, handled⟩ := bind_eq_ok.mp executed
  obtain ⟨sessionAddress, streamStart, nextChargeAt, createdAt, lastChargeAt, openedAt,
    lastSettleAt, anchor, laterPassed⟩ := SettleUsage.tryAccounts_delayed delayed target passed
  simp only [settleUsageHandler, bind_eq_ok, require_eq_ok, exists_const, pure_eq_ok,
    okOr_eq_ok, Int64.le_iff_toInt_le] at handled
  obtain ⟨positive, active, opened, checked, capped, started, period, unlocked, unlocking,
    remaining, remainingSome, within, paid, transferred, withdrawn, withdrawnSome, usage,
    usageSome, rfl⟩ := handled
  obtain ⟨laterPaid, laterTransferred, paidDelayed⟩ := delayed.transfer transferred
  rw [← @unlockedAt_delayed delay parent now later streamStart nextChargeAt createdAt
    lastChargeAt _ clock anchor] at unlocking
  have laterStarted : streamStart.toInt ≤ later.toInt := by omega
  simp only [Outcome.Delayed, settleUsage, settleUsageHandler, bind_eq_ok, require_eq_ok,
    exists_const, pure_eq_ok, okOr_eq_ok, Int64.le_iff_toInt_le]
  refine ⟨_, ⟨_, laterPassed, positive, active, opened, checked, capped, laterStarted, period,
    unlocked, unlocking, remaining, remainingSome, within, laterPaid, laterTransferred,
    withdrawn, withdrawnSome, usage, usageSome, rfl⟩, rfl, ?_⟩
  rw [target, sessionAddress]
  apply Ledger.Delayed.set
  · apply paidDelayed.set rfl
    exact .subscription anchor
  · rfl
  · exact .paySession

theorem openSession_delayed (delayed : early.Delayed (.sub subscriber planKey) delay late)
    {accounts : OpenSession} {sessionId reservationCap : UInt64} {facilitator : Pubkey}
    (target : accounts.parent = .sub subscriber planKey)
    (executed : openSession early now accounts sessionId facilitator reservationCap =
      .ok outcome) :
    outcome.Delayed (.sub subscriber planKey) delay
      (openSession late later accounts sessionId facilitator reservationCap) := by
  simp only [openSession, OpenSession.tryAccounts, openSessionHandler, bind_eq_ok,
    require_eq_ok, exists_const, loadSubscription_eq_ok, seeds, Ledger.vacant, seedsWithBump,
    pure_eq_ok, okOr_eq_ok, target] at executed
  obtain ⟨_, ⟨parent, loaded, address, free, own, signed, rfl⟩, active, remaining,
    remainingSome, cap, rfl⟩ := executed
  obtain ⟨streamStart, nextChargeAt, createdAt, lastChargeAt, anchor, found⟩ :=
    delayed.subscription loaded
  simp only [Outcome.Delayed, openSession, OpenSession.tryAccounts, openSessionHandler,
    bind_eq_ok, require_eq_ok, exists_const, loadSubscription_eq_ok, seeds, Ledger.vacant,
    seedsWithBump, pure_eq_ok, okOr_eq_ok, target, delayed.bump]
  refine ⟨_, ⟨_, ⟨_, found, address, delayed.vacant free, own, signed, rfl⟩, active, remaining,
    remainingSome, cap, rfl⟩, rfl, ?_⟩
  rw [OpenSession.newSession, OpenSession.newSession, delayed.bump, address]
  exact delayed.set rfl .paySession

theorem closeSession_delayed (delayed : early.Delayed (.sub subscriber planKey) delay late)
    {accounts : CloseSession} (target : accounts.parent = .sub subscriber planKey)
    (executed : closeSession early now accounts = .ok outcome) :
    outcome.Delayed (.sub subscriber planKey) delay (closeSession late later accounts) := by
  simp only [closeSession, CloseSession.tryAccounts, closeSessionHandler, bind_eq_ok,
    require_eq_ok, exists_const, loadSubscription_eq_ok, loadPaySession_eq_ok, seedsWithBump,
    pure_eq_ok, target] at executed
  obtain ⟨_, ⟨parent, loaded, session, sessionAt, own, signed, sessionOwn, sessionParent, rfl⟩,
    opened, rfl⟩ := executed
  obtain ⟨streamStart, nextChargeAt, createdAt, lastChargeAt, anchor, found⟩ :=
    delayed.subscription loaded
  obtain ⟨openedAt, lastSettleAt, sessionFound⟩ := delayed.paySession sessionAt
  simp only [Outcome.Delayed, closeSession, CloseSession.tryAccounts, closeSessionHandler,
    bind_eq_ok, require_eq_ok, exists_const, loadSubscription_eq_ok, loadPaySession_eq_ok,
    seedsWithBump, pure_eq_ok, target, delayed.bump]
  exact ⟨_, ⟨_, ⟨_, found, _, sessionFound, own, signed, sessionOwn, sessionParent, rfl⟩, opened,
    rfl⟩, rfl, delayed.close⟩

theorem cleanup_delayed (delayed : early.Delayed (.sub subscriber planKey) delay late)
    {accounts : Cleanup} (target : accounts.subscription = .sub subscriber planKey)
    (executed : cleanup early now accounts = .ok outcome) :
    outcome.Delayed (.sub subscriber planKey) delay (cleanup late later accounts) := by
  simp only [cleanup, Cleanup.tryAccounts, cleanupHandler, bind_eq_ok, require_eq_ok,
    exists_const, loadSubscription_eq_ok, seedsWithBump, pure_eq_ok, target] at executed
  obtain ⟨_, ⟨sub, loaded, signed, own, rfl⟩, ended, rfl⟩ := executed
  obtain ⟨streamStart, nextChargeAt, createdAt, lastChargeAt, anchor, found⟩ :=
    delayed.subscription loaded
  simp only [Outcome.Delayed, cleanup, Cleanup.tryAccounts, cleanupHandler, bind_eq_ok,
    require_eq_ok, exists_const, loadSubscription_eq_ok, seedsWithBump, pure_eq_ok, target,
    delayed.bump]
  exact ⟨_, ⟨_, ⟨_, found, signed, own, rfl⟩, ended, rfl⟩, rfl, delayed.close⟩

/-- The settlement moment moves with the clock, whichever of the three it is. -/
theorem effectiveNow_delayed (clock : later.toInt = now.toInt + delay)
    {sub laterSub : Subscription Pubkey}
    {graced laterGraced : Option (GracedSubscription Pubkey)}
    {paused laterPaused : Option (PausedSubscription Pubkey)} {moment : Int64}
    (sameState : laterSub.state = sub.state)
    (graces : Option.Rel (GracedSubscription.Delayed delay) graced laterGraced)
    (pauses : Option.Rel (PausedSubscription.Delayed delay) paused laterPaused)
    (effective : effectiveNow now ⟨sub, graced, paused⟩ = .ok moment) :
    ∃ laterMoment, effectiveNow later ⟨laterSub, laterGraced, laterPaused⟩ = .ok laterMoment ∧
      laterMoment.toInt = moment.toInt + delay := by
  unfold effectiveNow at effective ⊢
  dsimp only at effective ⊢
  rw [sameState]
  cases state : sub.state with
  | active =>
      rw [state] at effective
      cases effective
      exact ⟨later, rfl, clock⟩
  | gracePeriod =>
      simp only [state, bind_eq_ok, okOr_eq_ok, pure_eq_ok] at effective ⊢
      obtain ⟨satellite, rfl, rfl⟩ := effective
      cases graces with
      | @some _ laterSatellite same =>
          refine ⟨_, ⟨laterSatellite, rfl, rfl⟩, ?_⟩
          have untilEq := same.untilEq
          rw [Checked.toInt_min, Checked.toInt_min]
          omega
  | paused =>
      simp only [state, bind_eq_ok, okOr_eq_ok, pure_eq_ok] at effective ⊢
      obtain ⟨satellite, rfl, rfl⟩ := effective
      cases pauses with
      | @some _ laterSatellite same => exact ⟨_, ⟨laterSatellite, rfl, rfl⟩, same.since⟩
  | exhausted => simp only [state] at effective; cases effective
  | cancelled => simp only [state] at effective; cases effective

theorem Cancel.tryAccounts_delayed
    (delayed : early.Delayed (.sub subscriber planKey) delay late) {accounts : Cancel}
    (target : accounts.subscription = .sub subscriber planKey) {loaded : Cancel.Loaded}
    (passed : accounts.tryAccounts early = .ok loaded) :
    ∃ laterLoaded, accounts.tryAccounts late = .ok laterLoaded ∧
      Account.Delayed delay (.subscription loaded.subscription)
        (.subscription laterLoaded.subscription) ∧
      Option.Rel (GracedSubscription.Delayed delay) loaded.graced laterLoaded.graced ∧
      Option.Rel (PausedSubscription.Delayed delay) loaded.paused laterLoaded.paused := by
  simp only [Cancel.tryAccounts, bind_eq_ok, require_eq_ok, exists_const,
    loadSubscription_eq_ok, loadToken_eq_ok, distinctMut_eq_ok, seedsIfSome_eq_ok,
    seedsWithBump, requireMint, requireAuthority, pure_eq_ok, target] at passed
  obtain ⟨sub, subAt, vault, vaultAt, ata, ataAt, subscriberAta, subscriberAtaAt, graced,
    gracedLoaded, paused, pausedLoaded, distinct, own, sameSubscriber, vaultOwn, mint, owner,
    destination, ataMint, subscriberMint, subscriberOwner, graceSlot, pausedSlot, parent,
    rfl⟩ := passed
  obtain ⟨streamStart, nextChargeAt, createdAt, lastChargeAt, anchor, found⟩ :=
    delayed.subscription subAt
  obtain ⟨laterGraced, laterGracedLoaded, graces⟩ := delayed.loadGraced graceSlot gracedLoaded
  obtain ⟨laterPaused, laterPausedLoaded, pauses⟩ := delayed.loadPaused pausedSlot pausedLoaded
  simp only [Cancel.tryAccounts, bind_eq_ok, require_eq_ok, exists_const,
    loadSubscription_eq_ok, loadToken_eq_ok, distinctMut_eq_ok, seedsIfSome_eq_ok,
    seedsWithBump, requireMint, requireAuthority, pure_eq_ok, target, delayed.bump]
  refine ⟨_, ⟨_, found, vault, delayed.token vaultAt, ata, delayed.token ataAt, subscriberAta,
    delayed.token subscriberAtaAt, laterGraced, laterGracedLoaded, laterPaused,
    laterPausedLoaded, distinct, own, sameSubscriber, vaultOwn, mint, owner, destination, ataMint,
    subscriberMint, subscriberOwner, graceSlot, pausedSlot, ?_, rfl⟩, .subscription anchor,
    graces, pauses⟩
  intro satellite member
  cases pauses with
  | none => cases member
  | some same =>
      cases member
      rw [same.subscription]
      exact parent _ rfl

theorem cancel_delayed (delayed : early.Delayed (.sub subscriber planKey) delay late)
    (clock : later.toInt = now.toInt + delay) {accounts : Cancel}
    (target : accounts.subscription = .sub subscriber planKey)
    (executed : cancel early now accounts = .ok outcome) :
    outcome.Delayed (.sub subscriber planKey) delay (cancel late later accounts) := by
  obtain ⟨⟨sub, graced, paused⟩, passed, handled⟩ := bind_eq_ok.mp executed
  obtain ⟨⟨laterSub, laterGraced, laterPaused⟩, laterPassed, same, graces, pauses⟩ :=
    Cancel.tryAccounts_delayed delayed target passed
  dsimp only at same graces pauses
  cases same with
  | @subscription _ streamStart nextChargeAt createdAt lastChargeAt anchor =>
      simp only [cancelHandler, bind_eq_ok, require_eq_ok, exists_const, pure_eq_ok, okOr_eq_ok,
        Int64.le_iff_toInt_le] at handled
      obtain ⟨signed, running, current, period, moment, effective, started, unlocked, unlocking,
        claimable, claimableSome, refund, refundSome, settled, settlement, refunded, refunding,
        withdrawn, withdrawnSome, closed, closing, rfl⟩ := handled
      obtain ⟨laterMoment, laterEffective, momentEq⟩ := @effectiveNow_delayed delay now later
        clock sub { sub with streamStart, nextChargeAt, createdAt, lastChargeAt } graced
        laterGraced paused laterPaused moment rfl graces pauses effective
      obtain ⟨laterSettled, laterSettlement, settledDelayed⟩ :=
        delayed.transferIfPositive settlement
      obtain ⟨laterRefunded, laterRefunding, refundedDelayed⟩ :=
        settledDelayed.transferIfPositive refunding
      obtain ⟨token, tokenAt, empty, owned, rfl⟩ := closeToken_eq_ok.mp closing
      have laterClosing := closeToken_eq_ok.mpr
        ⟨token, refundedDelayed.token tokenAt, empty, owned, rfl⟩
      rw [← @unlockedAt_delayed delay sub moment laterMoment streamStart nextChargeAt createdAt
        lastChargeAt _ momentEq anchor] at unlocking
      have laterCurrent : streamStart.toInt ≤ later.toInt := by omega
      have laterStarted : streamStart.toInt ≤ laterMoment.toInt := by omega
      simp only [Outcome.Delayed, cancel, cancelHandler, bind_eq_ok, require_eq_ok,
        exists_const, pure_eq_ok, okOr_eq_ok, Int64.le_iff_toInt_le]
      refine ⟨_, ⟨_, laterPassed, signed, running, laterCurrent, period, laterMoment,
        laterEffective, laterStarted, unlocked, unlocking, claimable, claimableSome, refund,
        refundSome, laterSettled, laterSettlement, laterRefunded, laterRefunding, withdrawn,
        withdrawnSome, _, laterClosing, rfl⟩, rfl, ?_⟩
      rw [target]
      apply Ledger.Delayed.closeIfSome
      apply Ledger.Delayed.closeIfSome
      apply refundedDelayed.close.set rfl
      exact .subscription anchor

theorem createPlan_delayed (delayed : early.Delayed (.sub subscriber planKey) delay late)
    {accounts : CreatePlan} {planId price : UInt64} {period : Int64}
    (executed : createPlan early now accounts planId price period = .ok outcome) :
    outcome.Delayed (.sub subscriber planKey) delay
      (createPlan late later accounts planId price period) := by
  simp only [createPlan, CreatePlan.tryAccounts, createPlanHandler, bind_eq_ok, require_eq_ok,
    exists_const, loadMint_eq_ok, loadToken_eq_ok, seeds, Ledger.vacant, requireMint,
    requireAuthority, pure_eq_ok] at executed
  obtain ⟨⟨mint, ata, ataAt, address, free, whitelisted, ataMint, ataOwner⟩, positive, priced,
    rfl⟩ := executed
  simp only [Outcome.Delayed, createPlan, CreatePlan.tryAccounts, createPlanHandler, bind_eq_ok,
    require_eq_ok, exists_const, loadMint_eq_ok, loadToken_eq_ok, seeds, Ledger.vacant,
    requireMint, requireAuthority, pure_eq_ok]
  refine ⟨_, ⟨⟨delayed.mint mint, ata, delayed.token ataAt, address, delayed.vacant free,
    whitelisted, ataMint, ataOwner⟩, positive, priced, rfl⟩, rfl, ?_⟩
  rw [CreatePlan.newPlan, CreatePlan.newPlan, delayed.bump]
  apply delayed.set_outside
  rw [address]
  simp [Pubkey.subject]

theorem subscribe_delayed (delayed : early.Delayed (.sub subscriber planKey) delay late)
    (clock : later.toInt = now.toInt + delay) (room : early.Roomy planKey later)
    {accounts : Subscribe} {periodsToPrefund : UInt8}
    (target : accounts.subscription = .sub subscriber planKey)
    (executed : subscribe early now accounts periodsToPrefund = .ok outcome) :
    outcome.Delayed (.sub subscriber planKey) delay
      (subscribe late later accounts periodsToPrefund) := by
  simp only [subscribe, Subscribe.tryAccounts, subscribeHandler, bind_eq_ok, require_eq_ok,
    exists_const, loadPlan_eq_ok, loadMint_eq_ok, loadToken_eq_ok, seeds, seedsWithBump,
    Ledger.vacant, requireMint, requireAuthority, pure_eq_ok, okOr_eq_ok,
    Checked.addI64_eq_some, Int64.lt_iff_toInt_lt, Int64.toInt_zero, target] at executed
  obtain ⟨_, ⟨plan, planAt, mint, ata, ataAt, address, free, vaultAddress, vaultFree, planOwn,
    sameMint, ataMint, ataOwner, rfl⟩, distinct, period, periods, rate, rateSome, ratePositive,
    deposited, depositedSome, funded, funding, hint, hintEq, rfl⟩ := executed
  obtain ⟨laterFunded, laterFunding, fundedDelayed⟩ := delayed.set_token.transfer funding
  have planKeyEq : planKey = accounts.plan := (Pubkey.sub.injEq .. ▸ address).2
  have periodRoom := room.period plan (planKeyEq ▸ planAt)
  have lower := later.le_toInt
  obtain ⟨laterHint, laterHintSome⟩ := @Checked.exists_toI64
    (later.toInt + plan.period.toInt) (by
      unfold Checked.FitsI64
      omega)
  have laterHintEq := Checked.toI64_eq_some.mp laterHintSome
  simp only [Outcome.Delayed, subscribe, Subscribe.tryAccounts, subscribeHandler, bind_eq_ok,
    require_eq_ok, exists_const, loadPlan_eq_ok, loadMint_eq_ok, loadToken_eq_ok, seeds,
    seedsWithBump, Ledger.vacant, requireMint, requireAuthority, pure_eq_ok, okOr_eq_ok,
    Checked.addI64_eq_some, Int64.lt_iff_toInt_lt, Int64.toInt_zero, target, delayed.bump]
  refine ⟨_, ⟨_, ⟨plan, delayed.plan planAt, delayed.mint mint, ata, delayed.token ataAt,
    address, delayed.vacant free, vaultAddress, delayed.vacant vaultFree, planOwn, sameMint,
    ataMint, ataOwner, rfl⟩, distinct, period, periods, rate, rateSome, ratePositive, deposited,
    depositedSome, laterFunded, laterFunding, laterHint, laterHintEq, rfl⟩, rfl, ?_⟩
  rw [Subscribe.newSubscription, Subscribe.newSubscription, delayed.bump]
  apply fundedDelayed.set rfl
  exact .subscription clock

/-- SPL Token has no clock. -/
theorem spl_delayed (delayed : early.Delayed (.sub subscriber planKey) delay late)
    {instruction : SplInstruction} (executed : instruction.execute early = .ok outcome) :
    outcome.Delayed (.sub subscriber planKey) delay (instruction.execute late) := by
  unfold Outcome.Delayed
  cases instruction with
  | transfer source destination authority amount =>
      simp only [SplInstruction.execute, bind_eq_ok, pure_eq_ok] at executed ⊢
      obtain ⟨moved, transferred, rfl⟩ := executed
      obtain ⟨laterMoved, laterTransferred, movedDelayed⟩ := delayed.transfer transferred
      exact ⟨_, ⟨laterMoved, laterTransferred, rfl⟩, rfl, movedDelayed⟩
  | setOwner account authority owner =>
      simp only [SplInstruction.execute, setOwner, bind_eq_ok, require_eq_ok, exists_const,
        loadToken_eq_ok, pure_eq_ok] at executed ⊢
      obtain ⟨_, ⟨token, found, owned, rfl⟩, rfl⟩ := executed
      exact ⟨_, ⟨_, ⟨token, delayed.token found, owned, rfl⟩, rfl⟩, rfl, delayed.set_token⟩
  | closeAccount account authority =>
      simp only [SplInstruction.execute, bind_eq_ok, pure_eq_ok, closeToken_eq_ok]
        at executed ⊢
      obtain ⟨_, ⟨token, found, empty, owned, rfl⟩, rfl⟩ := executed
      exact ⟨_, ⟨_, ⟨token, delayed.token found, empty, owned, rfl⟩, rfl⟩, rfl, delayed.close⟩
  | createAccount account mint owner =>
      simp only [SplInstruction.execute, createToken, Ledger.vacant, bind_eq_ok, require_eq_ok,
        exists_const, loadMint_eq_ok, pure_eq_ok] at executed ⊢
      obtain ⟨_, ⟨outside, free, mintAt, rfl⟩, rfl⟩ := executed
      exact ⟨_, ⟨_, ⟨outside, delayed.vacant free, delayed.mint mintAt, rfl⟩, rfl⟩, rfl,
        delayed.set_token⟩

/-- Every action on the subscription, and every action that is about none. -/
theorem action_delayed (delayed : early.Delayed (.sub subscriber planKey) delay late)
    (clock : later.toInt = now.toInt + delay) (wellFormed : early.WellFormed)
    (sound : (early.view (.sub subscriber planKey)).Sound now)
    (room : early.Roomy planKey later) {action : Action}
    (concerns : ∀ key ∈ action.subscription?, key = .sub subscriber planKey)
    (executed : action.execute early now = .ok outcome) :
    outcome.Delayed (.sub subscriber planKey) delay (action.execute late later) := by
  cases action with
  | spl instruction => exact spl_delayed delayed executed
  | program instruction =>
      cases instruction with
      | createPlan => exact createPlan_delayed delayed executed
      | subscribe => exact subscribe_delayed delayed clock room (concerns _ rfl) executed
      | charge =>
          exact charge_delayed delayed clock wellFormed room (concerns _ rfl) executed
      | cancel => exact cancel_delayed delayed clock (concerns _ rfl) executed
      | cleanup => exact cleanup_delayed delayed (concerns _ rfl) executed
      | topUp => exact topUp_delayed delayed clock sound (concerns _ rfl) executed
      | openSession => exact openSession_delayed delayed (concerns _ rfl) executed
      | closeSession => exact closeSession_delayed delayed (concerns _ rfl) executed
      | settleUsage => exact settleUsage_delayed delayed clock (concerns _ rfl) executed
      | pause => exact pause_delayed delayed clock (concerns _ rfl) executed
      | resume => exact resume_delayed delayed clock sound (concerns _ rfl) executed

end Handlers

/-! ## Along runs -/

namespace Chain

/-- The token movements of a transaction, when it succeeds. -/
def movements (chain : Chain) (tx : Tx) : Option (List Transfer) :=
  match tx.action.execute chain.ledger tx.now with
  | .ok outcome => some outcome.transfers
  | .error _ => none

theorem movements_of_ok {chain : Chain} {now : Int64} {action : Action} {outcome : Outcome}
    (executed : action.execute chain.ledger now = .ok outcome) :
    chain.movements ⟨now, action⟩ = some outcome.transfers := by
  simp only [movements, executed]

theorem movements_of_error {chain : Chain} {now : Int64} {action : Action} {refusal : Error}
    (refused : action.execute chain.ledger now = .error refusal) :
    chain.movements ⟨now, action⟩ = none := by
  simp only [movements, refused]

variable {early late : Chain} {subscriber planKey : Pubkey} {delay : Int}

/-- A transaction succeeds on both chains or on neither, with the same token movements, and
the delay stays. -/
theorem step_delayed
    (delayed : early.ledger.Delayed (.sub subscriber planKey) delay late.ledger)
    (earlyInvariant : early.Invariant) (lateInvariant : late.Invariant)
    (nonneg : 0 ≤ delay) {tx laterTx : Tx} (sameAction : laterTx.action = tx.action)
    (clock : laterTx.now.toInt = tx.now.toInt + delay)
    (earlyOrdered : early.clock.toInt ≤ tx.now.toInt)
    (lateOrdered : late.clock.toInt ≤ laterTx.now.toInt)
    (concerns : ∀ key ∈ tx.action.subscription?, key = .sub subscriber planKey)
    (room : late.ledger.Roomy planKey laterTx.now) :
    late.movements laterTx = early.movements tx ∧
      (early.step tx).ledger.Delayed (.sub subscriber planKey) delay
        (late.step laterTx).ledger := by
  have earlyRoom : early.ledger.Roomy planKey laterTx.now := by
    constructor
    · intro plan planAt
      exact room.period plan (delayed.plan planAt)
    · exact room.grace
  have lateRoom : late.ledger.Roomy planKey tx.now := by
    constructor
    · intro plan planAt
      have bound := room.period plan planAt
      omega
    · have bound := room.grace
      omega
  have forth := fun outcome => @action_delayed subscriber planKey delay early.ledger
    late.ledger tx.now laterTx.now outcome delayed clock earlyInvariant.wellFormed
    ((earlyInvariant.sound subscriber planKey).advance earlyOrdered) earlyRoom tx.action concerns
  have back := fun outcome => @action_delayed subscriber planKey (-delay) late.ledger
    early.ledger laterTx.now tx.now outcome delayed.symm (by omega) lateInvariant.wellFormed
    ((lateInvariant.sound subscriber planKey).advance lateOrdered) lateRoom tx.action concerns
  unfold movements
  rw [sameAction]
  cases executed : tx.action.execute early.ledger tx.now with
  | ok outcome =>
      obtain ⟨laterOutcome, laterExecuted, sameTransfers, stays⟩ := forth outcome executed
      rw [step_of_ok executed, step_of_ok (sameAction ▸ laterExecuted), laterExecuted]
      exact ⟨congrArg some sameTransfers, stays⟩
  | error refusal =>
      cases laterExecuted : tx.action.execute late.ledger laterTx.now with
      | ok laterOutcome =>
          obtain ⟨outcome, succeeded, _⟩ := back laterOutcome laterExecuted
          rw [executed] at succeeded
          cases succeeded
      | error laterRefusal =>
          rw [step_of_error executed, step_of_error (sameAction ▸ laterExecuted)]
          exact ⟨rfl, delayed⟩

end Chain

end Nakama
