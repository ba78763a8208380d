import Nakama.Refinement.View

/-!
# The program refines the per-subscription steps

Every successful action is, for every subscription, one of the steps of
`View.Step`: the handlers' effect when the action is about that subscription, a
donation when it is a foreign transfer into the vault, and nothing otherwise.
-/

namespace Nakama

open Guard Ledger

/-! ## Actions on other subscriptions -/

section Frame

variable {ledger : Ledger} {now : Int64} {outcome : Outcome}
  {subscriber planKey other : Pubkey}

private theorem external_elsewhere {key : Pubkey} (outside : key.isExternal = true) :
    key.subject ≠ some (.sub subscriber planKey) := by
  rw [Pubkey.subject_of_external outside]
  simp

private theorem sub_elsewhere {owner plan : Pubkey} (address : other = .sub owner plan)
    (different : other ≠ .sub subscriber planKey) :
    other.subject ≠ some (.sub subscriber planKey) := by
  subst address
  simpa [Pubkey.subject] using different

private theorem derived_elsewhere {key : Pubkey} (subject : key.subject = some other)
    (different : other ≠ .sub subscriber planKey) :
    key.subject ≠ some (.sub subscriber planKey) := by
  rw [subject]
  simpa using different

private theorem transferIfPositive_view_elsewhere {moved : Ledger}
    {source destination authority : Pubkey} {amount : UInt64}
    (transferred : transferIfPositive ledger source destination authority amount =
      .ok moved)
    (sourceElsewhere : source.subject ≠ some (.sub subscriber planKey))
    (destinationElsewhere : destination.subject ≠ some (.sub subscriber planKey)) :
    moved.view (.sub subscriber planKey) = ledger.view (.sub subscriber planKey) := by
  unfold transferIfPositive at transferred
  split at transferred
  next => exact transfer_view_of_subject transferred sourceElsewhere destinationElsewhere
  next =>
    cases transferred
    rfl

private theorem closeIfSome_view_elsewhere {key : Option Pubkey}
    (elsewhere : ∀ address, key = some address →
      address.subject ≠ some (.sub subscriber planKey)) :
    (ledger.closeIfSome key).view (.sub subscriber planKey) =
      ledger.view (.sub subscriber planKey) := by
  cases key with
  | none => rfl
  | some address => exact close_view_of_subject (elsewhere address rfl)

private theorem session_ata_external (wellFormed : ledger.WellFormed)
    {parent paySession : Pubkey} {sub : Subscription Pubkey} {session : PaySession Pubkey}
    (address : parent = .sub sub.subscriber sub.plan)
    (sessionAddress : paySession = .paySession parent session.sessionId)
    (sessionLoaded : ledger.account paySession = some (.paySession session)) :
    session.merchantAta.isExternal = true := by
  rw [sessionAddress, address] at sessionLoaded
  obtain ⟨plan, planAt, payee⟩ := wellFormed.session_plan sessionLoaded
  rw [payee]
  exact wellFormed.plan_ata planAt

/-- An instruction on another subscription leaves the view alone. -/
theorem effect_view_other (wellFormed : ledger.WellFormed) {instruction : Instruction}
    (effect : Effect ledger now instruction outcome)
    (elsewhere : instruction.subscription? ≠ some (.sub subscriber planKey)) :
    outcome.ledger.view (.sub subscriber planKey) = ledger.view (.sub subscriber planKey) := by
  cases effect with
  | createPlan address =>
      apply set_view_of_subject
      rw [address]
      simp [Pubkey.subject]
  | @subscribe accounts _ _ ata _ _ _ _ _ _ address _ vaultAddress _ _ ataLoaded ataOwner _ _ _ _
      _ funding =>
      have different : accounts.subscription ≠ .sub subscriber planKey := by
        simpa [Instruction.subscription?] using elsewhere
      have outside := wellFormed.token_external ataLoaded ataOwner accounts.subscriber.signs
      have vaultElsewhere := derived_elsewhere (congrArg Pubkey.subject vaultAddress) different
      dsimp only
      rw [set_view_of_subject (sub_elsewhere address different),
        transfer_view_of_subject funding (external_elsewhere outside) vaultElsewhere,
        set_view_of_subject vaultElsewhere]
  | @charge accounts _ _ _ _ _ _ loaded address vaultAddress destination _ _ _ _ _ _
      transferred =>
      have different : accounts.subscription ≠ .sub subscriber planKey := by
        simpa [Instruction.subscription?] using elsewhere
      have outside : accounts.merchantAta.isExternal = true := by
        rw [destination]
        exact wellFormed.sub_merchantAta loaded
      dsimp only
      rw [set_view_of_subject (sub_elsewhere address different),
        transfer_view_of_subject transferred
          (derived_elsewhere (congrArg Pubkey.subject vaultAddress) different)
          (external_elsewhere outside)]
  | @exhaust accounts _ _ _ _ _ _ loaded address vaultAddress destination _ _ _ _ _ _
      transferred =>
      have different : accounts.subscription ≠ .sub subscriber planKey := by
        simpa [Instruction.subscription?] using elsewhere
      have outside : accounts.merchantAta.isExternal = true := by
        rw [destination]
        exact wellFormed.sub_merchantAta loaded
      dsimp only
      rw [set_view_of_subject (sub_elsewhere address different),
        set_view_of_subject (derived_elsewhere rfl different),
        transfer_view_of_subject transferred
          (derived_elsewhere (congrArg Pubkey.subject vaultAddress) different)
          (external_elsewhere outside)]
  | @settleUsage accounts _ _ _ _ _ _ _ loaded address sessionLoaded sessionAddress _ _
      vaultAddress destination _ _ _ _ _ _ _ _ _ transferred =>
      have different : accounts.parent ≠ .sub subscriber planKey := by
        simpa [Instruction.subscription?] using elsewhere
      have outside : accounts.merchantAta.isExternal = true := by
        rw [destination]
        exact session_ata_external wellFormed address sessionAddress sessionLoaded
      dsimp only
      rw [set_view_of_subject
          (derived_elsewhere (congrArg Pubkey.subject sessionAddress) different),
        set_view_of_subject (sub_elsewhere address different),
        transfer_view_of_subject transferred
          (derived_elsewhere (congrArg Pubkey.subject vaultAddress) different)
          (external_elsewhere outside)]
  | @topUp accounts _ _ _ _ _ _ loaded address signed vaultAddress ataLoaded ataOwner _ _ _
      transferred slot =>
      have different : accounts.subscription ≠ .sub subscriber planKey := by
        simpa [Instruction.subscription?] using elsewhere
      have outside := wellFormed.token_external ataLoaded ataOwner accounts.subscriber.signs
      dsimp only
      rw [closeIfSome_view_elsewhere, set_view_of_subject (sub_elsewhere address different),
        transfer_view_of_subject transferred (external_elsewhere outside)
          (derived_elsewhere (congrArg Pubkey.subject vaultAddress) different)]
      intro satellite attached
      exact derived_elsewhere (congrArg Pubkey.subject (slot satellite attached).1) different
  | @recover accounts _ _ _ _ _ _ _ _ loaded address signed vaultAddress ataLoaded ataOwner _ _
      _ transferred =>
      have different : accounts.subscription ≠ .sub subscriber planKey := by
        simpa [Instruction.subscription?] using elsewhere
      have outside := wellFormed.token_external ataLoaded ataOwner accounts.subscriber.signs
      dsimp only
      rw [close_view_of_subject (derived_elsewhere rfl different),
        set_view_of_subject (sub_elsewhere address different),
        transfer_view_of_subject transferred (external_elsewhere outside)
          (derived_elsewhere (congrArg Pubkey.subject vaultAddress) different)]
  | @pause accounts _ _ loaded address =>
      have different : accounts.subscription ≠ .sub subscriber planKey := by
        simpa [Instruction.subscription?] using elsewhere
      dsimp only
      rw [set_view_of_subject (sub_elsewhere address different),
        set_view_of_subject (derived_elsewhere rfl different)]
  | @resume accounts _ _ _ _ loaded address =>
      have different : accounts.subscription ≠ .sub subscriber planKey := by
        simpa [Instruction.subscription?] using elsewhere
      dsimp only
      rw [close_view_of_subject (derived_elsewhere rfl different),
        set_view_of_subject (sub_elsewhere address different)]
  | @cancel accounts _ _ _ _ _ _ _ _ _ _ loaded address _ vaultAddress destination ataLoaded
      ataOwner graceSlot pausedSlot _ _ _ _ _ _ settlement refunding closing =>
      have different : accounts.subscription ≠ .sub subscriber planKey := by
        simpa [Instruction.subscription?] using elsewhere
      have vaultElsewhere := derived_elsewhere (congrArg Pubkey.subject vaultAddress) different
      have merchantOutside : accounts.merchantAta.isExternal = true := by
        rw [destination]
        exact wellFormed.sub_merchantAta loaded
      have subscriberOutside := wellFormed.token_external ataLoaded ataOwner
        (wellFormed.sub_subscriber loaded)
      obtain ⟨_, _, _, _, rfl⟩ := closeToken_eq_ok.mp closing
      dsimp only
      rw [closeIfSome_view_elsewhere, closeIfSome_view_elsewhere,
        set_view_of_subject (sub_elsewhere address different),
        close_view_of_subject vaultElsewhere,
        transferIfPositive_view_elsewhere refunding vaultElsewhere
          (external_elsewhere subscriberOutside),
        transferIfPositive_view_elsewhere settlement vaultElsewhere
          (external_elsewhere merchantOutside)]
      · intro satellite attached
        exact derived_elsewhere (congrArg Pubkey.subject (graceSlot satellite attached))
          different
      · intro satellite attached
        exact derived_elsewhere (congrArg Pubkey.subject (pausedSlot satellite attached))
          different
  | @cleanup accounts _ _ loaded address =>
      have different : accounts.subscription ≠ .sub subscriber planKey := by
        simpa [Instruction.subscription?] using elsewhere
      exact close_view_of_subject (sub_elsewhere address different)
  | @openSession accounts _ _ _ _ _ loaded address _ sessionAddress =>
      have different : accounts.parent ≠ .sub subscriber planKey := by
        simpa [Instruction.subscription?] using elsewhere
      exact set_view_of_subject
        (derived_elsewhere (congrArg Pubkey.subject sessionAddress) different)
  | @closeSession accounts _ _ _ loaded address _ _ sessionAddress =>
      have different : accounts.parent ≠ .sub subscriber planKey := by
        simpa [Instruction.subscription?] using elsewhere
      exact close_view_of_subject
        (derived_elsewhere (congrArg Pubkey.subject sessionAddress) different)

private theorem volume_of_slot {transfer : Transfer} {vault : Pubkey}
    (slot : transfer.vaultSlot ≠ vault) : volume vault [transfer] = 0 := by
  rw [volume_singleton, if_neg slot]

/-- An instruction on another subscription moves nothing through the vault. -/
theorem effect_volume_other {instruction : Instruction}
    (effect : Effect ledger now instruction outcome)
    (elsewhere : instruction.subscription? ≠ some other) :
    volume (.vault other) outcome.transfers = 0 := by
  have foreign : ∀ {parent vault : Pubkey}, vault = .vault parent →
      some parent ≠ some other → vault ≠ .vault other := by
    rintro parent vault rfl different same
    cases same
    exact different rfl
  cases effect with
  | createPlan => rfl
  | subscribe _ _ _ vaultAddress => exact volume_of_slot (foreign vaultAddress elsewhere)
  | charge _ _ vaultAddress => exact volume_of_slot (foreign vaultAddress elsewhere)
  | exhaust _ _ vaultAddress => exact volume_of_slot (foreign vaultAddress elsewhere)
  | settleUsage _ _ _ _ _ _ vaultAddress =>
      exact volume_of_slot (foreign vaultAddress elsewhere)
  | topUp _ _ _ vaultAddress => exact volume_of_slot (foreign vaultAddress elsewhere)
  | recover _ _ _ vaultAddress => exact volume_of_slot (foreign vaultAddress elsewhere)
  | pause => rfl
  | resume => rfl
  | cancel _ _ _ vaultAddress =>
      have slot := foreign vaultAddress elsewhere
      dsimp only
      rw [volume_append, volume_transferredIfPositive, volume_transferredIfPositive,
        volume_of_slot, volume_of_slot, add_zero]
      · exact slot
      · exact slot
  | cleanup => rfl
  | openSession => rfl
  | closeSession => rfl

end Frame

/-! ## Actions on the subscription itself -/

section Target

variable {ledger : Ledger} {now : Int64} {outcome : Outcome} {subscriber planKey : Pubkey}

/-- A settlement or refund of `cancel`: the vault that is there afterwards was there
before, with the amount on top. -/
theorem transferIfPositive_view_debit {moved : Ledger}
    {destination authority : Pubkey} {amount : UInt64} {after : TokenAccount}
    (outside : destination.isExternal = true)
    (transferred : transferIfPositive ledger (.vault (.sub subscriber planKey)) destination
      authority amount = .ok moved)
    (left : (moved.view (.sub subscriber planKey)).vault = some after) :
    ∃ before, (ledger.view (.sub subscriber planKey)).vault = some before ∧
      before.amount.toNat = amount.toNat + after.amount.toNat ∧
      moved.view (.sub subscriber planKey) =
        { ledger.view (.sub subscriber planKey) with vault := some after } := by
  unfold transferIfPositive at transferred
  split at transferred
  next =>
    obtain ⟨token, remaining, found, remainingEq, moves⟩ :=
      transfer_view_debit outside transferred
    rw [moves, Option.some.injEq] at left
    subst left
    exact ⟨token, found, by simp only; omega, moves⟩
  next nothing =>
    cases transferred
    have zero : amount.toNat = 0 := by
      simpa [UInt64.lt_iff_toNat_lt] using nothing
    refine ⟨after, left, by omega, ?_⟩
    rw [← left]

theorem settlesAt_view {accounts : Cancel} {state : SubscriptionState}
    {moment : Int64} (settles : SettlesAt ledger now accounts state moment) :
    (ledger.view accounts.subscription).SettlesAt now state moment := by
  cases settles with
  | active => exact .active
  | grace _ satellite => exact .grace (view_graced.mpr satellite)
  | paused _ satellite => exact .paused (view_paused.mpr satellite)

private theorem closeIfSome_view_graced {slot : Option Pubkey}
    (address : ∀ key, slot = some key → key = .grace (.sub subscriber planKey)) :
    (ledger.closeIfSome slot).view (.sub subscriber planKey) =
      { ledger.view (.sub subscriber planKey) with
        graced := if slot.isSome then none
          else (ledger.view (.sub subscriber planKey)).graced } := by
  cases slot with
  | none => rfl
  | some key =>
      rw [address key rfl, closeIfSome, close_view_graced]
      rfl

private theorem closeIfSome_view_paused {slot : Option Pubkey}
    (address : ∀ key, slot = some key → key = .pausedSub (.sub subscriber planKey)) :
    (ledger.closeIfSome slot).view (.sub subscriber planKey) =
      { ledger.view (.sub subscriber planKey) with
        paused := if slot.isSome then none
          else (ledger.view (.sub subscriber planKey)).paused } := by
  cases slot with
  | none => rfl
  | some key =>
      rw [address key rfl, closeIfSome, close_view_paused]
      rfl

/-- The two payments of `cancel` and the closing of the vault: the vault held exactly
what was paid out. -/
private theorem cancel_view_vault {settled refunded closed : Ledger}
    {merchantAta subscriberAta authority : Pubkey} {claimable refund : UInt64}
    (merchantOutside : merchantAta.isExternal = true)
    (subscriberOutside : subscriberAta.isExternal = true)
    (settlement : transferIfPositive ledger (.vault (.sub subscriber planKey)) merchantAta
      authority claimable = .ok settled)
    (refunding : transferIfPositive settled (.vault (.sub subscriber planKey)) subscriberAta
      authority refund = .ok refunded)
    (closing : refunded.closeToken (.vault (.sub subscriber planKey)) authority =
      .ok closed) :
    ∃ vault, (ledger.view (.sub subscriber planKey)).vault = some vault ∧
      vault.amount.toNat = claimable.toNat + refund.toNat ∧
      closed.view (.sub subscriber planKey) =
        { ledger.view (.sub subscriber planKey) with vault := none } := by
  obtain ⟨emptied, loaded, empty, _, rfl⟩ := closeToken_eq_ok.mp closing
  obtain ⟨left, leftAt, leftEq, refundedView⟩ :=
    transferIfPositive_view_debit subscriberOutside refunding (view_vault.mpr loaded)
  obtain ⟨vault, vaultAt, vaultEq, settledView⟩ :=
    transferIfPositive_view_debit merchantOutside settlement leftAt
  refine ⟨vault, vaultAt, ?_, ?_⟩
  · rw [empty, UInt64.toNat_zero] at leftEq
    omega
  · rw [close_view_vault, refundedView, settledView]

/-- An instruction on the subscription is one of its steps. -/
theorem effect_view_target (wellFormed : ledger.WellFormed) {instruction : Instruction}
    (effect : Effect ledger now instruction outcome)
    (target : instruction.subscription? = some (.sub subscriber planKey)) :
    View.Step (.sub subscriber planKey) now (.program instruction)
      (ledger.view (.sub subscriber planKey)) (outcome.ledger.view (.sub subscriber planKey))
      (volume (.vault (.sub subscriber planKey)) outcome.transfers) := by
  cases effect with
  | createPlan => cases target
  | @subscribe accounts periods plan ata nextChargeAt deposited rate funded events planLoaded
      address vacant vaultAddress vaultVacant mint ataLoaded ataOwner periodPositive rateEq
      ratePositive depositedEq periodsPositive funding hint =>
      simp only [Instruction.subscription?, Option.some.injEq] at target
      have outside := wellFormed.token_external ataLoaded ataOwner accounts.subscriber.signs
      rw [target] at vaultAddress vacant
      rw [vaultAddress] at funding vaultVacant
      obtain ⟨token, credited, found, creditedEq, moves⟩ :=
        transfer_view_credit outside funding
      rw [set_view_vault, Option.some.injEq] at found
      subst found
      dsimp only
      rw [target, set_view_subscription, moves, set_view_vault, vaultAddress, volume_deposit]
      have positive : 0 < plan.price.toNat := by
        cases wellFormed _ _ planLoaded with
        | plan _ _ _ price => exact price
      refine .subscribe target rfl rfl ?_ ?_ rfl ⟨rfl, rfl⟩ rfl ?_ depositedEq ?_
      · simp [view, vacant]
      · simp [view, vaultVacant]
      · apply UInt64.toNat_inj.mp
        simpa [Subscribe.emptyVault, Subscribe.newSubscription] using creditedEq
      · change 0 < deposited.toNat
        rw [depositedEq]
        exact Nat.mul_pos positive periodsPositive
  | @charge accounts sub claimable withdrawn nextChargeAt paid events loaded address
      vaultAddress destination active started periodPositive withdrawnEq unlocked positive
      transferred hint healthy noSatellite =>
      simp only [Instruction.subscription?, Option.some.injEq] at target
      have outside := wellFormed.sub_merchantAta loaded
      rw [target] at vaultAddress loaded
      rw [vaultAddress, destination] at transferred
      obtain ⟨token, remaining, found, remainingEq, moves⟩ :=
        transfer_view_debit outside transferred
      dsimp only
      rw [target, set_view_subscription, moves, vaultAddress, volume_settlement]
      exact .charge target (view_subscription.mpr loaded) found active started withdrawnEq
        unlocked remainingEq healthy
  | @exhaust accounts sub claimable nextChargeAt graceUntil paid events loaded address
      vaultAddress destination active started periodPositive withdrawnEq unlocked positive
      transferred hint slot satelliteVacant untilEq =>
      simp only [Instruction.subscription?, Option.some.injEq] at target
      have outside := wellFormed.sub_merchantAta loaded
      rw [target] at vaultAddress loaded satelliteVacant
      rw [vaultAddress, destination] at transferred
      obtain ⟨token, remaining, found, remainingEq, moves⟩ :=
        transfer_view_debit outside transferred
      dsimp only
      rw [target, set_view_subscription, set_view_graced, moves, vaultAddress,
        volume_settlement]
      refine .exhaust target (view_subscription.mpr loaded) found ?_ active started
        withdrawnEq unlocked remainingEq untilEq
      simp [view, satelliteVacant]
  | @settleUsage accounts amount parent session withdrawn usage paid events loaded address
      sessionLoaded sessionAddress sessionParent facilitator vaultAddress destination active
      opened started periodPositive positive withdrawnEq unlocked usageEq cap transferred =>
      simp only [Instruction.subscription?, Option.some.injEq] at target
      have outside := session_ata_external wellFormed address sessionAddress sessionLoaded
      rw [target] at vaultAddress loaded sessionAddress
      rw [sessionAddress] at sessionLoaded
      rw [vaultAddress, destination] at transferred
      obtain ⟨token, remaining, found, remainingEq, moves⟩ :=
        transfer_view_debit outside transferred
      dsimp only
      rw [target, sessionAddress, set_view_session, set_view_subscription, moves,
        vaultAddress, volume_settlement]
      exact .settleUsage target sessionAddress (view_subscription.mpr loaded) found
        (view_session.mpr sessionLoaded) active started withdrawnEq unlocked remainingEq
        usageEq cap
  | @topUp accounts amount deposited sub ata funded events loaded address signed vaultAddress
      ataLoaded ataOwner running positive depositedEq transferred slot =>
      simp only [Instruction.subscription?, Option.some.injEq] at target
      have outside := wellFormed.token_external ataLoaded ataOwner accounts.subscriber.signs
      rw [target] at vaultAddress loaded slot
      rw [vaultAddress] at transferred
      obtain ⟨token, credited, found, creditedEq, moves⟩ :=
        transfer_view_credit outside transferred
      dsimp only
      rw [target, vaultAddress, volume_deposit]
      -- The slot is only accepted with the satellite in it, which then goes.
      cases attached : accounts.gracedSubscription with
      | none =>
          rw [closeIfSome, set_view_subscription, moves]
          exact .topUp target signed (view_subscription.mpr loaded) found running positive
            depositedEq creditedEq id
      | some satellite =>
          obtain ⟨rfl, _⟩ := slot satellite attached
          rw [closeIfSome, close_view_graced, set_view_subscription, moves]
          exact .topUp target signed (view_subscription.mpr loaded) found running positive
            depositedEq creditedEq (fun _ => rfl)
  | @recover accounts amount deposited sub graced ata streamStart funded events loaded address
      signed vaultAddress ataLoaded ataOwner grace positive depositedEq transferred slot
      satellite entered shifted =>
      simp only [Instruction.subscription?, Option.some.injEq] at target
      have outside := wellFormed.token_external ataLoaded ataOwner accounts.subscriber.signs
      rw [target] at vaultAddress loaded satellite
      rw [vaultAddress] at transferred
      obtain ⟨token, credited, found, creditedEq, moves⟩ :=
        transfer_view_credit outside transferred
      dsimp only
      rw [target, close_view_graced, set_view_subscription, moves, vaultAddress,
        volume_deposit]
      exact .recover target signed (view_subscription.mpr loaded) found
        (view_graced.mpr satellite) grace positive depositedEq creditedEq entered shifted
  | pause loaded address signed satelliteAddress satelliteVacant active started =>
      simp only [Instruction.subscription?, Option.some.injEq] at target
      rw [target] at loaded satelliteVacant
      dsimp only
      rw [target, set_view_subscription, set_view_paused]
      refine .pause target signed (view_subscription.mpr loaded) ?_ active started
      simp [view, satelliteVacant]
  | resume loaded address signed satelliteAddress satellite frozen ordered shifted =>
      simp only [Instruction.subscription?, Option.some.injEq] at target
      rw [target] at loaded satellite
      dsimp only
      rw [target, close_view_paused, set_view_subscription]
      exact .resume target signed (view_subscription.mpr loaded) (view_paused.mpr satellite)
        frozen ordered shifted
  | @cancel accounts sub ata moment claimable refund withdrawn settled refunded closed events
      loaded address signed vaultAddress destination ataLoaded ataOwner graceSlot pausedSlot
      settles started periodPositive withdrawnEq unlocked refundEq settlement refunding
      closing =>
      simp only [Instruction.subscription?, Option.some.injEq] at target
      have merchantOutside := wellFormed.sub_merchantAta loaded
      have subscriberOutside := wellFormed.token_external ataLoaded ataOwner
        (wellFormed.sub_subscriber loaded)
      have settlesView := settlesAt_view settles
      rw [target] at vaultAddress loaded graceSlot pausedSlot settlesView
      rw [vaultAddress, destination] at settlement
      rw [vaultAddress] at refunding closing
      obtain ⟨vault, found, emptied, moves⟩ := cancel_view_vault merchantOutside
        subscriberOutside settlement refunding closing
      dsimp only
      rw [target, closeIfSome_view_paused pausedSlot, closeIfSome_view_graced graceSlot,
        set_view_subscription, moves, vaultAddress, volume_append,
        volume_transferredIfPositive, volume_transferredIfPositive, volume_settlement,
        volume_refund]
      refine .cancel target signed (view_subscription.mpr loaded) found settlesView started
        withdrawnEq unlocked refundEq emptied ?_ ?_
      · rintro (absent | grace)
        · simp [absent]
        · rw [grace] at settles
          cases settles with
          | grace slot => simp [slot]
      · rintro (absent | frozen)
        · simp [absent]
        · rw [frozen] at settles
          cases settles with
          | paused slot => simp [slot]
  | cleanup loaded address signed ended =>
      simp only [Instruction.subscription?, Option.some.injEq] at target
      rw [target] at loaded
      dsimp only
      rw [target, close_view_subscription]
      exact .cleanup target signed (view_subscription.mpr loaded) ended
  | openSession loaded address signed sessionAddress vacant active cap =>
      simp only [Instruction.subscription?, Option.some.injEq] at target
      rw [target] at loaded sessionAddress
      rw [sessionAddress] at vacant
      dsimp only
      rw [sessionAddress, set_view_session]
      refine .openSession target sessionAddress signed (view_subscription.mpr loaded) ?_ active
        cap rfl rfl rfl
      simp [view, vacant]
  | closeSession loaded address signed sessionLoaded sessionAddress =>
      simp only [Instruction.subscription?, Option.some.injEq] at target
      rw [target] at loaded sessionAddress
      rw [sessionAddress] at sessionLoaded
      dsimp only
      rw [sessionAddress, close_view_session]
      exact .closeSession target sessionAddress signed (view_subscription.mpr loaded)
        (view_session.mpr sessionLoaded)

end Target

/-! ## Every action -/

section Actions

variable {ledger : Ledger} {now : Int64} {outcome : Outcome} {subscriber planKey : Pubkey}

private theorem spl_view_step (wellFormed : ledger.WellFormed)
    {instruction : SplInstruction} (executed : instruction.execute ledger = .ok outcome) :
    View.Step (.sub subscriber planKey) now (.spl instruction)
      (ledger.view (.sub subscriber planKey)) (outcome.ledger.view (.sub subscriber planKey))
      (volume (.vault (.sub subscriber planKey)) outcome.transfers) := by
  have quiet : (Action.spl instruction).subscription? ≠ some (.sub subscriber planKey) := by
    simp [Action.subscription?]
  cases instruction with
  | transfer source destination authority amount =>
      simp only [SplInstruction.execute, bind_eq_ok, pure_eq_ok] at executed
      obtain ⟨moved, transferred, rfl⟩ := executed
      obtain ⟨token, _, loaded, received, _, _, owned, _⟩ := transfer_eq_ok.mp transferred
      have outside := wellFormed.token_external loaded owned authority.signs
      dsimp only
      by_cases intoVault : destination = .vault (.sub subscriber planKey)
      · subst intoVault
        obtain ⟨vault, credited, found, creditedEq, moves⟩ :=
          transfer_view_credit outside transferred
        rw [moves, volume_foreign]
        exact .donate found creditedEq
      · rw [transfer_view_of_subject transferred, volume_of_slot]
        · exact .other quiet
        · exact intoVault
        · exact external_elsewhere outside
        · -- The only token account of a subscription is its vault.
          cases wellFormed destination _ received with
          | vault address =>
              rw [address]
              simpa [Pubkey.subject, address] using intoVault
          | token outsideToo => exact external_elsewhere outsideToo
  | setOwner account authority owner =>
      simp only [SplInstruction.execute, setOwner, bind_eq_ok, require_eq_ok, exists_const,
        loadToken_eq_ok, pure_eq_ok] at executed
      obtain ⟨_, ⟨token, loaded, owned, rfl⟩, rfl⟩ := executed
      have outside := wellFormed.token_external loaded owned authority.signs
      dsimp only
      rw [set_view_of_subject (external_elsewhere outside)]
      exact .other quiet
  | closeAccount account authority =>
      simp only [SplInstruction.execute, bind_eq_ok, pure_eq_ok] at executed
      obtain ⟨closed, closing, rfl⟩ := executed
      obtain ⟨token, loaded, _, owned, rfl⟩ := closeToken_eq_ok.mp closing
      have outside := wellFormed.token_external loaded owned authority.signs
      dsimp only
      rw [close_view_of_subject (external_elsewhere outside)]
      exact .other quiet
  | createAccount account mint owner =>
      simp only [SplInstruction.execute, createToken, vacant, bind_eq_ok, require_eq_ok,
        exists_const, pure_eq_ok] at executed
      obtain ⟨_, ⟨outside, _, _, _, rfl⟩, rfl⟩ := executed
      dsimp only
      rw [set_view_of_subject (external_elsewhere outside)]
      exact .other quiet

/-- Every successful action is a step of every subscription. -/
theorem action_view_step (wellFormed : ledger.WellFormed) {action : Action}
    (executed : action.execute ledger now = .ok outcome) :
    View.Step (.sub subscriber planKey) now action (ledger.view (.sub subscriber planKey))
      (outcome.ledger.view (.sub subscriber planKey))
      (volume (.vault (.sub subscriber planKey)) outcome.transfers) := by
  cases action with
  | spl instruction => exact spl_view_step wellFormed executed
  | program instruction =>
      have effect := execute_effect executed
      by_cases target : instruction.subscription? = some (.sub subscriber planKey)
      · exact effect_view_target wellFormed effect target
      · rw [effect_view_other wellFormed effect target, effect_volume_other effect target]
        exact .other target

end Actions

end Nakama
