import Nakama.Refinement.Payees

/-!
# The books balance

The movements that an outcome lists are all that happened to balances: every
account holds what it held before, less what the list takes from it and plus what
the list brings.
-/

namespace Nakama

open Guard Ledger

/-- Units in the token account at an address. -/
def Ledger.units (ledger : Ledger) (key : Pubkey) : Nat :=
  match ledger.account key with
  | some (.token token) => token.amount.toNat
  | _ => 0

/-- Token accounts may be at this address. -/
def Pubkey.isHolder : Pubkey → Bool
  | .external _ | .vault _ => true
  | _ => false

theorem Pubkey.isHolder_of_external {key : Pubkey} (outside : key.isExternal = true) :
    key.isHolder = true := by
  cases key with
  | external => rfl
  | _ => cases outside

/-- What the transfers take from an account. -/
def debits (key : Pubkey) (transfers : List Transfer) : Nat :=
  (transfers.map fun transfer =>
    if transfer.source = key then transfer.amount.toNat else 0).sum

/-- What the transfers bring to an account. -/
def credits (key : Pubkey) (transfers : List Transfer) : Nat :=
  (transfers.map fun transfer =>
    if transfer.destination = key then transfer.amount.toNat else 0).sum

/-- The transfers explain every balance of the second ledger. -/
def Booked (before after : Ledger) (transfers : List Transfer) : Prop :=
  ∀ key, after.units key + debits key transfers = before.units key + credits key transfers

namespace Ledger

variable {ledger : Ledger}

theorem units_of_token {key : Pubkey} {token : TokenAccount}
    (loaded : ledger.account key = some (.token token)) :
    ledger.units key = token.amount.toNat := by
  simp only [units, loaded]

theorem units_eq_zero {key : Pubkey}
    (absent : ∀ token, ledger.account key ≠ some (.token token)) :
    ledger.units key = 0 := by
  unfold units
  split
  next token found => exact (absent token found).elim
  next => rfl

theorem set_units {key : Pubkey} {account : Account} (before : ledger.units key = 0)
    (empty : ∀ token, account = .token token → token.amount = 0) (query : Pubkey) :
    (ledger.set key account).units query = ledger.units query := by
  by_cases same : query = key
  · subst same
    rw [before]
    cases account with
    | token token =>
        rw [units_of_token (set_account_self _ _ _), empty token rfl]
        rfl
    | _ => exact units_eq_zero (by simp)
  · simp only [units, set_account_of_ne _ _ same]

theorem close_units {key : Pubkey} (before : ledger.units key = 0) (query : Pubkey) :
    (ledger.close key).units query = ledger.units query := by
  by_cases same : query = key
  · subst same
    rw [before]
    exact units_eq_zero (by simp [close_account])
  · simp only [units, close_account, if_neg same]

theorem WellFormed.units_eq_zero (wellFormed : ledger.WellFormed) {key : Pubkey}
    (noHolder : key.isHolder = false) : ledger.units key = 0 := by
  apply Ledger.units_eq_zero
  intro token found
  cases wellFormed key _ found with
  | vault address =>
      rw [address] at noHolder
      cases noHolder
  | token outside =>
      rw [Pubkey.isHolder_of_external outside] at noHolder
      cases noHolder

end Ledger

namespace Booked

variable {before after : Ledger} {transfers : List Transfer}

theorem refl : Booked before before [] := by
  intro key
  rfl

theorem create (booked : Booked before after transfers) {key : Pubkey} {account : Account}
    (absent : after.units key = 0)
    (empty : ∀ token, account = .token token → token.amount = 0) :
    Booked before (after.set key account) transfers := by
  intro query
  rw [set_units absent empty]
  exact booked query

theorem close (booked : Booked before after transfers) {key : Pubkey}
    (absent : after.units key = 0) : Booked before (after.close key) transfers := by
  intro query
  rw [close_units absent]
  exact booked query

theorem transfer (booked : Booked before after transfers) {moved : Ledger}
    {source destination authority : Pubkey} {amount : UInt64} {route : Route}
    (transferred : after.transfer source destination authority amount = .ok moved) :
    Booked before moved (transfers ++ [⟨route, source, destination, amount⟩]) := by
  intro key
  have balance := booked key
  simp only [debits, credits, List.map_append, List.sum_append, List.map_cons, List.map_nil,
    List.sum_cons, List.sum_nil, Nat.add_zero] at balance ⊢
  by_cases same : source = destination
  · obtain ⟨_, _, _, _, _, _, _, ⟨_, rfl⟩ | ⟨different, _⟩⟩ := transfer_eq_ok.mp transferred
    · subst same
      omega
    · exact (different same).elim
  · obtain ⟨sourceToken, sourceLoaded, funds, _, debited⟩ :=
      transfer_account_source transferred same
    obtain ⟨destinationToken, credited, destinationLoaded, sum, received⟩ :=
      transfer_account_destination transferred same
    by_cases atSource : source = key
    · subst atSource
      have notDestination : ¬destination = source := fun equal => same equal.symm
      rw [units_of_token sourceLoaded] at balance
      rw [units_of_token debited, if_pos rfl, if_neg notDestination,
        UInt64.toNat_sub_of_le _ _ (UInt64.le_iff_toNat_le.mpr funds)]
      omega
    · rw [if_neg atSource]
      by_cases atDestination : destination = key
      · subst atDestination
        rw [units_of_token destinationLoaded] at balance
        rw [units_of_token received, if_pos rfl]
        simp only
        omega
      · have untouched := transfer_account_of_ne transferred (fun equal => atSource equal.symm)
          (fun equal => atDestination equal.symm)
        rw [if_neg atDestination]
        simp only [units, untouched] at balance ⊢
        omega

theorem transferIfPositive (route : Route) (booked : Booked before after transfers)
    {moved : Ledger} {source destination authority : Pubkey} {amount : UInt64}
    (transferred : transferIfPositive after source destination authority amount =
      .ok moved) :
    Booked before moved
      (transfers ++ transferredIfPositive route source destination amount) := by
  unfold Nakama.transferIfPositive at transferred
  unfold transferredIfPositive
  split at transferred
  next positive =>
    rw [if_pos positive]
    exact booked.transfer transferred
  next nothing =>
    cases transferred
    rw [if_neg nothing, List.append_nil]
    exact booked

section Payees

variable (wellFormed : before.WellFormed)
  (payees : ∀ transfer ∈ transfers, transfer.destination.isHolder = true)

include wellFormed payees

theorem units_eq_zero (booked : Booked before after transfers) {key : Pubkey}
    (noHolder : key.isHolder = false) : after.units key = 0 := by
  have nothing : credits key transfers = 0 := by
    unfold credits
    apply List.sum_eq_zero
    intro amount member
    obtain ⟨transfer, moved, rfl⟩ := List.mem_map.mp member
    apply if_neg
    rintro rfl
    rw [payees transfer moved] at noHolder
    cases noHolder
  have balance := booked key
  rw [wellFormed.units_eq_zero noHolder] at balance
  omega

theorem write (booked : Booked before after transfers) {key : Pubkey} {account : Account}
    (noHolder : key.isHolder = false) (noToken : ∀ token, account ≠ .token token) :
    Booked before (after.set key account) transfers := by
  apply booked.create (booked.units_eq_zero wellFormed payees noHolder)
  intro token isToken
  exact (noToken token isToken).elim

theorem erase (booked : Booked before after transfers) {key : Pubkey}
    (noHolder : key.isHolder = false) : Booked before (after.close key) transfers :=
  booked.close (booked.units_eq_zero wellFormed payees noHolder)

theorem eraseIfSome (booked : Booked before after transfers) {slot : Option Pubkey}
    {address : Pubkey} (given : ∀ key, slot = some key → key = address)
    (noHolder : address.isHolder = false) :
    Booked before (after.closeIfSome slot) transfers := by
  cases slot with
  | none => exact booked
  | some key =>
      rw [given key rfl]
      exact booked.erase wellFormed payees noHolder

end Payees

end Booked

section Actions

variable {ledger : Ledger} {now : Int64} {outcome : Outcome}

/-- Every payment goes to an address of a token account. -/
theorem Payment.isHolder (wellFormed : ledger.WellFormed) {instruction : Instruction}
    {transfer : Transfer} (payment : Payment ledger instruction transfer) :
    transfer.destination.isHolder = true := by
  cases payment with
  | deposit _ _ _ destination =>
      rw [destination]
      rfl
  | settlement _ _ _ planAt destination =>
      rw [destination]
      exact Pubkey.isHolder_of_external (wellFormed.plan_ata planAt)
  | refund _ _ _ _ _ _ _ outside => exact Pubkey.isHolder_of_external outside

/-- The movements that an instruction lists explain all balances. -/
theorem effect_booked (wellFormed : ledger.WellFormed) {instruction : Instruction}
    (effect : Effect ledger now instruction outcome) :
    Booked ledger outcome.ledger outcome.transfers := by
  have start : Booked ledger ledger [] := .refl
  have payees : ∀ transfer ∈ outcome.transfers, transfer.destination.isHolder = true := by
    intro transfer member
    exact (effect_payment wellFormed effect member).isHolder wellFormed
  cases effect with
  | createPlan address =>
      apply start.write wellFormed payees _ (by simp)
      rw [address]
      rfl
  | @subscribe accounts _ _ _ _ _ _ _ _ _ address _ _ vaultVacant _ _ _ _ _ _ _ _ funding =>
      have vaultEmpty : ledger.units accounts.vault = 0 :=
        Ledger.units_eq_zero (by simp [vaultVacant])
      have opened : Booked ledger (ledger.set accounts.vault (.token accounts.emptyVault)) [] :=
        start.create vaultEmpty (by simp [Subscribe.emptyVault])
      apply (opened.transfer funding).write wellFormed payees _ (by simp)
      rw [address]
      rfl
  | charge _ address _ _ _ _ _ _ _ _ transferred =>
      apply (start.transfer transferred).write wellFormed payees _ (by simp)
      rw [address]
      rfl
  | exhaust _ address _ _ _ _ _ _ _ _ transferred =>
      apply ((start.transfer transferred).write wellFormed payees rfl (by simp)).write
        wellFormed payees _ (by simp)
      rw [address]
      rfl
  | settleUsage _ address _ sessionAddress _ _ _ _ _ _ _ _ _ _ _ _ _ transferred =>
      refine ((start.transfer transferred).write wellFormed payees ?_ (by simp)).write
        wellFormed payees ?_ (by simp)
      · rw [address]
        rfl
      · rw [sessionAddress]
        rfl
  | topUp _ address _ _ _ _ _ _ _ transferred slot =>
      refine ((start.transfer transferred).write wellFormed payees ?_ (by simp)).eraseIfSome
        wellFormed payees (fun key given => (slot key given).1) rfl
      rw [address]
      rfl
  | recover _ address _ _ _ _ _ _ _ transferred =>
      refine ((start.transfer transferred).write wellFormed payees ?_ (by simp)).erase
        wellFormed payees rfl
      rw [address]
      rfl
  | pause _ address =>
      refine (start.write wellFormed payees rfl (by simp)).write wellFormed payees ?_ (by simp)
      rw [address]
      rfl
  | resume _ address =>
      refine (start.write wellFormed payees ?_ (by simp)).erase wellFormed payees rfl
      rw [address]
      rfl
  | cancel _ address _ _ _ _ _ graceSlot pausedSlot _ _ _ _ _ _ settlement refunding closing =>
      have paid := (start.transferIfPositive .settlement settlement).transferIfPositive .refund
        refunding
      obtain ⟨token, found, empty, _, rfl⟩ := closeToken_eq_ok.mp closing
      have closed := paid.close (by rw [units_of_token found, empty]; rfl)
      refine ((closed.write wellFormed payees ?_ (by simp)).eraseIfSome wellFormed payees
        graceSlot rfl).eraseIfSome wellFormed payees pausedSlot rfl
      rw [address]
      rfl
  | cleanup _ address =>
      apply start.erase wellFormed payees
      rw [address]
      rfl
  | openSession _ _ _ sessionAddress =>
      apply start.write wellFormed payees _ (by simp)
      rw [sessionAddress]
      rfl
  | closeSession _ _ _ _ sessionAddress =>
      apply start.erase wellFormed payees
      rw [sessionAddress]
      rfl

theorem spl_booked {instruction : SplInstruction}
    (executed : instruction.execute ledger = .ok outcome) :
    Booked ledger outcome.ledger outcome.transfers := by
  have start : Booked ledger ledger [] := .refl
  cases instruction with
  | transfer source destination authority amount =>
      simp only [SplInstruction.execute, bind_eq_ok, pure_eq_ok] at executed
      obtain ⟨moved, transferred, rfl⟩ := executed
      exact start.transfer transferred
  | setOwner account authority owner =>
      simp only [SplInstruction.execute, setOwner, bind_eq_ok, require_eq_ok, exists_const,
        loadToken_eq_ok, pure_eq_ok] at executed
      obtain ⟨_, ⟨token, loaded, _, rfl⟩, rfl⟩ := executed
      intro key
      by_cases same : key = account
      · subst same
        rw [units_of_token (set_account_self _ _ _), units_of_token loaded]
        rfl
      · simp only [units, set_account_of_ne _ _ same]
        rfl
  | closeAccount account authority =>
      simp only [SplInstruction.execute, bind_eq_ok, pure_eq_ok] at executed
      obtain ⟨closed, closing, rfl⟩ := executed
      obtain ⟨token, found, empty, _, rfl⟩ := closeToken_eq_ok.mp closing
      exact start.close (by rw [units_of_token found, empty]; rfl)
  | createAccount account mint owner =>
      simp only [SplInstruction.execute, createToken, vacant, bind_eq_ok, require_eq_ok,
        exists_const, pure_eq_ok] at executed
      obtain ⟨_, ⟨_, free, _, _, rfl⟩, rfl⟩ := executed
      exact start.create (Ledger.units_eq_zero (by simp [free])) (by simp)

theorem action_booked (wellFormed : ledger.WellFormed) {action : Action}
    (executed : action.execute ledger now = .ok outcome) :
    Booked ledger outcome.ledger outcome.transfers := by
  cases action with
  | program instruction => exact effect_booked wellFormed (execute_effect executed)
  | spl instruction => exact spl_booked executed

end Actions

end Nakama
