import Mathlib.Logic.Function.Basic
import Nakama.Lib.Guard
import Nakama.Lib.Checked
import Nakama.Program.State
import Nakama.Program.Error

/-!
# The ledger

All accounts by address, the loads and checks that Anchor runs in front of a
handler, and the SPL Token operations that the program invokes.  An address holds
at most one account, so two accounts of different kinds never share an address.
-/

namespace Nakama

open Guard

/-- The accounts that the program or SPL Token owns. -/
inductive Account where
  | plan (plan : Plan Pubkey)
  | subscription (subscription : Subscription Pubkey)
  | graced (graced : GracedSubscription Pubkey)
  | paused (paused : PausedSubscription Pubkey)
  | paySession (paySession : PaySession Pubkey)
  | token (token : TokenAccount)
  | mint
  deriving DecidableEq, Repr

/-- A ledger state.  `bump` is the canonical bump that `find_program_address`
returns for each derived key; no instruction changes it. -/
structure Ledger where
  account : Pubkey → Option Account
  bump : Pubkey → UInt8

namespace Account

def asPlan : Account → Option (Plan Pubkey)
  | .plan data => some data
  | _ => none

def asSubscription : Account → Option (Subscription Pubkey)
  | .subscription data => some data
  | _ => none

def asGraced : Account → Option (GracedSubscription Pubkey)
  | .graced data => some data
  | _ => none

def asPaused : Account → Option (PausedSubscription Pubkey)
  | .paused data => some data
  | _ => none

def asPaySession : Account → Option (PaySession Pubkey)
  | .paySession data => some data
  | _ => none

def asToken : Account → Option TokenAccount
  | .token data => some data
  | _ => none

def asMint : Account → Option Unit
  | .mint => some ()
  | _ => none

/-- The account belongs to SPL Token, not to this program. -/
def isSpl : Account → Bool
  | .token _ | .mint => true
  | _ => false

@[simp] theorem asPlan_eq_some {account : Account} {plan : Plan Pubkey} :
    account.asPlan = some plan ↔ account = .plan plan := by
  cases account <;> simp [asPlan]

@[simp] theorem asSubscription_eq_some {account : Account}
    {subscription : Subscription Pubkey} :
    account.asSubscription = some subscription ↔ account = .subscription subscription := by
  cases account <;> simp [asSubscription]

@[simp] theorem asGraced_eq_some {account : Account} {graced : GracedSubscription Pubkey} :
    account.asGraced = some graced ↔ account = .graced graced := by
  cases account <;> simp [asGraced]

@[simp] theorem asPaused_eq_some {account : Account} {paused : PausedSubscription Pubkey} :
    account.asPaused = some paused ↔ account = .paused paused := by
  cases account <;> simp [asPaused]

@[simp] theorem asPaySession_eq_some {account : Account} {paySession : PaySession Pubkey} :
    account.asPaySession = some paySession ↔ account = .paySession paySession := by
  cases account <;> simp [asPaySession]

@[simp] theorem asToken_eq_some {account : Account} {token : TokenAccount} :
    account.asToken = some token ↔ account = .token token := by
  cases account <;> simp [asToken]

@[simp] theorem asMint_eq_some {account : Account} {done : Unit} :
    account.asMint = some done ↔ account = .mint := by
  cases account <;> simp [asMint]

end Account

namespace Ledger

/-! ## Writing -/

/-- Write the account at an address. -/
def set (ledger : Ledger) (key : Pubkey) (account : Account) : Ledger :=
  { ledger with account := Function.update ledger.account key (some account) }

/-- Close the account at an address. -/
def close (ledger : Ledger) (key : Pubkey) : Ledger :=
  { ledger with account := Function.update ledger.account key none }

/-- Anchor `close = …` on an optional account: a no-op on `None`. -/
def closeIfSome (ledger : Ledger) (key : Option Pubkey) : Ledger :=
  match key with
  | some key => ledger.close key
  | none => ledger

@[simp] theorem set_bump (ledger : Ledger) (key : Pubkey) (account : Account) :
    (ledger.set key account).bump = ledger.bump := rfl

@[simp] theorem close_bump (ledger : Ledger) (key : Pubkey) :
    (ledger.close key).bump = ledger.bump := rfl

@[simp] theorem closeIfSome_bump (ledger : Ledger) (key : Option Pubkey) :
    (ledger.closeIfSome key).bump = ledger.bump := by
  cases key <;> rfl

theorem set_account (ledger : Ledger) (key query : Pubkey) (account : Account) :
    (ledger.set key account).account query =
      if query = key then some account else ledger.account query := by
  simp [set, Function.update_apply]

theorem close_account (ledger : Ledger) (key query : Pubkey) :
    (ledger.close key).account query =
      if query = key then none else ledger.account query := by
  simp [close, Function.update_apply]

theorem closeIfSome_account (ledger : Ledger) (key : Option Pubkey) (query : Pubkey) :
    (ledger.closeIfSome key).account query =
      if some query = key then none else ledger.account query := by
  cases key with
  | none => simp [closeIfSome]
  | some key => simp [closeIfSome, close_account]

@[simp] theorem set_account_self (ledger : Ledger) (key : Pubkey) (account : Account) :
    (ledger.set key account).account key = some account := by
  simp [set_account]

theorem set_account_of_ne (ledger : Ledger) {key query : Pubkey} (account : Account)
    (different : query ≠ key) :
    (ledger.set key account).account query = ledger.account query := by
  simp [set_account, different]

/-! ## Account loading -/

/-- Deserialize the account at an address as one type: it has to exist, to belong
to the expected program and to carry the type's discriminator. -/
def load {α : Type} (decode : Account → Option α) (expectSpl : Bool) (ledger : Ledger)
    (key : Pubkey) : Except Error α :=
  match ledger.account key with
  | none => .error (.anchor .accountNotInitialized)
  | some account =>
      match decode account with
      | some value => .ok value
      | none =>
          if account.isSpl = expectSpl then
            .error (.anchor .accountDiscriminatorMismatch)
          else
            .error (.anchor .accountOwnedByWrongProgram)

/-- `Account<'info, Plan>`. -/
def loadPlan : Ledger → Pubkey → Except Error (Plan Pubkey) := load Account.asPlan false

/-- `Account<'info, Subscription>`. -/
def loadSubscription : Ledger → Pubkey → Except Error (Subscription Pubkey) :=
  load Account.asSubscription false

/-- `Account<'info, GracedSubscription>`. -/
def loadGraced : Ledger → Pubkey → Except Error (GracedSubscription Pubkey) :=
  load Account.asGraced false

/-- `Account<'info, PausedSubscription>`. -/
def loadPaused : Ledger → Pubkey → Except Error (PausedSubscription Pubkey) :=
  load Account.asPaused false

/-- `Account<'info, PaySession>`. -/
def loadPaySession : Ledger → Pubkey → Except Error (PaySession Pubkey) :=
  load Account.asPaySession false

/-- `Account<'info, TokenAccount>`. -/
def loadToken : Ledger → Pubkey → Except Error TokenAccount := load Account.asToken true

/-- `Account<'info, Mint>`. -/
def loadMint : Ledger → Pubkey → Except Error Unit := load Account.asMint true

/-- `Option<Account<'info, T>>`: `None` is the program-id placeholder. -/
def loadOptional {α : Type} (loader : Ledger → Pubkey → Except Error α) (ledger : Ledger) :
    Option Pubkey → Except Error (Option α)
  | none => .ok none
  | some key => do
      let value ← loader ledger key
      return some value

theorem load_eq_ok {α : Type} {decode : Account → Option α} {expectSpl : Bool}
    {ledger : Ledger} {key : Pubkey} {value : α} :
    load decode expectSpl ledger key = .ok value ↔
      ∃ account, ledger.account key = some account ∧ decode account = some value := by
  unfold load
  cases ledger.account key with
  | none => simp
  | some account =>
      cases decoded : decode account with
      | some found => simp [decoded]
      | none =>
          by_cases spl : account.isSpl = expectSpl <;> simp [decoded, spl]

@[simp] theorem loadPlan_eq_ok {ledger : Ledger} {key : Pubkey} {plan : Plan Pubkey} :
    ledger.loadPlan key = .ok plan ↔ ledger.account key = some (.plan plan) := by
  simp [loadPlan, load_eq_ok]

@[simp] theorem loadSubscription_eq_ok {ledger : Ledger} {key : Pubkey}
    {subscription : Subscription Pubkey} :
    ledger.loadSubscription key = .ok subscription ↔
      ledger.account key = some (.subscription subscription) := by
  simp [loadSubscription, load_eq_ok]

@[simp] theorem loadGraced_eq_ok {ledger : Ledger} {key : Pubkey}
    {graced : GracedSubscription Pubkey} :
    ledger.loadGraced key = .ok graced ↔ ledger.account key = some (.graced graced) := by
  simp [loadGraced, load_eq_ok]

@[simp] theorem loadPaused_eq_ok {ledger : Ledger} {key : Pubkey}
    {paused : PausedSubscription Pubkey} :
    ledger.loadPaused key = .ok paused ↔ ledger.account key = some (.paused paused) := by
  simp [loadPaused, load_eq_ok]

@[simp] theorem loadPaySession_eq_ok {ledger : Ledger} {key : Pubkey}
    {paySession : PaySession Pubkey} :
    ledger.loadPaySession key = .ok paySession ↔
      ledger.account key = some (.paySession paySession) := by
  simp [loadPaySession, load_eq_ok]

@[simp] theorem loadToken_eq_ok {ledger : Ledger} {key : Pubkey} {token : TokenAccount} :
    ledger.loadToken key = .ok token ↔ ledger.account key = some (.token token) := by
  simp [loadToken, load_eq_ok]

@[simp] theorem loadMint_eq_ok {ledger : Ledger} {key : Pubkey} {done : Unit} :
    ledger.loadMint key = .ok done ↔ ledger.account key = some .mint := by
  simp [loadMint, load_eq_ok]

/-- An optional slot loads exactly when it is empty or its account loads. -/
theorem loadOptional_eq_ok {α : Type} {loader : Ledger → Pubkey → Except Error α}
    {ledger : Ledger} {key : Option Pubkey} {value : Option α} :
    ledger.loadOptional loader key = .ok value ↔
      (key = none ∧ value = none) ∨
        ∃ address found, key = some address ∧ value = some found ∧
          loader ledger address = .ok found := by
  cases key with
  | none =>
      simp [loadOptional, eq_comm]
  | some address =>
      simp only [loadOptional, bind_eq_ok, pure_eq_ok, reduceCtorEq, false_and,
        Option.some.injEq, false_or]
      constructor
      · rintro ⟨found, loaded, rfl⟩
        exact ⟨address, found, rfl, rfl, loaded⟩
      · rintro ⟨_, found, rfl, rfl, loaded⟩
        exact ⟨found, loaded, rfl⟩

/-! ## Constraints -/

/-- `init`: the address must be free. -/
def vacant (ledger : Ledger) (key : Pubkey) : Except Error Unit :=
  require (ledger.account key = none) .accountAlreadyInUse

/-- `seeds = […], bump`: the address is the canonical derivation. -/
def seeds (key derived : Pubkey) : Except Error Unit :=
  require (key = derived) (.anchor .constraintSeeds)

/-- `seeds = […], bump = stored`: re-derivation with a stored bump gives the same
address only for the canonical bump. -/
def seedsWithBump (ledger : Ledger) (key derived : Pubkey) (stored : UInt8) :
    Except Error Unit :=
  require (key = derived ∧ stored = ledger.bump derived) (.anchor .constraintSeeds)

/-- No two of the `mut` accounts are one, as nothing here is declared `dup`. -/
def distinctMut (keys : List Pubkey) : Except Error Unit :=
  require keys.Nodup (.anchor .constraintDuplicateMutableAccount)

/-- `token::mint = …`. -/
def requireMint (token : TokenAccount) (mint : Pubkey) : Except Error Unit :=
  require (token.mint = mint) (.anchor .constraintTokenMint)

/-- `token::authority = …`. -/
def requireAuthority (token : TokenAccount) (authority : Pubkey) : Except Error Unit :=
  require (token.owner = authority) (.anchor .constraintTokenOwner)

/-- An optional account at its derived address. -/
def seedsIfSome (key : Option Pubkey) (derived : Pubkey) : Except Error Unit :=
  match key with
  | none => .ok ()
  | some key => seeds key derived

/-- `init` on an optional account: nothing happens on `None`. -/
def vacantIfSome (ledger : Ledger) (key : Option Pubkey) : Except Error Unit :=
  match key with
  | none => .ok ()
  | some key => ledger.vacant key

theorem distinctMut_eq_ok {keys : List Pubkey} {done : Unit} :
    distinctMut keys = .ok done ↔ keys.Nodup :=
  require_eq_ok

theorem seedsIfSome_eq_ok {key : Option Pubkey} {derived : Pubkey} {done : Unit} :
    seedsIfSome key derived = .ok done ↔ ∀ address, key = some address → address = derived := by
  cases key with
  | none => simp [seedsIfSome]
  | some address => simp [seedsIfSome, seeds, require_eq_ok]

theorem vacantIfSome_eq_ok {ledger : Ledger} {key : Option Pubkey} {done : Unit} :
    ledger.vacantIfSome key = .ok done ↔
      ∀ address, key = some address → ledger.account address = none := by
  cases key with
  | none => simp [vacantIfSome]
  | some address => simp [vacantIfSome, vacant, require_eq_ok]

/-! ## SPL Token -/

/-- `spl_token::transfer`: move exactly `amount`, or fail. -/
def transfer (ledger : Ledger) (source destination authority : Pubkey) (amount : UInt64) :
    Except Error Ledger := do
  let sourceToken ← ledger.loadToken source
  let destinationToken ← ledger.loadToken destination
  require (amount ≤ sourceToken.amount) (.token .insufficientFunds)
  require (sourceToken.mint = destinationToken.mint) (.token .mintMismatch)
  require (sourceToken.owner = authority) (.token .ownerMismatch)
  -- A transfer of an account to itself is checked but moves nothing.
  if source = destination then
    return ledger
  else
    let credited ← okOr (Checked.addU64 destinationToken.amount amount) (.token .overflow)
    return (ledger.set source
        (.token { sourceToken with amount := sourceToken.amount - amount })).set destination
      (.token { destinationToken with amount := credited })

/-- A transfer succeeds exactly when its checks pass; it moves `amount` unless the
two accounts are one. -/
theorem transfer_eq_ok {ledger moved : Ledger} {source destination authority : Pubkey}
    {amount : UInt64} :
    ledger.transfer source destination authority amount = .ok moved ↔
      ∃ sourceToken destinationToken,
        ledger.account source = some (.token sourceToken) ∧
        ledger.account destination = some (.token destinationToken) ∧
        amount.toNat ≤ sourceToken.amount.toNat ∧
        sourceToken.mint = destinationToken.mint ∧
        sourceToken.owner = authority ∧
        ((source = destination ∧ moved = ledger) ∨
          (source ≠ destination ∧ ∃ credited : UInt64,
            credited.toNat = destinationToken.amount.toNat + amount.toNat ∧
            moved = (ledger.set source
                (.token { sourceToken with
                  amount := sourceToken.amount - amount })).set destination
              (.token { destinationToken with amount := credited }))) := by
  simp only [transfer, bind_eq_ok, require_eq_ok, exists_const, loadToken_eq_ok,
    UInt64.le_iff_toNat_le]
  constructor
  · rintro ⟨sourceToken, sourceLoaded, destinationToken, destinationLoaded, funds, mints,
      owner, moves⟩
    refine ⟨sourceToken, destinationToken, sourceLoaded, destinationLoaded, funds, mints,
      owner, ?_⟩
    split at moves
    next same =>
      rw [pure_eq_ok] at moves
      exact .inl ⟨same, moves.symm⟩
    next different =>
      simp only [bind_eq_ok, okOr_eq_ok, pure_eq_ok, Checked.addU64_eq_some] at moves
      obtain ⟨credited, sum, rfl⟩ := moves
      exact .inr ⟨different, credited, sum, rfl⟩
  · rintro ⟨sourceToken, destinationToken, sourceLoaded, destinationLoaded, funds, mints,
      owner, moves⟩
    refine ⟨sourceToken, sourceLoaded, destinationToken, destinationLoaded, funds, mints,
      owner, ?_⟩
    rcases moves with ⟨same, rfl⟩ | ⟨different, credited, sum, rfl⟩
    · rw [if_pos same]
      rfl
    · rw [if_neg different]
      simp only [bind_eq_ok, okOr_eq_ok, pure_eq_ok, Checked.addU64_eq_some]
      exact ⟨credited, sum, rfl⟩

/-- A transfer touches no account but its two ends. -/
theorem transfer_account_of_ne {ledger moved : Ledger}
    {source destination authority query : Pubkey} {amount : UInt64}
    (transferred : ledger.transfer source destination authority amount = .ok moved)
    (notSource : query ≠ source) (notDestination : query ≠ destination) :
    moved.account query = ledger.account query := by
  obtain ⟨_, _, _, _, _, _, _, ⟨_, rfl⟩ | ⟨_, _, _, rfl⟩⟩ := transfer_eq_ok.mp transferred
  · rfl
  · rw [set_account_of_ne _ _ notDestination, set_account_of_ne _ _ notSource]

theorem transfer_account_source {ledger moved : Ledger}
    {source destination authority : Pubkey} {amount : UInt64}
    (transferred : ledger.transfer source destination authority amount = .ok moved)
    (different : source ≠ destination) :
    ∃ token, ledger.account source = some (.token token) ∧
      amount.toNat ≤ token.amount.toNat ∧ token.owner = authority ∧
      moved.account source =
        some (.token { token with amount := token.amount - amount }) := by
  obtain ⟨token, _, sourceLoaded, _, funds, _, owner, ⟨same, _⟩ | ⟨_, _, _, rfl⟩⟩ :=
    transfer_eq_ok.mp transferred
  · exact (different same).elim
  · refine ⟨token, sourceLoaded, funds, owner, ?_⟩
    rw [set_account_of_ne _ _ different, set_account_self]

theorem transfer_account_destination {ledger moved : Ledger}
    {source destination authority : Pubkey} {amount : UInt64}
    (transferred : ledger.transfer source destination authority amount = .ok moved)
    (different : source ≠ destination) :
    ∃ token credited, ledger.account destination = some (.token token) ∧
      credited.toNat = token.amount.toNat + amount.toNat ∧
      moved.account destination = some (.token { token with amount := credited }) := by
  obtain ⟨_, token, _, loaded, _, _, _, ⟨same, _⟩ | ⟨_, credited, sum, rfl⟩⟩ :=
    transfer_eq_ok.mp transferred
  · exact (different same).elim
  · exact ⟨token, credited, loaded, sum, set_account_self _ _ _⟩

/-- A transfer changes amounts only: every address keeps its kind of account, and
a token account its mint and owner. -/
theorem transfer_account {ledger moved : Ledger} {source destination authority : Pubkey}
    {amount : UInt64}
    (transferred : ledger.transfer source destination authority amount = .ok moved)
    (query : Pubkey) :
    moved.account query = ledger.account query ∨
      ∃ before after : TokenAccount, ledger.account query = some (.token before) ∧
        moved.account query = some (.token after) ∧
        after.mint = before.mint ∧ after.owner = before.owner := by
  by_cases same : source = destination
  · obtain ⟨_, _, _, _, _, _, _, ⟨_, rfl⟩ | ⟨different, _⟩⟩ := transfer_eq_ok.mp transferred
    · exact .inl rfl
    · exact (different same).elim
  · by_cases atSource : query = source
    · obtain ⟨token, loaded, _, _, debited⟩ := transfer_account_source transferred same
      subst atSource
      exact .inr ⟨_, _, loaded, debited, rfl, rfl⟩
    · by_cases atDestination : query = destination
      · obtain ⟨token, credited, loaded, _, received⟩ :=
          transfer_account_destination transferred same
        subst atDestination
        exact .inr ⟨_, _, loaded, received, rfl, rfl⟩
      · exact .inl (transfer_account_of_ne transferred atSource atDestination)

/-- `spl_token::close_account`: only an empty account can be closed. -/
def closeToken (ledger : Ledger) (key authority : Pubkey) : Except Error Ledger := do
  let token ← ledger.loadToken key
  require (token.amount = 0) (.token .nonNativeHasBalance)
  require (token.owner = authority) (.token .ownerMismatch)
  return ledger.close key

theorem closeToken_eq_ok {ledger closed : Ledger} {key authority : Pubkey} :
    ledger.closeToken key authority = .ok closed ↔
      ∃ token, ledger.account key = some (.token token) ∧ token.amount = 0 ∧
        token.owner = authority ∧ closed = ledger.close key := by
  simp only [closeToken, bind_eq_ok, require_eq_ok, exists_const, loadToken_eq_ok, pure_eq_ok]
  constructor
  · rintro ⟨token, loaded, empty, owner, rfl⟩
    exact ⟨token, loaded, empty, owner, rfl⟩
  · rintro ⟨token, loaded, empty, owner, rfl⟩
    exact ⟨token, loaded, empty, owner, rfl⟩

/-- `spl_token::set_authority` for the account owner. -/
def setOwner (ledger : Ledger) (key authority owner : Pubkey) : Except Error Ledger := do
  let token ← ledger.loadToken key
  require (token.owner = authority) (.token .ownerMismatch)
  return ledger.set key (.token { token with owner })

/-- `spl_token::initialize_account` at a fresh address.  Only this program can
create an account at an address it derives. -/
def createToken (ledger : Ledger) (key : Pubkey) (mint owner : Pubkey) :
    Except Error Ledger := do
  require (key.isExternal = true) (.token .invalidAccount)
  ledger.vacant key
  ledger.loadMint mint
  return ledger.set key (.token { mint, owner, amount := 0 })

/-- Units of a mint in the account at an address. -/
def held (ledger : Ledger) (mint key : Pubkey) : Nat :=
  match ledger.account key with
  | some (.token token) => if token.mint = mint then token.amount.toNat else 0
  | _ => 0

end Ledger

end Nakama
