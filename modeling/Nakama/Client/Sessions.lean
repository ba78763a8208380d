import Nakama.Client.Accounts

/-!
# Enumerating the open sessions of a subscription

`list_alive_pay_sessions` of the Rust client decodes the accounts that RPC returns for two
`memcmp` filters; `findAlivePaySessions` of the TypeScript client filters likewise and reads
two fields at fixed offsets.  What the node answers is a parameter of both.
-/

namespace Nakama

open Guard

/-- A `memcmp` filter: the bytes stand at the offset. -/
def memcmp (offset : Nat) (bytes data : List UInt8) : Bool :=
  (data.drop offset).take bytes.length = bytes

/-- The answer of `getProgramAccounts` to some `memcmp` filters: in some order, the accounts
of the program that pass all of them. -/
def Answers (accounts : List (KeyBytes × RawAccount)) (programId : KeyBytes)
    (filters : List (Nat × List UInt8)) (answer : List (KeyBytes × RawAccount)) : Prop :=
  answer.Perm (accounts.filter fun found =>
    found.2.owner = programId ∧ ∀ passed ∈ filters, memcmp passed.1 passed.2 found.2.data)

/-- The filters of `list_alive_pay_sessions`: the tag of a session in front and the
subscription behind it. -/
def listAliveFilters (tag : Discriminator) (subscription : KeyBytes) :
    List (Nat × List UInt8) :=
  [(0, tag.toList), (8, subscription.toList)]

/-- `list_alive_pay_sessions`, on the answer of the node. -/
def listAlivePaySessions (subscription : KeyBytes) :
    List (KeyBytes × RawAccount) →
      Except AccountDecodeError (List (KeyBytes × PaySessionView KeyBytes))
  | [] => .ok []
  | (pda, account) :: accounts => do
      let view ← PaySessionView.tryDecode account.data
      let alive ← listAlivePaySessions subscription accounts
      if view.subscription ≠ subscription then
        return alive
      else if view.state = 0 then
        return (pda, view) :: alive
      else
        return alive

/-! ## TypeScript -/

/-- `PAY_SESSION_SUBSCRIPTION_OFFSET`. -/
def paySessionSubscriptionOffset : Nat := 8

/-- `PAY_SESSION_STATE_OFFSET`. -/
def paySessionStateOffset : Nat := 8 + 168

/-- `sessionIdOffset`. -/
def paySessionIdOffset : Nat := 8 + 128

/-- `readU64Le`. -/
def readU64Le (data : List UInt8) (offset : Nat) : UInt64 :=
  UInt64.ofNat (Borsh.ofLeBytes ((data.drop offset).take 8))

/-- What the loop of `findAlivePaySessions` pushes for one account. -/
def aliveSessionId (data : List UInt8) : Option UInt64 :=
  match data[paySessionStateOffset]? with
  | none => none
  | some state => if state = 0 then some (readU64Le data paySessionIdOffset) else none

/-- The filters of `findAlivePaySessions`. -/
def findAliveFilters (tag : Discriminator) (subscription : KeyBytes) :
    List (Nat × List UInt8) :=
  [(0, tag.toList), (paySessionSubscriptionOffset, subscription.toList)]

/-- `findAlivePaySessions`, on the answer of the node: the ids of the open sessions in
ascending order. -/
def findAlivePaySessions (answer : List (KeyBytes × RawAccount)) : List UInt64 :=
  (answer.filterMap fun found => aliveSessionId found.2.data).mergeSort

end Nakama
