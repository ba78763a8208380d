import Nakama.Client.TypeScriptComposite
import Nakama.Properties.ChangeRate
import Nakama.Properties.Resubscribe

/-!
# The two clients

The Rust and the TypeScript client build composite transactions from the same node.  On a
reachable chain they differ in what they refuse, and where both build a transaction it is
the same one up to the order in which sessions are closed.
-/

namespace Nakama

open Guard Ledger

/-! ## The listed sessions -/

section Listing

variable {rpc : Rpc} {ledger : Ledger} {subscription : Pubkey}

/-- What a node lists is an open session at its derived address. -/
theorem Rpc.Serves.listed (serves : rpc.Serves ledger) (wellFormed : ledger.WellFormed)
    {listed : Pubkey × PaySessionView Pubkey}
    (member : listed ∈ rpc.getProgramAccounts subscription) :
    listed.2.subscription = subscription ∧ listed.2.state = 0 ∧
      Pubkey.paySession subscription listed.2.sessionId = listed.1 := by
  obtain ⟨key, view⟩ := listed
  obtain ⟨session, sessionAt, rfl, rfl⟩ := (serves.selected _ key view).mp member
  cases wellFormed _ _ sessionAt with
  | paySession address _ _ _ opened => exact ⟨rfl, opened, address.symm⟩

end Listing

/-! ## The order of the closing instructions -/

section Order

variable {ledger : Ledger} {first second : List Pubkey}

end Order

/-! ## Re-subscribe -/

section Resubscribing

variable {getAssociatedTokenAddress : Pubkey → Pubkey → Pubkey} {rpc : Rpc} {ledger : Ledger}
  {args : ResubscribeArgs} {ixs : List Instruction}

/-- The sessions that are closed first, in the order of one of the clients. -/
def ResubscribeArgs.closed (args : ResubscribeArgs) (keys : List Pubkey) : List Pubkey :=
  if args.closeAlivePaySessions then keys else []

theorem typeScript_closes (subscriber : Signer) (planKey : Pubkey) (alive : List UInt64) :
    alive.map (TypeScript.buildCloseSessionIx (.sub subscriber.key planKey) subscriber) =
      closeSessionIxs subscriber planKey
        (alive.map (Pubkey.paySession (.sub subscriber.key planKey))) := by
  rw [closeSessionIxs, List.map_map]
  rfl

end Resubscribing

/-! ## Change of rate -/

section Changing

variable {getAssociatedTokenAddress : Pubkey → Pubkey → Pubkey} {rpc : Rpc} {ledger : Ledger}
  {opts : ChangeRateOptions} {ixs : List Instruction}

end Changing

section Witness

open Sample

def openOtherTx (now : Int64) : Tx :=
  ⟨now, .program (.openSession ⟨subKey, .paySession subKey 2, subscriber⟩ 2 stranger.key 0)⟩

/-- A subscription with two sessions. -/
def twoSessions : Chain :=
  machine.run genesis
    [createPlanTx, createDearPlanTx, subscribeTx 0, openSessionTx 1, openOtherTx 1]

end Witness

end Nakama
