import Mathlib.Tactic.Common

/-!
# Refusals

Every way an instruction can fail: the program's own error codes, the account
checks that the framework runs in front of a handler, the SPL Token processor, the
system program, and an arithmetic panic under `overflow-checks`.
-/

namespace Nakama

/-- The program's error codes, in the order of `error.rs`. -/
inductive NakamaError where
  | zeroPeriod
  | zeroPrice
  | zeroPeriodsToFund
  | zeroRatePerSecond
  | insufficientUnlockedFunds
  | clockBackwards
  | mathOverflow
  | illegalStateForCancel
  | illegalStateForCharge
  | unauthorizedCancel
  | duplicateAtaAndVault
  | ataMismatch
  | mintMismatch
  | vaultOwnerMismatch
  | illegalStateForCleanup
  | unauthorizedCleanup
  | illegalStateForTopUp
  | illegalAmountForTopUp
  | missingGraceSatellite
  | noCancelAuthority
  | subscriberAccountMismatch
  | unauthorizedOpenSession
  | parentNotActive
  | reservationCapExceedsEscrow
  | illegalAmountForSettle
  | illegalStateForSettle
  | reservationCapExceeded
  | unauthorizedFacilitator
  | paySessionParentMismatch
  | illegalStateForClose
  | unauthorizedClose
  | arithmeticOverflow
  | paySessionMerchantAtaMismatch
  | unauthorizedPause
  | illegalStateForPause
  | unauthorizedResume
  | illegalStateForResume
  | unexpectedGraceSatellite
  | invalidPeriod
  deriving DecidableEq, Repr

/-- The account checks of the framework that the program's constraints use. -/
inductive AnchorError where
  | constraintHasOne
  | constraintSeeds
  | constraintAddress
  | constraintTokenMint
  | constraintTokenOwner
  | accountNotInitialized
  | accountDiscriminatorMismatch
  | accountOwnedByWrongProgram
  | constraintDuplicateMutableAccount
  deriving DecidableEq, Repr

/-- Refusals of classic SPL Token. -/
inductive TokenError where
  | insufficientFunds
  | mintMismatch
  | ownerMismatch
  | overflow
  | nonNativeHasBalance
  | invalidAccount
  deriving DecidableEq, Repr

/-- Why an instruction failed. -/
inductive Error where
  | nakama (code : NakamaError)
  | anchor (code : AnchorError)
  | token (code : TokenError)
  | accountAlreadyInUse
  | panic
  deriving DecidableEq, Repr

end Nakama
