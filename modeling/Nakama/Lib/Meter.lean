import Nakama.Lib.Accrual

/-!
# Meters of interruptible streams

A stream of linear accrual that can be frozen, thawed and refilled, without any notion
of who was paid.  Freezing and thawing keep the time on the meter, and the meter never
runs backwards.
-/

/-- A stream that started at `anchor`, stands still since `frozen` if that is given, and
may pay out `deposited` units at most. -/
structure Meter where
  anchor : Int
  frozen : Option Int
  deposited : Nat
  deriving DecidableEq

namespace Meter

variable {meter : Meter} {price period : Nat} {now later : Int}

/-- Seconds on the meter. -/
def elapsed (meter : Meter) (now : Int) : Nat :=
  (meter.frozen.getD now - meter.anchor).toNat

/-- Units that may have been paid out. -/
def unlocked (price period : Nat) (meter : Meter) (now : Int) : Nat :=
  Accrual.unlocked price period meter.deposited (meter.elapsed now)

/-- All that was deposited has been earned. -/
def Exhausted (price period : Nat) (meter : Meter) (now : Int) : Prop :=
  meter.deposited ≤ Accrual.accrued price period (meter.elapsed now)

def freeze (meter : Meter) (now : Int) : Meter :=
  { meter with frozen := some now }

/-- Run on from now, with the time on the meter that it had. -/
def thaw (meter : Meter) (now : Int) : Meter :=
  { meter with
    anchor := meter.anchor + (now - meter.frozen.getD now)
    frozen := none }

def refill (meter : Meter) (added : Nat) : Meter :=
  { meter with deposited := meter.deposited + added }

theorem elapsed_mono (ordered : now ≤ later) : meter.elapsed now ≤ meter.elapsed later := by
  unfold elapsed
  cases meter.frozen with
  | none => simp only [Option.getD_none]; omega
  | some since => simp

theorem elapsed_freeze (running : meter.frozen = none) :
    (meter.freeze now).elapsed later = meter.elapsed now := by
  simp [elapsed, freeze, running]

theorem elapsed_thaw : (meter.thaw now).elapsed now = meter.elapsed now := by
  unfold elapsed thaw
  simp only [Option.getD_none]
  omega

theorem Exhausted.mono (exhausted : meter.Exhausted price period now)
    (ordered : now ≤ later) : meter.Exhausted price period later :=
  le_trans exhausted (Accrual.accrued_mono (elapsed_mono ordered))

theorem Exhausted.freeze (exhausted : meter.Exhausted price period now)
    (running : meter.frozen = none) : (meter.freeze now).Exhausted price period now := by
  unfold Exhausted
  rw [elapsed_freeze running]
  exact exhausted

theorem Exhausted.thaw (exhausted : meter.Exhausted price period now) :
    (meter.thaw now).Exhausted price period now := by
  unfold Exhausted
  rw [elapsed_thaw]
  exact exhausted

theorem Exhausted.unlocked_eq (exhausted : meter.Exhausted price period now) :
    meter.unlocked price period now = meter.deposited :=
  Accrual.unlocked_of_deposited_le exhausted

end Meter
