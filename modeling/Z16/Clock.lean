import Z16.Decimal.Binary64
import Z16.Machine

/-!
# The clock

A clock changes its phase every half period. When the phase falls, the machine makes a step unless it
is paused; then an observer is told the phase and the state of the machine. The clock ends at the
first tick after which the machine is halted or at its end, or whose step was the last one allowed.
-/

namespace Z16

inductive Phase where
  | low | high
  deriving DecidableEq, Repr

namespace Phase

def flip : Phase → Phase
  | .low => .high
  | .high => .low

def level : Phase → Nat
  | .low => 0
  | .high => 1

end Phase

structure Tick where
  phase : Phase
  machine : Snapshot
  deriving DecidableEq, Repr

namespace Clock

open Decimal

/-- The frequency of a clock that is given none, 2 Hz. -/
def defaultFrequency : Binary64 := ⟨0x4000000000000000⟩

/-- Half of the period of a frequency in nanoseconds. Half of the reciprocal is rounded to a
floating-point number of seconds first and then to whole nanoseconds, of which there must be one at
least and fewer than `2 ^ 64` seconds of them. -/
def halfPeriod? (frequency : Binary64) : Option Nat :=
  if frequency.isFinite ∧ ¬frequency.isNegative ∧ frequency.magnitude ≠ 0 then
    let (num, den) := frequency.ratio
    let seconds := Binary64.round false den (2 * num)
    let (num, den) := seconds.ratio
    let nanoseconds := roundDiv (num * 1000000000) den
    if seconds.isFinite ∧ num < UInt64.size * den ∧ 0 < nanoseconds then some nanoseconds else none
  else none

example : halfPeriod? defaultFrequency = some 250000000 := by decide +kernel

end Clock

/-- A clock between two ticks. Moments and durations are in nanoseconds. -/
structure Clock where
  halfPeriod : Nat
  due : Nat
  limit : Option Nat := none
  /-- The call at which the observer fails. -/
  failAt : Option Nat := none
  phase : Phase := .high
  executed : Nat := 0
  calls : Nat := 0
  ended : Bool := false
  deriving DecidableEq, Repr

namespace Clock

variable {H : Type} [Host H]

def start (moment halfPeriod : Nat) (limit failAt : Option Nat) : Clock :=
  { halfPeriod, due := moment + halfPeriod, limit, failAt }

def reaches (c : Clock) (executed : Nat) : Bool := c.limit.any (· ≤ executed)

def stepOn (phase : Phase) (m : Machine H) : Bool × Machine H :=
  if phase = .low ∧ ¬m.paused then m.step else (false, m)

/-- The next tick. The step that reaches the limit pauses the machine. An observer that fails ends the
clock, and its tick is lost. -/
def tick (c : Clock) (m : Machine H) : Option Tick × Clock × Machine H :=
  let phase := c.phase.flip
  let (stepped, m) := stepOn phase m
  let executed := if stepped then c.executed + 1 else c.executed
  let limited := stepped && c.reaches executed
  let m := if limited then m.pause else m
  let finished := limited || m.halted || m.program.size ≤ m.pc
  let calls := c.calls + 1
  let fails := c.failAt == some calls
  let next :=
    { c with phase, executed, calls, due := c.due + c.halfPeriod, ended := finished || fails }
  (if fails then none else some { phase, machine := m.snapshot }, next, m)

end Clock

end Z16
