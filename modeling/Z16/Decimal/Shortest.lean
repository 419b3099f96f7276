import Z16.Decimal.Binary64

/-!
# The shortest decimal text of a floating-point number

A decimal text reads back as a number when its value lies in the interval of values that round to it.
The text is a point of the coarsest decimal grid that meets this interval, the one nearest to the
number, and it is written without an exponent.
-/

namespace Z16.Decimal

attribute [local instance(high)] instPowNat

/-- The values that round to one number: `low/4`, `value/4` and `high/4` in units of `num/den`. -/
structure RoundingInterval where
  low : Nat
  value : Nat
  high : Nat
  num : Nat
  den : Nat
  closed : Bool

namespace RoundingInterval

/-- The interval of a finite number other than zero. Below a power of two the grid of numbers is finer. -/
def around (x : Binary64) : RoundingInterval :=
  let s := x.significand
  let (num, den) := Binary64.powerOfTwo (x.exponent - 2)
  { low := if x.fraction = 0 ∧ 1 < x.exponentField then 4 * s - 1 else 4 * s - 2
    value := 4 * s
    high := 4 * s + 2
    num, den
    closed := s % 2 = 0 }

def holds (r : RoundingInterval) (n : Nat) (power : Int) : Bool :=
  let point := n * 10 ^ power.toNat * r.den
  let unit := r.num * 10 ^ (-power).toNat
  if r.closed then r.low * unit ≤ point && point ≤ r.high * unit
  else r.low * unit < point && point < r.high * unit

/-- The multiple of `10 ^ power` in the interval that is nearest to its value; a tie goes up. -/
def nearest (r : RoundingInterval) (power : Int) : Option Nat :=
  let num := r.value * r.num * 10 ^ (-power).toNat
  let den := r.den * 10 ^ power.toNat
  let below := num / den
  match r.holds below power, r.holds (below + 1) power with
  | true, true => if 2 * (num % den) < den then some below else some (below + 1)
  | true, false => some below
  | false, true => some (below + 1)
  | false, false => none

/-- A point of the coarsest grid that meets the interval. Powers from 310 down to -340 are tried: each
number is far below the first and each interval is far wider than the last. -/
def shortest (r : RoundingInterval) : Nat × Int :=
  ((List.range 651).findSome? fun (i : Nat) =>
    let power : Int := 310 - i
    (r.nearest power).map fun n => (n, power)).getD (0, 0)

end RoundingInterval

def positional (n : Nat) (power : Int) : String :=
  let digits := Nat.toDigits 10 n
  let places := (-power).toNat
  if places = 0 then .ofList (digits ++ List.replicate power.toNat '0')
  else
    let padded := digits.leftpad (places + 1) '0'
    .ofList (padded.take (padded.length - places) ++ '.' :: padded.drop (padded.length - places))

def Binary64.text (x : Binary64) : String :=
  if x.isNaN then "NaN"
  else
    let sign := if x.isNegative then "-" else ""
    if !x.isFinite then sign ++ "inf"
    else if x.magnitude = 0 then sign ++ "0"
    else
      let (n, power) := (RoundingInterval.around x).shortest
      sign ++ positional n power

end Z16.Decimal
