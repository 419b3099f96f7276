/-!
# Binary floating-point numbers of 64 bits

A finite number is `significand · 2 ^ exponent` with a sign. `round` gives the number nearest to a
quotient, and of two nearest the one with the even significand; it is the only place where a number
is made from others.
-/

namespace Z16.Decimal

attribute [local instance(high)] instPowNat

/-- The whole number nearest to `num / den`, and of two nearest the even one. -/
def roundDiv (num den : Nat) : Nat :=
  let quotient := num / den
  let twice := 2 * (num % den)
  if twice > den ∨ (twice = den ∧ quotient % 2 = 1) then quotient + 1 else quotient

/-- A number in the interchange format of 64 bits: sign, 11 bits of exponent, 52 bits of fraction. -/
structure Binary64 where
  pattern : UInt64
  deriving DecidableEq, Repr

namespace Binary64

def isNegative (x : Binary64) : Bool := 1 <<< 63 ≤ x.pattern.toNat

/-- The pattern without its sign; it grows with the magnitude of the number. -/
def magnitude (x : Binary64) : Nat := x.pattern.toNat % 1 <<< 63

/-- The magnitude of the infinities; greater ones are not numbers. -/
def infinite : Nat := 2047 <<< 52

def isFinite (x : Binary64) : Bool := x.magnitude < infinite

def isNaN (x : Binary64) : Bool := infinite < x.magnitude

def fraction (x : Binary64) : Nat := x.magnitude % 1 <<< 52

def exponentField (x : Binary64) : Nat := x.magnitude >>> 52

def significand (x : Binary64) : Nat :=
  if x.exponentField = 0 then x.fraction else 1 <<< 52 + x.fraction

def exponent (x : Binary64) : Int := (max x.exponentField 1 : Nat) - 1075

def powerOfTwo (e : Int) : Nat × Nat := (2 ^ e.toNat, 2 ^ (-e).toNat)

def ratio (x : Binary64) : Nat × Nat :=
  let (up, down) := powerOfTwo x.exponent
  (x.significand * up, down)

def ofMagnitude (negative : Bool) (magnitude : Nat) : Binary64 :=
  ⟨.ofNat (if negative then 1 <<< 63 + magnitude else magnitude)⟩

/-- The exponent at which `num / den` has a significand of 53 bits, or the least exponent. -/
def roundExponent (num den : Nat) : Int :=
  let guess : Int := (Nat.log2 num : Int) - Nat.log2 den - 53
  let (up, down) := powerOfTwo guess
  max (-1074) (if num * down < (den * up) <<< 53 then guess else guess + 1)

/-- The number nearest to `num / den`; what is too large becomes infinite. -/
def round (negative : Bool) (num den : Nat) : Binary64 :=
  if num = 0 then ofMagnitude negative 0
  else
    let e := roundExponent num den
    let (up, down) := powerOfTwo e
    let significand := roundDiv (num * down) (den * up)
    ofMagnitude negative (min infinite ((e + 1074).toNat <<< 52 + significand))

end Binary64

end Z16.Decimal
