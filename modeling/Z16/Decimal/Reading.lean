import Z16.Decimal.Binary64

/-!
# Reading numbers

A whole number is one digit or more, with one sign in front or none; leading zeros do not count. A
floating-point number is digits with at most one point among or beside them, then possibly `e` and a whole
number; `inf`, `infinity` and `nan` are written in letters of either case. One sign may stand in front. The
value is the number nearest to what the text says.
-/

namespace Z16.Decimal

attribute [local instance(high)] instPowNat

def readDigits? (cs : List Char) : Option Nat :=
  if cs ≠ [] ∧ cs.all Char.isDigit then some (Nat.ofDigitChars 10 cs 0) else none

def readNat? (cs : List Char) : Option Nat :=
  match cs with
  | '+' :: rest => readDigits? rest
  | _ => readDigits? cs

def readInt? (cs : List Char) : Option Int :=
  match cs with
  | '-' :: rest => (readDigits? rest).map fun n => -(n : Int)
  | _ => (readNat? cs).map fun n => (n : Int)

/-- The number nearest to `digits · 10 ^ power`. A value of more than 310 digits is infinite, and one
with more than 330 zeros after the point is zero, so that the powers computed stay small. -/
def scale (negative : Bool) (digits : Nat) (power : Int) : Binary64 :=
  let size := (Nat.toDigits 10 digits).length + power
  if digits = 0 ∨ size < -330 then .ofMagnitude negative 0
  else if 310 < size then .ofMagnitude negative Binary64.infinite
  else .round negative (digits * 10 ^ power.toNat) (10 ^ (-power).toNat)

def readPower? (cs : List Char) : Option Int :=
  match cs with
  | [] => some 0
  | c :: rest => if c = 'e' ∨ c = 'E' then readInt? rest else none

def readScaled? (cs : List Char) : Option (Nat × Int) := do
  let whole := cs.takeWhile Char.isDigit
  let (fraction, rest) :=
    match cs.dropWhile Char.isDigit with
    | '.' :: after => (after.takeWhile Char.isDigit, after.dropWhile Char.isDigit)
    | rest => ([], rest)
  let digits ← readDigits? (whole ++ fraction)
  let power ← readPower? rest
  return (digits, power - fraction.length)

def readUnsigned? (negative : Bool) (cs : List Char) : Option Binary64 :=
  let lower := String.ofList (cs.map Char.toLower)
  if lower = "inf" ∨ lower = "infinity" then some (.ofMagnitude negative Binary64.infinite)
  else if lower = "nan" then some (.ofMagnitude negative (Binary64.infinite + 1 <<< 51))
  else (readScaled? cs).map fun (digits, power) => scale negative digits power

def Binary64.read? (cs : List Char) : Option Binary64 :=
  match cs with
  | '-' :: rest => readUnsigned? true rest
  | '+' :: rest => readUnsigned? false rest
  | _ => readUnsigned? false cs

end Z16.Decimal
