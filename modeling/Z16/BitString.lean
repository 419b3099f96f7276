import Z16.Text.Quoted

/-!
# Bit strings

A bit string is a text of `0`s and `1`s, the most significant bit first, that stands for an unsigned
or a two's-complement number. A text that is no bit string is reported before a width that is out of
range.
-/

namespace Z16.BitString

attribute [local instance(high)] instPowNat

inductive Error where
  | malformed (text : String)
  | widthOutOfRange (width : Nat)
  deriving DecidableEq, Repr

def Error.message : Error → String
  | .malformed text => "Malformed bit string: " ++ Text.quote text
  | .widthOutOfRange width => "Invalid bit width: " ++ toString width

def read (text : String) : Except Error (List Bool) :=
  if text.toList ≠ [] ∧ text.toList.all (fun c => c = '0' ∨ c = '1') then
    .ok (text.toList.map (· = '1'))
  else .error (.malformed text)

def write (bs : List Bool) : String :=
  .ofList (bs.map fun b => if b then '1' else '0')

def toNat (bs : List Bool) : Nat :=
  bs.foldl (fun n b => 2 * n + b.toNat) 0

def toInt (bs : List Bool) : Int :=
  if bs.headD false then toNat bs - 2 ^ bs.length else toNat bs

def ofNat (n : Nat) : (width : Nat) → List Bool
  | 0 => []
  | width + 1 => n.testBit width :: ofNat n width

/-- The bits brought to `width`: the leading bit is repeated, or leading bits are dropped. -/
def resize (bs : List Bool) (width : Nat) : List Bool :=
  if width ≤ bs.length then bs.drop (bs.length - width)
  else List.replicate (width - bs.length) (bs.headD false) ++ bs

def checkWidth (width : Nat) : Except Error Unit :=
  if 1 ≤ width ∧ width ≤ 32 then .ok () else .error (.widthOutOfRange width)

def signExtend (text : String) (width : Nat) : Except Error Int := do
  let bs ← read text
  checkWidth width
  return toInt (resize bs width)

/-- The number that the text writes, its length being its width. The length is counted without bound;
a count of 32 bits would start over at a text of `2 ^ 32` digits. -/
def toDecimal (text : String) (signed : Bool) : Except Error Int := do
  let bs ← read text
  checkWidth bs.length
  return if signed then toInt bs else toNat bs

def ofDecimal (value : Int) (width : Nat) : Except Error String := do
  checkWidth width
  return write (ofNat (value % 2 ^ width).toNat width)

end Z16.BitString
