/-!
# Texts

Numbers in hexadecimal digits, texts without the blanks around them, and bytes read as UTF-8: well-formed
sequences become their characters, and at a byte where none starts, the longest run of bytes that begins a
well-formed sequence, or else that single byte, is replaced by U+FFFD.
-/

namespace Z16.Text

def hex (least n : Nat) : String :=
  .ofList (((Nat.toDigits 16 n).map Char.toUpper).leftpad least '0')

/-- Whether `c` has the property `White_Space`. -/
def isBlank (c : Char) : Bool :=
  let n := c.toNat
  (9 ≤ n && n ≤ 13) || n == 0x20 || n == 0x85 || n == 0xA0 || n == 0x1680 ||
    (0x2000 ≤ n && n ≤ 0x200A) || n == 0x2028 || n == 0x2029 || n == 0x202F || n == 0x205F ||
    n == 0x3000

def strip (cs : List Char) : List Char :=
  ((cs.dropWhile isBlank).reverse.dropWhile isBlank).reverse

/-- Whether `second` continues a sequence of three or four bytes that starts with `first`. -/
def continues (first second : UInt8) : Bool :=
  let low : UInt8 := if first = 0xE0 then 0xA0 else if first = 0xF0 then 0x90 else 0x80
  let high : UInt8 := if first = 0xED then 0x9F else if first = 0xF4 then 0x8F else 0xBF
  0xE0 ≤ first && first ≤ 0xF4 && low ≤ second && second ≤ high

/-- The number of bytes at `i` that one U+FFFD stands for, given that no character starts there. -/
def brokenLength (bytes : ByteArray) (i : Nat) : Nat :=
  match bytes[i]?, bytes[i + 1]? with
  | some first, some second =>
    if continues first second then
      if 0xF0 ≤ first && bytes[i + 2]?.any (fun third => 0x80 ≤ third && third ≤ 0xBF) then 3 else 2
    else 1
  | _, _ => 1

theorem brokenLength_pos (bytes : ByteArray) (i : Nat) : 0 < brokenLength bytes i := by
  unfold brokenLength
  repeat' split
  all_goals decide

def decodeFrom (bytes : ByteArray) (i : Nat) (done : String) : String :=
  if i < bytes.size then
    match bytes.utf8DecodeChar? i with
    | some c => decodeFrom bytes (i + c.utf8Size) (done.push c)
    | none => decodeFrom bytes (i + brokenLength bytes i) (done.push '\uFFFD')
  else done
termination_by bytes.size - i
decreasing_by
  · have := c.utf8Size_pos; omega
  · have := brokenLength_pos bytes i; omega

def decodeUtf8 (bytes : List UInt8) : String :=
  decodeFrom bytes.toByteArray 0 ""

example : decodeUtf8 [0x68, 0xC3, 0xA9, 0xF0, 0x9F, 0x41] = "hé\uFFFDA" := by decide +kernel

end Z16.Text
