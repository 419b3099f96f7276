/-!
# Words

Registers, addresses and instructions are 16-bit words. A word is cut into fields by position:
`bits v hi lo` is the number that bits `hi … lo` form, and `sext v n` reads the low `n` bits as a
two's-complement number. In memory a word is two bytes, the low one first.
-/

namespace Z16

-- Where more instances of powers are known, a power of numbers is still the one of the core library.
attribute [local instance(high)] instPowNat

/-- A register value, an address or an encoded instruction. -/
abbrev Word := UInt16

abbrev Byte := UInt8

def bits (v : Word) (hi lo : Nat) : Word :=
  .ofNat (v.toNat / 2 ^ lo % 2 ^ (hi + 1 - lo))

@[simp]
theorem toNat_bits (v : Word) (hi lo : Nat) :
    (bits v hi lo).toNat = v.toNat / 2 ^ lo % 2 ^ (hi + 1 - lo) := by
  have small : v.toNat / 2 ^ lo % 2 ^ (hi + 1 - lo) < UInt16.size :=
    Nat.lt_of_le_of_lt (Nat.le_trans (Nat.mod_le _ _) (Nat.div_le_self _ _)) v.toNat_lt
  exact UInt16.toNat_ofNat_of_lt small

def sext (v : Word) (n : Nat) : Int16 :=
  .ofInt (Int.bmod v.toNat (2 ^ n))

theorem toInt_sext (v : Word) {n : Nat} (h : n ≤ 16) :
    (sext v n).toInt = Int.bmod v.toNat (2 ^ n) := by
  have positive : 0 < 2 ^ n := Nat.two_pow_pos n
  have bound : 2 ^ n ≤ 2 ^ 16 := Nat.pow_le_pow_right (by decide) h
  have low := Int.le_bmod (x := v.toNat) positive
  have high := Int.bmod_lt (x := v.toNat) positive
  rw [sext, Int16.toInt_ofInt]
  generalize 2 ^ n = m at *
  apply Int.bmod_eq_of_le <;> simp only [Int16.size] <;> omega

def Word.toBytes (w : Word) : List Byte := [w.toUInt8, (w >>> 8).toUInt8]

def Word.ofBytes (low high : Byte) : Word := low.toUInt16 + high.toUInt16 * 256

theorem Word.ofBytes_toBytes (w : Word) : Word.ofBytes w.toUInt8 (w >>> 8).toUInt8 = w := by
  apply UInt16.toNat.inj
  have := w.toNat_lt
  simp [Word.ofBytes, Nat.shiftRight_eq_div_pow]
  omega

def bytesOfWords (ws : List Word) : List Byte := ws.flatMap Word.toBytes

@[simp]
theorem bytesOfWords_cons (w : Word) (ws : List Word) :
    bytesOfWords (w :: ws) = w.toUInt8 :: (w >>> 8).toUInt8 :: bytesOfWords ws := rfl

@[simp]
theorem length_bytesOfWords (ws : List Word) : (bytesOfWords ws).length = 2 * ws.length := by
  induction ws with
  | nil => rfl
  | cons w ws ih => simp [ih]; omega

/-- The words of a sequence of bytes; a last byte without a partner is dropped. -/
def wordsOfBytes : List Byte → List Word
  | low :: high :: rest => Word.ofBytes low high :: wordsOfBytes rest
  | _ => []

@[simp]
theorem wordsOfBytes_bytesOfWords (ws : List Word) : wordsOfBytes (bytesOfWords ws) = ws := by
  induction ws with
  | nil => rfl
  | cons w ws ih => simp [wordsOfBytes, Word.ofBytes_toBytes, ih]

end Z16
