import Mathlib.Algebra.Group.Int.Defs
import Mathlib.Algebra.Group.Nat.Defs
import Z16.Bits

namespace Z16.Word

def signed (w : Word) : Int := if w.toNat < 2 ^ 15 then w.toNat else w.toNat - 2 ^ 16

theorem toInt_toInt16_eq_bmod (w : Word) : w.toInt16.toInt = Int.bmod w.toNat (2 ^ 16) :=
  BitVec.toInt_eq_toNat_bmod w.toBitVec

theorem toInt_toInt16 (w : Word) : w.toInt16.toInt = w.signed := by
  have := w.toNat_lt
  rw [toInt_toInt16_eq_bmod, signed]
  simp only [Int.bmod]
  split <;> split <;> omega

def signedByte (b : Byte) : Int := if b.toNat < 2 ^ 7 then b.toNat else b.toNat - 2 ^ 8

theorem toInt_toInt8 (b : Byte) : b.toInt8.toInt = signedByte b := by
  have := b.toNat_lt
  show b.toBitVec.toInt = _
  rw [BitVec.toInt_eq_toNat_bmod, signedByte]
  simp only [UInt8.toNat_toBitVec, Int.bmod]
  split <;> split <;> omega

theorem toNat_ofInt (x : Int) : ((UInt16.ofInt x).toNat : Int) = x % 2 ^ 16 := by
  rw [UInt16.ofInt, UInt16.toNat_ofNat']
  omega

theorem toNat_ofNat (n : Nat) : ((UInt16.ofNat n).toNat : Int) = n % 2 ^ 16 := by
  rw [UInt16.toNat_ofNat']
  omega

theorem toNat_toUInt16 (v : Int16) : (v.toUInt16.toNat : Int) = v.toInt % 2 ^ 16 := by
  show (v.toBitVec.toNat : Int) = v.toBitVec.toInt % 2 ^ 16
  rw [BitVec.toInt_eq_toNat_bmod]
  have := v.toBitVec.isLt
  simp only [Int.bmod_def]
  split <;> omega

theorem ofInt_toInt (v : Int16) : UInt16.ofInt v.toInt = v.toUInt16 := by
  apply UInt16.toNat.inj
  have := toNat_ofInt v.toInt
  have := toNat_toUInt16 v
  omega

theorem ofInt_toNat (w : Word) : UInt16.ofInt w.toNat = w := by
  apply UInt16.toNat.inj
  have := toNat_ofInt w.toNat
  have := w.toNat_lt
  omega

theorem toNat_add (x y : Word) : ((x + y).toNat : Int) = (x.toNat + y.toNat) % 2 ^ 16 := by
  rw [UInt16.toNat_add]
  omega

theorem toNat_ofBytes (low high : Byte) : (ofBytes low high).toNat = low.toNat + 256 * high.toNat := by
  have := low.toNat_lt
  have := high.toNat_lt
  simp [ofBytes]
  omega

theorem toUInt8_eq_ofNat (w : Word) : w.toUInt8 = .ofNat (w.toNat % 256) := by
  apply UInt8.toNat.inj
  simp

theorem toUInt8_shiftRight_eq_ofNat (w : Word) : (w >>> 8).toUInt8 = .ofNat (w.toNat / 256) := by
  apply UInt8.toNat.inj
  simp [Nat.shiftRight_eq_div_pow]

theorem add_one_ne (w : Word) : w + 1 ≠ w := by
  intro same
  have := toNat_add w 1
  rw [same] at this
  have := w.toNat_lt
  have : (1 : Word).toNat = 1 := rfl
  omega

theorem toNat_sub (x y : Word) : ((x - y).toNat : Int) = (x.toNat - y.toNat) % 2 ^ 16 := by
  have := y.toNat_lt
  rw [UInt16.toNat_sub]
  omega

theorem toNat_emod (w : Word) : (w.toNat : Int) % 2 ^ 16 = w.toNat := by
  have := w.toNat_lt
  omega

theorem toNat_decide {p q : Prop} [Decidable p] [Decidable q] (same : p ↔ q) :
    ((decide p).toUInt16.toNat : Int) = (if q then 1 else 0) % 2 ^ 16 := by
  by_cases h : p
  · rw [decide_eq_true h, if_pos (same.1 h)]
    rfl
  · rw [decide_eq_false h, if_neg (mt same.2 h)]
    rfl

theorem toInt16_lt (x : Word) (v : Int16) : x.toInt16 < v ↔ x.signed < v.toInt := by
  rw [Int16.lt_iff_toInt_lt, toInt_toInt16]

theorem toNat_and_fifteen (k : Word) : (k &&& 15).toNat = k.toNat % 16 := by
  rw [UInt16.toNat_and]
  exact Nat.and_two_pow_sub_one_eq_mod k.toNat 4

theorem toNat_shiftLeft (x : Word) {k : Word} (small : k.toNat < 16) :
    ((x <<< k).toNat : Int) = x.toNat * 2 ^ k.toNat % 2 ^ 16 := by
  rw [UInt16.toNat_shiftLeft, Nat.mod_eq_of_lt small, Nat.shiftLeft_eq, Int.natCast_emod,
    Int.natCast_mul, Int.natCast_pow]
  rfl

theorem toInt_shiftLeft (x : Word) {k : Word} {n : Nat} (positive : 1 ≤ n) (amount : k.toNat + n = 16) :
    (x <<< k).toInt16.toInt = 2 ^ k.toNat * Int.bmod x.toNat (2 ^ n) := by
  have whole : 2 ^ 16 = 2 ^ k.toNat * 2 ^ n := by rw [← Nat.pow_add, amount]
  -- The middle of an even range is scaled with it, so the sign is the same before and after.
  have even : 2 ∣ 2 ^ n := Nat.pow_dvd_pow 2 positive
  calc (x <<< k).toInt16.toInt
    _ = Int.bmod (x <<< k).toNat (2 ^ 16) := toInt_toInt16_eq_bmod _
    _ = Int.bmod (x.toNat * 2 ^ k.toNat) (2 ^ 16) := by
      rw [toNat_shiftLeft x (by omega)]
      exact Int.emod_bmod _ _
    _ = Int.bmod ((2 ^ k.toNat : Nat) * x.toNat) (2 ^ k.toNat * 2 ^ n) := by
      rw [whole, Int.mul_comm, Int.natCast_pow]
      rfl
    _ = (2 ^ k.toNat : Nat) * Int.bmod x.toNat (2 ^ n) :=
      Int.mod_bmod_mul_of_pos _ _ (Nat.two_pow_pos _) even
    _ = 2 ^ k.toNat * Int.bmod x.toNat (2 ^ n) := by
      rw [Int.natCast_pow]
      rfl

theorem toNat_shiftRight (x : Word) {k : Word} (small : k.toNat < 16) :
    ((x >>> k).toNat : Int) = x.toNat / 2 ^ k.toNat := by
  rw [UInt16.toNat_shiftRight, Nat.mod_eq_of_lt small, Nat.shiftRight_eq_div_pow, Int.natCast_ediv,
    Int.natCast_pow]
  rfl

theorem toInt_shiftRight (v : Int16) {k : Word} (small : k.toNat < 16) :
    (v >>> k.toInt16).toInt = v.toInt / 2 ^ k.toNat := by
  have amount : (k.toInt16.toBitVec.smod 16).toNat = k.toNat := by
    have fixed : ∀ n < 16, ((BitVec.ofNat 16 n).smod 16).toNat = n := by decide
    have := fixed k.toNat small
    rwa [← UInt16.toNat_toBitVec, BitVec.ofNat_toNat, BitVec.setWidth_eq] at this
  rw [← Int16.toInt_toBitVec, Int16.toBitVec_shiftRight, BitVec.toInt_sshiftRight', amount,
    Int.shiftRight_eq_div_pow]
  rfl

end Z16.Word
