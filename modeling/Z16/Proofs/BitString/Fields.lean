import Z16.Proofs.BitString.Extension
import Z16.Proofs.Word

/-!
# The fields of a word and of its text

A field of a word is cut out by a shift and a mask (`bits_eq_and_lowMask`), and its low bits get a sign by a shift to
the top of the word and one back down (`sext_eq_shiftRight`). In the text of the word the same field is a piece of the
digits, which form its number divided and reduced by powers of two (`BitString.toNat_places`), and digits with a sign
stand for the balanced remainder of their number (`BitString.toInt_eq_bmod`). So the word and its text have the same
fields (`BitString.fields_of_digits`).
-/

namespace Z16

/-- The word whose low `width` bits are set. The power of two is formed in 32 bits, since it does not fit a word when
all bits are set. -/
def lowMask (width : Nat) : Word := ((1 : UInt32) <<< .ofNat width - 1).toUInt16

theorem toNat_lowMask {width : Nat} (fits : width ≤ 16) : (lowMask width).toNat = 2 ^ width - 1 := by
  have positive : 0 < 2 ^ width := Nat.two_pow_pos width
  have bound : 2 ^ width ≤ 2 ^ 16 := Nat.pow_le_pow_right (by decide) fits
  have amount : (UInt32.ofNat width).toNat % 32 = width := by
    rw [UInt32.toNat_ofNat']
    omega
  have power : ((1 : UInt32) <<< UInt32.ofNat width).toNat = 2 ^ width := by
    rw [UInt32.toNat_shiftLeft, amount, Nat.shiftLeft_eq, UInt32.toNat_one, Nat.one_mul]
    omega
  have reached : (1 : UInt32) ≤ 1 <<< UInt32.ofNat width := by
    rw [UInt32.le_iff_toNat_le, power]
    exact positive
  rw [lowMask, UInt32.toNat_toUInt16, UInt32.toNat_sub_of_le _ _ reached, power, UInt32.toNat_one]
  omega

theorem bits_eq_and_lowMask (v : Word) {hi lo : Nat} (ordered : lo ≤ hi) (within : hi ≤ 15) :
    bits v hi lo = v >>> .ofNat lo &&& lowMask (hi + 1 - lo) := by
  have amount : (UInt16.ofNat lo).toNat % 16 = lo := by
    rw [UInt16.toNat_ofNat']
    omega
  apply UInt16.toNat.inj
  rw [toNat_bits, UInt16.toNat_and, UInt16.toNat_shiftRight, amount, toNat_lowMask (by omega),
    Nat.and_two_pow_sub_one_eq_mod, Nat.shiftRight_eq_div_pow]

theorem sext_eq_shiftRight (v : Word) {n : Nat} (positive : 1 ≤ n) (fits : n ≤ 16) :
    sext v n = (v <<< .ofNat (16 - n)).toInt16 >>> .ofNat (16 - n) := by
  let k : Word := .ofNat (16 - n)
  have amount : k.toNat + n = 16 := by
    rw [UInt16.toNat_ofNat']
    omega
  apply Int16.toInt_inj.1
  show _ = ((v <<< k).toInt16 >>> k.toInt16).toInt
  rw [toInt_sext v fits, Word.toInt_shiftRight _ (by omega), Word.toInt_shiftLeft v positive amount]
  exact (Int.mul_ediv_cancel_left _ (Int.ne_of_gt (Int.pow_pos (by decide)))).symm

namespace BitString

/-- The entries at places `hi` down to `lo`. The last entry of a list has place 0. -/
def places {α : Type} (xs : List α) (hi lo : Nat) : List α :=
  (xs.drop (xs.length - 1 - hi)).take (hi + 1 - lo)

theorem places_map {α β : Type} (f : α → β) (xs : List α) (hi lo : Nat) :
    places (xs.map f) hi lo = (places xs hi lo).map f := by
  rw [places, places, List.length_map, List.map_take, List.map_drop]

theorem length_places {α : Type} {xs : List α} {hi lo : Nat} (within : hi < xs.length) :
    (places xs hi lo).length = hi + 1 - lo := by
  rw [places, List.length_take, List.length_drop]
  omega

theorem toNat_take (bs : List Bool) (k : Nat) : toNat (bs.take k) = toNat bs / 2 ^ (bs.length - k) := by
  have split := toNat_append (bs.take k) (bs.drop k)
  have small := toNat_lt (bs.drop k)
  rw [List.take_append_drop] at split
  rw [List.length_drop] at split small
  rw [split, Nat.mul_add_div (Nat.two_pow_pos _), Nat.div_eq_of_lt small, Nat.add_zero]

theorem toNat_places {bs : List Bool} {hi lo : Nat} (ordered : lo ≤ hi) (within : hi < bs.length) :
    toNat (places bs hi lo) = toNat bs / 2 ^ lo % 2 ^ (hi + 1 - lo) := by
  have kept : bs.length - (bs.length - 1 - hi) = hi + 1 := by omega
  have cut : hi + 1 - (hi + 1 - lo) = lo := by omega
  have parts : 2 ^ (hi + 1) = 2 ^ lo * 2 ^ (hi + 1 - lo) := by
    rw [← Nat.pow_add, Nat.add_sub_cancel' (by omega)]
  rw [places, toNat_take, List.length_drop, toNat_drop, kept, cut, parts, Nat.mod_mul_right_div_self]

theorem toInt_eq_bmod (bs : List Bool) : toInt bs = Int.bmod (toNat bs) (2 ^ bs.length) := by
  cases bs with
  | nil => rfl
  | cons b bs =>
    -- The range of the digits is the range of the balanced remainder, and there is one congruent number in it.
    have bounds := toInt_bounds (List.cons_ne_nil b bs)
    have congruent := toInt_emod (b :: bs)
    rw [List.length_cons, Nat.add_sub_cancel] at bounds
    rw [List.length_cons] at congruent ⊢
    have double : ((2 ^ (bs.length + 1) : Nat) : Int) = 2 * 2 ^ bs.length := by rw [Int.natCast_pow, Int.pow_succ']; rfl
    calc toInt (b :: bs)
      _ = (toInt (b :: bs)).bmod (2 ^ (bs.length + 1)) :=
        (Int.bmod_eq_of_le_mul_two (by omega) (by omega)).symm
      _ = (toInt (b :: bs) % (2 ^ (bs.length + 1) : Nat)).bmod (2 ^ (bs.length + 1)) := (Int.emod_bmod _ _).symm
      _ = Int.bmod (toNat (b :: bs)) (2 ^ (bs.length + 1)) := by
        rw [Int.natCast_pow, Int.cast_ofNat_Int, congruent]

def slice (text : String) (hi lo : Nat) : String := .ofList (places text.toList hi lo)

theorem slice_write (bs : List Bool) (hi lo : Nat) : slice (write bs) hi lo = write (places bs hi lo) := by
  rw [slice, toList_write, places_map, write]

theorem toDecimal_slice {bs : List Bool} {hi lo : Nat} (ordered : lo ≤ hi) (within : hi < bs.length)
    (fits : bs.length ≤ 32) :
    toDecimal (slice (write bs) hi lo) false = .ok (toNat bs / 2 ^ lo % 2 ^ (hi + 1 - lo) : Nat) := by
  have size : (places bs hi lo).length = hi + 1 - lo := length_places within
  have sizeFits : 1 ≤ (places bs hi lo).length ∧ (places bs hi lo).length ≤ 32 := by omega
  rw [slice_write, toDecimal_write sizeFits, if_neg Bool.false_ne_true, toNat_places ordered within]

theorem signExtend_of_le {bs : List Bool} {width : Nat} (positive : 1 ≤ width) (shorter : width ≤ bs.length)
    (fits : width ≤ 32) : signExtend (write bs) width = .ok (Int.bmod (toNat bs) (2 ^ width)) := by
  have nonempty : bs ≠ [] := List.length_pos_iff.1 (Nat.lt_of_lt_of_le positive shorter)
  have number : toInt (resize bs width) = Int.bmod (toNat bs) (2 ^ width) := by
    rw [toInt_eq_bmod, length_resize, resize, if_pos shorter, toNat_drop, Nat.sub_sub_self shorter,
      Int.natCast_emod, Int.emod_bmod]
  rw [signExtend_write nonempty, checkWidth_eq_ok ⟨positive, fits⟩, number]
  rfl

/-- The fields of a word, cut out of it by shifts, are the numbers that the digits at their places write, at every
position and width; and its low bits with a sign are what its text gives when it is cut to as many digits. -/
theorem fields_of_digits (v : Word) :
    ∃ digits, ofDecimal v.toNat 16 = .ok digits ∧
      (∀ hi lo, lo ≤ hi → hi ≤ 15 →
        bits v hi lo = v >>> .ofNat lo &&& lowMask (hi + 1 - lo) ∧
        toDecimal (slice digits hi lo) false = .ok (bits v hi lo).toNat) ∧
      ∀ n, 1 ≤ n → n ≤ 16 →
        sext v n = (v <<< .ofNat (16 - n)).toInt16 >>> .ofNat (16 - n) ∧
        signExtend digits n = .ok (sext v n).toInt := by
  let bs := ofNat v.toNat 16
  have length : bs.length = 16 := length_ofNat _ _
  have number : toNat bs = v.toNat := by rw [toNat_ofNat, Nat.mod_eq_of_lt v.toNat_lt]
  have written : ofDecimal v.toNat 16 = .ok (write bs) := by
    rw [ofDecimal_eq_ok (by decide), Word.toNat_emod, Int.toNat_natCast]
  refine ⟨write bs, written, ?field, ?extension⟩
  case field =>
    intro hi lo ordered within
    refine ⟨bits_eq_and_lowMask v ordered within, ?_⟩
    rw [toDecimal_slice ordered (by omega) (by omega), number, toNat_bits]
  case extension =>
    intro n positive fits
    refine ⟨sext_eq_shiftRight v positive fits, ?_⟩
    rw [signExtend_of_le positive (by omega) (by omega), number, toInt_sext v fits]

theorem fields_of_digits_wholeWord :
    (0 ≤ 15 ∧ 15 ≤ 15) ∧ (1 ≤ 16 ∧ 16 ≤ 16) ∧
      toDecimal (slice "1010011011001011" 15 0) false = .ok 42699 ∧
      signExtend "1010011011001011" 16 = .ok (-22837) := by
  have written : ofDecimal (0xA6CB : Word).toNat 16 = .ok "1010011011001011" := by decide
  obtain ⟨digits, same, field, extension⟩ := fields_of_digits 0xA6CB
  obtain rfl : "1010011011001011" = digits := Except.ok.inj (written.symm.trans same)
  exact ⟨by decide, by decide, (field 15 0 (by decide) (by decide)).2, (extension 16 (by decide) (by decide)).2⟩

end BitString

end Z16
