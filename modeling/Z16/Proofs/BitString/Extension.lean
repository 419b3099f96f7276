import Mathlib.Algebra.Divisibility.Basic
import Mathlib.Algebra.Order.Group.Unbundled.Int
import Z16.Bits
import Z16.Proofs.BitString

/-!
# Sign extension

In two's complement the leading bit counts for the negative of its power of two and every other bit for its power.
Repeating the leading bit keeps the number (`BitString.toInt_replicate_append`), and dropping leading bits keeps it
modulo the power of two of the bits that are left (`BitString.toNat_drop`). So texts of every length are brought to a
width by one law (`BitString.sign_extension_exact`).
-/

namespace Z16.BitString

/-- Every `1` of a text counts for the power of two of its place. -/
def unsignedValue : List Char → Int
  | [] => 0
  | c :: cs => (if c = '1' then 2 ^ cs.length else 0) + unsignedValue cs

/-- Like `unsignedValue`, but the leading place counts negatively. -/
def signedValue : List Char → Int
  | [] => 0
  | c :: cs => (if c = '1' then -2 ^ cs.length else 0) + unsignedValue cs

theorem unsignedValue_write (bs : List Bool) : unsignedValue (write bs).toList = toNat bs := by
  rw [toList_write]
  induction bs with
  | nil => rfl
  | cons b bs ih =>
    rw [List.map_cons, unsignedValue, ih, List.length_map, toNat_cons]
    cases b <;> simp

theorem signedValue_write (bs : List Bool) : signedValue (write bs).toList = toInt bs := by
  cases bs with
  | nil => rfl
  | cons b bs =>
    have rest := unsignedValue_write bs
    rw [toList_write] at rest ⊢
    rw [List.map_cons, signedValue, rest, List.length_map, toInt_cons]
    cases b <;> simp [Int.add_comm, Int.sub_eq_add_neg]

theorem toNat_append (as bs : List Bool) : toNat (as ++ bs) = 2 ^ bs.length * toNat as + toNat bs := by
  rw [toNat, List.foldl_append, foldl_eq]
  rfl

theorem toNat_drop (bs : List Bool) (k : Nat) : toNat (bs.drop k) = toNat bs % 2 ^ (bs.length - k) := by
  have split := toNat_append (bs.take k) (bs.drop k)
  have small := toNat_lt (bs.drop k)
  rw [List.take_append_drop] at split
  rw [List.length_drop] at split small
  rw [split, Nat.mul_add_mod, Nat.mod_eq_of_lt small]

theorem toInt_repeat (b : Bool) (bs : List Bool) : toInt (b :: b :: bs) = toInt (b :: bs) := by
  rw [toInt_cons, toInt_cons, toNat_cons, List.length_cons, Int.pow_succ]
  cases b <;> simp only [Bool.toNat_true, Bool.toNat_false] <;> push_cast <;> omega

theorem toInt_replicate_append (b : Bool) (bs : List Bool) (k : Nat) :
    toInt (List.replicate k b ++ b :: bs) = toInt (b :: bs) := by
  induction k generalizing bs with
  | zero => rfl
  | succ k ih =>
    rw [List.replicate_succ', List.append_assoc, List.singleton_append, ih, toInt_repeat]

theorem length_resize (bs : List Bool) (width : Nat) : (resize bs width).length = width := by
  unfold resize
  split
  · rw [List.length_drop]
    omega
  · rw [List.length_append, List.length_replicate]
    omega

theorem toInt_resize_emod {bs : List Bool} (nonempty : bs ≠ []) (width : Nat) :
    toInt (resize bs width) % 2 ^ width = toInt bs % 2 ^ width := by
  by_cases shorter : width ≤ bs.length
  · have low : toInt (resize bs width) % 2 ^ width = (toNat bs % 2 ^ width : Nat) := by
      have number := toInt_emod (resize bs width)
      rw [length_resize] at number
      rw [number, resize, if_pos shorter, toNat_drop, Nat.sub_sub_self shorter]
    have divides : (2 ^ width : Int) ∣ 2 ^ bs.length := pow_dvd_pow 2 shorter
    rw [low, ← Int.emod_emod_of_dvd _ divides, toInt_emod]
    push_cast
    rfl
  · obtain ⟨b, bs, rfl⟩ := List.exists_cons_of_ne_nil nonempty
    rw [resize, if_neg shorter, List.headD_cons, toInt_replicate_append]

structure Wraps (value : Int) (width : Nat) (n : Int) : Prop where
  lower : -2 ^ (width - 1) ≤ n
  upper : n ≤ 2 ^ (width - 1) - 1
  congruent : n % 2 ^ width = value % 2 ^ width

theorem Wraps.unique {value : Int} {width : Nat} (positive : 1 ≤ width) {m n : Int} (hm : Wraps value width m)
    (hn : Wraps value width n) : m = n := by
  have divides : (2 ^ width : Int) ∣ m - n :=
    Int.dvd_of_emod_eq_zero (Int.emod_eq_emod_iff_emod_sub_eq_zero.1 (hm.congruent.trans hn.congruent.symm))
  have double : (2 ^ width : Int) = 2 * 2 ^ (width - 1) := by
    rw [← Int.pow_succ', Nat.sub_add_cancel positive]
  have close : |m - n| < 2 ^ width := by
    have := hm.lower
    have := hm.upper
    have := hn.lower
    have := hn.upper
    rw [abs_lt, double]
    omega
  exact Int.sub_eq_zero.1 (Int.eq_zero_of_abs_lt_dvd divides close)

theorem wraps_toInt_resize {bs : List Bool} (nonempty : bs ≠ []) {width : Nat} (positive : 1 ≤ width) :
    Wraps (toInt bs) width (toInt (resize bs width)) := by
  have resized : resize bs width ≠ [] := by
    rw [← List.length_pos_iff, length_resize]
    exact positive
  have bounds := toInt_bounds resized
  rw [length_resize] at bounds
  exact ⟨bounds.1, Int.le_sub_one_of_lt bounds.2, toInt_resize_emod nonempty width⟩

theorem signExtend_write {bs : List Bool} (nonempty : bs ≠ []) (width : Nat) :
    signExtend (write bs) width = (checkWidth width).map fun _ => toInt (resize bs width) := by
  rw [signExtend, read_write nonempty]
  rfl

theorem read_of_malformed {text : String}
    (malformed : text = "" ∨ text.toList.any fun c => c ≠ '0' ∧ c ≠ '1') :
    read text = .error (.malformed text) := by
  refine if_neg ?_
  rintro ⟨filled, binary⟩
  rcases malformed with rfl | strange
  · exact filled String.toList_empty
  · obtain ⟨c, mem, other⟩ := List.any_eq_true.1 strange
    have bit := List.all_eq_true.1 binary c mem
    exact (of_decide_eq_true bit).elim (of_decide_eq_true other).1 (of_decide_eq_true other).2

/-- A text that is no bit string is refused, whatever the width, and then a width that is out of range. Every other
text is brought to the only number of the width that is congruent to its value. -/
theorem sign_extension_exact (text : String) (width : Nat) :
    if text = "" ∨ text.toList.any fun c => c ≠ '0' ∧ c ≠ '1' then
      signExtend text width = .error (.malformed text)
    else if ¬(1 ≤ width ∧ width ≤ 32) then signExtend text width = .error (.widthOutOfRange width)
    else ∃ n, signExtend text width = .ok n ∧ Wraps (signedValue text.toList) width n ∧
      ∀ m, Wraps (signedValue text.toList) width m → m = n := by
  split
  next malformed =>
    rw [signExtend, read_of_malformed malformed]
    rfl
  next wellFormed =>
    have binary : ∀ c ∈ text.toList, c = '0' ∨ c = '1' := by
      simpa [or_iff_not_imp_left] using (not_or.1 wellFormed).2
    obtain ⟨bs, rfl⟩ := exists_write binary
    have nonempty : bs ≠ [] := by
      rintro rfl
      exact wellFormed (.inl rfl)
    rw [signedValue_write, signExtend_write nonempty]
    split
    next unfit =>
      rw [checkWidth, if_neg unfit]
      rfl
    next fits =>
      rw [not_not] at fits
      rw [checkWidth_eq_ok fits]
      have wraps := wraps_toInt_resize nonempty fits.1
      exact ⟨_, rfl, wraps, fun m other => other.unique fits.1 wraps⟩

example : signExtend "10" 32 = .ok (-2) := rfl

end Z16.BitString
