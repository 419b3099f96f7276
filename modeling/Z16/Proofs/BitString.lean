import Mathlib.Algebra.Group.Int.Defs
import Mathlib.Algebra.Group.Nat.Defs
import Z16.BitString

/-!
# Numbers as bit strings

The bits of one length and the numbers below a power of two determine each other (`BitString.toNat_ofNat`,
`BitString.ofNat_toNat`). Read with a sign, bits stand for the integer in the range of their length that is
congruent to the number that they form (`BitString.toInt_bounds`, `BitString.toInt_emod`). So a text of bits and its
number are converted into each other without loss (`BitString.conversions_inverse`).
-/

namespace Z16.BitString

theorem foldl_eq (n : Nat) (bs : List Bool) :
    bs.foldl (fun n b => 2 * n + b.toNat) n = 2 ^ bs.length * n + toNat bs := by
  induction bs generalizing n with
  | nil => simp [toNat]
  | cons b bs ih =>
    rw [toNat, List.foldl_cons, List.foldl_cons, ih, ih, List.length_cons, Nat.pow_succ]
    simp only [Nat.mul_add, Nat.mul_zero, Nat.zero_add, Nat.mul_assoc, Nat.add_assoc]

theorem toNat_cons (b : Bool) (bs : List Bool) :
    toNat (b :: bs) = 2 ^ bs.length * b.toNat + toNat bs := by
  rw [toNat, List.foldl_cons, foldl_eq, Nat.mul_zero, Nat.zero_add]

theorem toNat_lt (bs : List Bool) : toNat bs < 2 ^ bs.length := by
  induction bs with
  | nil => exact Nat.one_pos
  | cons b bs ih =>
    rw [toNat_cons, List.length_cons, Nat.pow_succ]
    cases b <;> simp only [Bool.toNat_false, Bool.toNat_true] <;> omega

theorem length_ofNat (n width : Nat) : (ofNat n width).length = width := by
  induction width with
  | zero => rfl
  | succ width ih => rw [ofNat, List.length_cons, ih]

theorem ofNat_ne_nil (n : Nat) {width : Nat} (positive : 1 ≤ width) : ofNat n width ≠ [] := by
  rw [← List.length_pos_iff, length_ofNat]
  exact positive

theorem toNat_ofNat (n width : Nat) : toNat (ofNat n width) = n % 2 ^ width := by
  induction width with
  | zero => rw [Nat.pow_zero, Nat.mod_one]; rfl
  | succ width ih =>
    rw [ofNat, toNat_cons, length_ofNat, ih, Nat.toNat_testBit, Nat.pow_succ, Nat.mod_mul, Nat.add_comm]

theorem toNat_inj {as bs : List Bool} (length : as.length = bs.length) (same : toNat as = toNat bs) :
    as = bs := by
  induction as generalizing bs with
  | nil => exact (List.length_eq_zero_iff.1 length.symm).symm
  | cons a as ih =>
    obtain ⟨b, bs, rfl⟩ := List.exists_cons_of_length_eq_add_one length.symm
    have shorter : as.length = bs.length := Nat.succ.inj length
    have low := toNat_lt as
    have low' := toNat_lt bs
    rw [toNat_cons, toNat_cons, shorter] at same
    rw [shorter] at low
    -- The first bit tells whether the number reaches the power of two that bounds the rest.
    cases a <;> cases b <;> simp only [Bool.toNat_false, Bool.toNat_true] at same
    · rw [ih shorter (by omega)]
    · omega
    · omega
    · rw [ih shorter (by omega)]

theorem ofNat_toNat (bs : List Bool) : ofNat (toNat bs) bs.length = bs := by
  apply toNat_inj (length_ofNat _ _)
  rw [toNat_ofNat, Nat.mod_eq_of_lt (toNat_lt bs)]

theorem toInt_cons (b : Bool) (bs : List Bool) :
    toInt (b :: bs) = toNat bs - 2 ^ bs.length * (b.toNat : Int) := by
  rw [toInt, List.headD_cons, toNat_cons, List.length_cons, Int.pow_succ]
  cases b
  · simp
  · simp only [if_true, Bool.toNat_true]
    push_cast
    omega

theorem toInt_bounds {bs : List Bool} (nonempty : bs ≠ []) :
    -2 ^ (bs.length - 1) ≤ toInt bs ∧ toInt bs < 2 ^ (bs.length - 1) := by
  obtain ⟨b, bs, rfl⟩ := List.exists_cons_of_ne_nil nonempty
  have low : (toNat bs : Int) < 2 ^ bs.length := by exact_mod_cast toNat_lt bs
  rw [toInt_cons, List.length_cons, Nat.add_sub_cancel]
  cases b <;> simp only [Bool.toNat_false, Bool.toNat_true] <;> omega

theorem toNat_emod (bs : List Bool) : (toNat bs : Int) % 2 ^ bs.length = toNat bs :=
  Int.emod_eq_of_lt (Int.natCast_nonneg _) (by exact_mod_cast toNat_lt bs)

theorem toInt_emod (bs : List Bool) : toInt bs % 2 ^ bs.length = toNat bs := by
  rw [toInt]
  split
  · rw [Int.sub_emod_right, toNat_emod]
  · exact toNat_emod bs

theorem toList_write (bs : List Bool) : (write bs).toList = bs.map fun b => if b then '1' else '0' :=
  String.toList_ofList

theorem length_write (bs : List Bool) : (write bs).length = bs.length := by
  rw [← String.length_toList, toList_write, List.length_map]

theorem binary_write (bs : List Bool) : ∀ c ∈ (write bs).toList, c = '0' ∨ c = '1' := by
  simp only [toList_write, List.forall_mem_map]
  intro b _
  cases b
  · exact .inl rfl
  · exact .inr rfl

theorem read_write {bs : List Bool} (nonempty : bs ≠ []) : read (write bs) = .ok bs := by
  have binary : (write bs).toList ≠ [] ∧ (write bs).toList.all (fun c => c = '0' ∨ c = '1') := by
    refine ⟨by simpa [toList_write] using nonempty, ?_⟩
    simpa using binary_write bs
  have back : ((write bs).toList.map fun c => decide (c = '1')) = bs := by
    rw [toList_write, List.map_map]
    refine (List.map_congr_left fun b _ => ?_).trans (List.map_id bs)
    cases b <;> rfl
  rw [read, if_pos binary, back]

theorem exists_write {text : String} (binary : ∀ c ∈ text.toList, c = '0' ∨ c = '1') :
    ∃ bs, text = write bs := by
  refine ⟨text.toList.map (· = '1'), String.toList_inj.1 ?_⟩
  rw [toList_write, List.map_map]
  refine ((List.map_congr_left fun c mem => ?_).trans (List.map_id _)).symm
  rcases binary c mem with rfl | rfl <;> rfl

theorem checkWidth_eq_ok {width : Nat} (fits : 1 ≤ width ∧ width ≤ 32) : checkWidth width = .ok () :=
  if_pos fits

theorem ofDecimal_eq_ok {width : Nat} (fits : 1 ≤ width ∧ width ≤ 32) (value : Int) :
    ofDecimal value width = .ok (write (ofNat (value % 2 ^ width).toNat width)) := by
  rw [ofDecimal, checkWidth_eq_ok fits]
  rfl

theorem toDecimal_write {bs : List Bool} (fits : 1 ≤ bs.length ∧ bs.length ≤ 32) (signed : Bool) :
    toDecimal (write bs) signed = .ok (if signed then toInt bs else toNat bs) := by
  rw [toDecimal, read_write (List.length_pos_iff.1 fits.1)]
  show (checkWidth bs.length >>= _) = _
  rw [checkWidth_eq_ok fits]
  rfl

theorem toNat_ofNat_emod (value : Int) (width : Nat) :
    (toNat (ofNat (value % 2 ^ width).toNat width) : Int) = value % 2 ^ width := by
  have positive : (0 : Int) < 2 ^ width := Int.pow_pos (by decide)
  rw [toNat_ofNat, Int.natCast_emod, Int.toNat_of_nonneg (Int.emod_nonneg _ (Int.ne_of_gt positive))]
  push_cast
  exact Int.emod_emod_of_dvd _ (Int.dvd_refl _)

/-- A number is written in as many bits as are asked for, from 1 to 32, and the text is read as the number modulo
the power of two, without a sign or with one. A text of at most 32 bits is written again from what it is read as,
either way. -/
theorem conversions_inverse (value : Int) (width : Nat) (text : String) (signed : Bool) :
    (if 1 ≤ width ∧ width ≤ 32 then
      ∃ digits, ofDecimal value width = .ok digits ∧
        digits.length = width ∧ (∀ c ∈ digits.toList, c = '0' ∨ c = '1') ∧
        toDecimal digits false = .ok (value % 2 ^ width) ∧
        ∃ n, toDecimal digits true = .ok n ∧
          -2 ^ (width - 1) ≤ n ∧ n ≤ 2 ^ (width - 1) - 1 ∧ n % 2 ^ width = value % 2 ^ width
    else ofDecimal value width = .error (.widthOutOfRange width)) ∧
    ((1 ≤ text.length ∧ text.length ≤ 32) ∧ (∀ c ∈ text.toList, c = '0' ∨ c = '1') →
      ∃ n, toDecimal text signed = .ok n ∧ ofDecimal n text.length = .ok text) := by
  constructor
  · by_cases fits : 1 ≤ width ∧ width ≤ 32
    · let bs := ofNat (value % 2 ^ width).toNat width
      have length : bs.length = width := length_ofNat _ _
      have number : (toNat bs : Int) = value % 2 ^ width := toNat_ofNat_emod value width
      have bounds := toInt_bounds (ofNat_ne_nil (value % 2 ^ width).toNat fits.1)
      have congruent := toInt_emod bs
      have converted (signed : Bool) : toDecimal (write bs) signed = .ok (if signed then toInt bs else toNat bs) :=
        toDecimal_write (length.symm ▸ fits) signed
      rw [length] at bounds congruent
      rw [number] at congruent converted
      rw [if_pos fits]
      exact ⟨write bs, ofDecimal_eq_ok fits value, (length_write bs).trans length, binary_write bs,
        converted false, toInt bs, converted true, bounds.1, Int.le_sub_one_of_lt bounds.2, congruent⟩
    · rw [if_neg fits, ofDecimal, checkWidth, if_neg fits]
      rfl
  · rintro ⟨fits, binary⟩
    obtain ⟨bs, rfl⟩ := exists_write binary
    rw [length_write] at fits ⊢
    refine ⟨_, toDecimal_write fits signed, ?_⟩
    have number : (if signed then toInt bs else (toNat bs : Int)) % 2 ^ bs.length = toNat bs := by
      cases signed
      · exact toNat_emod bs
      · exact toInt_emod bs
    rw [ofDecimal_eq_ok fits, number, Int.toNat_natCast, ofNat_toNat]

theorem conversions_inverse_smallest :
    (1 ≤ "1000".length ∧ "1000".length ≤ 32) ∧ (∀ c ∈ "1000".toList, c = '0' ∨ c = '1') ∧
      ofDecimal (-8) 4 = .ok "1000" := by
  have fits : 1 ≤ "1000".length ∧ "1000".length ≤ 32 := by decide
  have binary : ∀ c ∈ "1000".toList, c = '0' ∨ c = '1' := binary_write [true, false, false, false]
  obtain ⟨n, read, written⟩ := (conversions_inverse (-8) 4 "1000" true).2 ⟨fits, binary⟩
  have number : toDecimal "1000" true = .ok (-8) := rfl
  obtain rfl : n = -8 := Except.ok.inj (read.symm.trans number)
  exact ⟨fits, binary, written⟩

end Z16.BitString
