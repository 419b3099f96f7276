import Mathlib.Algebra.Group.Int.Defs
import Mathlib.Algebra.Group.Nat.Defs
import Z16.Text

namespace Z16.Text

def digitValue (c : Char) : Nat := if c.isDigit then c.toNat - 48 else c.toNat - 55

def readHex (cs : List Char) : Nat := cs.foldl (fun n c => 16 * n + digitValue c) 0

theorem digitValue_toUpper : ∀ d < 16, digitValue (Nat.digitChar d).toUpper = d := by decide

theorem isAlphanum_toUpper : ∀ d < 16, (Nat.digitChar d).toUpper.isAlphanum = true := by decide

theorem readHex_concat (cs : List Char) (c : Char) :
    readHex (cs ++ [c]) = 16 * readHex cs + digitValue c := by
  simp [readHex]

theorem readHex_zeros (k : Nat) (cs : List Char) :
    readHex (List.replicate k '0' ++ cs) = readHex cs := by
  induction k with
  | zero => rfl
  | succ k ih => rw [← ih, List.replicate_succ, List.cons_append]; rfl

theorem toDigits_concat {n : Nat} (large : 16 ≤ n) :
    Nat.toDigits 16 n = Nat.toDigits 16 (n / 16) ++ [Nat.digitChar (n % 16)] :=
  Nat.toDigits_of_base_le (by decide) large

theorem readHex_toDigits (n : Nat) : readHex ((Nat.toDigits 16 n).map Char.toUpper) = n := by
  induction n using Nat.strongRecOn with
  | ind n ih =>
    by_cases small : n < 16
    · rw [Nat.toDigits_of_lt_base small]
      simpa [readHex] using digitValue_toUpper n small
    · have last := digitValue_toUpper (n % 16) (Nat.mod_lt n (by decide))
      rw [toDigits_concat (by omega), List.map_append, List.map_singleton, readHex_concat, last,
        ih (n / 16) (by omega), Nat.div_add_mod]

theorem readHex_hex (least n : Nat) : readHex (hex least n).toList = n := by
  rw [hex, String.toList_ofList, List.leftpad, readHex_zeros, readHex_toDigits]

def hexDigits : (width n : Nat) → List Char
  | 0, _ => []
  | width + 1, n => hexDigits width (n / 16) ++ ["0123456789ABCDEF".toList.getD (n % 16) ' ']

theorem toUpper_digitChar :
    ∀ d < 16, (Nat.digitChar d).toUpper = "0123456789ABCDEF".toList.getD d ' ' := by decide

theorem hexDigits_zero (width : Nat) : hexDigits width 0 = List.replicate width '0' := by
  induction width with
  | zero => rfl
  | succ width ih =>
    rw [hexDigits, Nat.zero_div, ih, List.replicate_succ']
    rfl

theorem leftpad_concat (width : Nat) (cs : List Char) (c : Char) :
    (cs ++ [c]).leftpad (width + 1) '0' = cs.leftpad width '0' ++ [c] := by
  simp [List.leftpad]

theorem hex_eq_hexDigits {width n : Nat} (positive : 0 < width) (fits : n < 16 ^ width) :
    (hex width n).toList = hexDigits width n := by
  rw [hex, String.toList_ofList]
  induction width generalizing n with
  | zero => exact absurd positive (Nat.lt_irrefl 0)
  | succ width ih =>
    rw [hexDigits, ← toUpper_digitChar (n % 16) (Nat.mod_lt n (by decide))]
    by_cases small : n < 16
    · rw [Nat.toDigits_of_lt_base small, Nat.div_eq_of_lt small, hexDigits_zero, Nat.mod_eq_of_lt small]
      exact (leftpad_concat width [] _).trans (by simp [List.leftpad])
    · have front : n / 16 < 16 ^ width := Nat.div_lt_of_lt_mul (by rwa [Nat.mul_comm, ← Nat.pow_succ])
      have wide : 0 < width := by
        rcases Nat.eq_zero_or_pos width with rfl | wide
        · omega
        · exact wide
      rw [toDigits_concat (Nat.le_of_not_lt small), List.map_append, List.map_singleton, leftpad_concat,
        ih wide front]

theorem hex_inj {least m n : Nat} (same : hex least m = hex least n) : m = n := by
  rw [← readHex_hex least m, same, readHex_hex]

theorem isAlphanum_of_mem_toDigits {c : Char} {n : Nat}
    (mem : c ∈ (Nat.toDigits 16 n).map Char.toUpper) : c.isAlphanum = true := by
  induction n using Nat.strongRecOn with
  | ind n ih =>
    by_cases small : n < 16
    · rw [Nat.toDigits_of_lt_base small, List.map_singleton, List.mem_singleton] at mem
      rw [mem]
      exact isAlphanum_toUpper n small
    · rw [toDigits_concat (by omega), List.map_append, List.map_singleton, List.mem_append,
        List.mem_singleton] at mem
      rcases mem with front | rfl
      · exact ih (n / 16) (by omega) front
      · exact isAlphanum_toUpper _ (Nat.mod_lt n (by decide))

theorem isAlphanum_of_mem_hex {c : Char} {least n : Nat} (mem : c ∈ (hex least n).toList) :
    c.isAlphanum = true := by
  rw [hex, String.toList_ofList, List.leftpad, List.mem_append] at mem
  rcases mem with zero | digit
  · rw [(List.mem_replicate.1 zero).2]
    decide
  · exact isAlphanum_of_mem_toDigits digit

theorem length_hexDigits (width n : Nat) : (hexDigits width n).length = width := by
  induction width generalizing n with
  | zero => rfl
  | succ width ih => rw [hexDigits, List.length_append, ih, List.length_singleton]

theorem isAlphanum_of_mem_hexDigits {c : Char} {width n : Nat} (mem : c ∈ hexDigits width n) :
    c.isAlphanum = true := by
  induction width generalizing n with
  | zero => exact absurd mem List.not_mem_nil
  | succ width ih =>
    rw [hexDigits, List.mem_append, List.mem_singleton] at mem
    rcases mem with front | rfl
    · exact ih front
    · have digit := Nat.mod_lt n (show 16 > 0 by decide)
      rw [← toUpper_digitChar _ digit]
      exact isAlphanum_toUpper _ digit

theorem isDigit_of_mem_toString {c : Char} {n : Nat} (mem : c ∈ (toString n).toList) :
    c.isDigit = true := by
  rw [Nat.toString_eq_repr, Nat.toList_repr] at mem
  exact Nat.isDigit_of_mem_toDigits (by decide) (by decide) mem

theorem isDigit_of_mem_toString_int {c : Char} {i : Int} (mem : c ∈ (toString i).toList) :
    c = '-' ∨ c.isDigit = true := by
  rw [Int.toString_eq_repr, Int.repr_eq_if] at mem
  split at mem
  · exact .inr (isDigit_of_mem_toString mem)
  · rw [String.toList_append, List.mem_append] at mem
    rcases mem with sign | digit
    · exact .inl (List.mem_singleton.1 sign)
    · exact .inr (isDigit_of_mem_toString digit)

end Z16.Text
