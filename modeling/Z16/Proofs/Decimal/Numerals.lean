import Mathlib.Data.Nat.Digits.Defs
import Mathlib.Tactic.Ring
import Z16.Bits
import Z16.Decimal.Reading

namespace Z16.Decimal

/-- Whether `cs` writes `n` in decimal digits, of which there is one at least. -/
def Digits (cs : List Char) (n : Nat) : Prop :=
  ∃ ds : List Nat, ds ≠ [] ∧ (∀ d ∈ ds, d < 10) ∧ cs = ds.map Nat.digitChar ∧
    n = Nat.ofDigits 10 ds.reverse

/-- Whether `cs` writes `i` in decimal digits with one sign in front or none. -/
inductive Numeral : List Char → Int → Prop
  | unsigned {cs : List Char} {n : Nat} (digits : Digits cs n) : Numeral cs n
  | plus {cs : List Char} {n : Nat} (digits : Digits cs n) : Numeral ('+' :: cs) n
  | minus {cs : List Char} {n : Nat} (digits : Digits cs n) : Numeral ('-' :: cs) (-n)

theorem ofDigitChars_digitChar {ds : List Nat} (small : ∀ d ∈ ds, d < 10) (start : Nat) :
    Nat.ofDigitChars 10 (ds.map Nat.digitChar) start = 10 ^ ds.length * start + Nat.ofDigits 10 ds.reverse := by
  induction ds generalizing start with
  | nil => simp [Nat.ofDigitChars]
  | cons d ds ih =>
    rw [List.forall_mem_cons] at small
    have digit : (Nat.digitChar d).toNat - '0'.toNat = d := by
      rw [Nat.toNat_digitChar_of_lt_ten small.1]
      exact Nat.add_sub_cancel_left 48 d
    rw [List.map_cons, Nat.ofDigitChars_cons, digit, ih small.2, List.reverse_cons, Nat.ofDigits_append,
      Nat.ofDigits_singleton, List.length_reverse, List.length_cons]
    ring

theorem digitChar_toNat {c : Char} (digit : c.isDigit = true) :
    c.toNat - 48 < 10 ∧ Nat.digitChar (c.toNat - 48) = c := by
  simp only [Char.isDigit, Bool.and_eq_true, decide_eq_true_eq] at digit
  have low : 48 ≤ c.toNat := digit.1
  have high : c.toNat ≤ 57 := digit.2
  have small : c.toNat - 48 < 10 := by omega
  refine ⟨small, Char.toNat_inj.1 ?_⟩
  rw [Nat.toNat_digitChar_of_lt_ten small]
  omega

theorem exists_digits {cs : List Char} (digits : ∀ c ∈ cs, c.isDigit = true) :
    ∃ ds : List Nat, (∀ d ∈ ds, d < 10) ∧ cs = ds.map Nat.digitChar := by
  induction cs with
  | nil => exact ⟨[], nofun, rfl⟩
  | cons c cs ih =>
    rw [List.forall_mem_cons] at digits
    obtain ⟨ds, small, rfl⟩ := ih digits.2
    obtain ⟨lt, same⟩ := digitChar_toNat digits.1
    exact ⟨(c.toNat - 48) :: ds, List.forall_mem_cons.2 ⟨lt, small⟩, by rw [List.map_cons, same]⟩

theorem isDigit_of_mem_digits {ds : List Nat} (small : ∀ d ∈ ds, d < 10) :
    ∀ c ∈ ds.map Nat.digitChar, c.isDigit = true := by
  rw [List.forall_mem_map]
  intro d mem
  rw [Nat.isDigit_digitChar]
  exact decide_eq_true (small d mem)

theorem readDigits?_eq_some {cs : List Char} {n : Nat} : readDigits? cs = some n ↔ Digits cs n := by
  constructor
  · intro read
    rw [readDigits?] at read
    split at read
    · rename_i good
      obtain ⟨ds, small, rfl⟩ := exists_digits (List.all_eq_true.1 good.2)
      refine ⟨ds, by simpa using good.1, small, rfl, ?_⟩
      rw [← Option.some.inj read, ofDigitChars_digitChar small, Nat.mul_zero, Nat.zero_add]
    · exact nomatch read
  · rintro ⟨ds, nonempty, small, rfl, rfl⟩
    have good : ds.map Nat.digitChar ≠ [] ∧ (ds.map Nat.digitChar).all Char.isDigit :=
      ⟨by simpa using nonempty, List.all_eq_true.2 (isDigit_of_mem_digits small)⟩
    rw [readDigits?, if_pos good, ofDigitChars_digitChar small, Nat.mul_zero, Nat.zero_add]

theorem Digits.isDigit_head {c : Char} {cs : List Char} {n : Nat} (digits : Digits (c :: cs) n) :
    c.isDigit = true := by
  obtain ⟨ds, -, small, same, -⟩ := digits
  exact isDigit_of_mem_digits small c (same ▸ List.mem_cons_self)

theorem readInt?_minus (cs : List Char) :
    readInt? ('-' :: cs) = (readDigits? cs).map fun n : Nat => -(n : Int) := by
  simp only [readInt?]
  cases readDigits? cs <;> rfl

theorem readInt?_plus (cs : List Char) : readInt? ('+' :: cs) = (readDigits? cs).map Int.ofNat := by
  simp only [readInt?, readNat?]
  cases readDigits? cs <;> rfl

theorem readInt?_unsigned {cs : List Char} (minus : cs.head? ≠ some '-') (plus : cs.head? ≠ some '+') :
    readInt? cs = (readDigits? cs).map Int.ofNat := by
  rw [readInt?.eq_def]
  split
  · exact absurd rfl minus
  · rw [readNat?.eq_def]
    split
    · exact absurd rfl plus
    · cases readDigits? cs <;> rfl

theorem readInt?_eq_some {cs : List Char} {i : Int} : readInt? cs = some i ↔ Numeral cs i := by
  constructor
  · intro read
    by_cases minus : cs.head? = some '-'
    · obtain ⟨rest, rfl⟩ := List.head?_eq_some_iff.1 minus
      obtain ⟨n, digits, rfl⟩ := Option.map_eq_some_iff.1 (readInt?_minus rest ▸ read)
      exact .minus (readDigits?_eq_some.1 digits)
    by_cases plus : cs.head? = some '+'
    · obtain ⟨rest, rfl⟩ := List.head?_eq_some_iff.1 plus
      obtain ⟨n, digits, rfl⟩ := Option.map_eq_some_iff.1 (readInt?_plus rest ▸ read)
      exact .plus (readDigits?_eq_some.1 digits)
    · obtain ⟨n, digits, rfl⟩ := Option.map_eq_some_iff.1 (readInt?_unsigned minus plus ▸ read)
      exact .unsigned (readDigits?_eq_some.1 digits)
  · intro numeral
    cases numeral with
    | unsigned digits =>
      have unsigned (sign : Char) (special : sign.isDigit = false) : cs.head? ≠ some sign := by
        intro first
        obtain ⟨rest, rfl⟩ := List.head?_eq_some_iff.1 first
        exact absurd digits.isDigit_head (Bool.eq_false_iff.1 special)
      rw [readInt?_unsigned (unsigned '-' rfl) (unsigned '+' rfl), readDigits?_eq_some.2 digits]
      rfl
    | plus digits => rw [readInt?_plus, readDigits?_eq_some.2 digits]; rfl
    | minus digits => rw [readInt?_minus, readDigits?_eq_some.2 digits]; rfl

end Z16.Decimal
