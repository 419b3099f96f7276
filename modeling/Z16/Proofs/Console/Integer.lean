import Z16.Proofs.Decimal.Numerals
import Z16.Proofs.Text
import Z16.Proofs.Word
import Z16.Host.Console

namespace Z16.Console

theorem lineValue_of_numeral {line : String} {i : Int}
    (numeral : Decimal.Numeral (Text.strip line.toList) i) (fits : -2 ^ 31 ≤ i ∧ i < 2 ^ 31) :
    lineValue line = i := by
  rw [lineValue, Decimal.readInt?_eq_some.2 numeral]
  exact if_pos fits

theorem lineValue_eq_zero {line : String}
    (none : ∀ i, Decimal.Numeral (Text.strip line.toList) i → ¬(-2 ^ 31 ≤ i ∧ i < 2 ^ 31)) :
    lineValue line = 0 := by
  rw [lineValue]
  split
  · rename_i i read
    exact if_neg (none i (Decimal.readInt?_eq_some.1 read))
  · rfl

/-- A console reads the number of a line into `a0`, if the line writes one of 32 bits between blanks, and else zero.
No other register changes, nothing is stored or printed, and one line is used up. -/
theorem readInteger_reads_numeral (context : Context) (c : Console) :
    let line := c.lines.headD ""
    let text := Text.strip line.toList
    let after := (Service.host .readInteger).perform context c
    Text.IsStripped line.toList text ∧
      (∀ i, Decimal.Numeral text i → -2 ^ 31 ≤ i → i ≤ 2 ^ 31 - 1 →
        ((after.1.registers.read a0).toNat : Int) = i % 65536) ∧
      ((∀ i, Decimal.Numeral text i → ¬(-2 ^ 31 ≤ i ∧ i ≤ 2 ^ 31 - 1)) →
        after.1.registers.read a0 = 0) ∧
      (∀ r, Registers.slot r ≠ Registers.slot a0 →
        after.1.registers.read r = context.registers.read r) ∧
      after.1.memory = context.memory ∧
      after.2 = { c with lines := c.lines.tail } := by
  intro line text after
  have served : after.1.registers = context.registers.write a0 (.ofInt (lineValue line)) := rfl
  have result : after.1.registers.read a0 = .ofInt (lineValue line) := by
    rw [served, Registers.read_write, if_pos rfl]
  refine ⟨Text.isStripped_strip line.toList, fun i numeral low high => ?_, fun none => ?_,
    fun r other => ?_, rfl, rfl⟩
  · rw [result, lineValue_of_numeral numeral ⟨low, Int.lt_of_le_sub_one high⟩]
    exact Word.toNat_ofInt i
  · have zero : lineValue line = 0 :=
      lineValue_eq_zero fun i numeral fits => none i numeral ⟨fits.1, Int.le_sub_one_of_lt fits.2⟩
    rw [result, zero]
    rfl
  · rw [served, Registers.read_write, if_neg other.symm]

theorem readInteger_reads_numeral_padded :
    let context : Context := { registers := {}, memory := { image := ⟨#[], by decide⟩ } }
    let c : Console := { lines := ["\u00A0-070000\t"] }
    Decimal.Numeral (Text.strip (c.lines.headD "").toList) (-70000) ∧
      (((Service.host .readInteger).perform context c).1.registers.read a0).toNat = 61072 := by
  intro context c
  have text : Text.strip (c.lines.headD "").toList = '-' :: [0, 7, 0, 0, 0, 0].map Nat.digitChar := by
    decide +kernel
  have numeral : Decimal.Numeral (Text.strip (c.lines.headD "").toList) (-70000) := by
    rw [text]
    exact .minus ⟨[0, 7, 0, 0, 0, 0], nofun, by decide, rfl, by decide⟩
  obtain ⟨-, number, -⟩ := readInteger_reads_numeral context c
  exact ⟨numeral, Int.natCast_inj.1 (number _ numeral (by decide) (by decide))⟩

end Z16.Console
