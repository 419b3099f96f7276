import Mathlib.Algebra.Group.Int.Defs
import Mathlib.Algebra.Group.Nat.Defs
import Z16.Encoding

/-!
# Which instructions have a word

An instruction has a word exactly when its operands fit their fields: `encode_eq_ok` says so and names
the word, `Instruction.word`, and `encode_eq_error` says that every other instruction is refused.
-/

namespace Z16

theorem bind_eq_ok {ε α β : Type} {x : Except ε α} {f : α → Except ε β} {b : β} :
    (x >>= f) = .ok b ↔ ∃ a, x = .ok a ∧ f a = .ok b := by
  cases x <;> simp [bind, Except.bind]

theorem pure_eq_ok {ε α : Type} {a b : α} : (pure a : Except ε α) = .ok b ↔ a = b := by
  simp [pure, Except.pure]

theorem registerField_eq_ok {r : UInt8} {n : Nat} :
    registerField r = .ok n ↔ r.toNat < 8 ∧ r.toNat = n := by
  unfold registerField
  by_cases fits : r.toNat < 8 <;> simp [fits]

theorem unsignedField_eq_ok {e : EncodeError} {width v n : Nat} :
    unsignedField e width v = .ok n ↔ v < 2 ^ width ∧ v = n := by
  unfold unsignedField
  by_cases fits : v < 2 ^ width <;> simp [fits]

theorem signedField_eq_ok {e : EncodeError} {width n : Nat} {v : Int} :
    signedField e width v = .ok n ↔
      (-2 ^ (width - 1) ≤ v ∧ v < 2 ^ (width - 1)) ∧ (v % 2 ^ width).toNat = n := by
  unfold signedField
  by_cases fits : -2 ^ (width - 1) ≤ v ∧ v < 2 ^ (width - 1) <;> simp [fits]

namespace Instruction

def registers : Instruction → List UInt8
  | .alu _ rd rs | .jalr rd rs => [rd, rs]
  | .branch _ rs1 rs2 _ => [rs1, rs2]
  | .store _ rs base _ => [rs, base]
  | .load _ rd base _ => [rd, base]
  | .jr rs => [rs]
  | .immediate _ rd _ | .sltui rd _ | .shift _ rd _ | .jal rd _ | .upper _ rd _ => [rd]
  | .j _ | .ecall _ | .unknown _ => []

def ImmediateFits : Instruction → Prop
  | .immediate _ _ imm => -64 ≤ imm.toInt ∧ imm.toInt ≤ 63
  | .sltui _ imm => imm.toNat ≤ 127
  | .shift _ _ amount => amount.toNat ≤ 15
  | .branch _ _ _ offset => -8 ≤ offset.toInt ∧ offset.toInt ≤ 7
  | .store _ _ _ offset | .load _ _ _ offset => -8 ≤ offset.toInt ∧ offset.toInt ≤ 7
  | .j offset | .jal _ offset => -256 ≤ offset.toInt ∧ offset.toInt ≤ 255
  | .upper _ _ imm => imm.toNat ≤ 511
  | .ecall service => service.toNat ≤ 1023
  | .alu .. | .jr _ | .jalr .. | .unknown _ => True

def Fits (i : Instruction) : Prop := (∀ r ∈ i.registers, r.toNat < 8) ∧ i.ImmediateFits

def word : Instruction → Word
  | .alu op rd rs => Mnemonic.word (.alu op) (rs.toNat <<< 9 + rd.toNat <<< 6)
  | .jr rs => Mnemonic.word .jr (rs.toNat <<< 6)
  | .jalr rd rs => Mnemonic.word .jalr (rs.toNat <<< 9 + rd.toNat <<< 6)
  | .immediate op rd imm =>
    Mnemonic.word (.immediate op) ((imm.toInt % 2 ^ 7).toNat <<< 9 + rd.toNat <<< 6)
  | .sltui rd imm => Mnemonic.word .sltui (imm.toNat <<< 9 + rd.toNat <<< 6)
  | .shift op rd amount => Mnemonic.word (.shift op) (amount.toNat <<< 9 + rd.toNat <<< 6)
  | .branch condition rs1 rs2 offset =>
    Mnemonic.word (.branch condition)
      ((offset.toInt % 2 ^ 4).toNat <<< 12 + rs2.toNat <<< 9 + rs1.toNat <<< 6)
  | .store op rs base offset =>
    Mnemonic.word (.store op)
      ((offset.toInt % 2 ^ 4).toNat <<< 12 + base.toNat <<< 9 + rs.toNat <<< 6)
  | .load op rd base offset =>
    Mnemonic.word (.load op)
      ((offset.toInt % 2 ^ 4).toNat <<< 12 + base.toNat <<< 9 + rd.toNat <<< 6)
  | .j offset => Mnemonic.word .j (splitPart (offset.toInt % 2 ^ 9).toNat)
  | .jal rd offset =>
    Mnemonic.word .jal (splitPart (offset.toInt % 2 ^ 9).toNat + rd.toNat <<< 6)
  | .upper op rd imm => Mnemonic.word (.upper op) (splitPart imm.toNat + rd.toNat <<< 6)
  | .ecall service => Mnemonic.word .ecall (service.toNat <<< 6)
  | .unknown w => w

end Instruction

theorem encode_eq_ok {i : Instruction} {w : Word} : encode i = .ok w ↔ i.Fits ∧ i.word = w := by
  cases i <;>
    simp only [encode, bind_eq_ok, pure_eq_ok, registerField_eq_ok, unsignedField_eq_ok,
      signedField_eq_ok, Instruction.Fits, Instruction.registers, Instruction.ImmediateFits,
      Instruction.word, List.forall_mem_cons, List.not_mem_nil, Except.ok.injEq] <;>
    grind

theorem encode_eq_error {i : Instruction} (h : ¬i.Fits) : ∃ e, encode i = .error e := by
  cases encoded : encode i with
  | error e => exact ⟨e, rfl⟩
  | ok w => exact absurd (encode_eq_ok.1 encoded).1 h

end Z16
