import Z16.Listing
import Z16.Proofs.Encoding.Decoded
import Z16.Proofs.Encoding.RoundTrip
import Z16.Proofs.Text.Numerals
import Z16.Proofs.Text.Pieces
import Std.Data.String.ToInt

/-!
# Operands in listings

The operands that an entry shows are of the kinds that its mnemonic has, `Mnemonic.blanks`. The text of an
operand of known kind determines the operand (`Operand.text_inj`), and the operands determine the
instruction (`Entry.read_operands`), but for an offset that a label is shown for.
-/

namespace Z16

theorem toString_nat_inj {m n : Nat} : toString m = toString n ↔ m = n := Nat.repr_inj

theorem toString_int_inj {a b : Int} : toString a = toString b ↔ a = b := Int.repr_inj

def isOperandChar (c : Char) : Bool := c ≠ ',' && c ≠ ' '

theorem isOperandChar_of_isAlphanum {c : Char} (alphanum : c.isAlphanum = true) :
    isOperandChar c = true := by
  have comma : c ≠ ',' := by
    rintro rfl
    exact absurd alphanum (by decide)
  have space : c ≠ ' ' := by
    rintro rfl
    exact absurd alphanum (by decide)
  simp [isOperandChar, comma, space]

theorem isOperandChar_of_isDigit {c : Char} (digit : c.isDigit = true) : isOperandChar c = true :=
  isOperandChar_of_isAlphanum (by simp [Char.isAlphanum, digit])

theorem isOperandChar_toString {c : Char} {n : Nat} (mem : c ∈ (toString n).toList) :
    isOperandChar c = true :=
  isOperandChar_of_isDigit (Text.isDigit_of_mem_toString mem)

theorem isOperandChar_toString_int {c : Char} {i : Int} (mem : c ∈ (toString i).toList) :
    isOperandChar c = true := by
  rcases Text.isDigit_of_mem_toString_int mem with rfl | digit
  · decide
  · exact isOperandChar_of_isDigit digit

theorem registerText_toList (r : UInt8) : (registerText r).toList = 'x' :: (toString r.toNat).toList := by
  rw [registerText, String.toList_append]
  rfl

theorem registerText_inj {r r' : UInt8} : registerText r = registerText r' ↔ r = r' := by
  rw [registerText, registerText, String.append_right_inj, toString_nat_inj, UInt8.toNat_inj]

theorem isOperandChar_registerText {c : Char} {r : UInt8} (mem : c ∈ (registerText r).toList) :
    isOperandChar c = true := by
  rw [registerText_toList, List.mem_cons] at mem
  rcases mem with rfl | digit
  · decide
  · exact isOperandChar_toString digit

theorem Label.text_toList (l : Label) :
    l.text.toList = "label_".toList ++ (toString l.number).toList := by
  rw [text, String.toList_append]

theorem Label.text_inj {l l' : Label} : l.text = l'.text ↔ l = l' := by
  rw [text, text, String.append_right_inj, toString_nat_inj, Label.mk.injEq]

theorem Label.text_ne_toString (l : Label) (i : Int) : l.text ≠ toString i := by
  intro same
  have letter : 'l' ∈ (toString i).toList := by
    rw [← same, text_toList]
    exact List.mem_append_left _ (by decide)
  rcases Text.isDigit_of_mem_toString_int letter with sign | digit
  · exact absurd sign (by decide)
  · exact absurd digit (by decide)

theorem Target.text_inj {t t' : Target} (same : t.text = t'.text) : t = t' := by
  cases t <;> cases t'
  case label.label l l' => rw [Label.text_inj.1 same]
  case label.offset l o => exact absurd same (l.text_ne_toString _)
  case offset.label o l => exact absurd same.symm (l.text_ne_toString _)
  case offset.offset o o' => rw [Int16.toInt_inj.1 (toString_int_inj.1 same)]

theorem isOperandChar_target {c : Char} {t : Target} (mem : c ∈ t.text.toList) :
    isOperandChar c = true := by
  cases t with
  | label l =>
    rw [Target.text, Label.text_toList, List.mem_append] at mem
    rcases mem with front | digit
    · have fixed : "label_".toList.all isOperandChar = true := by decide
      exact List.all_eq_true.1 fixed c front
    · exact isOperandChar_toString digit
  | offset delta => exact isOperandChar_toString_int mem

theorem memoryText_toList (offset : Int8) (base : UInt8) :
    (Operand.memory offset base).text.toList =
      (toString offset.toInt).toList ++ '(' :: ((registerText base).toList ++ [')']) := by
  simp only [Operand.text, String.toList_append, List.append_assoc]
  rfl

theorem memoryText_inj {offset offset' : Int8} {base base' : UInt8}
    (same : (Operand.memory offset base).text = (Operand.memory offset' base').text) :
    offset = offset' ∧ base = base' := by
  have noParenthesis {i : Int} : ∀ c ∈ (toString i).toList, (c ≠ '(' : Bool) = true := by
    intro c mem
    rw [decide_eq_true_iff]
    rintro rfl
    rcases Text.isDigit_of_mem_toString_int mem with sign | digit
    · exact absurd sign (by decide)
    · exact absurd digit (by decide)
  have same := congrArg String.toList same
  rw [memoryText_toList, memoryText_toList] at same
  obtain ⟨front, rest⟩ := Text.pieces_inj (p := (· ≠ '(')) noParenthesis noParenthesis
    (Text.stops_cons (by decide)) (Text.stops_cons (by decide)) same
  have base := List.append_cancel_right (List.cons.inj rest).2
  exact ⟨Int8.toInt_inj.1 (toString_int_inj.1 (String.toList_inj.1 front)),
    registerText_inj.1 (String.toList_inj.1 base)⟩

namespace Operand

theorem isOperandChar_text {o : Operand} {c : Char} (mem : c ∈ o.text.toList) :
    isOperandChar c = true := by
  cases o with
  | register r => exact isOperandChar_registerText mem
  | amount n => exact isOperandChar_toString mem
  | field v =>
    rw [text, String.toList_append, List.mem_append] at mem
    rcases mem with front | digit
    · have fixed : "0x".toList.all isOperandChar = true := by decide
      exact List.all_eq_true.1 fixed c front
    · exact isOperandChar_of_isAlphanum (Text.isAlphanum_of_mem_hex digit)
  | memory offset base =>
    simp only [text, String.toList_append, List.mem_append] at mem
    rcases mem with ((digit | bracket) | base) | bracket
    · exact isOperandChar_toString_int digit
    · rw [List.mem_singleton.1 bracket]
      decide
    · exact isOperandChar_registerText base
    · rw [List.mem_singleton.1 bracket]
      decide
  | target t => exact isOperandChar_target mem
  | service code => exact isOperandChar_toString mem

/-- An operand without its value; two operands are of one kind if they agree in it. -/
def blank : Operand → Operand
  | .register _ => .register 0
  | .amount _ => .amount 0
  | .field _ => .field 0
  | .memory _ _ => .memory 0 0
  | .target _ => .target (.offset 0)
  | .service _ => .service 0

theorem text_inj {o o' : Operand} (kind : o.blank = o'.blank) (same : o.text = o'.text) : o = o' := by
  cases o <;> cases o' <;> simp only [blank, reduceCtorEq] at kind
  case register.register r r' => rw [registerText_inj.1 same]
  case amount.amount n n' => rw [UInt8.toNat_inj.1 (toString_nat_inj.1 same)]
  case field.field v v' =>
    have digits := (String.append_right_inj _).1 same
    rw [UInt16.toNat_inj.1 (Text.hex_inj digits)]
  case memory.memory offset base offset' base' =>
    obtain ⟨rfl, rfl⟩ := memoryText_inj same
    rfl
  case target.target t t' => rw [Target.text_inj same]
  case service.service code code' => rw [UInt16.toNat_inj.1 (toString_nat_inj.1 same)]

theorem texts_inj {os os' : List Operand} (kinds : os.map blank = os'.map blank)
    (same : os.map text = os'.map text) : os = os' := by
  induction os generalizing os' with
  | nil => exact (List.map_eq_nil_iff.1 kinds.symm).symm
  | cons o os ih =>
    obtain ⟨o', os', rfl, kind, kinds⟩ := List.map_eq_cons_iff.1 kinds.symm
    obtain ⟨first, rest⟩ := List.cons.inj same
    rw [text_inj kind.symm first, ih kinds.symm rest]

end Operand
namespace Instruction

def withOffset (i : Instruction) (offset : Int16) : Instruction :=
  match i with
  | .branch condition rs1 rs2 _ => .branch condition rs1 rs2 offset
  | .j _ => .j offset
  | .jal rd _ => .jal rd offset
  | i => i

theorem withOffset_withOffset (i : Instruction) (o o' : Int16) :
    (i.withOffset o).withOffset o' = i.withOffset o' := by
  cases i <;> rfl

theorem withOffset_of_none {i : Instruction} (jumps : i.offset? = none) (o : Int16) :
    i.withOffset o = i := by
  cases i <;> simp_all [offset?, withOffset]

theorem withOffset_of_some {i : Instruction} {o : Int16} (jumps : i.offset? = some o) :
    i.withOffset o = i := by
  cases i <;> simp_all [offset?, withOffset]

theorem offset?_withOffset (i : Instruction) (o : Int16) :
    (i.withOffset o).offset? = i.offset?.map fun _ => o := by
  cases i <;> rfl

theorem eq_withOffset {i i' : Instruction} (same : i.withOffset 0 = i'.withOffset 0) :
    (i.offset? = none ∧ i'.offset? = none ∧ i = i') ∨
      ∃ o o', i.offset? = some o ∧ i'.offset? = some o' ∧ i' = i.withOffset o' := by
  have jump : (i.offset?.map fun _ => (0 : Int16)) = i'.offset?.map fun _ => 0 := by
    rw [← offset?_withOffset, ← offset?_withOffset, same]
  cases offset : i.offset? with
  | none =>
    have none' : i'.offset? = none := by simpa [offset] using jump.symm
    refine .inl ⟨rfl, none', ?_⟩
    rw [← withOffset_of_none offset 0, same, withOffset_of_none none']
  | some o =>
    rw [offset] at jump
    obtain ⟨o', offset', -⟩ := Option.map_eq_some_iff.1 jump.symm
    refine .inr ⟨o, o', rfl, offset', ?_⟩
    rw [← withOffset_withOffset i 0, same, withOffset_withOffset, withOffset_of_some offset']

end Instruction

def Mnemonic.blanks : Mnemonic → List Operand
  | .alu _ | .jalr => [.register 0, .register 0]
  | .jr => [.register 0]
  | .immediate _ | .sltui | .upper _ => [.register 0, .field 0]
  | .shift _ => [.register 0, .amount 0]
  | .branch _ => [.register 0, .register 0, .target (.offset 0)]
  | .store _ | .load _ => [.register 0, .memory 0 0]
  | .j => [.target (.offset 0)]
  | .jal => [.register 0, .target (.offset 0)]
  | .ecall => [.service 0]

def Mnemonic.read? : Mnemonic → List Operand → Option Instruction
  | .alu op, [.register rd, .register rs] => some (.alu op rd rs)
  | .jr, [.register rs] => some (.jr rs)
  | .jalr, [.register rd, .register rs] => some (.jalr rd rs)
  | .immediate op, [.register rd, .field v] => some (.immediate op rd (sext v 7))
  | .sltui, [.register rd, .field v] => some (.sltui rd v.toUInt8)
  | .shift op, [.register rd, .amount n] => some (.shift op rd n)
  | .branch condition, [.register rs1, .register rs2, .target _] => some (.branch condition rs1 rs2 0)
  | .store op, [.register rs, .memory offset base] => some (.store op rs base offset)
  | .load op, [.register rd, .memory offset base] => some (.load op rd base offset)
  | .j, [.target _] => some (.j 0)
  | .jal, [.register rd, .target _] => some (.jal rd 0)
  | .upper op, [.register rd, .field v] => some (.upper op rd v)
  | .ecall, [.service code] => some (.ecall code)
  | _, _ => none

theorem sext_field {imm : Int16} (low : -64 ≤ imm.toInt) (high : imm.toInt ≤ 63) :
    sext (imm.toUInt16 % 128) 7 = imm := by
  have whole : imm.toInt = if 2 * imm.toUInt16.toNat < 2 ^ 16 then (imm.toUInt16.toNat : Int)
      else imm.toUInt16.toNat - (2 ^ 16 : Nat) :=
    BitVec.toInt_eq_toNat_cond imm.toBitVec
  have field : (imm.toUInt16 % 128).toNat = (imm.toInt % 2 ^ 7).toNat := by
    rw [UInt16.toNat_mod, whole, show (128 : UInt16).toNat = 128 from rfl]
    split <;> omega
  exact sext_eq (by decide) (by decide) field (by omega) (by omega)

namespace Entry

variable {e e' : Entry} {m : Mnemonic}

theorem blank_operands (mnemonic : e.instruction.mnemonic? = some m) :
    e.operands.map Operand.blank = m.blanks := by
  cases i : e.instruction <;> rw [i] at mnemonic <;> cases mnemonic <;>
    simp only [operands, i] <;> rfl

theorem read_operands (mnemonic : e.instruction.mnemonic? = some m) (fits : e.instruction.Fits) :
    m.read? e.operands = some (e.instruction.withOffset 0) := by
  cases i : e.instruction <;> rw [i] at mnemonic fits <;> cases mnemonic <;>
    simp only [operands, i, Mnemonic.read?, Instruction.withOffset]
  case immediate op rd imm => rw [sext_field fits.2.1 fits.2.2]
  case sltui rd imm => rw [UInt8.toUInt8_toUInt16]

theorem target_mem_operands {target : Target} (shown : e.target? = some target)
    (jumps : e.instruction.offset?.isSome = true) : .target target ∈ e.operands := by
  cases i : e.instruction <;> simp_all [Instruction.offset?, operands]

theorem target_of_mem_operands {target : Target} (mem : .target target ∈ e.operands) :
    target = e.target?.getD (.offset 0) := by
  cases i : e.instruction <;> simp_all [operands]

end Entry

end Z16
