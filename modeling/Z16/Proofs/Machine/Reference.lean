import Z16.Proofs.Machine.Frame
import Z16.Proofs.Memory.Flat

/-!
# Instructions as arithmetic

What an instruction does is said in the integers: the number that it gives (`Instruction.result?`), the bytes
that it stores (`Instruction.stored`) and the index where it continues (`Instruction.nextIndex`), all of them
from the registers and the memory before it. Executing it gives this number modulo `2 ^ 16`, stores these bytes
and goes to this index, or to the end of the program if the index is none of the program's
(`Machine.execute_meets_reference`).
-/

namespace Z16

def ShiftOp.number (op : ShiftOp) (x : Word) (amount : Nat) : Int :=
  let k := amount % 16
  match op with
  | .slli => x.toNat * 2 ^ k
  | .srli => x.toNat / 2 ^ k
  | .srai => x.signed / 2 ^ k

def AluOp.number (op : AluOp) (x y : Word) : Int :=
  match op with
  | .add => x.toNat + y.toNat
  | .sub => x.toNat - y.toNat
  | .slt => if x.signed < y.signed then 1 else 0
  | .sltu => if x.toNat < y.toNat then 1 else 0
  | .sll => ShiftOp.slli.number x y.toNat
  | .srl => ShiftOp.srli.number x y.toNat
  | .sra => ShiftOp.srai.number x y.toNat
  | .or => (x.toNat ||| y.toNat : Nat)
  | .and => (x.toNat &&& y.toNat : Nat)
  | .xor => (x.toNat ^^^ y.toNat : Nat)
  | .mv => y.toNat

def ImmediateOp.number (op : ImmediateOp) (x : Word) (imm : Int) : Int :=
  let pattern := (imm % 2 ^ 16).toNat
  match op with
  | .addi => x.toNat + imm
  | .slti => if x.signed < imm then 1 else 0
  | .ori => (x.toNat ||| pattern : Nat)
  | .andi => (x.toNat &&& pattern : Nat)
  | .xori => (x.toNat ^^^ pattern : Nat)
  | .li => imm

def Memory.byteAt (m : Memory) (a : Int) : Byte := m.load8 (.ofInt a)

def LoadOp.number (op : LoadOp) (m : Memory) (a : Int) : Int :=
  match op with
  | .lb => Word.signedByte (m.byteAt a)
  | .lbu => (m.byteAt a).toNat
  | .lw => (m.byteAt a).toNat + 256 * (m.byteAt (a + 1)).toNat

def StoreOp.bytes (op : StoreOp) (a : Int) (v : Word) : List (Int × Nat) :=
  match op with
  | .sb => [(a, v.toNat % 256)]
  | .sw => [(a, v.toNat % 256), (a + 1, v.toNat / 256)]

def UpperOp.number (op : UpperOp) (index : Nat) (imm : UInt16) : Int :=
  match op with
  | .lui => imm.toNat * 128
  | .auipc => index + imm.toNat * 128

def Condition.isMet (condition : Condition) (x y : Word) : Bool :=
  match condition with
  | .eq => x.toNat = y.toNat
  | .ne => x.toNat ≠ y.toNat
  | .zero => x.toNat = 0
  | .nonzero => x.toNat ≠ 0
  | .lt => x.signed < y.signed
  | .ge => y.signed ≤ x.signed
  | .ltu => x.toNat < y.toNat
  | .geu => y.toNat ≤ x.toNat

theorem ShiftOp.toNat_eval (op : ShiftOp) (x amount : Word) :
    ((op.eval x amount).toNat : Int) = op.number x amount.toNat % 2 ^ 16 := by
  have low := Word.toNat_and_fifteen amount
  have small : (amount &&& 15).toNat < 16 := by omega
  cases op with
  | slli => rw [eval, number, ← low, Word.toNat_shiftLeft x small]
  | srli => rw [eval, number, ← low, ← Word.toNat_shiftRight x small, Word.toNat_emod]
  | srai =>
    rw [eval, number, ← low, Word.toNat_toUInt16, Word.toInt_shiftRight _ small, Word.toInt_toInt16]

theorem AluOp.toNat_eval (op : AluOp) (x y : Word) :
    ((op.eval x y).toNat : Int) = op.number x y % 2 ^ 16 := by
  cases op with
  | add => exact Word.toNat_add x y
  | sub => exact Word.toNat_sub x y
  | slt =>
    have signed : x.toInt16 < y.toInt16 ↔ x.signed < y.signed := by
      rw [Word.toInt16_lt, Word.toInt_toInt16]
    exact Word.toNat_decide signed
  | sltu => exact Word.toNat_decide UInt16.lt_iff_toNat_lt
  | sll => exact ShiftOp.toNat_eval .slli x y
  | srl => exact ShiftOp.toNat_eval .srli x y
  | sra => exact ShiftOp.toNat_eval .srai x y
  | or => rw [eval, number, ← UInt16.toNat_or, Word.toNat_emod]
  | and => rw [eval, number, ← UInt16.toNat_and, Word.toNat_emod]
  | xor => rw [eval, number, ← UInt16.toNat_xor, Word.toNat_emod]
  | mv => exact (Word.toNat_emod y).symm

theorem ImmediateOp.toNat_eval (op : ImmediateOp) (x : Word) (imm : Int16) :
    ((op.eval x imm).toNat : Int) = op.number x imm.toInt % 2 ^ 16 := by
  have bits : (imm.toInt % 2 ^ 16).toNat = imm.toUInt16.toNat := by
    rw [← Word.toNat_toUInt16, Int.toNat_natCast]
  cases op with
  | addi => rw [eval, Word.toNat_add, Word.toNat_toUInt16 imm, number, Int.add_emod_emod]
  | slti => exact Word.toNat_decide (Word.toInt16_lt x imm)
  | ori => rw [eval, number, bits, ← UInt16.toNat_or, Word.toNat_emod]
  | andi => rw [eval, number, bits, ← UInt16.toNat_and, Word.toNat_emod]
  | xori => rw [eval, number, bits, ← UInt16.toNat_xor, Word.toNat_emod]
  | li => exact Word.toNat_toUInt16 imm

theorem LoadOp.toNat_eval (op : LoadOp) (m : Memory) (a : Int) :
    ((op.eval m (.ofInt a)).toNat : Int) = op.number m a % 2 ^ 16 := by
  cases op with
  | lb => rw [eval, Word.toNat_toUInt16, Int8.toInt_toInt16, Word.toInt_toInt8, number, Memory.byteAt]
  | lw =>
    have whole : LoadOp.lw.number m a = (m.load16 (.ofInt a)).toNat := by
      rw [Memory.load16, Word.toNat_ofBytes, number, Memory.byteAt, Memory.byteAt, UInt16.ofInt_add]
      rfl
    rw [whole, Word.toNat_emod, eval]
  | lbu =>
    have whole : LoadOp.lbu.number m a = (m.load8 (.ofInt a)).toUInt16.toNat := by
      rw [UInt8.toNat_toUInt16, number, Memory.byteAt]
    rw [whole, Word.toNat_emod, eval]

theorem UpperOp.toNat_eval (op : UpperOp) (index : Nat) (imm : UInt16) :
    ((op.eval index imm).toNat : Int) = op.number index imm % 2 ^ 16 := by
  have shifted : ((imm <<< 7).toNat : Int) = imm.toNat * 128 % 2 ^ 16 := Word.toNat_shiftLeft imm (by decide)
  cases op with
  | lui => exact shifted
  | auipc => rw [eval, Word.toNat_add, shifted, Word.toNat_ofNat, number, ← Int.add_emod]

theorem Condition.holds_eq (condition : Condition) (x y : Word) :
    condition.holds x y = condition.isMet x y := by
  cases condition with
  | eq | zero => exact decide_eq_decide.2 UInt16.toNat_inj.symm
  | ne | nonzero => exact decide_eq_decide.2 (not_congr UInt16.toNat_inj.symm)
  | lt | ge => simp only [holds, isMet, Word.toInt16_lt, Int16.le_iff_toInt_le, Word.toInt_toInt16]
  | ltu => exact decide_eq_decide.2 UInt16.lt_iff_toNat_lt
  | geu => exact decide_eq_decide.2 UInt16.le_iff_toNat_le

theorem StoreOp.byteAt_apply (op : StoreOp) (m : Memory) (a : Int) (v : Word) :
    ∀ s ∈ op.bytes a v, ((op.apply m (.ofInt a) v).byteAt s.1).toNat = s.2 := by
  have low : v.toUInt8.toNat = v.toNat % 256 := UInt16.toNat_toUInt8 v
  have high : (v >>> 8).toUInt8.toNat = v.toNat / 256 := by
    have := v.toNat_lt
    rw [Word.toUInt8_shiftRight_eq_ofNat, UInt8.toNat_ofNat']
    omega
  cases op with
  | sb => simp [bytes, apply, Memory.byteAt, low]
  | sw =>
    have apart := Word.add_one_ne (.ofInt a)
    simp [bytes, apply, Memory.byteAt, Memory.store16, UInt16.ofInt_add, low, high, apart]

namespace Instruction

def result? (context : Context) (index : Nat) (i : Instruction) : Option (UInt8 × Int) :=
  let read := context.registers.read
  match i with
  | .alu op rd rs => some (rd, op.number (read rd) (read rs))
  | .immediate op rd imm => some (rd, op.number (read rd) imm.toInt)
  | .sltui rd imm => some (rd, if (read rd).toNat < imm.toNat then 1 else 0)
  | .shift op rd amount => some (rd, op.number (read rd) amount.toNat)
  | .load op rd base offset =>
    some (rd, op.number context.memory ((read base).toNat + offset.toInt))
  | .upper op rd imm => some (rd, op.number index imm)
  | .jalr rd _ | .jal rd _ => some (rd, index + 2)
  | .jr _ | .branch .. | .store .. | .j _ | .ecall _ | .unknown _ => none

def stored (regs : Registers) : Instruction → List (Int × Nat)
  | .store op rs base offset => op.bytes ((regs.read base).toNat + offset.toInt) (regs.read rs)
  | _ => []

def nextIndex (regs : Registers) (index : Nat) : Instruction → Int
  | .jr rs | .jalr _ rs => (regs.read rs).toNat
  | .branch condition rs1 rs2 offset =>
    if condition.isMet (regs.read rs1) (regs.read rs2) then index + offset.toInt else index + 1
  | .j offset | .jal _ offset => index + offset.toInt
  | .ecall code => if code = exitCode then index else index + 1
  | _ => index + 1

end Instruction

namespace Machine

variable {H : Type} [Host H]

theorem effect_snd (m : Machine H) (index : Nat) (i : Instruction) :
    (m.effect index i).2 = i.nextIndex m.registers index := by
  cases i with
  | branch condition rs1 rs2 offset => simp only [effect, Instruction.nextIndex, Condition.holds_eq]
  | _ => rfl

theorem pc_advance (m : Machine H) (index : Nat) (i : Instruction) :
    ((m.advance index i).pc : Int) =
      let next := i.nextIndex m.registers index
      if 0 ≤ next ∧ next ≤ m.program.size then next else m.program.size := by
  have same : (m.effect index i).1.program = m.program := (m.effect_keeps index i).1
  rw [← effect_snd, ← same]
  exact pc_goTo _ _

theorem registers_advance (m : Machine H) {index : Nat} {i : Instruction} {rd : UInt8} {v : Int}
    (gives : i.result? m.toContext index = some (rd, v)) :
    ∃ w : Word, (m.advance index i).registers = m.registers.write rd w ∧ (w.toNat : Int) = v % 2 ^ 16 := by
  cases i with
  | alu op rd rs =>
    cases gives
    exact ⟨_, rfl, op.toNat_eval _ _⟩
  | immediate op rd imm =>
    cases gives
    exact ⟨_, rfl, op.toNat_eval _ imm⟩
  | sltui rd imm =>
    cases gives
    have unsigned : m.registers.read rd < imm.toUInt16 ↔ (m.registers.read rd).toNat < imm.toNat := by
      rw [UInt16.lt_iff_toNat_lt, UInt8.toNat_toUInt16]
    exact ⟨_, rfl, Word.toNat_decide unsigned⟩
  | shift op rd amount =>
    cases gives
    exact ⟨_, rfl, UInt8.toNat_toUInt16 amount ▸ op.toNat_eval _ amount.toUInt16⟩
  | load op rd base offset =>
    cases gives
    have value : ((op.eval m.memory (m.registers.address base offset)).toNat : Int) = _ :=
      op.toNat_eval m.memory _
    rw [Registers.address_eq] at value
    exact ⟨_, rfl, value⟩
  | upper op rd imm =>
    cases gives
    exact ⟨_, rfl, op.toNat_eval index imm⟩
  | jalr rd | jal rd =>
    cases gives
    exact ⟨_, rfl, Word.toNat_ofNat (index + 2)⟩
  | jr | branch | store | j | ecall | unknown => cases gives

theorem byteAt_advance (m : Machine H) (index : Nat) (i : Instruction) :
    ∀ s ∈ i.stored m.registers, ((m.advance index i).memory.byteAt s.1).toNat = s.2 := by
  cases i with
  | store op rs base offset =>
    have applied : (m.advance index (.store op rs base offset)).memory =
        op.apply m.memory (m.registers.address base offset) (m.registers.read rs) := by
      rw [Registers.address_eq]
      rfl
    rw [applied]
    exact op.byteAt_apply m.memory _ _
  | _ => exact fun s none => absurd none List.not_mem_nil

/-- Executing an instruction does what its arithmetic says, and nothing else. -/
theorem execute_meets_reference (m : Machine H) {index : Nat} {i : Instruction}
    (found : m.program[index]? = some i) :
    ∃ next, m.execute index = .ok next ∧
      (∀ rd v, i.result? m.toContext index = some (rd, v) →
        ((next.registers.read rd).toNat : Int) = v % 2 ^ 16) ∧
      (∀ s ∈ i.stored m.registers, (next.memory.byteAt s.1).toNat = s.2) ∧
      (i.callsHost = false → m.ChangesOnly next (i.footprint (fun _ _ => {}) m.registers)) ∧
      (next.halted = true ↔ m.halted = true ∨ i = .ecall Instruction.exitCode) ∧
      (next.pc : Int) =
        let target := i.nextIndex m.registers index
        if 0 ≤ target ∧ target ≤ m.program.size then target else m.program.size := by
  refine ⟨_, execute_of_found found, fun rd v gives => ?_, m.byteAt_advance index i, fun silent => ?_,
    m.halted_advance index i, m.pc_advance index i⟩
  · obtain ⟨w, written, value⟩ := m.registers_advance gives
    rw [written, Registers.read_write, if_pos rfl, value]
  · exact m.advance_changesOnly index i fun calls => by rw [silent] at calls; cases calls

def aliased : Machine Silent :=
  let m := start #[.jalr 9 1, .alu .sra 2 10] { image := .empty } Silent.mk
  (m.writeRegister 1 1).writeRegister 2 0x8003

theorem execute_meets_reference_aliased :
    (∃ next, aliased.execute 0 = .ok next ∧ next.registers.read 1 = 2 ∧ next.pc = 1) ∧
      ∃ next, aliased.execute 1 = .ok next ∧ next.registers.read 2 = 0xF000 ∧ next.pc = 2 := by
  have link : aliased.program[0]? = some (.jalr 9 1) := rfl
  have shift : aliased.program[1]? = some (.alu .sra 2 10) := rfl
  constructor
  · obtain ⟨next, ran, result, -, -, -, pc⟩ := execute_meets_reference aliased link
    have value : ((next.registers.read 9).toNat : Int) = 2 := result 9 2 rfl
    have target : (next.pc : Int) = 1 := pc.trans (by decide +kernel)
    exact ⟨next, ran, UInt16.toNat.inj (Int.ofNat.inj value), Int.ofNat.inj target⟩
  · obtain ⟨next, ran, result, -, -, -, pc⟩ := execute_meets_reference aliased shift
    have value : ((next.registers.read 2).toNat : Int) = 0xF000 :=
      (result 2 (-4096) (by decide +kernel)).trans (by decide)
    have target : (next.pc : Int) = 2 := pc.trans (by decide +kernel)
    exact ⟨next, ran, UInt16.toNat.inj (Int.ofNat.inj value), Int.ofNat.inj target⟩

end Machine

end Z16
