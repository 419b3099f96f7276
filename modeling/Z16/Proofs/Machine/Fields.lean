import Z16.Proofs.Machine.Commands
import Z16.Proofs.Word

namespace Z16

def Instruction.truncate : Instruction → Instruction
  | .alu op rd rs => .alu op (rd % 8) (rs % 8)
  | .jr rs => .jr (rs % 8)
  | .jalr rd rs => .jalr (rd % 8) (rs % 8)
  | .immediate op rd imm => .immediate op (rd % 8) imm
  | .sltui rd imm => .sltui (rd % 8) imm
  | .shift op rd amount => .shift op (rd % 8) (amount % 16)
  | .branch condition rs1 rs2 offset => .branch condition (rs1 % 8) (rs2 % 8) offset
  | .store op rs base offset => .store op (rs % 8) (base % 8) offset
  | .load op rd base offset => .load op (rd % 8) (base % 8) offset
  | .j offset => .j offset
  | .jal rd offset => .jal (rd % 8) offset
  | .upper op rd imm => .upper op (rd % 8) (imm % 512)
  | .ecall service => .ecall service
  | .unknown word => .unknown word

namespace Registers

theorem slot_mod (r : UInt8) : slot (r % 8) = slot r := by
  simp [slot, registerCount]

theorem read_mod (regs : Registers) (r : UInt8) : regs.read (r % 8) = regs.read r :=
  congrArg (fun n : Fin registerCount => regs.values[n]) (slot_mod r)

theorem write_mod (regs : Registers) (r : UInt8) (v : Word) : regs.write (r % 8) v = regs.write r v :=
  congrArg (fun n : Fin registerCount => (⟨regs.values.set n v⟩ : Registers)) (slot_mod r)

end Registers

theorem ShiftOp.eval_mod (op : ShiftOp) (v : Word) (amount : UInt8) :
    op.eval v (amount % 16).toUInt16 = op.eval v amount.toUInt16 := by
  have low : (amount % 16).toUInt16 &&& 15 = amount.toUInt16 &&& 15 := by
    apply UInt16.toNat.inj
    rw [Word.toNat_and_fifteen, Word.toNat_and_fifteen]
    simp
  cases op <;> simp only [eval, low]

theorem UpperOp.eval_mod (op : UpperOp) (index : Nat) (imm : UInt16) :
    op.eval index (imm % 512) = op.eval index imm := by
  have low : (imm % 512) <<< 7 = imm <<< 7 := by
    apply UInt16.toNat.inj
    simp [Nat.shiftLeft_eq]
    omega
  cases op <;> simp only [eval, low]

namespace Machine

variable {H : Type}

def truncate (m : Machine H) : Machine H := { m with program := m.program.map Instruction.truncate }

theorem goTo_truncate (m : Machine H) (next : Int) : m.truncate.goTo next = (m.goTo next).truncate := by
  simp only [goTo, truncate, Array.size_map]

variable [Host H]

theorem effect_truncated (m : Machine H) (index : Nat) (i : Instruction) :
    m.effect index i.truncate = m.effect index i := by
  cases i <;>
    simp only [Instruction.truncate, effect, writeRegister, Registers.read_mod, Registers.write_mod,
      ShiftOp.eval_mod, UpperOp.eval_mod]

theorem effect_truncate (m : Machine H) (index : Nat) (i : Instruction) :
    m.truncate.effect index i = Prod.map truncate id (m.effect index i) := by
  cases i with
  | ecall code =>
    have called : m.truncate.call code = (m.call code).truncate := by
      unfold call
      cases Service.ofCode? code <;> rfl
    simp only [effect, called]
    rfl
  | _ => rfl

theorem advance_truncate (m : Machine H) (index : Nat) (i : Instruction) :
    m.truncate.advance index i.truncate = (m.advance index i).truncate := by
  rw [advance, effect_truncated, effect_truncate]
  exact goTo_truncate _ _

theorem step_truncate (m : Machine H) : m.truncate.step = Prod.map id truncate m.step := by
  obtain ⟨i, fetches⟩ | finished := m.fetches_or_finished
  · have fetches' : m.truncate.Fetches i.truncate := by
      refine ⟨fetches.1, ?_⟩
      show (m.program.map Instruction.truncate)[m.pc]? = _
      rw [Array.getElem?_map, fetches.2]
      rfl
    rw [step_of_fetches fetches, step_of_fetches fetches']
    exact congrArg (Prod.mk true) (m.advance_truncate m.pc i)
  · have finished' : m.truncate.Finished := by simpa only [Finished, truncate, Array.size_map] using finished
    rw [step_of_finished finished, step_of_finished finished']
    rfl

theorem after_truncate (m : Machine H) (steps : Nat) : m.truncate.after steps = (m.after steps).truncate := by
  induction steps with
  | zero => rfl
  | succ steps ih => rw [after, ih, step_truncate, after, Prod.map_snd]

theorem run_truncate (m : Machine H) (limit : Nat) : m.truncate.run limit = Prod.map id truncate (m.run limit) := by
  induction limit generalizing m with
  | zero => rfl
  | succ limit ih =>
    rw [run_succ, run_succ, step_truncate, Prod.map_fst, Prod.map_snd, ih]
    cases m.step.1 <;> rfl

/-- With register numbers, shift amounts and upper immediates cut to their fields, a machine goes through the same
registers, places, flags, memories and hosts, and a run of it takes the same number of steps. -/
theorem runs_alike_within_fields (m : Machine H) (steps : Nat) :
    (m.truncate.after steps).snapshot = (m.after steps).snapshot ∧
      (m.truncate.after steps).memory = (m.after steps).memory ∧
      (m.truncate.after steps).host = (m.after steps).host ∧
      (m.truncate.after steps).program = m.program.map Instruction.truncate ∧
      (m.truncate.run steps).1 = (m.run steps).1 := by
  rw [after_truncate, run_truncate]
  exact ⟨rfl, rfl, rfl, congrArg (Array.map Instruction.truncate) (m.after_program steps), rfl⟩

end Machine

end Z16
