import Z16.Host
import Z16.Listing

/-!
# The machine

A machine runs a program whose instructions are counted by `pc`, from 0 to the length of the program;
at the length nothing is left to run. `effect` gives the meaning of one instruction, `step` executes
the one at `pc`, and `run` repeats this.
-/

namespace Z16

/-! ## Meaning of the operations -/

def ShiftOp.eval (op : ShiftOp) (v amount : Word) : Word :=
  let k := amount &&& 15
  match op with
  | .slli => v <<< k
  | .srli => v >>> k
  | .srai => (v.toInt16 >>> k.toInt16).toUInt16

def AluOp.eval (op : AluOp) (x y : Word) : Word :=
  match op with
  | .add => x + y
  | .sub => x - y
  | .slt => (decide (x.toInt16 < y.toInt16)).toUInt16
  | .sltu => (decide (x < y)).toUInt16
  | .sll => ShiftOp.slli.eval x y
  | .srl => ShiftOp.srli.eval x y
  | .sra => ShiftOp.srai.eval x y
  | .or => x ||| y
  | .and => x &&& y
  | .xor => x ^^^ y
  | .mv => y

def ImmediateOp.eval (op : ImmediateOp) (x : Word) (imm : Int16) : Word :=
  match op with
  | .addi => x + imm.toUInt16
  | .slti => (decide (x.toInt16 < imm)).toUInt16
  | .ori => x ||| imm.toUInt16
  | .andi => x &&& imm.toUInt16
  | .xori => x ^^^ imm.toUInt16
  | .li => imm.toUInt16

/-- Whether a branch is taken; two conditions look at one register only. -/
def Condition.holds (condition : Condition) (x y : Word) : Bool :=
  match condition with
  | .eq => x = y
  | .ne => x ≠ y
  | .zero => x = 0
  | .nonzero => x ≠ 0
  | .lt => x.toInt16 < y.toInt16
  | .ge => y.toInt16 ≤ x.toInt16
  | .ltu => x < y
  | .geu => y ≤ x

def StoreOp.apply (op : StoreOp) (m : Memory) (a v : Word) : Memory :=
  match op with
  | .sb => m.store8 a v.toUInt8
  | .sw => m.store16 a v

def LoadOp.eval (op : LoadOp) (m : Memory) (a : Word) : Word :=
  match op with
  | .lb => (m.load8 a).toInt8.toInt16.toUInt16
  | .lw => m.load16 a
  | .lbu => (m.load8 a).toUInt16

def UpperOp.eval (op : UpperOp) (index : Nat) (imm : UInt16) : Word :=
  match op with
  | .lui => imm <<< 7
  | .auipc => .ofNat index + imm <<< 7

/-! ## Snapshot -/

structure Machine (H : Type) extends Context where
  pc : Nat := 0
  halted : Bool := false
  paused : Bool := true
  program : Array Instruction
  host : H

structure Snapshot where
  registers : Registers
  pc : Nat
  halted : Bool
  paused : Bool
  deriving DecidableEq, Repr

structure IndexOutOfRange where
  index : Nat
  length : Nat
  deriving DecidableEq, Repr

def IndexOutOfRange.message (e : IndexOutOfRange) : String :=
  "Index " ++ toString e.index ++ " out of range (program has " ++ toString e.length ++
    " instructions)"

namespace Machine

variable {H : Type}

def start (program : Array Instruction) (memory : Memory) (host : H) : Machine H :=
  { registers := {}, memory, program, host }

def ofImage (image : Image) (host : H) : Machine H :=
  start (Listing.ofWords image.programWords).program.toArray { image } host

def ofWords (words : List Word) (host : H) : Except ImageTooLarge (Machine H) :=
  (Image.ofProgram words).map fun image => ofImage image host

def snapshot (m : Machine H) : Snapshot :=
  { registers := m.registers, pc := m.pc, halted := m.halted, paused := m.paused }

def pause (m : Machine H) : Machine H := { m with paused := true }

def resume (m : Machine H) : Machine H := { m with paused := false }

def togglePause (m : Machine H) : Machine H := { m with paused := !m.paused }

def reset (m : Machine H) : Machine H :=
  { m with registers := {}, memory := m.memory.reset, pc := 0, halted := false, paused := true }

def seek (m : Machine H) (delta : Int) : Machine H :=
  { m with pc := min (m.pc + delta).toNat m.program.size }

def writeRegister (m : Machine H) (r : UInt8) (v : Word) : Machine H :=
  { m with registers := m.registers.write r v }

def goTo (m : Machine H) (next : Int) : Machine H :=
  { m with pc := if 0 ≤ next ∧ next ≤ m.program.size then next.toNat else m.program.size }

/-! ## Execution -/

def call [Host H] (m : Machine H) (code : UInt16) : Machine H :=
  match Service.ofCode? code with
  | some service =>
    let (context, host) := service.perform m.toContext m.host
    { m with toContext := context, host, halted := m.halted || service = .programExit }
  | none => m

def effect [Host H] (m : Machine H) (index : Nat) (i : Instruction) : Machine H × Int :=
  let read := m.registers.read
  let following : Int := index + 1
  let link : Word := .ofNat (index + 2)
  let address (base : UInt8) (offset : Int8) : Word := read base + offset.toInt16.toUInt16
  match i with
  | .alu op rd rs => (m.writeRegister rd (op.eval (read rd) (read rs)), following)
  | .jr rs => (m, (read rs).toNat)
  | .jalr rd rs => (m.writeRegister rd link, (read rs).toNat)
  | .immediate op rd imm => (m.writeRegister rd (op.eval (read rd) imm), following)
  | .sltui rd imm =>
    (m.writeRegister rd (decide (read rd < imm.toUInt16)).toUInt16, following)
  | .shift op rd amount => (m.writeRegister rd (op.eval (read rd) amount.toUInt16), following)
  | .branch condition rs1 rs2 offset =>
    (m, if condition.holds (read rs1) (read rs2) then index + offset.toInt else following)
  | .store op rs base offset =>
    ({ m with memory := op.apply m.memory (address base offset) (read rs) }, following)
  | .load op rd base offset =>
    (m.writeRegister rd (op.eval m.memory (address base offset)), following)
  | .j offset => (m, index + offset.toInt)
  | .jal rd offset => (m.writeRegister rd link, index + offset.toInt)
  | .upper op rd imm => (m.writeRegister rd (op.eval index imm), following)
  | .ecall code => (m.call code, if code = Instruction.exitCode then index else following)
  | .unknown _ => (m, following)

def advance [Host H] (m : Machine H) (index : Nat) (i : Instruction) : Machine H :=
  let (m, next) := m.effect index i
  m.goTo next

/-- Executes the instruction at `index` as if `pc` stood there. -/
def execute [Host H] (m : Machine H) (index : Nat) : Except IndexOutOfRange (Machine H) :=
  match m.program[index]? with
  | some i => .ok (m.advance index i)
  | none => .error ⟨index, m.program.size⟩

/-- Executes the instruction at `pc` and says whether there was one; nothing runs once the machine is
halted or at its end. -/
def step [Host H] (m : Machine H) : Bool × Machine H :=
  if m.halted then (false, m)
  else
    match m.program[m.pc]? with
    | some i => (true, m.advance m.pc i)
    | none => (false, m)

theorem step_of_not_ran [Host H] {m : Machine H} (h : m.step.1 = false) : m.step.2 = m := by
  unfold step at h ⊢
  repeat' split
  all_goals simp_all

def runFrom [Host H] : (limit : Nat) → (taken : Nat) → Machine H → Nat × Machine H
  | 0, taken, m => (taken, m)
  | limit + 1, taken, m =>
    match m.step with
    | (true, next) => runFrom limit (taken + 1) next
    | (false, next) => (taken, next)

def run [Host H] (m : Machine H) (limit : Nat) : Nat × Machine H := runFrom limit 0 m

theorem runFrom_eq [Host H] (limit taken : Nat) (m : Machine H) :
    runFrom limit taken m = (taken + (m.run limit).1, (m.run limit).2) := by
  unfold run
  induction limit generalizing taken m with
  | zero => rfl
  | succ limit ih =>
    simp only [runFrom]
    split
    · next next _ => rw [ih (taken + 1), ih 1]; simp [Nat.add_assoc]
    · rfl

@[simp]
theorem run_zero [Host H] (m : Machine H) : m.run 0 = (0, m) := rfl

theorem run_succ [Host H] (m : Machine H) (limit : Nat) :
    m.run (limit + 1) =
      if m.step.1 then ((m.step.2.run limit).1 + 1, (m.step.2.run limit).2) else (0, m) := by
  rw [run, runFrom]
  split
  · next h => simp [h, runFrom_eq, Nat.add_comm]
  · next next h =>
    have same : next = m := by
      have := step_of_not_ran (m := m) (by rw [h])
      rwa [h] at this
    simp [h, same]

def trace [Host H] : (limit : Nat) → Machine H → List (Machine H)
  | 0, _ => []
  | limit + 1, m =>
    match m.step with
    | (true, next) => next :: trace limit next
    | (false, _) => []

end Machine

end Z16
