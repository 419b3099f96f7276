import Z16.Bits
import Z16.Mnemonic

/-!
# Formats and selectors

The opcode, bits 2 to 0, gives the format of a word. The format says which other bits select the
mnemonic; `Mnemonic.selector` is the table of them, and `Mnemonic.ofSelector?` looks it up.
-/

namespace Z16

inductive Format where
  | register | immediate | branch | store | load | jump | upper | system
  deriving DecidableEq, Repr

namespace Format

def opcode : Format → UInt8
  | .register => 0
  | .immediate => 1
  | .branch => 2
  | .store => 3
  | .load => 4
  | .jump => 5
  | .upper => 6
  | .system => 7

def ofOpcode? : UInt8 → Option Format
  | 0 => some .register
  | 1 => some .immediate
  | 2 => some .branch
  | 3 => some .store
  | 4 => some .load
  | 5 => some .jump
  | 6 => some .upper
  | 7 => some .system
  | _ => none

theorem ofOpcode?_eq_some {code : UInt8} {f : Format} : ofOpcode? code = some f ↔ f.opcode = code := by
  constructor
  · fun_cases ofOpcode? code <;> rintro ⟨⟩ <;> rfl
  · rintro rfl
    cases f <;> rfl

theorem isSome_ofOpcode? {code : UInt8} (small : code.toNat < 8) : (ofOpcode? code).isSome := by
  have listed : ∀ n < 8, (ofOpcode? (.ofNat n)).isSome := by decide
  have found := listed code.toNat small
  rwa [UInt8.ofNat_toNat] at found

end Format

/-- The bits beside the opcode that select a mnemonic. -/
inductive Selector where
  /-- Bits 15 to 12 and bits 5 to 3. -/
  | register (funct4 funct3 : UInt8)
  /-- Bits 5 to 3, and bits 15 to 9 whose upper three select among the shifts. -/
  | immediate (funct3 imm7 : UInt8)
  /-- Bits 5 to 3. -/
  | funct3 (value : UInt8)
  /-- Bit 15. -/
  | flag (set : Bool)
  deriving DecidableEq, Repr

namespace Selector

/-- The value of bits 5 to 3 that the shifts by a constant share. -/
def shiftGroup : UInt8 := 3

/-- Whether the bits `found` in a word are those that an entry of the table asks for. The immediate
itself matters only in the shift group, and there only its upper three bits. -/
def accepts : (entry found : Selector) → Bool
  | .register high low, .register high' low' => high == high' && low == low'
  | .immediate low imm, .immediate low' imm' =>
    low == low' && (low != shiftGroup || imm / 16 % 8 == imm' / 16 % 8)
  | .funct3 low, .funct3 low' => low == low'
  | .flag set, .flag found => set == found
  | _, _ => false

end Selector

def AluOp.selector : AluOp → Selector
  | .add => .register 0 0
  | .sub => .register 1 0
  | .slt => .register 2 1
  | .sltu => .register 3 2
  | .sll => .register 4 3
  | .srl => .register 5 3
  | .sra => .register 6 3
  | .or => .register 7 4
  | .and => .register 8 5
  | .xor => .register 9 6
  | .mv => .register 10 7

def ImmediateOp.selector : ImmediateOp → Selector
  | .addi => .immediate 0 0
  | .slti => .immediate 1 0
  | .ori => .immediate 4 0
  | .andi => .immediate 5 0
  | .xori => .immediate 6 0
  | .li => .immediate 7 0

def ShiftOp.selector : ShiftOp → Selector
  | .slli => .immediate Selector.shiftGroup 0x10
  | .srli => .immediate Selector.shiftGroup 0x20
  | .srai => .immediate Selector.shiftGroup 0x40

def Condition.selector : Condition → Selector
  | .eq => .funct3 0
  | .ne => .funct3 1
  | .zero => .funct3 2
  | .nonzero => .funct3 3
  | .lt => .funct3 4
  | .ge => .funct3 5
  | .ltu => .funct3 6
  | .geu => .funct3 7

def StoreOp.selector : StoreOp → Selector
  | .sb => .funct3 0
  | .sw => .funct3 1

def LoadOp.selector : LoadOp → Selector
  | .lb => .funct3 0
  | .lw => .funct3 1
  | .lbu => .funct3 4

def UpperOp.selector : UpperOp → Selector
  | .lui => .flag false
  | .auipc => .flag true

namespace Mnemonic

def format : Mnemonic → Format
  | .alu _ | .jr | .jalr => .register
  | .immediate _ | .sltui | .shift _ => .immediate
  | .branch _ => .branch
  | .store _ => .store
  | .load _ => .load
  | .j | .jal => .jump
  | .upper _ => .upper
  | .ecall => .system

def selector : Mnemonic → Selector
  | .alu op => op.selector
  | .jr => .register 11 0
  | .jalr => .register 12 0
  | .immediate op => op.selector
  | .sltui => .immediate 2 0
  | .shift op => op.selector
  | .branch condition => condition.selector
  | .store op => op.selector
  | .load op => op.selector
  | .j => .flag false
  | .jal => .flag true
  | .upper op => op.selector
  | .ecall => .funct3 0

def ofSelector? (format : Format) (found : Selector) : Option Mnemonic :=
  all.find? fun m => m.format == format && m.selector.accepts found

theorem ofSelector?_selector (m : Mnemonic) : ofSelector? m.format m.selector = some m :=
  (by decide : ∀ m ∈ all, ofSelector? m.format m.selector = some m) m m.mem_all

end Mnemonic

end Z16
