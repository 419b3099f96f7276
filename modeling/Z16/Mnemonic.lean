namespace Z16

inductive AluOp where
  | add | sub | slt | sltu | sll | srl | sra | or | and | xor | mv
  deriving DecidableEq, Repr

inductive ImmediateOp where
  | addi | slti | ori | andi | xori | li
  deriving DecidableEq, Repr

inductive ShiftOp where
  | slli | srli | srai
  deriving DecidableEq, Repr

inductive Condition where
  | eq | ne | zero | nonzero | lt | ge | ltu | geu
  deriving DecidableEq, Repr

inductive StoreOp where
  | sb | sw
  deriving DecidableEq, Repr

inductive LoadOp where
  | lb | lw | lbu
  deriving DecidableEq, Repr

inductive UpperOp where
  | lui | auipc
  deriving DecidableEq, Repr

inductive Mnemonic where
  | alu (op : AluOp)
  | jr
  | jalr
  | immediate (op : ImmediateOp)
  | sltui
  | shift (op : ShiftOp)
  | branch (condition : Condition)
  | store (op : StoreOp)
  | load (op : LoadOp)
  | j
  | jal
  | upper (op : UpperOp)
  | ecall
  deriving DecidableEq, Repr

def AluOp.text : AluOp → String
  | .add => "ADD" | .sub => "SUB" | .slt => "SLT" | .sltu => "SLTU" | .sll => "SLL" | .srl => "SRL"
  | .sra => "SRA" | .or => "OR" | .and => "AND" | .xor => "XOR" | .mv => "MV"

def ImmediateOp.text : ImmediateOp → String
  | .addi => "ADDI" | .slti => "SLTI" | .ori => "ORI" | .andi => "ANDI" | .xori => "XORI"
  | .li => "LI"

def ShiftOp.text : ShiftOp → String
  | .slli => "SLLI" | .srli => "SRLI" | .srai => "SRAI"

def Condition.text : Condition → String
  | .eq => "BEQ" | .ne => "BNE" | .zero => "BZ" | .nonzero => "BNZ" | .lt => "BLT" | .ge => "BGE"
  | .ltu => "BLTU" | .geu => "BGEU"

def StoreOp.text : StoreOp → String
  | .sb => "SB" | .sw => "SW"

def LoadOp.text : LoadOp → String
  | .lb => "LB" | .lw => "LW" | .lbu => "LBU"

def UpperOp.text : UpperOp → String
  | .lui => "LUI" | .auipc => "AUIPC"

namespace Mnemonic

def text : Mnemonic → String
  | .alu op => op.text
  | .jr => "JR"
  | .jalr => "JALR"
  | .immediate op => op.text
  | .sltui => "SLTUI"
  | .shift op => op.text
  | .branch condition => condition.text
  | .store op => op.text
  | .load op => op.text
  | .j => "J"
  | .jal => "JAL"
  | .upper op => op.text
  | .ecall => "ECALL"

def all : List Mnemonic :=
  [.alu .add, .alu .sub, .alu .slt, .alu .sltu, .alu .sll, .alu .srl, .alu .sra, .alu .or,
    .alu .and, .alu .xor, .alu .mv, .jr, .jalr, .immediate .addi, .immediate .slti, .sltui,
    .shift .slli, .shift .srli, .shift .srai, .immediate .ori, .immediate .andi,
    .immediate .xori, .immediate .li, .branch .eq, .branch .ne, .branch .zero, .branch .nonzero,
    .branch .lt, .branch .ge, .branch .ltu, .branch .geu, .store .sb, .store .sw, .load .lb,
    .load .lw, .load .lbu, .j, .jal, .upper .lui, .upper .auipc, .ecall]

theorem mem_all (m : Mnemonic) : m ∈ all := by
  cases m <;> (try rename_i op; cases op) <;> decide

end Mnemonic

end Z16
