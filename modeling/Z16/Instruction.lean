import Z16.Bits
import Z16.Mnemonic

/-!
# Instructions

An instruction carries its operands at the width of their type, so that a hand-built one may hold a
register number or an immediate that no word can. Offsets of branches and jumps count words, offsets
of loads and stores count bytes.
-/

namespace Z16

inductive Instruction where
  /-- `rd` is both the first operand and the destination. -/
  | alu (op : AluOp) (rd rs : UInt8)
  | jr (rs : UInt8)
  | jalr (rd rs : UInt8)
  | immediate (op : ImmediateOp) (rd : UInt8) (imm : Int16)
  | sltui (rd imm : UInt8)
  | shift (op : ShiftOp) (rd amount : UInt8)
  | branch (condition : Condition) (rs1 rs2 : UInt8) (offset : Int16)
  | store (op : StoreOp) (rs base : UInt8) (offset : Int8)
  | load (op : LoadOp) (rd base : UInt8) (offset : Int8)
  | j (offset : Int16)
  | jal (rd : UInt8) (offset : Int16)
  | upper (op : UpperOp) (rd : UInt8) (imm : UInt16)
  | ecall (service : UInt16)
  | unknown (word : Word)
  deriving DecidableEq, Repr

namespace Instruction

def mnemonic? : Instruction → Option Mnemonic
  | .alu op .. => some (.alu op)
  | .jr _ => some .jr
  | .jalr .. => some .jalr
  | .immediate op .. => some (.immediate op)
  | .sltui .. => some .sltui
  | .shift op .. => some (.shift op)
  | .branch condition .. => some (.branch condition)
  | .store op .. => some (.store op)
  | .load op .. => some (.load op)
  | .j _ => some .j
  | .jal .. => some .jal
  | .upper op .. => some (.upper op)
  | .ecall _ => some .ecall
  | .unknown _ => none

def offset? : Instruction → Option Int16
  | .branch _ _ _ offset | .j offset | .jal _ offset => some offset
  | _ => none

def exitCode : UInt16 := 10

def isExit (i : Instruction) : Bool := i == .ecall exitCode

end Instruction

end Z16
