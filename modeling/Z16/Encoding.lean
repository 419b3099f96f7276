import Z16.Selector
import Z16.Instruction
import Z16.Text

/-!
# Words and instructions

`decode` reads the instruction that a word encodes, `encode` writes the word of an instruction whose
operands fit their fields. A word is the sum of its parts, each shifted to its place: the opcode, the
selector of the mnemonic and the operands.
-/

namespace Z16

/-- A word whose selector bits belong to no mnemonic of its format. -/
structure DecodeError where
  word : Word
  format : Format
  deriving DecidableEq, Repr

def DecodeError.message (e : DecodeError) : String :=
  let reason :=
    match e.format with
    | .register => "invalid R-type"
    | .immediate => "invalid I-type"
    | .branch => "invalid branch"
    | .store => "invalid store"
    | .load => "invalid load"
    | .jump => "invalid jump"
    | .upper => "invalid upper-immediate"
    | .system => "invalid system call"
  "Decode error: " ++ reason ++ " (word 0x" ++ Text.hex 4 e.word.toNat ++ ")"

inductive EncodeError where
  | register | immediate | unsignedImmediate | shiftAmount | branchOffset | memoryOffset | jumpOffset
  | upperImmediate | serviceCode
  deriving DecidableEq, Repr

def EncodeError.message (e : EncodeError) : String :=
  "Encode error: " ++
    match e with
    | .register => "register out of range"
    | .immediate => "I-imm must fit 7 signed bits"
    | .unsignedImmediate => "SLTUI imm must fit 7 bits"
    | .shiftAmount => "shift amount must be 0..=15"
    | .branchOffset => "branch offset must be -8..=7 words"
    | .memoryOffset => "memory offset must be -8..=7"
    | .jumpOffset => "jump offset must be -256..=255 words"
    | .upperImmediate => "upper immediate must fit 9 bits"
    | .serviceCode => "service code must fit 10 bits"

/-! ## Decoding -/

theorem opcode_lt (w : Word) : (bits w 2 0).toUInt8.toNat < 8 := by
  rw [UInt16.toNat_toUInt8, toNat_bits]
  omega

/-- The format of a word; every opcode of three bits has one. -/
def Format.ofWord (w : Word) : Format :=
  (ofOpcode? (bits w 2 0).toUInt8).get (isSome_ofOpcode? (opcode_lt w))

theorem Format.ofOpcode?_ofWord (w : Word) : ofOpcode? (bits w 2 0).toUInt8 = some (ofWord w) :=
  (Option.some_get _).symm

def Selector.ofWord (w : Word) : Selector :=
  let funct3 := (bits w 5 3).toUInt8
  match Format.ofWord w with
  | .register => .register (bits w 15 12).toUInt8 funct3
  | .immediate => .immediate funct3 (bits w 15 9).toUInt8
  | .branch | .store | .load | .system => .funct3 funct3
  | .jump | .upper => .flag (bits w 15 15 = 1)

/-- The immediate of nine bits that jumps and upper immediates share: bits 14 to 9, then 5 to 3. -/
def splitImmediate (w : Word) : Word := bits w 14 9 * 8 + bits w 5 3

namespace Instruction

def ofWord (m : Mnemonic) (w : Word) : Instruction :=
  let mid := (bits w 11 9).toUInt8
  let low := (bits w 8 6).toUInt8
  match m with
  | .alu op => .alu op low mid
  | .jr => .jr low
  | .jalr => .jalr low mid
  | .immediate op => .immediate op low (sext (bits w 15 9) 7)
  | .sltui => .sltui low (bits w 15 9).toUInt8
  | .shift op => .shift op low (bits w 12 9).toUInt8
  | .branch condition => .branch condition low mid (sext (bits w 15 12) 4)
  | .store op => .store op low mid (sext (bits w 15 12) 4).toInt8
  | .load op => .load op low mid (sext (bits w 15 12) 4).toInt8
  | .j => .j (sext (splitImmediate w) 9)
  | .jal => .jal low (sext (splitImmediate w) 9)
  | .upper op => .upper op low (splitImmediate w)
  | .ecall => .ecall (bits w 15 6)

end Instruction

def decode (w : Word) : Except DecodeError Instruction :=
  match Mnemonic.ofSelector? (Format.ofWord w) (Selector.ofWord w) with
  | some m => .ok (.ofWord m w)
  | none => .error ⟨w, Format.ofWord w⟩

def decodeOrUnknown (w : Word) : Instruction :=
  match decode w with
  | .ok i => i
  | .error _ => .unknown w

/-- Whether a word ends the program: a system word with the exit code, whatever its bits 5 to 3. -/
def isExitWord (w : Word) : Bool :=
  Format.ofWord w = .system && bits w 15 6 = Instruction.exitCode

/-! ## Encoding -/

attribute [local instance(high)] instPowNat

def Selector.part : Selector → Nat
  | .register high low => high.toNat <<< 12 + low.toNat <<< 3
  | .immediate low imm => imm.toNat <<< 9 + low.toNat <<< 3
  | .funct3 low => low.toNat <<< 3
  | .flag set => set.toNat <<< 15

def Mnemonic.word (m : Mnemonic) (operands : Nat) : Word :=
  .ofNat (m.format.opcode.toNat + m.selector.part + operands)

def registerField (r : UInt8) : Except EncodeError Nat :=
  if r.toNat < 8 then .ok r.toNat else .error .register

def signedField (e : EncodeError) (width : Nat) (v : Int) : Except EncodeError Nat :=
  if -2 ^ (width - 1) ≤ v ∧ v < 2 ^ (width - 1) then .ok (v % 2 ^ width).toNat else .error e

def unsignedField (e : EncodeError) (width v : Nat) : Except EncodeError Nat :=
  if v < 2 ^ width then .ok v else .error e

def splitPart (imm9 : Nat) : Nat := (imm9 / 8) <<< 9 + (imm9 % 8) <<< 3

/-- The word of an instruction. Of several operands that do not fit, the immediate is reported. -/
def encode : Instruction → Except EncodeError Word
  | .alu op rd rs => do
    let rs ← registerField rs
    let rd ← registerField rd
    return Mnemonic.word (.alu op) (rs <<< 9 + rd <<< 6)
  | .jr rs => do
    let rs ← registerField rs
    return Mnemonic.word .jr (rs <<< 6)
  | .jalr rd rs => do
    let rs ← registerField rs
    let rd ← registerField rd
    return Mnemonic.word .jalr (rs <<< 9 + rd <<< 6)
  | .immediate op rd imm => do
    let imm ← signedField .immediate 7 imm.toInt
    let rd ← registerField rd
    return Mnemonic.word (.immediate op) (imm <<< 9 + rd <<< 6)
  | .sltui rd imm => do
    let imm ← unsignedField .unsignedImmediate 7 imm.toNat
    let rd ← registerField rd
    return Mnemonic.word .sltui (imm <<< 9 + rd <<< 6)
  | .shift op rd amount => do
    let amount ← unsignedField .shiftAmount 4 amount.toNat
    let rd ← registerField rd
    return Mnemonic.word (.shift op) (amount <<< 9 + rd <<< 6)
  | .branch condition rs1 rs2 offset => do
    let imm ← signedField .branchOffset 4 offset.toInt
    let rs2 ← registerField rs2
    let rs1 ← registerField rs1
    return Mnemonic.word (.branch condition) (imm <<< 12 + rs2 <<< 9 + rs1 <<< 6)
  | .store op rs base offset => do
    let imm ← signedField .memoryOffset 4 offset.toInt
    let base ← registerField base
    let rs ← registerField rs
    return Mnemonic.word (.store op) (imm <<< 12 + base <<< 9 + rs <<< 6)
  | .load op rd base offset => do
    let imm ← signedField .memoryOffset 4 offset.toInt
    let base ← registerField base
    let rd ← registerField rd
    return Mnemonic.word (.load op) (imm <<< 12 + base <<< 9 + rd <<< 6)
  | .j offset => do
    let imm ← signedField .jumpOffset 9 offset.toInt
    return Mnemonic.word .j (splitPart imm)
  | .jal rd offset => do
    let imm ← signedField .jumpOffset 9 offset.toInt
    let rd ← registerField rd
    return Mnemonic.word .jal (splitPart imm + rd <<< 6)
  | .upper op rd imm => do
    let imm ← unsignedField .upperImmediate 9 imm.toNat
    let rd ← registerField rd
    return Mnemonic.word (.upper op) (splitPart imm + rd <<< 6)
  | .ecall service => do
    let service ← unsignedField .serviceCode 10 service.toNat
    return Mnemonic.word .ecall (service <<< 6)
  | .unknown w => .ok w

end Z16
