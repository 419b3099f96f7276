import Z16.Encoding
import Z16.Service
import Z16.LabelTable

/-!
# Listings

A listing is the program that a sequence of words holds, up to the first word that ends it, with a
label for every target of a branch or jump. A target counts as long as it lies among the words, also
behind the end of the program.
-/

namespace Z16

inductive Target where
  | label (l : Label)
  | offset (delta : Int16)
  deriving DecidableEq, Repr

def Target.text : Target → String
  | .label l => l.text
  | .offset delta => toString delta.toInt

inductive Operand where
  | register (r : UInt8)
  | amount (n : UInt8)
  | field (v : UInt16)
  | memory (offset : Int8) (base : UInt8)
  | target (t : Target)
  | service (code : UInt16)
  deriving DecidableEq, Repr

def registerText (r : UInt8) : String := "x" ++ toString r.toNat

def Operand.text : Operand → String
  | .register r => registerText r
  | .amount n => toString n.toNat
  | .field v => "0x" ++ Text.hex 2 v.toNat
  | .memory offset base => toString offset.toInt ++ "(" ++ registerText base ++ ")"
  | .target t => t.text
  | .service code => toString code.toNat

structure Entry where
  index : Nat
  word : Word
  instruction : Instruction
  target? : Option Target
  deriving DecidableEq, Repr

namespace Entry

def operands (e : Entry) : List Operand :=
  let target := Operand.target (e.target?.getD (.offset 0))
  match e.instruction with
  | .alu _ rd rs | .jalr rd rs => [.register rd, .register rs]
  | .jr rs => [.register rs]
  | .immediate _ rd imm => [.register rd, .field (imm.toUInt16 % 128)]
  | .sltui rd imm => [.register rd, .field imm.toUInt16]
  | .shift _ rd amount => [.register rd, .amount amount]
  | .branch _ rs1 rs2 _ => [.register rs1, .register rs2, target]
  | .store _ r base offset | .load _ r base offset => [.register r, .memory offset base]
  | .j _ => [target]
  | .jal rd _ => [.register rd, target]
  | .upper _ rd imm => [.register rd, .field imm]
  | .ecall service => [.service service]
  | .unknown _ => []

def comment (e : Entry) : String :=
  match e.instruction with
  | .ecall code =>
    match Service.ofCode? code with
    | some service => "  # " ++ service.name
    | none => ""
  | _ => ""

def text (e : Entry) : String :=
  match e.instruction.mnemonic? with
  | some m => m.text ++ " " ++ ", ".intercalate (e.operands.map Operand.text) ++ e.comment
  | none => "UNKNOWN 0x" ++ Text.hex 4 e.word.toNat

end Entry

/-- The words up to and including the first that ends the program. -/
def throughExit : List Word → List Word
  | [] => []
  | w :: ws => if isExitWord w then [w] else w :: throughExit ws

def Instruction.targetIndex? (i : Instruction) (index count : Nat) : Option Nat :=
  i.offset?.bind fun offset =>
    let target := index + offset.toInt
    if 0 ≤ target ∧ target < count then some target.toNat else none

def LabelTable.target? (t : LabelTable) (i : Instruction) (index count : Nat) : Option Target :=
  i.offset?.map fun offset =>
    match (i.targetIndex? index count).bind t.get? with
    | some l => .label l
    | none => .offset offset

structure Listing where
  entries : List Entry
  labels : LabelTable

namespace Listing

def ofWords (ws : List Word) : Listing :=
  let count := ws.length
  let words := (throughExit ws).zipIdx
  let labels := LabelTable.ofTargets <|
    words.filterMap fun (w, index) => (decodeOrUnknown w).targetIndex? index count
  let entries := words.map fun (w, index) =>
    let i := decodeOrUnknown w
    { index, word := w, instruction := i, target? := labels.target? i index count }
  { entries, labels }

def program (l : Listing) : List Instruction := l.entries.map Entry.instruction

def labelLine (label : Label) : String := label.text ++ ":"

def labelLinesAt (l : Listing) (index : Nat) : List String :=
  ((l.labels.get? index).map labelLine).toList

def trailingLines (l : Listing) : List String :=
  let count := l.entries.length
  (l.labels.toList.filter fun (target, _) => count ≤ target).map fun (_, label) => labelLine label

/-- The lines of the listing, each label right before its target. -/
def lines (l : Listing) : List String :=
  l.entries.flatMap (fun e => l.labelLinesAt e.index ++ [e.text]) ++ l.trailingLines

def text (l : Listing) : String := String.join (l.lines.map (· ++ "\n"))

end Listing

end Z16
