import Z16.Bits
import Z16.BitString
import Z16.Text

/-!
# Registers

Eight registers of one word each. A register number counts modulo 8, the width of its field.
-/

namespace Z16

def registerCount : Nat := 8

/-- The register of the first argument and of the result of a call. -/
def a0 : UInt8 := 6

/-- The register of the second argument of a call. -/
def a1 : UInt8 := 7

def abiName (r : UInt8) : String :=
  match r.toNat with
  | 0 => "t0"
  | 1 => "ra"
  | 2 => "sp"
  | 3 => "s0"
  | 4 => "s1"
  | 5 => "t1"
  | 6 => "a0"
  | 7 => "a1"
  | _ => ""

structure Registers where
  values : Vector Word registerCount := .replicate registerCount 0
  deriving DecidableEq, Repr

namespace Registers

def slot (r : UInt8) : Fin registerCount := ⟨r.toNat % registerCount, Nat.mod_lt _ (by decide)⟩

def read (regs : Registers) (r : UInt8) : Word := regs.values[slot r]

def write (regs : Registers) (r : UInt8) (v : Word) : Registers :=
  ⟨regs.values.set (slot r) v⟩

theorem read_write (regs : Registers) (r s : UInt8) (v : Word) :
    (regs.write r v).read s = if slot r = slot s then v else regs.read s := by
  simp [read, write, Vector.getElem_set, Fin.ext_iff]

def readSigned (regs : Registers) (r : UInt8) : Int16 := (regs.read r).toInt16

def bitText (regs : Registers) (r : UInt8) : String :=
  BitString.write (BitString.ofNat (regs.read r).toNat 16)

def dump (regs : Registers) : List String :=
  (List.range registerCount).map fun n =>
    let r : UInt8 := .ofNat n
    "x" ++ toString n ++ " (" ++ abiName r ++ ") = 0x" ++ Text.hex 4 (regs.read r).toNat

end Registers

end Z16
