import Z16.Host.Console
import Z16.Machine

/-!
# Stores

An instruction or a call changes the memory by a sequence of stores at most, and leaves its image alone. Of a
host this is an assumption (`StoringHost`): it says which stores a call makes. The hosts of this library meet
it; the console stores a line when it reads a string, and nothing else.
-/

namespace Z16

namespace Memory

def storeAll (m : Memory) (stores : List (Word × Byte)) : Memory :=
  stores.foldl (fun m s => m.store8 s.1 s.2) m

@[simp]
theorem storeAll_image (m : Memory) (stores : List (Word × Byte)) : (m.storeAll stores).image = m.image :=
  List.foldlRecOn (motive := fun n : Memory => n.image = m.image) stores _ rfl fun _ same _ _ => same

def consecutive (a : Word) : List Byte → List (Word × Byte)
  | [] => []
  | b :: bs => (a, b) :: consecutive (a + 1) bs

theorem storeBytes_eq (m : Memory) (a : Word) (bs : List Byte) :
    m.storeBytes a bs = m.storeAll (consecutive a bs) := by
  induction bs generalizing m a with
  | nil => rfl
  | cons b bs ih => exact ih (m.store8 a b) (a + 1)

end Memory

def Host.KeepsImage (H : Type) [Host H] : Prop :=
  ∀ (call : HostCall) (context : Context) (host : H),
    (Host.serve call context host).1.memory.image = context.memory.image

class StoringHost (H : Type) [Host H] where
  stores : HostCall → Context → H → List (Word × Byte)
  memory_serve (call : HostCall) (context : Context) (host : H) :
    (Host.serve call context host).1.memory = context.memory.storeAll (stores call context host)

theorem StoringHost.keepsImage (H : Type) [Host H] [StoringHost H] : Host.KeepsImage H := by
  intro call context host
  rw [StoringHost.memory_serve, Memory.storeAll_image]

instance : StoringHost Silent where
  stores _ _ _ := []
  memory_serve _ _ _ := rfl

instance : StoringHost Recorder where
  stores _ _ _ := []
  memory_serve _ _ _ := rfl

namespace Console

def stores (call : HostCall) (context : Context) (c : Console) : List (Word × Byte) :=
  let capacity := (context.registers.read a1).toNat
  if call = .readString ∧ capacity ≠ 0 then
    let kept := c.nextLine.1.toByteArray.data.toList.take (capacity - 1)
    Memory.consecutive (context.registers.read a0) (kept ++ [0])
  else []

instance : StoringHost Console where
  stores := stores
  memory_serve call context c := by
    cases call with
    | readString =>
      show (readString context c).1.memory = _
      by_cases none : (context.registers.read a1).toNat = 0
      · simp [readString, stores, none, Memory.storeAll]
      · simp [readString, stores, none, Memory.storeBytes_eq]
    | _ => rfl

end Console

def StoreOp.stores (op : StoreOp) (a v : Word) : List (Word × Byte) :=
  match op with
  | .sb => [(a, v.toUInt8)]
  | .sw => [(a, v.toUInt8), (a + 1, (v >>> 8).toUInt8)]

namespace Machine

variable {H : Type} [Host H]

theorem image_advance (keeps : Host.KeepsImage H) (m : Machine H) (index : Nat) (i : Instruction) :
    (m.advance index i).memory.image = m.memory.image := by
  cases i with
  | store op rs base offset => cases op <;> rfl
  | ecall code =>
    show (m.call code).memory.image = _
    unfold call
    cases Service.ofCode? code with
    | none => rfl
    | some service =>
      cases service with
      | host call => exact keeps call m.toContext m.host
      | programExit => rfl
  | _ => rfl

variable [StoringHost H]

def stores (m : Machine H) : Instruction → List (Word × Byte)
  | .store op rs base offset =>
    op.stores (m.registers.read base + offset.toInt16.toUInt16) (m.registers.read rs)
  | .ecall code =>
    match Service.ofCode? code with
    | some (.host call) => StoringHost.stores call m.toContext m.host
    | _ => []
  | _ => []

theorem memory_advance (m : Machine H) (index : Nat) (i : Instruction) :
    (m.advance index i).memory = m.memory.storeAll (m.stores i) := by
  cases i with
  | store op rs base offset => cases op <;> rfl
  | ecall code =>
    show (m.call code).memory = _
    simp only [call, stores]
    cases Service.ofCode? code with
    | none => rfl
    | some service =>
      cases service with
      | host call => exact StoringHost.memory_serve call m.toContext m.host
      | programExit => rfl
  | _ => rfl

end Machine

end Z16
