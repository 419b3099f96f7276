import Z16.Memory
import Z16.Proofs.Transcript
import Z16.Proofs.Word

/-!
# Flat memory

A flat memory is an array with a byte for each address and a copy of what the array held first. A memory
answers every sequence of accesses like the flat one that starts as a copy of its image
(`Memory.answers_eq_flat`).
-/

namespace Z16

inductive Access where
  | load8 (a : Word)
  | load16 (a : Word)
  | store8 (a : Word) (v : Byte)
  | store16 (a v : Word)
  | reset
  deriving DecidableEq, Repr

def Memory.access (m : Memory) : Access → Option Nat × Memory
  | .load8 a => (some (m.load8 a).toNat, m)
  | .load16 a => (some (m.load16 a).toNat, m)
  | .store8 a v => (none, m.store8 a v)
  | .store16 a v => (none, m.store16 a v)
  | .reset => (none, m.reset)

structure FlatMemory where
  initial : Vector Byte memorySize
  cells : Vector Byte memorySize := initial

namespace FlatMemory

def cell (n : Nat) : Fin memorySize := ⟨n % memorySize, Nat.mod_lt n (by decide)⟩

def ofImage (image : Image) : FlatMemory where
  initial := .ofFn fun i => image.read (.ofNat i)

def read (m : FlatMemory) (n : Nat) : Byte := m.cells[cell n]

def write (m : FlatMemory) (n : Nat) (v : Byte) : FlatMemory :=
  { m with cells := m.cells.set (cell n) v }

def access (m : FlatMemory) : Access → Option Nat × FlatMemory
  | .load8 a => (some (m.read a.toNat).toNat, m)
  | .load16 a => (some ((m.read a.toNat).toNat + 256 * (m.read (a.toNat + 1)).toNat), m)
  | .store8 a v => (none, m.write a.toNat v)
  | .store16 a v =>
    (none, (m.write a.toNat (.ofNat (v.toNat % 256))).write (a.toNat + 1) (.ofNat (v.toNat / 256)))
  | .reset => (none, { m with cells := m.initial })

theorem read_write (m : FlatMemory) (a b : Nat) (v : Byte) :
    (m.write a v).read b = if cell a = cell b then v else m.read b := by
  simp [read, write, Vector.getElem_set, Fin.ext_iff]

theorem cell_inj {a b : Word} : cell a.toNat = cell b.toNat ↔ a = b := by
  have := a.toNat_lt
  have := b.toNat_lt
  simp only [cell, Fin.mk.injEq, ← UInt16.toNat_inj, memorySize]
  omega

theorem cell_succ (a : Word) : cell (a.toNat + 1) = cell (a + 1).toNat := by
  simp [cell, memorySize]

theorem read_succ (m : FlatMemory) (a : Word) : m.read (a.toNat + 1) = m.read (a + 1).toNat := by
  simp only [read, cell_succ]

theorem write_succ (m : FlatMemory) (a : Word) (v : Byte) :
    m.write (a.toNat + 1) v = m.write (a + 1).toNat v := by
  simp only [write, cell_succ]

end FlatMemory

namespace Memory

structure Refines (m : Memory) (flat : FlatMemory) : Prop where
  load8 : ∀ a : Word, m.load8 a = flat.read a.toNat
  initial : ∀ a : Word, m.image.read a = flat.initial[FlatMemory.cell a.toNat]

namespace Refines

variable {m : Memory} {flat : FlatMemory}

theorem ofImage (image : Image) : Refines { image } (.ofImage image) := by
  have copied (a : Word) : image.read a = (FlatMemory.ofImage image).initial[FlatMemory.cell a.toNat] := by
    have here : FlatMemory.cell a.toNat = a.toNat := Nat.mod_eq_of_lt a.toNat_lt
    simp only [FlatMemory.ofImage, Fin.getElem_fin, Vector.getElem_ofFn, here, UInt16.ofNat_toNat]
  exact ⟨fun a => (load8_reset { image } a).trans (copied a), copied⟩

theorem store8 (h : m.Refines flat) (a : Word) (v : Byte) :
    (m.store8 a v).Refines (flat.write a.toNat v) where
  load8 b := by
    rw [load8_store8, FlatMemory.read_write, h.load8]
    simp only [FlatMemory.cell_inj]
  initial := h.initial

theorem load16 (h : m.Refines flat) (a : Word) :
    (m.load16 a).toNat = (flat.read a.toNat).toNat + 256 * (flat.read (a.toNat + 1)).toNat := by
  rw [Memory.load16, Word.toNat_ofBytes, h.load8, h.load8, FlatMemory.read_succ]

theorem store16 (h : m.Refines flat) (a v : Word) :
    (m.store16 a v).Refines ((flat.write a.toNat (.ofNat (v.toNat % 256))).write (a.toNat + 1)
      (.ofNat (v.toNat / 256))) := by
  rw [Memory.store16, Word.toUInt8_eq_ofNat, Word.toUInt8_shiftRight_eq_ofNat, FlatMemory.write_succ]
  exact (h.store8 a _).store8 (a + 1) _

theorem reset (h : m.Refines flat) : m.reset.Refines { flat with cells := flat.initial } where
  load8 a := (load8_reset m a).trans (h.initial a)
  initial := h.initial

theorem access : Transcript.IsSimulation Memory.access FlatMemory.access Refines := by
  intro m flat x h
  cases x with
  | load8 a => exact ⟨congrArg (fun b : Byte => some b.toNat) (h.load8 a), h⟩
  | load16 a => exact ⟨congrArg some (h.load16 a), h⟩
  | store8 a v => exact ⟨rfl, h.store8 a v⟩
  | store16 a v => exact ⟨rfl, h.store16 a v⟩
  | reset => exact ⟨rfl, h.reset⟩

end Refines

theorem access_image (m : Memory) (x : Access) : (m.access x).2.image = m.image := by
  cases x <;> rfl

/-- No sequence of accesses tells a memory from a flat array that starts as a copy of the image, and none
changes the image. -/
theorem answers_eq_flat (image : Image) (xs : List Access) :
    let m := Transcript.last access { image } xs
    Transcript.answers access { image } xs =
        Transcript.answers FlatMemory.access (.ofImage image) xs ∧
      m.Refines (Transcript.last FlatMemory.access (.ofImage image) xs) ∧ m.image = image := by
  intro m
  have start := Refines.ofImage image
  have same : m.image = image :=
    Transcript.last_keeps (fun m : Memory => m.image = image)
      (fun m x kept => (access_image m x).trans kept) rfl xs
  exact ⟨Transcript.answers_eq_of_related Refines.access start xs,
    Transcript.related_last Refines.access start xs, same⟩

end Memory

end Z16
