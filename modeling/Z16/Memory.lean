import Std.Data.HashMap
import Z16.Image

/-!
# Data memory

Loads and stores see an image through the stores made since the last reset. The image itself never
changes.
-/

namespace Z16

structure Memory where
  image : Image
  stores : Std.HashMap Word Byte := ∅

namespace Memory

def load8 (m : Memory) (a : Word) : Byte := m.stores[a]?.getD (m.image.read a)

def store8 (m : Memory) (a : Word) (v : Byte) : Memory := { m with stores := m.stores.insert a v }

@[simp]
theorem load8_store8 (m : Memory) (a b : Word) (v : Byte) :
    (m.store8 a v).load8 b = if a = b then v else m.load8 b := by
  by_cases h : a = b <;> simp [load8, store8, Std.HashMap.getElem?_insert, h]

def load16 (m : Memory) (a : Word) : Word := Word.ofBytes (m.load8 a) (m.load8 (a + 1))

def store16 (m : Memory) (a v : Word) : Memory :=
  (m.store8 a v.toUInt8).store8 (a + 1) (v >>> 8).toUInt8

def storeBytes (m : Memory) (a : Word) : List Byte → Memory
  | [] => m
  | b :: bs => (m.store8 a b).storeBytes (a + 1) bs

def loadBytes (m : Memory) (a : Word) (count : Nat) : List Byte :=
  (List.range count).map fun i => m.load8 (a + .ofNat i)

/-- Puts the bytes before the first zero at `a` or behind in front of `done`, the last one first; at
most `count` bytes are taken. -/
def scanString (m : Memory) : (count : Nat) → (a : Word) → (done : List Byte) → List Byte
  | 0, _, done => done
  | count + 1, a, done =>
    let b := m.load8 a
    if b = 0 then done else m.scanString count (a + 1) (b :: done)

/-- The bytes from an address up to the first zero, each address taken at most once. -/
def loadString (m : Memory) (a : Word) : List Byte := (m.scanString memorySize a []).reverse

def reset (m : Memory) : Memory := { image := m.image }

@[simp]
theorem load8_reset (m : Memory) (a : Word) : m.reset.load8 a = m.image.read a := by
  simp [load8, reset]

end Memory

end Z16
