import Z16.Bits

/-!
# Memory images

An image is a file laid out from address 0; what lies behind its end reads as zero. The program
region, from 0x20 to 0xEFFF, holds the program as words with the low byte first.
-/

namespace Z16

def memorySize : Nat := 65536

inductive Region where
  | interruptVector | programCode | mmio
  deriving DecidableEq, Repr

namespace Region

def programStart : Nat := 0x20

def mmioStart : Nat := 0xF000

def ofAddress (a : Word) : Region :=
  if a.toNat < programStart then .interruptVector
  else if a.toNat < mmioStart then .programCode
  else .mmio

end Region

structure ImageTooLarge where
  size : Nat
  deriving DecidableEq, Repr

def ImageTooLarge.message (e : ImageTooLarge) : String :=
  "Image of " ++ toString e.size ++ " bytes does not fit in memory"

structure Image where
  bytes : Array Byte
  size_le : bytes.size ≤ memorySize
  deriving DecidableEq

namespace Image

def ofBytes (data : Array Byte) : Except ImageTooLarge Image :=
  if h : data.size ≤ memorySize then .ok ⟨data, h⟩ else .error ⟨data.size⟩

def ofProgram (words : List Word) : Except ImageTooLarge Image :=
  ofBytes (Array.replicate Region.programStart 0 ++ (bytesOfWords words).toArray)

def empty : Image := ⟨#[], by decide⟩

def read (image : Image) (a : Word) : Byte := image.bytes[a.toNat]?.getD 0

def slice (image : Image) (start count : Nat) : List Byte :=
  (List.range count).map fun i => image.read (.ofNat (start + i))

def interruptVector (image : Image) : List Byte := image.slice 0 Region.programStart

def mmio (image : Image) : List Byte :=
  image.slice Region.mmioStart (memorySize - Region.mmioStart)

def programCode (image : Image) : List Byte :=
  (image.bytes.extract Region.programStart Region.mmioStart).toList

def programWords (image : Image) : List Word := wordsOfBytes image.programCode

end Image

end Z16
