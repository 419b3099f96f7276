import Mathlib.Data.List.TakeDrop
import Z16.Proofs.Image.ProgramWords
import Z16.Proofs.Word

namespace Z16

theorem takeD_of_length_le {α : Type} {l : List α} {n : Nat} (a : α) (short : l.length ≤ n) :
    l.takeD n a = l ++ List.replicate (n - l.length) a := by
  induction l generalizing n with
  | nil => simp
  | cons b l ih =>
    cases n with
    | zero => exact absurd short (Nat.not_succ_le_zero _)
    | succ n => simp [ih (Nat.le_of_succ_le_succ short)]

namespace Image

theorem slice_eq_takeD (image : Image) {start count : Nat} (inside : start + count ≤ memorySize) :
    image.slice start count = (image.bytes.toList.drop start).takeD count 0 := by
  induction count generalizing start with
  | zero => rfl
  | succ count ih =>
    have first : image.read (.ofNat start) = (image.bytes.toList.drop start).head?.getD 0 := by
      rw [read_ofNat image (by omega), List.head?_drop, Array.getElem?_toList]
    have rest : ((List.range count).map fun i => image.read (.ofNat (start + (i + 1)))) =
        image.slice (start + 1) count := by
      simp only [slice, Nat.add_assoc, Nat.add_comm 1]
    rw [slice, List.range_succ_eq_map, List.map_cons, List.map_map, List.takeD_succ, ← first, List.tail_drop,
      ← ih (by omega), ← rest]
    rfl

theorem read_eq (image : Image) (a : Word) :
    image.read a = if inside : a.toNat < image.bytes.size then image.bytes[a.toNat] else 0 := by
  rw [read]
  by_cases inside : a.toNat < image.bytes.size
  · rw [dif_pos inside, Array.getElem?_eq_getElem inside, Option.getD_some]
  · rw [dif_neg inside, Array.getElem?_eq_none (Nat.le_of_not_lt inside), Option.getD_none]

theorem programWords_pairs (image : Image) (k : Nat) :
    if 33 + 2 * k < min image.bytes.size 61440 then
      ∃ low high w, image.bytes[32 + 2 * k]? = some low ∧ image.bytes[33 + 2 * k]? = some high ∧
        image.programWords[k]? = some w ∧ w.toNat = low.toNat + 256 * high.toNat
    else image.programWords[k]? = none := by
  have start : Region.programStart = 32 := rfl
  have stop : Region.mmioStart = 61440 := rfl
  have address : 32 + 2 * k + 1 = 33 + 2 * k := by omega
  have word := image.getElem?_programWords k
  rw [start, stop, address] at word
  by_cases inside : 33 + 2 * k < min image.bytes.size 61440
  · rw [if_pos inside] at word ⊢
    refine ⟨_, _, _, image.getElem?_bytes (by omega), image.getElem?_bytes (by omega), word, ?_⟩
    rw [wordAt, Word.toNat_ofBytes, address]
  · rwa [if_neg inside] at word ⊢

section

variable {image : Image} {front : Array Byte} {ws : List Word} (size : front.size = Region.programStart)
  (bytes : image.bytes = front ++ (bytesOfWords ws).toArray)

include size bytes

theorem interruptVector_eq_front : image.interruptVector = front.toList := by
  rw [interruptVector, slice_eq_takeD image (by decide), bytes, Array.toList_append, List.drop_zero]
  exact List.takeD_left' size

theorem mmio_eq_drop (fits : Region.programStart + 2 * ws.length ≤ memorySize) :
    image.mmio = bytesOfWords (ws.drop Region.programCapacity) ++
      List.replicate (memorySize - Region.mmioStart - 2 * (ws.length - Region.programCapacity)) 0 := by
  have start : Region.mmioStart = front.toList.length + 2 * Region.programCapacity := by
    rw [Array.length_toList, size]
    rfl
  have behind : image.bytes.toList.drop Region.mmioStart = bytesOfWords (ws.drop Region.programCapacity) := by
    rw [bytes, Array.toList_append, start, List.drop_length_add_append, List.toList_toArray,
      drop_bytesOfWords]
  have short : (bytesOfWords (ws.drop Region.programCapacity)).length ≤ memorySize - Region.mmioStart := by
    have room : 2 * Region.programCapacity + Region.programStart = Region.mmioStart := rfl
    rw [length_bytesOfWords, List.length_drop]
    omega
  rw [mmio, slice_eq_takeD image (by decide), behind, takeD_of_length_le 0 short, length_bytesOfWords,
    List.length_drop]

end

/-- A file of at most 65536 bytes is an image that reads as the file and zeros behind it; its program words are
the pairs of bytes that lie in the program region with both halves. Words that are laid out as a program are the
program words of the image as far as the region has room, that is for 30704 of them. Up to 2048 more lie in the
region behind it. -/
theorem image_layout (d : Array Byte) (ws : List Word) :
    (if d.size ≤ 65536 then
      ∃ image, ofBytes d = .ok image ∧
        (∀ a : Word, image.read a = if inside : a.toNat < d.size then d[a.toNat] else 0) ∧
        ∀ k, if 33 + 2 * k < min d.size 61440 then
            ∃ low high w, d[32 + 2 * k]? = some low ∧ d[33 + 2 * k]? = some high ∧
              image.programWords[k]? = some w ∧ w.toNat = low.toNat + 256 * high.toNat
          else image.programWords[k]? = none
    else ofBytes d = .error ⟨d.size⟩) ∧
    (if ws.length ≤ 32752 then
      ∃ image, ofProgram ws = .ok image ∧ image.programWords = ws.take 30704 ∧
        image.interruptVector = List.replicate 32 0 ∧
        image.programCode = bytesOfWords (ws.take 30704) ∧
        image.mmio = bytesOfWords (ws.drop 30704) ++ List.replicate (4096 - 2 * (ws.length - 30704)) 0
    else ofProgram ws = .error ⟨32 + 2 * ws.length⟩) := by
  constructor
  · by_cases fits : d.size ≤ 65536
    · rw [if_pos fits]
      exact ⟨⟨d, fits⟩, ofBytes_eq_ok fits, read_eq ⟨d, fits⟩, programWords_pairs ⟨d, fits⟩⟩
    · rw [if_neg fits]
      exact dif_neg fits
  · have start : Region.programStart = 32 := rfl
    have size : memorySize = 65536 := rfl
    by_cases short : ws.length ≤ 32752
    · have fits : Region.programStart + 2 * ws.length ≤ memorySize := by omega
      have front : (Array.replicate Region.programStart (0 : Byte)).size = Region.programStart :=
        Array.size_replicate
      rw [if_pos short]
      exact ⟨⟨_, (size_program ws).symm ▸ fits⟩, ofBytes_eq_ok _, programWords_eq_take _ front rfl,
        interruptVector_eq_front front rfl, programCode_eq_take _ front rfl, mmio_eq_drop front rfl fits⟩
    · rw [if_neg short]
      exact ofProgram_eq_error (by omega)

end Image

end Z16
