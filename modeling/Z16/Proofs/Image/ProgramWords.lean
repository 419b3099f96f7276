import Z16.Image

namespace Z16

def Region.programCapacity : Nat := (mmioStart - programStart) / 2

theorem take_bytesOfWords (ws : List Word) (n : Nat) :
    (bytesOfWords ws).take (2 * n) = bytesOfWords (ws.take n) := by
  induction n generalizing ws with
  | zero => rfl
  | succ n ih =>
    cases ws with
    | nil => rfl
    | cons w ws => simp [Nat.mul_succ, ih]

theorem drop_bytesOfWords (ws : List Word) (n : Nat) :
    (bytesOfWords ws).drop (2 * n) = bytesOfWords (ws.drop n) := by
  have parts : (bytesOfWords ws).take (2 * n) ++ (bytesOfWords ws).drop (2 * n) =
      bytesOfWords (ws.take n) ++ bytesOfWords (ws.drop n) := by
    simp only [bytesOfWords, List.take_append_drop, ← List.flatMap_append]
  rw [take_bytesOfWords] at parts
  exact List.append_cancel_left parts

theorem getElem?_wordsOfBytes (bs : List Byte) (k : Nat) :
    (wordsOfBytes bs)[k]? =
      bs[2 * k]?.bind fun low => bs[2 * k + 1]?.map fun high => Word.ofBytes low high := by
  induction bs using wordsOfBytes.induct generalizing k with
  | case1 low high rest ih =>
    rw [wordsOfBytes]
    cases k with
    | zero => rfl
    | succ k =>
      rw [List.getElem?_cons_succ, ih]
      rfl
  | case2 bs short =>
    have nothing : wordsOfBytes bs = [] := by
      rw [wordsOfBytes]
      exact short
    have stops : bs[2 * k + 1]? = none := by
      rcases bs with _ | ⟨low, _ | ⟨high, rest⟩⟩
      · rfl
      · rfl
      · exact absurd rfl (short low high rest)
    rw [nothing, stops]
    simp

namespace Image

theorem ofBytes_eq_ok {data : Array Byte} (fits : data.size ≤ memorySize) : ofBytes data = .ok ⟨data, fits⟩ :=
  dif_pos fits

def wordAt (image : Image) (n : Nat) : Word :=
  Word.ofBytes (image.read (.ofNat n)) (image.read (.ofNat (n + 1)))

theorem read_ofNat (image : Image) {n : Nat} (small : n < memorySize) :
    image.read (.ofNat n) = image.bytes[n]?.getD 0 := by
  have address : (UInt16.ofNat n).toNat = n := UInt16.toNat_ofNat_of_lt small
  rw [read, address]

theorem getElem?_bytes (image : Image) {n : Nat} (inside : n < image.bytes.size) :
    image.bytes[n]? = some (image.read (.ofNat n)) := by
  rw [read_ofNat image (Nat.lt_of_lt_of_le inside image.size_le), Array.getElem?_eq_getElem inside,
    Option.getD_some]

theorem getElem?_programCode (image : Image) (n : Nat) :
    image.programCode[n]? =
      if Region.programStart + n < min image.bytes.size Region.mmioStart then
        some (image.read (.ofNat (Region.programStart + n)))
      else none := by
  have start : Region.programStart = 32 := rfl
  have stop : Region.mmioStart = 61440 := rfl
  rw [programCode, Array.getElem?_toList, Array.getElem?_extract]
  by_cases inside : Region.programStart + n < min image.bytes.size Region.mmioStart
  · rw [if_pos (by omega), if_pos inside, getElem?_bytes image (by omega)]
  · rw [if_neg (by omega), if_neg inside]

theorem getElem?_programWords (image : Image) (k : Nat) :
    image.programWords[k]? =
      if Region.programStart + 2 * k + 1 < min image.bytes.size Region.mmioStart then
        some (image.wordAt (Region.programStart + 2 * k))
      else none := by
  rw [programWords, getElem?_wordsOfBytes, getElem?_programCode, getElem?_programCode, ← Nat.add_assoc]
  by_cases inside : Region.programStart + 2 * k + 1 < min image.bytes.size Region.mmioStart
  · rw [if_pos inside, if_pos (by omega), if_pos inside]
    rfl
  · rw [if_neg inside]
    split <;> rfl

theorem programCode_eq_take {image : Image} (front : Array Byte) {ws : List Word}
    (size : front.size = Region.programStart)
    (bytes : image.bytes = front ++ (bytesOfWords ws).toArray) :
    image.programCode = bytesOfWords (ws.take Region.programCapacity) := by
  rw [programCode, bytes, Array.toList_extract, List.extract_eq_take_drop, Array.toList_append,
    ← size, ← Array.length_toList, List.drop_left, Array.length_toList, size, ← take_bytesOfWords]
  rfl

theorem programWords_eq_take {image : Image} (front : Array Byte) {ws : List Word}
    (size : front.size = Region.programStart)
    (bytes : image.bytes = front ++ (bytesOfWords ws).toArray) :
    image.programWords = ws.take Region.programCapacity := by
  rw [programWords, programCode_eq_take front size bytes, wordsOfBytes_bytesOfWords]

theorem size_program (ws : List Word) :
    (Array.replicate Region.programStart 0 ++ (bytesOfWords ws).toArray).size =
      Region.programStart + 2 * ws.length := by
  rw [Array.size_append, Array.size_replicate, List.size_toArray, length_bytesOfWords]

theorem ofProgram_eq_ok {ws : List Word} (fits : Region.programStart + 2 * ws.length ≤ memorySize) :
    ∃ image, ofProgram ws = .ok image ∧ image.programWords = ws.take Region.programCapacity :=
  ⟨_, ofBytes_eq_ok (size_program ws ▸ fits), programWords_eq_take _ Array.size_replicate rfl⟩

theorem ofProgram_eq_error {ws : List Word} (large : memorySize < Region.programStart + 2 * ws.length) :
    ofProgram ws = .error ⟨Region.programStart + 2 * ws.length⟩ := by
  rw [ofProgram, ofBytes, dif_neg (Nat.not_le.2 (size_program ws ▸ large)), size_program]

end Image

end Z16
