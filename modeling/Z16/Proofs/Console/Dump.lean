import Z16.Proofs.Console.Printing
import Z16.Proofs.Text.Numerals

namespace Z16

theorem Memory.loadBytes_eq_flatMap (m : Memory) (start : Word) (count rows : Nat) :
    ((List.range rows).flatMap fun k => m.loadBytes (start + .ofNat (16 * k)) (min 16 (count - 16 * k))) =
      m.loadBytes start (min (16 * rows) count) := by
  induction rows with
  | zero => rw [Nat.mul_zero, Nat.zero_min]; rfl
  | succ rows ih =>
    rw [List.range_succ, List.flatMap_append, ih, List.flatMap_singleton]
    -- A row is empty unless the rows before it are full.
    by_cases full : 16 * rows ≤ count
    · rw [Nat.min_eq_left full, ← loadBytes_add]
      congr 1
      omega
    · have none : count - 16 * rows = 0 := by omega
      have all : min (16 * (rows + 1)) count = min (16 * rows) count := by omega
      rw [none, Nat.min_zero, all]
      exact List.append_nil _

namespace Console

/-- The numbers in the cells of a line, which stand behind the eight characters of an address. -/
def readCells (line : List Char) : List Nat := ((line.drop 8).splitOn ' ').map Text.readHex

def readDump (text : String) : List Nat := (text.toList.splitOn '\n').dropLast.flatMap readCells

theorem linesText_toList (lines : List String) :
    (linesText lines).toList = (lines.map String.toList).flatMap (· ++ ['\n']) := by
  simp [linesText, List.flatMap_map]

theorem readDump_linesText {lines : List String} (separates : ∀ line ∈ lines, '\n' ∉ line.toList) :
    readDump (linesText lines) = lines.flatMap fun line => readCells line.toList := by
  have split : (linesText lines).toList.splitOn '\n' = lines.map String.toList ++ [[]] := by
    rw [linesText_toList]
    apply Text.splitOn_flatMap_concat
    simpa using separates
  rw [readDump, split, List.dropLast_concat, List.flatMap_map]

def cells (bytes : List Byte) : List (List Char) := bytes.map fun b => Text.hexDigits 2 b.toNat

theorem separates_cells {c : Char} (special : c.isAlphanum = false) (bytes : List Byte) :
    ∀ cell ∈ cells bytes, c ∉ cell := by
  intro cell mem inside
  obtain ⟨b, -, rfl⟩ := List.mem_map.1 mem
  exact absurd (Text.isAlphanum_of_mem_hexDigits inside) (Bool.eq_false_iff.1 special)

theorem dumpRow_toList (base : Word) (bytes : List Byte) :
    (dumpRow base bytes).toList =
      "0x".toList ++ Text.hexDigits 4 base.toNat ++ ": ".toList ++ " ".toList.intercalate (cells bytes) := by
  have address : (Text.hex 4 base.toNat).toList = Text.hexDigits 4 base.toNat :=
    Text.hex_eq_hexDigits (by decide) base.toNat_lt
  have shown : (bytes.map fun b => Text.hex 2 b.toNat).map String.toList = cells bytes := by
    rw [List.map_map]
    exact List.map_congr_left fun b _ => Text.hex_eq_hexDigits (by decide) b.toNat_lt
  simp only [dumpRow, String.toList_append, String.toList_intercalate, address, shown]

theorem newline_notMem_dumpRow (base : Word) (bytes : List Byte) : '\n' ∉ (dumpRow base bytes).toList := by
  have address : '\n' ∉ Text.hexDigits 4 base.toNat := fun mem =>
    absurd (Text.isAlphanum_of_mem_hexDigits mem) (by decide)
  have row : '\n' ∉ " ".toList.intercalate (cells bytes) :=
    Text.notMem_intercalate (by decide) (separates_cells (by decide) bytes)
  simp only [dumpRow_toList, List.mem_append, not_or]
  exact ⟨⟨⟨by decide, address⟩, by decide⟩, row⟩

theorem readCells_dumpRow (base : Word) {bytes : List Byte} (nonempty : bytes ≠ []) :
    readCells (dumpRow base bytes).toList = bytes.map UInt8.toNat := by
  have front : ("0x".toList ++ Text.hexDigits 4 base.toNat ++ ": ".toList).length = 8 := by
    simp [Text.length_hexDigits]
  have split : (" ".toList.intercalate (cells bytes)).splitOn ' ' = cells bytes :=
    List.splitOn_intercalate ' ' (separates_cells (by decide) bytes) (by simpa [cells] using nonempty)
  rw [readCells, dumpRow_toList, List.drop_left' front, split, cells, List.map_map]
  refine List.map_congr_left fun b _ => ?_
  rw [Function.comp_apply, ← Text.hex_eq_hexDigits (by decide) b.toNat_lt, Text.readHex_hex]

theorem length_dumpRows (m : Memory) (start : Word) (count : Nat) :
    (dumpRows m start count).length = (count + 15) / 16 := by
  rw [dumpRows, List.length_map, List.length_range]

theorem newline_notMem_dumpRows (m : Memory) (start : Word) (count : Nat) :
    ∀ line ∈ dumpRows m start count, '\n' ∉ line.toList := by
  intro line mem
  obtain ⟨k, -, rfl⟩ := List.mem_map.1 mem
  exact newline_notMem_dumpRow _ _

theorem readDump_dumpRows (m : Memory) (start : Word) (count : Nat) :
    readDump (linesText (dumpRows m start count)) = (m.loadBytes start count).map UInt8.toNat := by
  have shown {k : Nat} (row : k ∈ List.range ((count + 15) / 16)) :
      readCells (dumpRow (start + .ofNat (16 * k))
          (m.loadBytes (start + .ofNat (16 * k)) (min 16 (count - 16 * k)))).toList =
        (m.loadBytes (start + .ofNat (16 * k)) (min 16 (count - 16 * k))).map UInt8.toNat := by
    apply readCells_dumpRow
    have lt := List.mem_range.1 row
    rw [← List.length_pos_iff, Memory.length_loadBytes]
    omega
  have whole : min (16 * ((count + 15) / 16)) count = count := by omega
  rw [readDump_linesText (newline_notMem_dumpRows m start count), dumpRows, List.flatMap_map,
    List.flatMap_congr fun k row => shown row, ← List.map_flatMap, Memory.loadBytes_eq_flatMap, whole]

theorem cells_loadBytes (m : Memory) (start : Word) (k n : Nat) :
    cells (m.loadBytes (start + .ofNat k) n) =
      (List.range n).map fun j => Text.hexDigits 2 (m.load8 (start + .ofNat (k + j))).toNat := by
  simp [cells, Memory.loadBytes, UInt16.ofNat_add, UInt16.add_assoc]

/-- A console shows the `a1` bytes of memory from `a0` on in lines of sixteen bytes, the last one shorter if need
be. Each line names its first address in four digits and shows its bytes in two digits each. The numbers that
stand in the lines are the bytes in order; nothing but the output changes. -/
theorem memoryDump_shows_bytes (context : Context) (c : Console) :
    let m := context.memory
    let start := context.registers.read a0
    let count := (context.registers.read a1).toNat
    ∃ lines : List String,
      (Service.host .memoryDump).perform context c =
          (context, { c with output := c.output ++ linesText lines }) ∧
        lines.length = (count + 15) / 16 ∧
        (lines.map String.toList =
          (List.range ((count + 15) / 16)).map fun k =>
            "0x".toList ++ Text.hexDigits 4 ((start.toNat + 16 * k) % memorySize) ++ ": ".toList ++
              " ".toList.intercalate ((List.range (min 16 (count - 16 * k))).map fun j =>
                Text.hexDigits 2 (m.load8 (start + .ofNat (16 * k + j))).toNat)) ∧
        readDump (linesText lines) =
          (List.range count).map fun i => (m.load8 (start + .ofNat i)).toNat := by
  intro m start count
  refine ⟨dumpRows m start count, rfl, length_dumpRows m start count, ?_, ?_⟩
  · rw [dumpRows, List.map_map]
    refine List.map_congr_left fun k _ => ?_
    have address : (start + UInt16.ofNat (16 * k)).toNat = (start.toNat + 16 * k) % memorySize := by
      simp [memorySize]
    rw [Function.comp_apply, dumpRow_toList, cells_loadBytes, address]
  · rw [readDump_dumpRows, Memory.loadBytes, List.map_map]
    rfl

end Console

end Z16
