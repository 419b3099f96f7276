import Mathlib.Data.List.Nodup
import Mathlib.Data.Nat.Find
import Z16.Proofs.Console.Reading
import Z16.Proofs.Text.Pieces
import Z16.Proofs.Text

namespace Z16

namespace Memory

variable {m : Memory} {a : Word} {n : Nat}

theorem loadBytes_eq (m : Memory) (a : Word) (n : Nat) : m.loadBytes a n = (window a n).map m.load8 := by
  rw [window, List.map_map]
  rfl

theorem loadBytes_succ (m : Memory) (a : Word) (n : Nat) :
    m.loadBytes a (n + 1) = m.load8 a :: m.loadBytes (a + 1) n := by
  simp only [loadBytes_eq, window_succ, List.map_cons]

theorem length_loadBytes (m : Memory) (a : Word) (n : Nat) : (m.loadBytes a n).length = n := by
  rw [loadBytes, List.length_map, List.length_range]

theorem scanString_eq (m : Memory) (count : Nat) (a : Word) (done : List Byte) :
    m.scanString count a done = ((m.loadBytes a count).takeWhile (· ≠ 0)).reverse ++ done := by
  induction count generalizing a done with
  | zero => rfl
  | succ count ih =>
    rw [scanString, loadBytes_succ, List.takeWhile_cons]
    by_cases zero : m.load8 a = 0
    · simp [zero]
    · simp [zero, ih]

theorem loadString_eq (m : Memory) (a : Word) :
    m.loadString a = (m.loadBytes a memorySize).takeWhile (· ≠ 0) := by
  rw [loadString, scanString_eq, List.append_nil, List.reverse_reverse]

theorem mem_loadBytes {b : Byte} : b ∈ m.loadBytes a n ↔ ∃ i < n, m.load8 (a + .ofNat i) = b := by
  simp [loadBytes]

theorem loadBytes_add (m : Memory) (a : Word) (n k : Nat) :
    m.loadBytes a (n + k) = m.loadBytes a n ++ m.loadBytes (a + .ofNat n) k := by
  simp only [loadBytes, List.range_add, List.map_append, List.map_map]
  congr 1
  apply List.map_congr_left
  intro i _
  simp [UInt16.add_assoc, UInt16.ofNat_add]

theorem loadString_eq_loadBytes (le : n ≤ memorySize) (before : ∀ i < n, m.load8 (a + .ofNat i) ≠ 0)
    (stop : n = memorySize ∨ m.load8 (a + .ofNat n) = 0) : m.loadString a = m.loadBytes a n := by
  rw [loadString_eq]
  obtain ⟨k, size⟩ := Nat.exists_eq_add_of_le le
  rw [size, loadBytes_add]
  apply Text.takeWhile_piece
  · intro b mem
    obtain ⟨i, lt, rfl⟩ := mem_loadBytes.1 mem
    simpa using before i lt
  · -- What follows is nothing, or it begins with the zero.
    cases k with
    | zero => exact Text.stops_nil
    | succ k =>
      rw [loadBytes_succ]
      apply Text.stops_cons
      rcases stop with all | zero
      · omega
      · simp [zero]

theorem exists_end_of_string (m : Memory) (a : Word) :
    ∃ n ≤ memorySize, (∀ i < n, m.load8 (a + .ofNat i) ≠ 0) ∧
      (n = memorySize ∨ n < memorySize ∧ m.load8 (a + .ofNat n) = 0) := by
  have ends : ∃ n, n = memorySize ∨ m.load8 (a + .ofNat n) = 0 := ⟨memorySize, .inl rfl⟩
  have le : Nat.find ends ≤ memorySize := Nat.find_min' ends (.inl rfl)
  refine ⟨Nat.find ends, le, fun i lt zero => Nat.find_min ends lt (.inr zero), ?_⟩
  rcases Nat.find_spec ends with all | zero
  · exact .inl all
  · exact (Nat.lt_or_eq_of_le le).symm.imp_right fun lt => ⟨lt, zero⟩

theorem add_sub_toNat (a b : Word) : a + .ofNat (b - a).toNat = b := by
  rw [UInt16.ofNat_toNat, UInt16.add_comm, UInt16.sub_add_cancel]

theorem count_window (a b : Word) : (window a memorySize).count b = 1 := by
  apply List.count_eq_one_of_mem
  · apply List.Nodup.map_on _ List.nodup_range
    intro i low j high same
    rw [← toNat_add_ofNat_sub a (List.mem_range.1 low), same, toNat_add_ofNat_sub a (List.mem_range.1 high)]
  · exact List.mem_map.2 ⟨(b - a).toNat, List.mem_range.2 (b - a).toNat_lt, add_sub_toNat a b⟩

theorem ne_zero_of_all (all : ∀ i < memorySize, m.load8 (a + .ofNat i) ≠ 0) (b : Word) : m.load8 b ≠ 0 := by
  have here := all (b - a).toNat (b - a).toNat_lt
  rwa [add_sub_toNat] at here

end Memory

namespace Console

/-- A console prints the text of the bytes at `a0` and behind up to the first zero that is met; if there is
none in the whole memory, it takes each address once. Nothing but the output changes. -/
theorem printString_stops_at_zero (context : Context) (c : Console) :
    let m := context.memory
    let start := context.registers.read a0
    (∃ n ≤ memorySize,
      (∀ i < n, m.load8 (start + .ofNat i) ≠ 0) ∧
      ((∀ a, m.load8 a ≠ 0) ∧ n = memorySize ∨ n < memorySize ∧ m.load8 (start + .ofNat n) = 0) ∧
      (Service.host .printString).perform context c =
        (context,
          { c with output := c.output ++ Text.decodeUtf8 ((Memory.window start n).map m.load8) })) ∧
      ∀ a, (Memory.window start memorySize).count a = 1 := by
  intro m start
  obtain ⟨n, le, before, stop⟩ := m.exists_end_of_string start
  have string : m.loadString start = (Memory.window start n).map m.load8 := by
    rw [← Memory.loadBytes_eq]
    exact Memory.loadString_eq_loadBytes le before (stop.imp_right And.right)
  refine ⟨⟨n, le, before, ?_, ?_⟩, Memory.count_window start⟩
  · rcases stop with all | zero
    · exact .inl ⟨Memory.ne_zero_of_all (all ▸ before), all⟩
    · exact .inr zero
  · rw [← string]
    rfl

theorem loadString_of_read {context : Context} {c : Console} (text : '\x00' ∉ (c.lines.headD "").toList)
    (room : (c.lines.headD "").utf8ByteSize < (context.registers.read a1).toNat) :
    (readString context c).1.memory.loadString (context.registers.read a0) =
      (c.lines.headD "").toByteArray.data.toList := by
  have whole : (c.lines.headD "").toByteArray.data.toList.take ((context.registers.read a1).toNat - 1) =
      (c.lines.headD "").toByteArray.data.toList :=
    List.take_of_length_le (Nat.le_sub_one_of_lt room)
  have short : (c.lines.headD "").toByteArray.data.toList.length < memorySize :=
    Nat.lt_trans room (context.registers.read a1).toNat_lt
  rw [readString_of_room (Nat.ne_zero_of_lt room), whole]
  obtain ⟨stored, zero, -⟩ :=
    context.memory.storeBytes_concat_zero (context.registers.read a0) short
  rw [Memory.loadString_eq_loadBytes (Nat.le_of_lt short) (fun i lt => ?_) (.inr zero), stored]
  -- A zero among the stored bytes would be a character 0 of the line.
  intro none
  exact Text.zero_notMem_toByteArray text (stored ▸ Memory.mem_loadBytes.2 ⟨i, lt, none⟩)

/-- A line without the character 0 that leaves room for a zero in the buffer of `a1` bytes is printed as it was
read, from the address that it was read to and with whatever is in the other registers by then. -/
theorem printString_of_read (context : Context) (c : Console) (regs : Registers)
    (text : '\x00' ∉ (c.lines.headD "").toList)
    (room : (c.lines.headD "").utf8ByteSize < (context.registers.read a1).toNat)
    (same : regs.read a0 = context.registers.read a0) :
    let read := (Service.host .readString).perform context c
    let printed := (Service.host .printString).perform { read.1 with registers := regs } read.2
    printed.2 = { c with lines := c.lines.tail, output := c.output ++ c.lines.headD "" } ∧
      printed.1 = { read.1 with registers := regs } := by
  intro read printed
  have used : (readString context c).2 = c.nextLine.2 :=
    congrArg Prod.snd (readString_of_room (Nat.ne_zero_of_lt room) c)
  have string : (readString context c).1.memory.loadString (regs.read a0) =
      (c.lines.headD "").toByteArray.data.toList := same ▸ loadString_of_read text room
  refine ⟨?_, rfl⟩
  show (readString context c).2.print
    (Text.decodeUtf8 ((readString context c).1.memory.loadString (regs.read a0))) = _
  rw [string, Text.decodeUtf8_toByteArray, used]
  rfl

theorem printString_of_read_twoLines :
    let prompted : Console := { twoLines with output := "> " }
    let read := (Service.host .readString).perform (endBuffer 7) prompted
    let printed :=
      (Service.host .printString).perform { read.1 with registers := (endBuffer 0).registers } read.2
    '\x00' ∉ (prompted.lines.headD "").toList ∧
      (prompted.lines.headD "").utf8ByteSize < ((endBuffer 7).registers.read a1).toNat ∧
      (endBuffer 0).registers.read a0 = (endBuffer 7).registers.read a0 ∧
      printed.2 = { lines := ["c"], output := "> ab\u00E9\u00E9" } := by
  intro prompted read printed
  have text : '\x00' ∉ (prompted.lines.headD "").toList := by decide +kernel
  have room : (prompted.lines.headD "").utf8ByteSize < ((endBuffer 7).registers.read a1).toNat := by
    decide +kernel
  obtain ⟨after, -⟩ := printString_of_read (endBuffer 7) prompted (endBuffer 0).registers text room rfl
  exact ⟨text, room, rfl, after.trans (by decide +kernel)⟩

end Console

end Z16
