import Z16.Proofs.Machine.Frame

namespace Z16

namespace Memory

theorem toNat_sub_succ {a b : Word} (ne : a ≠ b) : (b - a).toNat = (b - (a + 1)).toNat + 1 := by
  have different : a.toNat ≠ b.toNat := fun same => ne (UInt16.toNat.inj same)
  have := a.toNat_lt
  have := b.toNat_lt
  have one : (1 : Word).toNat = 1 := rfl
  rw [UInt16.toNat_sub, UInt16.toNat_sub, UInt16.toNat_add, one]
  omega

theorem toNat_sub_add_one (a : Word) : (a - (a + 1)).toNat = memorySize - 1 := by
  have := a.toNat_lt
  have one : (1 : Word).toNat = 1 := rfl
  rw [UInt16.toNat_sub, UInt16.toNat_add, one, memorySize]
  omega

theorem load8_storeBytes (m : Memory) (a b : Word) {bs : List Byte} (short : bs.length ≤ memorySize) :
    (m.storeBytes a bs).load8 b = bs[(b - a).toNat]?.getD (m.load8 b) := by
  induction bs generalizing m a with
  | nil => simp [storeBytes]
  | cons x bs ih =>
    have fewer : bs.length < memorySize := short
    rw [storeBytes, ih _ _ (Nat.le_of_lt fewer), load8_store8]
    by_cases same : a = b
    · -- The first address is the last one behind the rest, which does not reach it again.
      subst same
      rw [toNat_sub_add_one, List.getElem?_eq_none (Nat.le_sub_one_of_lt fewer)]
      simp
    · rw [if_neg same, toNat_sub_succ same, List.getElem?_cons_succ]

theorem toNat_add_ofNat_sub (a : Word) {i : Nat} (lt : i < memorySize) :
    (a + .ofNat i - a).toNat = i := by
  rw [UInt16.add_comm, UInt16.add_sub_cancel]
  exact Nat.mod_eq_of_lt lt

theorem load8_storeBytes_at (m : Memory) (a : Word) {bs : List Byte} (short : bs.length ≤ memorySize)
    {i : Nat} (lt : i < bs.length) : (m.storeBytes a bs).load8 (a + .ofNat i) = bs[i] := by
  rw [load8_storeBytes m a _ short, toNat_add_ofNat_sub a (Nat.lt_of_lt_of_le lt short),
    List.getElem?_eq_getElem lt, Option.getD_some]

theorem loadBytes_storeBytes (m : Memory) (a : Word) {bs : List Byte} (short : bs.length ≤ memorySize)
    {n : Nat} (le : n ≤ bs.length) : (m.storeBytes a bs).loadBytes a n = bs.take n := by
  apply List.ext_getElem
  · simp [loadBytes, le]
  · intro i low high
    rw [List.length_take] at high
    simp only [loadBytes, List.getElem_map, List.getElem_range, List.getElem_take]
    exact m.load8_storeBytes_at a short (by omega)

theorem load8_storeBytes_of_notMem (m : Memory) {a b : Word} {bs : List Byte}
    (outside : b ∉ window a bs.length) : (m.storeBytes a bs).load8 b = m.load8 b := by
  rw [storeBytes_eq]
  exact m.load8_storeAll_of_notMem (addresses_consecutive a bs ▸ outside)

theorem storeBytes_concat_zero (m : Memory) (a : Word) {bs : List Byte} (short : bs.length < memorySize) :
    (m.storeBytes a (bs ++ [0])).loadBytes a bs.length = bs ∧
      (m.storeBytes a (bs ++ [0])).load8 (a + .ofNat bs.length) = 0 ∧
      ∀ b ∉ window a (bs.length + 1), (m.storeBytes a (bs ++ [0])).load8 b = m.load8 b := by
  have length : (bs ++ [0]).length = bs.length + 1 := List.length_append
  refine ⟨?_, ?_, fun b outside => ?_⟩
  · rw [m.loadBytes_storeBytes a (length ▸ short) (length ▸ Nat.le_succ _), List.take_left]
  · rw [m.load8_storeBytes_at a (length ▸ short) (length ▸ Nat.lt_succ_self _),
      List.getElem_concat_length rfl]
  · exact m.load8_storeBytes_of_notMem (length ▸ outside)

end Memory

namespace Console

theorem length_take_line (line : String) (room : Nat) :
    (line.toByteArray.data.toList.take room).length = min line.utf8ByteSize room := by
  rw [List.length_take, Nat.min_comm]
  rfl

theorem take_line (line : String) (room : Nat) :
    line.toByteArray.data.toList.take (min line.utf8ByteSize room) =
      line.toByteArray.data.toList.take room := by
  rw [Nat.min_comm]
  exact List.take_eq_take_min.symm

theorem readString_of_no_room {context : Context} (none : (context.registers.read a1).toNat = 0)
    (c : Console) :
    readString context c =
      ({ context with registers := context.registers.write a0 0 }, c.nextLine.2) := by
  simp [readString, none]

theorem readString_of_room {context : Context} (room : (context.registers.read a1).toNat ≠ 0)
    (c : Console) :
    let bytes := (c.lines.headD "").toByteArray.data.toList
    let kept := bytes.take ((context.registers.read a1).toNat - 1)
    readString context c =
      ({ registers := context.registers.write a0 (.ofNat kept.length)
         memory := context.memory.storeBytes (context.registers.read a0) (kept ++ [0]) },
        c.nextLine.2) := by
  simp [readString, room, nextLine]

/-- A console reads a line into the buffer of `a1` bytes at `a0`: its first bytes, as many as there is
room for before a final zero. Nothing is stored outside of the buffer, `a0` is the only register that
changes, and one line is used up, also if there is no room. -/
theorem readString_stays_in_buffer (context : Context) (c : Console) :
    let line := c.lines.headD ""
    let start := context.registers.read a0
    let capacity := (context.registers.read a1).toNat
    let n := min line.utf8ByteSize (capacity - 1)
    let after := (Service.host .readString).perform context c
    (if capacity = 0 then after.1.memory = context.memory ∧ after.1.registers.read a0 = 0
      else
        after.1.memory.loadBytes start n = line.toByteArray.data.toList.take n ∧
          after.1.memory.load8 (start + .ofNat n) = 0 ∧
          (∀ a ∉ Memory.window start (n + 1), after.1.memory.load8 a = context.memory.load8 a) ∧
          n + 1 ≤ capacity ∧ (after.1.registers.read a0).toNat = n) ∧
      after.1.memory.image = context.memory.image ∧
      (∀ r, Registers.slot r ≠ Registers.slot a0 →
        after.1.registers.read r = context.registers.read r) ∧
      after.2 = { c with lines := c.lines.tail } := by
  intro line start capacity n after
  have only : context.ChangesOnly after.1 (footprint 1 context.registers) :=
    (staysWithin .readString context c).1
  have other : ∀ r, Registers.slot r ≠ Registers.slot a0 →
      after.1.registers.read r = context.registers.read r :=
    fun r ne => only.registers r fun _ eq => Option.some.inj eq ▸ ne.symm
  by_cases none : capacity = 0
  · have served : after = _ := readString_of_no_room none c
    refine ⟨?_, only.image, other, by rw [served]; rfl⟩
    rw [if_pos none, served]
    exact ⟨rfl, by rw [Registers.read_write, if_pos rfl]⟩
  · have served : after = _ := readString_of_room none c
    have length : (line.toByteArray.data.toList.take (capacity - 1)).length = n :=
      length_take_line line (capacity - 1)
    have fits : n + 1 ≤ capacity := by omega
    have bound : capacity < memorySize := (context.registers.read a1).toNat_lt
    have small : n < memorySize := Nat.lt_of_lt_of_le fits (Nat.le_of_lt bound)
    have short : (line.toByteArray.data.toList.take (capacity - 1)).length < memorySize := by rwa [length]
    obtain ⟨stored, zero, outside⟩ := context.memory.storeBytes_concat_zero start short
    rw [length] at stored zero outside
    refine ⟨?_, only.image, other, by rw [served]; rfl⟩
    rw [if_neg none, served, take_line]
    refine ⟨stored, zero, outside, fits, ?_⟩
    rw [Registers.read_write, if_pos rfl, length]
    exact Nat.mod_eq_of_lt small

def twoLines : Console := { lines := ["ab\u00E9\u00E9", "c"] }

def endBuffer (capacity : Word) : Context :=
  let regs : Registers := {}
  { registers := (regs.write a0 0xFFFE).write a1 capacity, memory := { image := .empty } }

theorem readString_stays_in_buffer_twoLines :
    let cut := (Service.host .readString).perform (endBuffer 4) twoLines
    let full := (Service.host .readString).perform (endBuffer 0) twoLines
    cut.1.memory.loadBytes 0xFFFE 3 = [97, 98, 0xC3] ∧ cut.1.memory.load8 1 = 0 ∧
      cut.1.registers.read a1 = 4 ∧ cut.2.lines = ["c"] ∧
      full.1.memory = (endBuffer 0).memory ∧ full.1.registers.read a0 = 0 ∧ full.2.lines = ["c"] := by
  intro cut full
  obtain ⟨inside, -, other, rest⟩ := readString_stays_in_buffer (endBuffer 4) twoLines
  obtain ⟨outside, -, -, rest'⟩ := readString_stays_in_buffer (endBuffer 0) twoLines
  rw [if_neg (by decide +kernel)] at inside
  rw [if_pos (by decide +kernel)] at outside
  obtain ⟨stored, zero, -⟩ := inside
  exact ⟨stored.trans (by decide +kernel), zero, other a1 (by decide), congrArg lines rest, outside.1,
    outside.2, congrArg lines rest'⟩

end Console

end Z16
