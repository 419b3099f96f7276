import Z16.Proofs.Encoding.Fits

/-!
# Decoding what was encoded

The operands of an instruction leave the bits of its opcode and its selector alone, so the word of a
mnemonic selects that mnemonic again (`Mnemonic.decode_word`), and every field of the word holds the
operand that was put there (`Instruction.decode_word`). Hence `encode` and `decode` are inverse.
-/

namespace Z16

theorem Format.ofWord_eq {w : Word} {f : Format} (h : w.toNat % 2 ^ 3 = f.opcode.toNat) :
    Format.ofWord w = f := by
  have opcode : f.opcode = (bits w 2 0).toUInt8 := by
    apply UInt8.toNat.inj
    rw [UInt16.toNat_toUInt8, toNat_bits, ← h]
    omega
  have found := ofOpcode?_ofWord w
  rw [ofOpcode?_eq_some.2 opcode] at found
  exact (Option.some.inj found).symm

theorem Format.opcode_lt (f : Format) : f.opcode.toNat < 2 ^ 3 := by
  cases f <;> decide

theorem Selector.accepts_eq_of_accepts {s found : Selector} (h : s.accepts found = true)
    (other : Selector) : other.accepts found = other.accepts s := by
  cases s <;> cases found <;> simp only [accepts, Bool.false_eq_true] at h <;>
    cases other <;> simp only [accepts] <;> grind

theorem Mnemonic.ofSelector?_of_accepts {m : Mnemonic} {found : Selector}
    (h : m.selector.accepts found = true) : ofSelector? m.format found = some m := by
  rw [← ofSelector?_selector m]
  simp only [ofSelector?, Selector.accepts_eq_of_accepts h]

theorem decode_eq {m : Mnemonic} {w : Word} (format : Format.ofWord w = m.format)
    (selector : m.selector.accepts (Selector.ofWord w) = true) :
    decode w = .ok (.ofWord m w) := by
  simp [decode, format, Mnemonic.ofSelector?_of_accepts selector]

theorem AluOp.selector_eq (op : AluOp) : ∃ high low : UInt8,
    op.selector = .register high low ∧ high.toNat < 16 ∧ low.toNat < 8 := by
  cases op <;> exact ⟨_, _, rfl, by decide, by decide⟩

theorem ImmediateOp.selector_eq (op : ImmediateOp) : ∃ low : UInt8,
    op.selector = .immediate low 0 ∧ low.toNat < 8 ∧ low ≠ Selector.shiftGroup := by
  cases op <;> exact ⟨_, rfl, by decide, by decide⟩

theorem ShiftOp.selector_eq (op : ShiftOp) : ∃ high : UInt8,
    op.selector = .immediate Selector.shiftGroup high ∧ high.toNat < 128 ∧ high.toNat % 16 = 0 := by
  cases op <;> exact ⟨_, rfl, by decide, by decide⟩

theorem Condition.selector_eq (condition : Condition) : ∃ low : UInt8,
    condition.selector = .funct3 low ∧ low.toNat < 8 := by
  cases condition <;> exact ⟨_, rfl, by decide⟩

theorem StoreOp.selector_eq (op : StoreOp) : ∃ low : UInt8,
    op.selector = .funct3 low ∧ low.toNat < 8 := by
  cases op <;> exact ⟨_, rfl, by decide⟩

theorem LoadOp.selector_eq (op : LoadOp) : ∃ low : UInt8,
    op.selector = .funct3 low ∧ low.toNat < 8 := by
  cases op <;> exact ⟨_, rfl, by decide⟩

theorem UpperOp.selector_eq (op : UpperOp) : ∃ set, op.selector = .flag set := by
  cases op <;> exact ⟨_, rfl⟩

theorem bits_eq {w v : Word} {hi lo : Nat}
    (h : w.toNat / 2 ^ lo % 2 ^ (hi + 1 - lo) = v.toNat) : bits w hi lo = v :=
  UInt16.toNat.inj (by rw [toNat_bits, h])

theorem toUInt8_bits {w : Word} {hi k : Nat} {b : UInt8}
    (h : w.toNat / 2 ^ k % 2 ^ (hi + 1 - k) = b.toNat) : (bits w hi k).toUInt8 = b := by
  apply UInt8.toNat.inj
  rw [UInt16.toNat_toUInt8, toNat_bits, h]
  exact Nat.mod_eq_of_lt b.toNat_lt

namespace Mnemonic

variable {m : Mnemonic} {n : Nat}

def total (m : Mnemonic) (n : Nat) : Nat :=
  m.format.opcode.toNat + m.selector.part + n

theorem decode_word (opcode : (m.selector.part + n) % 2 ^ 3 = 0)
    (small : m.total n < 2 ^ 16)
    (selector : ∀ w : Word, Format.ofWord w = m.format → w.toNat = m.total n →
      m.selector.accepts (Selector.ofWord w) = true) :
    decode (m.word n) = .ok (.ofWord m (m.word n)) ∧
      (m.word n).toNat = m.total n := by
  have value : (m.word n).toNat = m.total n := UInt16.toNat_ofNat_of_lt small
  have format : Format.ofWord (m.word n) = m.format := by
    apply Format.ofWord_eq
    have := m.format.opcode_lt
    rw [value, total]
    omega
  exact ⟨decode_eq format (selector _ format value), value⟩

theorem decode_register {high low : UInt8} (format : m.format = .register)
    (selector : m.selector = .register high low) (high_lt : high.toNat < 16)
    (low_lt : low.toNat < 8) (aligned : n % 2 ^ 6 = 0) (room : n < 2 ^ 12) :
    decode (m.word n) = .ok (.ofWord m (m.word n)) ∧
      (m.word n).toNat / 2 ^ 6 % 2 ^ 6 = n / 2 ^ 6 := by
  have total : m.total n = high.toNat <<< 12 + low.toNat <<< 3 + n := by
    simp [Mnemonic.total, format, selector, Format.opcode, Selector.part]
  obtain ⟨decoded, value⟩ : _ ∧ _ := by
    refine decode_word (m := m) (n := n) ?_ (by omega) fun w found value => ?_
    · rw [selector, Selector.part]
      omega
    · have top : (bits w 15 12).toUInt8 = high := toUInt8_bits (by omega)
      have mid : (bits w 5 3).toUInt8 = low := toUInt8_bits (by omega)
      simp [Selector.ofWord, found, format, selector, top, mid, Selector.accepts]
  exact ⟨decoded, by omega⟩

theorem decode_immediate {low : UInt8} (format : m.format = .immediate)
    (selector : m.selector = .immediate low 0) (low_lt : low.toNat < 8)
    (single : low ≠ Selector.shiftGroup) (aligned : n % 2 ^ 6 = 0)
    (room : n < 2 ^ 16) :
    decode (m.word n) = .ok (.ofWord m (m.word n)) ∧
      (m.word n).toNat / 2 ^ 6 = n / 2 ^ 6 := by
  have total : m.total n = 1 + low.toNat <<< 3 + n := by
    simp [Mnemonic.total, format, selector, Format.opcode, Selector.part]
  obtain ⟨decoded, value⟩ : _ ∧ _ := by
    refine decode_word (m := m) (n := n) ?_ (by omega) fun w found value => ?_
    · simp only [selector, Selector.part, UInt8.reduceToNat]
      omega
    · have mid : (bits w 5 3).toUInt8 = low := toUInt8_bits (by omega)
      simp [Selector.ofWord, found, format, selector, mid, Selector.accepts, single]
  exact ⟨decoded, by omega⟩

theorem decode_shift {high : UInt8} (format : m.format = .immediate)
    (selector : m.selector = .immediate Selector.shiftGroup high) (high_lt : high.toNat < 128)
    (amountless : high.toNat % 16 = 0) (aligned : n % 2 ^ 6 = 0)
    (room : n < 2 ^ 13) :
    decode (m.word n) = .ok (.ofWord m (m.word n)) ∧
      (m.word n).toNat / 2 ^ 6 % 2 ^ 7 = n / 2 ^ 6 := by
  have total : m.total n = 1 + high.toNat <<< 9 + 3 <<< 3 + n := by
    simp [Mnemonic.total, format, selector, Format.opcode, Selector.part, Selector.shiftGroup,
      Nat.add_assoc]
  obtain ⟨decoded, value⟩ : _ ∧ _ := by
    refine decode_word (m := m) (n := n) ?_ (by omega) fun w found value => ?_
    · simp only [selector, Selector.part, Selector.shiftGroup, UInt8.reduceToNat]
      omega
    · have mid : (bits w 5 3).toUInt8 = Selector.shiftGroup :=
        toUInt8_bits (by simp only [Selector.shiftGroup, UInt8.reduceToNat]; omega)
      have top : (bits w 15 9).toUInt8 / 16 % 8 = high / 16 % 8 := by
        apply UInt8.toNat.inj
        simp only [UInt8.toNat_mod, UInt8.toNat_div, UInt16.toNat_toUInt8, toNat_bits,
          UInt8.reduceToNat]
        omega
      simp [Selector.ofWord, found, format, selector, mid, top, Selector.accepts]
  exact ⟨decoded, by omega⟩

theorem decode_funct3 {low : UInt8} (format : m.format ∈ [.branch, .store, .load, .system])
    (selector : m.selector = .funct3 low) (low_lt : low.toNat < 8)
    (aligned : n % 2 ^ 6 = 0) (room : n < 2 ^ 16) :
    decode (m.word n) = .ok (.ofWord m (m.word n)) ∧
      (m.word n).toNat / 2 ^ 6 = n / 2 ^ 6 := by
  have opcode := m.format.opcode_lt
  have total : m.total n = m.format.opcode.toNat + low.toNat <<< 3 + n := by
    simp [Mnemonic.total, selector, Selector.part]
  obtain ⟨decoded, value⟩ : _ ∧ _ := by
    refine decode_word (m := m) (n := n) ?_ (by omega) fun w found value => ?_
    · rw [selector, Selector.part]
      omega
    · have mid : (bits w 5 3).toUInt8 = low := toUInt8_bits (by omega)
      simp only [List.mem_cons, List.not_mem_nil, or_false] at format
      rcases format with format | format | format | format <;>
        simp [Selector.ofWord, found, format, selector, mid, Selector.accepts]
  exact ⟨decoded, by omega⟩

theorem decode_flag {set : Bool} (format : m.format ∈ [.jump, .upper])
    (selector : m.selector = .flag set) (aligned : n % 2 ^ 3 = 0)
    (room : n < 2 ^ 15) :
    decode (m.word n) = .ok (.ofWord m (m.word n)) ∧
      (m.word n).toNat / 2 ^ 3 % 2 ^ 12 = n / 2 ^ 3 := by
  have opcode := m.format.opcode_lt
  have bit := set.toNat_le
  have total : m.total n = m.format.opcode.toNat + set.toNat <<< 15 + n := by
    simp [Mnemonic.total, selector, Selector.part]
  obtain ⟨decoded, value⟩ : _ ∧ _ := by
    refine decode_word (m := m) (n := n) ?_ (by omega) fun w found value => ?_
    · rw [selector, Selector.part]
      omega
    · have top : (bits w 15 15 = 1) = (set = true) := by
        rw [← UInt16.toNat_inj, toNat_bits, value, total]
        cases set <;> simp <;> omega
      simp only [List.mem_cons, List.not_mem_nil, or_false] at format
      rcases format with format | format <;>
        simp [Selector.ofWord, found, format, selector, top, Selector.accepts]
  exact ⟨decoded, by omega⟩

end Mnemonic

theorem sext_eq {u : Word} {n : Nat} {v : Int16} (pos : 0 < n) (le : n ≤ 16)
    (field : u.toNat = (v.toInt % 2 ^ n).toNat) (low : -2 ^ (n - 1) ≤ v.toInt)
    (high : v.toInt < 2 ^ (n - 1)) : sext u n = v := by
  have half : (2 : Int) ^ n = 2 * 2 ^ (n - 1) := by
    rw [← Int.pow_succ', Nat.sub_add_cancel pos]
  have nonneg : 0 ≤ v.toInt % 2 ^ n := Int.emod_nonneg _ (by omega)
  apply Int16.toInt_inj.1
  rw [toInt_sext u le, field, Int.toNat_of_nonneg nonneg]
  have cast : ((2 ^ n : Nat) : Int) = 2 ^ n := by simp
  rw [← cast, Int.emod_bmod]
  apply Int.bmod_eq_of_le <;> rw [cast] <;> omega

theorem toInt8_sext {u : Word} {v : Int8} (field : u.toNat = (v.toInt % 2 ^ 4).toNat)
    (low : -8 ≤ v.toInt) (high : v.toInt ≤ 7) : (sext u 4).toInt8 = v := by
  have wide : sext u 4 = v.toInt16 :=
    sext_eq (by decide) (by decide) (by rwa [Int8.toInt_toInt16]) (by simp; omega) (by simp; omega)
  rw [wide, Int8.toInt8_toInt16]

theorem toNat_splitImmediate (w : Word) :
    (splitImmediate w).toNat = w.toNat / 2 ^ 9 % 2 ^ 6 * 8 + w.toNat / 2 ^ 3 % 2 ^ 3 := by
  simp only [splitImmediate, UInt16.toNat_add, UInt16.toNat_mul, toNat_bits]
  simp
  omega

theorem splitImmediate_eq {w v : Word}
    (h : w.toNat / 2 ^ 9 % 2 ^ 6 * 8 + w.toNat / 2 ^ 3 % 2 ^ 3 = v.toNat) :
    splitImmediate w = v :=
  UInt16.toNat.inj (by rw [toNat_splitImmediate, h])

theorem lowRegister_eq {w : Word} {r : UInt8} (h : w.toNat / 2 ^ 6 % 2 ^ 3 = r.toNat) :
    (bits w 8 6).toUInt8 = r :=
  toUInt8_bits h

theorem midRegister_eq {w : Word} {r : UInt8} (h : w.toNat / 2 ^ 9 % 2 ^ 3 = r.toNat) :
    (bits w 11 9).toUInt8 = r :=
  toUInt8_bits h

namespace Instruction

theorem decode_word {i : Instruction} (known : ∀ w, i ≠ .unknown w) (fits : i.Fits) :
    decode i.word = .ok i := by
  obtain ⟨regs, immFits⟩ := fits
  -- In each case the operands leave the opcode and the selector alone and are read from their fields.
  cases i <;>
    simp only [registers, ImmediateFits, List.forall_mem_cons, List.not_mem_nil, false_imp_iff,
      implies_true, and_true] at regs immFits <;>
    rw [word]
  case alu op rd rs =>
    obtain ⟨high, low, selector, high_lt, low_lt⟩ := op.selector_eq
    obtain ⟨decoded, kept⟩ := Mnemonic.decode_register (m := .alu op) rfl selector high_lt low_lt
      (by omega) (by omega : rs.toNat <<< 9 + rd.toNat <<< 6 < 2 ^ 12)
    rw [decoded, ofWord, lowRegister_eq (r := rd) (by omega), midRegister_eq (r := rs) (by omega)]
  case jr rs =>
    obtain ⟨decoded, kept⟩ := Mnemonic.decode_register (m := .jr) rfl rfl (by decide) (by decide)
      (by omega) (by omega : rs.toNat <<< 6 < 2 ^ 12)
    rw [decoded, ofWord, lowRegister_eq (r := rs) (by omega)]
  case jalr rd rs =>
    obtain ⟨decoded, kept⟩ := Mnemonic.decode_register (m := .jalr) rfl rfl (by decide)
      (by decide) (by omega) (by omega : rs.toNat <<< 9 + rd.toNat <<< 6 < 2 ^ 12)
    rw [decoded, ofWord, lowRegister_eq (r := rd) (by omega), midRegister_eq (r := rs) (by omega)]
  case immediate op rd imm =>
    obtain ⟨low, selector, low_lt, single⟩ := op.selector_eq
    obtain ⟨decoded, kept⟩ := Mnemonic.decode_immediate (m := .immediate op) rfl selector low_lt
      single (by omega)
      (by omega : (imm.toInt % 2 ^ 7).toNat <<< 9 + rd.toNat <<< 6 < 2 ^ 16)
    rw [decoded, ofWord, lowRegister_eq (r := rd) (by omega),
      sext_eq (v := imm) (by decide) (by decide) (by rw [toNat_bits]; omega) (by omega) (by omega)]
  case sltui rd imm =>
    obtain ⟨decoded, kept⟩ := Mnemonic.decode_immediate (m := .sltui) rfl rfl (by decide)
      (by decide) (by omega) (by omega : imm.toNat <<< 9 + rd.toNat <<< 6 < 2 ^ 16)
    rw [decoded, ofWord, lowRegister_eq (r := rd) (by omega),
      toUInt8_bits (k := 9) (b := imm) (by omega)]
  case shift op rd amount =>
    obtain ⟨high, selector, high_lt, amountless⟩ := op.selector_eq
    obtain ⟨decoded, kept⟩ := Mnemonic.decode_shift (m := .shift op) rfl selector high_lt
      amountless (by omega) (by omega : amount.toNat <<< 9 + rd.toNat <<< 6 < 2 ^ 13)
    rw [decoded, ofWord, lowRegister_eq (r := rd) (by omega),
      toUInt8_bits (k := 9) (b := amount) (by omega)]
  case branch condition rs1 rs2 offset =>
    obtain ⟨low, selector, low_lt⟩ := condition.selector_eq
    obtain ⟨decoded, kept⟩ := Mnemonic.decode_funct3 (m := .branch condition)
      (by simp [Mnemonic.format]) selector low_lt (by omega)
      (by omega : (offset.toInt % 2 ^ 4).toNat <<< 12 + rs2.toNat <<< 9 +
        rs1.toNat <<< 6 < 2 ^ 16)
    rw [decoded, ofWord, lowRegister_eq (r := rs1) (by omega),
      midRegister_eq (r := rs2) (by omega),
      sext_eq (v := offset) (by decide) (by decide) (by rw [toNat_bits]; omega) (by omega)
        (by omega)]
  case store op rs base offset =>
    obtain ⟨low, selector, low_lt⟩ := op.selector_eq
    obtain ⟨decoded, kept⟩ := Mnemonic.decode_funct3 (m := .store op) (by simp [Mnemonic.format])
      selector low_lt (by omega)
      (by omega : (offset.toInt % 2 ^ 4).toNat <<< 12 + base.toNat <<< 9 +
        rs.toNat <<< 6 < 2 ^ 16)
    rw [decoded, ofWord, lowRegister_eq (r := rs) (by omega),
      midRegister_eq (r := base) (by omega),
      toInt8_sext (v := offset) (by rw [toNat_bits]; omega) (by omega) (by omega)]
  case load op rd base offset =>
    obtain ⟨low, selector, low_lt⟩ := op.selector_eq
    obtain ⟨decoded, kept⟩ := Mnemonic.decode_funct3 (m := .load op) (by simp [Mnemonic.format])
      selector low_lt (by omega)
      (by omega : (offset.toInt % 2 ^ 4).toNat <<< 12 + base.toNat <<< 9 +
        rd.toNat <<< 6 < 2 ^ 16)
    rw [decoded, ofWord, lowRegister_eq (r := rd) (by omega),
      midRegister_eq (r := base) (by omega),
      toInt8_sext (v := offset) (by rw [toNat_bits]; omega) (by omega) (by omega)]
  case j offset =>
    have part := splitPart.eq_1 (offset.toInt % 2 ^ 9).toNat
    obtain ⟨decoded, kept⟩ := Mnemonic.decode_flag (m := .j) (by decide) rfl (by omega)
      (by omega : splitPart (offset.toInt % 2 ^ 9).toNat < 2 ^ 15)
    rw [decoded, ofWord, sext_eq (v := offset) (by decide) (by decide)
      (by rw [toNat_splitImmediate]; omega) (by omega) (by omega)]
  case jal rd offset =>
    have part := splitPart.eq_1 (offset.toInt % 2 ^ 9).toNat
    obtain ⟨decoded, kept⟩ := Mnemonic.decode_flag (m := .jal) (by decide) rfl (by omega)
      (by omega : splitPart (offset.toInt % 2 ^ 9).toNat + rd.toNat <<< 6 < 2 ^ 15)
    rw [decoded, ofWord, lowRegister_eq (r := rd) (by omega), sext_eq (v := offset) (by decide)
      (by decide) (by rw [toNat_splitImmediate]; omega) (by omega) (by omega)]
  case upper op rd imm =>
    have part := splitPart.eq_1 imm.toNat
    obtain ⟨set, selector⟩ := op.selector_eq
    obtain ⟨decoded, kept⟩ := Mnemonic.decode_flag (m := .upper op) (by simp [Mnemonic.format])
      selector (by omega) (by omega : splitPart imm.toNat + rd.toNat <<< 6 < 2 ^ 15)
    rw [decoded, ofWord, lowRegister_eq (r := rd) (by omega),
      splitImmediate_eq (v := imm) (by omega)]
  case ecall service =>
    obtain ⟨decoded, kept⟩ := Mnemonic.decode_funct3 (m := .ecall) (by decide) rfl (by decide)
      (by omega) (by omega : service.toNat <<< 6 < 2 ^ 16)
    rw [decoded, ofWord, bits_eq (v := service) (by omega)]
  case unknown w => exact absurd rfl (known w)

end Instruction

theorem decode_encode {i : Instruction} {w : Word} (known : ∀ v, i ≠ .unknown v)
    (encoded : encode i = .ok w) : decode w = .ok i := by
  obtain ⟨fits, rfl⟩ := encode_eq_ok.1 encoded
  exact Instruction.decode_word known fits

/-- Encoding and decoding are inverse on the instructions that have a mnemonic: those whose operands fit
have a word that decodes to them and to no other instruction, and the rest are refused. -/
theorem encode_decode_inverse (i : Instruction) (known : ∀ v, i ≠ .unknown v) :
    ((∃ w, encode i = .ok w) ↔ i.Fits) ∧
    (¬i.Fits → ∃ e, encode i = .error e) ∧
    (∀ w, encode i = .ok w → decode w = .ok i) ∧
    ∀ j : Instruction, (∀ v, j ≠ .unknown v) →
      ∀ w, encode i = .ok w → encode j = .ok w → i = j := by
  refine ⟨⟨?_, ?_⟩, encode_eq_error, fun w => decode_encode known, ?_⟩
  · rintro ⟨w, encoded⟩
    exact (encode_eq_ok.1 encoded).1
  · intro fits
    exact ⟨i.word, encode_eq_ok.2 ⟨fits, rfl⟩⟩
  · intro j known' w encoded encoded'
    have same := (decode_encode known encoded).symm.trans (decode_encode known' encoded')
    exact Except.ok.inj same

theorem encode_decode_inverse_jal :
    (∀ v, Instruction.jal 1 (-256) ≠ .unknown v) ∧ encode (.jal 1 (-256)) = .ok 0xC045 ∧
      decode 0xC045 = .ok (.jal 1 (-256)) := by
  have known : ∀ v, Instruction.jal 1 (-256) ≠ .unknown v := by simp
  have encoded : encode (.jal 1 (-256)) = .ok 0xC045 := rfl
  exact ⟨known, encoded, (encode_decode_inverse _ known).2.2.1 _ encoded⟩

def assemble (p : List Instruction) : Except EncodeError (List Word) := p.mapM encode

theorem assemble_eq_ok {p : List Instruction} {ws : List Word} :
    assemble p = .ok ws ↔ (∀ i ∈ p, i.Fits) ∧ p.map Instruction.word = ws := by
  unfold assemble
  induction p generalizing ws with
  | nil => simp [pure_eq_ok]
  | cons i p ih =>
    simp only [List.mapM_cons, bind_eq_ok, pure_eq_ok, encode_eq_ok, ih, List.forall_mem_cons,
      List.map_cons]
    constructor
    · rintro ⟨_, ⟨fits, rfl⟩, _, ⟨rest, rfl⟩, rfl⟩
      exact ⟨⟨fits, rest⟩, rfl⟩
    · rintro ⟨⟨fits, rest⟩, rfl⟩
      exact ⟨_, ⟨fits, rfl⟩, _, ⟨rest, rfl⟩, rfl⟩

theorem decodeOrUnknown_word {i : Instruction} (fits : i.Fits)
    (rejected : ∀ w, i = .unknown w → ∃ e, decode w = .error e) : decodeOrUnknown i.word = i := by
  by_cases known : ∀ w, i ≠ .unknown w
  · rw [decodeOrUnknown, Instruction.decode_word known fits]
  · obtain ⟨w, rfl⟩ : ∃ w, i = .unknown w := by simpa using known
    obtain ⟨e, unreadable⟩ := rejected w rfl
    simp only [decodeOrUnknown, Instruction.word, unreadable]

theorem map_decodeOrUnknown_of_assemble {p : List Instruction} {ws : List Word}
    (assembled : assemble p = .ok ws) (rejected : ∀ w, .unknown w ∈ p → ∃ e, decode w = .error e) :
    ws.map decodeOrUnknown = p := by
  obtain ⟨fits, rfl⟩ := assemble_eq_ok.1 assembled
  have same : ∀ i ∈ p, (decodeOrUnknown ∘ Instruction.word) i = id i := fun i mem =>
    decodeOrUnknown_word (fits i mem) fun w eq => rejected w (eq ▸ mem)
  rw [List.map_map, List.map_congr_left same, List.map_id]

end Z16
