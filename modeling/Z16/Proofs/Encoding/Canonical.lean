import Z16.Proofs.Encoding.RoundTrip
import Z16.Proofs.Encoding.Decoded

/-!
# Canonical words

The mnemonic of a word accounts for its opcode and its selector, and its operands for the other bits, apart
from those that the instruction ignores (`Instruction.word_ofWord`). Without these a word is canonical: it
is the word that the decoded instruction is encoded to (`encode_decodeOrUnknown`), and it decodes to the
same instruction (`decodeOrUnknown_canonical`).
-/

namespace Z16

def fieldMask (hi lo : Nat) : Word := .ofNat ((2 ^ (hi + 1 - lo) - 1) * 2 ^ lo)

theorem toNat_fieldMask {hi lo : Nat} (le : hi < 16) :
    (fieldMask hi lo).toNat = (2 ^ (hi + 1 - lo) - 1) * 2 ^ lo := by
  apply UInt16.toNat_ofNat_of_lt
  by_cases ordered : lo ≤ hi
  · calc (2 ^ (hi + 1 - lo) - 1) * 2 ^ lo
      _ < 2 ^ (hi + 1 - lo) * 2 ^ lo :=
        Nat.mul_lt_mul_of_pos_right (Nat.sub_lt (Nat.two_pow_pos _) Nat.one_pos) (Nat.two_pow_pos _)
      _ = 2 ^ (hi + 1) := by rw [← Nat.pow_add, Nat.sub_add_cancel (by omega)]
      _ ≤ UInt16.size := Nat.pow_le_pow_right (by decide) le
  · simp [show hi + 1 - lo = 0 by omega]

example : fieldMask 8 6 = 0x01C0 := by decide

theorem toNat_and_fieldMask (w : Word) {hi lo : Nat} (le : hi < 16) :
    (w &&& fieldMask hi lo).toNat = (bits w hi lo).toNat * 2 ^ lo := by
  rw [UInt16.toNat_and, toNat_fieldMask le, toNat_bits]
  apply Nat.eq_of_testBit_eq
  intro i
  simp only [Nat.testBit_and, Nat.testBit_mul_two_pow, Nat.testBit_two_pow_sub_one,
    Nat.testBit_mod_two_pow, Nat.testBit_div_two_pow]
  by_cases above : lo ≤ i
  · simp [above, Bool.and_comm]
  · simp [above]

theorem and_not_add_and (w mask : Word) : (w &&& ~~~mask).toNat + (w &&& mask).toNat = w.toNat := by
  have apart : (w.toBitVec &&& ~~~mask.toBitVec) &&& (w.toBitVec &&& mask.toBitVec) = 0#16 := by
    ext i
    simp only [BitVec.getElem_and, BitVec.getElem_not]
    cases mask.toBitVec[i] <;> simp
  have together : (w.toBitVec &&& ~~~mask.toBitVec) ||| (w.toBitVec &&& mask.toBitVec) = w.toBitVec := by
    ext i
    simp only [BitVec.getElem_or, BitVec.getElem_and, BitVec.getElem_not]
    cases mask.toBitVec[i] <;> simp
  have sum := BitVec.toNat_add_of_and_eq_zero apart
  rw [BitVec.add_eq_or_of_and_eq_zero _ _ apart, together] at sum
  exact sum.symm

theorem toNat_clear (w : Word) (hi lo : Nat) (le : hi < 16) :
    (w &&& ~~~fieldMask hi lo).toNat + w.toNat / 2 ^ lo % 2 ^ (hi + 1 - lo) * 2 ^ lo = w.toNat := by
  have parts := and_not_add_and w (fieldMask hi lo)
  rwa [toNat_and_fieldMask w le, toNat_bits] at parts

theorem toNat_emod_sext (v : Word) {n : Nat} (le : n ≤ 16) :
    ((sext v n).toInt % 2 ^ n).toNat = v.toNat % 2 ^ n := by
  have cast : ((2 ^ n : Nat) : Int) = 2 ^ n := by simp
  rw [toInt_sext v le, ← cast, Int.bmod_emod, ← Int.natCast_emod, Int.toNat_natCast]

theorem toNat_toUInt8_bits (w : Word) {hi lo : Nat} (narrow : hi + 1 - lo ≤ 8) :
    (bits w hi lo).toUInt8.toNat = w.toNat / 2 ^ lo % 2 ^ (hi + 1 - lo) := by
  rw [UInt16.toNat_toUInt8, toNat_bits]
  apply Nat.mod_eq_of_lt
  calc w.toNat / 2 ^ lo % 2 ^ (hi + 1 - lo)
    _ < 2 ^ (hi + 1 - lo) := Nat.mod_lt _ (Nat.two_pow_pos _)
    _ ≤ 2 ^ 8 := Nat.pow_le_pow_right (by decide) narrow

theorem Format.toNat_opcode_ofWord (w : Word) : (ofWord w).opcode.toNat = w.toNat % 2 ^ 3 := by
  have narrow : 2 + 1 - 0 ≤ 8 := by decide
  rw [ofOpcode?_eq_some.1 (ofOpcode?_ofWord w), toNat_toUInt8_bits w narrow, Nat.pow_zero, Nat.div_one]

namespace Selector

variable {w : Word}

theorem register_of_accepts {high low : UInt8} (format : Format.ofWord w = .register)
    (h : (register high low).accepts (ofWord w) = true) :
    high.toNat = w.toNat / 2 ^ 12 % 2 ^ 4 ∧ low.toNat = w.toNat / 2 ^ 3 % 2 ^ 3 := by
  simp only [ofWord, format, accepts, Bool.and_eq_true, beq_iff_eq] at h
  rw [h.1, h.2]
  exact ⟨toNat_toUInt8_bits w (by decide), toNat_toUInt8_bits w (by decide)⟩

theorem immediate_of_accepts {low imm : UInt8} (format : Format.ofWord w = .immediate)
    (h : (immediate low imm).accepts (ofWord w) = true) :
    low.toNat = w.toNat / 2 ^ 3 % 2 ^ 3 ∧
      (low = shiftGroup → imm.toNat / 2 ^ 4 % 2 ^ 3 = w.toNat / 2 ^ 13 % 2 ^ 3) := by
  simp only [ofWord, format, accepts, Bool.and_eq_true, beq_iff_eq] at h
  obtain ⟨same, shift⟩ := h
  refine ⟨by rw [same]; exact toNat_toUInt8_bits w (by decide), fun group => ?_⟩
  have top := congrArg UInt8.toNat (by simpa [group] using shift)
  simp only [UInt8.toNat_mod, UInt8.toNat_div, UInt8.reduceToNat] at top
  rw [toNat_toUInt8_bits w (by decide)] at top
  omega

theorem funct3_of_accepts {low : UInt8} (format : Format.ofWord w ∈ [.branch, .store, .load, .system])
    (h : (funct3 low).accepts (ofWord w) = true) : low.toNat = w.toNat / 2 ^ 3 % 2 ^ 3 := by
  simp only [List.mem_cons, List.not_mem_nil, or_false] at format
  have same : low = (bits w 5 3).toUInt8 := by
    rcases format with format | format | format | format <;>
      simpa [ofWord, format, accepts] using h
  rw [same]
  exact toNat_toUInt8_bits w (by decide)

theorem flag_of_accepts {set : Bool} (format : Format.ofWord w ∈ [.jump, .upper])
    (h : (flag set).accepts (ofWord w) = true) : set.toNat = w.toNat / 2 ^ 15 := by
  simp only [List.mem_cons, List.not_mem_nil, or_false] at format
  have same : set = decide (bits w 15 15 = 1) := by
    rcases format with format | format <;> simpa [ofWord, format, accepts] using h
  have lt := w.toNat_lt
  have value : (bits w 15 15).toNat = w.toNat / 2 ^ 15 := by
    rw [toNat_bits]
    omega
  have top : bits w 15 15 = 1 ↔ w.toNat / 2 ^ 15 = 1 := by
    rw [← UInt16.toNat_inj, value]
    rfl
  rw [same]
  by_cases one : w.toNat / 2 ^ 15 = 1
  · rw [decide_eq_true (top.2 one), one]
    rfl
  · rw [decide_eq_false (mt top.1 one), Bool.toNat_false]
    omega

end Selector

namespace Mnemonic

variable {m : Mnemonic} {n : Nat} {w : Word}

theorem word_eq {v : Word} (h : m.total 0 + n = v.toNat) : m.word n = v := by
  rw [total, Nat.add_zero] at h
  rw [word, h, UInt16.ofNat_toNat]

theorem total_zero (word : Format.ofWord w = m.format) :
    m.total 0 = w.toNat % 2 ^ 3 + m.selector.part := by
  rw [total, Nat.add_zero, ← word, Format.toNat_opcode_ofWord]

theorem total_register {high low : UInt8} (word : Format.ofWord w = m.format)
    (accepts : m.selector.accepts (Selector.ofWord w) = true) (format : m.format = .register)
    (selector : m.selector = .register high low) :
    m.total 0 + w.toNat / 2 ^ 6 % 2 ^ 6 * 2 ^ 6 = w.toNat := by
  rw [selector] at accepts
  obtain ⟨top, funct⟩ := Selector.register_of_accepts (word.trans format) accepts
  have lt := w.toNat_lt
  rw [total_zero word, selector, Selector.part]
  omega

theorem total_immediate {low : UInt8} (word : Format.ofWord w = m.format)
    (accepts : m.selector.accepts (Selector.ofWord w) = true) (format : m.format = .immediate)
    (selector : m.selector = .immediate low 0) :
    m.total 0 + w.toNat / 2 ^ 6 * 2 ^ 6 = w.toNat := by
  rw [selector] at accepts
  obtain ⟨funct, -⟩ := Selector.immediate_of_accepts (word.trans format) accepts
  rw [total_zero word, selector, Selector.part, UInt8.toNat_zero]
  omega

theorem total_shift {high : UInt8} (word : Format.ofWord w = m.format)
    (accepts : m.selector.accepts (Selector.ofWord w) = true) (format : m.format = .immediate)
    (selector : m.selector = .immediate Selector.shiftGroup high) (high_lt : high.toNat < 128)
    (amountless : high.toNat % 16 = 0) :
    m.total 0 + w.toNat / 2 ^ 6 % 2 ^ 7 * 2 ^ 6 = w.toNat := by
  rw [selector] at accepts
  obtain ⟨funct, top⟩ := Selector.immediate_of_accepts (word.trans format) accepts
  have top := top rfl
  have lt := w.toNat_lt
  rw [total_zero word, selector, Selector.part, funct]
  omega

theorem total_funct3 {low : UInt8} (word : Format.ofWord w = m.format)
    (accepts : m.selector.accepts (Selector.ofWord w) = true)
    (format : m.format ∈ [.branch, .store, .load, .system]) (selector : m.selector = .funct3 low) :
    m.total 0 + w.toNat / 2 ^ 6 * 2 ^ 6 = w.toNat := by
  rw [selector] at accepts
  have funct := Selector.funct3_of_accepts (word ▸ format) accepts
  rw [total_zero word, selector, Selector.part]
  omega

theorem total_flag {set : Bool} (word : Format.ofWord w = m.format)
    (accepts : m.selector.accepts (Selector.ofWord w) = true)
    (format : m.format ∈ [.jump, .upper]) (selector : m.selector = .flag set) :
    m.total 0 + w.toNat / 2 ^ 3 % 2 ^ 12 * 2 ^ 3 = w.toNat := by
  rw [selector] at accepts
  have top := Selector.flag_of_accepts (word ▸ format) accepts
  rw [total_zero word, selector, Selector.part]
  omega

end Mnemonic

namespace Instruction

def ignoredBits : Instruction → Word
  | .jr _ => fieldMask 11 9
  | .j _ => fieldMask 8 6
  | _ => 0

theorem word_ofWord {m : Mnemonic} {w : Word} (format : Format.ofWord w = m.format)
    (selector : m.selector.accepts (Selector.ofWord w) = true) :
    (ofWord m w).word = w &&& ~~~(ofWord m w).ignoredBits := by
  have low : (bits w 8 6).toUInt8.toNat = w.toNat / 2 ^ 6 % 2 ^ 3 := toNat_toUInt8_bits w (by decide)
  have mid : (bits w 11 9).toUInt8.toNat = w.toNat / 2 ^ 9 % 2 ^ 3 :=
    toNat_toUInt8_bits w (by decide)
  have whole : w &&& ~~~0 = w := by simp
  have lt := w.toNat_lt
  -- Both sides are sums of the parts of a word, and the mnemonic's own part is given by its selector.
  cases m <;> simp only [ofWord, word, ignoredBits, whole] <;> apply Mnemonic.word_eq
  case alu op =>
    obtain ⟨high, funct, same, -, -⟩ := op.selector_eq
    have total := Mnemonic.total_register format selector rfl same
    omega
  case jr =>
    have total := Mnemonic.total_register format selector rfl rfl
    have cleared := toNat_clear w 11 9 (by decide)
    omega
  case jalr =>
    have total := Mnemonic.total_register format selector rfl rfl
    omega
  case immediate op =>
    obtain ⟨funct, same, -, -⟩ := op.selector_eq
    have total := Mnemonic.total_immediate format selector rfl same
    rw [toNat_emod_sext _ (by decide), toNat_bits]
    omega
  case sltui =>
    have total := Mnemonic.total_immediate format selector rfl rfl
    rw [toNat_toUInt8_bits w (by decide)]
    omega
  case shift op =>
    obtain ⟨high, same, high_lt, amountless⟩ := op.selector_eq
    have total := Mnemonic.total_shift format selector rfl same high_lt amountless
    rw [toNat_toUInt8_bits w (by decide)]
    omega
  case branch condition =>
    obtain ⟨funct, same, -⟩ := condition.selector_eq
    have total := Mnemonic.total_funct3 format selector (by simp [Mnemonic.format]) same
    rw [toNat_emod_sext _ (by decide), toNat_bits]
    omega
  case store op =>
    obtain ⟨funct, same, -⟩ := op.selector_eq
    have total := Mnemonic.total_funct3 format selector (by simp [Mnemonic.format]) same
    rw [toInt_toInt8_sext, toNat_emod_sext _ (by decide), toNat_bits]
    omega
  case load op =>
    obtain ⟨funct, same, -⟩ := op.selector_eq
    have total := Mnemonic.total_funct3 format selector (by simp [Mnemonic.format]) same
    rw [toInt_toInt8_sext, toNat_emod_sext _ (by decide), toNat_bits]
    omega
  case j =>
    have total := Mnemonic.total_flag format selector (by decide) rfl
    have cleared := toNat_clear w 8 6 (by decide)
    have part := splitPart.eq_1 (splitImmediate w).toNat
    rw [toNat_emod_sext _ (by decide), Nat.mod_eq_of_lt (toNat_splitImmediate_lt w), part,
      toNat_splitImmediate]
    omega
  case jal =>
    have total := Mnemonic.total_flag format selector (by decide) rfl
    have part := splitPart.eq_1 (splitImmediate w).toNat
    rw [toNat_emod_sext _ (by decide), Nat.mod_eq_of_lt (toNat_splitImmediate_lt w), part,
      toNat_splitImmediate]
    omega
  case upper op =>
    obtain ⟨set, same⟩ := op.selector_eq
    have total := Mnemonic.total_flag format selector (by simp [Mnemonic.format]) same
    have part := splitPart.eq_1 (splitImmediate w).toNat
    rw [part, toNat_splitImmediate]
    omega
  case ecall =>
    have total := Mnemonic.total_funct3 format selector (by decide) rfl
    rw [toNat_bits]
    omega

end Instruction

theorem word_decodeOrUnknown (w : Word) :
    (decodeOrUnknown w).word = w &&& ~~~(decodeOrUnknown w).ignoredBits := by
  rcases decode_cases w with ⟨m, format, selector, -, decoded⟩ | ⟨-, unknown⟩
  · rw [decoded]
    exact Instruction.word_ofWord format selector
  · simp [unknown, Instruction.word, Instruction.ignoredBits]

def Word.canonical (w : Word) : Word := w &&& ~~~(decodeOrUnknown w).ignoredBits

theorem encode_decodeOrUnknown (w : Word) : encode (decodeOrUnknown w) = .ok w.canonical :=
  encode_eq_ok.2 ⟨fits_decodeOrUnknown w, word_decodeOrUnknown w⟩

@[simp]
theorem decodeOrUnknown_canonical (w : Word) : decodeOrUnknown w.canonical = decodeOrUnknown w := by
  rw [Word.canonical, ← word_decodeOrUnknown]
  apply decodeOrUnknown_word (fits_decodeOrUnknown w)
  intro v unknown
  obtain ⟨rfl, rejected⟩ := decodeOrUnknown_eq_unknown unknown
  exact rejected

namespace Word

theorem canonical_eq_self {w : Word} (used : (decodeOrUnknown w).ignoredBits = 0) :
    w.canonical = w := by
  simp [canonical, used]

theorem canonical_of_error {w : Word} {e : DecodeError} (rejected : decode w = .error e) :
    w.canonical = w :=
  canonical_eq_self (by simp [decodeOrUnknown, rejected, Instruction.ignoredBits])

theorem canonical_cases (w : Word) :
    w.canonical = w ∨
      (∃ offset, decode w = .ok (.j offset)) ∧ w.canonical = w &&& ~~~fieldMask 8 6 ∨
      (∃ rs, decode w = .ok (.jr rs)) ∧ w.canonical = w &&& ~~~fieldMask 11 9 := by
  rcases decode_cases w with ⟨m, -, -, decoded, same⟩ | ⟨⟨e, rejected⟩, -⟩
  · cases m with
    | j => exact .inr (.inl ⟨⟨_, decoded⟩, by rw [canonical, same]; rfl⟩)
    | jr => exact .inr (.inr ⟨⟨_, decoded⟩, by rw [canonical, same]; rfl⟩)
    | _ => exact .inl (canonical_eq_self (by rw [same]; rfl))
  · exact .inl (canonical_of_error rejected)

@[simp]
theorem canonical_canonical (w : Word) : w.canonical.canonical = w.canonical := by
  have same := encode_decodeOrUnknown w.canonical
  rw [decodeOrUnknown_canonical, encode_decodeOrUnknown] at same
  exact (Except.ok.inj same).symm

end Word

theorem isExitWord_eq_false {w : Word} (ignores : (decodeOrUnknown w).ignoredBits ≠ 0) :
    isExitWord w = false := by
  have elsewhere : Format.ofWord w ≠ .system := by
    cases decoded : decodeOrUnknown w <;> simp only [decoded, Instruction.ignoredBits] at ignores
    case jr rs => simp [format_of_mnemonic (m := .jr) (by rw [decoded]; rfl), Mnemonic.format]
    case j offset => simp [format_of_mnemonic (m := .j) (by rw [decoded]; rfl), Mnemonic.format]
    all_goals exact absurd rfl ignores
  simp [isExitWord, elsewhere]

theorem Word.canonical_of_exit {w : Word} (exit : isExitWord w = true) : w.canonical = w := by
  refine canonical_eq_self (Decidable.byContradiction fun ignores => ?_)
  rw [isExitWord_eq_false ignores] at exit
  cases exit

@[simp]
theorem isExitWord_canonical (w : Word) : isExitWord w.canonical = isExitWord w := by
  by_cases used : (decodeOrUnknown w).ignoredBits = 0
  · rw [Word.canonical_eq_self used]
  · rw [isExitWord_eq_false used, isExitWord_eq_false (by rwa [decodeOrUnknown_canonical])]

theorem assemble_decoded (ws : List Word) :
    assemble (ws.map decodeOrUnknown) = .ok (ws.map Word.canonical) := by
  refine assemble_eq_ok.2 ⟨List.forall_mem_map.2 fun w _ => fits_decodeOrUnknown w, ?_⟩
  rw [List.map_map]
  exact List.map_congr_left fun w _ => word_decodeOrUnknown w

end Z16
