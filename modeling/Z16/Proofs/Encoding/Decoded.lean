import Z16.Proofs.Encoding.Fits

namespace Z16

theorem toNat_bits_lt (w : Word) (hi lo : Nat) : (bits w hi lo).toNat < 2 ^ (hi + 1 - lo) := by
  rw [toNat_bits]
  exact Nat.mod_lt _ (Nat.two_pow_pos _)

theorem toNat_toUInt8_bits_lt (w : Word) (hi lo : Nat) :
    (bits w hi lo).toUInt8.toNat < 2 ^ (hi + 1 - lo) := by
  rw [UInt16.toNat_toUInt8]
  exact Nat.lt_of_le_of_lt (Nat.mod_le _ _) (toNat_bits_lt w hi lo)

theorem sext_bounds (v : Word) (n half : Nat) (le : n ≤ 16) (eq : 2 ^ n = 2 * half) :
    -half ≤ (sext v n).toInt ∧ (sext v n).toInt < half := by
  have low := Int.le_bmod (x := v.toNat) (Nat.two_pow_pos n)
  have high := Int.bmod_lt (x := v.toNat) (Nat.two_pow_pos n)
  rw [toInt_sext v le]
  rw [eq] at low high ⊢
  omega

theorem toInt_toInt8_sext (v : Word) : (sext v 4).toInt8.toInt = (sext v 4).toInt := by
  have bounds := sext_bounds v 4 8 (by decide) rfl
  rw [Int16.toInt_toInt8]
  apply Int.bmod_eq_of_le <;> omega

theorem toNat_splitImmediate_lt (w : Word) : (splitImmediate w).toNat < 2 ^ 9 := by
  have high := toNat_bits_lt w 14 9
  have low := toNat_bits_lt w 5 3
  simp only [splitImmediate, UInt16.toNat_add, UInt16.toNat_mul, UInt16.reduceToNat]
  omega

namespace Instruction

@[simp]
theorem mnemonic?_ofWord (m : Mnemonic) (w : Word) : (ofWord m w).mnemonic? = some m := by
  cases m <;> rfl

theorem fits_ofWord (m : Mnemonic) (w : Word) : (ofWord m w).Fits := by
  have low := toNat_toUInt8_bits_lt w 8 6
  have mid := toNat_toUInt8_bits_lt w 11 9
  constructor
  · intro r mem
    cases m <;> simp only [ofWord, registers, List.mem_cons, List.not_mem_nil, or_false] at mem
    case alu | jalr | branch | store | load => rcases mem with rfl | rfl <;> assumption
    all_goals exact mem ▸ low
  · cases m <;> simp only [ofWord, ImmediateFits]
    case immediate =>
      have := sext_bounds (bits w 15 9) 7 64 (by decide) rfl
      omega
    case sltui =>
      have := toNat_toUInt8_bits_lt w 15 9
      omega
    case shift =>
      have := toNat_toUInt8_bits_lt w 12 9
      omega
    case branch =>
      have := sext_bounds (bits w 15 12) 4 8 (by decide) rfl
      omega
    case store | load =>
      have := sext_bounds (bits w 15 12) 4 8 (by decide) rfl
      rw [toInt_toInt8_sext]
      omega
    case j | jal =>
      have := sext_bounds (splitImmediate w) 9 256 (by decide) rfl
      omega
    case upper =>
      have := toNat_splitImmediate_lt w
      omega
    case ecall =>
      have := toNat_bits_lt w 15 6
      omega

end Instruction

theorem Mnemonic.ofSelector?_eq_some {f : Format} {found : Selector} {m : Mnemonic}
    (h : ofSelector? f found = some m) : m.format = f ∧ m.selector.accepts found = true := by
  have holds := List.find?_some h
  simpa using holds

theorem decode_cases (w : Word) :
    (∃ m : Mnemonic, Format.ofWord w = m.format ∧ m.selector.accepts (Selector.ofWord w) = true ∧
      decode w = .ok (.ofWord m w) ∧ decodeOrUnknown w = .ofWord m w) ∨
    (∃ e, decode w = .error e) ∧ decodeOrUnknown w = .unknown w := by
  unfold decodeOrUnknown decode
  cases found : Mnemonic.ofSelector? (Format.ofWord w) (Selector.ofWord w) with
  | some m =>
    obtain ⟨format, selector⟩ := Mnemonic.ofSelector?_eq_some found
    exact .inl ⟨m, format.symm, selector, rfl, rfl⟩
  | none => exact .inr ⟨⟨_, rfl⟩, rfl⟩

theorem fits_decodeOrUnknown (w : Word) : (decodeOrUnknown w).Fits := by
  rcases decode_cases w with ⟨m, -, -, -, decoded⟩ | ⟨-, unknown⟩
  · rw [decoded]
    exact Instruction.fits_ofWord m w
  · rw [unknown]
    exact ⟨nofun, trivial⟩

theorem decodeOrUnknown_eq_unknown {w v : Word} (unknown : decodeOrUnknown w = .unknown v) :
    v = w ∧ ∃ e, decode w = .error e := by
  rcases decode_cases w with ⟨m, -, -, -, decoded⟩ | ⟨rejected, kept⟩
  · have named := Instruction.mnemonic?_ofWord m w
    rw [← decoded, unknown] at named
    cases named
  · exact ⟨Instruction.unknown.inj (unknown.symm.trans kept), rejected⟩

theorem format_of_mnemonic {w : Word} {m : Mnemonic}
    (named : (decodeOrUnknown w).mnemonic? = some m) : Format.ofWord w = m.format := by
  rcases decode_cases w with ⟨m', format, -, -, decoded⟩ | ⟨-, unknown⟩
  · rw [decoded, Instruction.mnemonic?_ofWord] at named
    rw [format, Option.some.inj named]
  · rw [unknown] at named
    cases named

theorem isExitWord_of_decoded {w : Word} (exit : decodeOrUnknown w = .ecall Instruction.exitCode) :
    isExitWord w = true := by
  have format : Format.ofWord w = .system := format_of_mnemonic (m := .ecall) (by rw [exit]; rfl)
  have service : bits w 15 6 = Instruction.exitCode := by
    rcases decode_cases w with ⟨m, -, -, -, decoded⟩ | ⟨-, unknown⟩
    · rw [decoded] at exit
      cases m <;> simp only [Instruction.ofWord, reduceCtorEq] at exit
      exact Instruction.ecall.inj exit
    · cases unknown.symm.trans exit
  simp [isExitWord, format, service]

end Z16
