import Z16.Proofs.Listing.Entries
import Z16.Proofs.Listing.Operands

/-!
# What a listing determines

The line of an entry determines its instruction but for the offset of a branch or jump
(`Entry.text_inj`). Lines of labels start otherwise than those of entries, so the lines of a listing
determine which line stands for which entry and which labels stand before it (`Listing.blocks_inj`). With
the labels at hand, the offsets are known too, unless a label stands behind the program.
-/

namespace Z16

namespace Mnemonic

theorem text_inj {m m' : Mnemonic} (same : m.text = m'.text) : m = m' := by
  have distinct : ∀ m ∈ all, ∀ m' ∈ all, m.text = m'.text → m = m' := by decide +kernel
  exact distinct m m.mem_all m' m'.mem_all same

theorem no_space_in_text (m : Mnemonic) : ∀ c ∈ m.text.toList, (c ≠ ' ' : Bool) = true := by
  have plain : ∀ m ∈ all, m.text.toList.all (· ≠ ' ') = true := by decide +kernel
  exact List.all_eq_true.1 (plain m m.mem_all)

theorem text_ne_unknown (m : Mnemonic) : m.text ≠ "UNKNOWN" := by
  have known : ∀ m ∈ all, m.text ≠ "UNKNOWN" := by decide +kernel
  exact known m m.mem_all

end Mnemonic

namespace Entry

variable {e e' : Entry} {m : Mnemonic}

theorem stops_comment (e : Entry) : Text.Stops isOperandChar e.comment.toList := by
  unfold comment
  repeat' split
  · rw [String.toList_append]
    exact Text.stops_cons (by decide)
  · exact Text.stops_nil
  · exact Text.stops_nil

theorem text_toList (mnemonic : e.instruction.mnemonic? = some m) :
    e.text.toList = m.text.toList ++ ' ' ::
      (", ".toList.intercalate ((e.operands.map Operand.text).map String.toList) ++
        e.comment.toList) := by
  simp only [text, mnemonic, String.toList_append, String.toList_intercalate, List.append_assoc]
  rfl

theorem text_toList_unknown (mnemonic : e.instruction.mnemonic? = none) :
    e.text.toList = "UNKNOWN".toList ++ ' ' :: ("0x" ++ Text.hex 4 e.word.toNat).toList := by
  simp only [text, mnemonic, String.toList_append]
  rfl

theorem operands_inj (mnemonic : e.instruction.mnemonic? = some m)
    (mnemonic' : e'.instruction.mnemonic? = some m)
    (same : ", ".toList.intercalate ((e.operands.map Operand.text).map String.toList) ++
        e.comment.toList =
      ", ".toList.intercalate ((e'.operands.map Operand.text).map String.toList) ++
        e'.comment.toList) :
    e.operands = e'.operands := by
  have kinds : e.operands.map Operand.blank = e'.operands.map Operand.blank := by
    rw [blank_operands mnemonic, blank_operands mnemonic']
  have count : e.operands.length = e'.operands.length := by
    simpa using congrArg List.length kinds
  have inside (e : Entry) : ∀ piece ∈ (e.operands.map Operand.text).map String.toList,
      ∀ c ∈ piece, isOperandChar c = true := by
    simp only [List.forall_mem_map]
    intro o _ c mem
    exact Operand.isOperandChar_text mem
  obtain ⟨texts, -⟩ := Text.intercalate_inj (a := ',') (by decide) (by simpa using count)
    (inside e) (inside e') e.stops_comment e'.stops_comment same
  have texts := (List.map_inj_right fun _ _ => String.toList_inj.1).1 texts
  exact Operand.texts_inj kinds texts

theorem text_inj (same : e.text = e'.text) :
    (∃ m, e.instruction.mnemonic? = some m ∧ e'.instruction.mnemonic? = some m ∧
      e.operands = e'.operands) ∨
    (e.instruction.mnemonic? = none ∧ e'.instruction.mnemonic? = none ∧ e.word = e'.word) := by
  have unknown : ∀ c ∈ "UNKNOWN".toList, (c ≠ ' ' : Bool) = true :=
    List.all_eq_true.1 (by decide)
  have space {rest : List Char} : Text.Stops (· ≠ ' ') (' ' :: rest) := Text.stops_cons (by decide)
  have same := congrArg String.toList same
  -- The mnemonic ends at the first space.
  cases mnemonic : e.instruction.mnemonic? with
  | some m =>
    rw [text_toList mnemonic] at same
    cases mnemonic' : e'.instruction.mnemonic? with
    | some m' =>
      rw [text_toList mnemonic'] at same
      obtain ⟨front, rest⟩ :=
        Text.pieces_inj m.no_space_in_text m'.no_space_in_text space space same
      cases Mnemonic.text_inj (String.toList_inj.1 front)
      exact .inl ⟨m, rfl, rfl, operands_inj mnemonic mnemonic' (List.cons.inj rest).2⟩
    | none =>
      rw [text_toList_unknown mnemonic'] at same
      obtain ⟨front, -⟩ := Text.pieces_inj m.no_space_in_text unknown space space same
      exact absurd (String.toList_inj.1 front) m.text_ne_unknown
  | none =>
    rw [text_toList_unknown mnemonic] at same
    cases mnemonic' : e'.instruction.mnemonic? with
    | some m' =>
      rw [text_toList mnemonic'] at same
      obtain ⟨front, -⟩ := Text.pieces_inj unknown m'.no_space_in_text space space same
      exact absurd (String.toList_inj.1 front.symm) m'.text_ne_unknown
    | none =>
      rw [text_toList_unknown mnemonic'] at same
      have word := String.toList_inj.1 (List.cons.inj (List.append_cancel_left same)).2
      have word := Text.hex_inj ((String.append_right_inj _).1 word)
      exact .inr ⟨rfl, rfl, UInt16.toNat_inj.1 word⟩

end Entry

namespace Listing

variable {l l' : Listing} {ws ws' : List Word} {i : Nat} {e e' : Entry}

def isLabelLine (line : String) : Bool := ' ' ∉ line.toList

theorem isLabelLine_labelLine (label : Label) : isLabelLine (labelLine label) = true := by
  rw [isLabelLine, decide_eq_true_iff, labelLine, String.toList_append, List.mem_append]
  rintro (space | space)
  · exact absurd (isOperandChar_target (t := .label label) space) (by decide)
  · exact absurd space (by decide)

theorem isLabelLine_text (e : Entry) : isLabelLine e.text = false := by
  rw [isLabelLine, decide_eq_false_iff_not, Classical.not_not]
  cases mnemonic : e.instruction.mnemonic? with
  | some m => simp [Entry.text_toList mnemonic]
  | none => simp [Entry.text_toList_unknown mnemonic]

theorem labelLine_inj {label label' : Label} : labelLine label = labelLine label' ↔ label = label' := by
  rw [labelLine, labelLine, String.append_left_inj, Label.text_inj]

def blocks (l : Listing) : List (List String × String) :=
  l.entries.map fun e => (l.labelLinesAt e.index, e.text)

theorem lines_eq_blocks (l : Listing) :
    l.lines = l.blocks.flatMap (fun b => b.1 ++ [b.2]) ++ l.trailingLines := by
  rw [lines, blocks, List.flatMap_map]

theorem isLabelLine_blocks (l : Listing) :
    ∀ b ∈ l.blocks, (∀ line ∈ b.1, isLabelLine line = true) ∧ isLabelLine b.2 = false := by
  simp only [blocks, List.forall_mem_map, labelLinesAt, Option.mem_toList, Option.map_eq_some_iff]
  rintro e -
  refine ⟨?_, isLabelLine_text e⟩
  rintro _ ⟨label, -, rfl⟩
  exact isLabelLine_labelLine label

theorem isLabelLine_trailingLines (l : Listing) : ∀ line ∈ l.trailingLines, isLabelLine line = true := by
  simp only [trailingLines, List.forall_mem_map]
  rintro ⟨target, label⟩ -
  exact isLabelLine_labelLine label

theorem blocks_eq_of_lines_eq (same : l.lines = l'.lines) : l.blocks = l'.blocks := by
  rw [lines_eq_blocks, lines_eq_blocks] at same
  exact (Text.blocks_inj l.isLabelLine_blocks l'.isLabelLine_blocks l.isLabelLine_trailingLines
    l'.isLabelLine_trailingLines same).1

theorem get?_labels_of_labelLinesAt (same : l.labelLinesAt i = l'.labelLinesAt i) :
    l.labels.get? i = l'.labels.get? i := by
  unfold labelLinesAt at same
  cases label : l.labels.get? i <;> cases label' : l'.labels.get? i <;>
    simp_all [labelLine_inj]

theorem entry_of_lines_eq (same : (ofWords ws).lines = (ofWords ws').lines)
    (found : (ofWords ws).entries[i]? = some e) (found' : (ofWords ws').entries[i]? = some e') :
    e.text = e'.text ∧ (ofWords ws).labels.get? i = (ofWords ws').labels.get? i := by
  have block := congrArg (·[i]?) (blocks_eq_of_lines_eq same)
  simp only [blocks, List.getElem?_map, found, found', Option.map_some, Option.some.injEq,
    Prod.mk.injEq] at block
  rw [index_eq found, index_eq found'] at block
  exact ⟨block.2, get?_labels_of_labelLinesAt block.1⟩

theorem length_entries_of_lines_eq (same : l.lines = l'.lines) :
    l.entries.length = l'.entries.length := by
  have blocks := congrArg List.length (blocks_eq_of_lines_eq same)
  rwa [Listing.blocks, Listing.blocks, List.length_map, List.length_map] at blocks

theorem instruction_of_text (found : (ofWords ws).entries[i]? = some e)
    (found' : (ofWords ws').entries[i]? = some e') (same : e.text = e'.text) :
    e.instruction.withOffset 0 = e'.instruction.withOffset 0 ∧ e.operands = e'.operands := by
  have decoded := instruction_eq found
  have decoded' := instruction_eq found'
  rcases Entry.text_inj same with ⟨m, mnemonic, mnemonic', operands⟩ | ⟨unknown, unknown', word⟩
  · have read := Entry.read_operands mnemonic (decoded ▸ fits_decodeOrUnknown e.word)
    have read' := Entry.read_operands mnemonic' (decoded' ▸ fits_decodeOrUnknown e'.word)
    rw [operands, read'] at read
    exact ⟨(Option.some.inj read).symm, operands⟩
  · have equal : e.instruction = e'.instruction := by rw [decoded, decoded', word]
    refine ⟨by rw [equal], ?_⟩
    cases i : e.instruction <;> rw [i] at unknown <;> cases unknown
    rw [Entry.operands, Entry.operands, ← equal, i]

theorem target?_of_operands (found : (ofWords ws).entries[i]? = some e)
    (found' : (ofWords ws').entries[i]? = some e') (same : e.operands = e'.operands)
    (jumps : e.instruction.offset?.isSome = true) (jumps' : e'.instruction.offset?.isSome = true) :
    e.target? = e'.target? := by
  obtain ⟨target, shown⟩ := Option.isSome_iff_exists.1 (isSome_target? found jumps)
  obtain ⟨target', shown'⟩ := Option.isSome_iff_exists.1 (isSome_target? found' jumps')
  have member := Entry.target_mem_operands shown jumps
  rw [same] at member
  rw [shown, shown', Entry.target_of_mem_operands member, shown', Option.getD_some]

theorem length_le_of_label (same : (ofWords ws).lines = (ofWords ws').lines) {t t' : Nat}
    {label : Label} (labelled : (ofWords ws).labels.get? t = some label)
    (labelled' : (ofWords ws').labels.get? t' = some label) (differ : t ≠ t') :
    (ofWords ws).entries.length ≤ t := by
  apply Nat.le_of_not_lt
  intro inside
  have inside' : t < (ofWords ws').entries.length := length_entries_of_lines_eq same ▸ inside
  have shared := (entry_of_lines_eq same (List.getElem?_eq_getElem inside)
    (List.getElem?_eq_getElem inside')).2
  exact differ ((numbered_labels ws').unique (shared ▸ labelled) labelled')

end Listing

/-- Listings with the same lines are of the same program, but for the offsets of branches and jumps that
lead behind its last instruction: the label that stands there does not say how far. -/
theorem program_of_lines {ws ws' : List Word}
    (same : (Listing.ofWords ws).lines = (Listing.ofWords ws').lines) :
    let p := (Listing.ofWords ws).program
    let p' := (Listing.ofWords ws').program
    p.length = p'.length ∧
      ∀ (index : Nat) (i i' : Instruction), p[index]? = some i → p'[index]? = some i' →
        i = i' ∨ ∃ o o', i.offset? = some o ∧ i'.offset? = some o' ∧ i' = i.withOffset o' ∧
          p.length ≤ index + o.toInt ∧ p.length ≤ index + o'.toInt := by
  intro p p'
  have length : p.length = (Listing.ofWords ws).entries.length := Listing.length_program _
  have length' : p'.length = (Listing.ofWords ws').entries.length := Listing.length_program _
  have count := Listing.length_entries_of_lines_eq same
  refine ⟨by rw [length, length', count], ?_⟩
  intro index _ _ here here'
  rw [Listing.getElem?_program] at here here'
  obtain ⟨e, found, rfl⟩ := Option.map_eq_some_iff.1 here
  obtain ⟨e', found', rfl⟩ := Option.map_eq_some_iff.1 here'
  obtain ⟨text, -⟩ := Listing.entry_of_lines_eq same found found'
  obtain ⟨alike, operands⟩ := Listing.instruction_of_text found found' text
  rcases Instruction.eq_withOffset alike with ⟨-, -, equal⟩ | ⟨o, o', jumps, jumps', other⟩
  · exact .inl equal
  by_cases offset : o = o'
  · left
    rw [other, ← offset, Instruction.withOffset_of_some jumps]
  refine .inr ⟨o, o', jumps, jumps', other, ?_⟩
  have shown := Listing.target?_of_operands found found' operands (by simp [jumps]) (by simp [jumps'])
  have apart : o.toInt ≠ o'.toInt := fun eq => offset (Int16.toInt_inj.1 eq)
  -- An offset is shown as it is, so both instructions show a label.
  rcases Listing.target?_cases found jumps with ⟨t, label, target, -, labels, labelled⟩ | ⟨-, raw⟩
  · rw [labels] at shown
    rcases Listing.target?_cases found' jumps' with
      ⟨t', label', target', -, labels', labelled'⟩ | ⟨-, raw'⟩
    · cases shown.trans labels'
      have behind := Listing.length_le_of_label same labelled labelled' (by omega)
      have behind' := Listing.length_le_of_label same.symm labelled' labelled (by omega)
      omega
    · cases shown.trans raw'
  · rw [raw] at shown
    rcases Listing.target?_cases found' jumps' with ⟨t', label', -, -, labels', -⟩ | ⟨-, raw'⟩
    · cases shown.trans labels'
    · cases shown.trans raw'
      exact absurd rfl offset

/-- A branch over the exit to the word behind it. -/
def shortBranch : List Word := [0x2052, 0x0287, 0x0000, 0x0000]

/-- A branch over the exit to the word after the one behind it. -/
def longBranch : List Word := [0x3052, 0x0287, 0x0000, 0x0000]

theorem program_of_lines_branches :
    (Listing.ofWords shortBranch).lines = (Listing.ofWords longBranch).lines ∧
      ∃ o o' : Int16, Instruction.branch .zero 1 0 3 = (Instruction.branch .zero 1 0 2).withOffset o' ∧
        2 ≤ o.toInt ∧ 2 ≤ o'.toInt := by
  have same : (Listing.ofWords shortBranch).lines = (Listing.ofWords longBranch).lines := by
    decide +kernel
  have length : (Listing.ofWords shortBranch).program.length = 2 := by decide +kernel
  have short : (Listing.ofWords shortBranch).program[0]? = some (.branch .zero 1 0 2) := by
    decide +kernel
  have long : (Listing.ofWords longBranch).program[0]? = some (.branch .zero 1 0 3) := by
    decide +kernel
  obtain ⟨-, instructions⟩ := program_of_lines same
  rcases instructions 0 _ _ short long with equal | ⟨o, o', -, -, other, behind, behind'⟩
  · exact absurd equal (by decide)
  · rw [length] at behind behind'
    exact ⟨same, o, o', other, by omega, by omega⟩

end Z16
