import Z16.Listing
import Z16.Proofs.Listing.Labels

namespace Z16

theorem throughExit_sublist (ws : List Word) : List.IsPrefix (throughExit ws) ws := by
  induction ws with
  | nil => exact List.prefix_rfl
  | cons w ws ih =>
    rw [throughExit]
    split
    · exact List.prefix_append [w] ws
    · exact List.prefix_cons_inj w |>.2 ih

theorem Instruction.targetIndex?_eq_some_iff {i : Instruction} {index count target : Nat} :
    i.targetIndex? index count = some target ↔
      ∃ offset, i.offset? = some offset ∧ (target : Int) = index + offset.toInt ∧ target < count := by
  cases shown : i.offset? with
  | none => simp [targetIndex?, shown]
  | some offset =>
    simp only [targetIndex?, shown, Option.bind_some, Option.some.injEq, exists_eq_left']
    split
    next inside => simp; omega
    next outside => simp; omega

namespace Listing

variable {ws : List Word} {i : Nat} {e : Entry}

theorem getElem?_entries (ws : List Word) (i : Nat) :
    (ofWords ws).entries[i]? = (throughExit ws)[i]?.map fun w =>
      { index := i, word := w, instruction := decodeOrUnknown w
        target? := (ofWords ws).labels.target? (decodeOrUnknown w) i ws.length } := by
  simp [ofWords, List.getElem?_zipIdx, Function.comp_def]

theorem length_entries (ws : List Word) : (ofWords ws).entries.length = (throughExit ws).length := by
  simp [ofWords]

theorem length_entries_le (ws : List Word) : (ofWords ws).entries.length ≤ ws.length := by
  rw [length_entries]
  exact (throughExit_sublist ws).length_le

theorem length_program (l : Listing) : l.program.length = l.entries.length := by
  simp [program]

theorem getElem?_program (l : Listing) (i : Nat) :
    l.program[i]? = l.entries[i]?.map Entry.instruction := by
  simp [program]

theorem numbered_labels (ws : List Word) : (ofWords ws).labels.Numbered :=
  LabelTable.numbered_ofTargets _

theorem entry_eq (found : (ofWords ws).entries[i]? = some e) :
    e = { index := i, word := e.word, instruction := decodeOrUnknown e.word
          target? := (ofWords ws).labels.target? (decodeOrUnknown e.word) i ws.length } := by
  rw [getElem?_entries] at found
  obtain ⟨w, -, rfl⟩ := Option.map_eq_some_iff.1 found
  rfl

theorem index_eq (found : (ofWords ws).entries[i]? = some e) : e.index = i :=
  congrArg Entry.index (entry_eq found)

theorem instruction_eq (found : (ofWords ws).entries[i]? = some e) :
    e.instruction = decodeOrUnknown e.word :=
  congrArg Entry.instruction (entry_eq found)

theorem isSome_target? (found : (ofWords ws).entries[i]? = some e)
    (jumps : e.instruction.offset?.isSome = true) : e.target?.isSome = true := by
  have same := entry_eq found
  rw [same] at jumps ⊢
  simpa [LabelTable.target?] using jumps

theorem isSome_get?_labels {target : Nat} (found : (ofWords ws).entries[i]? = some e)
    (leads : e.instruction.targetIndex? i ws.length = some target) :
    ((ofWords ws).labels.get? target).isSome = true := by
  rw [getElem?_entries] at found
  obtain ⟨w, word, rfl⟩ := Option.map_eq_some_iff.1 found
  have member : (w, i) ∈ (throughExit ws).zipIdx := by
    rw [List.mem_zipIdx_iff_getElem?]
    exact word
  exact (LabelTable.isSome_get?_ofTargets _ _).2 (List.mem_filterMap.2 ⟨(w, i), member, leads⟩)

theorem target?_cases (found : (ofWords ws).entries[i]? = some e) {offset : Int16}
    (jumps : e.instruction.offset? = some offset) :
    (∃ (target : Nat) (label : Label), (target : Int) = i + offset.toInt ∧ target < ws.length ∧
      e.target? = some (.label label) ∧ (ofWords ws).labels.get? target = some label) ∨
    ((i + offset.toInt < 0 ∨ ws.length ≤ i + offset.toInt) ∧ e.target? = some (.offset offset)) := by
  have same := entry_eq found
  cases leads : e.instruction.targetIndex? i ws.length with
  | some target =>
    obtain ⟨_, jumps', leads_to, inside⟩ := Instruction.targetIndex?_eq_some_iff.1 leads
    cases Option.some.inj (jumps.symm.trans jumps')
    obtain ⟨label, labelled⟩ := Option.isSome_iff_exists.1 (isSome_get?_labels found leads)
    refine .inl ⟨target, label, leads_to, inside, ?_, labelled⟩
    rw [same] at jumps leads ⊢
    simp [LabelTable.target?, jumps, leads, labelled]
  | none =>
    refine .inr ⟨?_, ?_⟩
    · have outside := fun target => Option.eq_none_iff_forall_ne_some.1 leads target
      simp only [ne_eq, Instruction.targetIndex?_eq_some_iff, jumps, Option.some.injEq,
        exists_eq_left'] at outside
      have nowhere := outside (i + offset.toInt).toNat
      omega
    · rw [same] at jumps leads ⊢
      simp [LabelTable.target?, jumps, leads]

variable {l : Listing} {label : Label}

def linesBefore (l : Listing) (index : Nat) : List String :=
  (l.entries.take index).flatMap fun e => l.labelLinesAt e.index ++ [e.text]

theorem linesBefore_succ (found : l.entries[i]? = some e) :
    l.linesBefore (i + 1) = l.linesBefore i ++ (l.labelLinesAt e.index ++ [e.text]) := by
  rw [linesBefore, List.take_add_one, found, List.flatMap_append]
  simp [linesBefore]

theorem lines_eq_append (l : Listing) (index : Nat) :
    l.lines = l.linesBefore index ++
      ((l.entries.drop index).flatMap (fun e => l.labelLinesAt e.index ++ [e.text]) ++
        l.trailingLines) := by
  rw [lines, linesBefore, ← List.append_assoc, ← List.flatMap_append, List.take_append_drop]

theorem lines_eq_of_label (found : l.entries[i]? = some e) (at_index : e.index = i)
    (labelled : l.labels.get? i = some label) :
    ∃ rest, l.lines = l.linesBefore i ++ labelLine label :: e.text :: rest := by
  have shown : l.labelLinesAt e.index = [labelLine label] := by
    rw [at_index, labelLinesAt, labelled]
    rfl
  have split := l.lines_eq_append (i + 1)
  rw [linesBefore_succ found, shown, List.append_assoc] at split
  exact ⟨_, split⟩

theorem mem_trailingLines (labelled : l.labels.get? i = some label) (behind : l.entries.length ≤ i) :
    labelLine label ∈ l.trailingLines := by
  refine List.mem_map.2 ⟨(i, label), List.mem_filter.2 ⟨?_, by simpa using behind⟩, rfl⟩
  exact Std.TreeMap.mem_toList_iff_getElem?_eq_some.2 labelled

end Listing

end Z16
