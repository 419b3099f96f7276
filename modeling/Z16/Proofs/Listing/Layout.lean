import Mathlib.Data.List.Sort
import Z16.Proofs.Listing.Determined
import Z16.Proofs.Listing.Numbering

/-!
# The layout of a listing

The lines of a listing are the texts of its instructions and the lines of its labels. Without the labels the texts
are left, by index (`Listing.filter_texts`), and without the texts the labels, by target and each once
(`Listing.filter_labels`). `Listing.lines_layout` adds where the line of each label stands.
-/

namespace Z16

namespace LabelTable

variable {t : LabelTable}

theorem eq_of_sorted {xs ys : List (Nat × Label)} (sorted : xs.Pairwise fun p q => p.1 < q.1)
    (sorted' : ys.Pairwise fun p q => p.1 < q.1)
    (same : ∀ target label, (target, label) ∈ xs ↔ (target, label) ∈ ys) : xs = ys := by
  have : Std.Irrefl fun p q : Nat × Label => p.1 < q.1 := ⟨fun p => Nat.lt_irrefl p.1⟩
  have : Std.Antisymm fun p q : Nat × Label => p.1 < q.1 :=
    ⟨fun p q lt lt' => absurd lt' (Nat.lt_asymm lt)⟩
  exact sorted.eq_of_mem_iff sorted' fun p => same p.1 p.2

def below (t : LabelTable) (bound : Nat) : List (Nat × Label) :=
  (List.range bound).filterMap fun target => (t.get? target).map (target, ·)

theorem mem_below {bound target : Nat} {label : Label} :
    (target, label) ∈ t.below bound ↔ target < bound ∧ t.get? target = some label := by
  simp [below]

theorem sorted_below (t : LabelTable) (bound : Nat) : (t.below bound).Pairwise fun p q => p.1 < q.1 := by
  refine List.pairwise_filterMap.2 (List.pairwise_lt_range.imp fun lt p found q found' => ?_)
  obtain ⟨_, -, rfl⟩ := Option.map_eq_some_iff.1 found
  obtain ⟨_, -, rfl⟩ := Option.map_eq_some_iff.1 found'
  exact lt

theorem toList_eq_append (t : LabelTable) (bound : Nat) :
    t.toList = t.below bound ++ t.toList.filter fun (target, _) => bound ≤ target := by
  refine eq_of_sorted t.sorted_toList ?_ fun target label => ?_
  · refine List.pairwise_append.2 ⟨t.sorted_below bound, t.sorted_toList.filter _, ?_⟩
    rintro ⟨target, label⟩ inside ⟨target', label'⟩ outside
    have lt := (mem_below.1 inside).1
    have le : bound ≤ target' := by simpa using (List.mem_filter.1 outside).2
    exact Nat.lt_of_lt_of_le lt le
  · rw [List.mem_append, mem_below, List.mem_filter, mem_toList, decide_eq_true_iff]
    have := Nat.lt_or_ge target bound
    tauto

end LabelTable

namespace Listing

variable {l : Listing} {ws : List Word} {label : Label}

def labelLines (l : Listing) : List String := l.labels.toList.map fun (_, label) => labelLine label

def linesOf (l : Listing) (es : List Entry) : List String :=
  es.flatMap fun e => l.labelLinesAt e.index ++ [e.text]

theorem labelLine_mem_labelLines {target : Nat} (labelled : l.labels.get? target = some label) :
    labelLine label ∈ l.labelLines :=
  List.mem_map.2 ⟨(target, label), LabelTable.mem_toList.2 labelled, rfl⟩

theorem text_notMem_labelLines (l : Listing) (e : Entry) : e.text ∉ l.labelLines := by
  intro mem
  obtain ⟨⟨target, label⟩, -, same⟩ := List.mem_map.1 mem
  have shape : isLabelLine e.text = true := same ▸ isLabelLine_labelLine label
  rw [isLabelLine_text] at shape
  cases shape

theorem labelLinesAt_subset (l : Listing) (index : Nat) :
    ∀ line ∈ l.labelLinesAt index, line ∈ l.labelLines := by
  simp only [labelLinesAt, Option.mem_toList, Option.map_eq_some_iff]
  rintro _ ⟨label, labelled, rfl⟩
  exact labelLine_mem_labelLines labelled

theorem trailingLines_subset (l : Listing) : ∀ line ∈ l.trailingLines, line ∈ l.labelLines :=
  List.map_subset _ (List.filter_subset_self _)

theorem filter_texts_linesOf (l : Listing) (es : List Entry) :
    (l.linesOf es).filter (· ∉ l.labelLines) = es.map Entry.text := by
  have text (e : Entry) : (l.labelLinesAt e.index ++ [e.text]).filter (· ∉ l.labelLines) = [e.text] := by
    rw [List.filter_append, List.filter_eq_nil_iff.2 (by simpa using l.labelLinesAt_subset e.index)]
    simp [text_notMem_labelLines]
  rw [linesOf, List.filter_flatMap, List.flatMap_congr fun e _ => text e, List.map_eq_flatMap]

theorem filter_labels_linesOf (l : Listing) (es : List Entry) :
    (l.linesOf es).filter (· ∈ l.labelLines) = (es.map Entry.index).flatMap l.labelLinesAt := by
  have labels (e : Entry) : (l.labelLinesAt e.index ++ [e.text]).filter (· ∈ l.labelLines) =
      l.labelLinesAt e.index := by
    rw [List.filter_append, List.filter_eq_self.2 (by simpa using l.labelLinesAt_subset e.index)]
    simp [text_notMem_labelLines]
  rw [linesOf, List.filter_flatMap, List.flatMap_congr fun e _ => labels e, List.flatMap_map]

theorem lines_eq_linesOf (l : Listing) : l.lines = l.linesOf l.entries ++ l.trailingLines := rfl

theorem filter_texts (l : Listing) : l.lines.filter (· ∉ l.labelLines) = l.entries.map Entry.text := by
  rw [lines_eq_linesOf, List.filter_append, filter_texts_linesOf,
    List.filter_eq_nil_iff.2 (by simpa using l.trailingLines_subset), List.append_nil]

theorem indices (ws : List Word) :
    (ofWords ws).entries.map Entry.index = List.range (ofWords ws).entries.length := by
  simp [ofWords, Function.comp_def, List.range_eq_range']

theorem labelLines_eq_append (l : Listing) :
    l.labelLines = (List.range l.entries.length).flatMap l.labelLinesAt ++ l.trailingLines := by
  rw [labelLines, LabelTable.toList_eq_append _ l.entries.length, List.map_append, LabelTable.below,
    List.map_filterMap, List.filterMap_eq_flatMap_toList]
  simp only [Option.map_map]
  rfl

theorem filter_labels (ws : List Word) :
    (ofWords ws).lines.filter (· ∈ (ofWords ws).labelLines) = (ofWords ws).labelLines := by
  rw [lines_eq_linesOf, List.filter_append, filter_labels_linesOf, indices,
    List.filter_eq_self.2 (by simpa using trailingLines_subset _), ← labelLines_eq_append]

theorem length_labelLines (l : Listing) : l.labelLines.length = l.labels.size := by
  rw [labelLines, List.length_map]
  exact Std.TreeMap.length_toList

theorem length_lines (ws : List Word) :
    (ofWords ws).lines.length = (ofWords ws).entries.length + (ofWords ws).labels.size := by
  have split := List.length_eq_length_filter_add (l := (ofWords ws).lines) (· ∈ (ofWords ws).labelLines)
  have texts := filter_texts (ofWords ws)
  simp only [decide_not] at texts
  rw [split, filter_labels, texts, length_labelLines, List.length_map, Nat.add_comm]

theorem nodup_labelLines (ws : List Word) : (ofWords ws).labelLines.Nodup := by
  refine List.pairwise_map.2 ((LabelTable.sorted_toList _).imp_of_mem ?_)
  rintro ⟨target, label⟩ ⟨target', label'⟩ mem mem' lt same
  obtain rfl := labelLine_inj.1 same
  have equal := (numbered_labels ws).unique (LabelTable.mem_toList.1 mem) (LabelTable.mem_toList.1 mem')
  exact absurd equal (Nat.ne_of_lt lt)

theorem count_labelLine {target : Nat} (labelled : (ofWords ws).labels.get? target = some label) :
    (ofWords ws).lines.count (labelLine label) = 1 := by
  have mem := labelLine_mem_labelLines labelled
  rw [← List.count_filter (p := (· ∈ (ofWords ws).labelLines)) (by simpa using mem), filter_labels]
  exact List.count_eq_one_of_mem (nodup_labelLines ws) mem

theorem label_of_mem_operands {i : Nat} {e : Entry} (found : (ofWords ws).entries[i]? = some e)
    (named : .target (.label label) ∈ e.operands) :
    ∃ target, (ofWords ws).labels.get? target = some label := by
  have shown : e.target? = some (.label label) := by
    have given := Entry.target_of_mem_operands named
    cases target : e.target? with
    | some t => rw [given, target, Option.getD_some]
    | none =>
      rw [target] at given
      cases given
  rw [entry_eq found] at shown
  obtain ⟨offset, -, shown⟩ := Option.map_eq_some_iff.1 shown
  split at shown
  next found =>
    obtain ⟨target, -, labelled⟩ := Option.bind_eq_some_iff.1 found
    exact ⟨target, Target.label.inj shown ▸ labelled⟩
  next => cases shown

/-- The lines of a listing are the texts of its instructions, and for each label one line. It stands right before
the text at its target, or behind all texts if its target is not part of the program. -/
theorem lines_layout (ws : List Word) :
    let l := ofWords ws
    l.lines.length = l.entries.length + l.labels.size ∧
      l.lines.filter (· ∉ l.labelLines) = l.entries.map Entry.text ∧
      l.entries.map Entry.index = List.range l.entries.length ∧
      (∀ target label, l.labels.get? target = some label →
        l.lines.count (labelLine label) = 1 ∧
          ∀ e, l.entries[target]? = some e → ∃ before after,
            l.lines = before ++ labelLine label :: e.text :: after ∧
              before.filter (· ∉ l.labelLines) = (l.entries.take target).map Entry.text) ∧
      (∃ (body : List String) (trailing : List (Nat × Label)),
        l.lines = body ++ trailing.map (fun (_, label) => labelLine label) ∧
          body.filter (· ∉ l.labelLines) = l.entries.map Entry.text ∧
          trailing.Pairwise (fun p q => p.1 < q.1) ∧
          ∀ target label, (target, label) ∈ trailing ↔
            l.labels.get? target = some label ∧ l.entries.length ≤ target) ∧
      ∀ e ∈ l.entries, ∀ label, .target (.label label) ∈ e.operands →
        ∃ target, l.labels.get? target = some label ∧ labelLine label ∈ l.lines := by
  intro l
  refine ⟨length_lines ws, l.filter_texts, indices ws, ?_, ?_, ?_⟩
  · intro target label labelled
    refine ⟨count_labelLine labelled, fun e found => ?_⟩
    obtain ⟨after, split⟩ := lines_eq_of_label found (index_eq found) labelled
    exact ⟨l.linesBefore target, after, split, l.filter_texts_linesOf _⟩
  · refine ⟨l.linesOf l.entries, l.labels.toList.filter fun (target, _) => l.entries.length ≤ target,
      rfl, l.filter_texts_linesOf _, l.labels.sorted_toList.filter _, fun target label => ?_⟩
    rw [List.mem_filter, LabelTable.mem_toList, decide_eq_true_iff]
  · intro e mem label named
    obtain ⟨i, found⟩ := List.mem_iff_getElem?.1 mem
    obtain ⟨target, labelled⟩ := label_of_mem_operands found named
    have once : l.lines.count (labelLine label) = 1 := count_labelLine labelled
    exact ⟨target, labelled, List.one_le_count_iff.1 (Nat.le_of_eq once.symm)⟩

theorem lines_layout_crossing :
    let l := ofWords crossing
    l.lines.length = 10 ∧
      (l.labels.get? 4 = some ⟨0⟩ ∧ l.lines.count "label_0:" = 1 ∧ ∃ before after,
        l.lines = before ++ "label_0:" :: "J -5" :: after ∧
          before.filter (· ∉ l.labelLines) =
            ["BZ x1, x0, label_0", "BZ x1, x0, label_1", "J label_2", "BZ x2, x0, label_0"]) ∧
      (l.labels.get? 8 = some ⟨2⟩ ∧ l.entries.length = 7 ∧
        ∃ body trailing, l.lines = body ++ trailing ∧ "label_2:" ∈ trailing) := by
  intro l
  have inside : l.labels.get? 4 = some ⟨0⟩ := by decide +kernel
  have behind : l.labels.get? 8 = some ⟨2⟩ := by decide +kernel
  have count : l.entries.length = 7 := by decide +kernel
  have texts : (l.entries.take 4).map Entry.text =
      ["BZ x1, x0, label_0", "BZ x1, x0, label_1", "J label_2", "BZ x2, x0, label_0"] := by
    decide +kernel
  have fifth : l.entries[4]?.map Entry.text = some "J -5" := by decide +kernel
  obtain ⟨e, found, jump⟩ := Option.map_eq_some_iff.1 fifth
  obtain ⟨length, -, -, labels, ⟨body, trailing, split, -, -, members⟩, -⟩ := lines_layout crossing
  obtain ⟨once, stands⟩ := labels 4 ⟨0⟩ inside
  obtain ⟨before, after, around, done⟩ := stands e found
  refine ⟨length.trans (by decide +kernel), ⟨inside, once, before, after, ?_, done.trans texts⟩,
    behind, count, body, _, split, ?_⟩
  · rw [around, jump]
    rfl
  · exact List.mem_map.2 ⟨(8, ⟨2⟩), (members 8 ⟨2⟩).2 ⟨behind, by rw [count]; decide⟩, rfl⟩

end Listing

end Z16
