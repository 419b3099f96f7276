import Z16.Proofs.Listing.Program

/-!
# How a pass numbers its labels

A listing can be made in one pass over the words, where every branch or jump asks for its label as it is met
(`Listing.pass_eq_ofWords`). So the labels number the distinct targets in the order in which the program
first leads to them, and what an entry shows is settled once it is met (`Listing.label_resolution`).
-/

namespace Z16

namespace LabelTable

def meet (t : LabelTable) (i : Instruction) (index count : Nat) :
    Option Target × LabelTable :=
  match i.offset?, i.targetIndex? index count with
  | none, _ => (none, t)
  | some offset, none => (some (.offset offset), t)
  | some _, some target =>
    let (label, t) := t.resolve target
    (some (.label label), t)

theorem meet_snd (t : LabelTable) (i : Instruction) (index count : Nat) :
    (t.meet i index count).2 = t.resolveAll (i.targetIndex? index count).toList := by
  unfold meet
  cases offset : i.offset? with
  | none => simp [Instruction.targetIndex?, offset, resolveAll]
  | some offset => cases i.targetIndex? index count <;> rfl

theorem meet_fst (t : LabelTable) (i : Instruction) (index count : Nat) (later : List Nat) :
    (t.meet i index count).1 =
      (t.resolveAll ((i.targetIndex? index count).toList ++ later)).target? i index count := by
  unfold meet target?
  cases offset : i.offset? with
  | none => rfl
  | some offset =>
    cases leads : i.targetIndex? index count with
    | none => rfl
    | some target =>
      have labelled : ((t.resolve target).2.resolveAll later).get? target =
          some (t.resolve target).1 :=
        get?_resolveAll_of_some (by rw [get?_resolve, if_pos rfl]) later
      simp [resolveAll_cons, labelled]

end LabelTable

namespace Listing

def passFrom (count index : Nat) (t : LabelTable) : List Word → Listing
  | [] => { entries := [], labels := t }
  | w :: ws =>
    let i := decodeOrUnknown w
    let (target?, t) := t.meet i index count
    let e : Entry := { index, word := w, instruction := i, target? }
    if isExitWord w then
      { entries := [e], labels := t }
    else
      let rest := passFrom count (index + 1) t ws
      { rest with entries := e :: rest.entries }

def pass (ws : List Word) : Listing := passFrom ws.length 0 {} ws

def targetsIn (count : Nat) (words : List (Word × Nat)) : List Nat :=
  words.filterMap fun (w, index) => (decodeOrUnknown w).targetIndex? index count

theorem targetsIn_nil (count : Nat) : targetsIn count [] = [] := rfl

theorem targetsIn_cons (count : Nat) (w : Word) (index : Nat) (words : List (Word × Nat)) :
    targetsIn count ((w, index) :: words) =
      ((decodeOrUnknown w).targetIndex? index count).toList ++ targetsIn count words := by
  cases leads : (decodeOrUnknown w).targetIndex? index count <;> simp [targetsIn, leads]

theorem passFrom_eq (count index : Nat) (t : LabelTable) (ws : List Word) :
    let words := (throughExit ws).zipIdx index
    let labels := t.resolveAll (targetsIn count words)
    passFrom count index t ws =
      { entries := words.map fun (w, index) =>
          let i := decodeOrUnknown w
          { index, word := w, instruction := i, target? := labels.target? i index count }
        labels } := by
  -- The table grows from word to word; what later words add to it changes no label of an earlier one.
  induction ws generalizing index t with
  | nil => rfl
  | cons w ws ih =>
    rw [passFrom, throughExit]
    split
    next exit =>
      have settled := LabelTable.meet_fst t (decodeOrUnknown w) index count []
      simp only [List.zipIdx_singleton, List.map_cons, List.map_nil, targetsIn_cons, targetsIn_nil,
        List.append_nil, LabelTable.meet_snd, settled]
    next goes_on =>
      have settled := LabelTable.meet_fst t (decodeOrUnknown w) index count
        (targetsIn count ((throughExit ws).zipIdx (index + 1)))
      simp only [ih, List.zipIdx_cons, List.map_cons, targetsIn_cons, LabelTable.meet_snd, settled,
        LabelTable.resolveAll_append]

theorem pass_eq_ofWords (ws : List Word) : pass ws = ofWords ws :=
  passFrom_eq ws.length 0 {} ws

def leads (program : List Instruction) : List Int :=
  program.zipIdx.filterMap fun (i, index) => i.offset?.map fun offset => index + offset.toInt

def targets (ws : List Word) : List Nat :=
  ((leads ((throughExit ws).map decodeOrUnknown)).filterMap Int.toNat?).filter (· < ws.length)

theorem targetsIn_eq_targets (ws : List Word) :
    targetsIn ws.length (throughExit ws).zipIdx = targets ws := by
  have same (i : Instruction) (index : Nat) : i.targetIndex? index ws.length =
      ((i.offset?.map fun offset => (index + offset.toInt : Int)).bind Int.toNat?).filter
        (· < ws.length) := by
    ext target
    simp [Instruction.targetIndex?_eq_some_iff, Option.filter_eq_some_iff, Option.bind_eq_some_iff,
      Int.mem_toNat?, eq_comm (a := (target : Int)), ← and_assoc]
  simp [targetsIn, targets, leads, List.zipIdx_map, List.filterMap_map, List.filterMap_filterMap,
    List.filter_filterMap, same]

theorem orders_labels (ws : List Word) : (ofWords ws).labels.Orders (targets ws).eraseDups := by
  rw [← targetsIn_eq_targets]
  exact LabelTable.orders_ofTargets _

/-- A pass numbers the distinct targets in the order in which they first occur, and each entry shows the
label of its own target, or its offset if the target is not among the words. -/
theorem label_resolution (ws : List Word) :
    let l := ofWords ws
    pass ws = l ∧ l.program = (throughExit ws).map decodeOrUnknown ∧
      l.labels.size = (targets ws).eraseDups.length ∧
      (∀ (target n : Nat), l.labels.get? target = some ⟨n⟩ ↔ (targets ws).eraseDups[n]? = some target) ∧
      ∀ (i : Nat) (e : Entry), l.entries[i]? = some e →
        (e.instruction.offset? = none → e.target? = none) ∧
        ∀ offset, e.instruction.offset? = some offset →
          (∀ target : Nat, target = i + offset.toInt → target < ws.length →
            ∃ label, l.labels.get? target = some label ∧ e.target? = some (.label label)) ∧
          (i + offset.toInt < 0 ∨ ws.length ≤ i + offset.toInt → e.target? = some (.offset offset)) := by
  intro l
  refine ⟨pass_eq_ofWords ws, program_ofWords ws, (orders_labels ws).size,
    fun _ _ => (orders_labels ws).get?_iff, ?_⟩
  intro i e found
  constructor
  · intro stays
    rw [entry_eq found] at stays ⊢
    simp [LabelTable.target?, stays]
  · intro offset jumps
    rcases target?_cases found jumps with
      ⟨target, label, leads, inside, shown, labelled⟩ | ⟨outside, shown⟩
    · constructor
      · intro target' leads' _
        obtain rfl : target' = target := by omega
        exact ⟨label, labelled, shown⟩
      · intro outside
        omega
    · constructor
      · intro target leads inside
        omega
      · intro _
        exact shown

/-- A program that leads forwards, backwards, behind its exit, forwards again, below zero and behind its
words. -/
def crossing : List Word := [0x4052, 0xF052, 0x0035, 0x1092, 0x7E1D, 0x0025, 0x0287, 0x0005, 0x0000]

theorem label_resolution_crossing :
    let l := ofWords crossing
    targets crossing = [4, 0, 8, 4] ∧ l.labels.size = 3 ∧
      l.labels.get? 4 = some ⟨0⟩ ∧ l.labels.get? 0 = some ⟨1⟩ ∧ l.labels.get? 8 = some ⟨2⟩ ∧
      (∃ e, l.entries[3]? = some e ∧ e.target? = some (.label ⟨0⟩)) ∧
      (∃ e, l.entries[4]? = some e ∧ e.target? = some (.offset (-5))) ∧
      (∃ e, l.entries[6]? = some e ∧ e.target? = none) := by
  intro l
  have in_order : targets crossing = [4, 0, 8, 4] := by decide +kernel
  obtain ⟨-, program, size, labels, shown⟩ := label_resolution crossing
  simp only [in_order] at size labels
  have entry (i : Nat) (instruction : Instruction) (here : l.program[i]? = some instruction) :
      ∃ e, l.entries[i]? = some e ∧ e.instruction = instruction :=
    Option.map_eq_some_iff.1 ((getElem?_program l i).symm.trans here)
  refine ⟨in_order, size, (labels 4 0).2 rfl, (labels 0 1).2 rfl, (labels 8 2).2 rfl, ?_, ?_, ?_⟩
  · obtain ⟨e, found, branch⟩ := entry 3 (.branch .zero 2 0 1) (by rw [program]; decide +kernel)
    obtain ⟨label, labelled, target⟩ :=
      ((shown 3 e found).2 1 (by rw [branch]; rfl)).1 4 (by decide) (by decide)
    have first : label = ⟨0⟩ := Option.some.inj (labelled.symm.trans ((labels 4 0).2 rfl))
    exact ⟨e, found, first ▸ target⟩
  · obtain ⟨e, found, jump⟩ := entry 4 (.j (-5)) (by rw [program]; decide +kernel)
    exact ⟨e, found, ((shown 4 e found).2 (-5) (by rw [jump]; rfl)).2 (.inl (by decide))⟩
  · obtain ⟨e, found, exit⟩ := entry 6 (.ecall 10) (by rw [program]; decide +kernel)
    exact ⟨e, found, (shown 6 e found).1 (by rw [exit]; rfl)⟩

end Listing

end Z16
