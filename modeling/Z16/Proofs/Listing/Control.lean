import Z16.Proofs.Listing.Entries
import Z16.Proofs.Listing.Operands
import Z16.Proofs.Machine.Range

namespace Z16

def Instruction.taken (i : Instruction) (registers : Registers) : Bool :=
  match i with
  | .branch condition rs1 rs2 _ => condition.holds (registers.read rs1) (registers.read rs2)
  | _ => true

namespace Machine

variable {H : Type} [Host H] {m : Machine H}

theorem advance_pc {i : Instruction} {offset : Int16} (jumps : i.offset? = some offset) (index : Nat) :
    (m.advance index i).pc =
      (m.goTo (if i.taken m.registers then index + offset.toInt else (index + 1 : Nat))).pc := by
  cases i <;> simp only [Instruction.offset?, Option.some.injEq, reduceCtorEq] at jumps <;>
    subst jumps <;> rfl

end Machine

namespace Listing

variable {ws : List Word} {t : Nat} {label : Label}

theorem label_stands (labelled : (ofWords ws).labels.get? t = some label) {pc : Nat}
    (at_target : pc = min t (ofWords ws).program.length) :
    (∀ e, (ofWords ws).entries[pc]? = some e →
      ∃ rest, (ofWords ws).lines = (ofWords ws).linesBefore pc ++ labelLine label :: e.text :: rest) ∧
    (pc = (ofWords ws).program.length → labelLine label ∈ (ofWords ws).trailingLines) := by
  rw [length_program] at at_target ⊢
  constructor
  · intro e found
    have inside := (List.getElem?_eq_some_iff.1 found).1
    have same : t = pc := by omega
    exact lines_eq_of_label found (index_eq found) (same ▸ labelled)
  · intro at_end
    exact mem_trailingLines labelled (by omega)

end Listing

/-- A machine and the listing of its program agree where a branch or jump leads. -/
theorem execute_leads_to_shown_target {H : Type} [Host H] {ws : List Word} {i : Nat} {e : Entry}
    (found : (Listing.ofWords ws).entries[i]? = some e) (jumps : e.instruction.offset?.isSome = true)
    (m : Machine H) (program : m.program = (Listing.ofWords ws).program.toArray) :
    let l := Listing.ofWords ws
    ∃ next target, m.execute i = .ok next ∧ e.target? = some target ∧ .target target ∈ e.operands ∧
      (e.instruction.taken m.registers = false → next.pc = i + 1) ∧
      (e.instruction.taken m.registers = true →
        match target with
        | .label label =>
          ∃ t, (∀ t', l.labels.get? t' = some label ↔ t' = t) ∧ next.pc = min t l.program.length ∧
            (∀ e', l.entries[next.pc]? = some e' →
              ∃ rest, l.lines = l.linesBefore next.pc ++ Listing.labelLine label :: e'.text :: rest) ∧
            (next.pc = l.program.length → Listing.labelLine label ∈ l.trailingLines)
        | .offset _ => next.pc = l.program.length) := by
  intro l
  obtain ⟨offset, jumps⟩ := Option.isSome_iff_exists.1 jumps
  have size : m.program.size = l.program.length := by rw [program, List.size_toArray]
  have length : l.program.length = l.entries.length := l.length_program
  have fewer : l.entries.length ≤ ws.length := Listing.length_entries_le ws
  have inside : i < l.entries.length := (List.getElem?_eq_some_iff.1 found).1
  have executed : m.execute i = .ok (m.advance i e.instruction) := by
    have here : m.program[i]? = some e.instruction := by
      rw [program, List.getElem?_toArray, Listing.getElem?_program, found, Option.map_some]
    rw [Machine.execute, here]
  have pc := Machine.advance_pc (m := m) jumps i
  have falls_through : e.instruction.taken m.registers = false →
      (m.advance i e.instruction).pc = i + 1 := by
    intro untaken
    have following : i + 1 ≤ m.program.size := by omega
    rw [pc, untaken]
    exact Machine.goTo_inside following
  -- The disassembler compares the target with the number of words, the machine with its program.
  rcases Listing.target?_cases found jumps with
    ⟨t, label, target, -, labels, labelled⟩ | ⟨outside, raw⟩
  · have leads : e.instruction.taken m.registers = true →
        (m.advance i e.instruction).pc = min t l.program.length := by
      intro taken
      rw [pc, taken, if_pos rfl, ← target]
      by_cases within : t ≤ m.program.size
      · rw [Machine.goTo_inside within]
        omega
      · rw [Machine.goTo_outside (by omega)]
        omega
    refine ⟨_, _, executed, labels, Entry.target_mem_operands labels (by simp [jumps]),
      falls_through, ?_⟩
    intro taken
    refine ⟨t, ?_, leads taken, Listing.label_stands labelled (leads taken)⟩
    intro t'
    exact ⟨fun other => (Listing.numbered_labels ws).unique other labelled, fun same => same ▸ labelled⟩
  · refine ⟨_, _, executed, raw, Entry.target_mem_operands raw (by simp [jumps]), falls_through, ?_⟩
    intro taken
    show _ = l.program.length
    rw [pc, taken, if_pos rfl, Machine.goTo_outside (by omega), size]

/-- A branch over the exit, to a word that is not part of the program. -/
def overExit : List Word := [0x2052, 0x0287, 0x0000]

theorem execute_leads_to_shown_target_overExit :
    let l := Listing.ofWords overExit
    let e : Entry := ⟨0, 0x2052, .branch .zero 1 0 2, some (.label ⟨0⟩)⟩
    let m : Machine Silent := .start l.program.toArray { image := .empty } {}
    l.entries[0]? = some e ∧ e.instruction.offset?.isSome = true ∧ m.program = l.program.toArray ∧
      ∃ next, m.execute 0 = .ok next ∧ next.pc = 2 ∧ "label_0:" ∈ l.trailingLines := by
  intro l e m
  have found : l.entries[0]? = some e := by decide +kernel
  have length : l.program.length = 2 := by decide +kernel
  have taken : e.instruction.taken m.registers = true := by decide +kernel
  obtain ⟨next, target, executed, shown, -, -, leads⟩ :=
    execute_leads_to_shown_target found rfl m rfl
  obtain rfl : Target.label ⟨0⟩ = target := Option.some.inj shown
  obtain ⟨t, only, pc, -, trailing⟩ := leads taken
  have at_two : t = 2 := ((only 2).1 (by decide +kernel)).symm
  have at_end : next.pc = l.program.length := by rw [pc, at_two, length]; rfl
  exact ⟨found, rfl, rfl, next, executed, at_end.trans length, trailing at_end⟩

end Z16
