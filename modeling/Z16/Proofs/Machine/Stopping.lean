import Z16.Proofs.Listing.Program
import Z16.Proofs.Machine.Commands

namespace Z16

/-- Whether the command leaves it to the program where to go on. -/
def Command.followsProgram : Command → Bool
  | .execute _ | .seek _ => false
  | _ => true

namespace Machine

variable {H : Type} {m : Machine H}

def HaltsAtExit (m : Machine H) : Prop :=
  m.halted = true → m.program[m.pc]? = some (.ecall Instruction.exitCode)

variable [Host H]

theorem advance_exit_pc {index : Nat} (inside : index ≤ m.program.size) :
    (m.advance index (.ecall Instruction.exitCode)).pc = index := by
  have same : (m.call Instruction.exitCode).program = m.program :=
    (m.effect_keeps index (.ecall Instruction.exitCode)).1
  show ((m.call Instruction.exitCode).goTo _).pc = index
  rw [if_pos rfl, goTo_inside (same ▸ inside)]

namespace HaltsAtExit

theorem step (h : m.HaltsAtExit) : m.step.2.HaltsAtExit := by
  rcases m.fetches_or_finished with ⟨i, fetches⟩ | finished
  · rw [step_of_fetches fetches]
    obtain ⟨running, found⟩ := fetches
    intro halted
    rcases (m.halted_advance m.pc i).1 halted with before | rfl
    · rw [running] at before
      cases before
    · have inside := (Array.getElem?_eq_some_iff.1 found).1
      rw [advance_program, advance_exit_pc (Nat.le_of_lt inside), found]
  · rwa [step_of_finished finished]

theorem perform (h : m.HaltsAtExit) {c : Command} (follows : c.followsProgram = true) :
    (m.perform c).2.HaltsAtExit := by
  cases c with
  | step => exact h.step
  | run limit => exact run_keeps HaltsAtExit step h limit
  | reset => exact fun halted => absurd halted Bool.false_ne_true
  | pause | resume | toggle | write => exact h
  | execute | seek => cases follows

end HaltsAtExit

/-- A machine that follows a loaded program stops at the last instruction, a call that ends the program, or
behind it. -/
theorem loaded_program_stops (image : Image) (host : H) {cs : List Command}
    (follows : ∀ c ∈ cs, c.followsProgram = true) :
    let m := (ofImage image host).performAll cs
    (∀ i, i + 1 < m.program.size → m.program[i]? ≠ some (.ecall Instruction.exitCode)) ∧
      (m.halted = true → m.pc + 1 = m.program.size ∧
        m.program[m.pc]? = some (.ecall Instruction.exitCode)) ∧
      (m.step.1 = false ↔ m.halted = true ∨ m.pc = m.program.size) := by
  intro m
  have program : m.program = (Listing.ofWords image.programWords).program.toArray :=
    performAll_program _ cs
  have last {i : Nat} (exit : m.program[i]? = some (.ecall Instruction.exitCode)) :
      i + 1 = m.program.size := by
    rw [program, List.getElem?_toArray] at exit
    rw [program, List.size_toArray]
    exact Listing.last_of_exit exit
  have stands : m.HaltsAtExit := by
    have fresh : (ofImage image host).HaltsAtExit := fun halted => absurd halted Bool.false_ne_true
    exact List.foldlRecOn cs _ fresh fun _ kept c mem => kept.perform (follows c mem)
  have inRange : m.InRange := (start_inRange _ _ host).performAll cs
  refine ⟨?_, fun halted => ⟨last (stands halted), stands halted⟩, ?_⟩
  · intro i before exit
    have := last exit
    omega
  · rw [← inRange.finished_iff, ← Bool.not_eq_true, step_ran_iff, Decidable.not_not]

/-- An image of a program that counts down from 2 and exits. -/
def countdown : Image :=
  ⟨Array.replicate 32 0 ++ (bytesOfWords [0x0479, 0xFE41, 0xF05A, 0x0287, 0xFFFF]).toArray, by decide⟩

theorem loaded_program_stops_countdown :
    let cs := [.resume, .step, .run 100, .write 3 7, .toggle]
    let m := (ofImage countdown Silent.mk).performAll cs
    (∀ c ∈ cs, c.followsProgram = true) ∧ m.halted = true ∧ m.pc + 1 = m.program.size ∧
      m.program[m.pc]? = some (.ecall Instruction.exitCode) := by
  intro cs m
  have follows : ∀ c ∈ cs, c.followsProgram = true := by decide
  have halted : m.halted = true := by decide +kernel
  exact ⟨follows, halted, (loaded_program_stops countdown Silent.mk follows).2.1 halted⟩

end Machine

end Z16
