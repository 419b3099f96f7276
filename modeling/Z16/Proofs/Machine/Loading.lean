import Z16.Machine
import Z16.Proofs.Encoding.RoundTrip
import Z16.Proofs.Image.ProgramWords
import Z16.Proofs.Listing.Program

namespace Z16

theorem program_of_assembled {p : List Instruction} {ws : List Word} (assembled : assemble p = .ok ws)
    (rejected : ∀ w, .unknown w ∈ p → ∃ e, decode w = .error e)
    (goes_on : ∀ w ∈ ws.dropLast, isExitWord w = false) : (Listing.ofWords ws).program = p := by
  rw [Listing.program_ofWords, throughExit_eq_self goes_on,
    map_decodeOrUnknown_of_assemble assembled rejected]

/-- Assembling a program and loading its words gives a machine with that program. -/
theorem machine_of_assembled {H : Type} [Host H] (host : H) {p : List Instruction} {ws : List Word}
    (short : p.length ≤ 30704) (assembled : assemble p = .ok ws)
    (rejected : ∀ w, .unknown w ∈ p → ∃ e, decode w = .error e)
    (goes_on : ∀ w ∈ ws.dropLast, isExitWord w = false) :
    (∃ m, Machine.ofWords ws host = .ok m ∧ m.program = p.toArray) ∧
    ∃ image, Image.ofBytes (Array.replicate 32 0 ++ (bytesOfWords ws).toArray) = .ok image ∧
      (Machine.ofImage image host).program = p.toArray := by
  have length : ws.length ≤ Region.programCapacity := by
    obtain ⟨-, rfl⟩ := assemble_eq_ok.1 assembled
    rwa [List.length_map]
  have fits : Region.programStart + 2 * ws.length ≤ memorySize :=
    calc Region.programStart + 2 * ws.length
      _ ≤ Region.programStart + 2 * Region.programCapacity := by omega
      _ ≤ memorySize := by decide
  obtain ⟨image, loaded, words⟩ := Image.ofProgram_eq_ok fits
  have program : (Machine.ofImage image host).program = p.toArray := by
    rw [Machine.ofImage, words, List.take_of_length_le length,
      program_of_assembled assembled rejected goes_on]
    rfl
  have made : Machine.ofWords ws host = .ok (Machine.ofImage image host) := by
    rw [Machine.ofWords, loaded]
    rfl
  exact ⟨⟨_, made, program⟩, image, loaded, program⟩

def smallProgram : List Instruction := [.immediate .li 1 (-3), .unknown 0xF000, .ecall Instruction.exitCode]

theorem machine_of_assembled_smallProgram :
    let ws := [0xFA79, 0xF000, 0x0287]
    smallProgram.length ≤ 30704 ∧ assemble smallProgram = .ok ws ∧
      (∀ w, .unknown w ∈ smallProgram → ∃ e, decode w = .error e) ∧
      (∀ w ∈ ws.dropLast, isExitWord w = false) ∧
      (∃ m, Machine.ofWords ws Silent.mk = .ok m ∧ m.program = smallProgram.toArray) ∧
      ∃ image, Image.ofBytes (Array.replicate 32 0 ++ (bytesOfWords ws).toArray) = .ok image ∧
        (Machine.ofImage image Silent.mk).program = smallProgram.toArray := by
  intro ws
  have short : smallProgram.length ≤ 30704 := by decide
  have assembled : assemble smallProgram = .ok ws := rfl
  have rejected : ∀ w, .unknown w ∈ smallProgram → ∃ e, decode w = .error e := by
    intro w mem
    obtain rfl : w = 0xF000 := by simpa [smallProgram] using mem
    exact ⟨⟨0xF000, .register⟩, rfl⟩
  have goes_on : ∀ w ∈ ws.dropLast, isExitWord w = false := by
    intro w mem
    obtain rfl | rfl : w = 0xFA79 ∨ w = 0xF000 := by simpa [ws] using mem
    · rfl
    · rfl
  exact ⟨short, assembled, rejected, goes_on,
    machine_of_assembled Silent.mk short assembled rejected goes_on⟩

end Z16
