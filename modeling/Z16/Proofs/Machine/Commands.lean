import Mathlib.Algebra.Group.Nat.Defs
import Z16.Proofs.Machine.Range
import Z16.Proofs.Transcript

/-!
# What commands do to a machine

No sequence of commands moves `pc` out of the program or changes the program. A command sets the halted flag
by executing the call that ends a program, and only a reset clears it (`halted_perform`): a machine is halted
exactly if such a call was executed since the last reset (`halted_performAll`). `machine_invariant` collects
these facts.
-/

namespace Z16

theorem Service.ofCode?_eq_some {code : UInt16} {s : Service} : ofCode? code = some s ↔ code = s.code := by
  constructor
  · intro known
    unfold ofCode? at known
    split at known <;> cases known <;> rfl
  · rintro rfl
    exact ofCode?_code s

theorem Service.ofCode?_eq_programExit {code : UInt16} :
    ofCode? code = some .programExit ↔ code = Instruction.exitCode :=
  ofCode?_eq_some

namespace Machine

variable {H : Type} {m : Machine H}

theorem seek_pc (m : Machine H) (delta : Int) :
    ((m.seek delta).pc : Int) = max 0 (min (m.pc + delta) m.program.size) := by
  simp only [seek]
  omega

/-- The sum of a number and a signed one, kept within the numbers of 64 bits. -/
def saturatingAdd (n : Nat) (delta : Int) : Nat := min (n + delta).toNat (2 ^ 64 - 1)

theorem seek_pc_saturating (delta : Int) (size_lt : m.program.size < 2 ^ 64) :
    (m.seek delta).pc = min (saturatingAdd m.pc delta) m.program.size := by
  simp only [seek, saturatingAdd]
  omega

def Fetches (m : Machine H) (i : Instruction) : Prop :=
  m.halted = false ∧ m.program[m.pc]? = some i

variable [Host H]

theorem step_of_fetches {i : Instruction} (fetches : m.Fetches i) :
    m.step = (true, m.advance m.pc i) := by
  obtain ⟨running, found⟩ := fetches
  simp [step, running, found]

omit [Host H] in
theorem fetches_or_finished (m : Machine H) : (∃ i, m.Fetches i) ∨ m.Finished := by
  by_cases inside : m.pc < m.program.size
  · cases running : m.halted with
    | true => exact .inr (.inl running)
    | false => exact .inl ⟨m.program[m.pc], running, Array.getElem?_eq_getElem inside⟩
  · exact .inr (.inr (Nat.le_of_not_lt inside))

omit [Host H] in
theorem Fetches.not_finished {i : Instruction} (fetches : m.Fetches i) : ¬m.Finished := by
  obtain ⟨running, found⟩ := fetches
  rintro (halted | past)
  · rw [running] at halted
    cases halted
  · rw [Array.getElem?_eq_none past] at found
    cases found

theorem execute_of_found {index : Nat} {i : Instruction} (found : m.program[index]? = some i) :
    m.execute index = .ok (m.advance index i) := by
  simp [execute, found]

theorem advance_program (m : Machine H) (index : Nat) (i : Instruction) :
    (m.advance index i).program = m.program :=
  (m.effect_keeps index i).1

theorem advance_paused (m : Machine H) (index : Nat) (i : Instruction) :
    (m.advance index i).paused = m.paused :=
  (m.effect_keeps index i).2

theorem halted_call (m : Machine H) (code : UInt16) :
    (m.call code).halted = (m.halted || code = Instruction.exitCode) := by
  unfold call
  cases found : Service.ofCode? code with
  | none =>
    have other : code ≠ Instruction.exitCode := by
      rintro rfl
      cases found
    simp [other]
  | some service => simp [← Service.ofCode?_eq_programExit, found]

theorem halted_advance (m : Machine H) (index : Nat) (i : Instruction) :
    (m.advance index i).halted = true ↔ m.halted = true ∨ i = .ecall Instruction.exitCode := by
  cases i with
  | ecall code =>
    show (m.call code).halted = true ↔ _
    simp [halted_call]
  | _ => simp [advance, effect, goTo, writeRegister]

theorem halted_step (m : Machine H) :
    m.step.2.halted = true ↔ m.halted = true ∨ m.Fetches (.ecall Instruction.exitCode) := by
  rcases m.fetches_or_finished with ⟨i, fetches⟩ | finished
  · rw [step_of_fetches fetches, halted_advance]
    have same : m.Fetches (.ecall Instruction.exitCode) ↔ i = .ecall Instruction.exitCode := by
      constructor
      · intro exits
        exact Option.some.inj (fetches.2.symm.trans exits.2)
      · rintro rfl
        exact fetches
    rw [same]
  · rw [step_of_finished finished]
    exact (or_iff_left fun fetches => fetches.not_finished finished).symm

theorem after_program (m : Machine H) (k : Nat) : (m.after k).program = m.program :=
  after_keeps (fun n => n.program = m.program) (fun same => (step_keeps _).1.trans same) rfl k

theorem halted_after (m : Machine H) (k : Nat) :
    (m.after k).halted = true ↔
      m.halted = true ∨ ∃ j < k, (m.after j).Fetches (.ecall Instruction.exitCode) := by
  induction k with
  | zero => simp [after]
  | succ k ih =>
    rw [after, halted_step, ih, or_assoc]
    simp only [Nat.lt_succ_iff_lt_or_eq, or_and_right, exists_or, exists_eq_left]

/-- Whether a command executes the instruction, possibly among others. -/
def Executes (m : Machine H) (c : Command) (i : Instruction) : Prop :=
  match c with
  | .step => m.Fetches i
  | .run limit => ∃ k < (m.run limit).1, (m.after k).Fetches i
  | .execute index => m.program[index]? = some i
  | _ => False

theorem perform_execute {index : Nat} {i : Instruction} (found : m.program[index]? = some i) :
    m.perform (.execute index) = (.done, m.advance index i) := by
  simp [perform, execute_of_found found]

theorem perform_execute_outside {index : Nat} (outside : m.program.size ≤ index) :
    m.perform (.execute index) = (.refused ⟨index, m.program.size⟩, m) := by
  simp [perform, execute, outside]

theorem perform_program (m : Machine H) (c : Command) : (m.perform c).2.program = m.program := by
  cases c with
  | step => exact m.step_keeps.1
  | run limit =>
    show (m.run limit).2.program = _
    rw [(run_spec m limit).1, after_program]
  | execute index =>
    cases found : m.program[index]? with
    | some i => rw [perform_execute found, advance_program]
    | none => rw [perform_execute_outside (Array.getElem?_eq_none_iff.1 found)]
  | _ => rfl

theorem perform_paused (m : Machine H) {c : Command}
    (other : c ∉ [Command.pause, .resume, .toggle, .reset]) : (m.perform c).2.paused = m.paused := by
  cases c with
  | step => exact m.step_keeps.2
  | run limit =>
    show (m.run limit).2.paused = _
    rw [(run_spec m limit).1, after_paused]
  | execute index =>
    cases found : m.program[index]? with
    | some i => rw [perform_execute found, advance_paused]
    | none => rw [perform_execute_outside (Array.getElem?_eq_none_iff.1 found)]
  | seek | write => rfl
  | pause | resume | toggle | reset => simp at other

theorem halted_perform (m : Machine H) (c : Command) :
    (m.perform c).2.halted = true ↔
      m.Executes c (.ecall Instruction.exitCode) ∨ m.halted = true ∧ c ≠ .reset := by
  cases c with
  | step =>
    show m.step.2.halted = true ↔ _
    simp [halted_step, Executes, or_comm]
  | run limit =>
    show (m.run limit).2.halted = true ↔ _
    rw [(run_spec m limit).1, halted_after]
    simp [Executes, or_comm]
  | execute index =>
    cases found : m.program[index]? with
    | some i => simp [perform_execute found, halted_advance, Executes, found, or_comm]
    | none =>
      simp [perform_execute_outside (Array.getElem?_eq_none_iff.1 found), Executes, found]
  | reset => simp [perform, reset, Executes]
  | seek | pause | resume | toggle | write =>
    simp [perform, seek, pause, resume, togglePause, writeRegister, Executes]

omit [Host H] in
theorem start_inRange (program : Array Instruction) (memory : Memory) (host : H) :
    (start program memory host).InRange :=
  Nat.zero_le _

theorem InRange.performAll (h : m.InRange) (cs : List Command) : (m.performAll cs).InRange :=
  List.foldlRecOn cs _ h fun _ kept c _ => kept.perform c

theorem performAll_program (m : Machine H) (cs : List Command) :
    (m.performAll cs).program = m.program := by
  induction cs generalizing m with
  | nil => rfl
  | cons c cs ih => exact (ih _).trans (perform_program m c)

theorem performAll_concat (m : Machine H) (cs : List Command) (c : Command) :
    m.performAll (cs ++ [c]) = ((m.performAll cs).perform c).2 := by
  simp [performAll]

def ExitedSinceReset (m : Machine H) (cs : List Command) : Prop :=
  ∃ before c later, cs = before ++ c :: later ∧
    (m.performAll before).Executes c (.ecall Instruction.exitCode) ∧ Command.reset ∉ later

theorem exitedSinceReset_concat (m : Machine H) (cs : List Command) (c : Command) :
    m.ExitedSinceReset (cs ++ [c]) ↔
      (m.performAll cs).Executes c (.ecall Instruction.exitCode) ∨
        m.ExitedSinceReset cs ∧ c ≠ .reset := by
  have current := Transcript.exists_current_concat
    (fun before c => (m.performAll before).Executes c (.ecall Instruction.exitCode)) (· ≠ .reset) cs c
  simp only [ne_eq, List.forall_mem_ne'] at current
  exact current

theorem halted_performAll (running : m.halted = false) (cs : List Command) :
    (m.performAll cs).halted = true ↔ m.ExitedSinceReset cs := by
  -- The last command comes first, since what follows it decides whether an exit still counts.
  induction cs using List.reverseRecOn with
  | nil =>
    have none : ¬m.ExitedSinceReset [] := by
      rintro ⟨before, exit, later, split, -⟩
      simp at split
    simp [performAll, running, none]
  | append_singleton cs c ih =>
    rw [performAll_concat, halted_perform, exitedSinceReset_concat, ih]

/-- What holds of a machine at any time: where its `pc` stands, when it is halted, and what commands leave
alone. -/
theorem machine_invariant (program : Array Instruction) (memory : Memory) (host : H)
    (cs : List Command) :
    let m := (start program memory host).performAll cs
    m.pc ≤ program.size ∧ m.program = program ∧
      (m.halted = true ↔ (start program memory host).ExitedSinceReset cs) ∧
      (∀ c, (m.perform c).2.halted = true ↔
        m.Executes c (.ecall Instruction.exitCode) ∨ m.halted = true ∧ c ≠ .reset) ∧
      (m.halted = true → m.step = (false, m) ∧ ∀ limit, m.run limit = (0, m)) ∧
      (∀ c ∉ [Command.pause, .resume, .toggle, .reset], (m.perform c).2.paused = m.paused) ∧
      (∀ delta : Int, ∃ pc : Nat, m.perform (.seek delta) = (.done, { m with pc }) ∧
        (pc : Int) = max 0 (min (m.pc + delta) program.size) ∧
        (program.size < 2 ^ 64 → pc = min (saturatingAdd m.pc delta) program.size)) ∧
      ∀ index, program.size ≤ index →
        m.perform (.execute index) = (.refused ⟨index, program.size⟩, m) := by
  intro m
  have same : m.program = program := performAll_program _ cs
  have inRange : m.InRange := (start_inRange program memory host).performAll cs
  refine ⟨same ▸ inRange, same, halted_performAll rfl cs, m.halted_perform, ?_,
    fun c => m.perform_paused, ?_, ?_⟩
  · intro halted
    exact ⟨step_of_finished (.inl halted), run_of_finished (.inl halted)⟩
  · intro delta
    refine ⟨(m.seek delta).pc, rfl, same ▸ m.seek_pc delta, fun size_lt => ?_⟩
    exact same ▸ seek_pc_saturating delta (same ▸ size_lt)
  · intro index outside
    exact same ▸ perform_execute_outside (same ▸ outside)

end Machine

end Z16
