import Z16.Machine

/-!
# Runs of a machine

`Machine.after m k` is the machine after `k` steps. A run that takes `s` steps executes an instruction
in each of them and leaves `m.after s`; it stops there because its limit is reached or because nothing
is left to run (`run_spec`). `Machine.StopsAfter` says when a run stops that may have no limit.
-/

namespace Z16.Machine

variable {H : Type}

def Finished (m : Machine H) : Prop := m.halted = true ∨ m.program.size ≤ m.pc

instance (m : Machine H) : Decidable m.Finished :=
  inferInstanceAs (Decidable (m.halted = true ∨ m.program.size ≤ m.pc))

theorem decide_finished (m : Machine H) :
    decide m.Finished = (m.halted || decide (m.program.size ≤ m.pc)) := by
  rw [Bool.eq_iff_iff, decide_eq_true_iff]
  simp [Finished]

variable [Host H]

theorem step_ran_iff (m : Machine H) : m.step.1 = true ↔ ¬m.Finished := by
  unfold step Finished
  cases m.halted with
  | true => simp
  | false =>
    by_cases inside : m.pc < m.program.size
    · simp [inside]
    · simp [Nat.le_of_not_lt inside]

theorem step_of_finished {m : Machine H} (h : m.Finished) : m.step = (false, m) := by
  have idle : m.step.1 = false := Bool.eq_false_iff.2 fun ran => (step_ran_iff m).1 ran h
  exact Prod.ext idle (step_of_not_ran idle)

theorem effect_keeps (m : Machine H) (index : Nat) (i : Instruction) :
    (m.effect index i).1.program = m.program ∧ (m.effect index i).1.paused = m.paused := by
  cases i with
  | ecall code =>
    simp only [effect, call]
    cases Service.ofCode? code with
    | none => exact ⟨rfl, rfl⟩
    | some service => exact ⟨rfl, rfl⟩
  | _ => exact ⟨rfl, rfl⟩

theorem step_keeps (m : Machine H) :
    m.step.2.program = m.program ∧ m.step.2.paused = m.paused := by
  unfold step
  cases m.halted with
  | true => exact ⟨rfl, rfl⟩
  | false =>
    cases m.program[m.pc]? with
    | none => exact ⟨rfl, rfl⟩
    | some i => exact m.effect_keeps m.pc i

def after (m : Machine H) : Nat → Machine H
  | 0 => m
  | k + 1 => (m.after k).step.2

theorem after_succ_eq (m : Machine H) (k : Nat) : m.after (k + 1) = m.step.2.after k := by
  induction k with
  | zero => rfl
  | succ k ih => rw [after, ih, after]

theorem after_keeps (holds : Machine H → Prop) (step : ∀ {m : Machine H}, holds m → holds m.step.2)
    {m : Machine H} (h : holds m) (k : Nat) : holds (m.after k) := by
  induction k with
  | zero => exact h
  | succ k ih => exact step ih

@[simp]
theorem after_paused (m : Machine H) (k : Nat) : (m.after k).paused = m.paused :=
  after_keeps (fun n => n.paused = m.paused) (fun same => (step_keeps _).2.trans same) rfl k

theorem run_spec (m : Machine H) (limit : Nat) :
    (m.run limit).2 = m.after (m.run limit).1 ∧
    (∀ k < (m.run limit).1, ¬(m.after k).Finished) ∧
    (m.run limit).1 ≤ limit ∧
    ((m.run limit).1 < limit → (m.after (m.run limit).1).Finished) := by
  -- A run is a step and then a run of the next machine, so the machine varies in the induction.
  induction limit generalizing m with
  | zero => simp [after]
  | succ limit ih =>
    rw [run_succ]
    by_cases ran : m.step.1 = true
    · obtain ⟨leaves, runs, le, stops⟩ := ih m.step.2
      simp only [ran, if_true, after_succ_eq]
      refine ⟨leaves, fun k lt => ?_, by omega, fun lt => stops (by omega)⟩
      cases k with
      | zero => exact (step_ran_iff m).1 ran
      | succ k =>
        rw [after_succ_eq]
        exact runs k (by omega)
    · have finished : m.Finished := Decidable.not_not.1 fun h => ran ((step_ran_iff m).2 h)
      simp [ran, after, finished]

theorem run_of_finished {m : Machine H} (h : m.Finished) (limit : Nat) : m.run limit = (0, m) := by
  cases limit with
  | zero => rfl
  | succ limit =>
    rw [run_succ, step_of_finished h]
    rfl

theorem run_snd_eq_after (m : Machine H) (limit : Nat) : (m.run limit).2 = m.after limit := by
  induction limit generalizing m with
  | zero => rfl
  | succ limit ih =>
    rw [run_succ, after_succ_eq, ← ih]
    by_cases ran : m.step.1 = true
    · rw [if_pos ran]
    · have finished : m.Finished := Decidable.not_not.1 fun h => ran ((step_ran_iff m).2 h)
      rw [if_neg ran, step_of_finished finished, run_of_finished finished]

theorem run_keeps (holds : Machine H → Prop) (step : ∀ {m : Machine H}, holds m → holds m.step.2)
    {m : Machine H} (h : holds m) (limit : Nat) : holds (m.run limit).2 := by
  rw [run_snd_eq_after]
  exact after_keeps holds step h limit

theorem run_add (m : Machine H) (a b : Nat) :
    m.run (a + b) = ((m.run a).1 + ((m.run a).2.run b).1, ((m.run a).2.run b).2) := by
  induction a generalizing m with
  | zero => simp
  | succ a ih =>
    rw [Nat.add_right_comm, run_succ, run_succ]
    by_cases ran : m.step.1 = true
    · rw [if_pos ran, if_pos ran, ih, Nat.add_right_comm]
    · have finished : m.Finished := Decidable.not_not.1 fun h => ran ((step_ran_iff m).2 h)
      rw [if_neg ran, if_neg ran, run_of_finished finished]
      rfl

theorem run_add_of_finished {m : Machine H} {a : Nat} (h : (m.run a).2.Finished) (b : Nat) :
    m.run (a + b) = m.run a := by
  rw [run_add, run_of_finished h]
  rfl

/-- Whether a run with that limit, if there is one, stops after `steps` steps and leaves `last`. -/
def StopsAfter (m : Machine H) (limit : Option Nat) (steps : Nat) (last : Machine H) : Prop :=
  match limit with
  | some n => m.run n = (steps, last)
  | none => ∃ n, steps < n ∧ m.run n = (steps, last)

theorem stopsAfter_of_finished {m : Machine H} {n : Nat} (h : (m.run n).2.Finished) :
    m.StopsAfter none (m.run n).1 (m.run n).2 := by
  have bound := (run_spec m n).2.2.1
  exact ⟨n + 1, Nat.lt_succ_of_le bound, run_add_of_finished h 1⟩

variable {m last : Machine H} {limit : Option Nat} {steps : Nat}

theorem StopsAfter.exists_run (h : m.StopsAfter limit steps last) :
    ∃ n, m.run n = (steps, last) ∧ (limit = some n ∨ limit = none ∧ steps < n) := by
  cases limit with
  | some n => exact ⟨n, h, .inl rfl⟩
  | none =>
    obtain ⟨n, lt, run⟩ := h
    exact ⟨n, run, .inr ⟨rfl, lt⟩⟩

theorem StopsAfter.eq_after (h : m.StopsAfter limit steps last) : last = m.after steps := by
  obtain ⟨n, run, -⟩ := h.exists_run
  simpa [run] using (run_spec m n).1

theorem StopsAfter.not_finished (h : m.StopsAfter limit steps last) {k : Nat} (lt : k < steps) :
    ¬(m.after k).Finished := by
  obtain ⟨n, run, -⟩ := h.exists_run
  exact (run_spec m n).2.1 k (by rwa [run])

theorem StopsAfter.le_limit (h : m.StopsAfter limit steps last) {n : Nat} (eq : limit = some n) :
    steps ≤ n := by
  subst eq
  have bound := (run_spec m n).2.2.1
  rwa [show m.run n = (steps, last) from h] at bound

theorem StopsAfter.finished_or_limited (h : m.StopsAfter limit steps last) :
    (m.after steps).Finished ∨ limit = some steps := by
  obtain ⟨n, run, limited⟩ := h.exists_run
  obtain ⟨-, -, le, stops⟩ := run_spec m n
  rw [run] at le stops
  by_cases lt : steps < n
  · exact .inl (stops lt)
  · obtain rfl : steps = n := Nat.le_antisymm le (Nat.le_of_not_lt lt)
    rcases limited with limited | ⟨-, lt'⟩
    · exact .inr limited
    · exact absurd lt' lt

def countingLoop : Machine Silent :=
  (start #[.immediate .addi 1 1, .j (-1)] { image := .empty } {}).resume

end Z16.Machine
