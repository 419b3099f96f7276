import Z16.Machine.Command
import Z16.Proofs.Machine.Run

namespace Z16.Machine

variable {H : Type} {m : Machine H}

def InRange (m : Machine H) : Prop := m.pc ≤ m.program.size

theorem goTo_inRange (m : Machine H) (next : Int) : (m.goTo next).InRange := by
  unfold InRange goTo
  split
  next inside => exact Int.toNat_le.2 inside.2
  next => exact Nat.le_refl _

theorem goTo_inside {next : Nat} (le : next ≤ m.program.size) : (m.goTo next).pc = next := by
  simp [goTo, le]

theorem goTo_outside {next : Int} (outside : next < 0 ∨ m.program.size ≤ next) :
    (m.goTo next).pc = m.program.size := by
  unfold goTo
  split
  next inside =>
    have atEnd : next = m.program.size := by omega
    rw [atEnd]
    rfl
  next => rfl

theorem pc_goTo (m : Machine H) (next : Int) :
    ((m.goTo next).pc : Int) = if 0 ≤ next ∧ next ≤ m.program.size then next else m.program.size := by
  unfold goTo
  split
  next inside => exact Int.toNat_of_nonneg inside.1
  next => rfl

theorem seek_inRange (m : Machine H) (delta : Int) : (m.seek delta).InRange :=
  Nat.min_le_right _ _

namespace InRange

theorem finished_iff (h : m.InRange) : m.Finished ↔ m.halted = true ∨ m.pc = m.program.size :=
  or_congr_right ⟨fun le => Nat.le_antisymm h le, fun eq => Nat.le_of_eq eq.symm⟩

variable [Host H]

theorem step (h : m.InRange) : m.step.2.InRange := by
  unfold Machine.step
  cases m.halted with
  | true => exact h
  | false =>
    cases m.program[m.pc]? with
    | none => exact h
    | some i => exact goTo_inRange _ _

theorem run (h : m.InRange) (limit : Nat) : (m.run limit).2.InRange :=
  run_keeps InRange step h limit

theorem execute (index : Nat) {next : Machine H} (runs : m.execute index = .ok next) :
    next.InRange := by
  unfold Machine.execute at runs
  cases fetched : m.program[index]? with
  | none => simp [fetched] at runs
  | some i =>
    rw [fetched] at runs
    obtain rfl := Except.ok.inj runs
    exact goTo_inRange _ _

theorem perform (h : m.InRange) (c : Command) : (m.perform c).2.InRange := by
  cases c with
  | step => exact h.step
  | run limit => exact h.run limit
  | execute index =>
    simp only [Machine.perform]
    cases runs : m.execute index with
    | ok next => exact execute index runs
    | error e => exact h
  | seek delta => exact seek_inRange m delta
  | reset => exact Nat.zero_le _
  | pause | resume | toggle | write => exact h

end InRange

end Z16.Machine
