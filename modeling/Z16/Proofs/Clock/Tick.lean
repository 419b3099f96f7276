import Z16.Proofs.Machine.Run
import Z16.Simulator

namespace Z16

theorem Machine.pause_ite {H : Type} {m : Machine H} (unpaused : m.paused = false) (b : Bool) :
    (if b = true then m.pause else m) = { m with paused := b } := by
  cases b with
  | true => rfl
  | false => rw [if_neg Bool.false_ne_true, ← unpaused]

namespace Clock

variable {H : Type}

def report (c : Clock) (executed : Nat) (limited : Bool) (m : Machine H) :
    Option Tick × Clock × Machine H :=
  let fails := c.failAt == some (c.calls + 1)
  (if fails then none else some { phase := c.phase.flip, machine := m.snapshot },
    { c with
      phase := c.phase.flip, executed, calls := c.calls + 1, due := c.due + c.halfPeriod
      ended := limited || decide m.Finished || fails },
    m)

variable [Host H] {c : Clock} {m : Machine H}

theorem tick_of_idle (idle : c.phase = .low ∨ m.paused = true ∨ m.Finished) :
    c.tick m = c.report c.executed false m := by
  -- Either the phase rises, or the machine refuses the step.
  have stays : stepOn c.phase.flip m = (false, m) := by
    unfold stepOn
    split
    next falls =>
      rcases idle with low | paused | finished
      · simp [low, Phase.flip] at falls
      · simp [paused] at falls
      · exact Machine.step_of_finished finished
    next => rfl
  simp [tick, stays, report, Machine.decide_finished]

theorem tick_of_step (high : c.phase = .high) (unpaused : m.paused = false)
    (unfinished : ¬m.Finished) :
    c.tick m = c.report (c.executed + 1) (c.reaches (c.executed + 1))
      (if c.reaches (c.executed + 1) then m.step.2.pause else m.step.2) := by
  have steps : stepOn c.phase.flip m = (true, m.step.2) := by
    rw [← (Machine.step_ran_iff m).2 unfinished]
    simp [stepOn, high, Phase.flip, unpaused]
  simp only [tick, steps, report, Machine.decide_finished, Bool.true_and, if_true, Bool.or_assoc]

end Clock

namespace Simulator

variable {H : Type} [Host H] {s : Simulator H} {c : Clock}

theorem tick_of_healthy (healthy : s.poisoned = false) (c : Clock) :
    s.tick c = ((c.tick s.machine).1,
      { s with now := c.due, clock? := some (c.tick s.machine).2.1,
               machine := (c.tick s.machine).2.2 }) := by
  simp [tick, healthy]

def due? (deadline : Option Nat) (s : Simulator H) : Option Clock :=
  s.clock?.filter fun c => !c.ended && deadline.all (c.due ≤ ·)

variable {deadline : Option Nat}

omit [Host H] in
theorem due?_eq_some_iff :
    s.due? deadline = some c ↔
      s.clock? = some c ∧ c.ended = false ∧ ∀ moment, deadline = some moment → c.due ≤ moment := by
  rw [due?, Option.filter_eq_some_iff]
  simp [Option.all_eq_true]

theorem advance_of_due (due : s.due? deadline = some c) (fuel : Nat) (ticks : Array Tick) :
    advance deadline (fuel + 1) ticks s =
      advance deadline fuel (ticks ++ (s.tick c).1.toArray) (s.tick c).2 := by
  obtain ⟨clock, running, early⟩ := due?_eq_some_iff.1 due
  have runs : (!c.ended && deadline.all (c.due ≤ ·)) = true := by
    simpa [running, Option.all_eq_true] using early
  rw [advance, clock]
  simp only [runs, if_true]

theorem advance_of_not_due (due : s.due? deadline = none) (fuel : Nat) (ticks : Array Tick) :
    advance deadline fuel ticks s = (ticks, s) := by
  cases fuel with
  | zero => rfl
  | succ fuel =>
    cases clock : s.clock? with
    | none => rw [advance, clock]
    | some c =>
      have rests : ¬(!c.ended && deadline.all (c.due ≤ ·)) = true :=
        Option.filter_eq_none_iff.1 due c clock
      rw [advance, clock]
      simp only [rests, Bool.false_eq_true, if_false]

theorem advance_add (a b : Nat) (ticks : Array Tick) (s : Simulator H) :
    advance deadline (a + b) ticks s =
      advance deadline b (advance deadline a ticks s).1 (advance deadline a ticks s).2 := by
  induction a generalizing ticks s with
  | zero => simp [advance]
  | succ a ih =>
    cases due : s.due? deadline with
    | some c => rw [Nat.add_right_comm, advance_of_due due, advance_of_due due, ih]
    | none => simp only [advance_of_not_due due]

omit [Host H] in
theorem due?_none (clock : s.clock? = some c) (running : c.ended = false) :
    s.due? none = some c :=
  due?_eq_some_iff.2 ⟨clock, running, nofun⟩

omit [Host H] in
theorem isRunning_iff : s.isRunning = true ↔ ∃ c, s.clock? = some c ∧ c.ended = false := by
  simp [isRunning, Option.any_eq_true]

omit [Host H] in
theorem due?_of_not_running (stopped : s.isRunning = false) : s.due? deadline = none := by
  rw [due?, Option.filter_eq_none_iff]
  intro c clock
  have ended : c.ended = true := by simpa [isRunning, clock] using stopped
  simp [ended]

end Simulator

end Z16
