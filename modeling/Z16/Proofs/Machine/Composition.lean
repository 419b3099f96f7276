import Z16.Proofs.Machine.Stopping

namespace Z16

def Command.onlySteps : Command → Bool
  | .step | .run _ => true
  | _ => false

namespace Machine

variable {H : Type} [Host H] {m : Machine H}

theorem finished_of_run_lt {n : Nat} (short : (m.run n).1 < n) : (m.run n).2.Finished := by
  obtain ⟨leaves, -, -, stops⟩ := run_spec m n
  exact leaves ▸ stops short

theorem perform_of_finished (finished : m.Finished) {c : Command} (steps : c.onlySteps = true) :
    (m.perform c).2 = m := by
  cases c with
  | step => exact congrArg Prod.snd (step_of_finished finished)
  | run limit => exact congrArg Prod.snd (run_of_finished finished limit)
  | _ => cases steps

theorem performAll_of_finished (finished : m.Finished) {cs : List Command}
    (steps : ∀ c ∈ cs, c.onlySteps = true) : m.performAll cs = m :=
  List.foldlRecOn (motive := (· = m)) cs _ rfl fun n same c mem => by
    rw [same, perform_of_finished finished (steps c mem)]

/-- Two runs, one after the other, are the run with the sum of their limits. A run takes no more steps than
its limit; if it takes fewer, then every later step is refused and leaves the machine as it is, until
something else is done with it. -/
theorem runs_compose (m : Machine H) (a b : Nat) :
    m.run (a + b) = ((m.run a).1 + ((m.run a).2.run b).1, ((m.run a).2.run b).2) ∧
      (m.run a).1 ≤ a ∧
      ((m.run a).1 < a → ∀ cs : List Command, (∀ c ∈ cs, c.onlySteps = true) →
        ((m.run a).2.performAll cs).step = (false, (m.run a).2)) := by
  refine ⟨run_add m a b, (run_spec m a).2.2.1, fun short cs steps => ?_⟩
  have finished := finished_of_run_lt short
  rw [performAll_of_finished finished steps, step_of_finished finished]

theorem runs_compose_countdown :
    let m := ofImage countdown Silent.mk
    let last := (m.run (3 + 9)).2
    m.run (3 + 9) = (6, ((m.run 3).2.run 9).2) ∧ (m.run (3 + 9)).1 < 3 + 9 ∧
      (last.performAll [.step, .run 7]).step = (false, last) := by
  intro m last
  obtain ⟨parts, -, -⟩ := runs_compose m 3 9
  have first : (m.run 3).1 = 3 := by decide +kernel
  have second : ((m.run 3).2.run 9).1 = 3 := by decide +kernel
  rw [first, second] at parts
  have short : (m.run (3 + 9)).1 < 3 + 9 := by rw [parts]; decide
  exact ⟨parts, short, (runs_compose m (3 + 9) 0).2.2 short [.step, .run 7] (by decide)⟩

end Machine

end Z16
