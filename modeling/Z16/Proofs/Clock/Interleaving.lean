import Z16.Proofs.Clock.Tick

/-!
# Interleavings

The machine of a simulator is shared: between any two ticks of the clock, requests come in and other
holders change the machine. An `Event` is either; `Simulator.life` lists the moments right before the
ticks that a clock makes during a sequence of events, and these are the ticks that are delivered
(`handle_ticks`).
-/

namespace Z16

/-- What can happen to a simulator: a request, or a change of the machine by another of its holders. -/
inductive Event (H : Type) where
  | request (r : Request)
  | touch (change : Machine H → Machine H)

namespace Event

variable {H : Type}

def restarts : Event H → Bool
  | .request (.start ..) => true
  | _ => false

end Event

structure Moment (H : Type) where
  simulator : Simulator H
  clock : Clock

namespace Moment

variable {H : Type} [Host H]

def tick? (t : Moment H) : Option Tick := (t.simulator.tick t.clock).1

def executes (t : Moment H) : Bool :=
  !t.simulator.poisoned && (Clock.stepOn t.clock.phase.flip t.simulator.machine).1

theorem executes_iff (t : Moment H) :
    t.executes = true ↔
      t.simulator.poisoned = false ∧ t.clock.phase = .high ∧ t.simulator.machine.paused = false ∧
        ¬t.simulator.machine.Finished := by
  unfold executes Clock.stepOn
  cases t.clock.phase <;> cases t.simulator.machine.paused <;>
    simp [Phase.flip, Machine.step_ran_iff]

theorem idle_of_not_executes {t : Moment H} (healthy : t.simulator.poisoned = false)
    (rests : t.executes = false) :
    t.clock.phase = .low ∨ t.simulator.machine.paused = true ∨ t.simulator.machine.Finished := by
  have stays := mt t.executes_iff.2 (Bool.eq_false_iff.1 rests)
  cases phase : t.clock.phase with
  | low => exact .inl rfl
  | high =>
    by_cases finished : t.simulator.machine.Finished
    · exact .inr (.inr finished)
    · exact .inr (.inl (by simpa [healthy, phase, finished] using stays))

end Moment

namespace Simulator

variable {H : Type} [Host H]

def moments (deadline : Option Nat) : (fuel : Nat) → Simulator H → List (Moment H)
  | 0, _ => []
  | fuel + 1, s =>
    match s.due? deadline with
    | some c => ⟨s, c⟩ :: moments deadline fuel (s.tick c).2
    | none => []

def eventMoments (s : Simulator H) : Event H → List (Moment H)
  | .request (.sleep nanoseconds) =>
    let deadline := s.now + nanoseconds
    s.moments (some deadline) (s.clock?.elim 0 (dueTicks · deadline))
  | .request (.join patience) => s.moments none patience
  | _ => []

def apply (s : Simulator H) : Event H → Simulator H
  | .request r => (s.handle r).2.2
  | .touch change => (s.onMachine fun m => (.done, change m)).2

/-- The moments of the ticks of the clock of `s` during some events, until another clock is started. -/
def life : Simulator H → List (Event H) → List (Moment H)
  | _, [] => []
  | s, e :: es => if e.restarts then [] else s.eventMoments e ++ life (s.apply e) es

theorem advance_ticks (deadline : Option Nat) (fuel : Nat) (ticks : Array Tick) (s : Simulator H) :
    (advance deadline fuel ticks s).1.toList =
      ticks.toList ++ (s.moments deadline fuel).filterMap Moment.tick? := by
  induction fuel generalizing ticks s with
  | zero => simp [advance, moments]
  | succ fuel ih =>
    cases due : s.due? deadline with
    | some c =>
      rw [advance_of_due due, ih, moments, due]
      cases shown : (s.tick c).1 <;> simp [Moment.tick?, shown]
    | none =>
      rw [advance_of_not_due due, moments, due]
      simp

theorem handle_ticks (s : Simulator H) (r : Request) :
    (s.handle r).2.1.toList = (s.eventMoments (.request r)).filterMap Moment.tick? := by
  cases r <;> try rfl
  case start frequency limit failAt =>
    simp only [handle]
    split <;> rfl
  case sleep nanoseconds =>
    exact (advance_ticks _ _ _ s).trans (List.nil_append _)
  case join patience =>
    exact (advance_ticks _ _ _ s).trans (List.nil_append _)

end Simulator

end Z16
