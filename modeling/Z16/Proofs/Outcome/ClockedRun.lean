import Z16.Proofs.Clock.Undisturbed
import Z16.Proofs.Console.Draining

/-!
# Clocked and fast runs

The clock of a clocked run is undisturbed except for the output that is taken. So it leaves what a fast
run leaves, and what is taken, in whatever pieces, is the output of the fast run.
-/

namespace Z16

open CommandLine

namespace Settings

/-- Whether a fast run stops. One without a limit stops where nothing is left to run, within the
`unlimited` steps that stand for no limit. -/
def FastStops (settings : Settings) (image : Image) : Prop :=
  settings.maxSteps = none → ((settings.machine image).run unlimited).2.Finished

def runClockedTaking (settings : Settings) (takes : Nat → Bool) (image : Image) (patience : Nat) :
    Option Outcome :=
  match settings.simulator image with
  | .error _ => some .failure
  | .ok s =>
    (s.runTaking takes patience "").map fun (output, m) => { output := output ++ m.summary }

def fastRun (settings : Settings) (image : Image) : Nat × Machine Console :=
  (settings.machine image).run (settings.maxSteps.getD unlimited)

variable {settings : Settings} {image : Image}

theorem stopsAfter_fastRun (stops : settings.FastStops image) :
    (settings.machine image).StopsAfter settings.maxSteps (settings.fastRun image).1
      (settings.fastRun image).2 := by
  unfold fastRun
  cases limit : settings.maxSteps with
  | some n => exact rfl
  | none => exact Machine.stopsAfter_of_finished (stops limit)

theorem simulator_eq {halfPeriod : Nat}
    (accepted : Clock.halfPeriod? settings.frequency = some halfPeriod) (image : Image) :
    settings.simulator image = .ok
      { machine := settings.machine image
        clock? := some (.start 0 halfPeriod settings.maxSteps none) } := by
  simp [simulator, Simulator.newClock, accepted, bind, Except.bind, pure, Except.pure]

/-- A clocked run takes one tick more than its clock makes to see that the clock has ended. -/
theorem runClockedTaking_eq (accepted : (Clock.halfPeriod? settings.frequency).isSome)
    (positive : settings.maxSteps ≠ some 0) (stops : settings.FastStops image)
    (takes : Nat → Bool) {patience : Nat}
    (enough : Undisturbed.tickCount (settings.fastRun image).1 < patience) :
    settings.runClockedTaking takes image patience = some (settings.runFast image) := by
  obtain ⟨halfPeriod, accepted⟩ := Option.isSome_iff_exists.1 accepted
  have u := Undisturbed.start { machine := settings.machine image } rfl settings.maxSteps 0 halfPeriod
  obtain ⟨-, stopped, machine⟩ := u.advance_stops rfl positive (stopsAfter_fastRun stops)
    (Undisturbed.tickCount (settings.fastRun image).1)
  have machine := machine (Nat.le_refl _)
  rw [decide_eq_false (Nat.lt_irrefl _)] at stopped
  rw [runClockedTaking, simulator_eq accepted]
  show Option.map _ (Simulator.runTaking takes patience "" _) = _
  rw [Simulator.runTaking_eq takes enough (by rw [Simulator.mapHost_prependMap_empty]) stopped]
  simp only [Option.map_some, Simulator.drain, machine]
  rfl

theorem runClocked_eq (image : Image) (patience : Nat) :
    settings.runClocked image patience =
      settings.runClockedTaking (fun _ => true) image patience := by
  unfold runClocked runClockedTaking
  cases accepted : Clock.halfPeriod? settings.frequency with
  | none =>
    have refused : settings.simulator image = .error (.invalidFrequency settings.frequency) := by
      simp [simulator, Simulator.newClock, accepted, bind, Except.bind]
    rw [refused]
  | some halfPeriod =>
    rw [simulator_eq accepted]
    show Option.map _ (Simulator.runDraining patience "" _) = _
    rw [Simulator.runDraining_eq patience "" rfl]

end Settings

variable {content : Array Byte}

theorem Image.ofBytes_eq_error (large : memorySize < content.size) :
    Image.ofBytes content = .error ⟨content.size⟩ := by
  rw [Image.ofBytes, dif_neg (Nat.not_le.2 large)]

/-- A run with a clock and a run without one of the same file have the same outcome if the latter stops.
The former may take the output after whichever ticks it likes. A file that does not fit into the memory
makes both fail. -/
theorem clocked_outcome_eq_fast (file : String) (content : Array Byte) (settings : Settings)
    (accepted : (Clock.halfPeriod? settings.frequency).isSome)
    (positive : settings.maxSteps ≠ some 0)
    (stops : ∀ image, Image.ofBytes content = .ok image → settings.FastStops image) :
    ∃ ticks outcome, (memorySize < content.size → outcome = .failure) ∧
      ∀ patience, ticks < patience →
        (Invocation.run file { settings with fast := false }).outcome (some content) patience =
            some outcome ∧
          (Invocation.run file { settings with fast := true }).outcome (some content) patience =
            some outcome ∧
          ∀ image, Image.ofBytes content = .ok image → ∀ takes,
            settings.runClockedTaking takes image patience = some outcome := by
  cases loaded : Image.ofBytes content with
  | error e =>
    refine ⟨0, .failure, fun _ => rfl, fun patience _ => ⟨?_, ?_, nofun⟩⟩
    · simp [Invocation.outcome, loaded]
    · simp [Invocation.outcome, loaded]
  | ok image =>
    have agrees (takes : Nat → Bool) {patience : Nat}
        (enough : Undisturbed.tickCount (settings.fastRun image).1 < patience) :
        settings.runClockedTaking takes image patience = some (settings.runFast image) :=
      Settings.runClockedTaking_eq accepted positive (stops image loaded) takes enough
    refine ⟨Undisturbed.tickCount (settings.fastRun image).1, settings.runFast image,
      fun large => ?_, fun patience enough => ⟨?_, ?_, ?_⟩⟩
    · rw [Image.ofBytes_eq_error large] at loaded
      exact nomatch loaded
    · simp only [Invocation.outcome, Option.map_some, loaded]
      rw [if_neg Bool.false_ne_true, Settings.runClocked_eq]
      exact agrees _ enough
    · simp only [Invocation.outcome, Option.map_some, loaded, if_true]
      rfl
    · rintro _ ⟨⟩ takes
      exact agrees takes enough

def dumpProgram : Image where
  bytes := Array.replicate 32 0 ++ #[0x07, 0x02, 0x87, 0x02]
  size_le := by decide +kernel

theorem fastStops_dumpProgram : Settings.FastStops {} dumpProgram := by
  intro _
  have finished : ((Settings.machine {} dumpProgram).run 2).2.Finished := by decide +kernel
  rw [show unlimited = 2 + (unlimited - 2) by decide, Machine.run_add_of_finished finished]
  exact finished

theorem clocked_outcome_eq_fast_dumpProgram :
    (Clock.halfPeriod? Clock.defaultFrequency).isSome ∧ (none : Option Nat) ≠ some 0 ∧
      (∀ image, Image.ofBytes dumpProgram.bytes = .ok image → Settings.FastStops {} image) ∧
      ∃ ticks outcome, ∀ patience, ticks < patience →
        (Invocation.run "dump.bin" {}).outcome (some dumpProgram.bytes) patience = some outcome ∧
          (Invocation.run "dump.bin" { fast := true }).outcome (some dumpProgram.bytes) patience =
            some outcome := by
  have accepted : (Clock.halfPeriod? Clock.defaultFrequency).isSome := by decide +kernel
  have stops : ∀ image, Image.ofBytes dumpProgram.bytes = .ok image → Settings.FastStops {} image := by
    intro image loaded
    rw [Image.ofBytes, dif_pos dumpProgram.size_le] at loaded
    obtain rfl : dumpProgram = image := Except.ok.inj loaded
    exact fastStops_dumpProgram
  obtain ⟨ticks, outcome, -, same⟩ :=
    clocked_outcome_eq_fast "dump.bin" dumpProgram.bytes {} accepted nofun stops
  refine ⟨accepted, nofun, stops, ticks, outcome, fun patience enough => ?_⟩
  exact ⟨(same patience enough).1, (same patience enough).2.1⟩

end Z16
