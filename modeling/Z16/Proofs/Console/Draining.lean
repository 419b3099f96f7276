import Z16.Outcome
import Z16.Proofs.HostMap

/-!
# Draining

Nothing reads the output of a console but the one who takes it, and it is only ever appended to. So a
text in front of it stays in front (`Console.prependMap`), and a simulator whose output is taken now and
then leaves the same text in pieces (`Simulator.runTaking_eq`).
-/

namespace Z16

namespace Console

def prepend (text : String) (c : Console) : Console := { c with output := text ++ c.output }

theorem prepend_print (text printed : String) (c : Console) :
    (c.prepend text).print printed = (c.print printed).prepend text := by
  simp only [prepend, print, String.append_assoc]

/-- No call looks at the output. -/
def prependMap (text : String) : HostMap Console Console where
  toFun := prepend text
  serve call context c := by
    cases call with
    | readString =>
      show readString context (c.prepend text) = Prod.map id (prepend text) (readString context c)
      simp only [readString, nextLine, prepend]
      split <;> rfl
    | printString | memoryDump | registersDump =>
      exact Prod.ext rfl (prepend_print text _ c)
    | readInteger | readKeyboard | playTone | setAudioVolume | stopAudio => rfl

end Console

open Console

namespace Simulator

variable {s : Simulator Console}

theorem mapHost_prependMap_empty (s : Simulator Console) : s.mapHost (prependMap "") = s := by
  simp [mapHost, Machine.mapHost, prependMap, prepend]

def drainIf (takes : Bool) (s : Simulator Console) : String × Simulator Console :=
  if takes then s.drain else ("", s)

theorem mapHost_drainIf (takes : Bool) (s : Simulator Console) (text : String) :
    (s.drainIf takes).2.mapHost (prependMap (text ++ (s.drainIf takes).1)) =
      s.mapHost (prependMap text) := by
  cases takes with
  | true => simp [drainIf, drain, mapHost, Machine.mapHost, prependMap, prepend, takeOutput]
  | false => simp [drainIf]

/-- Ticks until the clock has ended; takes the output after those ticks whose number `takes` tells, and
again at the end; gives up after `patience` ticks. -/
def runTaking (takes : Nat → Bool) : (patience : Nat) → (output : String) → Simulator Console →
    Option (String × Machine Console)
  | 0, _, _ => none
  | patience + 1, output, s =>
    match s.due? none with
    | some c =>
      let (text, next) := (s.tick c).2.drainIf (takes (c.calls + 1))
      runTaking takes patience (output ++ text) next
    | none =>
      let (text, last) := s.drain
      some (output ++ text, last.machine)

theorem runTaking_eq (takes : Nat → Bool) {fuel patience : Nat} (le : fuel < patience)
    {output : String} {ticks : Array Tick} {final : Simulator Console}
    (run : (advance none fuel ticks (s.mapHost (prependMap output))).2 = final)
    (stopped : final.isRunning = false) :
    s.runTaking takes patience output = some (final.machine.host.output, final.drain.2.machine) := by
  induction patience generalizing fuel output ticks s with
  | zero => exact absurd le (Nat.not_lt_zero fuel)
  | succ patience ih =>
    have same : (s.mapHost (prependMap output)).due? none = s.due? none := rfl
    cases due : s.due? none with
    | none =>
      rw [advance_of_not_due (same.trans due)] at run
      rw [runTaking, due, ← run]
      rfl
    | some c =>
      cases fuel with
      | zero =>
        rw [advance] at run
        subst run
        rw [due?_of_not_running stopped] at same
        rw [← same] at due
        contradiction
      | succ fuel =>
        -- What was taken goes in front of the output again, where no tick looks at it.
        rw [advance_of_due (same.trans due), tick_mapHost, Prod.map_snd,
          ← mapHost_drainIf (takes (c.calls + 1))] at run
        rw [runTaking, due]
        exact ih (Nat.lt_of_succ_lt_succ le) run

theorem runDraining_eq (patience : Nat) (output : String) (empty : s.machine.host.output = "") :
    s.runDraining patience output = s.runTaking (fun _ => true) patience output := by
  induction patience generalizing s output with
  | zero => rfl
  | succ patience ih =>
    have drained : s.drain = ("", s) := by
      simp [drain, takeOutput, ← empty]
    rw [runDraining, runTaking]
    cases due : s.due? none with
    | none =>
      simp only [drained, String.append_empty]
      cases clock : s.clock? with
      | none => rfl
      | some c =>
        have ended : c.ended = true := by simpa [due?, clock] using due
        simp only [ended, if_true]
    | some c =>
      obtain ⟨clock, running, -⟩ := due?_eq_some_iff.1 due
      simp only [clock, running, Bool.false_eq_true, if_false]
      exact ih _ rfl

end Simulator

end Z16
