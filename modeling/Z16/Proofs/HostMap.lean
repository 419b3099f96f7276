import Z16.Proofs.Clock.Tick

/-!
# Maps of hosts

A map of hosts that commutes with every call carries a machine on one host to a machine on the other.
The two machines take the same steps, and a clock on them makes the same ticks.
-/

namespace Z16

structure HostMap (H K : Type) [Host H] [Host K] where
  toFun : H → K
  serve (call : HostCall) (context : Context) (host : H) :
    Host.serve call context (toFun host) = Prod.map id toFun (Host.serve call context host)

variable {H K : Type} [Host H] [Host K] (f : HostMap H K)

theorem Service.perform_map (s : Service) (context : Context) (host : H) :
    s.perform context (f.toFun host) = Prod.map id f.toFun (s.perform context host) := by
  cases s with
  | host call => exact f.serve call context host
  | programExit => rfl

namespace Machine

def mapHost (m : Machine H) : Machine K where
  toContext := m.toContext
  pc := m.pc
  halted := m.halted
  paused := m.paused
  program := m.program
  host := f.toFun m.host

variable (m : Machine H)

theorem call_mapHost (code : UInt16) : (m.mapHost f).call code = (m.call code).mapHost f := by
  unfold call
  cases Service.ofCode? code with
  | none => rfl
  | some service =>
    simp only [mapHost, Service.perform_map]
    rfl

theorem effect_mapHost (index : Nat) (i : Instruction) :
    (m.mapHost f).effect index i = Prod.map (mapHost f) id (m.effect index i) := by
  cases i with
  | ecall code =>
    simp only [effect, call_mapHost]
    rfl
  | _ => rfl

theorem step_mapHost : (m.mapHost f).step = Prod.map id (mapHost f) m.step := by
  have halted : (m.mapHost f).halted = m.halted := rfl
  have fetched : (m.mapHost f).program[(m.mapHost f).pc]? = m.program[m.pc]? := rfl
  rw [step, step, halted, fetched]
  cases m.halted with
  | true => rfl
  | false =>
    cases m.program[m.pc]? with
    | none => rfl
    | some i =>
      show (true, (m.mapHost f).advance m.pc i) = (true, (m.advance m.pc i).mapHost f)
      rw [advance, effect_mapHost]
      rfl

end Machine

theorem Clock.stepOn_mapHost (phase : Phase) (m : Machine H) :
    stepOn phase (m.mapHost f) = Prod.map id (Machine.mapHost f) (stepOn phase m) := by
  unfold stepOn
  by_cases steps : phase = .low ∧ ¬m.paused = true
  · rw [if_pos steps, if_pos (show _ ∧ ¬(m.mapHost f).paused = true from steps), m.step_mapHost]
  · rw [if_neg steps, if_neg (show ¬(_ ∧ ¬(m.mapHost f).paused = true) from steps)]
    rfl

theorem Clock.tick_mapHost (c : Clock) (m : Machine H) :
    c.tick (m.mapHost f) = Prod.map id (Prod.map id (Machine.mapHost f)) (c.tick m) := by
  simp only [tick, stepOn_mapHost, Prod.map, id]
  cases (stepOn c.phase.flip m).1 && c.reaches _ <;> rfl

namespace Simulator

def mapHost (s : Simulator H) : Simulator K where
  machine := s.machine.mapHost f
  poisoned := s.poisoned
  now := s.now
  clock? := s.clock?

variable (s : Simulator H)

theorem tick_mapHost (c : Clock) : (s.mapHost f).tick c = Prod.map id (mapHost f) (s.tick c) := by
  cases poisoned : s.poisoned with
  | true => simp [tick, mapHost, poisoned]
  | false =>
    rw [tick_of_healthy poisoned, tick_of_healthy (s := s.mapHost f) poisoned]
    show ((c.tick (s.machine.mapHost f)).1, _) = _
    simp only [mapHost, Clock.tick_mapHost]
    rfl

end Simulator

end Z16
