import Z16.Proofs.HostMap
import Z16.Proofs.Machine.Frame

/-!
# The calls that a host sees

The state of a host after some steps is made by the calls that these steps execute, each once and in order,
with the registers and the memory of that moment (`Machine.host_after`). If the host leaves registers and
memory alone, the machine goes the way that it goes if no call is answered (`Machine.host_sees_calls`).
-/

namespace Z16

def Host.LeavesContext (H : Type) [Host H] : Prop :=
  ∀ (call : HostCall) (context : Context) (host : H), (Host.serve call context host).1 = context

theorem Recorder.leavesContext : Host.LeavesContext Recorder := fun _ _ _ => rfl

/-- To the machine, a host that leaves the context alone is the one that answers no call. -/
def Host.LeavesContext.silence {H : Type} [Host H] (leaves : LeavesContext H) : HostMap H Silent where
  toFun _ := {}
  serve call context host := Prod.ext (leaves call context host).symm rfl

def HostCall.all : List HostCall :=
  [.readString, .readInteger, .printString, .playTone, .setAudioVolume, .stopAudio, .readKeyboard,
    .registersDump, .memoryDump]

namespace Instruction

def hostCall? : Instruction → Option HostCall
  | .ecall code => HostCall.all.find? fun call => (Service.host call).code = code
  | _ => none

theorem hostCall?_eq_some {i : Instruction} {call : HostCall} :
    i.hostCall? = some call ↔ i = .ecall (Service.host call).code := by
  constructor
  · intro calls
    cases i with
    | ecall code =>
      have same := List.find?_some calls
      rw [of_decide_eq_true same]
    | _ => cases calls
  · rintro rfl
    cases call <;> rfl

theorem isSome_hostCall? (i : Instruction) : i.hostCall?.isSome = i.callsHost := by
  rw [Bool.eq_iff_iff, Option.isSome_iff_exists]
  constructor
  · rintro ⟨call, calls⟩
    rw [hostCall?_eq_some.1 calls]
    cases call <;> rfl
  · intro calls
    cases i with
    | ecall code =>
      have known : ∀ n < 9, (Instruction.ecall (.ofNat (n + 1))).hostCall?.isSome = true := by decide
      obtain ⟨low, high⟩ : 1 ≤ code.toNat ∧ code.toNat ≤ 9 := of_decide_eq_true calls
      have same : code = .ofNat (code.toNat - 1 + 1) := by
        rw [Nat.sub_add_cancel low, UInt16.ofNat_toNat]
      rw [same, ← Option.isSome_iff_exists]
      exact known _ (by omega)
    | _ => cases calls

end Instruction

namespace Machine

variable {H K : Type}

def withHost (m : Machine H) (host : K) : Machine K where
  toContext := m.toContext
  pc := m.pc
  halted := m.halted
  paused := m.paused
  program := m.program
  host := host

def fetched? (m : Machine H) : Option Instruction := if m.halted then none else m.program[m.pc]?

def nextCall? (m : Machine H) : Option (HostCall × Context) :=
  (m.fetched?.bind Instruction.hostCall?).map (·, m.toContext)

theorem fetched?_of_fetches {m : Machine H} {i : Instruction} (fetches : m.Fetches i) :
    m.fetched? = some i := by
  rw [fetched?, fetches.1, ← fetches.2]
  rfl

theorem fetched?_of_finished {m : Machine H} (finished : m.Finished) : m.fetched? = none := by
  unfold fetched?
  rcases finished with halted | past
  · rw [if_pos halted]
  · rw [Array.getElem?_eq_none past, ite_self]

variable [Host H]

def calls (m : Machine H) (k : Nat) : List (HostCall × Context) :=
  (List.range k).filterMap fun j => (m.after j).nextCall?

theorem calls_succ (m : Machine H) (k : Nat) :
    m.calls (k + 1) = m.calls k ++ (m.after k).nextCall?.toList := by
  rw [calls, List.range_succ, List.filterMap_append]
  cases called : (m.after k).nextCall? <;> simp [calls, called]

theorem host_call (m : Machine H) (code : UInt16) :
    (m.call code).host = (Instruction.ecall code).hostCall?.elim m.host fun call =>
      (Host.serve call m.toContext m.host).2 := by
  cases known : (Instruction.ecall code).hostCall? with
  | some call =>
    obtain rfl := Instruction.ecall.inj (Instruction.hostCall?_eq_some.1 known)
    simp [Machine.call, Service.ofCode?_code, Service.perform]
  | none =>
    unfold Machine.call
    cases found : Service.ofCode? code with
    | none => rfl
    | some s =>
      cases s with
      | programExit => rfl
      | host call =>
        have calls := Instruction.hostCall?_eq_some.2 (congrArg _ (Service.ofCode?_eq_some.1 found))
        rw [known] at calls
        cases calls

theorem host_advance (m : Machine H) (index : Nat) (i : Instruction) :
    (m.advance index i).host = i.hostCall?.elim m.host fun call =>
      (Host.serve call m.toContext m.host).2 := by
  cases i with
  | ecall code => exact m.host_call code
  | _ => rfl

theorem host_step (m : Machine H) :
    m.step.2.host = m.nextCall?.elim m.host fun c => (Host.serve c.1 c.2 m.host).2 := by
  rcases m.fetches_or_finished with ⟨i, fetches⟩ | finished
  · rw [step_of_fetches fetches, host_advance, nextCall?, fetched?_of_fetches fetches]
    cases called : i.hostCall? <;> simp [called]
  · rw [step_of_finished finished, nextCall?, fetched?_of_finished finished]
    rfl

theorem host_after (m : Machine H) (k : Nat) :
    (m.after k).host = (m.calls k).foldl (fun host c => (Host.serve c.1 c.2 host).2) m.host := by
  induction k with
  | zero => rfl
  | succ k ih =>
    rw [after, host_step, calls_succ, List.foldl_append, ← ih]
    cases (m.after k).nextCall? <;> rfl

theorem log_foldl (log : Array (HostCall × Registers)) (cs : List (HostCall × Context)) :
    (cs.foldl (fun host c => (Host.serve c.1 c.2 host).2) (Recorder.mk log)).log.toList =
      log.toList ++ cs.map fun c => (c.1, c.2.registers) := by
  induction cs generalizing log with
  | nil => simp
  | cons c cs ih =>
    exact (ih (log.push (c.1, c.2.registers))).trans (by simp)

theorem run_mapHost [Host K] (f : HostMap H K) (m : Machine H) (limit : Nat) :
    (m.mapHost f).run limit = Prod.map id (mapHost f) (m.run limit) := by
  induction limit generalizing m with
  | zero => rfl
  | succ limit ih =>
    rw [run_succ, run_succ, step_mapHost, Prod.map_fst, Prod.map_snd, ih, id]
    cases m.step.1 <;> rfl

theorem after_mapHost [Host K] (f : HostMap H K) (m : Machine H) (k : Nat) :
    (m.mapHost f).after k = (m.after k).mapHost f := by
  rw [← run_snd_eq_after, run_mapHost, Prod.map_snd, run_snd_eq_after]

theorem calls_withHost (leaves : Host.LeavesContext H) (m : Machine H) (k : Nat) :
    (m.withHost Silent.mk).calls k = m.calls k := by
  have same (j : Nat) : ((m.withHost Silent.mk).after j).nextCall? = (m.after j).nextCall? := by
    rw [show m.withHost Silent.mk = m.mapHost leaves.silence from rfl, after_mapHost]
    rfl
  simp only [calls, same]

/-- A host that leaves registers and memory alone is not noticed by the machine, and it sees the calls of the
run, each once and in order, with what the machine holds at that moment; it sees no other instruction. -/
theorem host_sees_calls (leaves : Host.LeavesContext H) (m : Machine H) (k : Nat) :
    let silent := m.withHost Silent.mk
    ((m.run k).1 = (silent.run k).1 ∧ (m.run k).2.withHost Silent.mk = (silent.run k).2) ∧
      (m.run k).2.host =
        (silent.calls k).foldl (fun host c => (Host.serve c.1 c.2 host).2) m.host ∧
      ((m.withHost (Recorder.mk #[])).run k).2.host.log.toList =
        (silent.calls k).map (fun c => (c.1, c.2.registers)) ∧
      (∀ (i : Instruction) call, i.hostCall? = some call ↔ i = .ecall (Service.host call).code) ∧
      ∀ i : Instruction, i.hostCall?.isSome = i.callsHost := by
  intro silent
  have unseen : silent.run k = Prod.map id (mapHost leaves.silence) (m.run k) :=
    run_mapHost leaves.silence m k
  refine ⟨⟨?_, ?_⟩, ?_, ?_, fun i call => Instruction.hostCall?_eq_some, Instruction.isSome_hostCall?⟩
  · rw [unseen]
    rfl
  · rw [unseen]
    rfl
  · rw [run_snd_eq_after, host_after, calls_withHost leaves]
  · rw [run_snd_eq_after, host_after, log_foldl,
      ← calls_withHost Recorder.leavesContext (m.withHost (Recorder.mk #[]))]
    exact List.nil_append _

def fallingTone {H : Type} (host : H) : Machine H :=
  start #[.immediate .li a0 2, .ecall 4, .ecall 11, .immediate .addi a0 (-1), .branch .nonzero a0 0 (-3),
    .ecall 7, .ecall Instruction.exitCode] { image := .empty } host

theorem host_sees_calls_fallingTone :
    Host.LeavesContext Recorder ∧
      ((fallingTone (Recorder.mk #[])).run 20).1 = 11 ∧
      ((fallingTone (Recorder.mk #[])).run 20).2.host.log.toList.map
          (fun entry => (entry.1, entry.2.read a0)) =
        [(.playTone, 2), (.playTone, 1), (.readKeyboard, 0)] := by
  obtain ⟨⟨count, -⟩, -, log, -⟩ :=
    host_sees_calls Recorder.leavesContext (fallingTone (Recorder.mk #[])) 20
  have recorded : ((fallingTone (Recorder.mk #[])).run 20).2.host.log.toList = _ := log
  exact ⟨Recorder.leavesContext, count.trans (by decide +kernel), recorded ▸ by decide +kernel⟩

end Machine

end Z16
