import Z16.Proofs.Machine.Commands
import Z16.Proofs.Machine.Stores
import Z16.Proofs.Transcript

namespace Z16

inductive Operation (H : Type) where
  | command (c : Command)
  | host (change : H → H)

def Command.executes : Command → Bool
  | .step | .run _ | .execute _ => true
  | _ => false

namespace Machine

variable {H : Type} [Host H]

def operate (m : Machine H) : Operation H → Reply × Machine H
  | .command c => m.perform c
  | .host change => (.done, { m with host := change m.host })

def operateAll (m : Machine H) (ops : List (Operation H)) : Machine H := Transcript.last operate m ops

theorem perform_keeps (holds : Machine H → Prop)
    (advance : ∀ {m : Machine H} {index i}, m.program[index]? = some i → holds m →
      holds (m.advance index i))
    (other : ∀ {m : Machine H} {c}, c.executes = false → holds m → holds (m.perform c).2)
    {m : Machine H} (h : holds m) (c : Command) : holds (m.perform c).2 := by
  have step {m : Machine H} (h : holds m) : holds m.step.2 := by
    rcases m.fetches_or_finished with ⟨i, fetches⟩ | finished
    · rw [step_of_fetches fetches]
      exact advance fetches.2 h
    · rwa [step_of_finished finished]
  cases c with
  | step => exact step h
  | run limit => exact run_keeps holds step h limit
  | execute index =>
    cases found : m.program[index]? with
    | some i =>
      rw [perform_execute found]
      exact advance found h
    | none => rwa [perform_execute_outside (Array.getElem?_eq_none_iff.1 found)]
  | seek | pause | resume | toggle | reset | write => exact other rfl h

theorem operateAll_keeps (holds : Machine H → Prop)
    (perform : ∀ {m : Machine H} (c), holds m → holds (m.perform c).2)
    (host : ∀ {m : Machine H} (h : H), holds m → holds { m with host := h })
    {m : Machine H} (h : holds m) (ops : List (Operation H)) : holds (m.operateAll ops) := by
  refine Transcript.last_keeps holds (fun m op h => ?_) h ops
  cases op with
  | command c => exact perform c h
  | host change => exact host _ h

theorem operateAll_program (m : Machine H) (ops : List (Operation H)) :
    (m.operateAll ops).program = m.program :=
  operateAll_keeps (fun n => n.program = m.program)
    (fun c same => (perform_program _ c).trans same) (fun _ same => same) rfl ops

theorem operateAll_image (keeps : Host.KeepsImage H) (m : Machine H) (ops : List (Operation H)) :
    (m.operateAll ops).memory.image = m.memory.image := by
  refine operateAll_keeps (fun n => n.memory.image = m.memory.image) (fun c same => ?_)
    (fun _ same => same) rfl ops
  refine perform_keeps (fun n => n.memory.image = m.memory.image)
    (fun _ same => (image_advance keeps _ _ _).trans same) (fun {n c} other same => ?_) same c
  cases c with
  | step | run | execute => cases other
  | seek | pause | resume | toggle | reset | write => exact same

structure View (H : Type) where
  snapshot : Snapshot
  program : Array Instruction
  image : Image
  load8 : Word → Byte
  host : H

def view (m : Machine H) : View H where
  snapshot := m.snapshot
  program := m.program
  image := m.memory.image
  load8 := m.memory.load8
  host := m.host

def observe (m : Machine H) (op : Operation H) : (Reply × View H) × Machine H :=
  let (reply, next) := m.operate op
  ((reply, next.view), next)

omit [Host H] in
theorem reset_eq_start (m : Machine H) : m.reset = start m.program { image := m.memory.image } m.host :=
  rfl

/-- After a reset a machine cannot be told from a new one, whatever was done with it before. Of what was done
only the state of the host is left. -/
theorem reset_restores_start (m : Machine H) (past : List (Operation H)) :
    let last := m.operateAll past
    let fresh := start m.program { image := last.memory.image } last.host
    last.reset = fresh ∧
      (∀ ops, Transcript.answers observe last.reset ops = Transcript.answers observe fresh ops) ∧
      (Host.KeepsImage H → last.memory.image = m.memory.image) ∧
      ∀ (other : Machine H) (past' : List (Operation H)),
        let last' := other.operateAll past'
        other.program = m.program → last'.memory.image = last.memory.image →
          (last'.reset = last.reset ↔ last'.host = last.host) := by
  intro last fresh
  have program : last.program = m.program := operateAll_program m past
  have restored : last.reset = fresh := by rw [reset_eq_start, program]
  refine ⟨restored, fun ops => by rw [restored], fun keeps => operateAll_image keeps m past, ?_⟩
  intro other past' last' same image
  have program' : last'.program = m.program := (operateAll_program other past').trans same
  constructor
  · intro equal
    exact congrArg (·.host) equal
  · intro host
    rw [reset_eq_start, reset_eq_start, program, program', image, host]

def reader : Machine Console :=
  start #[.immediate .li 6 5, .immediate .li 7 3, .ecall 1, .ecall Instruction.exitCode]
    (({ image := .empty } : Memory).store8 5 7) { lines := ["ab", "c"] }

theorem reset_restores_start_reader :
    let last := reader.operateAll [.command (.run 9), .host (·.pushLine "d"), .command .toggle]
    let fresh := start reader.program { image := last.memory.image } last.host
    Host.KeepsImage Console ∧ last.memory.image = .empty ∧ last.halted = true ∧
      last.host = { lines := ["c", "d"] } ∧ last.reset = fresh ∧
      (last.reset = reader.reset ↔ last.host = reader.host) ∧ last.reset ≠ reader.reset := by
  intro last fresh
  have keeps : Host.KeepsImage Console := StoringHost.keepsImage Console
  have halted : last.halted = true := by decide +kernel
  have host : last.host = { lines := ["c", "d"] } := by decide +kernel
  obtain ⟨restored, -, image, survives⟩ := reset_restores_start reader
    [.command (.run 9), .host (·.pushLine "d"), .command .toggle]
  have only := survives reader [] rfl (image keeps).symm
  refine ⟨keeps, image keeps, halted, host, restored, ?_, ?_⟩
  · exact eq_comm.trans (only.trans eq_comm)
  intro same
  have equal : reader.host = last.host := only.1 same.symm
  rw [host] at equal
  exact absurd equal (by decide)

end Machine

end Z16
