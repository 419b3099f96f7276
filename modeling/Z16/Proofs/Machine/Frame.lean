import Z16.Proofs.Machine.Commands
import Z16.Proofs.Machine.Stores
import Z16.Proofs.Word

/-!
# What an instruction may change

An instruction names what it may change beside `pc`: a register, some addresses, the host, the halted flag
(`Instruction.footprint`). Executing it leaves everything else as it was (`Machine.execute_frame`). What a call
may change depends on the host that answers it; a console may change `a0` and the bytes of the buffer that it
reads a string into.
-/

namespace Z16

structure Footprint where
  register? : Option UInt8 := none
  addresses : List Word := []
  host : Bool := false
  halted : Bool := false
  deriving DecidableEq, Repr

theorem Registers.read_write_of_ne (regs : Registers) {r s : UInt8} (v : Word) (ne : slot r ≠ slot s) :
    (regs.write r v).read s = regs.read s := by
  rw [read_write, if_neg ne]

namespace Memory

/-- The addresses of `count` bytes from `a` on; the address after the last is 0. -/
def window (a : Word) (count : Nat) : List Word := (List.range count).map fun i => a + .ofNat i

theorem window_zero (a : Word) : window a 0 = [] := rfl

theorem window_succ (a : Word) (count : Nat) : window a (count + 1) = a :: window (a + 1) count := by
  have shifted (i : Nat) : a + UInt16.ofNat (i + 1) = a + 1 + .ofNat i := by
    rw [Nat.add_comm i, UInt16.ofNat_add, UInt16.add_assoc]
    rfl
  rw [window, List.range_succ_eq_map, List.map_cons, List.map_map]
  exact congrArg₂ _ (UInt16.add_zero a) (List.map_congr_left fun i _ => shifted i)

theorem window_subset (a : Word) {count larger : Nat} (le : count ≤ larger) :
    window a count ⊆ window a larger :=
  List.map_subset _ (List.range_subset.2 le)

theorem addresses_consecutive (a : Word) (bs : List Byte) :
    (consecutive a bs).map Prod.fst = window a bs.length := by
  induction bs generalizing a with
  | nil => rfl
  | cons b bs ih => rw [consecutive, List.map_cons, ih, List.length_cons, window_succ]

theorem load8_storeAll_of_notMem (m : Memory) {a : Word} {stores : List (Word × Byte)}
    (notMem : a ∉ stores.map Prod.fst) : (m.storeAll stores).load8 a = m.load8 a := by
  induction stores generalizing m with
  | nil => rfl
  | cons s stores ih =>
    obtain ⟨ne, later⟩ := not_or.1 (List.mem_cons.not.1 notMem)
    exact (ih (m.store8 s.1 s.2) later).trans (by rw [load8_store8, if_neg (Ne.symm ne)])

end Memory

structure Context.ChangesOnly (context next : Context) (f : Footprint) : Prop where
  registers : ∀ r, (∀ d ∈ f.register?, Registers.slot d ≠ Registers.slot r) →
    next.registers.read r = context.registers.read r
  memory : ∀ a ∉ f.addresses, next.memory.load8 a = context.memory.load8 a
  image : next.memory.image = context.memory.image

namespace Context.ChangesOnly

variable {context : Context} {f : Footprint}

theorem refl : context.ChangesOnly context f := ⟨fun _ _ => rfl, fun _ _ => rfl, rfl⟩

theorem write {r : UInt8} (named : f.register? = some r) (v : Word) :
    context.ChangesOnly { context with registers := context.registers.write r v } f where
  registers _ ne := context.registers.read_write_of_ne v (ne r named)
  memory _ _ := rfl
  image := rfl

theorem storeAll {stores : List (Word × Byte)} (inside : stores.map Prod.fst ⊆ f.addresses) :
    context.ChangesOnly { context with memory := context.memory.storeAll stores } f where
  registers _ _ := rfl
  memory _ notMem := context.memory.load8_storeAll_of_notMem fun mem => notMem (inside mem)
  image := context.memory.storeAll_image stores

theorem trans {next last : Context} (first : context.ChangesOnly next f) (second : next.ChangesOnly last f) :
    context.ChangesOnly last f where
  registers r ne := (second.registers r ne).trans (first.registers r ne)
  memory a notMem := (second.memory a notMem).trans (first.memory a notMem)
  image := second.image.trans first.image

end Context.ChangesOnly

def Host.StaysWithin (H : Type) [Host H] (calls : UInt16 → Registers → Footprint) : Prop :=
  ∀ (call : HostCall) (context : Context) (host : H),
    let f := calls (Service.host call).code context.registers
    let (next, host') := Host.serve call context host
    context.ChangesOnly next f ∧ (f.host = false → host' = host)

def Silent.footprint (_code : UInt16) (_regs : Registers) : Footprint := {}

theorem Silent.staysWithin : Host.StaysWithin Silent footprint :=
  fun _ _ _ => ⟨.refl, fun _ => rfl⟩

namespace Console

def footprint (code : UInt16) (regs : Registers) : Footprint where
  register? := if code ∈ [1, 2, 7] then some a0 else none
  addresses := if code = 1 then Memory.window (regs.read a0) (regs.read a1).toNat else []
  host := 1 ≤ code ∧ code ≤ 9

theorem registers_readString (context : Context) (c : Console) :
    ∃ v, (readString context c).1.registers = context.registers.write a0 v := by
  simp only [readString]
  split <;> exact ⟨_, rfl⟩

theorem addresses_stores (context : Context) (c : Console) :
    (stores .readString context c).map Prod.fst ⊆
      Memory.window (context.registers.read a0) (context.registers.read a1).toNat := by
  by_cases none : (context.registers.read a1).toNat = 0
  · simp [stores, none]
  · simp only [stores, none, ne_eq, not_false_eq_true, and_self, if_true, Memory.addresses_consecutive]
    apply Memory.window_subset
    simp only [List.length_append, List.length_take, List.length_singleton]
    omega

theorem staysWithin : Host.StaysWithin Console footprint := by
  intro call context c
  refine ⟨?_, fun never => ?_⟩
  · cases call with
    | readString =>
      have stored : (readString context c).1.memory = context.memory.storeAll (stores _ context c) :=
        StoringHost.memory_serve HostCall.readString context c
      obtain ⟨v, written⟩ := registers_readString context c
      have after : (readString context c).1 = ⟨_, _⟩ := congrArg₂ Context.mk written stored
      show context.ChangesOnly (readString context c).1 _
      rw [after]
      exact .trans (.write rfl v) (.storeAll (addresses_stores context c))
    | readInteger | readKeyboard => exact .write rfl _
    | printString | playTone | setAudioVolume | stopAudio | registersDump | memoryDump => exact .refl
  · cases call <;> cases never

end Console

def Registers.address (regs : Registers) (base : UInt8) (offset : Int8) : Word :=
  .ofInt ((regs.read base).toNat + offset.toInt)

theorem Registers.address_eq (regs : Registers) (base : UInt8) (offset : Int8) :
    regs.address base offset = regs.read base + offset.toInt16.toUInt16 := by
  rw [address, UInt16.ofInt_add, Word.ofInt_toNat, ← Int8.toInt_toInt16, Word.ofInt_toInt]

theorem StoreOp.apply_eq (op : StoreOp) (m : Memory) (a v : Word) :
    op.apply m a v = m.storeAll (op.stores a v) := by
  cases op <;> rfl

def StoreOp.width : StoreOp → Nat
  | .sb => 1
  | .sw => 2

theorem StoreOp.addresses_stores (op : StoreOp) (a v : Word) :
    (op.stores a v).map Prod.fst = Memory.window a op.width := by
  cases op <;> simp [stores, width, Memory.window_succ, Memory.window_zero]

namespace Instruction

def destination? : Instruction → Option UInt8
  | .alu _ rd _ | .jalr rd _ | .immediate _ rd _ | .sltui rd _ | .shift _ rd _ | .load _ rd _ _
  | .jal rd _ | .upper _ rd _ => some rd
  | .jr _ | .branch .. | .store .. | .j _ | .ecall _ | .unknown _ => none

def footprint (calls : UInt16 → Registers → Footprint) (regs : Registers) (i : Instruction) : Footprint :=
  match i with
  | .store op _ base offset => { addresses := Memory.window (regs.address base offset) op.width }
  | .ecall code => { calls code regs with halted := code = exitCode }
  | _ => { register? := i.destination? }

def callsHost : Instruction → Bool
  | .ecall code => 1 ≤ code ∧ code ≤ 9
  | _ => false

def idles (regs : Registers) : Instruction → Bool
  | .branch condition rs1 rs2 _ => !condition.holds (regs.read rs1) (regs.read rs2)
  | .ecall code => code = 0 ∨ exitCode < code
  | .unknown _ => true
  | _ => false

end Instruction

theorem Service.ofCode?_eq_none {code : UInt16} (unknown : code = 0 ∨ Instruction.exitCode < code) :
    ofCode? code = none := by
  cases known : ofCode? code with
  | none => rfl
  | some s =>
    obtain rfl := ofCode?_eq_some.1 known
    have within : s.code ≠ 0 ∧ ¬Instruction.exitCode < s.code := by
      rcases s with call | _
      · cases call <;> decide
      · decide
    exact absurd unknown (not_or.2 within)

namespace Machine

variable {H : Type} {m next : Machine H} {f : Footprint}

structure ChangesOnly (m next : Machine H) (f : Footprint) : Prop
    extends m.toContext.ChangesOnly next.toContext f where
  program : next.program = m.program
  paused : next.paused = m.paused
  host : f.host = false → next.host = m.host
  halted : f.halted = false → next.halted = m.halted

namespace ChangesOnly

theorem refl : m.ChangesOnly m f := ⟨.refl, rfl, rfl, fun _ => rfl, fun _ => rfl⟩

theorem goTo (only : m.ChangesOnly next f) (target : Int) : m.ChangesOnly (next.goTo target) f :=
  ⟨only.toChangesOnly, only.program, only.paused, only.host, only.halted⟩

theorem writeRegister {r : UInt8} (named : f.register? = some r) (v : Word) :
    m.ChangesOnly (m.writeRegister r v) f :=
  ⟨.write named v, rfl, rfl, fun _ => rfl, fun _ => rfl⟩

theorem storeAll {stores : List (Word × Byte)} (inside : stores.map Prod.fst ⊆ f.addresses) :
    m.ChangesOnly { m with memory := m.memory.storeAll stores } f :=
  ⟨.storeAll inside, rfl, rfl, fun _ => rfl, fun _ => rfl⟩

end ChangesOnly

variable [Host H] {calls : UInt16 → Registers → Footprint}

theorem call_changesOnly {code : UInt16}
    (within : (Instruction.ecall code).callsHost = true → Host.StaysWithin H calls) (m : Machine H) :
    m.ChangesOnly (m.call code) ((Instruction.ecall code).footprint calls m.registers) := by
  unfold call
  cases known : Service.ofCode? code with
  | none => exact .refl
  | some s =>
    obtain rfl := Service.ofCode?_eq_some.1 known
    cases s with
    | programExit => exact ⟨.refl, rfl, rfl, fun _ => rfl, fun never => by cases never⟩
    | host call =>
      have answered : (Instruction.ecall (Service.host call).code).callsHost = true := by
        cases call <;> rfl
      obtain ⟨⟨registers, memory, image⟩, host⟩ := within answered call m.toContext m.host
      exact ⟨⟨registers, memory, image⟩, rfl, rfl, host, fun _ => by simp⟩

theorem advance_changesOnly (m : Machine H) (index : Nat) (i : Instruction)
    (within : i.callsHost = true → Host.StaysWithin H calls) :
    m.ChangesOnly (m.advance index i) (i.footprint calls m.registers) := by
  show m.ChangesOnly ((m.effect index i).1.goTo (m.effect index i).2) _
  refine ChangesOnly.goTo ?_ _
  cases i with
  | alu | jalr | immediate | sltui | shift | load | jal | upper => exact .writeRegister rfl _
  | jr | branch | j | unknown => exact .refl
  | store op rs base offset =>
    have stored : (m.effect index (.store op rs base offset)).1 =
        { m with
          memory := m.memory.storeAll
            (op.stores (m.registers.address base offset) (m.registers.read rs)) } := by
      rw [Registers.address_eq, ← StoreOp.apply_eq]
      rfl
    rw [stored]
    exact .storeAll (op.addresses_stores _ _ ▸ List.Subset.refl _)
  | ecall code => exact call_changesOnly within m

theorem effect_of_idles {i : Instruction} (idles : i.idles m.registers = true) (index : Nat) :
    m.effect index i = (m, (index + 1 : Int)) := by
  cases i with
  | branch condition rs1 rs2 offset =>
    have untaken : condition.holds (m.registers.read rs1) (m.registers.read rs2) = false := by
      simpa [Instruction.idles] using idles
    simp [effect, untaken]
  | ecall code =>
    have unknown : Service.ofCode? code = none :=
      Service.ofCode?_eq_none (by simpa [Instruction.idles] using idles)
    have goesOn : code ≠ Instruction.exitCode := by
      rintro rfl
      cases unknown
    simp [effect, call, unknown, goesOn]
  | unknown word => rfl
  | _ => cases idles

theorem advance_of_idles {i : Instruction} {index : Nat} (inside : index < m.program.size)
    (idles : i.idles m.registers = true) : m.advance index i = { m with pc := index + 1 } := by
  rw [advance, effect_of_idles idles]
  have within : (0 : Int) ≤ index + 1 ∧ (index + 1 : Int) ≤ m.program.size := by omega
  simp only [goTo, if_pos within]
  rfl

/-- Executing an instruction changes nothing beside `pc` and what the instruction names. -/
theorem execute_frame :
    (∀ (m : Machine Silent) (index : Nat) (i : Instruction), m.program[index]? = some i →
      ∃ next, m.execute index = .ok next ∧
        m.ChangesOnly next (i.footprint Silent.footprint m.registers)) ∧
    (∀ (m : Machine Console) (index : Nat) (i : Instruction), m.program[index]? = some i →
      ∃ next, m.execute index = .ok next ∧
        m.ChangesOnly next (i.footprint Console.footprint m.registers)) ∧
    ∀ (H : Type) [Host H] (m : Machine H) (index : Nat) (i : Instruction),
      m.program[index]? = some i → i.idles m.registers = true →
        m.execute index = .ok { m with pc := index + 1 } := by
  refine ⟨fun m index i found => ?_, fun m index i found => ?_, fun H _ m index i found idles => ?_⟩
  · exact ⟨_, execute_of_found found, m.advance_changesOnly index i fun _ => Silent.staysWithin⟩
  · exact ⟨_, execute_of_found found, m.advance_changesOnly index i fun _ => Console.staysWithin⟩
  · obtain ⟨inside, -⟩ := Array.getElem?_eq_some_iff.1 found
    rw [execute_of_found found, advance_of_idles inside idles]

def wrapping {H : Type} (host : H) : Machine H :=
  let m := start #[.store .sw 1 a0 1, .ecall 1, .ecall 11] { image := .empty } host
  ((m.writeRegister 1 0x1234).writeRegister a0 0xFFFE).writeRegister a1 4

theorem execute_frame_wrapping :
    let silent := wrapping Silent.mk
    let console := wrapping ({ lines := ["abcdef"] } : Console)
    (∃ next, silent.execute 0 = .ok next ∧
      (∀ a ∉ [0xFFFF, 0], next.memory.load8 a = silent.memory.load8 a) ∧
      ∀ r, next.registers.read r = silent.registers.read r) ∧
    (∃ next, console.execute 1 = .ok next ∧
      (∀ a ∉ [0xFFFE, 0xFFFF, 0, 1], next.memory.load8 a = console.memory.load8 a) ∧
      next.registers.read a0 = 3 ∧ next.registers.read a1 = 4 ∧ next.host = { lines := [] }) ∧
    console.execute 2 = .ok { console with pc := 3 } := by
  intro silent console
  obtain ⟨frameSilent, frameConsole, frameIdle⟩ := execute_frame
  refine ⟨?_, ?_, frameIdle Console console 2 (.ecall 11) rfl rfl⟩
  · obtain ⟨next, ran, only⟩ := frameSilent silent 0 (.store .sw 1 a0 1) rfl
    have stored : Memory.window (silent.registers.address a0 1) StoreOp.sw.width = [0xFFFF, 0] := by
      decide +kernel
    exact ⟨next, ran, stored ▸ only.memory, fun r => only.registers r nofun⟩
  · have found : console.program[1]? = some (.ecall 1) := rfl
    obtain ⟨next, ran, only⟩ := frameConsole console 1 _ found
    have buffer : Memory.window (console.registers.read a0) (console.registers.read a1).toNat =
        [0xFFFE, 0xFFFF, 0, 1] := by decide +kernel
    have other : ∀ d ∈ some a0, Registers.slot d ≠ Registers.slot a1 := by
      rintro _ ⟨⟩
      decide
    obtain rfl := Except.ok.inj (ran.symm.trans (execute_of_found found))
    exact ⟨_, ran, buffer ▸ only.memory, by decide +kernel, only.registers a1 other, by decide +kernel⟩

end Machine

end Z16
