import Z16.Proofs.Image.ProgramWords
import Z16.Proofs.Listing.Program
import Z16.Proofs.Machine.Operations

/-!
# The history of a machine

The history of a machine lists what its operations did, in order: the instructions executed, the bytes stored
and the resets. A load reads the byte that the history stored last (`Occurrence.load8_replayAll`), whereas the
instructions of a loaded program are those of its image, whatever is stored over them
(`Machine.fetches_from_image`).
-/

namespace Z16

inductive Occurrence where
  | executed (index : Nat) (i : Instruction)
  | stored (a : Word) (v : Byte)
  | reset
  deriving DecidableEq, Repr

namespace Occurrence

def replay (m : Memory) : Occurrence → Memory
  | .executed .. => m
  | .stored a v => m.store8 a v
  | .reset => m.reset

def replayAll (m : Memory) (history : List Occurrence) : Memory := history.foldl replay m

theorem replayAll_append (m : Memory) (xs ys : List Occurrence) :
    replayAll m (xs ++ ys) = replayAll (replayAll m xs) ys :=
  List.foldl_append

theorem replay_image (m : Memory) (o : Occurrence) : (replay m o).image = m.image := by
  cases o <;> rfl

theorem replayAll_image (m : Memory) (history : List Occurrence) :
    (replayAll m history).image = m.image :=
  List.foldlRecOn (motive := fun n : Memory => n.image = m.image) history _ rfl
    fun n same o _ => (replay_image n o).trans same

def Leaves (a : Word) : Occurrence → Prop
  | .executed .. => True
  | .stored b _ => b ≠ a
  | .reset => False

end Occurrence

open Occurrence

def StoredLast (history : List Occurrence) (a : Word) (v : Byte) : Prop :=
  ∃ before later, history = before ++ .stored a v :: later ∧ ∀ o ∈ later, o.Leaves a

theorem storedLast_concat {history : List Occurrence} {o : Occurrence} {a : Word} {v : Byte} :
    StoredLast (history ++ [o]) a v ↔ o = .stored a v ∨ StoredLast history a v ∧ o.Leaves a := by
  have current := Transcript.exists_current_concat (fun _ x => x = .stored a v) (Leaves a) history o
  simp only [and_left_comm (b := _ = Occurrence.stored a v), exists_and_left, exists_eq_left] at current
  exact current

namespace Occurrence

theorem load8_replayAll (image : Image) (history : List Occurrence) (a : Word) (v : Byte) :
    (replayAll { image } history).load8 a = v ↔
      StoredLast history a v ∨ (∀ w, ¬StoredLast history a w) ∧ image.read a = v := by
  -- The last occurrence comes first, since a store or a reset makes up for all before.
  induction history using List.reverseRecOn generalizing v with
  | nil =>
    have nothing (w : Byte) : ¬StoredLast [] a w := by
      rintro ⟨before, later, split, -⟩
      simp at split
    simp [nothing, replayAll, Memory.load8]
  | append_singleton history o ih =>
    rw [replayAll_append]
    simp only [storedLast_concat]
    cases o with
    | executed index i =>
      show (replayAll { image } history).load8 a = v ↔ _
      simp [ih, Leaves]
    | stored b w =>
      show ((replayAll { image } history).store8 b w).load8 a = v ↔ _
      by_cases same : b = a
      · simp [same, Leaves]
      · simp [same, ih, Leaves]
    | reset =>
      show (replayAll { image } history).reset.load8 a = v ↔ _
      simp [replayAll_image, Leaves]

end Occurrence

namespace Machine

variable {H : Type} [Host H] [StoringHost H]

def executing (m : Machine H) (index : Nat) : List Occurrence :=
  match m.program[index]? with
  | some i => .executed index i :: (m.stores i).map fun s => .stored s.1 s.2
  | none => []

def stepHistory (m : Machine H) : List Occurrence := if m.halted then [] else m.executing m.pc

def runHistory (m : Machine H) : (limit : Nat) → List Occurrence
  | 0 => []
  | limit + 1 => m.stepHistory ++ m.step.2.runHistory limit

def operationHistory (m : Machine H) : Operation H → List Occurrence
  | .command .step => m.stepHistory
  | .command (.run limit) => m.runHistory limit
  | .command (.execute index) => m.executing index
  | .command .reset => [.reset]
  | _ => []

def history (m : Machine H) : List (Operation H) → List Occurrence
  | [] => []
  | op :: ops => m.operationHistory op ++ (m.operate op).2.history ops

theorem memory_executing {m : Machine H} {index : Nat} {i : Instruction}
    (found : m.program[index]? = some i) :
    (m.advance index i).memory = replayAll m.memory (m.executing index) := by
  rw [memory_advance, executing, found, Memory.storeAll, replayAll, List.foldl_cons, List.foldl_map]
  rfl

theorem memory_step (m : Machine H) : m.step.2.memory = replayAll m.memory m.stepHistory := by
  rcases m.fetches_or_finished with ⟨i, fetches⟩ | finished
  · rw [step_of_fetches fetches, stepHistory, fetches.1, memory_executing fetches.2]
    rfl
  · have nothing : m.stepHistory = [] := by
      rcases finished with halted | past
      · rw [stepHistory, if_pos halted]
      · simp [stepHistory, executing, past]
    rw [step_of_finished finished, nothing]
    rfl

theorem memory_after (m : Machine H) (k : Nat) :
    (m.after k).memory = replayAll m.memory (m.runHistory k) := by
  induction k generalizing m with
  | zero => rfl
  | succ k ih => rw [after_succ_eq, ih, memory_step, runHistory, replayAll_append]

theorem memory_operate (m : Machine H) (op : Operation H) :
    (m.operate op).2.memory = replayAll m.memory (m.operationHistory op) := by
  cases op with
  | host change => rfl
  | command c =>
    cases c with
    | step => exact m.memory_step
    | run limit =>
      show (m.run limit).2.memory = _
      rw [run_snd_eq_after, memory_after]
      rfl
    | execute index =>
      show (m.perform (.execute index)).2.memory = replayAll m.memory (m.executing index)
      cases found : m.program[index]? with
      | some i => rw [perform_execute found, memory_executing found]
      | none =>
        rw [perform_execute_outside (Array.getElem?_eq_none_iff.1 found), executing, found]
        rfl
    | seek | pause | resume | toggle | reset | write => rfl

theorem memory_operateAll (m : Machine H) (ops : List (Operation H)) :
    (m.operateAll ops).memory = replayAll m.memory (m.history ops) := by
  induction ops generalizing m with
  | nil => rfl
  | cons op ops ih => exact (ih _).trans (by rw [memory_operate, history, replayAll_append])

theorem program_of_executing {m : Machine H} {n index : Nat} {i : Instruction}
    (executed : .executed index i ∈ m.executing n) : m.program[index]? = some i := by
  unfold executing at executed
  cases found : m.program[n]? with
  | none => simp [found] at executed
  | some fetched =>
    obtain ⟨rfl, rfl⟩ : index = n ∧ i = fetched := by simpa [found] using executed
    exact found

theorem program_of_stepHistory {m : Machine H} {index : Nat} {i : Instruction}
    (executed : .executed index i ∈ m.stepHistory) : m.program[index]? = some i := by
  unfold stepHistory at executed
  split at executed
  next => cases executed
  next => exact program_of_executing executed

theorem program_of_runHistory {m : Machine H} {limit index : Nat} {i : Instruction}
    (executed : .executed index i ∈ m.runHistory limit) : m.program[index]? = some i := by
  induction limit generalizing m with
  | zero => cases executed
  | succ limit ih =>
    rcases List.mem_append.1 executed with now | later
    · exact program_of_stepHistory now
    · exact m.step_keeps.1 ▸ ih later

theorem program_of_history {m : Machine H} {ops : List (Operation H)} {index : Nat} {i : Instruction}
    (executed : .executed index i ∈ m.history ops) : m.program[index]? = some i := by
  induction ops generalizing m with
  | nil => cases executed
  | cons op ops ih =>
    rcases List.mem_append.1 executed with now | later
    · cases op with
      | host change => cases now
      | command c =>
        cases c with
        | step => exact program_of_stepHistory now
        | run limit => exact program_of_runHistory now
        | execute n => exact program_of_executing now
        | reset => simp [operationHistory] at now
        | seek | pause | resume | toggle | write => cases now
    · have same : (m.operate op).2.program = m.program := operateAll_program m [op]
      exact same ▸ ih later

omit [Host H] [StoringHost H] in
theorem program_ofImage {image : Image} {host : H} {index : Nat} {i : Instruction}
    (found : (ofImage image host).program[index]? = some i) :
    Region.programStart + 2 * index + 1 < min image.bytes.size Region.mmioStart ∧
      i = decodeOrUnknown (image.wordAt (Region.programStart + 2 * index)) := by
  have decoded : (throughExit image.programWords)[index]?.map decodeOrUnknown = some i := by
    rwa [ofImage, start, List.getElem?_toArray, Listing.program_ofWords, List.getElem?_map] at found
  obtain ⟨w, word, rfl⟩ := Option.map_eq_some_iff.1 decoded
  have loaded : image.programWords[index]? = some w := by
    obtain ⟨rest, split⟩ := throughExit_sublist image.programWords
    rw [← split, List.getElem?_append_left (List.getElem?_eq_some_iff.1 word).1, word]
  rw [Image.getElem?_programWords] at loaded
  split at loaded
  next inside => exact ⟨inside, congrArg decodeOrUnknown (Option.some.inj loaded).symm⟩
  next => cases loaded

/-- A machine executes the instructions of the image that it was loaded from, whatever was stored over them,
and loads what was stored. -/
theorem fetches_from_image (image : Image) (host : H) (ops : List (Operation H)) :
    let m := (ofImage image host).operateAll ops
    let past := (ofImage image host).history ops
    (∀ index i, .executed index i ∈ past →
      33 + 2 * index < min image.bytes.size 0xF000 ∧
        i = decodeOrUnknown (image.wordAt (32 + 2 * index))) ∧
      (∀ index < m.program.size,
        m.execute index = .ok (m.advance index (decodeOrUnknown (image.wordAt (32 + 2 * index))))) ∧
      (¬m.Finished → m.step = (true, m.advance m.pc (decodeOrUnknown (image.wordAt (32 + 2 * m.pc))))) ∧
      m.memory.image = image ∧
      ∀ a v, m.memory.load8 a = v ↔
        StoredLast past a v ∨ (∀ w, ¬StoredLast past a w) ∧ image.read a = v := by
  intro m past
  have program : m.program = (ofImage image host).program := operateAll_program _ ops
  have fetched {index : Nat} {i : Instruction} (found : m.program[index]? = some i) :
      33 + 2 * index < min image.bytes.size 0xF000 ∧
        i = decodeOrUnknown (image.wordAt (32 + 2 * index)) := by
    have loaded := program_ofImage (program ▸ found)
    rwa [Nat.add_right_comm] at loaded
  have memory : m.memory = replayAll { image } past := memory_operateAll _ ops
  refine ⟨fun index i executed => fetched (program ▸ program_of_history executed), ?_, ?_, ?_, ?_⟩
  · intro index inside
    have found := Array.getElem?_eq_getElem inside
    rw [execute, found, ← (fetched found).2]
  · intro unfinished
    obtain ⟨i, fetches⟩ := (fetches_or_finished m).resolve_right unfinished
    rw [step_of_fetches fetches, ← (fetched fetches.2).2]
  · rw [memory, replayAll_image]
  · intro a v
    rw [memory]
    exact load8_replayAll image past a v

/-- An image of a loop that reads a line into its own first words. -/
def rewritten : Image :=
  ⟨Array.replicate 32 0 ++ (bytesOfWords [0x41B9, 0x07F9, 0x0047, 0x7E2D]).toArray, by decide⟩

theorem fetches_from_image_rewritten :
    let ops : List (Operation Console) := [.command (.run 5)]
    let m := (ofImage rewritten { lines := ["ab"] }).operateAll ops
    let past := (ofImage rewritten { lines := ["ab"] }).history ops
    let first := decodeOrUnknown (rewritten.wordAt 32)
    first = .immediate .li 6 32 ∧ .executed 0 first ∈ past.drop 7 ∧
      (0 < m.program.size ∧ m.execute 0 = .ok (m.advance 0 first)) ∧
      (¬m.Finished ∧
        m.step = (true, m.advance m.pc (decodeOrUnknown (rewritten.wordAt (32 + 2 * m.pc))))) ∧
      m.memory.image = rewritten ∧ m.memory.load8 32 = 97 := by
  intro ops m past first
  have loop : past = [.executed 0 (.immediate .li 6 32), .executed 1 (.immediate .li 7 3),
      .executed 2 (.ecall 1), .stored 32 97, .stored 33 98, .stored 34 0, .executed 3 (.j (-3)),
      .executed 0 (.immediate .li 6 32)] := by decide +kernel
  have size : 0 < m.program.size := by decide +kernel
  have unfinished : ¬m.Finished := by decide +kernel
  obtain ⟨executed, at_index, steps, image, loads⟩ :=
    fetches_from_image rewritten ({ lines := ["ab"] } : Console) ops
  have again : .executed 0 (.immediate .li 6 32) ∈ past := by simp [loop]
  have decoded : first = .immediate .li 6 32 := (executed 0 _ again).2.symm
  have last : StoredLast past 32 97 :=
    ⟨past.take 3, past.drop 4, by rw [loop]; rfl, by rw [loop]; simp [Leaves]⟩
  exact ⟨decoded, by rw [decoded, loop]; simp, ⟨size, at_index 0 size⟩, ⟨unfinished, steps unfinished⟩,
    image, (loads 32 97).2 (.inl last)⟩

end Machine

end Z16
