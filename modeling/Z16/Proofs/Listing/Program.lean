import Mathlib.Data.List.Basic
import Z16.Proofs.Encoding.Decoded
import Z16.Proofs.Listing.Entries

namespace Z16

theorem throughExit_eq_self {ws : List Word} (goes_on : ∀ w ∈ ws.dropLast, isExitWord w = false) :
    throughExit ws = ws := by
  induction ws with
  | nil => rfl
  | cons w ws ih =>
    cases ws with
    | nil =>
      rw [throughExit]
      split <;> rfl
    | cons next rest =>
      rw [List.dropLast_cons_cons, List.forall_mem_cons] at goes_on
      rw [throughExit, goes_on.1, if_neg Bool.false_ne_true, ih goes_on.2]

theorem last_of_isExitWord {ws : List Word} {i : Nat} {w : Word}
    (found : (throughExit ws)[i]? = some w) (exit : isExitWord w = true) :
    i + 1 = (throughExit ws).length := by
  induction ws generalizing i with
  | nil => cases found
  | cons first ws ih =>
    rw [throughExit] at found ⊢
    split at found
    next ends =>
      obtain ⟨inside, -⟩ := List.getElem?_eq_some_iff.1 found
      simp only [if_pos ends, List.length_singleton] at inside ⊢
      omega
    next goes_on =>
      rw [if_neg goes_on, List.length_cons]
      cases i with
      | zero => exact absurd (Option.some.inj found ▸ exit) goes_on
      | succ i => rw [ih found]

theorem throughExit_append {a : List Word} {e : Word} (goes_on : ∀ w ∈ a, isExitWord w = false)
    (exit : isExitWord e = true) (rest : List Word) : throughExit (a ++ e :: rest) = a ++ [e] := by
  induction a with
  | nil => rw [List.nil_append, List.nil_append, throughExit, if_pos exit]
  | cons w a ih =>
    rw [List.forall_mem_cons] at goes_on
    rw [List.cons_append, throughExit, goes_on.1, if_neg Bool.false_ne_true, ih goes_on.2,
      List.cons_append]

theorem offset?_of_isExitWord {w : Word} (exit : isExitWord w = true) :
    (decodeOrUnknown w).offset? = none := by
  have system : Format.ofWord w = .system := by
    simp only [isExitWord, Bool.and_eq_true, decide_eq_true_eq] at exit
    exact exit.1
  rcases decode_cases w with ⟨m, format, -, -, decoded⟩ | ⟨-, unknown⟩
  · rw [system] at format
    obtain rfl : m = .ecall := by cases m <;> simp [Mnemonic.format] at format ⊢
    rw [decoded]
    rfl
  · rw [unknown]
    rfl

namespace Listing

theorem program_ofWords (ws : List Word) :
    (ofWords ws).program = (throughExit ws).map decodeOrUnknown := by
  apply List.ext_getElem?
  intro i
  rw [getElem?_program, getElem?_entries, Option.map_map, List.getElem?_map]
  rfl

theorem last_of_exit {ws : List Word} {i : Nat}
    (found : (ofWords ws).program[i]? = some (.ecall Instruction.exitCode)) :
    i + 1 = (ofWords ws).program.length := by
  rw [program_ofWords, List.getElem?_map] at found
  obtain ⟨w, word, exit⟩ := Option.map_eq_some_iff.1 found
  rw [program_ofWords, List.length_map]
  exact last_of_isExitWord word (isExitWord_of_decoded exit)

/-- A listing depends on the words of its program, and on the number of all words only by the targets that
count as lying among them. -/
theorem ofWords_congr {ws ws' : List Word} (same : throughExit ws = throughExit ws')
    (targets : ∀ (i : Nat) (w : Word), (throughExit ws)[i]? = some w →
      (decodeOrUnknown w).targetIndex? i ws.length = (decodeOrUnknown w).targetIndex? i ws'.length) :
    ofWords ws = ofWords ws' := by
  have targets : ∀ p ∈ (throughExit ws).zipIdx,
      (decodeOrUnknown p.1).targetIndex? p.2 ws.length =
        (decodeOrUnknown p.1).targetIndex? p.2 ws'.length :=
    fun p mem => targets p.2 p.1 (List.mem_zipIdx_iff_getElem?.1 mem)
  have labels := congrArg LabelTable.ofTargets (List.filterMap_congr targets)
  unfold ofWords
  simp only [← same, ← labels]
  congr 1
  refine List.map_congr_left fun p mem => ?_
  simp only [LabelTable.target?, targets p mem]

/-- Without an exit all words are decoded. Of the words behind an exit nothing is seen but their number, and not
even this if no branch or jump leads among them. -/
theorem words_behind_exit {a : List Word} (goes_on : ∀ w ∈ a, isExitWord w = false) :
    (ofWords a).program = a.map decodeOrUnknown ∧
      ∀ (e : Word) (s s' : List Word), isExitWord e = true →
        let l := ofWords (a ++ e :: s)
        let l' := ofWords (a ++ e :: s')
        l.program = (a ++ [e]).map decodeOrUnknown ∧ l'.program = l.program ∧
          (s.length = s'.length → l = l') ∧
          ((∀ (i : Nat) (w : Word) (offset : Int16), a[i]? = some w →
            (decodeOrUnknown w).offset? = some offset → i + offset.toInt ≤ a.length) → l = l') := by
  constructor
  · rw [program_ofWords, throughExit_eq_self fun w mem => goes_on w (List.dropLast_subset a mem)]
  intro e s s' exit l l'
  have through : ∀ rest, throughExit (a ++ e :: rest) = a ++ [e] := throughExit_append goes_on exit
  have same := (through s).trans (through s').symm
  refine ⟨?_, ?_, ?_, ?_⟩
  · rw [program_ofWords, through]
  · rw [program_ofWords, program_ofWords, same]
  · intro length
    refine ofWords_congr same fun i w _ => ?_
    rw [List.length_append, List.length_append, List.length_cons, List.length_cons, length]
  · intro within
    refine ofWords_congr same fun i w found => ?_
    rw [through] at found
    rcases getElem?_concat_eq_some_iff.1 found with word | ⟨-, rfl⟩
    · ext target
      simp only [Instruction.targetIndex?_eq_some_iff, List.length_append, List.length_cons]
      refine exists_congr fun offset => and_congr_right fun jumps => and_congr_right fun leads => ?_
      have := within i w offset word jumps
      omega
    · simp [Instruction.targetIndex?, offset?_of_isExitWord exit]

theorem words_behind_exit_branches :
    let exit : Word := 0x028F
    (∀ w ∈ [(0x1052 : Word), 0x2052], isExitWord w = false) ∧ isExitWord exit = true ∧
      (ofWords [0x1052, exit, 0x0009]).program = [.branch .zero 1 0 1, .unknown exit] ∧
      ofWords [0x1052, exit, 0x0009] = ofWords [0x1052, exit, 0x0287, 0xFFFF] ∧
      ofWords [0x2052, exit, 0x0009] = ofWords [0x2052, exit, 0xFFFF] ∧
      ofWords [0x2052, exit, 0x0009] ≠ ofWords [0x2052, exit] := by
  intro exit
  have goes_on : ∀ w ∈ [(0x1052 : Word), 0x2052], isExitWord w = false := by
    simp only [List.forall_mem_cons, List.not_mem_nil, false_imp_iff, implies_true]
    decide
  have ends : isExitWord exit = true := by decide
  -- The first branch leads to the exit, the second one behind it, where the words are counted.
  obtain ⟨-, short⟩ := words_behind_exit (a := [0x1052]) (by simp_all)
  obtain ⟨-, long⟩ := words_behind_exit (a := [0x2052]) (by simp_all)
  obtain ⟨program, -, -, unseen⟩ := short exit [0x0009] [0x0287, 0xFFFF] ends
  obtain ⟨-, -, counted, -⟩ := long exit [0x0009] [0xFFFF] ends
  refine ⟨goes_on, ends, program.trans (by decide), unseen ?_, counted rfl, ?_⟩
  · intro i w offset found jumps
    obtain ⟨rfl, rfl⟩ : i = 0 ∧ 0x1052 = w := by simpa [List.getElem?_singleton] using found
    obtain rfl : 1 = offset := Option.some.inj jumps
    decide
  · intro same
    have fewer := congrArg (fun l => l.labels.size) same
    exact absurd fewer (by decide +kernel)

end Listing

end Z16
