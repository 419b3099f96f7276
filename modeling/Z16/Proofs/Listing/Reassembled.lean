import Mathlib.Data.List.Basic
import Z16.Proofs.Encoding.Canonical
import Z16.Proofs.Listing.Entries

namespace Z16

theorem throughExit_canonical (ws : List Word) :
    throughExit (ws.map Word.canonical) = (throughExit ws).map Word.canonical := by
  induction ws with
  | nil => rfl
  | cons w ws ih =>
    rw [List.map_cons, throughExit, throughExit, isExitWord_canonical]
    split
    · rfl
    · rw [ih, List.map_cons]

def Entry.canonical (e : Entry) : Entry := { e with word := e.word.canonical }

theorem Entry.text_canonical {e : Entry} (decoded : e.instruction = decodeOrUnknown e.word) :
    e.canonical.text = e.text := by
  unfold text
  cases named : e.instruction.mnemonic? with
  | some m =>
    simp only [canonical, named]
    rfl
  | none =>
    obtain ⟨v, unknown⟩ : ∃ v, e.instruction = .unknown v := by
      cases shape : e.instruction <;> simp [shape, Instruction.mnemonic?] at named ⊢
    have used : (decodeOrUnknown e.word).ignoredBits = 0 := by
      rw [← decoded, unknown]
      rfl
    simp only [canonical, named, Word.canonical_eq_self used]

namespace Listing

theorem ofWords_canonical (ws : List Word) :
    ofWords (ws.map Word.canonical) =
      { entries := (ofWords ws).entries.map Entry.canonical, labels := (ofWords ws).labels } := by
  simp [ofWords, throughExit_canonical, List.zipIdx_map, List.filterMap_map, Function.comp_def,
    Entry.canonical]

theorem labelLinesAt_canonical (ws : List Word) :
    (ofWords (ws.map Word.canonical)).labelLinesAt = (ofWords ws).labelLinesAt := by
  rw [ofWords_canonical]
  rfl

theorem trailingLines_canonical (ws : List Word) :
    (ofWords (ws.map Word.canonical)).trailingLines = (ofWords ws).trailingLines := by
  simp [ofWords_canonical, trailingLines]

theorem lines_canonical (ws : List Word) :
    (ofWords (ws.map Word.canonical)).lines = (ofWords ws).lines := by
  have shown : ∀ e ∈ (ofWords ws).entries,
      (ofWords ws).labelLinesAt e.canonical.index ++ [e.canonical.text] =
        (ofWords ws).labelLinesAt e.index ++ [e.text] := by
    intro e mem
    obtain ⟨i, found⟩ := List.mem_iff_getElem?.1 mem
    rw [Entry.text_canonical (instruction_eq found)]
    rfl
  have entries := congrArg Listing.entries (ofWords_canonical ws)
  rw [lines, lines, labelLinesAt_canonical, trailingLines_canonical, entries, List.flatMap_map,
    List.flatMap_congr shown]

end Listing

/-- A decoded program is assembled to words with the listing of the words it was decoded from. They differ
from those at most in bits that a plain jump or a register jump ignores, and do not change any more. -/
theorem reassembled_listing (ws : List Word) :
    ∃ ws', assemble (ws.map decodeOrUnknown) = .ok ws' ∧
      assemble (ws'.map decodeOrUnknown) = .ok ws' ∧
      (Listing.ofWords ws').program = (Listing.ofWords ws).program ∧
      (Listing.ofWords ws').entries.map Entry.target? =
        (Listing.ofWords ws).entries.map Entry.target? ∧
      (Listing.ofWords ws').labels = (Listing.ofWords ws).labels ∧
      (Listing.ofWords ws').lines = (Listing.ofWords ws).lines ∧
      ws'.length = ws.length ∧
      ∀ (i : Nat) (w : Word), ws[i]? = some w → ∃ w', ws'[i]? = some w' ∧
        encode (decodeOrUnknown w) = .ok w' ∧
        (w' = w ∨
          (∃ offset, decode w = .ok (.j offset)) ∧ w' = w &&& ~~~fieldMask 8 6 ∨
          (∃ rs, decode w = .ok (.jr rs)) ∧ w' = w &&& ~~~fieldMask 11 9) ∧
        (∀ e, decode w = .error e → w' = w) ∧ (isExitWord w = true → w' = w) := by
  have listing := Listing.ofWords_canonical ws
  refine ⟨ws.map Word.canonical, assemble_decoded ws, ?_, ?_, ?_, ?_, Listing.lines_canonical ws,
    List.length_map _, ?_⟩
  · rw [assemble_decoded, List.map_map]
    exact congrArg _ (List.map_congr_left fun w _ => w.canonical_canonical)
  · rw [listing, Listing.program, Listing.program, List.map_map]
    rfl
  · rw [listing, List.map_map]
    rfl
  · rw [listing]
  · intro i w found
    have renamed : (ws.map Word.canonical)[i]? = some w.canonical := by
      rw [List.getElem?_map, found, Option.map_some]
    exact ⟨w.canonical, renamed, encode_decodeOrUnknown w, w.canonical_cases,
      fun _ => Word.canonical_of_error, Word.canonical_of_exit⟩

end Z16
