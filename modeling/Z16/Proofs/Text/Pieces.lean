/-!
# Pieces of a text

A text that was put together from pieces has those pieces only, if their characters tell how far each of
them goes: a first piece and its rest (`Text.pieces_inj`), or pieces with a separator between them
(`Text.intercalate_inj`). The same holds of lines that belong to the next line of another sort
(`Text.blocks_inj`). Nothing here depends on what the characters or lines are.
-/

namespace Z16.Text

variable {α : Type} {p : α → Bool} {piece piece' rest rest' : List α}

def Stops (p : α → Bool) (rest : List α) : Prop := ∀ a ∈ rest.head?, p a = false

theorem stops_nil : Stops p [] := nofun

theorem stops_cons {a : α} (stop : p a = false) : Stops p (a :: rest) := by
  rintro _ ⟨⟩
  exact stop

theorem takeWhile_piece (inside : ∀ a ∈ piece, p a = true) (stops : Stops p rest) :
    (piece ++ rest).takeWhile p = piece := by
  rw [List.takeWhile_append_of_pos inside]
  cases rest with
  | nil => exact List.append_nil piece
  | cons a rest =>
    have stop := stops a rfl
    rw [List.takeWhile_cons, stop]
    exact List.append_nil piece

theorem pieces_inj (inside : ∀ a ∈ piece, p a = true) (inside' : ∀ a ∈ piece', p a = true)
    (stops : Stops p rest) (stops' : Stops p rest') (same : piece ++ rest = piece' ++ rest') :
    piece = piece' ∧ rest = rest' := by
  have first : piece = piece' := by
    rw [← takeWhile_piece inside stops, same, takeWhile_piece inside' stops']
  subst first
  exact ⟨rfl, List.append_cancel_left same⟩

theorem intercalate_inj {a : α} {sep : List α} {pieces pieces' : List (List α)}
    (separates : p a = false) (count : pieces.length = pieces'.length)
    (inside : ∀ piece ∈ pieces, ∀ b ∈ piece, p b = true)
    (inside' : ∀ piece ∈ pieces', ∀ b ∈ piece, p b = true)
    (stops : Stops p rest) (stops' : Stops p rest')
    (same : (a :: sep).intercalate pieces ++ rest = (a :: sep).intercalate pieces' ++ rest') :
    pieces = pieces' ∧ rest = rest' := by
  induction pieces generalizing pieces' with
  | nil =>
    cases List.length_eq_zero_iff.1 count.symm
    exact ⟨rfl, same⟩
  | cons first pieces ih =>
    obtain ⟨first', pieces', rfl⟩ := List.exists_cons_of_length_eq_add_one count.symm
    have fewer : pieces.length = pieces'.length := Nat.succ.inj count
    rw [List.forall_mem_cons] at inside inside'
    -- The last piece ends where the rest starts, any other one at the separator.
    cases pieces with
    | nil =>
      cases List.length_eq_zero_iff.1 fewer.symm
      rw [List.intercalate_singleton, List.intercalate_singleton] at same
      obtain ⟨rfl, rest⟩ := pieces_inj inside.1 inside'.1 stops stops' same
      exact ⟨rfl, rest⟩
    | cons second pieces =>
      obtain ⟨second', pieces', rfl⟩ := List.exists_cons_of_length_eq_add_one fewer.symm
      rw [List.intercalate_cons_cons, List.intercalate_cons_cons] at same
      simp only [List.append_assoc, List.cons_append] at same
      obtain ⟨rfl, behind⟩ :=
        pieces_inj inside.1 inside'.1 (stops_cons separates) (stops_cons separates) same
      have behind := List.append_cancel_left (List.cons.inj behind).2
      obtain ⟨others, rest⟩ := ih fewer inside.2 inside'.2 behind
      exact ⟨congrArg _ others, rest⟩

/-- Blocks that each end in their first element without a property, and a rest of elements with it, are
told apart. -/
theorem blocks_inj {blocks blocks' : List (List α × α)}
    (inside : ∀ b ∈ blocks, (∀ a ∈ b.1, p a = true) ∧ p b.2 = false)
    (inside' : ∀ b ∈ blocks', (∀ a ∈ b.1, p a = true) ∧ p b.2 = false)
    (behind : ∀ a ∈ rest, p a = true) (behind' : ∀ a ∈ rest', p a = true)
    (same : blocks.flatMap (fun b => b.1 ++ [b.2]) ++ rest =
      blocks'.flatMap (fun b => b.1 ++ [b.2]) ++ rest') :
    blocks = blocks' ∧ rest = rest' := by
  induction blocks generalizing blocks' with
  | nil =>
    cases blocks' with
    | nil => exact ⟨rfl, same⟩
    | cons first' blocks' =>
      -- The end of a block would lie in the rest, where all elements have the property.
      have last : first'.2 ∈ rest := by
        rw [show rest = _ from same]
        simp
      exact absurd (behind _ last) (by simp [inside' first'])
  | cons first blocks ih =>
    rw [List.forall_mem_cons] at inside
    cases blocks' with
    | nil =>
      have last : first.2 ∈ rest' := by
        rw [show rest' = _ from same.symm]
        simp
      exact absurd (behind' _ last) (by simp [inside.1.2])
    | cons first' blocks' =>
      rw [List.forall_mem_cons] at inside'
      simp only [List.flatMap_cons, List.append_assoc, List.singleton_append] at same
      obtain ⟨labels, lines⟩ := pieces_inj inside.1.1 inside'.1.1 (stops_cons inside.1.2)
        (stops_cons inside'.1.2) same
      obtain ⟨line, lines⟩ := List.cons.inj lines
      obtain ⟨others, rest⟩ := ih inside.2 inside'.2 lines
      exact ⟨by rw [Prod.ext labels line, others], rest⟩

theorem splitOn_flatMap_concat [DecidableEq α] {a : α} {pieces : List (List α)}
    (separates : ∀ piece ∈ pieces, a ∉ piece) :
    (pieces.flatMap (· ++ [a])).splitOn a = pieces ++ [[]] := by
  induction pieces with
  | nil => rfl
  | cons first pieces ih =>
    rw [List.forall_mem_cons] at separates
    rw [List.flatMap_cons, List.append_assoc, List.singleton_append,
      List.splitOn_append_cons_self_of_not_mem separates.1, ih separates.2, List.cons_append]

theorem notMem_intercalate {a : α} {sep : List α} {pieces : List (List α)} (outside : a ∉ sep)
    (separates : ∀ piece ∈ pieces, a ∉ piece) : a ∉ sep.intercalate pieces := by
  induction pieces with
  | nil => exact List.not_mem_nil
  | cons first pieces ih =>
    rw [List.forall_mem_cons] at separates
    cases pieces with
    | nil => rw [List.intercalate_singleton]; exact separates.1
    | cons second pieces =>
      rw [List.intercalate_cons_cons]
      simp only [List.mem_append, not_or]
      exact ⟨⟨separates.1, outside⟩, ih separates.2⟩

end Z16.Text
