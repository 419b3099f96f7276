import Mathlib.Data.List.Induction

/-!
# Transcripts

A system that takes requests one after the other answers each and goes on in a new state. Two systems answer
alike as long as their states are related, if every request is answered alike in related states and leaves
related states (`answers_eq_of_related`).
-/

namespace Z16.Transcript

variable {S T Q A : Type} {respond : S → Q → A × S} {respond' : T → Q → A × T}

def answers (respond : S → Q → A × S) : S → List Q → List A
  | _, [] => []
  | s, q :: qs => (respond s q).1 :: answers respond (respond s q).2 qs

def last (respond : S → Q → A × S) (s : S) (qs : List Q) : S :=
  qs.foldl (fun s q => (respond s q).2) s

theorem last_keeps (holds : S → Prop) (step : ∀ s q, holds s → holds (respond s q).2) {s : S} (h : holds s)
    (qs : List Q) : holds (last respond s qs) :=
  List.foldlRecOn qs _ h fun s kept q _ => step s q kept

def IsSimulation (respond : S → Q → A × S) (respond' : T → Q → A × T) (related : S → T → Prop) : Prop :=
  ∀ s t q, related s t →
    (respond s q).1 = (respond' t q).1 ∧ related (respond s q).2 (respond' t q).2

variable {related : S → T → Prop}

theorem related_last (step : IsSimulation respond respond' related) {s : S} {t : T} (h : related s t)
    (qs : List Q) : related (last respond s qs) (last respond' t qs) := by
  induction qs generalizing s t with
  | nil => exact h
  | cons q qs ih => exact ih (step s t q h).2

theorem answers_eq_of_related (step : IsSimulation respond respond' related) {s : S} {t : T}
    (h : related s t) (qs : List Q) : answers respond s qs = answers respond' t qs := by
  induction qs generalizing s t with
  | nil => rfl
  | cons q qs ih =>
    obtain ⟨same, kept⟩ := step s t q h
    rw [answers, answers, same, ih kept]

/-- Something has happened and is still current exactly if the last request made it happen, or it was current
before and the last request leaves it so. -/
theorem exists_current_concat (happens : List Q → Q → Prop) (leaves : Q → Prop) (qs : List Q) (q : Q) :
    (∃ before x later, qs ++ [q] = before ++ x :: later ∧ happens before x ∧ ∀ y ∈ later, leaves y) ↔
      happens qs q ∨
        (∃ before x later, qs = before ++ x :: later ∧ happens before x ∧ ∀ y ∈ later, leaves y) ∧
          leaves q := by
  constructor
  · rintro ⟨before, x, later, split, happened, left⟩
    rcases List.eq_nil_or_concat later with rfl | ⟨later, final, rfl⟩
    · obtain ⟨rfl, same⟩ := List.append_inj' split rfl
      exact .inl (List.singleton_inj.1 same ▸ happened)
    · rw [List.concat_eq_append, ← List.cons_append, ← List.append_assoc] at split
      obtain ⟨rfl, same⟩ := List.append_inj' split rfl
      obtain rfl := List.singleton_inj.1 same
      simp only [List.concat_eq_append, List.forall_mem_append, List.forall_mem_singleton] at left
      exact .inr ⟨⟨before, x, later, rfl, happened, left.1⟩, left.2⟩
  · rintro (happened | ⟨⟨before, x, later, rfl, happened, left⟩, still⟩)
    · exact ⟨qs, q, [], rfl, happened, fun y mem => absurd mem List.not_mem_nil⟩
    · refine ⟨before, x, later ++ [q], by simp, happened, ?_⟩
      rw [List.forall_mem_append, List.forall_mem_singleton]
      exact ⟨left, still⟩

end Z16.Transcript
