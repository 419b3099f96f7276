import Mathlib.Logic.ExistsUnique
import Z16.Proofs.Listing.Labels
import Z16.Proofs.Transcript

namespace Z16

inductive LabelCall where
  | resolve (target : Nat)
  | look (target : Nat)
  deriving DecidableEq, Repr

def LabelCall.resolved? : LabelCall → Option Nat
  | .resolve target => some target
  | .look _ => none

/-- A table with a counter, which moves on with each label that is given. -/
structure CountingTable where
  next : Nat := 0
  label? : Nat → Option Label := fun _ => none

def CountingTable.answer (t : CountingTable) : LabelCall → Option Label × CountingTable
  | .resolve target =>
    match t.label? target with
    | some label => (some label, t)
    | none =>
      (some ⟨t.next⟩,
        { next := t.next + 1
          label? := fun other => if target = other then some ⟨t.next⟩ else t.label? other })
  | .look target => (t.label? target, t)

namespace LabelTable

open Transcript

def answer (t : LabelTable) : LabelCall → Option Label × LabelTable
  | .resolve target => Prod.map some id (t.resolve target)
  | .look target => (t.get? target, t)

def called (calls : List LabelCall) : LabelTable := last answer {} calls

variable {t : LabelTable} {order : List Nat} {calls : List LabelCall} {target : Nat}

theorem resolve_known {label : Label} (known : t.get? target = some label) : t.resolve target = (label, t) := by
  rw [resolve, known]

theorem resolve_new (new : t.get? target = none) : (t.resolve target).1 = ⟨t.size⟩ := by
  rw [resolve, new]

structure InStep (t : LabelTable) (c : CountingTable) : Prop where
  size : t.size = c.next
  label? : ∀ target, t.get? target = c.label? target

theorem inStep_answer : IsSimulation answer CountingTable.answer InStep := by
  intro t c call h
  cases call with
  | look target => exact ⟨h.label? target, h⟩
  | resolve target =>
    cases found : c.label? target with
    | some label =>
      have known : t.get? target = some label := (h.label? target).trans found
      simp only [answer, CountingTable.answer, resolve_known known, found]
      exact ⟨rfl, h⟩
    | none =>
      have new : t.get? target = none := (h.label? target).trans found
      have label : (t.resolve target).1 = ⟨c.next⟩ := (resolve_new new).trans (congrArg Label.mk h.size)
      simp only [answer, CountingTable.answer, found, Prod.map_fst, Prod.map_snd, label, id]
      refine ⟨trivial, ?_, fun other => ?_⟩
      · simp [size_resolve, new, h.size]
      · rw [get?_resolve, label, h.label?]

theorem last_answer (t : LabelTable) (calls : List LabelCall) :
    last answer t calls = t.resolveAll (calls.filterMap LabelCall.resolved?) := by
  induction calls generalizing t with
  | nil => rfl
  | cons call calls ih =>
    cases call with
    | resolve target => exact ih (t.resolve target).2
    | look target => exact ih t

theorem mem_resolved : target ∈ calls.filterMap LabelCall.resolved? ↔ .resolve target ∈ calls := by
  rw [List.mem_filterMap]
  constructor
  · rintro ⟨call, mem, resolved⟩
    cases call with
    | resolve other => cases resolved; exact mem
    | look other => cases resolved
  · exact fun mem => ⟨_, mem, rfl⟩

theorem get?_called_resolve (before later : List LabelCall) (target : Nat) :
    (called (before ++ .resolve target :: later)).get? target = some ((called before).resolve target).1 := by
  have split : called (before ++ .resolve target :: later) = last answer ((called before).resolve target).2 later :=
    List.foldl_append
  rw [split, last_answer]
  exact get?_resolveAll_of_some (by rw [get?_resolve, if_pos rfl]) _

theorem orders_called (calls : List LabelCall) :
    (called calls).Orders (calls.filterMap LabelCall.resolved?).eraseDups := by
  rw [called, last_answer]
  exact orders_ofTargets _

theorem isSome_get?_called : ((called calls).get? target).isSome = true ↔ .resolve target ∈ calls := by
  rw [(orders_called calls).isSome_get?_iff, List.mem_eraseDups, mem_resolved]

theorem Orders.existsUnique (o : t.Orders order) {n : Nat} (lt : n < t.size) : ∃! target, t.get? target = some ⟨n⟩ := by
  have inside : n < order.length := o.size ▸ lt
  have labelled : t.get? order[n] = some ⟨n⟩ := o.get?_iff.2 (List.getElem?_eq_getElem inside)
  exact ⟨order[n], labelled, fun other labelled' => o.numbered.unique labelled' labelled⟩

theorem inStep_called (calls : List LabelCall) : (called calls).InStep (last CountingTable.answer {} calls) :=
  related_last inStep_answer ⟨rfl, get?_empty⟩ calls

/-- After any calls to an empty table its labels have the numbers below its size, each at one target. A target has a
label exactly if it was resolved, the one that each call to resolve it answered, and resolving it again changes
nothing; a new one gets the size for its number, which is the greatest, and changes nothing else. The pairs are listed
by increasing target. All answers are those of a table whose next number is a counter. -/
theorem labels_in_step (calls : List LabelCall) (target : Nat) :
    let t := called calls
    ((∀ n < t.size, ∃! a, t.get? a = some ⟨n⟩) ∧ ∀ a label, t.get? a = some label → label.number < t.size) ∧
      (if .resolve target ∈ calls then ∃ label, t.get? target = some label ∧ t.resolve target = (label, t)
      else t.get? target = none ∧ (t.resolve target).1 = ⟨t.size⟩ ∧ (t.resolve target).2.size = t.size + 1 ∧
        ∀ other, (t.resolve target).2.get? other = if target = other then some ⟨t.size⟩ else t.get? other) ∧
      (∀ before later, calls = before ++ .resolve target :: later →
        t.get? target = some ((called before).resolve target).1) ∧
      (t.toList.Pairwise (fun p q => p.1 < q.1) ∧ ∀ a label, (a, label) ∈ t.toList ↔ t.get? a = some label) ∧
      answers answer {} calls = answers CountingTable.answer {} calls ∧
      (last CountingTable.answer {} calls).next = t.size := by
  intro t
  have orders := orders_called calls
  refine ⟨⟨fun n lt => orders.existsUnique lt, fun a label labelled => orders.numbered.lt_size labelled⟩, ?_, ?_,
    ⟨t.sorted_toList, fun a label => mem_toList⟩, ?_, (inStep_called calls).size.symm⟩
  · split
    next resolved =>
      obtain ⟨label, known⟩ := Option.isSome_iff_exists.1 (isSome_get?_called.2 resolved)
      exact ⟨label, known, resolve_known known⟩
    next unresolved =>
      have new : t.get? target = none := by
        rw [← Option.not_isSome_iff_eq_none, isSome_get?_called]
        exact unresolved
      refine ⟨new, resolve_new new, ?_, fun other => ?_⟩
      · rw [size_resolve, new]
        rfl
      · rw [get?_resolve, resolve_new new]
  · rintro before later rfl
    exact get?_called_resolve before later target
  · exact answers_eq_of_related inStep_answer ⟨rfl, get?_empty⟩ calls

example :
    answers answer {} [.resolve 9, .look 4, .resolve 4, .resolve 9, .look 4] =
      [some ⟨0⟩, none, some ⟨1⟩, some ⟨0⟩, some ⟨1⟩] := by
  decide

end LabelTable

end Z16
