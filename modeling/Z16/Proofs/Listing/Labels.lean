import Mathlib.Data.List.Induction
import Z16.LabelTable

/-!
# Label tables

The labels of a table are the positions of its targets in a list without repetitions. Resolving a target
leaves that list alone or appends to it (`LabelTable.Orders.resolve`), so the table of some targets lists them
in the order in which they first occur (`LabelTable.orders_ofTargets`). It has a label for each of them and
for nothing else (`LabelTable.isSome_get?_ofTargets`), and no label twice (`LabelTable.numbered_ofTargets`).
-/

namespace Z16

theorem getElem?_concat_eq_some_iff {α : Type} {xs : List α} {x y : α} {n : Nat} :
    (xs ++ [x])[n]? = some y ↔ xs[n]? = some y ∨ n = xs.length ∧ x = y := by
  grind

theorem eraseDups_concat (xs : List Nat) (x : Nat) :
    (xs ++ [x]).eraseDups = if x ∈ xs.eraseDups then xs.eraseDups else xs.eraseDups ++ [x] := by
  rw [List.eraseDups_append]
  split <;> simp_all [List.removeAll, List.eraseDups_cons]

namespace LabelTable

variable {t : LabelTable} {order : List Nat}

structure Numbered (t : LabelTable) : Prop where
  lt_size : ∀ {target label}, t.get? target = some label → label.number < t.size
  unique : ∀ {a b label}, t.get? a = some label → t.get? b = some label → a = b

structure Orders (t : LabelTable) (order : List Nat) : Prop where
  size : t.size = order.length
  get?_iff : ∀ {target label}, t.get? target = some label ↔ order[label.number]? = some target

theorem get?_empty (target : Nat) : get? {} target = none := by
  simp [get?]

theorem size_resolve (t : LabelTable) (target : Nat) :
    (t.resolve target).2.size = if (t.get? target).isSome then t.size else t.size + 1 := by
  unfold resolve
  cases found : t.get? target with
  | some label => rfl
  | none =>
    have absent : target ∉ t.byTarget := by
      rw [Std.TreeMap.mem_iff_isSome_getElem?]
      simpa [get?] using found
    simp [size, Std.TreeMap.size_insert, absent]

theorem mem_toList {target : Nat} {label : Label} :
    (target, label) ∈ t.toList ↔ t.get? target = some label :=
  Std.TreeMap.mem_toList_iff_getElem?_eq_some

theorem sorted_toList (t : LabelTable) : t.toList.Pairwise fun p q => p.1 < q.1 :=
  Std.TreeMap.ordered_keys_toList.imp Nat.compare_eq_lt.1

namespace Orders

theorem numbered (o : t.Orders order) : t.Numbered where
  lt_size labelled := by
    rw [o.size]
    exact (List.getElem?_eq_some_iff.1 (o.get?_iff.1 labelled)).1
  unique first second := Option.some.inj ((o.get?_iff.1 first).symm.trans (o.get?_iff.1 second))

theorem isSome_get?_iff (o : t.Orders order) {target : Nat} :
    (t.get? target).isSome = true ↔ target ∈ order := by
  rw [Option.isSome_iff_exists, List.mem_iff_getElem?]
  constructor
  · rintro ⟨label, labelled⟩
    exact ⟨label.number, o.get?_iff.1 labelled⟩
  · rintro ⟨n, found⟩
    exact ⟨⟨n⟩, o.get?_iff.2 found⟩

theorem resolve (o : t.Orders order) (target : Nat) :
    (t.resolve target).2.Orders (if target ∈ order then order else order ++ [target]) := by
  cases found : t.get? target with
  | some label =>
    have known : target ∈ order := o.isSome_get?_iff.1 (by rw [found, Option.isSome_some])
    have same : (t.resolve target).2 = t := by simp [LabelTable.resolve, found]
    rwa [same, if_pos known]
  | none =>
    have unknown : target ∉ order := by
      rw [← o.isSome_get?_iff, found]
      exact Bool.false_ne_true
    have fresh : (t.resolve target).1 = ⟨order.length⟩ := by simp [LabelTable.resolve, found, o.size]
    rw [if_neg unknown]
    constructor
    · simp [size_resolve, found, o.size]
    · intro other label
      rw [get?_resolve, fresh, getElem?_concat_eq_some_iff]
      split
      next same =>
        have absent : order[label.number]? ≠ some other :=
          fun present => unknown (same ▸ List.mem_of_getElem? present)
        obtain ⟨n⟩ := label
        simp only [Option.some.injEq, Label.mk.injEq, absent, same, false_or, and_true]
        exact eq_comm
      next differs => simp only [o.get?_iff, differs, and_false, or_false]

end Orders

def resolveAll (t : LabelTable) (targets : List Nat) : LabelTable :=
  targets.foldl (fun t target => (t.resolve target).2) t

theorem resolveAll_cons (t : LabelTable) (target : Nat) (targets : List Nat) :
    t.resolveAll (target :: targets) = (t.resolve target).2.resolveAll targets :=
  rfl

theorem resolveAll_append (t : LabelTable) (xs ys : List Nat) :
    t.resolveAll (xs ++ ys) = (t.resolveAll xs).resolveAll ys :=
  List.foldl_append

theorem get?_resolveAll_of_some {target : Nat} {label : Label} (labelled : t.get? target = some label)
    (targets : List Nat) : (t.resolveAll targets).get? target = some label := by
  induction targets generalizing t with
  | nil => exact labelled
  | cons first targets ih =>
    refine ih (t := (t.resolve first).2) ?_
    rw [get?_resolve]
    split
    next same => simp [resolve, same, labelled]
    next => exact labelled

theorem orders_ofTargets (targets : List Nat) : (ofTargets targets).Orders targets.eraseDups := by
  induction targets using List.reverseRecOn with
  | nil => exact ⟨rfl, by simp [ofTargets, get?_empty]⟩
  | append_singleton targets target ih =>
    have last : ofTargets (targets ++ [target]) = ((ofTargets targets).resolve target).2 :=
      List.foldl_append
    rw [last, eraseDups_concat]
    exact ih.resolve target

theorem numbered_ofTargets (targets : List Nat) : (ofTargets targets).Numbered :=
  (orders_ofTargets targets).numbered

theorem isSome_get?_ofTargets (targets : List Nat) (target : Nat) :
    ((ofTargets targets).get? target).isSome = true ↔ target ∈ targets := by
  rw [(orders_ofTargets targets).isSome_get?_iff, List.mem_eraseDups]

end LabelTable

end Z16
