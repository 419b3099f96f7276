import Std.Data.TreeMap

/-!
# Labels

A label table numbers the targets of branches and jumps in the order in which they are first asked
for. The next number is the size of the table, so numbers are neither skipped nor shared.
-/

namespace Z16

structure Label where
  number : Nat
  deriving DecidableEq, Repr

def Label.text (l : Label) : String := "label_" ++ toString l.number

structure LabelTable where
  byTarget : Std.TreeMap Nat Label := ∅

namespace LabelTable

def size (t : LabelTable) : Nat := t.byTarget.size

def isEmpty (t : LabelTable) : Bool := t.byTarget.isEmpty

def get? (t : LabelTable) (target : Nat) : Option Label := t.byTarget[target]?

def resolve (t : LabelTable) (target : Nat) : Label × LabelTable :=
  match t.get? target with
  | some label => (label, t)
  | none => (⟨t.size⟩, ⟨t.byTarget.insert target ⟨t.size⟩⟩)

theorem get?_resolve (t : LabelTable) (target other : Nat) :
    (t.resolve target).2.get? other =
      if target = other then some (t.resolve target).1 else t.get? other := by
  unfold resolve
  split
  · next label h => by_cases same : target = other <;> simp_all
  · simp [get?, Std.TreeMap.getElem?_insert]

def ofTargets (targets : List Nat) : LabelTable :=
  targets.foldl (fun t target => (t.resolve target).2) {}

def toList (t : LabelTable) : List (Nat × Label) := t.byTarget.toList

end LabelTable

end Z16
