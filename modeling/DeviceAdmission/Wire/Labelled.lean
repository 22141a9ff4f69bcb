/-!
# Labelled values

A closed set of values that documents name by labels, as a choice on the wire does.
-/
namespace DeviceAdmission.Wire

/-- All values of a type in the order of their labels. -/
structure Labelled (α : Type) where
  values : List α
  label : α → String
  complete : ∀ a, a ∈ values

namespace Labelled

variable {α : Type} (set : Labelled α)

def labels : List String := set.values.map set.label

/-- The value of a label. -/
def ofIndex (i : Fin set.labels.length) : α := set.values.get (i.cast (List.length_map _))

variable [DecidableEq α]

/-- The place of a value's label. -/
def toIndex (a : α) : Fin set.labels.length :=
  ⟨set.values.idxOf a, by
    rw [labels, List.length_map]
    exact List.idxOf_lt_length_of_mem (set.complete a)⟩

@[simp] theorem ofIndex_toIndex (a : α) : set.ofIndex (set.toIndex a) = a :=
  List.getElem_idxOf (List.idxOf_lt_length_of_mem (set.complete a))

@[simp] theorem get_toIndex (a : α) : set.labels.get (set.toIndex a) = set.label a := by
  simp [labels, toIndex]

end Labelled

end DeviceAdmission.Wire
