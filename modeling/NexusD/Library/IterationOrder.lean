import Mathlib.Data.List.Perm.Basic

/-! The visiting order of an unordered container, as an explicit parameter.
A hash map promises only that a traversal visits every key once. A result proved for every
`IterationOrder` therefore holds for every hash function and every rehash.
-/

namespace NexusD.Library

/-- One choice of visiting order for each key list. -/
structure IterationOrder (Key : Type*) where
  visit : List Key → List Key
  perm : ∀ keys, (visit keys).Perm keys

namespace IterationOrder

variable {Key : Type*}

/-- Visit the keys as they are stored. -/
def asStored : IterationOrder Key where
  visit keys := keys
  perm _ := .rfl

@[simp]
theorem mem_visit (order : IterationOrder Key) {keys : List Key} {key : Key}
    : key ∈ order.visit keys ↔ key ∈ keys :=
  (order.perm keys).mem_iff

theorem nodup_visit (order : IterationOrder Key) {keys : List Key} (unique : keys.Nodup)
    : (order.visit keys).Nodup :=
  (order.perm keys).nodup_iff.mpr unique

end IterationOrder

end NexusD.Library
