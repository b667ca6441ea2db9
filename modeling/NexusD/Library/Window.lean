import Mathlib.Data.List.DropRight

/-! The last `size` entries of a growing list, as a bounded ring buffer keeps them.
`List.rtake` is the window; the lemmas say how it moves when an entry is appended and how
it meets a numbering of the underlying list.
-/

namespace NexusD.Library

variable {α : Type*}

@[simp]
theorem length_rtake (list : List α) (size : Nat)
    : (list.rtake size).length = min size list.length := by
  simp only [List.rtake, List.length_drop]
  omega

/-- A positive window over an appended entry drops its oldest entry only when it was full.
-/
theorem rtake_concat (list : List α) (entry : α) {size : Nat} (positive : 0 < size)
    : (list ++ [entry]).rtake size
      = (if size ≤ (list.rtake size).length then (list.rtake size).tail
        else list.rtake size)
        ++ [entry] := by
  obtain ⟨size, rfl⟩ := Nat.exists_eq_succ_of_ne_zero positive.ne'
  rw [List.rtake_concat_succ, length_rtake]
  congr 1
  split
  · simp only [List.rtake, List.tail_drop]
    congr 1
    omega
  · simp only [List.rtake]
    congr 1
    omega

/-- Numbering from `start` and keeping the numbers above `bound` drops a prefix. -/
theorem filter_zipIdx_lt (list : List α) (start bound : Nat)
    : (list.zipIdx start).filter (fun entry => decide (bound < entry.2))
      = (list.zipIdx start).drop (bound + 1 - start) := by
  induction list generalizing start with
  | nil => simp
  | cons head tail ih =>
      simp only [List.zipIdx_cons, List.filter_cons, ih]
      by_cases above : bound < start
      · have zero : bound + 1 - start = 0 := by omega
        have later : bound + 1 - (start + 1) = 0 := by omega
        simp [above, zero, later]
      · obtain ⟨gap, eq⟩ : ∃ gap, bound + 1 - start = gap + 1 :=
          ⟨bound - start, by omega⟩
        have later : bound + 1 - (start + 1) = gap := by omega
        simp [above, eq, later]

/-- Dropping from a numbered list shifts the numbering. -/
theorem drop_zipIdx (list : List α) (start lost : Nat)
    : (list.zipIdx start).drop lost = (list.drop lost).zipIdx (start + lost) := by
  induction list generalizing start lost with
  | nil => simp
  | cons head tail ih =>
      cases lost with
      | zero => simp
      | succ lost =>
          simp only [List.zipIdx_cons, List.drop_succ_cons, ih]
          congr 1
          omega

/-- The numbers above `bound` in a window of a numbered list are again a suffix of it. -/
theorem filter_drop_zipIdx_lt (list : List α) (start bound lost : Nat)
    : ((list.zipIdx start).drop lost).filter (fun entry => decide (bound < entry.2))
      = (list.zipIdx start).drop (max (bound + 1 - start) lost) := by
  rw [drop_zipIdx, filter_zipIdx_lt, drop_zipIdx, drop_zipIdx, List.drop_drop]
  have skipped : lost + (bound + 1 - (start + lost)) = max (bound + 1 - start) lost := by
    omega
  rw [Nat.add_assoc, skipped]

end NexusD.Library
