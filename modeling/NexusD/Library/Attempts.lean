import Mathlib.Data.List.Basic

/-! Computations that may fail, and when they do not. -/

namespace NexusD.Library

variable {ε α β : Type*}

theorem map_eq_ok_iff {attempt : Except ε α} {f : α → β} {result : β}
    : attempt.map f = .ok result ↔ ∃ value, attempt = .ok value ∧ f value = result := by
  cases attempt with
  | error => simp [Except.map]
  | ok value => simp [Except.map]

theorem map_error {attempt : Except ε α} {error : ε} (failed : attempt = .error error)
    (f : α → β)
    : attempt.map f = .error error := by
  rw [failed]
  rfl

theorem exists_map_ok_iff {attempt : Except ε α} {f : α → β}
    : (∃ result, attempt.map f = .ok result) ↔ ∃ value, attempt = .ok value := by
  simp [map_eq_ok_iff]

/-- A loop over items gets to its end exactly if every item passes, where passing does not
depend on the state.
-/
theorem exists_foldlM_ok_iff {f : β → α → Except ε β} {P : α → Prop}
    (step : ∀ state item, (∃ next, f state item = .ok next) ↔ P item) (items : List α)
    (start : β)
    : (∃ final, items.foldlM f start = .ok final) ↔ ∀ item ∈ items, P item := by
  induction items generalizing start with
  | nil => simp [pure, Except.pure]
  | cons item rest ih =>
      rw [List.forall_mem_cons, ← step start item, List.foldlM_cons]
      cases first : f start item with
      | error => simp [bind, Except.bind]
      | ok next => simpa [bind, Except.bind] using ih next

end NexusD.Library
