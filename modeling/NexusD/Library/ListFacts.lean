import Mathlib.Data.List.FinRange
import Mathlib.Data.List.Forall2
import Mathlib.Data.List.Pairwise

/-! Small facts about lists: members, positions and partial functions over them. -/

namespace NexusD.Library

variable {α β : Type*}

theorem ne_nil_iff_exists_mem {items : List α} : items ≠ [] ↔ ∃ item, item ∈ items :=
  ⟨List.exists_mem_of_ne_nil items, fun ⟨_, member⟩ => List.ne_nil_of_mem member⟩

theorem getElem?_snoc {items : List α} {item found : α} {index : Nat}
    (there : (items ++ [item])[index]? = some found)
    : items[index]? = some found ∨ found = item := by
  rcases Nat.lt_or_ge index items.length with early | late
  · rw [List.getElem?_append_left early] at there
    exact .inl there
  · rw [List.getElem?_append_right late] at there
    exact .inr (List.mem_singleton.mp (List.mem_of_getElem? there))

/-- Over distinct items, a partial function gives distinct values exactly if it gives no two of
them the same.
-/
theorem nodup_filterMap_iff {items : List α} (distinct : items.Nodup) {value : α → Option β}
    : (items.filterMap value).Nodup
      ↔ ∀ left ∈ items, ∀ right ∈ items, ∀ shared,
          value left = some shared → value right = some shared → left = right := by
  rw [List.Nodup, List.pairwise_filterMap]
  constructor
  · intro apart left inLeft right inRight shared leftIs rightIs
    by_contra different
    have symmetric
      : Std.Symm (fun left right =>
          ∀ first, value left = some first
          → ∀ second, value right = some second
          → first ≠ second) :=
      ⟨fun _ _ apart first firstIs second secondIs =>
        (apart second secondIs first firstIs).symm⟩
    exact apart.forall inLeft inRight different shared leftIs shared rightIs rfl
  · intro injective
    refine distinct.imp_of_mem ?_
    intro left right inLeft inRight different shared leftIs other rightIs same
    subst same
    exact different (injective left inLeft right inRight shared leftIs rightIs)

theorem forall₂_ofFn {R : α → β → Prop} {size : Nat} {f : Fin size → α} {g : Fin size → β}
    (related : ∀ i, R (f i) (g i))
    : List.Forall₂ R (List.ofFn f) (List.ofFn g) := by
  rw [List.ofFn_eq_map, List.ofFn_eq_map, List.forall₂_map_left_iff, List.forall₂_map_right_iff,
    List.forall₂_same]
  exact fun i _ => related i

end NexusD.Library
