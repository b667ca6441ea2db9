import Mathlib.Data.List.Infix

/-! Queues that only lose from the front.
What was accepted is what is gone, followed by what is there; and what was delivered is part of
what is gone.
-/

namespace NexusD.Library

variable {α β : Type*} {observe : α → β} {accepted contents : List α} {delivered : List β}

/-- `accepted` went in at the back in this order, `delivered` came out and `contents` is left.
-/
def FrontLoss (observe : α → β) (accepted : List α) (delivered : List β) (contents : List α)
    : Prop :=
  ∃ gone, accepted = gone ++ contents ∧ delivered.Sublist (gone.map observe)

theorem frontLoss_nil : FrontLoss observe [] [] [] :=
  ⟨[], rfl, List.Sublist.refl []⟩

theorem FrontLoss.push (loss : FrontLoss observe accepted delivered contents) (item : α)
    : FrontLoss observe (accepted ++ [item]) delivered (contents ++ [item]) := by
  obtain ⟨gone, split, part⟩ := loss
  exact ⟨gone, by rw [split, List.append_assoc], part⟩

theorem FrontLoss.lose {lost : List α}
    (loss : FrontLoss observe accepted delivered (lost ++ contents))
    : FrontLoss observe accepted delivered contents := by
  obtain ⟨gone, split, part⟩ := loss
  refine ⟨gone ++ lost, by rw [split, List.append_assoc], ?_⟩
  rw [List.map_append]
  exact part.trans (List.sublist_append_left _ _)

theorem FrontLoss.deliver {taken : List α}
    (loss : FrontLoss observe accepted delivered (taken ++ contents))
    : FrontLoss observe accepted (delivered ++ taken.map observe) contents := by
  obtain ⟨gone, split, part⟩ := loss
  refine ⟨gone ++ taken, by rw [split, List.append_assoc], ?_⟩
  rw [List.map_append]
  exact part.append (List.Sublist.refl _)

theorem FrontLoss.suffix (loss : FrontLoss observe accepted delivered contents)
    : contents <:+ accepted := by
  obtain ⟨gone, split, _⟩ := loss
  exact ⟨gone, split.symm⟩

theorem FrontLoss.sublist (loss : FrontLoss observe accepted delivered contents)
    : delivered.Sublist (accepted.map observe) := by
  obtain ⟨gone, split, part⟩ := loss
  rw [split, List.map_append]
  exact part.trans (List.sublist_append_left _ _)

end NexusD.Library
