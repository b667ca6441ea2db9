import Mathlib.Data.List.Basic
import Mathlib.Data.Set.Basic

/-! When two lists of words have the same concatenation.
Of ordered lists one then hides a word from the other, or they are equal. For words of a
prefix-free set the concatenation determines the list, in whatever order.
-/

namespace NexusD.Library

variable {α : Type*}

/-- A word that the other list lacks, and that is empty or begins one of its words. -/
def Hides (words others : List (List α)) : Prop :=
  ∃ word ∈ words, word ∉ others ∧ (word = [] ∨ ∃ longer ∈ others, word <+: longer)

theorem Hides.cons {words others : List (List α)} (hides : Hides words others)
    {first : List α} (new : first ∉ words)
    : Hides (first :: words) (first :: others) := by
  obtain ⟨word, member, absent, short⟩ := hides
  refine ⟨word, List.mem_cons_of_mem _ member, ?_, ?_⟩
  · rw [List.mem_cons, not_or]
    exact ⟨fun same => new (same ▸ member), absent⟩
  · rcases short with empty | ⟨longer, inside, isPrefix⟩
    · exact .inl empty
    · exact .inr ⟨longer, List.mem_cons_of_mem _ inside, isPrefix⟩

/-- No word is empty and none is a proper prefix of another. -/
structure PrefixFree (words : Set (List α)) : Prop where
  nonempty : ∀ word ∈ words, word ≠ []
  free : ∀ short ∈ words, ∀ long ∈ words, short <+: long → short = long

/-- Words of a prefix-free set are read off from the front of their concatenation. -/
theorem PrefixFree.flatten_injective {words : Set (List α)} (code : PrefixFree words)
    {lefts rights : List (List α)} (inLeft : ∀ word ∈ lefts, word ∈ words)
    (inRight : ∀ word ∈ rights, word ∈ words) (same : lefts.flatten = rights.flatten)
    : lefts = rights := by
  induction lefts generalizing rights with
  | nil =>
      cases rights with
      | nil => rfl
      | cons right rights =>
          have some := code.nonempty right (inRight right List.mem_cons_self)
          simp [some] at same
  | cons left lefts ih =>
      obtain ⟨leftIn, leftsIn⟩ := List.forall_mem_cons.mp inLeft
      cases rights with
      | nil => simp [code.nonempty left leftIn] at same
      | cons right rights =>
          obtain ⟨rightIn, rightsIn⟩ := List.forall_mem_cons.mp inRight
          have heads : left = right := by
            have before : left <+: (left :: lefts).flatten := ⟨_, rfl⟩
            have beforeToo : right <+: (left :: lefts).flatten := same ▸ ⟨_, rfl⟩
            rcases List.prefix_or_prefix_of_prefix before beforeToo with shorter | longer
            · exact code.free left leftIn right rightIn shorter
            · exact (code.free right rightIn left leftIn longer).symm
          subst heads
          rw [List.flatten_cons, List.flatten_cons, List.append_cancel_left_eq] at same
          rw [ih leftsIn rightsIn same]

/-- Words closed by a letter they do not contain. -/
theorem prefixFree_terminated (terminator : α)
    : PrefixFree { word | ∃ body, terminator ∉ body ∧ word = body ++ [terminator] } where
  nonempty word member := by
    rcases member with ⟨body, _, rfl⟩
    simp
  free short shortIn long longIn isPrefix := by
    rcases shortIn with ⟨body, _, rfl⟩
    rcases longIn with ⟨other, absent, rfl⟩
    obtain ⟨rest, same⟩ := isPrefix
    rcases List.eq_nil_or_concat rest with rfl | ⟨middle, last, rfl⟩
    · simpa using same
    · -- the first terminator would lie inside the other body
      rw [List.concat_eq_append, ← List.append_assoc] at same
      obtain ⟨inside, _⟩ := List.append_inj' same rfl
      exact absurd (inside ▸ by simp) absent

/-- The last separator tells where a text was put together. -/
theorem eq_of_append_cons_eq {separator : α} {left left' right right' : List α}
    (absent : separator ∉ right) (absent' : separator ∉ right')
    (same : left ++ separator :: right = left' ++ separator :: right')
    : left = left' ∧ right = right' := by
  rcases List.append_eq_append_iff.mp same with ⟨more, rfl, split⟩ | ⟨more, rfl, split⟩
  · cases more with
    | nil => exact ⟨(List.append_nil _).symm, (List.cons.inj split).2⟩
    | cons first rest =>
        obtain ⟨rfl, rfl⟩ := List.cons.inj split
        exact absurd (by simp) absent
  · cases more with
    | nil => exact ⟨List.append_nil _, (List.cons.inj split).2.symm⟩
    | cons first rest =>
        obtain ⟨rfl, rfl⟩ := List.cons.inj split
        exact absurd (by simp) absent'

end NexusD.Library
