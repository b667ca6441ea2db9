import Mathlib.Algebra.GroupWithZero.Nat
import Mathlib.Data.List.AList

/-! The sum of a measure over the values of a finite map, and how it moves with the map. -/

namespace NexusD.Library

variable {Key Value : Type*}

def valueSum (measure : Value → Nat) (map : AList (fun _ : Key => Value)) : Nat :=
  (map.entries.map (fun entry => measure entry.2)).sum

@[simp]
theorem valueSum_empty (measure : Value → Nat)
    : valueSum measure (∅ : AList (fun _ : Key => Value)) = 0 :=
  rfl

variable [DecidableEq Key]

/-- An inserted value comes on top of what the map holds under the other keys. -/
theorem valueSum_insert (measure : Value → Nat) (map : AList (fun _ : Key => Value))
    (key : Key) (value : Value)
    : valueSum measure (map.insert key value)
      = measure value + valueSum measure (map.erase key) := by
  simp only [valueSum, AList.entries_insert, List.map_cons, List.sum_cons]
  rfl

theorem sum_kerase (measure : Value → Nat) {key : Key} {value : Value}
    {entries : List (Sigma (fun _ : Key => Value))}
    (found : entries.dlookup key = some value)
    : measure value + ((entries.kerase key).map (fun entry => measure entry.2)).sum
      = (entries.map (fun entry => measure entry.2)).sum := by
  induction entries with
  | nil => simp at found
  | cons entry rest ih =>
      by_cases same : key = entry.1
      · obtain ⟨_, other⟩ := entry
        subst same
        rw [List.dlookup_cons_eq, Option.some.injEq] at found
        have gone : List.kerase key (⟨key, other⟩ :: rest) = rest := List.kerase_cons_eq rfl
        rw [gone, List.map_cons, List.sum_cons, found]
      · rw [List.dlookup_cons_ne _ _ same] at found
        rw [List.kerase_cons_ne same, List.map_cons, List.map_cons, List.sum_cons,
          List.sum_cons, ← ih found]
        omega

/-- Erasing a stored key takes its value out of the sum. -/
theorem valueSum_erase (measure : Value → Nat) {map : AList (fun _ : Key => Value)}
    {key : Key} {value : Value} (found : map.lookup key = some value)
    : measure value + valueSum measure (map.erase key) = valueSum measure map :=
  sum_kerase measure found

theorem erase_of_lookup_none {map : AList (fun _ : Key => Value)} {key : Key}
    (missing : map.lookup key = none)
    : map.erase key = map := by
  apply AList.ext
  exact List.kerase_of_notMem_keys (AList.lookup_eq_none.mp missing)

theorem le_valueSum (measure : Value → Nat) {map : AList (fun _ : Key => Value)}
    {key : Key} {value : Value} (found : map.lookup key = some value)
    : measure value ≤ valueSum measure map := by
  rw [← valueSum_erase measure found]
  exact Nat.le_add_right _ _

/-- Measures that agree on the stored values have the same sum. -/
theorem valueSum_congr {measure other : Value → Nat} {map : AList (fun _ : Key => Value)}
    (agree : ∀ key value, map.lookup key = some value → measure value = other value)
    : valueSum measure map = valueSum other map := by
  unfold valueSum
  congr 1
  apply List.map_congr_left
  intro entry member
  exact agree entry.1 entry.2 (AList.mem_lookup_iff.mpr member)

end NexusD.Library
