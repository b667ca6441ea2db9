import Mathlib.Data.Nat.Digits.Defs

/-! Numbers written in a base, most significant digit first, over any alphabet of digits. -/

namespace NexusD.Library

variable {α : Type*} (symbol : Nat → α) (base : Nat)

/-- As many digits as it takes, and one for zero. -/
def numeral (value : Nat) : List α :=
  if value = 0 then [symbol 0] else (Nat.digits base value).reverse.map symbol

/-- The last `width` digits. -/
def fixedNumeral : Nat → Nat → List α
  | 0, _ => []
  | width + 1, value => fixedNumeral width (value / base) ++ [symbol (value % base)]

section Writing

variable {symbol base} (two : 1 < base)

theorem numeral_of_lt {value : Nat} (small : value < base)
    : numeral symbol base value = [symbol value] := by
  unfold numeral
  split
  · rename_i zero
    rw [zero]
  · rename_i positive
    rw [Nat.digits_of_lt base value positive small]
    rfl

include two in
theorem numeral_of_ge {value : Nat} (large : base ≤ value)
    : numeral symbol base value
      = numeral symbol base (value / base) ++ [symbol (value % base)] := by
  have positive : 0 < value := by omega
  have quotient : value / base ≠ 0 := (Nat.div_pos large (by omega)).ne'
  rw [numeral, numeral, if_neg positive.ne', if_neg quotient, Nat.digits_def' two positive]
  simp

theorem fixedNumeral_zero (width : Nat)
    : fixedNumeral symbol base width 0 = List.replicate width (symbol 0) := by
  induction width with
  | zero => rfl
  | succ width ih =>
      rw [fixedNumeral, Nat.zero_div, Nat.zero_mod, ih, List.replicate_succ']

theorem leftpad_append_singleton (width : Nat) (fill last : α) (text : List α)
    : (text ++ [last]).leftpad (width + 1) fill = text.leftpad width fill ++ [last] := by
  simp [List.leftpad]

include two in
/-- Padding with zeros makes up for the digits that are not written. -/
theorem leftpad_numeral {width value : Nat} (fits : value < base ^ (width + 1))
    : (numeral symbol base value).leftpad (width + 1) (symbol 0)
      = fixedNumeral symbol base (width + 1) value := by
  induction width generalizing value with
  | zero =>
      have small : value < base := by simpa using fits
      simp [numeral_of_lt small, fixedNumeral, Nat.mod_eq_of_lt small, List.leftpad]
  | succ width ih =>
      by_cases small : value < base
      · rw [numeral_of_lt small, fixedNumeral, Nat.div_eq_of_lt small,
          fixedNumeral_zero, Nat.mod_eq_of_lt small]
        simp [List.leftpad]
      · have quotient : value / base < base ^ (width + 1) :=
          Nat.div_lt_of_lt_mul (by rwa [Nat.pow_succ'] at fits)
        rw [numeral_of_ge two (Nat.not_lt.mp small), leftpad_append_singleton, ih quotient]
        rfl

end Writing

section Reading

variable {symbol base}

@[simp]
theorem length_fixedNumeral (width value : Nat)
    : (fixedNumeral symbol base width value).length = width := by
  induction width generalizing value with
  | zero => rfl
  | succ width ih => simp [fixedNumeral, ih]

theorem exists_of_mem_fixedNumeral (positive : 0 < base) {width value : Nat} {digit : α}
    (member : digit ∈ fixedNumeral symbol base width value)
    : ∃ number < base, digit = symbol number := by
  induction width generalizing value with
  | zero => cases member
  | succ width ih =>
      rcases List.mem_append.mp member with earlier | last
      · exact ih earlier
      · exact ⟨value % base, Nat.mod_lt value positive, List.mem_singleton.mp last⟩

theorem head?_fixedNumeral (width value : Nat)
    : (fixedNumeral symbol base (width + 1) value).head?
      = some (symbol (value / base ^ width % base)) := by
  induction width generalizing value with
  | zero => simp [fixedNumeral]
  | succ width ih =>
      rw [fixedNumeral, List.head?_append, ih, Option.some_or, Nat.div_div_eq_div_mul,
        Nat.pow_succ']

/-- The digits tell the number, up to what the width cuts off. -/
theorem fixedNumeral_inj
    (distinct : ∀ {a b : Nat}, a < base → b < base → symbol a = symbol b → a = b)
    (positive : 0 < base) {width a b : Nat}
    : fixedNumeral symbol base width a = fixedNumeral symbol base width b
      ↔ a % base ^ width = b % base ^ width := by
  induction width generalizing a b with
  | zero => simp [fixedNumeral, Nat.mod_one]
  | succ width ih =>
      have split (value : Nat)
        : value % base ^ (width + 1) = value % base + base * (value / base % base ^ width) := by
        rw [Nat.pow_succ', Nat.mod_mul]
      rw [split a, split b]
      constructor
      · intro same
        obtain ⟨front, last⟩ := List.append_inj' same rfl
        rw [ih.mp front, distinct (Nat.mod_lt a positive) (Nat.mod_lt b positive)
          (List.cons.inj last).1]
      · intro same
        have last : a % base = b % base := by
          have cut := congrArg (· % base) same
          simpa using cut
        rw [last, Nat.add_left_cancel_iff, Nat.mul_left_cancel_iff positive] at same
        rw [fixedNumeral, fixedNumeral, ih.mpr same, last]

end Reading

end NexusD.Library
