import Mathlib.Data.Int.Notation
import Mathlib.Data.Nat.Digits.Defs

/-! Scalar types shared by the daemon's components. -/

namespace NexusD.Core

/-- `std::string`: an arbitrary sequence of bytes. -/
abbrev ByteString := List UInt8

/-- A `steady_clock::time_point`, in nanosecond ticks. -/
abbrev TimePoint := Int

/-- `time_point::max()` for signed 64-bit ticks. -/
def TimePoint.max : TimePoint := 2 ^ 63 - 1

/-- The signed 64-bit value with the same low bits. -/
def int64 (value : Int) : Int := value.bmod (2 ^ 64)

/-- `now + std::chrono::milliseconds(ms)`: the count is converted to nanoseconds and then
added, both in signed 64-bit ticks.
-/
def TimePoint.addMilliseconds (now : TimePoint) (ms : Int) : TimePoint :=
  int64 (now + int64 (ms * 1000000))

/-- A value the clock can show. -/
def TimePoint.Representable (time : Int) : Prop :=
  -2 ^ 63 ≤ time ∧ time < 2 ^ 63

instance (time : Int) : Decidable (TimePoint.Representable time) :=
  inferInstanceAs (Decidable (_ ∧ _))

theorem TimePoint.addMilliseconds_eq {now : TimePoint} {ms : Int}
    (fits : Representable (now + ms * 1000000))
    : now.addMilliseconds ms = now + ms * 1000000 := by
  unfold addMilliseconds int64
  rw [Int.add_bmod_bmod, Int.bmod_eq_of_le]
  · exact fits.1
  · exact fits.2

/-- `duration_cast<milliseconds>(time_since_epoch()).count()` -/
def TimePoint.toMilliseconds (time : TimePoint) : Int := time.tdiv 1000000

/-- `std::to_string` of an unsigned number. -/
def decimal (value : Nat) : ByteString :=
  if value = 0 then [48]
  else (Nat.digits 10 value).reverse.map (fun digit => UInt8.ofNat (48 + digit))

/-- The number a decimal text stands for. -/
def decimalValue (text : ByteString) : Nat :=
  Nat.ofDigits 10 (text.reverse.map (fun byte => byte.toNat - 48))

theorem toNat_ofNat_digit {digit : Nat} (small : digit < 10)
    : (UInt8.ofNat (48 + digit)).toNat = 48 + digit := by
  rw [UInt8.toNat_ofNat']
  omega

theorem decimalValue_decimal (value : Nat) : decimalValue (decimal value) = value := by
  unfold decimalValue decimal
  split
  · rename_i zero
    simp [zero]
  · have digits
      : (Nat.digits 10 value).map
          (fun digit => (UInt8.ofNat (48 + digit)).toNat - 48)
        = Nat.digits 10 value := by
      conv_rhs => rw [← List.map_id (Nat.digits 10 value)]
      apply List.map_congr_left
      intro digit member
      rw [toNat_ofNat_digit (Nat.digits_lt_base (by decide) member)]
      exact Nat.add_sub_cancel_left 48 digit
    rw [← List.map_reverse, List.reverse_reverse, List.map_map, Function.comp_def, digits,
      Nat.ofDigits_digits]

theorem exists_of_mem_decimal {value : Nat} {byte : UInt8} (member : byte ∈ decimal value)
    : ∃ digit < 10, byte.toNat = 48 + digit := by
  unfold decimal at member
  split at member
  · rw [List.mem_singleton.mp member]
    exact ⟨0, by decide, rfl⟩
  · obtain ⟨digit, digits, rfl⟩ := List.mem_map.mp member
    have small := Nat.digits_lt_base (by decide) (List.mem_reverse.mp digits)
    exact ⟨digit, small, toNat_ofNat_digit small⟩

theorem decimal_ge {value : Nat} {byte : UInt8} (member : byte ∈ decimal value)
    : 48 ≤ byte.toNat := by
  obtain ⟨digit, _, is_digit⟩ := exists_of_mem_decimal member
  omega

/-- A `size_t` difference: below zero it wraps around `2 ^ 64`. Sums of sizes are plain,
because they count bytes that are in memory at the same time.
-/
def sizeSub (total part : Nat) : Nat :=
  if part ≤ total then total - part else total + 2 ^ 64 - part

theorem sizeSub_of_le {total part : Nat} (enough : part ≤ total)
    : sizeSub total part = total - part :=
  if_pos enough

end NexusD.Core
