import NexusD.Core.Basic
import NexusD.Library.Numeral

/-! How numbers are printed: by `std::to_string`, by streams and by `snprintf`. -/

namespace NexusD.Core

open NexusD.Library

/-- `std::to_string` of a signed number. -/
def signedDecimal (value : Int) : ByteString :=
  if value < 0 then 45 :: decimal value.natAbs else decimal value.natAbs

/-- A lower-case hexadecimal digit. -/
def hexDigit (digit : Nat) : UInt8 :=
  if digit < 10 then .ofNat (48 + digit) else .ofNat (87 + digit)

/-- A number under `std::hex`. -/
def hexadecimal (value : Nat) : ByteString := numeral hexDigit 16 value

/-- `std::setw` with a fill character, the text to the right. -/
def setw (width : Nat) (fill : UInt8) (text : ByteString) : ByteString :=
  text.leftpad width fill

/-- `%0*x`, or `std::setw` with `std::hex` and `std::setfill('0')`. -/
def paddedHex (width value : Nat) : ByteString := setw width 48 (hexadecimal value)

theorem hexDigit_inj {a b : Nat} (a_lt : a < 16) (b_lt : b < 16)
    (same : hexDigit a = hexDigit b)
    : a = b := by
  have distinct : ∀ a < 16, ∀ b < 16, hexDigit a = hexDigit b → a = b := by decide
  exact distinct a a_lt b b_lt same

theorem paddedHex_eq {width value : Nat} (fits : value < 16 ^ (width + 1))
    : paddedHex (width + 1) value = fixedNumeral hexDigit 16 (width + 1) value :=
  leftpad_numeral (by decide) fits

end NexusD.Core
