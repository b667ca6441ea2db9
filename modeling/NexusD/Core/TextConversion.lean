import Mathlib.Data.List.TakeWhile
import NexusD.Core.Basic

/-! The conversions from text to numbers of the C++ library, in the "C" locale and with 64-bit
`long`.
-/

namespace NexusD.Core

/-- An ASCII literal. -/
def ascii (text : String) : ByteString :=
  text.toList.map (fun character => UInt8.ofNat character.toNat)

/-- `std::isspace`: tab, line feed, vertical tab, form feed, carriage return and blank. -/
def isspace (byte : UInt8) : Bool := byte = 32 || (9 ≤ byte && byte ≤ 13)

def isdigit (byte : UInt8) : Bool := 48 ≤ byte && byte ≤ 57

/-- What `std::stoi` and its relatives throw. -/
inductive ConversionError where
  | invalidArgument
  | outOfRange
deriving DecidableEq, Repr

/-- An optional sign: whether it is a minus, and what follows. -/
def splitSign : ByteString → Bool × ByteString
  | [] => (false, [])
  | byte :: rest =>
      if byte = 45 then (true, rest)
      else if byte = 43 then (false, rest)
      else (false, byte :: rest)

/-- The sign and the magnitude that `strtol` reads: white space, an optional sign and the
longest run of digits. Whatever follows is ignored.
-/
def leadingNumber (text : ByteString) : Option (Bool × Nat) :=
  let (negative, body) := splitSign (text.dropWhile isspace)
  let digits := body.takeWhile isdigit
  if digits = [] then none else some (negative, decimalValue digits)

/-- To a signed type with `width` bits. -/
def toSigned (width : Nat) (text : ByteString) : Except ConversionError Int :=
  match leadingNumber text with
  | none => .error .invalidArgument
  | some (negative, magnitude) =>
      let value : Int := if negative then -magnitude else magnitude
      if -2 ^ (width - 1) ≤ value ∧ value < 2 ^ (width - 1) then .ok value
      else .error .outOfRange

/-- To an unsigned type with `width` bits. A minus sign is accepted, and the value wraps. -/
def toUnsigned (width : Nat) (text : ByteString) : Except ConversionError Nat :=
  match leadingNumber text with
  | none => .error .invalidArgument
  | some (negative, magnitude) =>
      if magnitude < 2 ^ width then
        .ok (if negative then (2 ^ width - magnitude) % 2 ^ width else magnitude)
      else
        .error .outOfRange

def stoi : ByteString → Except ConversionError Int := toSigned 32

def stoll : ByteString → Except ConversionError Int := toSigned 64

def stoul : ByteString → Except ConversionError Nat := toUnsigned 64

def stoull : ByteString → Except ConversionError Nat := toUnsigned 64

theorem isdigit_iff (byte : UInt8)
    : isdigit byte = true ↔ 48 ≤ byte.toNat ∧ byte.toNat ≤ 57 := by
  simp only [isdigit, Bool.and_eq_true, decide_eq_true_eq, UInt8.le_iff_toNat_le]
  rfl

/-- A digit is neither white space nor a sign. -/
theorem isdigit_plain {byte : UInt8} (digit : isdigit byte = true)
    : isspace byte = false ∧ byte ≠ 45 ∧ byte ≠ 43 := by
  rw [isdigit_iff] at digit
  refine ⟨?_, ?_, ?_⟩
  · simp only [isspace, Bool.or_eq_false_iff, Bool.and_eq_false_iff, decide_eq_false_iff_not,
      UInt8.le_iff_toNat_le]
    have read : (13 : UInt8).toNat = 13 := rfl
    refine ⟨?_, .inr (by omega)⟩
    intro blank
    rw [blank] at digit
    exact absurd digit.1 (by decide)
  · intro minus
    rw [minus] at digit
    exact absurd digit.1 (by decide)
  · intro plus
    rw [plus] at digit
    exact absurd digit.1 (by decide)

theorem decimal_isdigit {value : Nat} {byte : UInt8} (member : byte ∈ decimal value)
    : isdigit byte = true := by
  rw [isdigit_iff]
  obtain ⟨digit, small, is_digit⟩ := exists_of_mem_decimal member
  omega

theorem decimal_ne_nil (value : Nat) : decimal value ≠ [] := by
  unfold decimal
  split
  · exact List.cons_ne_nil _ _
  · rename_i positive
    intro empty
    rw [List.map_eq_nil_iff, List.reverse_eq_nil_iff, Nat.digits_eq_nil_iff_eq_zero] at empty
    exact positive empty

theorem leadingNumber_decimal (value : Nat)
    : leadingNumber (decimal value) = some (false, value) := by
  have digits : ∀ byte ∈ decimal value, isdigit byte = true :=
    fun byte member => decimal_isdigit member
  have whole : (decimal value).takeWhile isdigit = decimal value :=
    List.takeWhile_eq_self_iff.mpr digits
  have start : splitSign ((decimal value).dropWhile isspace) = (false, decimal value) := by
    cases text : decimal value with
    | nil => rfl
    | cons first rest =>
        rw [text] at digits
        obtain ⟨space, minus, plus⟩ := isdigit_plain (digits first List.mem_cons_self)
        simp [space, splitSign, minus, plus]
  simp [leadingNumber, start, whole, decimal_ne_nil, decimalValue_decimal]

theorem toSigned_decimal (width value : Nat)
    : toSigned width (decimal value)
      = if value < 2 ^ (width - 1) then .ok (value : Int) else .error .outOfRange := by
  simp only [toSigned, leadingNumber_decimal]
  have bound : (value : Int) < 2 ^ (width - 1) ↔ value < 2 ^ (width - 1) := by
    exact_mod_cast Iff.rfl
  have low : -2 ^ (width - 1) ≤ (value : Int) := by
    have power : (0 : Int) ≤ 2 ^ (width - 1) := Int.pow_nonneg (by decide)
    omega
  simp [bound, low]

theorem toUnsigned_decimal (width value : Nat)
    : toUnsigned width (decimal value)
      = if value < 2 ^ width then .ok value else .error .outOfRange := by
  simp [toUnsigned, leadingNumber_decimal]

end NexusD.Core
