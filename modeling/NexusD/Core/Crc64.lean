import NexusD.Core.Basic

/-! CRC-64 with the ECMA-182 polynomial, by table. -/

namespace NexusD.Core.Crc64

def polynomial : UInt64 := 0x42F0E1EBA9EA3693

/-- One round of the inner loop of `generateTable`. -/
def shift (crc : UInt64) : UInt64 :=
  if crc &&& 0x8000000000000000 ≠ 0 then (crc <<< 1) ^^^ polynomial else crc <<< 1

/-- `table()[index]` -/
def table (index : UInt8) : UInt64 :=
  shift^[8] (index.toUInt64 <<< 56)

def updateByte (crc : UInt64) (byte : UInt8) : UInt64 :=
  table ((crc >>> 56).toUInt8 ^^^ byte) ^^^ (crc <<< 8)

def update (crc : UInt64) (data : ByteString) : UInt64 :=
  data.foldl updateByte crc

def initial : UInt64 := 0xFFFFFFFFFFFFFFFF

def finalize (crc : UInt64) : UInt64 := crc ^^^ 0xFFFFFFFFFFFFFFFF

def compute (data : ByteString) : UInt64 :=
  finalize (update initial data)

/-- The overload for a vector of strings. -/
def computeStrings (strings : List ByteString) : UInt64 :=
  finalize (strings.foldl update initial)

theorem foldl_update (crc : UInt64) (pieces : List ByteString)
    : pieces.foldl update crc = update crc pieces.flatten := by
  induction pieces generalizing crc with
  | nil => rfl
  | cons first rest ih => simp [ih, update]

/-- The strings are hashed without anything between them. -/
theorem computeStrings_eq (strings : List ByteString)
    : computeStrings strings = compute strings.flatten := by
  rw [computeStrings, foldl_update, compute]

-- the check value of the polynomial with these constants, for "123456789"
example : compute [49, 50, 51, 52, 53, 54, 55, 56, 57] = 0x62EC59E3F1A4F00A := by
  decide +kernel

end NexusD.Core.Crc64
