import NexusD.Core.Crc64
import NexusD.Library.ShiftRegister

/-! The table-driven CRC-64 against the shift register it stands for, and what follows for
short changes of the data.
-/

namespace NexusD.Core.Crc64

open NexusD.Library

/-- The bits of a byte, most significant first. -/
def bits (byte : UInt8) : List Bool :=
  (List.range 8).map byte.toBitVec.getMsbD

/-- The register after the bits of `data` have gone in one at a time. -/
def bitwise (crc : UInt64) (data : ByteString) : UInt64 :=
  .ofBitVec (ShiftRegister.feedAll polynomial.toBitVec crc.toBitVec (data.flatMap bits))

theorem topBit_iff (crc : UInt64)
    : crc &&& 0x8000000000000000 ≠ 0 ↔ crc.toBitVec.msb = true := by
  have masked
    : (crc &&& 0x8000000000000000).toBitVec = ShiftRegister.top 64 crc.toBitVec.msb :=
    ShiftRegister.and_intMin crc.toBitVec
  rw [← UInt64.toBitVec_inj.ne, masked]
  cases crc.toBitVec.msb <;> decide

theorem shift_semiconj
    : Function.Semiconj UInt64.toBitVec shift (ShiftRegister.step polynomial.toBitVec) := by
  intro crc
  unfold shift ShiftRegister.step
  simp only [topBit_iff]
  split <;> simp

theorem align_bits (byte : UInt8)
    : ShiftRegister.align 64 (bits byte) = byte.toUInt64.toBitVec <<< 56 := by
  apply BitVec.eq_of_getMsbD_eq
  intro i below
  rw [ShiftRegister.getMsbD_align, BitVec.getMsbD_shiftLeft]
  by_cases inside : i < 8
  · simp [bits, below, inside, BitVec.getMsbD_setWidth]
  · simp [bits, below, inside, BitVec.getMsbD_of_ge byte.toBitVec i (Nat.not_lt.mp inside)]

/-- What is left of a register without its first byte. -/
theorem low_shift (register : BitVec 64)
    : (ShiftRegister.step polynomial.toBitVec)^[8] (register ^^^ (register >>> 56) <<< 56)
      = register <<< 8 := by
  rw [ShiftRegister.step_iterate_of_clear]
  · apply BitVec.eq_of_getMsbD_eq
    intro i below
    simp
  · intro i below
    simp only [BitVec.getMsbD_xor, BitVec.getMsbD_shiftLeft, BitVec.getMsbD_ushiftRight]
    have inside : i + 56 < 64 := by omega
    simp [inside]

theorem topByte_toUInt64 (crc : UInt64)
    : (crc >>> 56).toUInt8.toUInt64.toBitVec = crc.toBitVec >>> 56 := by
  apply BitVec.eq_of_toNat_eq
  have bound := crc.toNat_lt
  simp only [UInt8.toBitVec_toUInt64, UInt64.toBitVec_toUInt8, UInt64.toBitVec_shiftRight]
  simp [Nat.shiftRight_eq_div_pow]
  omega

/-- The register with a byte added at the top: the index into the table, and the rest. -/
theorem xor_byte_split (crc : UInt64) (byte : UInt8)
    : crc.toBitVec ^^^ byte.toUInt64.toBitVec <<< 56
      = (((crc >>> 56).toUInt8 ^^^ byte).toUInt64 <<< 56).toBitVec
        ^^^ (crc.toBitVec ^^^ (crc.toBitVec >>> 56) <<< 56) := by
  have index
    : (((crc >>> 56).toUInt8 ^^^ byte).toUInt64 <<< 56).toBitVec
      = (crc.toBitVec >>> 56) <<< 56 ^^^ byte.toUInt64.toBitVec <<< 56 := by
    rw [← BitVec.shiftLeft_xor_distrib, ← topByte_toUInt64]
    simp
  rw [index]
  apply BitVec.eq_of_getMsbD_eq
  intro i _
  simp only [BitVec.getMsbD_xor]
  cases crc.toBitVec.getMsbD i <;> cases ((crc.toBitVec >>> 56) <<< 56).getMsbD i
    <;> cases (byte.toUInt64.toBitVec <<< 56).getMsbD i <;> rfl

/-- The table does eight clocks at once: the byte that falls out decides what is added, and
the other seven only move.
-/
theorem updateByte_toBitVec (crc : UInt64) (byte : UInt8)
    : (updateByte crc byte).toBitVec
      = ShiftRegister.feedAll polynomial.toBitVec crc.toBitVec (bits byte) := by
  have eight : (bits byte).length = 8 := by simp [bits]
  rw [ShiftRegister.feedAll_eq_step_iterate _ _ (by rw [eight]; decide), align_bits, eight,
    xor_byte_split, ShiftRegister.step_iterate_xor, low_shift, updateByte, table,
    UInt64.toBitVec_xor, (shift_semiconj.iterate_right 8).eq]
  rfl

theorem update_toBitVec (crc : UInt64) (data : ByteString)
    : (update crc data).toBitVec
      = ShiftRegister.feedAll polynomial.toBitVec crc.toBitVec (data.flatMap bits) := by
  induction data generalizing crc with
  | nil => rfl
  | cons byte rest ih =>
      have later := ih (updateByte crc byte)
      rw [updateByte_toBitVec, ShiftRegister.feedAll, ShiftRegister.feedAll,
        ← List.foldl_append] at later
      exact later

/-- Hashing with the table is feeding the shift register bit by bit, and it does not matter
how the data is cut up.
-/
theorem update_eq_bitwise (crc : UInt64) (data : ByteString) (pieces : List ByteString)
    : update crc data = bitwise crc data
      ∧ pieces.foldl update crc = update crc pieces.flatten
      ∧ computeStrings pieces = compute pieces.flatten := by
  refine ⟨?_, foldl_update crc pieces, computeStrings_eq pieces⟩
  rw [bitwise, ← update_toBitVec]

-----------------------------------------------------------------------------------------
-- Short changes
-----------------------------------------------------------------------------------------

theorem polynomial_odd : polynomial.toBitVec.getMsbD (64 - 1) = true := by decide

theorem update_injective (data : ByteString)
    : Function.Injective (fun crc => update crc data) := by
  intro a b same
  apply UInt64.toBitVec_inj.mp
  apply ShiftRegister.feedAll_injective polynomial_odd (data.flatMap bits)
  simp only [← update_toBitVec]
  exact congrArg UInt64.toBitVec same

theorem bits_injective : Function.Injective bits := by
  intro a b same
  apply UInt8.toBitVec_inj.mp
  apply BitVec.eq_of_getMsbD_eq
  intro i below
  have here := congrArg (·[i]?) same
  simpa [bits, below] using here

theorem flatMap_bits_injective {a b : ByteString} (length : a.length = b.length)
    (same : a.flatMap bits = b.flatMap bits)
    : a = b := by
  induction a generalizing b with
  | nil => exact (List.length_eq_zero_iff.mp length.symm).symm
  | cons first rest ih =>
      cases b with
      | nil => cases length
      | cons other others =>
          rw [List.flatMap_cons, List.flatMap_cons] at same
          have parts := List.append_inj same (by simp [bits])
          rw [bits_injective parts.1, ih (Nat.succ.inj length) parts.2]

theorem length_flatMap_bits (data : ByteString)
    : (data.flatMap bits).length = 8 * data.length := by
  induction data with
  | nil => rfl
  | cons byte rest ih => simp [bits, ih, Nat.mul_add, Nat.add_comm]

/-- Strings of one length that differ, but in nothing outside eight consecutive bytes. -/
structure DifferInWindow (a b : ByteString) : Prop where
  length : a.length = b.length
  differ : a ≠ b
  window : ∃ start, ∀ i, i < start ∨ start + 8 ≤ i → a[i]? = b[i]?

/-- The part before the window, the window and the part behind it. -/
theorem window_split (data : ByteString) (start : Nat)
    : data.take start ++ (data.drop start).take 8 ++ data.drop (start + 8) = data := by
  rw [List.append_assoc, ← List.drop_drop, List.take_append_drop, List.take_append_drop]

theorem DifferInWindow.update_ne {a b : ByteString} (change : DifferInWindow a b)
    (crc : UInt64)
    : update crc a ≠ update crc b := by
  obtain ⟨start, outside⟩ := change.window
  have before : a.take start = b.take start := by
    apply List.ext_getElem?
    intro i
    by_cases inside : i < start
    · simp [inside, outside i (.inl inside)]
    · simp [inside]
  have behind : a.drop (start + 8) = b.drop (start + 8) := by
    apply List.ext_getElem?
    intro i
    rw [List.getElem?_drop, List.getElem?_drop, outside _ (.inr (Nat.le_add_right _ i))]
  have lengths : ((a.drop start).take 8).length = ((b.drop start).take 8).length := by
    simp [change.length]
  have windows : (a.drop start).take 8 ≠ (b.drop start).take 8 := by
    intro same
    apply change.differ
    rw [← window_split a start, ← window_split b start, before, same, behind]
  intro same
  have fed := congrArg UInt64.toBitVec same
  rw [← window_split a start, ← window_split b start, before, behind, update_toBitVec,
    update_toBitVec, List.flatMap_append, List.flatMap_append, List.flatMap_append,
    List.flatMap_append] at fed
  refine ShiftRegister.feedAll_ne_of_window polynomial_odd crc.toBitVec _ _ ?_ ?_ ?_ fed
  · rw [length_flatMap_bits, length_flatMap_bits, lengths]
  · have short : ((a.drop start).take 8).length ≤ 8 := List.length_take_le 8 _
    rw [length_flatMap_bits]
    omega
  · intro same
    exact windows (flatMap_bits_injective lengths same)

/-- No change within eight consecutive bytes goes unnoticed, and no data makes two registers
the same.
-/
theorem compute_ne_of_differInWindow {a b : ByteString} (change : DifferInWindow a b)
    (data : ByteString)
    : compute a ≠ compute b ∧ Function.Injective (fun crc => update crc data) := by
  refine ⟨?_, update_injective data⟩
  intro same
  exact change.update_ne initial (UInt64.xor_left_inj _ |>.mp same)

/-- "temp" becomes "humi". -/
theorem compute_ne_renamed
    : compute [116, 101, 109, 112] ≠ compute [104, 117, 109, 105]
      ∧ Function.Injective (fun crc => update crc [116, 101, 109, 112]) := by
  apply compute_ne_of_differInWindow
  refine ⟨rfl, by decide, 0, ?_⟩
  intro i outside
  have beyond : 4 ≤ i := by omega
  rw [List.getElem?_eq_none beyond, List.getElem?_eq_none beyond]

end NexusD.Core.Crc64
