import NexusD.Core.TextFormat

/-! UUIDs: how two random words become a text, and which of their bits it keeps. -/

namespace NexusD.Core.Uuid

open NexusD.Library

/-- Version 4 in bits 12 to 15. -/
def setVersion (ab : UInt64) : UInt64 := (ab &&& 0xFFFFFFFFFFFF0FFF) ||| 0x0000000000004000

/-- The variant in the two highest bits. -/
def setVariant (cd : UInt64) : UInt64 := (cd &&& 0x3FFFFFFFFFFFFFFF) ||| 0x8000000000000000

/-- `UUIDGenerator::generate` with the two values drawn from the distribution. -/
def generate (ab cd : UInt64) : ByteString :=
  let ab := setVersion ab
  let cd := setVariant cd
  let hyphen : ByteString := [45]
  paddedHex 8 ((ab >>> 32) &&& 0xFFFFFFFF).toNat ++ hyphen
    ++ paddedHex 4 ((ab >>> 16) &&& 0xFFFF).toNat ++ hyphen
    ++ paddedHex 4 (ab &&& 0xFFFF).toNat ++ hyphen
    ++ paddedHex 4 ((cd >>> 48) &&& 0xFFFF).toNat ++ hyphen
    ++ paddedHex 12 (cd &&& 0xFFFFFFFFFFFF).toNat

def isHex (c : UInt8) : Bool :=
  (48 ≤ c && c ≤ 57) || (97 ≤ c && c ≤ 102) || (65 ≤ c && c ≤ 70)

/-- The test of the character at index `i`. -/
def isValidAt (c : UInt8) (i : Nat) : Bool :=
  if i = 8 ∨ i = 13 ∨ i = 18 ∨ i = 23 then c = 45 else isHex c

def isValid (uuid : ByteString) : Bool :=
  uuid.length = 36 && uuid.zipIdx.all (fun (c, i) => isValidAt c i)

/-- The last `width` hexadecimal digits. -/
def hexField (width value : Nat) : ByteString := fixedNumeral hexDigit 16 width value

/-- Five fields with hyphens between them. -/
def layout (a c : Nat) : ByteString :=
  hexField 8 (a / 2 ^ 32) ++ 45 :: (hexField 4 (a / 2 ^ 16) ++ 45 :: (hexField 4 a
    ++ 45 :: (hexField 4 (c / 2 ^ 48) ++ 45 :: hexField 12 c)))

theorem length_hexField (width value : Nat) : (hexField width value).length = width :=
  length_fixedNumeral width value

theorem hexField_inj {width a b : Nat}
    : hexField width a = hexField width b ↔ a % 16 ^ width = b % 16 ^ width :=
  fixedNumeral_inj hexDigit_inj (by decide)

/-- A field is cut out by a mask, so it has as many digits as it is wide. -/
theorem paddedHex_masked (word mask : UInt64) (width : Nat)
    (is_mask : mask.toNat = 16 ^ (width + 1) - 1)
    : paddedHex (width + 1) (word &&& mask).toNat = hexField (width + 1) word.toNat := by
  have power : 16 ^ (width + 1) = 2 ^ (4 * (width + 1)) := by rw [Nat.pow_mul]
  have masked : (word &&& mask).toNat = word.toNat % 16 ^ (width + 1) := by
    rw [UInt64.toNat_and, is_mask, power, Nat.and_two_pow_sub_one_eq_mod]
  rw [masked, paddedHex_eq (Nat.mod_lt _ (by positivity))]
  exact hexField_inj.mpr (Nat.mod_mod _ _)

theorem paddedHex_shifted (word mask : UInt64) {shift : UInt64} {places : Nat} (width : Nat)
    (is_shift : shift.toNat % 64 = places) (is_mask : mask.toNat = 16 ^ (width + 1) - 1)
    : paddedHex (width + 1) ((word >>> shift) &&& mask).toNat
      = hexField (width + 1) (word.toNat / 2 ^ places) := by
  rw [paddedHex_masked _ mask width is_mask, UInt64.toNat_shiftRight,
    Nat.shiftRight_eq_div_pow, is_shift]

theorem generate_eq (ab cd : UInt64)
    : generate ab cd = layout (setVersion ab).toNat (setVariant cd).toNat := by
  have first
    : paddedHex 8 ((setVersion ab >>> 32) &&& 0xFFFFFFFF).toNat
      = hexField 8 ((setVersion ab).toNat / 2 ^ 32) :=
    paddedHex_shifted _ _ 7 rfl rfl
  have second
    : paddedHex 4 ((setVersion ab >>> 16) &&& 0xFFFF).toNat
      = hexField 4 ((setVersion ab).toNat / 2 ^ 16) :=
    paddedHex_shifted _ _ 3 rfl rfl
  have third : paddedHex 4 (setVersion ab &&& 0xFFFF).toNat = hexField 4 (setVersion ab).toNat :=
    paddedHex_masked _ _ 3 rfl
  have fourth
    : paddedHex 4 ((setVariant cd >>> 48) &&& 0xFFFF).toNat
      = hexField 4 ((setVariant cd).toNat / 2 ^ 48) :=
    paddedHex_shifted _ _ 3 rfl rfl
  have fifth
    : paddedHex 12 (setVariant cd &&& 0xFFFFFFFFFFFF).toNat
      = hexField 12 (setVariant cd).toNat :=
    paddedHex_masked _ _ 11 rfl
  simp only [generate, first, second, third, fourth, fifth, layout, List.append_assoc,
    List.cons_append, List.nil_append]

/-- The fields tell the two words. -/
theorem layout_inj {a b c d : Nat}
    : layout a c = layout b d ↔ a % 2 ^ 64 = b % 2 ^ 64 ∧ c % 2 ^ 64 = d % 2 ^ 64 := by
  have same_length (width a b : Nat)
    : (hexField width a).length = (hexField width b).length := by
    rw [length_hexField, length_hexField]
  constructor
  · intro same
    obtain ⟨first, same⟩ := List.append_inj same (same_length _ _ _)
    obtain ⟨second, same⟩ := List.append_inj (List.cons.inj same).2 (same_length _ _ _)
    obtain ⟨third, same⟩ := List.append_inj (List.cons.inj same).2 (same_length _ _ _)
    obtain ⟨fourth, same⟩ := List.append_inj (List.cons.inj same).2 (same_length _ _ _)
    have fifth := (List.cons.inj same).2
    rw [hexField_inj] at first second third fourth fifth
    omega
  · intro same
    have first : hexField 8 (a / 2 ^ 32) = hexField 8 (b / 2 ^ 32) :=
      hexField_inj.mpr (by omega)
    have second : hexField 4 (a / 2 ^ 16) = hexField 4 (b / 2 ^ 16) :=
      hexField_inj.mpr (by omega)
    have third : hexField 4 a = hexField 4 b := hexField_inj.mpr (by omega)
    have fourth : hexField 4 (c / 2 ^ 48) = hexField 4 (d / 2 ^ 48) :=
      hexField_inj.mpr (by omega)
    have fifth : hexField 12 c = hexField 12 d := hexField_inj.mpr (by omega)
    rw [layout, first, second, third, fourth, fifth, layout]

theorem isHex_hexDigit {digit : Nat} (small : digit < 16) : isHex (hexDigit digit) = true := by
  have all : ∀ digit < 16, isHex (hexDigit digit) = true := by decide
  exact all digit small

/-- A field is valid wherever no hyphen is due. -/
theorem hexField_valid (width value start : Nat)
    (clear : ∀ i, start ≤ i → i < start + width → i ≠ 8 ∧ i ≠ 13 ∧ i ≠ 18 ∧ i ≠ 23)
    : ((hexField width value).zipIdx start).all (fun (c, i) => isValidAt c i) = true := by
  rw [List.all_eq_true]
  intro entry member
  obtain ⟨c, i⟩ := entry
  obtain ⟨low, high, at_i⟩ := List.mem_zipIdx member
  rw [length_hexField] at high
  obtain ⟨no_8, no_13, no_18, no_23⟩ := clear i low high
  have within : c ∈ hexField width value := by
    rw [at_i]
    exact List.getElem_mem _
  obtain ⟨digit, small, rfl⟩ := exists_of_mem_fixedNumeral (by decide) within
  simp [isValidAt, no_8, no_13, no_18, no_23, isHex_hexDigit small]

theorem isValid_layout (a c : Nat) : isValid (layout a c) = true := by
  have length : (layout a c).length = 36 := by simp [layout, length_hexField]
  have first := hexField_valid 8 (a / 2 ^ 32) 0 (by omega)
  have second := hexField_valid 4 (a / 2 ^ 16) 9 (by omega)
  have third := hexField_valid 4 a 14 (by omega)
  have fourth := hexField_valid 4 (c / 2 ^ 48) 19 (by omega)
  have fifth := hexField_valid 12 c 24 (by omega)
  rw [isValid, length]
  simp only [layout, List.zipIdx_append, List.zipIdx_cons, List.all_append, List.all_cons,
    length_hexField, first, second, third, fourth, fifth, Nat.zero_add]
  decide

-----------------------------------------------------------------------------------------
-- The bits
-----------------------------------------------------------------------------------------

theorem getLsbD_setVersion (ab : UInt64) {i : Nat} (inside : i < 64)
    : (setVersion ab).toBitVec.getLsbD i
      = if 12 ≤ i ∧ i < 16 then decide (i = 14) else ab.toBitVec.getLsbD i := by
  have all
    : ∀ i < 64, ∀ bit : Bool,
        (bit && (0xFFFFFFFFFFFF0FFF#64).getLsbD i || (0x4000#64).getLsbD i)
          = if 12 ≤ i ∧ i < 16 then decide (i = 14) else bit := by
    decide
  rw [setVersion, UInt64.toBitVec_or, UInt64.toBitVec_and, BitVec.getLsbD_or,
    BitVec.getLsbD_and]
  exact all i inside (ab.toBitVec.getLsbD i)

theorem getLsbD_setVariant (cd : UInt64) {i : Nat} (inside : i < 64)
    : (setVariant cd).toBitVec.getLsbD i
      = if 62 ≤ i then decide (i = 63) else cd.toBitVec.getLsbD i := by
  have all
    : ∀ i < 64, ∀ bit : Bool,
        (bit && (0x3FFFFFFFFFFFFFFF#64).getLsbD i || (0x8000000000000000#64).getLsbD i)
          = if 62 ≤ i then decide (i = 63) else bit := by
    decide
  rw [setVariant, UInt64.toBitVec_or, UInt64.toBitVec_and, BitVec.getLsbD_or,
    BitVec.getLsbD_and]
  exact all i inside (cd.toBitVec.getLsbD i)

theorem setVersion_inj {ab ab' : UInt64}
    : setVersion ab = setVersion ab'
      ↔ ∀ i < 64, ¬ (12 ≤ i ∧ i < 16) → ab.toBitVec.getLsbD i = ab'.toBitVec.getLsbD i := by
  constructor
  · intro same i inside free
    have here := congrArg (fun word : UInt64 => word.toBitVec.getLsbD i) same
    simpa only [getLsbD_setVersion _ inside, if_neg free] using here
  · intro agree
    apply UInt64.toBitVec_inj.mp
    apply BitVec.eq_of_getLsbD_eq
    intro i inside
    rw [getLsbD_setVersion _ inside, getLsbD_setVersion _ inside]
    split
    · rfl
    · rename_i free
      exact agree i inside free

theorem setVariant_inj {cd cd' : UInt64}
    : setVariant cd = setVariant cd'
      ↔ ∀ i < 62, cd.toBitVec.getLsbD i = cd'.toBitVec.getLsbD i := by
  constructor
  · intro same i low
    have here := congrArg (fun word : UInt64 => word.toBitVec.getLsbD i) same
    have inside : i < 64 := by omega
    simpa only [getLsbD_setVariant _ inside, if_neg (Nat.not_le.mpr low)] using here
  · intro agree
    apply UInt64.toBitVec_inj.mp
    apply BitVec.eq_of_getLsbD_eq
    intro i inside
    rw [getLsbD_setVariant _ inside, getLsbD_setVariant _ inside]
    split
    · rfl
    · rename_i free
      exact agree i (Nat.not_le.mp free)

/-- Four bits of a word. -/
theorem testBit_nibble (word : UInt64) (start i : Nat)
    : (word.toNat / 2 ^ start % 16).testBit i
      = (decide (i < 4) && word.toBitVec.getLsbD (start + i)) := by
  rw [show 16 = 2 ^ 4 from rfl, Nat.testBit_mod_two_pow, Nat.testBit_div_two_pow]
  rw [Nat.add_comm]
  rfl

/-- The third field starts with the version. -/
theorem version_nibble (ab : UInt64) : (setVersion ab).toNat / 2 ^ 12 % 16 = 4 := by
  have bits : ∀ i < 4, decide (12 + i = 14) = Nat.testBit 4 i := by decide
  apply Nat.eq_of_testBit_eq
  intro i
  rw [testBit_nibble]
  by_cases small : i < 4
  · have within : 12 ≤ 12 + i ∧ 12 + i < 16 := by omega
    rw [getLsbD_setVersion ab (by omega), if_pos within, bits i small, decide_eq_true small,
      Bool.true_and]
  · have high : 4 < 2 ^ i := Nat.lt_of_lt_of_le (by decide : 4 < 2 ^ 4)
      (Nat.pow_le_pow_right (by decide) (Nat.not_lt.mp small))
    rw [Nat.testBit_lt_two_pow high, decide_eq_false small, Bool.false_and]

/-- The fourth field starts with the variant. -/
theorem variant_nibble (cd : UInt64)
    : hexDigit ((setVariant cd).toNat / 2 ^ 60 % 16) ∈ [56, 57, 97, 98] := by
  have digits
    : ∀ digit < 16, digit.testBit 3 = true → digit.testBit 2 = false
        → hexDigit digit ∈ [56, 57, 97, 98] := by
    decide
  apply digits
  · exact Nat.mod_lt _ (by decide)
  · rw [testBit_nibble, getLsbD_setVariant cd (by decide)]
    rfl
  · rw [testBit_nibble, getLsbD_setVariant cd (by decide)]
    rfl

theorem getElem?_hexField (width value : Nat)
    : (hexField (width + 1) value)[0]? = some (hexDigit (value / 16 ^ width % 16)) := by
  rw [← List.head?_eq_getElem?]
  exact head?_fixedNumeral width value

theorem layout_version (a c : Nat)
    : (layout a c)[14]? = some (hexDigit (a / 2 ^ 12 % 16)) := by
  have field := getElem?_hexField 3 a
  simpa [layout, List.getElem?_append, length_hexField] using field

theorem layout_variant (a c : Nat)
    : (layout a c)[19]? = some (hexDigit (c / 2 ^ 60 % 16)) := by
  have field := getElem?_hexField 3 (c / 2 ^ 48)
  rw [Nat.div_div_eq_div_mul] at field
  simpa [layout, List.getElem?_append, length_hexField] using field

/-- Every UUID is well formed, of version 4 and of the right variant, and two of them are the
same exactly when the random words agree in all other bits.
-/
theorem generate_wellFormed (ab cd ab' cd' : UInt64)
    : isValid (generate ab cd) = true
      ∧ (generate ab cd)[14]? = some 52
      ∧ (∃ c ∈ ([56, 57, 97, 98] : ByteString), (generate ab cd)[19]? = some c)
      ∧ (generate ab cd = generate ab' cd'
        ↔ (∀ i < 64, ¬ (12 ≤ i ∧ i < 16)
            → ab.toBitVec.getLsbD i = ab'.toBitVec.getLsbD i)
          ∧ ∀ i < 62, cd.toBitVec.getLsbD i = cd'.toBitVec.getLsbD i) := by
  have bounded (word : UInt64) : word.toNat % 2 ^ 64 = word.toNat :=
    Nat.mod_eq_of_lt word.toNat_lt
  rw [generate_eq, generate_eq]
  refine ⟨isValid_layout _ _, ?_, ?_, ?_⟩
  · rw [layout_version, version_nibble]
    rfl
  · exact ⟨_, variant_nibble cd, layout_variant _ _⟩
  · rw [layout_inj, bounded, bounded, bounded, bounded, UInt64.toNat_inj, UInt64.toNat_inj,
      setVersion_inj, setVariant_inj]

end NexusD.Core.Uuid
