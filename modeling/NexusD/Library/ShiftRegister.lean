import Mathlib.Logic.Function.Iterate

/-! Shift registers with feedback, of any width.
A clock moves the register up by one place, and if a one falls out at the top, the feedback is
added to it. Message bits enter at the top. Addition is exclusive or, and a clock is linear in
it; that is what lets many clocks be done at once.
-/

namespace NexusD.Library.ShiftRegister

variable {w : Nat}

/-- One clock without input. -/
def step (feedback register : BitVec w) : BitVec w :=
  if register.msb then (register <<< 1) ^^^ feedback else register <<< 1

/-- One clock with a message bit, which is added to the bit that falls out. -/
def feed (feedback register : BitVec w) (bit : Bool) : BitVec w :=
  if register.msb ^^ bit then (register <<< 1) ^^^ feedback else register <<< 1

def feedAll (feedback register : BitVec w) (bits : List Bool) : BitVec w :=
  bits.foldl (feed feedback) register

theorem getMsbD_step (feedback register : BitVec w) (i : Nat)
    : (step feedback register).getMsbD i
      = (register.getMsbD (i + 1) ^^ (register.msb && feedback.getMsbD i)) := by
  unfold step
  split <;> simp_all

theorem step_xor (feedback a b : BitVec w)
    : step feedback (a ^^^ b) = step feedback a ^^^ step feedback b := by
  apply BitVec.eq_of_getMsbD_eq
  intro i _
  simp only [getMsbD_step, BitVec.getMsbD_xor, BitVec.msb_xor]
  cases a.getMsbD (i + 1) <;> cases b.getMsbD (i + 1) <;> cases a.msb <;> cases b.msb
    <;> cases feedback.getMsbD i <;> rfl

theorem step_iterate_xor (feedback a b : BitVec w) (clocks : Nat)
    : (step feedback)^[clocks] (a ^^^ b)
      = (step feedback)^[clocks] a ^^^ (step feedback)^[clocks] b := by
  induction clocks generalizing a b with
  | zero => rfl
  | succ clocks ih => simp only [Function.iterate_succ_apply, step_xor, ih]

/-- While zeros fall out, the register only moves. -/
theorem step_iterate_of_clear {feedback register : BitVec w} {clocks : Nat}
    (clear : ∀ i < clocks, register.getMsbD i = false)
    : (step feedback)^[clocks] register = register <<< clocks := by
  induction clocks with
  | zero => simp
  | succ clocks ih =>
      rw [Function.iterate_succ_apply',
        ih (fun i below => clear i (Nat.lt_succ_of_lt below))]
      have out : (register <<< clocks).msb = false := by
        rw [BitVec.msb, BitVec.getMsbD_shiftLeft, Nat.zero_add]
        exact clear clocks (Nat.lt_succ_self clocks)
      rw [step, out, if_neg Bool.false_ne_true, ← BitVec.shiftLeft_add]

/-- A feedback with its lowest bit set makes the clock reversible: that bit tells whether a
one fell out.
-/
theorem step_injective {feedback : BitVec w} (odd : feedback.getMsbD (w - 1) = true)
    : Function.Injective (step feedback) := by
  intro a b same
  have bits (i : Nat) := congrArg (BitVec.getMsbD · i) same
  simp only [getMsbD_step] at bits
  have out : a.msb = b.msb := by
    have last := bits (w - 1)
    rw [BitVec.getMsbD_of_ge a _ (by omega), BitVec.getMsbD_of_ge b _ (by omega), odd] at last
    simpa using last
  apply BitVec.eq_of_getMsbD_eq
  intro i _
  cases i with
  | zero => exact out
  | succ i =>
      have here := bits i
      rw [out] at here
      simpa using here

/-- A bit at the top of a register that is zero otherwise. -/
def top (w : Nat) (bit : Bool) : BitVec w := if bit then BitVec.intMin w else 0#w

theorem getMsbD_top (w : Nat) (bit : Bool) (i : Nat)
    : (top w bit).getMsbD i = (decide (i < w) && (decide (i = 0) && bit)) := by
  cases bit with
  | false => simp [top]
  | true => cases i <;> simp [top, BitVec.getMsbD_intMin]

theorem and_intMin (register : BitVec w)
    : register &&& BitVec.intMin w = top w register.msb := by
  apply BitVec.eq_of_getMsbD_eq
  intro i below
  rw [getMsbD_top]
  cases i with
  | zero => simp [BitVec.getMsbD_intMin, BitVec.msb, Nat.zero_lt_of_lt below]
  | succ i => simp [BitVec.getMsbD_intMin]

/-- Message bits as a register, the first at the top. -/
def align (w : Nat) : List Bool → BitVec w
  | [] => 0#w
  | bit :: rest => top w bit ^^^ (align w rest >>> 1)

theorem getMsbD_align (w : Nat) (bits : List Bool) (i : Nat)
    : (align w bits).getMsbD i = (decide (i < w) && bits.getD i false) := by
  induction bits generalizing i with
  | nil => simp [align]
  | cons bit rest ih =>
      rw [align, BitVec.getMsbD_xor, BitVec.getMsbD_ushiftRight, getMsbD_top, ih]
      cases i with
      | zero => simp
      | succ i =>
          by_cases inside : i + 1 < w
          · simp [inside, Nat.lt_of_succ_lt inside]
          · simp [inside]

theorem align_injective {a b : List Bool} (length : a.length = b.length) (fit : a.length ≤ w)
    (same : align w a = align w b)
    : a = b := by
  apply List.ext_getElem length
  intro i left right
  have here := congrArg (BitVec.getMsbD · i) same
  have below : i < w := Nat.lt_of_lt_of_le left fit
  simpa [getMsbD_align, below, List.getElem?_eq_getElem left, List.getElem?_eq_getElem right]
    using here

/-- Feeding a bit is adding it at the top and then clocking. -/
theorem feed_eq_step (feedback register : BitVec w) (bit : Bool)
    : feed feedback register bit = step feedback (register ^^^ top w bit) := by
  apply BitVec.eq_of_getMsbD_eq
  intro i below
  have wide : 0 < w := Nat.zero_lt_of_lt below
  have out : (register ^^^ top w bit).msb = (register.msb ^^ bit) := by
    rw [BitVec.msb_xor, BitVec.msb, BitVec.msb, getMsbD_top]
    simp [wide]
  rw [getMsbD_step, out, BitVec.getMsbD_xor, getMsbD_top, feed]
  cases register.msb ^^ bit <;> simp

/-- One clock before its time a message stands one place further down. -/
theorem step_align_shiftRight (feedback : BitVec w) {bits : List Bool} (room : bits.length < w)
    : step feedback (align w bits >>> 1) = align w bits := by
  have wide : 0 < w := Nat.zero_lt_of_lt room
  apply BitVec.eq_of_getMsbD_eq
  intro i below
  have out : (align w bits >>> 1).msb = false := by
    simp [BitVec.msb]
  rw [getMsbD_step, out, BitVec.getMsbD_ushiftRight, getMsbD_align, getMsbD_align]
  by_cases inside : i + 1 < w
  · simp [inside, below]
  · have beyond : bits.length ≤ i := by omega
    simp [inside, beyond]

/-- At most as many bits as the register is wide can be added all at once. -/
theorem feedAll_eq_step_iterate (feedback register : BitVec w) {bits : List Bool}
    (fit : bits.length ≤ w)
    : feedAll feedback register bits
      = (step feedback)^[bits.length] (register ^^^ align w bits) := by
  induction bits generalizing register with
  | nil => simp [feedAll, align]
  | cons bit rest ih =>
      calc feedAll feedback register (bit :: rest)
        _ = feedAll feedback (feed feedback register bit) rest := rfl
        _ = (step feedback)^[rest.length]
              (step feedback (register ^^^ top w bit) ^^^ align w rest) := by
            rw [ih _ (Nat.le_of_lt fit), feed_eq_step]
        _ = (step feedback)^[rest.length]
              (step feedback (register ^^^ top w bit ^^^ align w rest >>> 1)) := by
            rw [step_xor _ (register ^^^ top w bit), step_align_shiftRight feedback fit]
        _ = (step feedback)^[rest.length + 1] (register ^^^ align w (bit :: rest)) := by
            rw [Function.iterate_succ_apply, align, BitVec.xor_assoc]

section Reversible

variable {feedback : BitVec w} (odd : feedback.getMsbD (w - 1) = true)
include odd

/-- Whatever is fed in, the register before can be told from the one after. -/
theorem feedAll_injective (bits : List Bool)
    : Function.Injective (fun register => feedAll feedback register bits) := by
  induction bits with
  | nil => exact fun _ _ same => same
  | cons bit rest ih =>
      intro a b same
      have fed := ih (show feedAll feedback (feed feedback a bit) rest
        = feedAll feedback (feed feedback b bit) rest from same)
      rw [feed_eq_step, feed_eq_step] at fed
      exact (BitVec.xor_left_inj (top w bit)).mp (step_injective odd fed)

/-- As many bits as the register is wide leave it with nothing but them to remember. -/
theorem feedAll_bits_injective (register : BitVec w) {a b : List Bool}
    (length : a.length = b.length) (fit : a.length ≤ w)
    (same : feedAll feedback register a = feedAll feedback register b)
    : a = b := by
  rw [feedAll_eq_step_iterate _ _ fit, feedAll_eq_step_iterate _ _ (length ▸ fit), ← length]
    at same
  have added := (step_injective odd).iterate a.length same
  exact align_injective length fit ((BitVec.xor_right_inj register).mp added)

/-- Messages that differ only within the width of the register leave it different. -/
theorem feedAll_ne_of_window (register : BitVec w) (before after : List Bool)
    {a b : List Bool} (length : a.length = b.length) (fit : a.length ≤ w) (differ : a ≠ b)
    : feedAll feedback register (before ++ a ++ after)
      ≠ feedAll feedback register (before ++ b ++ after) := by
  intro same
  simp only [feedAll, List.foldl_append] at same
  exact differ (feedAll_bits_injective odd _ length fit (feedAll_injective odd after same))

end Reversible

end NexusD.Library.ShiftRegister
