import Mathlib.Algebra.Order.Group.Abs
import NexusD.Tools.DiscoveryResponse

/-! The loop of `Discovery::discover`: it receives until the deadline or until it has enough
instances. Times are nanoseconds of the steady clock, as the code's 64-bit integers.
-/

namespace NexusD.Tools

open NexusD.Core

structure DiscoveryConfig where
  maxInstances : Int32 := 100

/-- `static_cast<size_t>(config_.max_instances)` -/
def DiscoveryConfig.capacity (config : DiscoveryConfig) : Nat :=
  config.maxInstances.toInt64.toUInt64.toNat

/-- `struct timeval`, the argument of `SO_RCVTIMEO`. -/
structure Timeval where
  sec : Int64
  usec : Int64
deriving DecidableEq, Repr

namespace Timeval

def ofMilliseconds (remaining : Int64) : Timeval :=
  ⟨remaining / 1000, remaining % 1000 * 1000⟩

/-- Both parts zero: `recvfrom` waits for ever. -/
def Endless (timeout : Timeval) : Prop := timeout.sec = 0 ∧ timeout.usec = 0

instance (timeout : Timeval) : Decidable timeout.Endless := by
  unfold Endless
  infer_instance

structure Positive (timeout : Timeval) : Prop where
  sec : 0 ≤ timeout.sec
  usec : 0 ≤ timeout.usec
  bounded : ¬ timeout.Endless

end Timeval

/-- The readings of the steady clock: the one the deadline is made from, and the one of each
round.
-/
structure SteadyClock where
  start : Int64
  reading : Nat → Int64
  ordered : ∀ i, reading i ≤ reading (i + 1)
  start_le : start ≤ reading 0

/-- `start + timeout`, with the timeout in milliseconds. -/
def SteadyClock.deadline (clock : SteadyClock) (timeout : Int64) : Int64 :=
  clock.start + timeout * 1000000

/-- What is left in a round, as `receive_response` gets it. -/
def SteadyClock.remaining (clock : SteadyClock) (timeout : Int64) (round : Nat) : Int64 :=
  (clock.deadline timeout - clock.reading round) / 1000000

structure Network where
  /-- `init_socket` succeeds -/
  opened : Bool
  /-- what each round receives -/
  arrival : Nat → Arrival
  /-- the instance of each round, with whatever its uninitialised members hold -/
  uninitialised : Nat → DiscoveredInstance
  /-- the clock when a response has been parsed -/
  stamp : Nat → Int64

inductive DiscoveryPhase where
  | looping
  /-- in `recvfrom` without a timeout -/
  | blocked
  | returned (instances : List DiscoveredInstance)
  | threw (error : ConversionError)
deriving DecidableEq, Repr

structure DiscoveryCall where
  phase : DiscoveryPhase := .looping
  /-- `cached_instances_` -/
  cached : List DiscoveredInstance := []
  /-- the receive timeouts set so far, one for each call to `receive_response` -/
  timeouts : List Timeval := []
deriving DecidableEq, Repr

namespace DiscoveryCall

def calls (call : DiscoveryCall) : Nat := call.timeouts.length

/-- The order in which the instances are returned. -/
def comesBefore (a b : DiscoveredInstance) : Bool :=
  if a.host ≠ b.host then a.host < b.host else a.port < b.port

def sorted (instances : List DiscoveredInstance) : List DiscoveredInstance :=
  instances.mergeSort (fun a b => !comesBefore b a)

/-- An instance at a known address is not added again. -/
def add (cached : List DiscoveredInstance) (discovered : DiscoveredInstance)
    : List DiscoveredInstance :=
  if cached.any (fun existing =>
      existing.host = discovered.host && existing.port = discovered.port) then
    cached
  else
    cached ++ [discovered]

variable (config : DiscoveryConfig) (timeout : Int64) (clock : SteadyClock) (network : Network)

/-- The call to `receive_response` in a round, with this receive timeout. -/
def receive (call : DiscoveryCall) (limit : Timeval) (round : Nat) : DiscoveryCall :=
  let waiting := { call with timeouts := call.timeouts ++ [limit] }
  if network.arrival round = .nothing ∧ limit.Endless then
    { waiting with phase := .blocked }
  else
    match receiveResponse (network.uninitialised round) (network.stamp round)
        (network.arrival round) with
    | .error error => { waiting with phase := .threw error }
    | .ok (false, _) => waiting
    | .ok (true, discovered) => { waiting with cached := add call.cached discovered }

/-- One round of the loop. -/
def advance (call : DiscoveryCall) : DiscoveryCall :=
  match call.phase with
  | .looping =>
      if call.cached.length < config.capacity then
        if clock.deadline timeout ≤ clock.reading call.calls then
          { call with phase := .returned (sorted call.cached) }
        else
          call.receive network (.ofMilliseconds (clock.remaining timeout call.calls)) call.calls
      else
        { call with phase := .returned (sorted call.cached) }
  | .blocked | .returned _ | .threw _ => call

/-- The call that `discover` makes after `init_socket`, which is the only part in a `try`. -/
def start : DiscoveryCall :=
  if network.opened then {} else { phase := .returned [] }

def after (steps : Nat) : DiscoveryCall :=
  (advance config timeout clock network)^[steps] (start network)

theorem after_succ (steps : Nat)
    : after config timeout clock network (steps + 1)
      = (after config timeout clock network steps).advance config timeout clock network :=
  Function.iterate_succ_apply' _ steps _

end DiscoveryCall

-----------------------------------------------------------------------------------------
-- Receive timeouts
-----------------------------------------------------------------------------------------

/-- Truncated division, as far as the signs are concerned. -/
theorem tdiv_tmod_spec (value divisor : Int) (positive : 0 < divisor)
    : divisor * value.tdiv divisor + value.tmod divisor = value
      ∧ -divisor < value.tmod divisor ∧ value.tmod divisor < divisor
      ∧ (0 ≤ value → 0 ≤ value.tmod divisor) ∧ (value ≤ 0 → value.tmod divisor ≤ 0) := by
  have negated : 0 ≤ -value → 0 ≤ (-value).tmod divisor := Int.tmod_nonneg divisor
  rw [Int.neg_tmod] at negated
  exact ⟨Int.mul_tdiv_add_tmod value divisor, Int.lt_tmod_of_pos value positive,
    Int.tmod_lt_of_pos value positive, Int.tmod_nonneg divisor, by omega⟩

theorem toInt_div_million (time : Int64)
    : (time / 1000000).toInt = time.toInt.tdiv 1000000 :=
  Int64.toInt_div_of_ne_right time 1000000 (by decide)

theorem toInt_div_pos_iff (time : Int64)
    : 0 < (time / 1000000).toInt ↔ 1000000 ≤ time.toInt := by
  rw [toInt_div_million]
  obtain ⟨parts, below, above, nonneg, _⟩ :=
    tdiv_tmod_spec time.toInt 1000000 (by decide)
  omega

theorem toInt_div_zero_iff (time : Int64)
    : (time / 1000000).toInt = 0 ↔ |time.toInt| < 1000000 := by
  rw [toInt_div_million, abs_lt]
  obtain ⟨parts, below, above, nonneg, nonpos⟩ :=
    tdiv_tmod_spec time.toInt 1000000 (by decide)
  omega

namespace Timeval

theorem endless_iff (timeout : Timeval)
    : timeout.Endless ↔ timeout.sec.toInt = 0 ∧ timeout.usec.toInt = 0 := by
  have zero : (0 : Int64).toInt = 0 := rfl
  rw [Endless, ← Int64.toInt_inj, ← Int64.toInt_inj, zero]

theorem positive_iff (timeout : Timeval)
    : timeout.Positive
      ↔ 0 ≤ timeout.sec.toInt ∧ 0 ≤ timeout.usec.toInt
        ∧ ¬ (timeout.sec.toInt = 0 ∧ timeout.usec.toInt = 0) := by
  have zero : (0 : Int64).toInt = 0 := rfl
  rw [← endless_iff, ← zero, ← Int64.le_iff_toInt_le, ← Int64.le_iff_toInt_le]
  exact ⟨fun positive => ⟨positive.sec, positive.usec, positive.bounded⟩,
    fun parts => ⟨parts.1, parts.2.1, parts.2.2⟩⟩

theorem toInt_sec_ofMilliseconds (remaining : Int64)
    : (ofMilliseconds remaining).sec.toInt = remaining.toInt.tdiv 1000 :=
  Int64.toInt_div_of_ne_right remaining 1000 (by decide)

theorem toInt_usec_ofMilliseconds (remaining : Int64)
    : (ofMilliseconds remaining).usec.toInt = remaining.toInt.tmod 1000 * 1000 := by
  obtain ⟨_, below, above, _⟩ := tdiv_tmod_spec remaining.toInt 1000 (by decide)
  have thousand : (1000 : Int64).toInt = 1000 := rfl
  rw [ofMilliseconds, Int64.toInt_mul, Int64.toInt_mod, thousand,
    Int.bmod_eq_of_le (by omega) (by omega)]

theorem positive_ofMilliseconds_iff (remaining : Int64)
    : (ofMilliseconds remaining).Positive ↔ 0 < remaining.toInt := by
  obtain ⟨parts, below, above, nonneg, nonpos⟩ :=
    tdiv_tmod_spec remaining.toInt 1000 (by decide)
  rw [positive_iff, toInt_sec_ofMilliseconds, toInt_usec_ofMilliseconds]
  omega

theorem endless_ofMilliseconds_iff (remaining : Int64)
    : (ofMilliseconds remaining).Endless ↔ remaining.toInt = 0 := by
  obtain ⟨parts, below, above, nonneg, nonpos⟩ :=
    tdiv_tmod_spec remaining.toInt 1000 (by decide)
  rw [endless_iff, toInt_sec_ofMilliseconds, toInt_usec_ofMilliseconds]
  omega

end Timeval

/-- The receive timeout that is set in a round. -/
def SteadyClock.limit (clock : SteadyClock) (timeout : Int64) (round : Nat) : Timeval :=
  .ofMilliseconds (clock.remaining timeout round)

/-- A whole millisecond has to be left. -/
theorem SteadyClock.positive_limit_iff (clock : SteadyClock) (timeout : Int64) (round : Nat)
    : (clock.limit timeout round).Positive
      ↔ 1000000 ≤ (clock.deadline timeout - clock.reading round).toInt := by
  rw [limit, Timeval.positive_ofMilliseconds_iff, remaining, toInt_div_pos_iff]

/-- Less than a millisecond either way is no time at all. -/
theorem SteadyClock.endless_limit_iff (clock : SteadyClock) (timeout : Int64) (round : Nat)
    : (clock.limit timeout round).Endless
      ↔ |(clock.deadline timeout - clock.reading round).toInt| < 1000000 := by
  rw [limit, Timeval.endless_ofMilliseconds_iff, remaining, toInt_div_zero_iff]

theorem SteadyClock.reading_le (clock : SteadyClock) {i j : Nat} (earlier : i ≤ j)
    : clock.reading i ≤ clock.reading j := by
  induction earlier with
  | refl => exact Int64.le_refl _
  | step _ ih => exact Int64.le_trans ih (clock.ordered _)

end NexusD.Tools
