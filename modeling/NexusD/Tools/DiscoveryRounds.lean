import NexusD.Tools.DiscoveredList

/-! The rounds that the loop of `discover` makes, told from the arrivals and the clock alone.
`discover` returns a list exactly if every such round comes back from `receive_response`, which
a harmful response and the last millisecond before the deadline both prevent.
-/

namespace NexusD.Tools

open NexusD.Core

section Rounds

variable (config : DiscoveryConfig) (timeout : Int64) (clock : SteadyClock) (network : Network)

/-- The loop has a reason to make this round: it is early enough, and too few addresses have
answered before it.
-/
structure Due (round : Nat) : Prop where
  early : clock.reading round < clock.deadline timeout
  wanted : (firstResponses (network.responses round)).length < config.capacity

/-- `receive_response` comes back from this round without an exception: the response converts,
and silence is not met in the last millisecond, which has no receive timeout.
-/
structure Passes (round : Nat) : Prop where
  harmless : (network.arrival round).Harmless
  timed
    : network.arrival round = .nothing
      → 1000000 ≤ |(clock.deadline timeout - clock.reading round).toInt|

variable {config timeout clock network} {call : DiscoveryCall} {round : Nat}

theorem length_firstResponses_le {i j : Nat} (earlier : i ≤ j)
    : (firstResponses (network.responses i)).length
      ≤ (firstResponses (network.responses j)).length := by
  induction earlier with
  | refl => exact Nat.le_refl _
  | @step j _ ih =>
      refine Nat.le_trans ih ?_
      rw [network.responses_succ]
      cases network.response? j with
      | none => simp
      | some discovered =>
          rw [Option.toList_some, firstResponses_snoc, DiscoveryCall.add]
          split
          · exact Nat.le_refl _
          · simp

theorem Due.earlier {i j : Nat} (due : Due config timeout clock network j) (earlier : i ≤ j)
    : Due config timeout clock network i :=
  ⟨Int64.lt_of_le_of_lt (clock.reading_le earlier) due.early,
    Nat.lt_of_le_of_lt (length_firstResponses_le earlier) due.wanted⟩

theorem timed_iff
    : (network.arrival round = .nothing
        → 1000000 ≤ |(clock.deadline timeout - clock.reading round).toInt|)
      ↔ ¬ (network.arrival round = .nothing ∧ (clock.limit timeout round).Endless) := by
  rw [clock.endless_limit_iff, not_and, Int.not_lt]

@[simp] theorem timeouts_receive (call : DiscoveryCall) (limit : Timeval) (round : Nat)
    : (call.receive network limit round).timeouts = call.timeouts ++ [limit] := by
  unfold DiscoveryCall.receive
  dsimp only
  split
  · rfl
  · split <;> rfl

@[simp] theorem calls_receive (call : DiscoveryCall) (limit : Timeval) (round : Nat)
    : (call.receive network limit round).calls = call.calls + 1 := by
  rw [DiscoveryCall.calls, timeouts_receive, List.length_append]
  rfl

theorem phase_receive_of_passes (passes : Passes timeout clock network round)
    : (call.receive network (clock.limit timeout round) round).phase = call.phase := by
  obtain ⟨outcome, returned⟩ := (exists_receiveResponse_ok_iff (network.uninitialised round)
    (network.stamp round) (network.arrival round)).mpr passes.harmless
  rw [DiscoveryCall.receive, if_neg (timed_iff.mp passes.timed)]
  simp only [returned]
  obtain ⟨accepted, discovered⟩ := outcome
  cases accepted <;> rfl

theorem phase_receive_of_not_passes (stuck : ¬Passes timeout clock network round)
    : (call.receive network (clock.limit timeout round) round).phase = .blocked
      ∨ ∃ error,
          (call.receive network (clock.limit timeout round) round).phase = .threw error := by
  by_cases waits : network.arrival round = .nothing ∧ (clock.limit timeout round).Endless
  · rw [DiscoveryCall.receive, if_pos waits]
    exact .inl rfl
  · rw [DiscoveryCall.receive, if_neg waits]
    cases answer : receiveResponse (network.uninitialised round) (network.stamp round)
        (network.arrival round) with
    | error error => exact .inr ⟨error, rfl⟩
    | ok outcome =>
        have harmless : (network.arrival round).Harmless :=
          (exists_receiveResponse_ok_iff _ _ _).mp ⟨outcome, answer⟩
        exact absurd ⟨harmless, timed_iff.mpr waits⟩ stuck

theorem advance_of_due (looping : call.phase = .looping)
    (cached : call.cached = firstResponses (network.responses call.calls))
    (due : Due config timeout clock network call.calls)
    : call.advance config timeout clock network
      = call.receive network (clock.limit timeout call.calls) call.calls := by
  have wanted := due.wanted
  rw [← cached] at wanted
  rw [DiscoveryCall.advance.eq_def]
  simp only [looping, if_pos wanted, if_neg (Int64.not_le.mpr due.early)]
  rfl

theorem advance_of_not_due (looping : call.phase = .looping)
    (cached : call.cached = firstResponses (network.responses call.calls))
    (idle : ¬Due config timeout clock network call.calls)
    : call.advance config timeout clock network
      = { call with phase := .returned (DiscoveryCall.sorted call.cached) } := by
  rw [DiscoveryCall.advance.eq_def]
  simp only [looping]
  split
  · rename_i wanted
    rw [cached] at wanted
    have late : clock.deadline timeout ≤ clock.reading call.calls :=
      Int64.not_lt.mp (fun early => idle ⟨early, wanted⟩)
    rw [if_pos late]
  · rfl

/-- Once the loop is over, or waits without a timeout, nothing changes any more. -/
theorem advance_of_ended (ended : call.phase ≠ .looping)
    : call.advance config timeout clock network = call := by
  rw [DiscoveryCall.advance.eq_def]
  split
  · rename_i looping
    exact absurd looping ended
  all_goals rfl

-----------------------------------------------------------------------------------------
-- The whole loop
-----------------------------------------------------------------------------------------

variable (config timeout clock network)

/-- By induction on the rounds: as long as they are due and pass, the loop makes them all. -/
theorem looping_after (opened : network.opened = true) {rounds : Nat}
    (made : ∀ i < rounds, Due config timeout clock network i ∧ Passes timeout clock network i)
    : (DiscoveryCall.after config timeout clock network rounds).phase = .looping
      ∧ (DiscoveryCall.after config timeout clock network rounds).calls = rounds := by
  induction rounds with
  | zero =>
      rw [DiscoveryCall.after, Function.iterate_zero_apply, DiscoveryCall.start, if_pos opened]
      exact ⟨rfl, rfl⟩
  | succ rounds ih =>
      obtain ⟨before, due, passes⟩ := Nat.forall_lt_succ_right.mp made
      obtain ⟨looping, counted⟩ := ih before
      have collected : Collected config network (.after config timeout clock network rounds) :=
        collected_after rounds
      rw [DiscoveryCall.after_succ,
        advance_of_due looping collected.cached (counted.symm ▸ due), counted,
        phase_receive_of_passes passes, calls_receive]
      exact ⟨looping, by rw [counted]⟩

theorem after_of_ended {first steps : Nat} (later : first ≤ steps)
    (ended : (DiscoveryCall.after config timeout clock network first).phase ≠ .looping)
    : DiscoveryCall.after config timeout clock network steps
      = DiscoveryCall.after config timeout clock network first := by
  induction later with
  | refl => rfl
  | step _ ih => rw [DiscoveryCall.after_succ, ih, advance_of_ended ended]

variable {config timeout clock network}

/-- The first round that does not pass is the last one. -/
theorem ne_returned_of_not_passes (opened : network.opened = true)
    (due : Due config timeout clock network round)
    (stuck : ¬Passes timeout clock network round)
    (earlier : ∀ i < round, Passes timeout clock network i)
    (steps : Nat) (instances : List DiscoveredInstance)
    : (DiscoveryCall.after config timeout clock network steps).phase ≠ .returned instances := by
  have made (rounds : Nat) (before : rounds ≤ round)
      : ∀ i < rounds, Due config timeout clock network i ∧ Passes timeout clock network i := by
    intro i below
    have first : i < round := Nat.lt_of_lt_of_le below before
    exact ⟨due.earlier (Nat.le_of_lt first), earlier i first⟩
  rcases Nat.lt_or_ge round steps with past | before
  · obtain ⟨looping, counted⟩ :=
      looping_after config timeout clock network opened (made round (Nat.le_refl _))
    have collected : Collected config network (.after config timeout clock network round) :=
      collected_after round
    have ends : (DiscoveryCall.after config timeout clock network (round + 1)).phase = .blocked
        ∨ ∃ error,
            (DiscoveryCall.after config timeout clock network (round + 1)).phase
            = .threw error := by
      rw [DiscoveryCall.after_succ,
        advance_of_due looping collected.cached (counted.symm ▸ due), counted]
      exact phase_receive_of_not_passes stuck
    have unchanged := after_of_ended config timeout clock network past
      (by rcases ends with blocked | ⟨error, threw⟩ <;> simp [*])
    rw [unchanged]
    rcases ends with blocked | ⟨error, threw⟩ <;> simp [*]
  · rw [(looping_after config timeout clock network opened (made steps before)).1]
    exact fun other => nomatch other

/-- With the first round that is not due the list is returned. -/
theorem returned_of_not_due (opened : network.opened = true)
    (passes : ∀ i, Due config timeout clock network i → Passes timeout clock network i)
    (made : ∀ i < round, Due config timeout clock network i)
    (idle : ¬Due config timeout clock network round)
    : ∃ instances,
        (DiscoveryCall.after config timeout clock network (round + 1)).phase
          = .returned instances
        ∧ (DiscoveryCall.after config timeout clock network (round + 1)).calls = round := by
  obtain ⟨looping, counted⟩ := looping_after config timeout clock network opened
    (fun i before => ⟨made i before, passes i (made i before)⟩)
  have collected : Collected config network (.after config timeout clock network round) :=
    collected_after round
  rw [DiscoveryCall.after_succ,
    advance_of_not_due looping collected.cached (counted.symm ▸ idle)]
  exact ⟨_, rfl, counted⟩

/-- `discover` returns a list, and `receive_response` has answered in every round it made,
exactly if the socket could not be opened, or there are rounds for a limited time only and each
round that is due passes.
-/
theorem discover_returns_iff
    : (∃ steps instances,
        (DiscoveryCall.after config timeout clock network steps).phase = .returned instances
        ∧ ∀ i < (DiscoveryCall.after config timeout clock network steps).calls,
            Answered (network.uninitialised i) (network.stamp i) (network.arrival i))
      ↔ network.opened = false
        ∨ ((∃ round, ¬Due config timeout clock network round)
          ∧ ∀ round,
              Due config timeout clock network round
              → Passes timeout clock network round) := by
  classical
  cases opened : network.opened with
  | false =>
      have start : DiscoveryCall.after config timeout clock network 0
          = { phase := .returned [] } := by
        rw [DiscoveryCall.after, Function.iterate_zero_apply, DiscoveryCall.start, opened]
        rfl
      refine iff_of_true ⟨0, [], by rw [start], ?_⟩ (.inl rfl)
      rw [start]
      exact fun i impossible => absurd impossible (Nat.not_lt_zero i)
  | true =>
      simp only [Bool.true_eq_false, false_or]
      constructor
      · intro ⟨steps, instances, returned, _⟩
        have passes
          : ∀ round,
              Due config timeout clock network round
              → Passes timeout clock network round := by
          intro round
          -- the first round that does not pass would keep the call from returning
          induction round using Nat.strong_induction_on with
          | h round earlier =>
              intro due
              by_contra stuck
              refine ne_returned_of_not_passes opened due stuck ?_ steps instances returned
              exact fun i before => earlier i before (due.earlier (Nat.le_of_lt before))
        refine ⟨?_, passes⟩
        by_contra always
        have due := not_exists_not.mp always
        have made
          : ∀ i < steps,
              Due config timeout clock network i ∧ Passes timeout clock network i :=
          fun i _ => ⟨due i, passes i (due i)⟩
        obtain ⟨looping, _⟩ := looping_after config timeout clock network opened made
        rw [looping] at returned
        cases returned
      · intro ⟨ends, passes⟩
        have made : ∀ i < Nat.find ends, Due config timeout clock network i :=
          fun i before => not_not.mp (Nat.find_min ends before)
        obtain ⟨instances, returned, counted⟩ :=
          returned_of_not_due opened passes made (Nat.find_spec ends)
        refine ⟨_, instances, returned, ?_⟩
        rw [counted]
        intro i before
        rw [answered_iff]
        exact (passes i (made i before)).harmless

end Rounds

/-- One datagram, and `rest` in all later rounds. -/
def oneDatagram (bytes : ByteString) (rest : Arrival) : Network where
  opened := true
  arrival
    | 0 => .datagram (ascii "10.0.0.7") bytes
    | _ + 1 => rest
  uninitialised := fun _ => noInstance
  stamp := fun _ => 0

/-- A proper response arrives, and the second round is at the deadline. -/
def properNetwork : Network := oneDatagram (response (ascii "id=a;topics=3")) .nothing

theorem discover_returns_properNetwork
    : ∃ steps instances,
        (DiscoveryCall.after {} 2000 (jumpingClock 2000000000 (by decide)) properNetwork
            steps).phase
          = .returned instances
        ∧ ∀ i < (DiscoveryCall.after {} 2000 (jumpingClock 2000000000 (by decide)) properNetwork
              steps).calls,
            Answered noInstance 0 (properNetwork.arrival i) := by
  have late (round : Nat)
      : ¬Due {} 2000 (jumpingClock 2000000000 (by decide)) properNetwork (round + 1) :=
    fun due => absurd due.early (by change ¬(2000000000 : Int64) < 0 + 2000 * 1000000; decide)
  refine discover_returns_iff.mpr (.inr ⟨⟨1, late 0⟩, fun round due => ?_⟩)
  cases round with
  | zero =>
      refine ⟨?_, fun other => nomatch other⟩
      exact (exists_receiveResponse_ok_iff noInstance 0 _).mp ⟨_, rfl⟩
  | succ round => exact absurd due (late round)

/-- A count that is no number: the exception leaves `discover`. -/
theorem discover_throws_oneDatagram
    : receiveResponse noInstance 0 (.datagram (ascii "10.0.0.7") (response (ascii "topics=x")))
        = .error .invalidArgument
      ∧ (DiscoveryCall.after {} 2000 (jumpingClock 2000000000 (by decide))
          (oneDatagram (response (ascii "topics=x")) .failed) 1).phase
        = .threw .invalidArgument := by
  constructor
  · rfl
  · rfl

-----------------------------------------------------------------------------------------
-- The last millisecond
-----------------------------------------------------------------------------------------

section Deadline

variable (config : DiscoveryConfig) (timeout : Int64) (clock : SteadyClock)

/-- What is known of the rounds that have been made. -/
structure Progress (network : Network) (call : DiscoveryCall) : Prop where
  timeouts : call.timeouts = (List.range call.calls).map (clock.limit timeout)
  due : ∀ i < call.calls, Due config timeout clock network i

variable {config timeout clock} {network : Network} {call : DiscoveryCall}

theorem Progress.receive (progress : Progress config timeout clock network call)
    (due : Due config timeout clock network call.calls)
    : Progress config timeout clock network
        (call.receive network (clock.limit timeout call.calls) call.calls) := by
  refine ⟨?_, ?_⟩
  · rw [calls_receive, timeouts_receive, progress.timeouts, List.range_succ, List.map_append,
      List.map_singleton]
  · rw [calls_receive]
    exact Nat.forall_lt_succ_right.mpr ⟨progress.due, due⟩

theorem Progress.advance (progress : Progress config timeout clock network call)
    (cached : call.cached = firstResponses (network.responses call.calls))
    : Progress config timeout clock network (call.advance config timeout clock network) := by
  by_cases looping : call.phase = .looping
  · by_cases due : Due config timeout clock network call.calls
    · rw [advance_of_due looping cached due]
      exact progress.receive due
    · rw [advance_of_not_due looping cached due]
      exact ⟨progress.timeouts, progress.due⟩
  · rw [advance_of_ended looping]
    exact progress

/-- By induction on the steps. -/
theorem progress_after (steps : Nat)
    : Progress config timeout clock network (.after config timeout clock network steps) := by
  induction steps with
  | zero =>
      have none (P : Nat → Prop) : ∀ i < 0, P i :=
        fun i impossible => absurd impossible (Nat.not_lt_zero i)
      rw [DiscoveryCall.after, Function.iterate_zero_apply, DiscoveryCall.start]
      split <;> exact ⟨rfl, none _⟩
  | succ steps ih =>
      rw [DiscoveryCall.after_succ]
      exact ih.advance (collected_after steps).cached

/-- In one run it is the rounds made so far that have to keep away from the deadline. -/
theorem positive_after_iff (steps : Nat)
    : (∀ limit ∈ (DiscoveryCall.after config timeout clock network steps).timeouts,
        limit.Positive)
      ↔ ∀ i < (DiscoveryCall.after config timeout clock network steps).calls,
          1000000 ≤ (clock.deadline timeout - clock.reading i).toInt := by
  rw [(progress_after steps).timeouts, List.forall_mem_map]
  simp only [List.mem_range, clock.positive_limit_iff]

/-- Every call to `recvfrom` fails. -/
def failing : Network where
  opened := true
  arrival := fun _ => .failed
  uninitialised := fun _ => noInstance
  stamp := fun _ => 0

/-- Nothing counts, so the loop goes on for as long as the clock is before the deadline. -/
theorem calls_after_failing (room : config.capacity ≠ 0) {rounds : Nat}
    (early : ∀ i < rounds, clock.reading i < clock.deadline timeout)
    : (DiscoveryCall.after config timeout clock failing rounds).calls = rounds := by
  have silent (round : Nat) : failing.responses round = [] := by
    simp [Network.responses, Network.response?, failing, receiveResponse]
  refine (looping_after config timeout clock failing rfl ?_).2
  intro i before
  refine ⟨⟨early i before, ?_⟩, trivial, ?_⟩
  · rw [silent]
    exact Nat.pos_of_ne_zero room
  · intro nothing
    cases nothing

variable (config timeout clock)

/-- Every receive timeout is positive, whatever arrives, exactly if no round starts within the
last millisecond before the deadline. If no instance is wanted, there are no rounds.
-/
theorem timeouts_positive_iff
    : (∀ network steps,
        ∀ limit ∈ (DiscoveryCall.after config timeout clock network steps).timeouts,
          limit.Positive)
      ↔ config.capacity = 0
        ∨ ∀ i, clock.reading i < clock.deadline timeout
            → 1000000 ≤ (clock.deadline timeout - clock.reading i).toInt := by
  simp only [positive_after_iff]
  constructor
  · intro apart
    by_cases room : config.capacity = 0
    · exact .inl room
    · refine .inr (fun i early => apart failing (i + 1) i ?_)
      rw [calls_after_failing room]
      · exact Nat.lt_succ_self i
      · intro j earlier
        exact Int64.lt_of_le_of_lt (clock.reading_le (Nat.le_of_lt_succ earlier)) early
  · intro condition network steps i called
    have due := (progress_after steps).due i called
    rcases condition with none | enough
    · exact absurd (none ▸ due.wanted) (Nat.not_lt_zero _)
    · exact enough i due.early

end Deadline

/-- A stray datagram arrives, and half a millisecond before the deadline nothing else does. -/
def strayRun : Nat → DiscoveryCall :=
  .after {} 2000 (jumpingClock 1999500000 (by decide)) (oneDatagram [0] .nothing)

theorem timeouts_endless_strayRun
    : (strayRun 2).timeouts = [⟨2, 0⟩, ⟨0, 0⟩]
      ∧ ¬ (⟨0, 0⟩ : Timeval).Positive
      ∧ ∀ steps, 2 ≤ steps → (strayRun steps).phase = .blocked := by
  refine ⟨rfl, fun positive => positive.bounded ⟨rfl, rfl⟩, fun steps later => ?_⟩
  have blocked : (strayRun 2).phase = .blocked := rfl
  have unchanged : strayRun steps = strayRun 2 :=
    after_of_ended _ _ _ _ later (fun looping => nomatch blocked.symm.trans looping)
  rw [unchanged, blocked]

end NexusD.Tools
