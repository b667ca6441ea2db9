import Mathlib.Data.List.Induction
import NexusD.Tools.Discovery

/-! The list that `discover` returns, and the numbers its entries have in `CONNECT -n`.
The loop keeps the first response from each address, and the list is sorted by address. The
numbers therefore do not depend on the order in which the responses arrive.
-/

namespace NexusD.Tools

open NexusD.Core

/-- What tells an instance from the others. -/
def DiscoveredInstance.location (found : DiscoveredInstance) : ByteString × UInt16 :=
  (found.host, found.port)

def DiscoveredInstance.address (found : DiscoveredInstance) : ByteString :=
  found.host ++ ascii ":" ++ decimal found.port.toNat

/-- `Discovery::get_by_index`; the first instance has the index one. -/
def getByIndex (cached : List DiscoveredInstance) (index : Int32)
    : Option DiscoveredInstance :=
  -- `static_cast<int>(cached_instances_.size())`
  if index < 1 ∨ index > Int32.ofNat cached.length then none
  else cached[(index - 1).toNatClampNeg]?

/-- The address that `Cli::connect_by_index` connects to. -/
def connectByIndex (cached : List DiscoveredInstance) (index : Int32) : Option ByteString :=
  (getByIndex cached index).map DiscoveredInstance.address

/-- The order that `discover` sorts by. -/
def Before (first second : ByteString × UInt16) : Prop :=
  first.1 < second.1 ∨ (first.1 = second.1 ∧ first.2 < second.2)

theorem comesBefore_iff {first second : DiscoveredInstance}
    : DiscoveryCall.comesBefore first second = true
      ↔ Before first.location second.location := by
  unfold DiscoveryCall.comesBefore Before DiscoveredInstance.location
  by_cases same : first.host = second.host
  · simp [same, List.lt_irrefl]
  · simp [same]

theorem Before.trans {first second third : ByteString × UInt16}
    (left : Before first second) (right : Before second third)
    : Before first third := by
  rcases left with hosts | ⟨sameHost, ports⟩
  · rcases right with later | ⟨sameLater, _⟩
    · exact .inl (List.lt_trans hosts later)
    · exact .inl (sameLater ▸ hosts)
  · rcases right with later | ⟨sameLater, laterPorts⟩
    · exact .inl (sameHost ▸ later)
    · exact .inr ⟨sameHost.trans sameLater, UInt16.lt_trans ports laterPorts⟩

theorem Before.irrefl (place : ByteString × UInt16) : ¬Before place place := by
  intro before
  rcases before with hosts | ⟨_, ports⟩
  · exact List.lt_irrefl _ hosts
  · exact UInt16.lt_irrefl _ ports

theorem before_of_not_before {first second : ByteString × UInt16} (differ : first ≠ second)
    (not_before : ¬Before second first)
    : Before first second := by
  have hosts : ¬second.1 < first.1 := fun less => not_before (.inl less)
  by_cases less : first.1 < second.1
  · exact .inl less
  · have same : first.1 = second.1 :=
      List.le_antisymm (List.not_lt.mp hosts) (List.not_lt.mp less)
    refine .inr ⟨same, ?_⟩
    have ports : ¬second.2 < first.2 := fun below => not_before (.inr ⟨same.symm, below⟩)
    refine UInt16.lt_of_le_of_ne (UInt16.not_lt.mp ports) (fun equal => ?_)
    exact differ (Prod.ext same equal)

theorem not_before_trans {first second third : ByteString × UInt16}
    (left : ¬Before second first) (right : ¬Before third second)
    : ¬Before third first := by
  intro before
  by_cases same : first = second
  · exact right (same ▸ before)
  · exact right (before.trans (before_of_not_before same left))

/-- What the loop has kept of the responses. -/
def firstResponses (responses : List DiscoveredInstance) : List DiscoveredInstance :=
  responses.foldl DiscoveryCall.add []

theorem firstResponses_snoc (responses : List DiscoveredInstance) (last : DiscoveredInstance)
    : firstResponses (responses ++ [last])
      = DiscoveryCall.add (firstResponses responses) last := by
  rw [firstResponses, List.foldl_append]
  rfl

section Add

variable {cached : List DiscoveredInstance} {discovered : DiscoveredInstance}

theorem add_of_known (known : ∃ existing ∈ cached, existing.location = discovered.location)
    : DiscoveryCall.add cached discovered = cached := by
  rw [DiscoveryCall.add, if_pos]
  simpa [DiscoveredInstance.location] using known

theorem add_of_fresh (fresh : ¬∃ existing ∈ cached, existing.location = discovered.location)
    : DiscoveryCall.add cached discovered = cached ++ [discovered] := by
  rw [DiscoveryCall.add, if_neg]
  simpa [DiscoveredInstance.location] using fresh

end Add

/-- The first of the responses from an address. -/
def firstFrom (responses : List DiscoveredInstance) (place : ByteString × UInt16)
    : Option DiscoveredInstance :=
  responses.find? (fun response => response.host = place.1 && response.port = place.2)

theorem location_of_firstFrom {responses : List DiscoveredInstance}
    {place : ByteString × UInt16} {found : DiscoveredInstance}
    (first : firstFrom responses place = some found)
    : found.location = place := by
  have matching := List.find?_some first
  simp only [Bool.and_eq_true, decide_eq_true_eq] at matching
  exact Prod.ext matching.1 matching.2

theorem firstFrom_singleton (last : DiscoveredInstance) (place : ByteString × UInt16)
    (found : DiscoveredInstance)
    : firstFrom [last] place = some found ↔ last.location = place ∧ last = found := by
  simp [firstFrom, DiscoveredInstance.location, Prod.ext_iff]

theorem firstFrom_ne_none_iff (responses : List DiscoveredInstance)
    (place : ByteString × UInt16)
    : firstFrom responses place ≠ none
      ↔ place ∈ responses.map DiscoveredInstance.location := by
  simp [firstFrom, DiscoveredInstance.location, Prod.ext_iff]

/-- A list of first responses has one from every address that was heard. -/
theorem exists_at_iff {cached responses : List DiscoveredInstance}
    (firsts : ∀ found, found ∈ cached ↔ firstFrom responses found.location = some found)
    (place : ByteString × UInt16)
    : (∃ existing ∈ cached, existing.location = place)
      ↔ firstFrom responses place ≠ none := by
  constructor
  · intro ⟨existing, member, same⟩
    rw [← same, (firsts existing).mp member]
    exact Option.some_ne_none _
  · intro heard
    obtain ⟨existing, first⟩ := Option.ne_none_iff_exists'.mp heard
    have same := location_of_firstFrom first
    exact ⟨existing, (firsts existing).mpr (same ▸ first), same⟩

/-- By induction on the responses, from the last one on. -/
theorem mem_firstResponses (responses : List DiscoveredInstance) (found : DiscoveredInstance)
    : found ∈ firstResponses responses ↔ firstFrom responses found.location = some found := by
  induction responses using List.reverseRecOn generalizing found with
  | nil => simp [firstResponses, firstFrom]
  | append_singleton responses last ih =>
      have known := exists_at_iff ih last.location
      have split
        : firstFrom (responses ++ [last]) found.location
          = (firstFrom responses found.location).or (firstFrom [last] found.location) :=
        List.find?_append
      rw [firstResponses_snoc, split]
      by_cases old : ∃ existing ∈ firstResponses responses, existing.location = last.location
      · rw [add_of_known old, ih]
        cases first : firstFrom responses found.location with
        | some earliest => rfl
        | none =>
            have other : last.location ≠ found.location := by
              intro same
              exact known.mp old (same ▸ first)
            simp [firstFrom_singleton, other]
      · rw [add_of_fresh old, List.mem_append, List.mem_singleton, ih]
        cases first : firstFrom responses found.location with
        | some earliest =>
            have other : found ≠ last := by
              intro same
              exact old (known.mpr (by rw [← same, first]; exact Option.some_ne_none _))
            simp [other]
        | none =>
            rw [Option.none_or, firstFrom_singleton]
            constructor
            · intro either
              rcases either with impossible | same
              · exact nomatch impossible
              · exact ⟨by rw [same], same.symm⟩
            · intro both
              exact .inr both.2.symm

/-- By induction on the responses, from the last one on. -/
theorem firstResponses_distinct (responses : List DiscoveredInstance)
    : (firstResponses responses).Pairwise
        (fun first second => first.location ≠ second.location) := by
  induction responses using List.reverseRecOn with
  | nil => exact .nil
  | append_singleton responses last ih =>
      rw [firstResponses_snoc]
      by_cases old : ∃ existing ∈ firstResponses responses, existing.location = last.location
      · rw [add_of_known old]
        exact ih
      · rw [add_of_fresh old]
        refine List.pairwise_append.mpr ⟨ih, List.pairwise_singleton _ _, ?_⟩
        intro existing member new is
        rw [List.mem_singleton.mp is]
        exact fun same => old ⟨existing, member, same⟩

/-- The addresses in the list are those of the responses. -/
theorem mem_locations_firstResponses (responses : List DiscoveredInstance)
    (place : ByteString × UInt16)
    : place ∈ (firstResponses responses).map DiscoveredInstance.location
      ↔ place ∈ responses.map DiscoveredInstance.location := by
  rw [List.mem_map, exists_at_iff (mem_firstResponses responses), firstFrom_ne_none_iff]

/-- Sorting distinct addresses leaves no two of them in doubt. -/
theorem pairwise_sorted_firstResponses (responses : List DiscoveredInstance)
    : (DiscoveryCall.sorted (firstResponses responses)).Pairwise
        (fun first second => DiscoveryCall.comesBefore first second = true) := by
  have ordered
    : (DiscoveryCall.sorted (firstResponses responses)).Pairwise
        (fun first second => (!DiscoveryCall.comesBefore second first) = true) := by
    refine List.pairwise_mergeSort ?_ ?_ _
    · intro first second third left right
      simp only [Bool.not_eq_true', ← Bool.not_eq_true, comesBefore_iff] at left right ⊢
      exact not_before_trans left right
    · intro first second
      simp only [Bool.or_eq_true, Bool.not_eq_true', ← Bool.not_eq_true, comesBefore_iff]
      by_cases before : Before second.location first.location
      · exact .inr (fun after => Before.irrefl _ (before.trans after))
      · exact .inl before
  have distinct
    : (DiscoveryCall.sorted (firstResponses responses)).Pairwise
        (fun first second => first.location ≠ second.location) :=
    (List.mergeSort_perm _ _).symm.pairwise (firstResponses_distinct responses)
      (fun differ => differ.symm)
  refine (ordered.and distinct).imp ?_
  intro first second both
  obtain ⟨not_before, differ⟩ := both
  simp only [Bool.not_eq_true', ← Bool.not_eq_true, comesBefore_iff] at not_before
  exact comesBefore_iff.mpr (before_of_not_before differ not_before)

-----------------------------------------------------------------------------------------
-- The loop
-----------------------------------------------------------------------------------------

/-- The response that a round receives, if it is one that counts. -/
def Network.response? (network : Network) (round : Nat) : Option DiscoveredInstance :=
  match receiveResponse (network.uninitialised round) (network.stamp round)
      (network.arrival round) with
  | .ok (true, discovered) => some discovered
  | .ok (false, _) | .error _ => none

def Network.responses (network : Network) (rounds : Nat) : List DiscoveredInstance :=
  (List.range rounds).filterMap network.response?

theorem Network.responses_succ (network : Network) (rounds : Nat)
    : network.responses (rounds + 1)
      = network.responses rounds ++ (network.response? rounds).toList := by
  rw [responses, List.range_succ, List.filterMap_append]
  cases heard : network.response? rounds <;> simp [responses, heard]

section Run

variable {config : DiscoveryConfig} {timeout : Int64} {clock : SteadyClock} {network : Network}

/-- What the loop has collected, and what it returns of it. -/
structure Collected (config : DiscoveryConfig) (network : Network) (call : DiscoveryCall)
    : Prop where
  cached : call.cached = firstResponses (network.responses call.calls)
  room : call.cached.length ≤ config.capacity
  returned : ∀ {instances}, call.phase = .returned instances
    → instances = DiscoveryCall.sorted call.cached

theorem Collected.start : Collected config network (.start network) := by
  unfold DiscoveryCall.start
  split
  · exact ⟨rfl, Nat.zero_le _, fun other => nomatch other⟩
  · refine ⟨rfl, Nat.zero_le _, fun is => ?_⟩
    cases is
    exact List.mergeSort_nil.symm

/-- A call that waits or throws has received nothing that counts. -/
theorem Collected.receive {call : DiscoveryCall} (collected : Collected config network call)
    (looping : call.phase = .looping) (room : call.cached.length < config.capacity)
    (limit : Timeval)
    : Collected config network (call.receive network limit call.calls) := by
  have more (phase : DiscoveryPhase) (cached : List DiscoveredInstance)
      : DiscoveryCall.calls ⟨phase, cached, call.timeouts ++ [limit]⟩ = call.calls + 1 := by
    simp [DiscoveryCall.calls]
  have unheard (none : network.response? call.calls = none)
      : call.cached = firstResponses (network.responses (call.calls + 1)) := by
    rw [network.responses_succ, none, collected.cached]
    simp
  unfold DiscoveryCall.receive
  dsimp only
  split
  · rename_i stuck
    refine ⟨?_, collected.room, fun other => by cases other⟩
    rw [more]
    refine unheard ?_
    rw [Network.response?, stuck.1]
    rfl
  · split
    · rename_i error thrown
      refine ⟨?_, collected.room, fun other => by cases other⟩
      rw [more]
      exact unheard (by rw [Network.response?, thrown])
    · rename_i unchanged ignored
      refine ⟨?_, collected.room, fun is => ?_⟩
      · rw [more]
        exact unheard (by rw [Network.response?, ignored])
      · rw [looping] at is
        cases is
    · rename_i discovered accepted
      have heard : network.response? call.calls = some discovered := by
        rw [Network.response?, accepted]
      refine ⟨?_, ?_, fun is => ?_⟩
      · rw [more, network.responses_succ, heard, Option.toList_some, firstResponses_snoc,
          ← collected.cached]
      · dsimp only [DiscoveryCall.add]
        split
        · exact collected.room
        · rw [List.length_append]
          exact room
      · rw [looping] at is
        cases is

theorem Collected.return {call : DiscoveryCall} (collected : Collected config network call)
    : Collected config network
        { call with phase := .returned (DiscoveryCall.sorted call.cached) } := by
  refine ⟨collected.cached, collected.room, fun is => ?_⟩
  cases is
  rfl

theorem Collected.advance {call : DiscoveryCall} (collected : Collected config network call)
    : Collected config network (call.advance config timeout clock network) := by
  unfold DiscoveryCall.advance
  split
  · rename_i looping
    split
    · rename_i room
      split
      · exact collected.return
      · exact collected.receive looping room _
    · exact collected.return
  · exact collected
  · exact collected
  · exact collected

theorem collected_after (steps : Nat)
    : Collected config network (.after config timeout clock network steps) := by
  induction steps with
  | zero => exact .start
  | succ steps ih =>
      rw [DiscoveryCall.after_succ]
      exact ih.advance

/-- Whenever `discover` returns, its list is in strict order of the addresses, no longer than
was asked for, and consists of the first response from each address it heard from.
-/
theorem discover_lists_firstResponses {steps : Nat} {instances : List DiscoveredInstance}
    (returned
      : (DiscoveryCall.after config timeout clock network steps).phase = .returned instances)
    : instances.Pairwise
        (fun first second => DiscoveryCall.comesBefore first second = true)
      ∧ instances.length ≤ config.capacity
      ∧ ∀ found,
          found ∈ instances
          ↔ firstFrom
              (network.responses
                (DiscoveryCall.after config timeout clock network steps).calls)
              found.location
            = some found := by
  have collected : Collected config network (.after config timeout clock network steps) :=
    collected_after steps
  have list := collected.returned returned
  have permuted
    : instances.Perm (DiscoveryCall.after config timeout clock network steps).cached := by
    rw [list]
    exact List.mergeSort_perm _ _
  refine ⟨?_, ?_, ?_⟩
  · rw [list, collected.cached]
    exact pairwise_sorted_firstResponses _
  · rw [permuted.length_eq]
    exact collected.room
  · intro found
    rw [permuted.mem_iff, collected.cached, mem_firstResponses]

end Run

/-- A clock that stands still for the first round and reads `late` from then on. -/
def jumpingClock (late : Int64) (later : 0 ≤ late) : SteadyClock where
  start := 0
  reading
    | 0 => 0
    | _ + 1 => late
  ordered
    | 0 => later
    | _ + 1 => Int64.le_refl late
  start_le := Int64.le_refl 0

def noInstance : DiscoveredInstance where
  host := []
  port := 0
  instanceId := []
  version := []
  status := []
  uptimeSeconds := 0
  topicCount := 0
  subscriberCount := 0
  peerCount := 0
  discoveredAt := 0

/-- A response from port 5670. -/
def response (payload : ByteString) : ByteString := discoveryMagic ++ [1, 2, 22, 38] ++ payload

/-- Datagrams of the rounds, one after another. -/
def arriving (datagrams : List (ByteString × ByteString)) : Network where
  opened := true
  arrival := fun round =>
    match datagrams[round]? with
    | some (host, bytes) => .datagram host bytes
    | none => .failed
  uninitialised := fun _ => noInstance
  stamp := fun _ => 0

/-- Two instances are asked for, and the second round starts a millisecond after the first. -/
def pairRun (datagrams : List (ByteString × ByteString)) : Nat → DiscoveryCall :=
  .after { maxInstances := 2 } 2000 (jumpingClock 1000000 (by decide)) (arriving datagrams)

/-- The first instance answers twice. -/
def answeredTwice : List (ByteString × ByteString) :=
  [ (ascii "10.0.0.9", response (ascii "id=b")), (ascii "10.0.0.9", response (ascii "id=c")),
    (ascii "10.0.0.7", response (ascii "id=a")) ]

theorem discover_lists_answeredTwice
    : ∃ instances,
        (pairRun answeredTwice 4).phase = .returned instances
        ∧ instances.Pairwise
            (fun first second => DiscoveryCall.comesBefore first second = true)
        ∧ instances.length ≤ 2
        ∧ { noInstance with
              host := ascii "10.0.0.9"
              port := 5670
              instanceId := ascii "b" } ∈ instances := by
  have returns : ∃ instances, (pairRun answeredTwice 4).phase = .returned instances := ⟨_, rfl⟩
  obtain ⟨instances, returned⟩ := returns
  obtain ⟨ordered, short, firsts⟩ := discover_lists_firstResponses returned
  exact ⟨instances, returned, ordered, short, (firsts _).mpr (by rfl)⟩

-----------------------------------------------------------------------------------------
-- The numbers of the instances
-----------------------------------------------------------------------------------------

/-- Lists in strict order with the same members are equal. -/
theorem locations_eq {left right : List (ByteString × UInt16)}
    (ordered : left.Pairwise Before) (other : right.Pairwise Before)
    (same : ∀ place, place ∈ left ↔ place ∈ right)
    : left = right := by
  have distinct {places : List (ByteString × UInt16)} (sorted : places.Pairwise Before)
      : places.Nodup := by
    refine sorted.imp ?_
    intro first second before equal
    exact Before.irrefl second (equal ▸ before)
  refine List.Perm.eq_of_pairwise ?_ ordered other
    ((List.perm_ext_iff_of_nodup (distinct ordered) (distinct other)).mpr same)
  intro first second _ _ before after
  exact absurd (before.trans after) (Before.irrefl first)

theorem connectByIndex_eq_of_locations {left right : List DiscoveredInstance}
    (same : left.map DiscoveredInstance.location = right.map DiscoveredInstance.location)
    (index : Int32)
    : connectByIndex left index = connectByIndex right index := by
  have reads (cached : List DiscoveredInstance)
      : connectByIndex cached index
        = if index < 1 ∨ index > Int32.ofNat (cached.map DiscoveredInstance.location).length
          then none
          else (cached.map DiscoveredInstance.location)[(index - 1).toNatClampNeg]?.map
            (fun place => place.1 ++ ascii ":" ++ decimal place.2.toNat) := by
    rw [connectByIndex, getByIndex, List.length_map, List.getElem?_map, Option.map_map]
    split <;> rfl
  rw [reads, reads, same]

section Numbers

variable {config config' : DiscoveryConfig} {timeout timeout' : Int64}
  {clock clock' : SteadyClock} {network network' : Network} {steps steps' : Nat}
  {instances instances' : List DiscoveredInstance}

/-- A number of `CONNECT -n` means the same address after any two discoveries that heard from
the same addresses, in whatever order and however often.
-/
theorem connectByIndex_independent
    (returned
      : (DiscoveryCall.after config timeout clock network steps).phase = .returned instances)
    (returned'
      : (DiscoveryCall.after config' timeout' clock' network' steps').phase
        = .returned instances')
    (same
      : ∀ place,
          place ∈ (network.responses
              (DiscoveryCall.after config timeout clock network steps).calls).map
            DiscoveredInstance.location
          ↔ place ∈ (network'.responses
              (DiscoveryCall.after config' timeout' clock' network' steps').calls).map
            DiscoveredInstance.location)
    (index : Int32)
    : connectByIndex instances index = connectByIndex instances' index := by
  have ordered (responses : List DiscoveredInstance)
      : ((DiscoveryCall.sorted (firstResponses responses)).map
          DiscoveredInstance.location).Pairwise Before := by
    refine List.pairwise_map.mpr ((pairwise_sorted_firstResponses responses).imp ?_)
    intro first second before
    exact comesBefore_iff.mp before
  have members (responses : List DiscoveredInstance) (place : ByteString × UInt16)
      : place ∈ (DiscoveryCall.sorted (firstResponses responses)).map
            DiscoveredInstance.location
        ↔ place ∈ responses.map DiscoveredInstance.location := by
    rw [← mem_locations_firstResponses responses]
    exact ((List.mergeSort_perm _ _).map _).mem_iff
  have collected : Collected config network (.after config timeout clock network steps) :=
    collected_after steps
  have collected'
    : Collected config' network' (.after config' timeout' clock' network' steps') :=
    collected_after steps'
  refine connectByIndex_eq_of_locations ?_ index
  rw [collected.returned returned, collected'.returned returned', collected.cached,
    collected'.cached]
  refine locations_eq (ordered _) (ordered _) ?_
  intro place
  rw [members, members]
  exact same place

end Numbers

/-- The same two instances, the other way round and each of them once. -/
def answeredOnce : List (ByteString × ByteString) :=
  [ (ascii "10.0.0.7", response (ascii "id=a")), (ascii "10.0.0.9", response (ascii "id=b")) ]

theorem connectByIndex_answeredTwice
    : ∃ instances instances',
        (pairRun answeredTwice 4).phase = .returned instances
        ∧ (pairRun answeredOnce 3).phase = .returned instances'
        ∧ ∀ index, connectByIndex instances index = connectByIndex instances' index := by
  have returns : ∃ instances, (pairRun answeredTwice 4).phase = .returned instances := ⟨_, rfl⟩
  have returns' : ∃ instances, (pairRun answeredOnce 3).phase = .returned instances := ⟨_, rfl⟩
  obtain ⟨instances, returned⟩ := returns
  obtain ⟨instances', returned'⟩ := returns'
  have heard
    : ((arriving answeredTwice).responses (pairRun answeredTwice 4).calls).map
          DiscoveredInstance.location
        = [(ascii "10.0.0.9", 5670), (ascii "10.0.0.9", 5670), (ascii "10.0.0.7", 5670)] :=
    rfl
  have heard'
    : ((arriving answeredOnce).responses (pairRun answeredOnce 3).calls).map
          DiscoveredInstance.location
        = [(ascii "10.0.0.7", 5670), (ascii "10.0.0.9", 5670)] :=
    rfl
  have same
    : ∀ place,
        place ∈ ((arriving answeredTwice).responses (pairRun answeredTwice 4).calls).map
          DiscoveredInstance.location
        ↔ place ∈ ((arriving answeredOnce).responses (pairRun answeredOnce 3).calls).map
          DiscoveredInstance.location := by
    intro place
    rw [heard, heard']
    simp only [List.mem_cons, List.not_mem_nil, or_false]
    rw [or_self_left, or_comm]
  exact ⟨instances, instances', returned, returned',
    connectByIndex_independent returned returned' same⟩

end NexusD.Tools
