import NexusD.Core.MemoryAccounting

/-! What `bufferMessage` rejects.
A message above the limit is rejected before anything is evicted. A message that could fit is
rejected all the same when the eviction comes to the topic with the empty name, which the code
takes for "nothing left to evict"; what was evicted before is lost.
-/

namespace NexusD.Core.TopicMessageBuffer

open NexusD.Library

/-- What is left after some rounds of the eviction, if nothing stops it. -/
def afterRounds (buffers : TopicMessageBuffer) (order : IterationOrder ByteString)
    : Nat → TopicMessageBuffer
  | 0 => buffers
  | rounds + 1 => (buffers.clearTopic (buffers.oldestTopic order)).afterRounds order rounds

/-- The eviction comes to the topic with the empty name before there is room. -/
def MeetsUnnamed (buffers : TopicMessageBuffer) (order : IterationOrder ByteString)
    (neededBytes : Nat)
    : Prop :=
  ∃ rounds,
    (order.visit (buffers.afterRounds order rounds).topicBuffers.keys).head? = some []
    ∧ buffers.maxTotalMemoryBytes
      < (buffers.afterRounds order rounds).currentTotalBytes + neededBytes

section Rounds

variable {buffers : TopicMessageBuffer}

theorem Balanced.afterRounds_le (balanced : buffers.Balanced)
    (order : IterationOrder ByteString) (rounds : Nat)
    : (buffers.afterRounds order rounds).currentTotalBytes ≤ buffers.currentTotalBytes := by
  induction rounds generalizing buffers with
  | zero => exact Nat.le_refl _
  | succ rounds ih =>
      have cleared := balanced.clearTopic (buffers.oldestTopic order)
      exact (ih cleared.1).trans cleared.2

theorem Windowed.nonempty (windowed : buffers.Windowed)
    (positive : 0 < buffers.bufferSizePerTopic) {topic : ByteString}
    (stored : topic ∈ buffers.topicBuffers.keys)
    : ∃ buffer, buffers.topicBuffers.lookup topic = some buffer ∧ 0 < buffer.size := by
  obtain ⟨log, keeps⟩ := windowed topic
  have window := keeps.window
  cases log with
  | none =>
      rw [Option.map_none, AList.lookup_eq_none] at window
      exact absurd (AList.mem_keys.mpr stored) window
  | some log =>
      refine ⟨_, window, ?_⟩
      have some := List.length_pos_iff.mpr (fun empty => keeps.nonempty (congrArg _ empty))
      simp only [TopicBuffer.size, TopicBuffer.ofLog, TopicBuffer.tailOf, length_rtake,
      length_numbered]
      exact Nat.lt_min.mpr ⟨positive, some⟩

/-- Every stored ring holds a message, so the first topic of the traversal is taken. -/
theorem Windowed.oldestTopic_eq (windowed : buffers.Windowed)
    (positive : 0 < buffers.bufferSizePerTopic) (order : IterationOrder ByteString)
    : buffers.oldestTopic order
      = ((order.visit buffers.topicBuffers.keys).head?).getD [] := by
  unfold oldestTopic
  cases visited : order.visit buffers.topicBuffers.keys with
  | nil => rfl
  | cons first rest =>
      have stored : first ∈ buffers.topicBuffers.keys := by
        rw [← order.mem_visit, visited]
        exact List.mem_cons_self
      obtain ⟨buffer, found, holds⟩ := windowed.nonempty positive stored
      simp only [List.find?_cons, found, holds, decide_true, List.head?_cons]

end Rounds

section Eviction

variable {buffers : TopicMessageBuffer}

theorem visit_keys_nil {order : IterationOrder ByteString}
    (empty : buffers.topicBuffers.keys = [])
    : order.visit buffers.topicBuffers.keys = [] := by
  rw [empty]
  exact (order.perm []).eq_nil

theorem keys_isEmpty_of_length {fewer : Nat}
    (count : buffers.topicBuffers.keys.length = fewer + 1)
    : buffers.topicBuffers.keys.isEmpty = false := by
  rw [List.isEmpty_eq_false_iff, ← List.length_pos_iff, count]
  exact Nat.succ_pos fewer

/-- While topics are stored, a round takes the first one of the traversal. -/
theorem Windowed.exists_first (windowed : buffers.Windowed)
    (positive : 0 < buffers.bufferSizePerTopic) (order : IterationOrder ByteString)
    {fewer : Nat} (count : buffers.topicBuffers.keys.length = fewer + 1)
    : ∃ first rest,
        order.visit buffers.topicBuffers.keys = first :: rest
        ∧ first ∈ buffers.topicBuffers.keys
        ∧ buffers.oldestTopic order = first := by
  have length : (order.visit buffers.topicBuffers.keys).length = fewer + 1 := by
    rw [(order.perm _).length_eq, count]
  obtain ⟨first, rest, visited⟩ := List.exists_cons_of_length_eq_add_one length
  refine ⟨first, rest, visited, ?_, ?_⟩
  · rw [← order.mem_visit, visited]
    exact List.mem_cons_self
  · rw [windowed.oldestTopic_eq positive, visited]
    rfl

theorem clearTopic_keys_nil (empty : buffers.topicBuffers.keys = []) (topic : ByteString)
    : (buffers.clearTopic topic).topicBuffers.keys = [] := by
  have missing : buffers.topicBuffers.lookup topic = none := by
    rw [AList.lookup_eq_none, AList.mem_keys, empty]
    exact List.not_mem_nil
  rwa [clearTopic, missing]

/-- Without topics there is nothing left for a round to clear. -/
theorem afterRounds_keys_nil (empty : buffers.topicBuffers.keys = [])
    (order : IterationOrder ByteString) (rounds : Nat)
    : (buffers.afterRounds order rounds).topicBuffers.keys = [] := by
  induction rounds generalizing buffers with
  | zero => exact empty
  | succ rounds ih => exact ih (clearTopic_keys_nil empty _)

theorem exists_rounds_iff (buffers : TopicMessageBuffer)
    (condition : TopicMessageBuffer → Prop) (order : IterationOrder ByteString)
    : (∃ rounds, condition (buffers.afterRounds order rounds))
      ↔ condition buffers
        ∨ ∃ rounds,
            condition
              ((buffers.clearTopic (buffers.oldestTopic order)).afterRounds order rounds) := by
  constructor
  · intro met
    obtain ⟨rounds, holds⟩ := met
    cases rounds with
    | zero => exact .inl holds
    | succ rounds => exact .inr ⟨rounds, holds⟩
  · intro met
    rcases met with now | ⟨rounds, later⟩
    · exact ⟨0, now⟩
    · exact ⟨rounds + 1, later⟩

/-- The loop gives up exactly when it comes to the topic with the empty name while there is
still too much stored.
-/
theorem evictLoop_false_iff (balanced : buffers.Balanced) (windowed : buffers.Windowed)
    (positive : 0 < buffers.bufferSizePerTopic) (order : IterationOrder ByteString)
    (target : Nat)
    : (evictLoop order target buffers.topicBuffers.keys.length buffers).2 = false
      ↔ ∃ rounds,
          (order.visit (buffers.afterRounds order rounds).topicBuffers.keys).head? = some []
          ∧ target < (buffers.afterRounds order rounds).currentTotalBytes := by
  induction left : buffers.topicBuffers.keys.length generalizing buffers with
  | zero =>
      have empty : buffers.topicBuffers.keys = [] := List.length_eq_zero_iff.mp left
      refine iff_of_false (by simp [evictLoop]) ?_
      intro met
      obtain ⟨rounds, first, _⟩ := met
      rw [visit_keys_nil (afterRounds_keys_nil empty order rounds)] at first
      cases first
  | succ fewer ih =>
      have stored := keys_isEmpty_of_length left
      by_cases more : target < buffers.currentTotalBytes
      · obtain ⟨first, rest, visited, member, taken⟩ :=
          windowed.exists_first positive order left
        rw [exists_rounds_iff buffers
          (fun left =>
            (order.visit left.topicBuffers.keys).head? = some []
            ∧ target < left.currentTotalBytes)
          order]
        simp only [evictLoop, more, stored, decide_true, Bool.not_false, Bool.and_true,
          if_true, taken, visited, List.head?_cons, Option.some.injEq, and_true]
        by_cases unnamed : first = []
        · simp [unnamed]
        · have fewerKeys := clearTopic_keys_length member
          have erased := clearTopic_erasedFrom buffers first
          have next := ih (balanced.clearTopic first).1 (windowed.erasedFrom erased)
            (by rwa [erased.sizes]) (by omega)
          rw [if_neg (by simpa using unnamed), next]
          simp only [unnamed, false_or]
      · refine iff_of_false (by simp [evictLoop, more]) ?_
        intro met
        obtain ⟨rounds, _, above⟩ := met
        exact more (above.trans_le (balanced.afterRounds_le order rounds))

/-- If the loop does not give up, it ends with room, if only because nothing is stored. -/
theorem evictLoop_true_le (balanced : buffers.Balanced)
    (order : IterationOrder ByteString) (target : Nat)
    (done : (evictLoop order target buffers.topicBuffers.keys.length buffers).2 = true)
    : (evictLoop order target buffers.topicBuffers.keys.length buffers).1.currentTotalBytes
      ≤ target := by
  induction left : buffers.topicBuffers.keys.length generalizing buffers with
  | zero =>
      have empty : buffers.topicBuffers = ∅ :=
        AList.ext (List.map_eq_nil_iff.mp (List.length_eq_zero_iff.mp left))
      rw [Balanced, empty, valueSum_empty] at balanced
      rw [evictLoop, balanced]
      exact Nat.zero_le target
  | succ fewer ih =>
      rw [left] at done
      simp only [evictLoop] at done ⊢
      split at done
      · split at done
        · cases done
        · rename_i more named
          have member := oldestTopic_mem (Bool.eq_false_iff.mpr named)
          have fewerKeys := clearTopic_keys_length member
          have rounds
            : (buffers.clearTopic (buffers.oldestTopic order)).topicBuffers.keys.length
              = fewer := by
            omega
          rw [if_pos more, if_neg named]
          exact ih (balanced.clearTopic _).1 (by rwa [rounds]) rounds
      · rename_i enough
        rw [if_neg enough]
        simpa [keys_isEmpty_of_length left] using enough

/-- For a message within the limit the check after the loop always passes. -/
theorem evictForSpace_verdict (balanced : buffers.Balanced)
    (limited : buffers.maxTotalMemoryBytes ≠ 0) (order : IterationOrder ByteString)
    {neededBytes : Nat} (fits : neededBytes ≤ buffers.maxTotalMemoryBytes)
    : (buffers.evictForSpace order neededBytes).2
      = (evictLoop order (buffers.maxTotalMemoryBytes - neededBytes)
          buffers.topicBuffers.keys.length buffers).2 := by
  have room := evictLoop_true_le balanced order (buffers.maxTotalMemoryBytes - neededBytes)
  have limits := (evictLoop_erasedFrom order (buffers.maxTotalMemoryBytes - neededBytes)
    buffers.topicBuffers.keys.length buffers).limits
  rw [evictForSpace, if_neg limited, sizeSub_of_le fits]
  dsimp only
  split
  · rename_i loop
    rw [loop]
  · rename_i loop
    rw [loop] at room limits ⊢
    have enough := room rfl
    dsimp only at enough limits ⊢
    rw [decide_eq_true_eq]
    omega

end Eviction

section Rejection

variable {bufferSizePerTopic maxTotalMemoryBytes : Nat} {buffers : TopicMessageBuffer}

/-- The target of a message above the limit wraps around to something above the limit, so
nothing is evicted for it.
-/
theorem Sound.makeRoom_large
    (sound : Sound bufferSizePerTopic maxTotalMemoryBytes buffers)
    (limited : 0 < maxTotalMemoryBytes) (order : IterationOrder ByteString)
    {neededBytes : Nat} (machine : neededBytes < 2 ^ 64)
    (large : maxTotalMemoryBytes < neededBytes)
    : buffers.makeRoom order neededBytes = (buffers, false) := by
  have within := sound.limited limited
  have limit := sound.configured.limit
  have nothing
    : ∀ fuel,
        evictLoop order (sizeSub maxTotalMemoryBytes neededBytes) fuel buffers
        = (buffers, true) := by
    intro fuel
    have wrapped : ¬sizeSub maxTotalMemoryBytes neededBytes < buffers.currentTotalBytes := by
      rw [sizeSub, if_neg (Nat.not_le.mpr large)]
      omega
    cases fuel with
    | zero => rfl
    | succ fuel => simp [evictLoop, wrapped]
  have evicts
    : (0 < buffers.maxTotalMemoryBytes
        && buffers.maxTotalMemoryBytes < buffers.currentTotalBytes + neededBytes)
      = true := by
    rw [limit, Bool.and_eq_true, decide_eq_true_eq, decide_eq_true_eq]
    omega
  rw [makeRoom, if_pos evicts, evictForSpace, if_neg (by omega), limit]
  dsimp only
  rw [nothing]
  simp only [limit, Prod.mk.injEq, true_and, decide_eq_false_iff_not]
  omega

/-- For a message within the limit, what stops the loop is the topic with the empty name. -/
theorem Sound.meetsUnnamed_iff
    (sound : Sound bufferSizePerTopic maxTotalMemoryBytes buffers)
    (positive : 0 < bufferSizePerTopic) (order : IterationOrder ByteString)
    {neededBytes : Nat} (fits : neededBytes ≤ maxTotalMemoryBytes)
    : buffers.MeetsUnnamed order neededBytes
      ↔ (evictLoop order (maxTotalMemoryBytes - neededBytes)
          buffers.topicBuffers.keys.length buffers).2
        = false := by
  have rings : 0 < buffers.bufferSizePerTopic := by rwa [sound.configured.size]
  rw [evictLoop_false_iff sound.balanced sound.windowed rings, MeetsUnnamed,
    sound.configured.limit]
  refine exists_congr ?_
  intro rounds
  refine and_congr_right ?_
  intro _
  omega

/-- A message within the limit is let in unless the eviction comes to the topic with the empty
name.
-/
theorem Sound.accepts_iff
    (sound : Sound bufferSizePerTopic maxTotalMemoryBytes buffers)
    (positive : 0 < bufferSizePerTopic) (limited : 0 < maxTotalMemoryBytes)
    (call : BufferCall) (fits : call.payload.length ≤ maxTotalMemoryBytes)
    : buffers.accepts call = true
      ↔ ¬buffers.MeetsUnnamed call.order call.payload.length := by
  have limit := sound.configured.limit
  have meets := sound.meetsUnnamed_iff positive call.order fits
  rw [accepts, makeRoom]
  split
  · have space := evictForSpace_verdict sound.balanced (by omega) call.order
      (fits.trans_eq limit.symm)
    rw [space, limit, meets, Bool.not_eq_false]
  · rename_i room
    refine iff_of_true rfl ?_
    intro met
    obtain ⟨rounds, _, above⟩ := met
    have less := sound.balanced.afterRounds_le call.order rounds
    rw [Bool.and_eq_true, decide_eq_true_eq, decide_eq_true_eq] at room
    omega

/-- What a call should do under a limit: reject exactly the messages that can never fit, and
change nothing when it rejects.
-/
structure RejectsExactly (buffers : TopicMessageBuffer) (call : BufferCall) : Prop where
  rejects
    : (buffers.bufferMessage call).2 = 0
      ↔ buffers.maxTotalMemoryBytes < call.payload.length
  unchanged : (buffers.bufferMessage call).2 = 0 → (buffers.bufferMessage call).1 = buffers

/-- A call of a reachable state does what it should exactly when its message can never fit or
its eviction does not come to the topic with the empty name. The bound on the payload is
that of a `size_t`.
-/
theorem rejectsExactly_iff (positive : 0 < bufferSizePerTopic)
    (limited : 0 < maxTotalMemoryBytes)
    (reachable : Reachable bufferSizePerTopic maxTotalMemoryBytes buffers)
    (call : BufferCall) (machine : call.payload.length < 2 ^ 64)
    : buffers.RejectsExactly call
      ↔ maxTotalMemoryBytes < call.payload.length
        ∨ ¬buffers.MeetsUnnamed call.order call.payload.length := by
  have sound := reachable.sound positive
  have limit := sound.configured.limit
  obtain ⟨log, keeps⟩ := sound.windowed call.topic
  have zero
    : (buffers.bufferMessage call).2 = 0 ↔ ¬buffers.accepts call = true :=
    not_ne_iff.symm.trans
      (keeps.bufferMessage_ne_zero (by rwa [sound.configured.size])).not
  by_cases large : maxTotalMemoryBytes < call.payload.length
  · have room := sound.makeRoom_large limited call.order machine large
    have rejected : buffers.accepts call = false := by rw [accepts, room]
    refine iff_of_true ⟨?_, ?_⟩ (Or.inl large)
    · rw [zero, rejected, limit]
      simp [large]
    · intro _
      rw [bufferMessage_rejected rejected, room]
  · have accepts := sound.accepts_iff positive limited call (Nat.le_of_not_lt large)
    rw [or_iff_right large, ← accepts]
    constructor
    · intro exactly
      by_contra rejected
      exact large (limit ▸ exactly.rejects.mp (zero.mpr rejected))
    · intro accepted
      have stored : (buffers.bufferMessage call).2 ≠ 0 := fun none => zero.mp none accepted
      refine ⟨iff_of_false stored ?_, fun none => absurd none stored⟩
      rwa [limit]

/-- A message of two bytes evicts the one stored topic and is let in. -/
theorem rejectsExactly_evicting
    : ((create 2 2).afterOperations
          [.bufferMessage ⟨.asStored, 0, [98], [1]⟩]).RejectsExactly
        ⟨.asStored, 0, [97], [1, 2]⟩ := by
  have positive : 0 < 2 := by decide
  have reachable : Reachable 2 2 _ := ⟨[.bufferMessage ⟨.asStored, 0, [98], [1]⟩], rfl⟩
  have accepts := (reachable.sound positive).accepts_iff positive positive
    ⟨.asStored, 0, [97], [1, 2]⟩ (Nat.le_refl 2)
  exact (rejectsExactly_iff positive positive reachable _ (by decide)).mpr
    (Or.inr (accepts.mp (by decide +kernel)))

/-- A topic with the empty name and one named `b`, one byte each. -/
def unnamedStored : TopicMessageBuffer :=
  (create 2 2).afterOperations
    [.bufferMessage ⟨.asStored, 0, [], [1]⟩, .bufferMessage ⟨.asStored, 0, [98], [1]⟩]

/-- A message that would fit is rejected, and the topic `b` is lost. -/
theorem rejected_after_eviction
    : Reachable 2 2 unnamedStored
      ∧ (unnamedStored.bufferMessage ⟨.asStored, 0, [97], [1, 2]⟩).2 = 0
      ∧ (unnamedStored.topicBuffers.lookup [98]).isSome
      ∧ (unnamedStored.bufferMessage ⟨.asStored, 0, [97], [1, 2]⟩).1.topicBuffers.lookup [98]
        = none
      ∧ ¬unnamedStored.RejectsExactly ⟨.asStored, 0, [97], [1, 2]⟩ := by
  have rejected : (unnamedStored.bufferMessage ⟨.asStored, 0, [97], [1, 2]⟩).2 = 0 := by
    decide +kernel
  refine ⟨⟨_, rfl⟩, rejected, by decide +kernel, by decide +kernel, ?_⟩
  intro exactly
  exact absurd (exactly.rejects.mp rejected) (by decide +kernel)

end Rejection

end NexusD.Core.TopicMessageBuffer
