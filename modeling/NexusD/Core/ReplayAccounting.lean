import NexusD.Core.BufferOperations

/-! The numbers in an answer of `getMessagesForReplay`.
What is replayed and what is counted as missed make up everything after the client's position.
The gap flag is set one position too early: a client right before the oldest message of the
ring is told about a gap in which nothing is missing.
-/

namespace NexusD.Core

theorem numbers_numbered (topic : ByteString) (log : TopicLog)
    : (log.numbered topic).map BufferedMessage.sequenceNumber = List.range' 1 log.length := by
  rw [TopicLog.numbered, List.map_map, ← List.zipIdx_map_snd 1 log]
  rfl

/-- The messages run from the position, or from the oldest there is, up to the current number,
and with the missed ones they are all there is after the position.
-/
structure ReplayResult.Accounts (result : ReplayResult) (buffer : TopicBuffer)
    (position : Nat)
    : Prop where
  inside : max (position + 1) buffer.oldestSequence ≤ buffer.currentSequence
  numbers
    : result.messages.map BufferedMessage.sequenceNumber
      = List.range' (max (position + 1) buffer.oldestSequence)
          (buffer.currentSequence + 1 - max (position + 1) buffer.oldestSequence)
  complete
    : result.messages.length + result.missedCount = buffer.currentSequence - position

/-- The flag, the count and the messages say the same about whether something is missing. -/
structure ReplayResult.ReportsExactly (result : ReplayResult) (position current : Nat)
    : Prop where
  flag : result.gapDetected = true ↔ 0 < result.missedCount
  count
    : 0 < result.missedCount
      ↔ ∃ seq,
          position < seq
          ∧ seq ≤ current
          ∧ ∀ message ∈ result.messages, message.sequenceNumber ≠ seq

namespace ReplayResult.Accounts

variable {result : ReplayResult} {buffer : TopicBuffer} {position : Nat}

theorem replayed_iff (accounts : result.Accounts buffer position) (seq : Nat)
    : (∃ message ∈ result.messages, message.sequenceNumber = seq)
      ↔ max (position + 1) buffer.oldestSequence ≤ seq ∧ seq ≤ buffer.currentSequence := by
  have inside := accounts.inside
  rw [← List.mem_map, accounts.numbers, List.mem_range'_1]
  omega

theorem missed_pos_iff (accounts : result.Accounts buffer position)
    : 0 < result.missedCount ↔ position + 1 < buffer.oldestSequence := by
  have inside := accounts.inside
  have complete := accounts.complete
  have count := congrArg List.length accounts.numbers
  rw [List.length_map, List.length_range'] at count
  omega

/-- The missed messages are the numbers between the position and the oldest message. -/
theorem missed_pos_iff_missing (accounts : result.Accounts buffer position)
    : 0 < result.missedCount
      ↔ ∃ seq,
          position < seq
          ∧ seq ≤ buffer.currentSequence
          ∧ ∀ message ∈ result.messages, message.sequenceNumber ≠ seq := by
  have inside := accounts.inside
  rw [accounts.missed_pos_iff]
  constructor
  · intro before
    refine ⟨position + 1, Nat.lt_succ_self position, by omega, ?_⟩
    intro message member same
    have replayed := (accounts.replayed_iff (position + 1)).mp ⟨message, member, same⟩
    omega
  · intro missing
    obtain ⟨seq, after, upTo, absent⟩ := missing
    by_contra reached
    obtain ⟨message, member, same⟩ := (accounts.replayed_iff seq).mpr (by omega)
    exact absent message member same

end ReplayResult.Accounts

namespace TopicMessageBuffer

variable {bufferSizePerTopic maxTotalMemoryBytes : Nat} {buffers : TopicMessageBuffer}
  {topic : ByteString} {buffer : TopicBuffer}

/-- A client behind the topic's log gets an account of all it has not seen. -/
theorem Reachable.accounts (positive : 0 < bufferSizePerTopic)
    (reachable : Reachable bufferSizePerTopic maxTotalMemoryBytes buffers)
    (found : buffers.topicBuffers.lookup topic = some buffer) {position : Nat}
    (started : 1 ≤ position) (behind : position < buffer.currentSequence)
    : (buffers.getMessagesForReplay topic position).Accounts buffer position := by
  obtain ⟨log, nonempty, keeps, rfl⟩ := reachable.stored positive found
  have size := reachable.configured.size
  rw [TopicBuffer.currentSequence_ofLog] at behind
  have oldest := TopicBuffer.oldestSequence_ofLog positive topic nonempty
  have answer :=
    getMessagesForReplay_behind keeps (by rwa [size]) (Nat.one_le_iff_ne_zero.mp started)
      behind
  rw [size] at answer
  refine ⟨?_, ?_, ?_⟩
  · rw [oldest, TopicBuffer.currentSequence_ofLog]
    omega
  · rw [answer, oldest, TopicBuffer.currentSequence_ofLog, List.map_drop, numbers_numbered,
      List.drop_range', Nat.mul_one]
    congr 1 <;> omega
  · rw [answer, TopicBuffer.currentSequence_ofLog, List.length_drop, length_numbered]
    dsimp only
    omega

/-- In every reachable state a client behind the topic's log gets an account of all it has not
seen, and a client that is not gets nothing.
-/
theorem replay_accounts (positive : 0 < bufferSizePerTopic)
    (reachable : Reachable bufferSizePerTopic maxTotalMemoryBytes buffers)
    (found : buffers.topicBuffers.lookup topic = some buffer)
    : (∀ position,
        1 ≤ position
        → position < buffer.currentSequence
        → (buffers.getMessagesForReplay topic position).Accounts buffer position)
      ∧ ∀ position,
          buffer.currentSequence ≤ position
          → buffers.getMessagesForReplay topic position = ⟨[], false, 0⟩ := by
  refine ⟨fun _ started behind => reachable.accounts positive found started behind, ?_⟩
  intro position reached
  obtain ⟨log, nonempty, keeps, rfl⟩ := reachable.stored positive found
  rw [TopicBuffer.currentSequence_ofLog] at reached
  have some := List.length_pos_iff.mpr nonempty
  exact getMessagesForReplay_upToDate keeps (by omega) reached

/-- Three messages on one topic and room for two. -/
def overfull : TopicMessageBuffer :=
  (create 2 0).afterOperations
    [
      .bufferMessage ⟨.asStored, 0, [97], [1]⟩,
      .bufferMessage ⟨.asStored, 1, [97], [2]⟩,
      .bufferMessage ⟨.asStored, 2, [97], [3]⟩
    ]

theorem replay_accounts_overfull
    : ∃ buffer,
        overfull.topicBuffers.lookup [97] = some buffer
        ∧ (overfull.getMessagesForReplay [97] 1).Accounts buffer 1 := by
  have positive : 0 < 2 := by decide
  refine ⟨_, rfl, ?_⟩
  exact (replay_accounts positive ⟨_, rfl⟩ rfl).1 1 (by decide) (by decide +kernel)

/-- In every reachable state and from every position behind the log, the gap flag tells whether
something is missing exactly if the position is not the one right before the oldest message.
-/
theorem reportsExactly_iff_not_before_oldest (positive : 0 < bufferSizePerTopic)
    (reachable : Reachable bufferSizePerTopic maxTotalMemoryBytes buffers)
    (found : buffers.topicBuffers.lookup topic = some buffer) {position : Nat}
    (started : 1 ≤ position) (behind : position < buffer.currentSequence)
    : (buffers.getMessagesForReplay topic position).ReportsExactly position
          buffer.currentSequence
      ↔ position + 1 ≠ buffer.oldestSequence := by
  have accounts := reachable.accounts positive found started behind
  have flag
    : (buffers.getMessagesForReplay topic position).gapDetected = true
      ↔ position < buffer.oldestSequence := by
    have nonzero : position ≠ 0 := Nat.one_le_iff_ne_zero.mp started
    simp only [getMessagesForReplay, found, nonzero, if_false, Nat.not_le.mpr behind,
      decide_eq_true_eq]
  constructor
  · intro exactly same
    have gap := exactly.flag.mp (flag.mpr (by omega))
    have before := accounts.missed_pos_iff.mp gap
    omega
  · intro elsewhere
    refine ⟨?_, accounts.missed_pos_iff_missing⟩
    rw [flag, accounts.missed_pos_iff]
    omega

/-- The ring of `overfull` starts at two; from one on, nothing is missing. -/
theorem reportsExactly_oldest_read
    : ∃ buffer,
        overfull.topicBuffers.lookup [97] = some buffer
        ∧ (overfull.getMessagesForReplay [97] 2).ReportsExactly 2 buffer.currentSequence := by
  have positive : 0 < 2 := by decide
  refine ⟨_, rfl, ?_⟩
  exact (reportsExactly_iff_not_before_oldest positive ⟨_, rfl⟩ rfl (by decide)
    (by decide +kernel)).mpr (by decide +kernel)

/-- The client has seen the first message, the other two are replayed, and a gap is reported
with no message missing.
-/
theorem gap_without_missing
    : (overfull.getMessagesForReplay [97] 1).gapDetected = true
      ∧ (overfull.getMessagesForReplay [97] 1).missedCount = 0
      ∧ (overfull.getMessagesForReplay [97] 1).messages.map BufferedMessage.sequenceNumber
        = [2, 3] := by
  decide +kernel

end TopicMessageBuffer

end NexusD.Core
