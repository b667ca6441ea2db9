import NexusD.Core.ReplayGaps

/-! Without a memory limit nothing is ever rejected or erased: the log behind a topic's ring
is everything published on the topic, and a replay is a suffix of it.
-/

namespace NexusD.Core.TopicMessageBuffer

/-- What the calls contribute to the log of `topic`. -/
def entriesOn (topic : ByteString) (calls : List BufferCall) : TopicLog :=
  (calls.filter (fun call => call.topic == topic)).map (fun call => ⟨call.payload, call.now⟩)

theorem entriesOn_append (topic : ByteString) (earlier later : List BufferCall)
    : entriesOn topic (earlier ++ later) = entriesOn topic earlier ++ entriesOn topic later := by
  simp only [entriesOn, List.filter_append, List.map_append]

/-- The log behind the ring of a topic with these entries; before the first entry there is
no ring.
-/
def logOf (entries : TopicLog) : Option TopicLog :=
  if entries = [] then none else some entries

@[simp]
theorem getD_logOf (entries : TopicLog) : (logOf entries).getD [] = entries := by
  unfold logOf
  split
  · rename_i empty
    exact empty.symm
  · rfl

theorem logOf_concat (entries : TopicLog) (entry : LogEntry)
    : logOf (entries ++ [entry]) = some (entries ++ [entry]) := by
  simp [logOf]

/-- Everything published on `topic` is `entries`, and memory is not limited. -/
structure Holds (buffers : TopicMessageBuffer) (topic : ByteString) (entries : TopicLog)
    : Prop where
  keeps : buffers.Keeps topic (logOf entries)
  unlimited : buffers.maxTotalMemoryBytes = 0
  positive : 0 < buffers.bufferSizePerTopic

theorem holds_create {bufferSizePerTopic : Nat} (positive : 0 < bufferSizePerTopic)
    (topic : ByteString)
    : (create bufferSizePerTopic 0).Holds topic [] :=
  ⟨keeps_create bufferSizePerTopic 0 topic, rfl, positive⟩

section Unlimited

variable {buffers : TopicMessageBuffer} (unlimited : buffers.maxTotalMemoryBytes = 0)
include unlimited

theorem accepts_unlimited (call : BufferCall) : buffers.accepts call = true := by
  rw [accepts, makeRoom_unlimited unlimited]

theorem erases_unlimited (call : BufferCall) (topic : ByteString)
    : buffers.erases call topic = false := by
  rw [erases, makeRoom_unlimited unlimited]
  cases buffers.topicBuffers.lookup topic <;> rfl

end Unlimited

namespace Holds

variable {buffers : TopicMessageBuffer} {topic : ByteString} {entries : TopicLog}

/-- One call appends its entry, if it is on the topic. -/
theorem bufferMessage (holds : buffers.Holds topic entries) (call : BufferCall)
    : (buffers.bufferMessage call).1.Holds topic (entries ++ entriesOn topic [call]) := by
  have accepted := accepts_unlimited holds.unlimited call
  refine ⟨?_, ?_, by simpa using holds.positive⟩
  · have next := holds.keeps.bufferMessage holds.positive call
    simp only [nextLog, keptLog, erases_unlimited holds.unlimited, accepted, and_true] at next
    by_cases here : call.topic = topic
    · simpa [here, entriesOn, logOf_concat] using next
    · simpa [here, entriesOn] using next
  · rw [bufferMessage_accepted accepted, makeRoom_unlimited holds.unlimited]
    exact holds.unlimited

/-- The call's message is numbered by its place in the log. -/
theorem bufferMessage_seq {call : BufferCall} (holds : buffers.Holds call.topic entries)
    : (buffers.bufferMessage call).2 = entries.length + 1 := by
  rw [holds.keeps.bufferMessage_seq holds.positive (accepts_unlimited holds.unlimited call)]
  simp [keptLog, erases_unlimited holds.unlimited]

theorem afterCalls (holds : buffers.Holds topic entries) (calls : List BufferCall)
    : (buffers.afterCalls calls).Holds topic (entries ++ entriesOn topic calls) := by
  induction calls generalizing buffers entries with
  | nil => simpa [entriesOn, TopicMessageBuffer.afterCalls] using holds
  | cons call rest ih =>
      rw [← List.singleton_append, entriesOn_append, ← List.append_assoc]
      exact ih (holds.bufferMessage call)

/-- A run accepts exactly the entries its calls contribute. -/
theorem acceptedOn_eq (holds : buffers.Holds topic entries) (calls : List BufferCall)
    : acceptedOn topic buffers calls
      = (TopicLog.numbered topic (entries ++ entriesOn topic calls)).drop entries.length := by
  induction calls generalizing buffers entries with
  | nil => simp [acceptedOn, entriesOn]
  | cons call rest ih =>
      have accepted := accepts_unlimited holds.unlimited call
      have next := ih (holds.bufferMessage call)
      rw [acceptedOn_cons holds.keeps holds.positive, next, keptLog,
        erases_unlimited holds.unlimited, accepted]
      by_cases here : call.topic = topic
      · rw [drop_numbered_append, drop_numbered_append]
        simp [here, entriesOn]
      · simp [here, entriesOn]

/-- Asked from the start, the buffer answers with the latest message only. -/
theorem replay_from_start (holds : buffers.Holds topic entries)
    : buffers.getMessagesForReplay topic 0
      = ⟨(entries.numbered topic).getLast?.toList, false, 0⟩ := by
  have keeps := holds.keeps
  by_cases empty : entries = []
  · subst entries
    rw [getMessagesForReplay_none keeps]
    rfl
  · rw [logOf, if_neg empty] at keeps
    exact getMessagesForReplay_zero keeps holds.positive

/-- Asked from a position inside the log, the buffer answers with what it still has above the
position, and a reported gap counts the rest.
-/
theorem replay_from (holds : buffers.Holds topic entries) {position : Nat}
    (nonzero : position ≠ 0) (inside : position ≤ entries.length)
    : (buffers.getMessagesForReplay topic position).messages
        = (entries.numbered topic).drop
            (max position (entries.length - buffers.bufferSizePerTopic))
      ∧ (if (buffers.getMessagesForReplay topic position).gapDetected then
          (buffers.getMessagesForReplay topic position).missedCount
        else 0)
        = entries.length - buffers.bufferSizePerTopic - position := by
  have keeps := holds.keeps
  have nonempty : entries ≠ [] := by
    intro same
    subst same
    exact nonzero (Nat.le_zero.mp inside)
  rw [logOf, if_neg nonempty] at keeps
  rcases Nat.eq_or_lt_of_le inside with reached | behind
  · rw [getMessagesForReplay_upToDate keeps nonzero reached.ge]
    refine ⟨?_, ?_⟩
    · refine (List.drop_eq_nil_of_le ?_).symm
      rw [length_numbered, ← reached]
      exact Nat.le_max_left _ _
    · simp only [Bool.false_eq_true, if_false]
      omega
  · rw [getMessagesForReplay_behind keeps holds.positive nonzero behind]
    refine ⟨rfl, ?_⟩
    simp only [decide_eq_true_eq]
    split
    · rfl
    · omega

end Holds

end NexusD.Core.TopicMessageBuffer
