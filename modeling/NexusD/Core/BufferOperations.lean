import NexusD.Core.ReplayGaps

/-! Runs of all the operations that change the message buffer: `bufferMessage`, `clearTopic`
and `clear`. At every moment each topic's ring is the window of a log.
-/

namespace NexusD.Core

inductive BufferOperation where
  | bufferMessage (call : BufferCall)
  | clearTopic (topic : ByteString)
  | clear

namespace TopicMessageBuffer

def clear (buffers : TopicMessageBuffer) : TopicMessageBuffer :=
  { buffers with topicBuffers := ∅, currentTotalBytes := 0 }

/-- The last number given out on the topic, `0` if it has no buffer. -/
def getCurrentSequence (buffers : TopicMessageBuffer) (topic : ByteString) : Nat :=
  match buffers.topicBuffers.lookup topic with
  | none => 0
  | some buffer => buffer.currentSequence

def isSequenceAvailable (buffers : TopicMessageBuffer) (topic : ByteString) (sequence : Nat)
    : Bool :=
  match buffers.topicBuffers.lookup topic with
  | none => false
  | some buffer => buffer.hasSequence sequence

def operate (buffers : TopicMessageBuffer) : BufferOperation → TopicMessageBuffer
  | .bufferMessage call => (buffers.bufferMessage call).1
  | .clearTopic topic => buffers.clearTopic topic
  | .clear => buffers.clear

def afterOperations (buffers : TopicMessageBuffer) (operations : List BufferOperation)
    : TopicMessageBuffer :=
  operations.foldl operate buffers

/-- The buffer was created with these limits and has been operated on. -/
def Reachable (bufferSizePerTopic maxTotalMemoryBytes : Nat) (buffers : TopicMessageBuffer)
    : Prop :=
  ∃ operations,
    (create bufferSizePerTopic maxTotalMemoryBytes).afterOperations operations = buffers

/-- What holds at creation and is kept by every operation holds in every reachable state. -/
theorem Reachable.induction {bufferSizePerTopic maxTotalMemoryBytes : Nat}
    {buffers : TopicMessageBuffer} {motive : TopicMessageBuffer → Prop}
    (reachable : Reachable bufferSizePerTopic maxTotalMemoryBytes buffers)
    (initial : motive (create bufferSizePerTopic maxTotalMemoryBytes))
    (next : ∀ current operation, motive current → motive (current.operate operation))
    : motive buffers := by
  obtain ⟨operations, rfl⟩ := reachable
  induction operations using List.reverseRecOn with
  | nil => exact initial
  | append_singleton earlier operation ih =>
      rw [afterOperations, List.foldl_append]
      exact next _ operation ih

/-- The two limits the buffer was created with. -/
structure Configured (bufferSizePerTopic maxTotalMemoryBytes : Nat)
    (buffers : TopicMessageBuffer)
    : Prop where
  size : buffers.bufferSizePerTopic = bufferSizePerTopic
  limit : buffers.maxTotalMemoryBytes = maxTotalMemoryBytes

theorem bufferMessage_limit (buffers : TopicMessageBuffer) (call : BufferCall)
    : (buffers.bufferMessage call).1.maxTotalMemoryBytes = buffers.maxTotalMemoryBytes := by
  have erased := makeRoom_erasedFrom buffers call.order call.payload.length
  cases verdict : buffers.accepts call with
  | true =>
      rw [bufferMessage_accepted verdict]
      exact erased.limits
  | false =>
      rw [bufferMessage_rejected verdict]
      exact erased.limits

theorem Configured.operate {bufferSizePerTopic maxTotalMemoryBytes : Nat}
    {buffers : TopicMessageBuffer}
    (configured : Configured bufferSizePerTopic maxTotalMemoryBytes buffers)
    (operation : BufferOperation)
    : Configured bufferSizePerTopic maxTotalMemoryBytes (buffers.operate operation) := by
  cases operation with
  | bufferMessage call =>
      exact ⟨(bufferMessage_sizes buffers call).trans configured.size,
        (bufferMessage_limit buffers call).trans configured.limit⟩
  | clearTopic topic =>
      have erased := clearTopic_erasedFrom buffers topic
      exact ⟨erased.sizes.trans configured.size, erased.limits.trans configured.limit⟩
  | clear => exact ⟨configured.size, configured.limit⟩

/-- Every ring is the window of some log. -/
def Windowed (buffers : TopicMessageBuffer) : Prop :=
  ∀ topic, ∃ log, buffers.Keeps topic log

/-- Erasing topics ends their logs and leaves the others. -/
theorem Windowed.erasedFrom {before after : TopicMessageBuffer} (windowed : before.Windowed)
    (erased : ErasedFrom before after)
    : after.Windowed := by
  intro topic
  obtain ⟨log, keeps⟩ := windowed topic
  rcases erased.lookups topic with same | gone
  · refine ⟨log, ?_, keeps.nonempty⟩
    rw [same, erased.sizes]
    exact keeps.window
  · exact ⟨none, gone, by simp⟩

theorem Windowed.operate {buffers : TopicMessageBuffer} (windowed : buffers.Windowed)
    (positive : 0 < buffers.bufferSizePerTopic) (operation : BufferOperation)
    : (buffers.operate operation).Windowed := by
  cases operation with
  | bufferMessage call =>
      intro topic
      obtain ⟨log, keeps⟩ := windowed topic
      exact ⟨_, keeps.bufferMessage positive call⟩
  | clearTopic topic => exact windowed.erasedFrom (clearTopic_erasedFrom buffers topic)
  | clear => exact fun topic => ⟨none, rfl, by simp⟩

section Reachable

variable {bufferSizePerTopic maxTotalMemoryBytes : Nat} {buffers : TopicMessageBuffer}

theorem Reachable.configured
    (reachable : Reachable bufferSizePerTopic maxTotalMemoryBytes buffers)
    : Configured bufferSizePerTopic maxTotalMemoryBytes buffers :=
  reachable.induction ⟨rfl, rfl⟩ (fun _ operation configured => configured.operate operation)

theorem Reachable.windowed (positive : 0 < bufferSizePerTopic)
    (reachable : Reachable bufferSizePerTopic maxTotalMemoryBytes buffers)
    : buffers.Windowed := by
  refine (reachable.induction
    (motive := fun current =>
      Configured bufferSizePerTopic maxTotalMemoryBytes current ∧ current.Windowed)
    ⟨⟨rfl, rfl⟩, fun topic => ⟨none, keeps_create _ _ topic⟩⟩ ?_).2
  intro current operation both
  refine ⟨both.1.operate operation, both.2.operate ?_ operation⟩
  rwa [both.1.size]

/-- A stored ring is the window of a log that is not empty. -/
theorem Reachable.stored (positive : 0 < bufferSizePerTopic)
    (reachable : Reachable bufferSizePerTopic maxTotalMemoryBytes buffers)
    {topic : ByteString} {buffer : TopicBuffer}
    (found : buffers.topicBuffers.lookup topic = some buffer)
    : ∃ log : TopicLog,
        log ≠ []
        ∧ buffers.Keeps topic (some log)
        ∧ buffer = TopicBuffer.ofLog bufferSizePerTopic topic log := by
  obtain ⟨log, keeps⟩ := reachable.windowed positive topic
  have window := keeps.window
  rw [found, reachable.configured.size] at window
  obtain ⟨entries, rfl, is⟩ := Option.map_eq_some_iff.mp window.symm
  exact ⟨entries, fun empty => keeps.nonempty (congrArg some empty), keeps, is.symm⟩

end Reachable

end TopicMessageBuffer

end NexusD.Core
