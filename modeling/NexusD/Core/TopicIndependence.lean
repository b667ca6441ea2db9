import NexusD.Core.BufferOperations

/-! Topics do not influence each other while memory is unlimited.
What a topic's ring holds, timestamps aside, is a function of the operations on the topic
itself, so two runs that agree on these answer every query about it alike.
-/

namespace NexusD.Core

/-- The message without its clock reading. -/
def BufferedMessage.untimed (message : BufferedMessage) : BufferedMessage :=
  { message with timestamp := 0 }

def ReplayResult.untimed (result : ReplayResult) : ReplayResult :=
  { result with messages := result.messages.map BufferedMessage.untimed }

namespace TopicBuffer

def untimed (buffer : TopicBuffer) : TopicBuffer :=
  { buffer with messages := buffer.messages.map BufferedMessage.untimed }

/-- Nothing that `push` does depends on a timestamp. -/
theorem push_untimed (buffer : TopicBuffer) (now : TimePoint) (topic payload : ByteString)
    : (buffer.push now topic payload).1.untimed
      = (buffer.untimed.push 0 topic payload).1 := by
  have front
    : (buffer.untimed.messages.head?.map (fun m => m.payload.length))
      = buffer.messages.head?.map (fun m => m.payload.length) := by
    rw [untimed, List.head?_map, Option.map_map]
    rfl
  have length : buffer.untimed.messages.length = buffer.messages.length := List.length_map _
  simp only [push, front, length]
  by_cases full : buffer.maxSize ≤ buffer.messages.length
  · simp [untimed, full, BufferedMessage.untimed]
  · simp [untimed, full, BufferedMessage.untimed]

theorem getLatest_untimed (buffer : TopicBuffer)
    : buffer.untimed.getLatest = buffer.getLatest.map BufferedMessage.untimed :=
  List.getLast?_map

theorem getMessagesAfter_untimed (buffer : TopicBuffer) (afterSequence : Nat)
    : buffer.untimed.getMessagesAfter afterSequence
      = (buffer.getMessagesAfter afterSequence).map BufferedMessage.untimed :=
  List.filter_map

theorem currentSequence_untimed (buffer : TopicBuffer)
    : buffer.untimed.currentSequence = buffer.currentSequence :=
  rfl

theorem oldestSequence_untimed (buffer : TopicBuffer)
    : buffer.untimed.oldestSequence = buffer.oldestSequence := by
  simp only [oldestSequence, untimed, List.head?_map]
  cases buffer.messages.head? <;> rfl

theorem hasSequence_untimed (buffer : TopicBuffer) (seq : Nat)
    : buffer.untimed.hasSequence seq = buffer.hasSequence seq := by
  simp only [hasSequence, untimed, List.head?_map, List.getLast?_map]
  cases buffer.messages.head? <;> cases buffer.messages.getLast? <;> rfl

end TopicBuffer

-----------------------------------------------------------------------------------------
-- The operations as the topic sees them
-----------------------------------------------------------------------------------------

/-- An operation that affects one given topic, without clock readings and hash orders. -/
inductive TopicOperation where
  | bufferMessage (payload : ByteString)
  | clearTopic
  | clear
deriving DecidableEq, Repr

/-- What the operation is to the topic: nothing if it is on another topic. -/
def BufferOperation.onTopic (topic : ByteString) : BufferOperation → Option TopicOperation
  | .bufferMessage call =>
      if call.topic = topic then some (.bufferMessage call.payload) else none
  | .clearTopic cleared => if cleared = topic then some .clearTopic else none
  | .clear => some .clear

/-- The topic's ring after the operation and the number it returned, as if there were no other
topic.
-/
def TopicOperation.alone (bufferSizePerTopic : Nat) (topic : ByteString)
    (ring : Option TopicBuffer)
    : TopicOperation → Option TopicBuffer × Option Nat
  | .bufferMessage payload =>
      let (pushed, seq) := (ring.getD (.create bufferSizePerTopic)).push 0 topic payload
      (some pushed, some seq)
  | .clearTopic => (none, none)
  | .clear => (none, none)

/-- The numbers a run of the topic's own operations returns. -/
def TopicOperation.numbers (bufferSizePerTopic : Nat) (topic : ByteString)
    : Option TopicBuffer → List TopicOperation → List Nat
  | _, [] => []
  | ring, operation :: rest =>
      let (next, returned) := operation.alone bufferSizePerTopic topic ring
      returned.toList ++ numbers bufferSizePerTopic topic next rest

namespace TopicMessageBuffer

/-- The topic's ring without timestamps. -/
def ringOf (buffers : TopicMessageBuffer) (topic : ByteString) : Option TopicBuffer :=
  (buffers.topicBuffers.lookup topic).map TopicBuffer.untimed

/-- The number the operation returns, if it buffers a message on the topic. -/
def numberOn (buffers : TopicMessageBuffer) (topic : ByteString)
    : BufferOperation → Option Nat
  | .bufferMessage call =>
      if call.topic = topic then some (buffers.bufferMessage call).2 else none
  | .clearTopic _ => none
  | .clear => none

/-- The numbers `bufferMessage` returns on the topic in the course of the run. -/
def numbersOn (topic : ByteString) : TopicMessageBuffer → List BufferOperation → List Nat
  | _, [] => []
  | buffers, operation :: rest =>
      (buffers.numberOn topic operation).toList
        ++ (buffers.operate operation).numbersOn topic rest

section Steps

variable {bufferSizePerTopic : Nat} {buffers : TopicMessageBuffer}

theorem ringOf_store_same (buffers : TopicMessageBuffer) (now : TimePoint)
    (topic payload : ByteString)
    : (buffers.store now topic payload).1.ringOf topic
        = some (((buffers.ringOf topic).getD (.create buffers.bufferSizePerTopic)).push 0 topic
            payload).1
      ∧ (buffers.store now topic payload).2
        = (((buffers.ringOf topic).getD (.create buffers.bufferSizePerTopic)).push 0 topic
            payload).2 := by
  have ring
    : (buffers.ringOf topic).getD (.create buffers.bufferSizePerTopic)
      = ((buffers.topicBuffers.lookup topic).getD
          (.create buffers.bufferSizePerTopic)).untimed := by
    rw [ringOf]
    cases buffers.topicBuffers.lookup topic <;> rfl
  rw [ring, ← TopicBuffer.push_untimed _ now]
  refine ⟨?_, rfl⟩
  simp only [store, ringOf, AList.lookup_insert, Option.map_some]

theorem ringOf_store_other (buffers : TopicMessageBuffer) (now : TimePoint)
    {topic other : ByteString} (payload : ByteString) (differs : other ≠ topic)
    : (buffers.store now other payload).1.ringOf topic = buffers.ringOf topic := by
  simp only [store, ringOf, AList.lookup_insert_ne differs.symm]

theorem ringOf_clearTopic (buffers : TopicMessageBuffer) (topic cleared : ByteString)
    : (buffers.clearTopic cleared).ringOf topic
      = if cleared = topic then none else buffers.ringOf topic := by
  by_cases same : cleared = topic
  · subst topic
    rw [if_pos rfl, clearTopic]
    cases stored : buffers.topicBuffers.lookup cleared with
    | none => exact congrArg _ stored
    | some buffer => exact congrArg _ (AList.lookup_erase cleared _)
  · rw [if_neg same, clearTopic]
    cases buffers.topicBuffers.lookup cleared with
    | none => rfl
    | some buffer => exact congrArg _ (AList.lookup_erase_ne (Ne.symm same))

theorem Configured.bufferMessage_eq (configured : Configured bufferSizePerTopic 0 buffers)
    (call : BufferCall)
    : buffers.bufferMessage call = buffers.store call.now call.topic call.payload := by
  rw [bufferMessage, makeRoom_unlimited configured.limit]

/-- An operation on another topic leaves the topic's ring alone. -/
theorem Configured.operate_other (configured : Configured bufferSizePerTopic 0 buffers)
    {topic : ByteString} {operation : BufferOperation}
    (other : operation.onTopic topic = none)
    : (buffers.operate operation).ringOf topic = buffers.ringOf topic
      ∧ buffers.numberOn topic operation = none := by
  cases operation with
  | bufferMessage call =>
      have differs : call.topic ≠ topic := by simpa [BufferOperation.onTopic] using other
      refine ⟨?_, if_neg differs⟩
      rw [TopicMessageBuffer.operate, configured.bufferMessage_eq]
      exact ringOf_store_other buffers call.now call.payload differs
  | clearTopic cleared =>
      have differs : cleared ≠ topic := by simpa [BufferOperation.onTopic] using other
      exact ⟨(ringOf_clearTopic buffers topic cleared).trans (if_neg differs), rfl⟩
  | clear => cases other

/-- An operation on the topic does what it would do without the other topics. -/
theorem Configured.operate_own (configured : Configured bufferSizePerTopic 0 buffers)
    {topic : ByteString} {operation : BufferOperation} {own : TopicOperation}
    (affects : operation.onTopic topic = some own)
    : (buffers.operate operation).ringOf topic
        = (own.alone bufferSizePerTopic topic (buffers.ringOf topic)).1
      ∧ buffers.numberOn topic operation
        = (own.alone bufferSizePerTopic topic (buffers.ringOf topic)).2 := by
  cases operation with
  | bufferMessage call =>
      obtain ⟨rfl, rfl⟩
        : call.topic = topic ∧ TopicOperation.bufferMessage call.payload = own := by
        simpa [BufferOperation.onTopic] using affects
      obtain ⟨ring, seq⟩ := ringOf_store_same buffers call.now call.topic call.payload
      rw [TopicMessageBuffer.operate, numberOn, if_pos rfl, configured.bufferMessage_eq, ring,
        seq, configured.size]
      exact ⟨rfl, rfl⟩
  | clearTopic cleared =>
      obtain ⟨rfl, rfl⟩ : cleared = topic ∧ TopicOperation.clearTopic = own := by
        simpa [BufferOperation.onTopic] using affects
      exact ⟨(ringOf_clearTopic buffers cleared cleared).trans (if_pos rfl), rfl⟩
  | clear =>
      cases affects
      exact ⟨rfl, rfl⟩

/-- A run shows the topic what its own operations alone would show it. -/
theorem Configured.afterOperations_ringOf
    (configured : Configured bufferSizePerTopic 0 buffers) (topic : ByteString)
    (operations : List BufferOperation)
    : (buffers.afterOperations operations).ringOf topic
        = (operations.filterMap (BufferOperation.onTopic topic)).foldl
            (fun ring operation => (operation.alone bufferSizePerTopic topic ring).1)
            (buffers.ringOf topic)
      ∧ buffers.numbersOn topic operations
        = TopicOperation.numbers bufferSizePerTopic topic (buffers.ringOf topic)
            (operations.filterMap (BufferOperation.onTopic topic)) := by
  induction operations generalizing buffers with
  | nil => exact ⟨rfl, rfl⟩
  | cons operation rest ih =>
      obtain ⟨ring, numbers⟩ := ih (configured.operate operation)
      rw [afterOperations, List.foldl_cons, ← afterOperations, ring, numbersOn, numbers]
      cases affects : operation.onTopic topic with
      | none =>
          obtain ⟨same, silent⟩ := configured.operate_other affects
          rw [List.filterMap_cons_none affects, same, silent]
          exact ⟨rfl, rfl⟩
      | some own =>
          obtain ⟨next, returned⟩ := configured.operate_own affects
          rw [List.filterMap_cons_some affects, next, returned]
          exact ⟨rfl, rfl⟩

end Steps

/-- Both buffers answer every query about the topic alike, up to timestamps. -/
structure AnswersAlike (topic : ByteString) (first second : TopicMessageBuffer) : Prop where
  replay
    : ∀ afterSequence,
        (first.getMessagesForReplay topic afterSequence).untimed
        = (second.getMessagesForReplay topic afterSequence).untimed
  retained
    : (first.getRetainedMessage topic).map BufferedMessage.untimed
      = (second.getRetainedMessage topic).map BufferedMessage.untimed
  current : first.getCurrentSequence topic = second.getCurrentSequence topic
  available
    : ∀ sequence,
        first.isSequenceAvailable topic sequence = second.isSequenceAvailable topic sequence

/-- Every query reads nothing but the topic's ring. -/
theorem answersAlike_of_ringOf {topic : ByteString} {first second : TopicMessageBuffer}
    (same : first.ringOf topic = second.ringOf topic)
    : AnswersAlike topic first second := by
  unfold ringOf at same
  cases left : first.topicBuffers.lookup topic with
  | none =>
      have right : second.topicBuffers.lookup topic = none := by
        rw [left, Option.map_none] at same
        exact Option.map_eq_none_iff.mp same.symm
      constructor <;>
        simp [getMessagesForReplay, getRetainedMessage, getCurrentSequence,
          isSequenceAvailable, left, right]
  | some ring =>
      rw [left, Option.map_some] at same
      obtain ⟨other, right, alike⟩ := Option.map_eq_some_iff.mp same.symm
      have latest := congrArg TopicBuffer.getLatest alike
      rw [TopicBuffer.getLatest_untimed, TopicBuffer.getLatest_untimed] at latest
      have current := congrArg TopicBuffer.currentSequence alike
      rw [TopicBuffer.currentSequence_untimed, TopicBuffer.currentSequence_untimed] at current
      have oldest := congrArg TopicBuffer.oldestSequence alike
      rw [TopicBuffer.oldestSequence_untimed, TopicBuffer.oldestSequence_untimed] at oldest
      refine ⟨?_, ?_, ?_, ?_⟩
      · intro afterSequence
        have later := congrArg (TopicBuffer.getMessagesAfter · afterSequence) alike
        simp only [TopicBuffer.getMessagesAfter_untimed] at later
        simp only [getMessagesForReplay, left, right, current, oldest]
        split
        · simp only [ReplayResult.untimed, ← Option.toList_map, latest]
        · split
          · rfl
          · simp only [ReplayResult.untimed, later]
      · rw [getRetainedMessage, getRetainedMessage, left, right]
        exact latest.symm
      · rw [getCurrentSequence, getCurrentSequence, left, right]
        exact current.symm
      · intro sequence
        have holds := congrArg (TopicBuffer.hasSequence · sequence) alike
        simp only [TopicBuffer.hasSequence_untimed] at holds
        rw [isSequenceAvailable, isSequenceAvailable, left, right]
        exact holds.symm

/-- With unlimited memory a topic looks the same after any two runs that agree on the
operations affecting it, and these operations returned the same numbers.
-/
theorem topics_independent (bufferSizePerTopic : Nat) (topic : ByteString)
    {first second : List BufferOperation}
    (same
      : first.filterMap (BufferOperation.onTopic topic)
        = second.filterMap (BufferOperation.onTopic topic))
    : AnswersAlike topic ((create bufferSizePerTopic 0).afterOperations first)
        ((create bufferSizePerTopic 0).afterOperations second)
      ∧ (create bufferSizePerTopic 0).numbersOn topic first
        = (create bufferSizePerTopic 0).numbersOn topic second := by
  have configured : Configured bufferSizePerTopic 0 (create bufferSizePerTopic 0) := ⟨rfl, rfl⟩
  obtain ⟨firstRing, firstNumbers⟩ := configured.afterOperations_ringOf topic first
  obtain ⟨secondRing, secondNumbers⟩ := configured.afterOperations_ringOf topic second
  constructor
  · apply answersAlike_of_ringOf
    rw [firstRing, secondRing, same]
  · rw [firstNumbers, secondNumbers, same]

/-- Two messages on `a`, with and without traffic on `b`. -/
theorem topics_independent_interleaved
    : [
          BufferOperation.bufferMessage ⟨.asStored, 5, [97], [1]⟩,
          .bufferMessage ⟨.asStored, 6, [97], [2]⟩
        ].filterMap (BufferOperation.onTopic [97])
        = [.bufferMessage [1], .bufferMessage [2]]
      ∧ AnswersAlike [97]
          ((create 2 0).afterOperations
            [
              .bufferMessage ⟨.asStored, 5, [97], [1]⟩,
              .bufferMessage ⟨.asStored, 6, [97], [2]⟩
            ])
          ((create 2 0).afterOperations
            [
              .bufferMessage ⟨.asStored, 1, [98], [7, 7]⟩,
              .bufferMessage ⟨.asStored, 2, [97], [1]⟩,
              .clearTopic [98],
              .bufferMessage ⟨.asStored, 3, [97], [2]⟩
            ]) :=
  ⟨by decide, (topics_independent 2 [97] (by decide)).1⟩

end TopicMessageBuffer

end NexusD.Core
