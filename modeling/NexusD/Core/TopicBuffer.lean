import NexusD.Core.Basic
import NexusD.Library.Window

/-! The per-topic ring buffer and the log it is a window of. -/

namespace NexusD.Core

/-- A buffered message with metadata for replay. -/
structure BufferedMessage where
  sequenceNumber : Nat
  topic : ByteString
  payload : ByteString
  timestamp : TimePoint
deriving DecidableEq, Repr

/-- Per-topic ring buffer with sequence tracking. -/
structure TopicBuffer where
  maxSize : Nat
  nextSequence : Nat
  messages : List BufferedMessage
  totalBytes : Nat
deriving DecidableEq, Repr

namespace TopicBuffer

def create (maxSize : Nat) : TopicBuffer :=
  { maxSize, nextSequence := 1, messages := [], totalBytes := 0 }

/-- Add a message; the second component is the sequence number it was given. -/
def push (buffer : TopicBuffer) (now : TimePoint) (topic payload : ByteString)
    : TopicBuffer × Nat :=
  let seq := buffer.nextSequence
  let (messages, totalBytes) :=
    if buffer.maxSize ≤ buffer.messages.length then
      -- `front()` of an empty deque is only possible for `max_size_ = 0`
      let front := (buffer.messages.head?.map (fun m => m.payload.length)).getD 0
      (buffer.messages.tail, sizeSub buffer.totalBytes front)
    else
      (buffer.messages, buffer.totalBytes)
  ({
    maxSize := buffer.maxSize
    nextSequence := buffer.nextSequence + 1
    messages := messages ++ [{ sequenceNumber := seq, topic, payload, timestamp := now }]
    totalBytes := totalBytes + payload.length
  }, seq)

def getMessagesAfter (buffer : TopicBuffer) (afterSequence : Nat) : List BufferedMessage :=
  buffer.messages.filter (fun m => decide (afterSequence < m.sequenceNumber))

def getLatest (buffer : TopicBuffer) : Option BufferedMessage := buffer.messages.getLast?

def currentSequence (buffer : TopicBuffer) : Nat := buffer.nextSequence - 1

/-- The oldest available sequence number, `0` if the ring is empty. -/
def oldestSequence (buffer : TopicBuffer) : Nat :=
  match buffer.messages.head? with
  | none => 0
  | some front => front.sequenceNumber

def hasSequence (buffer : TopicBuffer) (seq : Nat) : Bool :=
  match buffer.messages.head?, buffer.messages.getLast? with
  | some front, some back => front.sequenceNumber ≤ seq && seq ≤ back.sequenceNumber
  | _, _ => false

def size (buffer : TopicBuffer) : Nat := buffer.messages.length

end TopicBuffer

/-- What a publisher contributes to one entry of a topic. -/
structure LogEntry where
  payload : ByteString
  timestamp : TimePoint
deriving DecidableEq, Repr

/-- Everything pushed on one topic since its buffer was created, oldest first. -/
abbrev TopicLog := List LogEntry

/-- The entry with number `seq`, as the ring stores it. -/
def LogEntry.stored (topic : ByteString) (entry : LogEntry) (seq : Nat) : BufferedMessage :=
  { sequenceNumber := seq, topic, payload := entry.payload, timestamp := entry.timestamp }

/-- The log as messages numbered from one. -/
def TopicLog.numbered (topic : ByteString) (log : TopicLog) : List BufferedMessage :=
  (log.zipIdx 1).map (fun entry => entry.1.stored topic entry.2)

def payloadBytes (messages : List BufferedMessage) : Nat :=
  (messages.map (fun m => m.payload.length)).sum

/-- The ring that holds the newest of the messages pushed so far. -/
def TopicBuffer.tailOf (maxSize : Nat) (pushed : List BufferedMessage) : TopicBuffer :=
  let kept := pushed.rtake maxSize
  {
    maxSize
    nextSequence := pushed.length + 1
    messages := kept
    totalBytes := payloadBytes kept
  }

/-- The ring that holds the newest entries of `log`. -/
def TopicBuffer.ofLog (maxSize : Nat) (topic : ByteString) (log : TopicLog) : TopicBuffer :=
  .tailOf maxSize (log.numbered topic)

section Numbered

variable (topic : ByteString) (log : TopicLog)

@[simp]
theorem length_numbered : (log.numbered topic).length = log.length := by
  simp [TopicLog.numbered]

/-- A new entry gets the next number. -/
theorem numbered_concat (entry : LogEntry)
    : TopicLog.numbered topic (log ++ [entry])
      = log.numbered topic ++ [entry.stored topic (log.length + 1)] := by
  simp [TopicLog.numbered, List.zipIdx_append, Nat.add_comm]

/-- Entries of an extension are numbered after those of the log it extends. -/
theorem drop_numbered_append (more : TopicLog)
    : (TopicLog.numbered topic (log ++ more)).drop log.length
      = (more.zipIdx (log.length + 1)).map (fun entry => entry.1.stored topic entry.2) := by
  simp [TopicLog.numbered, List.zipIdx_append, Nat.add_comm]

/-- The messages above `seq` in a suffix of the numbered log are again a suffix. -/
theorem filter_drop_numbered (seq lost : Nat)
    : ((log.numbered topic).drop lost).filter (fun m => decide (seq < m.sequenceNumber))
      = (log.numbered topic).drop (max seq lost) := by
  simp only [TopicLog.numbered, ← List.map_drop, List.filter_map, Function.comp_def,
    LogEntry.stored]
  rw [Library.filter_drop_zipIdx_lt, Nat.add_sub_cancel]

end Numbered

namespace TopicBuffer

theorem create_eq_tailOf (maxSize : Nat) : create maxSize = tailOf maxSize [] := by
  simp [create, tailOf, payloadBytes]

theorem create_eq_ofLog (maxSize : Nat) (topic : ByteString)
    : create maxSize = ofLog maxSize topic [] :=
  create_eq_tailOf maxSize

/-- Pushing refines appending to what was pushed. Witness: a positive window drops its oldest
message exactly when it is full, and the byte count follows the dropped payload.
-/
theorem push_tailOf {maxSize : Nat} (positive : 0 < maxSize) (pushed : List BufferedMessage)
    (now : TimePoint) (topic payload : ByteString)
    : (tailOf maxSize pushed).push now topic payload
      = (tailOf maxSize (pushed ++ [⟨pushed.length + 1, topic, payload, now⟩]),
          pushed.length + 1) := by
  have window := Library.rtake_concat pushed
    (⟨pushed.length + 1, topic, payload, now⟩ : BufferedMessage) positive
  simp only [push, tailOf, window, List.length_append, List.length_singleton]
  by_cases full : maxSize ≤ (pushed.rtake maxSize).length
  · simp only [full, if_true, Prod.mk.injEq, and_true, TopicBuffer.mk.injEq, true_and]
    cases kept : pushed.rtake maxSize with
    | nil =>
        rw [kept, List.length_nil] at full
        exact absurd positive (Nat.not_lt.mpr full)
    | cons front rest => simp [payloadBytes, sizeSub_of_le]
  · simp only [full, if_false, Prod.mk.injEq, and_true, TopicBuffer.mk.injEq, true_and]
    simp [payloadBytes]

/-- Pushing on one topic refines appending to its log. -/
theorem push_ofLog {maxSize : Nat} (positive : 0 < maxSize) (topic : ByteString)
    (log : TopicLog) (now : TimePoint) (payload : ByteString)
    : (ofLog maxSize topic log).push now topic payload
      = (ofLog maxSize topic (log ++ [⟨payload, now⟩]), log.length + 1) := by
  rw [ofLog, push_tailOf positive, ofLog, numbered_concat,
    length_numbered]
  rfl

@[simp]
theorem currentSequence_ofLog (maxSize : Nat) (topic : ByteString) (log : TopicLog)
    : (ofLog maxSize topic log).currentSequence = log.length := by
  simp [currentSequence, ofLog, tailOf]

/-- The messages of a ring after `seq` are the log's entries above both `seq` and whatever
the ring has lost.
-/
theorem getMessagesAfter_ofLog (maxSize : Nat) (topic : ByteString) (log : TopicLog)
    (seq : Nat)
    : (ofLog maxSize topic log).getMessagesAfter seq
      = (log.numbered topic).drop (max seq (log.length - maxSize)) := by
  simp only [getMessagesAfter, ofLog, tailOf, List.rtake, length_numbered,
    filter_drop_numbered]

/-- A non-empty ring over a non-empty log starts right after the lost entries. -/
theorem oldestSequence_ofLog {maxSize : Nat} (positive : 0 < maxSize) (topic : ByteString)
    {log : TopicLog} (nonempty : log ≠ [])
    : (ofLog maxSize topic log).oldestSequence = log.length - maxSize + 1 := by
  have inside : log.length - maxSize < log.length := by
    have := List.length_pos_iff.mpr nonempty
    omega
  simp only [oldestSequence, ofLog, tailOf, List.rtake, length_numbered, List.head?_drop]
  rw [List.getElem?_eq_getElem (by simpa using inside)]
  simp [TopicLog.numbered, LogEntry.stored, Nat.add_comm]

/-- The latest message of a positive ring is the log's last entry. -/
theorem getLatest_ofLog {maxSize : Nat} (positive : 0 < maxSize) (topic : ByteString)
    (log : TopicLog)
    : (ofLog maxSize topic log).getLatest = (log.numbered topic).getLast? := by
  simp only [getLatest, ofLog, tailOf, List.rtake, List.getLast?_drop, length_numbered]
  split
  · have empty : log = [] := by
      apply List.length_eq_zero_iff.mp
      omega
    simp [empty, TopicLog.numbered]
  · rfl

end TopicBuffer

end NexusD.Core
