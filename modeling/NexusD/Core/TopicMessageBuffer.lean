import NexusD.Core.TopicBuffer
import NexusD.Library.IterationOrder
import Mathlib.Data.List.AList

/-! The message buffer of all topics: a ring per topic under one memory limit. -/

namespace NexusD.Core

open NexusD.Library

/-- `topic_buffers_` with the two configured limits and the global byte counter. -/
structure TopicMessageBuffer where
  topicBuffers : AList (fun _ : ByteString => TopicBuffer)
  bufferSizePerTopic : Nat
  maxTotalMemoryBytes : Nat
  currentTotalBytes : Nat

/-- The return value and the two out-parameters of `getMessagesForReplay`. -/
structure ReplayResult where
  messages : List BufferedMessage
  gapDetected : Bool
  missedCount : Nat
deriving DecidableEq, Repr

/-- One `bufferMessage` call: its arguments, the clock reading of its `push` and the
iteration order `evictForSpace` meets during the call.
-/
structure BufferCall where
  order : IterationOrder ByteString
  now : TimePoint
  topic : ByteString
  payload : ByteString

namespace TopicMessageBuffer

def create (bufferSizePerTopic maxTotalMemoryBytes : Nat) : TopicMessageBuffer :=
  { topicBuffers := ∅, bufferSizePerTopic, maxTotalMemoryBytes, currentTotalBytes := 0 }

/-- Erase the buffer of `topic`, if there is one, and give back its bytes. -/
def clearTopic (buffers : TopicMessageBuffer) (topic : ByteString) : TopicMessageBuffer :=
  match buffers.topicBuffers.lookup topic with
  | none => buffers
  | some buffer =>
      { buffers with
        topicBuffers := buffers.topicBuffers.erase topic
        currentTotalBytes := sizeSub buffers.currentTotalBytes buffer.totalBytes }

/-- The first topic of the traversal that holds a message, the empty string if none does.
Despite its name in the source it is not the oldest one.
-/
def oldestTopic (buffers : TopicMessageBuffer) (order : IterationOrder ByteString)
    : ByteString :=
  let holdsMessage (topic : ByteString) : Bool :=
    match buffers.topicBuffers.lookup topic with
    | some buffer => 0 < buffer.size
    | none => false
  ((order.visit buffers.topicBuffers.keys).find? holdsMessage).getD []

/-- The `while` loop of `evictForSpace`; `false` is its early exit. A round erases one
topic, so the number of stored topics bounds the rounds.
-/
def evictLoop (order : IterationOrder ByteString) (target : Nat)
    : Nat → TopicMessageBuffer → TopicMessageBuffer × Bool
  | 0, buffers => (buffers, true)
  | fuel + 1, buffers =>
      if target < buffers.currentTotalBytes && !buffers.topicBuffers.keys.isEmpty then
        let oldest := buffers.oldestTopic order
        -- a stored topic with an empty name is taken for "nothing left to evict"
        if oldest.isEmpty then (buffers, false)
        else evictLoop order target fuel (buffers.clearTopic oldest)
      else
        (buffers, true)

def evictForSpace (buffers : TopicMessageBuffer) (order : IterationOrder ByteString)
    (neededBytes : Nat)
    : TopicMessageBuffer × Bool :=
  if buffers.maxTotalMemoryBytes = 0 then
    (buffers, true)
  else
    let target := sizeSub buffers.maxTotalMemoryBytes neededBytes
    match evictLoop order target buffers.topicBuffers.keys.length buffers with
    | (evicted, false) => (evicted, false)
    | (evicted, true) =>
        (evicted,
          decide (evicted.currentTotalBytes + neededBytes ≤ evicted.maxTotalMemoryBytes))

/-- The memory check at the head of `bufferMessage`; `false` rejects the message. -/
def makeRoom (buffers : TopicMessageBuffer) (order : IterationOrder ByteString)
    (neededBytes : Nat)
    : TopicMessageBuffer × Bool :=
  if 0 < buffers.maxTotalMemoryBytes
      && buffers.maxTotalMemoryBytes < buffers.currentTotalBytes + neededBytes then
    buffers.evictForSpace order neededBytes
  else
    (buffers, true)

/-- Get or create the topic's buffer, push, and move the global counter by the difference
of the buffer's byte counts.
-/
def store (buffers : TopicMessageBuffer) (now : TimePoint) (topic payload : ByteString)
    : TopicMessageBuffer × Nat :=
  let buffer :=
    (buffers.topicBuffers.lookup topic).getD (TopicBuffer.create buffers.bufferSizePerTopic)
  let oldBytes := buffer.totalBytes
  let (pushed, seq) := buffer.push now topic payload
  ({ buffers with
      topicBuffers := buffers.topicBuffers.insert topic pushed
      currentTotalBytes := sizeSub buffers.currentTotalBytes oldBytes + pushed.totalBytes },
    seq)

/-- Buffer a message; the second component is its sequence number, `0` if it was rejected.
-/
def bufferMessage (buffers : TopicMessageBuffer) (call : BufferCall)
    : TopicMessageBuffer × Nat :=
  match buffers.makeRoom call.order call.payload.length with
  | (room, false) => (room, 0)
  | (room, true) => room.store call.now call.topic call.payload

def getMessagesForReplay (buffers : TopicMessageBuffer) (topic : ByteString)
    (afterSequence : Nat)
    : ReplayResult :=
  match buffers.topicBuffers.lookup topic with
  | none => { messages := [], gapDetected := false, missedCount := 0 }
  | some buffer =>
      if afterSequence = 0 then
        { messages := buffer.getLatest.toList, gapDetected := false, missedCount := 0 }
      else if buffer.currentSequence ≤ afterSequence then
        { messages := [], gapDetected := false, missedCount := 0 }
      else
        let oldestAvailable := buffer.oldestSequence
        {
          messages := buffer.getMessagesAfter afterSequence
          gapDetected := decide (afterSequence < oldestAvailable)
          missedCount :=
            if afterSequence < oldestAvailable then oldestAvailable - afterSequence - 1 else 0
        }

def getRetainedMessage (buffers : TopicMessageBuffer) (topic : ByteString)
    : Option BufferedMessage :=
  (buffers.topicBuffers.lookup topic).bind TopicBuffer.getLatest

/-- `after` came from `before` by erasing whole topics: nothing else about a topic changed.
-/
structure ErasedFrom (before after : TopicMessageBuffer) : Prop where
  sizes : after.bufferSizePerTopic = before.bufferSizePerTopic
  limits : after.maxTotalMemoryBytes = before.maxTotalMemoryBytes
  lookups
    : ∀ topic,
        after.topicBuffers.lookup topic = before.topicBuffers.lookup topic
        ∨ after.topicBuffers.lookup topic = none

theorem ErasedFrom.refl (buffers : TopicMessageBuffer) : ErasedFrom buffers buffers :=
  ⟨rfl, rfl, fun _ => Or.inl rfl⟩

theorem ErasedFrom.trans {first second third : TopicMessageBuffer}
    (earlier : ErasedFrom first second) (later : ErasedFrom second third)
    : ErasedFrom first third := by
  refine ⟨later.sizes.trans earlier.sizes, later.limits.trans earlier.limits, ?_⟩
  intro topic
  rcases later.lookups topic with same | gone
  · rcases earlier.lookups topic with older | gone
    · exact Or.inl (same.trans older)
    · exact Or.inr (same.trans gone)
  · exact Or.inr gone

theorem clearTopic_erasedFrom (buffers : TopicMessageBuffer) (topic : ByteString)
    : ErasedFrom buffers (buffers.clearTopic topic) := by
  unfold clearTopic
  cases buffers.topicBuffers.lookup topic with
  | none => exact .refl buffers
  | some buffer =>
      refine ⟨rfl, rfl, ?_⟩
      intro other
      by_cases same : other = topic
      · subst other
        exact Or.inr (AList.lookup_erase _ _)
      · exact Or.inl (AList.lookup_erase_ne same)

theorem evictLoop_erasedFrom (order : IterationOrder ByteString) (target fuel : Nat)
    (buffers : TopicMessageBuffer)
    : ErasedFrom buffers (evictLoop order target fuel buffers).1 := by
  induction fuel generalizing buffers with
  | zero => exact .refl buffers
  | succ fuel ih =>
      simp only [evictLoop]
      split
      · split
        · exact .refl buffers
        · exact (clearTopic_erasedFrom buffers _).trans (ih _)
      · exact .refl buffers

/-- The memory check only ever erases topics. Witness: the loop's rounds compose. -/
theorem makeRoom_erasedFrom (buffers : TopicMessageBuffer)
    (order : IterationOrder ByteString) (neededBytes : Nat)
    : ErasedFrom buffers (buffers.makeRoom order neededBytes).1 := by
  unfold makeRoom evictForSpace
  split
  · split
    · exact .refl buffers
    · have loop := evictLoop_erasedFrom order
        (sizeSub buffers.maxTotalMemoryBytes neededBytes)
        buffers.topicBuffers.keys.length buffers
      dsimp only
      split <;> simpa only [*] using loop
  · exact .refl buffers

/-- Without a memory limit there is nothing to check. -/
theorem makeRoom_unlimited {buffers : TopicMessageBuffer}
    (unlimited : buffers.maxTotalMemoryBytes = 0) (order : IterationOrder ByteString)
    (neededBytes : Nat)
    : buffers.makeRoom order neededBytes = (buffers, true) := by
  simp [makeRoom, unlimited]

theorem clearTopic_keys_length {buffers : TopicMessageBuffer} {topic : ByteString}
    (stored : topic ∈ buffers.topicBuffers.keys)
    : (buffers.clearTopic topic).topicBuffers.keys.length + 1
      = buffers.topicBuffers.keys.length := by
  have found : (buffers.topicBuffers.lookup topic).isSome :=
    AList.lookup_isSome.mpr (AList.mem_keys.mpr stored)
  obtain ⟨buffer, eq⟩ := Option.isSome_iff_exists.mp found
  have shorter := @List.length_erase_of_mem _ instBEqOfDecidableEq _ topic _ stored
  have positive := List.length_pos_of_mem stored
  simp only [clearTopic, eq, AList.keys_erase, shorter]
  omega

theorem oldestTopic_mem {buffers : TopicMessageBuffer} {order : IterationOrder ByteString}
    (named : (buffers.oldestTopic order).isEmpty = false)
    : buffers.oldestTopic order ∈ buffers.topicBuffers.keys := by
  simp only [oldestTopic] at named ⊢
  cases picked
    : (order.visit buffers.topicBuffers.keys).find?
        (fun topic =>
          match buffers.topicBuffers.lookup topic with
          | some buffer => decide (0 < buffer.size)
          | none => false) with
  | none => simp [picked] at named
  | some topic =>
      simpa [picked] using order.mem_visit.mp (List.mem_of_find?_eq_some picked)

/-- One round per stored topic is enough: further rounds change nothing. Witness: each
round that continues erases a stored topic, and without topics the loop stops.
-/
theorem evictLoop_fuel (order : IterationOrder ByteString) (target extra : Nat)
    (buffers : TopicMessageBuffer)
    : evictLoop order target (buffers.topicBuffers.keys.length + extra) buffers
      = evictLoop order target buffers.topicBuffers.keys.length buffers := by
  induction rounds : buffers.topicBuffers.keys.length generalizing buffers with
  | zero =>
      cases extra with
      | zero => rfl
      | succ extra =>
          have none : buffers.topicBuffers.keys = [] := List.length_eq_zero_iff.mp rounds
          simp [evictLoop, none]
  | succ rounds ih =>
      rw [Nat.add_right_comm]
      simp only [evictLoop]
      split
      · split
        · rfl
        · rename_i named
          have stored := oldestTopic_mem (Bool.eq_false_iff.mpr named)
          have fewer := clearTopic_keys_length stored
          exact ih _ (by omega)
      · rfl

end TopicMessageBuffer

end NexusD.Core
