import NexusD.Core.BufferOperations
import NexusD.Library.ValueSum

/-! The two levels of byte counters of the message buffer.
The counters move by differences, in unsigned arithmetic. None of the differences goes below
zero, no ring is popped while it is empty and the limit is respected, as long as rings have
room for a message and no message is larger than the limit.
-/

namespace NexusD.Core

open NexusD.Library

/-- `push` takes `front()` and `pop_front()` of a ring that holds a message, and what it
subtracts is in the count.
-/
def TopicBuffer.pushInBounds (buffer : TopicBuffer) : Bool :=
  if buffer.maxSize ≤ buffer.messages.length then
    match buffer.messages with
    | [] => false
    | front :: _ => front.payload.length ≤ buffer.totalBytes
  else
    true

/-- A push adds its payload and takes nothing but the front away. -/
theorem TopicBuffer.push_totalBytes_le {buffer : TopicBuffer}
    (inBounds : buffer.pushInBounds = true) (now : TimePoint) (topic payload : ByteString)
    : (buffer.push now topic payload).1.totalBytes ≤ buffer.totalBytes + payload.length := by
  unfold pushInBounds at inBounds
  by_cases full : buffer.maxSize ≤ buffer.messages.length
  · rw [if_pos full] at inBounds
    simp only [push, if_pos full]
    cases kept : buffer.messages with
    | nil => simp [kept] at inBounds
    | cons front rest =>
        have counted : front.payload.length ≤ buffer.totalBytes := by
          simpa [kept] using inBounds
        simp only [List.head?_cons, Option.map_some, Option.getD_some, sizeSub_of_le counted]
        omega
  · simp only [push, if_neg full]
    exact Nat.le_refl _

theorem TopicBuffer.pushInBounds_ofLog {maxSize : Nat} (positive : 0 < maxSize)
    (topic : ByteString) (log : TopicLog)
    : (ofLog maxSize topic log).pushInBounds = true := by
  unfold pushInBounds
  split
  · rename_i full
    cases kept : (ofLog maxSize topic log).messages with
    | nil =>
        rw [kept] at full
        exact absurd positive (Nat.not_lt.mpr full)
    | cons front rest =>
        have bytes : (ofLog maxSize topic log).totalBytes = payloadBytes (front :: rest) :=
          congrArg payloadBytes kept
        simp [bytes, payloadBytes]
  · rfl

namespace TopicMessageBuffer

def clearTopicInBounds (buffers : TopicMessageBuffer) (topic : ByteString) : Bool :=
  match buffers.topicBuffers.lookup topic with
  | none => true
  | some buffer => buffer.totalBytes ≤ buffers.currentTotalBytes

/-- Every round of the eviction loop subtracts what is in the count. -/
def evictLoopInBounds (order : IterationOrder ByteString) (target : Nat)
    : Nat → TopicMessageBuffer → Bool
  | 0, _ => true
  | fuel + 1, buffers =>
      if target < buffers.currentTotalBytes && !buffers.topicBuffers.keys.isEmpty then
        let oldest := buffers.oldestTopic order
        oldest.isEmpty
        || (buffers.clearTopicInBounds oldest
          && evictLoopInBounds order target fuel (buffers.clearTopic oldest))
      else
        true

def evictForSpaceInBounds (buffers : TopicMessageBuffer) (order : IterationOrder ByteString)
    (neededBytes : Nat)
    : Bool :=
  buffers.maxTotalMemoryBytes = 0
  || (decide (neededBytes ≤ buffers.maxTotalMemoryBytes)
    && evictLoopInBounds order (sizeSub buffers.maxTotalMemoryBytes neededBytes)
        buffers.topicBuffers.keys.length buffers)

def makeRoomInBounds (buffers : TopicMessageBuffer) (order : IterationOrder ByteString)
    (neededBytes : Nat)
    : Bool :=
  if 0 < buffers.maxTotalMemoryBytes
      && buffers.maxTotalMemoryBytes < buffers.currentTotalBytes + neededBytes then
    buffers.evictForSpaceInBounds order neededBytes
  else
    true

def storeInBounds (buffers : TopicMessageBuffer) (topic : ByteString) : Bool :=
  let buffer :=
    (buffers.topicBuffers.lookup topic).getD (TopicBuffer.create buffers.bufferSizePerTopic)
  buffer.totalBytes ≤ buffers.currentTotalBytes && buffer.pushInBounds

def bufferMessageInBounds (buffers : TopicMessageBuffer) (call : BufferCall) : Bool :=
  buffers.makeRoomInBounds call.order call.payload.length
  && (!buffers.accepts call
    || (buffers.makeRoom call.order call.payload.length).1.storeInBounds call.topic)

/-- The operation takes no `front()` or `pop_front()` of an empty deque and makes no `size_t`
difference below zero.
-/
def operationInBounds (buffers : TopicMessageBuffer) : BufferOperation → Bool
  | .bufferMessage call => buffers.bufferMessageInBounds call
  | .clearTopic topic => buffers.clearTopicInBounds topic
  | .clear => true

def staysInBounds (buffers : TopicMessageBuffer) : List BufferOperation → Bool
  | [] => true
  | operation :: rest =>
      buffers.operationInBounds operation && (buffers.operate operation).staysInBounds rest

-----------------------------------------------------------------------------------------
-- The global counter
-----------------------------------------------------------------------------------------

/-- The global counter is the sum of the rings' counters. -/
def Balanced (buffers : TopicMessageBuffer) : Prop :=
  buffers.currentTotalBytes = valueSum TopicBuffer.totalBytes buffers.topicBuffers

namespace Balanced

variable {buffers : TopicMessageBuffer}

theorem clearTopicInBounds (balanced : buffers.Balanced) (topic : ByteString)
    : buffers.clearTopicInBounds topic = true := by
  unfold TopicMessageBuffer.clearTopicInBounds
  split
  · rfl
  · rename_i buffer found
    rw [decide_eq_true_eq, balanced]
    exact le_valueSum TopicBuffer.totalBytes found

theorem clearTopic (balanced : buffers.Balanced) (topic : ByteString)
    : (buffers.clearTopic topic).Balanced
      ∧ (buffers.clearTopic topic).currentTotalBytes ≤ buffers.currentTotalBytes := by
  have enough := balanced.clearTopicInBounds topic
  unfold TopicMessageBuffer.clearTopicInBounds at enough
  unfold TopicMessageBuffer.clearTopic
  cases found : buffers.topicBuffers.lookup topic with
  | none => exact ⟨balanced, Nat.le_refl _⟩
  | some buffer =>
      simp only [found, decide_eq_true_eq] at enough
      have total := valueSum_erase TopicBuffer.totalBytes found
      rw [Balanced] at balanced
      refine ⟨?_, ?_⟩
      · simp only [Balanced, sizeSub_of_le enough]
        omega
      · simp only [sizeSub_of_le enough]
        omega

/-- Every round of the eviction is in bounds and leaves less. -/
theorem evictLoop (balanced : buffers.Balanced) (order : IterationOrder ByteString)
    (target fuel : Nat)
    : (TopicMessageBuffer.evictLoop order target fuel buffers).1.Balanced
      ∧ (TopicMessageBuffer.evictLoop order target fuel buffers).1.currentTotalBytes
        ≤ buffers.currentTotalBytes
      ∧ evictLoopInBounds order target fuel buffers = true := by
  induction fuel generalizing buffers with
  | zero => exact ⟨balanced, Nat.le_refl _, rfl⟩
  | succ fuel ih =>
      simp only [TopicMessageBuffer.evictLoop, evictLoopInBounds]
      split
      · split
        · rename_i unnamed
          exact ⟨balanced, Nat.le_refl _, by simp [unnamed]⟩
        · have cleared := balanced.clearTopic (buffers.oldestTopic order)
          obtain ⟨still, less, inBounds⟩ := ih cleared.1
          refine ⟨still, less.trans cleared.2, ?_⟩
          simp [balanced.clearTopicInBounds, inBounds]
      · exact ⟨balanced, Nat.le_refl _, rfl⟩

/-- The memory check leaves a balanced buffer with no more in it, and enough room if it lets the
message in.
-/
theorem makeRoom (balanced : buffers.Balanced) (order : IterationOrder ByteString)
    (neededBytes : Nat)
    : (buffers.makeRoom order neededBytes).1.Balanced
      ∧ (buffers.makeRoom order neededBytes).1.currentTotalBytes ≤ buffers.currentTotalBytes
      ∧ (0 < buffers.maxTotalMemoryBytes
        → (buffers.makeRoom order neededBytes).2 = true
        → (buffers.makeRoom order neededBytes).1.currentTotalBytes + neededBytes
          ≤ buffers.maxTotalMemoryBytes) := by
  obtain ⟨still, less, _⟩ := balanced.evictLoop order
    (sizeSub buffers.maxTotalMemoryBytes neededBytes) buffers.topicBuffers.keys.length
  have limits := (evictLoop_erasedFrom order
    (sizeSub buffers.maxTotalMemoryBytes neededBytes) buffers.topicBuffers.keys.length
    buffers).limits
  unfold TopicMessageBuffer.makeRoom evictForSpace
  split
  · split
    · rename_i unlimited
      exact ⟨balanced, Nat.le_refl _, by omega⟩
    · dsimp only
      split
      · rename_i loop
        rw [loop] at still less
        exact ⟨still, less, by simp⟩
      · rename_i loop
        rw [loop] at still less limits
        refine ⟨still, less, ?_⟩
        intro _ fits
        dsimp only at limits
        simpa [limits] using fits
  · rename_i fits
    refine ⟨balanced, Nat.le_refl _, ?_⟩
    intro limited _
    simpa [limited] using fits

theorem storeInBounds_bytes (balanced : buffers.Balanced) (topic : ByteString)
    : ((buffers.topicBuffers.lookup topic).getD
        (TopicBuffer.create buffers.bufferSizePerTopic)).totalBytes
      ≤ buffers.currentTotalBytes := by
  cases found : buffers.topicBuffers.lookup topic with
  | none => exact Nat.zero_le _
  | some buffer =>
      rw [balanced]
      exact le_valueSum TopicBuffer.totalBytes found

/-- The difference of the ring's counters is the difference of the sums. -/
theorem store (balanced : buffers.Balanced) (now : TimePoint) (topic payload : ByteString)
    : (buffers.store now topic payload).1.Balanced := by
  have enough := balanced.storeInBounds_bytes topic
  simp only [Balanced, TopicMessageBuffer.store, valueSum_insert, sizeSub_of_le enough]
  rw [Balanced] at balanced
  cases found : buffers.topicBuffers.lookup topic with
  | none =>
      rw [erase_of_lookup_none found, Nat.add_comm, ← balanced]
      rfl
  | some buffer =>
      have total := valueSum_erase TopicBuffer.totalBytes found
      simp only [Option.getD_some]
      omega

theorem bufferMessage (balanced : buffers.Balanced) (call : BufferCall)
    : (buffers.bufferMessage call).1.Balanced := by
  have room := (balanced.makeRoom call.order call.payload.length).1
  cases verdict : buffers.accepts call with
  | true =>
      rw [bufferMessage_accepted verdict]
      exact room.store call.now call.topic call.payload
  | false =>
      rw [bufferMessage_rejected verdict]
      exact room

theorem operate (balanced : buffers.Balanced) (operation : BufferOperation)
    : (buffers.operate operation).Balanced := by
  cases operation with
  | bufferMessage call => exact balanced.bufferMessage call
  | clearTopic topic => exact (balanced.clearTopic topic).1
  | clear => rfl

end Balanced

theorem Windowed.pushInBounds {buffers : TopicMessageBuffer} (windowed : buffers.Windowed)
    (positive : 0 < buffers.bufferSizePerTopic) (topic : ByteString)
    : ((buffers.topicBuffers.lookup topic).getD
        (TopicBuffer.create buffers.bufferSizePerTopic)).pushInBounds
      = true := by
  obtain ⟨log, keeps⟩ := windowed topic
  rw [keeps.window]
  cases log with
  | none =>
      rw [Option.map_none, Option.getD_none, TopicBuffer.create_eq_ofLog _ topic]
      exact TopicBuffer.pushInBounds_ofLog positive topic []
  | some log => exact TopicBuffer.pushInBounds_ofLog positive topic log

/-- A stored message adds at most its own bytes. -/
theorem Balanced.store_le {buffers : TopicMessageBuffer} (balanced : buffers.Balanced)
    (windowed : buffers.Windowed) (positive : 0 < buffers.bufferSizePerTopic)
    (now : TimePoint) (topic payload : ByteString)
    : (buffers.store now topic payload).1.currentTotalBytes
      ≤ buffers.currentTotalBytes + payload.length := by
  have enough := balanced.storeInBounds_bytes topic
  have pushed :=
    TopicBuffer.push_totalBytes_le (windowed.pushInBounds positive topic) now topic payload
  simp only [TopicMessageBuffer.store, sizeSub_of_le enough]
  omega

/-- What holds of the counters and the rings in every reachable state. -/
structure Sound (bufferSizePerTopic maxTotalMemoryBytes : Nat) (buffers : TopicMessageBuffer)
    : Prop where
  configured : Configured bufferSizePerTopic maxTotalMemoryBytes buffers
  windowed : buffers.Windowed
  balanced : buffers.Balanced
  limited : 0 < maxTotalMemoryBytes → buffers.currentTotalBytes ≤ maxTotalMemoryBytes

theorem sound_create (bufferSizePerTopic maxTotalMemoryBytes : Nat)
    : Sound bufferSizePerTopic maxTotalMemoryBytes
        (create bufferSizePerTopic maxTotalMemoryBytes) where
  configured := ⟨rfl, rfl⟩
  windowed topic := ⟨none, keeps_create _ _ topic⟩
  balanced := rfl
  limited _ := Nat.zero_le _

namespace Sound

variable {bufferSizePerTopic maxTotalMemoryBytes : Nat} {buffers : TopicMessageBuffer}

theorem bufferMessage_limited
    (sound : Sound bufferSizePerTopic maxTotalMemoryBytes buffers)
    (positive : 0 < bufferSizePerTopic) (limited : 0 < maxTotalMemoryBytes)
    (call : BufferCall)
    : (buffers.bufferMessage call).1.currentTotalBytes ≤ maxTotalMemoryBytes := by
  have erased := makeRoom_erasedFrom buffers call.order call.payload.length
  obtain ⟨balanced, less, fits⟩ :=
    sound.balanced.makeRoom call.order call.payload.length
  rw [sound.configured.limit] at fits
  have before := sound.limited limited
  cases verdict : buffers.accepts call with
  | false =>
      rw [bufferMessage_rejected verdict]
      exact less.trans before
  | true =>
      rw [bufferMessage_accepted verdict]
      have added :=
        balanced.store_le (sound.windowed.erasedFrom erased)
          (by rwa [erased.sizes, sound.configured.size]) call.now call.topic call.payload
      exact added.trans (fits limited verdict)

/-- Only `bufferMessage` needs rings with room for a message. -/
theorem operate (sound : Sound bufferSizePerTopic maxTotalMemoryBytes buffers)
    {operation : BufferOperation}
    (positive : ∀ call, operation = .bufferMessage call → 0 < bufferSizePerTopic)
    : Sound bufferSizePerTopic maxTotalMemoryBytes (buffers.operate operation) := by
  have configured := sound.configured.operate operation
  have balanced := sound.balanced.operate operation
  cases operation with
  | bufferMessage call =>
      have room := positive call rfl
      refine ⟨configured, sound.windowed.operate ?_ _, balanced, ?_⟩
      · rwa [sound.configured.size]
      · intro limited
        exact sound.bufferMessage_limited room limited call
  | clearTopic topic =>
      have cleared := sound.balanced.clearTopic topic
      refine ⟨configured, sound.windowed.erasedFrom (clearTopic_erasedFrom buffers topic),
        balanced, ?_⟩
      intro limited
      exact cleared.2.trans (sound.limited limited)
  | clear => exact ⟨configured, fun topic => ⟨none, rfl, by simp⟩, balanced,
      fun _ => Nat.zero_le _⟩

end Sound

theorem Reachable.sound {bufferSizePerTopic maxTotalMemoryBytes : Nat}
    {buffers : TopicMessageBuffer} (positive : 0 < bufferSizePerTopic)
    (reachable : Reachable bufferSizePerTopic maxTotalMemoryBytes buffers)
    : Sound bufferSizePerTopic maxTotalMemoryBytes buffers :=
  reachable.induction (sound_create _ _) (fun _ _ sound => sound.operate (fun _ _ => positive))

-----------------------------------------------------------------------------------------
-- The counters, the rings and the limit
-----------------------------------------------------------------------------------------

/-- Both levels of counters count the stored payloads, and the sizes are as configured. -/
structure Accounted (bufferSizePerTopic maxTotalMemoryBytes : Nat)
    (buffers : TopicMessageBuffer)
    : Prop where
  counter
    : buffers.currentTotalBytes = valueSum TopicBuffer.totalBytes buffers.topicBuffers
  payloads
    : valueSum TopicBuffer.totalBytes buffers.topicBuffers
      = valueSum (fun buffer => payloadBytes buffer.messages) buffers.topicBuffers
  sizes
    : ∀ topic buffer,
        buffers.topicBuffers.lookup topic = some buffer
        → 1 ≤ buffer.size ∧ buffer.size ≤ bufferSizePerTopic
  limited : 0 < maxTotalMemoryBytes → buffers.currentTotalBytes ≤ maxTotalMemoryBytes

/-- In every reachable state the bytes are accounted for. -/
theorem accounted_of_reachable {bufferSizePerTopic maxTotalMemoryBytes : Nat}
    (positive : 0 < bufferSizePerTopic) {buffers : TopicMessageBuffer}
    (reachable : Reachable bufferSizePerTopic maxTotalMemoryBytes buffers)
    : Accounted bufferSizePerTopic maxTotalMemoryBytes buffers where
  counter := (reachable.sound positive).balanced
  payloads := by
    apply valueSum_congr
    intro topic buffer found
    obtain ⟨log, _, _, rfl⟩ := reachable.stored positive found
    rfl
  sizes topic buffer found := by
    obtain ⟨log, nonempty, _, rfl⟩ := reachable.stored positive found
    have some := List.length_pos_iff.mpr nonempty
    simp only [TopicBuffer.size, TopicBuffer.ofLog, TopicBuffer.tailOf, length_rtake,
      length_numbered]
    omega
  limited := (reachable.sound positive).limited

/-- Two topics under a limit of two bytes; the third message evicts one of them. -/
theorem accounted_evicted
    : ((create 2 2).afterOperations
          [
            .bufferMessage ⟨.asStored, 0, [97], [1]⟩,
            .bufferMessage ⟨.asStored, 0, [98], [1]⟩,
            .bufferMessage ⟨.asStored, 0, [], [1]⟩
          ]).currentTotalBytes
        = 2
      ∧ Accounted 2 2
          ((create 2 2).afterOperations
            [
              .bufferMessage ⟨.asStored, 0, [97], [1]⟩,
              .bufferMessage ⟨.asStored, 0, [98], [1]⟩,
              .bufferMessage ⟨.asStored, 0, [], [1]⟩
            ]) := by
  have positive : 0 < 2 := by decide
  exact ⟨by decide +kernel, accounted_of_reachable positive ⟨_, rfl⟩⟩

/-- The operation stores no message, or one that a ring and the limit have room for. -/
def FitsConfiguration (bufferSizePerTopic maxTotalMemoryBytes : Nat)
    (operation : BufferOperation)
    : Prop :=
  ∀ call,
    operation = .bufferMessage call
    → 0 < bufferSizePerTopic
      ∧ (maxTotalMemoryBytes = 0 ∨ call.payload.length ≤ maxTotalMemoryBytes)

section Bounds

variable {bufferSizePerTopic maxTotalMemoryBytes : Nat} {buffers : TopicMessageBuffer}

theorem Sound.bufferMessageInBounds
    (sound : Sound bufferSizePerTopic maxTotalMemoryBytes buffers)
    (positive : 0 < bufferSizePerTopic) {call : BufferCall}
    (fits : maxTotalMemoryBytes = 0 ∨ call.payload.length ≤ maxTotalMemoryBytes)
    : buffers.bufferMessageInBounds call = true := by
  have erased := makeRoom_erasedFrom buffers call.order call.payload.length
  have room := (sound.balanced.makeRoom call.order call.payload.length).1
  have loop := (sound.balanced.evictLoop call.order
    (sizeSub buffers.maxTotalMemoryBytes call.payload.length)
    buffers.topicBuffers.keys.length).2.2
  have stored
    : (buffers.makeRoom call.order call.payload.length).1.storeInBounds call.topic = true := by
    rw [storeInBounds, Bool.and_eq_true, decide_eq_true_eq]
    refine ⟨room.storeInBounds_bytes call.topic, ?_⟩
    exact (sound.windowed.erasedFrom erased).pushInBounds
      (by rwa [erased.sizes, sound.configured.size]) call.topic
  have evicted
    : buffers.evictForSpaceInBounds call.order call.payload.length = true := by
    rw [← sound.configured.limit] at fits
    simpa [evictForSpaceInBounds, loop] using fits
  simp only [TopicMessageBuffer.bufferMessageInBounds, stored, Bool.or_true, Bool.and_true,
    makeRoomInBounds, evicted, ite_self]

/-- A message larger than the limit makes the target wrap around. -/
theorem fits_of_bufferMessageInBounds
    (configured : Configured bufferSizePerTopic maxTotalMemoryBytes buffers)
    {call : BufferCall} (inBounds : buffers.bufferMessageInBounds call = true)
    : maxTotalMemoryBytes = 0 ∨ call.payload.length ≤ maxTotalMemoryBytes := by
  by_contra large
  rw [not_or, Nat.not_le] at large
  have checked : buffers.makeRoomInBounds call.order call.payload.length = true := by
    rw [bufferMessageInBounds, Bool.and_eq_true] at inBounds
    exact inBounds.1
  have evicts
    : (0 < buffers.maxTotalMemoryBytes
        && buffers.maxTotalMemoryBytes < buffers.currentTotalBytes + call.payload.length)
      = true := by
    rw [configured.limit, Bool.and_eq_true, decide_eq_true_eq, decide_eq_true_eq]
    omega
  rw [makeRoomInBounds, if_pos evicts, evictForSpaceInBounds, configured.limit,
    Bool.or_eq_true, Bool.and_eq_true, decide_eq_true_eq, decide_eq_true_eq] at checked
  omega

/-- The first message in a ring without room takes the front of an empty deque. -/
theorem bufferMessage_not_inBounds
    (sound : Sound 0 maxTotalMemoryBytes buffers) (empty : buffers.topicBuffers = ∅)
    (call : BufferCall)
    : buffers.bufferMessageInBounds call = false := by
  rw [Bool.eq_false_iff]
  intro inBounds
  have fits := fits_of_bufferMessageInBounds sound.configured inBounds
  have nothing : buffers.currentTotalBytes = 0 := by
    have balanced := sound.balanced
    rwa [Balanced, empty, valueSum_empty] at balanced
  have room : buffers.makeRoom call.order call.payload.length = (buffers, true) := by
    have below
      : (0 < buffers.maxTotalMemoryBytes
          && buffers.maxTotalMemoryBytes < buffers.currentTotalBytes + call.payload.length)
        = false := by
      rw [nothing, sound.configured.limit, Bool.and_eq_false_iff, decide_eq_false_iff_not,
        decide_eq_false_iff_not]
      omega
    rw [makeRoom, below]
    rfl
  rw [bufferMessageInBounds, accepts, room, storeInBounds, empty,
    sound.configured.size] at inBounds
  simp [TopicBuffer.create, TopicBuffer.pushInBounds] at inBounds

theorem Sound.operationInBounds_iff
    (sound : Sound bufferSizePerTopic maxTotalMemoryBytes buffers)
    (room : 0 < bufferSizePerTopic ∨ buffers.topicBuffers = ∅) (operation : BufferOperation)
    : buffers.operationInBounds operation = true
      ↔ FitsConfiguration bufferSizePerTopic maxTotalMemoryBytes operation := by
  cases operation with
  | bufferMessage call =>
      constructor
      · intro inBounds other same
        cases same
        refine ⟨?_, fits_of_bufferMessageInBounds sound.configured inBounds⟩
        rcases room with positive | empty
        · exact positive
        · rw [Nat.pos_iff_ne_zero]
          intro zero
          subst zero
          rw [operationInBounds, bufferMessage_not_inBounds sound empty] at inBounds
          cases inBounds
      · intro fits
        obtain ⟨positive, small⟩ := fits call rfl
        exact sound.bufferMessageInBounds positive small
  | clearTopic topic =>
      have inBounds := sound.balanced.clearTopicInBounds topic
      exact iff_of_true inBounds (fun _ same => by cases same)
  | clear => exact iff_of_true rfl (fun _ same => by cases same)

theorem Sound.staysInBounds_iff
    (sound : Sound bufferSizePerTopic maxTotalMemoryBytes buffers)
    (room : 0 < bufferSizePerTopic ∨ buffers.topicBuffers = ∅)
    (operations : List BufferOperation)
    : buffers.staysInBounds operations = true
      ↔ ∀ operation ∈ operations,
          FitsConfiguration bufferSizePerTopic maxTotalMemoryBytes operation := by
  induction operations generalizing buffers with
  | nil => simp [staysInBounds]
  | cons operation rest ih =>
      rw [staysInBounds, Bool.and_eq_true, sound.operationInBounds_iff room,
        List.forall_mem_cons]
      refine and_congr_right ?_
      intro fits
      apply ih (sound.operate (fun call same => (fits call same).1))
      rcases room with positive | empty
      · exact .inl positive
      · -- without room for a message only topics are cleared, and there are none
        cases operation with
        | bufferMessage call => exact .inl (fits call rfl).1
        | clearTopic topic =>
            right
            rw [TopicMessageBuffer.operate, clearTopic, empty]
            exact empty
        | clear => exact .inr rfl

end Bounds

/-- For every configuration and every run, no operation leaves its containers exactly if every
message finds rings with room for it and is no larger than the limit.
-/
theorem staysInBounds_iff_fits (bufferSizePerTopic maxTotalMemoryBytes : Nat)
    (operations : List BufferOperation)
    : (create bufferSizePerTopic maxTotalMemoryBytes).staysInBounds operations = true
      ↔ ∀ call,
          .bufferMessage call ∈ operations
          → 0 < bufferSizePerTopic
            ∧ (maxTotalMemoryBytes = 0 ∨ call.payload.length ≤ maxTotalMemoryBytes) := by
  rw [(sound_create bufferSizePerTopic maxTotalMemoryBytes).staysInBounds_iff (.inr rfl)]
  constructor
  · intro fits call member
    exact fits _ member call rfl
  · intro fits operation member call same
    subst same
    exact fits call member

/-- The daemon accepts `--message-buffer-size 0`; the first message then takes the front of an
empty deque. A message above the limit makes `target` wrap around.
-/
theorem first_message_out_of_bounds
    : (create 0 0).staysInBounds [.bufferMessage ⟨.asStored, 0, [97], [1]⟩] = false
      ∧ (create 1 1).staysInBounds [.bufferMessage ⟨.asStored, 0, [97], [1, 2]⟩] = false := by
  decide +kernel

end TopicMessageBuffer

end NexusD.Core
