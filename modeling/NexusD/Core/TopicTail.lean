import NexusD.Core.TopicBuffer

/-! A topic's ring against everything that was ever pushed on it.
The queries look at the two ends of the ring only. They are right because the ring is at every
moment the end of the numbered log.
-/

namespace NexusD.Core

/-- The arguments of one `push`, with the clock reading it takes. Nothing keeps a caller from
naming another topic each time.
-/
structure Push where
  now : TimePoint
  topic : ByteString
  payload : ByteString
deriving DecidableEq, Repr

/-- Everything pushed, numbered from one. -/
def pushedMessages (pushes : List Push) : List BufferedMessage :=
  (pushes.zipIdx 1).map (fun push =>
    {
      sequenceNumber := push.2
      topic := push.1.topic
      payload := push.1.payload
      timestamp := push.1.now
    })

@[simp]
theorem length_pushedMessages (pushes : List Push)
    : (pushedMessages pushes).length = pushes.length := by
  simp only [pushedMessages, List.length_map, List.length_zipIdx]

theorem pushedMessages_concat (pushes : List Push) (push : Push)
    : pushedMessages (pushes ++ [push])
      = pushedMessages pushes
        ++ [⟨pushes.length + 1, push.topic, push.payload, push.now⟩] := by
  simp [pushedMessages, List.zipIdx_append, Nat.add_comm]

theorem numbers_pushedMessages (pushes : List Push)
    : (pushedMessages pushes).map BufferedMessage.sequenceNumber
      = List.range' 1 pushes.length := by
  rw [pushedMessages, List.map_map, ← List.zipIdx_map_snd 1 pushes]
  rfl

namespace TopicBuffer

/-- The ring after the pushes, and the numbers they returned. -/
def pushAll (buffer : TopicBuffer) (pushes : List Push) : TopicBuffer × List Nat :=
  pushes.foldl
    (fun state push =>
      let pushed := state.1.push push.now push.topic push.payload
      (pushed.1, state.2 ++ [pushed.2]))
    (buffer, [])

/-- What the ring of size `capacity` holds and answers after the pushes. -/
structure IsTail (capacity : Nat) (pushes : List Push) (buffer : TopicBuffer)
    (returned : List Nat)
    : Prop where
  returned : returned = List.range' 1 pushes.length
  messages
    : buffer.messages = (pushedMessages pushes).rtake (min pushes.length capacity)
  numbers
    : buffer.messages.map BufferedMessage.sequenceNumber
      = List.range' (pushes.length - min pushes.length capacity + 1)
          (min pushes.length capacity)
  currentSequence : buffer.currentSequence = pushes.length
  oldestSequence
    : 1 ≤ pushes.length
      → buffer.oldestSequence = pushes.length - min pushes.length capacity + 1
  hasSequence
    : ∀ seq,
        buffer.hasSequence seq = true
        ↔ ∃ message ∈ buffer.messages, message.sequenceNumber = seq
  mem_getMessagesAfter
    : ∀ seq message,
        message ∈ buffer.getMessagesAfter seq
        ↔ message ∈ buffer.messages ∧ seq < message.sequenceNumber
  increasing
    : ∀ seq,
        ((buffer.getMessagesAfter seq).map BufferedMessage.sequenceNumber).Pairwise (· < ·)
  totalBytes : buffer.totalBytes = payloadBytes buffer.messages

/-- The pushes build the tail of what was pushed, and are numbered in turn. -/
theorem pushAll_create {capacity : Nat} (positive : 0 < capacity) (pushes : List Push)
    : (create capacity).pushAll pushes
      = (tailOf capacity (pushedMessages pushes), List.range' 1 pushes.length) := by
  induction pushes using List.reverseRecOn with
  | nil =>
      rw [create_eq_tailOf]
      rfl
  | append_singleton pushes push ih =>
      simp only [pushAll, List.foldl_append, List.foldl_cons, List.foldl_nil] at ih ⊢
      rw [ih, push_tailOf positive, pushedMessages_concat, length_pushedMessages,
        List.length_append, List.length_singleton, List.range'_concat]
      simp [Nat.add_comm]

section Numbered

variable {buffer : TopicBuffer} {start count : Nat}
  (numbers
    : buffer.messages.map BufferedMessage.sequenceNumber = List.range' start count)
include numbers

/-- A ring with consecutive numbers may look at its ends only. -/
theorem hasSequence_iff_of_numbers (seq : Nat)
    : buffer.hasSequence seq = true
      ↔ ∃ message ∈ buffer.messages, message.sequenceNumber = seq := by
  have stored
    : (∃ message ∈ buffer.messages, message.sequenceNumber = seq)
      ↔ start ≤ seq ∧ seq < start + count := by
    rw [← List.mem_map, numbers, List.mem_range'_1]
  rw [stored]
  cases count with
  | zero =>
      have empty : buffer.messages = [] := List.map_eq_nil_iff.mp numbers
      simp only [hasSequence, empty, List.head?_nil]
      simp
  | succ count =>
      have first := congrArg List.head? numbers
      rw [List.head?_map, List.range'_succ, List.head?_cons] at first
      obtain ⟨front, isFront, frontNumber⟩ := Option.map_eq_some_iff.mp first
      have last := congrArg List.getLast? numbers
      rw [List.getLast?_map, List.range'_1_concat, List.getLast?_concat] at last
      obtain ⟨back, isBack, backNumber⟩ := Option.map_eq_some_iff.mp last
      simp only [hasSequence, isFront, isBack, frontNumber, backNumber, Bool.and_eq_true,
        decide_eq_true_eq]
      omega

theorem oldestSequence_of_numbers (nonempty : 0 < count) : buffer.oldestSequence = start := by
  obtain ⟨rest, rfl⟩ := Nat.exists_eq_succ_of_ne_zero nonempty.ne'
  have first := congrArg List.head? numbers
  rw [List.head?_map, List.range'_succ, List.head?_cons] at first
  obtain ⟨front, isFront, frontNumber⟩ := Option.map_eq_some_iff.mp first
  rw [oldestSequence, isFront]
  exact frontNumber

theorem getMessagesAfter_increasing (seq : Nat)
    : ((buffer.getMessagesAfter seq).map BufferedMessage.sequenceNumber).Pairwise
        (· < ·) := by
  have sorted : (buffer.messages.map BufferedMessage.sequenceNumber).Pairwise (· < ·) := by
    rw [numbers]
    exact List.pairwise_lt_range'
  exact sorted.sublist (List.filter_sublist.map _)

end Numbered

theorem numbers_tailOf (capacity : Nat) (pushes : List Push)
    : (tailOf capacity (pushedMessages pushes)).messages.map BufferedMessage.sequenceNumber
      = List.range' (pushes.length - min pushes.length capacity + 1)
          (min pushes.length capacity) := by
  have lost : pushes.length - min pushes.length capacity = pushes.length - capacity := by
    omega
  simp only [tailOf, List.rtake, length_pushedMessages]
  rw [List.map_drop, numbers_pushedMessages, List.drop_range', Nat.mul_one, lost, Nat.add_comm]
  congr 1
  omega

/-- For every capacity and every sequence of pushes into a new ring, the ring is the tail of
the log and answers accordingly.
-/
theorem isTail_pushAll {capacity : Nat} (positive : 0 < capacity) (pushes : List Push)
    : IsTail capacity pushes ((create capacity).pushAll pushes).1
        ((create capacity).pushAll pushes).2 := by
  have numbers := numbers_tailOf capacity pushes
  rw [pushAll_create positive]
  exact {
    returned := rfl
    messages := by
      simp only [tailOf, List.rtake, length_pushedMessages]
      congr 1
      omega
    numbers
    currentSequence := by simp [currentSequence, tailOf]
    oldestSequence := by
      intro some
      exact oldestSequence_of_numbers numbers (Nat.lt_min.mpr ⟨some, positive⟩)
    hasSequence := hasSequence_iff_of_numbers numbers
    mem_getMessagesAfter := by
      intro seq message
      simp only [getMessagesAfter, List.mem_filter, decide_eq_true_eq]
    increasing := getMessagesAfter_increasing numbers
    totalBytes := rfl
  }

/-- Three pushes into a ring of two: the first message is gone. -/
theorem isTail_threePushes
    : 0 < 2
      ∧ ((create 2).pushAll
            [⟨0, [97], [1]⟩, ⟨1, [97], [2]⟩, ⟨2, [97], [3]⟩]).1.oldestSequence
        = 2 := by
  have positive : 0 < 2 := by decide
  have tail := isTail_pushAll positive [⟨0, [97], [1]⟩, ⟨1, [97], [2]⟩, ⟨2, [97], [3]⟩]
  exact ⟨positive, tail.oldestSequence (by decide)⟩

end TopicBuffer

end NexusD.Core
