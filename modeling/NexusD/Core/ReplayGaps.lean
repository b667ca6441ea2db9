import NexusD.Core.BufferHistory

/-! What `getMessagesForReplay` answers, in terms of the log behind a topic's ring.
A client that holds a position on a topic is told the truth exactly as long as the log its
position refers to is still the log behind the ring, or the new ring starts above it.
-/

namespace NexusD.Core

/-- A replay is honest about the messages a client has missed: it contains them all, in
order, or it reports a gap.
-/
def ReplayResult.Honest (result : ReplayResult) (missed : List BufferedMessage) : Prop :=
  missed.Sublist result.messages ∨ result.gapDetected = true

instance (result : ReplayResult) (missed : List BufferedMessage)
    : Decidable (result.Honest missed) :=
  inferInstanceAs (Decidable (_ ∨ _))

namespace TopicMessageBuffer

variable {buffers : TopicMessageBuffer} {topic : ByteString} {log : TopicLog}
  {calls : List BufferCall}

theorem getMessagesForReplay_none (keeps : buffers.Keeps topic none) (afterSequence : Nat)
    : buffers.getMessagesForReplay topic afterSequence = ⟨[], false, 0⟩ := by
  simp [getMessagesForReplay, keeps.window]

theorem getMessagesForReplay_zero (keeps : buffers.Keeps topic (some log))
    (positive : 0 < buffers.bufferSizePerTopic)
    : buffers.getMessagesForReplay topic 0
      = ⟨(log.numbered topic).getLast?.toList, false, 0⟩ := by
  simp [getMessagesForReplay, keeps.window, TopicBuffer.getLatest_ofLog positive]

theorem getMessagesForReplay_upToDate (keeps : buffers.Keeps topic (some log))
    {afterSequence : Nat} (nonzero : afterSequence ≠ 0) (reached : log.length ≤ afterSequence)
    : buffers.getMessagesForReplay topic afterSequence = ⟨[], false, 0⟩ := by
  simp [getMessagesForReplay, keeps.window, nonzero, reached]

/-- A client behind the log gets its entries above both the position and what the ring has
lost. The lost entries above the position are counted, and a gap is reported whenever the
position lies before the ring.
-/
theorem getMessagesForReplay_behind (keeps : buffers.Keeps topic (some log))
    (positive : 0 < buffers.bufferSizePerTopic) {afterSequence : Nat}
    (nonzero : afterSequence ≠ 0) (behind : afterSequence < log.length)
    : buffers.getMessagesForReplay topic afterSequence
      = ⟨
          (log.numbered topic).drop
            (max afterSequence (log.length - buffers.bufferSizePerTopic)),
          decide (afterSequence < log.length - buffers.bufferSizePerTopic + 1),
          log.length - buffers.bufferSizePerTopic - afterSequence
        ⟩ := by
  have nonempty : log ≠ [] := by
    intro same
    subst same
    exact absurd behind (by simp)
  have ahead : ¬log.length ≤ afterSequence := by omega
  simp only [getMessagesForReplay, keeps.window, Option.map_some, nonzero, if_false,
    TopicBuffer.currentSequence_ofLog, ahead, TopicBuffer.getMessagesAfter_ofLog,
    TopicBuffer.oldestSequence_ofLog positive topic nonempty, ReplayResult.mk.injEq, true_and]
  split <;> omega

theorem acceptedOn_cons {log : Option TopicLog} (keeps : buffers.Keeps topic log)
    (positive : 0 < buffers.bufferSizePerTopic) (call : BufferCall) (rest : List BufferCall)
    : acceptedOn topic buffers (call :: rest)
      = (if call.topic = topic ∧ buffers.accepts call = true then
          [LogEntry.stored topic ⟨call.payload, call.now⟩
            (((buffers.keptLog call topic log).getD []).length + 1)]
        else [])
        ++ acceptedOn topic (buffers.bufferMessage call).1 rest := by
  by_cases same : call.topic = topic
  · subst topic
    cases verdict : buffers.accepts call with
    | true => simp [acceptedOn, keeps.bufferMessage_seq positive verdict]
    | false => simp [acceptedOn, bufferMessage_rejected verdict]
  · simp [acceptedOn, same]

/-- As long as the topic is not erased, the accepted messages are what its log grew by. -/
theorem Keeps.logAfter_not_erased (keeps : buffers.Keeps topic (some log))
    (positive : 0 < buffers.bufferSizePerTopic)
    (kept : erasedDuring topic buffers calls = false)
    : ∃ more : TopicLog,
        logAfter topic buffers (some log) calls = some (log ++ more)
        ∧ acceptedOn topic buffers calls
          = (TopicLog.numbered topic (log ++ more)).drop log.length := by
  induction calls generalizing buffers log with
  | nil => exact ⟨[], by simp [logAfter, acceptedOn]⟩
  | cons call rest ih =>
      simp only [erasedDuring, Bool.or_eq_false_iff] at kept
      have same : buffers.keptLog call topic (some log) = some log := by
        simp [keptLog, kept.1]
      have next := keeps.bufferMessage positive call
      simp only [logAfter, acceptedOn_cons keeps positive, same, Option.getD_some]
      by_cases here : call.topic = topic ∧ buffers.accepts call = true
      · have grown : buffers.nextLog call topic (some log)
            = some (log ++ [⟨call.payload, call.now⟩]) := by
          simp [nextLog, here, same]
        rw [grown] at next ⊢
        obtain ⟨more, after, accepted⟩ := ih next (by simpa using positive) kept.2
        refine ⟨⟨call.payload, call.now⟩ :: more, by simpa using after, ?_⟩
        rw [if_pos here, accepted, drop_numbered_append, drop_numbered_append]
        simp
      · have unchanged : buffers.nextLog call topic (some log) = some log := by
          simp [nextLog, here, same]
        rw [unchanged] at next ⊢
        simpa [here] using ih next (by simpa using positive) kept.2

/-- A run leaves no more of a log than it had and what was accepted since. -/
theorem Keeps.logAfter_length_le {log : Option TopicLog} (keeps : buffers.Keeps topic log)
    (positive : 0 < buffers.bufferSizePerTopic) (calls : List BufferCall)
    : ((logAfter topic buffers log calls).getD []).length
      ≤ (log.getD []).length + (acceptedOn topic buffers calls).length := by
  induction calls generalizing buffers log with
  | nil => simp [logAfter]
  | cons call rest ih =>
      have tail := ih (keeps.bufferMessage positive call) (by simpa using positive)
      have shrunk
        : ((buffers.keptLog call topic log).getD []).length ≤ (log.getD []).length := by
        unfold keptLog
        split <;> simp
      simp only [logAfter, acceptedOn_cons keeps positive, List.length_append]
      by_cases here : call.topic = topic ∧ buffers.accepts call = true
      · simp only [nextLog, if_pos here, Option.getD_some, List.length_append,
          List.length_singleton] at tail ⊢
        omega
      · simp only [nextLog, if_neg here, List.length_nil] at tail ⊢
        omega

/-- Once the topic was erased, its log holds at most what was accepted since. -/
theorem Keeps.logAfter_erased_length_le {log : Option TopicLog}
    (keeps : buffers.Keeps topic log) (positive : 0 < buffers.bufferSizePerTopic)
    (erased : erasedDuring topic buffers calls = true)
    : ((logAfter topic buffers log calls).getD []).length
      ≤ (acceptedOn topic buffers calls).length := by
  induction calls generalizing buffers log with
  | nil => simp [erasedDuring] at erased
  | cons call rest ih =>
      have next := keeps.bufferMessage positive call
      simp only [logAfter, acceptedOn_cons keeps positive, List.length_append]
      by_cases lost : buffers.erases call topic = true
      · have tail := next.logAfter_length_le (by simpa using positive) rest
        have nothing : buffers.keptLog call topic log = none := if_pos lost
        by_cases here : call.topic = topic ∧ buffers.accepts call = true
        · simpa [nextLog, here, nothing, Nat.add_comm] using tail
        · simpa [nextLog, here, nothing] using tail
      · have later : erasedDuring topic (buffers.bufferMessage call).1 rest = true := by
          simpa [erasedDuring, Bool.eq_false_iff.mpr lost] using erased
        have tail := ih next (by simpa using positive) later
        omega

/-- The position lies before the ring the topic has now. -/
def ringAbove (buffers : TopicMessageBuffer) (topic : ByteString) (position : Nat) : Bool :=
  match buffers.topicBuffers.lookup topic with
  | some buffer => position < buffer.oldestSequence
  | none => false

theorem Keeps.ringAbove_iff (keeps : buffers.Keeps topic (some log))
    (positive : 0 < buffers.bufferSizePerTopic) (position : Nat)
    : buffers.ringAbove topic position = true
      ↔ position < log.length - buffers.bufferSizePerTopic + 1 := by
  have nonempty : log ≠ [] := fun empty => keeps.nonempty (congrArg some empty)
  simp [ringAbove, keeps.window, TopicBuffer.oldestSequence_ofLog positive topic nonempty]

/-- The topic has not been erased since the position was handed out: whatever the ring
lost of the messages after the position is reported.
-/
theorem Keeps.honest_of_not_erased (keeps : buffers.Keeps topic (some log))
    (positive : 0 < buffers.bufferSizePerTopic) (missed : acceptedOn topic buffers calls ≠ [])
    (kept : erasedDuring topic buffers calls = false)
    : ((buffers.afterCalls calls).getMessagesForReplay topic log.length).Honest
        (acceptedOn topic buffers calls) := by
  obtain ⟨more, after, accepted⟩ := keeps.logAfter_not_erased positive kept
  have final := keeps.afterCalls positive calls
  rw [after] at final
  have started : log.length ≠ 0 := by
    intro empty
    exact keeps.nonempty (congrArg some (List.length_eq_zero_iff.mp empty))
  have grown : log.length < (log ++ more).length := by
    have entries : 0 < (acceptedOn topic buffers calls).length := List.length_pos_iff.mpr missed
    simp only [accepted, List.length_drop, length_numbered] at entries
    omega
  rw [getMessagesForReplay_behind final (by simpa using positive) started grown]
  by_cases lost
    : log.length < (log ++ more).length - (buffers.afterCalls calls).bufferSizePerTopic + 1
  · exact Or.inr (by simpa using lost)
  · refine Or.inl ?_
    have whole
      : max log.length ((log ++ more).length - (buffers.afterCalls calls).bufferSizePerTopic)
        = log.length := by
      omega
    simp only [whole, accepted]
    exact List.Sublist.refl _

/-- After an erasure, an honest answer can only come from a ring that starts above the
position. Witness: otherwise fewer messages are returned than were accepted, silently.
-/
theorem Keeps.ringAbove_of_honest (keeps : buffers.Keeps topic (some log))
    (positive : 0 < buffers.bufferSizePerTopic) (missed : acceptedOn topic buffers calls ≠ [])
    (erased : erasedDuring topic buffers calls = true)
    (honest
      : ((buffers.afterCalls calls).getMessagesForReplay topic log.length).Honest
          (acceptedOn topic buffers calls))
    : (buffers.afterCalls calls).ringAbove topic log.length = true := by
  have final := keeps.afterCalls positive calls
  have short := keeps.logAfter_erased_length_le positive erased
  have entries : 0 < (acceptedOn topic buffers calls).length := List.length_pos_iff.mpr missed
  have started : log.length ≠ 0 := by
    intro empty
    exact keeps.nonempty (congrArg some (List.length_eq_zero_iff.mp empty))
  have silent
    : (buffers.afterCalls calls).getMessagesForReplay topic log.length ≠ ⟨[], false, 0⟩ := by
    intro nothing
    rw [nothing] at honest
    rcases honest with inside | gap
    · exact missed (List.sublist_nil.mp inside)
    · exact Bool.false_ne_true gap
  cases after : logAfter topic buffers (some log) calls with
  | none =>
      rw [after] at final
      exact absurd (getMessagesForReplay_none final _) silent
  | some current =>
      rw [after] at final
      simp only [after, Option.getD_some] at short
      by_cases reached : current.length ≤ log.length
      · exact absurd (getMessagesForReplay_upToDate final started reached) silent
      · rw [getMessagesForReplay_behind final (by simpa using positive) started (by omega)]
          at honest
        rcases honest with inside | gap
        · -- the returned suffix is shorter than the list it would have to contain
          have bound := inside.length_le
          simp only [List.length_drop, length_numbered] at bound
          omega
        · rw [final.ringAbove_iff (by simpa using positive)]
          simpa using gap

/-- A ring that starts above the position reports the gap by itself. -/
theorem Keeps.honest_of_ringAbove {log : Option TopicLog} (keeps : buffers.Keeps topic log)
    (positive : 0 < buffers.bufferSizePerTopic) {position : Nat} (nonzero : position ≠ 0)
    (above : buffers.ringAbove topic position = true) (missed : List BufferedMessage)
    : (buffers.getMessagesForReplay topic position).Honest missed := by
  cases log with
  | none => simp [ringAbove, keeps.window] at above
  | some log =>
      have before := (keeps.ringAbove_iff positive position).mp above
      have nonempty : log.length ≠ 0 := by
        intro empty
        exact keeps.nonempty (congrArg some (List.length_eq_zero_iff.mp empty))
      rw [getMessagesForReplay_behind keeps positive nonzero (by omega)]
      exact Or.inr (by simpa using before)

/-- For every capacity, memory limit and run: a client that holds the number of an accepted
message on a topic on which more messages were accepted since is either replayed all of
them or told about a gap, exactly when the topic's buffer was not erased in between or the
buffer the topic has now starts above the client's position.
-/
theorem replay_honest_iff {bufferSizePerTopic : Nat} (positive : 0 < bufferSizePerTopic)
    (maxTotalMemoryBytes : Nat) (earlier : List BufferCall) (call : BufferCall)
    (later : List BufferCall)
    : let before := (create bufferSizePerTopic maxTotalMemoryBytes).afterCalls earlier
      let issued := (before.bufferMessage call).1
      let position := (before.bufferMessage call).2
      let missed := acceptedOn call.topic issued later
      let final := issued.afterCalls later
      1 ≤ position
      → missed ≠ []
      → ((final.getMessagesForReplay call.topic position).Honest missed
          ↔ erasedDuring call.topic issued later = false
            ∨ final.ringAbove call.topic position = true) := by
  intro before issued position missed final nonzero behind
  have kept := (keeps_create bufferSizePerTopic maxTotalMemoryBytes call.topic).afterCalls
    positive earlier
  have sizes : 0 < before.bufferSizePerTopic := by
    rw [afterCalls_sizes]
    exact positive
  have accepted := (kept.bufferMessage_ne_zero sizes).mp (Nat.one_le_iff_ne_zero.mp nonzero)
  have seq := kept.bufferMessage_seq sizes accepted
  have next := kept.bufferMessage sizes call
  simp only [nextLog, accepted, and_self, if_true] at next
  have sizesIssued : 0 < issued.bufferSizePerTopic := by
    rw [bufferMessage_sizes]
    exact sizes
  -- the position is the length of the log right after the call
  obtain ⟨log, keeps, length⟩
      : ∃ log, issued.Keeps call.topic (some log) ∧ log.length = position :=
    ⟨_, next, by simpa using seq.symm⟩
  rw [← length]
  constructor
  · intro honest
    cases erased : erasedDuring call.topic issued later with
    | false => exact Or.inl rfl
    | true => exact Or.inr (keeps.ringAbove_of_honest sizesIssued behind erased honest)
  · intro alternatives
    rcases alternatives with notErased | above
    · exact keeps.honest_of_not_erased sizesIssued behind notErased
    · exact (keeps.afterCalls sizesIssued later).honest_of_ringAbove
        (by simpa using sizesIssued) (by omega) above missed

/-- Room for all three messages of `alternatingCalls`: the client at the first message on
`a` is replayed the second one.
-/
theorem replay_honest_with_room
    : 0 < 2
      ∧ (((create 2 3).afterCalls alternatingCalls).getMessagesForReplay [97] 1).Honest
          [⟨2, [97], [1], 0⟩] := by
  have positive : 0 < 2 := by decide
  have position : ((create 2 3).bufferMessage ⟨.asStored, 0, [97], [1]⟩).2 = 1 := by
    decide +kernel
  have missed
    : acceptedOn [97] ((create 2 3).bufferMessage ⟨.asStored, 0, [97], [1]⟩).1
        [⟨.asStored, 0, [98], [1]⟩, ⟨.asStored, 0, [97], [1]⟩]
      = [⟨2, [97], [1], 0⟩] := by
    decide +kernel
  have honest :=
    replay_honest_iff positive 3 [] ⟨.asStored, 0, [97], [1]⟩
      [⟨.asStored, 0, [98], [1]⟩, ⟨.asStored, 0, [97], [1]⟩]
  simp only [afterCalls, List.foldl_nil, missed, position] at honest
  exact ⟨positive, (honest (by decide) (by decide)).mpr (by decide +kernel)⟩

/-- One byte of memory: the buffer of `a` is evicted and started again, its second message
is number one again, and the client at one is told that it is up to date.
-/
theorem replay_silent_after_eviction
    : ((create 2 1).bufferMessage ⟨.asStored, 0, [97], [1]⟩).2 = 1
      ∧ acceptedOn [97] ((create 2 1).bufferMessage ⟨.asStored, 0, [97], [1]⟩).1
          [⟨.asStored, 0, [98], [1]⟩, ⟨.asStored, 0, [97], [1]⟩]
        = [⟨1, [97], [1], 0⟩]
      ∧ ¬(((create 2 1).afterCalls alternatingCalls).getMessagesForReplay [97] 1).Honest
          [⟨1, [97], [1], 0⟩] := by
  decide +kernel

end TopicMessageBuffer

end NexusD.Core
