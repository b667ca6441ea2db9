import NexusD.Core.TopicMessageBuffer

/-! Runs of `bufferMessage` calls, seen from one topic.
A topic's ring is at every moment the window of the log pushed since the ring was created;
the memory eviction is the only thing that ends such a log, and it takes the sequence
counter with it.
-/

namespace NexusD.Core.TopicMessageBuffer

open NexusD.Library

def afterCalls (buffers : TopicMessageBuffer) (calls : List BufferCall)
    : TopicMessageBuffer :=
  calls.foldl (fun current call => (current.bufferMessage call).1) buffers

/-- The topic and the returned sequence number of every call. -/
def returned (buffers : TopicMessageBuffer) : List BufferCall → List (ByteString × Nat)
  | [] => []
  | call :: rest =>
      (call.topic, (buffers.bufferMessage call).2)
      :: returned (buffers.bufferMessage call).1 rest

/-- The non-zero sequence numbers handed out for one topic, in call order. -/
def sequencesOn (topic : ByteString) (results : List (ByteString × Nat)) : List Nat :=
  (results.filter (fun result => result.1 == topic && result.2 != 0)).map Prod.snd

/-- The messages a run accepted on one topic, with the numbers they were given. -/
def acceptedOn (topic : ByteString) (buffers : TopicMessageBuffer)
    : List BufferCall → List BufferedMessage
  | [] => []
  | call :: rest =>
      let (next, seq) := buffers.bufferMessage call
      if call.topic == topic && seq != 0 then
        LogEntry.stored topic ⟨call.payload, call.now⟩ seq :: acceptedOn topic next rest
      else
        acceptedOn topic next rest

/-- The memory check lets the call's message in. -/
def accepts (buffers : TopicMessageBuffer) (call : BufferCall) : Bool :=
  (buffers.makeRoom call.order call.payload.length).2

/-- The memory check of the call erases the buffer `topic` had. -/
def erases (buffers : TopicMessageBuffer) (call : BufferCall) (topic : ByteString) : Bool :=
  (buffers.topicBuffers.lookup topic).isSome
  && ((buffers.makeRoom call.order call.payload.length).1.topicBuffers.lookup topic).isNone

/-- Some call of the run is on `topic` and passes its memory check. -/
def acceptsOn (topic : ByteString) (buffers : TopicMessageBuffer) : List BufferCall → Bool
  | [] => false
  | call :: rest =>
      (call.topic == topic && buffers.accepts call)
      || acceptsOn topic (buffers.bufferMessage call).1 rest

/-- Some call of the run erases the buffer of `topic`. -/
def erasedDuring (topic : ByteString) (buffers : TopicMessageBuffer)
    : List BufferCall → Bool
  | [] => false
  | call :: rest =>
      buffers.erases call topic || erasedDuring topic (buffers.bufferMessage call).1 rest

/-- Once a call erases the buffer of `topic`, neither that call nor a later one puts a
message on `topic` again.
-/
def counterKept (topic : ByteString) (buffers : TopicMessageBuffer) : List BufferCall → Bool
  | [] => true
  | call :: rest =>
      (!buffers.erases call topic || !acceptsOn topic buffers (call :: rest))
      && counterKept topic (buffers.bufferMessage call).1 rest

/-- The buffer of `topic` is the window of `log`; without a log there is no buffer. A ring
is created together with its first message, so its log is never empty.
-/
structure Keeps (buffers : TopicMessageBuffer) (topic : ByteString) (log : Option TopicLog)
    : Prop where
  window
    : buffers.topicBuffers.lookup topic
      = log.map (TopicBuffer.ofLog buffers.bufferSizePerTopic topic)
  nonempty : log ≠ some []

/-- What the memory check of a call leaves of the log of `topic`. -/
def keptLog (buffers : TopicMessageBuffer) (call : BufferCall) (topic : ByteString)
    (log : Option TopicLog)
    : Option TopicLog :=
  if buffers.erases call topic then none else log

/-- The log of `topic` after a call. -/
def nextLog (buffers : TopicMessageBuffer) (call : BufferCall) (topic : ByteString)
    (log : Option TopicLog)
    : Option TopicLog :=
  if call.topic = topic ∧ buffers.accepts call = true then
    some ((buffers.keptLog call topic log).getD [] ++ [⟨call.payload, call.now⟩])
  else
    buffers.keptLog call topic log

def logAfter (topic : ByteString) (buffers : TopicMessageBuffer) (log : Option TopicLog)
    : List BufferCall → Option TopicLog
  | [] => log
  | call :: rest =>
      logAfter topic (buffers.bufferMessage call).1 (buffers.nextLog call topic log) rest

theorem keeps_create (bufferSizePerTopic maxTotalMemoryBytes : Nat) (topic : ByteString)
    : (create bufferSizePerTopic maxTotalMemoryBytes).Keeps topic none :=
  ⟨rfl, by simp⟩

variable {buffers : TopicMessageBuffer} {topic : ByteString} {log : Option TopicLog}
  {call : BufferCall}

/-- Erased or not, the memory check leaves the window of what it kept. -/
theorem Keeps.makeRoom (keeps : buffers.Keeps topic log) (call : BufferCall)
    : (buffers.makeRoom call.order call.payload.length).1.Keeps topic
        (buffers.keptLog call topic log) := by
  have erased := makeRoom_erasedFrom buffers call.order call.payload.length
  unfold keptLog
  by_cases lost : buffers.erases call topic = true
  · rw [if_pos lost]
    simp only [erases, Bool.and_eq_true, Option.isNone_iff_eq_none] at lost
    exact ⟨lost.2, by simp⟩
  · rw [if_neg lost]
    refine ⟨?_, keeps.nonempty⟩
    rw [erased.sizes, ← keeps.window]
    rcases erased.lookups topic with same | gone
    · exact same
    · -- nothing was stored before either, or the check would have erased it
      cases before : buffers.topicBuffers.lookup topic with
      | none => exact gone
      | some buffer => simp [erases, before, gone] at lost

/-- Storing a message on `topic` appends to its log and returns the new length. -/
theorem Keeps.store_same (keeps : buffers.Keeps topic log)
    (positive : 0 < buffers.bufferSizePerTopic) (now : TimePoint) (payload : ByteString)
    : (buffers.store now topic payload).1.Keeps topic
        (some (log.getD [] ++ [⟨payload, now⟩]))
      ∧ (buffers.store now topic payload).2 = (log.getD []).length + 1 := by
  have ring
    : (buffers.topicBuffers.lookup topic).getD (TopicBuffer.create buffers.bufferSizePerTopic)
      = TopicBuffer.ofLog buffers.bufferSizePerTopic topic (log.getD []) := by
    rw [keeps.window]
    cases log with
    | none => exact TopicBuffer.create_eq_ofLog _ topic
    | some log => rfl
  simp only [store, ring, TopicBuffer.push_ofLog positive, and_true]
  exact ⟨by simp, by simp⟩

theorem Keeps.store_other {other : ByteString} (keeps : buffers.Keeps topic log)
    (different : other ≠ topic) (now : TimePoint) (payload : ByteString)
    : (buffers.store now other payload).1.Keeps topic log := by
  refine ⟨?_, keeps.nonempty⟩
  simpa only [store, AList.lookup_insert_ne different.symm] using keeps.window

theorem bufferMessage_accepted (accepted : buffers.accepts call = true)
    : buffers.bufferMessage call
      = (buffers.makeRoom call.order call.payload.length).1.store call.now call.topic
          call.payload := by
  unfold accepts at accepted
  unfold bufferMessage
  split
  · simp_all
  · simp_all

theorem bufferMessage_rejected (rejected : buffers.accepts call = false)
    : buffers.bufferMessage call
      = ((buffers.makeRoom call.order call.payload.length).1, 0) := by
  unfold accepts at rejected
  unfold bufferMessage
  split
  · simp_all
  · simp_all

theorem store_sizes (buffers : TopicMessageBuffer) (now : TimePoint)
    (topic payload : ByteString)
    : (buffers.store now topic payload).1.bufferSizePerTopic = buffers.bufferSizePerTopic :=
  rfl

@[simp]
theorem bufferMessage_sizes (buffers : TopicMessageBuffer) (call : BufferCall)
    : (buffers.bufferMessage call).1.bufferSizePerTopic = buffers.bufferSizePerTopic := by
  have erased := makeRoom_erasedFrom buffers call.order call.payload.length
  cases verdict : buffers.accepts call with
  | true => rw [bufferMessage_accepted verdict, store_sizes, erased.sizes]
  | false => rw [bufferMessage_rejected verdict, erased.sizes]

/-- One call moves the log of every topic as `nextLog` says. Witness: the memory check
keeps or erases, and only an accepted message on the topic itself is appended.
-/
theorem Keeps.bufferMessage (keeps : buffers.Keeps topic log)
    (positive : 0 < buffers.bufferSizePerTopic) (call : BufferCall)
    : (buffers.bufferMessage call).1.Keeps topic (buffers.nextLog call topic log) := by
  have room := keeps.makeRoom call
  have sizes := (makeRoom_erasedFrom buffers call.order call.payload.length).sizes
  unfold nextLog
  cases verdict : buffers.accepts call with
  | false =>
      rw [bufferMessage_rejected verdict]
      simpa using room
  | true =>
      rw [bufferMessage_accepted verdict]
      by_cases same : call.topic = topic
      · subst topic
        simpa using (room.store_same (by rwa [sizes]) call.now call.payload).1
      · simpa [same] using room.store_other same call.now call.payload

/-- An accepted message is numbered after what was kept of its topic's log. -/
theorem Keeps.bufferMessage_seq (keeps : buffers.Keeps call.topic log)
    (positive : 0 < buffers.bufferSizePerTopic) (accepted : buffers.accepts call = true)
    : (buffers.bufferMessage call).2
      = ((buffers.keptLog call call.topic log).getD []).length + 1 := by
  have sizes := (makeRoom_erasedFrom buffers call.order call.payload.length).sizes
  rw [bufferMessage_accepted accepted]
  exact ((keeps.makeRoom call).store_same (by rwa [sizes]) call.now call.payload).2

/-- On a kept topic the returned number is zero exactly when the memory check rejects. -/
theorem Keeps.bufferMessage_ne_zero (keeps : buffers.Keeps call.topic log)
    (positive : 0 < buffers.bufferSizePerTopic)
    : (buffers.bufferMessage call).2 ≠ 0 ↔ buffers.accepts call = true := by
  constructor
  · intro nonzero
    by_contra rejected
    rw [bufferMessage_rejected (Bool.eq_false_iff.mpr rejected)] at nonzero
    exact nonzero rfl
  · intro accepted
    rw [keeps.bufferMessage_seq positive accepted]
    omega

@[simp]
theorem afterCalls_sizes (buffers : TopicMessageBuffer) (calls : List BufferCall)
    : (buffers.afterCalls calls).bufferSizePerTopic = buffers.bufferSizePerTopic := by
  induction calls generalizing buffers with
  | nil => rfl
  | cons call rest ih => exact (ih _).trans (bufferMessage_sizes buffers call)

/-- A whole run keeps the window of the log it leaves. -/
theorem Keeps.afterCalls (keeps : buffers.Keeps topic log)
    (positive : 0 < buffers.bufferSizePerTopic) (calls : List BufferCall)
    : (buffers.afterCalls calls).Keeps topic (logAfter topic buffers log calls) := by
  induction calls generalizing buffers log with
  | nil => exact keeps
  | cons call rest ih => exact ih (keeps.bufferMessage positive call) (by simpa using positive)

/-- The numbers a run hands out on a topic, split at its first call. -/
theorem sequencesOn_returned_cons (keeps : buffers.Keeps topic log)
    (positive : 0 < buffers.bufferSizePerTopic) (call : BufferCall) (rest : List BufferCall)
    : sequencesOn topic (buffers.returned (call :: rest))
      = (if call.topic = topic ∧ buffers.accepts call = true then
          [((buffers.keptLog call topic log).getD []).length + 1]
        else [])
        ++ sequencesOn topic ((buffers.bufferMessage call).1.returned rest) := by
  by_cases same : call.topic = topic
  · subst topic
    cases verdict : buffers.accepts call with
    | true => simp [sequencesOn, returned, keeps.bufferMessage_seq positive verdict]
    | false => simp [sequencesOn, returned, bufferMessage_rejected verdict]
  · simp [sequencesOn, returned, same]

/-- Without a log, the first accepted message on the topic gets number one. -/
theorem one_mem_sequencesOn (keeps : buffers.Keeps topic none)
    (positive : 0 < buffers.bufferSizePerTopic) {calls : List BufferCall}
    (accepted : acceptsOn topic buffers calls = true)
    : 1 ∈ sequencesOn topic (buffers.returned calls) := by
  induction calls generalizing buffers with
  | nil => simp [acceptsOn] at accepted
  | cons call rest ih =>
      have nothing : buffers.keptLog call topic none = none := by simp [keptLog]
      rw [sequencesOn_returned_cons keeps positive, nothing]
      by_cases here : call.topic = topic ∧ buffers.accepts call = true
      · simp [here]
      · have next := keeps.bufferMessage positive call
        simp only [nextLog, if_neg here, nothing] at next
        have later : acceptsOn topic (buffers.bufferMessage call).1 rest = true := by
          simpa [acceptsOn, here] using accepted
        exact List.mem_append_right _ (ih next (by simpa using positive) later)

/-- Nothing is handed out on a topic none of whose messages is accepted. -/
theorem sequencesOn_eq_nil (keeps : buffers.Keeps topic log)
    (positive : 0 < buffers.bufferSizePerTopic) {calls : List BufferCall}
    (accepted : acceptsOn topic buffers calls = false)
    : sequencesOn topic (buffers.returned calls) = [] := by
  induction calls generalizing buffers log with
  | nil => rfl
  | cons call rest ih =>
      simp only [acceptsOn, Bool.or_eq_false_iff, Bool.and_eq_false_iff] at accepted
      have skipped : ¬(call.topic = topic ∧ buffers.accepts call = true) := by
        intro both
        rcases both with ⟨same, verdict⟩
        simp [same, verdict] at accepted
      rw [sequencesOn_returned_cons keeps positive, if_neg skipped, List.nil_append]
      exact ih (keeps.bufferMessage positive call) (by simpa using positive) accepted.2

/-- From a kept log on, the numbers increase and stay above its length exactly when the
counter is kept. Witness: an erased counter starts again at one, which is not above the
length of the non-empty log it replaces.
-/
theorem Keeps.increasing_iff (keeps : buffers.Keeps topic log)
    (positive : 0 < buffers.bufferSizePerTopic) (calls : List BufferCall)
    : ((sequencesOn topic (buffers.returned calls)).Pairwise (· < ·)
        ∧ ∀ seq ∈ sequencesOn topic (buffers.returned calls), (log.getD []).length < seq)
      ↔ counterKept topic buffers calls = true := by
  induction calls generalizing buffers log with
  | nil => simp [returned, sequencesOn, counterKept]
  | cons call rest ih =>
      have next := keeps.bufferMessage positive call
      have tail := ih next (by simpa using positive)
      by_cases lost : buffers.erases call topic = true
      · have nonempty : 0 < (log.getD []).length := by
          cases log with
          | none => simp [erases, keeps.window] at lost
          | some log => simpa [List.length_pos_iff] using keeps.nonempty
        cases later : acceptsOn topic buffers (call :: rest) with
        | false =>
            have none := sequencesOn_eq_nil keeps positive later
            have rest_none
              : sequencesOn topic ((buffers.bufferMessage call).1.returned rest) = [] := by
              rw [sequencesOn_returned_cons keeps positive] at none
              exact (List.append_eq_nil_iff.mp none).2
            simp only [rest_none, List.Pairwise.nil, List.not_mem_nil, false_implies,
              implies_true, true_and, true_iff] at tail
            simp [none, counterKept, later, tail]
        | true =>
            constructor
            · intro both
              rcases both with ⟨_, above⟩
              -- the restarted counter hands out one
              have one : 1 ∈ sequencesOn topic (buffers.returned (call :: rest)) := by
                have nothing : buffers.keptLog call topic log = none := if_pos lost
                rw [sequencesOn_returned_cons keeps positive, nothing]
                by_cases here : call.topic = topic ∧ buffers.accepts call = true
                · simp [here]
                · simp only [nextLog, if_neg here, nothing] at next
                  apply List.mem_append_right
                  apply one_mem_sequencesOn next (by simpa using positive)
                  simpa [acceptsOn, here] using later
              have := above 1 one
              omega
            · intro kept
              simp [counterKept, lost, later] at kept
      · have same : buffers.keptLog call topic log = log := if_neg lost
        have step : counterKept topic buffers (call :: rest)
            = counterKept topic (buffers.bufferMessage call).1 rest := by
          simp [counterKept, Bool.eq_false_iff.mpr lost]
        rw [step, ← tail, sequencesOn_returned_cons keeps positive, same]
        by_cases here : call.topic = topic ∧ buffers.accepts call = true
        · simp only [nextLog, if_pos here, same, Option.getD_some, List.length_append,
            List.length_singleton]
          simp only [List.singleton_append, List.pairwise_cons, List.forall_mem_cons]
          constructor
          · intro both
            rcases both with ⟨⟨head, sorted⟩, _⟩
            exact ⟨sorted, head⟩
          · intro both
            rcases both with ⟨sorted, above⟩
            exact ⟨⟨above, sorted⟩, by omega, fun seq member => by
              have := above seq member
              omega⟩
        · simp only [nextLog, if_neg here, same, List.nil_append]

/-- For every capacity, memory limit and run of calls, the sequence numbers handed out on a
topic increase strictly exactly when no message is put on the topic once the memory check
has erased its buffer.
-/
theorem sequences_increasing_iff_counterKept {bufferSizePerTopic : Nat}
    (positive : 0 < bufferSizePerTopic) (maxTotalMemoryBytes : Nat)
    (calls : List BufferCall) (topic : ByteString)
    : (sequencesOn topic
          ((create bufferSizePerTopic maxTotalMemoryBytes).returned calls)).Pairwise (· < ·)
      ↔ counterKept topic (create bufferSizePerTopic maxTotalMemoryBytes) calls = true := by
  have start := keeps_create bufferSizePerTopic maxTotalMemoryBytes topic
  rw [← start.increasing_iff positive calls]
  refine (and_iff_left ?_).symm
  intro seq member
  simp only [sequencesOn, List.mem_map, List.mem_filter, Bool.and_eq_true, bne_iff_ne] at member
  obtain ⟨result, ⟨_, _, nonzero⟩, rfl⟩ := member
  exact Nat.pos_of_ne_zero nonzero

/-- Three one-byte messages on the topics `a`, `b`, `a`. -/
def alternatingCalls : List BufferCall :=
  [[97], [98], [97]].map (fun topic => ⟨.asStored, 0, topic, [1]⟩)

theorem sequences_increasing_with_room
    : 0 < 2 ∧ (sequencesOn [97] ((create 2 3).returned alternatingCalls)).Pairwise (· < ·) :=
  ⟨by decide,
    (sequences_increasing_iff_counterKept (by decide) 3 alternatingCalls [97]).mpr (by decide)⟩

/-- One byte of memory: the message on `b` evicts topic `a`, whose second message is then
numbered one again.
-/
theorem sequences_restart_after_eviction
    : ¬(sequencesOn [97] ((create 2 1).returned alternatingCalls)).Pairwise (· < ·) := by
  decide

end NexusD.Core.TopicMessageBuffer
