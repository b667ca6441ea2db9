import NexusD.Services.ResumePhases

/-! The handover from replay to live delivery.
A resumed stream gets its messages from the replay only. What is buffered before the replay is
read is in it once; what is buffered after that reaches the stream neither way.
-/

namespace NexusD.Services

open NexusD.Core NexusD.Library

def replayNumber : MessageEvent → Option Nat
  | .replayMessage message => some message.sequenceNumber
  | _ => none

/-- The numbers of the messages a recovery has gathered. -/
def SidecarService.Recovery.numbers (recovery : SidecarService.Recovery) : List Nat :=
  recovery.pendingReplay.filterMap replayNumber

/-- The numbers of the messages in the `pendingReplay_` of a stream's reactor. -/
def ServiceThreads.replayedOn (state : ServiceThreads) (handle : Nat) : List Nat :=
  match (state.service.streams handle).bind SubscriptionStream.reactor with
  | some (.resume _ replay) => replay.pendingReplay.filterMap replayNumber
  | _ => []

namespace Handover

theorem numbers_numbered (topic : ByteString) (log : TopicLog)
    : (log.numbered topic).map BufferedMessage.sequenceNumber
      = List.range' 1 log.length := by
  rw [TopicLog.numbered, List.map_map]
  exact List.zipIdx_map_snd 1 log

theorem filterMap_replayNumber (messages : List BufferedMessage)
    : (messages.map SidecarService.replayEvent).filterMap replayNumber
      = messages.map BufferedMessage.sequenceNumber := by
  rw [List.filterMap_map]
  exact congrFun List.filterMap_eq_map' messages

/-- With room for the whole log in the ring, everything above the position is replayed. -/
theorem numbers_getMessagesForReplay {buffers : TopicMessageBuffer} {topic : ByteString}
    {entries : TopicLog} (holds : buffers.Holds topic entries)
    (room : entries.length ≤ buffers.bufferSizePerTopic) {position : Nat}
    (nonzero : position ≠ 0)
    : (buffers.getMessagesForReplay topic position).messages.map
          BufferedMessage.sequenceNumber
      = List.range' (position + 1) (entries.length - position) := by
  have stored : buffers.storedOn topic = (entries.numbered topic).drop 0 := by
    rw [TopicMessageBuffer.storedOn, holds.keeps.window, TopicMessageBuffer.logOf]
    by_cases empty : entries = []
    · simp [empty, TopicLog.numbered]
    · simp [empty, TopicBuffer.ofLog, TopicBuffer.tailOf, List.rtake, Nat.sub_eq_zero_of_le room]
  rw [holds.keeps.getMessagesForReplay_messages holds.positive nonzero, stored,
    filter_drop_numbered, Nat.max_zero, List.map_drop, numbers_numbered, List.drop_range']
  simp [Nat.add_comm]

variable (setup : Handover)

/-- The recovery has read the topic when `count` messages were buffered. -/
def Snapshot (recovery : SidecarService.Recovery) (count : Nat) : Prop :=
  recovery.numbers = List.range' (setup.position + 1) (count - setup.position)

variable {setup}

theorem Snapshot.mem_iff {recovery : SidecarService.Recovery} {count number : Nat}
    (snapshot : setup.Snapshot recovery count)
    : number ∈ recovery.numbers ↔ setup.position < number ∧ number ≤ count := by
  rw [snapshot, List.mem_range'_1]
  omega

theorem Snapshot.nodup {recovery : SidecarService.Recovery} {count : Nat}
    (snapshot : setup.Snapshot recovery count)
    : recovery.numbers.Nodup := by
  rw [snapshot]
  exact List.nodup_range'

theorem snapshot_recoverTopic {service : SidecarService} {entries : TopicLog}
    (holds : service.messageBuffer.Holds setup.topic entries)
    (room : entries.length ≤ service.messageBuffer.bufferSizePerTopic)
    : setup.Snapshot
        (SidecarService.recoverTopic service.messageBuffer setup.request setup.paused {}
          setup.topic)
        entries.length := by
  have nonzero : setup.position ≠ 0 := Nat.one_le_iff_ne_zero.mp setup.positioned
  simp only [Snapshot, SidecarService.Recovery.numbers, SidecarService.recoverTopic, setup.mode,
    List.nil_append, filterMap_replayNumber]
  exact numbers_getMessagesForReplay holds room nonzero

theorem Phase.replayedOn {state : ServiceThreads} {recovery : SidecarService.Recovery}
    (phase : setup.Phase state.service (.finished setup.handle recovery))
    : state.replayedOn setup.handle = recovery.numbers := by
  cases phase with
  | finished serving =>
      obtain ⟨stream, is, write, replay, set, pending⟩ := serving
      simp only [ServiceThreads.replayedOn, is, Option.bind_some, set, pending]
      rfl

-----------------------------------------------------------------------------------------
-- The invariant
-----------------------------------------------------------------------------------------

variable (setup)

/-- What holds in every state of the run. -/
structure Consistent (state : ServiceThreads) : Prop where
  table : state.service.TableInvariant
  sizes : state.service.messageBuffer.bufferSizePerTopic = setup.capacity
  nothingEntered : state.enteredOn setup.handle setup.topic = []
  phase : setup.Phase state.service (state.resumes 0)
  log
    : ∃ entries,
        state.service.messageBuffer.Holds setup.topic entries
        ∧ entries.length ≤ setup.capacity
        ∧ ∀ recovery ∈ (state.resumes 0).read?,
            ∃ count ≤ entries.length, setup.Snapshot recovery count

variable {setup}

theorem consistent_initial : setup.Consistent setup.initial := by
  have holds :=
    SidecarService.holds_of_exec
      (TopicMessageBuffer.holds_create setup.positive setup.topic) setup.started
  refine ⟨SidecarService.tableInvariant_of_exec setup.fresh setup.started,
    (SidecarService.keeps_of_exec setup.positive setup.started setup.topic).1, rfl,
    .idle rfl setup.found, _, holds, ?_, ?_⟩
  · rw [← lastNumber_of_holds holds]
    exact setup.room
  · intro recovery read
    cases read

/-- The number of the last message on the topic, one step later. -/
theorem lastNumber_step {state after : ServiceThreads} (consistent : setup.Consistent state)
    {action : ServiceThreads.Action} (taken : state.step action = some after)
    : after.service.lastNumber setup.topic
      = state.service.lastNumber setup.topic
        + (TopicMessageBuffer.entriesOn setup.topic action.bufferCall?.toList).length := by
  obtain ⟨entries, holds, _⟩ := consistent.log
  have after := holds.afterCalls action.bufferCall?.toList
  rw [← ServiceThreads.step_messageBuffer taken] at after
  rw [lastNumber_of_holds holds, lastNumber_of_holds after, List.length_append]

section Step

variable {state after : ServiceThreads} (consistent : setup.Consistent state)
include consistent

/-- Deliveries, from the call on: the resume stays where it is. -/
theorem Consistent.delivers {action : ServiceThreads.Action}
    (taken : state.step action = some after) (resumes : after.resumes = state.resumes)
    (quiet : SidecarService.Quiet state.service after.service)
    (same : after.service.streams setup.handle = state.service.streams setup.handle)
    (room : after.service.lastNumber setup.topic ≤ setup.capacity)
    : setup.Consistent after := by
  have deaf := consistent.phase.deaf consistent.table
  have buffer := ServiceThreads.step_messageBuffer taken
  obtain ⟨entries, holds, _, read⟩ := consistent.log
  have held := holds.afterCalls action.bufferCall?.toList
  rw [← buffer] at held
  refine ⟨ServiceThreads.tableInvariant_step consistent.table taken, ?_, ?_, ?_, _, held, ?_, ?_⟩
  · rw [buffer, TopicMessageBuffer.afterCalls_sizes]
    exact consistent.sizes
  · rw [ServiceThreads.enteredOn_step_of_deaf taken deaf]
    exact consistent.nothingEntered
  · rw [resumes]
    exact consistent.phase.quiet quiet same
  · rw [← lastNumber_of_holds held]
    exact room
  · intro recovery has
    rw [resumes] at has
    obtain ⟨count, le, snapshot⟩ := read recovery has
    exact ⟨count, le.trans (by simp), snapshot⟩

theorem Consistent.lastNumber_le : state.service.lastNumber setup.topic ≤ setup.capacity := by
  obtain ⟨entries, holds, room, _⟩ := consistent.log
  rw [lastNumber_of_holds holds]
  exact room

theorem Consistent.call {thread : Nat} {context : CallContext} {envelope : MessageEnvelope}
    (permits : setup.Permits state (.call thread context envelope))
    (taken : state.step (.call thread context envelope) = some after)
    : setup.Consistent after := by
  have grown := lastNumber_step consistent taken
  have room : after.service.lastNumber setup.topic ≤ setup.capacity := by
    rw [grown]
    by_cases on : envelope.topic = setup.topic
    · have space : state.service.lastNumber setup.topic < setup.capacity := permits on
      simpa [TopicMessageBuffer.entriesOn, ServiceThreads.Action.bufferCall?,
        MessageEnvelope.bufferCall, on, Nat.succ_le_iff] using space
    · simpa [TopicMessageBuffer.entriesOn, ServiceThreads.Action.bufferCall?,
        MessageEnvelope.bufferCall, on] using consistent.lastNumber_le
  cases ServiceThreads.move_of_step taken with
  | call =>
      exact consistent.delivers taken rfl (state.service.bufferEnvelope_quiet context envelope)
        rfl room

theorem Consistent.deliver {thread : Nat} {context : CallContext}
    (taken : state.step (.deliver thread context) = some after)
    : setup.Consistent after := by
  have grown := lastNumber_step consistent taken
  have room : after.service.lastNumber setup.topic ≤ setup.capacity := by
    rw [grown]
    exact consistent.lastNumber_le
  cases ServiceThreads.move_of_step taken with
  | deliver stands moved =>
      exact consistent.delivers taken rfl moved.quiet.1
        ((consistent.phase.deaf consistent.table).deliveryMove moved) room

theorem Consistent.resumeCall
    (taken : state.step (.resumeCall 0 setup.request) = some after)
    : setup.Consistent after := by
  obtain ⟨table, sizes, nothing, phase, entries, holds, room, _⟩ := consistent
  cases ServiceThreads.move_of_step taken with
  | refuse free missing =>
      rw [free] at phase
      cases phase with
      | idle waiting recorded => cases recorded.symm.trans missing
  | find free found =>
      rw [free] at phase
      cases phase with
      | idle waiting recorded =>
          cases recorded.symm.trans found
          refine ⟨table, sizes, nothing, ?_, entries, holds, room, ?_⟩
          · dsimp only
            rw [Function.update_self]
            exact .found waiting recorded
          · intro recovery read
            dsimp only at read
            rw [Function.update_self] at read
            cases read

theorem Consistent.resume {context : CallContext}
    (inTime : context.now ≤ setup.paused.expiresAt)
    (taken : state.step (.resume 0 context) = some after)
    : setup.Consistent after := by
  have table := ServiceThreads.tableInvariant_step consistent.table taken
  obtain ⟨_, sizes, nothing, phase, entries, holds, room, read⟩ := consistent
  obtain ⟨⟨service, pc⟩, moved, rfl⟩ := Option.map_eq_some_iff.mp taken
  have same := (ServiceThreads.resumeMove_of_step moved).messageBuffer
  refine ⟨table, ?_, nothing, ?_, entries, ?_, room, ?_⟩
  · exact (congrArg TopicMessageBuffer.bufferSizePerTopic same).trans sizes
  · dsimp only
    rw [Function.update_self]
    exact phase.resume inTime moved
  · exact same.symm ▸ holds
  · intro recovery has
    dsimp only at has
    rw [Function.update_self] at has
    rcases phase.reads_or moved with ⟨_, now⟩ | before
    · -- the replay is read now: it has everything that is buffered
      rw [now] at has
      cases has
      exact ⟨entries.length, Nat.le_refl _, snapshot_recoverTopic holds (sizes.symm ▸ room)⟩
    · rw [before] at has
      exact read recovery has

theorem Consistent.step {action : ServiceThreads.Action}
    (permits : setup.Permits state action) (taken : state.step action = some after)
    : setup.Consistent after := by
  cases action with
  | call thread context envelope => exact consistent.call permits taken
  | deliver thread context => exact consistent.deliver taken
  | resumeCall thread request =>
      obtain ⟨rfl, rfl⟩ := permits
      exact consistent.resumeCall taken
  | resume thread context =>
      obtain ⟨rfl, inTime⟩ := permits
      exact consistent.resume inTime taken
  | retain context request => exact absurd permits id
  | handle request => exact absurd permits id

end Step

-----------------------------------------------------------------------------------------
-- Exactly once
-----------------------------------------------------------------------------------------

variable (setup)

/-- Once the replay has been read, a message is buffered on the topic only if its number is
not above the position.
-/
def BuffersFirst (state : ServiceThreads) : ServiceThreads.Action → Prop
  | .call _ _ envelope =>
      envelope.topic = setup.topic
      → (state.resumes 0).read?.isSome = true
      → state.service.lastNumber setup.topic < setup.position
  | _ => True

/-- All that is buffered above the position is in the replay, once that has been read. -/
def Caught (state : ServiceThreads) : Prop :=
  ∀ recovery ∈ (state.resumes 0).read?,
    ∀ number,
      setup.position < number
      → number ≤ state.service.lastNumber setup.topic
      → number ∈ recovery.numbers

/-- The resume has returned. -/
def Finished (state : ServiceThreads) : Prop :=
  ∃ recovery, state.resumes 0 = .finished setup.handle recovery

/-- How often a message is in the replay followed by the queue. -/
def occurrences (state : ServiceThreads) (number : Nat) : Nat :=
  (state.replayedOn setup.handle ++ state.enteredOn setup.handle setup.topic).count number

/-- Every message above the position is once in the replay followed by the queue. -/
def ExactlyOnce (state : ServiceThreads) : Prop :=
  ∀ number,
    setup.position < number
    → number ≤ state.service.lastNumber setup.topic
    → setup.occurrences state number = 1

instance (state : ServiceThreads) : Decidable (setup.ExactlyOnce state) :=
  decidable_of_iff
    (∀ number ≤ state.service.lastNumber setup.topic,
      setup.position < number → setup.occurrences state number = 1)
    ⟨fun all number above issued => all number issued above,
      fun all number issued above => all number above issued⟩

variable {setup}

section Run

variable {state after : ServiceThreads}

theorem caught_congr (read : (after.resumes 0).read? = (state.resumes 0).read?)
    (number
      : after.service.lastNumber setup.topic = state.service.lastNumber setup.topic)
    : setup.Caught after ↔ setup.Caught state := by
  rw [Caught, Caught, read, number]

/-- A message buffered after the read is missing unless it is not above the position. -/
theorem Consistent.caught_call (consistent : setup.Consistent state) {thread : Nat}
    {context : CallContext} {envelope : MessageEnvelope}
    (taken : state.step (.call thread context envelope) = some after)
    : setup.Caught after
      ↔ setup.Caught state ∧ setup.BuffersFirst state (.call thread context envelope) := by
  have grown := lastNumber_step consistent taken
  have resumes : after.resumes = state.resumes := by
    cases ServiceThreads.move_of_step taken
    rfl
  obtain ⟨entries, holds, _, read⟩ := consistent.log
  by_cases on : envelope.topic = setup.topic
  · have next : after.service.lastNumber setup.topic = entries.length + 1 := by
      rw [grown, lastNumber_of_holds holds]
      simp [TopicMessageBuffer.entriesOn, ServiceThreads.Action.bufferCall?,
        MessageEnvelope.bufferCall, on]
    cases has : (state.resumes 0).read? with
    | none => simp [Caught, BuffersFirst, resumes, has]
    | some recovery =>
        obtain ⟨count, le, snapshot⟩ := read recovery has
        simp only [Caught, BuffersFirst, resumes, has, on, next, lastNumber_of_holds holds,
          Option.mem_def, Option.some.injEq, forall_eq', snapshot.mem_iff, Option.isSome_some,
          forall_const]
        constructor
        · intro all
          have below : entries.length < setup.position := by
            by_contra above
            have missing := all (entries.length + 1) (by omega) (Nat.le_refl _)
            omega
          refine ⟨?_, below⟩
          intro number above issued
          omega
        · intro both number above issued
          have below := both.2
          omega
  · have same : after.service.lastNumber setup.topic = state.service.lastNumber setup.topic := by
      rw [grown]
      simp [TopicMessageBuffer.entriesOn, ServiceThreads.Action.bufferCall?,
        MessageEnvelope.bufferCall, on]
    rw [caught_congr (by rw [resumes]) same]
    simp [BuffersFirst, on]

/-- Only the read and the calls after it decide. -/
theorem Consistent.caught_step (consistent : setup.Consistent state)
    {action : ServiceThreads.Action} (permits : setup.Permits state action)
    (taken : state.step action = some after)
    : setup.Caught after ↔ setup.Caught state ∧ setup.BuffersFirst state action := by
  have grown := lastNumber_step consistent taken
  cases action with
  | call thread context envelope => exact consistent.caught_call taken
  | deliver thread context =>
      refine Iff.trans (caught_congr ?_ grown) (and_iff_left trivial).symm
      cases ServiceThreads.move_of_step taken
      rfl
  | resumeCall thread request =>
      obtain ⟨rfl, rfl⟩ := permits
      refine Iff.trans (caught_congr ?_ grown) (and_iff_left trivial).symm
      cases ServiceThreads.move_of_step taken with
      | refuse => rfl
      | find free found => simp [free, ResumePc.read?]
  | resume thread context =>
      obtain ⟨rfl, _⟩ := permits
      refine Iff.trans ?_ (and_iff_left trivial).symm
      obtain ⟨entries, holds, room, _⟩ := consistent.log
      obtain ⟨⟨service, pc⟩, moved, rfl⟩ := Option.map_eq_some_iff.mp taken
      rcases consistent.phase.reads_or moved with ⟨unread, now⟩ | before
      · -- the replay is read now
        have snapshot := snapshot_recoverTopic holds (consistent.sizes.symm ▸ room)
        refine iff_of_true ?_ (by simp [Caught, unread])
        intro recovery has number above issued
        dsimp only at has
        rw [Function.update_self, now] at has
        cases has
        rw [grown, lastNumber_of_holds holds] at issued
        exact snapshot.mem_iff.mpr ⟨above, issued⟩
      · refine caught_congr ?_ grown
        dsimp only
        rw [Function.update_self]
        exact before
  | retain context request => exact absurd permits id
  | handle request => exact absurd permits id

/-- What the stream of a finished resume has is its replay. -/
theorem Consistent.occurrences_eq (consistent : setup.Consistent state)
    {recovery : SidecarService.Recovery}
    (finished : state.resumes 0 = .finished setup.handle recovery) (number : Nat)
    : setup.occurrences state number = if number ∈ recovery.numbers then 1 else 0 := by
  obtain ⟨entries, _, _, read⟩ := consistent.log
  obtain ⟨count, _, snapshot⟩ := read recovery (by rw [finished]; rfl)
  have phase := consistent.phase
  rw [finished] at phase
  rw [occurrences, phase.replayedOn, consistent.nothingEntered, List.append_nil,
    snapshot.nodup.count]

theorem Consistent.exactlyOnce_iff (consistent : setup.Consistent state)
    (finished : setup.Finished state)
    : setup.ExactlyOnce state ↔ setup.Caught state := by
  obtain ⟨recovery, pc⟩ := finished
  simp [ExactlyOnce, Caught, pc, ResumePc.read?, consistent.occurrences_eq pc]

end Run

/-- What holds after a run: its state is consistent, and the replay has everything exactly if
nothing above the position was buffered after the read.
-/
theorem consistent_run {actions : List ServiceThreads.Action} {final : ServiceThreads}
    (run : exec ServiceThreads.step setup.initial actions = some final)
    (permits : Along ServiceThreads.step setup.initial setup.Permits actions)
    : setup.Consistent final
      ∧ (setup.Caught final
        ↔ Along ServiceThreads.step setup.initial setup.BuffersFirst actions) := by
  refine exec_induction
    (motive := fun actions state =>
      Along ServiceThreads.step setup.initial setup.Permits actions
      → setup.Consistent state
        ∧ (setup.Caught state
          ↔ Along ServiceThreads.step setup.initial setup.BuffersFirst actions))
    ?_ ?_ run permits
  · intro _
    refine ⟨consistent_initial, iff_of_true ?_ along_nil⟩
    intro recovery read
    cases read
  · intro actions state action after reached ih taken permits
    obtain ⟨along, permitted⟩ := (along_snoc_iff reached).mp permits
    obtain ⟨consistent, caught⟩ := ih along
    refine ⟨consistent.step permitted taken, ?_⟩
    rw [along_snoc_iff reached, ← caught]
    exact consistent.caught_step permitted taken

/-- However the calls interleave, no message comes twice. Every message above the position
comes exactly once if and only if none of them is buffered after the replay has been read: the
call that delivers such a message hangs at the stream or has passed it before.
-/
theorem exactlyOnce_iff_buffersFirst (setup : Handover) {actions : List ServiceThreads.Action}
    {final : ServiceThreads}
    (run : exec ServiceThreads.step setup.initial actions = some final)
    (permits : Along ServiceThreads.step setup.initial setup.Permits actions)
    (finished : setup.Finished final)
    : (∀ number, setup.occurrences final number ≤ 1)
      ∧ (setup.ExactlyOnce final
        ↔ Along ServiceThreads.step setup.initial setup.BuffersFirst actions) := by
  obtain ⟨consistent, caught⟩ := consistent_run run permits
  constructor
  · intro number
    obtain ⟨recovery, pc⟩ := finished
    rw [consistent.occurrences_eq pc]
    split <;> omega
  · rw [consistent.exactlyOnce_iff finished, caught]

/-- A client of a daemon without limits was delivered one message on topic `a` and paused. -/
def pausedClient : Handover where
  config := { subscriberQueueLimit := 0 }
  registry := { localNodeId := [] }
  capacity := 5
  history :=
    [
      .subscribe {} { topics := [[97]] },
      .deliver {} { topic := [97], payload := [1] },
      .unsubscribe {} ⟨SidecarService.subscriptionIdOf 0 [], true⟩
    ]
  start :=
    ((((SidecarService.create { subscriberQueueLimit := 0 } { localNodeId := [] } 5 0).subscribe
      {} { topics := [[97]] }).deliverFromRemote {} { topic := [97], payload := [1] }).1.unsubscribe
        {} ⟨SidecarService.subscriptionIdOf 0 [], true⟩).1
  request :=
    { subscriptionId := SidecarService.subscriptionIdOf 0 [], gapRecoveryMode := .replayBuffer }
  paused :=
    {
      subscriptionId := SidecarService.subscriptionIdOf 0 []
      clientId := []
      topics := [[97]]
      maxBufferSize := 0
      lastDeliveredSequence := 1
      pausedAt := 0
      expiresAt := TimePoint.addMilliseconds 0 300000
    }
  topic := [97]
  fresh := PeerRegistry.not_knows_fresh []
  started := rfl
  found := rfl
  single := rfl
  mode := rfl
  positioned := by decide
  positive := by decide
  room := by decide +kernel

/-- One message on topic `a` is buffered and its matching streams are collected. -/
def publishNext (payload : UInt8) : List ServiceThreads.Action :=
  [.call 0 {} { topic := [97], payload := [payload] }, .deliver 0 {}]

/-- The second message is buffered and finds the stream in the table, which has no reactor
yet; then the replay is read.
-/
def publishThenRead : List ServiceThreads.Action :=
  [.resumeCall 0 pausedClient.request, .resume 0 {}]
  ++ publishNext 2
  ++ [.deliver 0 {}, .deliver 0 {}]
  ++ List.replicate 4 (.resume 0 {})

/-- The resume has returned when the second message is buffered. -/
def readThenPublish : List ServiceThreads.Action :=
  .resumeCall 0 pausedClient.request :: List.replicate 5 (.resume 0 {}) ++ publishNext 2

theorem buffersFirst_publishThenRead
    : ∃ final,
        exec ServiceThreads.step pausedClient.initial publishThenRead = some final
        ∧ final.replayedOn pausedClient.handle = [2]
        ∧ pausedClient.ExactlyOnce final
        ∧ Along ServiceThreads.step pausedClient.initial pausedClient.BuffersFirst
            publishThenRead := by
  have permits
    : Along ServiceThreads.step pausedClient.initial pausedClient.Permits publishThenRead := by
    decide +kernel
  refine ⟨_, rfl, by decide +kernel, by decide +kernel, ?_⟩
  exact (exactlyOnce_iff_buffersFirst pausedClient rfl permits ⟨_, rfl⟩).2.mp (by decide +kernel)

/-- The second message is in neither, and the call that delivers it never goes on. -/
theorem message_after_read_missing
    : ∃ final,
        exec ServiceThreads.step pausedClient.initial readThenPublish = some final
        ∧ Along ServiceThreads.step pausedClient.initial pausedClient.Permits readThenPublish
        ∧ pausedClient.Finished final
        ∧ final.service.lastNumber [97] = 2
        ∧ pausedClient.occurrences final 2 = 0
        ∧ (∀ context, final.step (.deliver 0 context) = none)
        ∧ ¬pausedClient.ExactlyOnce final := by
  refine ⟨_, rfl, by decide +kernel, ⟨_, rfl⟩, by decide +kernel, by decide +kernel, ?_,
    by decide +kernel⟩
  intro context
  rfl

end Handover

end NexusD.Services
