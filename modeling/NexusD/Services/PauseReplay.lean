import NexusD.Core.UnlimitedMemory
import NexusD.Services.ResumePosition

/-! Pause and resume of a subscription to one topic, with unlimited buffer memory: what the
resume replays of the messages published in between, and how many it reports as missed.
-/

namespace NexusD.Services.SidecarService

open NexusD.Core NexusD.Library TopicMessageBuffer

/-- What the requests contribute to the log of `topic`. -/
def publishedOn (topic : ByteString) (requests : List Request) : TopicLog :=
  entriesOn topic (requests.filterMap Request.bufferCall?)

theorem publishedOn_append (topic : ByteString) (earlier later : List Request)
    : publishedOn topic (earlier ++ later)
      = publishedOn topic earlier ++ publishedOn topic later := by
  rw [publishedOn, List.filterMap_append, entriesOn_append]
  rfl

variable {topic : ByteString} {entries : TopicLog} {service : SidecarService}

theorem holds_of_exec {start final : SidecarService}
    (holds : start.messageBuffer.Holds topic entries) {requests : List Request}
    (run : exec SidecarService.step start requests = some final)
    : final.messageBuffer.Holds topic (entries ++ publishedOn topic requests) := by
  rw [exec_messageBuffer run]
  exact holds.afterCalls _

theorem deliveredOn_eq (holds : service.messageBuffer.Holds topic entries)
    (context : CallContext) (envelope : MessageEnvelope)
    : deliveredOn [topic] service context envelope
      = (List.range' (entries.length + 1)
          (entriesOn topic [envelope.bufferCall context]).length).map
          (fun seq => (topic, seq)) := by
  by_cases here : envelope.topic = topic
  · subst topic
    have number : (service.bufferEnvelope context envelope).2 = entries.length + 1 :=
      holds.bufferMessage_seq
    have reported
      : (service.deliverFromRemote context envelope).2.sequenceNumber = entries.length + 1 :=
      number
    simp [deliveredOn, entriesOn, MessageEnvelope.bufferCall, reported]
  · simp [deliveredOn, entriesOn, MessageEnvelope.bufferCall, here]

theorem deliveryOf_eq (holds : service.messageBuffer.Holds topic entries) {handle : Nat}
    {request : Request} (takes : TakesAll handle [topic] service request)
    : deliveryOf [topic] service request
      = (List.range' (entries.length + 1) (publishedOn topic [request]).length).map
          (fun seq => (topic, seq)) := by
  cases request with
  | deliver context envelope => exact deliveredOn_eq holds context envelope
  | publish context request =>
      exact deliveredOn_eq (by rwa [retain_messageBuffer]) context _
  | writeDone => rfl
  | subscribe | unsubscribe | resumeSubscribe | cancel => exact takes.elim

/-- A stream that takes all messages of its topic is delivered each of them, under its number
in the topic's log.
-/
theorem deliveryLog_eq {final : SidecarService}
    (holds : service.messageBuffer.Holds topic entries) {handle : Nat}
    {requests : List Request} (run : exec SidecarService.step service requests = some final)
    (takes : Along SidecarService.step service (TakesAll handle [topic]) requests)
    : deliveryLog [topic] service requests
      = (List.range' (entries.length + 1) (publishedOn topic requests).length).map
          (fun seq => (topic, seq)) := by
  induction requests generalizing service entries with
  | nil => rfl
  | cons request rest ih =>
      rw [exec_cons] at run
      obtain ⟨next, taken, continues⟩ := Option.bind_eq_some_iff.mp run
      obtain ⟨first, later⟩ := along_cons_iff.mp takes
      have held
        : next.messageBuffer.Holds topic (entries ++ publishedOn topic [request]) :=
        holds_of_exec holds (by simpa using taken)
      have whole
        : publishedOn topic (request :: rest)
          = publishedOn topic [request] ++ publishedOn topic rest :=
        publishedOn_append topic [request] rest
      rw [deliveryLog, taken, Option.getD_some, ih held continues (later next taken), whole,
        deliveryOf_eq holds first, ← List.map_append]
      simp only [List.length_append, Nat.add_right_comm]
      rw [← List.range'_append_1]

theorem lastSequence_range' (topic : ByteString) (initial start count : Nat)
    : lastSequence initial
        ((List.range' start count).map (fun seq => (topic, seq)))
      = if count = 0 then initial else start + count - 1 := by
  cases count with
  | zero => rfl
  | succ count =>
      rw [List.range'_concat, List.map_append, lastSequence, List.foldl_append]
      simp

namespace PausedRun

variable {start : SidecarService} (run : PausedRun start)

/-- The messages published on `topic` while the subscription is paused, in order. -/
def missed (topic : ByteString) : List BufferedMessage :=
  acceptedOn topic run.delivered.messageBuffer (run.later.filterMap Request.bufferCall?)

/-- The reactor the resume leaves behind its new stream. -/
def resumed : Option Reactor :=
  ((run.final.resumeSubscribe run.resumeContext run.resumeRequest).1.streams
    run.final.nextStream).bind SubscriptionStream.reactor

/-- The log of the topic at the pause. -/
def before (topic : ByteString) : TopicLog :=
  publishedOn topic run.history ++ publishedOn topic run.deliveries

variable {topic : ByteString}

theorem holds_delivered (holds : start.messageBuffer.Holds topic [])
    : run.delivered.messageBuffer.Holds topic (run.before topic) := by
  have opened := (run.service.subscribe_opened run.subscribeContext run.subscribeRequest).buffer
  have history := holds_of_exec holds run.started
  rw [List.nil_append, ← opened] at history
  exact holds_of_exec history run.run

theorem missed_eq (holds : start.messageBuffer.Holds topic [])
    : run.missed topic
      = (TopicLog.numbered topic (run.before topic ++ publishedOn topic run.later)).drop
          (run.before topic).length :=
  (run.holds_delivered holds).acceptedOn_eq _

theorem holds_final (holds : start.messageBuffer.Holds topic [])
    : run.final.messageBuffer.Holds topic
        (run.before topic ++ publishedOn topic run.later) := by
  have closed := (run.delivered.unsubscribe_closed run.pauseContext ⟨run.id, true⟩).buffer
  have paused := run.holds_delivered holds
  rw [← closed] at paused
  exact holds_of_exec paused run.laterRun

/-- The saved position is the length of the topic's log, or zero if nothing was delivered. -/
theorem lastSequence_log (single : run.topics = [topic])
    (holds : start.messageBuffer.Holds topic [])
    : (run.log = [] ↔ publishedOn topic run.deliveries = [])
      ∧ lastSequence 0 run.log = if run.log = [] then 0 else (run.before topic).length := by
  have opened := (run.service.subscribe_opened run.subscribeContext run.subscribeRequest).buffer
  have history := holds_of_exec holds run.started
  rw [List.nil_append, ← opened] at history
  have takes := run.takes
  rw [show run.subscribeRequest.topics = [topic] from single] at takes
  have log := deliveryLog_eq history run.run takes
  rw [PausedRun.log, single, log]
  refine ⟨by simp, ?_⟩
  rw [lastSequence_range']
  simp only [List.map_eq_nil_iff, List.range'_eq_nil_iff, before, List.length_append]
  split
  · rfl
  · omega

/-- With one topic the recovery is the buffer's one answer. -/
theorem recovery_single (single : run.topics = [topic]) (table : run.service.TableInvariant)
    : let answer :=
        run.final.messageBuffer.getMessagesForReplay topic (lastSequence 0 run.log)
      run.recovery.pendingReplay = answer.messages.map replayEvent
      ∧ run.recovery.totalMissed = if answer.gapDetected then answer.missedCount else 0 := by
  have found := run.getPausedSubscription_final table
  have topics : run.paused.topics = [topic] := single
  have position : resumePosition run.resumeRequest run.paused topic = lastSequence 0 run.log :=
    rfl
  have recovery
    : run.recovery
      = recoverTopic run.final.messageBuffer run.resumeRequest run.paused {} topic := by
    simp only [PausedRun.recovery, resumeRecovery, show run.resumeRequest.subscriptionId = run.id
      from rfl, found, PeerRegistry.resumeSubscription_eq found run.inTime, topics]
    rfl
  rw [recovery]
  simp only [recoverTopic, show run.resumeRequest.gapRecoveryMode = .replayBuffer from rfl,
    position, List.nil_append, Nat.zero_add, and_self]

/-- What the resumed reactor reports and replays is what the recovery gathered. -/
theorem resumed_eq (table : run.service.TableInvariant)
    : ∃ write replay info,
        run.resumed = some (.resume write replay)
        ∧ write.currentEvent = .subscriptionInfo info
        ∧ replay.pendingReplay = run.recovery.pendingReplay
        ∧ info.missedMessageCount = Int.bmod run.recovery.totalMissed (2 ^ 32) := by
  have found := run.getPausedSubscription_final table
  refine ⟨_, _, _, resumeSubscribe_stream found run.resumeContext, rfl, rfl, ?_⟩
  simp only [resumeInfo, PausedRun.recovery]

end PausedRun

/-- The reactor is about to write a subscription info that reports `missed` lost messages,
and then replays `messages`.
-/
def Replays (reactor : Option Reactor) (messages : List BufferedMessage) (missed : Nat)
    : Prop :=
  ∃ write replay info,
    reactor = some (.resume write replay)
    ∧ write.currentEvent = .subscriptionInfo info
    ∧ replay.pendingReplay = messages.map replayEvent
    ∧ info.missedMessageCount = missed

theorem PausedRun.replays_iff {start : SidecarService} (run : PausedRun start)
    (table : run.service.TableInvariant) (messages : List BufferedMessage) (missed : Nat)
    : Replays run.resumed messages missed
      ↔ run.recovery.pendingReplay = messages.map replayEvent
        ∧ Int.bmod run.recovery.totalMissed (2 ^ 32) = missed := by
  obtain ⟨write, replay, info, is, reports, queued, counted⟩ := run.resumed_eq table
  rw [← queued, ← counted]
  constructor
  · intro replays
    rcases replays with ⟨write', replay', info', is', reports', queued', counted'⟩
    rw [is] at is'
    cases is'
    rw [reports] at reports'
    cases reports'
    exact ⟨queued', counted'⟩
  · intro both
    rcases both with ⟨queued', counted'⟩
    exact ⟨write, replay, info, is, reports, queued', counted'⟩

theorem bmod_natCast_eq_self_iff (count : Nat)
    : Int.bmod count (2 ^ 32) = count ↔ count < 2 ^ 31 := by
  rw [Int.bmod_def]
  split <;> omega

section OneTopic

variable {start : SidecarService} (run : PausedRun start) {topic : ByteString}
    (single : run.topics = [topic]) (table : run.service.TableInvariant)
    (holds : start.messageBuffer.Holds topic [])
include single table holds

/-- With a saved position, the replay and the count are exact. -/
theorem PausedRun.recovery_of_delivered (delivered : run.log ≠ [])
    : run.recovery.pendingReplay
        = ((run.missed topic).rtake run.final.messageBuffer.bufferSizePerTopic).map replayEvent
      ∧ run.recovery.totalMissed
        = (run.missed topic).length
          - min (run.missed topic).length run.final.messageBuffer.bufferSizePerTopic := by
  obtain ⟨queued, counted⟩ := run.recovery_single single table
  obtain ⟨none, position⟩ := run.lastSequence_log single holds
  rw [if_neg delivered] at position
  have nonzero : (run.before topic).length ≠ 0 := by
    have some : publishedOn topic run.deliveries ≠ [] := fun empty => delivered (none.mpr empty)
    simp [PausedRun.before, some]
  obtain ⟨messages, missed⟩ :=
    (run.holds_final holds).replay_from nonzero (by simp)
  rw [queued, counted, position, messages, missed, run.missed_eq holds]
  refine ⟨?_, ?_⟩
  · simp only [List.rtake, List.drop_drop, List.length_drop, length_numbered,
      List.length_append]
    congr 2
    omega
  · simp only [List.length_drop, length_numbered, List.length_append]
    omega

/-- Without one, only the latest message is replayed, and nothing is counted. -/
theorem PausedRun.recovery_of_undelivered (undelivered : run.log = [])
    : run.recovery.pendingReplay
        = (TopicLog.numbered topic (run.before topic ++ publishedOn topic run.later)
            ).getLast?.toList.map replayEvent
      ∧ run.recovery.totalMissed = 0 := by
  obtain ⟨queued, counted⟩ := run.recovery_single single table
  obtain ⟨_, position⟩ := run.lastSequence_log single holds
  rw [if_pos undelivered] at position
  rw [queued, counted, position, (run.holds_final holds).replay_from_start]
  exact ⟨rfl, rfl⟩

end OneTopic

theorem PausedRun.publishedOn_requests {start : SidecarService} (run : PausedRun start)
    (topic : ByteString)
    : publishedOn topic run.requests
      = run.before topic ++ publishedOn topic run.later := by
  have subscribed (context request rest)
      : publishedOn topic (.subscribe context request :: rest) = publishedOn topic rest := rfl
  have unsubscribed (context request rest)
      : publishedOn topic (.unsubscribe context request :: rest) = publishedOn topic rest :=
    rfl
  rw [PausedRun.requests, publishedOn_append, publishedOn_append, subscribed, unsubscribed,
    PausedRun.before]

/-- The latest message is all that was missed exactly when one message was, or none and there
is no latest message.
-/
theorem latest_replay_iff {start : SidecarService} {topic : ByteString}
    (holds : start.messageBuffer.Holds topic []) (run : PausedRun start) {capacity : Nat}
    (positive : 0 < capacity)
    : ((TopicLog.numbered topic (run.before topic ++ publishedOn topic run.later)
          ).getLast?.toList.map replayEvent
        = ((run.missed topic).rtake capacity).map replayEvent
        ∧ Int.bmod (0 : Nat) (2 ^ 32)
          = ((run.missed topic).length - min (run.missed topic).length capacity : Nat))
      ↔ (run.missed topic).length = 1 ∨ publishedOn topic run.requests = [] := by
  rw [run.publishedOn_requests, run.missed_eq holds]
  generalize run.before topic = before
  generalize publishedOn topic run.later = later
  constructor
  · intro both
    rcases both with ⟨queued, counted⟩
    by_cases empty : before ++ later = []
    · exact Or.inr empty
    · -- one message is replayed, and none of the missed ones is lost
      have nonempty : TopicLog.numbered topic (before ++ later) ≠ [] := by
        rw [← List.length_pos_iff, length_numbered]
        exact List.length_pos_iff.mpr empty
      have lengths := congrArg List.length queued
      rw [List.getLast?_eq_some_getLast nonempty] at lengths
      simp only [Option.toList_some, List.map_cons, List.map_nil, List.length_singleton,
        List.length_map, List.rtake, List.length_drop, length_numbered,
        List.length_append] at lengths counted ⊢
      simp at counted
      omega
  · intro either
    rcases either with one | none
    · simp only [List.length_drop, length_numbered, List.length_append,
        Nat.add_sub_cancel_left] at one
      obtain ⟨entry, rfl⟩ := List.length_eq_one_iff.mp one
      have last
        : (TopicLog.numbered topic (before ++ [entry])).drop before.length
          = [entry.stored topic (before.length + 1)] := by
        rw [drop_numbered_append]
        rfl
      rw [last, numbered_concat, List.getLast?_concat]
      refine ⟨?_, ?_⟩
      · rw [List.rtake, List.length_singleton, Nat.sub_eq_zero_of_le positive]
        rfl
      · rw [List.length_singleton, Nat.min_eq_left positive]
        rfl
    · simp [none, TopicLog.numbered]

/-- For every capacity, every run before the pause and everything published after it: the
resume of a subscription to one topic replays exactly what the ring still holds of the
messages published during the pause and counts the others as missed if and only if

* something had been delivered to the subscription before the pause, and the count fits the
  signed 32-bit field, or
* nothing had been delivered, and one message was published during the pause, or none ever.
-/
theorem replays_missed_iff {config : ServiceConfig} {registry : PeerRegistry}
    (fresh : ∀ id, ¬registry.Knows id) {capacity : Nat} (positive : 0 < capacity)
    (run : PausedRun (create config registry capacity 0)) {topic : ByteString}
    (single : run.topics = [topic])
    : Replays run.resumed ((run.missed topic).rtake capacity)
        ((run.missed topic).length - min (run.missed topic).length capacity)
      ↔ run.log ≠ []
          ∧ (run.missed topic).length - min (run.missed topic).length capacity < 2 ^ 31
        ∨ run.log = []
          ∧ ((run.missed topic).length = 1 ∨ publishedOn topic run.requests = []) := by
  have table := tableInvariant_of_exec fresh run.started
  have holds := holds_create positive topic
  have sizes := (keeps_of_exec positive run.exec_requests topic).1
  rw [run.replays_iff table]
  by_cases undelivered : run.log = []
  · obtain ⟨queued, counted⟩ :=
      run.recovery_of_undelivered single table holds undelivered
    rw [queued, counted]
    simp only [undelivered, ne_eq, not_true_eq_false, false_and, true_and, false_or]
    exact latest_replay_iff holds run positive
  · obtain ⟨queued, counted⟩ := run.recovery_of_delivered single table holds undelivered
    rw [queued, counted, sizes, bmod_natCast_eq_self_iff]
    simp [undelivered]

/-- One message before the pause and two during it. -/
def startedRun : PausedRun smallDaemon :=
  clientRun [[97]] [{ topic := [97], payload := [1] }]
    [{ topic := [97], payload := [2] }, { topic := [97], payload := [3] }] (by decide +kernel)

theorem replays_missed_after_a_delivery
    : Replays startedRun.resumed ((startedRun.missed [97]).rtake 5)
        ((startedRun.missed [97]).length - min (startedRun.missed [97]).length 5) :=
  (replays_missed_iff (PeerRegistry.not_knows_fresh []) (by decide) startedRun rfl).mpr
    (Or.inl (by decide +kernel))

/-- Nothing before the pause and two messages during it. -/
def unstartedRun : PausedRun smallDaemon :=
  clientRun [[97]] []
    [{ topic := [97], payload := [1] }, { topic := [97], payload := [2] }] (by decide +kernel)

/-- The ring of five still holds both messages; only the second one is replayed, and none is
reported as missed.
-/
theorem first_missed_message_is_lost
    : unstartedRun.topics = [[97]]
      ∧ unstartedRun.missed [97] = [⟨1, [97], [1], 0⟩, ⟨2, [97], [2], 0⟩]
      ∧ Replays unstartedRun.resumed [⟨2, [97], [2], 0⟩] 0
      ∧ ¬Replays unstartedRun.resumed ((unstartedRun.missed [97]).rtake 5)
          ((unstartedRun.missed [97]).length - min (unstartedRun.missed [97]).length 5) := by
  refine ⟨rfl, by decide +kernel, ⟨_, _, _, rfl, rfl, by decide +kernel, by decide +kernel⟩, ?_⟩
  intro replays
  rcases replays with ⟨write, replay, info, is, reports, queued, _⟩
  cases is
  exact absurd queued (by decide +kernel)

end NexusD.Services.SidecarService
