import NexusD.Core.ReplayGaps
import NexusD.Services.DeliveryPosition

/-! From the deliveries of a subscription, over its pause, to the positions its
ResumeSubscribe asks the buffer for. The registry keeps one position for the subscription
while sequence numbers are counted per topic.
-/

namespace NexusD.Core.TopicMessageBuffer

/-- The messages a topic has in the buffer. -/
def storedOn (buffers : TopicMessageBuffer) (topic : ByteString) : List BufferedMessage :=
  ((buffers.topicBuffers.lookup topic).map TopicBuffer.messages).getD []

/-- Asked from a position on, the buffer returns exactly what it has above the position. -/
theorem Keeps.getMessagesForReplay_messages {buffers : TopicMessageBuffer}
    {topic : ByteString} {log : Option TopicLog} (keeps : buffers.Keeps topic log)
    (positive : 0 < buffers.bufferSizePerTopic) {position : Nat} (nonzero : position ≠ 0)
    : (buffers.getMessagesForReplay topic position).messages
      = (buffers.storedOn topic).filter (fun m => decide (position < m.sequenceNumber)) := by
  cases log with
  | none => simp [getMessagesForReplay_none keeps, storedOn, keeps.window]
  | some log =>
      have stored
        : (buffers.storedOn topic).filter (fun m => decide (position < m.sequenceNumber))
          = (log.numbered topic).drop
              (max position (log.length - buffers.bufferSizePerTopic)) := by
        simp only [storedOn, keeps.window, Option.map_some, Option.getD_some]
        exact TopicBuffer.getMessagesAfter_ofLog _ topic log position
      rw [stored]
      by_cases reached : log.length ≤ position
      · rw [getMessagesForReplay_upToDate keeps nonzero reached, eq_comm, List.drop_eq_nil_iff,
          length_numbered]
        exact reached.trans (Nat.le_max_left _ _)
      · rw [getMessagesForReplay_behind keeps positive nonzero (Nat.lt_of_not_le reached)]

end NexusD.Core.TopicMessageBuffer

namespace NexusD.Services.SidecarService

open NexusD.Core NexusD.Library

/-- The gap recovery a ResumeSubscribe performs in this state. -/
def resumeRecovery (service : SidecarService) (context : CallContext)
    (request : ResumeSubscribeRequest)
    : Recovery :=
  match service.registry.getPausedSubscription request.subscriptionId with
  | none => {}
  | some paused =>
      recover service.messageBuffer request paused.topics
        (service.registry.resumeSubscription context.now request.subscriptionId).2

/-- The stream ResumeSubscribe opens replays what the recovery gathered, after an info event
that reports it.
-/
theorem resumeSubscribe_stream {service : SidecarService} {request : ResumeSubscribeRequest}
    {paused : PausedSubscription}
    (found : service.registry.getPausedSubscription request.subscriptionId = some paused)
    (context : CallContext)
    : ((service.resumeSubscribe context request).1.streams service.nextStream).bind
          SubscriptionStream.reactor
      = some
          (.resume
            {
              currentEvent :=
                .subscriptionInfo
                  (resumeInfo request.subscriptionId paused.topics context.systemMs
                    (service.resumeRecovery context request))
              outstanding := 1
            }
            {
              gapRecoveryMode := request.gapRecoveryMode
              pendingReplay := (service.resumeRecovery context request).pendingReplay
            }) := by
  simp [resumeSubscribe, resumeRecovery, found, trackStream, onStream, setStream,
    attachResume, startResume, SubscriptionStream.startWrite, Reactor.mapWrite]

theorem asked_foldl_recoverTopic (buffer : TopicMessageBuffer)
    {request : ResumeSubscribeRequest} (mode : request.gapRecoveryMode = .replayBuffer)
    (paused : PausedSubscription) (topics : List ByteString) (recovery : Recovery)
    : (topics.foldl (recoverTopic buffer request paused) recovery).asked
      = recovery.asked ++ topics.map (fun topic => (topic, resumePosition request paused topic))
        := by
  induction topics generalizing recovery with
  | nil => simp
  | cons topic rest ih => simp [ih, recoverTopic, mode]

theorem pendingReplay_foldl_recoverTopic (buffer : TopicMessageBuffer)
    {request : ResumeSubscribeRequest} (mode : request.gapRecoveryMode = .replayBuffer)
    (paused : PausedSubscription) (topics : List ByteString) (recovery : Recovery)
    : (topics.foldl (recoverTopic buffer request paused) recovery).pendingReplay
      = recovery.pendingReplay
        ++ topics.flatMap (fun topic =>
            (buffer.getMessagesForReplay topic
              (resumePosition request paused topic)).messages.map replayEvent) := by
  induction topics generalizing recovery with
  | nil => simp
  | cons topic rest ih => simp [ih, recoverTopic, mode]

/-- Pausing saves the record's position. -/
theorem Follows.paused {service : SidecarService} {id : ByteString} {handle : Nat}
    {topics : List ByteString} {record : LocalSubscription}
    (follows : service.Follows id handle topics record) (context : CallContext)
    : (service.unsubscribe context ⟨id, true⟩).1.registry.getPausedSubscription id
      = some
          (PeerRegistry.pausedRecord record id context.now
            service.config.pausedSubscriptionTtl) := by
  rw [unsubscribe_registry]
  exact PeerRegistry.removeLocalSubscription_paused follows.recorded _ _

/-- Publishes and callbacks leave paused records alone. -/
theorem pausedSubscriptions_of_exec {start final : SidecarService} {requests : List Request}
    (run : exec SidecarService.step start requests = some final)
    (quiet : ∀ request ∈ requests, request.isQuiet = true)
    : final.registry.pausedSubscriptions = start.registry.pausedSubscriptions := by
  refine exec_invariant (fun _ request => request.isQuiet = true)
    (fun service =>
      service.registry.pausedSubscriptions = start.registry.pausedSubscriptions)
    rfl ?_ run ?_
  · intro service request after same still taken
    exact (quiet_of_step still taken).paused.trans same
  · intro earlier request later service split _
    exact quiet request (by simp [split])

/-- A record paused without per-topic positions, resumed in time without a client position,
asks for the saved position on every topic.
-/
theorem asked_resumeRecovery {service : SidecarService} (request : ResumeSubscribeRequest)
    {paused : PausedSubscription}
    (found : service.registry.getPausedSubscription request.subscriptionId = some paused)
    (mode : request.gapRecoveryMode = .replayBuffer)
    (unsent : request.lastSequenceNumber = 0) (unfilled : paused.topicSequences = ∅)
    {context : CallContext} (inTime : context.now ≤ paused.expiresAt)
    : (service.resumeRecovery context request).asked
        = paused.topics.map (fun topic => (topic, paused.lastDeliveredSequence))
      ∧ (service.resumeRecovery context request).pendingReplay
        = paused.topics.flatMap (fun topic =>
            (service.messageBuffer.getMessagesForReplay topic
              paused.lastDeliveredSequence).messages.map replayEvent) := by
  have position : ∀ topic, resumePosition request paused topic = paused.lastDeliveredSequence := by
    intro topic
    simp [resumePosition, unsent, unfilled]
  simp [resumeRecovery, found, recover, PeerRegistry.resumeSubscription_eq found inTime, mode,
    asked_foldl_recoverTopic _ mode, pendingReplay_foldl_recoverTopic _ mode, position]

/-- The number of the last delivery on `topic`. -/
def lastOn (topic : ByteString) (log : List (ByteString × Nat)) : Nat :=
  lastSequence 0 (log.filter (fun delivery => delivery.1 == topic))

/-- For each topic the recovery asks for the messages after `last` of that topic, and it
replays exactly the buffered messages above it.
-/
structure ResumesExactly (buffer : TopicMessageBuffer) (topics : List ByteString)
    (last : ByteString → Nat) (recovery : Recovery)
    : Prop where
  asked : recovery.asked = topics.map (fun topic => (topic, last topic))
  replayed
    : recovery.pendingReplay
      = topics.flatMap (fun topic =>
          ((buffer.storedOn topic).filter
            (fun m => decide (last topic < m.sequenceNumber))).map replayEvent)

theorem lastSequence_mem (initial : Nat) {log : List (ByteString × Nat)} (nonempty : log ≠ [])
    : ∃ delivery ∈ log, lastSequence initial log = delivery.2 := by
  induction log generalizing initial with
  | nil => exact absurd rfl nonempty
  | cons delivery rest ih =>
      cases rest with
      | nil => exact ⟨delivery, List.mem_cons_self, rfl⟩
      | cons next others =>
          obtain ⟨last, member, is⟩ := ih delivery.2 (List.cons_ne_nil next others)
          exact ⟨last, List.mem_cons_of_mem _ member, is⟩

theorem keeps_of_exec {config : ServiceConfig} {registry : PeerRegistry}
    {messageBufferSize maxBufferMemory : Nat} (positive : 0 < messageBufferSize)
    {requests : List Request} {final : SidecarService}
    (run
      : exec SidecarService.step (create config registry messageBufferSize maxBufferMemory)
          requests
        = some final)
    (topic : ByteString)
    : final.messageBuffer.bufferSizePerTopic = messageBufferSize
      ∧ ∃ log, final.messageBuffer.Keeps topic log := by
  have created :=
    TopicMessageBuffer.keeps_create messageBufferSize maxBufferMemory topic
  rw [exec_messageBuffer run]
  exact ⟨TopicMessageBuffer.afterCalls_sizes _ _, _, created.afterCalls positive _⟩

/-- A daemon runs for a while, a client subscribes, its stream takes every message on its
topics, the client pauses, others go on publishing, and the client resumes within the TTL.
-/
structure PausedRun (start : SidecarService) where
  history : List Request
  service : SidecarService
  started : exec SidecarService.step start history = some service
  subscribeContext : CallContext
  subscribeRequest : SubscribeRequest
  deliveries : List Request
  delivered : SidecarService
  run
    : exec SidecarService.step (service.subscribe subscribeContext subscribeRequest)
        deliveries
      = some delivered
  takes
    : Along SidecarService.step (service.subscribe subscribeContext subscribeRequest)
        (TakesAll service.nextStream subscribeRequest.topics) deliveries
  pauseContext : CallContext
  later : List Request
  final : SidecarService
  laterRun
    : exec SidecarService.step
        (delivered.unsubscribe pauseContext
          ⟨subscriptionIdOf service.subscriptionCounter subscribeContext.uuid, true⟩).1
        later
      = some final
  quiet : ∀ request ∈ later, request.isQuiet = true
  resumeContext : CallContext
  inTime
    : resumeContext.now
      ≤ pauseContext.now.addMilliseconds delivered.config.pausedSubscriptionTtl

namespace PausedRun

variable {start : SidecarService} (run : PausedRun start)

def id : ByteString :=
  subscriptionIdOf run.service.subscriptionCounter run.subscribeContext.uuid

def topics : List ByteString := run.subscribeRequest.topics

/-- The deliveries to the subscription before its pause. -/
def log : List (ByteString × Nat) :=
  deliveryLog run.topics (run.service.subscribe run.subscribeContext run.subscribeRequest)
    run.deliveries

/-- A replay is requested and no position is sent. -/
def resumeRequest : ResumeSubscribeRequest :=
  { subscriptionId := run.id, gapRecoveryMode := .replayBuffer }

def recovery : Recovery := run.final.resumeRecovery run.resumeContext run.resumeRequest

/-- The record the resume finds. -/
def paused : PausedSubscription :=
  {
    subscriptionId := run.id
    clientId := run.subscribeRequest.clientId
    topics := run.topics
    maxBufferSize := run.subscribeRequest.maxBufferSize
    lastDeliveredSequence := lastSequence 0 run.log
    pausedAt := run.pauseContext.now
    expiresAt :=
      run.pauseContext.now.addMilliseconds run.delivered.config.pausedSubscriptionTtl
  }

theorem getPausedSubscription_final (table : run.service.TableInvariant)
    : run.final.registry.getPausedSubscription run.id = some run.paused := by
  have follows :=
    (follows_subscribe table run.subscribeContext run.subscribeRequest).run run.run run.takes
  exact (congrArg (AList.lookup run.id)
    (pausedSubscriptions_of_exec run.laterRun run.quiet)).trans
    (follows.paused run.pauseContext)

theorem recovery_eq (table : run.service.TableInvariant)
    : run.recovery.asked = run.topics.map (fun topic => (topic, lastSequence 0 run.log))
      ∧ run.recovery.pendingReplay
        = run.topics.flatMap (fun topic =>
            (run.final.messageBuffer.getMessagesForReplay topic
              (lastSequence 0 run.log)).messages.map replayEvent) :=
  asked_resumeRecovery run.resumeRequest (run.getPausedSubscription_final table) rfl rfl rfl
    run.inTime

/-- All requests of the run, up to the resume. -/
def requests : List Request :=
  run.history
  ++ .subscribe run.subscribeContext run.subscribeRequest :: run.deliveries
  ++ .unsubscribe run.pauseContext ⟨run.id, true⟩ :: run.later

theorem exec_requests : exec SidecarService.step start run.requests = some run.final := by
  have subscribed
    : exec SidecarService.step start
        (run.history
          ++ .subscribe run.subscribeContext run.subscribeRequest :: run.deliveries)
      = some run.delivered := by
    rw [exec_append, run.started, Option.bind_some]
    exact run.run
  rw [requests, exec_append, subscribed, Option.bind_some]
  exact run.laterRun

end PausedRun

def deliverAll (service : SidecarService) (envelopes : List MessageEnvelope)
    : SidecarService :=
  envelopes.foldl (fun current envelope => (current.deliverFromRemote {} envelope).1) service

theorem exec_deliverAll (service : SidecarService) (envelopes : List MessageEnvelope)
    : exec SidecarService.step service (envelopes.map (Request.deliver {}))
      = some (service.deliverAll envelopes) := by
  induction envelopes generalizing service with
  | nil => rfl
  | cons envelope rest ih => exact ih _

theorem deliverAll_config (service : SidecarService) (envelopes : List MessageEnvelope)
    : (service.deliverAll envelopes).config = service.config := by
  induction envelopes generalizing service with
  | nil => rfl
  | cons envelope rest ih =>
      exact (ih _).trans (service.deliverFromRemote_quiet {} envelope).config

/-- A client of a small daemon is delivered `delivered`, pauses, and resumes after `missed`.
-/
def clientRun (topics : List ByteString) (delivered missed : List MessageEnvelope)
    (takes
      : Along SidecarService.step (smallDaemon.subscribe {} { topics }) (TakesAll 0 topics)
          (delivered.map (Request.deliver {})))
    : PausedRun smallDaemon where
  history := []
  service := smallDaemon
  started := rfl
  subscribeContext := {}
  subscribeRequest := { topics }
  deliveries := delivered.map (Request.deliver {})
  delivered := (smallDaemon.subscribe {} { topics }).deliverAll delivered
  run := exec_deliverAll _ delivered
  takes
  pauseContext := {}
  later := missed.map (Request.deliver {})
  final :=
    (((smallDaemon.subscribe {} { topics }).deliverAll delivered).unsubscribe {}
      ⟨subscriptionIdOf 0 [], true⟩).1.deliverAll missed
  laterRun := exec_deliverAll _ missed
  quiet := by
    intro request member
    obtain ⟨envelope, _, rfl⟩ := List.mem_map.mp member
    rfl
  resumeContext := {}
  inTime := by
    rw [deliverAll_config]
    exact (by decide : (0 : Int) ≤ TimePoint.addMilliseconds 0 300000)

/-- For every subscription in every reachable daemon, whatever it was delivered before its
pause and whatever is published after it: the resume picks up each topic exactly where it was
left if and only if the last delivery on every topic carried the number of the last delivery
of all.
-/
theorem resumesExactly_iff_same_last {config : ServiceConfig} {registry : PeerRegistry}
    (fresh : ∀ id, ¬registry.Knows id) {messageBufferSize : Nat}
    (positive : 0 < messageBufferSize) {maxBufferMemory : Nat}
    (run : PausedRun (create config registry messageBufferSize maxBufferMemory))
    (numbered : ∀ delivery ∈ run.log, delivery.2 ≠ 0)
    (each : ∀ topic ∈ run.topics, ∃ delivery ∈ run.log, delivery.1 = topic)
    : ResumesExactly run.final.messageBuffer run.topics (fun topic => lastOn topic run.log)
        run.recovery
      ↔ ∀ topic ∈ run.topics, lastOn topic run.log = lastSequence 0 run.log := by
  obtain ⟨asked, replay⟩ := run.recovery_eq (tableInvariant_of_exec fresh run.started)
  constructor
  · intro exact
    have same := asked.symm.trans exact.asked
    intro topic member
    exact (congrArg Prod.snd (List.map_inj_left.mp same topic member)).symm
  · intro same
    refine ⟨?_, ?_⟩
    · rw [asked]
      apply List.map_congr_left
      intro topic member
      rw [same topic member]
    · rw [replay]
      apply List.flatMap_congr
      intro topic member
      obtain ⟨sizes, log, keeps⟩ := keeps_of_exec positive run.exec_requests topic
      have nonzero : lastSequence 0 run.log ≠ 0 := by
        obtain ⟨delivery, delivered, _⟩ := each topic member
        obtain ⟨last, inLog, is⟩ := lastSequence_mem 0 (List.ne_nil_of_mem delivered)
        rw [is]
        exact numbered last inLog
      rw [keeps.getMessagesForReplay_messages (by rwa [sizes]) nonzero, same topic member]

/-- One message on each of two topics before the pause. -/
def evenRun : PausedRun smallDaemon :=
  clientRun [[97], [98]]
    [{ topic := [97], payload := [1] }, { topic := [98], payload := [1] }] []
    (by decide +kernel)

theorem resumesExactly_after_even_deliveries
    : ResumesExactly evenRun.final.messageBuffer evenRun.topics
        (fun topic => lastOn topic evenRun.log) evenRun.recovery :=
  (resumesExactly_iff_same_last (PeerRegistry.not_knows_fresh []) (by decide) evenRun
    (by decide +kernel) (by decide +kernel)).mpr (by decide +kernel)

/-- Two messages on topic `a`, then one on topic `b`. -/
def unevenRun : PausedRun smallDaemon :=
  clientRun [[97], [98]]
    [
      { topic := [97], payload := [1] },
      { topic := [97], payload := [2] },
      { topic := [98], payload := [1] }
    ]
    []
    (by decide +kernel)

/-- The delivery on `b` carried number 1, so message 2 of `a` is replayed although it was
delivered.
-/
theorem delivered_message_is_replayed
    : (∀ delivery ∈ unevenRun.log, delivery.2 ≠ 0)
      ∧ (∀ topic ∈ unevenRun.topics, ∃ delivery ∈ unevenRun.log, delivery.1 = topic)
      ∧ lastOn [97] unevenRun.log = 2
      ∧ unevenRun.recovery.pendingReplay
        = [replayEvent
            { sequenceNumber := 2, topic := [97], payload := [2], timestamp := 0 }]
      ∧ ¬ResumesExactly unevenRun.final.messageBuffer unevenRun.topics
          (fun topic => lastOn topic unevenRun.log) unevenRun.recovery := by
  refine ⟨by decide +kernel, by decide +kernel, by decide +kernel, by decide +kernel, ?_⟩
  intro exact
  exact absurd exact.asked (by decide +kernel)

end NexusD.Services.SidecarService
