import NexusD.Core.BufferHistory
import NexusD.Services.SidecarService

/-! What deliveries and callbacks leave alone.
Only Subscribe, Unsubscribe and ResumeSubscribe change which subscriptions and streams there
are. Everything else works inside the streams that exist and moves delivery positions.
-/

namespace NexusD.Services

open NexusD.Core NexusD.Library

/-- What a stream is for as long as it exists: its subscription, its topics and the class of
its reactor.
-/
structure StreamIdentity where
  subscriptionId : ByteString
  topics : List ByteString
  reactorIsSubscribe : Option Bool

namespace SubscriptionStream

def identity (stream : SubscriptionStream) : StreamIdentity :=
  ⟨stream.subscriptionId, stream.topics, stream.reactor.map Reactor.isSubscribe⟩

@[simp]
theorem startWrite_identity (stream : SubscriptionStream) (event : MessageEvent)
    : (stream.startWrite event).identity = stream.identity := by
  simp [identity, startWrite, Function.comp_def]

theorem claimWrite_identity (stream : SubscriptionStream) (now : TimePoint)
    : (stream.claimWrite now).identity = stream.identity := by
  unfold claimWrite
  split
  · rfl
  · split
    · exact startWrite_identity _ _
    · rfl

theorem enqueueMessage_identity (stream : SubscriptionStream) (now : TimePoint)
    (event : MessageEvent) (ttlMs : Int)
    : (stream.enqueueMessage now event ttlMs).1.identity = stream.identity := by
  unfold enqueueMessage
  split
  · rfl
  · dsimp only
    split
    · exact claimWrite_identity _ now
    · rfl

theorem drainQueue_identity (stream : SubscriptionStream) (now : TimePoint)
    : (stream.drainQueue now).identity = stream.identity := by
  unfold drainQueue
  split
  · rfl
  · split
    · exact startWrite_identity _ _
    · rfl

theorem answerWrite_identity (stream : SubscriptionStream)
    : stream.answerWrite.identity = stream.identity := by
  simp [identity, answerWrite, Function.comp_def]

theorem onWriteDone_identity (stream : SubscriptionStream) (now : TimePoint) (systemMs : Int)
    (ok : Bool)
    : (stream.onWriteDone now systemMs ok).identity = stream.identity := by
  rw [← answerWrite_identity stream]
  unfold onWriteDone
  dsimp only
  split
  · simp [identity, finish, Function.comp_def]
  · split
    · rename_i write replay resumes
      split
      · simp [identity, startWrite, resumes, Reactor.mapWrite, Reactor.isSubscribe]
      · split
        · simp [identity, startWrite, resumes, Reactor.mapWrite, Reactor.isSubscribe]
        · exact drainQueue_identity _ now
    · exact drainQueue_identity _ now
    · exact drainQueue_identity _ now

open SubscriberQueue (SameSettings)

theorem claimWrite_settings (stream : SubscriptionStream) (now : TimePoint)
    : SameSettings stream.messageQueue (stream.claimWrite now).messageQueue := by
  have settings := stream.messageQueue.dequeue_settings now
  unfold claimWrite
  split
  · exact .refl _
  · split
    · rename_i queue event taken
      rwa [taken] at settings
    · rename_i queue taken
      rwa [taken] at settings

theorem enqueueMessage_settings (stream : SubscriptionStream) (now : TimePoint)
    (event : MessageEvent) (ttlMs : Int)
    : SameSettings stream.messageQueue
        (stream.enqueueMessage now event ttlMs).1.messageQueue := by
  have settings := stream.messageQueue.enqueue_settings now event ttlMs
  unfold enqueueMessage
  split
  · exact .refl _
  · dsimp only
    split
    · refine settings.trans ?_
      exact claimWrite_settings
        { stream with messageQueue := (stream.messageQueue.enqueue now event ttlMs).1 } now
    · exact settings

theorem drainQueue_settings (stream : SubscriptionStream) (now : TimePoint)
    : SameSettings stream.messageQueue (stream.drainQueue now).messageQueue := by
  have settings := stream.messageQueue.dequeue_settings now
  unfold drainQueue
  split
  · exact .refl _
  · split
    · rename_i queue event taken
      rwa [taken] at settings
    · rename_i queue taken
      rwa [taken] at settings

theorem onWriteDone_settings (stream : SubscriptionStream) (now : TimePoint) (systemMs : Int)
    (ok : Bool)
    : SameSettings stream.messageQueue
        (stream.onWriteDone now systemMs ok).messageQueue := by
  unfold onWriteDone
  dsimp only
  split
  · exact .refl _
  · split
    · split
      · exact .refl _
      · split
        · exact .refl _
        · exact stream.answerWrite.drainQueue_settings now
    · exact stream.answerWrite.drainQueue_settings now
    · exact stream.answerWrite.drainQueue_settings now

end SubscriptionStream

namespace SidecarService

/-- A subscription without its delivery position. -/
def unpositioned (subscription : LocalSubscription) : LocalSubscription :=
  { subscription with lastDeliveredSequence := 0 }

/-- No subscription and no stream comes, goes or changes its identity. -/
structure Quiet (before after : SidecarService) : Prop where
  config : after.config = before.config
  counter : after.subscriptionCounter = before.subscriptionCounter
  nextStream : after.nextStream = before.nextStream
  activeStreams : after.activeStreams = before.activeStreams
  streams
    : ∀ handle,
        (after.streams handle).map SubscriptionStream.identity
        = (before.streams handle).map SubscriptionStream.identity
  paused : after.registry.pausedSubscriptions = before.registry.pausedSubscriptions
  locals
    : ∀ id,
        (after.registry.localSubscriptions.lookup id).map unpositioned
        = (before.registry.localSubscriptions.lookup id).map unpositioned

namespace Quiet

theorem refl (service : SidecarService) : Quiet service service :=
  ⟨rfl, rfl, rfl, rfl, fun _ => rfl, rfl, fun _ => rfl⟩

theorem trans {first second third : SidecarService} (earlier : Quiet first second)
    (later : Quiet second third)
    : Quiet first third where
  config := later.config.trans earlier.config
  counter := later.counter.trans earlier.counter
  nextStream := later.nextStream.trans earlier.nextStream
  activeStreams := later.activeStreams.trans earlier.activeStreams
  streams handle := (later.streams handle).trans (earlier.streams handle)
  paused := later.paused.trans earlier.paused
  locals id := (later.locals id).trans (earlier.locals id)

end Quiet

theorem setStream_quiet {service : SidecarService} {handle : Nat}
    {old new : SubscriptionStream} (found : service.streams handle = some old)
    (same : new.identity = old.identity)
    : Quiet service (service.setStream handle new) := by
  refine { Quiet.refl service with streams := ?_ }
  intro other
  by_cases is : other = handle
  · subst other
    simp [setStream, found, same]
  · simp [setStream, is]

@[simp]
theorem onStream_messageBuffer (service : SidecarService) (handle : Nat)
    (method : SubscriptionStream → SubscriptionStream)
    : (service.onStream handle method).messageBuffer = service.messageBuffer := by
  unfold onStream
  split <;> rfl

@[simp]
theorem onStream_registry (service : SidecarService) (handle : Nat)
    (method : SubscriptionStream → SubscriptionStream)
    : (service.onStream handle method).registry = service.registry := by
  unfold onStream
  split <;> rfl

@[simp]
theorem onStream_counter (service : SidecarService) (handle : Nat)
    (method : SubscriptionStream → SubscriptionStream)
    : (service.onStream handle method).subscriptionCounter
      = service.subscriptionCounter := by
  unfold onStream
  split <;> rfl

theorem onStream_streams (service : SidecarService) (handle : Nat)
    (method : SubscriptionStream → SubscriptionStream) (other : Nat)
    : (service.onStream handle method).streams other
      = if other = handle then (service.streams other).map method
        else service.streams other := by
  unfold onStream
  split
  · rename_i missing
    by_cases same : other = handle
    · simp [same, missing]
    · simp [same]
  · rename_i stream is
    by_cases same : other = handle
    · simp [same, is, setStream]
    · simp [same, setStream]

theorem onStream_quiet (service : SidecarService) (handle : Nat)
    {method : SubscriptionStream → SubscriptionStream}
    (same : ∀ stream, (method stream).identity = stream.identity)
    : Quiet service (service.onStream handle method) := by
  unfold onStream
  split
  · exact .refl service
  · rename_i stream found
    exact setStream_quiet found (same stream)

-----------------------------------------------------------------------------------------
-- Delivery
-----------------------------------------------------------------------------------------

theorem bufferEnvelope_quiet (service : SidecarService) (context : CallContext)
    (envelope : MessageEnvelope)
    : Quiet service (service.bufferEnvelope context envelope).1 :=
  ⟨rfl, rfl, rfl, rfl, fun _ => rfl, rfl, fun _ => rfl⟩

theorem deliverTo_quiet (service : SidecarService) (context : CallContext)
    (envelope : MessageEnvelope) (sequenceNumber handle : Nat)
    : Quiet service (service.deliverTo context envelope sequenceNumber handle).1 := by
  unfold deliverTo
  split
  · exact .refl service
  · rename_i stream found
    split
    · exact .refl service
    · exact .refl service
    · exact setStream_quiet found (stream.enqueueMessage_identity _ _ _)

theorem updateSubscriptionSequence_unpositioned (registry : PeerRegistry)
    (subscriptionId topic : ByteString) (sequence : Nat) (id : ByteString)
    : ((registry.updateSubscriptionSequence subscriptionId topic
        sequence).localSubscriptions.lookup id).map unpositioned
      = (registry.localSubscriptions.lookup id).map unpositioned := by
  by_cases same : id = subscriptionId
  · subst id
    cases active : registry.localSubscriptions.lookup subscriptionId with
    | none => simp [PeerRegistry.updateSubscriptionSequence, active]
    | some subscription =>
        rw [PeerRegistry.updateSubscriptionSequence_same active]
        rfl
  · rw [PeerRegistry.updateSubscriptionSequence_other same]

theorem recordDelivery_quiet (service : SidecarService) (handle : Nat) (topic : ByteString)
    (sequenceNumber : Nat)
    : Quiet service (service.recordDelivery handle topic sequenceNumber) := by
  unfold recordDelivery
  split
  · exact .refl service
  · rename_i stream found
    exact { Quiet.refl service with
      paused := PeerRegistry.updateSubscriptionSequence_paused _ _ topic _
      locals := updateSubscriptionSequence_unpositioned _ _ topic _ }

theorem deliverRound_quiet (service : SidecarService) (context : CallContext)
    (envelope : MessageEnvelope) (sequenceNumber handle : Nat)
    : Quiet service (service.deliverRound context envelope sequenceNumber handle).1 := by
  have delivered := service.deliverTo_quiet context envelope sequenceNumber handle
  unfold deliverRound
  split
  · rename_i next taken
    rw [taken] at delivered
    exact delivered.trans (next.recordDelivery_quiet _ _ _)
  · rename_i next result _ taken
    rw [taken] at delivered
    exact delivered

section Cons

variable (context : CallContext) (envelope : MessageEnvelope) (sequenceNumber : Nat)
  {service : SidecarService} {handle : Nat}

/-- Behind a stream that it miscasts the loop does nothing. -/
theorem deliverToAll_cons_of_miscasts (hangs : service.miscasts handle = true) (rest : List Nat)
    : deliverToAll context envelope sequenceNumber service (handle :: rest) = (service, []) := by
  rw [deliverToAll, if_pos hangs]

theorem deliverToAll_cons (casts : service.miscasts handle = false) (rest : List Nat)
    : deliverToAll context envelope sequenceNumber service (handle :: rest)
      = ((deliverToAll context envelope sequenceNumber
            (service.deliverRound context envelope sequenceNumber handle).1 rest).1,
          ((service.deliverRound context envelope sequenceNumber handle).2.map
              (handle, ·)).toList
            ++ (deliverToAll context envelope sequenceNumber
              (service.deliverRound context envelope sequenceNumber handle).1 rest).2) := by
  rw [deliverToAll, casts]
  rfl

end Cons

/-- What every round keeps, the loop keeps, however far it gets. By induction over the streams
it visits.
-/
theorem deliverToAll_induction {context : CallContext} {envelope : MessageEnvelope}
    {sequenceNumber : Nat} {motive : SidecarService → SidecarService → Prop}
    (stop : ∀ service, motive service service)
    (round
      : ∀ service handle final,
          motive (service.deliverRound context envelope sequenceNumber handle).1 final
          → motive service final)
    (service : SidecarService) (handles : List Nat)
    : motive service (deliverToAll context envelope sequenceNumber service handles).1 := by
  induction handles generalizing service with
  | nil => exact stop service
  | cons handle rest ih =>
      unfold deliverToAll
      split
      · exact stop service
      · exact round service handle _ (ih _)

theorem deliverToAll_quiet (context : CallContext) (envelope : MessageEnvelope)
    (sequenceNumber : Nat) (service : SidecarService) (handles : List Nat)
    : Quiet service (deliverToAll context envelope sequenceNumber service handles).1 :=
  deliverToAll_induction (motive := Quiet) .refl
    (fun service handle _ later =>
      (service.deliverRound_quiet context envelope sequenceNumber handle).trans later)
    service handles

theorem deliverFromRemote_quiet (service : SidecarService) (context : CallContext)
    (envelope : MessageEnvelope)
    : Quiet service (service.deliverFromRemote context envelope).1 :=
  (service.bufferEnvelope_quiet context envelope).trans (deliverToAll_quiet _ _ _ _ _)

theorem retain_quiet (service : SidecarService) (context : CallContext)
    (request : PublishRequest)
    : Quiet service (service.retain context request) := by
  unfold retain
  split
  · exact ⟨rfl, rfl, rfl, rfl, fun _ => rfl, rfl, fun _ => rfl⟩
  · exact .refl service

/-- Apart from its answer and its pushes, a Publish is a delivery to itself. -/
theorem publish_fst (service : SidecarService) (context : CallContext)
    (request : PublishRequest)
    : (service.publish context request).1
      = ((service.retain context request).deliverFromRemote context
          (service.publishedEnvelope context request)).1 :=
  rfl

theorem publish_quiet (service : SidecarService) (context : CallContext)
    (request : PublishRequest)
    : Quiet service (service.publish context request).1 := by
  rw [publish_fst]
  exact (service.retain_quiet context request).trans (deliverFromRemote_quiet _ context _)

@[simp]
theorem retain_messageBuffer (service : SidecarService) (context : CallContext)
    (request : PublishRequest)
    : (service.retain context request).messageBuffer = service.messageBuffer := by
  unfold retain
  split <;> rfl

@[simp]
theorem retain_localSubscriptions (service : SidecarService) (context : CallContext)
    (request : PublishRequest)
    : (service.retain context request).registry.localSubscriptions
      = service.registry.localSubscriptions := by
  unfold retain
  split <;> rfl

/-- The requests that neither open nor close a stream. -/
def Request.isQuiet : Request → Bool
  | .publish _ _ | .deliver _ _ | .writeDone _ _ _ | .cancel _ => true
  | .subscribe _ _ | .unsubscribe _ _ | .resumeSubscribe _ _ => false

theorem quiet_of_step {service after : SidecarService} {request : Request}
    (still : request.isQuiet = true) (taken : service.step request = some after)
    : Quiet service after := by
  cases request with
  | publish context request =>
      cases taken
      exact service.publish_quiet context request
  | deliver context envelope =>
      cases taken
      exact service.deliverFromRemote_quiet context envelope
  | writeDone context handle ok =>
      simp only [step, Option.ite_none_right_eq_some, Option.some.injEq] at taken
      obtain ⟨_, rfl⟩ := taken
      exact service.onStream_quiet handle (fun stream => stream.onWriteDone_identity _ _ _)
  | cancel handle =>
      cases taken
      exact service.onStream_quiet handle (fun _ => rfl)
  | subscribe | unsubscribe | resumeSubscribe => cases still

theorem mem_matchingStreams {service : SidecarService} {order : IterationOrder ByteString}
    {topic : ByteString} {handle : Nat}
    : handle ∈ service.matchingStreams order topic
      ↔ (∃ id, service.activeStreams.lookup id = some handle)
        ∧ service.selects topic handle = true := by
  simp only [matchingStreams, List.mem_filter, List.mem_filterMap, IterationOrder.mem_visit]
  refine and_congr_left (fun _ => ⟨?_, ?_⟩)
  · intro listed
    rcases listed with ⟨id, _, found⟩
    exact ⟨id, found⟩
  · intro listed
    rcases listed with ⟨id, found⟩
    exact ⟨id, AList.lookup_isSome.mp (by simp [found]), found⟩

@[simp]
theorem deliverTo_messageBuffer (service : SidecarService) (context : CallContext)
    (envelope : MessageEnvelope) (sequenceNumber handle : Nat)
    : (service.deliverTo context envelope sequenceNumber handle).1.messageBuffer
      = service.messageBuffer := by
  unfold deliverTo
  split
  · rfl
  · split <;> rfl

@[simp]
theorem deliverTo_registry (service : SidecarService) (context : CallContext)
    (envelope : MessageEnvelope) (sequenceNumber handle : Nat)
    : (service.deliverTo context envelope sequenceNumber handle).1.registry
      = service.registry := by
  unfold deliverTo
  split
  · rfl
  · split <;> rfl

@[simp]
theorem recordDelivery_messageBuffer (service : SidecarService) (handle : Nat)
    (topic : ByteString) (sequenceNumber : Nat)
    : (service.recordDelivery handle topic sequenceNumber).messageBuffer
      = service.messageBuffer := by
  unfold recordDelivery
  split <;> rfl

/-- A round of the loop is a delivery, followed by its record where it was enqueued. -/
theorem deliverRound_eq (service : SidecarService) (context : CallContext)
    (envelope : MessageEnvelope) (sequenceNumber handle : Nat)
    : service.deliverRound context envelope sequenceNumber handle
      = (if (service.deliverTo context envelope sequenceNumber handle).2 = some .enqueued then
          (service.deliverTo context envelope sequenceNumber handle).1.recordDelivery handle
            envelope.topic sequenceNumber
        else (service.deliverTo context envelope sequenceNumber handle).1,
        (service.deliverTo context envelope sequenceNumber handle).2) := by
  unfold deliverRound
  split
  · rename_i delivered taken
    simp [taken]
  · rename_i delivered result other taken
    have dropped : result ≠ some .enqueued := other
    simp [taken, dropped]

/-- A round leaves the registry alone or notes a position in it. -/
theorem deliverRound_registry (service : SidecarService) (context : CallContext)
    (envelope : MessageEnvelope) (sequenceNumber handle : Nat)
    : (service.deliverRound context envelope sequenceNumber handle).1.registry
        = service.registry
      ∨ ∃ subscriptionId,
          (service.deliverRound context envelope sequenceNumber handle).1.registry
            = service.registry.updateSubscriptionSequence subscriptionId envelope.topic
                sequenceNumber := by
  have same := service.deliverTo_registry context envelope sequenceNumber handle
  rw [deliverRound_eq]
  dsimp only
  split
  · unfold recordDelivery
    split
    · exact .inl same
    · rename_i stream _
      exact .inr ⟨stream.subscriptionId, by rw [← same]⟩
  · exact .inl same

theorem deliverRound_messageBuffer (service : SidecarService) (context : CallContext)
    (envelope : MessageEnvelope) (sequenceNumber handle : Nat)
    : (service.deliverRound context envelope sequenceNumber handle).1.messageBuffer
      = service.messageBuffer := by
  rw [deliverRound_eq]
  dsimp only
  split <;> simp

@[simp]
theorem deliverToAll_messageBuffer (context : CallContext) (envelope : MessageEnvelope)
    (sequenceNumber : Nat) (service : SidecarService) (handles : List Nat)
    : (deliverToAll context envelope sequenceNumber service handles).1.messageBuffer
      = service.messageBuffer :=
  deliverToAll_induction (motive := fun before after => after.messageBuffer = before.messageBuffer)
    (fun _ => rfl)
    (fun service handle _ later =>
      later.trans (service.deliverRound_messageBuffer context envelope sequenceNumber handle))
    service handles

theorem deliverFromRemote_messageBuffer (service : SidecarService) (context : CallContext)
    (envelope : MessageEnvelope)
    : (service.deliverFromRemote context envelope).1.messageBuffer
      = (service.messageBuffer.bufferMessage (envelope.bufferCall context)).1 :=
  deliverToAll_messageBuffer _ _ _ _ _

/-- The call of `bufferMessage` that a request makes. -/
def Request.bufferCall? : Request → Option BufferCall
  | .deliver context envelope => some (envelope.bufferCall context)
  | .publish context request =>
      some ⟨context.topicOrder, context.now, request.topic, request.payload⟩
  | .subscribe _ _ | .unsubscribe _ _ | .resumeSubscribe _ _ | .writeDone _ _ _
  | .cancel _ => none

-----------------------------------------------------------------------------------------
-- Streams that come and go
-----------------------------------------------------------------------------------------

/-- A new active stream for `id`, the current one of that id, and nothing else new. -/
structure Opened (before after : SidecarService) (id : ByteString)
    (topics : List ByteString) (isSubscribe : Bool)
    : Prop where
  config : after.config = before.config
  nextStream : after.nextStream = before.nextStream + 1
  activeStreams : after.activeStreams = before.activeStreams.insert id before.nextStream
  others : ∀ handle, handle ≠ before.nextStream → after.streams handle = before.streams handle
  opened
    : ∃ stream,
        after.streams before.nextStream = some stream
        ∧ stream.identity = ⟨id, topics, some isSubscribe⟩
        ∧ stream.active = true
  buffer : after.messageBuffer = before.messageBuffer

theorem constructSubscribe_identity (registry : PeerRegistry) (context : CallContext)
    (request : SubscribeRequest) (stream : SubscriptionStream)
    : (constructSubscribe registry context request stream).identity
      = ⟨stream.subscriptionId, stream.topics, some true⟩ := by
  unfold constructSubscribe
  rw [SubscriptionStream.startWrite_identity]
  rfl

/-- Tracking a stream and running a constructor on it opens the stream. -/
theorem opened_trackStream (service : SidecarService) (id : ByteString)
    (topics : List ByteString) {isSubscribe : Bool}
    {constructor : SubscriptionStream → SubscriptionStream}
    (identity
      : ∀ stream,
          (constructor stream).identity
          = ⟨stream.subscriptionId, stream.topics, some isSubscribe⟩)
    (active : ∀ stream, (constructor stream).active = stream.active)
    : Opened service
        ((service.trackStream id topics).1.onStream (service.trackStream id topics).2
          constructor)
        id topics isSubscribe := by
  have tracked
    : (service.trackStream id topics).1.streams service.nextStream
      = some { subscriptionId := id, topics, messageQueue := service.newQueue } := by
    simp [trackStream]
  simp only [onStream, show (service.trackStream id topics).2 = service.nextStream from rfl,
    tracked]
  refine ⟨rfl, rfl, rfl, ?_,
    ⟨_, Function.update_self _ _ _, identity _, (active _).trans rfl⟩, rfl⟩
  intro handle other
  simp [setStream, trackStream, other]

/-- A method on the new stream, and a change of the registry, leave it opened. -/
theorem Opened.onStream {before after : SidecarService} {id : ByteString}
    {topics : List ByteString} {isSubscribe : Bool}
    (opened : Opened before after id topics isSubscribe) (registry : PeerRegistry)
    {method : SubscriptionStream → SubscriptionStream}
    (identity : ∀ stream, (method stream).identity = stream.identity)
    (active : ∀ stream, (method stream).active = stream.active)
    : Opened before ({ after with registry }.onStream before.nextStream method) id topics
        isSubscribe := by
  obtain ⟨stream, is, same, live⟩ := opened.opened
  simp only [SidecarService.onStream, is]
  refine ⟨opened.config, opened.nextStream, opened.activeStreams, ?_,
    ⟨_, Function.update_self _ _ _, (identity stream).trans same,
      (active stream).trans live⟩,
    opened.buffer⟩
  intro handle other
  rw [← opened.others handle other]
  simp [setStream, other]

theorem subscribe_opened (service : SidecarService) (context : CallContext)
    (request : SubscribeRequest)
    : Opened service (service.subscribe context request)
        (subscriptionIdOf service.subscriptionCounter context.uuid) request.topics true := by
  have opened :=
    opened_trackStream
      { service with
        subscriptionCounter := service.subscriptionCounter + 1
        registry :=
          (service.registry.addLocalSubscription context.now
            (subscriptionIdOf service.subscriptionCounter context.uuid) request.clientId
            request.topics request.maxBufferSize).1 }
      (subscriptionIdOf service.subscriptionCounter context.uuid) request.topics
      (constructSubscribe_identity
        (service.registry.addLocalSubscription context.now
          (subscriptionIdOf service.subscriptionCounter context.uuid) request.clientId
          request.topics request.maxBufferSize).1
        context request)
      (fun _ => rfl)
  exact ⟨opened.config, opened.nextStream, opened.activeStreams, opened.others, opened.opened,
    opened.buffer⟩

/-- The stream a Subscribe opens, as its constructor leaves it. -/
theorem subscribe_stream (service : SidecarService) (context : CallContext)
    (request : SubscribeRequest)
    : (service.subscribe context request).streams service.nextStream
      = some
          (constructSubscribe
            (service.registry.addLocalSubscription context.now
              (subscriptionIdOf service.subscriptionCounter context.uuid) request.clientId
              request.topics request.maxBufferSize).1
            context request
            {
              subscriptionId := subscriptionIdOf service.subscriptionCounter context.uuid
              topics := request.topics
              messageQueue := service.newQueue
            }) := by
  simp only [subscribe, generateSubscriptionId, trackStream, onStream_streams,
    Function.update_self, if_true, Option.map_some]
  rfl

theorem attachResume_identity (mode : GapRecoveryMode) (stream : SubscriptionStream)
    : (attachResume mode stream).identity
      = ⟨stream.subscriptionId, stream.topics, some false⟩ :=
  rfl

theorem startResume_identity (systemMs : Int) (recovery : Recovery)
    (stream : SubscriptionStream)
    : (startResume systemMs recovery stream).identity = stream.identity := by
  unfold startResume
  rw [SubscriptionStream.startWrite_identity]
  split
  · rename_i write replay resumes
    simp [SubscriptionStream.identity, resumes, Reactor.isSubscribe]
  · rfl
  · rfl

theorem startResume_active (systemMs : Int) (recovery : Recovery)
    (stream : SubscriptionStream)
    : (startResume systemMs recovery stream).active = stream.active := by
  unfold startResume
  dsimp only [SubscriptionStream.startWrite]
  split <;> rfl

theorem resumeSubscribe_notFound {service : SidecarService} {request : ResumeSubscribeRequest}
    (missing : service.registry.getPausedSubscription request.subscriptionId = none)
    (context : CallContext)
    : service.resumeSubscribe context request
      = (service, .error (.notFound "No paused subscription found")) := by
  simp [resumeSubscribe, missing]

theorem resumeSubscribe_opened {service : SidecarService} {request : ResumeSubscribeRequest}
    {paused : PausedSubscription}
    (found : service.registry.getPausedSubscription request.subscriptionId = some paused)
    (context : CallContext)
    : Opened service (service.resumeSubscribe context request).1 request.subscriptionId
        paused.topics false := by
  simp only [resumeSubscribe, found]
  exact (opened_trackStream service request.subscriptionId paused.topics
    (attachResume_identity _) (fun _ => rfl)).onStream _ (startResume_identity _ _)
    (startResume_active _ _)

/-- `Unsubscribe` takes the id out of the table and leaves every stream its identity. -/
structure Closed (before after : SidecarService) (id : ByteString) : Prop where
  config : after.config = before.config
  counter : after.subscriptionCounter = before.subscriptionCounter
  nextStream : after.nextStream = before.nextStream
  gone : after.activeStreams.lookup id = none
  others
    : ∀ other,
        other ≠ id → after.activeStreams.lookup other = before.activeStreams.lookup other
  streams
    : ∀ handle,
        (after.streams handle).map SubscriptionStream.identity
        = (before.streams handle).map SubscriptionStream.identity
  buffer : after.messageBuffer = before.messageBuffer

theorem unsubscribe_closed (service : SidecarService) (context : CallContext)
    (request : UnsubscribeRequest)
    : Closed service (service.unsubscribe context request).1 request.subscriptionId := by
  unfold unsubscribe
  dsimp only
  split
  · rename_i missing
    exact ⟨rfl, rfl, rfl, missing, fun _ _ => rfl, fun _ => rfl, rfl⟩
  · rename_i handle found
    have quiet :=
      onStream_quiet
        { service with
          registry :=
            (service.registry.removeLocalSubscription context.now request.subscriptionId
              request.pause service.config.pausedSubscriptionTtl).1 }
        handle (fun stream => (rfl : { stream with active := false }.identity = _))
    refine ⟨quiet.config, quiet.counter, quiet.nextStream, ?_, ?_, quiet.streams, ?_⟩
    · exact AList.lookup_erase _ _
    · intro other different
      exact AList.lookup_erase_ne different
    · exact onStream_messageBuffer _ _ _

theorem step_messageBuffer {service after : SidecarService} {request : Request}
    (taken : service.step request = some after)
    : after.messageBuffer
      = service.messageBuffer.afterCalls request.bufferCall?.toList := by
  cases request with
  | subscribe context request =>
      cases taken
      exact (service.subscribe_opened context request).buffer
  | unsubscribe context request =>
      cases taken
      exact (service.unsubscribe_closed context request).buffer
  | resumeSubscribe context request =>
      cases taken
      cases found : service.registry.getPausedSubscription request.subscriptionId with
      | none => rw [resumeSubscribe_notFound found]; rfl
      | some paused => exact (resumeSubscribe_opened found context).buffer
  | publish context request =>
      cases taken
      rw [publish_fst, deliverFromRemote_messageBuffer, retain_messageBuffer]
      rfl
  | deliver context envelope =>
      cases taken
      exact service.deliverFromRemote_messageBuffer context envelope
  | writeDone context handle ok =>
      simp only [step, Option.ite_none_right_eq_some, Option.some.injEq] at taken
      obtain ⟨_, rfl⟩ := taken
      exact onStream_messageBuffer _ _ _
  | cancel handle =>
      cases taken
      exact onStream_messageBuffer _ _ _

/-- The buffer after a run is what the run's `bufferMessage` calls make of it. -/
theorem exec_messageBuffer {start final : SidecarService} {requests : List Request}
    (run : exec SidecarService.step start requests = some final)
    : final.messageBuffer
      = start.messageBuffer.afterCalls (requests.filterMap Request.bufferCall?) := by
  refine exec_induction
    (motive := fun requests service =>
      service.messageBuffer
      = start.messageBuffer.afterCalls (requests.filterMap Request.bufferCall?))
    rfl ?_ run
  intro requests service request after _ ih taken
  rw [step_messageBuffer taken, ih, List.filterMap_append]
  simp only [TopicMessageBuffer.afterCalls, ← List.foldl_append]
  cases call : request.bufferCall? <;> simp [call]

end SidecarService

end NexusD.Services
