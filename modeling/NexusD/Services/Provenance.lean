import NexusD.Services.RetainedMessages
import NexusD.Services.StreamContents

/-! Where the messages of a daemon come from.
A daemon keeps messages in its streams, in its replay buffer and in the retained messages of
its registry. All of them go back to the envelopes that were handed to it, and no stream has
one on a topic it did not ask for.
-/

namespace NexusD.Core.TopicMessageBuffer

open NexusD.Library

variable {topic : ByteString} {message : BufferedMessage} {buffers : TopicMessageBuffer}

theorem mem_push {buffer : TopicBuffer} {now : TimePoint} {payload : ByteString}
    (member : message ∈ (buffer.push now topic payload).1.messages)
    : message ∈ buffer.messages ∨ message.topic = topic ∧ message.payload = payload := by
  simp only [TopicBuffer.push, List.mem_append, List.mem_singleton] at member
  rcases member with old | rfl
  · split at old
    · exact .inl (List.mem_of_mem_tail old)
    · exact .inl old
  · exact .inr ⟨rfl, rfl⟩

/-- What the buffer holds after a call was there before, or is the call's own message. -/
theorem mem_bufferMessage {call : BufferCall} {buffer : TopicBuffer}
    (found : (buffers.bufferMessage call).1.topicBuffers.lookup topic = some buffer)
    (member : message ∈ buffer.messages)
    : (∃ old, buffers.topicBuffers.lookup topic = some old ∧ message ∈ old.messages)
      ∨ topic = call.topic ∧ message.topic = call.topic ∧ message.payload = call.payload := by
  have erased := makeRoom_erasedFrom buffers call.order call.payload.length
  have kept {old : TopicBuffer}
      (there
        : (buffers.makeRoom call.order call.payload.length).1.topicBuffers.lookup topic
          = some old)
      : buffers.topicBuffers.lookup topic = some old := by
    rcases erased.lookups topic with same | gone
    · exact same.symm.trans there
    · rw [gone] at there
      cases there
  cases verdict : buffers.accepts call with
  | false =>
      rw [bufferMessage_rejected verdict] at found
      exact .inl ⟨buffer, kept found, member⟩
  | true =>
      rw [bufferMessage_accepted verdict] at found
      simp only [store] at found
      by_cases same : topic = call.topic
      · subst same
        rw [AList.lookup_insert, Option.some.injEq] at found
        subst found
        rcases mem_push member with old | new
        · cases there
            : (buffers.makeRoom call.order call.payload.length).1.topicBuffers.lookup
                call.topic with
          | none => simp [there, TopicBuffer.create] at old
          | some stored =>
              rw [there] at old
              exact .inl ⟨stored, kept there, old⟩
        · exact .inr ⟨rfl, new⟩
      · rw [AList.lookup_insert_ne same] at found
        exact .inl ⟨buffer, kept found, member⟩

theorem mem_getMessagesForReplay {position : Nat}
    (member : message ∈ (buffers.getMessagesForReplay topic position).messages)
    : ∃ buffer, buffers.topicBuffers.lookup topic = some buffer ∧ message ∈ buffer.messages := by
  unfold getMessagesForReplay at member
  split at member
  · cases member
  · rename_i buffer found
    refine ⟨buffer, found, ?_⟩
    split at member
    · exact List.mem_of_getLast? (Option.mem_toList.mp member)
    · split at member
      · cases member
      · exact List.mem_of_mem_filter member

theorem mem_of_getRetainedMessage (latest : buffers.getRetainedMessage topic = some message)
    : ∃ buffer, buffers.topicBuffers.lookup topic = some buffer ∧ message ∈ buffer.messages := by
  obtain ⟨buffer, found, last⟩ := Option.bind_eq_some_iff.mp latest
  exact ⟨buffer, found, List.mem_of_getLast? last⟩

end NexusD.Core.TopicMessageBuffer

namespace NexusD.Services

open NexusD.Core NexusD.Library

/-- An envelope of `source` has this topic and payload. -/
def Told (source : MessageEnvelope → Prop) (topic payload : ByteString) : Prop :=
  ∃ envelope, source envelope ∧ envelope.topic = topic ∧ envelope.payload = payload

/-- The event tells what an envelope of `source` says, on one of `topics`. A live message
carries everything the envelope does; a replayed one has its topic and payload.
-/
def MessageEvent.TracedTo (source : MessageEnvelope → Prop) (topics : List ByteString)
    : MessageEvent → Prop
  | .notSet | .replayComplete _ _ => True
  | .subscriptionInfo info => info.topics = topics
  | .message sent =>
      sent.topic ∈ topics
      ∧ ∃ envelope,
          source envelope
          ∧ SidecarService.messageEvent envelope sent.sequenceNumber = .message sent
  | .retainedMessage sent | .replayMessage sent =>
      sent.topic ∈ topics ∧ Told source sent.topic sent.payload

theorem Told.mono {source wider : MessageEnvelope → Prop}
    (implied : ∀ envelope, source envelope → wider envelope) {topic payload : ByteString}
    (told : Told source topic payload)
    : Told wider topic payload := by
  obtain ⟨envelope, is, same⟩ := told
  exact ⟨envelope, implied envelope is, same⟩

theorem MessageEvent.TracedTo.mono {source wider : MessageEnvelope → Prop}
    (implied : ∀ envelope, source envelope → wider envelope) {topics : List ByteString}
    {event : MessageEvent} (traced : event.TracedTo source topics)
    : event.TracedTo wider topics := by
  cases event with
  | notSet | replayComplete | subscriptionInfo => exact traced
  | message sent =>
      obtain ⟨on, envelope, is, same⟩ := traced
      exact ⟨on, envelope, implied envelope is, same⟩
  | retainedMessage sent | replayMessage sent => exact ⟨traced.1, traced.2.mono implied⟩

theorem tracedTo_messageEvent {source : MessageEnvelope → Prop} {topics : List ByteString}
    {envelope : MessageEnvelope} (is : source envelope) (on : envelope.topic ∈ topics)
    (sequenceNumber : Nat)
    : (SidecarService.messageEvent envelope sequenceNumber).TracedTo source topics :=
  ⟨on, envelope, is, rfl⟩

namespace SidecarService

/-- Everything the service keeps comes from envelopes of `source`. -/
structure Traced (source : MessageEnvelope → Prop) (service : SidecarService) : Prop where
  streams
    : ∀ handle stream,
        service.streams handle = some stream
        → stream.EveryEvent (MessageEvent.TracedTo source stream.topics)
  buffered
    : ∀ topic buffer,
        service.messageBuffer.topicBuffers.lookup topic = some buffer
        → ∀ message ∈ buffer.messages,
            message.topic = topic ∧ Told source topic message.payload
  retained
    : ∀ topic message,
        service.registry.getRetainedMessage topic = some message
        → message.topic = topic ∧ Told source topic message.payload

theorem traced_create (source : MessageEnvelope → Prop) (config : ServiceConfig)
    (localNodeId : ByteString) (messageBufferSize maxBufferMemory : Nat)
    : (create config { localNodeId } messageBufferSize maxBufferMemory).Traced source where
  streams handle stream found := by cases found
  buffered topic buffer found := by cases found
  retained topic message found := by cases found

namespace Traced

variable {source : MessageEnvelope → Prop} {service after : SidecarService}

theorem mono {wider : MessageEnvelope → Prop}
    (implied : ∀ envelope, source envelope → wider envelope) (traced : service.Traced source)
    : service.Traced wider where
  streams handle stream found :=
    (traced.streams handle stream found).mono (fun _ told => told.mono implied)
  buffered topic buffer found message member :=
    (traced.buffered topic buffer found message member).imp_right (Told.mono implied)
  retained topic message found :=
    (traced.retained topic message found).imp_right (Told.mono implied)

/-- Only streams have changed. -/
theorem changed (traced : service.Traced source)
    (buffer : after.messageBuffer = service.messageBuffer)
    (retained : after.registry.retainedMessages = service.registry.retainedMessages)
    (streams
      : ∀ handle stream,
          after.streams handle = some stream
          → stream.EveryEvent (MessageEvent.TracedTo source stream.topics))
    : after.Traced source where
  streams := streams
  buffered := by
    rw [buffer]
    exact traced.buffered
  retained := by
    simp only [PeerRegistry.getRetainedMessage, retained]
    exact traced.retained

theorem onStream (traced : service.Traced source) (handle : Nat)
    {method : SubscriptionStream → SubscriptionStream}
    (keeps
      : ∀ stream,
          service.streams handle = some stream
          → (method stream).EveryEvent
              (MessageEvent.TracedTo source (method stream).topics))
    : (service.onStream handle method).Traced source := by
  refine traced.changed (by simp) (by simp) ?_
  intro other stream found
  rw [onStream_streams] at found
  split at found
  · rename_i same
    subst same
    obtain ⟨old, was, rfl⟩ := Option.map_eq_some_iff.mp found
    exact keeps old was
  · exact traced.streams other stream found

theorem trackStream (traced : service.Traced source) (id : ByteString)
    (topics : List ByteString)
    : (service.trackStream id topics).1.Traced source := by
  refine traced.changed rfl rfl ?_
  intro handle stream found
  simp only [SidecarService.trackStream] at found
  by_cases new : handle = service.nextStream
  · subst new
    rw [Function.update_self, Option.some.injEq] at found
    subst found
    exact ⟨by simp [newQueue], by simp, by simp⟩
  · rw [Function.update_of_ne new] at found
    exact traced.streams handle stream found

theorem bufferEnvelope (traced : service.Traced source) (context : CallContext)
    {envelope : MessageEnvelope} (is : source envelope)
    : (service.bufferEnvelope context envelope).1.Traced source where
  streams := traced.streams
  buffered topic buffer found message member := by
    rcases TopicMessageBuffer.mem_bufferMessage found member with
      ⟨old, was, there⟩ | ⟨on, named, told⟩
    · exact traced.buffered topic old was message there
    · exact ⟨named.trans on.symm, envelope, is, on.symm, told.symm⟩
  retained := traced.retained

theorem deliverTo (traced : service.Traced source) (context : CallContext)
    {envelope : MessageEnvelope} (is : source envelope) (number : Nat) {handle : Nat}
    (asked
      : ∀ stream, service.streams handle = some stream → envelope.topic ∈ stream.topics)
    : (service.deliverTo context envelope number handle).1.Traced source := by
  refine traced.changed (by simp) (by simp) ?_
  intro other stream found
  rw [deliverTo_streams] at found
  split at found
  · rename_i same
    subst same
    obtain ⟨old, was, rfl⟩ := Option.map_eq_some_iff.mp found
    have topics : (service.received context envelope number old).topics = old.topics := by
      unfold received SubscriptionStream.receive
      split
      · exact congrArg StreamIdentity.topics (old.enqueueMessage_identity _ _ _)
      · rfl
    rw [topics]
    exact (traced.streams other old was).receive context.now
      (tracedTo_messageEvent is (asked old was) number) _
  · exact traced.streams other stream found

theorem recordDelivery (traced : service.Traced source) (handle : Nat) (topic : ByteString)
    (number : Nat)
    : (service.recordDelivery handle topic number).Traced source := by
  unfold SidecarService.recordDelivery
  split
  · exact traced
  · rename_i stream found
    exact traced.changed rfl
      (service.registry.updateSubscriptionSequence_sameMesh _ topic _).retainedMessages
      traced.streams

theorem retain (traced : service.Traced source) (context : CallContext)
    {request : PublishRequest} (is : source (service.publishedEnvelope context request))
    : (service.retain context request).Traced source where
  streams handle stream found := by
    unfold SidecarService.retain at found
    split at found <;> exact traced.streams handle stream found
  buffered := by
    rw [retain_messageBuffer]
    exact traced.buffered
  retained topic message found := by
    rw [getRetainedMessage_retain, retainedAfter] at found
    split at found
    · rename_i wanted
      cases found
      exact ⟨rfl, _, is, wanted.2, rfl⟩
    · exact traced.retained topic message found

/-- The retained messages a Subscribe hands on are on the stream's own topics. -/
theorem constructSubscribe (traced : service.Traced source) (context : CallContext)
    (request : SubscribeRequest) {registry : PeerRegistry}
    (same : registry.retainedMessages = service.registry.retainedMessages)
    (stream : SubscriptionStream) (empty : stream.messageQueue.messages = [])
    : (constructSubscribe registry context request stream).EveryEvent
        (MessageEvent.TracedTo source stream.topics) := by
  have handedOn
    : ∀ message ∈ stream.topics.filterMap registry.getRetainedMessage,
        (retainedEvent message).TracedTo source stream.topics := by
    intro message member
    obtain ⟨topic, on, found⟩ := List.mem_filterMap.mp member
    rw [PeerRegistry.getRetainedMessage, same] at found
    obtain ⟨named, told⟩ := traced.retained topic message found
    exact ⟨by rw [named]; exact on, by rw [named]; exact told⟩
  -- the queue is filled from the retained messages, by induction over them
  have filled (messages : List RetainedMessage) (queue : SubscriberQueue MessageEvent)
      (each
        : ∀ message ∈ messages, (retainedEvent message).TracedTo source stream.topics)
      (queued
        : ∀ queued ∈ queue.messages, queued.message.TracedTo source stream.topics)
      : ∀ queued
          ∈ (messages.foldl
              (fun queue message => (queue.enqueue context.now (retainedEvent message) 0).1)
              queue).messages,
          queued.message.TracedTo source stream.topics := by
    induction messages generalizing queue with
    | nil => exact queued
    | cons message rest ih =>
        rw [List.forall_mem_cons] at each
        exact ih _ each.2
          (SubscriptionStream.every_enqueue queued context.now each.1 0)
  refine SubscriptionStream.EveryEvent.startWrite ⟨?_, ?_, ?_⟩ rfl
  · refine filled _ _ ?_ (by simp [empty])
    split
    · exact handedOn
    · simp
  · intro reactor attached
    cases attached
    trivial
  · intro reactor attached
    cases attached
    simp [Reactor.pending]

theorem subscribe (traced : service.Traced source) (context : CallContext)
    (request : SubscribeRequest)
    : (service.subscribe context request).Traced source := by
  have opened := service.subscribe_opened context request
  have mesh :=
    service.registry.apply_sameMesh
      (.add context.now (subscriptionIdOf service.subscriptionCounter context.uuid)
        request.clientId request.topics request.maxBufferSize)
  refine traced.changed opened.buffer ?_ ?_
  · rw [subscribe_registry]
    exact mesh.retainedMessages
  · intro handle stream found
    by_cases new : handle = service.nextStream
    · subst new
      rw [subscribe_stream, Option.some.injEq] at found
      subst found
      exact traced.constructSubscribe context request mesh.retainedMessages
        {
          subscriptionId := subscriptionIdOf service.subscriptionCounter context.uuid
          topics := request.topics
          messageQueue := service.newQueue
        }
        rfl
    · rw [opened.others handle new] at found
      exact traced.streams handle stream found

theorem unsubscribe (traced : service.Traced source) (context : CallContext)
    (request : UnsubscribeRequest)
    : (service.unsubscribe context request).1.Traced source := by
  have registry := service.unsubscribe_registry context request
  have mesh :=
    service.registry.apply_sameMesh
      (.remove context.now request.subscriptionId request.pause
        service.config.pausedSubscriptionTtl)
  refine traced.changed (service.unsubscribe_closed context request).buffer ?_ ?_
  · rw [registry]
    exact mesh.retainedMessages
  · intro handle stream found
    by_cases listed : service.activeStreams.lookup request.subscriptionId = some handle
    · simp only [SidecarService.unsubscribe, listed, onStream_streams, if_true] at found
      obtain ⟨old, was, rfl⟩ := Option.map_eq_some_iff.mp found
      exact (traced.streams handle old was).congr rfl rfl
    · rw [unsubscribe_streams service context request listed] at found
      exact traced.streams handle stream found

theorem writeDone (traced : service.Traced source) (now : TimePoint) (systemMs : Int)
    (handle : Nat) (ok : Bool)
    : (service.onStream handle
        (fun stream => stream.onWriteDone now systemMs ok)).Traced source := by
  refine traced.onStream handle ?_
  intro stream found
  have topics := congrArg StreamIdentity.topics (stream.onWriteDone_identity now systemMs ok)
  simp only [SubscriptionStream.identity] at topics
  rw [topics]
  exact (traced.streams handle stream found).onWriteDone now systemMs ok trivial

theorem clearActive (traced : service.Traced source) (handle : Nat)
    : (service.onStream handle
        (fun stream => { stream with active := false })).Traced source :=
  traced.onStream handle
    (fun stream found => (traced.streams handle stream found).congr rfl rfl)

theorem reapExpired (traced : service.Traced source) (now : TimePoint) (handle : Nat)
    : (service.onStream handle (fun stream => stream.reapExpired now)).Traced source :=
  traced.onStream handle
    (fun stream found => (traced.streams handle stream found).reapExpired now)

/-- A change of the registry that brings no retained message. -/
theorem registry (traced : service.Traced source) {registry : PeerRegistry}
    (kept
      : ∀ topic message,
          registry.getRetainedMessage topic = some message
          → service.registry.getRetainedMessage topic = some message)
    : Traced source { service with registry } where
  streams := traced.streams
  buffered := traced.buffered
  retained topic message found := traced.retained topic message (kept topic message found)

/-- A round of gap recovery on one of the topics. -/
theorem recoverTopic (traced : service.Traced source) (request : ResumeSubscribeRequest)
    (paused : PausedSubscription) {recovery : Recovery} {topic : ByteString}
    {topics : List ByteString} (on : topic ∈ topics)
    (pending : ∀ event ∈ recovery.pendingReplay, event.TracedTo source topics)
    : ∀ event ∈ (recoverTopic service.messageBuffer request paused recovery
        topic).pendingReplay,
        event.TracedTo source topics := by
  unfold SidecarService.recoverTopic
  split
  · exact pending
  · rw [List.forall_mem_append]
    refine ⟨pending, ?_⟩
    intro event member
    obtain ⟨message, latest, rfl⟩ := Option.map_eq_some_iff.mp (Option.mem_toList.mp member)
    obtain ⟨buffer, found, stored⟩ := TopicMessageBuffer.mem_of_getRetainedMessage latest
    obtain ⟨named, told⟩ := traced.buffered topic buffer found message stored
    exact ⟨by rw [named]; exact on, by rw [named]; exact told⟩
  · dsimp only
    rw [List.forall_mem_append]
    refine ⟨pending, ?_⟩
    intro event member
    obtain ⟨message, replayed, rfl⟩ := List.mem_map.mp member
    obtain ⟨buffer, found, stored⟩ := TopicMessageBuffer.mem_getMessagesForReplay replayed
    obtain ⟨named, told⟩ := traced.buffered topic buffer found message stored
    exact ⟨by rw [named]; exact on, by rw [named]; exact told⟩

end Traced

end SidecarService

end NexusD.Services
