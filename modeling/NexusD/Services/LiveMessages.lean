import NexusD.Services.Mesh

/-! The live messages of a stream against the record of what it has taken.
A stream hands its messages on from the front of its queue and forgets them, or drops them. So
the live messages it has in hand are some of those it took, in the order it took them.
-/

namespace NexusD.Services

open NexusD.Core NexusD.Library

/-- The id of a message that was delivered live, not retained or replayed. -/
def MessageEvent.liveId? : MessageEvent → Option ByteString
  | .message sent => some sent.messageId
  | .notSet | .subscriptionInfo _ | .retainedMessage _ | .replayMessage _
  | .replayComplete _ _ => none

/-- The live messages in the queue, from its front. -/
def queuedIds (queue : SubscriberQueue MessageEvent) : List ByteString :=
  queue.messages.filterMap (fun queued => queued.message.liveId?)

theorem queuedIds_dequeue (queue : SubscriberQueue MessageEvent) (now : TimePoint)
    : (((queue.dequeue now).2.bind MessageEvent.liveId?).toList
        ++ queuedIds (queue.dequeue now).1).Sublist
        (queuedIds queue) := by
  obtain ⟨expired, taken, removes, returned⟩ := queue.dequeue_removes now
  have front
    : ((queue.dequeue now).2.bind MessageEvent.liveId?).toList
      = taken.filterMap (fun queued => queued.message.liveId?) := by
    have listed := congrArg (List.filterMap MessageEvent.liveId?) returned
    rw [List.filterMap_map] at listed
    refine Eq.trans ?_ listed
    cases (queue.dequeue now).2 with
    | none => rfl
    | some event => cases found : event.liveId? <;> simp [found]
  rw [front, queuedIds, queuedIds, removes.messages, List.filterMap_append,
    List.filterMap_append]
  exact List.sublist_append_right _ _

theorem queuedIds_reapExpired (queue : SubscriberQueue MessageEvent) (now : TimePoint)
    : (queuedIds (queue.reapExpired now).1).Sublist (queuedIds queue) := by
  obtain ⟨expired, removes⟩ := queue.reapExpired_removes now
  rw [queuedIds, queuedIds, removes.messages, List.nil_append, List.filterMap_append]
  exact List.sublist_append_right _ _

/-- What an `enqueueMessage` that was answered with `result` has added. -/
def acceptedIds (event : MessageEvent) (result : EnqueueResult) : List ByteString :=
  if result = .enqueued then event.liveId?.toList else []

theorem queuedIds_enqueue (queue : SubscriberQueue MessageEvent) (now : TimePoint)
    (event : MessageEvent) (ttlMs : Int)
    : (queuedIds (queue.enqueue now event ttlMs).1).Sublist
        (queuedIds queue ++ acceptedIds event (queue.enqueue now event ttlMs).2) := by
  rcases queue.enqueue_effect now event ttlMs with
    ⟨enqueued, dropped, inserts⟩ | ⟨refused, same, _⟩
  · have added
      : queuedIds queue ++ event.liveId?.toList
        = (queue.messages ++ [queue.prepare now event ttlMs]).filterMap
            (fun queued => queued.message.liveId?) := by
      rw [List.filterMap_append, queuedIds]
      cases found : event.liveId? <;> simp [SubscriberQueue.prepare, found]
    rw [acceptedIds, if_pos enqueued, added, inserts.messages, List.filterMap_append]
    exact List.sublist_append_right _ _
  · rw [queuedIds, same]
    exact List.sublist_append_left _ _

-----------------------------------------------------------------------------------------
-- A stream
-----------------------------------------------------------------------------------------

namespace SubscriptionStream

/-- The event gRPC was given last, if it is a live message. -/
def givenIds (stream : SubscriptionStream) : List ByteString :=
  (stream.reactor.bind (fun reactor => reactor.writeSide.currentEvent.liveId?)).toList

/-- The live messages the stream has in hand, the one at gRPC first. -/
def liveIds (stream : SubscriptionStream) : List ByteString :=
  stream.givenIds ++ queuedIds stream.messageQueue

theorem givenIds_mapWrite (stream : SubscriptionStream) {update : WriteSide → WriteSide}
    (same : ∀ write, (update write).currentEvent = write.currentEvent)
    : givenIds { stream with reactor := stream.reactor.map (·.mapWrite update) }
      = stream.givenIds := by
  cases is : stream.reactor <;> simp [givenIds, is, same]

theorem liveIds_startWrite (stream : SubscriptionStream) (event : MessageEvent)
    : (stream.startWrite event).liveIds.Sublist
        (event.liveId?.toList ++ queuedIds stream.messageQueue) := by
  cases is : stream.reactor with
  | none =>
      simp only [liveIds, startWrite, givenIds, is, Option.map_none, Option.bind_none,
        Option.toList_none, List.nil_append]
      exact List.sublist_append_right _ _
  | some reactor => simp [liveIds, startWrite, givenIds, is]

/-- The stream has in hand what is on the record, and waits to replay nothing live. -/
structure Recorded (record : List ByteString) (stream : SubscriptionStream) : Prop where
  live : stream.liveIds.Sublist record
  pending : ∀ reactor ∈ stream.reactor, ∀ event ∈ reactor.pending, event.liveId? = none

namespace Recorded

variable {record : List ByteString} {stream : SubscriptionStream}

theorem mono {longer : List ByteString} (recorded : stream.Recorded record)
    (longerBy : record.Sublist longer)
    : stream.Recorded longer :=
  ⟨recorded.live.trans longerBy, recorded.pending⟩

theorem congr {other : SubscriptionStream} (recorded : stream.Recorded record)
    (queue : other.messageQueue = stream.messageQueue)
    (reactor : other.reactor = stream.reactor)
    : other.Recorded record := by
  obtain ⟨live, pending⟩ := recorded
  refine ⟨?_, by rwa [reactor]⟩
  rwa [liveIds, givenIds, queue, reactor]

theorem queued (recorded : stream.Recorded record)
    : (queuedIds stream.messageQueue).Sublist record :=
  (List.sublist_append_right _ _).trans recorded.live

theorem withQueue (recorded : stream.Recorded record) {queue : SubscriberQueue MessageEvent}
    {given : List ByteString}
    (shorter : (queuedIds queue).Sublist (queuedIds stream.messageQueue ++ given))
    : Recorded (record ++ given) { stream with messageQueue := queue } := by
  refine ⟨?_, recorded.pending⟩
  have all : (stream.givenIds ++ queuedIds queue).Sublist (stream.liveIds ++ given) := by
    rw [liveIds, List.append_assoc]
    exact shorter.append_left _
  exact all.trans (recorded.live.append_right given)

theorem shorterQueue (recorded : stream.Recorded record)
    {queue : SubscriberQueue MessageEvent}
    (shorter : (queuedIds queue).Sublist (queuedIds stream.messageQueue))
    : Recorded record { stream with messageQueue := queue } := by
  have kept : Recorded (record ++ []) { stream with messageQueue := queue } :=
    recorded.withQueue (by rwa [List.append_nil])
  rwa [List.append_nil] at kept

theorem mapWrite (recorded : stream.Recorded record) {update : WriteSide → WriteSide}
    (same : ∀ write, (update write).currentEvent = write.currentEvent)
    : Recorded record { stream with reactor := stream.reactor.map (·.mapWrite update) } where
  live := by
    rw [liveIds, givenIds_mapWrite stream same]
    exact recorded.live
  pending reactor attached := by
    obtain ⟨old, was, rfl⟩ := Option.map_eq_some_iff.mp attached
    rw [Reactor.pending_mapWrite]
    exact recorded.pending old was

theorem answerWrite (recorded : stream.Recorded record) : stream.answerWrite.Recorded record :=
  recorded.mapWrite (fun _ => rfl)

theorem finish (recorded : stream.Recorded record) : stream.finish.Recorded record :=
  recorded.mapWrite (fun _ => rfl)

/-- A write of an event that, with what is queued, is on the record. -/
theorem startWrite (recorded : stream.Recorded record) {event : MessageEvent}
    (live : (event.liveId?.toList ++ queuedIds stream.messageQueue).Sublist record)
    : (stream.startWrite event).Recorded record where
  live := (stream.liveIds_startWrite event).trans live
  pending reactor attached := by
    obtain ⟨old, was, rfl⟩ := Option.map_eq_some_iff.mp attached
    rw [Reactor.pending_mapWrite]
    exact recorded.pending old was

theorem startWrite_other (recorded : stream.Recorded record) {event : MessageEvent}
    (other : event.liveId? = none)
    : (stream.startWrite event).Recorded record := by
  refine recorded.startWrite ?_
  rw [other]
  exact recorded.queued

/-- `dequeue` followed by a write of what it returned. -/
theorem startWrite_dequeued (recorded : stream.Recorded record) {now : TimePoint}
    {queue : SubscriberQueue MessageEvent} {event : MessageEvent}
    (dequeued : stream.messageQueue.dequeue now = (queue, some event))
    : (SubscriptionStream.startWrite { stream with messageQueue := queue } event).Recorded
        record := by
  have shorter := queuedIds_dequeue stream.messageQueue now
  rw [dequeued] at shorter
  have kept := recorded.shorterQueue ((List.sublist_append_right _ _).trans shorter)
  exact kept.startWrite (shorter.trans recorded.queued)

theorem dequeued (recorded : stream.Recorded record) {now : TimePoint}
    {queue : SubscriberQueue MessageEvent}
    (dequeued : stream.messageQueue.dequeue now = (queue, none))
    : Recorded record { stream with messageQueue := queue } := by
  have shorter := queuedIds_dequeue stream.messageQueue now
  rw [dequeued] at shorter
  exact recorded.shorterQueue shorter

theorem claimWrite (recorded : stream.Recorded record) (now : TimePoint)
    : (stream.claimWrite now).Recorded record := by
  unfold SubscriptionStream.claimWrite
  split
  · exact recorded.congr rfl rfl
  · split
    · rename_i queue event dequeued
      exact (recorded.startWrite_dequeued dequeued).congr rfl rfl
    · rename_i queue dequeued
      exact (recorded.dequeued dequeued).congr rfl rfl

theorem drainQueue (recorded : stream.Recorded record) (now : TimePoint)
    : (stream.drainQueue now).Recorded record := by
  unfold SubscriptionStream.drainQueue
  split
  · exact recorded.congr rfl rfl
  · split
    · rename_i queue event dequeued
      exact recorded.startWrite_dequeued dequeued
    · rename_i queue dequeued
      exact (recorded.dequeued dequeued).congr rfl rfl

/-- A message that is taken goes on the record. -/
theorem enqueueMessage (recorded : stream.Recorded record) (now : TimePoint)
    (event : MessageEvent) (ttlMs : Int)
    : (stream.enqueueMessage now event ttlMs).1.Recorded
        (record ++ acceptedIds event (stream.enqueueMessage now event ttlMs).2) := by
  have stored :=
    recorded.withQueue (queuedIds_enqueue stream.messageQueue now event ttlMs)
  unfold SubscriptionStream.enqueueMessage
  split
  · exact recorded.mono (List.sublist_append_left _ _)
  · dsimp only
    split
    · exact stored.claimWrite now
    · exact stored

theorem reapExpired (recorded : stream.Recorded record) (now : TimePoint)
    : (stream.reapExpired now).Recorded record :=
  recorded.shorterQueue (queuedIds_reapExpired stream.messageQueue now)

theorem withReplay (recorded : stream.Recorded record) {write : WriteSide}
    {replay : ReplaySide} (resumes : stream.reactor = some (.resume write replay))
    (later : ReplaySide) (pending : ∀ event ∈ later.pendingReplay, event.liveId? = none)
    : Recorded record { stream with reactor := some (.resume write later) } where
  live := by
    have live := recorded.live
    rwa [liveIds, givenIds, resumes] at live
  pending reactor attached := by
    cases attached
    exact pending

theorem onWriteDone (recorded : stream.Recorded record) (now : TimePoint) (systemMs : Int)
    (ok : Bool)
    : (stream.onWriteDone now systemMs ok).Recorded record := by
  have answered := recorded.answerWrite
  unfold SubscriptionStream.onWriteDone
  dsimp only
  split
  · exact answered.finish
  · split
    · rename_i write replay resumes
      have pending : ∀ event ∈ replay.pendingReplay, event.liveId? = none :=
        answered.pending _ resumes
      split
      · rename_i event rest waiting
        rw [waiting, List.forall_mem_cons] at pending
        exact (answered.withReplay resumes _ pending.2).startWrite_other pending.1
      · split
        · exact (answered.withReplay resumes { replay with replayCompleteSent := true }
            pending).startWrite_other rfl
        · exact answered.drainQueue now
    · exact answered.drainQueue now
    · exact answered.drainQueue now

end Recorded

end SubscriptionStream

-----------------------------------------------------------------------------------------
-- The streams of a daemon
-----------------------------------------------------------------------------------------

namespace SidecarService

/-- Every stream has in hand what is on its record. -/
def Recorded (record : Nat → List ByteString) (service : SidecarService) : Prop :=
  ∀ handle stream, service.streams handle = some stream → stream.Recorded (record handle)

variable {record : Nat → List ByteString} {service : SidecarService}

theorem Recorded.onStream (recorded : service.Recorded record) (handle : Nat)
    {method : SubscriptionStream → SubscriptionStream}
    (keeps
      : ∀ stream,
          service.streams handle = some stream → (method stream).Recorded (record handle))
    : (service.onStream handle method).Recorded record := by
  intro other stream found
  rw [onStream_streams] at found
  split at found
  · rename_i same
    subst same
    obtain ⟨old, was, rfl⟩ := Option.map_eq_some_iff.mp found
    exact keeps old was
  · exact recorded other stream found

theorem Recorded.trackStream (recorded : service.Recorded record) (id : ByteString)
    (topics : List ByteString)
    : (service.trackStream id topics).1.Recorded record := by
  intro handle stream found
  simp only [SidecarService.trackStream, Function.update_apply] at found
  split at found
  · cases found
    exact ⟨List.nil_sublist _, by simp⟩
  · exact recorded handle stream found

/-- The streams that a visit of the delivery loop makes take the message. -/
def takenBy (service : SidecarService) (context : CallContext) (envelope : MessageEnvelope)
    (number handle : Nat)
    : List (Nat × ByteString) :=
  if (service.deliverTo context envelope number handle).2 = some .enqueued then
    [(handle, envelope.messageId)]
  else
    []

/-- What a log of takings says about one stream. -/
def idsAt (handle : Nat) (log : List (Nat × ByteString)) : List ByteString :=
  log.filterMap (fun entry => if entry.1 = handle then some entry.2 else none)

@[simp]
theorem liveId_messageEvent (envelope : MessageEnvelope) (number : Nat)
    : (messageEvent envelope number).liveId? = some envelope.messageId :=
  rfl

theorem Recorded.deliverTo (recorded : service.Recorded record) (context : CallContext)
    (envelope : MessageEnvelope) (number handle : Nat)
    : (service.deliverTo context envelope number handle).1.Recorded
        (fun other =>
          record other ++ idsAt other (service.takenBy context envelope number handle)) := by
  intro other stream found
  by_cases same : other = handle
  · subst same
    rw [deliverTo_streams, if_pos rfl] at found
    obtain ⟨old, was, rfl⟩ := Option.map_eq_some_iff.mp found
    have kept := recorded other old was
    unfold received SubscriptionStream.receive
    rcases attached : old.reactor with _ | (write | ⟨write, replay⟩)
    · exact kept.mono (List.sublist_append_left _ _)
    · have taken :=
        kept.enqueueMessage context.now (messageEvent envelope number)
          (service.effectiveTtl envelope)
      refine taken.mono (List.Sublist.append_left ?_ _)
      unfold acceptedIds
      split
      · rename_i enqueued
        simp [takenBy, SidecarService.deliverTo, idsAt, was, attached, enqueued]
      · exact List.nil_sublist _
    · exact kept.mono (List.sublist_append_left _ _)
  · rw [deliverTo_streams, if_neg same] at found
    exact (recorded other stream found).mono (List.sublist_append_left _ _)

theorem foldl_retained_queuedIds (now : TimePoint) (retained : List RetainedMessage)
    (queue : SubscriberQueue MessageEvent)
    : (queuedIds
        (retained.foldl
          (fun queue message => (queue.enqueue now (retainedEvent message) 0).1)
          queue)).Sublist
        (queuedIds queue) := by
  induction retained generalizing queue with
  | nil => exact List.Sublist.refl _
  | cons message rest ih =>
      refine (ih _).trans ?_
      have added := queuedIds_enqueue queue now (retainedEvent message) 0
      have nothing (result : EnqueueResult)
          : acceptedIds (retainedEvent message) result = [] := by
        simp [acceptedIds, retainedEvent, MessageEvent.liveId?]
      rwa [nothing, List.append_nil] at added

/-- A new stream starts with retained messages only. -/
theorem recorded_constructSubscribe (record : List ByteString) (registry : PeerRegistry)
    (context : CallContext) (request : SubscribeRequest) {stream : SubscriptionStream}
    (empty : stream.messageQueue.messages = [])
    : (constructSubscribe registry context request stream).Recorded record := by
  refine SubscriptionStream.Recorded.startWrite_other ⟨?_, ?_⟩ rfl
  · have shorter :=
      foldl_retained_queuedIds context.now
        (if request.receiveRetained then stream.topics.filterMap registry.getRetainedMessage
        else [])
        stream.messageQueue
    rw [show queuedIds stream.messageQueue = [] by simp [queuedIds, empty]] at shorter
    exact shorter.trans (List.nil_sublist _)
  · intro reactor attached
    cases attached
    simp [Reactor.pending]

theorem Recorded.subscribe (recorded : service.Recorded record) (context : CallContext)
    (request : SubscribeRequest)
    : (service.subscribe context request).Recorded record := by
  intro handle stream found
  by_cases new : handle = service.nextStream
  · subst new
    rw [subscribe_stream, Option.some.injEq] at found
    subst found
    exact recorded_constructSubscribe _ _ context request rfl
  · rw [(service.subscribe_opened context request).others handle new] at found
    exact recorded handle stream found

theorem Recorded.unsubscribe (recorded : service.Recorded record) (context : CallContext)
    (request : UnsubscribeRequest)
    : (service.unsubscribe context request).1.Recorded record := by
  intro handle stream found
  by_cases listed : service.activeStreams.lookup request.subscriptionId = some handle
  · simp only [SidecarService.unsubscribe, listed, onStream_streams, if_true] at found
    obtain ⟨old, was, rfl⟩ := Option.map_eq_some_iff.mp found
    exact (recorded handle old was).congr rfl rfl
  · rw [unsubscribe_streams service context request listed] at found
    exact recorded handle stream found

/-- The events of gap recovery are replayed or retained ones. -/
theorem liveId_recoverTopic {buffer : TopicMessageBuffer} {request : ResumeSubscribeRequest}
    {paused : PausedSubscription} {recovery : Recovery} {topic : ByteString}
    (pending : ∀ event ∈ recovery.pendingReplay, event.liveId? = none)
    : ∀ event ∈ (recoverTopic buffer request paused recovery topic).pendingReplay,
        event.liveId? = none := by
  unfold recoverTopic
  split
  · exact pending
  · rw [List.forall_mem_append]
    refine ⟨pending, ?_⟩
    intro event member
    obtain ⟨message, _, rfl⟩ := Option.map_eq_some_iff.mp (Option.mem_toList.mp member)
    rfl
  · dsimp only
    rw [List.forall_mem_append]
    refine ⟨pending, ?_⟩
    intro event member
    obtain ⟨message, _, rfl⟩ := List.mem_map.mp member
    rfl

end SidecarService

/-- What the call has gathered is not live. -/
def ResumePc.Gathers : ResumePc → Prop
  | .idle | .found _ _ | .tracked _ _ _ | .attached _ _ _ | .finished _ _ => True
  | .recovering _ _ _ _ recovery => ∀ event ∈ recovery.pendingReplay, event.liveId? = none

namespace ServiceThreads

open SidecarService (idsAt)

/-- The stream that takes a live message in a step. -/
def taken (state : ServiceThreads) : Action → List (Nat × ByteString)
  | .deliver thread context =>
      match state.deliveries thread with
      | .delivering envelope number (handle :: _) =>
          state.service.takenBy context envelope number handle
      | _ => []
  | .call _ _ _ | .resumeCall _ _ | .resume _ _ | .retain _ _ | .handle _ => []

structure Recorded (record : Nat → List ByteString) (state : ServiceThreads) : Prop where
  streams : state.service.Recorded record
  resumes : ∀ thread, (state.resumes thread).Gathers

variable {record : Nat → List ByteString} {state after : ServiceThreads}

theorem Recorded.mono {longer : Nat → List ByteString} (recorded : state.Recorded record)
    (longerBy : ∀ handle, (record handle).Sublist (longer handle))
    : state.Recorded longer where
  streams handle stream found := (recorded.streams handle stream found).mono (longerBy handle)
  resumes := recorded.resumes

theorem recorded_start (record : Nat → List ByteString) (settings : NodeSettings)
    : (MeshNode.start settings).threads.Recorded record where
  streams handle stream found := by cases found
  resumes thread := trivial

theorem Recorded.deliveryMove (recorded : state.Recorded record) {thread : Nat}
    {context : CallContext} {was pc : DeliveryPc} {service : SidecarService}
    {entries : List QueueEntry} (stands : state.deliveries thread = was)
    (moved : DeliveryMove state.service context was service pc entries)
    : service.Recorded
        (fun handle => record handle ++ idsAt handle (state.taken (.deliver thread context))) := by
  have kept
    : state.service.Recorded (fun handle => record handle ++ idsAt handle []) :=
    (recorded.mono (fun handle => List.sublist_append_left _ _)).streams
  cases moved with
  | collect | leave => simpa only [ServiceThreads.taken, stands] using kept
  | enter | skip =>
      simpa only [ServiceThreads.taken, stands] using recorded.streams.deliverTo context _ _ _
  | record =>
      simp only [ServiceThreads.taken, stands]
      unfold SidecarService.recordDelivery
      split <;> exact kept

theorem Recorded.resumeMove (recorded : state.Recorded record) {thread : Nat}
    {context : CallContext} {was pc : ResumePc} {service : SidecarService}
    (stands : state.resumes thread = was)
    (moved : ResumeMove state.service context was service pc)
    : service.Recorded record ∧ pc.Gathers := by
  have before := recorded.resumes thread
  rw [stands] at before
  cases moved with
  | track => exact ⟨recorded.streams.trackStream _ _, trivial⟩
  | @attach request handle topics =>
      refine ⟨recorded.streams.onStream handle ?_, trivial⟩
      intro stream found
      refine ⟨(recorded.streams handle stream found).queued, ?_⟩
      intro reactor attached
      cases attached
      simp [Reactor.pending]
  | take => exact ⟨recorded.streams, by simp [ResumePc.Gathers]⟩
  | recover => exact ⟨recorded.streams, SidecarService.liveId_recoverTopic before⟩
  | @finish request handle resumed remaining recovery done =>
      -- the end of the constructor writes the info and what has been gathered
      refine ⟨recorded.streams.onStream handle ?_, trivial⟩
      intro stream found
      have kept := recorded.streams handle stream found
      unfold SidecarService.startResume
      refine SubscriptionStream.Recorded.startWrite_other ?_ rfl
      split
      · rename_i write replay resumes
        exact kept.withReplay resumes _ before
      · exact kept
      · exact kept

/-- A resume that moves has gathered nothing live. -/
theorem Recorded.setResume {service : SidecarService} (recorded : state.Recorded record)
    (streams : service.Recorded record) (thread : Nat) {pc : ResumePc} (gathers : pc.Gathers)
    : Recorded record
        { state with service, resumes := Function.update state.resumes thread pc } := by
  refine ⟨streams, ?_⟩
  intro other
  by_cases same : other = thread
  · subst same
    simpa using gathers
  · simpa [same] using recorded.resumes other

/-- Every step of a daemon keeps its streams on their records, with what the step adds. -/
theorem Recorded.step (recorded : state.Recorded record) {action : Action}
    (bySteps : ∀ context request, action ≠ .handle (.resumeSubscribe context request))
    (taken : state.step action = some after)
    : after.Recorded (fun handle => record handle ++ idsAt handle (state.taken action)) := by
  have longer (log : List (Nat × ByteString)) (handle : Nat)
      : (record handle).Sublist (record handle ++ idsAt handle log) :=
    List.sublist_append_left _ _
  have kept := recorded.streams
  cases move_of_step taken with
  | deliver stands moved => exact ⟨recorded.deliveryMove stands moved, recorded.resumes⟩
  | resume stands moved =>
      obtain ⟨streams, gathers⟩ := recorded.resumeMove stands moved
      exact (recorded.setResume streams _ gathers).mono (longer [])
  | call => exact Recorded.mono ⟨kept, recorded.resumes⟩ (longer [])
  | refuse => exact recorded.mono (longer [])
  | @find thread request paused free found =>
      have gathers : (ResumePc.found request paused).Gathers := trivial
      exact (recorded.setResume kept thread gathers).mono (longer [])
  | retain =>
      refine Recorded.mono ⟨?_, recorded.resumes⟩ (longer [])
      unfold SidecarService.retain
      split <;> exact kept
  | @handle request service apart moved =>
      suffices service.Recorded record from
        Recorded.mono ⟨this, recorded.resumes⟩ (longer [])
      cases request with
      | subscribe context request =>
          cases moved
          exact kept.subscribe context request
      | unsubscribe context request =>
          cases moved
          exact kept.unsubscribe context request
      | resumeSubscribe context request => exact absurd rfl (bySteps context request)
      | publish | deliver => cases apart
      | writeDone context handle ok =>
          simp only [SidecarService.step, Option.ite_none_right_eq_some,
            Option.some.injEq] at moved
          obtain ⟨_, rfl⟩ := moved
          exact kept.onStream handle
            (fun stream found => (kept handle stream found).onWriteDone _ _ ok)
      | cancel handle =>
          cases moved
          exact kept.onStream handle
            (fun stream found => (kept handle stream found).congr rfl rfl)

end ServiceThreads

end NexusD.Services
