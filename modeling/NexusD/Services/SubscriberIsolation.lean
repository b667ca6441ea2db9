import NexusD.Library.Noninterference
import NexusD.Services.ReactorCast
import NexusD.Services.StreamEvents

/-! Isolation of the subscribers from each other.
Every stream has a queue of its own. What a stream shares with the others is the buffer that
numbers the messages, and only deliveries move that. So a stream's queue, its counters and
what is taken out of it are a function of the deliveries and of the operations on the stream,
as long as no delivery hangs at the stream of a resumed subscription.
-/

namespace NexusD.Services

open NexusD.Core NexusD.Library

/-- The event an operation took out of the stream's queue. It has then been counted as
delivered and is being written.
-/
def dequeuedBy : Option SubscriptionStream → Option SubscriptionStream → Option MessageEvent
  | some before, some after =>
      if after.messageQueue.stats.totalDelivered = before.messageQueue.stats.totalDelivered then
        none
      else
        some after.writeSide.currentEvent
  | _, _ => none

@[simp]
theorem dequeuedBy_self (stream : Option SubscriptionStream)
    : dequeuedBy stream stream = none := by
  cases stream <;> simp [dequeuedBy]

/-- A `dequeue` that returns something is counted, so that it is noted. -/
theorem dequeuedBy_of_dequeue {stream after : SubscriptionStream} {now : TimePoint}
    {queue : SubscriberQueue MessageEvent} {result : Option MessageEvent}
    (dequeued : stream.messageQueue.dequeue now = (queue, result))
    (kept : after.messageQueue = queue)
    (written : ∀ event ∈ result, after.writeSide.currentEvent = event)
    : dequeuedBy (some stream) (some after) = result := by
  obtain ⟨expired, taken, removes, returned⟩ := stream.messageQueue.dequeue_removes now
  rw [dequeued] at removes returned
  rw [dequeuedBy, kept, removes.totalDelivered]
  cases result with
  | none =>
      have nothing : taken = [] := List.map_eq_nil_iff.mp returned.symm
      simp [nothing]
  | some event =>
      have one : taken.length = 1 := by
        simpa using (congrArg List.length returned).symm
      simp [one, written event rfl]

theorem dequeuedBy_startWrite {stream : SubscriptionStream}
    (attached : stream.reactor.isSome = true) {now : TimePoint}
    {queue : SubscriberQueue MessageEvent} {event : MessageEvent}
    (dequeued : stream.messageQueue.dequeue now = (queue, some event)) (writing : Bool)
    : dequeuedBy (some stream)
        (some ({ stream with messageQueue := queue, writing }.startWrite event))
      = some event := by
  obtain ⟨reactor, is⟩ := Option.isSome_iff_exists.mp attached
  refine dequeuedBy_of_dequeue dequeued rfl ?_
  simp [SubscriptionStream.startWrite, SubscriptionStream.writeSide, is]

theorem dequeue_of_empty {queue : SubscriberQueue MessageEvent} (empty : queue.empty = true)
    (now : TimePoint)
    : queue.dequeue now = (queue, none) := by
  have nothing : queue.messages = [] := List.isEmpty_iff.mp empty
  simp only [SubscriberQueue.dequeue, nothing, SubscriberQueue.skipExpired, Nat.add_zero]
  rw [← nothing]

/-- Only the counter of the stream before matters. -/
theorem dequeuedBy_congr {stream other : SubscriptionStream}
    (same
      : other.messageQueue.stats.totalDelivered = stream.messageQueue.stats.totalDelivered)
    (after : Option SubscriptionStream)
    : dequeuedBy (some stream) after = dequeuedBy (some other) after := by
  cases after with
  | none => rfl
  | some after => simp only [dequeuedBy, same]

theorem dequeuedBy_drainQueue {stream : SubscriptionStream}
    (attached : stream.reactor.isSome = true) (now : TimePoint)
    : dequeuedBy (some stream) (some (stream.drainQueue now))
      = (stream.messageQueue.dequeue now).2 := by
  unfold SubscriptionStream.drainQueue
  split
  · rename_i empty
    rw [dequeue_of_empty empty]
    simp [dequeuedBy]
  · split
    · rename_i queue event dequeued
      rw [dequeued]
      exact dequeuedBy_startWrite attached dequeued stream.writing
    · rename_i queue dequeued
      rw [dequeued]
      exact dequeuedBy_of_dequeue dequeued rfl (by simp)

theorem dequeuedBy_claimWrite {stream : SubscriptionStream}
    (attached : stream.reactor.isSome = true) (now : TimePoint)
    : dequeuedBy (some stream) (some (stream.claimWrite now))
      = (stream.messageQueue.dequeue now).2 := by
  unfold SubscriptionStream.claimWrite
  split
  · rename_i empty
    rw [dequeue_of_empty empty]
    simp [dequeuedBy]
  · split
    · rename_i queue event dequeued
      rw [dequeued]
      exact dequeuedBy_startWrite attached dequeued true
    · rename_i queue dequeued
      rw [dequeued]
      exact dequeuedBy_of_dequeue dequeued rfl (by simp)

/-- What is noted at `enqueueMessage` is what it takes out of the queue, if it does. -/
theorem dequeuedBy_enqueueMessage {stream : SubscriptionStream}
    (attached : stream.reactor.isSome = true) (now : TimePoint) (event : MessageEvent)
    (ttlMs : Int)
    : dequeuedBy (some stream) (some (stream.enqueueMessage now event ttlMs).1)
      = if stream.active = true
            ∧ (stream.messageQueue.enqueue now event ttlMs).2 = .enqueued
            ∧ stream.writing = false then
          ((stream.messageQueue.enqueue now event ttlMs).1.dequeue now).2
        else
          none := by
  have counted := stream.messageQueue.enqueue_totalDelivered now event ttlMs
  have taken {stored : SubscriptionStream}
      (kept : stored.messageQueue = (stream.messageQueue.enqueue now event ttlMs).1)
      (still : stored.reactor.isSome = true)
      : dequeuedBy (some stream) (some (stored.claimWrite now))
        = ((stream.messageQueue.enqueue now event ttlMs).1.dequeue now).2 := by
    rw [← kept] at counted ⊢
    rw [dequeuedBy_congr counted, dequeuedBy_claimWrite still]
  unfold SubscriptionStream.enqueueMessage
  cases stream.active with
  | false => simp
  | true =>
      simp only [Bool.not_true, Bool.false_eq_true, if_false, true_and]
      split
      · exact taken rfl attached
      · simp [dequeuedBy, counted]

/-- `OnWriteDone` gets to the queue: there is nothing left to replay. -/
def takesFromQueue (stream : SubscriptionStream) : Bool :=
  match stream.reactor with
  | some (.resume _ replay) =>
      replay.pendingReplay.isEmpty
        && (replay.replayCompleteSent || replay.gapRecoveryMode != .replayBuffer)
  | some (.subscribe _) | none => true

/-- What is noted at `OnWriteDone` is what it takes out of the queue, if it does. -/
theorem dequeuedBy_onWriteDone {stream : SubscriptionStream}
    (attached : stream.reactor.isSome = true) (now : TimePoint) (systemMs : Int) (ok : Bool)
    : dequeuedBy (some stream) (some (stream.onWriteDone now systemMs ok))
      = if ok && stream.active && takesFromQueue stream then
          (stream.messageQueue.dequeue now).2
        else
          none := by
  have still : stream.answerWrite.reactor.isSome = true := by
    rw [SubscriptionStream.answerWrite, Option.isSome_map, attached]
  have drained
    : dequeuedBy (some stream) (some (stream.answerWrite.drainQueue now))
      = (stream.messageQueue.dequeue now).2 :=
    dequeuedBy_drainQueue still now
  have untouched {after : SubscriptionStream}
      (kept : after.messageQueue = stream.messageQueue)
      : dequeuedBy (some stream) (some after) = none := by
    simp only [dequeuedBy, kept, if_true]
  have active : stream.answerWrite.active = stream.active := rfl
  simp only [SubscriptionStream.onWriteDone, active]
  rw [← Bool.not_and]
  cases ok && stream.active with
  | false => exact untouched rfl
  | true =>
      simp only [Bool.not_true, Bool.false_eq_true, if_false, Bool.true_and]
      cases behind : stream.reactor with
      | none => simp [behind] at attached
      | some reactor =>
          have answered : stream.answerWrite.reactor = _ := congrArg (Option.map _) behind
          cases reactor with
          | subscribe write =>
              rw [answered, takesFromQueue, behind]
              exact drained
          | resume write replay =>
              rw [answered, takesFromQueue, behind]
              cases left : replay.pendingReplay with
              | cons event rest =>
                  simp only [Option.map_some, Reactor.mapWrite, left]
                  exact untouched rfl
              | nil =>
                  simp only [Option.map_some, Reactor.mapWrite, left, List.isEmpty_nil,
                    Bool.true_and]
                  cases replay.replayCompleteSent <;> cases replay.gapRecoveryMode
                  all_goals first | exact drained | exact untouched rfl

/-- A stream, whether it is in the table, and what it shares with the others. -/
structure Subscriber where
  config : ServiceConfig
  messageBuffer : TopicMessageBuffer
  stream : Option SubscriptionStream
  listed : Bool
  dequeued : List MessageEvent

/-- What concerns a subscriber: the deliveries, and the operations on its stream. -/
inductive SubscriberInput where
  | deliver (now : TimePoint) (topicOrder : IterationOrder ByteString)
      (envelope : MessageEnvelope)
  | unsubscribe
  | writeDone (now : TimePoint) (systemMs : Int) (ok : Bool)
  | cancel
  | reapExpired (now : TimePoint)

namespace Subscriber

def update (subscriber : Subscriber) (method : SubscriptionStream → SubscriptionStream)
    : Subscriber :=
  { subscriber with
    stream := subscriber.stream.map method
    dequeued :=
      subscriber.dequeued
        ++ (dequeuedBy subscriber.stream (subscriber.stream.map method)).toList }

/-- The delivery loop would find the stream. -/
def hears (subscriber : Subscriber) (topic : ByteString) : Bool :=
  subscriber.listed
    && (match subscriber.stream with
      | none => false
      | some stream => stream.active && stream.topics.contains topic)

def outstanding (subscriber : Subscriber) : Nat :=
  match subscriber.stream with
  | none => 0
  | some stream => stream.writeSide.outstanding

def step (subscriber : Subscriber) : SubscriberInput → Option Subscriber
  | .deliver now topicOrder envelope =>
      let (messageBuffer, sequenceNumber) :=
        subscriber.messageBuffer.bufferMessage
          { order := topicOrder, now, topic := envelope.topic, payload := envelope.payload }
      let ttlMs :=
        if 0 < envelope.ttlMs then envelope.ttlMs else subscriber.config.defaultMessageTtlMs
      let buffered := { subscriber with messageBuffer }
      some
        (if subscriber.hears envelope.topic then
          buffered.update (fun stream =>
            stream.receive now (SidecarService.messageEvent envelope sequenceNumber) ttlMs)
        else
          buffered)
  | .unsubscribe =>
      some
        (if subscriber.listed then
          { subscriber.update SubscriptionStream.deactivate with listed := false }
        else
          subscriber)
  | .writeDone now systemMs ok =>
      if 0 < subscriber.outstanding then
        some (subscriber.update (fun stream => stream.onWriteDone now systemMs ok))
      else
        none
  | .cancel => some (subscriber.update SubscriptionStream.deactivate)
  | .reapExpired now =>
      if subscriber.listed && subscriber.stream.isSome then
        some (subscriber.update (fun stream => stream.reapExpired now))
      else
        none

end Subscriber

/-- The service, and the events taken out of one stream's queue so far. -/
structure WatchedService where
  service : SidecarService
  dequeued : List MessageEvent := []

namespace WatchedService

/-- The event resumes the subscription. -/
def resumes (id : ByteString) : StreamEvent → Bool
  | .resumeSubscribe _ request => decide (request.subscriptionId = id)
  | _ => false

def advance (watched : WatchedService) (handle : Nat) (after : SidecarService)
    : WatchedService where
  service := after
  dequeued :=
    watched.dequeued
      ++ (dequeuedBy (watched.service.streams handle) (after.streams handle)).toList

/-- The service runs and the stream of subscription `id` behind `handle` is watched. Its
subscription is not resumed while it is: that would make a new stream.
-/
def step (id : ByteString) (handle : Nat) (watched : WatchedService) (event : StreamEvent)
    : Option WatchedService :=
  if resumes id event then none
  else (watched.service.streamStep event).map (watched.advance handle)

theorem exists_of_step {id : ByteString} {handle : Nat} {watched next : WatchedService}
    {event : StreamEvent} (taken : watched.step id handle event = some next)
    : ∃ after,
        resumes id event = false
        ∧ watched.service.streamStep event = some after
        ∧ next = watched.advance handle after := by
  simp only [step, Option.ite_none_left_eq_some, Bool.not_eq_true] at taken
  obtain ⟨fresh, mapped⟩ := taken
  obtain ⟨after, moved, advanced⟩ := Option.map_eq_some_iff.mp mapped
  exact ⟨after, fresh, moved, advanced.symm⟩

def subscriber (id : ByteString) (handle : Nat) (watched : WatchedService) : Subscriber where
  config := watched.service.config
  messageBuffer := watched.service.messageBuffer
  stream := watched.service.streams handle
  listed := decide (watched.service.activeStreams.lookup id = some handle)
  dequeued := watched.dequeued

/-- What the operation is to the subscriber. -/
def input (id : ByteString) (handle : Nat) : StreamEvent → Option SubscriberInput
  | .deliver context envelope => some (.deliver context.now context.topicOrder envelope)
  | .unsubscribe _ request =>
      if request.subscriptionId = id then some .unsubscribe else none
  | .writeDone context written ok =>
      if written = handle then some (.writeDone context.now context.systemMs ok) else none
  | .cancel cancelled => if cancelled = handle then some .cancel else none
  | .reapExpired now visited => if visited = handle then some (.reapExpired now) else none
  | .subscribe _ _ | .resumeSubscribe _ _ | .retain _ _ => none

section Moves

variable {id : ByteString} {handle : Nat} {watched : WatchedService} {after : SidecarService}

/-- An operation that gets to the stream only by a method of the stream. -/
theorem subscriber_advance (config : after.config = watched.service.config)
    {method : SubscriptionStream → SubscriptionStream}
    (stream : after.streams handle = (watched.service.streams handle).map method)
    (listed
      : after.activeStreams.lookup id = some handle
        ↔ watched.service.activeStreams.lookup id = some handle)
    : subscriber id handle (watched.advance handle after)
      = { (subscriber id handle watched).update method with
          messageBuffer := after.messageBuffer } := by
  simp only [subscriber, advance, Subscriber.update, config, stream, listed]

/-- An operation that does not get to the stream. -/
theorem subscriber_advance_others (config : after.config = watched.service.config)
    (stream : after.streams handle = watched.service.streams handle)
    (listed
      : after.activeStreams.lookup id = some handle
        ↔ watched.service.activeStreams.lookup id = some handle)
    : subscriber id handle (watched.advance handle after)
      = { subscriber id handle watched with messageBuffer := after.messageBuffer } := by
  simp only [subscriber, advance, config, stream, listed, dequeuedBy_self,
    Option.toList_none, List.append_nil]

theorem subscriber_onStream (other : Nat) (method : SubscriptionStream → SubscriptionStream)
    : subscriber id handle
        (watched.advance handle (watched.service.onStream other method))
      = if other = handle then (subscriber id handle watched).update method
        else subscriber id handle watched := by
  have config : (watched.service.onStream other method).config = watched.service.config := by
    unfold SidecarService.onStream
    split <;> rfl
  have table
    : (watched.service.onStream other method).activeStreams
      = watched.service.activeStreams := by
    unfold SidecarService.onStream
    split <;> rfl
  have stream := watched.service.onStream_streams other method handle
  split
  · rename_i same
    rw [if_pos same.symm] at stream
    rw [subscriber_advance config stream (by rw [table]),
      SidecarService.onStream_messageBuffer]
    rfl
  · rename_i different
    rw [if_neg (Ne.symm different)] at stream
    rw [subscriber_advance_others config stream (by rw [table]),
      SidecarService.onStream_messageBuffer]
    rfl

/-- A stream that is opened under another id. -/
theorem subscriber_opened {newId : ByteString} {topics : List ByteString} {isSubscribe : Bool}
    (opened : SidecarService.Opened watched.service after newId topics isSubscribe)
    (table : watched.service.TableInvariant)
    (answers : watched.service.AnswersTo handle id) (different : id ≠ newId)
    : subscriber id handle (watched.advance handle after) = subscriber id handle watched := by
  obtain ⟨stream, found, _⟩ := Option.map_eq_some_iff.mp answers
  have older : handle ≠ watched.service.nextStream :=
    Nat.ne_of_lt (table.allocated handle (by simp [found]))
  have listed
    : after.activeStreams.lookup id = some handle
      ↔ watched.service.activeStreams.lookup id = some handle := by
    rw [opened.activeStreams, AList.lookup_insert_ne different]
  rw [subscriber_advance_others opened.config (opened.others handle older) listed,
    opened.buffer]
  rfl

/-- The delivery loop finds the stream under its id or not at all. -/
theorem hears_iff (table : watched.service.TableInvariant)
    (answers : watched.service.AnswersTo handle id) (order : IterationOrder ByteString)
    (topic : ByteString)
    : (subscriber id handle watched).hears topic = true
      ↔ handle ∈ watched.service.matchingStreams order topic := by
  rw [SidecarService.mem_matchingStreams, Subscriber.hears, Bool.and_eq_true]
  refine and_congr ?_ Iff.rfl
  simp only [subscriber, decide_eq_true_eq]
  constructor
  · intro listed
    exact ⟨id, listed⟩
  · intro somewhere
    obtain ⟨other, listed⟩ := somewhere
    obtain ⟨stream, found, named⟩ := table.named other handle listed
    rw [SidecarService.AnswersTo, found, Option.map_some, Option.some.injEq] at answers
    rw [← answers, named]
    exact listed

theorem step_deliver (table : watched.service.TableInvariant)
    (answers : watched.service.AnswersTo handle id) {context : CallContext}
    {envelope : MessageEnvelope}
    (returned : (watched.service.deliverFromRemote context envelope).2.returned = true)
    : (subscriber id handle watched).step (.deliver context.now context.topicOrder envelope)
      = some
          (subscriber id handle
            (watched.advance handle
              (watched.service.deliverFromRemote context envelope).1)) := by
  have quiet := watched.service.deliverFromRemote_quiet context envelope
  have buffer := watched.service.deliverFromRemote_messageBuffer context envelope
  have stream := table.streams_deliverFromRemote context envelope handle
  rw [SidecarService.reachedStreams_eq (SidecarService.returned_iff.mp returned)] at stream
  have heard := hears_iff table answers context.streamOrder envelope.topic
  by_cases hears : (subscriber id handle watched).hears envelope.topic = true
  · rw [if_pos (heard.mp hears)] at stream
    rw [subscriber_advance quiet.config stream (by rw [quiet.activeStreams]), buffer]
    simp only [Subscriber.step, hears, if_true]
    rfl
  · rw [if_neg (heard.not.mp hears)] at stream
    rw [subscriber_advance_others quiet.config stream (by rw [quiet.activeStreams]), buffer]
    simp only [Subscriber.step, hears]
    rfl

/-- `Unsubscribe` of another id, or with the stream no longer in the table. -/
theorem subscriber_unsubscribe_others (context : CallContext) {request : UnsubscribeRequest}
    (unlisted
      : watched.service.activeStreams.lookup request.subscriptionId ≠ some handle)
    : subscriber id handle
        (watched.advance handle (watched.service.unsubscribe context request).1)
      = subscriber id handle watched := by
  have closed := watched.service.unsubscribe_closed context request
  have stream := watched.service.unsubscribe_streams context request unlisted
  have listed
    : (watched.service.unsubscribe context request).1.activeStreams.lookup id = some handle
      ↔ watched.service.activeStreams.lookup id = some handle := by
    by_cases same : id = request.subscriptionId
    · rw [same, closed.gone]
      simp [unlisted]
    · rw [closed.others id same]
  rw [subscriber_advance_others closed.config stream listed, closed.buffer]
  rfl

theorem subscriber_unsubscribe (context : CallContext) {request : UnsubscribeRequest}
    (listed : watched.service.activeStreams.lookup request.subscriptionId = some handle)
    : subscriber request.subscriptionId handle
        (watched.advance handle (watched.service.unsubscribe context request).1)
      = { (subscriber request.subscriptionId handle watched).update
            SubscriptionStream.deactivate with
          listed := false } := by
  have closed := watched.service.unsubscribe_closed context request
  have stream
    : (watched.service.unsubscribe context request).1.streams handle
      = (watched.service.streams handle).map SubscriptionStream.deactivate := by
    simp only [SidecarService.unsubscribe, listed, SidecarService.onStream_streams, if_true]
    rfl
  simp [subscriber, advance, Subscriber.update, closed.config, closed.buffer, closed.gone,
    stream]

theorem step_unsubscribe (table : watched.service.TableInvariant)
    (answers : watched.service.AnswersTo handle id) (context : CallContext)
    (request : UnsubscribeRequest)
    : exec Subscriber.step (subscriber id handle watched)
        (input id handle (.unsubscribe context request)).toList
      = some
          (subscriber id handle
            (watched.advance handle (watched.service.unsubscribe context request).1)) := by
  by_cases listed : watched.service.activeStreams.lookup request.subscriptionId = some handle
  · obtain ⟨stream, found, named⟩ := table.named _ _ listed
    rw [SidecarService.AnswersTo, found, Option.map_some, Option.some.injEq] at answers
    obtain rfl := answers.symm.trans named
    rw [subscriber_unsubscribe context listed]
    simp [input, Subscriber.step, subscriber, listed]
  · rw [subscriber_unsubscribe_others context listed]
    by_cases same : request.subscriptionId = id
    · subst same
      simp [input, Subscriber.step, subscriber, listed]
    · simp [input, same]

/-- The stream is the subscription's, in a table as the service keeps it. -/
structure Stable (id : ByteString) (handle : Nat) (watched : WatchedService) : Prop where
  table : watched.service.TableInvariant
  numbered : watched.service.StreamsNumbered
  answers : watched.service.AnswersTo handle id

theorem answersTo_streamStep {event : StreamEvent}
    (table : watched.service.TableInvariant)
    (answers : watched.service.AnswersTo handle id)
    (taken : watched.service.streamStep event = some after)
    : after.AnswersTo handle id := by
  obtain ⟨stream, found, _⟩ := Option.map_eq_some_iff.mp answers
  have older : handle ≠ watched.service.nextStream :=
    Nat.ne_of_lt (table.allocated handle (by simp [found]))
  rcases SidecarService.streamStep_cases taken with
    quiet | ⟨context, request, _, rfl⟩ | ⟨context, request, _, rfl⟩
      | ⟨context, request, paused, _, resumed, rfl⟩
  · exact (quiet.answersTo_iff handle id).mpr answers
  · rwa [SidecarService.AnswersTo,
      (watched.service.subscribe_opened context request).others handle older]
  · exact ((watched.service.unsubscribe_closed context request).answersTo_iff handle id).mpr
      answers
  · rwa [SidecarService.AnswersTo,
      (SidecarService.resumeSubscribe_opened resumed context).others handle older]

theorem Stable.step {next : WatchedService} {event : StreamEvent}
    (stable : Stable id handle watched) (taken : watched.step id handle event = some next)
    : Stable id handle next := by
  obtain ⟨after, _, moved, rfl⟩ := exists_of_step taken
  exact ⟨stable.table.streamStep moved, stable.numbered.streamStep stable.table moved,
    answersTo_streamStep stable.table stable.answers moved⟩

/-- The next Subscribe gives out another id. -/
theorem Stable.ne_nextId (stable : Stable id handle watched) (uuid : ByteString)
    : id ≠ SidecarService.subscriptionIdOf watched.service.subscriptionCounter uuid := by
  intro same
  have older := stable.numbered handle id stable.answers
  rw [same, SidecarService.counterOf_subscriptionIdOf] at older
  exact Nat.lt_irrefl _ older

theorem subscriber_retain (context : CallContext) (request : PublishRequest)
    : subscriber id handle (watched.advance handle (watched.service.retain context request))
      = subscriber id handle watched := by
  have quiet := watched.service.retain_quiet context request
  have stream
    : (watched.service.retain context request).streams handle
      = watched.service.streams handle := by
    unfold SidecarService.retain
    split <;> rfl
  rw [subscriber_advance_others quiet.config stream (by rw [quiet.activeStreams]),
    SidecarService.retain_messageBuffer]
  rfl

/-- If the operation is a delivery, it returns. -/
def Returns (watched : WatchedService) : StreamEvent → Prop
  | .deliver context envelope =>
      (watched.service.deliverFromRemote context envelope).2.returned = true
  | _ => True

/-- Every operation is a step of the subscriber, or none. -/
theorem Stable.moves {next : WatchedService} {event : StreamEvent}
    (stable : Stable id handle watched) (returns : watched.Returns event)
    (taken : watched.step id handle event = some next)
    : exec Subscriber.step (subscriber id handle watched) (input id handle event).toList
      = some (subscriber id handle next) := by
  obtain ⟨after, fresh, moved, rfl⟩ := exists_of_step taken
  cases event with
  | deliver context envelope =>
      cases moved
      have step := step_deliver stable.table stable.answers returns
      simp only [input, Option.toList_some, exec_cons, step, Option.bind_some, exec_nil]
  | subscribe context request =>
      cases moved
      exact congrArg some
        (subscriber_opened (watched.service.subscribe_opened context request) stable.table
          stable.answers (stable.ne_nextId context.uuid)).symm
  | unsubscribe context request =>
      cases moved
      exact step_unsubscribe stable.table stable.answers context request
  | resumeSubscribe context request =>
      cases moved
      cases found : watched.service.registry.getPausedSubscription request.subscriptionId with
      | none =>
          rw [SidecarService.resumeSubscribe_notFound found,
            subscriber_advance_others rfl rfl Iff.rfl]
          rfl
      | some paused =>
          have different : id ≠ request.subscriptionId := by
            intro same
            simp [resumes, same] at fresh
          exact congrArg some
            (subscriber_opened (SidecarService.resumeSubscribe_opened found context)
              stable.table stable.answers different).symm
  | retain context request =>
      cases moved
      exact congrArg some (subscriber_retain context request).symm
  | writeDone context written ok =>
      simp only [SidecarService.streamStep, SidecarService.step,
        Option.ite_none_right_eq_some, Option.some.injEq] at moved
      obtain ⟨pending, rfl⟩ := moved
      rw [subscriber_onStream]
      by_cases same : written = handle
      · subst same
        have outstanding : 0 < (subscriber id written watched).outstanding := pending
        simp [input, Subscriber.step, outstanding]
      · simp [input, same]
  | cancel cancelled =>
      cases moved
      rw [subscriber_onStream]
      by_cases same : cancelled = handle
      · simp only [input, same, if_true, Option.toList_some]
        rfl
      · simp [input, same]
  | reapExpired now visited =>
      obtain ⟨stream, found, listed, rfl⟩ := SidecarService.reapExpired_eq_some moved
      rw [subscriber_onStream]
      by_cases same : visited = handle
      · subst same
        have answers := stable.answers
        rw [SidecarService.AnswersTo, found, Option.map_some, Option.some.injEq] at answers
        rw [answers] at listed
        simp [input, Subscriber.step, subscriber, listed, found]
      · simp [input, same]

end Moves

theorem sound_step {config : ServiceConfig} {id : ByteString} {handle : Nat}
    {watched next : WatchedService} {event : StreamEvent}
    (sound : SidecarService.Sound config watched.service)
    (taken : watched.step id handle event = some next)
    : SidecarService.Sound config next.service := by
  obtain ⟨after, _, moved, rfl⟩ := exists_of_step taken
  exact sound.streamStep moved

/-- The subscriber's part of a run is a run of the subscriber alone. -/
theorem exec_subscriber {config : ServiceConfig} {service : SidecarService}
    (reachable : SidecarService.Reachable config service) {id : ByteString} {handle : Nat}
    (answers : service.AnswersTo handle id) {events : List StreamEvent}
    {final : WatchedService}
    (run : exec (WatchedService.step id handle) { service } events = some final)
    (returns : Along (WatchedService.step id handle) { service } Returns events)
    : exec Subscriber.step (subscriber id handle { service })
        (events.filterMap (input id handle))
      = some (subscriber id handle final) := by
  have sound := reachable.sound
  exact exec_project_along (subscriber id handle) (input id handle) Returns (Stable id handle)
    ⟨sound.table, sound.numbered, answers⟩ (fun stable taken => stable.step taken)
    (fun stable returns taken => stable.moves returns taken) run returns

/-- Without a ResumeSubscribe every delivery returns. -/
theorem along_returns {service : SidecarService} (silent : service.ResumedSilent)
    {events : List StreamEvent}
    (plain : ∀ context request, .resumeSubscribe context request ∉ events)
    (id : ByteString) (handle : Nat)
    : Along (WatchedService.step id handle) { service } Returns events := by
  refine along_of_invariant (fun watched => watched.service.ResumedSilent) silent ?_ ?_
  · intro watched event next member silent taken
    obtain ⟨after, _, moved, rfl⟩ := exists_of_step taken
    refine silent.streamStep ?_ moved
    intro context request resumes
    subst resumes
    exact absurd member (plain context request)
  · intro watched event _ silent
    cases event with
    | deliver context envelope => exact silent.castsRight.returned context envelope
    | subscribe | unsubscribe | resumeSubscribe | retain | writeDone | cancel | reapExpired =>
        trivial

/-- Under the dropping policies, two runs with the same deliveries and the same operations on
one stream leave the stream the same, whatever happens to the others: its queue with sequence
numbers and expiry times, its counters, and the events taken out. No delivery puts in more
than one copy, and none waits for another stream. The deliveries of the runs return, as they
do without a ResumeSubscribe.
-/
theorem subscriberIsolation {config : ServiceConfig}
    (drops : config.backpressurePolicy ≠ .block) {left right : SidecarService}
    (leftReachable : SidecarService.Reachable config left)
    (rightReachable : SidecarService.Reachable config right)
    {id : ByteString} {leftHandle rightHandle : Nat}
    (answers : left.AnswersTo leftHandle id)
    (alike
      : subscriber id leftHandle { service := left }
        = subscriber id rightHandle { service := right })
    {leftEvents rightEvents : List StreamEvent} {leftFinal rightFinal : WatchedService}
    (leftRun
      : exec (WatchedService.step id leftHandle) { service := left } leftEvents
        = some leftFinal)
    (rightRun
      : exec (WatchedService.step id rightHandle) { service := right } rightEvents
        = some rightFinal)
    (leftReturns
      : Along (WatchedService.step id leftHandle) { service := left } Returns leftEvents)
    (rightReturns
      : Along (WatchedService.step id rightHandle) { service := right } Returns rightEvents)
    (same
      : leftEvents.filterMap (input id leftHandle)
        = rightEvents.filterMap (input id rightHandle))
    : leftFinal.service.streams leftHandle = rightFinal.service.streams rightHandle
      ∧ leftFinal.dequeued = rightFinal.dequeued
      ∧ Throughout (WatchedService.step id leftHandle) { service := left }
          (fun watched =>
            watched.service.DeliversOnce leftHandle ∧ watched.service.NeverWaits)
          leftEvents := by
  have answersToo : right.AnswersTo rightHandle id := by
    have stream : left.streams leftHandle = right.streams rightHandle :=
      congrArg Subscriber.stream alike
    rwa [SidecarService.AnswersTo, ← stream]
  have leftView := exec_subscriber leftReachable answers leftRun leftReturns
  have rightView := exec_subscriber rightReachable answersToo rightRun rightReturns
  rw [alike, same, rightView, Option.some.injEq] at leftView
  refine ⟨(congrArg Subscriber.stream leftView).symm,
    (congrArg Subscriber.dequeued leftView).symm, ?_⟩
  intro early watched _ reached
  have sound : SidecarService.Sound config watched.service :=
    exec_always (fun watched => SidecarService.Sound config watched.service) leftReachable.sound
      (fun sound taken => sound_step sound taken) reached
  exact ⟨sound.table.deliversOnce leftHandle,
    sound.follows.neverWaits (sound.settings ▸ drops)⟩

/-- A daemon with one subscriber. -/
def oneSubscriber : SidecarService :=
  SidecarService.smallDaemon.subscribe {} { topics := [[97], [97]] }

/-- Two messages, the first of them written. -/
def alone : List StreamEvent :=
  [ .deliver {} { topic := [97], payload := [1] }, .writeDone {} 0 true,
    .deliver {} { topic := [97], payload := [2] } ]

/-- The same, while a second subscriber comes, is slow and goes away. -/
def inCompany : List StreamEvent :=
  [ .subscribe {} { topics := [[97]] }, .deliver {} { topic := [97], payload := [1] },
    .writeDone {} 0 true, .cancel 1, .deliver {} { topic := [97], payload := [2] },
    .unsubscribe {} { subscriptionId := SidecarService.subscriptionIdOf 1 [] } ]

theorem subscriberIsolation_inCompany
    : ∃ left right,
        exec (WatchedService.step (SidecarService.subscriptionIdOf 0 []) 0)
            { service := oneSubscriber } alone
          = some left
        ∧ exec (WatchedService.step (SidecarService.subscriptionIdOf 0 []) 0)
            { service := oneSubscriber } inCompany
          = some right
        ∧ left.service.nextStream ≠ right.service.nextStream
        ∧ left.dequeued.length = 2
        ∧ left.service.streams 0 = right.service.streams 0
        ∧ left.dequeued = right.dequeued := by
  obtain ⟨left, leftRun, leftStreams, taken⟩
    : ∃ left,
        exec (WatchedService.step (SidecarService.subscriptionIdOf 0 []) 0)
            { service := oneSubscriber } alone
          = some left
        ∧ left.service.nextStream = 1
        ∧ left.dequeued.length = 2 :=
    ⟨_, rfl, rfl, by decide +kernel⟩
  obtain ⟨right, rightRun, rightStreams⟩
    : ∃ right,
        exec (WatchedService.step (SidecarService.subscriptionIdOf 0 []) 0)
            { service := oneSubscriber } inCompany
          = some right
        ∧ right.service.nextStream = 2 :=
    ⟨_, rfl, rfl⟩
  have reachable : SidecarService.Reachable {} oneSubscriber :=
    ⟨[], 5, 0, [.subscribe {} { topics := [[97], [97]] }], rfl⟩
  have drops : ({} : ServiceConfig).backpressurePolicy ≠ .block := by decide
  have answers : oneSubscriber.AnswersTo 0 (SidecarService.subscriptionIdOf 0 []) := rfl
  have silent : oneSubscriber.ResumedSilent := by
    intro handle stream is resumed
    cases handle with
    | zero =>
        cases is
        cases resumed
    | succ later => cases is
  obtain ⟨stream, dequeued, _⟩ :=
    subscriberIsolation drops reachable reachable answers rfl leftRun rightRun
      (along_returns silent (by simp [alone]) _ 0)
      (along_returns silent (by simp [inCompany]) _ 0) rfl
  exact ⟨left, right, leftRun, rightRun, by simp [leftStreams, rightStreams], taken, stream,
    dequeued⟩

end WatchedService

end NexusD.Services
