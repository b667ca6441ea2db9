import NexusD.Core.QueueThreads
import NexusD.Services.DeliveryPosition
import NexusD.Services.FanOut

/-! Runs of the service that include the TTL reaper.
The reaper walks the table of streams beside the handlers. Whatever they do in whatever order,
the table stays sound, the streams keep the ids and the queues they were made with, and one
delivery gives a stream at most one message.
-/

namespace NexusD.Services

open NexusD.Core NexusD.Library

/-- An operation of the service, run to its end. A Publish is a `retain` and a `deliver`. -/
inductive StreamEvent where
  | deliver (context : CallContext) (envelope : MessageEnvelope)
  | subscribe (context : CallContext) (request : SubscribeRequest)
  | unsubscribe (context : CallContext) (request : UnsubscribeRequest)
  | resumeSubscribe (context : CallContext) (request : ResumeSubscribeRequest)
  | retain (context : CallContext) (request : PublishRequest)
  | writeDone (context : CallContext) (handle : Nat) (ok : Bool)
  | cancel (handle : Nat)
  /-- the TTL reaper comes to the stream -/
  | reapExpired (now : TimePoint) (handle : Nat)

namespace SubscriptionStream

def reapExpired (stream : SubscriptionStream) (now : TimePoint) : SubscriptionStream :=
  { stream with messageQueue := (stream.messageQueue.reapExpired now).1 }

def deactivate (stream : SubscriptionStream) : SubscriptionStream :=
  { stream with active := false }

theorem claimWrite_totalEnqueued (stream : SubscriptionStream) (now : TimePoint)
    : (stream.claimWrite now).messageQueue.stats.totalEnqueued
      = stream.messageQueue.stats.totalEnqueued := by
  obtain ⟨expired, taken, removes, _⟩ := stream.messageQueue.dequeue_removes now
  have same := removes.totalEnqueued
  unfold claimWrite
  split
  · rfl
  · split
    · rename_i queue event dequeued
      rwa [dequeued] at same
    · rename_i queue dequeued
      rwa [dequeued] at same

theorem receive_totalEnqueued_le (stream : SubscriptionStream) (now : TimePoint)
    (event : MessageEvent) (ttlMs : Int)
    : (stream.receive now event ttlMs).messageQueue.stats.totalEnqueued
      ≤ stream.messageQueue.stats.totalEnqueued + 1 := by
  have stored := stream.messageQueue.enqueue_totalEnqueued_le now event ttlMs
  unfold receive enqueueMessage
  split
  · split
    · exact Nat.le_succ _
    · dsimp only
      split
      · rw [claimWrite_totalEnqueued]
        exact stored
      · exact stored
  · exact Nat.le_succ _

end SubscriptionStream

namespace SidecarService

/-- One round of `ttlReaperLoop`, which walks the table of streams. -/
def reapExpired (service : SidecarService) (now : TimePoint) (handle : Nat)
    : Option SidecarService :=
  match service.streams handle with
  | none => none
  | some stream =>
      if service.activeStreams.lookup stream.subscriptionId = some handle then
        some (service.onStream handle (fun stream => stream.reapExpired now))
      else
        none

def streamStep (service : SidecarService) : StreamEvent → Option SidecarService
  | .deliver context envelope => service.step (.deliver context envelope)
  | .subscribe context request => service.step (.subscribe context request)
  | .unsubscribe context request => service.step (.unsubscribe context request)
  | .resumeSubscribe context request => service.step (.resumeSubscribe context request)
  | .retain context request => some (service.retain context request)
  | .writeDone context handle ok => service.step (.writeDone context handle ok)
  | .cancel handle => service.step (.cancel handle)
  | .reapExpired now handle => service.reapExpired now handle

variable {service after before : SidecarService} {event : StreamEvent}

theorem reapExpired_eq_some {now : TimePoint} {handle : Nat}
    (taken : service.reapExpired now handle = some after)
    : ∃ stream,
        service.streams handle = some stream
        ∧ service.activeStreams.lookup stream.subscriptionId = some handle
        ∧ after = service.onStream handle (fun stream => stream.reapExpired now) := by
  unfold reapExpired at taken
  split at taken
  · cases taken
  · rename_i stream found
    split at taken
    · rename_i listed
      cases taken
      exact ⟨stream, found, listed, rfl⟩
    · cases taken

/-- The requests among the operations. -/
theorem streamStep_cases (taken : service.streamStep event = some after)
    : Quiet service after
      ∨ (∃ context request,
          event = .subscribe context request ∧ after = service.subscribe context request)
      ∨ (∃ context request,
          event = .unsubscribe context request
          ∧ after = (service.unsubscribe context request).1)
      ∨ ∃ context request paused,
          event = .resumeSubscribe context request
          ∧ service.registry.getPausedSubscription request.subscriptionId = some paused
          ∧ after = (service.resumeSubscribe context request).1 := by
  cases event with
  | deliver context envelope =>
      cases taken
      exact .inl (service.deliverFromRemote_quiet context envelope)
  | subscribe context request =>
      cases taken
      exact .inr (.inl ⟨context, request, rfl, rfl⟩)
  | unsubscribe context request =>
      cases taken
      exact .inr (.inr (.inl ⟨context, request, rfl, rfl⟩))
  | resumeSubscribe context request =>
      cases taken
      cases found : service.registry.getPausedSubscription request.subscriptionId with
      | none =>
          rw [resumeSubscribe_notFound found]
          exact .inl (.refl service)
      | some paused => exact .inr (.inr (.inr ⟨context, request, paused, rfl, found, rfl⟩))
  | retain context request =>
      cases taken
      exact .inl (service.retain_quiet context request)
  | writeDone context handle ok =>
      have answered : service.step (.writeDone context handle ok) = some after := taken
      exact .inl (quiet_of_step rfl answered)
  | cancel handle =>
      have cancelled : service.step (.cancel handle) = some after := taken
      exact .inl (quiet_of_step rfl cancelled)
  | reapExpired now handle =>
      obtain ⟨_, _, _, rfl⟩ := reapExpired_eq_some taken
      exact .inl (service.onStream_quiet handle (fun _ => rfl))

theorem TableInvariant.streamStep (table : service.TableInvariant)
    (taken : service.streamStep event = some after)
    : after.TableInvariant := by
  rcases streamStep_cases taken with
    quiet | ⟨context, request, _, rfl⟩ | ⟨context, request, _, rfl⟩
      | ⟨context, request, _, _, _, rfl⟩
  · exact table.quiet quiet
  · have step : service.step (.subscribe context request) = some _ := rfl
    exact table.step step
  · have step : service.step (.unsubscribe context request) = some _ := rfl
    exact table.step step
  · have step : service.step (.resumeSubscribe context request) = some _ := rfl
    exact table.step step

/-- Every stream's id is older than the counter, also when the registry has forgotten it. -/
def StreamsNumbered (service : SidecarService) : Prop :=
  ∀ handle id, service.AnswersTo handle id → counterOf id < service.subscriptionCounter

theorem Opened.answersTo {id other : ByteString} {topics : List ByteString}
    {isSubscribe : Bool} (opened : Opened before after id topics isSubscribe) {handle : Nat}
    (answers : after.AnswersTo handle other)
    : other = id ∨ before.AnswersTo handle other := by
  by_cases new : handle = before.nextStream
  · left
    obtain ⟨stream, is, identity, _⟩ := opened.opened
    rw [AnswersTo, new, is, Option.map_some, Option.some.injEq] at answers
    exact answers.symm.trans (congrArg StreamIdentity.subscriptionId identity)
  · right
    rwa [AnswersTo, opened.others handle new] at answers

theorem Closed.answersTo_iff {closedId : ByteString} (closed : Closed before after closedId)
    (handle : Nat) (id : ByteString)
    : after.AnswersTo handle id ↔ before.AnswersTo handle id := by
  have same := congrArg (Option.map StreamIdentity.subscriptionId) (closed.streams handle)
  rw [Option.map_map, Option.map_map] at same
  exact Eq.congr_left same

theorem StreamsNumbered.streamStep (numbered : service.StreamsNumbered)
    (table : service.TableInvariant) (taken : service.streamStep event = some after)
    : after.StreamsNumbered := by
  intro handle id answers
  rcases streamStep_cases taken with
    quiet | ⟨context, request, _, rfl⟩ | ⟨context, request, _, rfl⟩
      | ⟨context, request, paused, _, found, rfl⟩
  · rw [quiet.counter]
    exact numbered handle id ((quiet.answersTo_iff handle id).mp answers)
  · rw [subscribe_counter]
    rcases (service.subscribe_opened context request).answersTo answers with rfl | older
    · rw [counterOf_subscriptionIdOf]
      exact Nat.lt_succ_self _
    · exact Nat.lt_succ_of_lt (numbered handle id older)
  · have closed := service.unsubscribe_closed context request
    rw [closed.counter]
    exact numbered handle id ((closed.answersTo_iff handle id).mp answers)
  · rw [resumeSubscribe_counter]
    rcases (resumeSubscribe_opened found context).answersTo answers with rfl | older
    · have known
        : (service.registry.pausedSubscriptions.lookup request.subscriptionId).isSome
          = true :=
        Option.isSome_iff_exists.mpr ⟨paused, found⟩
      exact table.numbered _ (.inr known)
    · exact numbered handle id older

-----------------------------------------------------------------------------------------
-- The policy, and what one delivery adds to a queue
-----------------------------------------------------------------------------------------

/-- Every queue was made with the service's policy. -/
def FollowsPolicy (service : SidecarService) : Prop :=
  ∀ handle stream,
    service.streams handle = some stream
    → stream.messageQueue.policy = service.config.backpressurePolicy

/-- A method of one stream that keeps the queue's settings. -/
theorem FollowsPolicy.onStream (follows : service.FollowsPolicy) (handle : Nat)
    {method : SubscriptionStream → SubscriptionStream}
    (settings
      : ∀ stream : SubscriptionStream,
          stream.messageQueue.SameSettings (method stream).messageQueue)
    : (service.onStream handle method).FollowsPolicy := by
  unfold SidecarService.onStream
  split
  · exact follows
  · rename_i stream found
    intro other after is
    by_cases same : other = handle
    · subst same
      simp only [setStream, Function.update_self, Option.some.injEq] at is
      rw [← is, (settings stream).policy]
      exact follows other stream found
    · simp only [setStream, Function.update_of_ne same] at is
      exact follows other after is

theorem foldl_enqueue_settings (now : TimePoint) (retained : List RetainedMessage)
    (queue : SubscriberQueue MessageEvent)
    : queue.SameSettings
        (retained.foldl
          (fun queue message => (queue.enqueue now (retainedEvent message) 0).1) queue) := by
  induction retained generalizing queue with
  | nil => exact .refl queue
  | cons message rest ih =>
      exact (queue.enqueue_settings now (retainedEvent message) 0).trans (ih _)

theorem FollowsPolicy.clearActive (follows : service.FollowsPolicy) (handle : Nat)
    : (service.onStream handle (fun stream => { stream with active := false })).FollowsPolicy :=
  follows.onStream handle (fun _ => .refl _)

/-- A new stream follows the policy too. -/
theorem FollowsPolicy.opened {id : ByteString} {topics : List ByteString} {isSubscribe : Bool}
    (follows : before.FollowsPolicy) (opened : Opened before after id topics isSubscribe)
    (new
      : ∀ stream,
          after.streams before.nextStream = some stream
          → stream.messageQueue.policy = before.config.backpressurePolicy)
    : after.FollowsPolicy := by
  intro handle stream is
  rw [opened.config]
  by_cases same : handle = before.nextStream
  · subst same
    exact new stream is
  · rw [opened.others handle same] at is
    exact follows handle stream is

theorem FollowsPolicy.subscribe (follows : service.FollowsPolicy) (context : CallContext)
    (request : SubscribeRequest)
    : (service.subscribe context request).FollowsPolicy := by
  refine follows.opened (service.subscribe_opened context request) ?_
  intro stream is
  rw [service.subscribe_stream context request, Option.some.injEq] at is
  rw [← is]
  exact (foldl_enqueue_settings context.now _ service.newQueue).policy

theorem FollowsPolicy.resumeSubscribe (follows : service.FollowsPolicy) (context : CallContext)
    {request : ResumeSubscribeRequest} {paused : PausedSubscription}
    (found : service.registry.getPausedSubscription request.subscriptionId = some paused)
    : (service.resumeSubscribe context request).1.FollowsPolicy := by
  refine follows.opened (resumeSubscribe_opened found context) ?_
  intro stream is
  simp only [SidecarService.resumeSubscribe, found, trackStream, onStream_streams,
    Function.update_self, if_true, Option.map_some, Option.some.injEq] at is
  rw [← is]
  simp only [startResume, attachResume, SubscriptionStream.startWrite]
  rfl

theorem FollowsPolicy.unsubscribe (follows : service.FollowsPolicy) (context : CallContext)
    (request : UnsubscribeRequest)
    : (service.unsubscribe context request).1.FollowsPolicy := by
  unfold SidecarService.unsubscribe
  dsimp only
  split
  · exact follows
  · rename_i handle found
    have unregistered
      : FollowsPolicy
          { service with
            registry :=
              (service.registry.removeLocalSubscription context.now request.subscriptionId
                request.pause service.config.pausedSubscriptionTtl).1 } :=
      follows
    have cleared := unregistered.clearActive handle
    exact cleared

theorem FollowsPolicy.deliverFromRemote (follows : service.FollowsPolicy)
    (table : service.TableInvariant) (context : CallContext) (envelope : MessageEnvelope)
    : (service.deliverFromRemote context envelope).1.FollowsPolicy := by
  intro handle stream is
  rw [(service.deliverFromRemote_quiet context envelope).config]
  rw [table.streams_deliverFromRemote context envelope handle] at is
  split at is
  · obtain ⟨before, found, rfl⟩ := Option.map_eq_some_iff.mp is
    rw [received, (before.receive_settings _ _ _).policy]
    exact follows handle before found
  · exact follows handle stream is

theorem FollowsPolicy.streamStep (follows : service.FollowsPolicy)
    (table : service.TableInvariant) (taken : service.streamStep event = some after)
    : after.FollowsPolicy := by
  cases event with
  | deliver context envelope =>
      cases taken
      exact follows.deliverFromRemote table context envelope
  | subscribe context request =>
      cases taken
      exact follows.subscribe context request
  | unsubscribe context request =>
      cases taken
      exact follows.unsubscribe context request
  | resumeSubscribe context request =>
      cases taken
      cases found : service.registry.getPausedSubscription request.subscriptionId with
      | none => rwa [resumeSubscribe_notFound found]
      | some paused => exact follows.resumeSubscribe context found
  | retain context request =>
      cases taken
      unfold SidecarService.retain
      split <;> exact follows
  | writeDone context handle ok =>
      simp only [SidecarService.streamStep, SidecarService.step,
        Option.ite_none_right_eq_some, Option.some.injEq] at taken
      obtain ⟨_, rfl⟩ := taken
      exact follows.onStream handle (fun stream => stream.onWriteDone_settings _ _ _)
  | cancel handle =>
      cases taken
      exact follows.clearActive handle
  | reapExpired now handle =>
      obtain ⟨_, _, _, rfl⟩ := reapExpired_eq_some taken
      exact follows.onStream handle (fun stream => stream.messageQueue.reapExpired_settings now)

/-- No delivery goes to sleep on any of the queues. -/
def NeverWaits (service : SidecarService) : Prop :=
  ∀ handle stream message,
    service.streams handle = some stream
    → stream.messageQueue.enqueueLocked message ≠ .waits

theorem FollowsPolicy.neverWaits (follows : service.FollowsPolicy)
    (drops : service.config.backpressurePolicy ≠ .block)
    : service.NeverWaits := by
  intro handle stream message is waits
  unfold SubscriberQueue.enqueueLocked at waits
  split at waits
  · split at waits
    · cases waits
    · cases waits
    · rename_i blocks
      exact drops ((follows handle stream is).symm.trans blocks)
  · cases waits

/-- One delivery answers the stream once and puts at most one copy into its queue. -/
structure DeliversOnce (service : SidecarService) (handle : Nat) : Prop where
  answered
    : ∀ context envelope,
        ((service.deliverFromRemote context envelope).2.results.map Prod.fst).count handle ≤ 1
  enqueued
    : ∀ context envelope stream after,
        service.streams handle = some stream
        → (service.deliverFromRemote context envelope).1.streams handle = some after
        → after.messageQueue.stats.totalEnqueued
          ≤ stream.messageQueue.stats.totalEnqueued + 1

theorem TableInvariant.deliversOnce (table : service.TableInvariant) (handle : Nat)
    : service.DeliversOnce handle where
  answered context envelope :=
    List.nodup_iff_count_le_one.mp (table.nodup_results context envelope) handle
  enqueued context envelope stream after found is := by
    rw [table.streams_deliverFromRemote context envelope handle, found] at is
    split at is
    · rw [Option.map_some, Option.some.injEq] at is
      rw [← is]
      exact stream.receive_totalEnqueued_le _ _ _
    · cases is
      exact Nat.le_succ _

/-- The service was created with these settings and has run. -/
def Reachable (config : ServiceConfig) (service : SidecarService) : Prop :=
  ∃ localNodeId messageBufferSize maxBufferMemory events,
    exec streamStep
        (create config { localNodeId } messageBufferSize maxBufferMemory) events
      = some service

/-- What every reachable service satisfies. -/
structure Sound (config : ServiceConfig) (service : SidecarService) : Prop where
  table : service.TableInvariant
  numbered : service.StreamsNumbered
  follows : service.FollowsPolicy
  settings : service.config = config

theorem Sound.streamStep {config : ServiceConfig} (sound : Sound config service)
    (taken : service.streamStep event = some after)
    : Sound config after where
  table := sound.table.streamStep taken
  numbered := sound.numbered.streamStep sound.table taken
  follows := sound.follows.streamStep sound.table taken
  settings := by
    rcases streamStep_cases taken with
      quiet | ⟨context, request, _, rfl⟩ | ⟨context, request, _, rfl⟩
        | ⟨context, request, paused, _, found, rfl⟩
    · exact quiet.config.trans sound.settings
    · exact (service.subscribe_opened context request).config.trans sound.settings
    · exact (service.unsubscribe_closed context request).config.trans sound.settings
    · exact (resumeSubscribe_opened found context).config.trans sound.settings

theorem sound_create (config : ServiceConfig) (localNodeId : ByteString)
    (messageBufferSize maxBufferMemory : Nat)
    : Sound config
        (create config { localNodeId } messageBufferSize maxBufferMemory) where
  table :=
    tableInvariant_create config (PeerRegistry.not_knows_fresh localNodeId)
      messageBufferSize maxBufferMemory
  numbered handle id answers := by
    simp [AnswersTo, create] at answers
  follows handle stream is := by simp [create] at is
  settings := rfl

theorem Reachable.sound {config : ServiceConfig} (reachable : Reachable config service)
    : Sound config service := by
  obtain ⟨localNodeId, messageBufferSize, maxBufferMemory, events, run⟩ := reachable
  exact exec_always (Sound config)
    (sound_create config localNodeId messageBufferSize maxBufferMemory)
    (fun sound taken => sound.streamStep taken) run

end SidecarService

end NexusD.Services
