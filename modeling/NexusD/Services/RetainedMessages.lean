import NexusD.Core.QueueThreads
import NexusD.Services.DaemonRuns

/-! Retained messages, from the Publish that stores one to the Subscribe that hands it on.
Only `clearExpiredRetainedMessages` looks at a retained message's TTL. A Subscribe takes what
is stored, however old it is, and enqueues it without a TTL.
-/

namespace NexusD.Services

open NexusD.Core NexusD.Library

/-- The message has a TTL, and it is over. -/
def Outlived (nowMs : Int) (message : RetainedMessage) : Prop :=
  0 < message.ttlMs ∧ message.ttlMs < nowMs - message.timestampMs

instance (nowMs : Int) (message : RetainedMessage) : Decidable (Outlived nowMs message) :=
  inferInstanceAs (Decidable (_ ∧ _))

/-- What an event makes of the topic's retained message. -/
def retainedAfter (localNodeId topic : ByteString) (stored : Option RetainedMessage)
    : DaemonEvent → Option RetainedMessage
  | .request (.publish context request) =>
      if request.retain ∧ request.topic = topic then
        some
          {
            messageId := context.uuid
            topic
            payload := request.payload
            contentType := request.contentType
            sourceNodeId := localNodeId
            timestampMs := context.systemMs
            ttlMs := request.ttlMs
          }
      else
        stored
  | .clearExpiredRetainedMessages _ nowMs =>
      stored.filter (fun message => !PeerRegistry.retainedExpired nowMs message)
  | .request _ | .peer _ => stored

namespace SidecarService

theorem getRetainedMessage_clearExpired (registry : PeerRegistry)
    (order : IterationOrder ByteString) (nowMs : Int) (topic : ByteString)
    : (registry.clearExpiredRetainedMessages order nowMs).getRetainedMessage topic
      = (registry.getRetainedMessage topic).filter
          (fun message => !PeerRegistry.retainedExpired nowMs message) := by
  refine PeerRegistry.lookup_foldl_erase_filter ?_ order topic
  intro other
  cases registry.retainedMessages.lookup other <;> rfl

theorem getRetainedMessage_retain (service : SidecarService) (context : CallContext)
    (request : PublishRequest) (topic : ByteString)
    : (service.retain context request).registry.getRetainedMessage topic
      = retainedAfter service.registry.localNodeId topic
          (service.registry.getRetainedMessage topic) (.request (.publish context request)) := by
  unfold retain retainedAfter
  cases wanted : request.retain with
  | false => simp [wanted]
  | true =>
      by_cases same : request.topic = topic
      · subst same
        simp [wanted, PeerRegistry.setRetainedMessage, PeerRegistry.getRetainedMessage,
          AList.lookup_insert]
      · simp [PeerRegistry.setRetainedMessage, PeerRegistry.getRetainedMessage, same,
          AList.lookup_insert_ne (Ne.symm same)]

theorem perform_retainedMessages (registry : PeerRegistry) (call : PeerCall)
    : (registry.perform call).retainedMessages = registry.retainedMessages := by
  cases call with
  | upsertPeer now record =>
      simp only [PeerRegistry.perform, PeerRegistry.upsertPeer]
      split <;> rfl
  | removePeer id => rfl
  | updatePeerState id topics hash =>
      simp only [PeerRegistry.perform, PeerRegistry.updatePeerState,
        PeerRegistry.recordPeerState, PeerRegistry.rebuildRoutingTable]
      split <;> rfl
  | reapDeadPeers order now timeoutMs =>
      simp only [PeerRegistry.perform, PeerRegistry.reapDeadPeers]
      split <;> rfl

variable {event : DaemonEvent} {localNodeId topic : ByteString} {events : List DaemonEvent}
  {message : RetainedMessage}

theorem daemonStep_retained {service after : SidecarService}
    (taken : service.daemonStep event = some after) (topic : ByteString)
    : after.registry.getRetainedMessage topic
        = retainedAfter service.registry.localNodeId topic
            (service.registry.getRetainedMessage topic) event
      ∧ after.registry.localNodeId = service.registry.localNodeId := by
  cases event with
  | request request =>
      have same := step_sameMesh taken
      have stored
        : after.registry.getRetainedMessage topic
          = (service.retainedBy request).registry.getRetainedMessage topic := by
        rw [PeerRegistry.getRetainedMessage, same.retainedMessages,
          PeerRegistry.getRetainedMessage]
      rw [stored, same.localNodeId]
      cases request with
      | publish context request =>
          refine ⟨service.getRetainedMessage_retain context request topic, ?_⟩
          simp only [retainedBy, retain]
          split <;> rfl
      | subscribe | unsubscribe | resumeSubscribe | deliver | writeDone | cancel =>
          exact ⟨rfl, rfl⟩
  | peer call =>
      cases taken
      refine ⟨?_, service.registry.localNodeId_perform call⟩
      rw [PeerRegistry.getRetainedMessage, perform_retainedMessages]
      rfl
  | clearExpiredRetainedMessages order nowMs =>
      cases taken
      exact ⟨getRetainedMessage_clearExpired service.registry order nowMs topic, rfl⟩

/-- The retained message of a topic is that of the last Publish that asked for it, unless a
sweep has come after its time.
-/
theorem getRetainedMessage_of_exec {config : ServiceConfig}
    {messageBufferSize maxBufferMemory : Nat} {service : SidecarService}
    (run
      : exec daemonStep (create config { localNodeId } messageBufferSize maxBufferMemory) events
        = some service) (topic : ByteString)
    : service.registry.getRetainedMessage topic
      = events.foldl (retainedAfter localNodeId topic) none := by
  refine (exec_induction
    (motive := fun events service =>
      service.registry.getRetainedMessage topic
        = events.foldl (retainedAfter localNodeId topic) none
      ∧ service.registry.localNodeId = localNodeId)
    ⟨rfl, rfl⟩ ?_ run).1
  intro events service event after _ ih taken
  obtain ⟨stored, named⟩ := daemonStep_retained taken topic
  rw [stored, named, ih.1, ih.2, List.foldl_append]
  exact ⟨rfl, rfl⟩

-----------------------------------------------------------------------------------------
-- What a Subscribe enqueues
-----------------------------------------------------------------------------------------

/-- The messages the constructor's loop gets into the queue. -/
def enqueuedFrom (now : TimePoint)
    : SubscriberQueue MessageEvent → List RetainedMessage → List RetainedMessage
  | _, [] => []
  | queue, message :: rest =>
      let (after, result) := queue.enqueue now (retainedEvent message) 0
      (if result = .enqueued then [message] else []) ++ enqueuedFrom now after rest

/-- The retained messages a Subscribe finds. -/
def retainedFor (service : SidecarService) (request : SubscribeRequest)
    : List RetainedMessage :=
  if request.receiveRetained then
    request.topics.filterMap service.registry.getRetainedMessage
  else
    []

/-- The retained messages a Subscribe enqueues. -/
def enqueuedRetained (service : SidecarService) (context : CallContext)
    (request : SubscribeRequest)
    : List RetainedMessage :=
  enqueuedFrom context.now service.newQueue (service.retainedFor request)

/-- Those for which a new queue has room: only `DROP_NEWEST` ever refuses one. -/
def admitted (config : ServiceConfig) (retained : List RetainedMessage)
    : List RetainedMessage :=
  if config.backpressurePolicy = .dropNewest ∧ 0 < config.subscriberQueueLimit then
    retained.take config.subscriberQueueLimit
  else
    retained

/-- The constructor's loop. -/
def fillRetained (now : TimePoint) (queue : SubscriberQueue MessageEvent)
    (retained : List RetainedMessage)
    : SubscriberQueue MessageEvent :=
  retained.foldl (fun queue message => (queue.enqueue now (retainedEvent message) 0).1) queue

theorem enqueuedFrom_cons (now : TimePoint) (queue : SubscriberQueue MessageEvent)
    (message : RetainedMessage) (rest : List RetainedMessage)
    : enqueuedFrom now queue (message :: rest)
      = (if (queue.enqueue now (retainedEvent message) 0).2 = .enqueued then [message] else [])
        ++ enqueuedFrom now (queue.enqueue now (retainedEvent message) 0).1 rest :=
  rfl

/-- The loop leaves in the queue the last of what it got in, and counts all of it. -/
theorem fillRetained_contents (now : TimePoint) (queue : SubscriberQueue MessageEvent)
    (retained : List RetainedMessage)
    : (fillRetained now queue retained).messages.map QueuedMessage.message
        <:+ queue.messages.map QueuedMessage.message
          ++ (enqueuedFrom now queue retained).map retainedEvent
      ∧ (fillRetained now queue retained).stats.totalEnqueued
        = queue.stats.totalEnqueued + (enqueuedFrom now queue retained).length := by
  induction retained generalizing queue with
  | nil => exact ⟨by simp [fillRetained, enqueuedFrom], rfl⟩
  | cons message rest ih =>
      obtain ⟨contents, counted⟩ := ih (queue.enqueue now (retainedEvent message) 0).1
      rw [enqueuedFrom_cons]
      rcases queue.enqueue_effect now (retainedEvent message) 0 with
        ⟨enqueued, dropped, inserts⟩ | ⟨refused, same, unchanged, _⟩
      · rw [if_pos enqueued]
        have split
          : queue.messages.map QueuedMessage.message ++ [retainedEvent message]
            = dropped.map QueuedMessage.message
              ++ (queue.enqueue now (retainedEvent message) 0).1.messages.map
                  QueuedMessage.message := by
          rw [← List.map_append, ← inserts.messages, List.map_append]
          rfl
        constructor
        · refine contents.trans ⟨dropped.map QueuedMessage.message, ?_⟩
          rw [← List.append_assoc, ← split]
          simp
        · refine counted.trans ?_
          rw [inserts.totalEnqueued, List.length_append, List.length_singleton, Nat.add_assoc]
      · rw [if_neg refused, List.nil_append]
        rw [same] at contents
        rw [unchanged] at counted
        exact ⟨contents, counted⟩

/-- A full queue under `DROP_NEWEST` stays as full as it is; the other policies always take the
message.
-/
theorem enqueuedFrom_eq {queue : SubscriberQueue MessageEvent} (opened : queue.closed = false)
    (now : TimePoint) (retained : List RetainedMessage)
    : enqueuedFrom now queue retained
      = if queue.policy = .dropNewest ∧ 0 < queue.limit then
          retained.take (queue.limit - queue.messages.length)
        else
          retained := by
  induction retained generalizing queue with
  | nil => simp [enqueuedFrom]
  | cons message rest ih =>
      have settings := queue.enqueue_settings now (retainedEvent message) 0
      have taken := SubscriberQueue.enqueue_enqueued_iff opened now (retainedEvent message) 0
      have next := ih (settings.closed.trans opened)
      rw [settings.policy, settings.limit] at next
      rw [enqueuedFrom_cons, next]
      by_cases limited : queue.policy = .dropNewest ∧ 0 < queue.limit
      · rw [if_pos limited, if_pos limited]
        by_cases room : queue.limit ≤ queue.messages.length
        · have full : queue.full = true := by simp [SubscriberQueue.full, limited.2, room]
          rcases queue.enqueue_effect now (retainedEvent message) 0 with
            ⟨enqueued, _⟩ | ⟨refused, same, _⟩
          · exact absurd ⟨limited.1, full⟩ (taken.mp enqueued)
          · rw [if_neg refused, same, Nat.sub_eq_zero_of_le room]
            rfl
        · have space : queue.full = false := by simp [SubscriberQueue.full, room]
          have left
            : queue.limit - queue.messages.length
              = queue.limit - (queue.messages.length + 1) + 1 := by
            omega
          rw [SubscriberQueue.enqueue_of_room opened space, left, List.take_succ_cons]
          simp [SubscriberQueue.pushBack]
      · rw [if_neg limited, if_neg limited]
        have enqueued : (queue.enqueue now (retainedEvent message) 0).2 = .enqueued := by
          refine taken.mpr ?_
          intro refuses
          have full := refuses.2
          simp only [SubscriberQueue.full, Bool.and_eq_true, decide_eq_true_eq] at full
          exact limited ⟨refuses.1, full.1⟩
        rw [if_pos enqueued]
        rfl

theorem enqueuedRetained_eq (service : SidecarService) (context : CallContext)
    (request : SubscribeRequest)
    : service.enqueuedRetained context request
      = admitted service.config (service.retainedFor request) := by
  rw [enqueuedRetained, enqueuedFrom_eq rfl]
  rfl

/-- The queue of the new stream holds the last of the retained messages a Subscribe enqueues. -/
theorem subscribe_retained (service : SidecarService) (context : CallContext)
    (request : SubscribeRequest)
    : ∃ stream,
        (service.subscribe context request).streams service.nextStream = some stream
        ∧ stream.messageQueue.messages.map QueuedMessage.message
          <:+ (service.enqueuedRetained context request).map retainedEvent
        ∧ stream.messageQueue.stats.totalEnqueued
          = (service.enqueuedRetained context request).length := by
  have same :=
    service.registry.apply_sameMesh
      (.add context.now (subscriptionIdOf service.subscriptionCounter context.uuid)
        request.clientId request.topics request.maxBufferSize)
  obtain ⟨contents, counted⟩ :=
    fillRetained_contents context.now service.newQueue (service.retainedFor request)
  have found
    : (service.registry.addLocalSubscription context.now
        (subscriptionIdOf service.subscriptionCounter context.uuid) request.clientId
        request.topics request.maxBufferSize).1.getRetainedMessage
      = service.registry.getRetainedMessage := by
    funext topic
    exact congrArg (AList.lookup topic) same.retainedMessages
  have queue
    : (constructSubscribe
        (service.registry.addLocalSubscription context.now
          (subscriptionIdOf service.subscriptionCounter context.uuid) request.clientId
          request.topics request.maxBufferSize).1
        context request
        {
          subscriptionId := subscriptionIdOf service.subscriptionCounter context.uuid
          topics := request.topics
          messageQueue := service.newQueue
        }).messageQueue
      = fillRetained context.now service.newQueue (service.retainedFor request) := by
    rw [constructSubscribe, found]
    rfl
  refine ⟨_, service.subscribe_stream context request, ?_, ?_⟩
  · rw [queue]
    exact contents
  · rw [queue, counted]
    exact Nat.zero_add _

/-- The message that a Publish with the retain flag stores. -/
def retainedMessage (localNodeId : ByteString) (context : CallContext)
    (request : PublishRequest)
    : RetainedMessage where
  messageId := context.uuid
  topic := request.topic
  payload := request.payload
  contentType := request.contentType
  sourceNodeId := localNodeId
  timestampMs := context.systemMs
  ttlMs := request.ttlMs

/-- The event replaces what was published on the topic, or is a sweep that finds it too old. -/
def Removes (topic : ByteString) (publishedMs ttlMs : Int) : DaemonEvent → Prop
  | .request (.publish _ request) => request.retain = true ∧ request.topic = topic
  | .clearExpiredRetainedMessages _ nowMs =>
      0 < ttlMs ∧ ttlMs < int64 (nowMs - publishedMs)
  | .request _ | .peer _ => False

theorem retainedExpired_iff {order : IterationOrder ByteString} {nowMs : Int}
    : PeerRegistry.retainedExpired nowMs message = true
      ↔ Removes topic message.timestampMs message.ttlMs
          (.clearExpiredRetainedMessages order nowMs) := by
  simp [PeerRegistry.retainedExpired, Removes]

theorem retainedAfter_of_not_removes
    (kept : ¬Removes topic message.timestampMs message.ttlMs event) (localNodeId : ByteString)
    : retainedAfter localNodeId topic (some message) event = some message := by
  cases event with
  | peer call => rfl
  | clearExpiredRetainedMessages order nowMs =>
      rw [retainedAfter, Option.filter_eq_some_iff, Bool.not_eq_true', ← Bool.not_eq_true]
      exact ⟨rfl, mt retainedExpired_iff.mp kept⟩
  | request request =>
      cases request with
      | publish context request => exact if_neg kept
      | subscribe | unsubscribe | resumeSubscribe | deliver | writeDone | cancel => rfl

theorem retainedAfter_eq_some {stored : Option RetainedMessage}
    (is : retainedAfter localNodeId topic stored event = some message)
    : (∃ context request,
        event = .request (.publish context request)
        ∧ request.retain = true
        ∧ request.topic = topic
        ∧ message = retainedMessage localNodeId context request)
      ∨ stored = some message
        ∧ ¬Removes topic message.timestampMs message.ttlMs event := by
  cases event with
  | peer call => exact .inr ⟨is, id⟩
  | clearExpiredRetainedMessages order nowMs =>
      obtain ⟨was, young⟩ := Option.filter_eq_some_iff.mp is
      rw [Bool.not_eq_true', ← Bool.not_eq_true] at young
      exact .inr ⟨was, mt retainedExpired_iff.mpr young⟩
  | request request =>
      cases request with
      | publish context request =>
          by_cases replaces : request.retain = true ∧ request.topic = topic
          · left
            refine ⟨context, request, rfl, replaces.1, replaces.2, ?_⟩
            rw [retainedAfter, if_pos replaces, Option.some.injEq] at is
            rw [← is, ← replaces.2]
            rfl
          · rw [retainedAfter, if_neg replaces] at is
            exact .inr ⟨is, replaces⟩
      | subscribe | unsubscribe | resumeSubscribe | deliver | writeDone | cancel =>
          exact .inr ⟨is, id⟩

/-- The message stems from the last Publish on the topic that asked to retain it, and no sweep
has found it too old since. By induction over the events, from the last one back.
-/
theorem foldl_retainedAfter_eq_some_iff
    : events.foldl (retainedAfter localNodeId topic) none = some message
      ↔ ∃ before context request between,
          events = before ++ .request (.publish context request) :: between
          ∧ request.retain = true
          ∧ request.topic = topic
          ∧ message = retainedMessage localNodeId context request
          ∧ ∀ event ∈ between, ¬Removes topic context.systemMs request.ttlMs event := by
  constructor
  · intro stored
    induction events using List.reverseRecOn with
    | nil => cases stored
    | append_singleton events event ih =>
        rw [List.foldl_append] at stored
        rcases retainedAfter_eq_some stored with
          ⟨context, request, rfl, retains, on, is⟩ | ⟨was, kept⟩
        · exact ⟨events, context, request, [], rfl, retains, on, is, by simp⟩
        · obtain ⟨before, context, request, between, rfl, retains, on, rfl, survives⟩ := ih was
          refine ⟨before, context, request, between ++ [event], by simp, retains, on, rfl, ?_⟩
          intro later member
          rcases List.mem_append.mp member with earlier | last
          · exact survives later earlier
          · rw [List.mem_singleton.mp last]
            exact kept
  · intro published
    obtain ⟨before, context, request, between, rfl, retains, rfl, rfl, survives⟩ := published
    have placed (stored : Option RetainedMessage)
        : retainedAfter localNodeId request.topic stored (.request (.publish context request))
          = some (retainedMessage localNodeId context request) :=
      if_pos ⟨retains, rfl⟩
    rw [List.foldl_append, List.foldl_cons, placed]
    induction between with
    | nil => rfl
    | cons event between ih =>
        obtain ⟨first, rest⟩ := List.forall_mem_cons.mp survives
        have kept
          : retainedAfter localNodeId request.topic
              (some (retainedMessage localNodeId context request)) event
            = some (retainedMessage localNodeId context request) :=
          retainedAfter_of_not_removes first localNodeId
        rw [List.foldl_cons, kept]
        exact ih rest

-----------------------------------------------------------------------------------------
-- Messages past their TTL
-----------------------------------------------------------------------------------------

/-- A Subscribe enqueues no retained message past its TTL. -/
def EnqueuesFresh (service : SidecarService) : DaemonEvent → Prop
  | .request (.subscribe context request) =>
      ∀ message ∈ service.enqueuedRetained context request,
        ¬Outlived context.systemMs message
  | _ => True

instance (service : SidecarService) : DecidablePred service.EnqueuesFresh
  | .request (.subscribe context request) =>
      inferInstanceAs
        (Decidable
          (∀ message ∈ service.enqueuedRetained context request,
            ¬Outlived context.systemMs message))
  | .request (.unsubscribe _ _) | .request (.resumeSubscribe _ _) | .request (.publish _ _)
  | .request (.deliver _ _) | .request (.writeDone _ _ _) | .request (.cancel _)
  | .peer _ | .clearExpiredRetainedMessages _ _ => .isTrue trivial

/-- Between a Publish that is retained for a while and a later Subscribe to its topic no more
time than that has passed, or in the meantime another retained Publish or a sweep that found
the message too old has come.
-/
def Timely (events : List DaemonEvent) : Prop :=
  ∀ before published publish between subscribed subscribe after,
    events
        = (before ++ .request (.publish published publish) :: between)
          ++ .request (.subscribe subscribed subscribe) :: after
    → publish.retain = true
    → 0 < publish.ttlMs
    → subscribe.receiveRetained = true
    → publish.topic ∈ subscribe.topics
    → subscribed.systemMs - published.systemMs ≤ publish.ttlMs
      ∨ ∃ event ∈ between, Removes publish.topic published.systemMs publish.ttlMs event

theorem mem_of_mem_admitted {config : ServiceConfig} {retained : List RetainedMessage}
    (member : message ∈ admitted config retained)
    : message ∈ retained := by
  unfold admitted at member
  split at member
  · exact List.mem_of_mem_take member
  · exact member

theorem config_of_daemonExec {start final : SidecarService}
    (run : exec daemonStep start events = some final)
    : final.config = start.config := by
  refine exec_always (fun service => service.config = start.config) rfl ?_ run
  intro service event after same taken
  cases event with
  | request request => exact (step_config taken).trans same
  | peer | clearExpiredRetainedMessages =>
      cases taken
      exact same

section Run

variable {config : ServiceConfig} {localNodeId : ByteString}
  {messageBufferSize maxBufferMemory : Nat} {earlier : List DaemonEvent}
  {service : SidecarService}
  (reached
    : exec daemonStep (create config { localNodeId } messageBufferSize maxBufferMemory) earlier
      = some service)
include reached

/-- What a Subscribe enqueues stems from a Publish on one of its topics. -/
theorem published_of_enqueuedRetained {context : CallContext} {request : SubscribeRequest}
    {message : RetainedMessage} (member : message ∈ service.enqueuedRetained context request)
    : request.receiveRetained = true
      ∧ ∃ before published publish between,
          earlier = before ++ .request (.publish published publish) :: between
          ∧ publish.retain = true
          ∧ publish.topic ∈ request.topics
          ∧ message = retainedMessage localNodeId published publish
          ∧ ∀ event ∈ between,
              ¬Removes publish.topic published.systemMs publish.ttlMs event := by
  rw [enqueuedRetained_eq] at member
  have found := mem_of_mem_admitted member
  unfold retainedFor at found
  split at found
  · rename_i wanted
    obtain ⟨topic, listed, stored⟩ := List.mem_filterMap.mp found
    rw [getRetainedMessage_of_exec reached topic] at stored
    obtain ⟨before, published, publish, between, split, retains, rfl, is, survives⟩ :=
      foldl_retainedAfter_eq_some_iff.mp stored
    exact ⟨wanted, before, published, publish, between, split, retains, listed, is, survives⟩
  · cases found

/-- Unless the queue may refuse messages, what was published and not removed is enqueued. -/
theorem enqueuedRetained_of_published
    (takes : ¬(config.backpressurePolicy = .dropNewest ∧ 0 < config.subscriberQueueLimit))
    {before between : List DaemonEvent} {published : CallContext} {publish : PublishRequest}
    (split : earlier = before ++ .request (.publish published publish) :: between)
    (retains : publish.retain = true)
    (survives
      : ∀ event ∈ between, ¬Removes publish.topic published.systemMs publish.ttlMs event)
    {request : SubscribeRequest} (wanted : request.receiveRetained = true)
    (listed : publish.topic ∈ request.topics) (context : CallContext)
    : retainedMessage localNodeId published publish
      ∈ service.enqueuedRetained context request := by
  have settings : service.config = config := config_of_daemonExec reached
  rw [enqueuedRetained_eq, admitted, settings, if_neg takes, retainedFor, if_pos wanted]
  refine List.mem_filterMap.mpr ⟨publish.topic, listed, ?_⟩
  rw [getRetainedMessage_of_exec reached]
  exact foldl_retainedAfter_eq_some_iff.mpr
    ⟨before, published, publish, between, split, retains, rfl, rfl, survives⟩

end Run

/-- In every run no Subscribe enqueues a retained message past its TTL if each comes in time,
and only then unless its queue may refuse messages.
-/
theorem enqueuesFresh_iff_timely {config : ServiceConfig} {localNodeId : ByteString}
    {messageBufferSize maxBufferMemory : Nat} {events : List DaemonEvent}
    {final : SidecarService}
    (run
      : exec daemonStep (create config { localNodeId } messageBufferSize maxBufferMemory) events
        = some final)
    : (Timely events
        → Along daemonStep (create config { localNodeId } messageBufferSize maxBufferMemory)
            EnqueuesFresh events)
      ∧ (¬(config.backpressurePolicy = .dropNewest ∧ 0 < config.subscriberQueueLimit)
        → Along daemonStep (create config { localNodeId } messageBufferSize maxBufferMemory)
            EnqueuesFresh events
        → Timely events) := by
  constructor
  · intro timely earlier event later service split reached
    cases event with
    | peer | clearExpiredRetainedMessages => trivial
    | request request =>
        cases request with
        | subscribe context request =>
            intro message member outlived
            obtain ⟨wanted, before, published, publish, between, rfl, retains, listed, rfl,
              survives⟩ := published_of_enqueuedRetained reached member
            rcases timely before published publish between context request later split retains
                outlived.1 wanted listed with inTime | ⟨event, inside, removes⟩
            · exact absurd outlived.2 (not_lt.mpr inTime)
            · exact survives event inside removes
        | unsubscribe | resumeSubscribe | publish | deliver | writeDone | cancel => trivial
  · intro takes fresh before published publish between subscribed subscribe after split retains
      limited wanted listed
    by_contra late
    rw [not_or] at late
    obtain ⟨service, reached⟩
      : ∃ service,
          exec daemonStep (create config { localNodeId } messageBufferSize maxBufferMemory)
              (before ++ .request (.publish published publish) :: between)
            = some service := by
      rw [split, exec_append] at run
      obtain ⟨service, reached, _⟩ := Option.bind_eq_some_iff.mp run
      exact ⟨service, reached⟩
    have survives
      : ∀ event ∈ between, ¬Removes publish.topic published.systemMs publish.ttlMs event :=
      fun event inside removes => late.2 ⟨event, inside, removes⟩
    have enqueued :=
      enqueuedRetained_of_published reached takes rfl retains survives wanted listed subscribed
    exact fresh _ _ after service split reached _ enqueued ⟨limited, not_le.mp late.1⟩

/-- A sweep removes the message in time for the Subscribe. -/
def sweptInTime : List DaemonEvent :=
  [
    .request (.publish {} { topic := [97], payload := [1], retain := true, ttlMs := 1000 }),
    .clearExpiredRetainedMessages .asStored 5000,
    .request (.subscribe { systemMs := 5000 } { topics := [[97]], receiveRetained := true })
  ]

theorem enqueuesFresh_sweptInTime
    : ∃ final,
        exec daemonStep smallDaemon sweptInTime = some final
        ∧ Along daemonStep smallDaemon EnqueuesFresh sweptInTime
        ∧ Timely sweptInTime := by
  have fresh : Along daemonStep smallDaemon EnqueuesFresh sweptInTime := by decide +kernel
  obtain ⟨final, run⟩ : ∃ final, exec daemonStep smallDaemon sweptInTime = some final :=
    ⟨_, rfl⟩
  exact ⟨final, run, fresh, (enqueuesFresh_iff_timely run).2 (by decide) fresh⟩

/-- A message retained for a second is handed to a subscriber five seconds later. -/
theorem outlived_message_enqueued
    : ∃ service message,
        exec daemonStep smallDaemon
            [.request
              (.publish {} { topic := [97], payload := [1], retain := true, ttlMs := 1000 })]
          = some service
        ∧ service.enqueuedRetained { systemMs := 5000 }
              { topics := [[97]], receiveRetained := true }
            = [message]
        ∧ Outlived 5000 message
        ∧ ¬Along daemonStep smallDaemon EnqueuesFresh
            [.request
                (.publish {} { topic := [97], payload := [1], retain := true, ttlMs := 1000 }),
              .request
                (.subscribe { systemMs := 5000 }
                  { topics := [[97]], receiveRetained := true })] := by
  obtain ⟨service, message, run, enqueued, outlived⟩
    : ∃ service message,
        exec daemonStep smallDaemon
            [.request
              (.publish {} { topic := [97], payload := [1], retain := true, ttlMs := 1000 })]
          = some service
        ∧ service.enqueuedRetained { systemMs := 5000 }
              { topics := [[97]], receiveRetained := true }
            = [message]
        ∧ Outlived 5000 message :=
    ⟨_, _, rfl, rfl, by decide⟩
  refine ⟨service, message, run, enqueued, outlived, ?_⟩
  intro fresh
  have last := fresh _ _ [] service rfl run
  exact last message (by rw [enqueued]; exact List.mem_singleton_self message) outlived

end SidecarService

end NexusD.Services
