import NexusD.Core.SubscriptionCalls
import NexusD.Services.SubscriptionTable

/-! The two tables of subscriptions: the registry's and the service's table of streams.
`Subscribe` enters an id in both and `Unsubscribe` takes it out of both. `OnCancel` only
clears the stream's flag and `OnDone` only deletes the reactor, so a cancelled stream keeps
its subscription.
-/

namespace NexusD.Services.SidecarService

open NexusD.Core NexusD.Library

/-- `activeStreams_` holds a stream with that id whose flag is set. -/
def Live (service : SidecarService) (id : ByteString) : Prop :=
  ∃ handle stream,
    service.activeStreams.lookup id = some handle
    ∧ service.streams handle = some stream
    ∧ stream.subscriptionId = id
    ∧ stream.active = true

/-- Such a stream, with the topic. -/
def Receives (service : SidecarService) (id topic : ByteString) : Prop :=
  ∃ handle stream,
    service.activeStreams.lookup id = some handle
    ∧ service.streams handle = some stream
    ∧ stream.subscriptionId = id
    ∧ stream.active = true
    ∧ topic ∈ stream.topics

/-- The local subscriptions a `Publish` counts, read after its delivery. -/
def countedSubscriptions (service : SidecarService) (context : CallContext)
    (request : PublishRequest)
    : List LocalSubscription :=
  (service.publish context request).1.registry.getLocalSubscriptions context.peerOrder
    request.topic

theorem publish_subscriberCount (service : SidecarService) (context : CallContext)
    (request : PublishRequest)
    : (service.publish context request).2.1.subscriberCount
      = (service.publish context request).2.2.length
        + (service.countedSubscriptions context request).length := by
  simp [publish, countedSubscriptions]

/-- The registry names the live streams, and so do the answers computed from it. -/
structure TablesAgree (service : SidecarService) : Prop where
  registered
    : ∀ id, (service.registry.localSubscriptions.lookup id).isSome = true ↔ service.Live id
  advertised
    : ∀ order, ∀ topic ∈ service.registry.getLocalTopics order, ∃ id, service.Receives id topic
  counted
    : ∀ context request,
        ∀ subscription ∈ service.countedSubscriptions context request,
          service.Receives subscription.subscriptionId request.topic

inductive LifeCycleEvent where
  | subscribe (context : CallContext) (request : SubscribeRequest)
  | unsubscribe (context : CallContext) (request : UnsubscribeRequest)
  | onCancel (handle : Nat)
  | onDone (handle : Nat)

/-- One handler or reaction, run to its end. `OnDone` deletes the reactor and leaves the
tables as they are.
-/
def lifeCycleStep (service : SidecarService) : LifeCycleEvent → Option SidecarService
  | .subscribe context request => service.step (.subscribe context request)
  | .unsubscribe context request => service.step (.unsubscribe context request)
  | .onCancel handle => service.step (.cancel handle)
  | .onDone _ => some service

/-- What holds of the two tables in every run, cancellations included. -/
structure Tracked (service : SidecarService) : Prop where
  table : service.TableInvariant
  index : service.registry.Indexes
  paired
    : ∀ id,
        (service.registry.localSubscriptions.lookup id).isSome
        = (service.activeStreams.lookup id).isSome
  topics
    : ∀ id subscription handle stream,
        service.registry.localSubscriptions.lookup id = some subscription
        → service.activeStreams.lookup id = some handle
        → service.streams handle = some stream
        → stream.topics = subscription.topics

/-- No stream in the table has its flag cleared. -/
def AllActive (service : SidecarService) : Prop :=
  ∀ id handle stream,
    service.activeStreams.lookup id = some handle
    → service.streams handle = some stream
    → stream.active = true

/-- `OnCancel` reaches a stream only when it has left the table. -/
def SparesListed (service : SidecarService) : LifeCycleEvent → Prop
  | .onCancel handle => ∀ id, service.activeStreams.lookup id ≠ some handle
  | .subscribe _ _ | .unsubscribe _ _ | .onDone _ => True

variable {service after : SidecarService} {id : ByteString} {handle : Nat}

theorem Tracked.listed (tracked : service.Tracked) {subscription : LocalSubscription}
    (registered : service.registry.localSubscriptions.lookup id = some subscription)
    : ∃ handle stream,
        service.activeStreams.lookup id = some handle
        ∧ service.streams handle = some stream
        ∧ stream.subscriptionId = id
        ∧ stream.topics = subscription.topics := by
  have present := tracked.paired id
  rw [registered, Option.isSome_some] at present
  obtain ⟨handle, listed⟩ := Option.isSome_iff_exists.mp present.symm
  obtain ⟨stream, is, named⟩ := tracked.table.named id handle listed
  exact ⟨handle, stream, listed, is, named,
    tracked.topics id subscription handle stream registered listed is⟩

theorem Tracked.receives (tracked : service.Tracked) (allActive : service.AllActive)
    {topic : ByteString} {subscription : LocalSubscription}
    (registered : service.registry.localSubscriptions.lookup id = some subscription)
    (covers : topic ∈ subscription.topics)
    : service.Receives id topic := by
  obtain ⟨handle, stream, listed, is, named, topics⟩ := tracked.listed registered
  exact ⟨handle, stream, listed, is, named, allActive id handle stream listed is,
    topics ▸ covers⟩

theorem updateSubscriptionSequence_index (registry : PeerRegistry)
    (subscriptionId topic : ByteString) (sequence : Nat)
    : (registry.updateSubscriptionSequence subscriptionId topic
        sequence).topicToSubscriptions
      = registry.topicToSubscriptions := by
  unfold PeerRegistry.updateSubscriptionSequence
  split <;> rfl

theorem deliverRound_index (service : SidecarService) (context : CallContext)
    (envelope : MessageEnvelope) (sequenceNumber handle : Nat)
    : (service.deliverRound context envelope sequenceNumber
        handle).1.registry.topicToSubscriptions
      = service.registry.topicToSubscriptions := by
  rcases service.deliverRound_registry context envelope sequenceNumber handle with
    same | ⟨subscriptionId, noted⟩
  · rw [same]
  · rw [noted, updateSubscriptionSequence_index]

theorem deliverToAll_index (context : CallContext) (envelope : MessageEnvelope)
    (sequenceNumber : Nat) (service : SidecarService) (handles : List Nat)
    : (deliverToAll context envelope sequenceNumber service
        handles).1.registry.topicToSubscriptions
      = service.registry.topicToSubscriptions :=
  deliverToAll_induction
    (motive := fun before after =>
      after.registry.topicToSubscriptions = before.registry.topicToSubscriptions)
    (fun _ => rfl)
    (fun service handle _ later =>
      later.trans (service.deliverRound_index context envelope sequenceNumber handle))
    service handles

theorem publish_index (service : SidecarService) (context : CallContext)
    (request : PublishRequest)
    : (service.publish context request).1.registry.topicToSubscriptions
      = service.registry.topicToSubscriptions := by
  refine (deliverToAll_index _ _ _ _ _).trans ?_
  change (service.retain context request).registry.topicToSubscriptions = _
  unfold retain
  split <;> rfl

/-- A subscription keeps everything but its position while messages are delivered. -/
theorem Quiet.subscription {before : SidecarService} (quiet : Quiet before after)
    {subscription : LocalSubscription}
    (registered : after.registry.localSubscriptions.lookup id = some subscription)
    : ∃ old,
        before.registry.localSubscriptions.lookup id = some old
        ∧ old.subscriptionId = subscription.subscriptionId
        ∧ old.topics = subscription.topics := by
  have same := quiet.locals id
  rw [registered, Option.map_some] at same
  obtain ⟨old, is, equal⟩ := Option.map_eq_some_iff.mp same.symm
  exact ⟨old, is, congrArg (fun record => record.subscriptionId) equal,
    congrArg (fun record => record.topics) equal⟩

theorem Tracked.counted (tracked : service.Tracked) {context : CallContext}
    {request : PublishRequest} {subscription : LocalSubscription}
    (counted : subscription ∈ service.countedSubscriptions context request)
    : ∃ old,
        service.registry.localSubscriptions.lookup subscription.subscriptionId = some old
        ∧ request.topic ∈ old.topics := by
  rw [countedSubscriptions, PeerRegistry.getLocalSubscriptions, publish_index,
    List.mem_filterMap] at counted
  obtain ⟨id, member, found⟩ := counted
  rw [IterationOrder.mem_visit, PeerRegistry.mem_getD_lookup_iff] at member
  obtain ⟨old, registered, named, _⟩ :=
    (service.publish_quiet context request).subscription found
  rw [← named, tracked.index.named id old registered]
  exact (tracked.index.indexed request.topic id).mp member

/-- Tracked tables agree exactly when no listed stream has its flag cleared. -/
theorem Tracked.agree_iff (tracked : service.Tracked)
    : service.TablesAgree ↔ service.AllActive := by
  constructor
  · intro agree id handle stream listed is
    have registered : (service.registry.localSubscriptions.lookup id).isSome = true := by
      rw [tracked.paired, listed, Option.isSome_some]
    obtain ⟨other, live, found, there, _, active⟩ := (agree.registered id).mp registered
    rw [listed, Option.some.injEq] at found
    subst other
    rw [is, Option.some.injEq] at there
    exact there ▸ active
  · intro allActive
    refine ⟨?_, ?_, ?_⟩
    · intro id
      constructor
      · intro present
        obtain ⟨subscription, registered⟩ := Option.isSome_iff_exists.mp present
        obtain ⟨handle, stream, listed, is, named, _⟩ := tracked.listed registered
        exact ⟨handle, stream, listed, is, named, allActive id handle stream listed is⟩
      · intro live
        obtain ⟨handle, stream, listed, _⟩ := live
        rw [tracked.paired, listed, Option.isSome_some]
    · intro order topic member
      obtain ⟨id, subscription, registered, covers⟩ :=
        tracked.index.mem_getLocalTopics.mp member
      exact ⟨id, tracked.receives allActive registered covers⟩
    · intro context request subscription counted
      obtain ⟨old, registered, covers⟩ := tracked.counted counted
      exact tracked.receives allActive registered covers

-----------------------------------------------------------------------------------------
-- One event
-----------------------------------------------------------------------------------------

theorem tracked_create (config : ServiceConfig) (localNodeId : ByteString)
    (messageBufferSize maxBufferMemory : Nat)
    : (create config { localNodeId } messageBufferSize maxBufferMemory).Tracked where
  table :=
    tableInvariant_create config (PeerRegistry.not_knows_fresh localNodeId) messageBufferSize
      maxBufferMemory
  index := PeerRegistry.indexes_fresh localNodeId
  paired id := by simp [create]
  topics id subscription handle stream registered := by simp [create] at registered

/-- A listed stream is one of the id it is listed under, so no other id leads to it. -/
theorem TableInvariant.unique (table : service.TableInvariant) {other : ByteString}
    (listed : service.activeStreams.lookup id = some handle)
    (listedToo : service.activeStreams.lookup other = some handle)
    : other = id := by
  obtain ⟨stream, is, named⟩ := table.named id handle listed
  obtain ⟨same, there, namedToo⟩ := table.named other handle listedToo
  rw [is, Option.some.injEq] at there
  subst same
  exact namedToo.symm.trans named

/-- `Unsubscribe` only touches the stream listed under its id. -/
theorem unsubscribe_streams (service : SidecarService) (context : CallContext)
    (request : UnsubscribeRequest)
    (other : service.activeStreams.lookup request.subscriptionId ≠ some handle)
    : (service.unsubscribe context request).1.streams handle = service.streams handle := by
  unfold unsubscribe
  dsimp only
  split
  · rfl
  · rename_i listed found
    have different : handle ≠ listed := by
      intro same
      subst same
      exact other found
    unfold onStream
    dsimp only
    split
    · rfl
    · simp [setStream, different]

theorem TableInvariant.unsubscribe_others (table : service.TableInvariant)
    (context : CallContext) {request : UnsubscribeRequest}
    (different : id ≠ request.subscriptionId)
    (listed : service.activeStreams.lookup id = some handle)
    : (service.unsubscribe context request).1.streams handle = service.streams handle := by
  refine unsubscribe_streams service context request ?_
  intro listedToo
  exact different (table.unique listedToo listed)

/-- `Subscribe` makes a new stream and leaves those in the table alone. -/
theorem TableInvariant.subscribe_others (table : service.TableInvariant)
    (context : CallContext) (request : SubscribeRequest)
    (listed : service.activeStreams.lookup id = some handle)
    : (service.subscribe context request).streams handle = service.streams handle := by
  obtain ⟨stream, is, _⟩ := table.named id handle listed
  have older : handle ≠ service.nextStream :=
    Nat.ne_of_lt (table.allocated handle (by simp [is]))
  exact (service.subscribe_opened context request).others handle older

/-- Clearing the flag keeps everything else of the stream. -/
theorem clearActive_quiet (service : SidecarService) (handle : Nat)
    : Quiet service
        (service.onStream handle (fun stream => { stream with active := false })) := by
  refine service.onStream_quiet handle ?_
  intro stream
  rfl

theorem lookup_addLocalSubscription (registry : PeerRegistry) (now : TimePoint)
    {subscriptionId : ByteString} (clientId : ByteString) (topics : List ByteString)
    (maxBufferSize : Int) (other : id ≠ subscriptionId)
    : (registry.addLocalSubscription now subscriptionId clientId topics
        maxBufferSize).1.localSubscriptions.lookup id
      = registry.localSubscriptions.lookup id := by
  have entry :=
    registry.entry_addLocalSubscription now subscriptionId clientId topics maxBufferSize id
  rw [if_neg other] at entry
  exact congrArg PeerRegistry.Entry.active entry

theorem lookup_removeLocalSubscription (registry : PeerRegistry) (now : TimePoint)
    (subscriptionId : ByteString) (pause : Bool) (ttlMs : Int) (id : ByteString)
    : (registry.removeLocalSubscription now subscriptionId pause
        ttlMs).1.localSubscriptions.lookup id
      = if id = subscriptionId then none else registry.localSubscriptions.lookup id := by
  have entry :=
    congrArg PeerRegistry.Entry.active
      (registry.entry_removeLocalSubscription now subscriptionId pause ttlMs id)
  refine entry.trans ?_
  split
  · unfold PeerRegistry.Entry.remove
    split
    · assumption
    · rfl
  · rfl

theorem Tracked.subscribe (tracked : service.Tracked) (context : CallContext)
    (request : SubscribeRequest)
    : (service.subscribe context request).Tracked := by
  have opened := service.subscribe_opened context request
  have unknown := tracked.table.fresh context.uuid
  have fresh
    : service.registry.localSubscriptions.lookup
        (subscriptionIdOf service.subscriptionCounter context.uuid)
      = none := by
    by_contra present
    exact unknown (.inl (Option.isSome_iff_ne_none.mpr present))
  have taken
    : service.step (.subscribe context request) = some (service.subscribe context request) :=
    rfl
  refine ⟨tracked.table.step taken, ?_, ?_, ?_⟩
  · rw [subscribe_registry]
    exact tracked.index.addLocalSubscription _ _ _ _ _
  · intro id
    rw [subscribe_registry, opened.activeStreams]
    by_cases same : id = subscriptionIdOf service.subscriptionCounter context.uuid
    · subst id
      rw [PeerRegistry.addLocalSubscription_fresh fresh, AList.lookup_insert]
      rfl
    · rw [lookup_addLocalSubscription _ _ _ _ _ same, AList.lookup_insert_ne same]
      exact tracked.paired id
  · intro id subscription handle stream registered listed is
    rw [subscribe_registry] at registered
    rw [opened.activeStreams] at listed
    by_cases same : id = subscriptionIdOf service.subscriptionCounter context.uuid
    · subst id
      rw [PeerRegistry.addLocalSubscription_fresh fresh, Option.some.injEq] at registered
      rw [AList.lookup_insert, Option.some.injEq] at listed
      subst registered listed
      obtain ⟨new, there, identity, _⟩ := opened.opened
      rw [is, Option.some.injEq] at there
      subst new
      exact congrArg StreamIdentity.topics identity
    · rw [lookup_addLocalSubscription _ _ _ _ _ same] at registered
      rw [AList.lookup_insert_ne same] at listed
      rw [tracked.table.subscribe_others context request listed] at is
      exact tracked.topics id subscription handle stream registered listed is

theorem Tracked.unsubscribe (tracked : service.Tracked) (context : CallContext)
    (request : UnsubscribeRequest)
    : (service.unsubscribe context request).1.Tracked := by
  have closed := service.unsubscribe_closed context request
  have taken
    : service.step (.unsubscribe context request)
      = some (service.unsubscribe context request).1 :=
    rfl
  refine ⟨tracked.table.step taken, ?_, ?_, ?_⟩
  · rw [unsubscribe_registry]
    exact tracked.index.removeLocalSubscription _ _ _ _
  · intro id
    rw [unsubscribe_registry, lookup_removeLocalSubscription]
    by_cases same : id = request.subscriptionId
    · subst id
      rw [if_pos rfl, closed.gone]
      rfl
    · rw [if_neg same, closed.others id same]
      exact tracked.paired id
  · intro id subscription handle stream registered listed is
    rw [unsubscribe_registry, lookup_removeLocalSubscription] at registered
    by_cases same : id = request.subscriptionId
    · simp [same] at registered
    · rw [if_neg same] at registered
      rw [closed.others id same] at listed
      rw [tracked.table.unsubscribe_others context same listed] at is
      exact tracked.topics id subscription handle stream registered listed is

theorem Tracked.cancel (tracked : service.Tracked) (handle : Nat)
    : (service.onStream handle (fun stream => { stream with active := false })).Tracked := by
  have quiet := service.clearActive_quiet handle
  refine ⟨tracked.table.quiet quiet, ?_, ?_, ?_⟩
  · rw [onStream_registry]
    exact tracked.index
  · intro id
    rw [onStream_registry, quiet.activeStreams]
    exact tracked.paired id
  · intro id subscription other stream registered listed is
    rw [onStream_registry] at registered
    rw [quiet.activeStreams] at listed
    have same := quiet.streams other
    rw [is, Option.map_some] at same
    obtain ⟨old, was, identity⟩ := Option.map_eq_some_iff.mp same.symm
    exact (congrArg StreamIdentity.topics identity).symm.trans
      (tracked.topics id subscription other old registered listed was)

theorem Tracked.step {event : LifeCycleEvent} (tracked : service.Tracked)
    (taken : service.lifeCycleStep event = some after)
    : after.Tracked := by
  cases event with
  | subscribe context request =>
      cases taken
      exact tracked.subscribe context request
  | unsubscribe context request =>
      cases taken
      exact tracked.unsubscribe context request
  | onCancel handle =>
      cases taken
      exact tracked.cancel handle
  | onDone handle =>
      cases taken
      exact tracked

theorem AllActive.subscribe (allActive : service.AllActive) (tracked : service.Tracked)
    (context : CallContext) (request : SubscribeRequest)
    : (service.subscribe context request).AllActive := by
  have opened := service.subscribe_opened context request
  intro id handle stream listed is
  rw [opened.activeStreams] at listed
  by_cases same : id = subscriptionIdOf service.subscriptionCounter context.uuid
  · subst id
    rw [AList.lookup_insert, Option.some.injEq] at listed
    subst handle
    obtain ⟨new, there, _, active⟩ := opened.opened
    rw [is, Option.some.injEq] at there
    exact there ▸ active
  · rw [AList.lookup_insert_ne same] at listed
    rw [tracked.table.subscribe_others context request listed] at is
    exact allActive id handle stream listed is

theorem AllActive.unsubscribe (allActive : service.AllActive) (tracked : service.Tracked)
    (context : CallContext) (request : UnsubscribeRequest)
    : (service.unsubscribe context request).1.AllActive := by
  have closed := service.unsubscribe_closed context request
  intro id handle stream listed is
  have different : id ≠ request.subscriptionId := by
    intro same
    subst same
    simp [closed.gone] at listed
  rw [closed.others id different] at listed
  rw [tracked.table.unsubscribe_others context different listed] at is
  exact allActive id handle stream listed is

theorem AllActive.cancel_iff (allActive : service.AllActive) (tracked : service.Tracked)
    (handle : Nat)
    : (service.onStream handle (fun stream => { stream with active := false })).AllActive
      ↔ ∀ id, service.activeStreams.lookup id ≠ some handle := by
  have quiet := service.clearActive_quiet handle
  constructor
  · intro still id listed
    obtain ⟨stream, is, _⟩ := tracked.table.named id handle listed
    have cleared :=
      still id handle { stream with active := false } (by rw [quiet.activeStreams, listed])
        (by rw [onStream_streams, if_pos rfl, is, Option.map_some])
    cases cleared
  · intro unlisted id other stream listed is
    rw [quiet.activeStreams] at listed
    have different : other ≠ handle := by
      intro same
      subst same
      exact unlisted id listed
    rw [onStream_streams, if_neg different] at is
    exact allActive id other stream listed is

theorem AllActive.step_iff {event : LifeCycleEvent} (tracked : service.Tracked)
    (allActive : service.AllActive) (taken : service.lifeCycleStep event = some after)
    : after.AllActive ↔ service.SparesListed event := by
  cases event with
  | subscribe context request =>
      cases taken
      exact iff_of_true (allActive.subscribe tracked context request) trivial
  | unsubscribe context request =>
      cases taken
      exact iff_of_true (allActive.unsubscribe tracked context request) trivial
  | onCancel handle =>
      cases taken
      exact allActive.cancel_iff tracked handle
  | onDone handle =>
      cases taken
      exact iff_of_true allActive trivial

-----------------------------------------------------------------------------------------
-- Whole runs
-----------------------------------------------------------------------------------------

/-- No event is ever refused. -/
theorem exec_lifeCycle (service : SidecarService) (events : List LifeCycleEvent)
    : ∃ final, exec lifeCycleStep service events = some final := by
  induction events generalizing service with
  | nil => exact ⟨service, rfl⟩
  | cons event rest ih =>
      have taken : ∃ next, service.lifeCycleStep event = some next := by
        cases event with
        | subscribe | unsubscribe | onCancel | onDone => exact ⟨_, rfl⟩
      obtain ⟨next, taken⟩ := taken
      obtain ⟨final, run⟩ := ih next
      exact ⟨final, by rw [exec_cons, taken, Option.bind_some, run]⟩

/-- The tables agree throughout a run exactly when no `OnCancel` reaches a stream that is
still in the table.
-/
theorem tablesAgree_iff_sparesListed (config : ServiceConfig) (localNodeId : ByteString)
    (messageBufferSize maxBufferMemory : Nat) (events : List LifeCycleEvent)
    : Throughout lifeCycleStep
        (create config { localNodeId } messageBufferSize maxBufferMemory) TablesAgree events
      ↔ Along lifeCycleStep
          (create config { localNodeId } messageBufferSize maxBufferMemory) SparesListed
          events := by
  have tracked := tracked_create config localNodeId messageBufferSize maxBufferMemory
  obtain ⟨final, run⟩ := exec_lifeCycle
    (create config { localNodeId } messageBufferSize maxBufferMemory) events
  refine throughout_iff_along Tracked TablesAgree
    ⟨tracked, tracked.agree_iff.mpr ?_⟩ (fun tracked taken => tracked.step taken) ?_ run
  · intro id handle stream listed
    simp [create] at listed
  · intro service event after tracked agree taken
    rw [(tracked.step taken).agree_iff]
    exact AllActive.step_iff tracked (tracked.agree_iff.mp agree) taken

/-- A client subscribes to a topic and drops the connection: the stream is cancelled and
done, the registry still has the subscription, advertises the topic and counts a subscriber.
-/
theorem cancelled_subscription_stays
    : ∃ service,
        exec lifeCycleStep smallDaemon
            [.subscribe {} { topics := [[97]] }, .onCancel 0, .onDone 0]
          = some service
        ∧ (service.registry.localSubscriptions.lookup (subscriptionIdOf 0 [])).isSome = true
        ∧ service.registry.getLocalTopics .asStored = [[97]]
        ∧ (service.publish {} { topic := [97], payload := [] }).2.1.subscriberCount = 1
        ∧ ¬service.Live (subscriptionIdOf 0 [])
        ∧ ¬service.TablesAgree := by
  refine ⟨_, rfl, by decide +kernel, by decide +kernel, by decide +kernel, ?_⟩
  rw [← not_or]
  intro either
  have live := either.elim id (fun agree => (agree.registered _).mp (by decide +kernel))
  obtain ⟨handle, stream, listed, is, _, active⟩ := live
  cases listed
  cases is
  cases active

end NexusD.Services.SidecarService
