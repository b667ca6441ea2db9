import NexusD.Core.TopicMessageBuffer
import NexusD.Services.SubscriptionStream

/-! The sidecar service: its state, the pieces its handlers are made of, and the handlers
run one at a time. A piece is what one lock of the service, the registry or the buffer
protects; handlers that run concurrently interleave at the same pieces.
-/

namespace NexusD.Services

open NexusD.Core NexusD.Library

structure SubscribeRequest where
  topics : List ByteString
  clientId : ByteString := []
  receiveRetained : Bool := false
  maxBufferSize : Int := 0

structure UnsubscribeRequest where
  subscriptionId : ByteString
  pause : Bool := false

structure ResumeSubscribeRequest where
  subscriptionId : ByteString
  lastSequenceNumber : Nat := 0
  gapRecoveryMode : GapRecoveryMode := .none
deriving DecidableEq, Repr

structure PublishRequest where
  topic : ByteString
  payload : ByteString
  contentType : ByteString := []
  retain : Bool := false
  correlationId : ByteString := []
  ttlMs : Int := 0

structure MessageEnvelope where
  messageId : ByteString := []
  topic : ByteString
  payload : ByteString
  contentType : ByteString := []
  timestampMs : Int := 0
  sourceNodeId : ByteString := []
  retain : Bool := false
  correlationId : ByteString := []
  ttlMs : Int := 0

/-- Clock readings, the UUID generator's answer and the iteration orders one call meets. -/
structure CallContext where
  now : TimePoint := 0
  systemMs : Int := 0
  uuid : ByteString := []
  topicOrder : IterationOrder ByteString := .asStored
  streamOrder : IterationOrder ByteString := .asStored
  peerOrder : IterationOrder ByteString := .asStored

/-- The `bufferMessage` call for an envelope. -/
def MessageEnvelope.bufferCall (envelope : MessageEnvelope) (context : CallContext)
    : BufferCall :=
  {
    order := context.topicOrder
    now := context.now
    topic := envelope.topic
    payload := envelope.payload
  }

structure ServiceConfig where
  pausedSubscriptionTtl : Int := 300000
  subscriberQueueLimit : Nat := 10000
  backpressurePolicy : BackpressurePolicy := .dropOldest
  defaultMessageTtlMs : Int := 0

/-- Streams are shared objects: `activeStreams` holds references into `streams`, and so do
the publishers that are delivering.
-/
structure SidecarService where
  config : ServiceConfig
  registry : PeerRegistry
  messageBuffer : TopicMessageBuffer
  streams : Nat → Option SubscriptionStream := fun _ => none
  nextStream : Nat := 0
  activeStreams : AList (fun _ : ByteString => Nat) := ∅
  subscriptionCounter : Nat := 0

namespace SidecarService

def create (config : ServiceConfig) (registry : PeerRegistry) (messageBufferSize : Nat)
    (maxBufferMemory : Nat)
    : SidecarService :=
  {
    config
    registry
    messageBuffer := TopicMessageBuffer.create messageBufferSize maxBufferMemory
  }

/-- A daemon with default settings, alone in its mesh. -/
def smallDaemon : SidecarService := create {} { localNodeId := [] } 5 0

/-- `"sub-" + std::to_string(counter) + "-" + uuid.substr(0, 8)` -/
def subscriptionIdOf (counter : Nat) (uuid : ByteString) : ByteString :=
  [115, 117, 98, 45] ++ decimal counter ++ [45] ++ uuid.take 8

def generateSubscriptionId (service : SidecarService) (uuid : ByteString)
    : SidecarService × ByteString :=
  ({ service with subscriptionCounter := service.subscriptionCounter + 1 },
    subscriptionIdOf service.subscriptionCounter uuid)

def newQueue (service : SidecarService) : SubscriberQueue MessageEvent :=
  {
    limit := service.config.subscriberQueueLimit
    policy := service.config.backpressurePolicy
    defaultTtlMs := service.config.defaultMessageTtlMs
  }

def setStream (service : SidecarService) (handle : Nat) (stream : SubscriptionStream)
    : SidecarService :=
  { service with streams := Function.update service.streams handle (some stream) }

/-- A new stream for `subscriptionId`, put into `activeStreams_` in place of what was there.
-/
def trackStream (service : SidecarService) (subscriptionId : ByteString)
    (topics : List ByteString)
    : SidecarService × Nat :=
  let stream : SubscriptionStream :=
    { subscriptionId, topics, messageQueue := service.newQueue }
  ({ service with
      streams := Function.update service.streams service.nextStream (some stream)
      nextStream := service.nextStream + 1
      activeStreams := service.activeStreams.insert subscriptionId service.nextStream },
    service.nextStream)

/-- Apply a method to the stream behind `handle`. -/
def onStream (service : SidecarService) (handle : Nat)
    (method : SubscriptionStream → SubscriptionStream)
    : SidecarService :=
  match service.streams handle with
  | none => service
  | some stream => service.setStream handle (method stream)

-----------------------------------------------------------------------------------------
-- Delivery
-----------------------------------------------------------------------------------------

/-- `messageBuffer_->bufferMessage(topic, envelope.payload())` -/
def bufferEnvelope (service : SidecarService) (context : CallContext)
    (envelope : MessageEnvelope)
    : SidecarService × Nat :=
  let (buffer, sequenceNumber) :=
    service.messageBuffer.bufferMessage (envelope.bufferCall context)
  ({ service with messageBuffer := buffer }, sequenceNumber)

def selects (service : SidecarService) (topic : ByteString) (handle : Nat) : Bool :=
  match service.streams handle with
  | none => false
  | some stream => stream.active && stream.topics.contains topic

/-- The active streams with the topic, in the order the map is walked. -/
def matchingStreams (service : SidecarService) (order : IterationOrder ByteString)
    (topic : ByteString)
    : List Nat :=
  ((order.visit service.activeStreams.keys).filterMap service.activeStreams.lookup).filter
    (service.selects topic)

def messageEvent (envelope : MessageEnvelope) (sequenceNumber : Nat) : MessageEvent :=
  .message
    {
      messageId := envelope.messageId
      topic := envelope.topic
      payload := envelope.payload
      contentType := envelope.contentType
      timestampMs := envelope.timestampMs
      sourceNodeId := envelope.sourceNodeId
      correlationId := envelope.correlationId
      sequenceNumber
    }

/-- Message TTL, or the service's default. -/
def effectiveTtl (service : SidecarService) (envelope : MessageEnvelope) : Int :=
  if 0 < envelope.ttlMs then envelope.ttlMs else service.config.defaultMessageTtlMs

/-- The stream's reactor is not of the class that `deliverFromRemote` casts it to. -/
def miscasts (service : SidecarService) (handle : Nat) : Bool :=
  match service.streams handle with
  | none => false
  | some stream => stream.reactor.any (fun reactor => !reactor.isSubscribe)

/-- The call through `stream->reactor` for one matching stream; `none` where nothing is
returned. The source casts to `SubscribeReactor` whatever the object is.
-/
def deliverTo (service : SidecarService) (context : CallContext) (envelope : MessageEnvelope)
    (sequenceNumber : Nat) (handle : Nat)
    : SidecarService × Option EnqueueResult :=
  match service.streams handle with
  | none => (service, none)
  | some stream =>
      match stream.reactor with
      -- the pointer is still null
      | none => (service, none)
      -- The cast is undefined: `stream_` is read where the other class keeps its message buffer,
      -- and the mutex found in there is never free. The call does not return.
      | some (.resume _ _) => (service, none)
      | some (.subscribe _) =>
          let (next, result) :=
            stream.enqueueMessage context.now (messageEvent envelope sequenceNumber)
              (service.effectiveTtl envelope)
          (service.setStream handle next, some result)

/-- `registry_->updateSubscriptionSequence(stream->subscription_id, topic, seq)` -/
def recordDelivery (service : SidecarService) (handle : Nat) (topic : ByteString)
    (sequenceNumber : Nat)
    : SidecarService :=
  match service.streams handle with
  | none => service
  | some stream =>
      { service with
        registry :=
          service.registry.updateSubscriptionSequence stream.subscriptionId topic
            sequenceNumber }

/-- One round of the delivery loop. -/
def deliverRound (service : SidecarService) (context : CallContext)
    (envelope : MessageEnvelope) (sequenceNumber : Nat) (handle : Nat)
    : SidecarService × Option EnqueueResult :=
  match service.deliverTo context envelope sequenceNumber handle with
  | (delivered, some .enqueued) =>
      (delivered.recordDelivery handle envelope.topic sequenceNumber, some .enqueued)
  | (delivered, result) => (delivered, result)

/-- The sequence number of a delivered message, the result for each stream, and whether the
call returns.
-/
structure DeliveryReport where
  sequenceNumber : Nat
  results : List (Nat × EnqueueResult)
  returned : Bool
deriving DecidableEq, Repr

/-- The delivery loop. It hangs at the first stream whose reactor it miscasts, and the streams
behind that one get nothing.
-/
def deliverToAll (context : CallContext) (envelope : MessageEnvelope) (sequenceNumber : Nat)
    : SidecarService → List Nat → SidecarService × List (Nat × EnqueueResult)
  | service, [] => (service, [])
  | service, handle :: rest =>
      if service.miscasts handle then
        (service, [])
      else
        let (delivered, result) := service.deliverRound context envelope sequenceNumber handle
        let (final, results) := deliverToAll context envelope sequenceNumber delivered rest
        (final, (result.map (handle, ·)).toList ++ results)

/-- `deliverFromRemote`, to its end or to where it hangs. -/
def deliverFromRemote (service : SidecarService) (context : CallContext)
    (envelope : MessageEnvelope)
    : SidecarService × DeliveryReport :=
  let (buffered, sequenceNumber) := service.bufferEnvelope context envelope
  let handles := buffered.matchingStreams context.streamOrder envelope.topic
  let (delivered, results) := deliverToAll context envelope sequenceNumber buffered handles
  (delivered, { sequenceNumber, results, returned := !handles.any buffered.miscasts })

-----------------------------------------------------------------------------------------
-- Publish
-----------------------------------------------------------------------------------------

structure PublishResponse where
  success : Bool
  messageId : ByteString
  subscriberCount : Nat

/-- The envelope a Publish builds, for its peers and for its own subscribers. -/
def publishedEnvelope (service : SidecarService) (context : CallContext)
    (request : PublishRequest)
    : MessageEnvelope :=
  {
    messageId := context.uuid
    topic := request.topic
    payload := request.payload
    contentType := request.contentType
    timestampMs := context.systemMs
    sourceNodeId := service.registry.localNodeId
    retain := request.retain
    correlationId := request.correlationId
    ttlMs := request.ttlMs
  }

/-- A Publish with the retain flag replaces the topic's retained message first. -/
def retain (service : SidecarService) (context : CallContext) (request : PublishRequest)
    : SidecarService :=
  if request.retain then
    { service with
      registry :=
        service.registry.setRetainedMessage request.topic
          {
            messageId := context.uuid
            topic := request.topic
            payload := request.payload
            contentType := request.contentType
            sourceNodeId := service.registry.localNodeId
            timestampMs := context.systemMs
            ttlMs := request.ttlMs
          } }
  else
    service

/-- `Publish`; the pushes are the calls of `meshClient_->pushMessage`, in order. The response is
sent if the local delivery returns.
-/
def publish (service : SidecarService) (context : CallContext) (request : PublishRequest)
    : SidecarService × PublishResponse × List (ByteString × MessageEnvelope) :=
  let envelope := service.publishedEnvelope context request
  let stored := service.retain context request
  let peers :=
    (stored.registry.getRemoteSubscribers context.peerOrder request.topic).filterMap
      stored.registry.getPeer
  let (delivered, _) := stored.deliverFromRemote context envelope
  let localSubs := delivered.registry.getLocalSubscriptions context.peerOrder request.topic
  (delivered,
    {
      success := true
      messageId := context.uuid
      subscriberCount := peers.length + localSubs.length
    },
    peers.map (fun peer => (peer.endpoint, envelope)))

-----------------------------------------------------------------------------------------
-- Subscribe and Unsubscribe
-----------------------------------------------------------------------------------------

def retainedEvent (retained : RetainedMessage) : MessageEvent :=
  .retainedMessage
    {
      messageId := retained.messageId
      topic := retained.topic
      payload := retained.payload
      contentType := retained.contentType
      timestampMs := retained.timestampMs
      sourceNodeId := retained.sourceNodeId
    }

/-- The constructor of `SubscribeReactor`. -/
def constructSubscribe (registry : PeerRegistry) (context : CallContext)
    (request : SubscribeRequest) (stream : SubscriptionStream)
    : SubscriptionStream :=
  let attached := { stream with reactor := some (.subscribe {}) }
  let retained :=
    if request.receiveRetained then stream.topics.filterMap registry.getRetainedMessage else []
  let filled :=
    { attached with
      messageQueue :=
        retained.foldl
          (fun queue message => (queue.enqueue context.now (retainedEvent message) 0).1)
          attached.messageQueue }
  filled.startWrite
    (.subscriptionInfo
      {
        subscriptionId := stream.subscriptionId
        topics := stream.topics
        timestampMs := context.systemMs
      })

def subscribe (service : SidecarService) (context : CallContext) (request : SubscribeRequest)
    : SidecarService :=
  let (numbered, subscriptionId) := service.generateSubscriptionId context.uuid
  let registered :=
    { numbered with
      registry :=
        (numbered.registry.addLocalSubscription context.now subscriptionId request.clientId
          request.topics request.maxBufferSize).1 }
  let (tracked, handle) := registered.trackStream subscriptionId request.topics
  tracked.onStream handle (constructSubscribe tracked.registry context request)

structure UnsubscribeResponse where
  success : Bool
  errorMessage : String := ""
deriving DecidableEq, Repr

def unsubscribeResponse (found : Bool) : UnsubscribeResponse :=
  if found then { success := true }
  else { success := false, errorMessage := "Subscription not found" }

def unsubscribe (service : SidecarService) (context : CallContext)
    (request : UnsubscribeRequest)
    : SidecarService × UnsubscribeResponse :=
  let (registry, removed) :=
    service.registry.removeLocalSubscription context.now request.subscriptionId
      request.pause service.config.pausedSubscriptionTtl
  let unregistered := { service with registry }
  match unregistered.activeStreams.lookup request.subscriptionId with
  | none => (unregistered, unsubscribeResponse removed)
  | some handle =>
      ({ unregistered.onStream handle (fun stream => { stream with active := false }) with
          activeStreams := unregistered.activeStreams.erase request.subscriptionId },
        unsubscribeResponse true)

-----------------------------------------------------------------------------------------
-- ResumeSubscribe
-----------------------------------------------------------------------------------------

/-- The position `ResumeSubscribeReactor` asks the buffer for: the client's if it sent one,
else the one saved for the topic, else the one saved for the whole subscription.
-/
def resumePosition (request : ResumeSubscribeRequest) (paused : PausedSubscription)
    (topic : ByteString)
    : Nat :=
  if request.lastSequenceNumber = 0 then
    (paused.topicSequences.lookup topic).getD paused.lastDeliveredSequence
  else
    request.lastSequenceNumber

def replayEvent (buffered : BufferedMessage) : MessageEvent :=
  .replayMessage
    {
      messageId := decimal buffered.sequenceNumber
      topic := buffered.topic
      payload := buffered.payload
      timestampMs := buffered.timestamp.toMilliseconds
      sequenceNumber := buffered.sequenceNumber
    }

/-- The latest buffered message, as the `RETAINED_ONLY` mode sends it. -/
def bufferedRetainedEvent (buffered : BufferedMessage) : MessageEvent :=
  .retainedMessage
    {
      messageId := decimal buffered.sequenceNumber
      topic := buffered.topic
      payload := buffered.payload
      timestampMs := buffered.timestamp.toMilliseconds
    }

/-- What gap recovery has gathered, and the `getMessagesForReplay` calls it has made. -/
structure Recovery where
  asked : List (ByteString × Nat) := []
  pendingReplay : List MessageEvent := []
  gapDetected : Bool := false
  totalMissed : Nat := 0
deriving DecidableEq, Repr

/-- One round of the gap recovery loop. -/
def recoverTopic (buffer : TopicMessageBuffer) (request : ResumeSubscribeRequest)
    (paused : PausedSubscription) (recovery : Recovery) (topic : ByteString)
    : Recovery :=
  match request.gapRecoveryMode with
  | .none => recovery
  | .retainedOnly =>
      { recovery with
        pendingReplay :=
          recovery.pendingReplay
          ++ ((buffer.getRetainedMessage topic).map bufferedRetainedEvent).toList }
  | .replayBuffer =>
      let lastSeq := resumePosition request paused topic
      let result := buffer.getMessagesForReplay topic lastSeq
      {
        asked := recovery.asked ++ [(topic, lastSeq)]
        pendingReplay := recovery.pendingReplay ++ result.messages.map replayEvent
        gapDetected := recovery.gapDetected || result.gapDetected
        totalMissed :=
          if result.gapDetected then recovery.totalMissed + result.missedCount
          else recovery.totalMissed
      }

/-- Gap recovery over the stream's topics, if the registry resumed the subscription. -/
def recover (buffer : TopicMessageBuffer) (request : ResumeSubscribeRequest)
    (topics : List ByteString)
    : Option PausedSubscription → Recovery
  | none => {}
  | some paused =>
      if request.gapRecoveryMode = .none then {}
      else topics.foldl (recoverTopic buffer request paused) {}

/-- The 32-bit field `missed_message_count` is set from a 64-bit count. -/
def resumeInfo (subscriptionId : ByteString) (topics : List ByteString) (systemMs : Int)
    (recovery : Recovery)
    : SubscriptionInfo :=
  {
    subscriptionId
    topics
    timestampMs := systemMs
    gapDetected := recovery.gapDetected
    missedMessageCount := Int.bmod recovery.totalMissed (2 ^ 32)
    replayStarted := !recovery.pendingReplay.isEmpty
  }

/-- `stream_->reactor = this`, at the head of the constructor. -/
def attachResume (mode : GapRecoveryMode) (stream : SubscriptionStream)
    : SubscriptionStream :=
  { stream with reactor := some (.resume {} { gapRecoveryMode := mode }) }

/-- The end of the constructor: the replay queue is filled and the info is written. -/
def startResume (systemMs : Int) (recovery : Recovery) (stream : SubscriptionStream)
    : SubscriptionStream :=
  let filled :=
    match stream.reactor with
    | some (.resume write replay) =>
        { stream with
          reactor :=
            some (.resume write { replay with pendingReplay := recovery.pendingReplay }) }
    | some (.subscribe _) | none => stream
  filled.startWrite
    (.subscriptionInfo (resumeInfo stream.subscriptionId stream.topics systemMs recovery))

/-- The status `ErrorReactor` finishes with. -/
inductive ResumeError where
  | notFound (message : String)
deriving DecidableEq, Repr

/-- `ResumeSubscribe`, with the handle of the new stream. A paused record is taken as found
without a look at its expiry time; only `resumeSubscription` checks that.
-/
def resumeSubscribe (service : SidecarService) (context : CallContext)
    (request : ResumeSubscribeRequest)
    : SidecarService × Except ResumeError Nat :=
  match service.registry.getPausedSubscription request.subscriptionId with
  | none => (service, .error (.notFound "No paused subscription found"))
  | some paused =>
      let (tracked, handle) := service.trackStream request.subscriptionId paused.topics
      let attached := tracked.onStream handle (attachResume request.gapRecoveryMode)
      let (registry, resumed) :=
        attached.registry.resumeSubscription context.now request.subscriptionId
      let recovery := recover attached.messageBuffer request paused.topics resumed
      ({ attached with registry }.onStream handle (startResume context.systemMs recovery),
        .ok handle)

/-- One handler or callback, run to its end or to where it hangs; the others go on. -/
inductive Request where
  | subscribe (context : CallContext) (request : SubscribeRequest)
  | unsubscribe (context : CallContext) (request : UnsubscribeRequest)
  | resumeSubscribe (context : CallContext) (request : ResumeSubscribeRequest)
  | publish (context : CallContext) (request : PublishRequest)
  | deliver (context : CallContext) (envelope : MessageEnvelope)
  /-- gRPC answers a write of the stream -/
  | writeDone (context : CallContext) (handle : Nat) (ok : Bool)
  /-- `OnCancel` of the stream's reactor -/
  | cancel (handle : Nat)

def writesOutstanding (service : SidecarService) (handle : Nat) : Nat :=
  match service.streams handle with
  | none => 0
  | some stream => stream.writeSide.outstanding

def step (service : SidecarService) : Request → Option SidecarService
  | .subscribe context request => some (service.subscribe context request)
  | .unsubscribe context request => some (service.unsubscribe context request).1
  | .resumeSubscribe context request => some (service.resumeSubscribe context request).1
  | .publish context request => some (service.publish context request).1
  | .deliver context envelope => some (service.deliverFromRemote context envelope).1
  | .writeDone context handle ok =>
      if 0 < service.writesOutstanding handle then
        some
          (service.onStream handle (fun stream =>
            stream.onWriteDone context.now context.systemMs ok))
      else
        none
  | .cancel handle =>
      some (service.onStream handle (fun stream => { stream with active := false }))

end SidecarService

end NexusD.Services
