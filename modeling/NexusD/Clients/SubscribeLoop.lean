import NexusD.Services.SidecarService

/-! The `subscribe` loop of the Python client, between the points where it waits.
The loop keeps the subscription id and the last sequence number it has seen across
connections, and asks to resume as soon as it has an id.
-/

namespace NexusD.Clients

open NexusD.Core NexusD.Services

structure ReconnectConfig where
  enabled : Bool := true
  /-- 0 means unlimited -/
  maxAttempts : Nat := 0

/-- The client object and the arguments of `subscribe`. -/
structure SubscribeArguments where
  clientId : ByteString
  reconnectConfig : ReconnectConfig := {}
  topics : List ByteString
  receiveRetained : Bool := true
  maxBufferSize : Int := 0
  gapRecoveryMode : GapRecoveryMode := .replayBuffer

/-- An entry of `_active_subscriptions`. -/
structure ActiveSubscription where
  subscriptionId : ByteString
  topics : List ByteString
  gapDetected : Bool := false
  missedMessageCount : Int := 0
  replayStarted : Bool := false
  lastSequence : Nat := 0
deriving DecidableEq, Repr

/-- A message handed to the application. -/
structure ReceivedMessage where
  messageId : ByteString
  topic : ByteString
  payload : ByteString
  contentType : ByteString
  timestampMs : Int
  sourceNodeId : ByteString
  correlationId : ByteString
  isRetained : Bool := false
  isReplay : Bool := false
  sequenceNumber : Nat := 0
deriving DecidableEq, Repr

/-- The status codes the loop tells apart. -/
inductive StatusCode where
  | cancelled
  | unavailable
  | notFound
  | other
deriving DecidableEq, Repr

inductive StreamRequest where
  | subscribe (request : SubscribeRequest)
  | resume (request : ResumeSubscribeRequest)

/-- Where the loop waits. -/
inductive LoopPhase where
  /-- at the head of the loop -/
  | calling
  /-- in the `for` over the stream -/
  | reading
  /-- in `_reconnect`, with the details of the error that led there -/
  | reconnecting (attempt : Nat) (details : String)
  | returned
  /-- `SubscribeError` -/
  | raised (message : String)
deriving DecidableEq, Repr

structure SubscribeLoop where
  phase : LoopPhase := .calling
  subscriptionId : Option ByteString := none
  lastSequence : Nat := 0
  activeSubscriptions : AList (fun _ : ByteString => ActiveSubscription) := ∅

namespace SubscribeLoop

/-- `if subscription_id`: neither `None` nor the empty string. -/
def heldId (loop : SubscribeLoop) : Option ByteString :=
  loop.subscriptionId.filter (fun id => !id.isEmpty)

/-- The request at the head of the loop. -/
def nextRequest (loop : SubscribeLoop) (arguments : SubscribeArguments) : StreamRequest :=
  match loop.heldId, arguments.reconnectConfig.enabled with
  | some id, true =>
      .resume
        {
          subscriptionId := id
          lastSequenceNumber := loop.lastSequence
          gapRecoveryMode := arguments.gapRecoveryMode
        }
  | _, _ =>
      .subscribe
        {
          topics := arguments.topics
          clientId := arguments.clientId
          receiveRetained := arguments.receiveRetained
          maxBufferSize := arguments.maxBufferSize
        }

/-- The assignments of one branch of the loop body. -/
def note (loop : SubscribeLoop) : MessageEvent → SubscribeLoop
  | .subscriptionInfo info =>
      { loop with
        subscriptionId := some info.subscriptionId
        activeSubscriptions :=
          loop.activeSubscriptions.insert info.subscriptionId
            {
              subscriptionId := info.subscriptionId
              topics := info.topics
              gapDetected := info.gapDetected
              missedMessageCount := info.missedMessageCount
              replayStarted := info.replayStarted
              lastSequence := loop.lastSequence
            } }
  | .message message =>
      -- `msg.sequence_number or last_sequence`
      { loop with
        lastSequence :=
          if message.sequenceNumber = 0 then loop.lastSequence else message.sequenceNumber }
  | .replayMessage message =>
      { loop with lastSequence := max loop.lastSequence message.sequenceNumber }
  | .notSet | .retainedMessage _ | .replayComplete _ _ => loop

/-- The update of `_active_subscriptions` at the end of the loop body. -/
def trackSequence (loop : SubscribeLoop) : SubscribeLoop :=
  match loop.heldId with
  | none => loop
  | some id =>
      match loop.activeSubscriptions.lookup id with
      | none => loop
      | some entry =>
          { loop with
            activeSubscriptions :=
              loop.activeSubscriptions.insert id
                { entry with lastSequence := loop.lastSequence } }

def onEvent (loop : SubscribeLoop) (event : MessageEvent) : SubscribeLoop :=
  (loop.note event).trackSequence

/-- What the loop yields for an event. -/
def yielded : MessageEvent → Option ReceivedMessage
  | .message message =>
      some
        {
          messageId := message.messageId
          topic := message.topic
          payload := message.payload
          contentType := message.contentType
          timestampMs := message.timestampMs
          sourceNodeId := message.sourceNodeId
          correlationId := message.correlationId
          sequenceNumber := message.sequenceNumber
        }
  | .retainedMessage message =>
      some
        {
          messageId := message.messageId
          topic := message.topic
          payload := message.payload
          contentType := message.contentType
          timestampMs := message.timestampMs
          sourceNodeId := message.sourceNodeId
          correlationId := message.correlationId
          isRetained := true
        }
  | .replayMessage message =>
      some
        {
          messageId := message.messageId
          topic := message.topic
          payload := message.payload
          contentType := []
          timestampMs := message.timestampMs
          sourceNodeId := message.sourceNodeId
          correlationId := []
          isReplay := true
          sequenceNumber := message.sequenceNumber
        }
  | .notSet | .subscriptionInfo _ | .replayComplete _ _ => none

/-- `break`, and the clean-up after the loop. -/
def leave (loop : SubscribeLoop) : SubscribeLoop :=
  { loop with
    phase := .returned
    activeSubscriptions :=
      match loop.heldId with
      | none => loop.activeSubscriptions
      | some id => loop.activeSubscriptions.erase id }

def raise (loop : SubscribeLoop) (details : String) : SubscribeLoop :=
  { loop with phase := .raised ("Subscribe failed: " ++ details) }

/-- The `except grpc.RpcError` branch, up to the first wait in `_reconnect`. -/
def onRpcError (loop : SubscribeLoop) (config : ReconnectConfig) (code : StatusCode)
    (details : String)
    : SubscribeLoop :=
  match code with
  | .cancelled => loop.leave
  | .unavailable =>
      if config.enabled then { loop with phase := .reconnecting 0 details }
      else loop.raise details
  | .notFound | .other => loop.raise details

/-- One round of `_reconnect` after `attempt` rounds. -/
def reconnectRound (loop : SubscribeLoop) (config : ReconnectConfig) (attempt : Nat)
    (details : String) (connected : Bool)
    : SubscribeLoop :=
  if 0 < config.maxAttempts ∧ config.maxAttempts < attempt + 1 then loop.raise details
  else if connected then { loop with phase := .calling }
  else { loop with phase := .reconnecting (attempt + 1) details }

/-- Only a subscription info sets the id. -/
theorem subscriptionId_onEvent (loop : SubscribeLoop) (event : MessageEvent)
    : (loop.onEvent event).subscriptionId
      = match event with
        | .subscriptionInfo info => some info.subscriptionId
        | _ => loop.subscriptionId := by
  have tracked (loop : SubscribeLoop)
      : loop.trackSequence.subscriptionId = loop.subscriptionId := by
    unfold trackSequence
    split
    · rfl
    · split <;> rfl
  rw [onEvent, tracked]
  cases event <;> rfl

theorem nextRequest_resume {loop : SubscribeLoop} {arguments : SubscribeArguments}
    {request : ResumeSubscribeRequest} (asks : loop.nextRequest arguments = .resume request)
    : loop.subscriptionId = some request.subscriptionId := by
  unfold nextRequest at asks
  split at asks
  · rename_i id held _
    cases asks
    exact (Option.filter_eq_some_iff.mp held).1
  · cases asks

end SubscribeLoop

end NexusD.Clients
