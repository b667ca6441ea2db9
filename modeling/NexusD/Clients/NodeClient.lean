import NexusD.Clients.IteratorBridge
import Mathlib.Data.List.AList

/-! The Node client with its calls in flight.
`publish`, `getTopics` and `getPeers` go through `withRetry`; each `subscribe` is a generator
with a loop of its own around the calls it makes. All of them share the gRPC client, the
connection state and the flag that the client is closed. The code between two suspensions runs
to its end, so it is one step, and steps of different calls come in any order.

Callbacks run inside such a step. One that is told of a change of the connection state may call
`close`, which changes the state again before the callbacks behind it have been told. No other
method changes the state before it first suspends, so calling one from a callback is the same
as calling it right before or right after the step.
-/

namespace NexusD.Clients

open NexusD.Core NexusD.Services
open NexusD.Library

inductive ReconnectionState where
  | connected
  | disconnected
  | reconnecting
  | failed
deriving DecidableEq, Repr

/-- The status codes the client tells apart. -/
inductive NodeStatus where
  | cancelled
  | unavailable
  | deadlineExceeded
  | other
deriving DecidableEq, Repr

structure NodeError where
  code : NodeStatus
  message : String := ""
deriving DecidableEq, Repr

def NodeError.isConnectionError (error : NodeError) : Bool :=
  match error.code with
  | .unavailable | .deadlineExceeded => true
  | .cancelled | .other => false

/-- The callbacks that were registered with `onConnectionStateChange` before the first change of
the state.
-/
structure StateCallbacks where
  registered : Nat := 0
  /-- the calls, counted over all callbacks, from within which `close` is called -/
  closing : List Nat := []
deriving DecidableEq, Repr

structure NodeConnection where
  connectionState : ReconnectionState := .connected
  callbacks : StateCallbacks := {}
  /-- the changes of the state, of each of which the callbacks are notified -/
  notified : List (ReconnectionState × Option NodeError) := []
  /-- the calls of the callbacks, each with the number of the callback -/
  told : List (Nat × ReconnectionState × Option NodeError) := []
  closed : Bool := false
  /-- how often `close` has been called -/
  closeCalls : Nat := 0
  /-- `this.client`, by the number of its construction -/
  client : Nat := 0
  constructed : Nat := 1
  /-- the gRPC clients that have been constructed and not closed -/
  openClients : List Nat := [0]
deriving DecidableEq, Repr

namespace NodeConnection

def tell (connection : NodeConnection) (callback : Nat) (state : ReconnectionState)
    (error : Option NodeError)
    : NodeConnection :=
  { connection with told := connection.told ++ [(callback, state, error)] }

/-- `callback(state, error)`, where `close` is what the callback calls if it closes the client. -/
def callBack (close : NodeConnection → NodeConnection) (state : ReconnectionState)
    (error : Option NodeError) (connection : NodeConnection) (callback : Nat)
    : NodeConnection :=
  if connection.told.length ∈ connection.callbacks.closing then
    close (connection.tell callback state error)
  else
    connection.tell callback state error

def enter (connection : NodeConnection) (state : ReconnectionState) (error : Option NodeError)
    : NodeConnection :=
  { connection with
    connectionState := state
    notified := connection.notified ++ [(state, error)] }

/-- The body of `setConnectionState`. The loop goes on with the client as the callbacks that
have been called leave it.
-/
def changeState (close : NodeConnection → NodeConnection) (connection : NodeConnection)
    (state : ReconnectionState) (error : Option NodeError)
    : NodeConnection :=
  if connection.connectionState = state then connection
  else
    (List.range connection.callbacks.registered).foldl (callBack close state error)
      (connection.enter state error)

/-- `grpc.closeClient(this.client)` -/
def closeClient (connection : NodeConnection) : NodeConnection :=
  { connection with openClients := connection.openClients.erase connection.client }

/-- What `close` does before it sets the state. -/
def shut (connection : NodeConnection) : NodeConnection :=
  { connection with closed := true, closeCalls := connection.closeCalls + 1 }.closeClient

/-- `close`. A callback that it tells of the disconnection may call `close` again, which changes
nothing about the state, so that the recursion ends there.
-/
def close (connection : NodeConnection) : NodeConnection :=
  connection.shut.changeState
    (fun inner => inner.shut.changeState id .disconnected none) .disconnected none

def setConnectionState (connection : NodeConnection) (state : ReconnectionState)
    (error : Option NodeError)
    : NodeConnection :=
  connection.changeState close state error

def reconnect (connection : NodeConnection) : NodeConnection :=
  let dropped := connection.closeClient
  { dropped with
    client := dropped.constructed
    constructed := dropped.constructed + 1
    openClients := dropped.openClients ++ [dropped.constructed] }

end NodeConnection

-----------------------------------------------------------------------------------------
-- Operations with retry
-----------------------------------------------------------------------------------------

/-- What the promise of an operation comes to. -/
inductive Settlement (Response : Type) where
  | resolved (response : Response)
  | rejected (error : NodeError)

/-- Where `withRetry` is; `attempt` counts its failures. -/
inductive RetryPhase (Response : Type) where
  /-- at the head of the loop -/
  | looping (attempt : Nat)
  /-- the RPC is under way -/
  | waiting (attempt : Nat)
  /-- the promise is settled, and the `await` has not returned -/
  | settled (attempt : Nat) (settlement : Settlement Response)
  | sleeping (attempt : Nat)
  | returned (response : Response)
  | threw (error : NodeError)
  /-- `throw new Error('Client closed')` -/
  | threwClosed

structure Operation (Request Response : Type) where
  request : Request
  phase : RetryPhase Response

-----------------------------------------------------------------------------------------
-- Subscriptions
-----------------------------------------------------------------------------------------

/-- The arguments of `subscribe`, with the client's own values in place of absent options. -/
structure NodeSubscribeArguments where
  subscriptionId : ByteString
  topics : List ByteString
  clientId : ByteString
  receiveRetained : Bool := true
  maxBufferSize : Int := 0
  gapRecoveryMode : GapRecoveryMode := .none
deriving DecidableEq, Repr

inductive NodeStreamRequest where
  | subscribe (topics : List ByteString) (clientId : ByteString) (receiveRetained : Bool)
      (maxBufferSize : Int) (subscriptionId : ByteString)
  | resumeSubscribe (subscriptionId : ByteString) (topics : List ByteString)
      (clientId : ByteString) (lastSequenceNumber : Nat) (gapRecoveryMode : GapRecoveryMode)
deriving DecidableEq, Repr

/-- Where the generator of a subscription is. -/
inductive GeneratorLoop where
  /-- at the head of the outer loop -/
  | looping
  /-- in the loop over the messages of a call -/
  | streaming
  /-- between an error and the next call -/
  | sleeping
  | ended
deriving DecidableEq, Repr

/-- The variables of one `subscribe`; those of its current call are the bridge's. -/
structure SubscriptionLoop where
  arguments : NodeSubscribeArguments
  /-- `subscriptionInfo.isActive` -/
  isActive : Bool := true
  isResuming : Bool := false
  streamError : Option NodeError := none
  bridge : IteratorBridge := { subscription := {} }
  phase : GeneratorLoop := .looping
deriving DecidableEq, Repr

namespace SubscriptionLoop

/-- The request at the head of the loop. -/
def request (loop : SubscriptionLoop) : NodeStreamRequest :=
  let arguments := loop.arguments
  let lastSequenceNumber := loop.bridge.subscription.lastSequenceNumber
  if loop.isResuming
      ∧ 0 < lastSequenceNumber
      ∧ arguments.gapRecoveryMode ≠ .none then
    .resumeSubscribe arguments.subscriptionId arguments.topics arguments.clientId
      lastSequenceNumber arguments.gapRecoveryMode
  else
    .subscribe arguments.topics arguments.clientId arguments.receiveRetained
      arguments.maxBufferSize arguments.subscriptionId

/-- A call has its own queue, flags and error; the generator goes on to the loop over it. -/
def openCall (loop : SubscriptionLoop) : SubscriptionLoop :=
  { loop with
    phase := .streaming
    streamError := none
    bridge :=
      IteratorBridge.loopHead
        { loop.bridge with
          messageQueue := []
          resolver := false
          done := false
          streamError := none
          phase := .suspended } }

end SubscriptionLoop

/-- An event of a subscription's current call, or of its consumer. -/
inductive CallEvent where
  | data (event : MessageEvent)
  | ended
  | error (failure : NodeError)
  /-- the consumer calls `next()` -/
  | pull
  /-- the generator goes on from its `yield` -/
  | run
  /-- the generator goes on from its `await` -/
  | resume

def CallEvent.toBridge : CallEvent → BridgeAction
  | .data event => .data event
  | .ended => .ended
  | .error failure => .error failure.message
  | .pull => .pull
  | .run => .run
  | .resume => .resume

-----------------------------------------------------------------------------------------
-- The client
-----------------------------------------------------------------------------------------

/-- A call on a gRPC client, with the number of the operation or subscription that makes it. -/
inductive ClientCall (Request : Type) where
  | operation (number client : Nat) (request : Request)
  | stream (number client : Nat) (request : NodeStreamRequest)
  | unsubscribe (client : Nat) (subscriptionId : ByteString) (pause : Bool)
deriving DecidableEq, Repr

structure NodeClient (Request Response : Type) where
  /-- `reconnectionPolicy.maxRetries`, 0 for no limit -/
  maxRetries : Nat := 0
  /-- registered with `onGapDetected` -/
  gapCallbacks : List Nat := []
  connection : NodeConnection := {}
  operations : Nat → Option (Operation Request Response) := fun _ => none
  subscriptions : Nat → Option SubscriptionLoop := fun _ => none
  activeSubscriptions : AList (fun _ : ByteString => Nat) := ∅
  /-- the calls made so far -/
  calls : List (ClientCall Request) := []

namespace NodeClient

variable {Request Response : Type}

inductive Action (Request Response : Type) where
  /-- `publish`, `getTopics` or `getPeers` is called -/
  | invoke (number : Nat) (request : Request)
  /-- the callback of the RPC -/
  | respond (number : Nat) (settlement : Settlement Response)
  /-- `withRetry` goes on with the settled promise -/
  | proceed (number : Nat)
  /-- the delay is over, and `reconnect` runs -/
  | wake (number : Nat)
  | loop (number : Nat)
  /-- the first `next()` on a new `subscribe` -/
  | subscribe (number : Nat) (arguments : NodeSubscribeArguments)
  | stream (number : Nat) (event : CallEvent)
  | wakeSubscription (number : Nat)
  | loopSubscription (number : Nat)
  | unsubscribe (subscriptionId : ByteString) (pause : Bool)
  | close

def setPhase (client : NodeClient Request Response) (number : Nat) (request : Request)
    (phase : RetryPhase Response)
    : NodeClient Request Response :=
  { client with
    operations := Function.update client.operations number (some { request, phase }) }

def setSubscription (client : NodeClient Request Response) (number : Nat)
    (loop : SubscriptionLoop)
    : NodeClient Request Response :=
  { client with subscriptions := Function.update client.subscriptions number (some loop) }

/-- `subInfo.isActive = false`, through the map -/
def deactivate (client : NodeClient Request Response) (number : Nat)
    : NodeClient Request Response :=
  match client.subscriptions number with
  | none => client
  | some loop => client.setSubscription number { loop with isActive := false }

/-- The part of `close` that concerns the subscriptions. -/
def dropSubscriptions (client : NodeClient Request Response) : NodeClient Request Response :=
  let numbers := client.activeSubscriptions.keys.filterMap client.activeSubscriptions.lookup
  { numbers.foldl deactivate client with activeSubscriptions := ∅ }

/-- The connection has moved on; a `close` on the way has also dropped the subscriptions. -/
def withConnection (client : NodeClient Request Response) (connection : NodeConnection)
    : NodeClient Request Response :=
  if connection.closeCalls = client.connection.closeCalls then { client with connection }
  else { client.dropSubscriptions with connection }

def setConnectionState (client : NodeClient Request Response) (state : ReconnectionState)
    (error : Option NodeError)
    : NodeClient Request Response :=
  client.withConnection (client.connection.setConnectionState state error)

def reconnect (client : NodeClient Request Response) : NodeClient Request Response :=
  { client with connection := client.connection.reconnect }

def record (client : NodeClient Request Response) (call : ClientCall Request)
    : NodeClient Request Response :=
  { client with calls := client.calls ++ [call] }

/-- The head of the loop of `withRetry`. -/
def retry (client : NodeClient Request Response) (number : Nat) (request : Request)
    (attempt : Nat)
    : NodeClient Request Response :=
  if client.connection.closed then
    client.setPhase number request .threwClosed
  else
    (client.setPhase number request (.waiting attempt)).record
      (.operation number client.connection.client request)

/-- The rest of the loop's body. -/
def settle (client : NodeClient Request Response) (number : Nat) (request : Request)
    (attempt : Nat)
    : Settlement Response → NodeClient Request Response
  | .resolved response => client.setPhase number request (.returned response)
  | .rejected error =>
      if !error.isConnectionError then
        client.setPhase number request (.threw error)
      else
        let reconnecting := client.setConnectionState .reconnecting (some error)
        if 0 < client.maxRetries ∧ client.maxRetries ≤ attempt + 1 then
          (reconnecting.setConnectionState .failed (some error)).setPhase number request
            (.threw error)
        else
          reconnecting.setPhase number request (.sleeping (attempt + 1))

/-- Behind the outer loop of `subscribe`. -/
def endSubscription (client : NodeClient Request Response) (number : Nat)
    (loop : SubscriptionLoop)
    : NodeClient Request Response :=
  { client.setSubscription number { loop with phase := .ended } with
    activeSubscriptions := client.activeSubscriptions.erase loop.arguments.subscriptionId }

/-- The head of the outer loop of `subscribe`. -/
def enterLoop (client : NodeClient Request Response) (number : Nat)
    (loop : SubscriptionLoop)
    : NodeClient Request Response :=
  if client.connection.closed ∨ loop.isActive = false then
    client.endSubscription number loop
  else
    (client.setSubscription number loop.openCall).record
      (.stream number client.connection.client loop.request)

/-- Both ways to another call: a lost connection, and an error that is thrown and caught in the
same body.
-/
def resumeLater (client : NodeClient Request Response) (number : Nat)
    (loop : SubscriptionLoop) (error : NodeError)
    : NodeClient Request Response :=
  (client.setSubscription number
    { loop with isResuming := true, phase := .sleeping }).setConnectionState .reconnecting
    (some error)

/-- What `subscribe` does after the last message of a call. -/
def afterStream (client : NodeClient Request Response) (number : Nat)
    (loop : SubscriptionLoop)
    : NodeClient Request Response :=
  match loop.streamError with
  | none => client.endSubscription number loop
  | some error =>
      if error.code = .cancelled then client.endSubscription number loop
      else if error.isConnectionError then client.resumeLater number loop error
      else if client.connection.closed ∨ loop.isActive = false then
        client.endSubscription number loop
      else client.resumeLater number loop error

def leaveStream (client : NodeClient Request Response) (number : Nat)
    : NodeClient Request Response :=
  match client.subscriptions number with
  | none => client
  | some loop => client.afterStream number loop

/-- The part of the handlers that concerns the whole client. -/
def onEvent (client : NodeClient Request Response) : CallEvent → NodeClient Request Response
  | .data event =>
      if (NodeSubscription.received event).isSome then
        client.setConnectionState .connected none
      else
        client
  | .ended | .error _ | .pull | .run | .resume => client

def noteError (loop : SubscriptionLoop) : CallEvent → SubscriptionLoop
  | .error failure => { loop with streamError := some failure }
  | .data _ | .ended | .pull | .run | .resume => loop

/-- An event of a subscription. When the loop over the call is left, the generator goes on at
once. A consumer may ask for a message at any time.
-/
def callEvent (client : NodeClient Request Response) (number : Nat)
    (loop : SubscriptionLoop) (event : CallEvent)
    : Option (NodeClient Request Response) :=
  match loop.phase with
  | .streaming =>
      (loop.bridge.step client.gapCallbacks event.toBridge).map (fun bridge =>
        let moved := client.setSubscription number { noteError loop event with bridge }
        if bridge.phase = .left then (moved.onEvent event).leaveStream number
        else moved.onEvent event)
  | .looping | .sleeping | .ended =>
      match event with
      | .pull =>
          some
            (client.setSubscription number
              { loop with bridge := { loop.bridge with demand := loop.bridge.demand + 1 } })
      | .data _ | .ended | .error _ | .run | .resume => none

def unsubscribe (client : NodeClient Request Response) (subscriptionId : ByteString)
    (pause : Bool)
    : NodeClient Request Response :=
  let marked :=
    match client.activeSubscriptions.lookup subscriptionId with
    | none => client
    | some number =>
        { client.deactivate number with
          activeSubscriptions :=
            if pause then client.activeSubscriptions
            else client.activeSubscriptions.erase subscriptionId }
  marked.record (.unsubscribe client.connection.client subscriptionId pause)

def close (client : NodeClient Request Response) : NodeClient Request Response :=
  client.withConnection client.connection.close

def step (client : NodeClient Request Response)
    : Action Request Response → Option (NodeClient Request Response)
  | .invoke number request =>
      match client.operations number with
      | none => some (client.retry number request 0)
      | some _ => none
  | .respond number settlement =>
      match client.operations number with
      | some ⟨request, .waiting attempt⟩ =>
          let answered :=
            match settlement with
            | .resolved _ => client.setConnectionState .connected none
            | .rejected _ => client
          some (answered.setPhase number request (.settled attempt settlement))
      | _ => none
  | .proceed number =>
      match client.operations number with
      | some ⟨request, .settled attempt settlement⟩ =>
          some (client.settle number request attempt settlement)
      | _ => none
  | .wake number =>
      match client.operations number with
      | some ⟨request, .sleeping attempt⟩ =>
          some (client.reconnect.setPhase number request (.looping attempt))
      | _ => none
  | .loop number =>
      match client.operations number with
      | some ⟨request, .looping attempt⟩ => some (client.retry number request attempt)
      | _ => none
  | .subscribe number arguments =>
      match client.subscriptions number with
      | none =>
          let registered :=
            { client with
              activeSubscriptions :=
                client.activeSubscriptions.insert arguments.subscriptionId number }
          some (registered.enterLoop number { arguments })
      | some _ => none
  | .stream number event =>
      match client.subscriptions number with
      | some loop => client.callEvent number loop event
      | none => none
  | .wakeSubscription number =>
      match client.subscriptions number with
      | some loop =>
          if loop.phase = .sleeping then
            some (client.reconnect.setSubscription number { loop with phase := .looping })
          else
            none
      | none => none
  | .loopSubscription number =>
      match client.subscriptions number with
      | some loop => if loop.phase = .looping then some (client.enterLoop number loop) else none
      | none => none
  | .unsubscribe subscriptionId pause => some (client.unsubscribe subscriptionId pause)
  | .close => some client.close

end NodeClient

end NexusD.Clients
