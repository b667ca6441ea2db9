import NexusD.Clients.NodeLoops

/-! A subscription of the Node client over all the calls it makes.
A lost connection ends a call, not the subscription: the generator first hands out what it has
received, then reconnects and calls again. Seen from the consumer there is one stream of
messages, and seen from the daemon each call starts where the last one stopped.
-/

namespace NexusD.Clients

open NexusD.Core NexusD.Services
open NexusD.Library

-----------------------------------------------------------------------------------------
-- One stream of messages
-----------------------------------------------------------------------------------------

/-- The number of the last message that has one, or 0. -/
def lastNumber (messages : List ReceivedMessage) : Nat :=
  ((messages.map ReceivedMessage.sequenceNumber).filter (fun number => 0 < number)).getLastD 0

theorem lastNumber_snoc (messages : List ReceivedMessage) (message : ReceivedMessage)
    : lastNumber (messages ++ [message])
      = if 0 < message.sequenceNumber then message.sequenceNumber
        else lastNumber messages := by
  unfold lastNumber
  rw [List.map_append, List.filter_append]
  split <;> simp_all

theorem lastSequenceNumber_onData {subscription : NodeSubscription}
    {messages : List ReceivedMessage}
    (position : subscription.lastSequenceNumber = lastNumber messages) (callbacks : List Nat)
    (event : MessageEvent)
    : (subscription.onData callbacks event).lastSequenceNumber
      = lastNumber (messages ++ (NodeSubscription.received event).toList) := by
  unfold NodeSubscription.onData
  cases NodeSubscription.received event with
  | none => simpa using position
  | some message =>
      rw [Option.toList_some, lastNumber_snoc]
      dsimp only
      split
      · rfl
      · exact position

namespace IteratorBridge

theorem loopHead_subscription (bridge : IteratorBridge)
    : bridge.loopHead.subscription = bridge.subscription := by
  unfold loopHead
  split
  · rfl
  · split <;> rfl

theorem onEnd_subscription (bridge : IteratorBridge)
    : bridge.onEnd.subscription = bridge.subscription := by
  unfold onEnd
  split <;> rfl

/-- Only data moves the position. -/
theorem position_step {bridge after : IteratorBridge} {callbacks : List Nat}
    {event : CallEvent} {messages : List ReceivedMessage}
    (position : bridge.subscription.lastSequenceNumber = lastNumber messages)
    (taken : bridge.step callbacks event.toBridge = some after)
    : after.subscription.lastSequenceNumber = lastNumber (messages ++ event.brought) := by
  cases event with
  | data event =>
      cases taken
      have moved := lastSequenceNumber_onData position callbacks event
      refine Eq.trans ?_ moved
      unfold onData
      cases NodeSubscription.received event with
      | none => rfl
      | some message =>
          dsimp only
          split <;> rfl
  | ended =>
      cases taken
      rwa [onEnd_subscription, CallEvent.brought, List.append_nil]
  | error failure =>
      cases taken
      rwa [CallEvent.brought, List.append_nil, onError, onEnd_subscription]
  | pull =>
      cases taken
      rwa [CallEvent.brought, List.append_nil]
  | run =>
      simp only [CallEvent.toBridge, step, Option.ite_none_right_eq_some,
        Option.some.injEq] at taken
      obtain ⟨_, rfl⟩ := taken
      rwa [CallEvent.brought, List.append_nil, loopHead_subscription]
  | resume =>
      simp only [CallEvent.toBridge, step] at taken
      rw [CallEvent.brought, List.append_nil]
      split at taken
      · cases taken
        exact position
      · cases taken
        rwa [loopHead_subscription]
      all_goals cases taken

end IteratorBridge

theorem arrived_toBridge (event : CallEvent)
    : IteratorBridge.arrived [event.toBridge] = event.brought := by
  cases event with
  | data event =>
      cases received : NodeSubscription.received event <;>
        simp [IteratorBridge.arrived, CallEvent.toBridge, CallEvent.brought, received]
  | ended | error | pull | run | resume => rfl

/-- A message does not make the generator leave the loop over its call. -/
theorem brought_of_left {bridge after : IteratorBridge} {callbacks : List Nat}
    {event : CallEvent} (inside : bridge.phase ≠ .left)
    (taken : bridge.step callbacks event.toBridge = some after) (left : after.phase = .left)
    : event.brought = [] := by
  cases event with
  | data event =>
      cases taken
      unfold IteratorBridge.onData at left
      cases received : NodeSubscription.received event with
      | none => exact absurd (by simpa [received] using left) inside
      | some message =>
          simp only [received] at left
          split at left
          · cases left
          · exact absurd left inside
  | ended | error | pull | run | resume => rfl

namespace SubscriptionLoop

/-- The generator has received `messages`, over all its calls. -/
structure Continues (messages : List ReceivedMessage) (loop : SubscriptionLoop) : Prop where
  streaming
    : loop.phase = .streaming
      → IteratorBridge.Accounts messages loop.bridge ∧ loop.bridge.phase ≠ .left
  given : loop.phase ≠ .streaming → loop.bridge.yielded = messages
  position : loop.bridge.subscription.lastSequenceNumber = lastNumber messages
  resuming
    : loop.phase ≠ .streaming
      → loop.isResuming = true ∨ messages = [] ∨ loop.phase = .ended

variable {messages : List ReceivedMessage} {loop : SubscriptionLoop}

/-- A new call starts with everything handed out. -/
theorem Continues.openCall (continues : Continues messages loop)
    (phase : loop.phase ≠ .streaming)
    : Continues messages loop.openCall := by
  have given := continues.given phase
  refine ⟨?_, by simp [SubscriptionLoop.openCall], ?_, by simp [SubscriptionLoop.openCall]⟩
  · intro _
    refine ⟨⟨?_, ?_, ?_, ?_⟩, ?_⟩ <;>
      simp [SubscriptionLoop.openCall, IteratorBridge.loopHead, IteratorBridge.inFlight, given]
  · rw [SubscriptionLoop.openCall, IteratorBridge.loopHead_subscription]
    exact continues.position

theorem Continues.ended (continues : Continues messages loop)
    (phase : loop.phase ≠ .streaming)
    : Continues messages { loop with phase := .ended } :=
  ⟨by simp, fun _ => continues.given phase, continues.position, by simp⟩

theorem Continues.entered (continues : Continues messages loop)
    (phase : loop.phase ≠ .streaming) (closed : Bool)
    : Continues messages (loop.entered closed) := by
  unfold SubscriptionLoop.entered
  split
  · exact continues.ended phase
  · exact continues.openCall phase

/-- Behind the loop over a call, with everything handed out. -/
theorem continues_afterCall (given : loop.bridge.yielded = messages)
    (position : loop.bridge.subscription.lastSequenceNumber = lastNumber messages)
    (closed : Bool)
    : Continues messages (loop.afterCall closed) := by
  have ended : Continues messages { loop with phase := .ended } :=
    ⟨by simp, fun _ => given, position, by simp⟩
  have resumes : Continues messages { loop with isResuming := true, phase := .sleeping } :=
    ⟨by simp, fun _ => given, position, by simp⟩
  unfold afterCall
  split
  · exact ended
  · split
    · exact ended
    · split
      · exact resumes
      · split
        · exact ended
        · exact resumes

/-- Nothing here depends on the mark. -/
theorem Continues.marked {noted : SubscriptionLoop} (continues : Continues messages loop)
    (marked : NodeClient.Marked (some loop) (some noted))
    : Continues messages noted := by
  rcases marked with same | ⟨before, is, same⟩
  · cases same
    exact continues
  · cases is
    cases same
    exact ⟨continues.streaming, continues.given, continues.position, continues.resuming⟩

theorem Continues.streams (continues : Continues messages loop) {callbacks : List Nat}
    {event : CallEvent} {bridge : IteratorBridge} {noted : SubscriptionLoop}
    (phase : loop.phase = .streaming)
    (moved : loop.bridge.step callbacks event.toBridge = some bridge)
    (marked
      : NodeClient.Marked (some { NodeClient.noteError loop event with bridge }) (some noted))
    (closed : Bool)
    : Continues (messages ++ event.brought)
        (if bridge.phase = .left then noted.afterCall closed else noted) := by
  obtain ⟨accounts, inside⟩ := continues.streaming phase
  have position := IteratorBridge.position_step continues.position moved
  have next := (accounts.step moved).1
  rw [arrived_toBridge] at next
  have streaming : (NodeClient.noteError loop event).phase = .streaming := by
    cases event <;> exact phase
  split
  · rename_i left
    have same : noted.bridge = bridge := by
      rcases marked with same | ⟨before, is, same⟩
      · cases same
        rfl
      · cases is
        cases same
        rfl
    rw [← same] at position
    refine continues_afterCall ?_ position closed
    -- the loop over a call is left with an empty queue
    obtain ⟨_, given⟩ := accounts.step_left moved inside left
    rw [brought_of_left inside moved left, List.append_nil, same]
    exact given
  · rename_i stays
    have moved : Continues (messages ++ event.brought)
        { NodeClient.noteError loop event with bridge } :=
      ⟨fun _ => ⟨next, stays⟩, fun apart => absurd streaming apart, position,
        fun apart => absurd streaming apart⟩
    exact moved.marked marked

/-- Why a generator has ended. -/
def EndsFor (closed : Bool) (loop : SubscriptionLoop) : Prop :=
  loop.phase = .ended
  → closed = true
    ∨ loop.isActive = false
    ∨ ∀ error ∈ loop.streamError, error.code = .cancelled

theorem EndsFor.marked {closed : Bool} {noted : SubscriptionLoop} (ends : loop.EndsFor closed)
    (marked : NodeClient.Marked (some loop) (some noted))
    : noted.EndsFor closed := by
  rcases marked with same | ⟨before, is, same⟩
  · cases same
    exact ends
  · cases is
    cases same
    exact fun _ => .inr (.inl rfl)

theorem EndsFor.later {closed closedAfter : Bool} (ends : loop.EndsFor closed)
    (still : closed = true → closedAfter = true)
    : loop.EndsFor closedAfter :=
  fun ended => (ends ended).imp_left still

theorem endsFor_entered (closed : Bool) (loop : SubscriptionLoop)
    : (loop.entered closed).EndsFor closed := by
  unfold entered
  split
  · rename_i finished
    intro _
    rcases finished with isClosed | inactive
    · exact .inl isClosed
    · exact .inr (.inl inactive)
  · intro phase
    cases phase

theorem endsFor_afterCall (closed : Bool) (loop : SubscriptionLoop)
    : (loop.afterCall closed).EndsFor closed := by
  unfold afterCall EndsFor
  cases loop.streamError with
  | none => simp
  | some error =>
      dsimp only
      split
      · rename_i cancelled
        simp [cancelled]
      · split
        · simp
        · split
          · rename_i finished
            intro _
            rcases finished with isClosed | inactive
            · exact .inl isClosed
            · exact .inr (.inl inactive)
          · simp

end SubscriptionLoop

-----------------------------------------------------------------------------------------
-- Runs of the client
-----------------------------------------------------------------------------------------

namespace NodeClient

variable {Request Response : Type} {client after : NodeClient Request Response}
  {maxRetries : Nat} {gapCallbacks : List Nat} {callbacks : StateCallbacks}
  {actions : List (Action Request Response)}

/-- The messages a run brings to a subscription, over all its calls. -/
def broughtIn (number : Nat) (actions : List (Action Request Response))
    : List ReceivedMessage :=
  actions.flatMap (broughtTo number)

/-- What is known of each subscription. -/
structure Follows (actions : List (Action Request Response))
    (client : NodeClient Request Response)
    : Prop where
  loops
    : ∀ number loop,
        client.subscriptions number = some loop
        → loop.Continues (broughtIn number actions)
          ∧ loop.EndsFor client.connection.closed
  unused : ∀ number, client.subscriptions number = none → broughtIn number actions = []

/-- What a step makes of a subscription, up to the mark. -/
theorem Follows.loop {number : Nat} {messages : List ReceivedMessage} {closedAfter : Bool}
    {loop : SubscriptionLoop} (follows : client.Follows actions)
    (still : client.connection.closed = true → closedAfter = true)
    (change
      : LoopStep client.gapCallbacks closedAfter (client.subscriptions number) (some loop)
          messages)
    : loop.Continues (broughtIn number actions ++ messages) ∧ loop.EndsFor closedAfter := by
  generalize was : client.subscriptions number = before at change
  cases change with
  | rests =>
      obtain ⟨continues, ends⟩ := follows.loops number loop was
      rw [List.append_nil]
      exact ⟨continues, ends.later still⟩
  | starts arguments still =>
      rw [follows.unused number was, List.append_nil]
      have fresh : SubscriptionLoop.Continues [] { arguments } :=
        ⟨by simp, by simp, rfl, by simp⟩
      exact ⟨fresh.entered (by simp) _, (SubscriptionLoop.endsFor_entered _ _).later still⟩
  | @loops loop phase closed still =>
      obtain ⟨continues, _⟩ := follows.loops number loop was
      rw [List.append_nil]
      exact ⟨continues.entered (by simp [phase]) _,
        (SubscriptionLoop.endsFor_entered _ _).later still⟩
  | @wakes loop phase =>
      obtain ⟨continues, _⟩ := follows.loops number loop was
      rw [List.append_nil]
      have resuming := continues.resuming (by simp [phase])
      refine ⟨⟨by simp, fun _ => continues.given (by simp [phase]), continues.position, ?_⟩,
        by simp [SubscriptionLoop.EndsFor]⟩
      intro _
      rcases resuming with yes | none | finished
      · exact .inl yes
      · exact .inr (.inl none)
      · rw [phase] at finished
        cases finished
  | @pulls loop demand =>
      obtain ⟨continues, ends⟩ := follows.loops number loop was
      rw [List.append_nil]
      refine ⟨⟨?_, continues.given, continues.position, continues.resuming⟩, ends.later still⟩
      intro phase
      obtain ⟨accounts, inside⟩ := continues.streaming phase
      exact ⟨⟨accounts.account, accounts.resolver, accounts.awaiting, accounts.closed⟩,
        inside⟩
  | @streams loop noted event bridge phase moved marked closed still =>
      obtain ⟨continues, _⟩ := follows.loops number loop was
      refine ⟨continues.streams phase moved marked closed, ?_⟩
      split
      · exact (SubscriptionLoop.endsFor_afterCall _ _).later still
      · have streaming : (noteError loop event).phase = .streaming := by
          cases event <;> exact phase
        have running
          : SubscriptionLoop.EndsFor closedAfter { noteError loop event with bridge } :=
          fun ended => nomatch streaming.symm.trans ended
        exact running.marked marked

theorem Follows.step {action : Action Request Response} (follows : client.Follows actions)
    (taken : client.step action = some after)
    : after.Follows (actions ++ [action]) := by
  have still : client.connection.closed = true → after.connection.closed = true :=
    (effect_step taken).moves.invariant NodeConnection.Primitive.closed
  have longer (number : Nat)
      : broughtIn number (actions ++ [action])
        = broughtIn number actions ++ broughtTo number action := by
    simp [broughtIn]
  constructor
  · intro number loop found
    obtain ⟨middle, change, marked⟩ := loops_of_step taken number
    rw [found] at marked
    rw [longer]
    cases middle with
    | none => rcases marked with same | ⟨_, is, _⟩ <;> contradiction
    | some moved =>
        obtain ⟨continues, ends⟩ := follows.loop still change
        exact ⟨continues.marked marked, ends.marked marked⟩
  · intro number none
    obtain ⟨middle, change, marked⟩ := loops_of_step taken number
    rw [none] at marked
    rw [longer]
    rcases marked with same | ⟨_, _, is⟩
    · subst same
      generalize was : client.subscriptions number = before at change
      generalize broughtTo number action = brought at change
      cases change with
      | rests => rw [follows.unused number was, List.append_nil]
    · cases is

theorem follows_of_exec
    (run
      : exec step (create Request Response maxRetries gapCallbacks callbacks) actions
        = some client)
    : client.Follows actions := by
  refine exec_induction
    (motive := fun actions (client : NodeClient Request Response) => client.Follows actions)
    ⟨?_, fun _ _ => rfl⟩ (fun _ follows taken => follows.step taken) run
  intro number loop found
  cases found

/-- Over all its calls a subscription hands out the messages it receives in the order they
came, each once; when it has ended, it has handed out all of them.
-/
theorem yielded_of_exec
    (run
      : exec step (create Request Response maxRetries gapCallbacks callbacks) actions
        = some client)
    {number : Nat} {loop : SubscriptionLoop}
    (found : client.subscriptions number = some loop)
    : loop.bridge.yielded <+: broughtIn number actions
      ∧ (loop.phase ≠ .streaming → loop.bridge.yielded = broughtIn number actions) := by
  obtain ⟨continues, _⟩ := (follows_of_exec run).loops number loop found
  refine ⟨?_, continues.given⟩
  by_cases phase : loop.phase = .streaming
  · rw [(continues.streaming phase).1.account]
    exact List.prefix_append _ _
  · exact List.prefix_iff_eq_append.mpr (by simp [continues.given phase])

/-- A subscription ends when the client is closed, when it was unsubscribed, or when its last
call ended without an error or was cancelled. No other error ends it, and no number of errors
does.
-/
theorem ended_of_exec
    (run
      : exec step (create Request Response maxRetries gapCallbacks callbacks) actions
        = some client)
    {number : Nat} {loop : SubscriptionLoop}
    (found : client.subscriptions number = some loop) (finished : loop.phase = .ended)
    : client.connection.closed = true
      ∨ loop.isActive = false
      ∨ ∀ error ∈ loop.streamError, error.code = .cancelled :=
  ((follows_of_exec run).loops number loop found).2 finished

-----------------------------------------------------------------------------------------
-- Where each call starts
-----------------------------------------------------------------------------------------

/-- What a subscription should ask for, after it has received `messages`. -/
def nextRequest (arguments : NodeSubscribeArguments) (messages : List ReceivedMessage)
    : NodeStreamRequest :=
  if 0 < lastNumber messages ∧ arguments.gapRecoveryMode ≠ .none then
    .resumeSubscribe arguments.subscriptionId arguments.topics arguments.clientId
      (lastNumber messages) arguments.gapRecoveryMode
  else
    .subscribe arguments.topics arguments.clientId arguments.receiveRetained
      arguments.maxBufferSize arguments.subscriptionId

theorem request_eq_nextRequest {loop : SubscriptionLoop} {messages : List ReceivedMessage}
    (continues : loop.Continues messages) (phase : loop.phase = .looping)
    : loop.request = nextRequest loop.arguments messages := by
  unfold SubscriptionLoop.request nextRequest
  rw [continues.position]
  rcases continues.resuming (by simp [phase]) with resuming | none | finished
  · simp [resuming]
  · simp [none, lastNumber]
  · rw [phase] at finished
    cases finished

/-- A stream is opened at the head of the outer loop and nowhere else. -/
theorem opened_of_enterLoop {registered : NodeClient Request Response} {number other : Nat}
    {loop : SubscriptionLoop} {target : Nat} {request : NodeStreamRequest}
    (issued
      : (registered.enterLoop number loop).calls
        = registered.calls ++ [.stream other target request])
    : other = number
      ∧ request = loop.request
      ∧ (registered.enterLoop number loop).subscriptions number = some loop.openCall := by
  unfold enterLoop at issued ⊢
  split at issued
  · simp [endSubscription, setSubscription] at issued
  · rename_i running
    rw [if_neg running]
    simp only [record, setSubscription, List.append_cancel_left_eq, List.cons.injEq,
      ClientCall.stream.injEq, and_true] at issued
    obtain ⟨rfl, _, rfl⟩ := issued
    exact ⟨rfl, rfl, by simp [record, setSubscription]⟩

/-- Every call of a subscription asks for what comes behind the last numbered message that it
has received, over all its calls; without such a message or without gap recovery it subscribes
anew.
-/
theorem resumes_of_exec
    (run
      : exec step (create Request Response maxRetries gapCallbacks callbacks) actions
        = some client)
    {action : Action Request Response} (taken : client.step action = some after)
    {number target : Nat} {request : NodeStreamRequest}
    (issued : after.calls = client.calls ++ [.stream number target request])
    : ∃ loop,
        after.subscriptions number = some loop
        ∧ request = nextRequest loop.arguments (broughtIn number actions) := by
  have follows := follows_of_exec run
  rcases silent_of_step taken with
    silent | ⟨other, operation, attempt, rfl⟩ | ⟨other, arguments, _, new, rfl⟩
    | ⟨other, loop, _, found, phase, rfl⟩ | ⟨subscriptionId, pause, rfl⟩
  · rw [silent.calls] at issued
    simp at issued
  · unfold retry at issued
    split at issued
    · simp [setPhase] at issued
    · simp [record, setPhase] at issued
  · obtain ⟨rfl, rfl, opened⟩ := opened_of_enterLoop issued
    refine ⟨_, opened, ?_⟩
    rw [follows.unused number new]
    simp [SubscriptionLoop.request, nextRequest, SubscriptionLoop.openCall, lastNumber]
  · obtain ⟨rfl, rfl, opened⟩ := opened_of_enterLoop issued
    refine ⟨_, opened, ?_⟩
    obtain ⟨continues, _⟩ := follows.loops number loop found
    exact request_eq_nextRequest continues phase
  · unfold NodeClient.unsubscribe at issued
    dsimp only at issued
    split at issued
    · simp [record] at issued
    · rename_i marked _
      simp [record, (client.deactivate_connection marked).2] at issued

open IteratorBridge (numberedMessage)

def replaying : NodeSubscribeArguments :=
  {
    subscriptionId := [115]
    topics := [[97]]
    clientId := [99]
    gapRecoveryMode := .replayBuffer
  }

/-- A subscription receives message 5 and loses its connection. -/
def interrupted : List (Action Nat Nat) :=
  [ .subscribe 0 replaying, .stream 0 (.data (.message (numberedMessage 5))),
    .stream 0 .resume, .stream 0 (.error unavailable), .stream 0 .pull, .stream 0 .run,
    .wakeSubscription 0 ]

/-- And goes on with message 6, until the daemon ends the stream. -/
def resumed : List (Action Nat Nat) :=
  interrupted
  ++ [ .loopSubscription 0, .stream 0 (.data (.message (numberedMessage 6))),
    .stream 0 .resume, .stream 0 .ended, .stream 0 .pull, .stream 0 .run ]

theorem resumed_runs
    : ∃ (client : NodeClient Nat Nat) (loop : SubscriptionLoop),
        exec step (create Nat Nat 0 [] {}) resumed = some client
        ∧ client.subscriptions 0 = some loop
        ∧ loop.phase = .ended
        ∧ loop.bridge.yielded.map ReceivedMessage.sequenceNumber = [5, 6]
        ∧ client.connection.closed = false :=
  ⟨_, _, rfl, rfl, rfl, by decide +kernel, rfl⟩

theorem yielded_resumed
    : ∃ (client : NodeClient Nat Nat) (loop : SubscriptionLoop),
        exec step (create Nat Nat 0 [] {}) resumed = some client
        ∧ client.subscriptions 0 = some loop
        ∧ loop.bridge.yielded.map ReceivedMessage.sequenceNumber = [5, 6]
        ∧ loop.bridge.yielded = broughtIn 0 resumed := by
  obtain ⟨client, loop, run, found, phase, numbers, _⟩ := resumed_runs
  exact ⟨client, loop, run, found, numbers, (yielded_of_exec run found).2 (by simp [phase])⟩

theorem ended_resumed
    : ∃ (client : NodeClient Nat Nat) (loop : SubscriptionLoop),
        exec step (create Nat Nat 0 [] {}) resumed = some client
        ∧ loop.phase = .ended
        ∧ client.connection.closed = false
        ∧ (client.connection.closed = true
          ∨ loop.isActive = false
          ∨ ∀ error ∈ loop.streamError, error.code = .cancelled) := by
  obtain ⟨client, loop, run, found, phase, _, running⟩ := resumed_runs
  exact ⟨client, loop, run, phase, running, ended_of_exec run found phase⟩

/-- The second call asks for what comes behind message 5. -/
theorem resumes_interrupted
    : ∃ (client after : NodeClient Nat Nat) (loop : SubscriptionLoop),
        client.step (.loopSubscription 0) = some after
        ∧ after.calls
          = client.calls ++ [.stream 0 1 (.resumeSubscribe [115] [[97]] [99] 5 .replayBuffer)]
        ∧ after.subscriptions 0 = some loop
        ∧ .resumeSubscribe [115] [[97]] [99] 5 .replayBuffer
          = nextRequest loop.arguments (broughtIn 0 interrupted) := by
  have runs
    : ∃ client after : NodeClient Nat Nat,
        exec step (create Nat Nat 0 [] {}) interrupted = some client
        ∧ client.step (.loopSubscription 0) = some after
        ∧ after.calls
          = client.calls
            ++ [.stream 0 1 (.resumeSubscribe [115] [[97]] [99] 5 .replayBuffer)] :=
    ⟨_, _, rfl, rfl, by decide +kernel⟩
  obtain ⟨client, after, run, taken, issued⟩ := runs
  obtain ⟨loop, found, is⟩ := resumes_of_exec run taken issued
  exact ⟨client, after, loop, taken, issued, found, is⟩

end NodeClient

end NexusD.Clients
