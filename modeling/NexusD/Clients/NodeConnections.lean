import NexusD.Clients.ConnectionCallbacks
import Mathlib.Logic.Relation

/-! The connection that all calls of a Node client share.
Whatever the calls do to it is a sequence of state changes, reconnections and closings. So what
these three keep holds for every interleaving of operations and subscriptions.
-/

namespace NexusD.Clients

open NexusD.Core NexusD.Services
open NexusD.Library

namespace NodeConnection

/-- What a call may do to the connection. -/
inductive Primitive : NodeConnection → NodeConnection → Prop
  | sets (connection : NodeConnection) (state : ReconnectionState) (error : Option NodeError)
      : Primitive connection (connection.setConnectionState state error)
  | reconnects (connection : NodeConnection) : Primitive connection connection.reconnect
  | closes (connection : NodeConnection) : Primitive connection connection.close

/-- Any number of such moves. -/
abbrev Moves := Relation.ReflTransGen Primitive

theorem Moves.sets (connection : NodeConnection) (state : ReconnectionState)
    (error : Option NodeError)
    : Moves connection (connection.setConnectionState state error) :=
  .single (.sets connection state error)

theorem Moves.invariant {kept : NodeConnection → Prop}
    (step : ∀ {before after}, Primitive before after → kept before → kept after)
    {before after : NodeConnection} (moves : Moves before after) (holds : kept before)
    : kept after := by
  induction moves with
  | refl => exact holds
  | tail _ last ih => exact step last ih

theorem Announced.primitive {before after : NodeConnection}
    (moved : Primitive before after) (announced : before.Announced)
    : after.Announced := by
  cases moved with
  | sets state error => exact announced.setConnectionState state error
  | reconnects =>
      exact ⟨announced.changes, announced.current, announced.everyone, announced.inOrder⟩
  | closes => exact announced.close

/-- No gRPC client is open but the current one, and that one is, unless the client has been
closed.
-/
structure OneOpen (connection : NodeConnection) : Prop where
  others : ∀ client ∈ connection.openClients, client = connection.client
  current : connection.closed = false → connection.client ∈ connection.openClients
  once : connection.openClients.Nodup

theorem OneOpen.none_left {connection : NodeConnection} (one : connection.OneOpen)
    : connection.closeClient.openClients = [] := by
  refine List.eq_nil_iff_forall_not_mem.mpr ?_
  intro client member
  rw [closeClient, one.once.mem_erase_iff] at member
  exact member.1 (one.others client member.2)

theorem OneOpen.shut {connection : NodeConnection} (one : connection.OneOpen)
    : connection.shut.OneOpen := by
  have gone : connection.shut.openClients = [] := one.none_left
  refine ⟨?_, ?_, ?_⟩
  · simp [gone]
  · intro notClosed
    cases notClosed
  · simp [gone]

theorem OneOpen.primitive {before after : NodeConnection} (moved : Primitive before after)
    (one : before.OneOpen)
    : after.OneOpen := by
  have enters {connection : NodeConnection} (state : ReconnectionState)
      (error : Option NodeError) (one : connection.OneOpen)
      : (connection.enter state error).OneOpen := ⟨one.others, one.current, one.once⟩
  have tells {connection : NodeConnection} (callback : Nat) (state : ReconnectionState)
      (error : Option NodeError) (one : connection.OneOpen)
      : (connection.tell callback state error).OneOpen := ⟨one.others, one.current, one.once⟩
  cases moved with
  | sets state error =>
      exact setConnectionState_keeps OneOpen enters tells OneOpen.shut one state error
  | reconnects =>
      have only : before.reconnect.openClients = [before.reconnect.client] := by
        simp only [reconnect, one.none_left, List.nil_append]
      refine ⟨?_, ?_, ?_⟩
      · simp [only]
      · simp [only]
      · simp [only]
  | closes => exact close_keeps OneOpen enters tells OneOpen.shut one

theorem OneOpen.openClients_eq {connection : NodeConnection} (one : connection.OneOpen)
    (running : connection.closed = false)
    : connection.openClients = [connection.client] := by
  have member := one.current running
  cases opened : connection.openClients with
  | nil => simp [opened] at member
  | cons first rest =>
      have others := one.others
      have once := one.once
      rw [opened] at others once
      obtain rfl : first = connection.client := others first (by simp)
      have none : rest = [] := by
        refine List.eq_nil_iff_forall_not_mem.mpr ?_
        intro client later
        have same := others client (List.mem_cons_of_mem _ later)
        exact (List.nodup_cons.mp once).1 (same ▸ later)
      rw [none]

/-- Nobody is registered or removed on the way. -/
theorem Primitive.callbacks {callbacks : StateCallbacks} {before after : NodeConnection}
    (moved : Primitive before after) (same : before.callbacks = callbacks)
    : after.callbacks = callbacks := by
  have enters {connection : NodeConnection} (state : ReconnectionState)
      (error : Option NodeError) (same : connection.callbacks = callbacks)
      : (connection.enter state error).callbacks = callbacks := same
  have tells {connection : NodeConnection} (callback : Nat) (state : ReconnectionState)
      (error : Option NodeError) (same : connection.callbacks = callbacks)
      : (connection.tell callback state error).callbacks = callbacks := same
  have shuts {connection : NodeConnection} (same : connection.callbacks = callbacks)
      : connection.shut.callbacks = callbacks := same
  cases moved with
  | sets state error =>
      exact setConnectionState_keeps (fun connection => connection.callbacks = callbacks) enters
        tells shuts same state error
  | reconnects => exact same
  | closes =>
      exact close_keeps (fun connection => connection.callbacks = callbacks) enters tells shuts
        same

theorem Primitive.closed {before after : NodeConnection} (moved : Primitive before after)
    (closed : before.closed = true)
    : after.closed = true := by
  have enters {connection : NodeConnection} (state : ReconnectionState)
      (error : Option NodeError) (closed : connection.closed = true)
      : (connection.enter state error).closed = true := closed
  have tells {connection : NodeConnection} (callback : Nat) (state : ReconnectionState)
      (error : Option NodeError) (closed : connection.closed = true)
      : (connection.tell callback state error).closed = true := closed
  cases moved with
  | sets state error =>
      exact setConnectionState_keeps (fun connection => connection.closed = true) enters tells
        (fun _ => rfl) closed state error
  | reconnects => exact closed
  | closes =>
      exact close_keeps (fun connection => connection.closed = true) enters tells
        (fun _ => rfl) closed

end NodeConnection

open NodeConnection (Moves heardBy)

-----------------------------------------------------------------------------------------
-- Steps of the client
-----------------------------------------------------------------------------------------

namespace NodeClient

variable {Request Response : Type} {client after : NodeClient Request Response}

/-- What a step does. -/
inductive Move (client : NodeClient Request Response)
    : Action Request Response → NodeClient Request Response → Prop
  | invoke {number request} (new : client.operations number = none)
      : Move client (.invoke number request) (client.retry number request 0)
  | resolve {number request attempt response}
      (stood : client.operations number = some ⟨request, .waiting attempt⟩)
      : Move client (.respond number (.resolved response))
          ((client.setConnectionState .connected none).setPhase number request
            (.settled attempt (.resolved response)))
  | reject {number request attempt error}
      (stood : client.operations number = some ⟨request, .waiting attempt⟩)
      : Move client (.respond number (.rejected error))
          (client.setPhase number request (.settled attempt (.rejected error)))
  | settle {number request attempt settlement}
      (stood : client.operations number = some ⟨request, .settled attempt settlement⟩)
      : Move client (.proceed number) (client.settle number request attempt settlement)
  | wake {number request attempt}
      (stood : client.operations number = some ⟨request, .sleeping attempt⟩)
      : Move client (.wake number)
          (client.reconnect.setPhase number request (.looping attempt))
  | loop {number request attempt}
      (stood : client.operations number = some ⟨request, .looping attempt⟩)
      : Move client (.loop number) (client.retry number request attempt)
  | subscribe {number arguments} (new : client.subscriptions number = none)
      : Move client (.subscribe number arguments)
          ({ client with
              activeSubscriptions :=
                client.activeSubscriptions.insert arguments.subscriptionId number }.enterLoop
            number { arguments })
  | stream {number event loop after} (found : client.subscriptions number = some loop)
      (moved : client.callEvent number loop event = some after)
      : Move client (.stream number event) after
  | wakeSubscription {number loop} (found : client.subscriptions number = some loop)
      (phase : loop.phase = .sleeping)
      : Move client (.wakeSubscription number)
          (client.reconnect.setSubscription number { loop with phase := .looping })
  | loopSubscription {number loop} (found : client.subscriptions number = some loop)
      (phase : loop.phase = .looping)
      : Move client (.loopSubscription number) (client.enterLoop number loop)
  | unsubscribe {subscriptionId pause}
      : Move client (.unsubscribe subscriptionId pause) (client.unsubscribe subscriptionId pause)
  | close : Move client .close client.close

theorem move_of_step {action : Action Request Response}
    (taken : client.step action = some after)
    : client.Move action after := by
  cases action with
  | invoke | subscribe =>
      simp only [step] at taken
      split at taken <;> cases taken
      constructor
      assumption
  | respond number settlement =>
      simp only [step] at taken
      split at taken <;> cases taken
      cases settlement with
      | resolved response => exact .resolve ‹_›
      | rejected error => exact .reject ‹_›
  | proceed | wake | loop =>
      simp only [step] at taken
      split at taken <;> cases taken
      constructor
      assumption
  | stream number event =>
      simp only [step] at taken
      split at taken
      · exact .stream ‹_› taken
      · cases taken
  | wakeSubscription | loopSubscription =>
      simp only [step] at taken
      split at taken
      · split at taken <;> cases taken
        constructor <;> assumption
      · cases taken
  | unsubscribe | close =>
      cases taken
      constructor

theorem foldl_deactivate_eq (numbers : List Nat) (client : NodeClient Request Response)
    : ∃ subscriptions, numbers.foldl deactivate client = { client with subscriptions } := by
  induction numbers generalizing client with
  | nil => exact ⟨client.subscriptions, rfl⟩
  | cons number rest ih =>
      obtain ⟨subscriptions, is⟩ := ih (client.deactivate number)
      refine ⟨subscriptions, is.trans ?_⟩
      unfold deactivate
      split <;> rfl

/-- Moving the connection on concerns nothing but the subscriptions. -/
theorem withConnection_eq (client : NodeClient Request Response) (connection : NodeConnection)
    : ∃ subscriptions activeSubscriptions,
        client.withConnection connection
        = { client with connection, subscriptions, activeSubscriptions } := by
  unfold withConnection dropSubscriptions
  split
  · exact ⟨client.subscriptions, client.activeSubscriptions, rfl⟩
  · dsimp only
    obtain ⟨subscriptions, is⟩ := foldl_deactivate_eq
      (client.activeSubscriptions.keys.filterMap client.activeSubscriptions.lookup) client
    rw [is]
    exact ⟨subscriptions, ∅, rfl⟩

@[simp] theorem connection_withConnection (client : NodeClient Request Response)
    (connection : NodeConnection)
    : (client.withConnection connection).connection = connection := by
  obtain ⟨_, _, is⟩ := client.withConnection_eq connection
  rw [is]

@[simp] theorem calls_withConnection (client : NodeClient Request Response)
    (connection : NodeConnection)
    : (client.withConnection connection).calls = client.calls := by
  obtain ⟨_, _, is⟩ := client.withConnection_eq connection
  rw [is]

/-- The calls a step may make: none but `unsubscribe` on a closed client, and all of them on
the current gRPC client.
-/
def Allowed (connection : NodeConnection) : ClientCall Request → Prop
  | .operation _ client _ | .stream _ client _ =>
      connection.closed = false ∧ client = connection.client
  | .unsubscribe client _ _ => client = connection.client

/-- The moves and calls of one step. -/
structure Effect (client after : NodeClient Request Response) : Prop where
  moves : Moves client.connection after.connection
  calls
    : ∃ issued,
        after.calls = client.calls ++ issued ∧ ∀ call ∈ issued, Allowed client.connection call

/-- A step that makes no call. -/
structure Silent (client after : NodeClient Request Response) : Prop where
  moves : Moves client.connection after.connection
  calls : after.calls = client.calls

theorem Silent.effect (silent : Silent client after) : Effect client after :=
  ⟨silent.moves, [], by rw [silent.calls, List.append_nil], by simp⟩

theorem Silent.quiet (connection : after.connection = client.connection)
    (calls : after.calls = client.calls)
    : Silent client after :=
  ⟨by rw [connection], calls⟩

theorem silent_setConnectionState (client : NodeClient Request Response)
    (state : ReconnectionState) (error : Option NodeError)
    : Silent client (client.setConnectionState state error) := by
  refine ⟨?_, client.calls_withConnection _⟩
  rw [setConnectionState, connection_withConnection]
  exact Moves.sets client.connection state error

theorem Silent.trans {middle : NodeClient Request Response} (first : Silent client middle)
    (second : Silent middle after)
    : Silent client after :=
  ⟨first.moves.trans second.moves, second.calls.trans first.calls⟩

theorem effect_retry (client : NodeClient Request Response) (number : Nat)
    (request : Request) (attempt : Nat)
    : Effect client (client.retry number request attempt) := by
  unfold retry
  split
  · have silent : Silent client (client.setPhase number request .threwClosed) := .quiet rfl rfl
    exact silent.effect
  · rename_i running
    refine ⟨.refl, [.operation number client.connection.client request], rfl, ?_⟩
    simpa [Allowed] using running

theorem effect_enterLoop {registered : NodeClient Request Response}
    (connection : registered.connection = client.connection)
    (calls : registered.calls = client.calls) (number : Nat) (loop : SubscriptionLoop)
    : Effect client (registered.enterLoop number loop) := by
  unfold enterLoop
  split
  · have silent : Silent client (registered.endSubscription number loop) :=
      .quiet connection calls
    exact silent.effect
  · rename_i running
    refine ⟨by rw [← connection]; exact .refl,
      [.stream number registered.connection.client loop.request], ?_, ?_⟩
    · rw [← calls]
      rfl
    · have opened : client.connection.closed = false := by
        rw [not_or, Bool.not_eq_true, connection] at running
        exact running.1
      simp [Allowed, opened, connection]

theorem silent_settle (client : NodeClient Request Response) (number : Nat)
    (request : Request) (attempt : Nat) (settlement : Settlement Response)
    : Silent client (client.settle number request attempt settlement) := by
  cases settlement with
  | resolved response => exact .quiet rfl rfl
  | rejected error =>
      unfold settle
      dsimp only
      split
      · exact .quiet rfl rfl
      · have reconnecting := client.silent_setConnectionState .reconnecting (some error)
        split
        · have failed := reconnecting.trans (silent_setConnectionState _ .failed (some error))
          exact ⟨failed.moves, failed.calls⟩
        · exact ⟨reconnecting.moves, reconnecting.calls⟩

/-- At most, an event sets the state to Connected. -/
theorem onEvent_eq (client : NodeClient Request Response) (event : CallEvent)
    : client.onEvent event = client.setConnectionState .connected none
      ∨ client.onEvent event = client := by
  cases event with
  | data event =>
      by_cases message : (NodeSubscription.received event).isSome
      · exact .inl (if_pos message)
      · exact .inr (if_neg message)
  | ended | error | pull | run | resume => exact .inr rfl

theorem silent_onEvent (client : NodeClient Request Response) (event : CallEvent)
    : Silent client (client.onEvent event) := by
  rcases client.onEvent_eq event with connected | same
  · rw [connected]
    exact client.silent_setConnectionState .connected none
  · rw [same]
    exact .quiet rfl rfl

theorem silent_afterStream {moved : NodeClient Request Response} (silent : Silent client moved)
    (number : Nat) (loop : SubscriptionLoop)
    : Silent client (moved.afterStream number loop) := by
  have ended : Silent client (moved.endSubscription number loop) := ⟨silent.moves, silent.calls⟩
  unfold afterStream
  split
  · exact ended
  · rename_i error _
    have noted
      : Silent client
          (moved.setSubscription number { loop with isResuming := true, phase := .sleeping }) :=
      ⟨silent.moves, silent.calls⟩
    have later : Silent client (moved.resumeLater number loop error) :=
      noted.trans (silent_setConnectionState _ .reconnecting (some error))
    split
    · exact ended
    · split
      · exact later
      · split
        · exact ended
        · exact later

theorem silent_leaveStream {moved : NodeClient Request Response} (silent : Silent client moved)
    (number : Nat)
    : Silent client (moved.leaveStream number) := by
  unfold leaveStream
  split
  · exact silent
  · exact silent_afterStream silent number _

theorem silent_callEvent {number : Nat} {loop : SubscriptionLoop} {event : CallEvent}
    (taken : client.callEvent number loop event = some after)
    : Silent client after := by
  unfold callEvent at taken
  split at taken
  · obtain ⟨bridge, _, rfl⟩ := Option.map_eq_some_iff.mp taken
    have moved
      : Silent client (client.setSubscription number { noteError loop event with bridge }) :=
      .quiet rfl rfl
    have silent := moved.trans (silent_onEvent _ event)
    dsimp only
    split
    · exact silent_leaveStream silent number
    · exact silent
  all_goals
    split at taken
    · cases taken
      exact .quiet rfl rfl
    all_goals cases taken

theorem deactivate_connection (client : NodeClient Request Response) (number : Nat)
    : (client.deactivate number).connection = client.connection
      ∧ (client.deactivate number).calls = client.calls := by
  unfold deactivate
  split <;> exact ⟨rfl, rfl⟩

theorem effect_unsubscribe (client : NodeClient Request Response)
    (subscriptionId : ByteString) (pause : Bool)
    : Effect client (client.unsubscribe subscriptionId pause) := by
  have issued
    : ∀ call
        ∈ ([.unsubscribe client.connection.client subscriptionId pause]
          : List (ClientCall Request)),
        Allowed client.connection call := by
    simp [Allowed]
  unfold unsubscribe
  dsimp only
  split
  · exact ⟨.refl, _, rfl, issued⟩
  · rename_i number _
    obtain ⟨connection, calls⟩ := client.deactivate_connection number
    refine ⟨?_, _, ?_, issued⟩
    · simp only [record, connection]
      exact .refl
    · simp only [record, calls]

/-- Calls are made at the head of `withRetry`'s loop, at the head of a subscription's loop and by
`unsubscribe`; all other steps are silent.
-/
theorem silent_of_step {action : Action Request Response}
    (taken : client.step action = some after)
    : Silent client after
      ∨ (∃ number request attempt, after = client.retry number request attempt)
      ∨ (∃ number arguments,
          action = .subscribe number arguments
          ∧ client.subscriptions number = none
          ∧ after
            = { client with
                activeSubscriptions :=
                  client.activeSubscriptions.insert arguments.subscriptionId number }.enterLoop
                number { arguments })
      ∨ (∃ number loop,
          action = .loopSubscription number
          ∧ client.subscriptions number = some loop
          ∧ loop.phase = .looping
          ∧ after = client.enterLoop number loop)
      ∨ ∃ subscriptionId pause, after = client.unsubscribe subscriptionId pause := by
  cases move_of_step taken with
  | @invoke number request new => exact .inr (.inl ⟨number, request, 0, rfl⟩)
  | resolve =>
      have silent := client.silent_setConnectionState .connected none
      exact .inl ⟨silent.moves, silent.calls⟩
  | reject => exact .inl (.quiet rfl rfl)
  | settle => exact .inl (client.silent_settle _ _ _ _)
  | wake | wakeSubscription => exact .inl ⟨.single (.reconnects _), rfl⟩
  | @loop number request attempt stood => exact .inr (.inl ⟨number, request, attempt, rfl⟩)
  | @subscribe number arguments new =>
      exact .inr (.inr (.inl ⟨number, arguments, rfl, new, rfl⟩))
  | stream found moved => exact .inl (silent_callEvent moved)
  | @loopSubscription number loop found phase =>
      exact .inr (.inr (.inr (.inl ⟨number, loop, rfl, found, phase, rfl⟩)))
  | @unsubscribe subscriptionId pause =>
      exact .inr (.inr (.inr (.inr ⟨subscriptionId, pause, rfl⟩)))
  | close =>
      refine .inl ⟨?_, client.calls_withConnection _⟩
      rw [close, connection_withConnection]
      exact .single (.closes _)

theorem effect_step {action : Action Request Response}
    (taken : client.step action = some after)
    : Effect client after := by
  rcases silent_of_step taken with
    silent | ⟨number, request, attempt, rfl⟩ | ⟨number, arguments, _, _, rfl⟩
    | ⟨number, loop, _, _, _, rfl⟩ | ⟨subscriptionId, pause, rfl⟩
  · exact silent.effect
  · exact client.effect_retry number request attempt
  · apply effect_enterLoop <;> rfl
  · exact effect_enterLoop rfl rfl number loop
  · exact client.effect_unsubscribe subscriptionId pause

-----------------------------------------------------------------------------------------
-- Runs
-----------------------------------------------------------------------------------------

/-- A client as its constructor leaves it, with the callbacks registered. -/
def create (Request Response : Type) (maxRetries : Nat) (gapCallbacks : List Nat)
    (callbacks : StateCallbacks)
    : NodeClient Request Response :=
  { maxRetries, gapCallbacks, connection := { callbacks } }

variable {maxRetries : Nat} {gapCallbacks : List Nat} {callbacks : StateCallbacks}
  {actions : List (Action Request Response)}

theorem connection_of_exec
    (run
      : exec step (create Request Response maxRetries gapCallbacks callbacks) actions
        = some client)
    : Moves { callbacks } client.connection := by
  refine exec_always (fun client => Moves { callbacks } client.connection) .refl ?_ run
  intro before action later moves taken
  exact moves.trans (effect_step taken).moves

/-- Whatever the calls do and whichever callbacks close the client when they are told of a
change, each callback is told of every change once. It hears of them in the order they are made
if no callback before it closes the client meanwhile; so the first one always does.
-/
theorem announced_of_exec
    (run
      : exec step (create Request Response maxRetries gapCallbacks callbacks) actions
        = some client)
    : client.connection.Announced ∧ client.connection.callbacks = callbacks := by
  have moves := connection_of_exec run
  refine ⟨moves.invariant NodeConnection.Announced.primitive ?_,
    moves.invariant NodeConnection.Primitive.callbacks rfl⟩
  exact ⟨List.isChain_singleton _, rfl, fun _ _ => .refl _, fun _ _ _ => rfl⟩

theorem oneOpen_of_exec
    (run
      : exec step (create Request Response maxRetries gapCallbacks callbacks) actions
        = some client)
    : client.connection.OneOpen := by
  refine (connection_of_exec run).invariant NodeConnection.OneOpen.primitive ?_
  exact ⟨by simp, by simp, by simp⟩

/-- The gRPC client a call is made on. -/
def calledOn : ClientCall Request → Nat
  | .operation _ client _ | .stream _ client _ | .unsubscribe client _ _ => client

def isUnsubscribe : ClientCall Request → Bool
  | .unsubscribe _ _ _ => true
  | .operation _ _ _ | .stream _ _ _ => false

/-- However reconnections of different calls overlap, at most one gRPC client is open at a
time, and every call but an `unsubscribe` is made on it.
-/
theorem calls_onOpenClient_of_exec
    (run
      : exec step (create Request Response maxRetries gapCallbacks callbacks) actions
        = some client)
    {action : Action Request Response} (taken : client.step action = some after)
    : client.connection.openClients.length ≤ 1
      ∧ ∃ issued,
          after.calls = client.calls ++ issued
          ∧ ∀ call ∈ issued,
              isUnsubscribe call = false
              → client.connection.openClients = [calledOn call] := by
  have one := oneOpen_of_exec run
  have few : client.connection.openClients.length ≤ 1 := by
    have inside : client.connection.openClients ⊆ [client.connection.client] := by
      intro opened member
      simp [one.others opened member]
    exact (List.subperm_of_subset one.once inside).length_le
  refine ⟨few, ?_⟩
  obtain ⟨issued, calls, allowed⟩ := (effect_step taken).calls
  refine ⟨issued, calls, ?_⟩
  intro call member counts
  have may := allowed call member
  cases call with
  | operation number target request | stream number target request =>
      obtain ⟨running, rfl⟩ := may
      exact one.openClients_eq running
  | unsubscribe => cases counts

theorem closed_of_exec (closed : client.connection.closed = true)
    (run : exec step client actions = some after)
    : after.connection.closed = true := by
  refine exec_always (fun client => client.connection.closed = true) closed ?_ run
  intro before action later closed taken
  exact (effect_step taken).moves.invariant NodeConnection.Primitive.closed closed

/-- Once the client is closed, its operations and subscriptions make no more calls, wherever
they were when it was closed.
-/
theorem silent_of_closed (closed : client.connection.closed = true)
    (run : exec step client actions = some after)
    : ∃ issued,
        after.calls = client.calls ++ issued ∧ ∀ call ∈ issued, isUnsubscribe call = true := by
  refine exec_induction
    (motive := fun _ after =>
      ∃ issued,
        after.calls = client.calls ++ issued
        ∧ ∀ call ∈ issued, isUnsubscribe call = true)
    ⟨[], by simp, by simp⟩ ?_ run
  intro actions before action later reached ih taken
  obtain ⟨earlier, calls, quiet⟩ := ih
  obtain ⟨issued, added, allowed⟩ := (effect_step taken).calls
  refine ⟨earlier ++ issued, by rw [added, calls, List.append_assoc], ?_⟩
  rw [List.forall_mem_append]
  refine ⟨quiet, ?_⟩
  intro call member
  have may := allowed call member
  cases call with
  | operation number target request | stream number target request =>
      have stays := closed_of_exec closed reached
      exact absurd (stays.symm.trans may.1) (by simp)
  | unsubscribe => rfl

def unavailable : NodeError := { code := .unavailable }

/-- Two operations lose the connection, reconnect after each other and are answered; a third
one sleeps when the client is closed.
-/
def overlappingRetries : List (Action Nat Nat) :=
  [ .invoke 0 7, .invoke 1 8,
    .respond 0 (.rejected unavailable), .proceed 0,
    .respond 1 (.rejected unavailable), .proceed 1,
    .wake 0, .wake 1, .loop 0, .loop 1,
    .respond 0 (.resolved 1), .proceed 0, .respond 1 (.resolved 2), .proceed 1,
    .invoke 2 9, .respond 2 (.rejected unavailable), .proceed 2 ]

/-- The first of two callbacks closes the client when it is told of the reconnection, and the
second one hears of the disconnection first.
-/
theorem announced_closedByCallback
    : ∃ client : NodeClient Nat Nat,
        exec step (create Nat Nat 3 [] { registered := 2, closing := [0] })
            (overlappingRetries.take 4)
          = some client
        ∧ client.connection.notified
          = [(.reconnecting, some unavailable), (.disconnected, none)]
        ∧ heardBy 0 client.connection.told = client.connection.notified
        ∧ heardBy 1 client.connection.told
          = [(.disconnected, none), (.reconnecting, some unavailable)]
        ∧ client.connection.Announced := by
  have runs
    : ∃ client : NodeClient Nat Nat,
        exec step (create Nat Nat 3 [] { registered := 2, closing := [0] })
            (overlappingRetries.take 4)
          = some client
        ∧ client.connection.notified
          = [(.reconnecting, some unavailable), (.disconnected, none)]
        ∧ heardBy 1 client.connection.told
          = [(.disconnected, none), (.reconnecting, some unavailable)] :=
    ⟨_, rfl, rfl, rfl⟩
  obtain ⟨client, run, notified, second⟩ := runs
  obtain ⟨announced, callbacks⟩ := announced_of_exec run
  have registered : 0 < client.connection.callbacks.registered := by
    rw [callbacks]
    decide
  refine ⟨client, run, notified, announced.inOrder 0 registered ?_, second, announced⟩
  exact fun _ _ call _ => Nat.zero_le call.1

/-- The first of the two reconnections closes the gRPC client of the other operation, and the
second one closes that of the first. Both go on with the third gRPC client.
-/
theorem calls_onOpenClient_overlappingRetries
    : ∃ client after : NodeClient Nat Nat,
        exec step (create Nat Nat 3 [] {}) (overlappingRetries.take 8) = some client
        ∧ client.step (.loop 0) = some after
        ∧ after.calls = client.calls ++ [.operation 0 2 7]
        ∧ client.connection.openClients = [2] := by
  have runs
    : ∃ client after : NodeClient Nat Nat,
        exec step (create Nat Nat 3 [] {}) (overlappingRetries.take 8) = some client
        ∧ client.step (.loop 0) = some after
        ∧ after.calls = client.calls ++ [.operation 0 2 7] :=
    ⟨_, _, rfl, rfl, rfl⟩
  obtain ⟨client, after, run, taken, made⟩ := runs
  obtain ⟨_, issued, calls, onOpen⟩ := calls_onOpenClient_of_exec run taken
  obtain rfl : issued = [.operation 0 2 7] := List.append_cancel_left (calls.symm.trans made)
  exact ⟨client, after, run, taken, made, onOpen _ (List.mem_singleton_self _) rfl⟩

/-- The sleeping operation reconnects after all, and makes no call. -/
theorem silent_overlappingRetries
    : ∃ client after : NodeClient Nat Nat,
        client.connection.closed = true
        ∧ exec step client [.wake 2, .loop 2, .invoke 3 5] = some after
        ∧ client.connection.openClients = []
        ∧ after.connection.openClients = [3]
        ∧ ∃ issued,
            after.calls = client.calls ++ issued
            ∧ ∀ call ∈ issued, isUnsubscribe call = true := by
  have runs
    : ∃ client after : NodeClient Nat Nat,
        exec step (create Nat Nat 3 [] {}) (overlappingRetries ++ [.close]) = some client
        ∧ exec step client [.wake 2, .loop 2, .invoke 3 5] = some after
        ∧ client.connection.closed = true
        ∧ client.connection.openClients = []
        ∧ after.connection.openClients = [3] :=
    ⟨_, _, rfl, rfl, rfl, rfl, rfl⟩
  obtain ⟨client, after, _, run, closed, before, later⟩ := runs
  exact ⟨client, after, closed, run, before, later, silent_of_closed closed run⟩

end NodeClient

end NexusD.Clients
