import NexusD.Clients.NodeConnections

/-! What one `publish`, `getTopics` or `getPeers` of the Node client costs.
`withRetry` counts its failures. The RPCs it has made are one more than that while one of them
is under way, and with a limit on the retries it gives up with the last one it may make.
-/

namespace NexusD.Clients

open NexusD.Core NexusD.Services
open NexusD.Library

/-- Notifications are never taken back. -/
theorem NodeConnection.Primitive.notified {before after : NodeConnection}
    (moved : Primitive before after)
    : before.notified <+: after.notified := by
  cases moved with
  | sets state error => exact before.notified_setConnectionState state error
  | reconnects => exact List.prefix_rfl
  | closes =>
      rw [close_eq]
      exact before.shut.notified_setConnectionState .disconnected none

theorem NodeConnection.Moves.notified {before after : NodeConnection}
    (moves : Moves before after)
    : before.notified <+: after.notified := by
  induction moves with
  | refl => exact List.prefix_rfl
  | tail _ last ih => exact ih.trans last.notified

namespace NodeClient

variable {Request Response : Type} {client after : NodeClient Request Response}

/-- The requests of one operation's RPCs. -/
def requestsOf (number : Nat) (calls : List (ClientCall Request)) : List Request :=
  calls.filterMap (fun call =>
    match call with
    | .operation other _ request => if other = number then some request else none
    | .stream _ _ _ | .unsubscribe _ _ _ => none)

theorem requestsOf_operation (number : Nat) (calls : List (ClientCall Request))
    (other target : Nat) (request : Request)
    : requestsOf number (calls ++ [.operation other target request])
      = requestsOf number calls ++ if other = number then [request] else [] := by
  unfold requestsOf
  rw [List.filterMap_append]
  split <;> simp_all

theorem requestsOf_stream (number : Nat) (calls : List (ClientCall Request))
    (other target : Nat) (request : NodeStreamRequest)
    : requestsOf number (calls ++ [.stream other target request])
      = requestsOf number calls := by
  simp [requestsOf]

theorem requestsOf_unsubscribe (number : Nat) (calls : List (ClientCall Request))
    (target : Nat) (subscriptionId : ByteString) (pause : Bool)
    : requestsOf number (calls ++ [.unsubscribe target subscriptionId pause])
      = requestsOf number calls := by
  simp [requestsOf]

/-- What a step does to the operations. -/
inductive OperationStep (client after : NodeClient Request Response) : Prop
  | rests (operations : after.operations = client.operations)
      (calls : ∀ number, requestsOf number after.calls = requestsOf number client.calls)
  | begins {number : Nat} {request : Request} (new : client.operations number = none)
      (is : after = client.retry number request 0)
  | loops {number attempt : Nat} {request : Request}
      (stood : client.operations number = some ⟨request, .looping attempt⟩)
      (is : after = client.retry number request attempt)
  | answers {number attempt : Nat} {request : Request} {settlement : Settlement Response}
      (stood : client.operations number = some ⟨request, .waiting attempt⟩)
      (operations
        : after.operations
          = Function.update client.operations number
              (some ⟨request, .settled attempt settlement⟩))
      (calls : after.calls = client.calls)
  | settles {number attempt : Nat} {request : Request} {settlement : Settlement Response}
      (stood : client.operations number = some ⟨request, .settled attempt settlement⟩)
      (is : after = client.settle number request attempt settlement)
  | wakes {number attempt : Nat} {request : Request}
      (stood : client.operations number = some ⟨request, .sleeping attempt⟩)
      (operations
        : after.operations
          = Function.update client.operations number (some ⟨request, .looping attempt⟩))
      (calls : after.calls = client.calls)

/-- Subscriptions leave the operations, their calls and the limit alone. -/
structure Apart (client after : NodeClient Request Response) : Prop where
  operations : after.operations = client.operations
  calls : ∀ number, requestsOf number after.calls = requestsOf number client.calls
  maxRetries : after.maxRetries = client.maxRetries

theorem Apart.refl (client : NodeClient Request Response) : Apart client client :=
  ⟨rfl, fun _ => rfl, rfl⟩

theorem Apart.trans {middle : NodeClient Request Response} (first : Apart client middle)
    (second : Apart middle after)
    : Apart client after :=
  ⟨second.operations.trans first.operations,
    fun number => (second.calls number).trans (first.calls number),
    second.maxRetries.trans first.maxRetries⟩

theorem apart_withConnection (client : NodeClient Request Response)
    (connection : NodeConnection)
    : Apart client (client.withConnection connection) := by
  obtain ⟨_, _, is⟩ := client.withConnection_eq connection
  rw [is]
  exact ⟨rfl, fun _ => rfl, rfl⟩

theorem apart_setConnectionState (client : NodeClient Request Response)
    (state : ReconnectionState) (error : Option NodeError)
    : Apart client (client.setConnectionState state error) :=
  client.apart_withConnection _

theorem apart_enterLoop {registered : NodeClient Request Response}
    (apart : Apart client registered) (number : Nat) (loop : SubscriptionLoop)
    : Apart client (registered.enterLoop number loop) := by
  unfold enterLoop
  split
  · exact ⟨apart.operations, apart.calls, apart.maxRetries⟩
  · refine ⟨apart.operations, ?_, apart.maxRetries⟩
    intro other
    exact (requestsOf_stream other _ _ _ _).trans (apart.calls other)

theorem apart_onEvent (client : NodeClient Request Response) (event : CallEvent)
    : Apart client (client.onEvent event) := by
  rcases client.onEvent_eq event with connected | same
  · rw [connected]
    exact client.apart_setConnectionState .connected none
  · rewrite [same]
    exact .refl client

theorem apart_afterStream {moved : NodeClient Request Response} (apart : Apart client moved)
    (number : Nat) (loop : SubscriptionLoop)
    : Apart client (moved.afterStream number loop) := by
  have ended : Apart client (moved.endSubscription number loop) :=
    ⟨apart.operations, apart.calls, apart.maxRetries⟩
  unfold afterStream
  split
  · exact ended
  · rename_i error _
    have noted
      : Apart client
          (moved.setSubscription number { loop with isResuming := true, phase := .sleeping }) :=
      ⟨apart.operations, apart.calls, apart.maxRetries⟩
    have later : Apart client (moved.resumeLater number loop error) :=
      noted.trans (apart_setConnectionState _ .reconnecting (some error))
    split
    · exact ended
    · split
      · exact later
      · split
        · exact ended
        · exact later

theorem apart_callEvent {number : Nat} {loop : SubscriptionLoop} {event : CallEvent}
    (taken : client.callEvent number loop event = some after)
    : Apart client after := by
  unfold callEvent at taken
  split at taken
  · obtain ⟨bridge, _, rfl⟩ := Option.map_eq_some_iff.mp taken
    have moved
      : Apart client (client.setSubscription number { noteError loop event with bridge }) :=
      ⟨rfl, fun _ => rfl, rfl⟩
    have apart := moved.trans (apart_onEvent _ event)
    dsimp only
    split
    · unfold leaveStream
      split
      · exact apart
      · exact apart_afterStream apart number _
    · exact apart
  all_goals
    split at taken
    · cases taken
      exact ⟨rfl, fun _ => rfl, rfl⟩
    all_goals cases taken

theorem apart_deactivate (client : NodeClient Request Response) (number : Nat)
    : Apart client (client.deactivate number) := by
  unfold deactivate
  split <;> exact ⟨rfl, fun _ => rfl, rfl⟩

theorem apart_unsubscribe (client : NodeClient Request Response)
    (subscriptionId : ByteString) (pause : Bool)
    : Apart client (client.unsubscribe subscriptionId pause) := by
  unfold unsubscribe
  dsimp only
  split
  · exact ⟨rfl, fun other => requestsOf_unsubscribe other _ _ _ _, rfl⟩
  · rename_i number _
    have apart := client.apart_deactivate number
    refine ⟨apart.operations, ?_, apart.maxRetries⟩
    intro other
    exact (requestsOf_unsubscribe other _ _ _ _).trans (apart.calls other)

theorem maxRetries_retry (client : NodeClient Request Response) (number : Nat)
    (request : Request) (attempt : Nat)
    : (client.retry number request attempt).maxRetries = client.maxRetries := by
  unfold retry
  split <;> rfl

theorem maxRetries_settle (client : NodeClient Request Response) (number : Nat)
    (request : Request) (attempt : Nat) (settlement : Settlement Response)
    : (client.settle number request attempt settlement).maxRetries = client.maxRetries := by
  cases settlement with
  | resolved response => rfl
  | rejected error =>
      have reconnecting := client.apart_setConnectionState .reconnecting (some error)
      unfold settle
      dsimp only
      split
      · rfl
      · split
        · exact (reconnecting.trans (apart_setConnectionState _ .failed (some error))).maxRetries
        · exact reconnecting.maxRetries

theorem operationStep_of_step {action : Action Request Response}
    (taken : client.step action = some after)
    : OperationStep client after ∧ after.maxRetries = client.maxRetries := by
  have rests (apart : Apart client after)
      : OperationStep client after ∧ after.maxRetries = client.maxRetries :=
    ⟨.rests apart.operations apart.calls, apart.maxRetries⟩
  cases move_of_step taken with
  | invoke new => exact ⟨.begins new rfl, client.maxRetries_retry _ _ _⟩
  | @resolve number request attempt response stood =>
      have apart := client.apart_setConnectionState .connected none
      have operations
        : ((client.setConnectionState .connected none).setPhase number request
            (.settled attempt (.resolved response))).operations
          = Function.update client.operations number
              (some ⟨request, .settled attempt (.resolved response)⟩) := by
        simp only [setPhase, apart.operations]
      exact ⟨.answers stood operations (client.calls_withConnection _), apart.maxRetries⟩
  | reject stood => exact ⟨.answers stood rfl rfl, rfl⟩
  | settle stood => exact ⟨.settles stood rfl, client.maxRetries_settle _ _ _ _⟩
  | wake stood => exact ⟨.wakes stood rfl rfl, rfl⟩
  | loop stood => exact ⟨.loops stood rfl, client.maxRetries_retry _ _ _⟩
  | subscribe =>
      refine rests (apart_enterLoop ?_ _ _)
      exact ⟨rfl, fun _ => rfl, rfl⟩
  | stream found moved => exact rests (apart_callEvent moved)
  | wakeSubscription => exact rests ⟨rfl, fun _ => rfl, rfl⟩
  | loopSubscription => exact rests (apart_enterLoop (.refl client) _ _)
  | unsubscribe => exact rests (client.apart_unsubscribe _ _)
  | close => exact rests (client.apart_withConnection _)

-----------------------------------------------------------------------------------------
-- The budget
-----------------------------------------------------------------------------------------

/-- How many RPCs an operation has made, by where it is. -/
def Spent (maxRetries spent : Nat) : RetryPhase Response → Prop
  | .looping attempt | .sleeping attempt =>
      spent = attempt ∧ (0 < maxRetries → attempt < maxRetries)
  | .waiting attempt | .settled attempt _ =>
      spent = attempt + 1 ∧ (0 < maxRetries → attempt < maxRetries)
  | .returned _ | .threwClosed => 0 < maxRetries → spent ≤ maxRetries
  | .threw error =>
      (0 < maxRetries → spent ≤ maxRetries)
      ∧ (error.isConnectionError = true → 0 < maxRetries ∧ spent = maxRetries)

theorem Spent.le {maxRetries spent : Nat} {phase : RetryPhase Response}
    (budget : Spent maxRetries spent phase) (limited : 0 < maxRetries)
    : spent ≤ maxRetries := by
  cases phase with
  | looping | sleeping =>
      have below := budget.2 limited
      have is := budget.1
      omega
  | waiting | settled =>
      have below := budget.2 limited
      have is := budget.1
      omega
  | returned | threwClosed => exact budget limited
  | threw error => exact budget.1 limited

/-- The books of one operation: its RPCs all carry its request, and it tells the callbacks when
it gives up.
-/
structure Books (client : NodeClient Request Response) (number : Nat)
    (operation : Operation Request Response)
    : Prop where
  requests
    : ∃ spent,
        requestsOf number client.calls = List.replicate spent operation.request
        ∧ Spent client.maxRetries spent operation.phase
  gaveUp
    : ∀ error,
        operation.phase = .threw error
        → error.isConnectionError = true
        → (.failed, some error) ∈ client.connection.notified

/-- Every operation has its books, and no other number has made a call. -/
structure Accounted (client : NodeClient Request Response) : Prop where
  books
    : ∀ number operation,
        client.operations number = some operation → Books client number operation
  unused : ∀ number, client.operations number = none → requestsOf number client.calls = []

theorem Books.later {number : Nat} {operation : Operation Request Response}
    (books : Books client number operation) (maxRetries : after.maxRetries = client.maxRetries)
    (calls : requestsOf number after.calls = requestsOf number client.calls)
    (notified : client.connection.notified <+: after.connection.notified)
    : Books after number operation := by
  obtain ⟨requests, gaveUp⟩ := books
  refine ⟨by rwa [calls, maxRetries], ?_⟩
  intro error phase lost
  exact notified.subset (gaveUp error phase lost)

/-- One operation has moved, and the others keep their books. -/
theorem Accounted.moved (accounted : client.Accounted) {number : Nat}
    {operation : Operation Request Response}
    (maxRetries : after.maxRetries = client.maxRetries)
    (notified : client.connection.notified <+: after.connection.notified)
    (operations : after.operations = Function.update client.operations number (some operation))
    (others
      : ∀ other,
          other ≠ number → requestsOf other after.calls = requestsOf other client.calls)
    (books : Books after number operation)
    : after.Accounted where
  books other found is := by
    rw [operations, Function.update_apply] at is
    split at is
    · rename_i same
      cases is
      rw [same]
      exact books
    · rename_i different
      exact (accounted.books other found is).later maxRetries (others other different) notified
  unused other is := by
    rw [operations, Function.update_apply] at is
    split at is
    · cases is
    · rename_i different
      rw [others other different]
      exact accounted.unused other is

/-- The head of the loop, after as many RPCs as failures. -/
theorem Accounted.retry (accounted : client.Accounted) {number attempt : Nat}
    {request : Request}
    (requests : requestsOf number client.calls = List.replicate attempt request)
    (within : 0 < client.maxRetries → attempt < client.maxRetries)
    : (client.retry number request attempt).Accounted := by
  unfold NodeClient.retry
  split
  · refine accounted.moved rfl List.prefix_rfl rfl (fun _ _ => rfl) ⟨?_, by simp⟩
    exact ⟨attempt, requests, fun limited => (within limited).le⟩
  · refine accounted.moved rfl List.prefix_rfl rfl ?_ ⟨?_, by simp⟩
    · intro other different
      refine (requestsOf_operation other _ _ _ _).trans ?_
      rw [if_neg different.symm, List.append_nil]
      rfl
    · refine ⟨attempt + 1, ?_, rfl, within⟩
      refine (requestsOf_operation number _ _ _ _).trans ?_
      rw [if_pos rfl, List.replicate_succ']
      exact congrArg (· ++ [request]) requests

/-- An operation goes on to another phase without an RPC. -/
theorem Accounted.setPhase (accounted : client.Accounted) {moved : NodeClient Request Response}
    (apart : Apart client moved)
    (notified : client.connection.notified <+: moved.connection.notified) {number spent : Nat}
    {request : Request} {phase : RetryPhase Response}
    (requests : requestsOf number client.calls = List.replicate spent request)
    (budget : Spent client.maxRetries spent phase)
    (gaveUp
      : ∀ error,
          phase = .threw error
          → error.isConnectionError = true
          → (.failed, some error) ∈ moved.connection.notified)
    : (moved.setPhase number request phase).Accounted := by
  have operations
    : (moved.setPhase number request phase).operations
      = Function.update client.operations number (some ⟨request, phase⟩) := by
    simp only [NodeClient.setPhase, apart.operations]
  rw [← apart.maxRetries] at budget
  exact accounted.moved apart.maxRetries notified operations (fun other _ => apart.calls other)
    ⟨⟨spent, (apart.calls number).trans requests, budget⟩, gaveUp⟩

/-- Giving up is a change of the state, even if a callback has closed the client meanwhile. -/
theorem failed_notified (client : NodeClient Request Response) (error : NodeError)
    : (.failed, some error)
      ∈ ((client.setConnectionState .reconnecting (some error)).setConnectionState .failed
          (some error)).connection.notified := by
  simp only [setConnectionState, connection_withConnection]
  refine NodeConnection.mem_notified_setConnectionState ?_ (some error)
  rcases client.connection.state_setConnectionState .reconnecting (some error) with is | is <;>
    simp [is]

theorem Accounted.settle (accounted : client.Accounted) {number attempt : Nat}
    {request : Request} {settlement : Settlement Response}
    (stood : client.operations number = some ⟨request, .settled attempt settlement⟩)
    : (client.settle number request attempt settlement).Accounted := by
  obtain ⟨⟨spent, requests, is, within⟩, _⟩ := accounted.books number _ stood
  subst is
  cases settlement with
  | resolved response =>
      exact accounted.setPhase (.refl client) List.prefix_rfl requests within (by simp)
  | rejected error =>
      have reconnecting := client.apart_setConnectionState .reconnecting (some error)
      have moves := (client.silent_setConnectionState .reconnecting (some error)).moves
      unfold NodeClient.settle
      dsimp only
      by_cases lost : error.isConnectionError = true
      · rw [if_neg (by simp [lost])]
        split
        · rename_i finished
          have failed := reconnecting.trans (apart_setConnectionState _ .failed (some error))
          have later := (silent_setConnectionState
            (client.setConnectionState .reconnecting (some error)) .failed (some error)).moves
          have last := within finished.1
          refine accounted.setPhase failed (moves.notified.trans later.notified) requests ?_ ?_
          · exact ⟨fun _ => last, fun _ => ⟨finished.1, Nat.le_antisymm last finished.2⟩⟩
          · intro failure phase _
            cases phase
            exact client.failed_notified error
        · rename_i more
          refine accounted.setPhase reconnecting moves.notified requests ⟨rfl, ?_⟩ (by simp)
          intro limited
          exact Nat.lt_of_not_le (fun finished => more ⟨limited, finished⟩)
      · rw [if_pos (by simpa using lost)]
        refine accounted.setPhase (.refl client) List.prefix_rfl requests ?_ ?_
        · exact ⟨within, fun is => absurd is lost⟩
        · intro failure phase is
          cases phase
          exact absurd is lost

theorem Accounted.step (accounted : client.Accounted) {action : Action Request Response}
    (taken : client.step action = some after)
    : after.Accounted := by
  have notified := (effect_step taken).moves.notified
  obtain ⟨change, maxRetries⟩ := operationStep_of_step taken
  cases change with
  | rests operations calls =>
      refine ⟨?_, ?_⟩
      · intro number operation is
        rw [operations] at is
        exact (accounted.books number operation is).later maxRetries (calls number) notified
      · intro number is
        rw [operations] at is
        rw [calls]
        exact accounted.unused number is
  | @begins number request new is =>
      rw [is]
      exact accounted.retry (accounted.unused number new) (fun limited => limited)
  | @loops number attempt request stood is =>
      obtain ⟨⟨spent, requests, same, within⟩, _⟩ := accounted.books number _ stood
      subst same
      rw [is]
      exact accounted.retry requests within
  | @answers number attempt request settlement stood operations calls =>
      obtain ⟨⟨spent, requests, budget⟩, _⟩ := accounted.books number _ stood
      refine accounted.moved maxRetries notified operations (fun _ _ => by rw [calls])
        ⟨⟨spent, by rw [calls]; exact requests, by rw [maxRetries]; exact budget⟩, by simp⟩
  | @settles number attempt request settlement stood is =>
      rw [is]
      exact accounted.settle stood
  | @wakes number attempt request stood operations calls =>
      obtain ⟨⟨spent, requests, budget⟩, _⟩ := accounted.books number _ stood
      refine accounted.moved maxRetries notified operations (fun _ _ => by rw [calls])
        ⟨⟨spent, by rw [calls]; exact requests, by rw [maxRetries]; exact budget⟩, by simp⟩

/-- Each `publish`, `getTopics` or `getPeers` repeats one request. With a limit on the retries
it makes no more RPCs than that; if it throws a connection error, it has made exactly that many
and has announced the failure.
-/
theorem retries_bounded_of_exec {maxRetries : Nat} {gapCallbacks : List Nat}
    {callbacks : StateCallbacks} {actions : List (Action Request Response)}
    (run
      : exec step (create Request Response maxRetries gapCallbacks callbacks) actions
        = some client)
    {number : Nat} {operation : Operation Request Response}
    (found : client.operations number = some operation)
    : ∃ spent,
        requestsOf number client.calls = List.replicate spent operation.request
        ∧ (0 < maxRetries → spent ≤ maxRetries)
        ∧ ∀ error,
            operation.phase = .threw error
            → error.isConnectionError = true
            → 0 < maxRetries
              ∧ spent = maxRetries
              ∧ (.failed, some error) ∈ client.connection.notified := by
  have kept
    : client.Accounted ∧ client.maxRetries = maxRetries := by
    refine exec_always
      (fun client : NodeClient Request Response =>
        client.Accounted ∧ client.maxRetries = maxRetries) ⟨⟨?_, ?_⟩, rfl⟩ ?_ run
    · intro number operation is
      cases is
    · intro number is
      rfl
    · intro before action later kept taken
      exact ⟨kept.1.step taken, (operationStep_of_step taken).2.trans kept.2⟩
  obtain ⟨accounted, same⟩ := kept
  subst same
  obtain ⟨⟨spent, requests, budget⟩, gaveUp⟩ := accounted.books number operation found
  refine ⟨spent, requests, budget.le, ?_⟩
  intro error phase lost
  rw [phase] at budget
  exact ⟨(budget.2 lost).1, (budget.2 lost).2, gaveUp error phase lost⟩

/-- An operation that may try twice, and fails twice. -/
def exhaustedRetries : List (Action Nat Nat) :=
  [ .invoke 0 7, .respond 0 (.rejected unavailable), .proceed 0, .wake 0, .loop 0,
    .respond 0 (.rejected unavailable), .proceed 0 ]

theorem retries_bounded_exhaustedRetries
    : ∃ client : NodeClient Nat Nat,
        exec step (create Nat Nat 2 [] {}) exhaustedRetries = some client
        ∧ requestsOf 0 client.calls = [7, 7]
        ∧ (.failed, some unavailable) ∈ client.connection.notified := by
  have runs
    : ∃ client : NodeClient Nat Nat,
        exec step (create Nat Nat 2 [] {}) exhaustedRetries = some client
        ∧ client.operations 0 = some ⟨7, .threw unavailable⟩ :=
    ⟨_, rfl, rfl⟩
  obtain ⟨client, run, found⟩ := runs
  obtain ⟨spent, requests, _, gaveUp⟩ := retries_bounded_of_exec run found
  obtain ⟨_, rfl, announced⟩ := gaveUp unavailable rfl rfl
  exact ⟨client, run, requests, announced⟩

end NodeClient

end NexusD.Clients
