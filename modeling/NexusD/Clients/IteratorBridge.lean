import NexusD.Clients.GapDetection
import NexusD.Library.Execution

/-! From the events of a gRPC call to the Node client's asynchronous iterator.
A message reaches the consumer through the promise the generator waits for, or through a queue
when it does not wait. Handlers and the generator's segments between two suspensions run to
their end, so each is one step.
-/

namespace NexusD.Clients

open NexusD.Core NexusD.Services
open NexusD.Library

/-- Where the generator is, in the loop over one call. -/
inductive GeneratorPhase where
  /-- at a `yield`, or on the way to the head of the loop -/
  | suspended
  /-- at the `await`, the promise is pending -/
  | awaiting
  /-- the promise has its value, nothing for `done: true` -/
  | resolved (result : Option ReceivedMessage)
  /-- behind the loop -/
  | left
deriving DecidableEq, Repr

/-- The variables of `subscribe` for one call. -/
structure IteratorBridge where
  subscription : NodeSubscription
  messageQueue : List ReceivedMessage := []
  /-- `resolver` is not null -/
  resolver : Bool := false
  done : Bool := false
  streamError : Option String := none
  phase : GeneratorPhase := .suspended
  /-- calls of `next()` without an answer -/
  demand : Nat := 1
  /-- given to the consumer -/
  yielded : List ReceivedMessage := []
deriving DecidableEq, Repr

/-- What can happen next. -/
inductive BridgeAction where
  | data (event : MessageEvent)
  | ended
  | error (message : String)
  /-- the consumer calls `next()` -/
  | pull
  /-- the generator goes on from its `yield` -/
  | run
  /-- the generator goes on from its `await` -/
  | resume
deriving DecidableEq, Repr

/-- The call ends or fails. -/
def BridgeAction.closes : BridgeAction → Bool
  | .ended | .error _ => true
  | .data _ | .pull | .run | .resume => false

/-- The consumer and the generator, without the call. -/
def BridgeAction.consumes : BridgeAction → Bool
  | .pull | .run | .resume => true
  | .data _ | .ended | .error _ => false

namespace IteratorBridge

/-- The 'data' handler. -/
def onData (callbacks : List Nat) (bridge : IteratorBridge) (event : MessageEvent)
    : IteratorBridge :=
  let tracked := { bridge with subscription := bridge.subscription.onData callbacks event }
  match NodeSubscription.received event with
  | none => tracked
  | some message =>
      if bridge.resolver then
        { tracked with phase := .resolved (some message), resolver := false }
      else
        { tracked with messageQueue := bridge.messageQueue ++ [message] }

/-- The 'end' handler, and the 'error' handler but for the error. -/
def onEnd (bridge : IteratorBridge) : IteratorBridge :=
  if bridge.resolver then { bridge with done := true, phase := .resolved none, resolver := false }
  else { bridge with done := true }

def onError (bridge : IteratorBridge) (message : String) : IteratorBridge :=
  { bridge.onEnd with streamError := some message }

/-- `yield` answers the consumer and suspends the generator. -/
def yield (bridge : IteratorBridge) (message : ReceivedMessage) : IteratorBridge :=
  { bridge with
    phase := .suspended
    demand := bridge.demand - 1
    yielded := bridge.yielded ++ [message] }

/-- From the head of the loop to the next suspension. -/
def loopHead (bridge : IteratorBridge) : IteratorBridge :=
  match bridge.messageQueue with
  | message :: rest => { bridge with messageQueue := rest }.yield message
  | [] =>
      if bridge.done then { bridge with phase := .left }
      else { bridge with phase := .awaiting, resolver := true }

/-- Events come in any order. The generator runs when it is asked to, or when its promise has
been resolved.
-/
def step (callbacks : List Nat) (bridge : IteratorBridge)
    : BridgeAction → Option IteratorBridge
  | .data event => some (bridge.onData callbacks event)
  | .ended => some bridge.onEnd
  | .error message => some (bridge.onError message)
  | .pull => some { bridge with demand := bridge.demand + 1 }
  | .run =>
      if bridge.phase = .suspended ∧ 0 < bridge.demand then some bridge.loopHead else none
  | .resume =>
      match bridge.phase with
      | .resolved (some message) => some (bridge.yield message)
      | .resolved none => some bridge.loopHead
      | .suspended | .awaiting | .left => none

/-- The message, retained and replay events of the call, in the order of their arrival. -/
def arrived (actions : List BridgeAction) : List ReceivedMessage :=
  actions.filterMap (fun action =>
    match action with
    | .data event => NodeSubscription.received event
    | _ => none)

/-- The message of a resolved promise. -/
def inFlight (bridge : IteratorBridge) : List ReceivedMessage :=
  match bridge.phase with
  | .resolved (some message) => [message]
  | .suspended | .awaiting | .resolved none | .left => []

-----------------------------------------------------------------------------------------
-- The account
-----------------------------------------------------------------------------------------

/-- Where the messages are that have arrived. -/
structure Accounts (messages : List ReceivedMessage) (bridge : IteratorBridge) : Prop where
  account : messages = bridge.yielded ++ (bridge.inFlight ++ bridge.messageQueue)
  resolver : bridge.resolver = true ↔ bridge.phase = .awaiting
  awaiting : bridge.phase = .awaiting → bridge.messageQueue = [] ∧ bridge.done = false
  closed : bridge.phase = .resolved none ∨ bridge.phase = .left → bridge.done = true

section Steps

variable {messages : List ReceivedMessage} {bridge : IteratorBridge}

theorem Accounts.onData (accounts : Accounts messages bridge) (callbacks : List Nat)
    (event : MessageEvent)
    : Accounts (messages ++ (NodeSubscription.received event).toList)
        (bridge.onData callbacks event) := by
  unfold IteratorBridge.onData
  cases NodeSubscription.received event with
  | none =>
      simp only [Option.toList_none, List.append_nil]
      exact ⟨accounts.account, accounts.resolver, accounts.awaiting, accounts.closed⟩
  | some message =>
      dsimp only
      split
      · rename_i waiting
        have phase := accounts.resolver.mp waiting
        obtain ⟨empty, _⟩ := accounts.awaiting phase
        have account := accounts.account
        simp only [inFlight, phase, empty, List.append_nil] at account
        constructor <;> simp [inFlight, account, empty]
      · rename_i busy
        refine ⟨?_, accounts.resolver, ?_, accounts.closed⟩
        · have account := accounts.account
          simp only [Option.toList_some, account, List.append_assoc, inFlight]
        · intro phase
          exact absurd (accounts.resolver.mpr phase) busy

theorem Accounts.onEnd (accounts : Accounts messages bridge)
    : Accounts messages bridge.onEnd ∧ bridge.onEnd.done = true := by
  unfold IteratorBridge.onEnd
  split
  · rename_i waiting
    have phase := accounts.resolver.mp waiting
    have account := accounts.account
    simp only [inFlight, phase, List.nil_append] at account
    refine ⟨?_, rfl⟩
    constructor <;> simp [inFlight, account]
  · rename_i busy
    refine ⟨⟨accounts.account, accounts.resolver, ?_, fun _ => rfl⟩, rfl⟩
    intro phase
    exact absurd (accounts.resolver.mpr phase) busy

theorem Accounts.onError (accounts : Accounts messages bridge) (message : String)
    : Accounts messages (bridge.onError message) ∧ (bridge.onError message).done = true := by
  obtain ⟨ended, done⟩ := accounts.onEnd
  exact ⟨⟨ended.account, ended.resolver, ended.awaiting, ended.closed⟩, done⟩

theorem Accounts.resolver_eq_false (accounts : Accounts messages bridge)
    (ready : bridge.phase ≠ .awaiting)
    : bridge.resolver = false :=
  Bool.eq_false_of_not_eq_true (fun waiting => ready (accounts.resolver.mp waiting))

theorem Accounts.yield {message : ReceivedMessage} (accounts : Accounts messages bridge)
    (ready : bridge.phase = .resolved (some message))
    : Accounts messages (bridge.yield message) := by
  have idle := accounts.resolver_eq_false (by simp [ready])
  have account := accounts.account
  simp only [inFlight, ready] at account
  constructor <;> simp [IteratorBridge.yield, inFlight, account, idle]

theorem Accounts.loopHead (accounts : Accounts messages bridge)
    (ready : bridge.phase = .suspended ∨ bridge.phase = .resolved none)
    : Accounts messages bridge.loopHead := by
  have idle : bridge.resolver = false := by
    apply accounts.resolver_eq_false
    rcases ready with phase | phase <;> simp [phase]
  have account : messages = bridge.yielded ++ bridge.messageQueue := by
    have account := accounts.account
    rcases ready with phase | phase <;> simpa [inFlight, phase] using account
  unfold IteratorBridge.loopHead
  cases queue : bridge.messageQueue with
  | nil =>
      rw [queue, List.append_nil] at account
      cases done : bridge.done with
      | true => constructor <;> simp [inFlight, account, idle]
      | false => constructor <;> simp [inFlight, account]
  | cons message rest =>
      rw [queue] at account
      constructor <;> simp [IteratorBridge.yield, inFlight, account, idle]

theorem onData_done (callbacks : List Nat) (bridge : IteratorBridge) (event : MessageEvent)
    : (bridge.onData callbacks event).done = bridge.done := by
  unfold IteratorBridge.onData
  cases NodeSubscription.received event with
  | none => rfl
  | some message =>
      dsimp only
      split <;> rfl

theorem loopHead_done (bridge : IteratorBridge) : bridge.loopHead.done = bridge.done := by
  unfold IteratorBridge.loopHead
  cases bridge.messageQueue with
  | nil =>
      dsimp only
      split <;> rfl
  | cons message rest => rfl

/-- Every step keeps the account, whoever takes it. -/
theorem Accounts.step {after : IteratorBridge} {callbacks : List Nat} {action : BridgeAction}
    (accounts : Accounts messages bridge)
    (taken : bridge.step callbacks action = some after)
    : Accounts (messages ++ arrived [action]) after
      ∧ after.done = (bridge.done || action.closes) := by
  cases action with
  | data event =>
      cases taken
      have brought : arrived [.data event] = (NodeSubscription.received event).toList := by
        cases received : NodeSubscription.received event <;> simp [arrived, received]
      rw [brought, onData_done, BridgeAction.closes, Bool.or_false]
      exact ⟨accounts.onData callbacks event, rfl⟩
  | ended =>
      cases taken
      simpa [arrived, BridgeAction.closes] using accounts.onEnd
  | error message =>
      cases taken
      simpa [arrived, BridgeAction.closes] using accounts.onError message
  | pull =>
      cases taken
      simp only [arrived, List.filterMap_cons, List.filterMap_nil, List.append_nil,
        BridgeAction.closes, Bool.or_false, and_true]
      exact ⟨accounts.account, accounts.resolver, accounts.awaiting, accounts.closed⟩
  | run =>
      simp only [IteratorBridge.step] at taken
      split at taken
      · rename_i ready
        cases taken
        simpa [arrived, BridgeAction.closes, loopHead_done]
          using accounts.loopHead (.inl ready.1)
      · cases taken
  | resume =>
      simp only [IteratorBridge.step] at taken
      split at taken
      · rename_i message ready
        cases taken
        simpa [arrived, BridgeAction.closes, IteratorBridge.yield] using accounts.yield ready
      · rename_i ready
        cases taken
        simpa [arrived, BridgeAction.closes, loopHead_done]
          using accounts.loopHead (.inr ready)
      · cases taken
      · cases taken
      · cases taken

/-- The loop is left from its head, with nothing to hand out. -/
theorem Accounts.loopHead_left (accounts : Accounts messages bridge)
    (ready : bridge.phase = .suspended ∨ bridge.phase = .resolved none)
    (leaves : bridge.loopHead.phase = .left)
    : bridge.done = true ∧ bridge.loopHead.yielded = messages := by
  have next := accounts.loopHead ready
  have account := next.account
  unfold IteratorBridge.loopHead at leaves account ⊢
  cases queue : bridge.messageQueue with
  | nil =>
      cases done : bridge.done with
      | true =>
          simp only [queue, done, if_true, inFlight, List.append_nil] at account
          simp [account]
      | false => simp [queue, done] at leaves
  | cons message rest => simp [queue, IteratorBridge.yield] at leaves

theorem Accounts.step_left {after : IteratorBridge} {callbacks : List Nat}
    {action : BridgeAction} (accounts : Accounts messages bridge)
    (taken : bridge.step callbacks action = some after) (inside : bridge.phase ≠ .left)
    (leaves : after.phase = .left)
    : bridge.done = true ∧ after.yielded = messages := by
  cases action with
  | data event =>
      cases taken
      exfalso
      unfold IteratorBridge.onData at leaves
      cases received : NodeSubscription.received event with
      | none => exact inside (by simpa [received] using leaves)
      | some message =>
          simp only [received] at leaves
          split at leaves
          · cases leaves
          · exact inside leaves
  | ended | error message =>
      cases taken
      exfalso
      simp only [IteratorBridge.onError, IteratorBridge.onEnd] at leaves
      split at leaves
      · cases leaves
      · exact inside leaves
  | pull =>
      cases taken
      exact absurd leaves inside
  | run =>
      simp only [IteratorBridge.step] at taken
      split at taken
      · rename_i ready
        cases taken
        exact accounts.loopHead_left (.inl ready.1) leaves
      · cases taken
  | resume =>
      simp only [IteratorBridge.step] at taken
      split at taken
      · cases taken
        cases leaves
      · rename_i ready
        cases taken
        exact accounts.loopHead_left (.inr ready) leaves
      · cases taken
      · cases taken
      · cases taken

/-- Behind the loop nothing is handed out any more. -/
theorem Accounts.step_of_left {after : IteratorBridge} {callbacks : List Nat}
    {action : BridgeAction} (accounts : Accounts messages bridge)
    (taken : bridge.step callbacks action = some after) (left : bridge.phase = .left)
    : after.phase = .left ∧ after.yielded = bridge.yielded := by
  have idle := accounts.resolver_eq_false (by simp [left])
  cases action with
  | data event =>
      cases taken
      unfold IteratorBridge.onData
      cases NodeSubscription.received event <;> simp [idle, left]
  | ended | error message =>
      cases taken
      simp [IteratorBridge.onError, IteratorBridge.onEnd, idle, left]
  | pull =>
      cases taken
      exact ⟨left, rfl⟩
  | run | resume => simp [IteratorBridge.step, left] at taken

/-- The consumer can get everything that has arrived, and if the call is over, so is the
loop then.
-/
def Drains (callbacks : List Nat) (messages : List ReceivedMessage) (bridge : IteratorBridge)
    : Prop :=
  ∃ more last,
    (∀ action ∈ more, BridgeAction.consumes action = true)
    ∧ exec (IteratorBridge.step callbacks) bridge more = some last
    ∧ last.yielded = messages
    ∧ (bridge.done = true → last.phase = .left)

theorem Drains.of_exec {callbacks : List Nat} {middle : IteratorBridge}
    {first : List BridgeAction} (consumes : ∀ action ∈ first, action.consumes = true)
    (run : exec (IteratorBridge.step callbacks) bridge first = some middle)
    (done : middle.done = bridge.done) (drains : Drains callbacks messages middle)
    : Drains callbacks messages bridge := by
  obtain ⟨more, last, others, rest, all, ends⟩ := drains
  refine ⟨first ++ more, last, ?_, ?_, all, fun ceased => ends (done.trans ceased)⟩
  · intro action member
    rcases List.mem_append.mp member with early | late
    · exact consumes action early
    · exact others action late
  · rw [exec_append, run, Option.bind_some, rest]

theorem Accounts.drains_of_suspended (callbacks : List Nat)
    (accounts : Accounts messages bridge) (ready : bridge.phase = .suspended)
    : Drains callbacks messages bridge := by
  induction queue : bridge.messageQueue generalizing bridge with
  | nil =>
      have account := accounts.account
      simp only [inFlight, ready, queue, List.append_nil] at account
      cases done : bridge.done with
      | false => exact ⟨[], bridge, by simp, rfl, account.symm, by simp [done]⟩
      | true =>
          refine ⟨[.pull, .run], { bridge with phase := .left, demand := bridge.demand + 1 },
            by simp [BridgeAction.consumes], ?_, account.symm, fun _ => rfl⟩
          simp [IteratorBridge.step, ready, IteratorBridge.loopHead, queue, done]
  | cons message rest ih =>
      have run
        : exec (IteratorBridge.step callbacks) bridge [.pull, .run]
          = some { bridge with
              messageQueue := rest
              yielded := bridge.yielded ++ [message] } := by
        simp [IteratorBridge.step, ready, IteratorBridge.loopHead, queue, IteratorBridge.yield]
      have account := accounts.account
      simp only [inFlight, ready, queue, List.nil_append] at account
      refine .of_exec (by simp [BridgeAction.consumes]) run rfl (ih ?_ ready rfl)
      constructor
      · simp [inFlight, ready, account]
      · exact accounts.resolver
      · simp [ready]
      · simp [ready]

theorem Accounts.drains (callbacks : List Nat) (accounts : Accounts messages bridge)
    (inside : bridge.phase ≠ .left)
    : Drains callbacks messages bridge := by
  have account := accounts.account
  cases phase : bridge.phase with
  | suspended => exact accounts.drains_of_suspended callbacks phase
  | awaiting =>
      obtain ⟨empty, opened⟩ := accounts.awaiting phase
      simp only [inFlight, phase, empty, List.append_nil] at account
      exact ⟨[], bridge, by simp, rfl, account.symm, by simp [opened]⟩
  | resolved result =>
      cases result with
      | some message =>
          have run
            : exec (IteratorBridge.step callbacks) bridge [.resume]
              = some (bridge.yield message) := by
            simp [IteratorBridge.step, phase]
          exact .of_exec (by simp [BridgeAction.consumes]) run rfl
            ((accounts.yield phase).drains_of_suspended callbacks rfl)
      | none =>
          have run
            : exec (IteratorBridge.step callbacks) bridge [.resume]
              = some bridge.loopHead := by
            simp [IteratorBridge.step, phase]
          have next := accounts.loopHead (.inr phase)
          have ceased := accounts.closed (.inl phase)
          refine .of_exec (by simp [BridgeAction.consumes]) run (loopHead_done bridge) ?_
          cases queue : bridge.messageQueue with
          | nil =>
              have leaves : bridge.loopHead.phase = .left := by
                simp [IteratorBridge.loopHead, queue, ceased]
              obtain ⟨_, all⟩ := accounts.loopHead_left (.inr phase) leaves
              exact ⟨[], bridge.loopHead, by simp, rfl, all, fun _ => leaves⟩
          | cons message rest =>
              apply next.drains_of_suspended
              simp [IteratorBridge.loopHead, queue, IteratorBridge.yield]
  | left => exact absurd phase inside

end Steps

-----------------------------------------------------------------------------------------
-- Whole runs
-----------------------------------------------------------------------------------------

/-- The call has been made; the generator is on its way to the loop. -/
def start (subscription : NodeSubscription) : IteratorBridge := { subscription }

theorem arrived_append (first second : List BridgeAction)
    : arrived (first ++ second) = arrived first ++ arrived second :=
  List.filterMap_append

theorem accounts_of_exec {callbacks : List Nat} {subscription : NodeSubscription}
    {actions : List BridgeAction} {final : IteratorBridge}
    (run : exec (step callbacks) (start subscription) actions = some final)
    : Accounts (arrived actions) final ∧ final.done = actions.any BridgeAction.closes := by
  refine exec_induction
    (motive := fun actions state =>
      Accounts (arrived actions) state ∧ state.done = actions.any BridgeAction.closes)
    ?_ ?_ run
  · refine ⟨?_, rfl⟩
    constructor <;> simp [start, arrived, inFlight]
  · intro actions state action after reached both taken
    obtain ⟨accounts, done⟩ := both.1.step taken
    rw [arrived_append, List.any_append, done, both.2]
    exact ⟨accounts, by simp⟩

/-- Once the loop has been left, the consumer has what had arrived by then. -/
theorem exists_of_left {callbacks : List Nat} {subscription : NodeSubscription}
    {actions : List BridgeAction} {final : IteratorBridge}
    (run : exec (step callbacks) (start subscription) actions = some final)
    (left : final.phase = .left)
    : ∃ earlier later,
        actions = earlier ++ later
        ∧ earlier.any BridgeAction.closes = true
        ∧ final.yielded = arrived earlier := by
  refine exec_induction
    (motive := fun actions state =>
      state.phase = .left
      → ∃ earlier later,
          actions = earlier ++ later
          ∧ earlier.any BridgeAction.closes = true
          ∧ state.yielded = arrived earlier)
    ?_ ?_ run left
  · intro left
    cases left
  · intro actions state action after reached ih taken left
    obtain ⟨accounts, done⟩ := accounts_of_exec reached
    by_cases already : state.phase = .left
    · obtain ⟨earlier, later, split, closed, all⟩ := ih already
      refine ⟨earlier, later ++ [action], by rw [split, List.append_assoc], closed, ?_⟩
      rw [(accounts.step_of_left taken already).2, all]
    · obtain ⟨ceased, all⟩ := accounts.step_left taken already left
      exact ⟨actions, [action], rfl, done.symm.trans ceased, all⟩

/-- What the consumer gets of a call, in whatever order things happen. -/
structure Faithful (callbacks : List Nat) (subscription : NodeSubscription)
    (actions : List BridgeAction) (final : IteratorBridge)
    : Prop where
  /-- every message is in one place, and in the order of its arrival -/
  account : arrived actions = final.yielded ++ (final.inFlight ++ final.messageQueue)
  /-- the loop is left only after 'end' or 'error', and with nothing left to hand out -/
  leaves
    : ∀ earlier action later before after,
        actions = earlier ++ action :: later
        → exec (step callbacks) (start subscription) earlier = some before
        → step callbacks before action = some after
        → before.phase ≠ .left
        → after.phase = .left
        → earlier.any BridgeAction.closes = true ∧ after.yielded = arrived earlier
  /-- as a call brings nothing after 'end' or 'error', that is everything -/
  whole
    : final.phase = .left
      → (∀ earlier later,
          actions = earlier ++ later
          → earlier.any BridgeAction.closes = true
          → arrived later = [])
      → final.yielded = arrived actions
  /-- before that, the consumer need only go on pulling -/
  drains : final.phase ≠ .left → Drains callbacks (arrived actions) final

/-- The bridge neither loses nor reorders messages. -/
theorem faithful_of_exec {callbacks : List Nat} {subscription : NodeSubscription}
    {actions : List BridgeAction} {final : IteratorBridge}
    (run : exec (step callbacks) (start subscription) actions = some final)
    : Faithful callbacks subscription actions final := by
  obtain ⟨accounts, _⟩ := accounts_of_exec run
  constructor
  · exact accounts.account
  · intro earlier action later before after _ reached taken inside leaves
    obtain ⟨accounts, done⟩ := accounts_of_exec reached
    obtain ⟨ceased, all⟩ := accounts.step_left taken inside leaves
    exact ⟨done.symm.trans ceased, all⟩
  · intro left silent
    obtain ⟨earlier, later, rfl, closed, all⟩ := exists_of_left run left
    rw [arrived_append, silent earlier later rfl closed, List.append_nil, all]
  · exact accounts.drains callbacks

def numberedMessage (number : Nat) : Message where
  messageId := []
  topic := []
  payload := []
  timestampMs := 0
  sequenceNumber := number

/-- A message for the pending promise, one for the queue and the end of the call, all before
the generator goes on.
-/
def burst : List BridgeAction :=
  [.run, .data (.message (numberedMessage 1)), .data (.retainedMessage (numberedMessage 2)),
    .ended, .resume, .pull, .run, .pull, .run]

theorem faithful_burst
    : ∃ final,
        exec (step []) (start {}) burst = some final
        ∧ final.phase = .left
        ∧ final.yielded.map ReceivedMessage.sequenceNumber = [1, 2]
        ∧ Faithful [] {} burst final := by
  have ends
    : (exec (step []) (start {}) burst).map
        (fun final => (final.phase, final.yielded.map ReceivedMessage.sequenceNumber))
      = some (.left, [1, 2]) := by
    decide +kernel
  obtain ⟨final, run, shown⟩ := Option.map_eq_some_iff.mp ends
  obtain ⟨left, numbers⟩ := Prod.mk.inj shown
  exact ⟨final, run, left, numbers, faithful_of_exec run⟩

end IteratorBridge

end NexusD.Clients
