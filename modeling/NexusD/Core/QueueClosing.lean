import NexusD.Core.QueueThreads

/-! What `close` promises of a queue that other threads are still using.
`enqueue` tests `closed_` once, before it takes the mutex. A call past that test ignores the
flag, and a call woken from its wait by `close` takes it for a timeout: it drops the oldest
message and pushes its own.
-/

namespace NexusD.Core.QueueThreads

open NexusD.Library

variable {T : Type}

/-- The steps through which messages may leave a closed queue. -/
def Action.consumes : Action T → Bool
  | .dequeue _ | .reapExpired _ => true
  | .call _ _ _ _ | .lock _ | .wake _ _ | .close => false

/-- The promise for one step: a closed queue keeps its messages but for `dequeue` and
`reapExpired`, and a call of `enqueue` that ends learns that it is disconnected.
-/
structure Frozen (state : QueueThreads T) (action : Action T) : Prop where
  contents
    : ∀ {after},
        state.queue.closed = true
        → action.consumes = false
        → state.step action = some after
        → after.queue.messages = state.queue.messages
  answers
    : ∀ {after},
        state.queue.closed = true
        → state.step action = some after
        → after.results = state.results
          ∨ after.results = state.results ++ [.droppedDisconnected]

/-- The queue is closed and no call of `enqueue` is past its test of `closed_`. -/
structure Deserted (state : QueueThreads T) : Prop where
  closed : state.queue.closed = true
  idle : ∀ thread, state.calls thread = .idle

/-- All that can happen then: a new call is turned away, or the consumers and `close` go on.
-/
theorem Deserted.step_effect {state after : QueueThreads T} {action : Action T}
    (deserted : state.Deserted) (taken : state.step action = some after)
    : (∃ thread, after = state.answer thread .droppedDisconnected)
      ∨ after.calls = state.calls
        ∧ after.results = state.results
        ∧ after.queue.closed = true
        ∧ (action.consumes = false → after.queue.messages = state.queue.messages) := by
  cases action with
  | call thread now message ttlMs =>
      simp only [step, callStep, deserted.idle, deserted.closed, if_true,
        Option.some.injEq] at taken
      exact Or.inl ⟨thread, taken.symm⟩
  | lock thread => simp [step, lockStep, deserted.idle] at taken
  | wake thread timedOut => simp [step, wakeStep, deserted.idle] at taken
  | dequeue now =>
      cases taken
      have settings := SubscriberQueue.dequeue_settings state.queue now
      exact Or.inr ⟨rfl, rfl, settings.closed.trans deserted.closed, fun kept => by cases kept⟩
  | reapExpired now =>
      cases taken
      exact Or.inr ⟨rfl, rfl, deserted.closed, fun kept => by cases kept⟩
  | close =>
      cases taken
      exact Or.inr ⟨rfl, rfl, rfl, fun _ => rfl⟩

theorem Deserted.next {state after : QueueThreads T} {action : Action T}
    (deserted : state.Deserted) (taken : state.step action = some after)
    : after.Deserted := by
  rcases deserted.step_effect taken with ⟨thread, rfl⟩ | ⟨calls, _, closed, _⟩
  · refine ⟨deserted.closed, ?_⟩
    intro other
    simp only [answer, setCall, Function.update_apply, deserted.idle, ite_self]
  · exact ⟨closed, fun thread => by rw [calls, deserted.idle]⟩

theorem Deserted.frozen {state : QueueThreads T} (deserted : state.Deserted)
    (action : Action T)
    : state.Frozen action where
  contents _ kept taken := by
    rcases deserted.step_effect taken with ⟨thread, rfl⟩ | ⟨_, _, _, messages⟩
    · rfl
    · exact messages kept
  answers _ taken := by
    rcases deserted.step_effect taken with ⟨thread, rfl⟩ | ⟨_, results, _, _⟩
    · exact Or.inr rfl
    · exact Or.inl results

/-- A call that ends with another result breaks the promise. -/
theorem not_frozen_of_answer {state after : QueueThreads T} {action : Action T}
    (closed : state.queue.closed = true) (taken : state.step action = some after)
    {result : EnqueueResult} (answered : after.results = state.results ++ [result])
    (other : result ≠ .droppedDisconnected)
    : ¬state.Frozen action := by
  intro frozen
  have answers := frozen.answers closed taken
  rw [answered] at answers
  simp [other] at answers

/-- A call that has its message ready pushes it or reports a full queue, closed or not. -/
theorem not_frozen_of_prepared {state : QueueThreads T} (closed : state.queue.closed = true)
    {thread : Nat} {message : QueuedMessage T}
    (prepared : state.calls thread = .prepared message)
    : ¬state.Frozen (.lock thread) := by
  cases locked : state.queue.enqueueLocked message with
  | returned queue result =>
      refine not_frozen_of_answer closed
        (by simp only [step, lockStep, prepared, locked]; rfl) rfl ?_
      rcases SubscriberQueue.enqueueLocked_effect locked with ⟨rfl, _⟩ | ⟨rfl, _⟩
      · decide
      · decide
  | waits =>
      have sleeps := SubscriberQueue.waitOver_of_waits locked
      simp [SubscriberQueue.waitOver, closed] at sleeps

/-- A call woken by `close` pushes its message. -/
theorem not_frozen_of_asleep {state : QueueThreads T} (closed : state.queue.closed = true)
    {thread : Nat} {message : QueuedMessage T}
    (asleep : state.calls thread = .asleep message)
    : ¬state.Frozen (.wake thread false) := by
  have ended : state.queue.waitOver = true := by simp [SubscriberQueue.waitOver, closed]
  exact not_frozen_of_answer closed
    (by simp only [step, wakeStep, asleep, ended, Bool.true_or, if_true]; rfl) rfl (by decide)

/-- Closing freezes the queue for all that can follow exactly when no call of `enqueue` is past
its test of `closed_` at that moment.
-/
theorem frozen_after_close_iff (state : QueueThreads T)
    : (∀ later, Along step { state with queue := state.queue.close } Frozen later)
      ↔ ∀ thread, state.calls thread = .idle := by
  constructor
  · intro frozen thread
    have first
      : ∀ action, ({ state with queue := state.queue.close } : QueueThreads T).Frozen action :=
      fun action => (along_cons_iff.mp (frozen [action])).1
    cases call : state.calls thread with
    | idle => rfl
    | prepared message => exact absurd (first (.lock thread)) (not_frozen_of_prepared rfl call)
    | asleep message =>
        exact absurd (first (.wake thread false)) (not_frozen_of_asleep rfl call)
  · intro idle later
    exact along_of_invariant Deserted ⟨rfl, idle⟩ (fun _ deserted => deserted.next)
      (fun _ deserted => deserted.frozen _)

/-- A full queue under `BLOCK`, a second producer waits for space, and the queue is closed. -/
def closedWhileBlocked : List (Action Nat) :=
  [.call 0 0 10 0, .lock 0, .call 1 0 11 0, .lock 1, .close]

/-- The producer that `close` wakes drops the queued message, pushes its own and is told that
it was enqueued.
-/
theorem blocked_producer_breaks_close
    : ∃ closed after,
        exec step (start Nat 1 .block 0) closedWhileBlocked = some closed
        ∧ closed.queue.closed = true
        ∧ closed.queue.messages.map QueuedMessage.message = [10]
        ∧ closed.results = [.enqueued]
        ∧ closed.step (.wake 1 false) = some after
        ∧ after.queue.messages.map QueuedMessage.message = [11]
        ∧ after.results = [.enqueued, .enqueued]
        ∧ ¬closed.Frozen (.wake 1 false) := by
  refine ⟨_, _, rfl, rfl, rfl, rfl, rfl, rfl, rfl, ?_⟩
  exact not_frozen_of_asleep rfl rfl

end NexusD.Core.QueueThreads
