import NexusD.Services.SubscribeReactor

/-! Everything a step of a Subscribe stream can do, one named case for each.
Invariants are proved by cases on `Transition`, never by unfolding the step function.
-/

namespace NexusD.Services.StreamState

open NexusD.Core NexusD.Library

variable {T : Type}

@[simp]
theorem setProducer_producers (state : StreamState T) (id : Nat) (pc : ProducerPc T)
    : (state.setProducer id pc).producers = Function.update state.producers id pc :=
  rfl

@[simp]
theorem setCallback_callbacks (state : StreamState T) (id : Nat) (pc : CallbackPc)
    : (state.setCallback id pc).callbacks = Function.update state.callbacks id pc :=
  rfl

/-- The enabled steps, with the test each of them has just made. -/
inductive Transition (state : StreamState T) : StreamAction T → StreamState T → Prop
  | enter {id event ttlMs} (pc : state.producers id = .idle) (active : state.active = true)
    : Transition state (.call id event ttlMs) (state.setProducer id (.admitted event ttlMs))
  | refused {id event ttlMs} (pc : state.producers id = .idle)
    (inactive : state.active = false)
    : Transition state (.call id event ttlMs) state
  | lockWrite {id event ttlMs} (pc : state.producers id = .admitted event ttlMs)
    (free : state.writeMutex = none)
    : Transition state (.producer id)
        { state.setProducer id (.locked event ttlMs) with writeMutex := some (.producer id) }
  | seeClosed {id event ttlMs} (pc : state.producers id = .locked event ttlMs)
    (closed : state.queue.closed = true)
    : Transition state (.producer id) (state.setProducer id (.returning .droppedDisconnected))
  | prepare {id event ttlMs} (pc : state.producers id = .locked event ttlMs)
    (opened : state.queue.closed = false)
    : Transition state (.producer id)
        (state.setProducer id (.prepared (state.queue.prepare state.clock event ttlMs)))
  | lockQueue {id message} (pc : state.producers id = .prepared message)
    (free : state.queueMutex = none)
    : Transition state (.producer id)
        { state.setProducer id (.inside message) with queueMutex := some (.producer id) }
  | insert {id message queue result} (pc : state.producers id = .inside message)
    (done : state.queue.enqueueLocked message = .returned queue result)
    : Transition state (.producer id)
        { state.setProducer id (.returning result) with queue, queueMutex := none }
  | sleep {id message} (pc : state.producers id = .inside message)
    (full : state.queue.enqueueLocked message = .waits)
    : Transition state (.producer id)
        { state.setProducer id (.asleep message) with queueMutex := none }
  | wake {id message timedOut} (pc : state.producers id = .asleep message)
    : Transition state (.wake id timedOut) (state.setProducer id (.woken message timedOut))
  | relock {id message timedOut} (pc : state.producers id = .woken message timedOut)
    (free : state.queueMutex = none)
    : Transition state (.producer id)
        { state.setProducer id (.rechecking message timedOut) with
          queueMutex := some (.producer id) }
  | insertLate {id message timedOut} (pc : state.producers id = .rechecking message timedOut)
    (ends : (state.queue.waitOver || timedOut) = true)
    : Transition state (.producer id)
        { state.setProducer id (.returning .enqueued) with
          queue := state.queue.afterWait state.queue.waitOver message
          queueMutex := none }
  | sleepAgain {id message timedOut} (pc : state.producers id = .rechecking message timedOut)
    (full : (state.queue.waitOver || timedOut) = false)
    : Transition state (.producer id)
        { state.setProducer id (.asleep message) with queueMutex := none }
  | unlock {id} (pc : state.producers id = .returning .enqueued)
    : Transition state (.producer id)
        { state.setProducer id .exchanging with writeMutex := none }
  | giveUp {id result} (pc : state.producers id = .returning result)
    (dropped : result ≠ .enqueued)
    : Transition state (.producer id) { state.setProducer id .idle with writeMutex := none }
  | exchangeLost {id} (pc : state.producers id = .exchanging) (set : state.writing = true)
    : Transition state (.producer id) (state.setProducer id .idle)
  | exchangeWon {id} (pc : state.producers id = .exchanging) (clear : state.writing = false)
    : Transition state (.producer id)
        { state.setProducer id .claimed with writing := true }
  | claim {id} (pc : state.producers id = .claimed) (free : state.writeMutex = none)
    : Transition state (.producer id)
        { state.setProducer id .testing with writeMutex := some (.producer id) }
  | seeEmpty {id} (pc : state.producers id = .testing) (free : state.queueMutex = none)
    (empty : state.queue.messages = [])
    : Transition state (.producer id) (state.setProducer id .clearing)
  | seeMessages {id} (pc : state.producers id = .testing) (free : state.queueMutex = none)
    (nonempty : state.queue.messages ≠ [])
    : Transition state (.producer id) (state.setProducer id .draining)
  | startWrite {id queue event} (pc : state.producers id = .draining)
    (free : state.queueMutex = none)
    (taken : state.queue.dequeue state.clock = (queue, some event))
    : Transition state (.producer id)
        { (state.setProducer id .idle).startWrite event with queue, writeMutex := none }
  | allExpired {id queue} (pc : state.producers id = .draining)
    (free : state.queueMutex = none)
    (taken : state.queue.dequeue state.clock = (queue, none))
    : Transition state (.producer id)
        { state.setProducer id .idle with queue, writeMutex := none }
  | clear {id} (pc : state.producers id = .clearing)
    : Transition state (.producer id)
        { state.setProducer id .idle with writing := false, writeMutex := none }
  | answer {id ok} (pc : state.callbacks id = .idle) (pending : 0 < state.outstanding)
    : Transition state (.writeDone id ok)
        { state.setCallback id (.answered ok) with outstanding := state.outstanding - 1 }
  | finish {id ok} (pc : state.callbacks id = .answered ok)
    (ends : (!ok || !state.active) = true)
    : Transition state (.callback id) { state.setCallback id .idle with finished := true }
  | proceed {id ok} (pc : state.callbacks id = .answered ok)
    (goes : (!ok || !state.active) = false)
    : Transition state (.callback id) (state.setCallback id .admitted)
  | callbackLock {id} (pc : state.callbacks id = .admitted) (free : state.writeMutex = none)
    : Transition state (.callback id)
        { state.setCallback id .testing with writeMutex := some (.callback id) }
  | callbackSeeEmpty {id} (pc : state.callbacks id = .testing)
    (free : state.queueMutex = none) (empty : state.queue.messages = [])
    : Transition state (.callback id) (state.setCallback id .clearing)
  | callbackSeeMessages {id} (pc : state.callbacks id = .testing)
    (free : state.queueMutex = none) (nonempty : state.queue.messages ≠ [])
    : Transition state (.callback id) (state.setCallback id .draining)
  | callbackStartWrite {id queue event} (pc : state.callbacks id = .draining)
    (free : state.queueMutex = none)
    (taken : state.queue.dequeue state.clock = (queue, some event))
    : Transition state (.callback id)
        { (state.setCallback id .idle).startWrite event with queue, writeMutex := none }
  | callbackAllExpired {id queue} (pc : state.callbacks id = .draining)
    (free : state.queueMutex = none)
    (taken : state.queue.dequeue state.clock = (queue, none))
    : Transition state (.callback id) { state.setCallback id .clearing with queue }
  | callbackClear {id} (pc : state.callbacks id = .clearing)
    : Transition state (.callback id)
        { state.setCallback id .idle with writing := false, writeMutex := none }
  | reap (free : state.queueMutex = none)
    : Transition state .reap
        { state with queue := (state.queue.reapExpired state.clock).1 }
  | cancel : Transition state .cancel { state with active := false }
  | tick {elapsed}
    : Transition state (.tick elapsed) { state with clock := state.clock + elapsed }

theorem transition_of_producerStep {state after : StreamState T} {id : Nat}
    (taken : state.producerStep id = some after)
    : Transition state (.producer id) after := by
  unfold producerStep at taken
  cases pc : state.producers id with
  | idle => simp [pc] at taken
  | asleep message => simp [pc] at taken
  | admitted event ttlMs =>
      simp only [pc, Option.ite_none_right_eq_some, Option.some.injEq] at taken
      obtain ⟨free, rfl⟩ := taken
      exact .lockWrite pc free
  | locked event ttlMs =>
      simp only [pc] at taken
      cases closed : state.queue.closed with
      | true =>
          simp only [closed, if_true, Option.some.injEq] at taken
          exact taken ▸ .seeClosed pc closed
      | false =>
          simp only [closed, Bool.false_eq_true, if_false, Option.some.injEq] at taken
          exact taken ▸ .prepare pc closed
  | prepared message =>
      simp only [pc, Option.ite_none_right_eq_some, Option.some.injEq] at taken
      obtain ⟨free, rfl⟩ := taken
      exact .lockQueue pc free
  | inside message =>
      simp only [pc] at taken
      cases outcome : state.queue.enqueueLocked message with
      | returned queue result =>
          simp only [outcome, Option.some.injEq] at taken
          exact taken ▸ .insert pc outcome
      | waits =>
          simp only [outcome, Option.some.injEq] at taken
          exact taken ▸ .sleep pc outcome
  | woken message timedOut =>
      simp only [pc, Option.ite_none_right_eq_some, Option.some.injEq] at taken
      obtain ⟨free, rfl⟩ := taken
      exact .relock pc free
  | rechecking message timedOut =>
      simp only [pc] at taken
      cases ends : (state.queue.waitOver || timedOut) with
      | true =>
          simp only [ends, if_true, Option.some.injEq] at taken
          exact taken ▸ .insertLate pc ends
      | false =>
          simp only [ends, Bool.false_eq_true, if_false, Option.some.injEq] at taken
          exact taken ▸ .sleepAgain pc ends
  | returning result =>
      simp only [pc, Option.some.injEq] at taken
      by_cases kept : result = .enqueued
      · subst kept
        exact taken ▸ .unlock pc
      · simp only [kept, if_false] at taken
        exact taken ▸ .giveUp pc kept
  | exchanging =>
      simp only [pc] at taken
      cases flag : state.writing with
      | true =>
          simp only [flag, if_true, Option.some.injEq] at taken
          exact taken ▸ .exchangeLost pc flag
      | false =>
          simp only [flag, Bool.false_eq_true, if_false, Option.some.injEq] at taken
          exact taken ▸ .exchangeWon pc flag
  | claimed =>
      simp only [pc, Option.ite_none_right_eq_some, Option.some.injEq] at taken
      obtain ⟨free, rfl⟩ := taken
      exact .claim pc free
  | testing =>
      simp only [pc, Option.ite_none_right_eq_some, Option.some.injEq] at taken
      obtain ⟨free, rfl⟩ := taken
      by_cases empty : state.queue.messages = []
      · simpa [SubscriberQueue.empty, empty] using Transition.seeEmpty pc free empty
      · simpa [SubscriberQueue.empty, empty] using Transition.seeMessages pc free empty
  | draining =>
      simp only [pc, Option.ite_none_right_eq_some] at taken
      obtain ⟨free, taken⟩ := taken
      split at taken
      · rename_i queue event popped
        cases taken
        exact .startWrite pc free popped
      · rename_i queue popped
        cases taken
        exact .allExpired pc free popped
  | clearing =>
      simp only [pc, Option.some.injEq] at taken
      exact taken ▸ .clear pc

theorem transition_of_callbackStep {state after : StreamState T} {id : Nat}
    (taken : state.callbackStep id = some after)
    : Transition state (.callback id) after := by
  unfold callbackStep at taken
  cases pc : state.callbacks id with
  | idle => simp [pc] at taken
  | answered ok =>
      simp only [pc] at taken
      cases ends : (!ok || !state.active) with
      | true =>
          simp only [ends, if_true, Option.some.injEq] at taken
          exact taken ▸ .finish pc ends
      | false =>
          simp only [ends, Bool.false_eq_true, if_false, Option.some.injEq] at taken
          exact taken ▸ .proceed pc ends
  | admitted =>
      simp only [pc, Option.ite_none_right_eq_some, Option.some.injEq] at taken
      obtain ⟨free, rfl⟩ := taken
      exact .callbackLock pc free
  | testing =>
      simp only [pc, Option.ite_none_right_eq_some, Option.some.injEq] at taken
      obtain ⟨free, rfl⟩ := taken
      by_cases empty : state.queue.messages = []
      · simpa [SubscriberQueue.empty, empty] using Transition.callbackSeeEmpty pc free empty
      · simpa [SubscriberQueue.empty, empty] using Transition.callbackSeeMessages pc free empty
  | draining =>
      simp only [pc, Option.ite_none_right_eq_some] at taken
      obtain ⟨free, taken⟩ := taken
      split at taken
      · rename_i queue event popped
        cases taken
        exact .callbackStartWrite pc free popped
      · rename_i queue popped
        cases taken
        exact .callbackAllExpired pc free popped
  | clearing =>
      simp only [pc, Option.some.injEq] at taken
      exact taken ▸ .callbackClear pc

/-- Every enabled step is one of the transitions, by cases on the mover's position. -/
theorem transition_of_step {state after : StreamState T} {action : StreamAction T}
    (taken : state.step action = some after)
    : Transition state action after := by
  cases action with
  | call id event ttlMs =>
      simp only [step] at taken
      split at taken
      · rename_i pc
        cases flag : state.active with
        | true =>
            simp only [flag, if_true, Option.some.injEq] at taken
            exact taken ▸ .enter pc flag
        | false =>
            simp only [flag, Bool.false_eq_true, if_false, Option.some.injEq] at taken
            exact taken ▸ .refused pc flag
      · cases taken
  | producer id => exact transition_of_producerStep taken
  | wake id timedOut =>
      simp only [step] at taken
      split at taken
      · rename_i message pc
        cases taken
        exact .wake pc
      · cases taken
  | writeDone id ok =>
      simp only [step, Option.ite_none_right_eq_some, Option.some.injEq] at taken
      obtain ⟨⟨pc, pending⟩, rfl⟩ := taken
      exact .answer pc pending
  | callback id => exact transition_of_callbackStep taken
  | reap =>
      simp only [step, Option.ite_none_right_eq_some, Option.some.injEq] at taken
      obtain ⟨free, rfl⟩ := taken
      exact .reap free
  | cancel =>
      cases taken
      exact .cancel
  | tick elapsed =>
      cases taken
      exact .tick

def unlimitedQueue : SubscriberQueue Nat :=
  { limit := 0, policy := .dropOldest, defaultTtlMs := 0 }

/-- A write is answered, and its callback runs alone and finds the queue empty. -/
def answerWrite : List (StreamAction Nat) :=
  .writeDone 0 true :: List.replicate 4 (.callback 0)

/-- Publisher `id` calls `enqueueMessage` and takes its first steps: five insert the message
and release the lock, eight go up to the dequeue and nine to `StartWrite`.
-/
def publisherRun (id event : Nat) (ttlMs : Int) (steps : Nat) : List (StreamAction Nat) :=
  .call id event ttlMs :: List.replicate steps (.producer id)

end NexusD.Services.StreamState
