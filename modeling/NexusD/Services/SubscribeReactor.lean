import NexusD.Core.SubscriberQueue
import NexusD.Library.Execution
import Mathlib.Logic.Function.Basic

/-! One Subscribe stream under arbitrary scheduling.
Publisher threads run `enqueueMessage`, gRPC runs `OnWriteDone`, the reaper visits the queue.
A thread moves in the steps at which others can observe it: atomic accesses to `active` and
`writing`, acquisitions and releases of `writeMutex`, and the critical sections of the
queue's own mutex.
-/

namespace NexusD.Services

open NexusD.Core NexusD.Library

/-- A holder of one of the two mutexes. -/
inductive Party where
  | producer (id : Nat)
  | callback (id : Nat)
deriving DecidableEq, Repr

/-- Where a thread stands in `enqueueMessage`. -/
inductive ProducerPc (T : Type) where
  | idle
  /-- `active` was read as true; next is `writeMutex` -/
  | admitted (event : T) (ttlMs : Int)
  /-- inside `messageQueue->enqueue`, before its `closed_` test -/
  | locked (event : T) (ttlMs : Int)
  /-- next is the queue's mutex -/
  | prepared (message : QueuedMessage T)
  /-- holds both mutexes -/
  | inside (message : QueuedMessage T)
  /-- in the wait of the `BLOCK` policy: the queue's mutex is released -/
  | asleep (message : QueuedMessage T)
  | woken (message : QueuedMessage T) (timedOut : Bool)
  | rechecking (message : QueuedMessage T) (timedOut : Bool)
  /-- `enqueue` has returned; next is the release of `writeMutex` -/
  | returning (result : EnqueueResult)
  /-- next is `writing.exchange(true)` -/
  | exchanging
  /-- the exchange returned false; next is `writeMutex` -/
  | claimed
  /-- second locked section, before `empty()` -/
  | testing
  /-- `empty()` returned false; next is `dequeue()` -/
  | draining
  /-- `empty()` returned true; next is `writing.store(false)` -/
  | clearing
deriving DecidableEq, Repr

/-- Where a thread stands in `OnWriteDone`. -/
inductive CallbackPc where
  | idle
  | answered (ok : Bool)
  | admitted
  | testing
  | draining
  | clearing
deriving DecidableEq, Repr

/-- The stream, its queue, its locks and every thread that may touch it. -/
structure StreamState (T : Type) where
  active : Bool
  writing : Bool
  writeMutex : Option Party
  queueMutex : Option Party
  queue : SubscriberQueue T
  currentEvent : T
  /-- `StartWrite` calls that no `OnWriteDone` has answered yet -/
  outstanding : Nat
  /-- `Finish` has been called -/
  finished : Bool
  producers : Nat → ProducerPc T
  callbacks : Nat → CallbackPc
  clock : TimePoint

/-- Who moves, with what the environment decides for the move. -/
inductive StreamAction (T : Type) where
  /-- a publisher enters `enqueueMessage` -/
  | call (id : Nat) (event : T) (ttlMs : Int)
  | producer (id : Nat)
  /-- a sleeping publisher is notified, wakes spuriously or times out -/
  | wake (id : Nat) (timedOut : Bool)
  /-- gRPC answers an outstanding write -/
  | writeDone (id : Nat) (ok : Bool)
  | callback (id : Nat)
  /-- `ttlReaperLoop` visits the queue -/
  | reap
  /-- `OnCancel`, or `Unsubscribe` on this stream -/
  | cancel
  | tick (elapsed : Nat)
deriving DecidableEq, Repr

namespace StreamState

variable {T : Type}

/-- What the constructor leaves: the retained messages are queued, the subscription info is
being written, and `writing` still has its initial value.
-/
def construct (queue : SubscriberQueue T) (info : T) (retained : List T) (now : TimePoint)
    : StreamState T :=
  {
    active := true
    writing := false
    writeMutex := none
    queueMutex := none
    queue := retained.foldl (fun filled event => (filled.enqueue now event 0).1) queue
    currentEvent := info
    outstanding := 1
    finished := false
    producers := fun _ => .idle
    callbacks := fun _ => .idle
    clock := now
  }

def setProducer (state : StreamState T) (id : Nat) (pc : ProducerPc T) : StreamState T :=
  { state with producers := Function.update state.producers id pc }

def setCallback (state : StreamState T) (id : Nat) (pc : CallbackPc) : StreamState T :=
  { state with callbacks := Function.update state.callbacks id pc }

/-- `currentEvent_ = std::move(*msg); StartWrite(&currentEvent_);` -/
def startWrite (state : StreamState T) (event : T) : StreamState T :=
  { state with currentEvent := event, outstanding := state.outstanding + 1 }

/-- The next step of a thread in `enqueueMessage`; `none` while it has to wait. -/
def producerStep (state : StreamState T) (id : Nat) : Option (StreamState T) :=
  match state.producers id with
  | .idle | .asleep _ => none
  | .admitted event ttlMs =>
      if state.writeMutex = none then
        some { state.setProducer id (.locked event ttlMs) with
          writeMutex := some (.producer id) }
      else none
  | .locked event ttlMs =>
      if state.queue.closed then
        some (state.setProducer id (.returning .droppedDisconnected))
      else
        some (state.setProducer id (.prepared (state.queue.prepare state.clock event ttlMs)))
  | .prepared message =>
      if state.queueMutex = none then
        some { state.setProducer id (.inside message) with queueMutex := some (.producer id) }
      else none
  | .inside message =>
      match state.queue.enqueueLocked message with
      | .returned queue result =>
          some { state.setProducer id (.returning result) with queue, queueMutex := none }
      | .waits => some { state.setProducer id (.asleep message) with queueMutex := none }
  | .woken message timedOut =>
      if state.queueMutex = none then
        some { state.setProducer id (.rechecking message timedOut) with
          queueMutex := some (.producer id) }
      else none
  | .rechecking message timedOut =>
      if state.queue.waitOver || timedOut then
        some { state.setProducer id (.returning .enqueued) with
          queue := state.queue.afterWait state.queue.waitOver message
          queueMutex := none }
      else
        some { state.setProducer id (.asleep message) with queueMutex := none }
  | .returning result =>
      some { state.setProducer id (if result = .enqueued then .exchanging else .idle) with
        writeMutex := none }
  | .exchanging =>
      if state.writing then some (state.setProducer id .idle)
      else some { state.setProducer id .claimed with writing := true }
  | .claimed =>
      if state.writeMutex = none then
        some { state.setProducer id .testing with writeMutex := some (.producer id) }
      else none
  | .testing =>
      if state.queueMutex = none then
        some (state.setProducer id (if state.queue.empty then .clearing else .draining))
      else none
  | .draining =>
      if state.queueMutex = none then
        match state.queue.dequeue state.clock with
        | (queue, some event) =>
            some { (state.setProducer id .idle).startWrite event with
              queue, writeMutex := none }
        -- nothing is written and the flag stays set
        | (queue, none) => some { state.setProducer id .idle with queue, writeMutex := none }
      else none
  | .clearing =>
      some { state.setProducer id .idle with writing := false, writeMutex := none }

/-- The next step of a thread in `OnWriteDone`. -/
def callbackStep (state : StreamState T) (id : Nat) : Option (StreamState T) :=
  match state.callbacks id with
  | .idle => none
  | .answered ok =>
      if !ok || !state.active then some { state.setCallback id .idle with finished := true }
      else some (state.setCallback id .admitted)
  | .admitted =>
      if state.writeMutex = none then
        some { state.setCallback id .testing with writeMutex := some (.callback id) }
      else none
  | .testing =>
      if state.queueMutex = none then
        some (state.setCallback id (if state.queue.empty then .clearing else .draining))
      else none
  | .draining =>
      if state.queueMutex = none then
        match state.queue.dequeue state.clock with
        | (queue, some event) =>
            some { (state.setCallback id .idle).startWrite event with
              queue, writeMutex := none }
        | (queue, none) => some { state.setCallback id .clearing with queue }
      else none
  | .clearing =>
      some { state.setCallback id .idle with writing := false, writeMutex := none }

def step (state : StreamState T) : StreamAction T → Option (StreamState T)
  | .call id event ttlMs =>
      match state.producers id with
      | .idle =>
          if state.active then some (state.setProducer id (.admitted event ttlMs))
          else some state
      | _ => none
  | .producer id => state.producerStep id
  | .wake id timedOut =>
      match state.producers id with
      | .asleep message => some (state.setProducer id (.woken message timedOut))
      | _ => none
  | .writeDone id ok =>
      if state.callbacks id = .idle ∧ 0 < state.outstanding then
        some { state.setCallback id (.answered ok) with
          outstanding := state.outstanding - 1 }
      else none
  | .callback id => state.callbackStep id
  | .reap =>
      if state.queueMutex = none then
        some { state with queue := (state.queue.reapExpired state.clock).1 }
      else none
  | .cancel => some { state with active := false }
  | .tick elapsed => some { state with clock := state.clock + elapsed }

end StreamState

end NexusD.Services
