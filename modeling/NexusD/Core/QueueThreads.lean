import NexusD.Core.SubscriberQueue
import NexusD.Library.Execution
import NexusD.Library.FrontLoss

/-! The subscriber queue under any number of threads.
`enqueue` tests `closed_` and prepares its message before it takes the mutex, and under `BLOCK`
it gives the mutex up to wait. The sections it holds the mutex in are single steps, and so are
the other operations.
-/

namespace NexusD.Core

open NexusD.Library

namespace SubscriberQueue

variable {T : Type}

def close (queue : SubscriberQueue T) : SubscriberQueue T := { queue with closed := true }

/-- The message goes in at the back, `dropped` goes out at the front. -/
structure Inserts (before after : SubscriberQueue T) (message : QueuedMessage T)
    (dropped : List (QueuedMessage T))
    : Prop where
  messages : before.messages ++ [message] = dropped ++ after.messages
  room
    : 0 < before.limit
      → before.messages.length ≤ before.limit
      → after.messages.length ≤ before.limit
  limit : after.limit = before.limit
  totalEnqueued : after.stats.totalEnqueued = before.stats.totalEnqueued + 1
  totalDelivered : after.stats.totalDelivered = before.stats.totalDelivered
  droppedOldest : after.stats.droppedOldest = before.stats.droppedOldest + dropped.length
  droppedNewest : after.stats.droppedNewest = before.stats.droppedNewest
  droppedTtl : after.stats.droppedTtl = before.stats.droppedTtl
  highWatermark
    : after.stats.highWatermark = max before.stats.highWatermark after.messages.length

/-- `expired` goes out at the front, and then `taken`. -/
structure Removes (before after : SubscriberQueue T)
    (expired taken : List (QueuedMessage T))
    : Prop where
  messages : before.messages = expired ++ (taken ++ after.messages)
  limit : after.limit = before.limit
  totalEnqueued : after.stats.totalEnqueued = before.stats.totalEnqueued
  totalDelivered : after.stats.totalDelivered = before.stats.totalDelivered + taken.length
  droppedOldest : after.stats.droppedOldest = before.stats.droppedOldest
  droppedNewest : after.stats.droppedNewest = before.stats.droppedNewest
  droppedTtl : after.stats.droppedTtl = before.stats.droppedTtl + expired.length
  highWatermark : after.stats.highWatermark = before.stats.highWatermark

theorem pushBack_inserts {queue : SubscriberQueue T} (message : QueuedMessage T)
    (room : 0 < queue.limit → queue.messages.length < queue.limit)
    : Inserts queue (queue.pushBack message) message [] where
  messages := rfl
  room limited _ := by
    have space := room limited
    simp only [pushBack, List.length_append, List.length_singleton]
    exact space
  limit := rfl
  totalEnqueued := rfl
  totalDelivered := rfl
  droppedOldest := rfl
  droppedNewest := rfl
  droppedTtl := rfl
  highWatermark := rfl

/-- The front makes place for the message, if there is one. -/
theorem dropFront_pushBack_inserts (queue : SubscriberQueue T) (message : QueuedMessage T)
    : ∃ dropped, Inserts queue (queue.dropFront.pushBack message) message dropped := by
  cases contents : queue.messages with
  | nil =>
      have same : queue.dropFront = queue := by simp [dropFront, contents]
      rw [same]
      exact ⟨[], pushBack_inserts message (by simp [contents])⟩
  | cons front rest =>
      refine ⟨[front], ?_⟩
      constructor <;> simp [dropFront, pushBack, contents]

theorem afterWait_inserts {queue : SubscriberQueue T} (message : QueuedMessage T)
    {gotSpace : Bool} (ended : gotSpace = true → queue.waitOver = true)
    : ∃ dropped, Inserts queue (queue.afterWait gotSpace message) message dropped := by
  unfold afterWait
  split
  · obtain ⟨dropped, inserts⟩ :=
      dropFront_pushBack_inserts queue.countBlockTimeout message
    exact ⟨dropped, inserts.1, inserts.2, inserts.3, inserts.4, inserts.5, inserts.6,
      inserts.7, inserts.8, inserts.9⟩
  · rename_i stays
    simp only [Bool.or_eq_true, Bool.not_eq_true', not_or, Bool.not_eq_false,
      Bool.not_eq_true] at stays
    have space := ended stays.1
    simp only [waitOver, stays.2, Bool.false_or, decide_eq_true_eq] at space
    exact ⟨[], pushBack_inserts message (fun _ => space)⟩

/-- The first locked section inserts the message, or refuses it and counts that. -/
theorem enqueueLocked_effect {queue after : SubscriberQueue T} {message : QueuedMessage T}
    {result : EnqueueResult} (done : queue.enqueueLocked message = .returned after result)
    : (result = .enqueued ∧ ∃ dropped, Inserts queue after message dropped)
      ∨ (result = .droppedNewest
        ∧ after
          = { queue with
              stats := { queue.stats with
                droppedNewest := queue.stats.droppedNewest + 1 } }) := by
  unfold enqueueLocked at done
  split at done
  · split at done
    · cases done
      exact .inl ⟨rfl, dropFront_pushBack_inserts queue message⟩
    · cases done
      exact .inr ⟨rfl, rfl⟩
    · split at done
      · rename_i ended
        cases done
        exact .inl ⟨rfl, afterWait_inserts message (fun _ => ended)⟩
      · cases done
  · rename_i notFull
    cases done
    refine .inl ⟨rfl, [], pushBack_inserts message ?_⟩
    intro limited
    simpa [full, limited] using notFull

/-- An `enqueue` that nobody disturbs inserts the message, or leaves the contents alone. -/
theorem enqueue_effect (queue : SubscriberQueue T) (now : TimePoint) (message : T)
    (messageTtlMs : Int)
    : ((queue.enqueue now message messageTtlMs).2 = .enqueued
        ∧ ∃ dropped,
            Inserts queue (queue.enqueue now message messageTtlMs).1
              (queue.prepare now message messageTtlMs) dropped)
      ∨ ((queue.enqueue now message messageTtlMs).2 ≠ .enqueued
        ∧ (queue.enqueue now message messageTtlMs).1.messages = queue.messages
        ∧ (queue.enqueue now message messageTtlMs).1.stats.totalEnqueued
          = queue.stats.totalEnqueued
        ∧ (queue.enqueue now message messageTtlMs).1.stats.totalDelivered
          = queue.stats.totalDelivered) := by
  unfold enqueue
  split
  · exact .inr ⟨by simp, rfl, rfl, rfl⟩
  · dsimp only
    split
    · rename_i after result done
      rcases enqueueLocked_effect done with ⟨rfl, inserts⟩ | ⟨rfl, rfl⟩
      · exact .inl ⟨rfl, inserts⟩
      · exact .inr ⟨by simp, rfl, rfl, rfl⟩
    · have never : false = true → queue.waitOver = true := by simp
      exact .inl ⟨rfl, afterWait_inserts _ never⟩

theorem enqueue_totalEnqueued_le (queue : SubscriberQueue T) (now : TimePoint) (message : T)
    (messageTtlMs : Int)
    : (queue.enqueue now message messageTtlMs).1.stats.totalEnqueued
      ≤ queue.stats.totalEnqueued + 1 := by
  rcases queue.enqueue_effect now message messageTtlMs with
    ⟨_, dropped, inserts⟩ | ⟨_, _, same, _⟩
  · exact Nat.le_of_eq inserts.totalEnqueued
  · rw [same]
    exact Nat.le_succ _

theorem enqueue_totalDelivered (queue : SubscriberQueue T) (now : TimePoint) (message : T)
    (messageTtlMs : Int)
    : (queue.enqueue now message messageTtlMs).1.stats.totalDelivered
      = queue.stats.totalDelivered := by
  rcases queue.enqueue_effect now message messageTtlMs with
    ⟨_, dropped, inserts⟩ | ⟨_, _, _, same⟩
  · exact inserts.totalDelivered
  · exact same

/-- An open queue refuses a message exactly when it is full under `DROP_NEWEST`. -/
theorem enqueue_enqueued_iff {queue : SubscriberQueue T} (opened : queue.closed = false)
    (now : TimePoint) (message : T) (messageTtlMs : Int)
    : (queue.enqueue now message messageTtlMs).2 = .enqueued
      ↔ ¬(queue.policy = .dropNewest ∧ queue.full = true) := by
  simp only [enqueue, opened, enqueueLocked]
  cases room : queue.full with
  | false => simp
  | true =>
      cases queue.policy with
      | dropOldest => simp
      | dropNewest => simp
      | block => cases queue.waitOver <;> simp

theorem enqueue_of_room {queue : SubscriberQueue T} (opened : queue.closed = false)
    (room : queue.full = false) (now : TimePoint) (message : T) (messageTtlMs : Int)
    : queue.enqueue now message messageTtlMs
      = (queue.pushBack (queue.prepare now message messageTtlMs), .enqueued) := by
  simp [enqueue, opened, enqueueLocked, room]

theorem skipExpired_split (now : TimePoint) (messages : List (QueuedMessage T))
    : ∃ expired,
        messages = expired ++ (skipExpired now messages).1
        ∧ (skipExpired now messages).2 = expired.length := by
  refine ⟨messages.takeWhile (QueuedMessage.expired now), ?_, ?_⟩
  · rw [skipExpired_eq, List.takeWhile_append_dropWhile]
  · rw [skipExpired_eq]

theorem reapExpired_removes (queue : SubscriberQueue T) (now : TimePoint)
    : ∃ expired, Removes queue (queue.reapExpired now).1 expired [] := by
  obtain ⟨expired, split, counted⟩ := skipExpired_split now queue.messages
  refine ⟨expired, ?_⟩
  constructor <;> simp [reapExpired, counted]
  exact split

/-- `dequeue` returns the first message that has not expired, and takes it out. -/
theorem dequeue_removes (queue : SubscriberQueue T) (now : TimePoint)
    : ∃ expired taken,
        Removes queue (queue.dequeue now).1 expired taken
        ∧ (queue.dequeue now).2.toList = taken.map QueuedMessage.message := by
  obtain ⟨expired, split, counted⟩ := skipExpired_split now queue.messages
  unfold dequeue
  split
  · rename_i count skipped
    rw [skipped] at split counted
    refine ⟨expired, [], ?_, rfl⟩
    constructor <;> simp_all
  · rename_i front rest count skipped
    rw [skipped] at split counted
    refine ⟨expired, [front], ?_, rfl⟩
    constructor <;> simp_all

end SubscriberQueue

-----------------------------------------------------------------------------------------
-- The threads
-----------------------------------------------------------------------------------------

/-- Where a call of `enqueue` is. -/
inductive EnqueuePc (T : Type) where
  | idle
  /-- the message is ready, next is the mutex -/
  | prepared (message : QueuedMessage T)
  /-- waiting for space -/
  | asleep (message : QueuedMessage T)

/-- The queue and its producers, with what has happened so far. -/
structure QueueThreads (T : Type) where
  queue : SubscriberQueue T
  calls : Nat → EnqueuePc T := fun _ => .idle
  /-- the messages pushed -/
  log : List (QueuedMessage T) := []
  /-- the messages `dequeue` returned -/
  delivered : List T := []
  /-- the results of the completed `enqueue` calls -/
  results : List EnqueueResult := []

namespace QueueThreads

variable {T : Type}

inductive Action (T : Type) where
  | call (thread : Nat) (now : TimePoint) (message : T) (ttlMs : Int)
  /-- the first section under the mutex -/
  | lock (thread : Nat)
  /-- the end of a wait, or a wake-up in vain -/
  | wake (thread : Nat) (timedOut : Bool)
  | dequeue (now : TimePoint)
  | reapExpired (now : TimePoint)
  | close

def setCall (state : QueueThreads T) (thread : Nat) (pc : EnqueuePc T) : QueueThreads T :=
  { state with calls := Function.update state.calls thread pc }

/-- The call returns. -/
def answer (state : QueueThreads T) (thread : Nat) (result : EnqueueResult)
    : QueueThreads T :=
  { state.setCall thread .idle with results := state.results ++ [result] }

def callStep (state : QueueThreads T) (thread : Nat) (now : TimePoint) (message : T)
    (ttlMs : Int)
    : Option (QueueThreads T) :=
  match state.calls thread with
  | .idle =>
      if state.queue.closed then
        some (state.answer thread .droppedDisconnected)
      else
        some (state.setCall thread (.prepared (state.queue.prepare now message ttlMs)))
  | .prepared _ | .asleep _ => none

def lockStep (state : QueueThreads T) (thread : Nat) : Option (QueueThreads T) :=
  match state.calls thread with
  | .prepared message =>
      match state.queue.enqueueLocked message with
      | .returned queue result =>
          some { state.answer thread result with
            queue
            log := if result = .enqueued then state.log ++ [message] else state.log }
      | .waits => some (state.setCall thread (.asleep message))
  | .idle | .asleep _ => none

def wakeStep (state : QueueThreads T) (thread : Nat) (timedOut : Bool)
    : Option (QueueThreads T) :=
  match state.calls thread with
  | .asleep message =>
      if state.queue.waitOver || timedOut then
        some { state.answer thread .enqueued with
          queue := state.queue.afterWait state.queue.waitOver message
          log := state.log ++ [message] }
      else
        some state
  | .idle | .prepared _ => none

def step (state : QueueThreads T) : Action T → Option (QueueThreads T)
  | .call thread now message ttlMs => state.callStep thread now message ttlMs
  | .lock thread => state.lockStep thread
  | .wake thread timedOut => state.wakeStep thread timedOut
  | .dequeue now =>
      some { state with
        queue := (state.queue.dequeue now).1
        delivered := state.delivered ++ (state.queue.dequeue now).2.toList }
  | .reapExpired now => some { state with queue := (state.queue.reapExpired now).1 }
  | .close => some { state with queue := state.queue.close }

def start (T : Type) (limit : Nat) (policy : BackpressurePolicy) (defaultTtlMs : Int)
    : QueueThreads T where
  queue := { limit, policy, defaultTtlMs }

/-- The actions of an `enqueue` that nothing interrupts. -/
def enqueueAlone (state : QueueThreads T) (thread : Nat) (now : TimePoint) (message : T)
    (ttlMs : Int)
    : List (Action T) :=
  if state.queue.closed then
    [.call thread now message ttlMs]
  else
    match state.queue.enqueueLocked (state.queue.prepare now message ttlMs) with
    | .returned _ _ => [.call thread now message ttlMs, .lock thread]
    | .waits => [.call thread now message ttlMs, .lock thread, .wake thread true]

/-- Such a call is the one of the sequential queue. -/
theorem exec_enqueueAlone {state : QueueThreads T} {thread : Nat}
    (idle : state.calls thread = .idle) (now : TimePoint) (message : T) (ttlMs : Int)
    : ∃ after,
        exec step state (state.enqueueAlone thread now message ttlMs) = some after
        ∧ after.queue = (state.queue.enqueue now message ttlMs).1
        ∧ after.results = state.results ++ [(state.queue.enqueue now message ttlMs).2]
        ∧ after.calls = state.calls := by
  have back : Function.update state.calls thread .idle = state.calls := by
    rw [← idle, Function.update_eq_self]
  unfold enqueueAlone SubscriberQueue.enqueue
  split
  · rename_i closed
    simp [step, callStep, idle, closed, answer, setCall, back]
  · rename_i opened
    cases locked : state.queue.enqueueLocked (state.queue.prepare now message ttlMs) with
    | returned queue result =>
        simp [step, callStep, lockStep, idle, opened, answer, setCall, locked, back]
    | waits =>
        have sleeps := SubscriberQueue.waitOver_of_waits locked
        simp [step, callStep, lockStep, wakeStep, idle, opened, answer, setCall, locked, back,
          sleeps]

/-- Everything a step can do. -/
inductive Change (before after : QueueThreads T) : Prop where
  /-- nothing but where the calls are and whether the queue is closed -/
  | moved
      (messages : after.queue.messages = before.queue.messages)
      (stats : after.queue.stats = before.queue.stats)
      (limit : after.queue.limit = before.queue.limit)
      (log : after.log = before.log)
      (delivered : after.delivered = before.delivered)
      (results : after.results = before.results)
  | inserted (message : QueuedMessage T) (dropped : List (QueuedMessage T))
      (inserts : before.queue.Inserts after.queue message dropped)
      (log : after.log = before.log ++ [message])
      (delivered : after.delivered = before.delivered)
      (results : after.results = before.results ++ [.enqueued])
  | refused
      (queue
        : after.queue
          = { before.queue with
              stats := { before.queue.stats with
                droppedNewest := before.queue.stats.droppedNewest + 1 } })
      (log : after.log = before.log)
      (delivered : after.delivered = before.delivered)
      (results : after.results = before.results ++ [.droppedNewest])
  | disconnected
      (queue : after.queue = before.queue)
      (log : after.log = before.log)
      (delivered : after.delivered = before.delivered)
      (results : after.results = before.results ++ [.droppedDisconnected])
  | removed (expired taken : List (QueuedMessage T))
      (removes : before.queue.Removes after.queue expired taken)
      (log : after.log = before.log)
      (delivered : after.delivered = before.delivered ++ taken.map QueuedMessage.message)
      (results : after.results = before.results)

theorem change_of_step {state after : QueueThreads T} {action : Action T}
    (taken : state.step action = some after)
    : Change state after := by
  cases action with
  | call thread now message ttlMs =>
      simp only [step, callStep] at taken
      split at taken
      · split at taken
        · cases taken
          exact .disconnected rfl rfl rfl rfl
        · cases taken
          exact .moved rfl rfl rfl rfl rfl rfl
      · cases taken
      · cases taken
  | lock thread =>
      simp only [step, lockStep] at taken
      split at taken
      · rename_i message _
        split at taken
        · rename_i queue result done
          cases taken
          rcases SubscriberQueue.enqueueLocked_effect done with
            ⟨rfl, dropped, inserts⟩ | ⟨rfl, rfl⟩
          · exact .inserted message dropped inserts rfl rfl rfl
          · exact .refused rfl rfl rfl rfl
        · cases taken
          exact .moved rfl rfl rfl rfl rfl rfl
      · cases taken
      · cases taken
  | wake thread timedOut =>
      simp only [step, wakeStep] at taken
      split at taken
      · rename_i message _
        split at taken
        · cases taken
          obtain ⟨dropped, inserts⟩ :=
            SubscriberQueue.afterWait_inserts message (fun ended => ended)
          exact .inserted message dropped inserts rfl rfl rfl
        · cases taken
          exact .moved rfl rfl rfl rfl rfl rfl
      · cases taken
      · cases taken
  | dequeue now =>
      cases taken
      obtain ⟨expired, front, removes, returned⟩ := state.queue.dequeue_removes now
      exact .removed expired front removes rfl (by rw [← returned]) rfl
  | reapExpired now =>
      cases taken
      obtain ⟨expired, removes⟩ := state.queue.reapExpired_removes now
      exact .removed expired [] removes rfl (by simp) rfl
  | close =>
      cases taken
      exact .moved rfl rfl rfl rfl rfl rfl

-----------------------------------------------------------------------------------------
-- A bounded queue that only loses from the front
-----------------------------------------------------------------------------------------

/-- The contents against what went in and came out. -/
structure Fifo (limit : Nat) (state : QueueThreads T) : Prop where
  settings : state.queue.limit = limit
  contents
    : FrontLoss QueuedMessage.message state.log state.delivered state.queue.messages
  bounded : 0 < limit → state.queue.messages.length ≤ limit

theorem Fifo.change {limit : Nat} {state after : QueueThreads T} (fifo : state.Fifo limit)
    (change : Change state after)
    : after.Fifo limit := by
  obtain ⟨rfl, contents, bounded⟩ := fifo
  cases change with
  | moved messages stats settings log delivered results =>
      exact ⟨settings, by rwa [log, delivered, messages], by rwa [messages]⟩
  | inserted message dropped inserts log delivered results =>
      refine ⟨inserts.limit, ?_, fun limited => inserts.room limited (bounded limited)⟩
      have pushed := contents.push message
      rw [inserts.messages] at pushed
      rw [log, delivered]
      exact pushed.lose
  | refused queue log delivered results =>
      exact ⟨by rw [queue], by rwa [log, delivered, queue], by rwa [queue]⟩
  | disconnected queue log delivered results =>
      exact ⟨by rw [queue], by rwa [log, delivered, queue], by rwa [queue]⟩
  | removed expired taken removes log delivered results =>
      refine ⟨removes.limit, ?_, ?_⟩
      · rw [removes.messages] at contents
        rw [log, delivered]
        exact contents.lose.deliver
      · intro limited
        have before := bounded limited
        rw [removes.messages, List.length_append, List.length_append] at before
        omega

theorem fifo_start (limit : Nat) (policy : BackpressurePolicy) (defaultTtlMs : Int)
    : (start T limit policy defaultTtlMs).Fifo limit :=
  ⟨rfl, frontLoss_nil, fun _ => Nat.zero_le limit⟩

/-- In every interleaving the contents are the end of the log, what `dequeue` returned is part
of the log in its order, and the limit holds.
-/
theorem boundedFifo_of_exec {limit : Nat} {policy : BackpressurePolicy} {defaultTtlMs : Int}
    {actions : List (Action T)} {state : QueueThreads T}
    (run : exec step (start T limit policy defaultTtlMs) actions = some state)
    : state.queue.messages <:+ state.log
      ∧ state.delivered.Sublist (state.log.map QueuedMessage.message)
      ∧ (0 < limit → state.queue.messages.length ≤ limit) := by
  have fifo : state.Fifo limit :=
    exec_always (Fifo limit) (fifo_start limit policy defaultTtlMs)
      (fun fifo taken => fifo.change (change_of_step taken)) run
  exact ⟨fifo.contents.suffix, fifo.contents.sublist, fifo.bounded⟩

-----------------------------------------------------------------------------------------
-- The statistics
-----------------------------------------------------------------------------------------

/-- Every message and every call is counted once. -/
structure Balanced (state : QueueThreads T) : Prop where
  messages
    : state.queue.stats.totalEnqueued
      = state.queue.stats.totalDelivered + state.queue.stats.droppedOldest
        + state.queue.stats.droppedTtl + state.queue.messages.length
  calls
    : state.results.length
      = state.queue.stats.totalEnqueued + state.queue.stats.droppedNewest
        + state.results.count .droppedDisconnected

theorem Balanced.change {state after : QueueThreads T} (balanced : state.Balanced)
    (change : Change state after)
    : after.Balanced := by
  obtain ⟨messages, calls⟩ := balanced
  cases change with
  | moved same stats limit log delivered results =>
      exact ⟨by rwa [same, stats], by rwa [results, stats]⟩
  | inserted message dropped inserts log delivered results =>
      have lengths := congrArg List.length inserts.messages
      simp only [List.length_append, List.length_singleton] at lengths
      constructor
      · rw [inserts.totalEnqueued, inserts.totalDelivered, inserts.droppedOldest,
          inserts.droppedTtl]
        omega
      · rw [results, inserts.totalEnqueued, inserts.droppedNewest]
        simp only [List.length_append, List.length_singleton, List.count_append,
          List.count_singleton, reduceCtorEq, beq_iff_eq, if_false]
        omega
  | refused queue log delivered results =>
      refine ⟨by rwa [queue], ?_⟩
      rw [queue, results]
      simp only [List.length_append, List.length_singleton, List.count_append,
        List.count_singleton, reduceCtorEq, beq_iff_eq, if_false]
      omega
  | disconnected queue log delivered results =>
      refine ⟨by rwa [queue], ?_⟩
      rw [queue, results]
      simp only [List.length_append, List.length_singleton, List.count_append,
        List.count_singleton_self]
      omega
  | removed expired taken removes log delivered results =>
      have lengths := congrArg List.length removes.messages
      simp only [List.length_append] at lengths
      constructor
      · rw [removes.totalEnqueued, removes.totalDelivered, removes.droppedOldest,
          removes.droppedTtl]
        omega
      · rwa [results, removes.totalEnqueued, removes.droppedNewest]

/-- Only insertions raise the depth, and they raise the watermark with it. -/
theorem highWatermark_change {state after : QueueThreads T} (change : Change state after)
    (reached : state.queue.messages.length ≤ state.queue.stats.highWatermark)
    : after.queue.stats.highWatermark
      = max state.queue.stats.highWatermark after.queue.messages.length := by
  cases change with
  | moved messages stats limit log delivered results =>
      rw [stats, messages, max_eq_left reached]
  | inserted message dropped inserts log delivered results => exact inserts.highWatermark
  | refused queue log delivered results => rw [queue, max_eq_left reached]
  | disconnected queue log delivered results => rw [queue, max_eq_left reached]
  | removed expired taken removes log delivered results =>
      have lengths := congrArg List.length removes.messages
      simp only [List.length_append] at lengths
      rw [removes.highWatermark, max_eq_left]
      omega

/-- In every interleaving each message pushed is delivered, dropped, expired or still there,
each completed call is counted once, and the watermark is the largest depth there has been.
-/
theorem statistics_of_exec {limit : Nat} {policy : BackpressurePolicy} {defaultTtlMs : Int}
    {actions : List (Action T)} {state : QueueThreads T}
    (run : exec step (start T limit policy defaultTtlMs) actions = some state)
    : state.queue.stats.totalEnqueued
        = state.queue.stats.totalDelivered + state.queue.stats.droppedOldest
          + state.queue.stats.droppedTtl + state.queue.messages.length
      ∧ state.results.length
        = state.queue.stats.totalEnqueued + state.queue.stats.droppedNewest
          + state.results.count .droppedDisconnected
      ∧ IsGreatest
          { depth
            | ∃ visited,
                Visits step (start T limit policy defaultTtlMs) actions visited
                ∧ depth = visited.queue.messages.length }
          state.queue.stats.highWatermark := by
  have balanced : state.Balanced :=
    exec_always Balanced ⟨rfl, rfl⟩
      (fun balanced taken => balanced.change (change_of_step taken)) run
  refine ⟨balanced.messages, balanced.calls, ?_⟩
  refine isGreatest_of_exec (fun state => state.queue.messages.length)
    (fun state => state.queue.stats.highWatermark)
    (fun state => state.queue.messages.length ≤ state.queue.stats.highWatermark)
    ⟨rfl, Nat.le_refl 0⟩ ?_ run
  intro before action after reached taken
  have raised := highWatermark_change (change_of_step taken) reached
  exact ⟨raised, raised ▸ le_max_right _ _⟩

/-- Two producers meet a full queue under `BLOCK`; one times out, the other gets the place
that `dequeue` frees, and a third comes after `close`.
-/
def blockedProducers : List (Action Nat) :=
  [
    .call 0 0 10 0, .lock 0,
    .call 1 0 11 0, .lock 1, .wake 1 true,
    .call 2 0 12 0, .lock 2, .wake 2 false, .dequeue 5, .wake 2 false,
    .close, .call 0 6 13 0
  ]

theorem boundedFifo_blockedProducers
    : ∃ state,
        exec step (start Nat 1 .block 0) blockedProducers = some state
        ∧ state.log.map QueuedMessage.message = [10, 11, 12]
        ∧ state.delivered = [11]
        ∧ state.queue.messages <:+ state.log
        ∧ state.delivered.Sublist (state.log.map QueuedMessage.message)
        ∧ (0 < 1 → state.queue.messages.length ≤ 1) := by
  obtain ⟨state, run, logged, delivered⟩
    : ∃ state,
        exec step (start Nat 1 .block 0) blockedProducers = some state
        ∧ state.log.map QueuedMessage.message = [10, 11, 12]
        ∧ state.delivered = [11] :=
    ⟨_, rfl, rfl, rfl⟩
  exact ⟨state, run, logged, delivered, boundedFifo_of_exec run⟩

theorem statistics_blockedProducers
    : ∃ state,
        exec step (start Nat 1 .block 0) blockedProducers = some state
        ∧ state.results = [.enqueued, .enqueued, .enqueued, .droppedDisconnected]
        ∧ state.results.length
          = state.queue.stats.totalEnqueued + state.queue.stats.droppedNewest
            + state.results.count .droppedDisconnected := by
  obtain ⟨state, run, results⟩
    : ∃ state,
        exec step (start Nat 1 .block 0) blockedProducers = some state
        ∧ state.results = [.enqueued, .enqueued, .enqueued, .droppedDisconnected] :=
    ⟨_, rfl, rfl⟩
  exact ⟨state, run, results, (statistics_of_exec run).2.1⟩

end QueueThreads

end NexusD.Core
