import Mathlib.Data.List.TakeWhile
import NexusD.Core.Basic

/-! The per-subscriber queue: its critical sections, each run under `mutex_`.
`enqueue` may give the mutex up in the middle, in the wait of the `BLOCK` policy, so it is
cut there; `enqueue` itself is the uncontended composition of the pieces.
-/

namespace NexusD.Core

/-- Backpressure policy when the queue is full. -/
inductive BackpressurePolicy where
  | dropOldest
  | dropNewest
  | block
deriving DecidableEq, Repr

/-- Result of an enqueue operation. -/
inductive EnqueueResult where
  | enqueued
  | droppedOldest
  | droppedNewest
  | droppedTtl
  | droppedDisconnected
  | blocked
deriving DecidableEq, Repr

/-- The counters of `stats_`; depth and limit are filled in only when they are read. -/
structure QueueStats where
  totalEnqueued : Nat := 0
  totalDelivered : Nat := 0
  droppedOldest : Nat := 0
  droppedNewest : Nat := 0
  droppedTtl : Nat := 0
  blockTimeouts : Nat := 0
  highWatermark : Nat := 0
deriving DecidableEq, Repr

structure QueuedMessage (T : Type) where
  message : T
  expiryTime : TimePoint
  enqueueTime : TimePoint
deriving DecidableEq, Repr

/-- `expiry_time <= now` -/
def QueuedMessage.expired {T : Type} (now : TimePoint) (message : QueuedMessage T) : Bool :=
  message.expiryTime ≤ now

structure SubscriberQueue (T : Type) where
  limit : Nat
  policy : BackpressurePolicy
  defaultTtlMs : Int
  messages : List (QueuedMessage T) := []
  closed : Bool := false
  stats : QueueStats := {}
deriving DecidableEq, Repr

/-- Where the first locked section of `enqueue` leaves its caller. -/
inductive LockedOutcome (T : Type) where
  | returned (queue : SubscriberQueue T) (result : EnqueueResult)
  | waits

namespace SubscriberQueue

variable {T : Type}

/-- The message with its expiry time, computed before the mutex is taken. The message TTL
wins over the default; without either the message never expires.
-/
def prepare (queue : SubscriberQueue T) (now : TimePoint) (message : T) (messageTtlMs : Int)
    : QueuedMessage T :=
  let effectiveTtl := if 0 < messageTtlMs then messageTtlMs else queue.defaultTtlMs
  {
    message
    expiryTime := if 0 < effectiveTtl then now.addMilliseconds effectiveTtl else TimePoint.max
    enqueueTime := now
  }

def full (queue : SubscriberQueue T) : Bool :=
  0 < queue.limit && queue.limit ≤ queue.messages.length

def dropFront (queue : SubscriberQueue T) : SubscriberQueue T :=
  match queue.messages with
  | [] => queue
  | _ :: rest =>
      { queue with
        messages := rest
        stats := { queue.stats with droppedOldest := queue.stats.droppedOldest + 1 } }

def pushBack (queue : SubscriberQueue T) (message : QueuedMessage T) : SubscriberQueue T :=
  let messages := queue.messages ++ [message]
  { queue with
    messages
    stats := { queue.stats with
      totalEnqueued := queue.stats.totalEnqueued + 1
      highWatermark := max queue.stats.highWatermark messages.length } }

/-- The predicate of the condition variable's wait. -/
def waitOver (queue : SubscriberQueue T) : Bool :=
  queue.closed || queue.messages.length < queue.limit

def countBlockTimeout (queue : SubscriberQueue T) : SubscriberQueue T :=
  { queue with stats := { queue.stats with blockTimeouts := queue.stats.blockTimeouts + 1 } }

/-- The rest of `enqueue` once the wait has ended with `gotSpace`. A closed queue is treated
like a timeout.
-/
def afterWait (queue : SubscriberQueue T) (gotSpace : Bool) (message : QueuedMessage T)
    : SubscriberQueue T :=
  if !gotSpace || queue.closed then
    -- fall back to dropping the oldest message
    queue.countBlockTimeout.dropFront.pushBack message
  else
    queue.pushBack message

/-- `enqueue` from taking the mutex to returning or going to sleep. -/
def enqueueLocked (queue : SubscriberQueue T) (message : QueuedMessage T)
    : LockedOutcome T :=
  if queue.full then
    match queue.policy with
    | .dropOldest => .returned (queue.dropFront.pushBack message) .enqueued
    | .dropNewest =>
        .returned
          { queue with
            stats := { queue.stats with droppedNewest := queue.stats.droppedNewest + 1 } }
          .droppedNewest
    | .block =>
        -- the wait tests its predicate before it sleeps
        if queue.waitOver then .returned (queue.afterWait true message) .enqueued else .waits
  else
    .returned (queue.pushBack message) .enqueued

/-- `enqueue` with nobody else at work: a wait can only end by its timeout. -/
def enqueue (queue : SubscriberQueue T) (now : TimePoint) (message : T) (messageTtlMs : Int)
    : SubscriberQueue T × EnqueueResult :=
  if queue.closed then
    (queue, .droppedDisconnected)
  else
    let queued := queue.prepare now message messageTtlMs
    match queue.enqueueLocked queued with
    | .returned after result => (after, result)
    | .waits => (queue.afterWait false queued, .enqueued)

/-- Pop the expired messages at the front, and count them. -/
def skipExpired (now : TimePoint)
    : List (QueuedMessage T) → List (QueuedMessage T) × Nat
  | [] => ([], 0)
  | front :: rest =>
      if front.expiryTime ≤ now then
        let (live, expired) := skipExpired now rest
        (live, expired + 1)
      else
        (front :: rest, 0)

def dequeue (queue : SubscriberQueue T) (now : TimePoint) : SubscriberQueue T × Option T :=
  match skipExpired now queue.messages with
  | ([], expired) =>
      ({ queue with
          messages := []
          stats := { queue.stats with droppedTtl := queue.stats.droppedTtl + expired } },
        none)
  | (front :: rest, expired) =>
      ({ queue with
          messages := rest
          stats := { queue.stats with
            droppedTtl := queue.stats.droppedTtl + expired
            totalDelivered := queue.stats.totalDelivered + 1 } },
        some front.message)

def reapExpired (queue : SubscriberQueue T) (now : TimePoint) : SubscriberQueue T × Nat :=
  let (live, expired) := skipExpired now queue.messages
  ({ queue with
      messages := live
      stats := { queue.stats with droppedTtl := queue.stats.droppedTtl + expired } },
    expired)

def empty (queue : SubscriberQueue T) : Bool := queue.messages.isEmpty

/-- The configuration of a queue and its closed flag. -/
structure SameSettings (before after : SubscriberQueue T) : Prop where
  limit : after.limit = before.limit
  policy : after.policy = before.policy
  closed : after.closed = before.closed

theorem SameSettings.refl (queue : SubscriberQueue T) : SameSettings queue queue :=
  ⟨rfl, rfl, rfl⟩

theorem SameSettings.trans {first second third : SubscriberQueue T}
    (earlier : SameSettings first second) (later : SameSettings second third)
    : SameSettings first third :=
  ⟨later.limit.trans earlier.limit, later.policy.trans earlier.policy,
    later.closed.trans earlier.closed⟩

theorem dropFront_settings (queue : SubscriberQueue T)
    : SameSettings queue queue.dropFront := by
  unfold dropFront
  split
  · exact .refl queue
  · exact ⟨rfl, rfl, rfl⟩

theorem pushBack_settings (queue : SubscriberQueue T) (message : QueuedMessage T)
    : SameSettings queue (queue.pushBack message) :=
  ⟨rfl, rfl, rfl⟩

theorem afterWait_settings (queue : SubscriberQueue T) (gotSpace : Bool)
    (message : QueuedMessage T)
    : SameSettings queue (queue.afterWait gotSpace message) := by
  unfold afterWait
  split
  · have counted : SameSettings queue queue.countBlockTimeout := ⟨rfl, rfl, rfl⟩
    exact counted.trans ((dropFront_settings _).trans (pushBack_settings _ message))
  · exact pushBack_settings queue message

variable {queue after : SubscriberQueue T} {message : QueuedMessage T} {now : TimePoint}

theorem enqueueLocked_settings {result : EnqueueResult}
    (done : queue.enqueueLocked message = .returned after result)
    : SameSettings queue after := by
  unfold enqueueLocked at done
  split at done
  · cases policy : queue.policy with
    | dropOldest =>
        simp only [policy, LockedOutcome.returned.injEq] at done
        obtain ⟨rfl, _⟩ := done
        exact (dropFront_settings queue).trans (pushBack_settings _ message)
    | dropNewest =>
        simp only [policy, LockedOutcome.returned.injEq] at done
        obtain ⟨rfl, _⟩ := done
        exact ⟨rfl, policy.symm, rfl⟩
    | block =>
        simp only [policy] at done
        split at done
        · simp only [LockedOutcome.returned.injEq] at done
          obtain ⟨rfl, _⟩ := done
          exact afterWait_settings queue true message
        · cases done
  · simp only [LockedOutcome.returned.injEq] at done
    obtain ⟨rfl, _⟩ := done
    exact pushBack_settings queue message

theorem enqueue_settings (queue : SubscriberQueue T) (now : TimePoint) (message : T)
    (messageTtlMs : Int)
    : SameSettings queue (queue.enqueue now message messageTtlMs).1 := by
  unfold enqueue
  split
  · exact .refl queue
  · dsimp only
    split
    · rename_i after result done
      exact enqueueLocked_settings done
    · exact afterWait_settings queue false _

theorem dequeue_settings (queue : SubscriberQueue T) (now : TimePoint)
    : SameSettings queue (queue.dequeue now).1 := by
  unfold dequeue
  split <;> exact ⟨rfl, rfl, rfl⟩

theorem reapExpired_settings (queue : SubscriberQueue T) (now : TimePoint)
    : SameSettings queue (queue.reapExpired now).1 :=
  ⟨rfl, rfl, rfl⟩

/-- An open queue sends its producer to sleep exactly when it is full under `BLOCK`. -/
theorem enqueueLocked_waits_iff (message : QueuedMessage T) (opened : queue.closed = false)
    : queue.enqueueLocked message = .waits
      ↔ queue.policy = .block ∧ queue.full = true := by
  unfold enqueueLocked
  cases room : queue.full with
  | false => simp
  | true =>
      cases policy : queue.policy with
      | dropOldest => simp
      | dropNewest => simp
      | block =>
          simp only [full, Bool.and_eq_true, decide_eq_true_eq] at room
          simp [waitOver, opened, Nat.not_lt.mpr room.2]

theorem waitOver_of_waits (waits : queue.enqueueLocked message = .waits)
    : queue.waitOver = false := by
  unfold enqueueLocked at waits
  split at waits
  · split at waits <;> try cases waits
    split at waits
    · cases waits
    · simp_all
  · cases waits

theorem skipExpired_eq (now : TimePoint) (messages : List (QueuedMessage T))
    : skipExpired now messages
      = (messages.dropWhile (QueuedMessage.expired now),
          (messages.takeWhile (QueuedMessage.expired now)).length) := by
  induction messages with
  | nil => rfl
  | cons front rest ih =>
      by_cases gone : front.expiryTime ≤ now
      · simp [skipExpired, QueuedMessage.expired, gone, ih]
      · simp [skipExpired, QueuedMessage.expired, gone]

theorem skipExpired_eq_nil_iff (now : TimePoint) (messages : List (QueuedMessage T))
    : (skipExpired now messages).1 = []
      ↔ ∀ message ∈ messages, message.expiryTime ≤ now := by
  simp only [skipExpired_eq, List.dropWhile_eq_nil_iff, QueuedMessage.expired,
    decide_eq_true_eq]

/-- `dequeue` comes back empty-handed exactly from a queue without a live message. -/
theorem dequeue_eq_none_iff (queue : SubscriberQueue T) (now : TimePoint)
    : (queue.dequeue now).2 = none
      ↔ ∀ message ∈ queue.messages, message.expiryTime ≤ now := by
  rw [← skipExpired_eq_nil_iff]
  unfold dequeue
  split <;> simp_all

theorem dequeue_none_messages (nothing : (queue.dequeue now).2 = none)
    : (queue.dequeue now).1.messages = [] := by
  unfold dequeue at nothing ⊢
  split <;> simp_all

/-- A message that is not taken leaves the queue's contents alone. -/
theorem enqueueLocked_dropped_messages {result : EnqueueResult}
    (done : queue.enqueueLocked message = .returned after result)
    (dropped : result ≠ .enqueued)
    : after.messages = queue.messages := by
  unfold enqueueLocked at done
  split at done
  · split at done
    · cases done
      exact absurd rfl dropped
    · cases done
      rfl
    · split at done <;> cases done
      exact absurd rfl dropped
  · cases done
    exact absurd rfl dropped

theorem messages_ne_nil_of_dequeue {event : T}
    (taken : queue.dequeue now = (after, some event))
    : queue.messages ≠ [] := by
  intro empty
  simp [dequeue, empty, skipExpired] at taken

theorem messages_ne_nil_of_reapExpired (nonempty : (queue.reapExpired now).1.messages ≠ [])
    : queue.messages ≠ [] := by
  intro empty
  simp [reapExpired, empty, skipExpired] at nonempty

end SubscriberQueue

end NexusD.Core
