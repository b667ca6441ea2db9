import NexusD.Core.SubscriberQueue

/-! Expiry in the subscriber queue.
Messages have TTLs of their own, so the expiry times stand in no particular order. Both
`dequeue` and `reapExpired` pop from the front and stop at the first message that is alive.
-/

namespace NexusD.Core

theorem TimePoint.addMilliseconds_le_max (now : TimePoint) (ms : Int)
    : now.addMilliseconds ms ≤ TimePoint.max := by
  have bound : now.addMilliseconds ms ≤ ((2 ^ 64 : Nat) - 1 : Int) / 2 :=
    Int.bmod_le (by decide)
  exact bound.trans (by decide)

theorem QueuedMessage.expired_eq_false {T : Type} {now : TimePoint} {message : QueuedMessage T}
    : message.expired now = false ↔ now < message.expiryTime := by
  simp [expired]

namespace SubscriberQueue

variable {T : Type}

theorem reapExpired_messages (queue : SubscriberQueue T) (now : TimePoint)
    : (queue.reapExpired now).1.messages
      = queue.messages.dropWhile (QueuedMessage.expired now) := by
  simp [reapExpired, skipExpired_eq]

/-- One message is delivered and `behind` is left; `skipped` messages in front are dropped. -/
def delivering (queue : SubscriberQueue T) (skipped : Nat) (behind : List (QueuedMessage T))
    : SubscriberQueue T :=
  { queue with
    messages := behind
    stats := { queue.stats with
      droppedTtl := queue.stats.droppedTtl + skipped
      totalDelivered := queue.stats.totalDelivered + 1 } }

/-- All messages have been dropped. -/
def drained (queue : SubscriberQueue T) : SubscriberQueue T :=
  { queue with
    messages := []
    stats := { queue.stats with
      droppedTtl := queue.stats.droppedTtl + queue.messages.length } }

theorem dequeue_of_live {queue : SubscriberQueue T} {now : TimePoint}
    {front : QueuedMessage T} {behind : List (QueuedMessage T)}
    (live : queue.messages.dropWhile (QueuedMessage.expired now) = front :: behind)
    : queue.dequeue now
      = (queue.delivering (queue.messages.takeWhile (QueuedMessage.expired now)).length behind,
          some front.message) := by
  simp [dequeue, skipExpired_eq, live, delivering]

theorem dequeue_of_expired {queue : SubscriberQueue T} {now : TimePoint}
    (gone : queue.messages.dropWhile (QueuedMessage.expired now) = [])
    : queue.dequeue now = (queue.drained, none) := by
  have all : queue.messages.takeWhile (QueuedMessage.expired now) = queue.messages :=
    List.takeWhile_eq_self_iff.mpr (List.dropWhile_eq_nil_iff.mp gone)
  simp [dequeue, skipExpired_eq, gone, all, drained]

/-- Whatever the order of the expiry times, `dequeue` hands out the oldest live message and
leaves what stands behind it.
-/
theorem dequeue_oldest_live (queue : SubscriberQueue T) (now : TimePoint)
    : ((∃ skipped front behind,
          queue.messages = skipped ++ front :: behind
          ∧ (∀ message ∈ skipped, message.expiryTime ≤ now)
          ∧ now < front.expiryTime
          ∧ queue.dequeue now
            = (queue.delivering skipped.length behind, some front.message))
        ∨ queue.dequeue now = (queue.drained, none))
      ∧ ((queue.dequeue now).2 = none
        ↔ ∀ message ∈ queue.messages, message.expiryTime ≤ now) := by
  refine ⟨?_, dequeue_eq_none_iff queue now⟩
  cases live : queue.messages.dropWhile (QueuedMessage.expired now) with
  | nil => exact .inr (dequeue_of_expired live)
  | cons front behind =>
      refine .inl ⟨queue.messages.takeWhile (QueuedMessage.expired now), front, behind,
        ?_, ?_, ?_, dequeue_of_live live⟩
      · rw [← live, List.takeWhile_append_dropWhile]
      · intro message member
        have gone : message.expired now = true := List.mem_takeWhile_imp member
        exact of_decide_eq_true gone
      · have first := List.head?_dropWhile_not (QueuedMessage.expired now) queue.messages
        rw [live] at first
        exact QueuedMessage.expired_eq_false.mp (by simpa using first)

-----------------------------------------------------------------------------------------
-- The reaper
-----------------------------------------------------------------------------------------

/-- A sweep that takes out every expired message and nothing else. -/
structure ReapsExactly (queue : SubscriberQueue T) (now : TimePoint) : Prop where
  none_expired : ∀ message ∈ (queue.reapExpired now).1.messages, now < message.expiryTime
  kept
    : (queue.reapExpired now).1.messages
      = queue.messages.filter (fun message => now < message.expiryTime)
  counted
    : (queue.reapExpired now).2 + (queue.reapExpired now).1.messages.length
      = queue.messages.length

/-- No expired message stands behind a live one. -/
def ExpiredInFront (queue : SubscriberQueue T) (now : TimePoint) : Prop :=
  queue.messages.Pairwise
    (fun ahead behind => behind.expiryTime ≤ now → ahead.expiryTime ≤ now)

/-- Dropping from the front is filtering exactly when nothing to drop stands behind
something to keep.
-/
theorem dropWhile_expired_eq_filter_iff (now : TimePoint) (messages : List (QueuedMessage T))
    : messages.dropWhile (QueuedMessage.expired now)
        = messages.filter (fun message => now < message.expiryTime)
      ↔ messages.Pairwise
          (fun ahead behind => behind.expiryTime ≤ now → ahead.expiryTime ≤ now) := by
  induction messages with
  | nil => simp
  | cons front rest ih =>
      by_cases gone : front.expiryTime ≤ now
      · simp [QueuedMessage.expired, gone, Int.not_lt.mpr gone, ← ih]
      · have live := Int.not_le.mp gone
        simp only [List.dropWhile_cons, QueuedMessage.expired, gone, decide_false,
          Bool.false_eq_true, if_false, List.filter_cons, live, decide_true, if_true,
          List.cons.injEq, true_and, List.pairwise_cons, imp_false, Int.not_le]
        rw [eq_comm, List.filter_eq_self]
        simp only [decide_eq_true_eq]
        constructor
        · intro alive
          refine ⟨alive, List.pairwise_of_forall_mem_list ?_⟩
          intro ahead _ behind member expired
          exact absurd expired (Int.not_le.mpr (alive behind member))
        · intro both
          exact both.1

theorem reapExpired_counted (queue : SubscriberQueue T) (now : TimePoint)
    : (queue.reapExpired now).2 + (queue.reapExpired now).1.messages.length
      = queue.messages.length := by
  simp only [reapExpired, skipExpired_eq]
  rw [← List.length_append, List.takeWhile_append_dropWhile]

/-- The reaper finds every expired message exactly when they all stand in front. -/
theorem reapsExactly_iff (queue : SubscriberQueue T) (now : TimePoint)
    : queue.ReapsExactly now ↔ queue.ExpiredInFront now := by
  rw [ExpiredInFront, ← dropWhile_expired_eq_filter_iff, ← reapExpired_messages]
  constructor
  · exact ReapsExactly.kept
  · intro kept
    refine ⟨?_, kept, reapExpired_counted queue now⟩
    intro message member
    rw [kept, List.mem_filter, decide_eq_true_eq] at member
    exact member.2

/-- Without a limit and without a default TTL. -/
def unlimited : SubscriberQueue String :=
  { limit := 0, policy := .dropOldest, defaultTtlMs := 0 }

/-- A message that never expires, and behind it one with a TTL of one millisecond. -/
def immortalFirst : SubscriberQueue String :=
  ((unlimited.enqueue 0 "immortal" 0).1.enqueue 0 "short-lived" 1).1

theorem reapExpired_leaves_expired
    : ¬ immortalFirst.ReapsExactly 2000000
      ∧ (immortalFirst.reapExpired 2000000).2 = 0
      ∧ (immortalFirst.reapExpired 2000000).1.messages.map
          (fun message => (message.message, message.expiryTime))
        = [("immortal", TimePoint.max), ("short-lived", 1000000)] := by
  refine ⟨?_, by decide, by decide⟩
  intro exact
  exact absurd exact.kept (by decide)

/-- At `now` neither operation discards the message, wherever it stands: the reaper leaves it
and what is behind it, `dequeue` does so too or hands it out.
-/
structure KeptAt (message : QueuedMessage T) (now : TimePoint) : Prop where
  reaped
    : ∀ (queue : SubscriberQueue T) ahead behind,
        queue.messages = ahead ++ message :: behind
        → (message :: behind) <:+ (queue.reapExpired now).1.messages
  dequeued
    : ∀ (queue : SubscriberQueue T) ahead behind,
        queue.messages = ahead ++ message :: behind
        → (message :: behind) <:+ (queue.dequeue now).1.messages
          ∨ (queue.dequeue now).1.messages = behind
            ∧ (queue.dequeue now).2 = some message.message

theorem dropWhile_expired_append {now : TimePoint} {message : QueuedMessage T}
    (live : now < message.expiryTime) (ahead behind : List (QueuedMessage T))
    : (ahead ++ message :: behind).dropWhile (QueuedMessage.expired now)
      = ahead.dropWhile (QueuedMessage.expired now) ++ message :: behind := by
  rw [List.dropWhile_append]
  split
  · rename_i nothing
    rw [List.isEmpty_iff.mp nothing, List.dropWhile_cons_of_neg, List.nil_append]
    rw [QueuedMessage.expired_eq_false.mpr live]
    exact Bool.false_ne_true
  · rfl

theorem keptAt_iff (message : QueuedMessage T) (now : TimePoint)
    : KeptAt message now ↔ now < message.expiryTime := by
  constructor
  · intro kept
    by_contra gone
    have only := kept.reaped
      { limit := 0, policy := .dropOldest, defaultTtlMs := 0, messages := [message] } [] [] rfl
    simp [reapExpired, skipExpired, Int.not_lt.mp gone] at only
  · intro live
    constructor
    · intro queue ahead behind contents
      rw [reapExpired_messages, contents, dropWhile_expired_append live]
      exact List.suffix_append _ _
    · intro queue ahead behind contents
      have split := dropWhile_expired_append live ahead behind
      rw [← contents] at split
      cases left : ahead.dropWhile (QueuedMessage.expired now) with
      | nil =>
          rw [left, List.nil_append] at split
          rw [dequeue_of_live split]
          exact .inr ⟨rfl, rfl⟩
      | cons front rest =>
          rw [left, List.cons_append] at split
          rw [dequeue_of_live split]
          exact .inl (List.suffix_append rest _)

/-- A message lives out its TTL exactly when the end of it can be represented: otherwise it
is gone, at the latest, when the clock shows its last value.
-/
theorem keptAt_until_ttl_iff (queue : SubscriberQueue T) (message : T) {ttlMs : Int}
    (positive : 1 ≤ ttlMs) {start : TimePoint} (started : 0 ≤ start)
    (shown : start ≤ TimePoint.max)
    : (∀ now, start ≤ now → now ≤ TimePoint.max → now < start + ttlMs * 1000000
        → KeptAt (queue.prepare start message ttlMs) now)
      ↔ start + ttlMs * 1000000 ≤ TimePoint.max := by
  have expiry
    : (queue.prepare start message ttlMs).expiryTime = start.addMilliseconds ttlMs := by
    have given : 0 < ttlMs := positive
    simp [prepare, given]
  simp only [keptAt_iff, expiry]
  constructor
  · intro kept
    by_contra late
    have last := kept TimePoint.max shown (Int.le_refl _) (Int.not_le.mp late)
    exact absurd (TimePoint.addMilliseconds_le_max start ttlMs) (Int.not_le.mpr last)
  · intro fits now _ _ early
    rwa [TimePoint.addMilliseconds_eq]
    have end_positive : (0 : Int) ≤ start + ttlMs * 1000000 :=
      Int.add_nonneg started (by omega)
    exact ⟨by omega, Int.lt_of_le_of_lt fits (by decide)⟩

theorem keptAt_until_ttl_second
    : (1 : Int) ≤ 1000 ∧ (0 : TimePoint) ≤ 5 ∧ (5 : TimePoint) ≤ TimePoint.max
      ∧ ((∀ now : TimePoint, 5 ≤ now → now ≤ TimePoint.max → now < 5 + 1000 * 1000000
          → KeptAt (unlimited.prepare 5 "lives for a second" 1000) now)
        ↔ (5 : TimePoint) + 1000 * 1000000 ≤ TimePoint.max) :=
  ⟨by decide, by decide, by decide,
    keptAt_until_ttl_iff unlimited "lives for a second" (by decide) (by decide) (by decide)⟩

/-- The longest TTL there is ends a millisecond before the message was enqueued. -/
theorem longest_ttl_expires_at_once
    : (0 : Int) < 0 + (2 ^ 63 - 1) * 1000000
      ∧ (unlimited.prepare 0 "forever" (2 ^ 63 - 1)).expiryTime = -1000000
      ∧ ¬ KeptAt (unlimited.prepare 0 "forever" (2 ^ 63 - 1)) 0
      ∧ ((unlimited.enqueue 0 "forever" (2 ^ 63 - 1)).1.dequeue 0).2 = none
      ∧ ((unlimited.enqueue 0 "forever" (2 ^ 63 - 1)).1.dequeue 0).1.stats.droppedTtl = 1 := by
  refine ⟨by decide, by decide, ?_, by decide, by decide⟩
  rw [keptAt_iff]
  decide

end SubscriberQueue

end NexusD.Core
