import NexusD.Core.QueueThreads
import NexusD.Services.StreamEvents

/-! The events a stream has in hand: queued, waiting to be replayed, or handed to gRPC.
Every method of a reactor takes the event it writes from the stream itself, so what holds of
the events a stream is given holds of all it ever writes.
-/

namespace NexusD.Core.SubscriberQueue

variable {T : Type}

theorem mem_pushBack (queue : SubscriberQueue T) (message : QueuedMessage T)
    : message ∈ (queue.pushBack message).messages := by
  simp [pushBack]

/-- An open queue takes every message, unless it is full and drops the newest. -/
theorem enqueue_taken {queue : SubscriberQueue T} {now : TimePoint} {message : T}
    {messageTtlMs : Int} (opened : queue.closed = false)
    (room : queue.full = true → queue.policy ≠ .dropNewest)
    : (queue.enqueue now message messageTtlMs).2 = .enqueued := by
  unfold enqueue enqueueLocked
  by_cases full : queue.full
  · have policy := room full
    cases is : queue.policy with
    | dropOldest => simp [opened, full]
    | dropNewest => exact absurd is policy
    | block => cases queue.waitOver <;> simp [opened, full]
  · simp [opened, full]

/-- A message that was taken stands in the queue. -/
theorem mem_enqueue {queue : SubscriberQueue T} {now : TimePoint} {message : T}
    {messageTtlMs : Int} (taken : (queue.enqueue now message messageTtlMs).2 = .enqueued)
    : queue.prepare now message messageTtlMs
      ∈ (queue.enqueue now message messageTtlMs).1.messages := by
  have waited
    : ∀ gotSpace,
        queue.prepare now message messageTtlMs
        ∈ (queue.afterWait gotSpace (queue.prepare now message messageTtlMs)).messages := by
    intro gotSpace
    unfold afterWait
    split <;> exact mem_pushBack _ _
  unfold enqueue enqueueLocked at taken ⊢
  split at taken
  · cases taken
  · rename_i opened
    simp only [opened, Bool.false_eq_true, if_false]
    by_cases full : queue.full
    · simp only [full, if_true] at taken ⊢
      cases policy : queue.policy with
      | dropOldest => exact mem_pushBack _ _
      | dropNewest => simp [policy] at taken
      | block =>
          cases queue.waitOver with
          | false => exact waited false
          | true => exact waited true
    · simp [full, mem_pushBack]

/-- `dequeue` loses nothing but what has expired. -/
theorem mem_dequeue {queue : SubscriberQueue T} {now : TimePoint} {queued : QueuedMessage T}
    (member : queued ∈ queue.messages) (live : now < queued.expiryTime)
    : (queue.dequeue now).2 = some queued.message
      ∨ queued ∈ (queue.dequeue now).1.messages := by
  have stays : queued ∈ (skipExpired now queue.messages).1 := by
    rw [← List.takeWhile_append_dropWhile (p := QueuedMessage.expired now)
      (l := queue.messages)] at member
    rw [skipExpired_eq]
    rcases List.mem_append.mp member with gone | here
    · have expired := List.mem_takeWhile_imp gone
      simp [QueuedMessage.expired, not_le.mpr live] at expired
    · exact here
  unfold dequeue
  split
  · rename_i count skipped
    rw [skipped] at stays
    cases stays
  · rename_i front rest count skipped
    rw [skipped] at stays
    rcases List.mem_cons.mp stays with rfl | later
    · exact .inl rfl
    · exact .inr later

end NexusD.Core.SubscriberQueue

namespace NexusD.Services

open NexusD.Core NexusD.Library

/-- What a resuming reactor still has to replay. -/
def Reactor.pending : Reactor → List MessageEvent
  | .subscribe _ => []
  | .resume _ replaySide => replaySide.pendingReplay

@[simp]
theorem Reactor.pending_mapWrite (update : WriteSide → WriteSide) (reactor : Reactor)
    : (reactor.mapWrite update).pending = reactor.pending := by
  cases reactor <;> rfl

namespace SubscriptionStream

/-- All events of the stream are of one kind. -/
structure EveryEvent (kind : MessageEvent → Prop) (stream : SubscriptionStream) : Prop where
  queued : ∀ queued ∈ stream.messageQueue.messages, kind queued.message
  current : ∀ reactor ∈ stream.reactor, kind reactor.writeSide.currentEvent
  pending : ∀ reactor ∈ stream.reactor, ∀ event ∈ reactor.pending, kind event

namespace EveryEvent

variable {kind : MessageEvent → Prop} {stream : SubscriptionStream}

theorem mono {wider : MessageEvent → Prop} (every : stream.EveryEvent kind)
    (implied : ∀ event, kind event → wider event)
    : stream.EveryEvent wider where
  queued queued member := implied _ (every.queued queued member)
  current reactor attached := implied _ (every.current reactor attached)
  pending reactor attached event member :=
    implied _ (every.pending reactor attached event member)

/-- A stream that shares queue and reactor has the same events. -/
theorem congr {other : SubscriptionStream} (every : stream.EveryEvent kind)
    (queue : other.messageQueue.messages = stream.messageQueue.messages)
    (reactor : other.reactor = stream.reactor)
    : other.EveryEvent kind := by
  obtain ⟨queued, current, pending⟩ := every
  exact ⟨by rwa [queue], by rwa [reactor], by rwa [reactor]⟩

/-- The queue is replaced by one with nothing else in it. -/
theorem withQueue (every : stream.EveryEvent kind) {queue : SubscriberQueue MessageEvent}
    (queued : ∀ queued ∈ queue.messages, kind queued.message)
    : EveryEvent kind { stream with messageQueue := queue } :=
  ⟨queued, every.current, every.pending⟩

/-- A change of the reactor's own bookkeeping. -/
theorem mapWrite (every : stream.EveryEvent kind) {update : WriteSide → WriteSide}
    (current
      : ∀ write, kind write.currentEvent → kind (update write).currentEvent)
    : EveryEvent kind
        { stream with reactor := stream.reactor.map (·.mapWrite update) } where
  queued := every.queued
  current reactor attached := by
    obtain ⟨old, was, rfl⟩ := Option.map_eq_some_iff.mp attached
    rw [Reactor.writeSide_mapWrite]
    exact current _ (every.current old was)
  pending reactor attached := by
    obtain ⟨old, was, rfl⟩ := Option.map_eq_some_iff.mp attached
    rw [Reactor.pending_mapWrite]
    exact every.pending old was

theorem startWrite (every : stream.EveryEvent kind) {event : MessageEvent}
    (is : kind event)
    : (stream.startWrite event).EveryEvent kind :=
  every.mapWrite (fun _ _ => is)

theorem answerWrite (every : stream.EveryEvent kind)
    : stream.answerWrite.EveryEvent kind :=
  every.mapWrite (fun _ is => is)

theorem finish (every : stream.EveryEvent kind) : stream.finish.EveryEvent kind :=
  every.mapWrite (fun _ is => is)

/-- What `dequeue` leaves and what it returns were both in the queue. -/
theorem dequeue (every : stream.EveryEvent kind) (now : TimePoint)
    : (∀ queued ∈ (stream.messageQueue.dequeue now).1.messages, kind queued.message)
      ∧ ∀ event ∈ (stream.messageQueue.dequeue now).2, kind event := by
  obtain ⟨expired, taken, removes, returned⟩ := stream.messageQueue.dequeue_removes now
  have queued := every.queued
  simp only [removes.messages, List.forall_mem_append] at queued
  refine ⟨queued.2.2, ?_⟩
  intro event member
  have listed : event ∈ taken.map QueuedMessage.message := by
    rw [← returned]
    exact Option.mem_toList.mpr member
  obtain ⟨message, inTaken, rfl⟩ := List.mem_map.mp listed
  exact queued.2.1 message inTaken

theorem claimWrite (every : stream.EveryEvent kind) (now : TimePoint)
    : (stream.claimWrite now).EveryEvent kind := by
  obtain ⟨left, taken⟩ := every.dequeue now
  unfold SubscriptionStream.claimWrite
  split
  · exact every.congr rfl rfl
  · split
    · rename_i queue event dequeued
      rw [dequeued] at left taken
      refine EveryEvent.startWrite ?_ (taken event rfl)
      exact (every.withQueue left).congr rfl rfl
    · rename_i queue dequeued
      rw [dequeued] at left
      exact (every.withQueue left).congr rfl rfl

theorem drainQueue (every : stream.EveryEvent kind) (now : TimePoint)
    : (stream.drainQueue now).EveryEvent kind := by
  obtain ⟨left, taken⟩ := every.dequeue now
  unfold SubscriptionStream.drainQueue
  split
  · exact every.congr rfl rfl
  · split
    · rename_i queue event dequeued
      rw [dequeued] at left taken
      exact EveryEvent.startWrite (every.withQueue left) (taken event rfl)
    · rename_i queue dequeued
      rw [dequeued] at left
      exact (every.withQueue left).congr rfl rfl

end EveryEvent

/-- What `enqueue` leaves was in the queue, or is the message. -/
theorem every_enqueue {kind : MessageEvent → Prop} {queue : SubscriberQueue MessageEvent}
    (queued : ∀ queued ∈ queue.messages, kind queued.message) (now : TimePoint)
    {event : MessageEvent} (is : kind event) (ttlMs : Int)
    : ∀ queued ∈ (queue.enqueue now event ttlMs).1.messages, kind queued.message := by
  rcases queue.enqueue_effect now event ttlMs with ⟨_, dropped, inserts⟩ | ⟨_, same, _⟩
  · have both
      : ∀ queued ∈ queue.messages ++ [queue.prepare now event ttlMs],
          kind queued.message := by
      simp only [List.forall_mem_append, List.forall_mem_singleton]
      exact ⟨queued, is⟩
    rw [inserts.messages] at both
    exact (List.forall_mem_append.mp both).2
  · rwa [same]

namespace EveryEvent

variable {kind : MessageEvent → Prop} {stream : SubscriptionStream}

theorem enqueueMessage (every : stream.EveryEvent kind) (now : TimePoint)
    {event : MessageEvent} (is : kind event) (ttlMs : Int)
    : (stream.enqueueMessage now event ttlMs).1.EveryEvent kind := by
  have stored := every.withQueue (every_enqueue every.queued now is ttlMs)
  unfold SubscriptionStream.enqueueMessage
  split
  · exact every
  · dsimp only
    split
    · exact stored.claimWrite now
    · exact stored

theorem receive (every : stream.EveryEvent kind) (now : TimePoint)
    {event : MessageEvent} (is : kind event) (ttlMs : Int)
    : (stream.receive now event ttlMs).EveryEvent kind := by
  unfold SubscriptionStream.receive
  split
  · exact every.enqueueMessage now is ttlMs
  · exact every

theorem reapExpired (every : stream.EveryEvent kind) (now : TimePoint)
    : (stream.reapExpired now).EveryEvent kind := by
  obtain ⟨expired, removes⟩ := stream.messageQueue.reapExpired_removes now
  have queued := every.queued
  simp only [removes.messages, List.nil_append, List.forall_mem_append] at queued
  exact every.withQueue queued.2

/-- A resuming reactor moves on in what it has to replay. -/
theorem withReplay (every : stream.EveryEvent kind) {write : WriteSide}
    {replay : ReplaySide} (resumes : stream.reactor = some (.resume write replay))
    (later : ReplaySide) (pending : ∀ event ∈ later.pendingReplay, kind event)
    : EveryEvent kind { stream with reactor := some (.resume write later) } := by
  have current : kind write.currentEvent := every.current _ resumes
  refine ⟨every.queued, ?_, ?_⟩
  · intro reactor attached
    cases attached
    exact current
  · intro reactor attached
    cases attached
    exact pending

/-- The completion event is the only one a callback makes itself. -/
theorem onWriteDone (every : stream.EveryEvent kind) (now : TimePoint) (systemMs : Int)
    (ok : Bool) (completes : kind (.replayComplete stream.subscriptionId systemMs))
    : (stream.onWriteDone now systemMs ok).EveryEvent kind := by
  have answered := every.answerWrite
  unfold SubscriptionStream.onWriteDone
  dsimp only
  split
  · exact answered.finish
  · split
    · rename_i write replay resumes
      have pending : ∀ event ∈ replay.pendingReplay, kind event := answered.pending _ resumes
      split
      · rename_i event rest waiting
        rw [waiting, List.forall_mem_cons] at pending
        exact (answered.withReplay resumes _ pending.2).startWrite pending.1
      · split
        · exact (answered.withReplay resumes { replay with replayCompleteSent := true }
            pending).startWrite completes
        · exact answered.drainQueue now
    · exact answered.drainQueue now
    · exact answered.drainQueue now

end EveryEvent

/-- The event waits in the queue, or it is the one that gRPC was given last. -/
def Holds (stream : SubscriptionStream) (event : MessageEvent) : Prop :=
  (∃ queued ∈ stream.messageQueue.messages, queued.message = event)
  ∨ ∃ reactor ∈ stream.reactor, reactor.writeSide.currentEvent = event

theorem holds_startWrite (stream : SubscriptionStream) (attached : stream.reactor.isSome = true)
    (event : MessageEvent)
    : (stream.startWrite event).Holds event := by
  obtain ⟨reactor, is⟩ := Option.isSome_iff_exists.mp attached
  refine .inr ⟨_, Option.map_eq_some_iff.mpr ⟨reactor, is, rfl⟩, ?_⟩
  rw [Reactor.writeSide_mapWrite]

/-- The claim of the write moves an event from the queue to gRPC, unless it has expired. -/
theorem holds_claimWrite (stream : SubscriptionStream) (attached : stream.reactor.isSome = true)
    {now : TimePoint} {queued : QueuedMessage MessageEvent}
    (member : queued ∈ stream.messageQueue.messages) (live : now < queued.expiryTime)
    : (stream.claimWrite now).Holds queued.message := by
  have kept := SubscriberQueue.mem_dequeue member live
  unfold claimWrite
  split
  · exact .inl ⟨queued, member, rfl⟩
  · split
    · rename_i queue event dequeued
      rw [dequeued] at kept
      rcases kept with first | later
      · cases first
        apply holds_startWrite
        exact attached
      · exact .inl ⟨queued, later, rfl⟩
    · rename_i queue dequeued
      rw [dequeued] at kept
      rcases kept with first | later
      · cases first
      · exact .inl ⟨queued, later, rfl⟩

/-- An active stream that takes a message holds it. -/
theorem holds_enqueueMessage {stream : SubscriptionStream} (active : stream.active = true)
    (attached : stream.reactor.isSome = true) {now : TimePoint} {event : MessageEvent}
    {ttlMs : Int} (taken : (stream.messageQueue.enqueue now event ttlMs).2 = .enqueued)
    (live : now < (stream.messageQueue.prepare now event ttlMs).expiryTime)
    : (stream.enqueueMessage now event ttlMs).1.Holds event := by
  have member := SubscriberQueue.mem_enqueue taken
  unfold enqueueMessage
  rw [if_neg (by simp [active])]
  dsimp only
  split
  · exact holds_claimWrite { stream with messageQueue := (stream.messageQueue.enqueue ..).1 }
      attached member live
  · exact .inl ⟨_, member, rfl⟩

end SubscriptionStream

end NexusD.Services
