import NexusD.Core.QueueThreads
import NexusD.Library.ConditionVariable
import NexusD.Library.Noninterference

/-! The wait of `enqueue` in detail: who is asleep, who has been notified, which notifications
are still to come.
The calls of `notify_one` and `notify_all` follow after the mutex is given up, so they are
steps of their own, and a producer that has found the queue full still holds the mutex for a
moment before it falls asleep. `close` does not take the mutex.
-/

namespace NexusD.Core

open NexusD.Library

namespace SubscriberQueue

variable {T : Type}

/-- Making room for the own message never makes the queue shorter. -/
theorem afterWait_length_le (queue : SubscriberQueue T) (gotSpace : Bool)
    (message : QueuedMessage T)
    : queue.messages.length ≤ (queue.afterWait gotSpace message).messages.length := by
  unfold afterWait dropFront countBlockTimeout pushBack
  split
  · split <;> simp_all
  · simp

theorem waitOver_eq_false_iff {queue : SubscriberQueue T}
    : queue.waitOver = false
      ↔ queue.closed = false ∧ queue.limit ≤ queue.messages.length := by
  simp [waitOver]

theorem skipExpired_of_none {now : TimePoint} {messages : List (QueuedMessage T)}
    (none : (skipExpired now messages).2 = 0)
    : (skipExpired now messages).1 = messages := by
  obtain ⟨expired, split, counted⟩ := skipExpired_split now messages
  rw [none, eq_comm, List.length_eq_zero_iff] at counted
  rwa [counted, List.nil_append, eq_comm] at split

/-- Without an expired message at the front, `dequeue` takes out what it returns. -/
theorem dequeue_length {queue : SubscriberQueue T} {now : TimePoint}
    (live : (skipExpired now queue.messages).2 = 0)
    : queue.messages.length
      = (queue.dequeue now).1.messages.length + (queue.dequeue now).2.toList.length := by
  have same := skipExpired_of_none live
  unfold dequeue
  split
  · rename_i skipped
    rw [skipped] at same
    simp [← same]
  · rename_i skipped
    rw [skipped] at same
    simp [← same]

theorem enqueueLocked_block {queue after : SubscriberQueue T} {message : QueuedMessage T}
    {result : EnqueueResult} (block : queue.policy = .block)
    (done : queue.enqueueLocked message = .returned after result)
    : result = .enqueued ∧ queue.messages.length ≤ after.messages.length := by
  unfold enqueueLocked at done
  rw [block] at done
  split at done
  · dsimp only at done
    split at done
    · cases done
      exact ⟨rfl, afterWait_length_le queue true message⟩
    · cases done
  · cases done
    exact ⟨rfl, by simp [pushBack]⟩

end SubscriberQueue

namespace QueueThreads

variable {T : Type}

/-- What a section of `enqueue` does under `BLOCK`: it finds the queue full and open, or it
pushes its message.
-/
inductive Section (thread : Nat) (before after : QueueThreads T) : Prop where
  | sleeps (message : QueuedMessage T)
      (queue : after.queue = before.queue)
      (calls : after.calls = Function.update before.calls thread (.asleep message))
      (full : before.queue.waitOver = false)
  | pushes
      (settings : before.queue.SameSettings after.queue)
      (calls : after.calls = Function.update before.calls thread .idle)
      (depth : before.queue.messages.length ≤ after.queue.messages.length)
      (log : after.log.length = before.log.length + 1)

/-- The first test of `enqueue` touches neither the queue nor a producer in its wait. -/
theorem callStep_effect {state after : QueueThreads T} {thread : Nat} {now : TimePoint}
    {message : T} {ttlMs : Int}
    (taken : state.callStep thread now message ttlMs = some after)
    : after.queue = state.queue
      ∧ ∀ other queued,
          after.calls other = .asleep queued → state.calls other = .asleep queued := by
  have other
    : ∀ {pc : EnqueuePc T} {other queued},
        (∀ held, pc ≠ .asleep held)
        → Function.update state.calls thread pc other = .asleep queued
        → state.calls other = .asleep queued := by
    intro pc other queued awake asleep
    by_cases same : other = thread
    · rw [same, Function.update_self] at asleep
      exact absurd asleep (awake queued)
    · rwa [Function.update_of_ne same] at asleep
  unfold callStep at taken
  split at taken
  · split at taken
    · cases taken
      exact ⟨rfl, fun _ _ asleep => other (by simp) asleep⟩
    · cases taken
      exact ⟨rfl, fun _ _ asleep => other (by simp) asleep⟩
  · cases taken
  · cases taken

theorem lockStep_section {state after : QueueThreads T} {thread : Nat}
    (block : state.queue.policy = .block) (taken : state.lockStep thread = some after)
    : Section thread state after := by
  unfold lockStep at taken
  split at taken
  · rename_i message _
    split at taken
    · rename_i queue result done
      obtain ⟨rfl, depth⟩ := SubscriberQueue.enqueueLocked_block block done
      cases taken
      exact .pushes (SubscriberQueue.enqueueLocked_settings done) rfl depth (by simp)
    · rename_i waits
      cases taken
      exact .sleeps message rfl rfl (SubscriberQueue.waitOver_of_waits waits)
  · cases taken
  · cases taken

theorem wakeStep_section {state after : QueueThreads T} {thread : Nat} {timedOut : Bool}
    (taken : state.wakeStep thread timedOut = some after)
    : Section thread state after := by
  unfold wakeStep at taken
  split at taken
  · rename_i message asleep
    split at taken
    · cases taken
      exact .pushes (SubscriberQueue.afterWait_settings _ _ message) rfl
        (SubscriberQueue.afterWait_length_le _ _ message) (by simp)
    · rename_i vain
      cases taken
      rw [Bool.or_eq_true, not_or, Bool.not_eq_true] at vain
      exact .sleeps message rfl (by rw [← asleep, Function.update_eq_self]) vain.1
  · cases taken
  · cases taken

end QueueThreads

-----------------------------------------------------------------------------------------
-- The monitor
-----------------------------------------------------------------------------------------

structure QueueMonitor (T : Type) where
  threads : QueueThreads T
  waitSet : WaitSet Nat := {}
  /-- the producer that has found the wait's predicate false and is about to fall asleep -/
  testing : Option Nat := none
  /-- the calls of `notify_one` still to be made -/
  notifyOnes : Nat := 0
  /-- the calls of `notify_all` still to be made -/
  notifyAlls : Nat := 0

namespace QueueMonitor

variable {T : Type}

inductive Action (T : Type) where
  | call (thread : Nat) (now : TimePoint) (message : T) (ttlMs : Int)
  /-- the first section of `enqueue` under the mutex -/
  | lock (thread : Nat)
  /-- the producer that holds the mutex falls asleep -/
  | block
  /-- a timeout or a spurious wake-up -/
  | leave (thread : Nat)
  /-- a woken producer has the mutex again -/
  | rerun (thread : Nat) (timedOut : Bool)
  | dequeue (now : TimePoint)
  | reapExpired (now : TimePoint)
  | close
  | notifyOne (chosen : Nat)
  | notifyAll

/-- Sections under the mutex wait for a producer that has not fallen asleep yet. -/
def locked (state : QueueMonitor T) (next : Option (QueueMonitor T))
    : Option (QueueMonitor T) :=
  if state.testing.isSome then none else next

/-- What a section of `enqueue` leaves to do: fall asleep, or notify for the message pushed. -/
def afterSection (state : QueueMonitor T) (thread : Nat) (threads : QueueThreads T)
    : QueueMonitor T :=
  match threads.calls thread with
  | .asleep _ => { state with threads, testing := some thread }
  | .idle | .prepared _ =>
      { state with
        threads
        notifyOnes := state.notifyOnes + (threads.log.length - state.threads.log.length) }

def rerunStep (state : QueueMonitor T) (thread : Nat) (timedOut : Bool)
    : Option (QueueMonitor T) :=
  (state.waitSet.rerun thread).bind (fun waitSet =>
    (state.threads.step (.wake thread timedOut)).map
      (afterSection { state with waitSet } thread))

/-- Under `BLOCK` a delivery is followed by `notify_one`, an empty return is not. -/
def afterDequeue (state : QueueMonitor T) (now : TimePoint) (threads : QueueThreads T)
    : QueueMonitor T :=
  { state with
    threads
    notifyOnes :=
      if state.threads.queue.policy = .block
          ∧ (state.threads.queue.dequeue now).2.isSome = true then
        state.notifyOnes + 1
      else
        state.notifyOnes }

/-- Under `BLOCK` everybody is notified if a message has expired. -/
def afterReap (state : QueueMonitor T) (now : TimePoint) (threads : QueueThreads T)
    : QueueMonitor T :=
  { state with
    threads
    notifyAlls :=
      if 0 < (state.threads.queue.reapExpired now).2
          ∧ state.threads.queue.policy = .block then
        state.notifyAlls + 1
      else
        state.notifyAlls }

def step (state : QueueMonitor T) : Action T → Option (QueueMonitor T)
  | .call thread now message ttlMs =>
      (state.threads.step (.call thread now message ttlMs)).map
        (fun threads => { state with threads })
  | .lock thread =>
      state.locked ((state.threads.step (.lock thread)).map (state.afterSection thread))
  | .block =>
      state.testing.map (fun thread =>
        { state with waitSet := state.waitSet.block thread, testing := none })
  | .leave thread => (state.waitSet.leave thread).map (fun waitSet => { state with waitSet })
  | .rerun thread timedOut => state.locked (state.rerunStep thread timedOut)
  | .dequeue now =>
      state.locked ((state.threads.step (.dequeue now)).map (state.afterDequeue now))
  | .reapExpired now =>
      state.locked ((state.threads.step (.reapExpired now)).map (state.afterReap now))
  | .close =>
      (state.threads.step .close).map (fun threads =>
        { state with threads, notifyAlls := state.notifyAlls + 1 })
  | .notifyOne chosen =>
      if state.notifyOnes = 0 then
        none
      else
        (state.waitSet.notifyOne chosen).map (fun waitSet =>
          { state with waitSet, notifyOnes := state.notifyOnes - 1 })
  | .notifyAll =>
      if state.notifyAlls = 0 then
        none
      else
        some { state with
          waitSet := state.waitSet.notifyAll
          notifyAlls := state.notifyAlls - 1 }

def start (T : Type) (limit : Nat) (policy : BackpressurePolicy) (defaultTtlMs : Int)
    : QueueMonitor T where
  threads := .start T limit policy defaultTtlMs

/-- What the action is to the queue and its threads. -/
def Action.onThreads : Action T → Option (QueueThreads.Action T)
  | .call thread now message ttlMs => some (.call thread now message ttlMs)
  | .lock thread => some (.lock thread)
  | .rerun thread timedOut => some (.wake thread timedOut)
  | .dequeue now => some (.dequeue now)
  | .reapExpired now => some (.reapExpired now)
  | .close => some .close
  | .block | .leave _ | .notifyOne _ | .notifyAll => none

/-- The steps as a relation, with what each of them rests on. -/
inductive Move (state : QueueMonitor T) : Action T → QueueMonitor T → Prop where
  | call {thread now message ttlMs threads}
      (moved : state.threads.step (.call thread now message ttlMs) = some threads)
      : Move state (.call thread now message ttlMs) { state with threads }
  | lock {thread threads} (unlocked : state.testing = none)
      (moved : state.threads.step (.lock thread) = some threads)
      : Move state (.lock thread) (state.afterSection thread threads)
  | block {thread} (testing : state.testing = some thread)
      : Move state .block
          { state with waitSet := state.waitSet.block thread, testing := none }
  | leave {thread waitSet} (left : state.waitSet.leave thread = some waitSet)
      : Move state (.leave thread) { state with waitSet }
  | rerun {thread timedOut waitSet threads} (unlocked : state.testing = none)
      (woken : state.waitSet.rerun thread = some waitSet)
      (moved : state.threads.step (.wake thread timedOut) = some threads)
      : Move state (.rerun thread timedOut) (afterSection { state with waitSet } thread threads)
  | dequeue {now threads} (unlocked : state.testing = none)
      (moved : state.threads.step (.dequeue now) = some threads)
      : Move state (.dequeue now) (state.afterDequeue now threads)
  | reapExpired {now threads} (unlocked : state.testing = none)
      (moved : state.threads.step (.reapExpired now) = some threads)
      : Move state (.reapExpired now) (state.afterReap now threads)
  | close {threads} (moved : state.threads.step .close = some threads)
      : Move state .close { state with threads, notifyAlls := state.notifyAlls + 1 }
  | notifyOne {chosen waitSet} (pending : state.notifyOnes ≠ 0)
      (notified : state.waitSet.notifyOne chosen = some waitSet)
      : Move state (.notifyOne chosen)
          { state with waitSet, notifyOnes := state.notifyOnes - 1 }
  | notifyAll (pending : state.notifyAlls ≠ 0)
      : Move state .notifyAll
          { state with
            waitSet := state.waitSet.notifyAll
            notifyAlls := state.notifyAlls - 1 }

theorem locked_eq_some {state after : QueueMonitor T} {next : Option (QueueMonitor T)}
    (taken : state.locked next = some after)
    : state.testing = none ∧ next = some after := by
  unfold locked at taken
  split at taken
  · cases taken
  · rename_i unlocked
    exact ⟨Option.not_isSome_iff_eq_none.mp unlocked, taken⟩

theorem move_of_step {state after : QueueMonitor T} {action : Action T}
    (taken : state.step action = some after)
    : Move state action after := by
  cases action with
  | call thread now message ttlMs =>
      obtain ⟨threads, moved, rfl⟩ := Option.map_eq_some_iff.mp taken
      exact .call moved
  | lock thread =>
      obtain ⟨unlocked, next⟩ := locked_eq_some taken
      obtain ⟨threads, moved, rfl⟩ := Option.map_eq_some_iff.mp next
      exact .lock unlocked moved
  | block =>
      obtain ⟨thread, testing, rfl⟩ := Option.map_eq_some_iff.mp taken
      exact .block testing
  | leave thread =>
      obtain ⟨waitSet, left, rfl⟩ := Option.map_eq_some_iff.mp taken
      exact .leave left
  | rerun thread timedOut =>
      obtain ⟨unlocked, next⟩ := locked_eq_some taken
      obtain ⟨waitSet, woken, rest⟩ := Option.bind_eq_some_iff.mp next
      obtain ⟨threads, moved, rfl⟩ := Option.map_eq_some_iff.mp rest
      exact .rerun unlocked woken moved
  | dequeue now =>
      obtain ⟨unlocked, next⟩ := locked_eq_some taken
      obtain ⟨threads, moved, rfl⟩ := Option.map_eq_some_iff.mp next
      exact .dequeue unlocked moved
  | reapExpired now =>
      obtain ⟨unlocked, next⟩ := locked_eq_some taken
      obtain ⟨threads, moved, rfl⟩ := Option.map_eq_some_iff.mp next
      exact .reapExpired unlocked moved
  | close =>
      cases taken
      exact .close rfl
  | notifyOne chosen =>
      simp only [step] at taken
      split at taken
      · cases taken
      · rename_i pending
        obtain ⟨waitSet, notified, rfl⟩ := Option.map_eq_some_iff.mp taken
        exact .notifyOne pending notified
  | notifyAll =>
      simp only [step] at taken
      split at taken
      · cases taken
      · rename_i pending
        cases taken
        exact .notifyAll pending

theorem afterSection_threads (state : QueueMonitor T) (thread : Nat)
    (threads : QueueThreads T)
    : (state.afterSection thread threads).threads = threads := by
  unfold afterSection
  split <;> rfl

/-- Leaving out who is asleep gives the queue and its threads again. -/
theorem exec_threads {start final : QueueMonitor T} {actions : List (Action T)}
    (run : exec step start actions = some final)
    : exec QueueThreads.step start.threads (actions.filterMap Action.onThreads)
      = some final.threads := by
  refine exec_project threads Action.onThreads (fun _ => True) trivial
    (fun _ _ => trivial) ?_ run
  intro state action after _ taken
  have single
    : ∀ mover, exec QueueThreads.step state.threads [mover] = state.threads.step mover :=
    fun mover => exec_snoc QueueThreads.step state.threads [] mover
  cases move_of_step taken with
  | lock _ moved | rerun _ _ moved =>
      rw [afterSection_threads]
      exact (single _).trans moved
  | call moved | dequeue _ moved | reapExpired _ moved | close moved =>
      exact (single _).trans moved
  | block | leave | notifyOne | notifyAll => rfl

/-- Every producer in its wait is known to the condition variable, or about to be. -/
def Placed (state : QueueMonitor T) : Prop :=
  ∀ thread message,
    state.threads.calls thread = .asleep message
    → thread ∈ state.waitSet.waiting ∨ state.testing = some thread

def freeSlots (state : QueueMonitor T) : Nat :=
  state.threads.queue.limit - state.threads.queue.messages.length

/-- While a producer is blocked, the free slots are covered by producers that were notified and
by notifications still to come.
-/
structure Covered (state : QueueMonitor T) : Prop where
  policy : state.threads.queue.policy = .block
  full : state.testing.isSome → state.threads.queue.waitOver = false
  slots
    : state.waitSet.blocked ≠ []
      → state.notifyAlls = 0
      → state.threads.queue.closed = false
        ∧ state.freeSlots ≤ state.waitSet.notified.length + state.notifyOnes

/-- The steps that lose no wake-up: while a producer is blocked, `dequeue` finds no expired
message, unless a `notify_all` is under way, and `close` does not come between a producer's
test and its falling asleep.
-/
def Careful (state : QueueMonitor T) : Action T → Prop
  | .dequeue now =>
      state.waitSet.blocked = []
      ∨ 0 < state.notifyAlls
      ∨ (SubscriberQueue.skipExpired now state.threads.queue.messages).2 = 0
  | .close => state.testing = none
  | _ => True

section Sections

variable {state : QueueMonitor T} {thread : Nat} {threads : QueueThreads T}

theorem afterSection_sleeps {message : QueuedMessage T}
    (calls : threads.calls = Function.update state.threads.calls thread (.asleep message))
    : state.afterSection thread threads = { state with threads, testing := some thread } := by
  simp [afterSection, calls]

theorem afterSection_pushes
    (calls : threads.calls = Function.update state.threads.calls thread .idle)
    (log : threads.log.length = state.threads.log.length + 1)
    : state.afterSection thread threads
      = { state with threads, notifyOnes := state.notifyOnes + 1 } := by
  simp [afterSection, calls, log]

/-- A section may use up one notification: a producer that pushes sends another, and one that
goes back to sleep has found no free slot.
-/
theorem Covered.afterSection (policy : state.threads.queue.policy = .block)
    (unlocked : state.testing = none)
    (slots
      : state.waitSet.blocked ≠ []
        → state.notifyAlls = 0
        → state.threads.queue.closed = false
          ∧ state.freeSlots ≤ state.waitSet.notified.length + state.notifyOnes + 1)
    (moved : QueueThreads.Section thread state.threads threads)
    : (state.afterSection thread threads).Covered := by
  cases moved with
  | sleeps message queue calls full =>
      obtain ⟨opened, none⟩ := SubscriberQueue.waitOver_eq_false_iff.mp full
      rw [afterSection_sleeps calls]
      refine ⟨by rwa [queue], fun _ => by rwa [queue], ?_⟩
      intro _ _
      simp only [freeSlots, queue]
      exact ⟨opened, by omega⟩
  | pushes settings calls depth log =>
      rw [afterSection_pushes calls log]
      refine ⟨settings.policy.trans policy, by simp [unlocked], ?_⟩
      intro blocked silent
      obtain ⟨opened, enough⟩ := slots blocked silent
      simp only [freeSlots, settings.limit] at enough ⊢
      exact ⟨settings.closed.trans opened, by omega⟩

end Sections

theorem Covered.afterDequeue {state : QueueMonitor T} (covered : state.Covered)
    (unlocked : state.testing = none) {now : TimePoint}
    (careful : state.Careful (.dequeue now)) {threads : QueueThreads T}
    (queue : threads.queue = (state.threads.queue.dequeue now).1)
    : (state.afterDequeue now threads).Covered := by
  have settings := SubscriberQueue.dequeue_settings state.threads.queue now
  unfold QueueMonitor.afterDequeue
  refine ⟨?_, ?_, ?_⟩
  · rw [queue, settings.policy, covered.policy]
  · simp [unlocked]
  · intro blocked silent
    obtain ⟨opened, enough⟩ := covered.slots blocked silent
    have live
      : (SubscriberQueue.skipExpired now state.threads.queue.messages).2 = 0 := by
      rcases careful with none | pending | live
      · exact absurd none blocked
      · exact absurd silent pending.ne'
      · exact live
    have taken := SubscriberQueue.dequeue_length live
    simp only [freeSlots, queue, settings.limit, settings.closed, covered.policy, true_and]
      at enough ⊢
    refine ⟨opened, ?_⟩
    cases returned : (state.threads.queue.dequeue now).2 with
    | none =>
        simp only [returned, Option.toList_none, List.length_nil] at taken
        simp only [Option.isSome_none, Bool.false_eq_true, if_false]
        omega
    | some message =>
        simp only [returned, Option.toList_some, List.length_singleton] at taken
        simp only [Option.isSome_some, if_true]
        omega

theorem Covered.afterReap {state : QueueMonitor T} (covered : state.Covered)
    (unlocked : state.testing = none) {now : TimePoint} {threads : QueueThreads T}
    (queue : threads.queue = (state.threads.queue.reapExpired now).1)
    : (state.afterReap now threads).Covered := by
  have settings := SubscriberQueue.reapExpired_settings state.threads.queue now
  unfold QueueMonitor.afterReap
  refine ⟨?_, ?_, ?_⟩
  · rw [queue, settings.policy, covered.policy]
  · simp [unlocked]
  · intro blocked silent
    dsimp only at blocked silent
    split at silent
    · exact absurd silent (Nat.succ_ne_zero _)
    · rename_i reaped
      have none : (SubscriberQueue.skipExpired now state.threads.queue.messages).2 = 0 := by
        simpa [covered.policy, SubscriberQueue.reapExpired] using reaped
      simp only [freeSlots, queue, SubscriberQueue.reapExpired,
        SubscriberQueue.skipExpired_of_none none]
      exact covered.slots blocked silent

theorem Covered.step {state after : QueueMonitor T} {action : Action T}
    (covered : state.Covered) (careful : state.Careful action)
    (taken : state.step action = some after)
    : after.Covered := by
  cases move_of_step taken with
  | call moved =>
      have queue := (QueueThreads.callStep_effect moved).1
      refine ⟨by rw [queue]; exact covered.policy, by rw [queue]; exact covered.full, ?_⟩
      simp only [freeSlots, queue]
      exact covered.slots
  | lock unlocked moved =>
      refine Covered.afterSection covered.policy unlocked ?_
        (QueueThreads.lockStep_section covered.policy moved)
      intro blocked silent
      obtain ⟨opened, enough⟩ := covered.slots blocked silent
      exact ⟨opened, by omega⟩
  | block testing =>
      obtain ⟨opened, none⟩ :=
        SubscriberQueue.waitOver_eq_false_iff.mp (covered.full (by simp [testing]))
      refine ⟨covered.policy, by simp, ?_⟩
      intro _ _
      simp only [freeSlots]
      exact ⟨opened, by omega⟩
  | leave left =>
      obtain ⟨blocked, notified⟩ := WaitSet.leave_notified left
      refine ⟨covered.policy, covered.full, ?_⟩
      intro _ silent
      simp only [notified]
      exact covered.slots blocked silent
  | rerun unlocked woken moved =>
      obtain ⟨same, used⟩ := WaitSet.rerun_notified woken
      refine Covered.afterSection covered.policy unlocked ?_
        (QueueThreads.wakeStep_section moved)
      intro blocked silent
      obtain ⟨opened, enough⟩ := covered.slots (by rwa [← same]) silent
      simp only [freeSlots] at enough ⊢
      exact ⟨opened, by omega⟩
  | dequeue unlocked moved =>
      cases moved
      exact covered.afterDequeue unlocked careful rfl
  | reapExpired unlocked moved =>
      cases moved
      exact covered.afterReap unlocked rfl
  | close moved =>
      cases moved
      refine ⟨covered.policy, ?_, fun _ silent => absurd silent (Nat.succ_ne_zero _)⟩
      intro testing
      have idle : state.testing = none := careful
      simp [idle] at testing
  | notifyOne pending notified =>
      refine ⟨covered.policy, covered.full, ?_⟩
      intro blocked silent
      obtain ⟨before, more⟩ := WaitSet.notifyOne_notified notified blocked
      obtain ⟨opened, enough⟩ := covered.slots before silent
      simp only [freeSlots, more] at enough ⊢
      exact ⟨opened, by omega⟩
  | notifyAll pending =>
      exact ⟨covered.policy, covered.full, fun blocked => absurd rfl blocked⟩

theorem Placed.afterSection {state : QueueMonitor T} {thread : Nat}
    {threads : QueueThreads T}
    (others
      : ∀ {other message},
          other ≠ thread
          → state.threads.calls other = .asleep message
          → other ∈ state.waitSet.waiting)
    (moved : QueueThreads.Section thread state.threads threads)
    : (state.afterSection thread threads).Placed := by
  cases moved with
  | sleeps message queue calls full =>
      rw [afterSection_sleeps calls]
      intro other held asleep
      by_cases same : other = thread
      · exact Or.inr (congrArg some same.symm)
      · simp only [calls, Function.update_of_ne same] at asleep
        exact Or.inl (others same asleep)
  | pushes settings calls depth log =>
      rw [afterSection_pushes calls log]
      intro other held asleep
      have differs : other ≠ thread := by
        intro same
        simp [calls, same] at asleep
      simp only [calls, Function.update_of_ne differs] at asleep
      exact Or.inl (others differs asleep)

theorem Placed.step {state after : QueueMonitor T} {action : Action T}
    (policy : state.threads.queue.policy = .block) (placed : state.Placed)
    (taken : state.step action = some after)
    : after.Placed := by
  -- nobody is about to fall asleep while a section runs
  have waits
    : state.testing = none
      → ∀ {other message},
          state.threads.calls other = .asleep message → other ∈ state.waitSet.waiting := by
    intro unlocked other message asleep
    rcases placed other message asleep with waiting | testing
    · exact waiting
    · simp [unlocked] at testing
  cases move_of_step taken with
  | call moved =>
      intro other message asleep
      exact placed other message ((QueueThreads.callStep_effect moved).2 other message asleep)
  | lock unlocked moved =>
      exact Placed.afterSection (fun _ asleep => waits unlocked asleep)
        (QueueThreads.lockStep_section policy moved)
  | block testing =>
      intro other message asleep
      rw [WaitSet.block_waiting]
      rcases placed other message asleep with waiting | about
      · exact Or.inl (List.mem_cons_of_mem _ waiting)
      · rw [testing, Option.some.injEq] at about
        exact Or.inl (about ▸ List.mem_cons_self)
  | leave left =>
      intro other message asleep
      exact (placed other message asleep).imp_left (WaitSet.leave_waiting left).mem_iff.mpr
  | rerun unlocked woken moved =>
      refine Placed.afterSection ?_ (QueueThreads.wakeStep_section moved)
      intro other message differs asleep
      have waiting := (WaitSet.rerun_waiting woken).mem_iff.mp (waits unlocked asleep)
      exact (List.mem_cons.mp waiting).resolve_left differs
  | dequeue unlocked moved | reapExpired unlocked moved =>
      cases moved
      exact placed
  | close moved =>
      cases moved
      exact placed
  | notifyOne pending notified =>
      intro other message asleep
      exact (placed other message asleep).imp_left
        (WaitSet.notifyOne_waiting notified).mem_iff.mpr
  | notifyAll pending =>
      intro other message asleep
      rw [WaitSet.notifyAll_waiting]
      exact placed other message asleep

-----------------------------------------------------------------------------------------
-- No lost wake-up
-----------------------------------------------------------------------------------------

/-- No call but producers in their wait. -/
structure Resting (state : QueueMonitor T) : Prop where
  notifyOnes : state.notifyOnes = 0
  notifyAlls : state.notifyAlls = 0
  testing : state.testing = none
  calls : ∀ thread message, state.threads.calls thread ≠ .prepared message

/-- The queue is open, and for every free slot a producer is on its way. -/
structure Serves (state : QueueMonitor T) : Prop where
  opened : state.threads.queue.closed = false
  slots : state.freeSlots ≤ state.waitSet.notified.length

/-- Where every step is careful, no wake-up is lost: at rest a producer sleeps without a
notification only if the queue is open and every free slot has a notified producer.
-/
theorem no_lost_wakeup {limit : Nat} {defaultTtlMs : Int} {actions : List (Action T)}
    {state : QueueMonitor T}
    (run : exec step (start T limit .block defaultTtlMs) actions = some state)
    (careful : Along step (start T limit .block defaultTtlMs) Careful actions)
    (resting : state.Resting) {thread : Nat} {message : QueuedMessage T}
    (asleep : state.threads.calls thread = .asleep message)
    (unnotified : thread ∉ state.waitSet.notified) (unwoken : thread ∉ state.waitSet.left)
    : state.Serves := by
  obtain ⟨covered, placed⟩
    : state.Covered ∧ state.Placed := by
    refine exec_invariant Careful (fun state => state.Covered ∧ state.Placed) ?_ ?_ run careful
    · refine ⟨⟨rfl, by simp [start], fun blocked => absurd rfl blocked⟩, ?_⟩
      intro thread message asleep
      cases asleep
    · intro state action after both careful taken
      exact ⟨both.1.step careful taken, both.2.step both.1.policy taken⟩
  have blocked : thread ∈ state.waitSet.blocked := by
    rcases placed thread message asleep with waiting | testing
    · simpa [WaitSet.waiting, unnotified, unwoken] using waiting
    · simp [resting.testing] at testing
  obtain ⟨opened, enough⟩ :=
    covered.slots (List.ne_nil_of_mem blocked) resting.notifyAlls
  exact ⟨opened, by rwa [resting.notifyOnes] at enough⟩

instance (state : QueueMonitor T) (action : Action T) : Decidable (state.Careful action) := by
  cases action <;> unfold Careful <;> infer_instance

/-- Two producers meet a full queue, and a delivery wakes one of them. -/
def oneWoken : List (Action Nat) :=
  [
    .call 0 0 10 0, .lock 0, .notifyOne 0,
    .call 1 0 11 0, .lock 1, .block,
    .call 2 0 12 0, .lock 2, .block,
    .dequeue 5, .notifyOne 1
  ]

theorem no_lost_wakeup_oneWoken
    : ∃ state,
        exec step (start Nat 1 .block 0) oneWoken = some state
        ∧ state.waitSet.blocked = [2]
        ∧ state.freeSlots = 1
        ∧ state.Serves := by
  obtain ⟨state, run, blocked, notified, left, free, pending, asleep, prepared⟩
    : ∃ state : QueueMonitor Nat,
        exec step (start Nat 1 .block 0) oneWoken = some state
        ∧ state.waitSet.blocked = [2]
        ∧ state.waitSet.notified = [1]
        ∧ state.waitSet.left = []
        ∧ state.freeSlots = 1
        ∧ (state.notifyOnes = 0 ∧ state.notifyAlls = 0 ∧ state.testing = none)
        ∧ state.threads.calls 2 = .asleep ⟨12, TimePoint.max, 0⟩
        ∧ ∀ thread message, state.threads.calls thread ≠ .prepared message := by
    refine ⟨_, rfl, rfl, rfl, rfl, rfl, ⟨rfl, rfl, rfl⟩, rfl, ?_⟩
    intro thread message prepared
    rcases thread with _ | _ | _ | thread <;> cases prepared
  have careful : Along step (start Nat 1 .block 0) Careful oneWoken := by decide +kernel
  refine ⟨state, run, blocked, free, ?_⟩
  exact no_lost_wakeup run careful ⟨pending.1, pending.2.1, pending.2.2, prepared⟩ asleep
    (by simp [notified]) (by simp [left])

/-- A message with a TTL of one millisecond fills the queue, a producer waits, and `dequeue`
comes after the message has expired.
-/
def expiredWhileBlocked : List (Action Nat) :=
  [
    .call 0 0 10 1, .lock 0, .notifyOne 0,
    .call 1 0 11 0, .lock 1, .block,
    .dequeue 2000000
  ]

/-- `close` comes after a producer has found the queue full and before it is asleep. -/
def closedWhileTesting : List (Action Nat) :=
  [
    .call 0 0 10 0, .lock 0, .notifyOne 0,
    .call 1 0 11 0, .lock 1, .close, .notifyAll, .block
  ]

/-- The slot that expiry frees is announced to nobody, and the producer that misses the
notification of `close` sleeps on in a closed queue.
-/
theorem lost_wakeups
    : (∃ state : QueueMonitor Nat,
        exec step (start Nat 1 .block 0) expiredWhileBlocked = some state
        ∧ state.Resting
        ∧ state.waitSet = { blocked := [1] }
        ∧ (∃ message, state.threads.calls 1 = .asleep message)
        ∧ state.freeSlots = 1
        ∧ ¬state.Serves)
      ∧ ∃ state : QueueMonitor Nat,
          exec step (start Nat 1 .block 0) closedWhileTesting = some state
          ∧ state.Resting
          ∧ state.waitSet = { blocked := [1] }
          ∧ (∃ message, state.threads.calls 1 = .asleep message)
          ∧ ¬state.Serves := by
  constructor
  · refine ⟨_, rfl, ⟨rfl, rfl, rfl, ?_⟩, rfl, ⟨_, rfl⟩, rfl, ?_⟩
    · intro thread message prepared
      rcases thread with _ | _ | thread <;> cases prepared
    · intro serves
      exact absurd serves.slots (by decide)
  · refine ⟨_, rfl, ⟨rfl, rfl, rfl, ?_⟩, rfl, ⟨_, rfl⟩, ?_⟩
    · intro thread message prepared
      rcases thread with _ | _ | thread <;> cases prepared
    · intro serves
      exact absurd serves.opened (by decide)

end QueueMonitor

end NexusD.Core
