import NexusD.Services.StreamTransitions

/-! Who holds `writeMutex`, and what that means for a publisher blocked on a full queue.
`enqueueMessage` keeps `writeMutex` while `SubscriberQueue::enqueue` waits for space, so the
wait gives up the queue's mutex but not the lock the consumer needs.
-/

namespace NexusD.Services

open NexusD.Core NexusD.Library

/-- The positions of `enqueueMessage` inside one of its two locked sections. -/
def ProducerPc.locksWrite {T : Type} : ProducerPc T → Bool
  | .idle | .admitted _ _ | .exchanging | .claimed => false
  | _ => true

def CallbackPc.locksWrite : CallbackPc → Bool
  | .testing | .draining | .clearing => true
  | _ => false

/-- The positions from the first sleep of a publisher to the end of its wait. -/
def ProducerPc.waits {T : Type} : ProducerPc T → Bool
  | .asleep _ | .woken _ _ | .rechecking _ _ => true
  | _ => false

namespace StreamState

variable {T : Type}

def LocksWrite (state : StreamState T) : Party → Prop
  | .producer id => (state.producers id).locksWrite = true
  | .callback id => (state.callbacks id).locksWrite = true

/-- What one step does to `writeMutex` and to the threads in its sections. -/
inductive LockChange (state after : StreamState T) : Prop
  | kept (same : after.writeMutex = state.writeMutex)
    (sections : ∀ party, after.LocksWrite party ↔ state.LocksWrite party)
  | acquired (holder : Party) (free : state.writeMutex = none)
    (taken : after.writeMutex = some holder)
    (sections : ∀ party, after.LocksWrite party ↔ party = holder ∨ state.LocksWrite party)
  | released (holder : Party) (held : state.LocksWrite holder)
    (freed : after.writeMutex = none)
    (sections : ∀ party, after.LocksWrite party ↔ party ≠ holder ∧ state.LocksWrite party)

variable {state after : StreamState T} {id : Nat} {action : StreamAction T}

theorem locksWrite_of_producer {pc : ProducerPc T}
    (producers : after.producers = Function.update state.producers id pc)
    (callbacks : after.callbacks = state.callbacks) (party : Party)
    : after.LocksWrite party
      ↔ if party = .producer id then pc.locksWrite = true else state.LocksWrite party := by
  cases party with
  | callback other => simp [LocksWrite, callbacks]
  | producer other =>
      by_cases same : other = id
      · subst other
        simp [LocksWrite, producers]
      · simp [LocksWrite, producers, same]

theorem locksWrite_of_callback {pc : CallbackPc}
    (producers : after.producers = state.producers)
    (callbacks : after.callbacks = Function.update state.callbacks id pc) (party : Party)
    : after.LocksWrite party
      ↔ if party = .callback id then pc.locksWrite = true else state.LocksWrite party := by
  cases party with
  | producer other => simp [LocksWrite, producers]
  | callback other =>
      by_cases same : other = id
      · subst other
        simp [LocksWrite, callbacks]
      · simp [LocksWrite, callbacks, same]

/-- Replacing one thread's position, read as a change of the lock's sections. -/
theorem lockChange_of_update {mover : Party} {inside : Prop}
    (sections
      : ∀ party,
          after.LocksWrite party ↔ if party = mover then inside else state.LocksWrite party)
    (effect
      : after.writeMutex = state.writeMutex ∧ (inside ↔ state.LocksWrite mover)
        ∨ state.writeMutex = none ∧ after.writeMutex = some mover ∧ inside
        ∨ state.LocksWrite mover ∧ after.writeMutex = none ∧ ¬inside)
    : LockChange state after := by
  rcases effect with ⟨same, stays⟩ | ⟨free, taken, enters⟩ | ⟨held, freed, leaves⟩
  · refine .kept same ?_
    intro party
    rw [sections party]
    split
    · rename_i isMover
      rw [isMover, stays]
    · rfl
  · refine .acquired mover free taken ?_
    intro party
    rw [sections party]
    by_cases isMover : party = mover <;> simp [isMover, enters]
  · refine .released mover held freed ?_
    intro party
    rw [sections party]
    by_cases isMover : party = mover <;> simp [isMover, leaves]

theorem lockChange_of_transition (transition : Transition state action after)
    : LockChange state after := by
  cases transition with
  | enter pc _ | seeClosed pc _ | prepare pc _ | lockQueue pc _ | insert pc _ | sleep pc _
  | wake pc | relock pc _ | insertLate pc _ | sleepAgain pc _ | exchangeLost pc _
  | exchangeWon pc _ | seeEmpty pc _ _ | seeMessages pc _ _ =>
      exact lockChange_of_update (locksWrite_of_producer rfl rfl)
        (.inl ⟨rfl, by simp [LocksWrite, pc, ProducerPc.locksWrite]⟩)
  | lockWrite pc free | claim pc free =>
      exact lockChange_of_update (locksWrite_of_producer rfl rfl)
        (.inr (.inl ⟨free, rfl, rfl⟩))
  | unlock pc | giveUp pc _ | startWrite pc _ _ | allExpired pc _ _ | clear pc =>
      exact lockChange_of_update (locksWrite_of_producer rfl rfl)
        (.inr (.inr ⟨by simp [LocksWrite, pc, ProducerPc.locksWrite], rfl,
          by simp [ProducerPc.locksWrite]⟩))
  | answer pc _ | finish pc _ | proceed pc _ | callbackSeeEmpty pc _ _
  | callbackSeeMessages pc _ _ | callbackAllExpired pc _ _ =>
      exact lockChange_of_update (locksWrite_of_callback rfl rfl)
        (.inl ⟨rfl, by simp [LocksWrite, pc, CallbackPc.locksWrite]⟩)
  | callbackLock pc free =>
      exact lockChange_of_update (locksWrite_of_callback rfl rfl)
        (.inr (.inl ⟨free, rfl, rfl⟩))
  | callbackStartWrite pc _ _ | callbackClear pc =>
      exact lockChange_of_update (locksWrite_of_callback rfl rfl)
        (.inr (.inr ⟨by simp [LocksWrite, pc, CallbackPc.locksWrite], rfl,
          by simp [CallbackPc.locksWrite]⟩))
  | refused | reap | cancel | tick => exact .kept rfl (fun party => by cases party <;> rfl)

/-- The mutex names exactly the thread that is inside one of its sections. -/
def LockDiscipline (state : StreamState T) : Prop :=
  ∀ party, state.LocksWrite party ↔ state.writeMutex = some party

theorem lockDiscipline_construct (queue : SubscriberQueue T) (info : T) (retained : List T)
    (now : TimePoint)
    : (construct queue info retained now).LockDiscipline := by
  intro party
  cases party <;>
    simp [LocksWrite, construct, ProducerPc.locksWrite, CallbackPc.locksWrite]

theorem LockDiscipline.step (discipline : state.LockDiscipline)
    (change : LockChange state after)
    : after.LockDiscipline := by
  intro party
  cases change with
  | kept same sections => rw [sections, discipline, same]
  | acquired holder free taken sections =>
      rw [sections, discipline, free, taken]
      simp [eq_comm]
  | released holder held freed sections =>
      rw [sections, discipline, freed, (discipline holder).mp held]
      simp [eq_comm]

/-- What every reachable state of a stream with an open queue satisfies. -/
structure Orderly (state : StreamState T) : Prop where
  discipline : state.LockDiscipline
  opened : state.queue.closed = false

/-- No step closes the queue. -/
theorem closed_of_transition (transition : Transition state action after)
    : after.queue.closed = state.queue.closed := by
  cases transition with
  | insert _ done => exact (SubscriberQueue.enqueueLocked_settings done).closed
  | insertLate => exact (SubscriberQueue.afterWait_settings _ _ _).closed
  | startWrite _ _ taken | allExpired _ _ taken | callbackStartWrite _ _ taken
  | callbackAllExpired _ _ taken =>
      have settings := SubscriberQueue.dequeue_settings state.queue state.clock
      rw [taken] at settings
      exact settings.closed
  | reap => exact (SubscriberQueue.reapExpired_settings _ _).closed
  | _ => rfl

theorem Orderly.step (orderly : state.Orderly) (transition : Transition state action after)
    : after.Orderly :=
  ⟨orderly.discipline.step (lockChange_of_transition transition),
    (closed_of_transition transition).trans orderly.opened⟩

theorem closed_foldl_enqueue (queue : SubscriberQueue T) (retained : List T)
    (now : TimePoint)
    : (retained.foldl (fun filled event => (filled.enqueue now event 0).1) queue).closed
      = queue.closed := by
  induction retained generalizing queue with
  | nil => rfl
  | cons event rest ih =>
      rw [List.foldl_cons, ih]
      exact (SubscriberQueue.enqueue_settings queue now event 0).closed

theorem orderly_construct {queue : SubscriberQueue T} (opened : queue.closed = false)
    (info : T) (retained : List T) (now : TimePoint)
    : (construct queue info retained now).Orderly :=
  ⟨lockDiscipline_construct queue info retained now,
    (closed_foldl_enqueue queue retained now).trans opened⟩

/-- Every schedule keeps the locks in order. -/
theorem orderly_of_exec {queue : SubscriberQueue T} (opened : queue.closed = false) {info : T}
    {retained : List T} {now : TimePoint} {actions : List (StreamAction T)}
    (reached : exec StreamState.step (construct queue info retained now) actions = some state)
    : state.Orderly :=
  exec_always Orderly (orderly_construct opened info retained now)
    (fun orderly taken => orderly.step (transition_of_step taken)) reached

/-- While a publisher sleeps on the full queue, no callback can enter its locked section:
the sleeper is still inside its own.
-/
theorem Orderly.sleeper_blocks_consumer (orderly : state.Orderly) {sleeper consumer : Nat}
    {message : QueuedMessage T} (asleep : state.producers sleeper = .asleep message)
    (ready : state.callbacks consumer = .admitted)
    : state.writeMutex = some (.producer sleeper)
      ∧ state.step (.callback consumer) = none := by
  have held : state.writeMutex = some (.producer sleeper) :=
    (orderly.discipline (.producer sleeper)).mp
      (by simp [LocksWrite, asleep, ProducerPc.locksWrite])
  exact ⟨held, by simp [StreamState.step, callbackStep, ready, held]⟩

/-- No sleeping publisher holds `writeMutex`, and a consumer that is ready to dequeue can
take it.
-/
def SleepersYield (state : StreamState T) : Prop :=
  ∀ sleeper message,
    state.producers sleeper = .asleep message
    → state.writeMutex ≠ some (.producer sleeper)
      ∧ ∀ consumer,
          state.callbacks consumer = .admitted
          → (state.step (.callback consumer)).isSome = true

/-- A publisher that is about to look at the queue does not find it full under `BLOCK`. -/
def RoomWhenBlocking (state : StreamState T) (action : StreamAction T) : Prop :=
  ∀ id,
    action = .producer id
    → ∀ message,
        state.producers id = .inside message
        → ¬(state.queue.policy = .block ∧ state.queue.full = true)

instance (state : StreamState T) (action : StreamAction T)
    : Decidable (state.RoomWhenBlocking action) :=
  match action with
  | .producer id =>
      match pc : state.producers id with
      | .inside _ =>
          decidable_of_iff (¬(state.queue.policy = .block ∧ state.queue.full = true))
            (by simp [RoomWhenBlocking, pc])
      | .idle | .admitted _ _ | .locked _ _ | .prepared _ | .asleep _ | .woken _ _
      | .rechecking _ _ | .returning _ | .exchanging | .claimed | .testing | .draining
      | .clearing => isTrue (by simp [RoomWhenBlocking, pc])
  | .call _ _ _ | .wake _ _ | .writeDone _ _ | .callback _ | .reap | .cancel | .tick _ =>
      isTrue (by simp [RoomWhenBlocking])

def NobodyWaits (state : StreamState T) : Prop :=
  ∀ id, (state.producers id).waits = false

theorem NobodyWaits.update {pc : ProducerPc T} (nobody : state.NobodyWaits)
    (calm : pc.waits = false)
    (producers : after.producers = Function.update state.producers id pc)
    : after.NobodyWaits := by
  intro other
  rw [producers]
  by_cases same : other = id
  · subst other
    simpa using calm
  · simpa [same] using nobody other

theorem NobodyWaits.step (nobody : state.NobodyWaits) (orderly : state.Orderly)
    (room : state.RoomWhenBlocking action) (transition : Transition state action after)
    : after.NobodyWaits := by
  cases transition with
  | sleep pc full =>
      exact absurd ((SubscriberQueue.enqueueLocked_waits_iff _ orderly.opened).mp full)
        (room _ rfl _ pc)
  | wake pc | relock pc _ | sleepAgain pc _ | insertLate pc _ =>
      exact absurd ((nobody _).symm.trans (congrArg ProducerPc.waits pc)) Bool.false_ne_true
  | enter | lockWrite | seeClosed | prepare | lockQueue | insert | unlock | giveUp
  | exchangeLost | exchangeWon | claim | seeEmpty | seeMessages | startWrite | allExpired
  | clear => exact nobody.update rfl rfl
  | _ => exact nobody

/-- A schedule keeps the consumer able to make room in every state it passes through exactly
if no publisher ever looks at a full queue under `BLOCK`: the first one that does goes to
sleep on the queue with `writeMutex` in hand.
-/
theorem sleepersYield_iff_roomWhenBlocking {queue : SubscriberQueue T}
    (opened : queue.closed = false) (info : T) (retained : List T) (now : TimePoint)
    (actions : List (StreamAction T)) {final : StreamState T}
    (run : exec StreamState.step (construct queue info retained now) actions = some final)
    : (∀ earlier state,
        earlier <+: actions
        → exec StreamState.step (construct queue info retained now) earlier = some state
        → state.SleepersYield)
      ↔ Along StreamState.step (construct queue info retained now) RoomWhenBlocking
          actions := by
  constructor
  · intro yields earlier action later state same reached id equal message pc full
    subst same
    subst equal
    have orderly := orderly_of_exec opened reached
    obtain ⟨after, taken, goes⟩ := exec_step_of_split run reached
    have waits := (SubscriberQueue.enqueueLocked_waits_iff message orderly.opened).mpr full
    simp only [step, producerStep, pc, waits, Option.some.injEq] at taken
    subst taken
    refine (yields _ _ ?_ goes id message (by simp)).1 ?_
    · exact ⟨later, by simp⟩
    · exact (orderly.discipline (.producer id)).mp
        (by simp [LocksWrite, pc, ProducerPc.locksWrite])
  · intro room earlier state isPrefix reached
    have calm : state.Orderly ∧ state.NobodyWaits := by
      refine exec_invariant RoomWhenBlocking (fun state => state.Orderly ∧ state.NobodyWaits)
        ⟨orderly_construct opened info retained now, fun _ => rfl⟩ ?_ reached
        (room.of_prefix isPrefix)
      intro state action after calm room taken
      rcases calm with ⟨orderly, nobody⟩
      have transition := transition_of_step taken
      exact ⟨orderly.step transition, nobody.step orderly room transition⟩
    intro sleeper message asleep
    exact absurd (calm.2 sleeper) (by simp [asleep, ProducerPc.waits])

/-- A queue for two messages whose publishers wait for space. -/
def blockingQueue : SubscriberQueue Nat :=
  { limit := 2, policy := .block, defaultTtlMs := 0 }

/-- One message into an empty queue for two leaves the consumer able to dequeue. -/
theorem sleepersYield_with_room
    : ∃ final,
        exec StreamState.step (construct blockingQueue 0 [] 0) (publisherRun 0 7 0 5)
          = some final
        ∧ ∀ earlier state,
            earlier <+: publisherRun 0 7 0 5
            → exec StreamState.step (construct blockingQueue 0 [] 0) earlier = some state
            → state.SleepersYield := by
  refine ⟨_, rfl, ?_⟩
  refine (sleepersYield_iff_roomWhenBlocking rfl 0 [] 0 (publisherRun 0 7 0 5) rfl).mpr ?_
  decide +kernel

/-- Two messages fill the queue; the third publisher sleeps with `writeMutex`, and the
callback that answers the constructor's write cannot take it to dequeue.
-/
theorem third_publisher_sleeps_on_writeMutex
    : ∃ state,
        exec StreamState.step (construct blockingQueue 0 [] 0)
            (publisherRun 0 7 0 5 ++ publisherRun 1 8 0 5
              ++ publisherRun 2 9 0 4
              ++ [.writeDone 0 true, .callback 0])
          = some state
        ∧ state.callbacks 0 = .admitted
        ∧ state.step (.callback 0) = none
        ∧ ¬state.SleepersYield := by
  refine ⟨_, rfl, rfl, rfl, ?_⟩
  intro yields
  exact (yields 2 _ rfl).1 rfl

end StreamState

end NexusD.Services
