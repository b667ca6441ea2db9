import NexusD.Services.StreamLocks

/-! Why a Subscribe stream with queued messages keeps writing.
A message in the queue is looked after by a write in flight, by a thread that is on its way
to dequeue, or by the publisher that has just inserted it and has yet to try the exchange.
The publisher that dequeues nothing but expired messages leaves the flag set with nobody
behind it.
-/

namespace NexusD.Services

open NexusD.Core NexusD.Library

/-- What a thread still owes the queue. -/
inductive Duty where
  | none
  /-- has inserted a message and will try the exchange -/
  | pending
  /-- will reach a `dequeue`, or the test before it -/
  | serving
  /-- has seen the queue empty and will clear `writing` -/
  | clearing
deriving DecidableEq, Repr

def ProducerPc.duty {T : Type} : ProducerPc T → Duty
  | .returning .enqueued | .exchanging => .pending
  | .claimed | .testing | .draining => .serving
  | .clearing => .clearing
  | _ => .none

def CallbackPc.duty : CallbackPc → Duty
  | .idle => .none
  | .answered _ | .admitted | .testing | .draining => .serving
  | .clearing => .clearing

theorem ProducerPc.duty_returning {T : Type} {result : EnqueueResult}
    (dropped : result ≠ .enqueued)
    : (ProducerPc.returning result : ProducerPc T).duty = .none := by
  cases result <;> first | rfl | exact absurd rfl dropped

namespace StreamState

variable {T : Type}

def duty (state : StreamState T) : Party → Duty
  | .producer id => (state.producers id).duty
  | .callback id => (state.callbacks id).duty

variable {state after : StreamState T} {id : Nat} {pc : CallbackPc} {duty now : Duty}
  {mover party : Party}

theorem duty_of_producer {pc : ProducerPc T}
    (producers : after.producers = Function.update state.producers id pc)
    (callbacks : after.callbacks = state.callbacks) (becomes : pc.duty = duty)
    : after.duty = Function.update state.duty (.producer id) duty := by
  subst becomes
  funext party
  cases party with
  | callback other => simp [StreamState.duty, callbacks]
  | producer other =>
      by_cases same : other = id
      · subst other
        simp [StreamState.duty, producers]
      · simp [StreamState.duty, producers, same]

theorem duty_of_callback (producers : after.producers = state.producers)
    (callbacks : after.callbacks = Function.update state.callbacks id pc)
    (becomes : pc.duty = duty)
    : after.duty = Function.update state.duty (.callback id) duty := by
  subst becomes
  funext party
  cases party with
  | producer other => simp [StreamState.duty, producers]
  | callback other =>
      by_cases same : other = id
      · subst other
        simp [StreamState.duty, callbacks]
      · simp [StreamState.duty, callbacks, same]

/-- A step that leaves the mover's duty as it was leaves everybody's. -/
theorem duty_of_producer_same {pc : ProducerPc T}
    (producers : after.producers = Function.update state.producers id pc)
    (callbacks : after.callbacks = state.callbacks)
    (same : pc.duty = (state.producers id).duty)
    : after.duty = state.duty := by
  rw [duty_of_producer producers callbacks same]
  exact Function.update_eq_self (Party.producer id) state.duty

theorem duty_of_callback_same (producers : after.producers = state.producers)
    (callbacks : after.callbacks = Function.update state.callbacks id pc)
    (same : pc.duty = (state.callbacks id).duty)
    : after.duty = state.duty := by
  rw [duty_of_callback producers callbacks same]
  exact Function.update_eq_self (Party.callback id) state.duty

/-- The stream is active and every write so far was answered with success. -/
structure Healthy (state : StreamState T) : Prop where
  active : state.active = true
  answers : ∀ id ok, state.callbacks id = .answered ok → ok = true

/-- Writes succeed, and nobody cancels the stream. -/
def Succeeds (action : StreamAction T) : Prop :=
  action ≠ .cancel ∧ ∀ id ok, action = .writeDone id ok → ok = true

/-- A publisher about to dequeue in its second locked section finds a live message. -/
def LiveWhenDraining (state : StreamState T) (action : StreamAction T) : Prop :=
  ∀ id,
    action = .producer id
    → state.producers id = .draining
    → ∃ message ∈ state.queue.messages, state.clock < message.expiryTime

/-- The steps of a healthy stream whose publishers never drain a dead queue. -/
inductive ProgressChange (state after : StreamState T) : Prop
  | kept (duties : after.duty = state.duty) (flag : after.writing = state.writing)
    (writes : after.outstanding = state.outstanding)
    (contents : after.queue.messages ≠ [] → state.queue.messages ≠ [])
  | inserted (mover : Party) (holder : state.LocksWrite mover)
    (before : state.duty mover = .none)
    (duties : after.duty = Function.update state.duty mover .pending)
    (flag : after.writing = state.writing) (writes : after.outstanding = state.outstanding)
  | lost (mover : Party) (set : state.writing = true)
    (duties : after.duty = Function.update state.duty mover .none)
    (flag : after.writing = state.writing) (writes : after.outstanding = state.outstanding)
    (contents : after.queue.messages = state.queue.messages)
    (before : state.duty mover = .pending)
  | won (mover : Party) (before : state.duty mover = .pending)
    (duties : after.duty = Function.update state.duty mover .serving)
    (contents : after.queue.messages = state.queue.messages)
  | emptied (mover : Party) (before : state.duty mover = .serving)
    (duties : after.duty = Function.update state.duty mover .clearing)
    (contents : after.queue.messages = [])
  | started (mover : Party) (before : state.duty mover = .serving)
    (duties : after.duty = Function.update state.duty mover .none)
    (writes : 0 < after.outstanding)
    (contents : after.queue.messages ≠ [] → state.queue.messages ≠ [])
  | cleared (mover : Party) (before : state.duty mover = .clearing)
    (duties : after.duty = Function.update state.duty mover .none)
    (flag : after.writing = false)
    (contents : after.queue.messages = state.queue.messages)
  | answered (mover : Party) (before : state.duty mover = .none)
    (duties : after.duty = Function.update state.duty mover .serving)
    (contents : after.queue.messages = state.queue.messages)

theorem progressChange_of_transition {action : StreamAction T} (healthy : state.Healthy)
    (succeeds : Succeeds action) (live : state.LiveWhenDraining action)
    (transition : Transition state action after)
    : ProgressChange state after := by
  cases transition with
  | enter pc _ | lockWrite pc _ | seeClosed pc _ | prepare pc _ | lockQueue pc _ | sleep pc _
  | wake pc | relock pc _ | sleepAgain pc _ | unlock pc | claim pc _ | seeMessages pc _ _ =>
      exact .kept (duty_of_producer_same rfl rfl (by rw [pc]; rfl)) rfl rfl id
  | giveUp pc dropped =>
      exact .kept
        (duty_of_producer_same rfl rfl (by rw [pc, ProducerPc.duty_returning dropped]; rfl))
        rfl rfl id
  | insert pc done =>
      rename_i id message queue result
      by_cases taken : result = .enqueued
      · subst taken
        exact .inserted (.producer id) (congrArg ProducerPc.locksWrite pc)
          (congrArg ProducerPc.duty pc) (duty_of_producer rfl rfl rfl) rfl rfl
      · refine .kept (duty_of_producer_same rfl rfl ?_) rfl rfl ?_
        · rw [pc, ProducerPc.duty_returning taken]
          rfl
        · intro nonempty
          rwa [← SubscriberQueue.enqueueLocked_dropped_messages done taken]
  | insertLate pc _ =>
      exact .inserted (.producer _) (congrArg ProducerPc.locksWrite pc)
        (congrArg ProducerPc.duty pc) (duty_of_producer rfl rfl rfl) rfl rfl
  | exchangeLost pc set =>
      exact .lost (.producer _) set (duty_of_producer rfl rfl rfl) rfl rfl rfl
        (congrArg ProducerPc.duty pc)
  | exchangeWon pc _ =>
      exact .won (.producer _) (congrArg ProducerPc.duty pc)
        (duty_of_producer rfl rfl rfl) rfl
  | seeEmpty pc _ empty =>
      exact .emptied (.producer _) (congrArg ProducerPc.duty pc)
        (duty_of_producer rfl rfl rfl) empty
  | startWrite pc _ taken =>
      exact .started (.producer _) (congrArg ProducerPc.duty pc)
        (duty_of_producer rfl rfl rfl) (Nat.succ_pos _)
        (fun _ => SubscriberQueue.messages_ne_nil_of_dequeue taken)
  | allExpired pc _ taken =>
      obtain ⟨message, member, alive⟩ := live _ rfl pc
      have nothing : (state.queue.dequeue state.clock).2 = none := by rw [taken]
      exact absurd ((SubscriberQueue.dequeue_eq_none_iff _ _).mp nothing message member)
        (Int.not_le.mpr alive)
  | clear pc =>
      exact .cleared (.producer _) (congrArg ProducerPc.duty pc)
        (duty_of_producer rfl rfl rfl) rfl rfl
  | answer pc _ =>
      exact .answered (.callback _) (congrArg CallbackPc.duty pc)
        (duty_of_callback rfl rfl rfl) rfl
  | finish pc ends =>
      rw [healthy.answers _ _ pc, healthy.active] at ends
      cases ends
  | proceed pc _ | callbackLock pc _ | callbackSeeMessages pc _ _ =>
      exact .kept (duty_of_callback_same rfl rfl (by rw [pc]; rfl)) rfl rfl id
  | callbackSeeEmpty pc _ empty =>
      exact .emptied (.callback _) (congrArg CallbackPc.duty pc)
        (duty_of_callback rfl rfl rfl) empty
  | callbackStartWrite pc _ taken =>
      exact .started (.callback _) (congrArg CallbackPc.duty pc)
        (duty_of_callback rfl rfl rfl) (Nat.succ_pos _)
        (fun _ => SubscriberQueue.messages_ne_nil_of_dequeue taken)
  | callbackAllExpired pc _ taken =>
      have nothing : (state.queue.dequeue state.clock).2 = none := by rw [taken]
      have emptied := SubscriberQueue.dequeue_none_messages nothing
      rw [taken] at emptied
      exact .emptied (.callback _) (congrArg CallbackPc.duty pc)
        (duty_of_callback rfl rfl rfl) emptied
  | callbackClear pc =>
      exact .cleared (.callback _) (congrArg CallbackPc.duty pc)
        (duty_of_callback rfl rfl rfl) rfl rfl
  | reap => exact .kept rfl rfl rfl SubscriberQueue.messages_ne_nil_of_reapExpired
  | refused | tick => exact .kept rfl rfl rfl id
  | cancel => exact absurd rfl succeeds.1

theorem Healthy.update_callback (healthy : state.Healthy)
    (active : after.active = state.active)
    (callbacks : after.callbacks = Function.update state.callbacks id pc)
    (answer : ∀ ok, pc = .answered ok → ok = true)
    : after.Healthy := by
  refine ⟨active.trans healthy.active, ?_⟩
  intro other ok answered
  rw [callbacks] at answered
  by_cases same : other = id
  · subst other
    exact answer ok (by simpa using answered)
  · exact healthy.answers other ok (by simpa [same] using answered)

theorem Healthy.step {action : StreamAction T} (healthy : state.Healthy)
    (succeeds : Succeeds action) (transition : Transition state action after)
    : after.Healthy := by
  cases transition with
  | cancel => exact absurd rfl succeeds.1
  | answer =>
      refine healthy.update_callback rfl rfl ?_
      intro ok same
      cases same
      exact succeeds.2 _ _ rfl
  | finish | proceed | callbackLock | callbackSeeEmpty | callbackSeeMessages
  | callbackStartWrite | callbackAllExpired | callbackClear =>
      exact healthy.update_callback rfl rfl (by simp)
  | _ => exact ⟨healthy.active, healthy.answers⟩

-----------------------------------------------------------------------------------------
-- The queue is looked after
-----------------------------------------------------------------------------------------

/-- A write is in flight, or some thread is on its way to a dequeue. -/
def Served (state : StreamState T) : Prop :=
  0 < state.outstanding ∨ ∃ party, state.duty party = .serving

/-- Queued messages have somebody to write them, a set flag has somebody behind it, and the
flag is only cleared over an empty queue.
-/
structure LookedAfter (state : StreamState T) : Prop where
  work : state.queue.messages ≠ [] → state.Served ∨ ∃ party, state.duty party = .pending
  flag : state.writing = true → state.Served ∨ ∃ party, state.duty party = .clearing
  empty : ∀ party, state.duty party = .clearing → state.queue.messages = []

theorem duty_update_of_ne (duties : after.duty = Function.update state.duty mover now)
    (before : state.duty mover ≠ duty) (held : state.duty party = duty)
    : after.duty party = duty := by
  have other : party ≠ mover := by
    intro same
    subst same
    exact before held
  rw [duties, Function.update_of_ne other, held]

theorem duty_of_update_of_ne (duties : after.duty = Function.update state.duty mover now)
    (different : now ≠ duty) (held : after.duty party = duty)
    : state.duty party = duty := by
  rw [duties] at held
  by_cases same : party = mover
  · subst party
    exact absurd (by simpa using held) different
  · simpa [same] using held

theorem Served.update (served : state.Served)
    (duties : after.duty = Function.update state.duty mover now)
    (before : state.duty mover ≠ .serving) (writes : after.outstanding = state.outstanding)
    : after.Served := by
  rcases served with pending | ⟨party, serving⟩
  · exact Or.inl (writes ▸ pending)
  · exact Or.inr ⟨party, duty_update_of_ne duties before serving⟩

/-- A thread that takes up `duty` makes it held. -/
theorem exists_duty_of_update (duties : after.duty = Function.update state.duty mover duty)
    : ∃ party, after.duty party = duty :=
  ⟨mover, by simp [duties]⟩

theorem locksWrite_of_clearing (clearing : state.duty party = .clearing)
    : state.LocksWrite party := by
  cases party with
  | producer id =>
      cases pc : state.producers id with
      | clearing => exact congrArg ProducerPc.locksWrite pc
      | returning result =>
          cases result <;> simp [StreamState.duty, pc, ProducerPc.duty] at clearing
      | _ => simp [StreamState.duty, pc, ProducerPc.duty] at clearing
  | callback id =>
      cases pc : state.callbacks id with
      | clearing => exact congrArg CallbackPc.locksWrite pc
      | _ => simp [StreamState.duty, pc, CallbackPc.duty] at clearing

/-- Every step of a healthy stream that drains no dead queue keeps the queue looked after.
Only an insertion can fill the queue behind a clearing thread, and the lock forbids it.
-/
theorem LookedAfter.step (looked : state.LookedAfter) (discipline : state.LockDiscipline)
    (change : ProgressChange state after)
    : after.LookedAfter := by
  cases change with
  | kept duties flag writes contents =>
      have same : after.Served ↔ state.Served := by rw [Served, Served, duties, writes]
      refine ⟨?_, ?_, ?_⟩
      · intro nonempty
        rw [same, duties]
        exact looked.work (contents nonempty)
      · intro set
        rw [same, duties]
        exact looked.flag (flag ▸ set)
      · intro party clearing
        have before := looked.empty party (duties ▸ clearing)
        by_contra nonempty
        exact contents nonempty before
  | inserted mover holder before duties flag writes =>
      refine ⟨fun _ => .inr (exists_duty_of_update duties), ?_, ?_⟩
      · intro set
        rcases looked.flag (flag ▸ set) with served | ⟨party, clearing⟩
        · exact .inl (served.update duties (by simp [before]) writes)
        · exact .inr ⟨party, duty_update_of_ne duties (by simp [before]) clearing⟩
      · intro party clearing
        have old := duty_of_update_of_ne duties (by simp) clearing
        -- the clearing thread and the inserting one would both hold the lock
        have first := (discipline party).mp (locksWrite_of_clearing old)
        have second := (discipline mover).mp holder
        have same : party = mover := Option.some.inj (first.symm.trans second)
        rw [same, before] at old
        cases old
  | lost mover set duties flag writes contents before =>
      refine ⟨?_, ?_, ?_⟩
      · intro nonempty
        rw [contents] at nonempty
        rcases looked.flag set with served | ⟨party, clearing⟩
        · exact .inl (served.update duties (by simp [before]) writes)
        · exact absurd (looked.empty party clearing) nonempty
      · intro _
        rcases looked.flag set with served | ⟨party, clearing⟩
        · exact .inl (served.update duties (by simp [before]) writes)
        · exact .inr ⟨party, duty_update_of_ne duties (by simp [before]) clearing⟩
      · intro party clearing
        rw [contents]
        exact looked.empty party (duty_of_update_of_ne duties (by simp) clearing)
  | won mover before duties contents | answered mover before duties contents =>
      have served : after.Served := .inr (exists_duty_of_update duties)
      refine ⟨fun _ => .inl served, fun _ => .inl served, ?_⟩
      intro party clearing
      rw [contents]
      exact looked.empty party (duty_of_update_of_ne duties (by simp) clearing)
  | emptied mover before duties contents =>
      refine ⟨fun nonempty => absurd contents nonempty, fun _ => ?_, fun _ _ => contents⟩
      exact .inr (exists_duty_of_update duties)
  | started mover before duties writes contents =>
      refine ⟨fun _ => .inl (.inl writes), fun _ => .inl (.inl writes), ?_⟩
      intro party clearing
      have old := looked.empty party (duty_of_update_of_ne duties (by simp) clearing)
      by_contra nonempty
      exact contents nonempty old
  | cleared mover before duties flag contents =>
      have empty : after.queue.messages = [] := contents.trans (looked.empty mover before)
      refine ⟨fun nonempty => absurd empty nonempty, fun set => ?_, fun _ _ => empty⟩
      rw [flag] at set
      cases set

/-- No `enqueueMessage` and no `OnWriteDone` is executing. -/
structure Quiescent (state : StreamState T) : Prop where
  producers : ∀ id, state.producers id = .idle
  callbacks : ∀ id, state.callbacks id = .idle

/-- In a quiescent state only a write in flight can look after queued messages. -/
theorem LookedAfter.writes_of_quiescent (looked : state.LookedAfter)
    (quiescent : state.Quiescent) (nonempty : state.queue.messages ≠ [])
    : 0 < state.outstanding := by
  have idle : ∀ party, state.duty party = .none := by
    intro party
    cases party with
    | producer id => exact congrArg ProducerPc.duty (quiescent.producers id)
    | callback id => exact congrArg CallbackPc.duty (quiescent.callbacks id)
  rcases looked.work nonempty with (writes | ⟨party, serving⟩) | ⟨party, pending⟩
  · exact writes
  · exact absurd serving (by simp [idle])
  · exact absurd pending (by simp [idle])

theorem lookedAfter_construct (queue : SubscriberQueue T) (info : T) (retained : List T)
    (now : TimePoint)
    : (construct queue info retained now).LookedAfter := by
  have served : (construct queue info retained now).Served := .inl (Nat.succ_pos 0)
  refine ⟨fun _ => .inl served, fun _ => .inl served, ?_⟩
  intro party clearing
  cases party <;> cases clearing

/-- The schedule keeps to successful writes on an active stream, and every publisher that
comes to dequeue finds a live message.
-/
def Flowing (state : StreamState T) (action : StreamAction T) : Prop :=
  Succeeds action ∧ state.LiveWhenDraining action

instance (action : StreamAction T) : Decidable (Succeeds action) :=
  match action with
  | .writeDone _ ok => decidable_of_iff (ok = true) (by simp [Succeeds])
  | .cancel => isFalse (by simp [Succeeds])
  | .call _ _ _ | .producer _ | .wake _ _ | .callback _ | .reap | .tick _ =>
      isTrue (by simp [Succeeds])

instance (state : StreamState T) (action : StreamAction T)
    : Decidable (state.LiveWhenDraining action) :=
  match action with
  | .producer id =>
      match pc : state.producers id with
      | .draining =>
          decidable_of_iff
            (state.queue.messages.any (fun message => state.clock < message.expiryTime) = true)
            (by simp [LiveWhenDraining, pc])
      | .idle | .admitted _ _ | .locked _ _ | .prepared _ | .inside _ | .asleep _
      | .woken _ _ | .rechecking _ _ | .returning _ | .exchanging | .claimed | .testing
      | .clearing => isTrue (by simp [LiveWhenDraining, pc])
  | .call _ _ _ | .wake _ _ | .writeDone _ _ | .callback _ | .reap | .cancel | .tick _ =>
      isTrue (by simp [LiveWhenDraining])

instance (state : StreamState T) (action : StreamAction T)
    : Decidable (state.Flowing action) :=
  inferInstanceAs (Decidable (_ ∧ _))

/-- No stall: in every schedule of publishers and successful callbacks on an active stream,
with any TTLs and clock, in which each publisher that comes to dequeue finds a live message,
a quiescent state with queued messages has a write in flight.
-/
theorem write_outstanding_of_flowing (queue : SubscriberQueue T) (info : T)
    (retained : List T) (now : TimePoint) (actions : List (StreamAction T))
    {final : StreamState T}
    (run : exec StreamState.step (construct queue info retained now) actions = some final)
    (flowing
      : Along StreamState.step (construct queue info retained now) Flowing actions)
    (quiescent : final.Quiescent) (nonempty : final.queue.messages ≠ [])
    : 0 < final.outstanding := by
  have invariant : (final.Healthy ∧ final.LockDiscipline) ∧ final.LookedAfter := by
    refine exec_invariant Flowing
      (fun state => (state.Healthy ∧ state.LockDiscipline) ∧ state.LookedAfter)
      ⟨⟨⟨rfl, by simp [construct]⟩, lockDiscipline_construct queue info retained now⟩,
        lookedAfter_construct queue info retained now⟩
      ?_ run flowing
    intro state action after before flows taken
    rcases before with ⟨⟨healthy, discipline⟩, looked⟩
    rcases flows with ⟨succeeds, live⟩
    have transition := transition_of_step taken
    exact ⟨⟨healthy.step succeeds transition,
        discipline.step (lockChange_of_transition transition)⟩,
      looked.step discipline (progressChange_of_transition healthy succeeds live transition)⟩
  exact invariant.2.writes_of_quiescent quiescent nonempty

/-- Two publishers in a row: the second message waits behind the first one's write. -/
theorem write_outstanding_after_two_publishes
    : ∃ final,
        exec StreamState.step (construct unlimitedQueue 0 [] 0)
            (answerWrite ++ publisherRun 0 7 0 9 ++ publisherRun 1 8 0 6)
          = some final
        ∧ final.queue.messages ≠ []
        ∧ 0 < final.outstanding := by
  refine ⟨_, rfl, List.cons_ne_nil _ _, ?_⟩
  refine write_outstanding_of_flowing unlimitedQueue 0 [] 0
    (answerWrite ++ publisherRun 0 7 0 9 ++ publisherRun 1 8 0 6) rfl
    (by decide +kernel) ⟨?_, ?_⟩ (List.cons_ne_nil _ _)
  · rintro (_ | _ | id) <;> rfl
  · rintro (_ | id) <;> rfl

/-- A message with a TTL of 1 ms expires between its insertion and its publisher's dequeue.
Nothing is written and the flag stays set, so the next publisher loses the exchange: its
message is queued on a quiescent stream with no write in flight.
-/
theorem stream_stalls_after_expiry
    : ∃ final,
        exec StreamState.step (construct unlimitedQueue 0 [] 0)
            (answerWrite ++ publisherRun 0 7 1 8 ++ [.tick 1000000, .producer 0]
              ++ publisherRun 1 8 0 6)
          = some final
        ∧ final.Quiescent
        ∧ final.queue.messages.map (·.message) = [8]
        ∧ final.outstanding = 0 := by
  refine ⟨_, rfl, ⟨?_, ?_⟩, rfl, rfl⟩
  · rintro (_ | _ | id) <;> rfl
  · rintro (_ | id) <;> rfl

end StreamState

end NexusD.Services
