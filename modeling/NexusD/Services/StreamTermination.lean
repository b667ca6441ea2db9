import NexusD.Services.StreamProgress

/-! How a Subscribe stream ends after `Unsubscribe`.
`Unsubscribe` clears the flag and nothing else; `Finish` is called by the `OnWriteDone` that
sees the flag cleared. A stream that has no write in flight by then is never finished.
-/

namespace NexusD.Services.StreamState

open NexusD.Core NexusD.Library

variable {T : Type}

/-- A write is outstanding or `Finish` has been called. -/
def CanTerminate (state : StreamState T) : Prop :=
  0 < state.outstanding ∨ state.finished = true

/-- No unsubscribed stream is left idle with its RPC open. -/
def NotAbandoned (state : StreamState T) : Prop :=
  state.Quiescent → state.active = false → state.CanTerminate

/-- Some `OnWriteDone` is still to look at the flag, or `Finish` has been called. -/
def Ending (state : StreamState T) : Prop :=
  state.CanTerminate ∨ ∃ id ok, state.callbacks id = .answered ok

/-- The flag is cleared while the stream is ending. -/
def CancelsEnding (state : StreamState T) (action : StreamAction T) : Prop :=
  action = .cancel → state.Ending

theorem Ending.canTerminate {state : StreamState T} (ending : state.Ending)
    (quiescent : state.Quiescent)
    : state.CanTerminate := by
  rcases ending with now | ⟨id, ok, answered⟩
  · exact now
  · rw [quiescent.callbacks id] at answered
    cases answered

/-- A step that neither answers a write nor consumes an answer. -/
theorem Ending.of_answers {state after : StreamState T} (ending : state.Ending)
    (writes : state.outstanding ≤ after.outstanding)
    (finished : state.finished = true → after.finished = true)
    (answers : ∀ id ok, state.callbacks id = .answered ok → after.callbacks id = .answered ok)
    : after.Ending := by
  rcases ending with (outstanding | done) | ⟨id, ok, answered⟩
  · exact .inl (.inl (Nat.lt_of_lt_of_le outstanding writes))
  · exact .inl (.inr (finished done))
  · exact .inr ⟨id, ok, answers id ok answered⟩

/-- A callback past its test of the flag moves on; those before it stay. -/
theorem answers_of_callback {state after : StreamState T} {id : Nat} {pc : CallbackPc}
    (callbacks : after.callbacks = Function.update state.callbacks id pc)
    (past : ∀ ok, state.callbacks id ≠ .answered ok)
    : ∀ other ok,
        state.callbacks other = .answered ok → after.callbacks other = .answered ok := by
  intro other ok answered
  have different : other ≠ id := by
    intro same
    subst same
    exact past ok answered
  rw [callbacks, Function.update_of_ne different, answered]

/-- An inactive stream that is ending stays so: the answer that takes the last write away
meets the cleared flag.
-/
theorem Ending.step {state after : StreamState T} {action : StreamAction T}
    (ending : state.active = false → state.Ending) (cancels : state.CancelsEnding action)
    (transition : Transition state action after)
    : after.active = false → after.Ending := by
  intro inactive
  cases transition with
  | enter | refused | lockWrite | seeClosed | prepare | lockQueue | insert | sleep | wake
  | relock | insertLate | sleepAgain | unlock | giveUp | exchangeLost | exchangeWon | claim
  | seeEmpty | seeMessages | allExpired | clear | reap | tick =>
      exact (ending inactive).of_answers (Nat.le_refl _) (fun done => done)
        (fun _ _ answered => answered)
  | startWrite =>
      exact (ending inactive).of_answers (Nat.le_succ _) (fun done => done)
        (fun _ _ answered => answered)
  | callbackStartWrite pc =>
      exact (ending inactive).of_answers (Nat.le_succ _) (fun done => done)
        (answers_of_callback rfl (by simp [pc]))
  | callbackLock pc | callbackSeeEmpty pc | callbackSeeMessages pc | callbackAllExpired pc
  | callbackClear pc =>
      exact (ending inactive).of_answers (Nat.le_refl _) (fun done => done)
        (answers_of_callback rfl (by simp [pc]))
  | answer pc pending =>
      rename_i id ok
      exact .inr ⟨id, ok, Function.update_self _ _ _⟩
  | finish pc ends => exact .inl (.inr rfl)
  | proceed pc goes =>
      have cleared : state.active = false := inactive
      simp [cleared] at goes
  | cancel =>
      exact (cancels rfl).of_answers (Nat.le_refl _) (fun done => done)
        (fun _ _ answered => answered)

/-- Nothing moves in an idle inactive stream: publishers are refused and no answer is due. -/
theorem abandoned_step {state after : StreamState T} {action : StreamAction T}
    (idle : state.Quiescent ∧ state.active = false ∧ ¬state.CanTerminate)
    (taken : state.step action = some after)
    : after.Quiescent ∧ after.active = false ∧ ¬after.CanTerminate := by
  obtain ⟨quiescent, inactive, stuck⟩ := idle
  have answered : ¬0 < state.outstanding := fun pending => stuck (.inl pending)
  cases action with
  | call id event ttlMs =>
      simp only [step, quiescent.producers id, inactive, Bool.false_eq_true, if_false,
        Option.some.injEq] at taken
      exact taken ▸ ⟨quiescent, inactive, stuck⟩
  | producer id => simp [step, producerStep, quiescent.producers id] at taken
  | wake id timedOut => simp [step, quiescent.producers id] at taken
  | writeDone id ok => simp [step, answered] at taken
  | callback id => simp [step, callbackStep, quiescent.callbacks id] at taken
  | reap =>
      simp only [step, Option.ite_none_right_eq_some, Option.some.injEq] at taken
      obtain ⟨_, rfl⟩ := taken
      exact ⟨⟨quiescent.producers, quiescent.callbacks⟩, inactive, stuck⟩
  | cancel =>
      cases taken
      exact ⟨⟨quiescent.producers, quiescent.callbacks⟩, rfl, stuck⟩
  | tick elapsed =>
      cases taken
      exact ⟨⟨quiescent.producers, quiescent.callbacks⟩, inactive, stuck⟩

/-- An abandoned stream stays abandoned, whatever is published and however long it waits. -/
theorem abandoned_forever {state final : StreamState T} {actions : List (StreamAction T)}
    (quiescent : state.Quiescent) (inactive : state.active = false)
    (stuck : ¬state.CanTerminate) (run : exec step state actions = some final)
    : ¬final.CanTerminate :=
  (exec_always (fun state => state.Quiescent ∧ state.active = false ∧ ¬state.CanTerminate)
    ⟨quiescent, inactive, stuck⟩ (fun idle taken => abandoned_step idle taken) run).2.2

/-- If every `Unsubscribe` comes while a write is outstanding, an `OnWriteDone` has yet to
look at the flag or `Finish` has been called, then no state of the run leaves the stream idle
with its RPC open. An `Unsubscribe` that no handler overlaps has to come then.
-/
theorem notAbandoned_of_cancelsEnding (queue : SubscriberQueue T) (info : T)
    (retained : List T) (now : TimePoint) (actions : List (StreamAction T))
    : (Along step (construct queue info retained now) CancelsEnding actions
        → Throughout step (construct queue info retained now) NotAbandoned actions)
      ∧ (Throughout step (construct queue info retained now) NotAbandoned actions
        → Along step (construct queue info retained now)
            (fun state action => state.Quiescent → state.CancelsEnding action) actions) := by
  constructor
  · intro cancels early state isPrefix reached quiescent inactive
    refine Ending.canTerminate ?_ quiescent
    refine exec_invariant CancelsEnding (fun state => state.active = false → state.Ending) ?_
      (fun ending cancels taken => Ending.step ending cancels (transition_of_step taken))
      reached (cancels.of_prefix isPrefix) inactive
    intro inactive
    cases inactive
  · intro notAbandoned earlier action later state split reached quiescent cancelled
    subst split cancelled
    have left :=
      notAbandoned (earlier ++ [.cancel]) { state with active := false } ⟨later, by simp⟩
        (by rw [exec_snoc, reached, Option.bind_some]; rfl)
    exact .inl (left ⟨quiescent.producers, quiescent.callbacks⟩ rfl)

/-- The client unsubscribes while its subscription info is being written, and the answer to
that write finishes the stream.
-/
theorem notAbandoned_cancelled_while_writing
    : ∃ final,
        exec step (construct unlimitedQueue 0 [] 0) [.cancel, .writeDone 0 true, .callback 0]
          = some final
        ∧ final.active = false
        ∧ final.finished = true
        ∧ Throughout step (construct unlimitedQueue 0 [] 0) NotAbandoned
            [.cancel, .writeDone 0 true, .callback 0] := by
  refine ⟨_, rfl, rfl, rfl, (notAbandoned_of_cancelsEnding unlimitedQueue 0 [] 0 _).1 ?_⟩
  have writing : (construct unlimitedQueue 0 [] 0).Ending := .inl (.inl (by decide))
  refine along_cons_iff.mpr ⟨fun _ => writing, ?_⟩
  intro after _
  refine along_cons_iff.mpr ⟨(fun other => nomatch other), fun after _ => ?_⟩
  exact along_cons_iff.mpr ⟨(fun other => nomatch other), fun _ _ => along_nil⟩

/-- The client subscribes, gets its subscription info, and unsubscribes: nothing was ever
published. The RPC stays open for ever.
-/
theorem idle_stream_abandoned
    : ∃ state,
        exec step (construct unlimitedQueue 0 [] 0) (answerWrite ++ [.cancel]) = some state
        ∧ ¬state.NotAbandoned
        ∧ ∀ actions final, exec step state actions = some final → ¬final.CanTerminate := by
  refine ⟨_, rfl, ?_⟩
  have idle
    : ∀ state,
        exec step (construct unlimitedQueue 0 [] 0) (answerWrite ++ [.cancel]) = some state
        → state.Quiescent ∧ ¬state.CanTerminate := by
    intro state run
    cases run
    refine ⟨⟨fun id => rfl, ?_⟩, ?_⟩
    · intro id
      cases id <;> rfl
    · intro either
      rcases either with pending | done
      · cases pending
      · cases done
  obtain ⟨quiescent, stuck⟩ := idle _ rfl
  refine ⟨fun holds => stuck (holds quiescent rfl), ?_⟩
  intro actions final run
  exact abandoned_forever quiescent rfl stuck run

end NexusD.Services.StreamState
