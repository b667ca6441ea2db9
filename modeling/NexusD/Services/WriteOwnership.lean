import NexusD.Services.StreamTransitions

/-! Who may call `StartWrite` next on a Subscribe stream.
The right to write is held by the write in flight, by the callback that answers it, or by
the publisher that won the exchange on `writing`. The flag hands it to one publisher at a
time, except that the constructor starts a write without setting the flag.
-/

namespace NexusD.Services

open NexusD.Core NexusD.Library

/-- A holder of the right to write. -/
inductive WriteOwner where
  | write
  | callback (id : Nat)
  | publisher (id : Nat)
deriving DecidableEq, Repr

/-- The publisher has won the exchange and not yet left its second locked section. -/
def ProducerPc.hasClaimed {T : Type} : ProducerPc T → Bool
  | .claimed | .testing | .draining | .clearing => true
  | _ => false

namespace StreamState

variable {T : Type}

def Owns (state : StreamState T) : WriteOwner → Prop
  | .write => 0 < state.outstanding
  | .callback id => state.callbacks id ≠ .idle
  | .publisher id => (state.producers id).hasClaimed = true

/-- How one step moves the right to write. -/
inductive OwnershipChange (state : StreamState T) (action : StreamAction T)
    (after : StreamState T)
    : Prop
  | kept (owners : ∀ owner, after.Owns owner ↔ state.Owns owner)
    (writes : after.outstanding = state.outstanding) (flag : after.writing = state.writing)
  | answered (id : Nat) (pending : state.Owns .write)
    (writes : after.outstanding = state.outstanding - 1)
    (owners
      : ∀ owner,
          owner ≠ .write → after.Owns owner → owner = .callback id ∨ state.Owns owner)
    (flag : after.writing = state.writing)
  | started (owner : WriteOwner) (held : state.Owns owner) (other : owner ≠ .write)
    (writes : after.outstanding = state.outstanding + 1)
    (owners
      : ∀ rest, rest ≠ .write → after.Owns rest → state.Owns rest ∧ rest ≠ owner)
    (flag : after.writing = state.writing)
  | left (owner : WriteOwner) (held : state.Owns owner) (other : owner ≠ .write)
    (writes : after.outstanding = state.outstanding)
    (owners
      : ∀ rest, rest ≠ .write → after.Owns rest → state.Owns rest ∧ rest ≠ owner)
  | claimed (id : Nat) (mover : action = .producer id)
    (pc : state.producers id = .exchanging) (clear : state.writing = false)
    (set : after.writing = true) (writes : after.outstanding = state.outstanding)
    (owners : ∀ owner, after.Owns owner → owner = .publisher id ∨ state.Owns owner)

variable {state after start : StreamState T} {id : Nat} {action : StreamAction T}

/-- Moving a publisher between positions on the same side of the exchange keeps owners. -/
theorem owns_iff_of_producer {pc : ProducerPc T}
    (producers : after.producers = Function.update state.producers id pc)
    (callbacks : after.callbacks = state.callbacks)
    (writes : after.outstanding = state.outstanding)
    (side : pc.hasClaimed = (state.producers id).hasClaimed) (owner : WriteOwner)
    : after.Owns owner ↔ state.Owns owner := by
  cases owner with
  | write => simp [Owns, writes]
  | callback other => simp [Owns, callbacks]
  | publisher other =>
      by_cases same : other = id
      · subst other
        simp [Owns, producers, side]
      · simp [Owns, producers, same]

theorem owns_iff_of_callback {pc : CallbackPc} (producers : after.producers = state.producers)
    (callbacks : after.callbacks = Function.update state.callbacks id pc)
    (writes : after.outstanding = state.outstanding) (busy : pc ≠ .idle)
    (wasBusy : state.callbacks id ≠ .idle) (owner : WriteOwner)
    : after.Owns owner ↔ state.Owns owner := by
  cases owner with
  | write => simp [Owns, writes]
  | callback other =>
      by_cases same : other = id
      · subst other
        simp [Owns, callbacks, busy, wasBusy]
      · simp [Owns, callbacks, same]
  | publisher other => simp [Owns, producers]

/-- A publisher that returns to idle gives up its right, and nobody else is affected. -/
theorem owners_of_producer_idle
    (producers : after.producers = Function.update state.producers id .idle)
    (callbacks : after.callbacks = state.callbacks) (rest : WriteOwner) (other : rest ≠ .write)
    (owned : after.Owns rest)
    : state.Owns rest ∧ rest ≠ .publisher id := by
  cases rest with
  | write => exact absurd rfl other
  | callback peer => exact ⟨by simpa [Owns, callbacks] using owned, by simp⟩
  | publisher peer =>
      by_cases same : peer = id
      · subst peer
        simp [Owns, producers, ProducerPc.hasClaimed] at owned
      · exact ⟨by simpa [Owns, producers, same] using owned, by simpa using same⟩

theorem owners_of_callback_idle (producers : after.producers = state.producers)
    (callbacks : after.callbacks = Function.update state.callbacks id .idle)
    (rest : WriteOwner) (other : rest ≠ .write) (owned : after.Owns rest)
    : state.Owns rest ∧ rest ≠ .callback id := by
  cases rest with
  | write => exact absurd rfl other
  | callback peer =>
      by_cases same : peer = id
      · subst peer
        simp [Owns, callbacks] at owned
      · exact ⟨by simpa [Owns, callbacks, same] using owned, by simpa using same⟩
  | publisher peer => exact ⟨by simpa [Owns, producers] using owned, by simp⟩

/-- The right to write only moves in five ways, by cases on the transition. -/
theorem ownershipChange_of_transition (transition : Transition state action after)
    : OwnershipChange state action after := by
  cases transition with
  | enter pc _ | lockWrite pc _ | seeClosed pc _ | prepare pc _ | lockQueue pc _
  | insert pc _ | sleep pc _ | wake pc | relock pc _ | insertLate pc _ | sleepAgain pc _
  | unlock pc | giveUp pc _ | exchangeLost pc _ | claim pc _ | seeEmpty pc _ _
  | seeMessages pc _ _ =>
      exact .kept (owns_iff_of_producer rfl rfl rfl (by rw [pc]; rfl)) rfl rfl
  | refused | reap | cancel | tick => exact .kept (fun owner => by cases owner <;> rfl) rfl rfl
  | exchangeWon pc clear =>
      rename_i id
      refine .claimed id rfl pc clear rfl rfl ?_
      intro owner owned
      cases owner with
      | write => exact Or.inr owned
      | callback other => exact Or.inr owned
      | publisher other =>
          by_cases same : other = id
          · exact Or.inl (congrArg _ same)
          · exact Or.inr (by simpa [Owns, same] using owned)
  | startWrite pc _ _ =>
      exact .started (.publisher _) (by simp [Owns, pc, ProducerPc.hasClaimed]) (by simp) rfl
        (owners_of_producer_idle rfl rfl) rfl
  | allExpired pc _ _ =>
      exact .left (.publisher _) (by simp [Owns, pc, ProducerPc.hasClaimed]) (by simp) rfl
        (owners_of_producer_idle rfl rfl)
  | clear pc =>
      exact .left (.publisher _) (by simp [Owns, pc, ProducerPc.hasClaimed]) (by simp) rfl
        (owners_of_producer_idle rfl rfl)
  | answer pc pending =>
      rename_i id ok
      refine .answered id pending rfl ?_ rfl
      intro owner other owned
      cases owner with
      | write => exact absurd rfl other
      | callback peer =>
          by_cases same : peer = id
          · exact Or.inl (congrArg _ same)
          · exact Or.inr (by simpa [Owns, same] using owned)
      | publisher peer => exact Or.inr owned
  | finish pc _ =>
      exact .left (.callback _) (by simp [Owns, pc]) (by simp) rfl
        (owners_of_callback_idle rfl rfl)
  | proceed pc _ | callbackLock pc _ | callbackSeeEmpty pc _ _ | callbackSeeMessages pc _ _
  | callbackAllExpired pc _ _ =>
      exact .kept (owns_iff_of_callback rfl rfl rfl (by simp) (by simp [pc])) rfl rfl
  | callbackStartWrite pc _ _ =>
      exact .started (.callback _) (by simp [Owns, pc]) (by simp) rfl
        (owners_of_callback_idle rfl rfl) rfl
  | callbackClear pc =>
      exact .left (.callback _) (by simp [Owns, pc]) (by simp) rfl
        (owners_of_callback_idle rfl rfl)

/-- At most one party holds the right to write, and it stands for at most one write. -/
structure Exclusive (state : StreamState T) : Prop where
  writes : state.outstanding ≤ 1
  unique : ∀ first second, state.Owns first → state.Owns second → first = second

theorem Exclusive.no_write (exclusive : state.Exclusive) {owner : WriteOwner}
    (held : state.Owns owner) (other : owner ≠ .write)
    : state.outstanding = 0 := by
  by_contra pending
  exact other (exclusive.unique owner .write held (Nat.pos_of_ne_zero pending))

/-- Nobody owns after an exclusive owner has left. -/
theorem Exclusive.nobody_of_left (exclusive : state.Exclusive) {owner : WriteOwner}
    (held : state.Owns owner) (other : owner ≠ .write)
    (writes : after.outstanding = state.outstanding)
    (owners : ∀ rest, rest ≠ .write → after.Owns rest → state.Owns rest ∧ rest ≠ owner)
    (rest : WriteOwner)
    : ¬after.Owns rest := by
  intro owned
  by_cases isWrite : rest = .write
  · subst rest
    simp only [Owns, writes, exclusive.no_write held other] at owned
    omega
  · obtain ⟨old, different⟩ := owners rest isWrite owned
    exact different (exclusive.unique rest owner old held)

/-- Exclusiveness survives every step but an exchange won while somebody owns. -/
theorem Exclusive.step (exclusive : state.Exclusive)
    (change : OwnershipChange state action after)
    (free
      : ∀ id,
          action = .producer id
          → state.producers id = .exchanging
          → state.writing = false
          → ∀ owner, ¬state.Owns owner)
    : after.Exclusive := by
  cases change with
  | kept owners writes _ =>
      refine ⟨writes ▸ exclusive.writes, ?_⟩
      intro first second ownsFirst ownsSecond
      exact exclusive.unique first second ((owners first).mp ownsFirst)
        ((owners second).mp ownsSecond)
  | answered id pending writes owners _ =>
      have single := exclusive.writes
      have sole : ∀ owner, after.Owns owner → owner = .callback id := by
        intro owner owned
        by_cases isWrite : owner = .write
        · subst owner
          simp only [Owns, writes] at owned
          omega
        · rcases owners owner isWrite owned with same | old
          · exact same
          · exact absurd (exclusive.unique owner .write old pending) isWrite
      refine ⟨by omega, ?_⟩
      intro first second ownsFirst ownsSecond
      exact (sole first ownsFirst).trans (sole second ownsSecond).symm
  | started owner held other writes owners _ =>
      have none := exclusive.no_write held other
      have sole : ∀ rest, after.Owns rest → rest = .write := by
        intro rest owned
        by_contra notWrite
        obtain ⟨old, different⟩ := owners rest notWrite owned
        exact different (exclusive.unique rest owner old held)
      refine ⟨by omega, ?_⟩
      intro first second ownsFirst ownsSecond
      exact (sole first ownsFirst).trans (sole second ownsSecond).symm
  | left owner held other writes owners =>
      have none := exclusive.no_write held other
      have nobody := exclusive.nobody_of_left held other writes owners
      exact ⟨by omega, fun first _ ownsFirst => absurd ownsFirst (nobody first)⟩
  | claimed id mover pc clear _ writes owners =>
      have nobody := free id mover pc clear
      refine ⟨writes ▸ exclusive.writes, ?_⟩
      intro first second ownsFirst ownsSecond
      have sole : ∀ owner, after.Owns owner → owner = .publisher id := by
        intro owner owned
        exact (owners owner owned).resolve_right (nobody owner)
      exact (sole first ownsFirst).trans (sole second ownsSecond).symm

/-- No write is in flight and no `OnWriteDone` is running. -/
structure WriteIdle (state : StreamState T) : Prop where
  writes : state.outstanding = 0
  callbacks : ∀ id, state.callbacks id = .idle

/-- The schedule has passed through a state without a write in flight. -/
def HasDrained (start : StreamState T) (actions : List (StreamAction T)) : Prop :=
  ∃ early,
    early <+: actions
    ∧ ∃ state, exec StreamState.step start early = some state ∧ state.WriteIdle

/-- No publisher reaches `writing.exchange(true)` before the write the constructor started,
with the writes `OnWriteDone` chains to it, has drained once.
-/
def ExchangesAfterDrain (start : StreamState T) (actions : List (StreamAction T)) : Prop :=
  ∀ earlier id later state,
    actions = earlier ++ .producer id :: later
    → exec StreamState.step start earlier = some state
    → state.producers id = .exchanging
    → HasDrained start earlier

theorem HasDrained.append {actions : List (StreamAction T)}
    (drained : HasDrained start actions) (more : List (StreamAction T))
    : HasDrained start (actions ++ more) := by
  obtain ⟨early, isPrefix, idle⟩ := drained
  exact ⟨early, isPrefix.trans (List.prefix_append actions more), idle⟩

/-- `writing` is false only while nobody owns the right to write. -/
def FlagTruthful (state : StreamState T) : Prop :=
  state.writing = false → ∀ owner, ¬state.Owns owner

theorem FlagTruthful.step (truthful : state.FlagTruthful) (exclusive : state.Exclusive)
    (change : OwnershipChange state action after)
    : after.FlagTruthful := by
  intro clear
  cases change with
  | kept owners _ flag =>
      intro owner owned
      exact truthful (flag ▸ clear) owner ((owners owner).mp owned)
  | answered id pending _ _ flag => exact absurd pending (truthful (flag ▸ clear) .write)
  | started owner held _ _ _ flag => exact absurd held (truthful (flag ▸ clear) owner)
  | left owner held other writes owners =>
      exact exclusive.nobody_of_left held other writes owners
  | claimed id _ _ _ set => exact absurd clear (by simp [set])

/-- What a conditioned schedule keeps: one owner, no winner of an exchange until the first
drain, and a truthful flag from then on.
-/
structure OwnershipInvariant (start : StreamState T) (actions : List (StreamAction T))
    (state : StreamState T)
    : Prop where
  exclusive : state.Exclusive
  waiting : ¬HasDrained start actions → ∀ id, ¬state.Owns (.publisher id)
  truthful : HasDrained start actions → state.FlagTruthful

theorem ownershipInvariant_construct (queue : SubscriberQueue T) (info : T)
    (retained : List T) (now : TimePoint)
    : OwnershipInvariant (construct queue info retained now) []
        (construct queue info retained now) := by
  refine ⟨⟨Nat.le_refl 1, ?_⟩, ?_, ?_⟩
  · intro first second ownsFirst ownsSecond
    cases first <;> cases second <;>
      simp_all [Owns, construct, ProducerPc.hasClaimed]
  · intro _ id
    simp [Owns, construct, ProducerPc.hasClaimed]
  · intro drained
    rcases drained with ⟨early, isPrefix, state, reached, idle⟩
    rw [List.prefix_nil.mp isPrefix] at reached
    cases reached
    exact absurd idle.writes (by simp [construct])

theorem OwnershipInvariant.step {actions : List (StreamAction T)}
    (invariant : OwnershipInvariant start actions state)
    (reached : exec StreamState.step start actions = some state)
    (taken : state.step action = some after)
    (drained
      : ∀ id,
          action = .producer id
          → state.producers id = .exchanging
          → HasDrained start actions)
    : OwnershipInvariant start (actions ++ [action]) after := by
  have change := ownershipChange_of_transition (transition_of_step taken)
  have noWinner : ¬HasDrained start actions → ∀ id, ¬after.Owns (.publisher id) := by
    intro fresh id owned
    have old := invariant.waiting fresh id
    cases change with
    | kept owners => exact old ((owners _).mp owned)
    | answered _ _ _ owners => exact ((owners _ (by simp) owned).resolve_left (by simp)) |> old
    | started _ _ _ _ owners => exact old (owners _ (by simp) owned).1
    | left _ _ _ _ owners => exact old (owners _ (by simp) owned).1
    | claimed winner mover pc => exact fresh (drained winner mover pc)
  refine ⟨invariant.exclusive.step change ?_, ?_, ?_⟩
  · intro id mover pc clear
    exact invariant.truthful (drained id mover pc) clear
  · intro fresh
    exact noWinner (fun already => fresh (already.append [action]))
  · intro now
    by_cases already : HasDrained start actions
    · exact (invariant.truthful already).step invariant.exclusive change
    · -- the drain happened in this very step, so nobody owns at all
      obtain ⟨early, isPrefix, idleState, idleReached, idle⟩ := now
      rcases List.prefix_concat_iff.mp isPrefix with whole | shorter
      · rw [whole, exec_snoc, reached, Option.bind_some, taken] at idleReached
        cases idleReached
        intro _ owner owned
        cases owner with
        | write => exact absurd owned (by simp [Owns, idle.writes])
        | callback id => exact owned (idle.callbacks id)
        | publisher id => exact noWinner already id owned
      · exact absurd ⟨early, shorter, idleState, idleReached, idle⟩ already

/-- From the state the constructor leaves, in every schedule of publishers, callbacks, reaper
and cancellation in which no publisher reaches its exchange before the constructor's writes
have drained, at most one write is ever outstanding.
-/
theorem outstanding_le_one_of_exchangesAfterDrain (queue : SubscriberQueue T) (info : T)
    (retained : List T) (now : TimePoint) (actions : List (StreamAction T))
    {final : StreamState T}
    (run : exec StreamState.step (construct queue info retained now) actions = some final)
    (scheduled : ExchangesAfterDrain (construct queue info retained now) actions)
    : final.outstanding ≤ 1 := by
  have invariant
    : ExchangesAfterDrain (construct queue info retained now) actions
      → OwnershipInvariant (construct queue info retained now) actions final := by
    refine exec_induction
      (motive := fun actions state =>
        ExchangesAfterDrain (construct queue info retained now) actions
        → OwnershipInvariant (construct queue info retained now) actions state)
      (fun _ => ownershipInvariant_construct queue info retained now) ?_ run
    intro actions state action after reached ih taken scheduled
    refine (ih ?_).step reached taken ?_
    · intro earlier id later middle split
      exact scheduled earlier id (later ++ [action]) middle (by simp [split])
    · intro id same pc
      subst same
      exact scheduled actions id [] state rfl reached pc
  exact (invariant scheduled).exclusive.writes

/-- A startup without publisher steps that ends drained meets the schedule condition. -/
theorem exchangesAfterDrain_of_startup {idle : StreamState T}
    {startup rest : List (StreamAction T)} (quiet : ∀ id, StreamAction.producer id ∉ startup)
    (reached : exec StreamState.step start startup = some idle) (drained : idle.WriteIdle)
    : ExchangesAfterDrain start (startup ++ rest) := by
  intro earlier id later state split _ _
  refine ⟨startup, ?_, idle, reached, drained⟩
  rcases List.append_eq_append_iff.mp split with ⟨middle, rfl, _⟩ | ⟨middle, eq, tail⟩
  · exact List.prefix_append startup middle
  · cases middle with
    | nil => simp [eq]
    | cons action others =>
        obtain ⟨rfl, _⟩ := List.cons.inj tail
        exact absurd (by simp [eq]) (quiet id)

/-- A publisher that arrives after the drain writes, and its write is the only one. -/
theorem outstanding_after_drained_publish
    : ∃ final,
        exec StreamState.step (construct unlimitedQueue 0 [] 0)
            (answerWrite ++ publisherRun 0 7 0 9)
          = some final
        ∧ final.currentEvent = 7
        ∧ final.outstanding ≤ 1 := by
  refine ⟨_, rfl, rfl, ?_⟩
  refine outstanding_le_one_of_exchangesAfterDrain unlimitedQueue 0 [] 0
    (answerWrite ++ publisherRun 0 7 0 9) rfl ?_
  refine exchangesAfterDrain_of_startup (fun id => by simp [answerWrite]) rfl
    ⟨rfl, ?_⟩
  intro id
  by_cases mover : id = 0 <;> simp [construct, mover]

/-- A publisher that arrives while the constructor's write is in flight wins the exchange
and starts a second write over the first.
-/
theorem publish_overlaps_constructor_write
    : (exec StreamState.step (construct unlimitedQueue 0 [] 0) (publisherRun 0 7 0 9)).map
        (fun final => (final.outstanding, final.currentEvent))
      = some (2, 7) := by
  rfl

end StreamState

end NexusD.Services
