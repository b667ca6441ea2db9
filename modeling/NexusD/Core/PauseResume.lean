import NexusD.Core.SubscriptionCalls

/-! Pausing a subscription and resuming it.
The record of a paused subscription expires in two places: a resume that comes too late erases
it, and so does a sweep. Both compare the clock with the expiry time in the record, which was
added up in 64-bit nanoseconds.
-/

namespace NexusD.Core

open NexusD.Library

namespace PeerRegistry

/-- No sweep among the calls finds the record expired. -/
def SurvivesSweeps (calls : List RegistryCall) (record : PausedSubscription) : Bool :=
  (calls.filterMap RegistryCall.sweepTime).all (fun now => !decide (record.expiresAt < now))

variable {id : ByteString} {pausedAt resumedAt : TimePoint} {ttlMs : Int}
  {middle : PeerRegistry} {between : List RegistryCall} {record : PausedSubscription}

/-- Calls about other ids leave an entry alone, but for the sweeps. -/
theorem Entry.foldl_after_others (entry : Entry) {calls : List RegistryCall}
    (others : ∀ call ∈ calls, call.subject ≠ some id)
    : calls.foldl (Entry.after id) entry
      = { entry with paused := entry.paused.filter (SurvivesSweeps calls) } := by
  induction calls generalizing entry with
  | nil => cases entry with | mk active paused => cases paused <;> rfl
  | cons call rest ih =>
      obtain ⟨here, later⟩ := List.forall_mem_cons.mp others
      rw [List.foldl_cons, Entry.after_of_subject_ne entry here, ih _ later]
      cases swept : call.sweepTime with
      | none =>
          have same : SurvivesSweeps (call :: rest) = SurvivesSweeps rest := by
            funext record
            simp [SurvivesSweeps, swept]
          rw [same]
      | some now =>
          simp only [Entry.sweep, Option.filter_filter]
          congr 2
          funext record
          simp [SurvivesSweeps, swept]

/-- How a pause at `pausedAt`, other calls and a resume at `resumedAt` end: `middle` is the
registry before the resume, `unpaused` the one without the pause.
-/
structure RestoresUntilTtl (middle unpaused : PeerRegistry) (id : ByteString)
    (subscription : LocalSubscription) (pausedAt : TimePoint) (ttlMs : Int)
    (resumedAt : TimePoint)
    : Prop where
  succeeds
    : (middle.resumeSubscription resumedAt id).2.isSome = true
      ↔ resumedAt ≤ pausedAt + ttlMs * 1000000
  restored
    : (middle.resumeSubscription resumedAt id).2.isSome = true
      → ∃ again,
          (middle.resumeSubscription resumedAt id).1.entry id = { active := some again }
          ∧ again.subscriptionId = id
          ∧ again.clientId = subscription.clientId
          ∧ again.topics = subscription.topics
          ∧ again.maxBufferSize = subscription.maxBufferSize
          ∧ again.lastDeliveredSequence = subscription.lastDeliveredSequence
          ∧ ∀ topic,
              Indexed (middle.resumeSubscription resumedAt id).1.topicToSubscriptions topic id
              ↔ topic ∈ subscription.topics
  lost
    : (middle.resumeSubscription resumedAt id).2 = none
      → (middle.resumeSubscription resumedAt id).1.entry id = {}
  others
    : ∀ other,
        other ≠ id
        → (middle.resumeSubscription resumedAt id).1.entry other = unpaused.entry other
          ∧ ∀ topic,
              Indexed (middle.resumeSubscription resumedAt id).1.topicToSubscriptions topic
                other
              ↔ Indexed unpaused.topicToSubscriptions topic other

/-- The sum of the pause's clock reading and the TTL is a time point, or the resume is on the
same side of it as of the wrapped sum.
-/
def ExpiryHolds (pausedAt : TimePoint) (ttlMs : Int) (resumedAt : TimePoint) : Prop :=
  TimePoint.Representable (pausedAt + ttlMs * 1000000)
  ∨ 2 ^ 63 ≤ pausedAt + ttlMs * 1000000 ∧ resumedAt ≤ pausedAt.addMilliseconds ttlMs
  ∨ pausedAt + ttlMs * 1000000 < -2 ^ 63 ∧ pausedAt.addMilliseconds ttlMs < resumedAt

/-- A clock reading compares with a value beyond the clock's range as the range does. -/
theorem sameSide_iff {reading wrapped due : Int} (clock : TimePoint.Representable reading)
    (outside : ¬TimePoint.Representable due)
    : (2 ^ 63 ≤ due ∧ reading ≤ wrapped ∨ due < -2 ^ 63 ∧ wrapped < reading)
      ↔ (reading ≤ wrapped ↔ reading ≤ due) := by
  unfold TimePoint.Representable at *
  rcases Int.lt_or_le due (-2 ^ 63) with below | above
  · have late : ¬reading ≤ due := by omega
    simp only [late, iff_false, Int.not_le]
    omega
  · have early : reading ≤ due := by omega
    simp only [early, iff_true]
    omega

theorem expiryHolds_iff (clock : TimePoint.Representable resumedAt)
    : ExpiryHolds pausedAt ttlMs resumedAt
      ↔ (resumedAt ≤ pausedAt.addMilliseconds ttlMs
        ↔ resumedAt ≤ pausedAt + ttlMs * 1000000) := by
  unfold ExpiryHolds
  by_cases fits : TimePoint.Representable (pausedAt + ttlMs * 1000000)
  · rw [TimePoint.addMilliseconds_eq fits]
    exact iff_of_true (.inl fits) Iff.rfl
  · rw [or_iff_right fits]
    exact sameSide_iff clock fits

/-- The subscription between its pause and its resume. -/
theorem entry_paused {registry : PeerRegistry} {subscription : LocalSubscription}
    (active : registry.localSubscriptions.lookup id = some subscription)
    (others : ∀ call ∈ between, call.subject ≠ some id)
    (run
      : exec step (registry.pauseSubscription pausedAt id ttlMs).1 between = some middle)
    : middle.entry id
      = { paused :=
            (some (pausedRecord subscription id pausedAt ttlMs)).filter
              (SurvivesSweeps between) } := by
  have paused
    : (registry.pauseSubscription pausedAt id ttlMs).1.entry id
      = { paused := some (pausedRecord subscription id pausedAt ttlMs) } := by
    rw [pauseSubscription, entry_removeLocalSubscription, if_pos rfl]
    simp [entry, Entry.remove, active]
  rw [entry_of_exec run, paused, Entry.foldl_after_others _ others]

theorem entry_others {registry unpaused : PeerRegistry}
    (run
      : exec step (registry.pauseSubscription pausedAt id ttlMs).1 between = some middle)
    (without : exec step registry between = some unpaused) {other : ByteString}
    (different : other ≠ id)
    : middle.entry other = unpaused.entry other := by
  rw [entry_of_exec run, entry_of_exec without, pauseSubscription,
    entry_removeLocalSubscription, if_neg different]

/-- A record that is there at the resume has survived every sweep, and one that the resume
finds in time has survived every sweep that came before.
-/
theorem survivesSweeps_of_inTime
    (sweeps : ∀ call ∈ between, ∀ now ∈ call.sweepTime, now ≤ resumedAt)
    (inTime : resumedAt ≤ record.expiresAt)
    : SurvivesSweeps between record = true := by
  rw [SurvivesSweeps, List.all_eq_true]
  intro now member
  obtain ⟨call, made, swept⟩ := List.mem_filterMap.mp member
  have earlier : now ≤ record.expiresAt := Int.le_trans (sweeps call made now swept) inTime
  simpa using earlier

/-- The result of a resume, seen from the entry. -/
theorem resumeSubscription_result (registry : PeerRegistry) (now : TimePoint)
    (id : ByteString)
    : (registry.resumeSubscription now id).2
      = (registry.entry id).paused.filter (fun paused => !decide (paused.expiresAt < now)) := by
  unfold resumeSubscription entry
  cases registry.pausedSubscriptions.lookup id with
  | none => rfl
  | some paused =>
      by_cases late : paused.expiresAt < now
      · simp [late, Option.filter_some]
      · simp [late, Option.filter_some]

/-- A resume finds the subscription exactly up to the expiry time in its record. -/
theorem resume_isSome_iff
    (standing : middle.entry id = { paused := (some record).filter (SurvivesSweeps between) })
    (sweeps : ∀ call ∈ between, ∀ now ∈ call.sweepTime, now ≤ resumedAt)
    : (middle.resumeSubscription resumedAt id).2.isSome = true
      ↔ resumedAt ≤ record.expiresAt := by
  rw [resumeSubscription_result, standing]
  by_cases inTime : resumedAt ≤ record.expiresAt
  · simp [Option.filter_some, survivesSweeps_of_inTime sweeps inTime, inTime]
  · have late : record.expiresAt < resumedAt := Int.not_le.mp inTime
    cases survives : SurvivesSweeps between record with
    | true => simp [Option.filter_some, survives, late]
    | false => simp [Option.filter_some, survives, late]

/-- What a resume leaves of the subscription. -/
theorem resume_entry (resumedAt : TimePoint)
    (standing : middle.entry id = { paused := (some record).filter (SurvivesSweeps between) })
    : (middle.resumeSubscription resumedAt id).1.entry id
      = if (middle.resumeSubscription resumedAt id).2.isSome then
          { active := some (resumedRecord record id resumedAt) }
        else
          {} := by
  rw [resumeSubscription_result, entry_resumeSubscription, if_pos rfl, standing]
  by_cases late : record.expiresAt < resumedAt
  · cases survives : SurvivesSweeps between record with
    | true => simp [Entry.resume, Option.filter_some, survives, late]
    | false => simp [Entry.resume, Option.filter_some, survives]
  · cases survives : SurvivesSweeps between record with
    | true => simp [Entry.resume, Option.filter_some, survives, late]
    | false => simp [Entry.resume, Option.filter_some, survives]

section Resumed

variable {localNodeId id : ByteString} {earlier between : List RegistryCall}
  {registry middle unpaused : PeerRegistry} {subscription : LocalSubscription}
  {pausedAt resumedAt : TimePoint} {ttlMs : Int}

/-- The pause and the resume add no id, so the whole run is as good as the one without. -/
theorem sound_resumed (reached : exec step { localNodeId } earlier = some registry)
    (once : RegistryCall.AddsOnce (earlier ++ between))
    (run : exec step (registry.pauseSubscription pausedAt id ttlMs).1 between = some middle)
    : (middle.resumeSubscription resumedAt id).1.Sound := by
  have whole
    : exec step { localNodeId }
        (earlier
          ++ (.change (.remove pausedAt id true ttlMs) :: between
            ++ [.change (.resume resumedAt id)]))
      = some (middle.resumeSubscription resumedAt id).1 := by
    rw [exec_append, reached, Option.bind_some, exec_snoc]
    have paused
      : exec step registry (.change (.remove pausedAt id true ttlMs) :: between)
        = some middle :=
      run
    rw [paused]
    rfl
  refine (sound_of_exec whole ?_).1
  simpa [RegistryCall.AddsOnce, List.filterMap_append, List.filterMap_cons,
    RegistryCall.addedId] using once

/-- A pause and a resume, with other calls in between, restore the subscription exactly until
its TTL has passed, and leave the others as they are without the two; where the expiry time is
no time point, this depends on where the sum wraps to.
-/
theorem restoresUntilTtl_iff_expiryHolds
    (reached : exec step { localNodeId } earlier = some registry)
    (once : RegistryCall.AddsOnce (earlier ++ between))
    (active : registry.localSubscriptions.lookup id = some subscription)
    (others : ∀ call ∈ between, call.subject ≠ some id)
    (run : exec step (registry.pauseSubscription pausedAt id ttlMs).1 between = some middle)
    (without : exec step registry between = some unpaused)
    (sweeps : ∀ call ∈ between, ∀ now ∈ call.sweepTime, now ≤ resumedAt)
    (clock : TimePoint.Representable resumedAt)
    : RestoresUntilTtl middle unpaused id subscription pausedAt ttlMs resumedAt
      ↔ ExpiryHolds pausedAt ttlMs resumedAt := by
  have standing := entry_paused active others run
  have succeeds
    : (middle.resumeSubscription resumedAt id).2.isSome = true
      ↔ resumedAt ≤ pausedAt.addMilliseconds ttlMs :=
    resume_isSome_iff standing sweeps
  have final : (middle.resumeSubscription resumedAt id).1.Sound :=
    sound_resumed reached once run
  have entries := resume_entry resumedAt standing
  rw [expiryHolds_iff clock]
  constructor
  · intro restores
    exact succeeds.symm.trans restores.succeeds
  · intro holds
    refine ⟨succeeds.trans holds, ?_, ?_, ?_⟩
    · intro success
      rw [if_pos success] at entries
      refine ⟨_, entries, rfl, rfl, rfl, rfl, rfl, ?_⟩
      intro topic
      have found := congrArg Entry.active entries
      rw [final.index.indexed]
      constructor
      · intro listed
        obtain ⟨again, is, covers⟩ := listed
        have same := is.symm.trans found
        rw [Option.some.injEq] at same
        rw [same] at covers
        exact covers
      · intro covers
        exact ⟨_, found, covers⟩
    · intro failure
      rw [failure] at entries
      exact entries
    · intro other different
      have same
        : (middle.resumeSubscription resumedAt id).1.entry other = unpaused.entry other := by
        rw [entry_resumeSubscription, if_neg different, entry_others run without different]
      refine ⟨same, ?_⟩
      intro topic
      have whole : exec step { localNodeId } (earlier ++ between) = some unpaused := by
        rw [exec_append, reached, Option.bind_some, without]
      have locals := congrArg Entry.active same
      simp only [entry] at locals
      rw [final.index.indexed, (sound_of_exec whole once).1.index.indexed, locals]

end Resumed

/-- A subscription that names its topic twice. -/
def subscribed : List RegistryCall :=
  [.change (.add 0 [49] [] [[97], [97]] 0)]

/-- A sweep, and another subscription to the topic. -/
def meanwhile : List RegistryCall :=
  [ .clearExpiredPausedSubscriptions .asStored 5000001,
    .change (.add 5000001 [50] [] [[97]] 0) ]

theorem addsOnce_subscribed_meanwhile : RegistryCall.AddsOnce (subscribed ++ meanwhile) := by
  unfold RegistryCall.AddsOnce
  decide

/-- Swept past in the last nanosecond of its TTL, a subscription is still resumed. -/
theorem restoresUntilTtl_sweptAtExpiry
    : ∃ registry middle unpaused subscription,
        exec step { localNodeId := [] } subscribed = some registry
        ∧ exec step (registry.pauseSubscription 1 [49] 5).1 meanwhile = some middle
        ∧ (middle.resumeSubscription 5000001 [49]).2.isSome = true
        ∧ RestoresUntilTtl middle unpaused [49] subscription 1 5 5000001 := by
  obtain ⟨registry, subscription, reached, active⟩
    : ∃ registry subscription,
        exec step { localNodeId := [] } subscribed = some registry
        ∧ registry.localSubscriptions.lookup [49] = some subscription :=
    ⟨_, _, rfl, rfl⟩
  obtain ⟨middle, run⟩
    : ∃ middle,
        exec step (registry.pauseSubscription 1 [49] 5).1 meanwhile = some middle :=
    ⟨_, rfl⟩
  obtain ⟨unpaused, without⟩ : ∃ unpaused, exec step registry meanwhile = some unpaused :=
    ⟨_, rfl⟩
  have others : ∀ call ∈ meanwhile, call.subject ≠ some [49] := by
    simp [meanwhile, RegistryCall.subject]
  have sweeps : ∀ call ∈ meanwhile, ∀ now ∈ call.sweepTime, now ≤ (5000001 : Int) := by
    simp [meanwhile, RegistryCall.sweepTime]
  have restores : RestoresUntilTtl middle unpaused [49] subscription 1 5 5000001 :=
    (restoresUntilTtl_iff_expiryHolds reached addsOnce_subscribed_meanwhile active others run
      without sweeps (by decide)).mpr (.inl (by decide))
  exact ⟨registry, middle, unpaused, subscription, reached, run,
    restores.succeeds.mpr (by decide), restores⟩

/-- Paused for as long as the TTL's type allows, a subscription cannot be resumed at all. -/
theorem paused_for_ever_is_lost
    : ∃ registry middle unpaused subscription,
        exec step { localNodeId := [] } subscribed = some registry
        ∧ registry.localSubscriptions.lookup [49] = some subscription
        ∧ (registry.pauseSubscription 1 [49] 9223372036854775807).1 = middle
        ∧ registry = unpaused
        ∧ (middle.resumeSubscription 1 [49]).2 = none
        ∧ ¬RestoresUntilTtl middle unpaused [49] subscription 1 9223372036854775807 1 := by
  refine ⟨_, _, _, _, rfl, rfl, rfl, rfl, by decide +kernel, ?_⟩
  intro restores
  have due := restores.succeeds.mpr (by decide)
  revert due
  decide +kernel

end PeerRegistry

end NexusD.Core
