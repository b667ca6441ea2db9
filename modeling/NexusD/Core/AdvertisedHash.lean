import NexusD.Core.SubscriptionCalls

/-! What a node's hash tells about its topics.
However a node came by its subscriptions, and whenever it was asked before, it advertises the
hash of the topics it is subscribed to now.
-/

namespace NexusD.Core

open NexusD.Library

namespace PeerRegistry

/-- An active subscription lists the topic. -/
def Subscribed (registry : PeerRegistry) (topic : ByteString) : Prop :=
  ∃ id subscription,
    registry.localSubscriptions.lookup id = some subscription ∧ topic ∈ subscription.topics

/-- If the flag is clear, the cached hash is the one of the current topics. -/
def CacheFresh (registry : PeerRegistry) : Prop :=
  registry.hashDirty = false → registry.cachedLocalHash = registry.computeLocalTopicHash

theorem CacheFresh.congr {registry after : PeerRegistry} (fresh : registry.CacheFresh)
    (cached : after.cachedLocalHash = registry.cachedLocalHash)
    (flag : after.hashDirty = registry.hashDirty)
    (index : after.topicToSubscriptions = registry.topicToSubscriptions)
    : after.CacheFresh := by
  intro clean
  rw [cached, fresh (flag.symm.trans clean), computeLocalTopicHash, computeLocalTopicHash,
    index]

theorem CacheFresh.apply {registry : PeerRegistry} (fresh : registry.CacheFresh)
    (change : SubscriptionChange)
    : (registry.apply change).CacheFresh := by
  obtain ⟨cached, flag⟩ := registry.apply_cache change
  rcases flag with set | ⟨same, index⟩
  · intro clean
    rw [set] at clean
    cases clean
  · exact fresh.congr cached same index

theorem cacheFresh_getLocalTopicHash {registry : PeerRegistry} (fresh : registry.CacheFresh)
    : registry.getLocalTopicHash.1.CacheFresh := by
  unfold getLocalTopicHash
  dsimp only
  split
  · intro _
    rfl
  · exact fresh

theorem CacheFresh.execute {registry : PeerRegistry} (fresh : registry.CacheFresh)
    (call : RegistryCall)
    : (registry.execute call).CacheFresh := by
  cases call with
  | change change => exact fresh.apply change
  | clearExpiredPausedSubscriptions order now => exact fresh.congr rfl rfl rfl
  | updateSubscriptionSequence subscriptionId topic sequence =>
      simp only [PeerRegistry.execute, PeerRegistry.updateSubscriptionSequence]
      split
      · exact fresh
      · exact fresh.congr rfl rfl rfl
  | getLocalTopicHash order =>
      rw [PeerRegistry.execute, getLocalTopicHash_order]
      exact cacheFresh_getLocalTopicHash fresh
  | peer call =>
      obtain ⟨_, _, index, cached, flag⟩ := registry.perform_subscriptions call
      exact fresh.congr cached flag index

theorem cacheFresh_of_exec {localNodeId : ByteString} {calls : List RegistryCall}
    {registry : PeerRegistry} (run : exec step { localNodeId } calls = some registry)
    : registry.CacheFresh := by
  refine exec_always CacheFresh ?_ ?_ run
  · intro clean
    cases clean
  · intro registry call after fresh taken
    cases taken
    exact fresh.execute call

/-- A node that is asked tells the hash of its current topics. -/
theorem CacheFresh.getLocalTopicHash {registry : PeerRegistry} (fresh : registry.CacheFresh)
    (order : IterationOrder ByteString)
    : (registry.getLocalTopicHash order).2 = registry.computeLocalTopicHash := by
  rw [getLocalTopicHash_order]
  unfold PeerRegistry.getLocalTopicHash
  dsimp only
  split
  · rfl
  · rename_i clean
    exact fresh (Bool.not_eq_true _ ▸ clean)

theorem Indexes.mem_keys_iff {registry : PeerRegistry} (indexes : registry.Indexes)
    {topic : ByteString}
    : topic ∈ registry.topicToSubscriptions.keys ↔ registry.Subscribed topic := by
  rw [indexes.proper.mem_keys_iff]
  simp only [indexes.indexed, Subscribed]

/-- Nodes that are subscribed to the same topics tell the same hash. -/
theorem getLocalTopicHash_eq_of_subscribed {left right : PeerRegistry}
    (leftIndex : left.Indexes) (rightIndex : right.Indexes) (leftFresh : left.CacheFresh)
    (rightFresh : right.CacheFresh)
    (same : ∀ topic, left.Subscribed topic ↔ right.Subscribed topic)
    (leftOrder rightOrder : IterationOrder ByteString)
    : (left.getLocalTopicHash leftOrder).2 = (right.getLocalTopicHash rightOrder).2 := by
  have topics : left.SameTopics right := by
    intro topic
    rw [leftIndex.mem_keys_iff, rightIndex.mem_keys_iff, same]
  rw [leftFresh.getLocalTopicHash, rightFresh.getLocalTopicHash, computeLocalTopicHash_sorted,
    computeLocalTopicHash_sorted, sortedTopics_eq_iff.mpr topics]

/-- A subscription that comes and goes, with hashes asked for while it is there. -/
def comeAndGo (addedAt removedAt : TimePoint) (id clientId : ByteString)
    (topics : List ByteString) (maxBufferSize : Int) (pause : Bool) (ttlMs : Int)
    (asked : List (IterationOrder ByteString))
    : List RegistryCall :=
  .change (.add addedAt id clientId topics maxBufferSize)
    :: asked.map .getLocalTopicHash
    ++ [.change (.remove removedAt id pause ttlMs)]

theorem addsOnce_comeAndGo {calls : List RegistryCall} (once : RegistryCall.AddsOnce calls)
    {id : ByteString} (new : id ∉ calls.filterMap RegistryCall.addedId)
    {addedAt removedAt : TimePoint} {clientId : ByteString} {topics : List ByteString}
    {maxBufferSize : Int} {pause : Bool} {ttlMs : Int}
    {asked : List (IterationOrder ByteString)}
    : RegistryCall.AddsOnce
        (calls
          ++ comeAndGo addedAt removedAt id clientId topics maxBufferSize pause ttlMs
              asked) := by
  have ids
    : (comeAndGo addedAt removedAt id clientId topics maxBufferSize pause ttlMs asked).filterMap
        RegistryCall.addedId
      = [id] := by
    simp [comeAndGo, List.filterMap_cons, RegistryCall.addedId, List.filterMap_map,
      Function.comp_def]
  rw [RegistryCall.AddsOnce, List.filterMap_append, ids, List.nodup_append]
  refine ⟨once, List.nodup_singleton id, ?_⟩
  intro added member other isId
  obtain rfl := List.mem_singleton.mp isId
  exact fun same => new (same ▸ member)

theorem Entry.foldl_after_asked (id : ByteString) (entry : Entry)
    (asked : List (IterationOrder ByteString))
    : (asked.map RegistryCall.getLocalTopicHash).foldl (Entry.after id) entry = entry := by
  induction asked with
  | nil => rfl
  | cons order rest ih => exact ih

/-- Afterwards the active subscriptions are what they were. -/
theorem active_comeAndGo {registry final : PeerRegistry} {id : ByteString}
    (absent : registry.localSubscriptions.lookup id = none)
    {addedAt removedAt : TimePoint} {clientId : ByteString} {topics : List ByteString}
    {maxBufferSize : Int} {pause : Bool} {ttlMs : Int}
    {asked : List (IterationOrder ByteString)}
    (run
      : exec step registry
          (comeAndGo addedAt removedAt id clientId topics maxBufferSize pause ttlMs asked)
        = some final)
    (other : ByteString)
    : final.localSubscriptions.lookup other = registry.localSubscriptions.lookup other := by
  have folded := congrArg Entry.active (entry_of_exec run other)
  simp only [comeAndGo, List.cons_append, List.foldl_append, List.foldl_cons, List.foldl_nil,
    Entry.foldl_after_asked] at folded
  refine folded.trans ?_
  by_cases same : other = id
  · rw [same, absent]
    simp [Entry.after, entry, absent, Entry.add, Entry.remove]
  · simp [Entry.after, same, entry]

/-- The hash a node tells is a function of the set of topics it is subscribed to; so a
subscription that comes and goes leaves no trace in it.
-/
theorem topicHash_of_subscribed {leftId rightId : ByteString}
    {leftCalls rightCalls : List RegistryCall} {left right : PeerRegistry}
    (leftRun : exec step { localNodeId := leftId } leftCalls = some left)
    (leftOnce : RegistryCall.AddsOnce leftCalls)
    (rightRun : exec step { localNodeId := rightId } rightCalls = some right)
    (rightOnce : RegistryCall.AddsOnce rightCalls)
    : ((∀ topic, left.Subscribed topic ↔ right.Subscribed topic)
        → ∀ leftOrder rightOrder,
            (left.getLocalTopicHash leftOrder).2 = (right.getLocalTopicHash rightOrder).2)
      ∧ ∀ addedAt removedAt id clientId topics maxBufferSize pause ttlMs asked final before
          after,
          id ∉ leftCalls.filterMap RegistryCall.addedId
          → exec step left
              (comeAndGo addedAt removedAt id clientId topics maxBufferSize pause ttlMs asked)
            = some final
          → (final.getLocalTopicHash after).2 = (left.getLocalTopicHash before).2 := by
  obtain ⟨leftSound, leftIds⟩ := sound_of_exec leftRun leftOnce
  constructor
  · intro same leftOrder rightOrder
    exact getLocalTopicHash_eq_of_subscribed leftSound.index
      (sound_of_exec rightRun rightOnce).1.index (cacheFresh_of_exec leftRun)
      (cacheFresh_of_exec rightRun) same leftOrder rightOrder
  · intro addedAt removedAt id clientId topics maxBufferSize pause ttlMs asked final before
      after new run
    have absent : left.localSubscriptions.lookup id = none := by
      rw [← Option.not_isSome_iff_eq_none]
      exact fun active => new (leftIds id (.inl active))
    have whole
      : exec step { localNodeId := leftId }
          (leftCalls
            ++ comeAndGo addedAt removedAt id clientId topics maxBufferSize pause ttlMs asked)
        = some final := by
      rw [exec_append, leftRun, Option.bind_some, run]
    have sound := (sound_of_exec whole (addsOnce_comeAndGo leftOnce new)).1
    refine getLocalTopicHash_eq_of_subscribed sound.index leftSound.index
      (cacheFresh_of_exec whole) (cacheFresh_of_exec leftRun) ?_ after before
    intro topic
    simp only [Subscribed, active_comeAndGo absent run]

/-- One subscription to both topics. -/
def bothAtOnce : List RegistryCall :=
  [.change (.add 0 [49] [] [[97], [98]] 0), .getLocalTopicHash .asStored]

/-- Two subscriptions, one of which is paused, asked about and resumed. -/
def oneByOne : List RegistryCall :=
  [ .change (.add 0 [50] [] [[97], [97]] 0), .change (.add 0 [51] [] [[98]] 0),
    .change (.remove 1 [50] true 5), .getLocalTopicHash .asStored,
    .change (.resume 2 [50]) ]

theorem topicHash_bothAtOnce_oneByOne
    : ∃ left right,
        exec step { localNodeId := [76] } bothAtOnce = some left
        ∧ exec step { localNodeId := [82] } oneByOne = some right
        ∧ left.cachedLocalHash ≠ right.cachedLocalHash
        ∧ (left.getLocalTopicHash .asStored).2 = (right.getLocalTopicHash .asStored).2 := by
  obtain ⟨left, leftRun, leftTopics, leftCached⟩
    : ∃ left,
        exec step { localNodeId := [76] } bothAtOnce = some left
        ∧ left.topicToSubscriptions.keys = [[98], [97]]
        ∧ left.cachedLocalHash = Crc64.compute [97, 98] :=
    ⟨_, rfl, by decide +kernel, by decide +kernel⟩
  obtain ⟨right, rightRun, rightTopics, rightCached⟩
    : ∃ right,
        exec step { localNodeId := [82] } oneByOne = some right
        ∧ right.topicToSubscriptions.keys = [[97], [98]]
        ∧ right.cachedLocalHash = Crc64.compute [98] :=
    ⟨_, rfl, by decide +kernel, by decide +kernel⟩
  have leftOnce : RegistryCall.AddsOnce bothAtOnce := List.nodup_singleton _
  have rightOnce : RegistryCall.AddsOnce oneByOne := by
    unfold RegistryCall.AddsOnce
    decide
  refine ⟨left, right, leftRun, rightRun, ?_, ?_⟩
  · rw [leftCached, rightCached]
    decide +kernel
  · refine (topicHash_of_subscribed leftRun leftOnce rightRun rightOnce).1 ?_ _ _
    intro topic
    rw [← (sound_of_exec leftRun leftOnce).1.index.mem_keys_iff,
      ← (sound_of_exec rightRun rightOnce).1.index.mem_keys_iff, leftTopics, rightTopics]
    simp [or_comm]

end PeerRegistry

end NexusD.Core
