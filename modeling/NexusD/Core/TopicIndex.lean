import NexusD.Core.PeerRegistry

/-! The index from topics to subscriptions.
`topicToSubscriptions_` is the relation between topics and subscription ids, stored as a map
to sets that are never left empty. Its keys are the topics the node advertises.
-/

namespace NexusD.Core.PeerRegistry

open NexusD.Library

/-- The id is in the topic's set. -/
def Indexed (index : AList (fun _ : ByteString => List ByteString)) (topic id : ByteString)
    : Prop :=
  ∃ ids, index.lookup topic = some ids ∧ id ∈ ids

/-- Every set in the index is one, and has an element. -/
def ProperIndex (index : AList (fun _ : ByteString => List ByteString)) : Prop :=
  ∀ topic ids, index.lookup topic = some ids → ids ≠ [] ∧ ids.Nodup

variable {index : AList (fun _ : ByteString => List ByteString)} {id other : ByteString}
  {topic key : ByteString}

theorem properIndex_empty : ProperIndex ∅ := by
  intro topic ids found
  simp at found

/-- A lookup reads an absent topic as one with no ids. -/
theorem mem_getD_lookup_iff
    : id ∈ (index.lookup topic).getD [] ↔ Indexed index topic id := by
  unfold Indexed
  cases index.lookup topic with
  | none => simp
  | some ids => simp

theorem indexed_indexTopic
    : Indexed (indexTopic id index key) topic other
      ↔ Indexed index topic other ∨ topic = key ∧ other = id := by
  by_cases same : topic = key
  · subst key
    cases found : index.lookup topic with
    | none => simp [Indexed, indexTopic, AList.lookup_insert, found]
    | some ids => simp [Indexed, indexTopic, AList.lookup_insert, found, or_comm]
  · simp [Indexed, indexTopic, AList.lookup_insert_ne same, same]

theorem ProperIndex.indexTopic (proper : ProperIndex index)
    : ProperIndex (indexTopic id index key) := by
  intro topic ids found
  by_cases same : topic = key
  · subst key
    rw [PeerRegistry.indexTopic, AList.lookup_insert, Option.some.injEq] at found
    subst found
    constructor
    · exact List.ne_nil_of_mem (List.mem_insert_self)
    · refine List.Nodup.insert ?_
      cases was : index.lookup topic with
      | none => exact List.nodup_nil
      | some ids => exact (proper topic ids was).2
  · rw [PeerRegistry.indexTopic, AList.lookup_insert_ne same] at found
    exact proper topic ids found

theorem indexed_unindexTopic (proper : ProperIndex index)
    : Indexed (unindexTopic id index key) topic other
      ↔ Indexed index topic other ∧ ¬(topic = key ∧ other = id) := by
  unfold unindexTopic
  cases found : index.lookup key with
  | none =>
      have elsewhere : Indexed index topic other → topic ≠ key := by
        rintro ⟨ids, is, _⟩ rfl
        rw [found] at is
        cases is
      constructor
      · intro indexed
        exact ⟨indexed, fun both => elsewhere indexed both.1⟩
      · exact And.left
  | some ids =>
      have distinct := (proper key ids found).2
      dsimp only
      by_cases same : topic = key
      · subst key
        have rest : other ∈ ids.erase id ↔ other ≠ id ∧ other ∈ ids := distinct.mem_erase_iff
        split
        · rename_i empty
          rw [List.isEmpty_iff] at empty
          simp only [empty, List.not_mem_nil, false_iff] at rest
          simp [Indexed, AList.lookup_erase, found]
          tauto
        · simp [Indexed, AList.lookup_insert, found, rest, and_comm]
      · split
        · simp [Indexed, AList.lookup_erase_ne same, same]
        · simp [Indexed, AList.lookup_insert_ne same, same]

theorem ProperIndex.unindexTopic (proper : ProperIndex index)
    : ProperIndex (unindexTopic id index key) := by
  unfold PeerRegistry.unindexTopic
  split
  · exact proper
  · rename_i ids found
    dsimp only
    split
    · intro topic others is
      by_cases same : topic = key
      · subst key
        simp [AList.lookup_erase] at is
      · rw [AList.lookup_erase_ne same] at is
        exact proper topic others is
    · rename_i nonempty
      intro topic others is
      by_cases same : topic = key
      · subst key
        rw [AList.lookup_insert, Option.some.injEq] at is
        subst is
        refine ⟨?_, (proper topic ids found).2.erase id⟩
        intro empty
        simp [empty] at nonempty
      · rw [AList.lookup_insert_ne same] at is
        exact proper topic others is

theorem ProperIndex.foldl_indexTopic (proper : ProperIndex index) (topics : List ByteString)
    : ProperIndex (topics.foldl (PeerRegistry.indexTopic id) index) := by
  induction topics generalizing index with
  | nil => exact proper
  | cons first rest ih => exact ih proper.indexTopic

theorem ProperIndex.foldl_unindexTopic (proper : ProperIndex index)
    (topics : List ByteString)
    : ProperIndex (topics.foldl (PeerRegistry.unindexTopic id) index) := by
  induction topics generalizing index with
  | nil => exact proper
  | cons first rest ih => exact ih proper.unindexTopic

/-- A subscription's topics are added to the index. -/
theorem indexed_foldl_indexTopic {topics : List ByteString}
    : Indexed (topics.foldl (indexTopic id) index) topic other
      ↔ Indexed index topic other ∨ topic ∈ topics ∧ other = id := by
  induction topics generalizing index with
  | nil => simp
  | cons first rest ih =>
      rw [List.foldl_cons, ih, indexed_indexTopic, List.mem_cons]
      tauto

/-- And taken out again. -/
theorem indexed_foldl_unindexTopic (proper : ProperIndex index) {topics : List ByteString}
    : Indexed (topics.foldl (unindexTopic id) index) topic other
      ↔ Indexed index topic other ∧ ¬(topic ∈ topics ∧ other = id) := by
  induction topics generalizing index with
  | nil => simp
  | cons first rest ih =>
      rw [List.foldl_cons, ih proper.unindexTopic, indexed_unindexTopic proper,
        List.mem_cons]
      tauto

theorem ProperIndex.mem_keys_iff (proper : ProperIndex index)
    : topic ∈ index.keys ↔ ∃ id, Indexed index topic id := by
  rw [← AList.mem_keys, ← AList.lookup_isSome, Option.isSome_iff_exists]
  constructor
  · rintro ⟨ids, found⟩
    obtain ⟨id, member⟩ := List.exists_mem_of_ne_nil ids (proper topic ids found).1
    exact ⟨id, ids, found, member⟩
  · rintro ⟨id, ids, found, _⟩
    exact ⟨ids, found⟩

/-- The index is the one of the registered subscriptions. -/
structure Indexes (registry : PeerRegistry) : Prop where
  proper : ProperIndex registry.topicToSubscriptions
  indexed
    : ∀ topic id,
        Indexed registry.topicToSubscriptions topic id
        ↔ ∃ subscription,
            registry.localSubscriptions.lookup id = some subscription
            ∧ topic ∈ subscription.topics
  named
    : ∀ id subscription,
        registry.localSubscriptions.lookup id = some subscription
        → subscription.subscriptionId = id

theorem indexes_fresh (localNodeId : ByteString)
    : PeerRegistry.Indexes { localNodeId } where
  proper := properIndex_empty
  indexed topic id := by simp [Indexed]
  named id subscription found := by simp at found

theorem Indexes.addLocalSubscription {registry : PeerRegistry} (indexes : registry.Indexes)
    (now : TimePoint) (subscriptionId clientId : ByteString) (topics : List ByteString)
    (maxBufferSize : Int)
    : (registry.addLocalSubscription now subscriptionId clientId topics
        maxBufferSize).1.Indexes := by
  unfold PeerRegistry.addLocalSubscription
  split
  · exact indexes
  · rename_i fresh
    refine ⟨indexes.proper.foldl_indexTopic topics, ?_, ?_⟩
    · intro topic id
      rw [indexed_foldl_indexTopic, indexes.indexed]
      by_cases same : id = subscriptionId
      · subst id
        simp [fresh, AList.lookup_insert]
      · simp [same, AList.lookup_insert_ne same]
    · intro id subscription found
      by_cases same : id = subscriptionId
      · subst id
        rw [AList.lookup_insert, Option.some.injEq] at found
        subst found
        rfl
      · rw [AList.lookup_insert_ne same] at found
        exact indexes.named id subscription found

theorem Indexes.removeLocalSubscription {registry : PeerRegistry} (indexes : registry.Indexes)
    (now : TimePoint) (subscriptionId : ByteString) (pause : Bool) (ttlMs : Int)
    : (registry.removeLocalSubscription now subscriptionId pause ttlMs).1.Indexes := by
  unfold PeerRegistry.removeLocalSubscription
  split
  · exact indexes
  · rename_i subscription active
    refine ⟨indexes.proper.foldl_unindexTopic _, ?_, ?_⟩
    · intro topic id
      rw [indexed_foldl_unindexTopic indexes.proper, indexes.indexed]
      by_cases same : id = subscriptionId
      · subst id
        simp [active, AList.lookup_erase]
      · simp [same, AList.lookup_erase_ne same]
    · intro id other found
      by_cases same : id = subscriptionId
      · subst id
        simp [AList.lookup_erase] at found
      · rw [AList.lookup_erase_ne same] at found
        exact indexes.named id other found

/-- A resumed subscription is indexed like a new one; it must not have been active already. -/
theorem Indexes.resumeSubscription {registry : PeerRegistry} (indexes : registry.Indexes)
    (now : TimePoint) {subscriptionId : ByteString}
    (inactive
      : (registry.pausedSubscriptions.lookup subscriptionId).isSome = true
        → registry.localSubscriptions.lookup subscriptionId = none)
    : (registry.resumeSubscription now subscriptionId).1.Indexes := by
  unfold PeerRegistry.resumeSubscription
  split
  · exact indexes
  · rename_i paused found
    split
    · exact ⟨indexes.proper, indexes.indexed, indexes.named⟩
    · have absent := inactive (by rw [found]; rfl)
      refine ⟨indexes.proper.foldl_indexTopic _, ?_, ?_⟩
      · intro topic id
        rw [indexed_foldl_indexTopic, indexes.indexed]
        by_cases same : id = subscriptionId
        · subst id
          simp [absent, AList.lookup_insert, resumedRecord]
        · simp [same, AList.lookup_insert_ne same]
      · intro id subscription is
        by_cases same : id = subscriptionId
        · subst id
          rw [AList.lookup_insert, Option.some.injEq] at is
          subst is
          rfl
        · rw [AList.lookup_insert_ne same] at is
          exact indexes.named id subscription is

theorem Indexes.updateSubscriptionSequence {registry : PeerRegistry}
    (indexes : registry.Indexes) (subscriptionId topic : ByteString) (sequence : Nat)
    : (registry.updateSubscriptionSequence subscriptionId topic sequence).Indexes := by
  unfold PeerRegistry.updateSubscriptionSequence
  split
  · exact indexes
  · rename_i subscription found
    refine ⟨indexes.proper, ?_, ?_⟩
    · intro topic id
      rw [indexes.indexed]
      by_cases same : id = subscriptionId
      · subst id
        simp [found, AList.lookup_insert]
      · simp [AList.lookup_insert_ne same]
    · intro id other is
      by_cases same : id = subscriptionId
      · subst id
        rw [AList.lookup_insert, Option.some.injEq] at is
        subst is
        exact indexes.named subscriptionId subscription found
      · rw [AList.lookup_insert_ne same] at is
        exact indexes.named id other is

/-- The index speaks about the active subscriptions and nothing else. -/
theorem Indexes.congr {registry after : PeerRegistry} (indexes : registry.Indexes)
    (locals : after.localSubscriptions = registry.localSubscriptions)
    (index : after.topicToSubscriptions = registry.topicToSubscriptions)
    : after.Indexes :=
  ⟨by rw [index]; exact indexes.proper, by rw [index, locals]; exact indexes.indexed,
    by rw [locals]; exact indexes.named⟩

theorem Indexes.mem_getLocalTopics {registry : PeerRegistry} (indexes : registry.Indexes)
    {order : IterationOrder ByteString} {topic : ByteString}
    : topic ∈ registry.getLocalTopics order
      ↔ ∃ id subscription,
          registry.localSubscriptions.lookup id = some subscription
          ∧ topic ∈ subscription.topics := by
  rw [getLocalTopics, IterationOrder.mem_visit, indexes.proper.mem_keys_iff]
  simp only [indexes.indexed]

theorem Indexes.mem_getLocalSubscriptions {registry : PeerRegistry}
    (indexes : registry.Indexes) {order : IterationOrder ByteString} {topic : ByteString}
    {subscription : LocalSubscription}
    : subscription ∈ registry.getLocalSubscriptions order topic
      ↔ registry.localSubscriptions.lookup subscription.subscriptionId = some subscription
        ∧ topic ∈ subscription.topics := by
  simp only [getLocalSubscriptions, List.mem_filterMap, IterationOrder.mem_visit,
    mem_getD_lookup_iff, indexes.indexed]
  constructor
  · intro counted
    rcases counted with ⟨id, ⟨same, is, covers⟩, found⟩
    obtain rfl := indexes.named id subscription found
    rw [found, Option.some.injEq] at is
    subst is
    exact ⟨found, covers⟩
  · intro registered
    exact ⟨subscription.subscriptionId, ⟨subscription, registered⟩, registered.1⟩

theorem nodup_getLocalTopics (registry : PeerRegistry) (order : IterationOrder ByteString)
    : (registry.getLocalTopics order).Nodup :=
  order.nodup_visit registry.topicToSubscriptions.keys_nodup

theorem Indexes.nodup_getLocalSubscriptions {registry : PeerRegistry}
    (indexes : registry.Indexes) (order : IterationOrder ByteString) (topic : ByteString)
    : (registry.getLocalSubscriptions order topic).Nodup := by
  have distinct : ((registry.topicToSubscriptions.lookup topic).getD []).Nodup := by
    cases found : registry.topicToSubscriptions.lookup topic with
    | none => exact List.nodup_nil
    | some ids => exact (indexes.proper topic ids found).2
  refine (order.nodup_visit distinct).filterMap ?_
  intro id other subscription is there
  rw [← indexes.named id subscription is, indexes.named other subscription there]

end NexusD.Core.PeerRegistry
