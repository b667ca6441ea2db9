import NexusD.Core.HashCache
import NexusD.Core.PeerTable
import NexusD.Library.ListFacts

/-! The registry's subscriptions over whole runs of calls.
The registry keeps three maps about subscriptions: the active ones, the paused ones and the
index from topics to active ones. Seen from one id the first two are a small state machine,
and the index is a function of the first.
-/

namespace NexusD.Core

open NexusD.Library

namespace PeerRegistry

/-- `clearExpiredPausedSubscriptions`, with the number of records it erased. -/
def clearExpiredPausedSubscriptions (registry : PeerRegistry)
    (order : IterationOrder ByteString) (now : TimePoint)
    : PeerRegistry × Nat :=
  let expired :=
    (order.visit registry.pausedSubscriptions.keys).filter (fun id =>
      match registry.pausedSubscriptions.lookup id with
      | none => false
      | some paused => decide (paused.expiresAt < now))
  ({ registry with
      pausedSubscriptions :=
        expired.foldl (fun paused id => paused.erase id) registry.pausedSubscriptions },
    expired.length)

def pauseSubscription (registry : PeerRegistry) (now : TimePoint)
    (subscriptionId : ByteString) (ttlMs : Int)
    : PeerRegistry × Bool :=
  registry.removeLocalSubscription now subscriptionId true ttlMs

def hasSubscribers (registry : PeerRegistry) (topic : ByteString) : Bool :=
  if (registry.routingTable.lookup topic).isSome then true
  else (registry.topicToSubscriptions.lookup topic).isSome

end PeerRegistry

/-- A call of the registry, with the clock reading and the iteration order it meets. -/
inductive RegistryCall where
  | change (change : SubscriptionChange)
  | clearExpiredPausedSubscriptions (order : IterationOrder ByteString) (now : TimePoint)
  | updateSubscriptionSequence (subscriptionId topic : ByteString) (sequence : Nat)
  | getLocalTopicHash (order : IterationOrder ByteString)
  | peer (call : PeerCall)

namespace RegistryCall

/-- The id the call adds. -/
def addedId : RegistryCall → Option ByteString
  | .change (.add _ subscriptionId _ _ _) => some subscriptionId
  | _ => none

/-- No id is added twice. -/
def AddsOnce (calls : List RegistryCall) : Prop :=
  (calls.filterMap addedId).Nodup

/-- The subscription the call is about. -/
def subject : RegistryCall → Option ByteString
  | .change (.add _ subscriptionId _ _ _) => some subscriptionId
  | .change (.remove _ subscriptionId _ _) => some subscriptionId
  | .change (.resume _ subscriptionId) => some subscriptionId
  | .updateSubscriptionSequence subscriptionId _ _ => some subscriptionId
  | .clearExpiredPausedSubscriptions _ _ | .getLocalTopicHash _ | .peer _ => none

/-- When the call sweeps the paused subscriptions. -/
def sweepTime : RegistryCall → Option TimePoint
  | .clearExpiredPausedSubscriptions _ now => some now
  | _ => none

end RegistryCall

namespace PeerRegistry

def execute (registry : PeerRegistry) : RegistryCall → PeerRegistry
  | .change change => registry.apply change
  | .clearExpiredPausedSubscriptions order now =>
      (registry.clearExpiredPausedSubscriptions order now).1
  | .updateSubscriptionSequence subscriptionId topic sequence =>
      registry.updateSubscriptionSequence subscriptionId topic sequence
  | .getLocalTopicHash order => (registry.getLocalTopicHash order).1
  | .peer call => registry.perform call

def step (registry : PeerRegistry) (call : RegistryCall) : Option PeerRegistry :=
  some (registry.execute call)

-----------------------------------------------------------------------------------------
-- One subscription
-----------------------------------------------------------------------------------------

/-- What the registry has about one id. -/
structure Entry where
  active : Option LocalSubscription := none
  paused : Option PausedSubscription := none

def entry (registry : PeerRegistry) (id : ByteString) : Entry :=
  ⟨registry.localSubscriptions.lookup id, registry.pausedSubscriptions.lookup id⟩

namespace Entry

def add (entry : Entry) (now : TimePoint) (subscriptionId clientId : ByteString)
    (topics : List ByteString) (maxBufferSize : Int)
    : Entry :=
  match entry.active with
  | some _ => entry
  | none =>
      { entry with
        active := some { subscriptionId, clientId, topics, maxBufferSize, createdAt := now } }

def remove (entry : Entry) (now : TimePoint) (subscriptionId : ByteString) (pause : Bool)
    (ttlMs : Int)
    : Entry :=
  match entry.active with
  | none => entry
  | some subscription =>
      { active := none
        paused :=
          if pause then some (pausedRecord subscription subscriptionId now ttlMs)
          else entry.paused }

def resume (entry : Entry) (now : TimePoint) (subscriptionId : ByteString) : Entry :=
  match entry.paused with
  | none => entry
  | some paused =>
      if paused.expiresAt < now then { entry with paused := none }
      else { active := some (resumedRecord paused subscriptionId now), paused := none }

def sweep (entry : Entry) (now : TimePoint) : Entry :=
  { entry with paused := entry.paused.filter (fun paused => !decide (paused.expiresAt < now)) }

def moveTo (entry : Entry) (sequence : Nat) : Entry :=
  { entry with
    active :=
      entry.active.map (fun subscription =>
        { subscription with lastDeliveredSequence := sequence }) }

/-- What a call does to the id's entry. -/
def after (id : ByteString) (entry : Entry) : RegistryCall → Entry
  | .change (.add now subscriptionId clientId topics maxBufferSize) =>
      if id = subscriptionId then entry.add now subscriptionId clientId topics maxBufferSize
      else entry
  | .change (.remove now subscriptionId pause ttlMs) =>
      if id = subscriptionId then entry.remove now subscriptionId pause ttlMs else entry
  | .change (.resume now subscriptionId) =>
      if id = subscriptionId then entry.resume now subscriptionId else entry
  | .clearExpiredPausedSubscriptions _ now => entry.sweep now
  | .updateSubscriptionSequence subscriptionId _ sequence =>
      if id = subscriptionId then entry.moveTo sequence else entry
  | .getLocalTopicHash _ | .peer _ => entry

/-- A call about another id leaves the entry alone, unless it is a sweep. -/
theorem after_of_subject_ne {id : ByteString} (entry : Entry) {call : RegistryCall}
    (others : call.subject ≠ some id)
    : entry.after id call
      = match call.sweepTime with
        | none => entry
        | some now => entry.sweep now := by
  cases call with
  | change change =>
      cases change with
      | add now subscriptionId clientId topics maxBufferSize =>
          exact if_neg (fun same => others (congrArg some same.symm))
      | remove now subscriptionId pause ttlMs =>
          exact if_neg (fun same => others (congrArg some same.symm))
      | resume now subscriptionId =>
          exact if_neg (fun same => others (congrArg some same.symm))
  | clearExpiredPausedSubscriptions order now => rfl
  | updateSubscriptionSequence subscriptionId topic sequence =>
      exact if_neg (fun same => others (congrArg some same.symm))
  | getLocalTopicHash order => rfl
  | peer call => rfl

end Entry

theorem entry_addLocalSubscription (registry : PeerRegistry) (now : TimePoint)
    (subscriptionId clientId : ByteString) (topics : List ByteString) (maxBufferSize : Int)
    (id : ByteString)
    : (registry.addLocalSubscription now subscriptionId clientId topics maxBufferSize).1.entry
        id
      = if id = subscriptionId then
          (registry.entry id).add now subscriptionId clientId topics maxBufferSize
        else
          registry.entry id := by
  unfold addLocalSubscription
  by_cases same : id = subscriptionId
  · subst id
    cases found : registry.localSubscriptions.lookup subscriptionId with
    | none => simp [entry, Entry.add, found, AList.lookup_insert]
    | some subscription => simp [entry, Entry.add, found]
  · split
    · simp [same]
    · simp [entry, same, AList.lookup_insert_ne same]

theorem entry_removeLocalSubscription (registry : PeerRegistry) (now : TimePoint)
    (subscriptionId : ByteString) (pause : Bool) (ttlMs : Int) (id : ByteString)
    : (registry.removeLocalSubscription now subscriptionId pause ttlMs).1.entry id
      = if id = subscriptionId then (registry.entry id).remove now subscriptionId pause ttlMs
        else registry.entry id := by
  unfold removeLocalSubscription
  by_cases same : id = subscriptionId
  · subst id
    cases found : registry.localSubscriptions.lookup subscriptionId with
    | none => simp [entry, Entry.remove, found]
    | some subscription =>
        cases pause with
        | true =>
            simp [entry, Entry.remove, found, AList.lookup_erase, AList.lookup_insert]
        | false => simp [entry, Entry.remove, found, AList.lookup_erase]
  · split
    · simp [same]
    · cases pause with
      | true =>
          simp [entry, same, AList.lookup_erase_ne same, AList.lookup_insert_ne same]
      | false => simp [entry, same, AList.lookup_erase_ne same]

theorem entry_resumeSubscription (registry : PeerRegistry) (now : TimePoint)
    (subscriptionId id : ByteString)
    : (registry.resumeSubscription now subscriptionId).1.entry id
      = if id = subscriptionId then (registry.entry id).resume now subscriptionId
        else registry.entry id := by
  unfold resumeSubscription
  by_cases same : id = subscriptionId
  · subst id
    cases found : registry.pausedSubscriptions.lookup subscriptionId with
    | none => simp [entry, Entry.resume, found]
    | some paused =>
        by_cases late : paused.expiresAt < now
        · simp [entry, Entry.resume, found, late, AList.lookup_erase]
        · simp [entry, Entry.resume, found, late, AList.lookup_erase, AList.lookup_insert]
  · split
    · simp [same]
    · split
      · simp [entry, AList.lookup_erase_ne same]
      · simp [entry, AList.lookup_erase_ne same, AList.lookup_insert_ne same]

theorem entry_updateSubscriptionSequence (registry : PeerRegistry)
    (subscriptionId topic : ByteString) (sequence : Nat) (id : ByteString)
    : (registry.updateSubscriptionSequence subscriptionId topic sequence).entry id
      = if id = subscriptionId then (registry.entry id).moveTo sequence
        else registry.entry id := by
  unfold updateSubscriptionSequence
  by_cases same : id = subscriptionId
  · subst id
    cases found : registry.localSubscriptions.lookup subscriptionId with
    | none => simp [entry, Entry.moveTo, found]
    | some subscription => simp [entry, Entry.moveTo, found, AList.lookup_insert]
  · split
    · simp [same]
    · simp [entry, same, AList.lookup_insert_ne same]

theorem entry_clearExpiredPausedSubscriptions (registry : PeerRegistry)
    (order : IterationOrder ByteString) (now : TimePoint) (id : ByteString)
    : (registry.clearExpiredPausedSubscriptions order now).1.entry id
      = (registry.entry id).sweep now := by
  have swept
    : (registry.clearExpiredPausedSubscriptions order now).1.pausedSubscriptions.lookup id
      = (registry.pausedSubscriptions.lookup id).filter
          (fun paused => !decide (paused.expiresAt < now)) := by
    refine lookup_foldl_erase_filter ?_ order id
    intro other
    cases registry.pausedSubscriptions.lookup other <;> rfl
  rw [entry, swept]
  rfl

/-- The calls on the routes leave the subscriptions and the hash alone. -/
theorem perform_subscriptions (registry : PeerRegistry) (call : PeerCall)
    : (registry.perform call).localSubscriptions = registry.localSubscriptions
      ∧ (registry.perform call).pausedSubscriptions = registry.pausedSubscriptions
      ∧ (registry.perform call).topicToSubscriptions = registry.topicToSubscriptions
      ∧ (registry.perform call).cachedLocalHash = registry.cachedLocalHash
      ∧ (registry.perform call).hashDirty = registry.hashDirty := by
  cases call with
  | upsertPeer now record =>
      simp only [perform, upsertPeer]
      split <;> exact ⟨rfl, rfl, rfl, rfl, rfl⟩
  | removePeer id => exact ⟨rfl, rfl, rfl, rfl, rfl⟩
  | updatePeerState id topics hash =>
      simp only [perform, updatePeerState, recordPeerState, rebuildRoutingTable]
      split <;> exact ⟨rfl, rfl, rfl, rfl, rfl⟩
  | reapDeadPeers order now timeoutMs =>
      simp only [perform, reapDeadPeers]
      split <;> exact ⟨rfl, rfl, rfl, rfl, rfl⟩

theorem entry_getLocalTopicHash (registry : PeerRegistry) (id : ByteString)
    : registry.getLocalTopicHash.1.entry id = registry.entry id := by
  unfold getLocalTopicHash
  dsimp only
  split <;> rfl

/-- Seen from one id, a call is a step of the id's own entry. -/
theorem entry_execute (registry : PeerRegistry) (call : RegistryCall) (id : ByteString)
    : (registry.execute call).entry id = (registry.entry id).after id call := by
  cases call with
  | change change =>
      cases change with
      | add now subscriptionId clientId topics maxBufferSize =>
          exact registry.entry_addLocalSubscription now subscriptionId clientId topics
            maxBufferSize id
      | remove now subscriptionId pause ttlMs =>
          exact registry.entry_removeLocalSubscription now subscriptionId pause ttlMs id
      | resume now subscriptionId =>
          exact registry.entry_resumeSubscription now subscriptionId id
  | clearExpiredPausedSubscriptions order now =>
      exact registry.entry_clearExpiredPausedSubscriptions order now id
  | updateSubscriptionSequence subscriptionId topic sequence =>
      exact registry.entry_updateSubscriptionSequence subscriptionId topic sequence id
  | getLocalTopicHash order =>
      rw [execute, getLocalTopicHash_order, entry_getLocalTopicHash]
      rfl
  | peer call =>
      obtain ⟨active, paused, _⟩ := registry.perform_subscriptions call
      simp only [execute, entry, active, paused]
      rfl

/-- The entry of one id after a run. -/
theorem entry_of_exec {start final : PeerRegistry} {calls : List RegistryCall}
    (run : exec step start calls = some final) (id : ByteString)
    : final.entry id = calls.foldl (Entry.after id) (start.entry id) := by
  refine exec_induction
    (motive := fun calls registry =>
      registry.entry id = calls.foldl (Entry.after id) (start.entry id))
    rfl ?_ run
  intro calls registry call after _ ih taken
  cases taken
  rw [List.foldl_append, ← ih, entry_execute]
  rfl

/-- The three maps of subscriptions fit together, and no topic has an empty set of peers. -/
structure Sound (registry : PeerRegistry) : Prop where
  index : registry.Indexes
  apart
    : ∀ id,
        (registry.localSubscriptions.lookup id).isSome = true
        → registry.pausedSubscriptions.lookup id = none
  routes : ProperIndex registry.routingTable

theorem sound_fresh (localNodeId : ByteString) : PeerRegistry.Sound { localNodeId } where
  index := indexes_fresh localNodeId
  apart id active := by simp at active
  routes := properIndex_empty

/-- The entry is not empty. -/
def Entry.Known (entry : Entry) : Prop :=
  entry.active.isSome = true ∨ entry.paused.isSome = true

/-- An id is active or paused, not both. -/
def Entry.Apart (entry : Entry) : Prop :=
  entry.active.isSome = true → entry.paused = none

variable {entry : Entry} {call : RegistryCall} {registry : PeerRegistry}

theorem Entry.known_after {id : ByteString} (known : (entry.after id call).Known)
    : call.addedId = some id ∨ entry.Known := by
  rcases entry with ⟨active, paused⟩
  cases call with
  | change change =>
      cases change with
      | add now subscriptionId clientId topics maxBufferSize =>
          by_cases same : id = subscriptionId
          · exact .inl (congrArg some same.symm)
          · simp only [Entry.after, same, if_false] at known
            exact .inr known
      | remove now subscriptionId pause ttlMs =>
          right
          cases active <;> simp_all [Entry.after, Entry.remove, Entry.Known]
      | resume now subscriptionId =>
          right
          cases paused <;> simp_all [Entry.after, Entry.resume, Entry.Known]
  | clearExpiredPausedSubscriptions order now =>
      right
      cases paused <;> simp_all [Entry.after, Entry.sweep, Entry.Known]
  | updateSubscriptionSequence subscriptionId topic sequence =>
      right
      cases active <;> simp_all [Entry.after, Entry.moveTo, Entry.Known]
  | getLocalTopicHash order => exact .inr known
  | peer call => exact .inr known

theorem Entry.Apart.add (unknown : ¬entry.Known) (now : TimePoint)
    (subscriptionId clientId : ByteString) (topics : List ByteString) (maxBufferSize : Int)
    : (entry.add now subscriptionId clientId topics maxBufferSize).Apart := by
  simp only [Entry.Known, not_or, Bool.not_eq_true, Option.isSome_eq_false_iff,
    Option.isNone_iff_eq_none] at unknown
  simp [Entry.add, Entry.Apart, unknown]

theorem Entry.Apart.remove (apart : entry.Apart) (now : TimePoint)
    (subscriptionId : ByteString) (pause : Bool) (ttlMs : Int)
    : (entry.remove now subscriptionId pause ttlMs).Apart := by
  unfold Entry.remove
  split
  · exact apart
  · intro active
    cases active

theorem Entry.Apart.resume (apart : entry.Apart) (now : TimePoint)
    (subscriptionId : ByteString)
    : (entry.resume now subscriptionId).Apart := by
  unfold Entry.resume
  split
  · exact apart
  · split
    · exact fun _ => rfl
    · exact fun _ => rfl

theorem Entry.Apart.sweep (apart : entry.Apart) (now : TimePoint)
    : (entry.sweep now).Apart := by
  intro active
  simp only [Entry.sweep, apart active, Option.filter_none]

theorem Entry.Apart.moveTo (apart : entry.Apart) (sequence : Nat)
    : (entry.moveTo sequence).Apart := by
  intro active
  simp only [Entry.moveTo, Option.isSome_map] at active
  exact apart active

/-- Only a new id or a paused one becomes active, and a paused one is then paused no more. -/
theorem Entry.Apart.after {id : ByteString} (apart : entry.Apart)
    (fresh : call.addedId = some id → ¬entry.Known)
    : (entry.after id call).Apart := by
  cases call with
  | change change =>
      cases change with
      | add now subscriptionId clientId topics maxBufferSize =>
          simp only [Entry.after]
          split
          · rename_i same
            exact .add (fresh (congrArg some same.symm)) _ _ _ _ _
          · exact apart
      | remove now subscriptionId pause ttlMs =>
          simp only [Entry.after]
          split
          · exact apart.remove now subscriptionId pause ttlMs
          · exact apart
      | resume now subscriptionId =>
          simp only [Entry.after]
          split
          · exact apart.resume now subscriptionId
          · exact apart
  | clearExpiredPausedSubscriptions order now => exact apart.sweep now
  | updateSubscriptionSequence subscriptionId topic sequence =>
      simp only [Entry.after]
      split
      · exact apart.moveTo sequence
      · exact apart
  | getLocalTopicHash order => exact apart
  | peer call => exact apart

theorem Sound.apartAt (sound : registry.Sound) (id : ByteString)
    : (registry.entry id).Apart :=
  sound.apart id

theorem Indexes.execute (indexes : registry.Indexes)
    (apart
      : ∀ id,
          (registry.pausedSubscriptions.lookup id).isSome = true
          → registry.localSubscriptions.lookup id = none) (call : RegistryCall)
    : (registry.execute call).Indexes := by
  cases call with
  | change change =>
      cases change with
      | add now subscriptionId clientId topics maxBufferSize =>
          exact indexes.addLocalSubscription now subscriptionId clientId topics maxBufferSize
      | remove now subscriptionId pause ttlMs =>
          exact indexes.removeLocalSubscription now subscriptionId pause ttlMs
      | resume now subscriptionId =>
          exact indexes.resumeSubscription now (apart subscriptionId)
  | clearExpiredPausedSubscriptions order now => exact indexes.congr rfl rfl
  | updateSubscriptionSequence subscriptionId topic sequence =>
      exact indexes.updateSubscriptionSequence subscriptionId topic sequence
  | getLocalTopicHash order =>
      simp only [PeerRegistry.execute, getLocalTopicHash]
      split
      · exact indexes.congr rfl rfl
      · exact indexes
  | peer call =>
      obtain ⟨locals, _, index, _⟩ := registry.perform_subscriptions call
      exact indexes.congr locals index

theorem properRoutes_perform (proper : ProperIndex registry.routingTable) (call : PeerCall)
    : ProperIndex (registry.perform call).routingTable := by
  cases rebuilt : registry.rebuilds call with
  | true =>
      rw [perform_of_rebuilds rebuilt]
      exact (routesAgree_rebuildRoutingTable _).proper
  | false => rwa [perform_of_not_rebuilds rebuilt, routingTable_update]

/-- The registries differ at most in their subscriptions. -/
structure SameMesh (before after : PeerRegistry) : Prop where
  localNodeId : after.localNodeId = before.localNodeId
  peers : after.peers = before.peers
  routingTable : after.routingTable = before.routingTable
  retainedMessages : after.retainedMessages = before.retainedMessages

theorem SameMesh.refl (registry : PeerRegistry) : registry.SameMesh registry :=
  ⟨rfl, rfl, rfl, rfl⟩

theorem SameMesh.trans {first second third : PeerRegistry} (earlier : first.SameMesh second)
    (later : second.SameMesh third)
    : first.SameMesh third :=
  ⟨later.localNodeId.trans earlier.localNodeId, later.peers.trans earlier.peers,
    later.routingTable.trans earlier.routingTable,
    later.retainedMessages.trans earlier.retainedMessages⟩

theorem apply_sameMesh (registry : PeerRegistry) (change : SubscriptionChange)
    : registry.SameMesh (registry.apply change) := by
  cases change with
  | add now subscriptionId clientId topics maxBufferSize =>
      simp only [apply, addLocalSubscription]
      split <;> exact ⟨rfl, rfl, rfl, rfl⟩
  | remove now subscriptionId pause ttlMs =>
      simp only [apply, removeLocalSubscription]
      split <;> exact ⟨rfl, rfl, rfl, rfl⟩
  | resume now subscriptionId =>
      simp only [apply, resumeSubscription]
      split
      · exact ⟨rfl, rfl, rfl, rfl⟩
      · split <;> exact ⟨rfl, rfl, rfl, rfl⟩

theorem updateSubscriptionSequence_sameMesh (registry : PeerRegistry)
    (subscriptionId topic : ByteString) (sequence : Nat)
    : registry.SameMesh
        (registry.updateSubscriptionSequence subscriptionId topic sequence) := by
  unfold updateSubscriptionSequence
  split <;> exact ⟨rfl, rfl, rfl, rfl⟩

theorem localNodeId_getLocalTopicHash (registry : PeerRegistry)
    (order : IterationOrder ByteString)
    : (registry.getLocalTopicHash order).1.localNodeId = registry.localNodeId := by
  unfold getLocalTopicHash
  dsimp only
  split <;> rfl

theorem localNodeId_execute (registry : PeerRegistry) (call : RegistryCall)
    : (registry.execute call).localNodeId = registry.localNodeId := by
  cases call with
  | change change => exact (registry.apply_sameMesh change).localNodeId
  | clearExpiredPausedSubscriptions order now => rfl
  | updateSubscriptionSequence subscriptionId topic sequence =>
      exact (registry.updateSubscriptionSequence_sameMesh subscriptionId topic
        sequence).localNodeId
  | getLocalTopicHash order => exact registry.localNodeId_getLocalTopicHash order
  | peer call => exact registry.localNodeId_perform call

theorem properRoutes_execute (proper : ProperIndex registry.routingTable) (call : RegistryCall)
    : ProperIndex (registry.execute call).routingTable := by
  cases call with
  | change change => rwa [execute, (registry.apply_sameMesh change).routingTable]
  | clearExpiredPausedSubscriptions order now => exact proper
  | updateSubscriptionSequence subscriptionId topic sequence =>
      rwa [execute,
        (registry.updateSubscriptionSequence_sameMesh subscriptionId topic
          sequence).routingTable]
  | getLocalTopicHash order =>
      simp only [execute, getLocalTopicHash]
      split <;> exact proper
  | peer call => exact properRoutes_perform proper call

theorem Sound.execute (sound : registry.Sound)
    (fresh : ∀ id, call.addedId = some id → ¬registry.Knows id)
    : (registry.execute call).Sound where
  index := by
    refine sound.index.execute ?_ call
    intro id paused
    rw [← Option.not_isSome_iff_eq_none]
    intro active
    rw [sound.apart id active] at paused
    cases paused
  apart id active := by
    have apart : ((registry.execute call).entry id).Apart := by
      rw [entry_execute]
      exact (sound.apartAt id).after (fresh id)
    exact apart active
  routes := properRoutes_execute sound.routes call

/-- In a run that adds no id twice, the registry stays sound and knows only added ids. -/
theorem sound_of_exec {localNodeId : ByteString} {calls : List RegistryCall}
    (run : exec step { localNodeId } calls = some registry)
    (once : RegistryCall.AddsOnce calls)
    : registry.Sound
      ∧ ∀ id, registry.Knows id → id ∈ calls.filterMap RegistryCall.addedId := by
  refine exec_induction
    (motive := fun calls registry =>
      RegistryCall.AddsOnce calls
      → registry.Sound
        ∧ ∀ id, registry.Knows id → id ∈ calls.filterMap RegistryCall.addedId)
    ?_ ?_ run once
  · intro _
    exact ⟨sound_fresh localNodeId, fun id known => absurd known (not_knows_fresh _ id)⟩
  · intro calls registry call after _ ih taken once
    cases taken
    rw [RegistryCall.AddsOnce, List.filterMap_append, List.nodup_append] at once
    obtain ⟨earlier, _, apart⟩ := once
    obtain ⟨sound, added⟩ := ih earlier
    constructor
    · refine sound.execute ?_
      intro id new known
      exact apart id (added id known) id (by simp [new]) rfl
    · intro id known
      have now : ((registry.entry id).after id call).Known := by
        rw [← entry_execute]
        exact known
      have before : call.addedId = some id ∨ (registry.entry id).Known :=
        Entry.known_after now
      rw [List.filterMap_append, List.mem_append]
      rcases before with new | older
      · exact .inr (by simp [new])
      · exact .inl (added id older)

-----------------------------------------------------------------------------------------
-- The index of the subscriptions
-----------------------------------------------------------------------------------------

/-- A topic is a key of a proper index exactly if some id is listed under it. -/
theorem ProperIndex.isSome_lookup_iff {index : AList (fun _ : ByteString => List ByteString)}
    (proper : ProperIndex index) {topic : ByteString}
    : (index.lookup topic).isSome = true ↔ ∃ id, Indexed index topic id := by
  rw [AList.lookup_isSome, AList.mem_keys, proper.mem_keys_iff]

theorem Sound.hasSubscribers_iff (sound : registry.Sound) (order : IterationOrder ByteString)
    (topic : ByteString)
    : registry.hasSubscribers topic = true
      ↔ registry.getLocalSubscriptions order topic ≠ []
        ∨ registry.getRemoteSubscribers order topic ≠ [] := by
  have remote
    : (registry.routingTable.lookup topic).isSome = true
      ↔ registry.getRemoteSubscribers order topic ≠ [] := by
    rw [sound.routes.isSome_lookup_iff, ne_nil_iff_exists_mem]
    simp only [mem_getRemoteSubscribers, Routes]
  have locals
    : (registry.topicToSubscriptions.lookup topic).isSome = true
      ↔ registry.getLocalSubscriptions order topic ≠ [] := by
    rw [sound.index.proper.isSome_lookup_iff, ne_nil_iff_exists_mem]
    simp only [sound.index.indexed, sound.index.mem_getLocalSubscriptions]
    constructor
    · intro listed
      obtain ⟨id, subscription, found, covers⟩ := listed
      exact ⟨subscription, by rwa [sound.index.named id subscription found], covers⟩
    · intro listed
      obtain ⟨subscription, found, covers⟩ := listed
      exact ⟨_, subscription, found, covers⟩
  rw [← remote, ← locals, hasSubscribers]
  cases (registry.routingTable.lookup topic).isSome with
  | true => simp
  | false => simp

/-- The index and what is computed from it agree with the active subscriptions. -/
structure IndexCorrect (registry : PeerRegistry) : Prop where
  indexed
    : ∀ topic id,
        Indexed registry.topicToSubscriptions topic id
        ↔ ∃ subscription,
            registry.localSubscriptions.lookup id = some subscription
            ∧ topic ∈ subscription.topics
  nonempty : ∀ topic ids, registry.topicToSubscriptions.lookup topic = some ids → ids ≠ []
  apart
    : ∀ id,
        ¬((registry.localSubscriptions.lookup id).isSome = true
          ∧ (registry.pausedSubscriptions.lookup id).isSome = true)
  localSubscriptions
    : ∀ order topic,
        (registry.getLocalSubscriptions order topic).Nodup
        ∧ ∀ subscription,
            subscription ∈ registry.getLocalSubscriptions order topic
            ↔ (∃ id, registry.localSubscriptions.lookup id = some subscription)
              ∧ topic ∈ subscription.topics
  localTopics
    : ∀ order,
        (registry.getLocalTopics order).Nodup
        ∧ ∀ topic,
            topic ∈ registry.getLocalTopics order
            ↔ ∃ id subscription,
                registry.localSubscriptions.lookup id = some subscription
                ∧ topic ∈ subscription.topics
  hasSubscribers
    : ∀ order topic,
        registry.hasSubscribers topic = true
        ↔ registry.getLocalSubscriptions order topic ≠ []
          ∨ registry.getRemoteSubscribers order topic ≠ []

/-- In every run that adds no id twice the index is the one of the active subscriptions. -/
theorem indexCorrect_of_exec {localNodeId : ByteString} {calls : List RegistryCall}
    {registry : PeerRegistry} (run : exec step { localNodeId } calls = some registry)
    (once : RegistryCall.AddsOnce calls)
    : registry.IndexCorrect := by
  obtain ⟨sound, _⟩ := sound_of_exec run once
  refine ⟨sound.index.indexed, fun topic ids found => (sound.index.proper topic ids found).1,
    ?_, ?_, ?_, sound.hasSubscribers_iff⟩
  · intro id both
    rw [sound.apart id both.1] at both
    cases both.2
  · intro order topic
    refine ⟨sound.index.nodup_getLocalSubscriptions order topic, ?_⟩
    intro subscription
    rw [sound.index.mem_getLocalSubscriptions]
    constructor
    · intro registered
      exact ⟨⟨_, registered.1⟩, registered.2⟩
    · intro registered
      obtain ⟨⟨id, found⟩, covers⟩ := registered
      exact ⟨by rwa [sound.index.named id subscription found], covers⟩
  · intro order
    exact ⟨registry.nodup_getLocalTopics order, fun topic => sound.index.mem_getLocalTopics⟩

/-- A subscription that names a topic twice is paused, swept past and resumed. -/
def pausedAndResumed : List RegistryCall :=
  [ .change (.add 0 [49] [] [[97], [97]] 0), .change (.remove 1 [49] true 5),
    .clearExpiredPausedSubscriptions .asStored 5000001, .change (.resume 5000001 [49]) ]

theorem indexCorrect_pausedAndResumed
    : ∃ registry,
        exec step { localNodeId := [] } pausedAndResumed = some registry
        ∧ RegistryCall.AddsOnce pausedAndResumed
        ∧ registry.getLocalTopics .asStored = [[97]]
        ∧ registry.IndexCorrect := by
  obtain ⟨registry, run, topics⟩
    : ∃ registry,
        exec step { localNodeId := [] } pausedAndResumed = some registry
        ∧ registry.getLocalTopics .asStored = [[97]] :=
    ⟨_, rfl, by decide +kernel⟩
  have once : RegistryCall.AddsOnce pausedAndResumed := List.nodup_singleton _
  exact ⟨registry, run, once, topics, indexCorrect_of_exec run once⟩

end PeerRegistry

end NexusD.Core
