import NexusD.Core.Basic
import NexusD.Library.IterationOrder
import Mathlib.Data.List.AList

/-! The registry of subscriptions, paused subscriptions, retained messages and routes.
Each operation is one critical section of the registry's locks.
-/

namespace NexusD.Core

open NexusD.Library

inductive PeerStatus where
  | alive
  | suspected
  | dead
deriving DecidableEq, Repr

/-- A discovered remote peer. -/
structure PeerInfo where
  instanceUuid : ByteString
  clusterId : ByteString
  rpcIp : ByteString
  rpcPort : Nat
  topicStateHash : UInt64
  /-- known after a sync -/
  topics : List ByteString := []
  status : PeerStatus := .alive
  lastSeen : TimePoint
  /-- whether its state has been pulled since its hash last changed -/
  synced : Bool := false
deriving DecidableEq, Repr

/-- `rpc_ip + ":" + std::to_string(rpc_port)` -/
def PeerInfo.endpoint (peer : PeerInfo) : ByteString :=
  peer.rpcIp ++ [58] ++ decimal peer.rpcPort

/-- A retained message for late-joiner support. -/
structure RetainedMessage where
  messageId : ByteString
  topic : ByteString
  payload : ByteString
  contentType : ByteString
  sourceNodeId : ByteString
  timestampMs : Int
  ttlMs : Int
deriving DecidableEq, Repr

/-- A subscription from a local application. -/
structure LocalSubscription where
  subscriptionId : ByteString
  clientId : ByteString
  topics : List ByteString
  maxBufferSize : Int
  createdAt : TimePoint
  /-- the last sequence number delivered, on whichever topic it was -/
  lastDeliveredSequence : Nat := 0
deriving DecidableEq, Repr

/-- A subscription that was paused for later resumption. -/
structure PausedSubscription where
  subscriptionId : ByteString
  clientId : ByteString
  topics : List ByteString
  maxBufferSize : Int
  lastDeliveredSequence : Nat
  /-- declared for per-topic positions; no operation of the registry fills it -/
  topicSequences : AList (fun _ : ByteString => Nat) := ∅
  pausedAt : TimePoint
  expiresAt : TimePoint

structure PeerRegistry where
  localNodeId : ByteString
  peers : AList (fun _ : ByteString => PeerInfo) := ∅
  localSubscriptions : AList (fun _ : ByteString => LocalSubscription) := ∅
  /-- topic to the set of its subscription ids -/
  topicToSubscriptions : AList (fun _ : ByteString => List ByteString) := ∅
  pausedSubscriptions : AList (fun _ : ByteString => PausedSubscription) := ∅
  cachedLocalHash : UInt64 := 0
  hashDirty : Bool := true
  /-- topic to the set of its peers -/
  routingTable : AList (fun _ : ByteString => List ByteString) := ∅
  retainedMessages : AList (fun _ : ByteString => RetainedMessage) := ∅

namespace PeerRegistry

/-- `topicToSubscriptions_[topic].insert(subscriptionId)` -/
def indexTopic (subscriptionId : ByteString)
    (index : AList (fun _ : ByteString => List ByteString)) (topic : ByteString)
    : AList (fun _ : ByteString => List ByteString) :=
  index.insert topic (((index.lookup topic).getD []).insert subscriptionId)

/-- Take the id out of the topic's set, and the topic out of the index with its last id. -/
def unindexTopic (subscriptionId : ByteString)
    (index : AList (fun _ : ByteString => List ByteString)) (topic : ByteString)
    : AList (fun _ : ByteString => List ByteString) :=
  match index.lookup topic with
  | none => index
  | some ids =>
      let rest := ids.erase subscriptionId
      if rest.isEmpty then index.erase topic else index.insert topic rest

def addLocalSubscription (registry : PeerRegistry) (now : TimePoint)
    (subscriptionId clientId : ByteString) (topics : List ByteString) (maxBufferSize : Int)
    : PeerRegistry × Bool :=
  match registry.localSubscriptions.lookup subscriptionId with
  | some _ => (registry, false)
  | none =>
      ({ registry with
          localSubscriptions :=
            registry.localSubscriptions.insert subscriptionId
              { subscriptionId, clientId, topics, maxBufferSize, createdAt := now }
          topicToSubscriptions :=
            topics.foldl (indexTopic subscriptionId) registry.topicToSubscriptions
          hashDirty := true },
        true)

/-- The record `removeLocalSubscription` saves when it pauses. -/
def pausedRecord (subscription : LocalSubscription) (subscriptionId : ByteString)
    (now : TimePoint) (ttlMs : Int)
    : PausedSubscription :=
  {
    subscriptionId
    clientId := subscription.clientId
    topics := subscription.topics
    maxBufferSize := subscription.maxBufferSize
    lastDeliveredSequence := subscription.lastDeliveredSequence
    pausedAt := now
    expiresAt := now.addMilliseconds ttlMs
  }

def removeLocalSubscription (registry : PeerRegistry) (now : TimePoint)
    (subscriptionId : ByteString) (pause : Bool) (ttlMs : Int)
    : PeerRegistry × Bool :=
  match registry.localSubscriptions.lookup subscriptionId with
  | none => (registry, false)
  | some subscription =>
      ({ registry with
          pausedSubscriptions :=
            if pause then
              registry.pausedSubscriptions.insert subscriptionId
                (pausedRecord subscription subscriptionId now ttlMs)
            else
              registry.pausedSubscriptions
          topicToSubscriptions :=
            subscription.topics.foldl (unindexTopic subscriptionId)
              registry.topicToSubscriptions
          localSubscriptions := registry.localSubscriptions.erase subscriptionId
          hashDirty := true },
        true)

/-- The active subscription a paused record turns into. -/
def resumedRecord (paused : PausedSubscription) (subscriptionId : ByteString)
    (now : TimePoint)
    : LocalSubscription :=
  {
    subscriptionId
    clientId := paused.clientId
    topics := paused.topics
    maxBufferSize := paused.maxBufferSize
    createdAt := now
    lastDeliveredSequence := paused.lastDeliveredSequence
  }

/-- Resume a paused subscription; the second component is `out_paused_info`, or `none` where
the call returns false. An expired record is erased.
-/
def resumeSubscription (registry : PeerRegistry) (now : TimePoint)
    (subscriptionId : ByteString)
    : PeerRegistry × Option PausedSubscription :=
  match registry.pausedSubscriptions.lookup subscriptionId with
  | none => (registry, none)
  | some paused =>
      if paused.expiresAt < now then
        ({ registry with
            pausedSubscriptions := registry.pausedSubscriptions.erase subscriptionId },
          none)
      else
        ({ registry with
            localSubscriptions :=
              registry.localSubscriptions.insert subscriptionId
                (resumedRecord paused subscriptionId now)
            topicToSubscriptions :=
              paused.topics.foldl (indexTopic subscriptionId) registry.topicToSubscriptions
            pausedSubscriptions := registry.pausedSubscriptions.erase subscriptionId
            hashDirty := true },
          some paused)

def getPausedSubscription (registry : PeerRegistry) (subscriptionId : ByteString)
    : Option PausedSubscription :=
  registry.pausedSubscriptions.lookup subscriptionId

/-- The topic is a parameter of the source's function, which does not use it. -/
def updateSubscriptionSequence (registry : PeerRegistry) (subscriptionId : ByteString)
    (_topic : ByteString) (sequence : Nat)
    : PeerRegistry :=
  match registry.localSubscriptions.lookup subscriptionId with
  | none => registry
  | some subscription =>
      { registry with
        localSubscriptions :=
          registry.localSubscriptions.insert subscriptionId
            { subscription with lastDeliveredSequence := sequence } }

def getLocalSubscriptions (registry : PeerRegistry) (order : IterationOrder ByteString)
    (topic : ByteString)
    : List LocalSubscription :=
  (order.visit ((registry.topicToSubscriptions.lookup topic).getD [])).filterMap
    registry.localSubscriptions.lookup

def getLocalTopics (registry : PeerRegistry) (order : IterationOrder ByteString)
    : List ByteString :=
  order.visit registry.topicToSubscriptions.keys

def getRemoteSubscribers (registry : PeerRegistry) (order : IterationOrder ByteString)
    (topic : ByteString)
    : List ByteString :=
  order.visit ((registry.routingTable.lookup topic).getD [])

def getPeer (registry : PeerRegistry) (instanceUuid : ByteString) : Option PeerInfo :=
  registry.peers.lookup instanceUuid

def setRetainedMessage (registry : PeerRegistry) (topic : ByteString)
    (message : RetainedMessage)
    : PeerRegistry :=
  { registry with retainedMessages := registry.retainedMessages.insert topic message }

def getRetainedMessage (registry : PeerRegistry) (topic : ByteString)
    : Option RetainedMessage :=
  registry.retainedMessages.lookup topic

/-- The test of `clearExpiredRetainedMessages`. -/
def retainedExpired (nowMs : Int) (message : RetainedMessage) : Bool :=
  decide (0 < message.ttlMs)
  && decide (message.ttlMs < int64 (nowMs - message.timestampMs))

def clearExpiredRetainedMessages (registry : PeerRegistry) (order : IterationOrder ByteString)
    (nowMs : Int)
    : PeerRegistry :=
  let expired :=
    (order.visit registry.retainedMessages.keys).filter (fun topic =>
      match registry.retainedMessages.lookup topic with
      | none => false
      | some message => retainedExpired nowMs message)
  { registry with
    retainedMessages :=
      expired.foldl (fun retained topic => retained.erase topic) registry.retainedMessages }

variable {registry : PeerRegistry} {subscriptionId id : ByteString} {now : TimePoint}
  {Value : Type}

theorem addLocalSubscription_fresh
    (fresh : registry.localSubscriptions.lookup subscriptionId = none) (now : TimePoint)
    (clientId : ByteString) (topics : List ByteString) (maxBufferSize : Int)
    : (registry.addLocalSubscription now subscriptionId clientId topics
        maxBufferSize).1.localSubscriptions.lookup subscriptionId
      = some { subscriptionId, clientId, topics, maxBufferSize, createdAt := now } := by
  simp [addLocalSubscription, fresh, AList.lookup_insert]

theorem removeLocalSubscription_paused {subscription : LocalSubscription}
    (active : registry.localSubscriptions.lookup subscriptionId = some subscription)
    (now : TimePoint) (ttlMs : Int)
    : (registry.removeLocalSubscription now subscriptionId true
        ttlMs).1.pausedSubscriptions.lookup subscriptionId
      = some (pausedRecord subscription subscriptionId now ttlMs) := by
  simp [removeLocalSubscription, active, AList.lookup_insert]

theorem updateSubscriptionSequence_same {subscription : LocalSubscription}
    (active : registry.localSubscriptions.lookup subscriptionId = some subscription)
    (topic : ByteString) (sequence : Nat)
    : (registry.updateSubscriptionSequence subscriptionId topic
        sequence).localSubscriptions.lookup subscriptionId
      = some { subscription with lastDeliveredSequence := sequence } := by
  simp [updateSubscriptionSequence, active, AList.lookup_insert]

theorem updateSubscriptionSequence_other {other : ByteString}
    (different : other ≠ subscriptionId) (topic : ByteString) (sequence : Nat)
    : (registry.updateSubscriptionSequence subscriptionId topic
        sequence).localSubscriptions.lookup other
      = registry.localSubscriptions.lookup other := by
  unfold updateSubscriptionSequence
  split
  · rfl
  · simp [AList.lookup_insert_ne different]

@[simp]
theorem updateSubscriptionSequence_paused (registry : PeerRegistry)
    (subscriptionId topic : ByteString) (sequence : Nat)
    : (registry.updateSubscriptionSequence subscriptionId topic
        sequence).pausedSubscriptions
      = registry.pausedSubscriptions := by
  unfold updateSubscriptionSequence
  split <;> rfl

theorem resumeSubscription_eq {paused : PausedSubscription}
    (found : registry.getPausedSubscription subscriptionId = some paused)
    (inTime : now ≤ paused.expiresAt)
    : (registry.resumeSubscription now subscriptionId).2 = some paused := by
  have recorded : registry.pausedSubscriptions.lookup subscriptionId = some paused := found
  simp [resumeSubscription, recorded, Int.not_lt.mpr inTime]

/-- The id has an active or a paused record. -/
def Knows (registry : PeerRegistry) (id : ByteString) : Prop :=
  (registry.localSubscriptions.lookup id).isSome = true
  ∨ (registry.pausedSubscriptions.lookup id).isSome = true

theorem not_knows_fresh (localNodeId id : ByteString)
    : ¬PeerRegistry.Knows { localNodeId } id := by
  simp [Knows]

theorem isSome_lookup_insert {map : AList (fun _ : ByteString => Value)} {key : ByteString}
    {value : Value} (present : ((map.insert key value).lookup id).isSome = true)
    : id = key ∨ (map.lookup id).isSome = true := by
  by_cases same : id = key
  · exact .inl same
  · exact .inr (by rwa [AList.lookup_insert_ne same] at present)

theorem isSome_lookup_erase {map : AList (fun _ : ByteString => Value)} {key : ByteString}
    (present : ((map.erase key).lookup id).isSome = true)
    : (map.lookup id).isSome = true := by
  by_cases same : id = key
  · subst id
    simp [AList.lookup_erase] at present
  · rwa [AList.lookup_erase_ne same] at present

theorem lookup_foldl_erase (ids : List ByteString) (map : AList (fun _ : ByteString => Value))
    (id : ByteString)
    : (ids.foldl (fun map id => map.erase id) map).lookup id
      = if id ∈ ids then none else map.lookup id := by
  induction ids generalizing map with
  | nil => rfl
  | cons first rest ih =>
      rw [List.foldl_cons, ih]
      by_cases later : id ∈ rest
      · simp [later]
      · by_cases same : id = first
        · subst id
          simp [AList.lookup_erase]
        · simp [later, same, AList.lookup_erase_ne same]

/-- A walk over the map that erases the keys of `dead` values. -/
theorem lookup_foldl_erase_filter {map : AList (fun _ : ByteString => Value)}
    {doomed : ByteString → Bool} {dead : Value → Bool}
    (tests : ∀ id, doomed id = (map.lookup id).any dead) (order : IterationOrder ByteString)
    (id : ByteString)
    : (((order.visit map.keys).filter doomed).foldl (fun map id => map.erase id) map).lookup id
      = (map.lookup id).filter (fun value => !dead value) := by
  simp only [lookup_foldl_erase, List.mem_filter, IterationOrder.mem_visit, tests]
  cases found : map.lookup id with
  | none => simp
  | some value =>
      have member : id ∈ map.keys := AList.lookup_isSome.mp (by simp [found])
      cases died : dead value with
      | true => simp [member, died, Option.filter_some]
      | false => simp [died, Option.filter_some]

theorem knows_of_addLocalSubscription {clientId : ByteString} {topics : List ByteString}
    {maxBufferSize : Int}
    (known
      : (registry.addLocalSubscription now subscriptionId clientId topics
          maxBufferSize).1.Knows id)
    : id = subscriptionId ∨ registry.Knows id := by
  unfold addLocalSubscription at known
  split at known
  · exact .inr known
  · rcases known with active | paused
    · exact (isSome_lookup_insert active).imp_right .inl
    · exact .inr (.inr paused)

theorem knows_of_removeLocalSubscription {pause : Bool} {ttlMs : Int}
    (known : (registry.removeLocalSubscription now subscriptionId pause ttlMs).1.Knows id)
    : registry.Knows id := by
  unfold removeLocalSubscription at known
  split at known
  · exact known
  · rename_i subscription active
    rcases known with stays | paused
    · exact .inl (isSome_lookup_erase stays)
    · dsimp only at paused
      split at paused
      · rcases isSome_lookup_insert paused with rfl | older
        · exact .inl (by simp [active])
        · exact .inr older
      · exact .inr paused

theorem knows_of_resumeSubscription
    (known : (registry.resumeSubscription now subscriptionId).1.Knows id)
    : registry.Knows id := by
  unfold resumeSubscription at known
  split at known
  · exact known
  · rename_i paused found
    split at known
    · exact known.imp_right isSome_lookup_erase
    · rcases known with active | stays
      · rcases isSome_lookup_insert active with rfl | older
        · exact .inr (by simp [found])
        · exact .inl older
      · exact .inr (isSome_lookup_erase stays)

end PeerRegistry

end NexusD.Core
