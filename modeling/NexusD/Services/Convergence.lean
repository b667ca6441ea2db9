import NexusD.Services.AntiEntropy
import NexusD.Library.ListFacts

/-! When anti-entropy comes to rest.
Once the sender leaves its subscriptions alone and what it said before has stopped arriving,
one reply that the receiver can store is enough: from then on the receiver routes to the sender
exactly the topics it is subscribed to.
-/

namespace NexusD.Services

open NexusD.Core NexusD.Library

namespace AntiEntropy

/-- From `rest` on the sender's subscriptions stay, nothing it sent before arrives any more,
and nobody else touches the receiver's record of it.
-/
def Settled (rest : AntiEntropy) (state : AntiEntropy) : Action → Prop
  | .sender (.change _) => False
  | .sender _ | .sendBeacon _ _ _ _ | .getNodeState _ _ => True
  | .hear index _ _ => rest.beacons.length ≤ index
  | .pull index => rest.replies.length ≤ index
  | .receiver call => state.receiver.Spares rest.sender.localNodeId call

instance (registry : PeerRegistry) (id : ByteString)
    : (call : PeerCall) → Decidable (registry.Spares id call)
  | .upsertPeer _ record => inferInstanceAs (Decidable (record.info.instanceUuid ≠ id))
  | .removePeer other => inferInstanceAs (Decidable (other ≠ id))
  | .updatePeerState other _ _ => inferInstanceAs (Decidable (other ≠ id))
  | .reapDeadPeers order now timeoutMs =>
      inferInstanceAs (Decidable (id ∉ registry.deadPeers order now timeoutMs))

instance (rest state : AntiEntropy) : (action : Action) → Decidable (Settled rest state action)
  | .sender (.change _) => isFalse id
  | .sender (.clearExpiredPausedSubscriptions _ _) | .sender (.getLocalTopicHash _)
  | .sender (.updateSubscriptionSequence _ _ _) | .sender (.peer _)
  | .sendBeacon _ _ _ _ | .getNodeState _ _ => isTrue trivial
  | .hear index _ _ => inferInstanceAs (Decidable (rest.beacons.length ≤ index))
  | .pull index => inferInstanceAs (Decidable (rest.replies.length ≤ index))
  | .receiver call =>
      inferInstanceAs (Decidable (state.receiver.Spares rest.sender.localNodeId call))

/-- The reply is about the topics of the registry, and names its hash. -/
structure Current (registry : PeerRegistry) (reply : NodeState) : Prop where
  instanceUuid : reply.instanceUuid = registry.localNodeId
  hash : reply.topicStateHash = registry.computeLocalTopicHash
  topics : ∀ topic, topic ∈ reply.topics ↔ topic ∈ registry.topicToSubscriptions.keys

/-- All that was sent since `rest` says the same. -/
structure AtRest (rest state : AntiEntropy) : Prop where
  named : state.sender.localNodeId = rest.sender.localNodeId
  index : state.sender.topicToSubscriptions = rest.sender.topicToSubscriptions
  fresh : state.sender.CacheFresh
  beacons
    : ∀ index beacon,
        rest.beacons.length ≤ index
        → state.beacons[index]? = some beacon
        → beacon.instanceUuid = rest.sender.localNodeId
          ∧ beacon.topicStateHash = rest.sender.computeLocalTopicHash
  replies
    : ∀ index reply,
        rest.replies.length ≤ index
        → state.replies[index]? = some reply
        → Current rest.sender reply

variable {rest state after : AntiEntropy}

theorem atRest_refl (fresh : rest.sender.CacheFresh)
    : AtRest rest rest := by
  refine ⟨rfl, rfl, fresh, ?_, ?_⟩
  · intro index beacon late found
    rw [List.getElem?_eq_none late] at found
    cases found
  · intro index reply late found
    rw [List.getElem?_eq_none late] at found
    cases found

theorem topicToSubscriptions_execute {registry : PeerRegistry} {call : RegistryCall}
    (quiet : ∀ change, call ≠ .change change)
    : (registry.execute call).topicToSubscriptions = registry.topicToSubscriptions := by
  cases call with
  | change change => exact absurd rfl (quiet change)
  | clearExpiredPausedSubscriptions order now => rfl
  | updateSubscriptionSequence subscriptionId topic sequence =>
      simp only [PeerRegistry.execute, PeerRegistry.updateSubscriptionSequence]
      split <;> rfl
  | getLocalTopicHash order =>
      simp only [PeerRegistry.execute, PeerRegistry.getLocalTopicHash]
      split <;> rfl
  | peer call => exact (registry.perform_subscriptions call).2.2.1

/-- The sender makes a call that leaves its subscriptions alone. -/
theorem AtRest.sender (atRest : AtRest rest state) {call : RegistryCall}
    (quiet : ∀ change, call ≠ .change change)
    : AtRest rest { state with sender := state.sender.execute call } :=
  ⟨(PeerRegistry.localNodeId_execute _ _).trans atRest.named,
    (topicToSubscriptions_execute quiet).trans atRest.index, atRest.fresh.execute call,
    atRest.beacons, atRest.replies⟩

theorem AtRest.getLocalTopicHash (atRest : AtRest rest state)
    (order : IterationOrder ByteString)
    : AtRest rest { state with sender := (state.sender.getLocalTopicHash order).1 } := by
  have quiet : ∀ change, RegistryCall.getLocalTopicHash order ≠ .change change :=
    fun _ same => nomatch same
  exact atRest.sender quiet

theorem AtRest.hash (atRest : AtRest rest state) (order : IterationOrder ByteString)
    : (state.sender.getLocalTopicHash order).2 = rest.sender.computeLocalTopicHash := by
  rw [atRest.fresh.getLocalTopicHash, PeerRegistry.computeLocalTopicHash,
    PeerRegistry.computeLocalTopicHash,
    atRest.index]

theorem AtRest.step {action : Action} (atRest : AtRest rest state)
    (settled : Settled rest state action) (taken : state.step action = some after)
    : AtRest rest after := by
  cases action with
  | sender call =>
      cases taken
      refine atRest.sender ?_
      intro change same
      subst same
      exact settled
  | sendBeacon agent order currentRpcIp currentRpcPort =>
      cases taken
      have moved := atRest.getLocalTopicHash order
      refine ⟨moved.named, moved.index, moved.fresh, ?_, moved.replies⟩
      intro index beacon late found
      rcases getElem?_snoc found with older | rfl
      · exact atRest.beacons index beacon late older
      · exact ⟨atRest.named, atRest.hash order⟩
  | getNodeState topicOrder hashOrder =>
      cases taken
      have moved := atRest.getLocalTopicHash hashOrder
      refine ⟨moved.named, moved.index, moved.fresh, moved.beacons, ?_⟩
      intro index reply late found
      rcases getElem?_snoc found with older | rfl
      · exact atRest.replies index reply late older
      · refine ⟨moved.named, atRest.hash hashOrder, ?_⟩
        intro topic
        simp only [getNodeState, nodeState, PeerRegistry.getLocalTopics,
          IterationOrder.mem_visit, atRest.index]
  | hear index builtAt now =>
      obtain ⟨beacon, _, rfl⟩ := Option.map_eq_some_iff.mp taken
      exact ⟨atRest.named, atRest.index, atRest.fresh, atRest.beacons, atRest.replies⟩
  | pull index =>
      obtain ⟨reply, _, rfl⟩ := Option.map_eq_some_iff.mp taken
      exact ⟨atRest.named, atRest.index, atRest.fresh, atRest.beacons, atRest.replies⟩
  | receiver call =>
      simp only [AntiEntropy.step] at taken
      split at taken <;> cases taken
      exact ⟨atRest.named, atRest.index, atRest.fresh, atRest.beacons, atRest.replies⟩

-----------------------------------------------------------------------------------------
-- The receiver's record
-----------------------------------------------------------------------------------------

/-- The receiver has stored the state of the sender at rest. -/
def Stored (rest state : AntiEntropy) : Prop :=
  ∃ peer,
    state.receiver.peers.lookup rest.sender.localNodeId = some peer
    ∧ peer.synced = true
    ∧ peer.topicStateHash = rest.sender.computeLocalTopicHash
    ∧ ∀ topic, topic ∈ peer.topics ↔ topic ∈ rest.sender.topicToSubscriptions.keys

/-- A reply of the sender at rest is stored if the receiver has a record of the sender. -/
theorem stored_of_pull {index : Nat} (atRest : AtRest rest state)
    (late : rest.replies.length ≤ index)
    (known : (state.receiver.peers.lookup rest.sender.localNodeId).isSome = true)
    (taken : state.step (.pull index) = some after)
    : Stored rest after := by
  obtain ⟨reply, arrived, rfl⟩ := Option.map_eq_some_iff.mp taken
  obtain ⟨uuid, hash, topics⟩ := atRest.replies index reply late arrived
  obtain ⟨peer, found⟩ := Option.isSome_iff_exists.mp known
  have updated
    : (state.receiver.perform
        (.updatePeerState reply.instanceUuid reply.topics reply.topicStateHash)).peers.lookup
        rest.sender.localNodeId
      = some
          { peer with
            topics := reply.topics
            topicStateHash := reply.topicStateHash
            synced := true } := by
    simp only [PeerRegistry.peers_perform, PeerRegistry.update, PeerRegistry.recordPeerState,
      uuid, found, AList.lookup_insert]
  exact ⟨_, updated, rfl, hash, topics⟩

/-- What arrives from a sender at rest does not change the record. -/
theorem Stored.step {action : Action} (stored : Stored rest state) (atRest : AtRest rest state)
    (settled : Settled rest state action) (taken : state.step action = some after)
    : Stored rest after := by
  obtain ⟨peer, found, synced, hash, topics⟩ := stored
  cases action with
  | sender | sendBeacon | getNodeState =>
      cases taken
      exact ⟨peer, found, synced, hash, topics⟩
  | hear index builtAt now =>
      obtain ⟨beacon, arrived, rfl⟩ := Option.map_eq_some_iff.mp taken
      obtain ⟨uuid, same⟩ := atRest.beacons index beacon settled arrived
      have heard
        : (state.receiver.perform (.upsertPeer now (beacon.record builtAt))).peers.lookup
            rest.sender.localNodeId
          = some
              { peer with
                rpcIp := (beacon.record builtAt).info.rpcIp
                rpcPort := (beacon.record builtAt).info.rpcPort
                topicStateHash := beacon.topicStateHash
                status := .alive
                lastSeen := now } := by
        rw [← uuid] at found ⊢
        simp [PeerRegistry.perform, PeerRegistry.upsertPeer, Beacon.record, found, hash, same]
      exact ⟨_, heard, synced, same, topics⟩
  | pull index =>
      exact stored_of_pull atRest settled (by simp [found]) taken
  | receiver call =>
      simp only [AntiEntropy.step] at taken
      split at taken <;> cases taken
      refine ⟨peer, ?_, synced, hash, topics⟩
      rw [PeerRegistry.peers_perform, PeerRegistry.lookup_update settled, found]

theorem routesAgree_of_exec {senderId receiverId : ByteString} {actions : List Action}
    (run : exec step (start senderId receiverId) actions = some state)
    : state.receiver.RoutesAgree := by
  refine exec_always (fun state => state.receiver.RoutesAgree)
    (PeerRegistry.routesAgree_fresh receiverId) ?_ run
  intro state action after agree taken
  cases action with
  | sender | sendBeacon | getNodeState =>
      cases taken
      exact agree
  | hear index builtAt now =>
      obtain ⟨beacon, _, rfl⟩ := Option.map_eq_some_iff.mp taken
      exact agree.perform (.upsertPeer now (beacon.record builtAt))
  | pull index =>
      obtain ⟨reply, _, rfl⟩ := Option.map_eq_some_iff.mp taken
      exact agree.perform
        (.updatePeerState reply.instanceUuid reply.topics reply.topicStateHash)
  | receiver call =>
      simp only [step] at taken
      split at taken <;> cases taken
      exact agree.perform call

theorem localNodeId_of_exec {senderId receiverId : ByteString} {actions : List Action}
    (run : exec step (start senderId receiverId) actions = some state)
    : state.sender.localNodeId = senderId := by
  have senderRun := sender_of_exec run
  refine exec_always (fun registry : PeerRegistry => registry.localNodeId = senderId) rfl ?_
    senderRun
  intro registry call after named taken
  cases taken
  exact (registry.localNodeId_execute call).trans named

/-- After one reply that finds a record of the sender, the receiver routes to the sender
exactly what it is subscribed to, for as long as it leaves its subscriptions alone.
-/
theorem routes_iff_subscribed_of_settled {senderId receiverId : ByteString}
    {earlier first second : List Action} {rest before state : AntiEntropy} {index : Nat}
    (run : exec step (start senderId receiverId) earlier = some rest)
    (once : RegistryCall.AddsOnce (earlier.filterMap senderCall))
    (reached : exec step rest first = some before)
    (known : (before.receiver.getPeer senderId).isSome = true)
    (onward : exec step rest (first ++ .pull index :: second) = some state)
    (settled : Along step rest (Settled rest) (first ++ .pull index :: second))
    (topic : ByteString)
    : state.receiver.Routes topic senderId ↔ rest.sender.Subscribed topic := by
  have senderRun := sender_of_exec run
  have sound := (PeerRegistry.sound_of_exec senderRun once).1
  have named := localNodeId_of_exec run
  have atRest : AtRest rest before :=
    exec_invariant (Settled rest) (AtRest rest)
      (atRest_refl (PeerRegistry.cacheFresh_of_exec senderRun))
      (fun atRest condition taken => atRest.step condition taken) reached
      (settled.of_prefix (List.prefix_append _ _))
  obtain ⟨pulled, taken, reachedToo⟩ := exec_step_of_split onward reached
  have late : Settled rest before (.pull index) :=
    settled first (.pull index) second before rfl reached
  have stored : Stored rest pulled := stored_of_pull atRest late (named ▸ known) taken
  have later : exec step pulled second = some state := by
    rwa [List.append_cons, exec_append, reachedToo, Option.bind_some] at onward
  obtain ⟨_, peer, found, synced, _, topics⟩ :=
    exec_invariant (Settled rest) (fun state => AtRest rest state ∧ Stored rest state)
      ⟨atRest.step late taken, stored⟩
      (fun both condition taken =>
        ⟨both.1.step condition taken, both.2.step both.1 condition taken⟩)
      later ((List.append_cons .. ▸ settled).of_suffix reachedToo)
  have whole : exec step (start senderId receiverId)
      (earlier ++ (first ++ .pull index :: second)) = some state := by
    rw [exec_append, run, Option.bind_some, onward]
  rw [(routesAgree_of_exec whole).routes_iff_of_synced (named ▸ found) synced, topics,
    sound.index.mem_keys_iff]

/-- A beacon and a reply of a sender with one subscription, and a round of reaping. -/
theorem routes_iff_subscribed_oneReply
    : ∃ rest state,
        exec step (start [83] [82]) [.sender (.change (.add 0 [49] [] [[97]] 0))] = some rest
        ∧ exec step rest
            [ .sendBeacon ⟨[], true⟩ .asStored [] 0, .hear 0 0 0,
              .getNodeState .asStored .asStored, .pull 0, .hear 0 1 1,
              .receiver (.reapDeadPeers .asStored 2 5000) ]
          = some state
        ∧ (state.receiver.Routes [97] [83] ↔ rest.sender.Subscribed [97]) := by
  refine ⟨_, _, rfl, rfl, ?_⟩
  exact @routes_iff_subscribed_of_settled [83] [82]
    [.sender (.change (.add 0 [49] [] [[97]] 0))]
    [.sendBeacon ⟨[], true⟩ .asStored [] 0, .hear 0 0 0, .getNodeState .asStored .asStored]
    [.hear 0 1 1, .receiver (.reapDeadPeers .asStored 2 5000)] _ _ _ 0 rfl
    (by unfold RegistryCall.AddsOnce; decide) rfl (by decide +kernel) rfl (by decide +kernel)
    [97]

end AntiEntropy

end NexusD.Services
