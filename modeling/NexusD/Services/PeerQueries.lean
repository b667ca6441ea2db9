import NexusD.Core.FailureDetector
import NexusD.Core.TextConversion

/-! `GetPeers`: what a node tells about the peers it knows.
A record is made of the beacons heard of the peer and of the state pulled from it. What a
response says can therefore be told from the history of the receiver thread alone.
-/

namespace NexusD.Core

open NexusD.Library

end NexusD.Core

namespace NexusD.Services

open NexusD.Core NexusD.Library

/-- The latest beacon of the peer, the hash pulled since, and the topics last pulled. -/
structure PeerNews where
  heard : Option (Arrival × Beacon) := none
  pulledHash : Option UInt64 := none
  pulledTopics : Option (List ByteString) := none

namespace PeerNews

def hear (news : PeerNews) (agent : DiscoveryAgent) (id : ByteString) (arrival : Arrival)
    : PeerNews :=
  match arrival.received with
  | none => news
  | some beacon =>
      if beacon.instanceUuid = id ∧ beacon.clusterId = agent.clusterId then
        { news with heard := some (arrival, beacon), pulledHash := none }
      else
        news

def after (agent : DiscoveryAgent) (id : ByteString) (news : PeerNews)
    : ReceiverLoop.Action → PeerNews
  | .receiveFrom (some arrival) => news.hear agent id arrival
  | .updatePeerState other topics hash =>
      if other = id then { news with pulledHash := some hash, pulledTopics := some topics }
      else news
  | .receiveFrom none | .turn _ _ _ => news

/-- The record says what the news are. -/
structure Tells (news : PeerNews) (peer : PeerInfo) : Prop where
  heard
    : ∃ arrival beacon,
        news.heard = some (arrival, beacon)
        ∧ peer.rpcIp = beacon.rpcIp
        ∧ peer.rpcPort = (beacon.rpcPort % 65536).toNat
        ∧ arrival.builtAt ≤ peer.lastSeen
        ∧ peer.lastSeen ≤ arrival.now
        ∧ peer.topicStateHash = news.pulledHash.getD beacon.topicStateHash
  topics : peer.topics = [] ∨ news.pulledTopics = some peer.topics

end PeerNews

/-- A record of the registry, as the agent writes it. -/
structure Discovered (agent : DiscoveryAgent) (localNodeId id : ByteString) (peer : PeerInfo)
    : Prop where
  uuid : peer.instanceUuid = id
  other : id ≠ localNodeId
  cluster : peer.clusterId = agent.clusterId
  status : peer.status = .alive

/-- Every record is one of another node of the cluster, and says what the news are. -/
def PeersTell (agent : DiscoveryAgent) (localNodeId : ByteString)
    (news : ByteString → PeerNews) (registry : PeerRegistry)
    : Prop :=
  ∀ id peer,
    registry.peers.lookup id = some peer
    → Discovered agent localNodeId id peer ∧ (news id).Tells peer

section Steps

variable {agent : DiscoveryAgent} {localNodeId : ByteString} {news : ByteString → PeerNews}
  {registry : PeerRegistry}

/-- The record `upsertPeer` leaves is the older one with what the beacon says. -/
theorem Discovered.upsertPeer
    (tell : PeersTell agent localNodeId news registry) {arrival : Arrival} {beacon : Beacon}
    (read : arrival.builtAt ≤ arrival.now) (other : beacon.instanceUuid ≠ localNodeId)
    (cluster : beacon.clusterId = agent.clusterId) {peer : PeerInfo}
    (found
      : (registry.upsertPeer arrival.now (beacon.record arrival.builtAt).info).1.peers.lookup
          beacon.instanceUuid
        = some peer)
    : Discovered agent localNodeId beacon.instanceUuid peer
      ∧ PeerNews.Tells
          { news beacon.instanceUuid with heard := some (arrival, beacon), pulledHash := none }
          peer := by
  simp only [PeerRegistry.upsertPeer, Beacon.record] at found
  split at found
  · rw [AList.lookup_insert, Option.some.injEq] at found
    subst found
    exact ⟨⟨rfl, other, cluster, rfl⟩,
      ⟨arrival, beacon, rfl, rfl, rfl, le_refl _, read, rfl⟩, .inl rfl⟩
  · rename_i before was
    obtain ⟨known, told⟩ := tell _ _ was
    rw [AList.lookup_insert, Option.some.injEq] at found
    subst found
    exact ⟨⟨known.uuid, other, known.cluster, rfl⟩,
      ⟨arrival, beacon, rfl, rfl, rfl, read, le_refl _, rfl⟩, told.topics⟩

theorem PeersTell.processBeacon (tell : PeersTell agent localNodeId news registry)
    (named : registry.localNodeId = localNodeId) {arrival : Arrival}
    (read : arrival.builtAt ≤ arrival.now)
    : PeersTell agent localNodeId (fun id => (news id).hear agent id arrival)
        (agent.processBeacon registry arrival.builtAt arrival.now arrival.received).1 := by
  intro id peer found
  change Discovered agent localNodeId id peer ∧ ((news id).hear agent id arrival).Tells peer
  cases accepts : agent.accepted registry arrival.received with
  | none =>
      simp only [DiscoveryAgent.processBeacon, accepts] at found
      obtain ⟨known, told⟩ := tell id peer found
      refine ⟨known, ?_⟩
      unfold PeerNews.hear
      split
      · exact told
      · rename_i beacon received
        rw [if_neg]
        · exact told
        · intro both
          have foreign : beacon.instanceUuid ≠ registry.localNodeId := by
            rw [both.1, named]
            exact known.other
          simp [DiscoveryAgent.accepted, received, foreign, both.2] at accepts
  | some beacon =>
      have received := ReceiverLoop.received_of_accepted accepts
      obtain ⟨other, cluster⟩ := DiscoveryAgent.accepted_eq_some accepts
      simp only [DiscoveryAgent.processBeacon, accepts] at found
      simp only [PeerNews.hear, received]
      by_cases same : beacon.instanceUuid = id
      · subst same
        rw [if_pos ⟨rfl, cluster⟩]
        exact Discovered.upsertPeer tell read (named ▸ other) cluster found
      · rw [if_neg (fun both => same both.1)]
        rw [PeerRegistry.lookup_upsertPeer_ne same] at found
        exact tell id peer found

theorem PeersTell.reapDeadPeers (tell : PeersTell agent localNodeId news registry)
    (order : IterationOrder ByteString) (reapAt : TimePoint) (timeoutMs : Int)
    : PeersTell agent localNodeId news (registry.reapDeadPeers order reapAt timeoutMs).1 := by
  intro id peer found
  have same := registry.peers_perform (.reapDeadPeers order reapAt timeoutMs)
  simp only [PeerRegistry.perform, PeerRegistry.update, PeerRegistry.erasePeers] at same
  rw [same, PeerRegistry.lookup_foldl_erase] at found
  split at found
  · cases found
  · exact tell id peer found

theorem PeersTell.updatePeerState (tell : PeersTell agent localNodeId news registry)
    (other : ByteString) (topics : List ByteString) (hash : UInt64)
    : PeersTell agent localNodeId
        (fun id => (news id).after agent id (.updatePeerState other topics hash))
        (registry.updatePeerState other topics hash) := by
  intro id peer found
  have same := registry.peers_perform (.updatePeerState other topics hash)
  simp only [PeerRegistry.perform, PeerRegistry.update] at same
  rw [same] at found
  simp only [PeerNews.after]
  by_cases is : other = id
  · subst is
    rw [if_pos rfl]
    simp only [PeerRegistry.recordPeerState] at found
    split at found
    · rename_i missing
      rw [missing] at found
      cases found
    · rename_i before was
      obtain ⟨known, told⟩ := tell _ _ was
      rw [AList.lookup_insert, Option.some.injEq] at found
      subst found
      obtain ⟨arrival, beacon, heard, ip, port, built, read, _⟩ := told.heard
      exact ⟨⟨known.uuid, known.other, known.cluster, known.status⟩,
        ⟨arrival, beacon, heard, ip, port, built, read, rfl⟩, .inr rfl⟩
  · rw [if_neg is]
    have spares : registry.Spares id (.updatePeerState other topics hash) := is
    exact tell id peer ((PeerRegistry.lookup_update spares).symm.trans found)

theorem PeersTell.step {timeoutMs : Int} {state after : ReceiverLoop}
    {action : ReceiverLoop.Action} (tell : PeersTell agent localNodeId news state.registry)
    (named : state.registry.localNodeId = localNodeId)
    (taken : state.step agent timeoutMs action = some after)
    : PeersTell agent localNodeId (fun id => (news id).after agent id action)
        after.registry := by
  cases action with
  | receiveFrom arrival =>
      rcases arrival with _ | arrival
      · simp only [ReceiverLoop.step] at taken
        split at taken <;> cases taken
        exact tell
      · simp only [ReceiverLoop.step] at taken
        split at taken <;> cases taken
        rename_i guard
        exact tell.processBeacon named guard.2.2.1
  | turn now reapAt order =>
      simp only [ReceiverLoop.step] at taken
      split at taken
      · split at taken <;> cases taken
        · exact tell.reapDeadPeers order reapAt timeoutMs
        · exact tell
      · cases taken
  | updatePeerState id topics hash =>
      cases taken
      exact tell.updatePeerState id topics hash

end Steps

end NexusD.Services
