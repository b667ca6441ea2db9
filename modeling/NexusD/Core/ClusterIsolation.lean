import NexusD.Core.DiscoveryAgent
import NexusD.Library.Noninterference

/-! Isolation of clusters that share a multicast group.
A node hears the datagrams of every cluster on its group, and its own. Those it does not take
up leave no trace, neither in the registry nor in what the node goes on to do.
-/

namespace NexusD.Core

open NexusD.Library

/-- What reaches a node: datagrams, with the clock readings they are processed at, and the
calls that do not come from beacons.
-/
inductive NodeEvent where
  | datagram (bytes : ByteString) (builtAt now : TimePoint)
  | updatePeerState (instanceUuid : ByteString) (topics : List ByteString) (hash : UInt64)
  | reapDeadPeers (order : IterationOrder ByteString) (now : TimePoint) (timeoutMs : Int)
  | removePeer (instanceUuid : ByteString)

/-- A registry and what its beacons have led to so far. -/
structure ObservedRegistry where
  registry : PeerRegistry
  /-- the results of `upsertPeer` -/
  upserts : List Bool := []
  /-- the peers handed to the sync callback -/
  synced : List PeerInfo := []

namespace DiscoveryAgent

section Parsed

variable (agent : DiscoveryAgent) (parse : ByteString → Option Beacon)

/-- The result of `upsertPeer`, if the datagram gets that far. -/
def upsertResult (registry : PeerRegistry) (builtAt now : TimePoint)
    (received : Option Beacon)
    : Option Bool :=
  (agent.accepted registry received).map (fun beacon =>
    (registry.upsertPeer now (beacon.record builtAt).info).2)

def observe (state : ObservedRegistry) : NodeEvent → Option ObservedRegistry
  | .datagram bytes builtAt now =>
      let processed := agent.processBeacon state.registry builtAt now (parse bytes)
      some
        {
          registry := processed.1
          upserts :=
            state.upserts
              ++ (agent.upsertResult state.registry builtAt now (parse bytes)).toList
          synced := state.synced ++ processed.2.toList
        }
  | .updatePeerState id topics hash =>
      some { state with registry := state.registry.perform (.updatePeerState id topics hash) }
  | .reapDeadPeers order now timeoutMs =>
      some { state with registry := state.registry.perform (.reapDeadPeers order now timeoutMs) }
  | .removePeer id => some { state with registry := state.registry.perform (.removePeer id) }

/-- The event is no datagram, or one that parses, of this cluster and of another node. -/
def concerns (localNodeId : ByteString) : NodeEvent → Bool
  | .datagram bytes _ _ =>
      match parse bytes with
      | none => false
      | some beacon =>
          decide (beacon.clusterId = agent.clusterId)
          && decide (beacon.instanceUuid ≠ localNodeId)
  | .updatePeerState _ _ _ | .reapDeadPeers _ _ _ | .removePeer _ => true

/-- Every stored peer is another node of the cluster. -/
def OnlyCluster (localNodeId : ByteString) (state : ObservedRegistry) : Prop :=
  ∀ id peer,
    state.registry.peers.lookup id = some peer
    → peer.clusterId = agent.clusterId
      ∧ peer.instanceUuid = id
      ∧ peer.instanceUuid ≠ localNodeId

end Parsed

variable {agent : DiscoveryAgent} {parse : ByteString → Option Beacon}

theorem accepted_eq_some {registry : PeerRegistry} {received : Option Beacon} {beacon : Beacon}
    (accepted : agent.accepted registry received = some beacon)
    : beacon.instanceUuid ≠ registry.localNodeId ∧ beacon.clusterId = agent.clusterId := by
  cases received with
  | none => cases accepted
  | some heard =>
      simp only [DiscoveryAgent.accepted] at accepted
      split at accepted
      · cases accepted
      · rename_i other
        split at accepted
        · cases accepted
        · rename_i same
          cases accepted
          exact ⟨other, not_not.mp same⟩

theorem accepted_of_not_concerns {registry : PeerRegistry} {bytes : ByteString}
    {builtAt now : TimePoint}
    (foreign : agent.concerns parse registry.localNodeId (.datagram bytes builtAt now) = false)
    : agent.accepted registry (parse bytes) = none := by
  simp only [concerns] at foreign
  cases parsed : parse bytes with
  | none => rfl
  | some beacon =>
      rw [parsed] at foreign
      simp only [DiscoveryAgent.accepted]
      split
      · rfl
      · rename_i other
        simp only [other, not_false_eq_true, ne_eq, decide_true, Bool.and_true,
          decide_eq_false_iff_not] at foreign
        rw [if_pos foreign]

/-- What an event does to the registry: nothing, or a call; a beacon is one of the cluster. -/
theorem observe_registry {state after : ObservedRegistry} {event : NodeEvent}
    (taken : agent.observe parse state event = some after)
    : after.registry = state.registry
      ∨ ∃ call,
          after.registry = state.registry.perform call
          ∧ ∀ now record,
              call = .upsertPeer now record
              → record.info.clusterId = agent.clusterId
                ∧ record.info.instanceUuid ≠ state.registry.localNodeId := by
  cases event with
  | datagram bytes builtAt now =>
      cases taken
      cases accepted : agent.accepted state.registry (parse bytes) with
      | none => exact .inl (by simp [processBeacon, accepted])
      | some beacon =>
          refine .inr ⟨.upsertPeer now (beacon.record builtAt), ?_, ?_⟩
          · simp [processBeacon, accepted, PeerRegistry.perform]
          · intro now record is
            cases is
            exact (accepted_eq_some accepted).symm
  | updatePeerState id topics hash =>
      cases taken
      exact .inr ⟨.updatePeerState id topics hash, rfl, by simp⟩
  | reapDeadPeers order now timeoutMs =>
      cases taken
      exact .inr ⟨.reapDeadPeers order now timeoutMs, rfl, by simp⟩
  | removePeer id =>
      cases taken
      exact .inr ⟨.removePeer id, rfl, by simp⟩

theorem total_observe (state : ObservedRegistry) (event : NodeEvent)
    : ∃ after, agent.observe parse state event = some after := by
  cases event <;> exact ⟨_, rfl⟩

theorem localNodeId_observe {state after : ObservedRegistry} {event : NodeEvent}
    (taken : agent.observe parse state event = some after)
    : after.registry.localNodeId = state.registry.localNodeId := by
  rcases observe_registry taken with same | ⟨call, performed, _⟩
  · rw [same]
  · rw [performed, PeerRegistry.localNodeId_perform]

theorem observe_of_not_concerns {state : ObservedRegistry} {event : NodeEvent}
    (foreign : agent.concerns parse state.registry.localNodeId event = false)
    : agent.observe parse state event = some state := by
  cases event with
  | datagram bytes builtAt now =>
      have ignored := accepted_of_not_concerns foreign
      simp [observe, processBeacon, upsertResult, ignored]
  | updatePeerState id topics hash => cases foreign
  | reapDeadPeers order now timeoutMs => cases foreign
  | removePeer id => cases foreign

theorem OnlyCluster.observe {localNodeId : ByteString} {state after : ObservedRegistry}
    {event : NodeEvent} (only : agent.OnlyCluster localNodeId state)
    (here : state.registry.localNodeId = localNodeId)
    (taken : agent.observe parse state event = some after)
    : agent.OnlyCluster localNodeId after := by
  intro id peer found
  rcases observe_registry taken with same | ⟨call, performed, beacon⟩
  · rw [same] at found
    exact only id peer found
  · rw [performed] at found
    rcases PeerRegistry.stored_of_perform found with
      ⟨before, stored, continues⟩ | ⟨now, record, rfl, rfl, rfl⟩
        | ⟨topics, hash, before, rfl, stored, rfl⟩
    · rw [continues.instanceUuid, continues.clusterId]
      exact only id before stored
    · obtain ⟨cluster, other⟩ := beacon now record rfl
      exact ⟨cluster, rfl, here ▸ other⟩
    · exact only id before stored

/-- Leaving out the datagrams that do not concern the node changes neither its registry nor
what it asks for, and every peer it ever stores is another node of its cluster.
-/
theorem clusterIsolation (agent : DiscoveryAgent) (parse : ByteString → Option Beacon)
    (localNodeId : ByteString) (events : List NodeEvent)
    : (∃ final,
        exec (agent.observe parse) { registry := { localNodeId } } events = some final
        ∧ exec (agent.observe parse) { registry := { localNodeId } }
            (events.filter (agent.concerns parse localNodeId))
          = some final)
      ∧ Throughout (agent.observe parse) { registry := { localNodeId } }
          (agent.OnlyCluster localNodeId) events := by
  constructor
  · obtain ⟨final, run⟩ := exec_total total_observe { registry := { localNodeId } } events
    refine ⟨final, run, ?_⟩
    rw [← run]
    refine exec_filter _ (fun state => state.registry.localNodeId = localNodeId) rfl ?_ ?_ _
    · intro state event after here taken
      exact (localNodeId_observe taken).trans here
    · intro state event here foreign
      exact observe_of_not_concerns (here.symm ▸ foreign)
  · intro early state _ reached
    refine (exec_always
      (fun state =>
        agent.OnlyCluster localNodeId state ∧ state.registry.localNodeId = localNodeId)
      ⟨?_, rfl⟩ ?_ reached).1
    · intro id peer found
      simp at found
    · intro state event after both taken
      exact ⟨both.1.observe both.2 taken, (localNodeId_observe taken).trans both.2⟩

end DiscoveryAgent

end NexusD.Core
