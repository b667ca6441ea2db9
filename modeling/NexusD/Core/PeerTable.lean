import NexusD.Core.TopicIndex
import NexusD.Library.Execution

/-! The remote peers and the routes to them.
`peers_` and `routingTable_` have a lock each. An operation changes `peers_` under the first
and then, under both, builds the routes anew; `upsertPeer` leaves the routes alone.
-/

namespace NexusD.Core.PeerRegistry

open NexusD.Library

/-- `upsertPeer`; the result says whether the peer's state has to be pulled. -/
def upsertPeer (registry : PeerRegistry) (now : TimePoint) (info : PeerInfo)
    : PeerRegistry × Bool :=
  match registry.peers.lookup info.instanceUuid with
  | none => ({ registry with peers := registry.peers.insert info.instanceUuid info }, true)
  | some peer =>
      let hashChanged := peer.topicStateHash != info.topicStateHash
      let updated :=
        { peer with
          synced := if hashChanged then false else peer.synced
          rpcIp := info.rpcIp
          rpcPort := info.rpcPort
          topicStateHash := info.topicStateHash
          status := .alive
          lastSeen := now }
      ({ registry with peers := registry.peers.insert info.instanceUuid updated }, hashChanged)

def erasePeer (registry : PeerRegistry) (instanceUuid : ByteString) : PeerRegistry :=
  { registry with peers := registry.peers.erase instanceUuid }

def recordPeerState (registry : PeerRegistry) (instanceUuid : ByteString)
    (topics : List ByteString) (hash : UInt64)
    : PeerRegistry :=
  match registry.peers.lookup instanceUuid with
  | none => registry
  | some peer =>
      { registry with
        peers :=
          registry.peers.insert instanceUuid
            { peer with topics, topicStateHash := hash, synced := true } }

/-- `duration_cast<milliseconds>(now - last_seen) > timeout` -/
def timedOut (now : TimePoint) (timeoutMs : Int) (peer : PeerInfo) : Bool :=
  decide (timeoutMs < TimePoint.toMilliseconds (int64 (now - peer.lastSeen)))

def deadPeers (registry : PeerRegistry) (order : IterationOrder ByteString) (now : TimePoint)
    (timeoutMs : Int)
    : List ByteString :=
  (order.visit registry.peers.keys).filter (fun id =>
    match registry.peers.lookup id with
    | none => false
    | some peer => timedOut now timeoutMs peer)

def erasePeers (registry : PeerRegistry) (ids : List ByteString) : PeerRegistry :=
  { registry with peers := ids.foldl (fun peers id => peers.erase id) registry.peers }

-----------------------------------------------------------------------------------------
-- The routes
-----------------------------------------------------------------------------------------

/-- The routes to one peer, if it is synced. -/
def addRoutes (table : AList (fun _ : ByteString => List ByteString)) (peerId : ByteString)
    (peer : PeerInfo)
    : AList (fun _ : ByteString => List ByteString) :=
  if peer.synced then peer.topics.foldl (indexTopic peerId) table else table

def rebuildRoutingTable (registry : PeerRegistry) : PeerRegistry :=
  { registry with
    routingTable :=
      registry.peers.entries.foldl (fun table entry => addRoutes table entry.1 entry.2) ∅ }

def removePeer (registry : PeerRegistry) (instanceUuid : ByteString) : PeerRegistry :=
  (registry.erasePeer instanceUuid).rebuildRoutingTable

def updatePeerState (registry : PeerRegistry) (instanceUuid : ByteString)
    (topics : List ByteString) (hash : UInt64)
    : PeerRegistry :=
  (registry.recordPeerState instanceUuid topics hash).rebuildRoutingTable

def reapDeadPeers (registry : PeerRegistry) (order : IterationOrder ByteString)
    (now : TimePoint) (timeoutMs : Int)
    : PeerRegistry × List ByteString :=
  let dead := registry.deadPeers order now timeoutMs
  let reaped := registry.erasePeers dead
  (if dead.isEmpty then reaped else reaped.rebuildRoutingTable, dead)

/-- The peer is listed under the topic. -/
def Routes (registry : PeerRegistry) (topic id : ByteString) : Prop :=
  Indexed registry.routingTable topic id

variable {registry : PeerRegistry} {topic id : ByteString}
  {table : AList (fun _ : ByteString => List ByteString)}

theorem mem_getRemoteSubscribers {order : IterationOrder ByteString}
    : id ∈ registry.getRemoteSubscribers order topic ↔ registry.Routes topic id := by
  rw [getRemoteSubscribers, IterationOrder.mem_visit, mem_getD_lookup_iff, Routes]

/-- Every route leads to a peer with the topic, every synced peer has its routes, and no topic
is left with an empty set.
-/
structure RoutesAgree (registry : PeerRegistry) : Prop where
  proper : ProperIndex registry.routingTable
  sound
    : ∀ topic id,
        registry.Routes topic id
        → ∃ peer, registry.peers.lookup id = some peer ∧ topic ∈ peer.topics
  complete
    : ∀ topic id peer,
        registry.peers.lookup id = some peer
        → peer.synced = true
        → topic ∈ peer.topics
        → registry.Routes topic id

theorem RoutesAgree.routes_iff_of_synced (agree : registry.RoutesAgree) {peer : PeerInfo}
    (found : registry.peers.lookup id = some peer) (synced : peer.synced = true)
    : registry.Routes topic id ↔ topic ∈ peer.topics := by
  constructor
  · intro listed
    obtain ⟨same, stored, covers⟩ := agree.sound topic id listed
    rw [found, Option.some.injEq] at stored
    subst stored
    exact covers
  · exact agree.complete topic id peer found synced

theorem indexed_addRoutes {peerId : ByteString} {peer : PeerInfo}
    : Indexed (addRoutes table peerId peer) topic id
      ↔ Indexed table topic id ∨ peer.synced = true ∧ topic ∈ peer.topics ∧ id = peerId := by
  unfold addRoutes
  split
  · rename_i synced
    rw [indexed_foldl_indexTopic]
    simp [synced]
  · rename_i unsynced
    simp [unsynced]

theorem indexed_foldl_addRoutes {entries : List (Sigma (fun _ : ByteString => PeerInfo))}
    : Indexed (entries.foldl (fun table entry => addRoutes table entry.1 entry.2) table) topic
        id
      ↔ Indexed table topic id
        ∨ ∃ peer, ⟨id, peer⟩ ∈ entries ∧ peer.synced = true ∧ topic ∈ peer.topics := by
  induction entries generalizing table with
  | nil => simp
  | cons entry rest ih =>
      rw [List.foldl_cons, ih, indexed_addRoutes, or_assoc]
      refine or_congr_right ?_
      constructor
      · intro either
        rcases either with ⟨synced, covers, rfl⟩ | ⟨peer, member, facts⟩
        · exact ⟨entry.2, List.mem_cons_self, synced, covers⟩
        · exact ⟨peer, List.mem_cons_of_mem _ member, facts⟩
      · intro routed
        rcases routed with ⟨peer, member, synced, covers⟩
        rcases List.mem_cons.mp member with rfl | later
        · exact .inl ⟨synced, covers, rfl⟩
        · exact .inr ⟨peer, later, synced, covers⟩

theorem ProperIndex.addRoutes (proper : ProperIndex table) (peerId : ByteString)
    (peer : PeerInfo)
    : ProperIndex (PeerRegistry.addRoutes table peerId peer) := by
  unfold PeerRegistry.addRoutes
  split
  · exact proper.foldl_indexTopic _
  · exact proper

theorem ProperIndex.foldl_addRoutes (proper : ProperIndex table)
    (entries : List (Sigma (fun _ : ByteString => PeerInfo)))
    : ProperIndex
        (entries.foldl (fun table entry => PeerRegistry.addRoutes table entry.1 entry.2)
          table) := by
  induction entries generalizing table with
  | nil => exact proper
  | cons entry rest ih => exact ih (proper.addRoutes entry.1 entry.2)

/-- A rebuilt table has exactly the routes of the synced peers. -/
theorem routes_rebuildRoutingTable
    : registry.rebuildRoutingTable.Routes topic id
      ↔ ∃ peer,
          registry.peers.lookup id = some peer
          ∧ peer.synced = true
          ∧ topic ∈ peer.topics := by
  rw [Routes, rebuildRoutingTable, indexed_foldl_addRoutes]
  simp [Indexed, AList.mem_lookup_iff, ← Option.mem_def]

theorem routesAgree_rebuildRoutingTable (registry : PeerRegistry)
    : registry.rebuildRoutingTable.RoutesAgree where
  proper := properIndex_empty.foldl_addRoutes _
  sound topic id routed := by
    obtain ⟨peer, found, _, covers⟩ := routes_rebuildRoutingTable.mp routed
    exact ⟨peer, found, covers⟩
  complete topic id peer found synced covers :=
    routes_rebuildRoutingTable.mpr ⟨peer, found, synced, covers⟩

end NexusD.Core.PeerRegistry

namespace NexusD.Core

open NexusD.Library

-----------------------------------------------------------------------------------------
-- Calls one after the other
-----------------------------------------------------------------------------------------

/-- A record as it is built from a beacon. -/
structure BeaconRecord where
  info : PeerInfo
  unsynced : info.synced = false
  topicless : info.topics = []

inductive PeerCall where
  | upsertPeer (now : TimePoint) (record : BeaconRecord)
  | removePeer (instanceUuid : ByteString)
  | updatePeerState (instanceUuid : ByteString) (topics : List ByteString) (hash : UInt64)
  | reapDeadPeers (order : IterationOrder ByteString) (now : TimePoint) (timeoutMs : Int)

namespace PeerRegistry

def perform (registry : PeerRegistry) : PeerCall → PeerRegistry
  | .upsertPeer now record => (registry.upsertPeer now record.info).1
  | .removePeer id => registry.removePeer id
  | .updatePeerState id topics hash => registry.updatePeerState id topics hash
  | .reapDeadPeers order now timeoutMs => (registry.reapDeadPeers order now timeoutMs).1

/-- What the call does under the peers' lock. -/
def update (registry : PeerRegistry) : PeerCall → PeerRegistry
  | .upsertPeer now record => (registry.upsertPeer now record.info).1
  | .removePeer id => registry.erasePeer id
  | .updatePeerState id topics hash => registry.recordPeerState id topics hash
  | .reapDeadPeers order now timeoutMs =>
      registry.erasePeers (registry.deadPeers order now timeoutMs)

/-- The call goes on to build the routes anew. -/
def rebuilds (registry : PeerRegistry) : PeerCall → Bool
  | .upsertPeer _ _ => false
  | .removePeer _ | .updatePeerState _ _ _ => true
  | .reapDeadPeers order now timeoutMs => !(registry.deadPeers order now timeoutMs).isEmpty

variable {registry : PeerRegistry} {call : PeerCall} {id : ByteString}

theorem perform_of_rebuilds (rebuilds : registry.rebuilds call = true)
    : registry.perform call = (registry.update call).rebuildRoutingTable := by
  cases call with
  | upsertPeer now record => cases rebuilds
  | removePeer id => rfl
  | updatePeerState id topics hash => rfl
  | reapDeadPeers order now timeoutMs =>
      simp only [PeerRegistry.rebuilds, Bool.not_eq_true'] at rebuilds
      simp [perform, reapDeadPeers, update, rebuilds]

theorem perform_of_not_rebuilds (quiet : registry.rebuilds call = false)
    : registry.perform call = registry.update call := by
  cases call with
  | upsertPeer now record => rfl
  | removePeer id => cases quiet
  | updatePeerState id topics hash => cases quiet
  | reapDeadPeers order now timeoutMs =>
      simp only [PeerRegistry.rebuilds, Bool.not_eq_false'] at quiet
      simp [perform, reapDeadPeers, update, quiet]

theorem peers_perform (registry : PeerRegistry) (call : PeerCall)
    : (registry.perform call).peers = (registry.update call).peers := by
  cases rebuilt : registry.rebuilds call with
  | true =>
      rw [perform_of_rebuilds rebuilt]
      rfl
  | false => rw [perform_of_not_rebuilds rebuilt]

theorem localNodeId_perform (registry : PeerRegistry) (call : PeerCall)
    : (registry.perform call).localNodeId = registry.localNodeId := by
  cases call with
  | upsertPeer now record =>
      simp only [perform, upsertPeer]
      split <;> rfl
  | removePeer id => rfl
  | updatePeerState id topics hash =>
      simp only [perform, updatePeerState, recordPeerState, rebuildRoutingTable]
      split <;> rfl
  | reapDeadPeers order now timeoutMs =>
      simp only [perform, reapDeadPeers]
      split <;> rfl

/-- The call neither names the peer nor reaps it. -/
def Spares (registry : PeerRegistry) (id : ByteString) : PeerCall → Prop
  | .upsertPeer _ record => record.info.instanceUuid ≠ id
  | .removePeer other => other ≠ id
  | .updatePeerState other _ _ => other ≠ id
  | .reapDeadPeers order now timeoutMs => id ∉ registry.deadPeers order now timeoutMs

theorem lookup_upsertPeer_ne {now : TimePoint} {info : PeerInfo}
    (other : info.instanceUuid ≠ id)
    : (registry.upsertPeer now info).1.peers.lookup id = registry.peers.lookup id := by
  unfold upsertPeer
  split
  · exact AList.lookup_insert_ne other.symm
  · exact AList.lookup_insert_ne other.symm

theorem lookup_erasePeers {ids : List ByteString} (kept : id ∉ ids)
    : (registry.erasePeers ids).peers.lookup id = registry.peers.lookup id := by
  rw [erasePeers, lookup_foldl_erase, if_neg kept]

theorem lookup_update (spares : registry.Spares id call)
    : (registry.update call).peers.lookup id = registry.peers.lookup id := by
  cases call with
  | upsertPeer now record => exact lookup_upsertPeer_ne spares
  | removePeer other => exact AList.lookup_erase_ne (Ne.symm spares)
  | updatePeerState other topics hash =>
      simp only [update, recordPeerState]
      split
      · rfl
      · exact AList.lookup_insert_ne (Ne.symm spares)
  | reapDeadPeers order now timeoutMs => exact lookup_erasePeers spares

/-- The record is the older one, perhaps heard of again; if it is synced, it has not been
heard of with another hash.
-/
structure Continues (before peer : PeerInfo) : Prop where
  instanceUuid : peer.instanceUuid = before.instanceUuid
  clusterId : peer.clusterId = before.clusterId
  synced
    : peer.synced = true
      → before.synced = true
        ∧ peer.topics = before.topics
        ∧ peer.topicStateHash = before.topicStateHash

/-- Where a stored record comes from. -/
theorem stored_of_perform {peer : PeerInfo}
    (found : (registry.perform call).peers.lookup id = some peer)
    : (∃ before, registry.peers.lookup id = some before ∧ Continues before peer)
      ∨ (∃ now record,
          call = .upsertPeer now record
          ∧ record.info.instanceUuid = id
          ∧ peer = record.info)
      ∨ ∃ topics hash before,
          call = .updatePeerState id topics hash
          ∧ registry.peers.lookup id = some before
          ∧ peer = { before with topics, topicStateHash := hash, synced := true } := by
  rw [peers_perform] at found
  by_cases spares : registry.Spares id call
  · rw [lookup_update spares] at found
    exact .inl ⟨peer, found, rfl, rfl, fun synced => ⟨synced, rfl, rfl⟩⟩
  cases call with
  | upsertPeer now record =>
      obtain rfl : record.info.instanceUuid = id := not_not.mp spares
      simp only [update, upsertPeer] at found
      split at found
      · rw [AList.lookup_insert, Option.some.injEq] at found
        exact .inr (.inl ⟨now, record, rfl, rfl, found.symm⟩)
      · rename_i before was
        rw [AList.lookup_insert, Option.some.injEq] at found
        subst found
        refine .inl ⟨before, was, rfl, rfl, ?_⟩
        intro synced
        by_cases same : before.topicStateHash = record.info.topicStateHash
        · simp only [same, bne_self_eq_false, Bool.false_eq_true, if_false] at synced
          exact ⟨synced, rfl, same.symm⟩
        · simp [same] at synced
  | removePeer other =>
      obtain rfl : other = id := not_not.mp spares
      simp [update, erasePeer] at found
  | updatePeerState other topics hash =>
      obtain rfl : other = id := not_not.mp spares
      simp only [update, recordPeerState] at found
      split at found
      · rename_i missing
        rw [missing] at found
        cases found
      · rename_i before was
        rw [AList.lookup_insert, Option.some.injEq] at found
        exact .inr (.inr ⟨topics, hash, before, rfl, was, found.symm⟩)
  | reapDeadPeers order now timeoutMs =>
      have dead : id ∈ registry.deadPeers order now timeoutMs := not_not.mp spares
      rw [update, erasePeers, lookup_foldl_erase, if_pos dead] at found
      cases found

theorem routingTable_update (registry : PeerRegistry) (call : PeerCall)
    : (registry.update call).routingTable = registry.routingTable := by
  cases call with
  | upsertPeer now record =>
      simp only [update, upsertPeer]
      split <;> rfl
  | removePeer other => rfl
  | updatePeerState other topics hash =>
      simp only [update, recordPeerState]
      split <;> rfl
  | reapDeadPeers order now timeoutMs => rfl

/-- A beacon gives no peer a topic and takes none away. -/
theorem RoutesAgree.upsertPeer (agree : registry.RoutesAgree) (now : TimePoint)
    (record : BeaconRecord)
    : (registry.upsertPeer now record.info).1.RoutesAgree := by
  have table := routingTable_update registry (.upsertPeer now record)
  simp only [update] at table
  refine ⟨table ▸ agree.proper, ?_, ?_⟩
  · intro topic id routed
    rw [Routes, table] at routed
    obtain ⟨peer, found, covers⟩ := agree.sound topic id routed
    by_cases other : record.info.instanceUuid = id
    · subst other
      simp [PeerRegistry.upsertPeer, found, covers]
    · rw [lookup_upsertPeer_ne other]
      exact ⟨peer, found, covers⟩
  · intro topic id peer found synced covers
    rw [Routes, table]
    by_cases other : record.info.instanceUuid = id
    · subst other
      unfold PeerRegistry.upsertPeer at found
      split at found
      · rw [AList.lookup_insert, Option.some.injEq] at found
        rw [← found, record.unsynced] at synced
        cases synced
      · rename_i before was
        rw [AList.lookup_insert, Option.some.injEq] at found
        subst found
        -- it is synced still only if the hash is the old one
        split at synced
        · cases synced
        · exact agree.complete topic _ before was synced covers
    · rw [lookup_upsertPeer_ne other] at found
      exact agree.complete topic id peer found synced covers

theorem RoutesAgree.update (agree : registry.RoutesAgree)
    (quiet : registry.rebuilds call = false)
    : (registry.update call).RoutesAgree := by
  cases call with
  | upsertPeer now record => exact agree.upsertPeer now record
  | removePeer id => cases quiet
  | updatePeerState id topics hash => cases quiet
  | reapDeadPeers order now timeoutMs =>
      simp only [rebuilds, Bool.not_eq_false', List.isEmpty_iff] at quiet
      rw [PeerRegistry.update, quiet]
      exact agree

theorem RoutesAgree.perform (agree : registry.RoutesAgree) (call : PeerCall)
    : (registry.perform call).RoutesAgree := by
  cases rebuilt : registry.rebuilds call with
  | true =>
      rw [perform_of_rebuilds rebuilt]
      exact routesAgree_rebuildRoutingTable _
  | false =>
      rw [perform_of_not_rebuilds rebuilt]
      exact agree.update rebuilt

theorem routesAgree_fresh (localNodeId : ByteString)
    : ({ localNodeId } : PeerRegistry).RoutesAgree where
  proper := properIndex_empty
  sound topic id routed := by
    obtain ⟨ids, found, _⟩ := routed
    simp at found
  complete topic id peer found := by simp at found

/-- The registries that calls one after the other lead to. -/
def Reached (localNodeId : ByteString) (calls : List PeerCall) (registry : PeerRegistry)
    : Prop :=
  exec (fun registry call => some (registry.perform call)) { localNodeId } calls
    = some registry

theorem Reached.routesAgree {localNodeId : ByteString} {calls : List PeerCall}
    (reached : Reached localNodeId calls registry)
    : registry.RoutesAgree := by
  refine exec_always RoutesAgree (routesAgree_fresh localNodeId) ?_ reached
  intro state call after agree taken
  cases taken
  exact agree.perform call

/-- Where a rebuild leaves a peer that the call spares. -/
theorem routes_perform_of_rebuilds {topic : ByteString}
    (rebuilt : registry.rebuilds call = true) (spares : registry.Spares id call)
    : (registry.perform call).Routes topic id
      ↔ ∃ peer,
          registry.peers.lookup id = some peer
          ∧ peer.synced = true
          ∧ topic ∈ peer.topics := by
  rw [perform_of_rebuilds rebuilt, routes_rebuildRoutingTable, lookup_update spares]

theorem routes_perform_of_not_rebuilds {topic : ByteString}
    (quiet : registry.rebuilds call = false)
    : (registry.perform call).Routes topic id ↔ registry.Routes topic id := by
  rw [perform_of_not_rebuilds quiet, Routes, routingTable_update, Routes]

/-- A call about other peers keeps the routes to a peer exactly if it rebuilds nothing, or the
peer is synced, or it has no routes. A peer whose hash has changed is routed to until the
next rebuild, whoever causes it, and then no longer.
-/
theorem other_call_keeps_routes_iff {localNodeId : ByteString} {calls : List PeerCall}
    {registry : PeerRegistry} (reached : Reached localNodeId calls registry)
    {call : PeerCall} {id : ByteString} (spares : registry.Spares id call)
    : (∀ order topic,
        id ∈ (registry.perform call).getRemoteSubscribers order topic
        ↔ id ∈ registry.getRemoteSubscribers order topic)
      ↔ registry.rebuilds call = false
        ∨ (∃ peer, registry.getPeer id = some peer ∧ peer.synced = true)
        ∨ ∀ order topic, id ∉ registry.getRemoteSubscribers order topic := by
  have agree := reached.routesAgree
  simp only [mem_getRemoteSubscribers]
  cases rebuilt : registry.rebuilds call with
  | false => simp [routes_perform_of_not_rebuilds rebuilt]
  | true =>
      simp only [routes_perform_of_rebuilds rebuilt spares, getPeer]
      constructor
      · intro same
        by_cases unlisted : ∀ topic, ¬registry.Routes topic id
        · exact .inr (.inr fun _ => unlisted)
        · push Not at unlisted
          obtain ⟨topic, listed⟩ := unlisted
          obtain ⟨peer, found, synced, _⟩ := (same .asStored topic).mpr listed
          exact .inr (.inl ⟨peer, found, synced⟩)
      · intro either order topic
        constructor
        · intro routed
          rcases routed with ⟨peer, found, synced, covers⟩
          exact agree.complete topic id peer found synced covers
        · intro listed
          rcases either with never | ⟨peer, found, synced⟩ | unlisted
          · cases never
          · exact ⟨peer, found, synced, (agree.routes_iff_of_synced found synced).mp listed⟩
          · exact absurd listed (unlisted order topic)

/-- The record of a node's beacon. -/
def discovered (instanceUuid : ByteString) (hash : UInt64) (lastSeen : TimePoint)
    : BeaconRecord where
  info :=
    { instanceUuid, clusterId := [], rpcIp := [], rpcPort := 0, topicStateHash := hash,
      lastSeen }
  unsynced := rfl
  topicless := rfl

/-- Nodes 1 and 2 are discovered and node 1 is synced with topic 97. Five seconds later only
node 1 is heard of, with another hash.
-/
def resyncingCalls : List PeerCall :=
  [ .upsertPeer 0 (discovered [1] 5 0), .upsertPeer 0 (discovered [2] 6 0),
    .updatePeerState [1] [[97]] 5, .upsertPeer 5500000000 (discovered [1] 7 5500000000) ]

theorem other_call_keeps_routes_when_synced
    : ∃ registry,
        Reached [0] (resyncingCalls.take 3) registry
        ∧ registry.rebuilds (.removePeer [2]) = true
        ∧ ∀ order topic,
            [1] ∈ (registry.perform (.removePeer [2])).getRemoteSubscribers order topic
            ↔ [1] ∈ registry.getRemoteSubscribers order topic := by
  have reached
      : Reached [0] (resyncingCalls.take 3)
          ((resyncingCalls.take 3).foldl perform { localNodeId := [0] }) :=
    rfl
  have spares
      : ((resyncingCalls.take 3).foldl perform { localNodeId := [0] }).Spares [1]
          (.removePeer [2]) := by
    simp [Spares]
  exact ⟨_, reached, rfl,
    (other_call_keeps_routes_iff reached spares).mpr (.inr (.inl ⟨_, rfl, rfl⟩))⟩

/-- Node 2 is reaped while node 1 is to be synced again, and the routes to node 1 go. -/
theorem routes_lost_with_other_peer
    : ∃ registry,
        Reached [0] resyncingCalls registry
        ∧ registry.Spares [1] (.reapDeadPeers .asStored 5600000000 5000)
        ∧ [1] ∈ registry.getRemoteSubscribers .asStored [97]
        ∧ [1] ∉ (registry.perform
            (.reapDeadPeers .asStored 5600000000 5000)).getRemoteSubscribers .asStored
              [97] := by
  refine ⟨resyncingCalls.foldl perform { localNodeId := [0] }, rfl, ?_⟩
  simp only [Spares]
  decide +kernel

end PeerRegistry

end NexusD.Core
