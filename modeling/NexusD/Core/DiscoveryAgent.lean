import NexusD.Core.PeerTable

/-! Beacons, and when the node pulls the state of a peer.
`upsertPeer` asks for the state when the peer is new or its hash differs from the stored one.
The stored hash is the last one heard of, whether or not the state was then pulled.
-/

namespace NexusD.Core

open NexusD.Library

structure Beacon where
  instanceUuid : ByteString
  clusterId : ByteString
  rpcIp : ByteString
  /-- an `int32` -/
  rpcPort : Int
  topicStateHash : UInt64
deriving DecidableEq, Repr

def Beacon.record (beacon : Beacon) (builtAt : TimePoint) : BeaconRecord where
  info :=
    { instanceUuid := beacon.instanceUuid
      clusterId := beacon.clusterId
      rpcIp := beacon.rpcIp
      -- `static_cast<uint16_t>`
      rpcPort := (beacon.rpcPort % 65536).toNat
      topicStateHash := beacon.topicStateHash
      lastSeen := builtAt }
  unsynced := rfl
  topicless := rfl

structure DiscoveryAgent where
  clusterId : ByteString
  /-- whether a callback is registered -/
  syncCallback : Bool

namespace DiscoveryAgent

/-- The beacon of another node of the cluster; `none` is a datagram that does not parse. -/
def accepted (agent : DiscoveryAgent) (registry : PeerRegistry) : Option Beacon → Option Beacon
  | none => none
  | some beacon =>
      if beacon.instanceUuid = registry.localNodeId then
        none
      else if beacon.clusterId ≠ agent.clusterId then
        none
      else
        some beacon

/-- `processBeacon`, with the peer it hands to the callback. The clock is read when the record
is built and again in `upsertPeer`.
-/
def processBeacon (agent : DiscoveryAgent) (registry : PeerRegistry) (builtAt now : TimePoint)
    (received : Option Beacon)
    : PeerRegistry × Option PeerInfo :=
  match agent.accepted registry received with
  | none => (registry, none)
  | some beacon =>
      let upserted := registry.upsertPeer now (beacon.record builtAt).info
      (upserted.1,
        if upserted.2 && agent.syncCallback then
          upserted.1.getPeer beacon.instanceUuid
        else
          none)

inductive Call where
  | processBeacon (builtAt now : TimePoint) (received : Option Beacon)
  | registry (call : PeerCall)

def step (agent : DiscoveryAgent) (registry : PeerRegistry) : Call → Option PeerRegistry
  | .processBeacon builtAt now received =>
      some (agent.processBeacon registry builtAt now received).1
  | .registry call => some (registry.perform call)

/-- If the peer's record is unsynced after `upsertPeer`, the call asks for its state. -/
def UpsertAsks (registry : PeerRegistry) (now : TimePoint) (info : PeerInfo) : Prop :=
  ∀ peer,
    (registry.upsertPeer now info).1.getPeer info.instanceUuid = some peer
    → peer.synced = false
    → (registry.upsertPeer now info).2 = true

/-- The call asks for the state of a peer it leaves unsynced; a beacon hands it to the
callback.
-/
def Asks (agent : DiscoveryAgent) (registry : PeerRegistry) : Call → Prop
  | .processBeacon builtAt now received =>
      ∀ beacon,
        agent.accepted registry received = some beacon
        → UpsertAsks registry now (beacon.record builtAt).info
          ∧ ∀ peer,
              (agent.processBeacon registry builtAt now received).1.getPeer beacon.instanceUuid
                = some peer
              → peer.synced = false
              → agent.syncCallback = true
              → (agent.processBeacon registry builtAt now received).2 = some peer
  | .registry (.upsertPeer now record) => UpsertAsks registry now record.info
  | .registry _ => True

/-- The peer has no record, or a synced one, or one with another hash. -/
def Differs (registry : PeerRegistry) (id : ByteString) (hash : UInt64) : Prop :=
  ∀ peer, registry.getPeer id = some peer → peer.synced = true ∨ peer.topicStateHash ≠ hash

def HeardAnew (agent : DiscoveryAgent) (registry : PeerRegistry) : Call → Prop
  | .processBeacon _ _ received =>
      ∀ beacon,
        agent.accepted registry received = some beacon
        → Differs registry beacon.instanceUuid beacon.topicStateHash
  | .registry (.upsertPeer _ record) =>
      Differs registry record.info.instanceUuid record.info.topicStateHash
  | .registry _ => True

variable {registry : PeerRegistry} {info : PeerInfo} {id : ByteString} {hash : UInt64}

theorem upsertAsks_iff_differs {now : TimePoint}
    : UpsertAsks registry now info
      ↔ Differs registry info.instanceUuid info.topicStateHash := by
  simp only [UpsertAsks, Differs, PeerRegistry.getPeer, PeerRegistry.upsertPeer]
  cases found : registry.peers.lookup info.instanceUuid with
  | none => simp
  | some peer =>
      by_cases same : peer.topicStateHash = info.topicStateHash
      · simp [same, AList.lookup_insert]
      · simp [same, AList.lookup_insert]

theorem processBeacon_hands {agent : DiscoveryAgent} {builtAt now : TimePoint}
    {received : Option Beacon} {beacon : Beacon}
    (accepted : agent.accepted registry received = some beacon)
    (asks : UpsertAsks registry now (beacon.record builtAt).info) {peer : PeerInfo}
    (stored
      : (agent.processBeacon registry builtAt now received).1.getPeer beacon.instanceUuid
        = some peer) (unsynced : peer.synced = false) (callback : agent.syncCallback = true)
    : (agent.processBeacon registry builtAt now received).2 = some peer := by
  simp only [processBeacon, accepted] at stored ⊢
  rw [asks peer stored unsynced, callback]
  exact stored

theorem asks_iff_heardAnew {agent : DiscoveryAgent} {call : Call}
    : agent.Asks registry call ↔ agent.HeardAnew registry call := by
  cases call with
  | processBeacon builtAt now received =>
      constructor
      · intro asks beacon accepted
        exact upsertAsks_iff_differs.mp (asks beacon accepted).1
      · intro anew beacon accepted
        have asks : UpsertAsks registry now (beacon.record builtAt).info :=
          upsertAsks_iff_differs.mpr (anew beacon accepted)
        exact ⟨asks, fun peer => processBeacon_hands accepted asks⟩
  | registry call =>
      cases call with
      | upsertPeer now record => exact upsertAsks_iff_differs
      | removePeer id => exact Iff.rfl
      | updatePeerState id topics hash => exact Iff.rfl
      | reapDeadPeers order now timeoutMs => exact Iff.rfl

/-- In every run, the calls ask for the state of the peers they leave unsynced exactly if none
of them hears again the hash of a peer that is still unsynced.
-/
theorem asksAgain_iff_heardAnew (agent : DiscoveryAgent) (start : PeerRegistry)
    (calls : List Call)
    : Along agent.step start agent.Asks calls
      ↔ Along agent.step start agent.HeardAnew calls := by
  simp only [Along, asks_iff_heardAnew]

/-- A node is heard of twice with one hash, and its state did not come in between. -/
theorem second_beacon_not_asked
    : ∃ (agent : DiscoveryAgent) (beacon : Beacon) (first second : PeerRegistry)
        (peer : PeerInfo),
        agent.syncCallback = true
        ∧ agent.step { localNodeId := [0] } (.processBeacon 0 0 (some beacon)) = some first
        ∧ agent.step first (.processBeacon 1 1 (some beacon)) = some second
        ∧ second.getPeer beacon.instanceUuid = some peer
        ∧ peer.synced = false
        ∧ (first.upsertPeer 1 (beacon.record 1).info).2 = false
        ∧ (agent.processBeacon first 1 1 (some beacon)).2 = none :=
  ⟨⟨[], true⟩, ⟨[1], [], [], 0, 5⟩, _, _, _, rfl, rfl, rfl, rfl, rfl, rfl, rfl⟩

/-- The peer is stored with the hash but not synced. -/
def Missed (registry : PeerRegistry) (id : ByteString) (hash : UInt64) : Prop :=
  ∃ peer, registry.getPeer id = some peer ∧ peer.synced = false ∧ peer.topicStateHash = hash

/-- The call is about other peers, or hears of this one with the hash. -/
def Repeats (id : ByteString) (hash : UInt64) (registry : PeerRegistry) : PeerCall → Prop
  | .upsertPeer now record =>
      registry.Spares id (.upsertPeer now record) ∨ record.info.topicStateHash = hash
  | call => registry.Spares id call

theorem getPeer_perform {call : PeerCall} (spares : registry.Spares id call)
    : (registry.perform call).getPeer id = registry.getPeer id := by
  rw [PeerRegistry.getPeer, PeerRegistry.peers_perform, PeerRegistry.lookup_update spares,
    PeerRegistry.getPeer]

theorem Missed.upsertPeer (missed : Missed registry id hash) (now : TimePoint)
    (same : info.instanceUuid = id) (heard : info.topicStateHash = hash)
    : Missed (registry.upsertPeer now info).1 id hash
      ∧ (registry.upsertPeer now info).2 = false := by
  obtain ⟨peer, found, unsynced, stored⟩ := missed
  subst same
  rw [PeerRegistry.getPeer] at found
  simp [Missed, PeerRegistry.getPeer, PeerRegistry.upsertPeer, found, unsynced, stored, heard]

theorem Missed.perform {call : PeerCall} (missed : Missed registry id hash)
    (repeats : Repeats id hash registry call)
    : Missed (registry.perform call) id hash := by
  have spared (spares : registry.Spares id call) : Missed (registry.perform call) id hash := by
    rw [Missed, getPeer_perform spares]
    exact missed
  cases call with
  | upsertPeer now record =>
      by_cases same : record.info.instanceUuid = id
      · rcases repeats with spares | heard
        · exact absurd same spares
        · exact (missed.upsertPeer now same heard).1
      · exact spared same
  | removePeer other => exact spared repeats
  | updatePeerState other topics hash => exact spared repeats
  | reapDeadPeers order now timeoutMs => exact spared repeats

/-- As long as its hash stays the same, no later beacon of a missed peer asks for its state. -/
theorem missed_never_asked {start : PeerRegistry} {calls : List PeerCall}
    (missed : Missed start id hash)
    (run
      : exec (fun registry call => some (registry.perform call)) start calls = some registry)
    (repeats
      : Along (fun registry call => some (registry.perform call)) start (Repeats id hash)
          calls) (now : TimePoint) (same : info.instanceUuid = id)
    (heard : info.topicStateHash = hash)
    : (registry.upsertPeer now info).2 = false := by
  have still : Missed registry id hash := by
    refine exec_invariant (Repeats id hash) (fun state => Missed state id hash) missed ?_ run
      repeats
    intro state call after missed repeats taken
    cases taken
    exact missed.perform repeats
  exact (still.upsertPeer now same heard).2

end DiscoveryAgent

end NexusD.Core
