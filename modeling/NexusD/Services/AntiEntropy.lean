import NexusD.Core.AdvertisedHash
import NexusD.Core.DiscoveryAgent
import NexusD.Library.Noninterference
import NexusD.Services.NodeState

/-! Anti-entropy between two nodes.
The sender announces the hash of its topics in beacons and answers `GetNodeState`; the
receiver stores what it hears. Beacons and replies come late, in any order, more than once or
not at all, so that an older reply may replace a newer one.
-/

namespace NexusD.Core.DiscoveryAgent

open NexusD.Library

/-- `sendBeacon`, up to the datagram. -/
def sendBeacon (agent : DiscoveryAgent) (registry : PeerRegistry)
    (order : IterationOrder ByteString) (currentRpcIp : ByteString) (currentRpcPort : UInt16)
    : PeerRegistry × Beacon :=
  let hashed := registry.getLocalTopicHash order
  (hashed.1,
    {
      instanceUuid := registry.localNodeId
      clusterId := agent.clusterId
      rpcIp := currentRpcIp
      rpcPort := currentRpcPort.toNat
      topicStateHash := hashed.2
    })

end NexusD.Core.DiscoveryAgent

namespace NexusD.Services

open NexusD.Core NexusD.Library

/-- `GetNodeState` with nobody else at work. -/
def getNodeState (registry : PeerRegistry) (topicOrder hashOrder : IterationOrder ByteString)
    : PeerRegistry × NodeState :=
  let topics := registry.getLocalTopics topicOrder
  let hashed := registry.getLocalTopicHash hashOrder
  (hashed.1, nodeState hashed.1 topics hashed.2)

/-- The registries of the two nodes, and all the sender has ever sent. -/
structure AntiEntropy where
  sender : PeerRegistry
  receiver : PeerRegistry
  beacons : List Beacon := []
  replies : List NodeState := []

namespace AntiEntropy

inductive Action where
  /-- a call of the sender's registry -/
  | sender (call : RegistryCall)
  | sendBeacon (agent : DiscoveryAgent) (order : IterationOrder ByteString)
      (currentRpcIp : ByteString) (currentRpcPort : UInt16)
  | getNodeState (topicOrder hashOrder : IterationOrder ByteString)
  /-- one of the beacons arrives -/
  | hear (index : Nat) (builtAt now : TimePoint)
  /-- one of the replies arrives -/
  | pull (index : Nat)
  /-- a call of the receiver's registry that stores no reply of the sender -/
  | receiver (call : PeerCall)

/-- The call stores a reply that the node is supposed to have given. -/
def repliesFor (id : ByteString) : PeerCall → Bool
  | .updatePeerState other _ _ => decide (other = id)
  | .upsertPeer _ _ | .removePeer _ | .reapDeadPeers _ _ _ => false

def step (state : AntiEntropy) : Action → Option AntiEntropy
  | .sender call => some { state with sender := state.sender.execute call }
  | .sendBeacon agent order currentRpcIp currentRpcPort =>
      let sent := agent.sendBeacon state.sender order currentRpcIp currentRpcPort
      some { state with sender := sent.1, beacons := state.beacons ++ [sent.2] }
  | .getNodeState topicOrder hashOrder =>
      let answered := Services.getNodeState state.sender topicOrder hashOrder
      some { state with sender := answered.1, replies := state.replies ++ [answered.2] }
  | .hear index builtAt now =>
      (state.beacons[index]?).map (fun beacon =>
        { state with
          receiver := state.receiver.perform (.upsertPeer now (beacon.record builtAt)) })
  | .pull index =>
      (state.replies[index]?).map (fun reply =>
        { state with
          receiver :=
            state.receiver.perform
              (.updatePeerState reply.instanceUuid reply.topics reply.topicStateHash) })
  | .receiver call =>
      if repliesFor state.sender.localNodeId call then none
      else some { state with receiver := state.receiver.perform call }

def start (senderId receiverId : ByteString) : AntiEntropy where
  sender := { localNodeId := senderId }
  receiver := { localNodeId := receiverId }

/-- What the action is to the sender's registry. -/
def senderCall : Action → Option RegistryCall
  | .sender call => some call
  | .sendBeacon _ order _ _ => some (.getLocalTopicHash order)
  | .getNodeState _ hashOrder => some (.getLocalTopicHash hashOrder)
  | .hear _ _ _ | .pull _ | .receiver _ => none

variable {origin state : AntiEntropy} {actions : List Action} {senderId : ByteString}

/-- The sender's part of a run is a run of its registry. -/
theorem sender_of_exec {final : AntiEntropy} (run : exec step origin actions = some final)
    : exec PeerRegistry.step origin.sender (actions.filterMap senderCall)
      = some final.sender := by
  refine exec_project AntiEntropy.sender senderCall (fun _ => True) trivial
    (fun _ _ => trivial) ?_ run
  intro state action after _ taken
  cases action with
  | sender call =>
      cases taken
      rfl
  | sendBeacon agent order currentRpcIp currentRpcPort =>
      cases taken
      rfl
  | getNodeState topicOrder hashOrder =>
      cases taken
      rfl
  | hear index builtAt now =>
      obtain ⟨beacon, _, rfl⟩ := Option.map_eq_some_iff.mp taken
      rfl
  | pull index =>
      obtain ⟨reply, _, rfl⟩ := Option.map_eq_some_iff.mp taken
      rfl
  | receiver call =>
      simp only [step] at taken
      split at taken <;> cases taken
      rfl

/-- At some moment of the run the sender was subscribed to exactly the topics, and had the
hash.
-/
def Snapshot (origin : AntiEntropy) (actions : List Action) (topics : List ByteString)
    (hash : UInt64)
    : Prop :=
  ∃ moment,
    Visits step origin actions moment
    ∧ (∀ topic, topic ∈ topics ↔ moment.sender.Subscribed topic)
    ∧ ∀ order, (moment.sender.getLocalTopicHash order).2 = hash

theorem Snapshot.snoc {topics : List ByteString} {hash : UInt64}
    (snapshot : Snapshot origin actions topics hash) (action : Action)
    : Snapshot origin (actions ++ [action]) topics hash := by
  obtain ⟨moment, ⟨early, isPrefix, reached⟩, facts⟩ := snapshot
  exact ⟨moment, ⟨early, isPrefix.trans (List.prefix_append _ _), reached⟩, facts⟩

/-- Every reply on its way and every synced record is a snapshot. -/
structure Genuine (senderId : ByteString) (origin : AntiEntropy) (actions : List Action)
    (state : AntiEntropy)
    : Prop where
  named : state.sender.localNodeId = senderId
  replies
    : ∀ reply ∈ state.replies,
        reply.instanceUuid = senderId
        ∧ Snapshot origin actions reply.topics reply.topicStateHash
  recorded
    : ∀ peer,
        state.receiver.peers.lookup senderId = some peer
        → peer.synced = true
        → Snapshot origin actions peer.topics peer.topicStateHash

theorem genuine_start (senderId receiverId : ByteString)
    : Genuine senderId (start senderId receiverId) [] (start senderId receiverId) where
  named := rfl
  replies reply member := by cases member
  recorded peer found := by simp [start] at found

/-- A reply is a snapshot when it is sent. -/
theorem snapshot_getNodeState (reached : exec step origin actions = some state)
    (sound : state.sender.Sound) (fresh : state.sender.CacheFresh)
    (topicOrder hashOrder : IterationOrder ByteString)
    : Snapshot origin actions
        (Services.getNodeState state.sender topicOrder hashOrder).2.topics
        (Services.getNodeState state.sender topicOrder hashOrder).2.topicStateHash := by
  refine ⟨state, ⟨actions, List.prefix_refl _, reached⟩, ?_, ?_⟩
  · intro topic
    exact sound.index.mem_getLocalTopics
  · intro order
    exact (fresh.getLocalTopicHash order).trans (fresh.getLocalTopicHash hashOrder).symm

theorem Genuine.snoc (genuine : Genuine senderId origin actions state) (action : Action)
    : Genuine senderId origin (actions ++ [action]) state where
  named := genuine.named
  replies reply member := by
    obtain ⟨uuid, snapshot⟩ := genuine.replies reply member
    exact ⟨uuid, snapshot.snoc action⟩
  recorded peer found synced := (genuine.recorded peer found synced).snoc action

/-- A call of the receiver: a synced record is the one from before, or that of a reply. -/
theorem Genuine.perform (genuine : Genuine senderId origin actions state) {call : PeerCall}
    (replied
      : ∀ topics hash,
          call = .updatePeerState senderId topics hash → Snapshot origin actions topics hash)
    : Genuine senderId origin actions
        { state with receiver := state.receiver.perform call } where
  named := genuine.named
  replies := genuine.replies
  recorded peer found synced := by
    rcases PeerRegistry.stored_of_perform found with
      ⟨before, stored, continues⟩ | ⟨now, record, rfl, _, rfl⟩
        | ⟨topics, hash, before, rfl, _, rfl⟩
    · obtain ⟨was, topics, hash⟩ := continues.synced synced
      rw [topics, hash]
      exact genuine.recorded before stored was
    · rw [record.unsynced] at synced
      cases synced
    · exact replied topics hash rfl

theorem Genuine.step {after : AntiEntropy} {action : Action}
    (genuine : Genuine senderId origin actions state)
    (reached : exec step origin actions = some state) (sound : state.sender.Sound)
    (fresh : state.sender.CacheFresh) (taken : state.step action = some after)
    : Genuine senderId origin (actions ++ [action]) after := by
  have later := genuine.snoc action
  cases action with
  | sender call =>
      cases taken
      exact ⟨(PeerRegistry.localNodeId_execute _ _).trans later.named, later.replies,
        later.recorded⟩
  | sendBeacon agent order currentRpcIp currentRpcPort =>
      cases taken
      have named := PeerRegistry.localNodeId_getLocalTopicHash state.sender order
      exact ⟨named.trans later.named, later.replies, later.recorded⟩
  | getNodeState topicOrder hashOrder =>
      cases taken
      have named := PeerRegistry.localNodeId_getLocalTopicHash state.sender hashOrder
      refine ⟨named.trans later.named, ?_, later.recorded⟩
      intro reply member
      rcases List.mem_append.mp member with older | new
      · exact later.replies reply older
      · obtain rfl := List.mem_singleton.mp new
        exact ⟨named.trans later.named,
          (snapshot_getNodeState reached sound fresh topicOrder hashOrder).snoc _⟩
  | hear index builtAt now =>
      obtain ⟨beacon, _, rfl⟩ := Option.map_eq_some_iff.mp taken
      refine later.perform ?_
      intro topics hash is
      cases is
  | pull index =>
      obtain ⟨reply, arrived, rfl⟩ := Option.map_eq_some_iff.mp taken
      refine later.perform ?_
      intro topics hash is
      cases is
      exact (later.replies reply (List.mem_of_getElem? arrived)).2
  | receiver call =>
      simp only [AntiEntropy.step] at taken
      split at taken
      · cases taken
      · rename_i silent
        cases taken
        refine later.perform ?_
        intro topics hash is
        simp [is, repliesFor, later.named] at silent

/-- Whatever the network does, a synced record of the sender is a snapshot of it: at some past
or present moment the sender was subscribed to exactly these topics and had this hash.
-/
theorem syncedRecord_isSnapshot {senderId receiverId : ByteString} {actions : List Action}
    {state : AntiEntropy}
    (run : exec step (start senderId receiverId) actions = some state)
    (once : RegistryCall.AddsOnce (actions.filterMap senderCall)) {peer : PeerInfo}
    (found : state.receiver.getPeer senderId = some peer) (synced : peer.synced = true)
    : Snapshot (start senderId receiverId) actions peer.topics peer.topicStateHash := by
  refine (exec_induction
    (motive := fun actions state =>
      RegistryCall.AddsOnce (actions.filterMap senderCall)
      → Genuine senderId (start senderId receiverId) actions state)
    (fun _ => genuine_start senderId receiverId) ?_ run once).recorded peer found synced
  intro actions state action after reached ih taken once
  rw [RegistryCall.AddsOnce, List.filterMap_append, List.filterMap_append,
    List.nodup_append] at once
  have senderRun := sender_of_exec reached
  exact (ih once.1).step reached (PeerRegistry.sound_of_exec senderRun once.1).1
    (PeerRegistry.cacheFresh_of_exec senderRun) taken

/-- The sender answers before and after its second subscription, and the older answer comes
last, and once more after the record has been removed and made anew.
-/
def staleReply : List Action :=
  [ .sender (.change (.add 0 [49] [] [[97]] 0)), .sendBeacon ⟨[], true⟩ .asStored [] 0,
    .getNodeState .asStored .asStored, .sender (.change (.add 1 [50] [] [[98]] 0)),
    .getNodeState .asStored .asStored, .hear 0 0 0, .pull 1, .pull 0,
    .receiver (.removePeer [83]), .hear 0 2 2, .pull 0 ]

theorem syncedRecord_staleReply
    : ∃ state peer,
        exec step (start [83] [82]) staleReply = some state
        ∧ state.receiver.getPeer [83] = some peer
        ∧ peer.topics = [[97]]
        ∧ [98] ∈ state.sender.topicToSubscriptions.keys
        ∧ Snapshot (start [83] [82]) staleReply peer.topics peer.topicStateHash := by
  obtain ⟨state, peer, run, found, topics, synced, now⟩
    : ∃ state peer,
        exec step (start [83] [82]) staleReply = some state
        ∧ state.receiver.getPeer [83] = some peer
        ∧ peer.topics = [[97]]
        ∧ peer.synced = true
        ∧ [98] ∈ state.sender.topicToSubscriptions.keys :=
    ⟨_, _, rfl, rfl, rfl, rfl, by decide +kernel⟩
  have once : RegistryCall.AddsOnce (staleReply.filterMap senderCall) := by
    unfold RegistryCall.AddsOnce
    decide
  exact ⟨state, peer, run, found, topics, now, syncedRecord_isSnapshot run once found synced⟩

end AntiEntropy

end NexusD.Services
