import NexusD.Core.HashCache
import NexusD.Services.SidecarService

/-! `GetNodeState`, which a peer calls to learn a node's topics.
The reply carries the topics and their hash, but the reactor reads them one after the other.
-/

namespace NexusD.Services

open NexusD.Core NexusD.Library

/-- The reply. -/
structure NodeState where
  instanceUuid : ByteString
  topics : List ByteString
  topicStateHash : UInt64
  retainedMessages : List (ByteString × MessageEnvelope)

/-- A retained message as the reply carries it. -/
def retainedEnvelope (message : RetainedMessage) : MessageEnvelope where
  messageId := message.messageId
  topic := message.topic
  payload := message.payload
  contentType := message.contentType
  timestampMs := message.timestampMs
  sourceNodeId := message.sourceNodeId
  retain := true
  ttlMs := message.ttlMs

def nodeState (registry : PeerRegistry) (topics : List ByteString) (hash : UInt64)
    : NodeState where
  instanceUuid := registry.localNodeId
  topics
  topicStateHash := hash
  retainedMessages :=
    registry.retainedMessages.entries.map (fun entry => (entry.1, retainedEnvelope entry.2))

/-- Where a call of `GetNodeState` is. -/
inductive NodeStatePc where
  | idle
  /-- `getLocalTopics` has returned; the call is in `getLocalTopicHash` -/
  | hashing (topics : List ByteString)
  /-- next is `getAllRetainedMessages` -/
  | collecting (topics : List ByteString) (hash : UInt64)

/-- The registry with its calls in flight, and the replies sent. -/
structure MeshThreads where
  cache : HashThreads
  nodeStates : Nat → NodeStatePc := fun _ => .idle
  replies : List NodeState := []

namespace MeshThreads

inductive Action where
  /-- `GetNodeState` is called and reads the topics -/
  | getNodeState (thread : Nat) (order : IterationOrder ByteString)
  /-- the next step of such a call -/
  | advance (thread : Nat)
  /-- a change of the subscriptions, or a step of another `getLocalTopicHash` -/
  | registry (action : HashThreads.Action)
  | retain (topic : ByteString) (message : RetainedMessage)

def setNodeState (state : MeshThreads) (thread : Nat) (pc : NodeStatePc) : MeshThreads :=
  { state with nodeStates := Function.update state.nodeStates thread pc }

/-- The action moves no thread that is in a `GetNodeState`. -/
def free (state : MeshThreads) : HashThreads.Action → Bool
  | .change _ => true
  | .call thread | .step thread =>
      match state.nodeStates thread with
      | .idle => true
      | .hashing _ | .collecting _ _ => false

def advanceStep (state : MeshThreads) (thread : Nat) : Option MeshThreads :=
  match state.nodeStates thread with
  | .idle => none
  | .hashing topics =>
      (state.cache.step (.step thread)).map (fun cache =>
        let pc :=
          -- the load returns
          if state.cache.calls thread = .loading then
            .collecting topics state.cache.registry.cachedLocalHash
          else
            .hashing topics
        { state.setNodeState thread pc with cache })
  | .collecting topics hash =>
      some { state.setNodeState thread .idle with
        replies := state.replies ++ [nodeState state.cache.registry topics hash] }

def step (state : MeshThreads) : Action → Option MeshThreads
  | .getNodeState thread order =>
      match state.nodeStates thread with
      | .idle =>
          (state.cache.step (.call thread)).map (fun cache =>
            { state.setNodeState thread
                (.hashing (state.cache.registry.getLocalTopics order)) with cache })
      | _ => none
  | .advance thread => state.advanceStep thread
  | .registry action =>
      if state.free action then
        (state.cache.step action).map (fun cache => { state with cache })
      else
        none
  | .retain topic message =>
      some { state with
        cache := { state.cache with
          registry := state.cache.registry.setRetainedMessage topic message } }

def start (localNodeId : ByteString) : MeshThreads where
  cache := HashThreads.start localNodeId

/-- The hash of a reply is the one of its topics. -/
def SelfConsistent (reply : NodeState) : Prop :=
  reply.topicStateHash = Crc64.computeStrings (sortTopics reply.topics)

/-- A change of the topics comes while no call refreshes the hash and no `GetNodeState` is
between its two reads.
-/
def SparesReads (state : MeshThreads) : Action → Prop
  | .registry (.change change) =>
      (state.cache.registry.apply change).sortedTopics = state.cache.registry.sortedTopics
      ∨ ∀ thread,
          ¬(state.cache.calls thread).refreshing
          ∧ ∀ topics, state.nodeStates thread ≠ .hashing topics
  | _ => True

/-- What a call of `GetNodeState` has read belongs together. -/
def PcSound (cache : HashThreads) (thread : Nat) : NodeStatePc → Prop
  | .idle => True
  | .hashing topics =>
      sortTopics topics = cache.registry.sortedTopics
      ∧ cache.view.LoadsCurrent Crc64.computeStrings thread
  | .collecting topics hash => hash = Crc64.computeStrings (sortTopics topics)

theorem PcSound.step {cache after : HashThreads} {action : HashThreads.Action} {thread : Nat}
    {pc : NodeStatePc} (sound : PcSound cache thread pc)
    (coherent : cache.view.Coherent Crc64.computeStrings)
    (keeps
      : (∀ change,
          action = .change change
          → (cache.registry.apply change).sortedTopics = cache.registry.sortedTopics)
        ∨ ∀ topics, pc ≠ .hashing topics)
    (taken : cache.step action = some after)
    : PcSound after thread pc := by
  cases pc with
  | idle => trivial
  | collecting topics hash => exact sound
  | hashing topics =>
      rcases keeps with keeps | other
      · exact ⟨sound.1.trans (HashThreads.sortedTopics_step keeps taken).symm,
          HashThreads.loadsCurrent_step sound.2 coherent keeps taken⟩
      · exact absurd rfl (other topics)

structure Consistent (state : MeshThreads) : Prop where
  coherent : state.cache.view.Coherent Crc64.computeStrings
  calls : ∀ thread, PcSound state.cache thread (state.nodeStates thread)
  replies : ∀ reply ∈ state.replies, SelfConsistent reply

theorem consistent_start (localNodeId : ByteString) : (start localNodeId).Consistent where
  coherent := HashThreads.coherent_start localNodeId
  calls thread := trivial
  replies reply member := by cases member

/-- One thread's call moves, and with it at most its own `getLocalTopicHash`. -/
theorem Consistent.setNodeState {state : MeshThreads} (consistent : state.Consistent)
    {cache : HashThreads} {thread caller : Nat} {action : HashThreads.Action}
    (own : action = .call caller ∨ action = .step caller)
    (taken : state.cache.step action = some cache) {pc : NodeStatePc}
    (sound : PcSound cache thread pc)
    : Consistent { state.setNodeState thread pc with cache } where
  coherent := by
    refine HashThreads.coherent_step consistent.coherent ?_ taken
    rcases own with rfl | rfl <;> trivial
  calls other := by
    by_cases same : other = thread
    · subst other
      simpa [MeshThreads.setNodeState] using sound
    · have keeps : ∀ change, action ≠ .change change := by
        rcases own with rfl | rfl <;> simp
      simpa [MeshThreads.setNodeState, same] using
        (consistent.calls other).step consistent.coherent
          (.inl fun change is => absurd is (keeps change)) taken
  replies := consistent.replies

theorem Consistent.advance {state after : MeshThreads} (consistent : state.Consistent)
    {thread : Nat} (taken : state.advanceStep thread = some after)
    : after.Consistent := by
  have sound := consistent.calls thread
  unfold advanceStep at taken
  cases pc : state.nodeStates thread with
  | idle => simp [pc] at taken
  | hashing topics =>
      rw [pc] at sound
      simp only [pc] at taken
      obtain ⟨cache, moved, rfl⟩ := Option.map_eq_some_iff.mp taken
      refine consistent.setNodeState (.inr rfl) moved ?_
      split
      · rename_i loading
        exact (sound.2 loading).trans (congrArg Crc64.computeStrings sound.1.symm)
      · have before : PcSound state.cache thread (.hashing topics) := sound
        exact before.step consistent.coherent (.inl fun change is => by cases is) moved
  | collecting topics hash =>
      rw [pc] at sound
      simp only [pc, Option.some.injEq] at taken
      subst taken
      refine ⟨consistent.coherent, ?_, ?_⟩
      · intro other
        by_cases same : other = thread
        · subst other
          simp [MeshThreads.setNodeState, PcSound]
        · simpa [MeshThreads.setNodeState, same] using consistent.calls other
      · intro reply member
        rcases List.mem_append.mp member with older | new
        · exact consistent.replies reply older
        · obtain rfl := List.mem_singleton.mp new
          exact sound

theorem Consistent.step {state after : MeshThreads} {action : Action}
    (consistent : state.Consistent) (spares : state.SparesReads action)
    (taken : state.step action = some after)
    : after.Consistent := by
  cases action with
  | getNodeState thread order =>
      simp only [MeshThreads.step] at taken
      split at taken
      · obtain ⟨cache, called, rfl⟩ := Option.map_eq_some_iff.mp taken
        refine consistent.setNodeState (.inl rfl) called ⟨?_, ?_⟩
        · rw [PeerRegistry.sortTopics_getLocalTopics]
          exact (HashThreads.sortedTopics_step (fun change is => by cases is) called).symm
        · intro loading
          simp only [HashThreads.step] at called
          split at called <;> cases called
          simp [HashThreads.view, HashThreads.setCall] at loading
      · cases taken
  | advance thread => exact consistent.advance taken
  | registry action =>
      simp only [MeshThreads.step, Option.ite_none_right_eq_some] at taken
      obtain ⟨cache, moved, rfl⟩ := Option.map_eq_some_iff.mp taken.2
      refine ⟨HashThreads.coherent_step consistent.coherent ?_ moved, ?_, consistent.replies⟩
      · cases action with
        | change change => exact spares.imp_right (fun none thread => (none thread).1)
        | call | step => trivial
      · intro thread
        refine (consistent.calls thread).step consistent.coherent ?_ moved
        cases action with
        | change change =>
            rcases spares with same | none
            · refine .inl fun other is => ?_
              cases is
              exact same
            · exact .inr (none thread).2
        | call | step => exact .inl fun change is => by cases is
  | retain topic message =>
      cases taken
      exact ⟨consistent.coherent, consistent.calls, consistent.replies⟩

/-- In every run in which changes of the topics spare the reads in progress, every reply's
hash is the one of its topics.
-/
theorem replies_selfConsistent {localNodeId : ByteString} {actions : List Action}
    {state : MeshThreads} (run : exec step (start localNodeId) actions = some state)
    (spares : Along step (start localNodeId) SparesReads actions)
    : ∀ reply ∈ state.replies, SelfConsistent reply :=
  (exec_invariant SparesReads Consistent (consistent_start localNodeId)
    (fun consistent spares taken => consistent.step spares taken) run spares).replies

/-- A call of `GetNodeState`, up to its reply when the flag is set. -/
def nodeStateRun : List Action :=
  .getNodeState 0 .asStored :: List.replicate 6 (.advance 0)

def subscribe : Action := .registry HashThreads.subscribeToA

theorem replies_selfConsistent_after_subscribe
    : ∃ state reply,
        exec step (start []) (subscribe :: nodeStateRun) = some state
        ∧ state.replies = [reply]
        ∧ reply.topics = [[97]]
        ∧ SelfConsistent reply := by
  have spares : Along step (start []) SparesReads (subscribe :: nodeStateRun) := by
    refine along_cons_iff.mpr ⟨.inr (fun _ => ⟨fun no => no, fun _ no => by cases no⟩), ?_⟩
    intro next taken earlier action later state split _
    have member : action ∈ nodeStateRun := by
      rw [split]
      simp
    rcases List.mem_cons.mp member with rfl | steps
    · trivial
    · obtain rfl := List.eq_of_mem_replicate steps
      trivial
  refine ⟨_, _, rfl, rfl, rfl, ?_⟩
  exact replies_selfConsistent rfl spares _ List.mem_cons_self

/-- A subscription arrives between the two reads: the reply has no topics and the hash of one.
-/
theorem reply_mixes_states
    : ∃ state reply,
        exec step (start [])
            (.getNodeState 0 .asStored :: subscribe :: List.replicate 6 (.advance 0))
          = some state
        ∧ state.replies = [reply]
        ∧ reply.topics = []
        ∧ ¬SelfConsistent reply := by
  refine ⟨_, _, rfl, rfl, rfl, ?_⟩
  unfold SelfConsistent
  decide +kernel

end MeshThreads

end NexusD.Services
