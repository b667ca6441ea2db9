import NexusD.Core.ClusterIsolation
import NexusD.Library.Heartbeats

/-! The receiver thread of the discovery agent as a failure detector.
A round of `receiverLoop` waits for a datagram, processes it, and reaps the dead peers if a
second has passed since it last did. Peers that are silent for longer than the timeout go, with
their routes; peers that are heard of in time stay.
-/

namespace NexusD.Core

open NexusD.Library

/-- A datagram, with the clock as `processBeacon` reads it and as `upsertPeer` does. -/
structure Arrival where
  builtAt : TimePoint
  now : TimePoint
  received : Option Beacon

structure ReceiverLoop where
  registry : PeerRegistry
  /-- the last reading of the steady clock -/
  clock : TimePoint
  lastReap : TimePoint
  /-- the thread is at the head of its loop -/
  receiving : Bool := true

namespace ReceiverLoop

inductive Action where
  /-- `receiveFrom` returns; `none` is a timeout or an error -/
  | receiveFrom (arrival : Option Arrival)
  /-- the rest of the round; `reapAt` is the clock in the registry's `reapDeadPeers` -/
  | turn (now reapAt : TimePoint) (order : IterationOrder ByteString)
  /-- another thread records the state it has pulled from a peer -/
  | updatePeerState (id : ByteString) (topics : List ByteString) (hash : UInt64)

def start (localNodeId : ByteString) (now : TimePoint) : ReceiverLoop where
  registry := { localNodeId }
  clock := now
  lastReap := now

/-- `duration_cast<milliseconds>(now - lastReap).count() >= 1000` -/
def reapDue (state : ReceiverLoop) (now : TimePoint) : Bool :=
  decide (1000 ≤ TimePoint.toMilliseconds (int64 (now - state.lastReap)))

/-- The steady clock never goes back, and its readings are time points. -/
def Reads (earlier later : TimePoint) : Prop := earlier ≤ later ∧ later ≤ TimePoint.max

instance (earlier later : TimePoint) : Decidable (Reads earlier later) :=
  inferInstanceAs (Decidable (_ ∧ _))

def step (agent : DiscoveryAgent) (timeoutMs : Int) (state : ReceiverLoop)
    : Action → Option ReceiverLoop
  | .receiveFrom none =>
      if state.receiving then some { state with receiving := false } else none
  | .receiveFrom (some arrival) =>
      if state.receiving = true ∧ Reads state.clock arrival.builtAt
          ∧ Reads arrival.builtAt arrival.now then
        some
          { state with
            registry :=
              (agent.processBeacon state.registry arrival.builtAt arrival.now
                arrival.received).1
            clock := arrival.now
            receiving := false }
      else
        none
  | .turn now reapAt order =>
      if state.receiving = false ∧ Reads state.clock now ∧ Reads now reapAt then
        if state.reapDue now then
          some
            {
              registry := (state.registry.reapDeadPeers order reapAt timeoutMs).1
              clock := reapAt
              lastReap := now
            }
        else
          some { state with clock := now, receiving := true }
      else
        none
  | .updatePeerState id topics hash =>
      some { state with registry := state.registry.updatePeerState id topics hash }

/-- A peer is dead when its silence, in whole milliseconds, exceeds the timeout. -/
def patience (timeoutMs : Int) : Int := (timeoutMs + 1) * 1000000

/-- `reapDeadPeers` runs when a second has passed. -/
def reapPeriod : Int := 1000 * 1000000

def heartbeats (state : ReceiverLoop) : Heartbeats ByteString where
  lastHeard id := (state.registry.peers.lookup id).map PeerInfo.lastSeen
  clock := state.clock
  lastSweep := state.lastReap

/-- The whole milliseconds between two readings. -/
theorem lt_toMilliseconds_sub_iff (ms : Int) {earlier later : Int} (positive : 0 ≤ earlier)
    (ordered : earlier ≤ later) (bounded : later ≤ TimePoint.max)
    : ms < TimePoint.toMilliseconds (int64 (later - earlier))
      ↔ earlier + (ms + 1) * 1000000 ≤ later := by
  have same : int64 (later - earlier) = later - earlier := by
    simp only [TimePoint.max] at bounded
    rw [int64, Int.bmod_eq_of_le] <;> omega
  have elapsed : 0 ≤ later - earlier := by omega
  rw [same, TimePoint.toMilliseconds, Int.tdiv_eq_ediv_of_nonneg elapsed]
  omega

theorem reapDue_iff {state : ReceiverLoop} (positive : 0 ≤ state.lastReap) {now : TimePoint}
    (ordered : state.lastReap ≤ now) (bounded : now ≤ TimePoint.max)
    : state.reapDue now = true ↔ state.lastReap + reapPeriod ≤ now := by
  rw [reapDue, decide_eq_true_eq]
  exact lt_toMilliseconds_sub_iff 999 positive ordered bounded

/-- The peers that outlive the reaping, by the time they were last heard of. -/
theorem lastHeard_reapDeadPeers (registry : PeerRegistry) (order : IterationOrder ByteString)
    {reapAt : TimePoint} {timeoutMs : Int} (bounded : reapAt ≤ TimePoint.max)
    (heard
      : ∀ id peer,
          registry.peers.lookup id = some peer → 0 ≤ peer.lastSeen ∧ peer.lastSeen ≤ reapAt)
    (id : ByteString)
    : ((registry.reapDeadPeers order reapAt timeoutMs).1.peers.lookup id).map
          PeerInfo.lastSeen
      = ((registry.peers.lookup id).map PeerInfo.lastSeen).filter
          (fun seen => decide (reapAt < seen + patience timeoutMs)) := by
  have kept
    : (registry.reapDeadPeers order reapAt timeoutMs).1.peers.lookup id
      = (registry.peers.lookup id).filter
          (fun peer => !PeerRegistry.timedOut reapAt timeoutMs peer) := by
    have same := registry.peers_perform (.reapDeadPeers order reapAt timeoutMs)
    simp only [PeerRegistry.perform, PeerRegistry.update, PeerRegistry.erasePeers] at same
    rw [same, PeerRegistry.deadPeers]
    refine PeerRegistry.lookup_foldl_erase_filter ?_ order id
    intro other
    cases registry.peers.lookup other <;> rfl
  rw [kept]
  cases found : registry.peers.lookup id with
  | none => rfl
  | some peer =>
      obtain ⟨positive, ordered⟩ := heard id peer found
      have same
        : (!PeerRegistry.timedOut reapAt timeoutMs peer)
          = decide (reapAt < peer.lastSeen + patience timeoutMs) := by
        rw [PeerRegistry.timedOut, ← decide_not, decide_eq_decide,
          lt_toMilliseconds_sub_iff timeoutMs positive ordered bounded]
        exact Int.not_le
      simp only [Option.filter_some, Option.map_some, same]
      split <;> rfl

/-- `upsertPeer` hears of one peer, at the time the record was built or at its own. -/
theorem lastHeard_upsertPeer (registry : PeerRegistry) (now : TimePoint) (info : PeerInfo)
    : ∃ heard,
        (heard = info.lastSeen ∨ heard = now)
        ∧ (fun id => ((registry.upsertPeer now info).1.peers.lookup id).map PeerInfo.lastSeen)
          = Function.update (fun id => (registry.peers.lookup id).map PeerInfo.lastSeen)
              info.instanceUuid (some heard) := by
  have others {peer : PeerInfo}
      : (fun id =>
          ((registry.peers.insert info.instanceUuid peer).lookup id).map PeerInfo.lastSeen)
        = Function.update (fun id => (registry.peers.lookup id).map PeerInfo.lastSeen)
            info.instanceUuid (some peer.lastSeen) := by
    funext id
    by_cases same : id = info.instanceUuid
    · subst same
      rw [AList.lookup_insert, Function.update_self, Option.map_some]
    · rw [AList.lookup_insert_ne same, Function.update_of_ne same]
  unfold PeerRegistry.upsertPeer
  split
  · exact ⟨info.lastSeen, .inl rfl, others⟩
  · exact ⟨now, .inr rfl, others⟩

/-- Pulling the state of a peer is not hearing of it. -/
theorem lastHeard_updatePeerState (registry : PeerRegistry) (id : ByteString)
    (topics : List ByteString) (hash : UInt64)
    : (fun other =>
        ((registry.updatePeerState id topics hash).peers.lookup other).map PeerInfo.lastSeen)
      = (fun other => (registry.peers.lookup other).map PeerInfo.lastSeen) := by
  funext other
  simp only [PeerRegistry.updatePeerState, PeerRegistry.recordPeerState,
    PeerRegistry.rebuildRoutingTable]
  split
  · rfl
  · rename_i peer found
    by_cases same : other = id
    · subst same
      rw [AList.lookup_insert, found, Option.map_some, Option.map_some]
    · rw [AList.lookup_insert_ne same]

theorem received_of_accepted {agent : DiscoveryAgent} {registry : PeerRegistry}
    {received : Option Beacon} {beacon : Beacon}
    (accepts : agent.accepted registry received = some beacon)
    : received = some beacon := by
  cases received with
  | none => cases accepts
  | some heard =>
      simp only [DiscoveryAgent.accepted] at accepts
      split at accepts
      · cases accepts
      · split at accepts <;> cases accepts
        rfl

/-- What a step does to the heartbeats. -/
inductive Beat (agent : DiscoveryAgent) (timeoutMs : Int) (before after : ReceiverLoop)
    (action : Action)
    : Prop
  | same (table : after.heartbeats = before.heartbeats)
      (head : after.receiving = true → before.receiving = true)
  | waits (now : TimePoint) (table : after.heartbeats = before.heartbeats.wait now)
      (later : before.clock ≤ now)
      (soon : after.receiving = true → now < before.lastReap + reapPeriod)
  | hears (arrival : Arrival) (beacon : Beacon) (heard : TimePoint)
      (is : action = .receiveFrom (some arrival)) (received : arrival.received = some beacon)
      (cluster : beacon.clusterId = agent.clusterId)
      (table
        : after.heartbeats = before.heartbeats.hear beacon.instanceUuid heard arrival.now)
      (later : before.clock ≤ arrival.builtAt) (built : arrival.builtAt ≤ heard)
      (read : heard ≤ arrival.now) (busy : after.receiving = false)
  | sweeps (now reapAt : TimePoint)
      (table : after.heartbeats = before.heartbeats.sweep (patience timeoutMs) now reapAt)
      (later : before.clock ≤ now) (read : now ≤ reapAt)

/-- The clock started at zero or later, and so did all that was read from it. -/
structure Started (state : ReceiverLoop) : Prop where
  lastReap : 0 ≤ state.lastReap
  lastSeen : ∀ id heard, state.heartbeats.lastHeard id = some heard → 0 ≤ heard

theorem beat_of_step {agent : DiscoveryAgent} {timeoutMs : Int} {state after : ReceiverLoop}
    {action : Action} (started : state.Started)
    (timely : state.heartbeats.Timely (patience timeoutMs))
    (taken : state.step agent timeoutMs action = some after)
    : Beat agent timeoutMs state after action := by
  cases action with
  | receiveFrom arrival =>
      rcases arrival with _ | arrival
      · simp only [step] at taken
        split at taken <;> cases taken
        exact .same rfl (fun head => nomatch head)
      · simp only [step] at taken
        split at taken <;> cases taken
        rename_i guard
        obtain ⟨_, built, read⟩ := guard
        unfold DiscoveryAgent.processBeacon
        cases accepts : agent.accepted state.registry arrival.received with
        | none =>
            exact .waits arrival.now rfl (built.1.trans read.1) (fun head => nomatch head)
        | some beacon =>
            have received := received_of_accepted accepts
            have cluster := (DiscoveryAgent.accepted_eq_some accepts).2
            obtain ⟨heard, either, table⟩ :=
              lastHeard_upsertPeer state.registry arrival.now
                (beacon.record arrival.builtAt).info
            refine .hears arrival beacon heard rfl received cluster ?_ built.1 ?_ ?_ rfl
            · simp only [heartbeats, Heartbeats.hear, table]
              rfl
            · rcases either with rfl | rfl
              · exact le_refl _
              · exact read.1
            · rcases either with rfl | rfl
              · exact read.1
              · exact le_refl _
  | turn now reapAt order =>
      simp only [step] at taken
      split at taken
      · rename_i guard
        obtain ⟨_, later, read⟩ := guard
        have due := reapDue_iff started.lastReap (timely.swept.trans later.1) later.2
        split at taken
        · cases taken
          refine .sweeps now reapAt ?_ later.1 read.1
          simp only [heartbeats, Heartbeats.sweep, Heartbeats.mk.injEq, and_true]
          funext id
          refine lastHeard_reapDeadPeers state.registry order read.2 ?_ id
          intro other peer found
          have seen : state.heartbeats.lastHeard other = some peer.lastSeen := by
            simp [heartbeats, found]
          exact ⟨started.lastSeen other _ seen,
            (timely.heard other _ seen).1.trans (later.1.trans read.1)⟩
        · rename_i early
          cases taken
          refine .waits now rfl later.1 (fun _ => ?_)
          rw [due] at early
          exact not_le.mp early
      · cases taken
  | updatePeerState id topics hash =>
      cases taken
      refine .same ?_ (fun head => head)
      simp only [heartbeats, lastHeard_updatePeerState]

-----------------------------------------------------------------------------------------
-- Whole runs
-----------------------------------------------------------------------------------------

/-- A beacon of the peer, sent in the cluster, was processed when the clock read `heard`. -/
def HeardAt (agent : DiscoveryAgent) (actions : List Action) (id : ByteString)
    (heard : TimePoint)
    : Prop :=
  ∃ arrival beacon,
    .receiveFrom (some arrival) ∈ actions
    ∧ arrival.received = some beacon
    ∧ beacon.instanceUuid = id
    ∧ beacon.clusterId = agent.clusterId
    ∧ arrival.builtAt ≤ heard
    ∧ heard ≤ arrival.now

/-- What holds of the loop in every run. -/
structure Watched (agent : DiscoveryAgent) (timeoutMs : Int) (actions : List Action)
    (state : ReceiverLoop)
    : Prop where
  started : state.Started
  timely : state.heartbeats.Timely (patience timeoutMs)
  recent : state.receiving = true → state.heartbeats.Recent (patience timeoutMs + reapPeriod)
  heardAt
    : ∀ id heard,
        state.heartbeats.lastHeard id = some heard → HeardAt agent actions id heard
  routes : state.registry.RoutesAgree

variable {agent : DiscoveryAgent} {timeoutMs : Int} {actions : List Action}
  {state after : ReceiverLoop} {action : Action}

theorem watched_start (localNodeId : ByteString) {now : TimePoint} (positive : 0 ≤ now)
    : Watched agent timeoutMs [] (start localNodeId now) := by
  have empty
    : ∀ id heard, (start localNodeId now).heartbeats.lastHeard id ≠ some heard :=
    fun _ _ found => nomatch found
  exact ⟨⟨positive, fun id heard found => absurd found (empty id heard)⟩,
    ⟨le_refl _, fun id heard found => absurd found (empty id heard)⟩,
    fun _ id heard found => absurd found (empty id heard),
    fun id heard found => absurd found (empty id heard),
    PeerRegistry.routesAgree_fresh localNodeId⟩

/-- A step makes at most one call of the registry. -/
theorem registry_of_step (taken : state.step agent timeoutMs action = some after)
    : after.registry = state.registry
      ∨ ∃ call, after.registry = state.registry.perform call := by
  cases action with
  | receiveFrom arrival =>
      rcases arrival with _ | arrival
      · simp only [step] at taken
        split at taken <;> cases taken
        exact .inl rfl
      · simp only [step] at taken
        split at taken <;> cases taken
        unfold DiscoveryAgent.processBeacon
        split
        · exact .inl rfl
        · rename_i beacon _
          exact .inr ⟨.upsertPeer arrival.now (beacon.record arrival.builtAt), rfl⟩
  | turn now reapAt order =>
      simp only [step] at taken
      split at taken
      · split at taken <;> cases taken
        · exact .inr ⟨.reapDeadPeers order reapAt timeoutMs, rfl⟩
        · exact .inl rfl
      · cases taken
  | updatePeerState id topics hash =>
      cases taken
      exact .inr ⟨.updatePeerState id topics hash, rfl⟩

theorem routesAgree_step (agree : state.registry.RoutesAgree)
    (taken : state.step agent timeoutMs action = some after)
    : after.registry.RoutesAgree := by
  rcases registry_of_step taken with same | ⟨call, is⟩
  · rwa [same]
  · rw [is]
    exact agree.perform call

theorem localNodeId_step (taken : state.step agent timeoutMs action = some after)
    : after.registry.localNodeId = state.registry.localNodeId := by
  rcases registry_of_step taken with same | ⟨call, is⟩
  · rw [same]
  · rw [is]
    exact state.registry.localNodeId_perform call

theorem HeardAt.later {id : ByteString} {heard : TimePoint}
    (was : HeardAt agent actions id heard) (action : Action)
    : HeardAt agent (actions ++ [action]) id heard := by
  obtain ⟨arrival, beacon, member, facts⟩ := was
  exact ⟨arrival, beacon, List.mem_append_left _ member, facts⟩

theorem Watched.step (watched : Watched agent timeoutMs actions state) (counted : 0 ≤ timeoutMs)
    (taken : state.step agent timeoutMs action = some after)
    : Watched agent timeoutMs (actions ++ [action]) after := by
  have routes := routesAgree_step watched.routes taken
  have patient : 0 < patience timeoutMs := by
    unfold patience
    omega
  have known := fun id heard found => (watched.heardAt id heard found).later action
  cases beat_of_step watched.started watched.timely taken with
  | same table head =>
      have reaped : after.lastReap = state.lastReap := congrArg Heartbeats.lastSweep table
      refine ⟨⟨reaped ▸ watched.started.lastReap, ?_⟩, ?_, ?_, ?_, routes⟩ <;> rw [table]
      · exact watched.started.lastSeen
      · exact watched.timely
      · exact fun here => watched.recent (head here)
      · exact known
  | waits now table later soon =>
      have reaped : after.lastReap = state.lastReap := congrArg Heartbeats.lastSweep table
      refine ⟨⟨reaped ▸ watched.started.lastReap, ?_⟩, ?_, ?_, ?_, routes⟩ <;> rw [table]
      · exact watched.started.lastSeen
      · exact watched.timely.wait later
      · exact fun here => watched.timely.recent_wait (soon here)
      · exact known
  | hears arrival beacon heard is received cluster table later built read busy =>
      have reaped : after.lastReap = state.lastReap := congrArg Heartbeats.lastSweep table
      have zero : 0 ≤ heard :=
        watched.started.lastReap.trans (watched.timely.swept.trans (later.trans built))
      refine ⟨⟨reaped ▸ watched.started.lastReap, ?_⟩, ?_, ?_, ?_, routes⟩
      · rw [table]
        intro id time found
        rcases Heartbeats.lastHeard_of_hear found with ⟨_, rfl⟩ | older
        · exact zero
        · exact watched.started.lastSeen id time older
      · rw [table]
        exact watched.timely.hear patient (later.trans built) read
      · intro here
        rw [busy] at here
        cases here
      · rw [table]
        intro id time found
        rcases Heartbeats.lastHeard_of_hear found with ⟨rfl, rfl⟩ | older
        · exact ⟨arrival, beacon, by simp [is], received, rfl, cluster, built, read⟩
        · exact known id time older
  | sweeps now reapAt table later read =>
      have reaped : after.lastReap = now := congrArg Heartbeats.lastSweep table
      have kept
        : ∀ id heard,
            after.heartbeats.lastHeard id = some heard
            → state.heartbeats.lastHeard id = some heard := by
        intro id heard found
        rw [table] at found
        exact (Option.filter_eq_some_iff.mp found).1
      refine ⟨⟨?_, ?_⟩, ?_, ?_, ?_, routes⟩
      · rw [reaped]
        exact watched.started.lastReap.trans (watched.timely.swept.trans later)
      · exact fun id heard found => watched.started.lastSeen id heard (kept id heard found)
      · rw [table]
        exact watched.timely.sweep later read
      · rw [table]
        exact fun _ => Heartbeats.recent_sweep _ _ _ (by decide)
      · exact fun id heard found => known id heard (kept id heard found)

variable {localNodeId : ByteString} {startAt : TimePoint}

theorem watched_of_exec (positive : 0 ≤ startAt) (counted : 0 ≤ timeoutMs)
    (run : exec (step agent timeoutMs) (start localNodeId startAt) actions = some state)
    : Watched agent timeoutMs actions state :=
  exec_induction (motive := Watched agent timeoutMs) (watched_start localNodeId positive)
    (fun _ watched taken => watched.step counted taken) run

/-- Whenever the thread is at the head of its loop, a peer the registry knows or has routes to
has sent a beacon in the cluster less than the timeout and 1001 ms ago.
-/
theorem peers_heard_of_exec (positive : 0 ≤ startAt) (counted : 0 ≤ timeoutMs)
    (run : exec (step agent timeoutMs) (start localNodeId startAt) actions = some state)
    (head : state.receiving = true) {id : ByteString}
    (known
      : (state.registry.getPeer id).isSome = true ∨ ∃ topic, state.registry.Routes topic id)
    : ∃ heard,
        HeardAt agent actions id heard
        ∧ state.clock < heard + (timeoutMs + 1001) * 1000000 := by
  have watched := watched_of_exec positive counted run
  obtain ⟨peer, found⟩ : ∃ peer, state.registry.peers.lookup id = some peer := by
    rcases known with present | ⟨topic, routed⟩
    · exact Option.isSome_iff_exists.mp present
    · obtain ⟨peer, found, _⟩ := watched.routes.sound topic id routed
      exact ⟨peer, found⟩
  have seen : state.heartbeats.lastHeard id = some peer.lastSeen := by
    simp [heartbeats, found]
  refine ⟨peer.lastSeen, watched.heardAt id _ seen, ?_⟩
  have recent : state.clock < peer.lastSeen + (patience timeoutMs + reapPeriod) :=
    watched.recent head id _ seen
  have sum : patience timeoutMs + reapPeriod = (timeoutMs + 1001) * 1000000 := by
    unfold patience reapPeriod
    omega
  rwa [sum] at recent

def nodeTwo : Beacon where
  instanceUuid := [2]
  clusterId := [100]
  rpcIp := [49]
  rpcPort := 7
  topicStateHash := 5

/-- A beacon one second after the start, and two rounds that hear nothing more. -/
def heardOnce : List Action :=
  [ .receiveFrom (some ⟨1000000000, 1000000500, some nodeTwo⟩),
    .turn 1000000700 1000000800 .asStored,
    .receiveFrom none,
    .turn 1500000000 1500000000 .asStored ]

theorem peers_heard_heardOnce
    : ∃ state,
        exec (step ⟨[100], true⟩ 5000) (start [1] 0) heardOnce = some state
        ∧ ∃ heard,
            HeardAt ⟨[100], true⟩ heardOnce [2] heard
            ∧ state.clock < heard + (5000 + 1001) * 1000000 :=
  ⟨_, rfl, peers_heard_of_exec (le_refl 0) (by decide) rfl rfl (.inl (by decide +kernel))⟩

theorem HeardSince.step {id : ByteString} {since : TimePoint}
    (watched : Watched agent timeoutMs actions state)
    (kept : state.heartbeats.HeardSince id since) (earlier : since ≤ state.clock)
    (taken : state.step agent timeoutMs action = some after)
    (soon : after.clock < since + patience timeoutMs)
    : after.heartbeats.HeardSince id since := by
  cases beat_of_step watched.started watched.timely taken with
  | same table head => rwa [table]
  | waits now table later _ => rwa [table]
  | hears arrival beacon heard is received cluster table later built read busy =>
      rw [table]
      exact kept.hear beacon.instanceUuid (earlier.trans (later.trans built))
  | sweeps now reapAt table later read =>
      have clock : after.clock = reapAt := congrArg Heartbeats.clock table
      rw [table]
      exact kept.sweep (clock ▸ soon)

theorem clock_le_of_step (watched : Watched agent timeoutMs actions state)
    (taken : state.step agent timeoutMs action = some after)
    : state.clock ≤ after.clock := by
  cases beat_of_step watched.started watched.timely taken with
  | same table head => exact (congrArg Heartbeats.clock table).ge
  | waits now table later _ => exact later.trans (congrArg Heartbeats.clock table).ge
  | hears arrival beacon heard is received cluster table later built read busy =>
      exact (later.trans (built.trans read)).trans (congrArg Heartbeats.clock table).ge
  | sweeps now reapAt table later read =>
      exact (later.trans read).trans (congrArg Heartbeats.clock table).ge

/-- A beacon of another node of the cluster is heard. -/
theorem heardSince_receiveFrom {arrival : Arrival} {beacon : Beacon}
    (taken : state.step agent timeoutMs (.receiveFrom (some arrival)) = some after)
    (received : arrival.received = some beacon)
    (other : beacon.instanceUuid ≠ state.registry.localNodeId)
    (cluster : beacon.clusterId = agent.clusterId)
    : arrival.builtAt ≤ after.clock
      ∧ after.heartbeats.HeardSince beacon.instanceUuid arrival.builtAt := by
  simp only [step] at taken
  split at taken <;> cases taken
  rename_i guard
  obtain ⟨_, _, read⟩ := guard
  have accepts : agent.accepted state.registry arrival.received = some beacon := by
    simp [DiscoveryAgent.accepted, received, other, cluster]
  obtain ⟨heard, either, table⟩ :=
    lastHeard_upsertPeer state.registry arrival.now (beacon.record arrival.builtAt).info
  refine ⟨read.1, heard, ?_, ?_⟩
  · simp only [heartbeats, DiscoveryAgent.processBeacon, accepts]
    exact (congrFun table beacon.instanceUuid).trans (Function.update_self _ _ _)
  · rcases either with rfl | rfl
    · exact le_refl _
    · exact read.1

/-- A peer is known from its beacon on for as long as the timeout, whatever else happens. -/
theorem peer_kept_of_exec (positive : 0 ≤ startAt) (counted : 0 ≤ timeoutMs)
    {earlier later : List Action} {arrival : Arrival} {beacon : Beacon}
    (run
      : exec (step agent timeoutMs) (start localNodeId startAt)
          (earlier ++ .receiveFrom (some arrival) :: later)
        = some state)
    (received : arrival.received = some beacon) (other : beacon.instanceUuid ≠ localNodeId)
    (cluster : beacon.clusterId = agent.clusterId)
    (soon : state.clock < arrival.builtAt + (timeoutMs + 1) * 1000000)
    : (state.registry.getPeer beacon.instanceUuid).isSome = true := by
  rw [List.append_cons, exec_append] at run
  obtain ⟨heard, reached, rest⟩ := Option.bind_eq_some_iff.mp run
  have named : heard.registry.localNodeId = localNodeId :=
    exec_always (fun state => state.registry.localNodeId = localNodeId) rfl
      (fun same taken => (localNodeId_step taken).trans same) reached
  have hears := reached
  rw [exec_snoc] at hears
  obtain ⟨before, _, taken⟩ := Option.bind_eq_some_iff.mp hears
  rw [localNodeId_step taken] at named
  have first := heardSince_receiveFrom taken received (named ▸ other) cluster
  -- as long as the clock stays below the bound, the peer is still heard of since then
  have kept
    : state.clock < arrival.builtAt + patience timeoutMs
      → arrival.builtAt ≤ state.clock
        ∧ state.heartbeats.HeardSince beacon.instanceUuid arrival.builtAt := by
    refine exec_induction
      (motive := fun _ state =>
        state.clock < arrival.builtAt + patience timeoutMs
        → arrival.builtAt ≤ state.clock
          ∧ state.heartbeats.HeardSince beacon.instanceUuid arrival.builtAt)
      (fun _ => first) ?_ rest
    intro more middle action after came ih moved below
    have whole
      : exec (step agent timeoutMs) (start localNodeId startAt)
          ((earlier ++ [.receiveFrom (some arrival)]) ++ more)
        = some middle := by
      rw [exec_append, reached, Option.bind_some, came]
    have watched := watched_of_exec positive counted whole
    have ordered := clock_le_of_step watched moved
    obtain ⟨late, since⟩ := ih (ordered.trans_lt below)
    exact ⟨late.trans ordered, HeardSince.step watched since late moved below⟩
  obtain ⟨seen, found, _⟩ := (kept soon).2
  obtain ⟨peer, is, _⟩ := Option.map_eq_some_iff.mp found
  exact Option.isSome_iff_exists.mpr ⟨peer, is⟩

theorem peer_kept_heardOnce
    : ∃ state,
        exec (step ⟨[100], true⟩ 5000) (start [1] 0) heardOnce = some state
        ∧ (state.registry.getPeer [2]).isSome = true :=
  ⟨_, rfl, @peer_kept_of_exec ⟨[100], true⟩ 5000 _ [1] 0 (by decide) (by decide) []
    heardOnce.tail ⟨1000000000, 1000000500, some nodeTwo⟩ nodeTwo rfl rfl (by decide) rfl
    (by decide +kernel)⟩

end ReceiverLoop

end NexusD.Core
