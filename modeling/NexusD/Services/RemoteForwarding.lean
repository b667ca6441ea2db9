import NexusD.Core.DiscoveryAgent
import NexusD.Library.ListFacts
import NexusD.Services.DaemonRuns

/-! Forwarding a published message to the other daemons.
The routes list peers by their instance UUID, the messages go to their endpoints. A daemon that
restarts has a new UUID at its old endpoint, and until the old one is reaped both are listed.
-/

namespace NexusD.Core

open NexusD.Library

theorem colon_notMem_decimal {value : Nat} : 58 ∉ decimal value := by
  unfold decimal
  split
  · decide
  · intro member
    obtain ⟨digit, digits, is⟩ := List.mem_map.mp member
    have small := Nat.digits_lt_base (by decide) (List.mem_reverse.mp digits)
    have byte := congrArg UInt8.toNat is
    rw [toNat_ofNat_digit small] at byte
    have colon : 48 + digit = 58 := byte
    omega

/-- An endpoint tells the address and the port: the port's digits hold no colon. -/
theorem PeerInfo.endpoint_eq_iff {left right : PeerInfo}
    : left.endpoint = right.endpoint
      ↔ left.rpcIp = right.rpcIp ∧ left.rpcPort = right.rpcPort := by
  constructor
  · intro same
    simp only [endpoint, List.append_assoc, List.singleton_append] at same
    obtain ⟨address, port⟩ :=
      eq_of_append_cons_eq colon_notMem_decimal colon_notMem_decimal same
    exact ⟨address, by rw [← decimalValue_decimal left.rpcPort, port, decimalValue_decimal]⟩
  · intro same
    rw [endpoint, endpoint, same.1, same.2]

namespace PeerRegistry

theorem nodup_getRemoteSubscribers {registry : PeerRegistry}
    (proper : ProperIndex registry.routingTable) (order : IterationOrder ByteString)
    (topic : ByteString)
    : (registry.getRemoteSubscribers order topic).Nodup := by
  refine order.nodup_visit ?_
  cases found : registry.routingTable.lookup topic with
  | none => exact List.nodup_nil
  | some ids => exact (proper topic ids found).2

/-- No two of the peers listed under the topic have the same address and port. -/
def DistinctEndpoints (registry : PeerRegistry) (topic : ByteString) : Prop :=
  ∀ left right leftPeer rightPeer,
    registry.Routes topic left
    → registry.Routes topic right
    → registry.getPeer left = some leftPeer
    → registry.getPeer right = some rightPeer
    → leftPeer.rpcIp = rightPeer.rpcIp
    → leftPeer.rpcPort = rightPeer.rpcPort
    → left = right

end PeerRegistry

end NexusD.Core

namespace NexusD.Services.SidecarService

open NexusD.Core NexusD.Library

theorem properRoutes_of_exec {config : ServiceConfig} {localNodeId : ByteString}
    {messageBufferSize maxBufferMemory : Nat} {events : List DaemonEvent}
    {service : SidecarService}
    (run
      : exec daemonStep (create config { localNodeId } messageBufferSize maxBufferMemory) events
        = some service)
    : PeerRegistry.ProperIndex service.registry.routingTable := by
  refine exec_always
    (fun service => PeerRegistry.ProperIndex service.registry.routingTable)
    PeerRegistry.properIndex_empty ?_ run
  intro service event after proper taken
  cases event with
  | request request =>
      have same := step_sameMesh taken
      rw [same.routingTable]
      cases request with
      | publish context request =>
          simp only [retainedBy, retain]
          split <;> exact proper
      | subscribe | unsubscribe | resumeSubscribe | deliver | writeDone | cancel => exact proper
  | peer call =>
      cases taken
      exact PeerRegistry.properRoutes_perform proper call
  | clearExpiredRetainedMessages order nowMs =>
      cases taken
      exact proper

theorem publish_endpoints (service : SidecarService) (context : CallContext)
    (request : PublishRequest)
    : (service.publish context request).2.2.map Prod.fst
      = (service.registry.getRemoteSubscribers context.peerOrder request.topic).filterMap
          (fun id => (service.registry.getPeer id).map PeerInfo.endpoint) := by
  have routes
    : (service.retain context request).registry.getRemoteSubscribers context.peerOrder
          request.topic
      = service.registry.getRemoteSubscribers context.peerOrder request.topic := by
    unfold retain
    split <;> rfl
  have peers
    : (service.retain context request).registry.getPeer = service.registry.getPeer := by
    unfold retain
    split <;> rfl
  simp only [publish, routes, peers, List.map_filterMap, Option.map_map, Function.comp_def]

/-- A Publish goes to each endpoint at most once exactly if no two of the peers listed under
its topic have the same address and port.
-/
theorem pushesOnce_iff_distinctEndpoints {config : ServiceConfig} {localNodeId : ByteString}
    {messageBufferSize maxBufferMemory : Nat} {events : List DaemonEvent}
    {service : SidecarService}
    (run
      : exec daemonStep (create config { localNodeId } messageBufferSize maxBufferMemory) events
        = some service)
    (context : CallContext) (request : PublishRequest)
    : ((service.publish context request).2.2.map Prod.fst).Nodup
      ↔ service.registry.DistinctEndpoints request.topic := by
  have distinct :=
    PeerRegistry.nodup_getRemoteSubscribers (properRoutes_of_exec run) context.peerOrder
      request.topic
  rw [publish_endpoints, nodup_filterMap_iff distinct]
  simp only [PeerRegistry.mem_getRemoteSubscribers, Option.map_eq_some_iff]
  constructor
  · intro once left right leftPeer rightPeer routed routedToo leftIs rightIs address port
    refine once left routed right routedToo leftPeer.endpoint ⟨leftPeer, leftIs, rfl⟩ ?_
    exact ⟨rightPeer, rightIs, PeerInfo.endpoint_eq_iff.mpr ⟨address.symm, port.symm⟩⟩
  · intro apart left routed right routedToo endpoint leftIs rightIs
    obtain ⟨leftPeer, leftIs, rfl⟩ := leftIs
    obtain ⟨rightPeer, rightIs, same⟩ := rightIs
    obtain ⟨address, port⟩ := PeerInfo.endpoint_eq_iff.mp same
    exact apart left right leftPeer rightPeer routed routedToo leftIs rightIs address.symm
      port.symm

/-- A beacon of a daemon on port 7. -/
def beaconOf (instanceUuid : ByteString) : Beacon where
  instanceUuid
  clusterId := []
  rpcIp := [49]
  rpcPort := 7
  topicStateHash := 5

/-- The daemon is discovered and synced with topic 97. -/
def discovers (instanceUuid : ByteString) : List DaemonEvent :=
  [ .peer (.upsertPeer 0 ((beaconOf instanceUuid).record 0)),
    .peer (.updatePeerState instanceUuid [[97]] 5) ]

theorem pushesOnce_oneDaemon
    : ∃ service,
        exec daemonStep smallDaemon (discovers [1]) = some service
        ∧ (service.publish {} { topic := [97], payload := [] }).2.2.length = 1
        ∧ ((service.publish {} { topic := [97], payload := [] }).2.2.map Prod.fst).Nodup := by
  obtain ⟨service, run, routes, pushes⟩
    : ∃ service,
        exec daemonStep smallDaemon (discovers [1]) = some service
        ∧ service.registry.routingTable.lookup [97] = some [[1]]
        ∧ (service.publish {} { topic := [97], payload := [] }).2.2.length = 1 :=
    ⟨_, rfl, by decide +kernel, by decide +kernel⟩
  refine ⟨service, run, pushes, (pushesOnce_iff_distinctEndpoints run _ _).mpr ?_⟩
  intro left right _ _ routed routedToo _ _ _ _
  obtain ⟨ids, found, member⟩ := routed
  obtain ⟨idsToo, foundToo, memberToo⟩ := routedToo
  rw [routes, Option.some.injEq] at found foundToo
  rw [← found, List.mem_singleton] at member
  rw [← foundToo, List.mem_singleton] at memberToo
  rw [member, memberToo]

/-- A daemon with a subscriber to topic 97. -/
def restarted : SidecarService := smallDaemon.subscribe {} { topics := [[97]] }

/-- A daemon that has restarted gets the message twice, and its subscriber gets both copies. -/
theorem restarted_daemon_gets_copies
    : ∃ service endpoint envelope,
        exec daemonStep smallDaemon (discovers [1] ++ discovers [2]) = some service
        ∧ (service.publish { uuid := [9] } { topic := [97], payload := [] }).2.2
          = [(endpoint, envelope), (endpoint, envelope)]
        ∧ envelope.messageId = [9]
        ∧ (restarted.deliverFromRemote {} envelope).2.results = [(0, .enqueued)]
        ∧ ((restarted.deliverFromRemote {} envelope).1.deliverFromRemote {} envelope).2.results
          = [(0, .enqueued)]
        ∧ ¬((service.publish { uuid := [9] } { topic := [97], payload := [] }).2.2.map
            Prod.fst).Nodup := by
  refine ⟨_, _, _, rfl, rfl, rfl, by decide +kernel, by decide +kernel, ?_⟩
  intro once
  exact (List.nodup_cons.mp once).1 List.mem_cons_self

end NexusD.Services.SidecarService
