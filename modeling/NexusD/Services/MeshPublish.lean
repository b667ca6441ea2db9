import NexusD.Services.LoneCalls
import NexusD.Services.MeshRuns

/-! A Publish that nobody disturbs, and what becomes of its message at the other daemon.
The pieces of a Publish, run one after the other, are the sequential `publish`: the same state,
the same pushes. A push that arrives is then delivered like a local message.
-/

namespace NexusD.Services

open NexusD.Core NexusD.Library

namespace Mesh

theorem setNode_setNode (mesh : Mesh) (endpoint : ByteString) (first second : Option MeshNode)
    : (mesh.setNode endpoint first).setNode endpoint second
      = mesh.setNode endpoint second := by
  simp [setNode]

variable {mesh : Mesh} {endpoint : ByteString} {node : MeshNode} {thread : Nat}
  {context : CallContext} {envelope : MessageEnvelope}

/-- The steps of the daemon's other handlers are steps of the mesh. -/
theorem exec_serve (up : mesh.nodes endpoint = some node)
    {actions : List ServiceThreads.Action} {threads : ServiceThreads}
    (served : ∀ action ∈ actions, action.isServed = true)
    (run : exec ServiceThreads.step node.threads actions = some threads)
    : exec step mesh (actions.map (fun action => .node endpoint (.serve action)))
      = some (mesh.setNode endpoint (some { node with threads })) := by
  induction actions generalizing mesh node with
  | nil =>
      cases run
      have same : Function.update mesh.nodes endpoint (some node) = mesh.nodes := by
        rw [← up]
        exact Function.update_eq_self _ _
      simp [setNode, same]
  | cons action rest ih =>
      rw [List.forall_mem_cons] at served
      rw [exec_cons] at run
      obtain ⟨next, moved, later⟩ := Option.bind_eq_some_iff.mp run
      have taken
        : mesh.step (.node endpoint (.serve action))
          = some (mesh.setNode endpoint (some { node with threads := next })) := by
        simp [step, up, MeshNode.step, served.1, MeshNode.serve, moved, handsOver, setNode]
      rw [List.map_cons, exec_cons, taken, Option.bind_some]
      have there
        : (mesh.setNode endpoint (some { node with threads := next })).nodes endpoint
          = some { node with threads := next } := by
        simp [setNode]
      rw [ih there served.2 later, setNode_setNode]

theorem exec_deliver {steps : Nat} {threads : ServiceThreads}
    (up : mesh.nodes endpoint = some node)
    (run
      : exec ServiceThreads.step node.threads (List.replicate steps (.deliver thread context))
        = some threads)
    : exec step mesh
        (List.replicate steps (.node endpoint (.serve (.deliver thread context))))
      = some (mesh.setNode endpoint (some { node with threads })) := by
  have served
    : ∀ action ∈ List.replicate steps (ServiceThreads.Action.deliver thread context),
        action.isServed = true := by
    intro action member
    rw [List.eq_of_mem_replicate member]
    rfl
  have delivered := exec_serve up served run
  rwa [List.map_replicate] at delivered

/-- The rounds of the forwarding loop, by induction over the peers left. -/
theorem exec_pushNext {remaining : List ByteString} (up : mesh.nodes endpoint = some node)
    (stands : node.publishers thread = .forwarding envelope remaining)
    : exec step mesh (List.replicate remaining.length (.node endpoint (.pushNext thread)))
      = some
          { mesh.setNode endpoint
              (some (node.setPublisher thread (.forwarding envelope []))) with
            inFlight :=
              mesh.inFlight
              ++ (remaining.filterMap node.registry.getPeer).map
                (fun peer => (peer.endpoint, envelope)) } := by
  induction remaining generalizing mesh node with
  | nil =>
      have same : node.setPublisher thread (.forwarding envelope []) = node := by
        rw [← stands]
        simp [MeshNode.setPublisher]
      have kept : Function.update mesh.nodes endpoint (some node) = mesh.nodes := by
        rw [← up]
        exact Function.update_eq_self _ _
      simp [same, setNode, kept]
  | cons id remaining ih =>
      let served := node.setPublisher thread (.forwarding envelope remaining)
      let moved : Mesh :=
        { mesh.setNode endpoint (some served) with
          inFlight :=
            mesh.inFlight
            ++ (node.registry.getPeer id).toList.map
              (fun peer => (peer.endpoint, envelope)) }
      have taken : mesh.step (.node endpoint (.pushNext thread)) = some moved := by
        simp [step, up, MeshNode.step, stands, handsOver, moved, served, setNode]
      have there : moved.nodes endpoint = some served := by simp [moved, setNode]
      have stood : served.publishers thread = .forwarding envelope remaining := by
        simp [served, MeshNode.setPublisher]
      rw [List.length_cons, List.replicate_succ, exec_cons, taken, Option.bind_some,
        ih there stood]
      have peers : served.registry.getPeer = node.registry.getPeer := rfl
      simp only [peers, Option.some.injEq, Mesh.mk.injEq]
      refine ⟨?_, ?_, rfl⟩
      · simp [moved, served, setNode, MeshNode.setPublisher]
      · cases found : node.registry.getPeer id with
        | none => simp [moved, found]
        | some peer => simp [moved, found]

/-- The schedule of a Publish that nobody disturbs: `peers` rounds of its forwarding loop, then
`steps` of its delivery.
-/
def publishing (endpoint : ByteString) (thread : Nat) (context : CallContext)
    (request : PublishRequest) (peers steps : Nat)
    : List Action :=
  .node endpoint (.publish thread context request)
  :: .node endpoint (.getRemoteSubscribers thread context.peerOrder)
  :: List.replicate peers (.node endpoint (.pushNext thread))
  ++ .node endpoint (.deliverOwn thread context)
  :: List.replicate steps (.node endpoint (.serve (.deliver thread context)))

/-- The local delivery of a Publish, from the call to where its loop ends or hangs. -/
theorem exec_deliverOwn (up : mesh.nodes endpoint = some node)
    (stands : node.publishers thread = .forwarding envelope [])
    (idle : node.threads.deliveries thread = .idle) (context : CallContext)
    : let delivered := node.threads.service.deliverFromRemote context envelope
      ∃ steps left,
        exec step mesh
            (.node endpoint (.deliverOwn thread context)
              :: List.replicate steps (.node endpoint (.serve (.deliver thread context))))
          = some
              { mesh.setNode endpoint
                  (some
                    { node.setPublisher thread .idle with
                      threads :=
                        node.threads.advance thread delivered.1 left
                          (ServiceThreads.entriesOf envelope.topic delivered.2.sequenceNumber
                            delivered.2.results) }) with
                handed := mesh.handed ++ [(endpoint, envelope.messageId)] }
        ∧ ServiceThreads.LeftAt delivered.1 delivered.2.returned left := by
  intro delivered
  obtain ⟨steps, left, delivery, rests⟩ :=
    ServiceThreads.exec_deliverFromRemote idle context envelope
  rw [exec_cons] at delivery
  obtain ⟨called, calls, delivers⟩ := Option.bind_eq_some_iff.mp delivery
  let own : MeshNode := { node with threads := called }.setPublisher thread .idle
  let delivering : Mesh :=
    { mesh.setNode endpoint (some own) with
      handed := mesh.handed ++ [(endpoint, envelope.messageId)] }
  have handsOn
    : mesh.step (.node endpoint (.deliverOwn thread context)) = some delivering := by
    simp [step, up, MeshNode.step, stands, handsOver, MeshNode.serve, calls, delivering, own,
      setNode]
  have here : delivering.nodes endpoint = some own := by simp [delivering, setNode]
  refine ⟨steps, left, ?_, rests⟩
  rw [exec_cons, handsOn, Option.bind_some, exec_deliver here delivers]
  simp [delivering, own, setNode, MeshNode.setPublisher, delivered]

/-- The pieces of a Publish, run without interruption, are the sequential `publish`: its state,
and its pushes sent in its order. The delivery comes last and hangs where that of `publish`
does.
-/
theorem exec_publishing (up : mesh.nodes endpoint = some node)
    (free : node.publishers thread = .idle) (idle : node.threads.deliveries thread = .idle)
    (context : CallContext) (request : PublishRequest)
    : ∃ peers steps left entries,
        exec step mesh (publishing endpoint thread context request peers steps)
          = some
              { mesh.setNode endpoint
                  (some
                    { node with
                      threads :=
                        node.threads.advance thread
                          (node.threads.service.publish context request).1 left entries }) with
                inFlight :=
                  mesh.inFlight ++ (node.threads.service.publish context request).2.2
                handed := mesh.handed ++ [(endpoint, context.uuid)] }
        ∧ ServiceThreads.LeftAt (node.threads.service.publish context request).1
            ((node.threads.service.retain context request).deliverFromRemote context
              (node.threads.service.publishedEnvelope context request)).2.returned
            left := by
  let envelope := node.threads.service.publishedEnvelope context request
  let stored : MeshNode :=
    { node with
      threads := { node.threads with
        service := node.threads.service.retain context request } }
  let remaining := stored.registry.getRemoteSubscribers context.peerOrder request.topic
  let ready := stored.setPublisher thread (.forwarding envelope remaining)
  let looked : Mesh := mesh.setNode endpoint (some ready)
  have begins
    : exec step mesh
        [.node endpoint (.publish thread context request),
          .node endpoint (.getRemoteSubscribers thread context.peerOrder)]
      = some looked := by
    simp [exec_cons, step, up, MeshNode.step, free, MeshNode.serve, ServiceThreads.step,
      handsOver, setNode, MeshNode.setPublisher, looked, ready, stored, remaining, envelope,
      MeshNode.registry, SidecarService.publishedEnvelope]
  have there : looked.nodes endpoint = some ready := by simp [looked, setNode]
  have stood : ready.publishers thread = .forwarding envelope remaining := by
    simp [ready, MeshNode.setPublisher]
  have pushed := exec_pushNext there stood
  let waiting := ready.setPublisher thread (.forwarding envelope [])
  let sent : Mesh :=
    { looked.setNode endpoint (some waiting) with
      inFlight :=
        looked.inFlight
        ++ (remaining.filterMap ready.registry.getPeer).map
          (fun peer => (peer.endpoint, envelope)) }
  have here : sent.nodes endpoint = some waiting := by simp [sent, setNode]
  have waits : waiting.publishers thread = .forwarding envelope [] := by
    simp [waiting, MeshNode.setPublisher]
  have rests : waiting.threads.deliveries thread = .idle := idle
  obtain ⟨steps, left, delivers, leftAt⟩ := exec_deliverOwn here waits rests context
  let report := (stored.threads.service.deliverFromRemote context envelope).2
  refine ⟨remaining.length, steps, left,
    ServiceThreads.entriesOf envelope.topic report.sequenceNumber report.results, ?_, leftAt⟩
  have schedule
    : publishing endpoint thread context request remaining.length steps
      = [.node endpoint (.publish thread context request),
          .node endpoint (.getRemoteSubscribers thread context.peerOrder)]
        ++ (List.replicate remaining.length (.node endpoint (.pushNext thread))
          ++ .node endpoint (.deliverOwn thread context)
          :: List.replicate steps (.node endpoint (.serve (.deliver thread context)))) :=
    rfl
  rw [schedule, exec_append, begins, Option.bind_some, exec_append, pushed, Option.bind_some]
  apply delivers.trans
  have released
    : Function.update node.publishers thread PublishPc.idle = node.publishers := by
    rw [← free]
    exact Function.update_eq_self _ _
  simp only [sent, looked, setNode, waiting, ready, stored, MeshNode.setPublisher,
    Function.update_idem, released]
  rfl

/-- A peer that a route of the topic leads to is sent the message. -/
theorem mem_pushes_publish {service : SidecarService} {request : PublishRequest}
    {id : ByteString} {peer : PeerInfo} (routed : service.registry.Routes request.topic id)
    (known : service.registry.getPeer id = some peer)
    : (peer.endpoint, service.publishedEnvelope context request)
      ∈ (service.publish context request).2.2 := by
  have same := retain_sameRoutes service context request
  have listed
    : id ∈ (service.retain context request).registry.getRemoteSubscribers context.peerOrder
        request.topic := by
    rw [PeerRegistry.mem_getRemoteSubscribers]
    simpa [PeerRegistry.Routes, same.routingTable] using routed
  have there : (service.retain context request).registry.getPeer id = some peer := by
    simpa [PeerRegistry.getPeer, same.peers] using known
  exact List.mem_map.mpr ⟨peer, List.mem_filterMap.mpr ⟨id, listed, there⟩, rfl⟩

/-- A push that arrives at a daemon with a sidecar service, to where its delivery ends or
hangs.
-/
theorem exec_arrive {index : Nat} (sent : mesh.inFlight[index]? = some (endpoint, envelope))
    (up : mesh.nodes endpoint = some node) (ready : node.sidecarSet = true)
    (idle : node.threads.deliveries thread = .idle) (context : CallContext)
    : ∃ steps final after,
        exec step mesh
          (.arrive index thread context
            :: List.replicate steps (.node endpoint (.serve (.deliver thread context))))
        = some final
        ∧ final.nodes endpoint = some after
        ∧ after.threads.service
          = (node.threads.service.deliverFromRemote context envelope).1 := by
  obtain ⟨steps, left, delivery, _⟩ :=
    ServiceThreads.exec_deliverFromRemote idle context envelope
  rw [exec_cons] at delivery
  obtain ⟨called, calls, delivers⟩ := Option.bind_eq_some_iff.mp delivery
  let delivering : Mesh :=
    { mesh.setNode endpoint (some { node with threads := called }) with
      inFlight := mesh.inFlight.eraseIdx index
      handed := mesh.handed ++ [(endpoint, envelope.messageId)] }
  have arrives : mesh.step (.arrive index thread context) = some delivering := by
    simp [step, sent, up, MeshNode.pushMessage, MeshNode.deliverLocally, ready,
      MeshNode.serve, calls, delivering, setNode]
  have here : delivering.nodes endpoint = some { node with threads := called } := by
    simp [delivering, setNode]
  let delivered := node.threads.service.deliverFromRemote context envelope
  let after : MeshNode :=
    { node with
      threads :=
        node.threads.advance thread delivered.1 left
          (ServiceThreads.entriesOf envelope.topic delivered.2.sequenceNumber
            delivered.2.results) }
  refine ⟨steps, delivering.setNode endpoint (some after), after, ?_, ?_, rfl⟩
  · rw [exec_cons, arrives, Option.bind_some, exec_deliver here delivers]
  · exact (nodes_setNode delivering endpoint endpoint _).trans (if_pos rfl)

/-- A stream that a message on the topic goes to, with room for it. None of the streams with
the topic is a resumed one, so that the delivery hangs at none of them, in whatever order it
walks the table.
-/
structure Awaits (service : SidecarService) (topic : ByteString) (handle : Nat)
    (stream : SubscriptionStream)
    : Prop where
  listed : ∃ id, service.activeStreams.lookup id = some handle
  is : service.streams handle = some stream
  active : stream.active = true
  covers : topic ∈ stream.topics
  attached : stream.reactor.isSome = true
  casts
    : ∀ order other, other ∈ service.matchingStreams order topic → service.miscasts other = false
  opened : stream.messageQueue.closed = false
  room : stream.messageQueue.full = true → stream.messageQueue.policy ≠ .dropNewest

theorem Awaits.holds_deliverFromRemote {service : SidecarService} {handle : Nat}
    {stream : SubscriptionStream} (awaits : Awaits service envelope.topic handle stream)
    (table : service.TableInvariant) {number : Nat}
    (numbered : (service.bufferEnvelope context envelope).2 = number)
    (live
      : context.now
        < (stream.messageQueue.prepare context.now
            (SidecarService.messageEvent envelope number)
            (service.effectiveTtl envelope)).expiryTime)
    : ∃ after,
        (service.deliverFromRemote context envelope).1.streams handle = some after
        ∧ after.Holds (SidecarService.messageEvent envelope number) := by
  have matched : handle ∈ service.matchingStreams context.streamOrder envelope.topic := by
    refine SidecarService.mem_matchingStreams.mpr ⟨awaits.listed, ?_⟩
    simp [SidecarService.selects, awaits.is, awaits.active, awaits.covers]
  have reached : handle ∈ service.reachedStreams context.streamOrder envelope.topic := by
    rwa [SidecarService.reachedStreams_eq (awaits.casts context.streamOrder)]
  have subscribes : stream.reactor.any Reactor.isSubscribe = true :=
    SidecarService.isSubscribe_of_casts awaits.is awaits.attached
      (awaits.casts context.streamOrder handle matched)
  refine ⟨_, ?_, SubscriptionStream.holds_enqueueMessage awaits.active awaits.attached
    (SubscriberQueue.enqueue_taken awaits.opened awaits.room) live⟩
  rw [table.streams_deliverFromRemote, if_pos reached, awaits.is, numbered]
  simp [SidecarService.received, SubscriptionStream.receive, subscribes]

/-- From any reachable state, a Publish reaches a stream of another daemon: if a route of the
topic leads there, nobody disturbs the calls and the push gets through, then the stream holds
the message at the end.
-/
theorem published_holds_of_exec {history : List Action} {mesh : Mesh}
    (run : exec step {} history = some mesh) {here there : ByteString}
    {publisher receiver : MeshNode} (up : mesh.nodes here = some publisher)
    (upThere : mesh.nodes there = some receiver) (apart : there ≠ here)
    {thread slot : Nat} (free : publisher.publishers thread = .idle)
    (idle : publisher.threads.deliveries thread = .idle) (ready : receiver.sidecarSet = true)
    (waits : receiver.threads.deliveries slot = .idle) {context arrival : CallContext}
    {request : PublishRequest} {id : ByteString} {peer : PeerInfo}
    (routed : publisher.registry.Routes request.topic id)
    (known : publisher.registry.getPeer id = some peer) (addressed : peer.endpoint = there)
    {handle : Nat} {stream : SubscriptionStream}
    (awaits : Awaits receiver.threads.service request.topic handle stream)
    {envelope : MessageEnvelope} {number : Nat}
    (built : publisher.threads.service.publishedEnvelope context request = envelope)
    (numbered : (receiver.threads.service.bufferEnvelope arrival envelope).2 = number)
    (live
      : arrival.now
        < (stream.messageQueue.prepare arrival.now
            (SidecarService.messageEvent envelope number)
            (receiver.threads.service.effectiveTtl envelope)).expiryTime)
    : ∃ peers steps index more final after held,
        exec step mesh
          (publishing here thread context request peers steps
            ++ .arrive index slot arrival
            :: List.replicate more (.node there (.serve (.deliver slot arrival))))
        = some final
        ∧ final.nodes there = some after
        ∧ after.threads.service.streams handle = some held
        ∧ held.Holds (SidecarService.messageEvent envelope number) := by
  obtain ⟨peers, steps, left, entries, published, _⟩ :=
    exec_publishing up free idle context request
  subst built
  subst addressed
  have pushed
    : (peer.endpoint, publisher.threads.service.publishedEnvelope context request)
      ∈ mesh.inFlight ++ (publisher.threads.service.publish context request).2.2 :=
    List.mem_append_right _ (mem_pushes_publish routed known)
  obtain ⟨index, sent⟩ := List.mem_iff_getElem?.mp pushed
  have table := ((traced_of_exec run).nodes _ receiver upThere).threads.table
  obtain ⟨held, found, holds⟩ := awaits.holds_deliverFromRemote table numbered live
  have untouched (next : Option MeshNode) (pushes : List Push)
      (handed : List (ByteString × ByteString))
      : { mesh.setNode here next with inFlight := pushes, handed }.nodes peer.endpoint
        = some receiver :=
    (nodes_setNode mesh here peer.endpoint next).trans ((if_neg apart).trans upThere)
  obtain ⟨more, final, after, arrives, stands, is⟩ :=
    exec_arrive sent (untouched _ _ _) ready waits arrival
  refine ⟨peers, steps, index, more, final, after, held, ?_, stands, is ▸ found, holds⟩
  rw [exec_append, published, Option.bind_some, arrives]

/-- The Publish of `forwards`, after the two daemons have met. -/
theorem published_holds_forwards
    : ∃ mesh actions final after held,
        exec step {} (forwards.take 5) = some mesh
        ∧ exec step mesh actions = some final
        ∧ final.nodes peerEndpoint = some after
        ∧ after.threads.service.streams 0 = some held
        ∧ held.Holds forwarded := by
  obtain ⟨peers, steps, index, more, final, after, held, run, stands, found, holds⟩ :=
    @published_holds_of_exec (forwards.take 5) _ rfl [65] peerEndpoint _ _ rfl rfl (by decide)
      0 0 rfl rfl rfl rfl { uuid := [9] } {} { topic := [97], payload := [120] } [2] _
      ⟨_, rfl, by decide +kernel⟩ rfl rfl 0 _
      ⟨⟨SidecarService.subscriptionIdOf 0 [], by decide +kernel⟩, rfl, rfl, by decide +kernel,
        rfl, fun _ other _ => by cases other <;> rfl, rfl, by decide +kernel⟩
      _ _ rfl rfl (by decide +kernel)
  exact ⟨_, _, final, after, held, rfl, run, stands, found, holds⟩

end Mesh

end NexusD.Services
