import NexusD.Services.Mesh

/-! Runs of a mesh.
Whatever daemons come and go, however their handlers interleave and whichever pushes are lost,
subscribers get what somebody published, on topics they asked for. If every peer keeps one
address of its own, no daemon is handed a message twice.
-/

namespace NexusD.Services

open NexusD.Core NexusD.Library

namespace MeshNode

/-- Only the calls about peers change what the daemon knows about them. -/
def peersAfter (node : MeshNode) : NodeAction → PeerRegistry
  | .peer call => node.registry.perform call
  | _ => node.registry

theorem serve_sameRoutes {node next : MeshNode} {action : ServiceThreads.Action}
    (taken : node.serve action = some next)
    : SameRoutes node.registry next.registry := by
  obtain ⟨threads, moved, rfl⟩ := Option.map_eq_some_iff.mp taken
  exact ServiceThreads.step_sameRoutes moved

theorem step_sameRoutes {node next : MeshNode} {action : NodeAction} {pushes : List Push}
    (taken : node.step action = some (next, pushes))
    : SameRoutes (node.peersAfter action) next.registry := by
  cases move_of_step taken with
  | publish stands served | deliver stands served =>
      have same := serve_sameRoutes served
      exact same
  | serve allowed served => exact serve_sameRoutes served
  | lookUp | push | peer => exact .refl _
  | expire => exact ⟨rfl, rfl, rfl⟩
  | reap =>
      simp only [peersAfter, registry, SidecarService.onStream_registry]
      exact .refl _

theorem localNodeId_step {node next : MeshNode} {action : NodeAction} {pushes : List Push}
    (taken : node.step action = some (next, pushes))
    : next.registry.localNodeId = node.registry.localNodeId := by
  rw [(step_sameRoutes taken).localNodeId]
  cases action with
  | peer call => exact node.registry.localNodeId_perform call
  | publish | getRemoteSubscribers | pushNext | deliverOwn | serve
  | clearExpiredRetainedMessages | reapExpired => rfl

theorem deliverLocally_sameRoutes {node next : MeshNode} {thread : Nat}
    {context : CallContext} {envelope : MessageEnvelope}
    (taken : node.deliverLocally thread context envelope = some next)
    : SameRoutes node.registry next.registry := by
  unfold deliverLocally at taken
  split at taken
  · exact serve_sameRoutes taken
  · cases taken
    exact .refl _

end MeshNode

namespace Mesh

/-- What a step does: one daemon moves or is replaced, and pushes come or go. -/
inductive Change (mesh : Mesh) : Action → Mesh → Prop
  | start (endpoint : ByteString) (settings : NodeSettings)
      : Change mesh (.start endpoint settings)
          (mesh.setNode endpoint (some (.start settings)))
  | stop (endpoint : ByteString) : Change mesh (.stop endpoint) (mesh.setNode endpoint none)
  | node {endpoint : ByteString} {action : NodeAction} {node next : MeshNode}
      {pushes : List Push} (up : mesh.nodes endpoint = some node)
      (moved : node.step action = some (next, pushes))
      : Change mesh (.node endpoint action)
          { mesh.setNode endpoint (some next) with
            inFlight := mesh.inFlight ++ pushes
            handed := mesh.handed ++ (handsOver node action).map (fun id => (endpoint, id)) }
  | arrive {index thread : Nat} {context : CallContext} {endpoint : ByteString}
      {envelope : MessageEnvelope} {node next : MeshNode}
      (flying : mesh.inFlight[index]? = some (endpoint, envelope))
      (up : mesh.nodes endpoint = some node)
      (moved : node.deliverLocally thread context envelope = some next)
      : Change mesh (.arrive index thread context)
          { mesh.setNode endpoint (some next) with
            inFlight := mesh.inFlight.eraseIdx index
            handed :=
              mesh.handed
              ++ if node.sidecarSet then [(endpoint, envelope.messageId)] else [] }
  | lose (index : Nat)
      : Change mesh (.lose index) { mesh with inFlight := mesh.inFlight.eraseIdx index }

theorem change_of_step {mesh after : Mesh} {action : Action}
    (taken : mesh.step action = some after)
    : Change mesh action after := by
  cases action with
  | start endpoint settings =>
      cases taken
      exact .start endpoint settings
  | stop endpoint =>
      cases taken
      exact .stop endpoint
  | node endpoint action =>
      simp only [step] at taken
      split at taken
      · cases taken
      · rename_i node up
        obtain ⟨⟨next, pushes⟩, moved, rfl⟩ := Option.map_eq_some_iff.mp taken
        exact .node up moved
  | arrive index thread context =>
      simp only [step] at taken
      split at taken
      · cases taken
      · rename_i endpoint envelope flying
        split at taken
        · cases taken
        · rename_i node up
          obtain ⟨⟨next, ack⟩, answered, rfl⟩ := Option.map_eq_some_iff.mp taken
          obtain ⟨_, moved, made⟩ := Option.map_eq_some_iff.mp answered
          cases made
          exact .arrive flying up moved
  | lose index =>
      simp only [step, Option.ite_none_right_eq_some, Option.some.injEq] at taken
      obtain ⟨_, rfl⟩ := taken
      exact .lose index

theorem nodes_setNode (mesh : Mesh) (endpoint other : ByteString) (node : Option MeshNode)
    : (mesh.setNode endpoint node).nodes other
      = if other = endpoint then node else mesh.nodes other :=
  Function.update_apply _ _ _ _

-----------------------------------------------------------------------------------------
-- Where messages come from
-----------------------------------------------------------------------------------------

/-- Daemons and pushes carry what the run has published. -/
structure Traced (actions : List Action) (mesh : Mesh) : Prop where
  nodes
    : ∀ endpoint node, mesh.nodes endpoint = some node → node.Traced (Originates actions)
  named
    : ∀ endpoint node,
        mesh.nodes endpoint = some node
        → ∃ settings,
            .start endpoint settings ∈ actions
            ∧ node.registry.localNodeId = settings.localNodeId
  inFlight : ∀ push ∈ mesh.inFlight, Originates actions push.2

theorem traced_empty : Traced [] {} where
  nodes endpoint node up := by cases up
  named endpoint node up := by cases up
  inFlight push member := by cases member

theorem Traced.later {actions : List Action} {mesh : Mesh} (traced : mesh.Traced actions)
    (action : Action)
    : mesh.Traced (actions ++ [action]) where
  nodes endpoint node up :=
    (traced.nodes endpoint node up).mono (fun _ originates => originates.append _)
  named endpoint node up := by
    obtain ⟨settings, started, named⟩ := traced.named endpoint node up
    exact ⟨settings, List.mem_append_left _ started, named⟩
  inFlight push member := (traced.inFlight push member).append _

/-- One daemon is replaced. -/
theorem Traced.setNode {actions : List Action} {mesh : Mesh} (traced : mesh.Traced actions)
    (endpoint : ByteString) {replaced : Option MeshNode}
    (sound : ∀ node ∈ replaced, node.Traced (Originates actions))
    (named
      : ∀ node ∈ replaced,
          ∃ settings,
            .start endpoint settings ∈ actions
            ∧ node.registry.localNodeId = settings.localNodeId)
    : (mesh.setNode endpoint replaced).Traced actions where
  nodes other node up := by
    rw [nodes_setNode] at up
    split at up
    · exact sound node up
    · exact traced.nodes other node up
  named other node up := by
    rw [nodes_setNode] at up
    split at up
    · rename_i same
      subst same
      exact named node up
    · exact traced.named other node up
  inFlight := traced.inFlight

theorem originatesAt_publish {endpoint : ByteString} {actions : List Action}
    {settings : NodeSettings} {node : MeshNode} {thread : Nat} {context : CallContext}
    {request : PublishRequest} (started : .start endpoint settings ∈ actions)
    (published : .node endpoint (.publish thread context request) ∈ actions)
    (named : node.registry.localNodeId = settings.localNodeId)
    : OriginatesAt endpoint actions
        (node.threads.service.publishedEnvelope context request) := by
  refine ⟨settings, thread, context, request, started, published, ?_⟩
  rw [← named]
  rfl

theorem Traced.step {actions : List Action} {mesh after : Mesh} {action : Action}
    (before : mesh.Traced actions) (taken : mesh.step action = some after)
    : after.Traced (actions ++ [action]) := by
  have traced := before.later action
  have here : action ∈ actions ++ [action] := by simp
  cases change_of_step taken with
  | start endpoint settings =>
      refine traced.setNode endpoint ?_ ?_
      · intro node is
        cases is
        exact ⟨ServiceThreads.traced_start _ _ _ _ _, by simp [MeshNode.start],
          by simp [MeshNode.start]⟩
      · intro node is
        cases is
        exact ⟨settings, here, rfl⟩
  | stop endpoint => exact traced.setNode endpoint (by simp) (by simp)
  | @node endpoint action node next pushes up moved =>
      obtain ⟨settings, started, named⟩ := traced.named endpoint node up
      have published
        : ∀ thread context request,
            action = .publish thread context request
            → Originates (actions ++ [.node endpoint action])
                (node.threads.service.publishedEnvelope context request) := by
        intro thread context request is
        subst is
        exact ⟨endpoint, originatesAt_publish started here named⟩
      obtain ⟨sound, sent⟩ := (traced.nodes endpoint node up).step published moved
      have replaced
        : (mesh.setNode endpoint (some next)).Traced
            (actions ++ [.node endpoint action]) := by
        refine traced.setNode endpoint ?_ ?_
        · intro other is
          cases is
          exact sound
        · intro other is
          cases is
          exact ⟨settings, started, (MeshNode.localNodeId_step moved).trans named⟩
      refine ⟨replaced.nodes, replaced.named, ?_⟩
      intro push member
      rcases List.mem_append.mp member with old | new
      · exact traced.inFlight push old
      · exact sent push new
  | @arrive index thread context endpoint envelope node next flying up moved =>
      obtain ⟨settings, started, named⟩ := traced.named endpoint node up
      have is := traced.inFlight (endpoint, envelope) (List.mem_of_getElem? flying)
      have replaced
        : (mesh.setNode endpoint (some next)).Traced
            (actions ++ [.arrive index thread context]) := by
        refine traced.setNode endpoint ?_ ?_
        · intro other same
          cases same
          exact (traced.nodes endpoint node up).deliverLocally is moved
        · intro other same
          cases same
          exact ⟨settings, started,
            (MeshNode.deliverLocally_sameRoutes moved).localNodeId.trans named⟩
      exact ⟨replaced.nodes, replaced.named,
        fun push member => traced.inFlight push (List.mem_of_mem_eraseIdx member)⟩
  | lose index =>
      exact ⟨traced.nodes, traced.named,
        fun push member => traced.inFlight push (List.mem_of_mem_eraseIdx member)⟩

theorem traced_of_exec {actions : List Action} {mesh : Mesh}
    (run : exec step {} actions = some mesh)
    : mesh.Traced actions :=
  exec_induction (motive := fun actions mesh => mesh.Traced actions) traced_empty
    (fun _ traced taken => traced.step taken) run

/-- A message has one of the topics, and a subscription's first event names them all. -/
def OnTopics (topics : List ByteString) : MessageEvent → Prop
  | .notSet | .replayComplete _ _ => True
  | .subscriptionInfo info => info.topics = topics
  | .message sent | .retainedMessage sent | .replayMessage sent => sent.topic ∈ topics

/-- What the event says was said in a Publish of the run. A live message has all of it, with
the id and the time the Publish gave it and the node it was made at.
-/
def PublishedIn (actions : List Action) : MessageEvent → Prop
  | .notSet | .replayComplete _ _ | .subscriptionInfo _ => True
  | .message sent =>
      ∃ endpoint settings thread context request,
        .start endpoint settings ∈ actions
        ∧ .node endpoint (.publish thread context request) ∈ actions
        ∧ sent
          = {
              messageId := context.uuid
              topic := request.topic
              payload := request.payload
              contentType := request.contentType
              timestampMs := context.systemMs
              sourceNodeId := settings.localNodeId
              correlationId := request.correlationId
              sequenceNumber := sent.sequenceNumber
            }
  | .retainedMessage sent | .replayMessage sent =>
      ∃ endpoint thread context request,
        .node endpoint (.publish thread context request) ∈ actions
        ∧ sent.topic = request.topic
        ∧ sent.payload = request.payload

theorem onTopics_of_tracedTo {source : MessageEnvelope → Prop} {topics : List ByteString}
    {event : MessageEvent} (traced : event.TracedTo source topics)
    : OnTopics topics event := by
  cases event with
  | notSet | replayComplete => trivial
  | subscriptionInfo info => exact traced
  | message sent | retainedMessage sent | replayMessage sent => exact traced.1

theorem publishedIn_of_told {actions : List Action} {topic payload : ByteString}
    (told : Told (Originates actions) topic payload)
    : ∃ endpoint thread context request,
        .node endpoint (.publish thread context request) ∈ actions
        ∧ topic = request.topic
        ∧ payload = request.payload := by
  obtain ⟨envelope, origin, on, carries⟩ := told
  obtain ⟨endpoint, _, thread, context, request, _, published, rfl⟩ := origin
  exact ⟨endpoint, thread, context, request, published, on.symm, carries.symm⟩

theorem publishedIn_of_tracedTo {actions : List Action} {topics : List ByteString}
    {event : MessageEvent} (traced : event.TracedTo (Originates actions) topics)
    : PublishedIn actions event := by
  cases event with
  | notSet | replayComplete | subscriptionInfo => trivial
  | message sent =>
      obtain ⟨_, envelope, origin, is⟩ := traced
      obtain ⟨endpoint, settings, thread, context, request, started, published, rfl⟩ := origin
      exact ⟨endpoint, settings, thread, context, request, started, published,
        (MessageEvent.message.inj is).symm⟩
  | retainedMessage sent | replayMessage sent => exact publishedIn_of_told traced.2

/-- No subscriber is sent a message on a topic it did not ask for: not live, not from the
retained messages and not from the replay buffer.
-/
theorem events_onTopics_of_exec {actions : List Action} {mesh : Mesh}
    (run : exec step {} actions = some mesh) {endpoint : ByteString} {node : MeshNode}
    (up : mesh.nodes endpoint = some node) {handle : Nat} {stream : SubscriptionStream}
    (found : node.threads.service.streams handle = some stream)
    : stream.EveryEvent (OnTopics stream.topics) := by
  have traced := (traced_of_exec run).nodes endpoint node up
  exact (traced.threads.service.streams handle stream found).mono
    (fun _ traced => onTopics_of_tracedTo traced)

/-- Nothing reaches a subscriber that was not published somewhere in the mesh, and a live
message arrives as it was published.
-/
theorem events_published_of_exec {actions : List Action} {mesh : Mesh}
    (run : exec step {} actions = some mesh) {endpoint : ByteString} {node : MeshNode}
    (up : mesh.nodes endpoint = some node) {handle : Nat} {stream : SubscriptionStream}
    (found : node.threads.service.streams handle = some stream)
    : stream.EveryEvent (PublishedIn actions) := by
  have traced := (traced_of_exec run).nodes endpoint node up
  exact (traced.threads.service.streams handle stream found).mono
    (fun _ traced => publishedIn_of_tracedTo traced)

/-- Where the daemon of `beaconOf` listens. -/
def peerEndpoint : ByteString := [49, 58, 55]

/-- A daemon learns of another one with a subscriber to topic 97 and publishes there; the push
arrives and is delivered.
-/
def forwards : List Action :=
  [ .start [65] { localNodeId := [1], messageBufferSize := 5, maxBufferMemory := 0 },
    .start peerEndpoint { localNodeId := [2], messageBufferSize := 5, maxBufferMemory := 0 },
    .node peerEndpoint (.serve (.handle (.subscribe {} { topics := [[97]] }))),
    .node [65] (.peer (.upsertPeer 0 ((SidecarService.beaconOf [2]).record 0))),
    .node [65] (.peer (.updatePeerState [2] [[97]] 5)),
    .node [65] (.publish 0 { uuid := [9] } { topic := [97], payload := [120] }),
    .node [65] (.getRemoteSubscribers 0 .asStored),
    .node [65] (.pushNext 0),
    .node [65] (.deliverOwn 0 {}),
    .arrive 0 0 {},
    .node peerEndpoint (.serve (.deliver 0 {})),
    .node peerEndpoint (.serve (.deliver 0 {})) ]

/-- The live message with the id and the node of its Publish. -/
def forwarded : MessageEvent :=
  .message
    {
      messageId := [9]
      topic := [97]
      payload := [120]
      timestampMs := 0
      sourceNodeId := [1]
      sequenceNumber := 1
    }

theorem forwards_runs
    : ∃ mesh node stream,
        exec step {} forwards = some mesh
        ∧ mesh.nodes peerEndpoint = some node
        ∧ node.threads.service.streams 0 = some stream
        ∧ stream.writeSide.currentEvent = forwarded
        ∧ mesh.handed = [([65], [9]), (peerEndpoint, [9])]
        ∧ mesh.inFlight.length = 0 :=
  ⟨_, _, _, rfl, rfl, rfl, by decide +kernel, by decide +kernel, by decide +kernel⟩

theorem events_onTopics_forwards
    : ∃ mesh node stream,
        exec step {} forwards = some mesh
        ∧ mesh.nodes peerEndpoint = some node
        ∧ node.threads.service.streams 0 = some stream
        ∧ stream.writeSide.currentEvent = forwarded
        ∧ stream.EveryEvent (OnTopics stream.topics) := by
  obtain ⟨mesh, node, stream, run, up, found, is, _⟩ := forwards_runs
  exact ⟨mesh, node, stream, run, up, found, is, events_onTopics_of_exec run up found⟩

theorem events_published_forwards
    : ∃ mesh node stream,
        exec step {} forwards = some mesh
        ∧ mesh.nodes peerEndpoint = some node
        ∧ node.threads.service.streams 0 = some stream
        ∧ stream.writeSide.currentEvent = forwarded
        ∧ stream.EveryEvent (PublishedIn forwards) := by
  obtain ⟨mesh, node, stream, run, up, found, is, _⟩ := forwards_runs
  exact ⟨mesh, node, stream, run, up, found, is, events_published_of_exec run up found⟩

end Mesh

end NexusD.Services
