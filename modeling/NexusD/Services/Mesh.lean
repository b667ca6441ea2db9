import NexusD.Services.CallProvenance
import NexusD.Services.RemoteForwarding

/-! A mesh of daemons that publish to each other.
A daemon is its service with the calls in flight, the Publish calls that have not come to their
local delivery, and the mesh service in front of it. Between daemons there are the PushMessage
calls that have been sent and not yet handled. Daemons start and stop, pushes arrive in any
order or never, and every handler interleaves with every other.
-/

namespace NexusD.Services

open NexusD.Core NexusD.Library

/-- Where a call of `Publish` is, up to its local delivery. -/
inductive PublishPc where
  | idle
  /-- the envelope is built, and stored if it is to be retained -/
  | stored (envelope : MessageEnvelope)
  /-- `getRemoteSubscribers` has returned, and `remaining` are still to be looked up -/
  | forwarding (envelope : MessageEnvelope) (remaining : List ByteString)

/-- A `PushMessage` call: the endpoint it goes to and its envelope. -/
abbrev Push := ByteString × MessageEnvelope

/-- The answer to a `PushMessage` call. -/
structure Ack where
  success : Bool
  messageId : ByteString
deriving DecidableEq, Repr

structure MeshNode where
  threads : ServiceThreads
  publishers : Nat → PublishPc := fun _ => .idle
  /-- `setSidecarService` has been called on the mesh service -/
  sidecarSet : Bool

structure NodeSettings where
  config : ServiceConfig := {}
  localNodeId : ByteString
  messageBufferSize : Nat
  maxBufferMemory : Nat
  sidecarSet : Bool := true

inductive NodeAction where
  /-- `Publish` is called and builds its envelope -/
  | publish (thread : Nat) (context : CallContext) (request : PublishRequest)
  | getRemoteSubscribers (thread : Nat) (order : IterationOrder ByteString)
  /-- the next peer is looked up, and the message is pushed to it -/
  | pushNext (thread : Nat)
  /-- all peers are served, and `deliverFromRemote` is called -/
  | deliverOwn (thread : Nat) (context : CallContext)
  /-- a step of a handler other than Publish and PushMessage -/
  | serve (action : ServiceThreads.Action)
  | peer (call : PeerCall)
  | clearExpiredRetainedMessages (order : IterationOrder ByteString) (nowMs : Int)
  /-- the TTL reaper comes to a stream -/
  | reapExpired (now : TimePoint) (handle : Nat)

/-- Deliveries come from Publish and PushMessage only, and a ResumeSubscribe goes by steps. -/
def ServiceThreads.Action.isServed : ServiceThreads.Action → Bool
  | .call _ _ _ | .retain _ _ | .handle (.resumeSubscribe _ _) => false
  | .deliver _ _ | .resumeCall _ _ | .resume _ _ | .handle _ => true

namespace MeshNode

def start (settings : NodeSettings) : MeshNode where
  threads :=
    {
      service :=
        .create settings.config { localNodeId := settings.localNodeId }
          settings.messageBufferSize settings.maxBufferMemory
    }
  sidecarSet := settings.sidecarSet

def registry (node : MeshNode) : PeerRegistry := node.threads.service.registry

def withRegistry (node : MeshNode) (registry : PeerRegistry) : MeshNode :=
  { node with
    threads := { node.threads with service := { node.threads.service with registry } } }

def setPublisher (node : MeshNode) (thread : Nat) (pc : PublishPc) : MeshNode :=
  { node with publishers := Function.update node.publishers thread pc }

/-- A step of the daemon's service. -/
def serve (node : MeshNode) (action : ServiceThreads.Action) : Option MeshNode :=
  (node.threads.step action).map (fun threads => { node with threads })

/-- `MeshServiceImpl::deliverLocally`; without a sidecar service the envelope is dropped. -/
def deliverLocally (node : MeshNode) (thread : Nat) (context : CallContext)
    (envelope : MessageEnvelope)
    : Option MeshNode :=
  if node.sidecarSet then node.serve (.call thread context envelope) else some node

/-- `PushMessage` acknowledges whatever `deliverLocally` did, once that has returned. -/
def pushMessage (node : MeshNode) (thread : Nat) (context : CallContext)
    (envelope : MessageEnvelope)
    : Option (MeshNode × Ack) :=
  (node.deliverLocally thread context envelope).map
    (fun node => (node, { success := true, messageId := envelope.messageId }))

/-- A step of the daemon, with the pushes it sends. -/
def step (node : MeshNode) : NodeAction → Option (MeshNode × List Push)
  | .publish thread context request =>
      match node.publishers thread with
      | .idle =>
          (node.serve (.retain context request)).map (fun stored =>
            (stored.setPublisher thread
              (.stored (node.threads.service.publishedEnvelope context request)), []))
      | _ => none
  | .getRemoteSubscribers thread order =>
      match node.publishers thread with
      | .stored envelope =>
          let remaining := node.registry.getRemoteSubscribers order envelope.topic
          some (node.setPublisher thread (.forwarding envelope remaining), [])
      | _ => none
  | .pushNext thread =>
      match node.publishers thread with
      | .forwarding envelope (id :: remaining) =>
          let pushes :=
            (node.registry.getPeer id).toList.map (fun peer => (peer.endpoint, envelope))
          some (node.setPublisher thread (.forwarding envelope remaining), pushes)
      | _ => none
  | .deliverOwn thread context =>
      match node.publishers thread with
      | .forwarding envelope [] =>
          (node.serve (.call thread context envelope)).map (fun called =>
            (called.setPublisher thread .idle, []))
      | _ => none
  | .serve action =>
      if action.isServed then (node.serve action).map (·, []) else none
  | .peer call => some (node.withRegistry (node.registry.perform call), [])
  | .clearExpiredRetainedMessages order nowMs =>
      some (node.withRegistry (node.registry.clearExpiredRetainedMessages order nowMs), [])
  | .reapExpired now handle =>
      (node.threads.service.reapExpired now handle).map (fun service =>
        ({ node with threads := { node.threads with service } }, []))

/-- What a step does, with the pushes it sends. -/
inductive Move (node : MeshNode) : NodeAction → MeshNode → List Push → Prop
  | publish {thread context request stored} (free : node.publishers thread = .idle)
      (served : node.serve (.retain context request) = some stored)
      : Move node (.publish thread context request)
          (stored.setPublisher thread
            (.stored (node.threads.service.publishedEnvelope context request)))
          []
  | lookUp {thread order envelope} (stands : node.publishers thread = .stored envelope)
      : Move node (.getRemoteSubscribers thread order)
          (node.setPublisher thread
            (.forwarding envelope (node.registry.getRemoteSubscribers order envelope.topic)))
          []
  | push {thread envelope id remaining}
      (stands : node.publishers thread = .forwarding envelope (id :: remaining))
      : Move node (.pushNext thread)
          (node.setPublisher thread (.forwarding envelope remaining))
          ((node.registry.getPeer id).toList.map (fun peer => (peer.endpoint, envelope)))
  | deliver {thread context envelope called}
      (stands : node.publishers thread = .forwarding envelope [])
      (served : node.serve (.call thread context envelope) = some called)
      : Move node (.deliverOwn thread context) (called.setPublisher thread .idle) []
  | serve {action next} (allowed : action.isServed = true)
      (served : node.serve action = some next)
      : Move node (.serve action) next []
  | peer {call} : Move node (.peer call) (node.withRegistry (node.registry.perform call)) []
  | expire {order nowMs}
      : Move node (.clearExpiredRetainedMessages order nowMs)
          (node.withRegistry (node.registry.clearExpiredRetainedMessages order nowMs)) []
  | reap {now handle stream} (found : node.threads.service.streams handle = some stream)
      (listed
        : node.threads.service.activeStreams.lookup stream.subscriptionId = some handle)
      : Move node (.reapExpired now handle)
          { node with
            threads :=
              { node.threads with
                service :=
                  node.threads.service.onStream handle
                    (fun stream => stream.reapExpired now) } }
          []

theorem move_of_step {node next : MeshNode} {action : NodeAction} {pushes : List Push}
    (taken : node.step action = some (next, pushes))
    : node.Move action next pushes := by
  cases action with
  | publish thread context request =>
      simp only [step] at taken
      split at taken
      · rename_i free
        obtain ⟨stored, served, made⟩ := Option.map_eq_some_iff.mp taken
        cases made
        exact .publish free served
      · cases taken
  | getRemoteSubscribers thread order =>
      simp only [step] at taken
      split at taken
      · rename_i envelope stands
        cases taken
        exact .lookUp stands
      · cases taken
  | pushNext thread =>
      simp only [step] at taken
      split at taken
      · rename_i envelope id remaining stands
        cases taken
        exact .push stands
      · cases taken
  | deliverOwn thread context =>
      simp only [step] at taken
      split at taken
      · rename_i envelope stands
        obtain ⟨called, served, made⟩ := Option.map_eq_some_iff.mp taken
        cases made
        exact .deliver stands served
      · cases taken
  | serve action =>
      simp only [step, Option.ite_none_right_eq_some] at taken
      obtain ⟨after, served, made⟩ := Option.map_eq_some_iff.mp taken.2
      cases made
      exact .serve taken.1 served
  | peer call =>
      cases taken
      exact .peer
  | clearExpiredRetainedMessages order nowMs =>
      cases taken
      exact .expire
  | reapExpired now handle =>
      obtain ⟨service, reaped, made⟩ := Option.map_eq_some_iff.mp taken
      cases made
      obtain ⟨stream, found, listed, rfl⟩ := SidecarService.reapExpired_eq_some reaped
      exact .reap found listed

end MeshNode

-----------------------------------------------------------------------------------------
-- The mesh
-----------------------------------------------------------------------------------------

/-- The daemons by the endpoint their mesh service listens on, the pushes under way, and the
record of the messages handed to `deliverFromRemote`, by endpoint and message id.
-/
structure Mesh where
  nodes : ByteString → Option MeshNode := fun _ => none
  inFlight : List Push := []
  handed : List (ByteString × ByteString) := []

namespace Mesh

inductive Action where
  /-- a daemon starts, afresh, at an endpoint -/
  | start (endpoint : ByteString) (settings : NodeSettings)
  | stop (endpoint : ByteString)
  | node (endpoint : ByteString) (action : NodeAction)
  /-- a push under way is handled by the daemon it is addressed to -/
  | arrive (index thread : Nat) (context : CallContext)
  /-- a push under way fails -/
  | lose (index : Nat)

def setNode (mesh : Mesh) (endpoint : ByteString) (node : Option MeshNode) : Mesh :=
  { mesh with nodes := Function.update mesh.nodes endpoint node }

/-- What a daemon's own step hands to its `deliverFromRemote`. -/
def handsOver (node : MeshNode) : NodeAction → List ByteString
  | .deliverOwn thread _ =>
      match node.publishers thread with
      | .forwarding envelope _ => [envelope.messageId]
      | _ => []
  | _ => []

def step (mesh : Mesh) : Action → Option Mesh
  | .start endpoint settings => some (mesh.setNode endpoint (some (.start settings)))
  | .stop endpoint => some (mesh.setNode endpoint none)
  | .node endpoint action =>
      match mesh.nodes endpoint with
      | none => none
      | some node =>
          (node.step action).map (fun (next, pushes) =>
            { mesh.setNode endpoint (some next) with
              inFlight := mesh.inFlight ++ pushes
              handed :=
                mesh.handed ++ (handsOver node action).map (fun id => (endpoint, id)) })
  | .arrive index thread context =>
      match mesh.inFlight[index]? with
      | none => none
      | some (endpoint, envelope) =>
          match mesh.nodes endpoint with
          | none => none
          | some node =>
              (node.pushMessage thread context envelope).map (fun (next, _) =>
                { mesh.setNode endpoint (some next) with
                  inFlight := mesh.inFlight.eraseIdx index
                  handed :=
                    mesh.handed
                    ++ if node.sidecarSet then [(endpoint, envelope.messageId)] else [] })
  | .lose index =>
      if index < mesh.inFlight.length then
        some { mesh with inFlight := mesh.inFlight.eraseIdx index }
      else
        none

/-- The envelope was built by a Publish at the endpoint, by a daemon that was started there. -/
def OriginatesAt (endpoint : ByteString) (actions : List Action) (envelope : MessageEnvelope)
    : Prop :=
  ∃ settings thread context request,
    .start endpoint settings ∈ actions
    ∧ .node endpoint (.publish thread context request) ∈ actions
    ∧ envelope
      = {
          messageId := context.uuid
          topic := request.topic
          payload := request.payload
          contentType := request.contentType
          timestampMs := context.systemMs
          sourceNodeId := settings.localNodeId
          retain := request.retain
          correlationId := request.correlationId
          ttlMs := request.ttlMs
        }

def Originates (actions : List Action) (envelope : MessageEnvelope) : Prop :=
  ∃ endpoint, OriginatesAt endpoint actions envelope

theorem OriginatesAt.append {endpoint : ByteString} {actions : List Action}
    {envelope : MessageEnvelope} (originates : OriginatesAt endpoint actions envelope)
    (more : List Action)
    : OriginatesAt endpoint (actions ++ more) envelope := by
  obtain ⟨settings, thread, context, request, started, published, is⟩ := originates
  exact ⟨settings, thread, context, request, List.mem_append_left _ started,
    List.mem_append_left _ published, is⟩

theorem Originates.append {actions : List Action} {envelope : MessageEnvelope}
    (originates : Originates actions envelope) (more : List Action)
    : Originates (actions ++ more) envelope := by
  obtain ⟨endpoint, there⟩ := originates
  exact ⟨endpoint, there.append more⟩

end Mesh

-----------------------------------------------------------------------------------------
-- Where the messages of a mesh come from
-----------------------------------------------------------------------------------------

/-- The calls of the service leave the node id, the peers and the routes alone. -/
structure SameRoutes (before after : PeerRegistry) : Prop where
  localNodeId : after.localNodeId = before.localNodeId
  peers : after.peers = before.peers
  routingTable : after.routingTable = before.routingTable

theorem SameRoutes.refl (registry : PeerRegistry) : SameRoutes registry registry :=
  ⟨rfl, rfl, rfl⟩

theorem SameRoutes.of_sameMesh {before after : PeerRegistry} (same : before.SameMesh after)
    : SameRoutes before after :=
  ⟨same.localNodeId, same.peers, same.routingTable⟩

theorem retain_sameRoutes (service : SidecarService) (context : CallContext)
    (request : PublishRequest)
    : SameRoutes service.registry (service.retain context request).registry := by
  unfold SidecarService.retain
  split <;> exact ⟨rfl, rfl, rfl⟩

/-- A Publish stores the message to be retained; nothing else touches the retained messages. -/
def ServiceThreads.retainedBy (state : ServiceThreads) : ServiceThreads.Action → SidecarService
  | .retain context request => state.service.retain context request
  | .call _ _ _ | .deliver _ _ | .resumeCall _ _ | .resume _ _ | .handle _ => state.service

theorem ServiceThreads.step_sameMesh {state after : ServiceThreads}
    {action : ServiceThreads.Action} (taken : state.step action = some after)
    : (state.retainedBy action).registry.SameMesh after.service.registry := by
  cases move_of_step taken with
  | call | refuse | find | retain => exact .refl _
  | deliver stands moved =>
      cases moved with
      | collect | leave => exact .refl _
      | enter | skip =>
          simp only [advance, SidecarService.deliverTo_registry]
          exact .refl _
      | @record envelope number handle remaining =>
          simp only [advance, SidecarService.recordDelivery]
          split
          · exact .refl _
          · exact state.service.registry.updateSubscriptionSequence_sameMesh _ envelope.topic
              number
  | @resume thread context was service pc stands moved =>
      cases moved with
      | track | recover => exact .refl _
      | take => exact state.service.registry.apply_sameMesh (.resume context.now _)
      | attach | finish =>
          simp only [SidecarService.onStream_registry]
          exact .refl _
  | @handle request service apart moved =>
      have same := SidecarService.step_sameMesh moved
      cases request with
      | publish | deliver => cases apart
      | subscribe | unsubscribe | resumeSubscribe | writeDone | cancel => exact same

theorem ServiceThreads.step_sameRoutes {state after : ServiceThreads}
    {action : ServiceThreads.Action} (taken : state.step action = some after)
    : SameRoutes state.service.registry after.service.registry := by
  have same := step_sameMesh taken
  cases action with
  | retain context request =>
      have stored := retain_sameRoutes state.service context request
      exact ⟨same.localNodeId.trans stored.localNodeId, same.peers.trans stored.peers,
        same.routingTable.trans stored.routingTable⟩
  | call | deliver | resumeCall | resume | handle => exact .of_sameMesh same

/-- The calls of the daemon and its Publish calls carry envelopes of `source` only. -/
structure MeshNode.Traced (source : MessageEnvelope → Prop) (node : MeshNode) : Prop where
  threads : node.threads.Traced source
  stored : ∀ thread envelope, node.publishers thread = .stored envelope → source envelope
  forwarding
    : ∀ thread envelope remaining,
        node.publishers thread = .forwarding envelope remaining → source envelope

namespace MeshNode

theorem Traced.mono {source wider : MessageEnvelope → Prop} {node : MeshNode}
    (implied : ∀ envelope, source envelope → wider envelope) (traced : node.Traced source)
    : node.Traced wider where
  threads := traced.threads.mono implied
  stored thread envelope is := implied _ (traced.stored thread envelope is)
  forwarding thread envelope remaining is :=
    implied _ (traced.forwarding thread envelope remaining is)

section Step

variable {source : MessageEnvelope → Prop} {node next : MeshNode}

theorem Traced.withThreads (traced : node.Traced source) {threads : ServiceThreads}
    (sound : threads.Traced source)
    : Traced source { node with threads } :=
  ⟨sound, traced.stored, traced.forwarding⟩

theorem Traced.serve (traced : node.Traced source) {action : ServiceThreads.Action}
    (taken : node.serve action = some next) (sourced : action.Sourced source node.threads)
    : next.Traced source := by
  obtain ⟨threads, moved, rfl⟩ := Option.map_eq_some_iff.mp taken
  exact traced.withThreads (traced.threads.step sourced moved)

theorem Traced.setPublisher (traced : node.Traced source) (thread : Nat) {pc : PublishPc}
    (stored : ∀ envelope, pc = .stored envelope → source envelope)
    (forwarding : ∀ envelope remaining, pc = .forwarding envelope remaining → source envelope)
    : (node.setPublisher thread pc).Traced source where
  threads := traced.threads
  stored other envelope is := by
    simp only [MeshNode.setPublisher, Function.update_apply] at is
    split at is
    · exact stored envelope is
    · exact traced.stored other envelope is
  forwarding other envelope remaining is := by
    simp only [MeshNode.setPublisher, Function.update_apply] at is
    split at is
    · exact forwarding envelope remaining is
    · exact traced.forwarding other envelope remaining is

theorem Traced.deliverLocally (traced : node.Traced source) {thread : Nat}
    {context : CallContext} {envelope : MessageEnvelope} (is : source envelope)
    (taken : node.deliverLocally thread context envelope = some next)
    : next.Traced source := by
  unfold MeshNode.deliverLocally at taken
  split at taken
  · exact traced.serve taken is
  · cases taken
    exact traced

theorem Traced.withRegistry (traced : node.Traced source) {registry : PeerRegistry}
    (known : ∀ id, registry.Knows id → node.registry.Knows id)
    (kept
      : ∀ topic message,
          registry.getRetainedMessage topic = some message
          → node.registry.getRetainedMessage topic = some message)
    : (node.withRegistry registry).Traced source := by
  refine traced.withThreads ?_
  exact traced.threads.moved (traced.threads.table.registry known)
    (traced.threads.service.registry kept) (fun _ _ made => made)

theorem knows_perform {registry : PeerRegistry} {call : PeerCall} {id : ByteString}
    (known : (registry.perform call).Knows id)
    : registry.Knows id := by
  have same := registry.perform_subscriptions call
  simpa [PeerRegistry.Knows, same] using known

theorem sourced_of_isServed {action : ServiceThreads.Action} {threads : ServiceThreads}
    (served : action.isServed = true)
    : action.Sourced source threads := by
  cases action with
  | call | retain => cases served
  | deliver | resumeCall | resume => trivial
  | handle request =>
      cases request with
      | resumeSubscribe => cases served
      | subscribe | unsubscribe | publish | deliver | writeDone | cancel => trivial

/-- A step of a daemon keeps what it has traced, and its pushes carry what its calls did. A
Publish is where envelopes come from.
-/
theorem Traced.step (traced : node.Traced source) {action : NodeAction} {pushes : List Push}
    (published
      : ∀ thread context request,
          action = .publish thread context request
          → source (node.threads.service.publishedEnvelope context request))
    (taken : node.step action = some (next, pushes))
    : next.Traced source ∧ ∀ push ∈ pushes, source push.2 := by
  cases move_of_step taken with
  | @publish thread context request stored free served =>
      have is := published thread context request rfl
      refine ⟨(traced.serve served is).setPublisher thread ?_ (by simp), by simp⟩
      intro envelope same
      cases same
      exact is
  | @lookUp thread order envelope stands =>
      refine ⟨traced.setPublisher thread (by simp) ?_, by simp⟩
      intro other remaining same
      cases same
      exact traced.stored thread envelope stands
  | @push thread envelope id remaining stands =>
      have is := traced.forwarding thread envelope _ stands
      refine ⟨traced.setPublisher thread (by simp) ?_, ?_⟩
      · intro other left same
        cases same
        exact is
      · intro push member
        obtain ⟨peer, _, rfl⟩ := List.mem_map.mp member
        exact is
  | @deliver thread context envelope called stands served =>
      have is := traced.forwarding thread envelope [] stands
      exact ⟨(traced.serve served is).setPublisher thread (by simp) (by simp), by simp⟩
  | serve allowed served => exact ⟨traced.serve served (sourced_of_isServed allowed), by simp⟩
  | peer =>
      refine ⟨traced.withRegistry (fun _ => knows_perform) ?_, by simp⟩
      intro topic message found
      rwa [PeerRegistry.getRetainedMessage,
        SidecarService.perform_retainedMessages] at found
  | expire =>
      refine ⟨traced.withRegistry (fun _ known => known) ?_, by simp⟩
      intro topic message found
      rw [SidecarService.getRetainedMessage_clearExpired] at found
      exact (Option.filter_eq_some_iff.mp found).1
  | @reap now handle stream found listed =>
      have quiet :=
        node.threads.service.onStream_quiet handle
          (fun stream => (rfl : (stream.reapExpired now).identity = stream.identity))
      refine ⟨traced.withThreads ?_, by simp⟩
      exact traced.threads.moved (traced.threads.table.quiet quiet)
        (traced.threads.service.reapExpired now handle)
        (SidecarService.keepsTopics_of_identities quiet.streams)

end Step

end MeshNode

end NexusD.Services
