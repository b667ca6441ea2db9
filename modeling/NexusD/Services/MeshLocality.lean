import NexusD.Services.MeshDelivery
import NexusD.Services.RetainedMessages

/-! What daemons do not do for each other.
A daemon sends only messages that it has itself been asked to publish, so a message makes one
hop. And what a daemon retains is decided by its own Publish calls and its own sweeps: a message
that is pushed to it leaves nothing behind for later subscribers.
-/

namespace NexusD.Services

open NexusD.Core NexusD.Library

def PublishPc.envelope : PublishPc → Option MessageEnvelope
  | .idle => none
  | .stored envelope | .forwarding envelope _ => some envelope

namespace MeshNode

/-- The message of a Publish call stays the one it was called with. -/
theorem envelope_of_step {node next : MeshNode} {action : NodeAction} {pushes : List Push}
    (taken : node.step action = some (next, pushes)) {thread : Nat}
    {envelope : MessageEnvelope} (about : (next.publishers thread).envelope = some envelope)
    : (node.publishers thread).envelope = some envelope
      ∨ ∃ context request,
          action = .publish thread context request
          ∧ envelope = node.threads.service.publishedEnvelope context request := by
  have atThread {other : Nat} {pc : PublishPc}
      (moved : next.publishers = Function.update node.publishers other pc)
      : (thread = other ∧ pc.envelope = some envelope)
        ∨ (node.publishers thread).envelope = some envelope := by
    rw [moved] at about
    by_cases same : thread = other
    · subst same
      rw [Function.update_self] at about
      exact .inl ⟨rfl, about⟩
    · rw [Function.update_of_ne same] at about
      exact .inr about
  cases publishes_of_step taken with
  | begins free moved =>
      rcases atThread moved with ⟨rfl, is⟩ | older
      · cases is
        exact .inr ⟨_, _, rfl, rfl⟩
      · exact .inl older
  | looksUp stands moved | pushes stands moved =>
      rcases atThread moved with ⟨rfl, is⟩ | older
      · rw [stands]
        exact .inl is
      · exact .inl older
  | delivers stands moved =>
      rcases atThread moved with ⟨_, is⟩ | older
      · cases is
      · exact .inl older
  | rests same quiet silent =>
      rw [same] at about
      exact .inl about

/-- A daemon pushes the messages of its Publish calls. -/
theorem envelope_of_push {node next : MeshNode} {action : NodeAction} {pushes : List Push}
    (taken : node.step action = some (next, pushes)) {push : Push} (sent : push ∈ pushes)
    : ∃ thread, (node.publishers thread).envelope = some push.2 := by
  cases publishes_of_step taken with
  | pushes stands moved =>
      obtain ⟨peer, _, rfl⟩ := List.mem_map.mp sent
      exact ⟨_, congrArg PublishPc.envelope stands⟩
  | begins | looksUp | delivers | rests => cases sent

end MeshNode

namespace Mesh

/-- All Publish calls under way are about messages published where they run. -/
def OwnMessages (actions : List Action) (mesh : Mesh) : Prop :=
  ∀ endpoint node thread envelope,
    mesh.nodes endpoint = some node
    → (node.publishers thread).envelope = some envelope
    → OriginatesAt endpoint actions envelope

theorem OwnMessages.setNode {actions : List Action} {mesh : Mesh}
    (own : OwnMessages actions mesh) {endpoint : ByteString} {next : Option MeshNode}
    (here
      : ∀ node ∈ next, ∀ thread envelope,
          (node.publishers thread).envelope = some envelope
          → OriginatesAt endpoint actions envelope)
    : OwnMessages actions (mesh.setNode endpoint next) := by
  intro other node thread envelope up about
  rw [nodes_setNode] at up
  split at up
  · rename_i same
    subst same
    exact here node up thread envelope about
  · exact own other node thread envelope up about

theorem OwnMessages.step {actions : List Action} {mesh after : Mesh} {action : Action}
    (own : OwnMessages actions mesh) (traced : mesh.Traced actions)
    (taken : mesh.step action = some after)
    : OwnMessages (actions ++ [action]) after := by
  have later : OwnMessages (actions ++ [action]) mesh := by
    intro endpoint node thread envelope up about
    exact (own endpoint node thread envelope up about).append _
  cases change_of_step taken with
  | start endpoint settings =>
      refine later.setNode ?_
      intro node is thread envelope about
      cases is
      cases about
  | stop endpoint =>
      refine later.setNode ?_
      intro node is
      cases is
  | @node endpoint action node next pushes up moved =>
      refine later.setNode ?_
      intro current is thread envelope about
      cases is
      rcases MeshNode.envelope_of_step moved about with older | ⟨context, request, rfl, rfl⟩
      · exact later endpoint node thread envelope up older
      · obtain ⟨settings, started, named⟩ := traced.named endpoint node up
        exact originatesAt_publish (List.mem_append_left _ started)
          (List.mem_append_right _ List.mem_cons_self) named
  | @arrive index thread context endpoint envelope node next flying up moved =>
      refine later.setNode ?_
      intro current is other about said
      cases is
      rw [MeshNode.deliverLocally_publishers moved] at said
      exact later endpoint node other about up said
  | lose index => exact later

/-- Daemons do not relay: whatever a daemon sends, in whichever state a run has brought it to,
it has been asked to publish itself.
-/
theorem pushes_originateAt_of_exec {actions : List Action} {mesh : Mesh}
    (run : exec step {} actions = some mesh) {endpoint : ByteString} {node next : MeshNode}
    (up : mesh.nodes endpoint = some node) {action : NodeAction} {pushes : List Push}
    (taken : node.step action = some (next, pushes)) {push : Push} (sent : push ∈ pushes)
    : OriginatesAt endpoint actions push.2 := by
  have own : OwnMessages actions mesh :=
    exec_induction (motive := OwnMessages) (by intro endpoint node thread envelope up; cases up)
      (fun reached own taken => own.step (traced_of_exec reached) taken) run
  obtain ⟨thread, about⟩ := MeshNode.envelope_of_push taken sent
  exact own endpoint node thread push.2 up about

theorem pushes_originateAt_forwards
    : ∃ mesh node next push,
        exec step {} (forwards.take 7) = some mesh
        ∧ mesh.nodes [65] = some node
        ∧ node.step (.pushNext 0) = some (next, [push])
        ∧ OriginatesAt [65] (forwards.take 7) push.2 := by
  have sends
    : ∃ mesh node next push,
        exec step {} (forwards.take 7) = some mesh
        ∧ mesh.nodes [65] = some node
        ∧ node.step (.pushNext 0) = some (next, [push]) :=
    ⟨_, _, _, _, rfl, rfl, rfl⟩
  obtain ⟨mesh, node, next, push, run, up, taken⟩ := sends
  exact ⟨mesh, node, next, push, run, up, taken,
    pushes_originateAt_of_exec run up taken List.mem_cons_self⟩

-----------------------------------------------------------------------------------------
-- Retained messages
-----------------------------------------------------------------------------------------

end Mesh

/-- What a step of the daemon makes of the topic's retained message. -/
def NodeAction.retainedAfter (localNodeId topic : ByteString) (stored : Option RetainedMessage)
    : NodeAction → Option RetainedMessage
  | .publish _ context request =>
      Services.retainedAfter localNodeId topic stored (.request (.publish context request))
  | .clearExpiredRetainedMessages order nowMs =>
      Services.retainedAfter localNodeId topic stored
        (.clearExpiredRetainedMessages order nowMs)
  | .getRemoteSubscribers _ _ | .pushNext _ | .deliverOwn _ _ | .serve _ | .peer _
  | .reapExpired _ _ => stored

namespace MeshNode

theorem serve_retained {node next : MeshNode} {action : ServiceThreads.Action}
    (taken : node.serve action = some next) (topic : ByteString)
    : next.registry.getRetainedMessage topic
      = (node.threads.retainedBy action).registry.getRetainedMessage topic := by
  obtain ⟨threads, moved, rfl⟩ := Option.map_eq_some_iff.mp taken
  have same := ServiceThreads.step_sameMesh moved
  rw [PeerRegistry.getRetainedMessage, PeerRegistry.getRetainedMessage]
  exact congrArg _ same.retainedMessages

theorem step_retained {node next : MeshNode} {action : NodeAction} {pushes : List Push}
    (taken : node.step action = some (next, pushes)) (topic : ByteString)
    : next.registry.getRetainedMessage topic
      = action.retainedAfter node.registry.localNodeId topic
          (node.registry.getRetainedMessage topic) := by
  cases move_of_step taken with
  | publish free served =>
      exact (serve_retained served topic).trans
        (node.threads.service.getRetainedMessage_retain _ _ topic)
  | lookUp | push => rfl
  | deliver stands served => exact serve_retained served topic
  | @serve action next allowed served =>
      refine (serve_retained served topic).trans ?_
      cases action with
      | retain => cases allowed
      | call | deliver | resumeCall | resume | handle => rfl
  | @peer call => exact congrArg _ (SidecarService.perform_retainedMessages node.registry call)
  | @expire order nowMs =>
      exact SidecarService.getRetainedMessage_clearExpired node.registry order nowMs topic
  | reap =>
      simp only [registry, SidecarService.onStream_registry]
      rfl

theorem deliverLocally_retained {node next : MeshNode} {thread : Nat}
    {context : CallContext} {envelope : MessageEnvelope}
    (taken : node.deliverLocally thread context envelope = some next) (topic : ByteString)
    : next.registry.getRetainedMessage topic = node.registry.getRetainedMessage topic := by
  unfold deliverLocally at taken
  split at taken
  · exact serve_retained taken topic
  · cases taken
    rfl

end MeshNode

namespace Mesh

/-- The node id of the daemon at the endpoint and its retained message of the topic, after one
more action; `none` when there is no daemon.
-/
def retainedStep (endpoint topic : ByteString)
    (known : Option (ByteString × Option RetainedMessage))
    : Action → Option (ByteString × Option RetainedMessage)
  | .start started settings =>
      if started = endpoint then some (settings.localNodeId, none) else known
  | .stop stopped => if stopped = endpoint then none else known
  | .node moving action =>
      if moving = endpoint then
        known.map (fun (id, stored) => (id, action.retainedAfter id topic stored))
      else
        known
  | .arrive _ _ _ | .lose _ => known

def retainedAt (mesh : Mesh) (endpoint topic : ByteString)
    : Option (ByteString × Option RetainedMessage) :=
  (mesh.nodes endpoint).map (fun node =>
    (node.registry.localNodeId, node.registry.getRetainedMessage topic))

theorem retainedAt_setNode (mesh : Mesh) (endpoint other topic : ByteString)
    (node : Option MeshNode)
    : (mesh.setNode endpoint node).retainedAt other topic
      = if endpoint = other then
          node.map (fun node =>
            (node.registry.localNodeId, node.registry.getRetainedMessage topic))
        else
          mesh.retainedAt other topic := by
  rw [retainedAt, nodes_setNode]
  by_cases same : other = endpoint
  · simp [same]
  · simp [same, Ne.symm same, retainedAt]

theorem retainedAt_step {mesh after : Mesh} {action : Action}
    (taken : mesh.step action = some after) (endpoint topic : ByteString)
    : after.retainedAt endpoint topic
      = retainedStep endpoint topic (mesh.retainedAt endpoint topic) action := by
  cases change_of_step taken with
  | start started settings => exact retainedAt_setNode mesh started endpoint topic _
  | stop stopped => exact retainedAt_setNode mesh stopped endpoint topic none
  | @node moving action node next pushes up moved =>
      refine (retainedAt_setNode mesh moving endpoint topic (some next)).trans ?_
      by_cases same : moving = endpoint
      · subst same
        simp [retainedStep, retainedAt, up, MeshNode.localNodeId_step moved,
          MeshNode.step_retained moved]
      · simp [retainedStep, same]
  | @arrive index thread context target envelope node next flying up moved =>
      refine (retainedAt_setNode mesh target endpoint topic (some next)).trans ?_
      by_cases same : target = endpoint
      · subst same
        simp [retainedStep, retainedAt, up,
          (MeshNode.deliverLocally_sameRoutes moved).localNodeId,
          MeshNode.deliverLocally_retained moved]
      · simp [retainedStep, same]
  | lose index => rfl

/-- What a daemon retains is a function of its own Publish calls and sweeps since it started:
the retained message is that of its last Publish with the flag, unless a sweep has found it
expired. Nothing its peers push to it, and no other action of the mesh, has a part in it.
-/
theorem retainedAt_of_exec {actions : List Action} {mesh : Mesh}
    (run : exec step {} actions = some mesh) (endpoint topic : ByteString)
    : mesh.retainedAt endpoint topic
      = actions.foldl (retainedStep endpoint topic) none := by
  refine exec_induction
    (motive := fun actions mesh =>
      mesh.retainedAt endpoint topic = actions.foldl (retainedStep endpoint topic) none)
    rfl ?_ run
  intro actions state action after _ ih taken
  rw [retainedAt_step taken, ih, List.foldl_append]
  rfl

/-- A retained message that is pushed to the other daemon is not retained there. -/
def retains : List Action :=
  [ .start [65] { localNodeId := [1], messageBufferSize := 5, maxBufferMemory := 0 },
    .start peerEndpoint { localNodeId := [2], messageBufferSize := 5, maxBufferMemory := 0 },
    .node [65] (.peer (.upsertPeer 0 ((SidecarService.beaconOf [2]).record 0))),
    .node [65] (.peer (.updatePeerState [2] [[97]] 5)),
    .node [65]
      (.publish 0 { uuid := [9] } { topic := [97], payload := [120], retain := true }),
    .node [65] (.getRemoteSubscribers 0 .asStored),
    .node [65] (.pushNext 0),
    .arrive 0 0 {} ]

theorem retainedAt_retains
    : ∃ mesh,
        exec step {} retains = some mesh
        ∧ mesh.retainedAt peerEndpoint [97]
          = retains.foldl (retainedStep peerEndpoint [97]) none
        ∧ mesh.retainedAt peerEndpoint [97] = some ([2], none)
        ∧ (mesh.retainedAt [65] [97]).isSome = true := by
  have runs
    : ∃ mesh,
        exec step {} retains = some mesh
        ∧ mesh.retainedAt peerEndpoint [97] = some ([2], none)
        ∧ (mesh.retainedAt [65] [97]).isSome = true :=
    ⟨_, rfl, by decide +kernel, by decide +kernel⟩
  obtain ⟨mesh, run, there, here⟩ := runs
  exact ⟨mesh, run, retainedAt_of_exec run _ _, there, here⟩

end Mesh

end NexusD.Services
