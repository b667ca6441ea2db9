import NexusD.Services.LiveMessages
import NexusD.Services.MeshDelivery

/-! What the subscribers of a mesh are given.
A delivery owes its message to the streams it has still to visit. Streams are visited once, and
a daemon is handed a message once, so no stream takes a live message twice, whatever the
interleaving of deliveries, resumes, restarts and pushes.
-/

namespace NexusD.Services

open NexusD.Core NexusD.Library

/-- The message a delivery is about, at the daemon `home`, and the streams it may still visit.
-/
def DeliveryPc.debt (home : ByteString)
    : DeliveryPc → Option ((ByteString × ByteString) × Set Nat)
  | .idle => none
  | .buffered envelope _ => some ((home, envelope.messageId), Set.univ)
  | .delivering envelope _ remaining | .recording envelope _ _ remaining =>
      some ((home, envelope.messageId), { handle | handle ∈ remaining })

/-- A delivery visits no stream twice. -/
def DeliveryPc.Distinct : DeliveryPc → Prop
  | .idle | .buffered _ _ => True
  | .delivering _ _ remaining | .recording _ _ _ remaining => remaining.Nodup

namespace ServiceThreads

theorem DeliveryMove.distinct {service next : SidecarService} {context : CallContext}
    {was pc : DeliveryPc} {entries : List QueueEntry}
    (moved : DeliveryMove service context was next pc entries) (table : service.TableInvariant)
    (distinct : was.Distinct)
    : pc.Distinct := by
  cases moved with
  | collect => exact table.nodup_matchingStreams _ _
  | leave => trivial
  | enter | skip =>
      have rest := (List.nodup_cons.mp distinct).2
      exact rest
  | record => exact distinct

theorem Move.distinct {state after : ServiceThreads} {action : Action}
    (move : state.Move action after) (table : state.service.TableInvariant)
    (distinct : ∀ thread, (state.deliveries thread).Distinct) (thread : Nat)
    : (after.deliveries thread).Distinct := by
  have one {mover : Nat} {pc : DeliveryPc} (left : pc.Distinct)
      : (Function.update state.deliveries mover pc thread).Distinct := by
    rw [Function.update_apply]
    split
    · exact left
    · exact distinct thread
  cases move with
  | call => exact one trivial
  | @deliver mover context was service pc entries stands moved =>
      have before := distinct mover
      rw [stands] at before
      exact one (moved.distinct table before)
  | refuse | find | resume | retain | handle => exact distinct thread

/-- The message that a step hands to `deliverFromRemote`. -/
def Action.handedIds : Action → List ByteString
  | .call _ _ envelope => [envelope.messageId]
  | .deliver _ _ | .resumeCall _ _ | .resume _ _ | .retain _ _ | .handle _ => []

end ServiceThreads

-----------------------------------------------------------------------------------------
-- A step of a daemon, as a step of its threads
-----------------------------------------------------------------------------------------

namespace MeshNode

/-- What a daemon's step makes its streams take. -/
def taken (node : MeshNode) : NodeAction → List (Nat × ByteString)
  | .serve action => node.threads.taken action
  | .publish _ _ _ | .getRemoteSubscribers _ _ | .pushNext _ | .deliverOwn _ _ | .peer _
  | .clearExpiredRetainedMessages _ _ | .reapExpired _ _ => []

/-- The daemon's threads take a step, or its deliveries and resumes rest. -/
inductive ThreadChange (node next : MeshNode) (handed : List ByteString)
    (taken : List (Nat × ByteString))
    : Prop
  | steps {action : ServiceThreads.Action}
      (moved : node.threads.step action = some next.threads)
      (bySteps : ∀ context request, action ≠ .handle (.resumeSubscribe context request))
      (calls : handed = action.handedIds) (takes : taken = node.threads.taken action)
  | rests (deliveries : next.threads.deliveries = node.threads.deliveries)
      (recorded
        : ∀ record, node.threads.Recorded record → next.threads.Recorded record)
      (calls : handed = []) (takes : taken = [])

theorem threadChange_serve {node next : MeshNode} {action : ServiceThreads.Action}
    (served : node.serve action = some next)
    (bySteps : ∀ context request, action ≠ .handle (.resumeSubscribe context request))
    : node.ThreadChange next action.handedIds (node.threads.taken action) := by
  obtain ⟨threads, moved, rfl⟩ := Option.map_eq_some_iff.mp served
  exact .steps moved bySteps rfl rfl

theorem ThreadChange.setPublisher {node next : MeshNode} {handed : List ByteString}
    {taken : List (Nat × ByteString)} (change : node.ThreadChange next handed taken)
    (thread : Nat) (pc : PublishPc)
    : node.ThreadChange (next.setPublisher thread pc) handed taken := by
  cases change with
  | steps moved bySteps calls takes => exact .steps moved bySteps calls takes
  | rests deliveries recorded calls takes => exact .rests deliveries recorded calls takes

theorem threadChange_of_step {node next : MeshNode} {action : NodeAction}
    {pushes : List Push} (taken : node.step action = some (next, pushes))
    : node.ThreadChange next (Mesh.handsOver node action) (node.taken action) := by
  cases move_of_step taken with
  | publish free served => exact (threadChange_serve served (by simp)).setPublisher _ _
  | lookUp | push => exact .rests rfl (fun _ recorded => recorded) rfl rfl
  | deliver stands served =>
      rw [Mesh.handsOver, stands]
      exact (threadChange_serve served (by simp)).setPublisher _ _
  | @serve action next allowed served =>
      have uncalled : action.handedIds = [] := by
        cases action with
        | call => cases allowed
        | deliver | resumeCall | resume | retain | handle => rfl
      have change := threadChange_serve served (by
        intro context request is
        subst is
        cases allowed)
      rwa [uncalled] at change
  | peer | expire =>
      exact .rests rfl (fun _ recorded => ⟨recorded.streams, recorded.resumes⟩) rfl rfl
  | @reap now handle =>
      refine .rests rfl ?_ rfl rfl
      intro record recorded
      refine ⟨recorded.streams.onStream handle ?_, recorded.resumes⟩
      intro stream found
      exact (recorded.streams handle stream found).reapExpired now

/-- A push that arrives is handed over, unless no sidecar service is set. -/
theorem threadChange_deliverLocally {node next : MeshNode} {thread : Nat}
    {context : CallContext} {envelope : MessageEnvelope}
    (moved : node.deliverLocally thread context envelope = some next)
    : node.ThreadChange next (if node.sidecarSet then [envelope.messageId] else []) [] := by
  unfold deliverLocally at moved
  split at moved
  · rename_i set
    rw [if_pos set]
    exact threadChange_serve moved (by simp)
  · rename_i unset
    rw [if_neg unset]
    cases moved
    exact .rests rfl (fun _ recorded => recorded) rfl rfl

end MeshNode

-----------------------------------------------------------------------------------------
-- The ledger of the deliveries
-----------------------------------------------------------------------------------------

namespace Mesh

/-- A stream, the endpoint of its daemon and the id of a message it has taken. -/
abbrev Taking := Nat × ByteString × ByteString

/-- What a step makes streams take. -/
def taken (mesh : Mesh) : Action → List Taking
  | .node endpoint action =>
      match mesh.nodes endpoint with
      | none => []
      | some node => (node.taken action).map (fun entry => (entry.1, endpoint, entry.2))
  | .start _ _ | .stop _ | .arrive _ _ _ | .lose _ => []

/-- What the streams of a mesh take in a run, in order. -/
def takenIn (actions : List Action) : List Taking :=
  collect step taken {} actions

/-- The messages that the stream behind `handle` took, at the daemons of one endpoint. -/
def takenAt (endpoint : ByteString) (handle : Nat) (log : List Taking) : List ByteString :=
  log.filterMap (fun entry =>
    if entry.1 = handle ∧ entry.2.1 = endpoint then some entry.2.2 else none)

/-- Deliveries are the holders, and what a stream has taken is paid. -/
def deliveryLedger (log : List Taking) (mesh : Mesh)
    : DebtLedger (ByteString × Nat) (ByteString × ByteString) Nat where
  debts holder :=
    (mesh.nodes holder.1).bind (fun node =>
      (node.threads.deliveries holder.2).debt holder.1)
  paid := log

/-- What keeps messages single in the streams. -/
structure StreamsSingle (log : List Taking) (mesh : Mesh) : Prop where
  distinct
    : ∀ endpoint node thread,
        mesh.nodes endpoint = some node → (node.threads.deliveries thread).Distinct
  sound : (mesh.deliveryLedger log).Sound { message | message ∈ mesh.handed }
  recorded
    : ∀ endpoint node,
        mesh.nodes endpoint = some node
        → node.threads.Recorded (fun handle => takenAt endpoint handle log)

theorem streamsSingle_empty : StreamsSingle [] {} where
  distinct endpoint node thread up := by cases up
  sound := by
    have empty : ({ message | message ∈ Mesh.handed {} } : Set (ByteString × ByteString)) = ∅ := by
      ext message
      simp
    rw [empty]
    exact DebtLedger.sound_empty
  recorded endpoint node up := by cases up

variable {mesh after : Mesh} {log : List Taking} {endpoint : ByteString}
  {node next : MeshNode}

theorem takenAt_append (handle : Nat) (log more : List Taking)
    : takenAt endpoint handle (log ++ more)
      = takenAt endpoint handle log ++ takenAt endpoint handle more :=
  List.filterMap_append

/-- The log of one daemon's step, read at the daemon itself. -/
theorem takenAt_map (handle : Nat) (entries : List (Nat × ByteString))
    : takenAt endpoint handle (entries.map (fun entry => (entry.1, endpoint, entry.2)))
      = SidecarService.idsAt handle entries := by
  simp [takenAt, SidecarService.idsAt, List.filterMap_map]

theorem deliveryDebts_setThreads (up : mesh.nodes endpoint = some node) {thread : Nat}
    {pc : DeliveryPc}
    (moved
      : next.threads.deliveries = Function.update node.threads.deliveries thread pc)
    (nodes : after.nodes = (mesh.setNode endpoint (some next)).nodes)
    (log later : List Taking)
    : (after.deliveryLedger later).debts
      = Function.update (mesh.deliveryLedger log).debts (endpoint, thread)
          (pc.debt endpoint) := by
  funext holder
  obtain ⟨home, other⟩ := holder
  simp only [deliveryLedger, nodes, nodes_setNode]
  by_cases here : home = endpoint
  · subst here
    by_cases same : other = thread
    · subst same
      simp [moved]
    · simp [moved, same, up]
  · simp [here]

theorem deliveryDebts_same (up : mesh.nodes endpoint = some node)
    (same : next.threads.deliveries = node.threads.deliveries)
    (nodes : after.nodes = (mesh.setNode endpoint (some next)).nodes)
    (log later : List Taking)
    : (after.deliveryLedger later).debts = (mesh.deliveryLedger log).debts := by
  funext holder
  simp only [deliveryLedger, nodes, nodes_setNode]
  split
  · rename_i here
    simp [here, up, same]
  · rfl

theorem deliveryDebt_of_stands (up : mesh.nodes endpoint = some node) {thread : Nat}
    {pc : DeliveryPc} (stands : node.threads.deliveries thread = pc) (log : List Taking)
    : (mesh.deliveryLedger log).debts (endpoint, thread) = pc.debt endpoint := by
  simp [deliveryLedger, up, stands]

section Threads

variable (single : mesh.StreamsSingle log) (up : mesh.nodes endpoint = some node)
  (nodes : after.nodes = (mesh.setNode endpoint (some next)).nodes)
  (wider : { message | message ∈ mesh.handed } ⊆ { message | message ∈ after.handed })

include single up nodes wider

/-- A delivery that takes nothing in a step, and has no more to visit than before. -/
theorem StreamsSingle.sound_lowered {thread : Nat} {was pc : DeliveryPc}
    (stands : node.threads.deliveries thread = was)
    (moved : next.threads.deliveries = Function.update node.threads.deliveries thread pc)
    (less
      : ∀ message debt,
          pc.debt endpoint = some (message, debt)
          → ∃ old, was.debt endpoint = some (message, old) ∧ debt ⊆ old)
    : (after.deliveryLedger log).Sound { message | message ∈ after.handed } := by
  have debts := deliveryDebts_setThreads up moved nodes log log
  refine single.sound.lowered (DebtLedger.lowers_update debts ?_) (List.Subperm.refl _) wider
  rw [deliveryDebt_of_stands up stands]
  exact less

/-- A visit. The stream that is visited now is not visited again. -/
theorem StreamsSingle.sound_visit {thread number handle : Nat} {context : CallContext}
    {envelope : MessageEnvelope} {remaining : List Nat} {pc : DeliveryPc}
    (stands
      : node.threads.deliveries thread = .delivering envelope number (handle :: remaining))
    (moved : next.threads.deliveries = Function.update node.threads.deliveries thread pc)
    (debt
      : pc.debt endpoint
        = some ((endpoint, envelope.messageId), { handle | handle ∈ remaining }))
    : (after.deliveryLedger
        (log
          ++ (node.threads.taken (.deliver thread context)).map
              (fun entry => (entry.1, endpoint, entry.2)))).Sound
        { message | message ∈ after.handed } := by
  have apart := single.distinct endpoint node thread up
  rw [stands] at apart
  have owes := deliveryDebt_of_stands up stands log
  have less
    : ∀ message rest,
        pc.debt endpoint = some (message, rest)
        → ∃ old,
            DeliveryPc.debt endpoint (.delivering envelope number (handle :: remaining))
            = some (message, old)
            ∧ rest ⊆ old := by
    intro message rest is
    rw [debt] at is
    cases is
    exact ⟨_, rfl, fun _ => List.mem_cons_of_mem _⟩
  simp only [ServiceThreads.taken, stands, SidecarService.takenBy]
  split
  · have debts := deliveryDebts_setThreads up moved nodes log
      (log ++ [(handle, endpoint, envelope.messageId)])
    have pays := single.sound.pay (DebtLedger.lowers_update debts (by rwa [owes])) owes
      List.mem_cons_self ?_ (List.perm_append_singleton _ _)
    · exact pays.lowered (DebtLedger.lowers_of_eq rfl) (List.Subperm.refl _) wider
    · intro rest is
      rw [debts, Function.update_self, debt] at is
      cases is
      exact (List.nodup_cons.mp apart).1
  · rw [List.map_nil, List.append_nil]
    exact single.sound_lowered up nodes wider stands moved less

end Threads

/-- The ledger after a step of one daemon's threads. -/
theorem StreamsSingle.sound_threads (single : mesh.StreamsSingle log)
    (up : mesh.nodes endpoint = some node) {action : ServiceThreads.Action}
    (move : node.threads.Move action next.threads)
    (nodes : after.nodes = (mesh.setNode endpoint (some next)).nodes)
    (handed
      : after.handed = mesh.handed ++ action.handedIds.map (fun id => (endpoint, id)))
    (once : after.handed.Nodup)
    : (after.deliveryLedger
        (log
          ++ (node.threads.taken action).map
              (fun entry => (entry.1, endpoint, entry.2)))).Sound
        { message | message ∈ after.handed } := by
  have wider : { message | message ∈ mesh.handed } ⊆ { message | message ∈ after.handed } := by
    intro message member
    change message ∈ after.handed
    rw [handed]
    exact List.mem_append_left _ member
  generalize is : next.threads = threads at move
  have deliveries := congrArg ServiceThreads.deliveries is
  cases move with
  | @call thread context envelope free =>
      have debts := deliveryDebts_setThreads up deliveries nodes log log
      have new : (endpoint, envelope.messageId) ∉ mesh.handed := by
        rw [handed] at once
        have apart := (List.nodup_append.mp once).2.2
        intro member
        exact apart _ member _ (by simp [ServiceThreads.Action.handedIds]) rfl
      have issued := single.sound.issue new (endpoint, thread) Set.univ debts rfl
      simp only [ServiceThreads.taken, List.map_nil, List.append_nil]
      refine issued.lowered (DebtLedger.lowers_of_eq rfl) (List.Subperm.refl _) ?_
      intro message member
      change message ∈ after.handed
      rw [handed]
      rcases member with rfl | old
      · simp [ServiceThreads.Action.handedIds]
      · exact List.mem_append_left _ old
  | deliver stands moved =>
      cases moved with
      | enter | skip => exact single.sound_visit up nodes wider stands deliveries rfl
      | collect =>
          simp only [ServiceThreads.taken, stands, List.map_nil, List.append_nil]
          refine single.sound_lowered up nodes wider stands deliveries ?_
          intro message debt is
          cases is
          exact ⟨Set.univ, rfl, Set.subset_univ _⟩
      | record =>
          simp only [ServiceThreads.taken, stands, List.map_nil, List.append_nil]
          refine single.sound_lowered up nodes wider stands deliveries ?_
          intro message debt is
          exact ⟨debt, is, subset_rfl⟩
      | leave =>
          simp only [ServiceThreads.taken, stands, List.map_nil, List.append_nil]
          refine single.sound_lowered up nodes wider stands deliveries ?_
          intro message debt is
          cases is
  | refuse | find | resume | retain | handle =>
      simp only [ServiceThreads.taken, List.map_nil, List.append_nil]
      exact single.sound.lowered
        (DebtLedger.lowers_of_eq (deliveryDebts_same up deliveries nodes log log))
        (List.Subperm.refl _) wider

/-- One daemon moves, and the others keep what they had. -/
theorem StreamsSingle.moved (single : mesh.StreamsSingle log)
    (up : mesh.nodes endpoint = some node) (table : node.threads.service.TableInvariant)
    {handedIds : List ByteString} {entries : List (Nat × ByteString)}
    (change : node.ThreadChange next handedIds entries)
    (nodes : after.nodes = (mesh.setNode endpoint (some next)).nodes)
    (handed : after.handed = mesh.handed ++ handedIds.map (fun id => (endpoint, id)))
    (once : after.handed.Nodup)
    : after.StreamsSingle
        (log ++ entries.map (fun entry => (entry.1, endpoint, entry.2))) := by
  have here
    : (∀ thread, (next.threads.deliveries thread).Distinct)
      ∧ next.threads.Recorded
          (fun handle =>
            takenAt endpoint handle
              (log ++ entries.map (fun entry => (entry.1, endpoint, entry.2))))
      ∧ (after.deliveryLedger
          (log ++ entries.map (fun entry => (entry.1, endpoint, entry.2)))).Sound
          { message | message ∈ after.handed } := by
    have distinct := fun thread => single.distinct endpoint node thread up
    have recorded := single.recorded endpoint node up
    simp only [takenAt_append, takenAt_map]
    cases change with
    | @steps action moved bySteps calls takes =>
        subst calls takes
        have move := ServiceThreads.move_of_step moved
        exact ⟨move.distinct table distinct, recorded.step bySteps moved,
          single.sound_threads up move nodes handed once⟩
    | rests deliveries kept calls takes =>
        subst calls takes
        rw [List.map_nil, List.append_nil] at handed
        rw [List.map_nil, List.append_nil, handed]
        refine ⟨by rwa [deliveries], ?_, ?_⟩
        · exact (kept _ recorded).mono (fun handle => List.sublist_append_left _ _)
        · exact single.sound.lowered
            (DebtLedger.lowers_of_eq (deliveryDebts_same up deliveries nodes log log))
            (List.Subperm.refl _) subset_rfl
  refine ⟨?_, here.2.2, ?_⟩
  · intro other found thread is
    rw [nodes, nodes_setNode] at is
    split at is
    · cases is
      exact here.1 thread
    · exact single.distinct other found thread is
  · intro other found is
    rw [nodes, nodes_setNode] at is
    split at is
    · rename_i same
      cases is
      rw [same]
      exact here.2.1
    · refine (single.recorded other found is).mono ?_
      intro handle
      rw [takenAt_append]
      exact List.sublist_append_left _ _

/-- A daemon that is new or gone delivers nothing. -/
theorem StreamsSingle.replaced (single : mesh.StreamsSingle log) {replaced : Option MeshNode}
    (idle : ∀ node ∈ replaced, ∀ thread, node.threads.deliveries thread = .idle)
    (recorded : ∀ node ∈ replaced, ∀ record, node.threads.Recorded record)
    : (mesh.setNode endpoint replaced).StreamsSingle log where
  distinct other found thread is := by
    rw [nodes_setNode] at is
    split at is
    · rw [idle found is]
      trivial
    · exact single.distinct other found thread is
  sound := by
    refine single.sound.lowered ?_ (List.Subperm.refl _) subset_rfl
    intro holder message debt owes
    simp only [deliveryLedger, nodes_setNode] at owes
    split at owes
    · obtain ⟨found, is, owes⟩ := Option.bind_eq_some_iff.mp owes
      rw [idle found is] at owes
      cases owes
    · exact ⟨debt, owes, subset_rfl⟩
  recorded other found is := by
    rw [nodes_setNode] at is
    split at is
    · exact recorded found is _
    · exact single.recorded other found is

theorem StreamsSingle.step (single : mesh.StreamsSingle log) {action : Action}
    (tables
      : ∀ endpoint node,
          mesh.nodes endpoint = some node → node.threads.service.TableInvariant)
    (once : after.handed.Nodup) (taken : mesh.step action = some after)
    : after.StreamsSingle (log ++ mesh.taken action) := by
  cases change_of_step taken with
  | start place settings =>
      rw [Mesh.taken, List.append_nil]
      refine single.replaced ?_ ?_
      · intro node is thread
        cases is
        rfl
      · intro node is record
        cases is
        exact ServiceThreads.recorded_start record settings
  | stop place =>
      rw [Mesh.taken, List.append_nil]
      exact single.replaced (by simp) (by simp)
  | @node place action node next pushes up moved =>
      simp only [Mesh.taken, up]
      exact single.moved up (tables place node up) (MeshNode.threadChange_of_step moved) rfl rfl
        once
  | @arrive index thread context place envelope node next flying up moved =>
      refine single.moved up (tables place node up)
        (MeshNode.threadChange_deliverLocally moved) rfl ?_ once
      split <;> rfl
  | lose index =>
      rw [Mesh.taken, List.append_nil]
      exact ⟨single.distinct, single.sound, single.recorded⟩

theorem streamsSingle_of_exec {address : ByteString → ByteString} {actions : List Action}
    (run : exec Mesh.step {} actions = some mesh) (injective : Function.Injective address)
    (heard : OneAddressEach address actions) (fresh : (publishedIds actions).Nodup)
    : mesh.StreamsSingle (takenIn actions) := by
  revert heard fresh
  refine exec_induction
    (motive := fun actions mesh =>
      OneAddressEach address actions
      → (publishedIds actions).Nodup
      → mesh.StreamsSingle (takenIn actions))
    (fun _ _ => streamsSingle_empty) ?_ run
  intro actions mesh action after reached ih taken heard fresh
  have single := ih (fun endpoint now record member =>
    heard endpoint now record (List.mem_append_left _ member)) (by
      rw [publishedIds, List.filterMap_append] at fresh
      exact (List.nodup_append.mp fresh).1)
  have traced := traced_of_exec reached
  have final : exec Mesh.step {} (actions ++ [action]) = some after := by
    rw [exec_snoc, reached, Option.bind_some, taken]
  rw [takenIn, collect_snoc reached]
  exact single.step (fun endpoint node up => (traced.nodes endpoint node up).threads.table)
    (single_of_exec final injective heard fresh).handed_nodup taken

theorem nodup_takenAt (once : log.Nodup) (endpoint : ByteString) (handle : Nat)
    : (takenAt endpoint handle log).Nodup := by
  refine once.filterMap ?_
  intro left right id isLeft isRight
  simp only [Option.mem_def, Option.ite_none_right_eq_some, Option.some.injEq]
    at isLeft isRight
  obtain ⟨⟨sameHandle, sameHome⟩, sameId⟩ := isLeft
  obtain ⟨⟨otherHandle, otherHome⟩, otherId⟩ := isRight
  exact Prod.ext (sameHandle.trans otherHandle.symm)
    (Prod.ext (sameHome.trans otherHome.symm) (sameId.trans otherId.symm))

/-- If every peer keeps one address of its own and every Publish gives its message a new id, no
stream takes a live message twice. What a stream has queued or last given to gRPC is some of
what it took, in that order, and so has no live message twice either.
-/
theorem taken_nodup_of_exec {address : ByteString → ByteString} {actions : List Action}
    (run : exec Mesh.step {} actions = some mesh) (injective : Function.Injective address)
    (heard : OneAddressEach address actions) (fresh : (publishedIds actions).Nodup)
    : (takenIn actions).Nodup
      ∧ ∀ endpoint node handle stream,
          mesh.nodes endpoint = some node
          → node.threads.service.streams handle = some stream
          → stream.liveIds.Sublist (takenAt endpoint handle (takenIn actions))
            ∧ stream.liveIds.Nodup := by
  have single := streamsSingle_of_exec run injective heard fresh
  have once : (takenIn actions).Nodup := single.sound.once
  refine ⟨once, ?_⟩
  intro endpoint node handle stream up found
  have live := ((single.recorded endpoint node up).streams handle stream found).live
  exact ⟨live, (nodup_takenAt once endpoint handle).sublist live⟩

/-- The peer's subscriber takes the published message, and takes it once. -/
theorem taken_nodup_forwards
    : ∃ mesh node stream,
        exec Mesh.step {} forwards = some mesh
        ∧ mesh.nodes peerEndpoint = some node
        ∧ node.threads.service.streams 0 = some stream
        ∧ takenIn forwards = [(0, peerEndpoint, [9])]
        ∧ stream.liveIds = [[9]]
        ∧ stream.liveIds.Nodup := by
  have runs
    : ∃ mesh node stream,
        exec Mesh.step {} forwards = some mesh
        ∧ mesh.nodes peerEndpoint = some node
        ∧ node.threads.service.streams 0 = some stream
        ∧ stream.liveIds = [[9]] :=
    ⟨_, _, _, rfl, rfl, rfl, by decide +kernel⟩
  obtain ⟨mesh, node, stream, run, up, found, live⟩ := runs
  have once :=
    taken_nodup_of_exec run (Equiv.swap ([2] : ByteString) peerEndpoint).injective
      forwards_oneAddressEach (by decide)
  exact ⟨mesh, node, stream, run, up, found, by decide +kernel, live,
    (once.2 peerEndpoint node 0 stream up found).2⟩

end Mesh

end NexusD.Services
