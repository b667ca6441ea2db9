import NexusD.Library.DebtLedger
import NexusD.Services.MeshRuns

/-! How often a message is handed to a daemon of the mesh, and that it gets there.
A Publish owes its message to its own subscribers and to every peer it has still to look up. A
push in flight and a message handed over are what has been paid. If every peer keeps an address
of its own, nothing is owed that has been paid, so nobody is handed a message twice.
-/

namespace NexusD.Core.PeerRegistry

open NexusD.Library

/-- A peer's record is at its old endpoint, or at the one of the beacon just heard. -/
theorem endpoint_of_perform {registry : PeerRegistry} {call : PeerCall} {id : ByteString}
    {peer : PeerInfo} (found : (registry.perform call).getPeer id = some peer)
    : (∃ old, registry.getPeer id = some old ∧ peer.endpoint = old.endpoint)
      ∨ ∃ now record,
          call = .upsertPeer now record
          ∧ record.info.instanceUuid = id
          ∧ peer.endpoint = record.info.endpoint := by
  rw [getPeer, peers_perform] at found
  cases call with
  | upsertPeer now record =>
      by_cases named : record.info.instanceUuid = id
      · refine .inr ⟨now, record, rfl, named, ?_⟩
        subst named
        simp only [update, upsertPeer] at found
        split at found
        · rw [AList.lookup_insert, Option.some.injEq] at found
          rw [found]
        · rw [AList.lookup_insert, Option.some.injEq] at found
          rw [← found]
          rfl
      · rw [update, lookup_upsertPeer_ne named] at found
        exact .inl ⟨peer, found, rfl⟩
  | removePeer other =>
      by_cases same : id = other
      · subst same
        simp [update, erasePeer, AList.lookup_erase] at found
      · rw [update, erasePeer, AList.lookup_erase_ne same] at found
        exact .inl ⟨peer, found, rfl⟩
  | updatePeerState other topics hash =>
      simp only [update, recordPeerState] at found
      split at found
      · exact .inl ⟨peer, found, rfl⟩
      · rename_i old was
        by_cases same : id = other
        · subst same
          rw [AList.lookup_insert, Option.some.injEq] at found
          rw [← found]
          exact .inl ⟨old, was, rfl⟩
        · rw [AList.lookup_insert_ne same] at found
          exact .inl ⟨peer, found, rfl⟩
  | reapDeadPeers order now timeoutMs =>
      rw [update, erasePeers, lookup_foldl_erase] at found
      split at found
      · cases found
      · exact .inl ⟨peer, found, rfl⟩

end NexusD.Core.PeerRegistry

namespace NexusD.Services

open NexusD.Core NexusD.Library

/-- The message a Publish under way is about, and the endpoints it has still to hand it to;
`home` is its own.
-/
def PublishPc.debt (address : ByteString → ByteString) (home : ByteString)
    : PublishPc → Option (ByteString × Set ByteString)
  | .idle => none
  | .stored envelope => some (envelope.messageId, Set.univ)
  | .forwarding envelope remaining =>
      some
        (envelope.messageId,
          { target | target = home ∨ ∃ id ∈ remaining, address id = target })

namespace MeshNode

theorem serve_publishers {node next : MeshNode} {action : ServiceThreads.Action}
    (taken : node.serve action = some next)
    : next.publishers = node.publishers := by
  obtain ⟨threads, _, rfl⟩ := Option.map_eq_some_iff.mp taken
  rfl

theorem deliverLocally_publishers {node next : MeshNode} {thread : Nat}
    {context : CallContext} {envelope : MessageEnvelope}
    (taken : node.deliverLocally thread context envelope = some next)
    : next.publishers = node.publishers := by
  unfold deliverLocally at taken
  split at taken
  · exact serve_publishers taken
  · cases taken
    rfl

/-- What a step does to the Publish calls, with the pushes it sends and the messages it hands
over.
-/
inductive Publishes (node : MeshNode) : NodeAction → MeshNode → List Push → Prop
  | begins {thread : Nat} {context : CallContext} {request : PublishRequest}
      {next : MeshNode} (free : node.publishers thread = .idle)
      (moved
        : next.publishers
          = Function.update node.publishers thread
              (.stored (node.threads.service.publishedEnvelope context request)))
      : Publishes node (.publish thread context request) next []
  | looksUp {thread : Nat} {order : IterationOrder ByteString} {envelope : MessageEnvelope}
      {next : MeshNode} (stands : node.publishers thread = .stored envelope)
      (moved
        : next.publishers
          = Function.update node.publishers thread
              (.forwarding envelope
                (node.registry.getRemoteSubscribers order envelope.topic)))
      : Publishes node (.getRemoteSubscribers thread order) next []
  | pushes {thread : Nat} {envelope : MessageEnvelope} {id : ByteString}
      {remaining : List ByteString} {next : MeshNode}
      (stands : node.publishers thread = .forwarding envelope (id :: remaining))
      (moved
        : next.publishers
          = Function.update node.publishers thread (.forwarding envelope remaining))
      : Publishes node (.pushNext thread) next
          ((node.registry.getPeer id).toList.map (fun peer => (peer.endpoint, envelope)))
  | delivers {thread : Nat} {context : CallContext} {envelope : MessageEnvelope}
      {next : MeshNode} (stands : node.publishers thread = .forwarding envelope [])
      (moved : next.publishers = Function.update node.publishers thread .idle)
      : Publishes node (.deliverOwn thread context) next []
  | rests {action : NodeAction} {next : MeshNode} (same : next.publishers = node.publishers)
      (quiet : Mesh.handsOver node action = [])
      (silent : ∀ thread context request, action ≠ .publish thread context request)
      : Publishes node action next []

theorem publishes_of_step {node next : MeshNode} {action : NodeAction} {pushes : List Push}
    (taken : node.step action = some (next, pushes))
    : node.Publishes action next pushes := by
  cases move_of_step taken with
  | publish free served =>
      exact .begins free (by simp [setPublisher, serve_publishers served])
  | lookUp stands => exact .looksUp stands rfl
  | push stands => exact .pushes stands rfl
  | deliver stands served =>
      exact .delivers stands (by simp [setPublisher, serve_publishers served])
  | serve allowed served => exact .rests (serve_publishers served) rfl (by simp)
  | peer | expire | reap => exact .rests rfl rfl (by simp)

end MeshNode

namespace Mesh

/-- The ids that the Publish calls of a run gave to their messages. -/
def publishedIds (actions : List Action) : List ByteString :=
  actions.filterMap (fun action =>
    match action with
    | .node _ (.publish _ context _) => some context.uuid
    | _ => none)

/-- Every beacon that a daemon hears names the peer's one address, and not the daemon's own.
-/
def OneAddressEach (address : ByteString → ByteString) (actions : List Action) : Prop :=
  ∀ endpoint now record,
    .node endpoint (.peer (.upsertPeer now record)) ∈ actions
    → record.info.endpoint = address record.info.instanceUuid
      ∧ record.info.endpoint ≠ endpoint

/-- Publish calls are the holders; a push in flight is paid for already. -/
def ledger (address : ByteString → ByteString) (mesh : Mesh)
    : DebtLedger (ByteString × Nat) ByteString ByteString where
  debts holder :=
    (mesh.nodes holder.1).bind (fun node => (node.publishers holder.2).debt address holder.1)
  paid := mesh.handed ++ mesh.inFlight.map (fun push => (push.1, push.2.messageId))

variable {address : ByteString → ByteString} {mesh after : Mesh} {endpoint : ByteString}
  {node next : MeshNode}

theorem debts_setNode (replaced : Option MeshNode) (holder : ByteString × Nat)
    : ((mesh.setNode endpoint replaced).ledger address).debts holder
      = if holder.1 = endpoint then
          replaced.bind (fun node => (node.publishers holder.2).debt address endpoint)
        else
          (mesh.ledger address).debts holder := by
  simp only [ledger, nodes_setNode]
  split
  · rename_i same
    rw [same]
  · rfl

theorem debts_setPublisher (up : mesh.nodes endpoint = some node) {thread : Nat}
    {pc : PublishPc} (moved : next.publishers = Function.update node.publishers thread pc)
    : ((mesh.setNode endpoint (some next)).ledger address).debts
      = Function.update (mesh.ledger address).debts (endpoint, thread)
          (pc.debt address endpoint) := by
  funext holder
  rw [debts_setNode]
  obtain ⟨home, other⟩ := holder
  by_cases here : home = endpoint
  · subst here
    by_cases same : other = thread
    · subst same
      simp [moved]
    · simp [moved, same, ledger, up]
  · simp [here]

theorem debts_same (up : mesh.nodes endpoint = some node)
    (same : next.publishers = node.publishers)
    : ((mesh.setNode endpoint (some next)).ledger address).debts
      = (mesh.ledger address).debts := by
  funext holder
  rw [debts_setNode]
  split
  · rename_i here
    simp [ledger, here, up, same]
  · rfl

-----------------------------------------------------------------------------------------
-- At most once
-----------------------------------------------------------------------------------------

/-- What keeps messages single. -/
structure Single (address : ByteString → ByteString) (actions : List Action) (mesh : Mesh)
    : Prop where
  addressed
    : ∀ endpoint node id peer,
        mesh.nodes endpoint = some node
        → node.registry.getPeer id = some peer
        → peer.endpoint = address id ∧ peer.endpoint ≠ endpoint
  proper
    : ∀ endpoint node,
        mesh.nodes endpoint = some node
        → PeerRegistry.ProperIndex node.registry.routingTable
  distinct
    : ∀ endpoint node thread envelope remaining,
        mesh.nodes endpoint = some node
        → node.publishers thread = .forwarding envelope remaining
        → remaining.Nodup
  sound : (mesh.ledger address).Sound { id | id ∈ publishedIds actions }

theorem single_empty (address : ByteString → ByteString) : Single address [] {} where
  addressed endpoint node id peer up := by cases up
  proper endpoint node up := by cases up
  distinct endpoint node thread envelope remaining up := by cases up
  sound := by
    have empty : ({ id | id ∈ publishedIds [] } : Set ByteString) = ∅ := by
      ext id
      simp [publishedIds]
    rw [empty]
    exact DebtLedger.sound_empty

/-- What the daemons know, apart from the ledger, where one of them is replaced. -/
theorem Single.replaced {actions more : List Action} (single : mesh.Single address actions)
    {replaced : Option MeshNode}
    (nodes : after.nodes = (mesh.setNode endpoint replaced).nodes)
    (addressed
      : ∀ node ∈ replaced, ∀ id peer,
          node.registry.getPeer id = some peer
          → peer.endpoint = address id ∧ peer.endpoint ≠ endpoint)
    (proper : ∀ node ∈ replaced, PeerRegistry.ProperIndex node.registry.routingTable)
    (distinct
      : ∀ node ∈ replaced, ∀ thread envelope remaining,
          node.publishers thread = .forwarding envelope remaining → remaining.Nodup)
    (sound : (after.ledger address).Sound { id | id ∈ publishedIds more })
    : after.Single address more where
  addressed other node id peer up found := by
    rw [nodes, nodes_setNode] at up
    split at up
    · rename_i same
      subst same
      exact addressed node up id peer found
    · exact single.addressed other node id peer up found
  proper other node up := by
    rw [nodes, nodes_setNode] at up
    split at up
    · exact proper node up
    · exact single.proper other node up
  distinct other node thread envelope remaining up stands := by
    rw [nodes, nodes_setNode] at up
    split at up
    · exact distinct node up thread envelope remaining stands
    · exact single.distinct other node thread envelope remaining up stands
  sound := sound

theorem publishedIds_append (actions : List Action) (action : Action)
    : ({ id | id ∈ publishedIds actions } : Set ByteString)
      ⊆ { id | id ∈ publishedIds (actions ++ [action]) } := by
  intro id member
  change id ∈ publishedIds (actions ++ [action])
  rw [publishedIds, List.filterMap_append]
  exact List.mem_append_left _ member

/-- A push that is handled is paid for as before. -/
theorem paid_arrive {index : Nat} {target : ByteString} {envelope : MessageEnvelope}
    (flying : mesh.inFlight[index]? = some (target, envelope))
    (handed : List (ByteString × ByteString))
    (either : handed = [(target, envelope.messageId)] ∨ handed = [])
    : (mesh.handed ++ handed
        ++ (mesh.inFlight.eraseIdx index).map (fun push => (push.1, push.2.messageId))).Subperm
        (mesh.handed ++ mesh.inFlight.map (fun push => (push.1, push.2.messageId))) := by
  have split
    : (mesh.inFlight.map (fun push => (push.1, push.2.messageId))).Perm
        ((target, envelope.messageId)
          :: (mesh.inFlight.eraseIdx index).map
            (fun push => (push.1, push.2.messageId))) := by
    obtain ⟨inside, is⟩ := List.getElem?_eq_some_iff.mp flying
    have whole := List.getElem_cons_eraseIdx_perm inside
    rw [is] at whole
    exact (whole.map (fun push : Push => (push.1, push.2.messageId))).symm
  rw [List.append_assoc]
  refine (List.subperm_append_left mesh.handed).mpr ?_
  rcases either with rfl | rfl
  · exact split.symm.subperm
  · exact (List.sublist_cons_self _ _).subperm.trans split.symm.subperm

/-- A daemon's step keeps the addresses and the routes in order. -/
theorem Single.knowledge {actions : List Action} (single : mesh.Single address actions)
    (up : mesh.nodes endpoint = some node) {action : NodeAction} {pushes : List Push}
    (moved : node.step action = some (next, pushes))
    (heard : OneAddressEach address [.node endpoint action])
    : (∀ id peer,
        next.registry.getPeer id = some peer
        → peer.endpoint = address id ∧ peer.endpoint ≠ endpoint)
      ∧ PeerRegistry.ProperIndex next.registry.routingTable := by
  have same := MeshNode.step_sameRoutes moved
  have addressed := single.addressed endpoint node
  have proper := single.proper endpoint node up
  rw [same.routingTable]
  simp only [PeerRegistry.getPeer, same.peers]
  cases action with
  | peer call =>
      refine ⟨?_, PeerRegistry.properRoutes_perform proper call⟩
      intro id peer found
      rcases PeerRegistry.endpoint_of_perform found with
        ⟨old, was, kept⟩ | ⟨now, record, rfl, rfl, told⟩
      · rw [kept]
        exact addressed id old up was
      · rw [told]
        exact heard endpoint now record (List.mem_singleton_self _)
  | publish | getRemoteSubscribers | pushNext | deliverOwn | serve
  | clearExpiredRetainedMessages | reapExpired =>
      exact ⟨fun id peer found => addressed id peer up found, proper⟩

/-- The ledger after a daemon's step. The only new message is that of a Publish, and what the
step sends or hands over, its Publish owed.
-/
theorem Single.ledger_step {actions : List Action} (single : mesh.Single address actions)
    (injective : Function.Injective address) (up : mesh.nodes endpoint = some node)
    {action : NodeAction} {pushes : List Push}
    (moved : node.step action = some (next, pushes))
    (fresh : (publishedIds (actions ++ [.node endpoint action])).Nodup)
    (nodes : after.nodes = (mesh.setNode endpoint (some next)).nodes)
    (inFlight : after.inFlight = mesh.inFlight ++ pushes)
    (handed
      : after.handed
        = mesh.handed ++ (handsOver node action).map (fun id => (endpoint, id)))
    : (after.ledger address).Sound
        { id | id ∈ publishedIds (actions ++ [.node endpoint action]) } := by
  have wider := publishedIds_append actions (.node endpoint action)
  have sameDebts
    : (after.ledger address).debts
      = ((mesh.setNode endpoint (some next)).ledger address).debts := by
    simp only [ledger, nodes]
  have samePaid (none : pushes = []) (quiet : handsOver node action = [])
      : (after.ledger address).paid = (mesh.ledger address).paid := by
    simp [ledger, inFlight, handed, none, quiet]
  cases MeshNode.publishes_of_step moved with
  | @begins thread context request _ free publishers =>
      have debts := sameDebts.trans (debts_setPublisher up publishers)
      have issued
        : publishedIds (actions ++ [.node endpoint (.publish thread context request)])
          = publishedIds actions ++ [context.uuid] := by
        simp [publishedIds]
      rw [issued] at fresh ⊢
      have new : context.uuid ∉ publishedIds actions := by
        intro member
        exact (List.nodup_append.mp fresh).2.2 _ member _ (List.mem_singleton_self _) rfl
      have started :=
        single.sound.issue new (endpoint, thread) Set.univ debts (samePaid rfl rfl)
      have all
        : ({ id | id ∈ publishedIds actions ++ [context.uuid] } : Set ByteString)
          = insert context.uuid { id | id ∈ publishedIds actions } := by
        ext id
        simp [or_comm]
      rw [all]
      exact started
  | @looksUp thread order envelope _ stands publishers =>
      have debts := sameDebts.trans (debts_setPublisher up publishers)
      have owed
        : (mesh.ledger address).debts (endpoint, thread)
          = some (envelope.messageId, Set.univ) := by
        simp [ledger, up, stands, PublishPc.debt]
      refine single.sound.lowered (DebtLedger.lowers_update debts ?_) ?_ wider
      · intro message debt owes
        cases owes
        exact ⟨Set.univ, owed, Set.subset_univ _⟩
      · rw [samePaid rfl rfl]
  | @pushes thread envelope id remaining _ stands publishers =>
      have debts := sameDebts.trans (debts_setPublisher up publishers)
      have owed
        : (mesh.ledger address).debts (endpoint, thread)
          = some
              (envelope.messageId,
                { target | target = endpoint ∨ ∃ other ∈ id :: remaining,
                    address other = target }) := by
        simp only [ledger, up, stands, PublishPc.debt, Option.bind_some]
      have lowers : (mesh.ledger address).Lowers (after.ledger address) := by
        refine DebtLedger.lowers_update debts ?_
        intro message debt owes
        cases owes
        refine ⟨_, owed, ?_⟩
        intro target member
        rcases member with home | ⟨other, listed, is⟩
        · exact .inl home
        · exact .inr ⟨other, List.mem_cons_of_mem _ listed, is⟩
      have apart := List.nodup_cons.mp (single.distinct endpoint node thread _ _ up stands)
      cases found : node.registry.getPeer id with
      | none =>
          refine single.sound.lowered lowers ?_ wider
          rw [samePaid (by simp [found]) rfl]
      | some peer =>
          obtain ⟨located, elsewhere⟩ := single.addressed endpoint node id peer up found
          have pays :=
            single.sound.pay lowers owed (.inr ⟨id, List.mem_cons_self, rfl⟩) ?_ ?_
          · exact pays.lowered (DebtLedger.lowers_of_eq rfl) (List.Subperm.refl _) wider
          · -- the peer just served is neither the daemon itself nor served again
            intro rest owes
            rw [debts, Function.update_self] at owes
            cases owes
            intro member
            rcases member with home | ⟨other, listed, is⟩
            · exact elsewhere (located.trans home)
            · exact apart.1 (injective is ▸ listed)
          · simp only [ledger, inFlight, handed, found, handsOver, List.map_nil,
              List.append_nil, List.map_append, Option.toList_some, List.map_cons, located]
            rw [← List.append_assoc]
            exact List.perm_append_singleton _ _
  | @delivers thread context envelope _ stands publishers =>
      have debts := sameDebts.trans (debts_setPublisher up publishers)
      have owed
        : (mesh.ledger address).debts (endpoint, thread)
          = some
              (envelope.messageId,
                { target | target = endpoint ∨ ∃ other ∈ [], address other = target }) := by
        simp only [ledger, up, stands, PublishPc.debt, Option.bind_some]
      have lowers : (mesh.ledger address).Lowers (after.ledger address) :=
        DebtLedger.lowers_update debts (by simp [PublishPc.debt])
      have pays := single.sound.pay lowers owed (.inl rfl) ?_ ?_
      · exact pays.lowered (DebtLedger.lowers_of_eq rfl) (List.Subperm.refl _) wider
      · intro rest owes
        rw [debts, Function.update_self] at owes
        cases owes
      · simp only [ledger, inFlight, handed, handsOver, stands, List.append_nil, List.map_cons,
          List.map_nil, List.append_assoc]
        exact List.perm_middle
  | rests same quiet silent =>
      have debts := sameDebts.trans (debts_same up same)
      refine single.sound.lowered (DebtLedger.lowers_of_eq debts) ?_ wider
      rw [samePaid rfl quiet]

/-- The peers a Publish has still to look up are distinct. -/
theorem Single.remaining {actions : List Action} (single : mesh.Single address actions)
    (up : mesh.nodes endpoint = some node) {action : NodeAction} {pushes : List Push}
    (moved : node.step action = some (next, pushes)) (thread : Nat)
    (envelope : MessageEnvelope) (remaining : List ByteString)
    (stands : next.publishers thread = .forwarding envelope remaining)
    : remaining.Nodup := by
  have kept := single.distinct endpoint node thread envelope remaining up
  cases MeshNode.publishes_of_step moved with
  | begins free publishers =>
      rw [publishers, Function.update_apply] at stands
      split at stands
      · cases stands
      · exact kept stands
  | looksUp stood publishers =>
      rw [publishers, Function.update_apply] at stands
      split at stands
      · cases stands
        exact PeerRegistry.nodup_getRemoteSubscribers (single.proper endpoint node up) _ _
      · exact kept stands
  | pushes stood publishers =>
      rw [publishers, Function.update_apply] at stands
      split at stands
      · cases stands
        exact (List.nodup_cons.mp (single.distinct endpoint node _ _ _ up stood)).2
      · exact kept stands
  | delivers stood publishers =>
      rw [publishers, Function.update_apply] at stands
      split at stands
      · cases stands
      · exact kept stands
  | rests same quiet silent =>
      rw [same] at stands
      exact kept stands

theorem Single.step {actions : List Action} {action : Action}
    (single : mesh.Single address actions) (injective : Function.Injective address)
    (heard : OneAddressEach address (actions ++ [action]))
    (fresh : (publishedIds (actions ++ [action])).Nodup)
    (taken : mesh.step action = some after)
    : after.Single address (actions ++ [action]) := by
  have wider := publishedIds_append actions action
  -- a daemon that is new or gone owes nothing
  have lowers {replaced : Option MeshNode} {place : ByteString}
      (idle : ∀ node ∈ replaced, ∀ thread, node.publishers thread = .idle)
      : (mesh.ledger address).Lowers ((mesh.setNode place replaced).ledger address) := by
    intro holder message debt owes
    rw [debts_setNode] at owes
    split at owes
    · obtain ⟨node, is, owes⟩ := Option.bind_eq_some_iff.mp owes
      rw [idle node is] at owes
      cases owes
    · exact ⟨debt, owes, fun _ member => member⟩
  cases change_of_step taken with
  | start place settings =>
      refine single.replaced rfl ?_ ?_ ?_
        (single.sound.lowered (lowers ?_) (List.Subperm.refl _) wider)
      · intro node is
        cases is
        intro id peer found
        cases found
      · intro node is
        cases is
        exact PeerRegistry.properIndex_empty
      · intro node is
        cases is
        intro thread envelope remaining stands
        cases stands
      · intro node is
        cases is
        intro thread
        rfl
  | stop place =>
      exact single.replaced rfl (by simp) (by simp) (by simp)
        (single.sound.lowered (lowers (by simp)) (List.Subperm.refl _) wider)
  | @node place action node next pushes up moved =>
      have told : OneAddressEach address [.node place action] := by
        intro other now record member
        exact heard other now record (List.mem_append_right _ member)
      obtain ⟨addressed, proper⟩ := single.knowledge up moved told
      refine single.replaced rfl ?_ ?_ ?_
        (single.ledger_step injective up moved fresh rfl rfl rfl)
      · intro other is
        cases is
        exact addressed
      · intro other is
        cases is
        exact proper
      · intro other is
        cases is
        exact single.remaining up moved
  | @arrive index thread context place envelope node next flying up moved =>
      have same := MeshNode.deliverLocally_sameRoutes moved
      have publishers := MeshNode.deliverLocally_publishers moved
      refine single.replaced rfl ?_ ?_ ?_ (single.sound.lowered ?_ ?_ wider)
      · intro other is
        cases is
        intro id peer found
        rw [PeerRegistry.getPeer, same.peers] at found
        exact single.addressed place node id peer up found
      · intro other is
        cases is
        rw [same.routingTable]
        exact single.proper place node up
      · intro other is
        cases is
        rw [publishers]
        exact fun thread envelope remaining =>
          single.distinct place node thread envelope remaining up
      · exact DebtLedger.lowers_of_eq (debts_same up publishers)
      · refine paid_arrive flying _ ?_
        split
        · exact .inl rfl
        · exact .inr rfl
  | lose index =>
      refine ⟨single.addressed, single.proper, single.distinct, ?_⟩
      refine single.sound.lowered (DebtLedger.lowers_of_eq rfl) ?_ wider
      exact (((List.eraseIdx_sublist mesh.inFlight index).map _).append_left _).subperm

theorem single_of_exec {actions : List Action}
    (run : exec Mesh.step {} actions = some mesh) (injective : Function.Injective address)
    (heard : OneAddressEach address actions) (fresh : (publishedIds actions).Nodup)
    : mesh.Single address actions := by
  revert heard fresh
  refine exec_induction
    (motive := fun actions mesh =>
      OneAddressEach address actions
      → (publishedIds actions).Nodup
      → mesh.Single address actions)
    (fun _ _ => single_empty address) ?_ run
  intro actions mesh action after _ ih taken heard fresh
  refine (ih ?_ ?_).step injective heard fresh taken
  · intro endpoint now record member
    exact heard endpoint now record (List.mem_append_left _ member)
  · rw [publishedIds, List.filterMap_append] at fresh
    exact (List.nodup_append.mp fresh).1

theorem Single.handed_nodup {actions : List Action} (single : mesh.Single address actions)
    : mesh.handed.Nodup :=
  (List.nodup_append.mp single.sound.once).1

/-- If every peer keeps one address of its own and every Publish gives its message a new id, no
daemon is handed a message twice: not by its own Publish and a push, not by two pushes, not
after a restart.
-/
theorem handed_nodup_of_exec {actions : List Action}
    (run : exec Mesh.step {} actions = some mesh) (injective : Function.Injective address)
    (heard : OneAddressEach address actions) (fresh : (publishedIds actions).Nodup)
    : mesh.handed.Nodup :=
  (single_of_exec run injective heard fresh).handed_nodup

theorem forwards_oneAddressEach
    : OneAddressEach (Equiv.swap ([2] : ByteString) peerEndpoint) forwards := by
  intro endpoint now record member
  simp only [forwards, List.mem_cons, Action.node.injEq, NodeAction.peer.injEq,
    PeerCall.upsertPeer.injEq, reduceCtorEq, and_false, false_or, or_false,
    List.mem_nil_iff] at member
  obtain ⟨rfl, _, rfl⟩ := member
  decide

/-- In a mesh with one peer, the peer and the publisher are handed its message once each. -/
theorem handed_nodup_forwards
    : ∃ mesh,
        exec Mesh.step {} forwards = some mesh
        ∧ mesh.handed = [([65], [9]), (peerEndpoint, [9])]
        ∧ mesh.handed.Nodup := by
  obtain ⟨mesh, _, _, run, _, _, _, handed, _⟩ := forwards_runs
  exact ⟨mesh, run, handed,
    handed_nodup_of_exec run (Equiv.swap ([2] : ByteString) peerEndpoint).injective
      forwards_oneAddressEach (by decide)⟩

end Mesh

end NexusD.Services
