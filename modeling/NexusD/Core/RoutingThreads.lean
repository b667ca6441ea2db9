import NexusD.Core.PeerTable
import Mathlib.Logic.Function.Basic

/-! The peers and their routes under concurrent calls.
A call lets go of the peers' lock before it builds the routes anew, so the routes lag behind
the peers while a call is between the two.
-/

namespace NexusD.Core

open NexusD.Library

/-- The registry, and the threads whose call has changed the peers but not yet the routes. -/
structure RoutingThreads where
  registry : PeerRegistry
  rebuilding : Nat → Bool := fun _ => false

namespace RoutingThreads

inductive Action where
  /-- the call starts and does its work under the peers' lock -/
  | call (thread : Nat) (call : PeerCall)
  | rebuild (thread : Nat)

def step (state : RoutingThreads) : Action → Option RoutingThreads
  | .call thread call =>
      match state.rebuilding thread with
      | true => none
      | false =>
          some {
            registry := state.registry.update call
            rebuilding :=
              Function.update state.rebuilding thread (state.registry.rebuilds call) }
  | .rebuild thread =>
      match state.rebuilding thread with
      | true =>
          some {
            registry := state.registry.rebuildRoutingTable
            rebuilding := Function.update state.rebuilding thread false }
      | false => none

def start (localNodeId : ByteString) : RoutingThreads where
  registry := { localNodeId }

def Quiescent (state : RoutingThreads) : Prop :=
  ∀ thread, state.rebuilding thread = false

/-- The actions of a call that nothing interrupts. -/
def callAlone (state : RoutingThreads) (thread : Nat) (call : PeerCall) : List Action :=
  if state.registry.rebuilds call then
    [.call thread call, .rebuild thread]
  else
    [.call thread call]

/-- Such a call is the one of the sequential registry. -/
theorem exec_callAlone {state : RoutingThreads} {thread : Nat}
    (idle : state.rebuilding thread = false) (call : PeerCall)
    : exec step state (state.callAlone thread call)
      = some { state with registry := state.registry.perform call } := by
  have same : Function.update state.rebuilding thread false = state.rebuilding := by
    rw [← idle, Function.update_eq_self]
  cases rebuilt : state.registry.rebuilds call with
  | true =>
      rw [PeerRegistry.perform_of_rebuilds rebuilt]
      simp [callAlone, step, idle, rebuilt, same]
  | false =>
      rw [PeerRegistry.perform_of_not_rebuilds rebuilt]
      simp [callAlone, step, idle, rebuilt, same]

/-- The routes agree with the peers, or a rebuild is still to come. -/
def AgreesOrPending (state : RoutingThreads) : Prop :=
  (∃ thread, state.rebuilding thread = true) ∨ state.registry.RoutesAgree

theorem AgreesOrPending.step {state after : RoutingThreads} {action : Action}
    (holds : state.AgreesOrPending) (taken : state.step action = some after)
    : after.AgreesOrPending := by
  cases action with
  | call thread call =>
      simp only [RoutingThreads.step] at taken
      split at taken
      · cases taken
      · rename_i idle
        cases taken
        cases rebuilt : state.registry.rebuilds call with
        | true => exact .inl ⟨thread, by simp⟩
        | false =>
            rcases holds with ⟨other, pending⟩ | agree
            · have distinct : other ≠ thread := by
                intro same
                rw [same, idle] at pending
                cases pending
              exact .inl ⟨other, by simp [distinct, pending]⟩
            · exact .inr (agree.update rebuilt)
  | rebuild thread =>
      simp only [RoutingThreads.step] at taken
      split at taken
      · cases taken
        -- the rebuild reads all the peers, whichever call changed them
        exact .inr (PeerRegistry.routesAgree_rebuildRoutingTable _)
      · cases taken

/-- Whatever the interleaving, the routes agree with the peers when no call has its rebuild
still to do.
-/
theorem routesAgree_of_quiescent {localNodeId : ByteString} {actions : List Action}
    {state : RoutingThreads} (run : exec step (start localNodeId) actions = some state)
    (quiescent : state.Quiescent)
    : state.registry.RoutesAgree := by
  have holds : state.AgreesOrPending :=
    exec_always AgreesOrPending (.inr (PeerRegistry.routesAgree_fresh localNodeId))
      AgreesOrPending.step run
  rcases holds with ⟨thread, pending⟩ | agree
  · rw [quiescent thread] at pending
    cases pending
  · exact agree

/-- Node 2 is removed while the state of node 1 comes in, and each call rebuilds after both. -/
def overlappingCalls : List Action :=
  [ .call 0 (.upsertPeer 0 (PeerRegistry.discovered [1] 5 0)),
    .call 1 (.upsertPeer 0 (PeerRegistry.discovered [2] 6 0)),
    .call 0 (.updatePeerState [1] [[97]] 5), .call 1 (.removePeer [2]), .rebuild 1,
    .rebuild 0 ]

theorem routesAgree_after_overlap
    : ∃ state,
        exec step (start [0]) overlappingCalls = some state
        ∧ [1] ∈ state.registry.getRemoteSubscribers .asStored [97]
        ∧ state.registry.RoutesAgree := by
  have finished
      : ∃ state, exec step (start [0]) overlappingCalls = some state
        ∧ state.Quiescent
        ∧ [1] ∈ state.registry.getRemoteSubscribers .asStored [97] := by
    refine ⟨_, rfl, ?_, by decide +kernel⟩
    intro thread
    match thread with
    | 0 => rfl
    | 1 => rfl
    | _ + 2 => rfl
  obtain ⟨state, run, quiescent, listed⟩ := finished
  exact ⟨state, run, listed, routesAgree_of_quiescent run quiescent⟩

end RoutingThreads

end NexusD.Core
