import NexusD.Core.SubscriptionCalls
import NexusD.Services.SubscriptionTable

/-! Runs of a daemon: the service's requests, the calls about peers and the sweeps of retained
messages, in any order. Requests leave the mesh side of the registry alone, except that a
Publish may replace the retained message of its topic.
-/

namespace NexusD.Services

open NexusD.Core NexusD.Library

inductive DaemonEvent where
  | request (request : SidecarService.Request)
  /-- a beacon, a sync, a removal or the reaper -/
  | peer (call : PeerCall)
  | clearExpiredRetainedMessages (order : IterationOrder ByteString) (nowMs : Int)

namespace SidecarService

def daemonStep (service : SidecarService) : DaemonEvent → Option SidecarService
  | .request request => service.step request
  | .peer call => some { service with registry := service.registry.perform call }
  | .clearExpiredRetainedMessages order nowMs =>
      some { service with
        registry := service.registry.clearExpiredRetainedMessages order nowMs }

theorem deliverRound_sameMesh (service : SidecarService) (context : CallContext)
    (envelope : MessageEnvelope) (sequenceNumber handle : Nat)
    : service.registry.SameMesh
        (service.deliverRound context envelope sequenceNumber handle).1.registry := by
  rcases service.deliverRound_registry context envelope sequenceNumber handle with
    same | ⟨subscriptionId, noted⟩
  · rw [same]
    exact .refl _
  · rw [noted]
    exact service.registry.updateSubscriptionSequence_sameMesh _ envelope.topic _

theorem deliverToAll_sameMesh (context : CallContext) (envelope : MessageEnvelope)
    (sequenceNumber : Nat) (service : SidecarService) (handles : List Nat)
    : service.registry.SameMesh
        (deliverToAll context envelope sequenceNumber service handles).1.registry :=
  deliverToAll_induction (motive := fun before after => before.registry.SameMesh after.registry)
    (fun _ => .refl _)
    (fun service handle _ later =>
      (service.deliverRound_sameMesh context envelope sequenceNumber handle).trans later)
    service handles

theorem deliverFromRemote_sameMesh (service : SidecarService) (context : CallContext)
    (envelope : MessageEnvelope)
    : service.registry.SameMesh
        (service.deliverFromRemote context envelope).1.registry :=
  deliverToAll_sameMesh context envelope (service.bufferEnvelope context envelope).2
    (service.bufferEnvelope context envelope).1 _

/-- A Publish after its first effect; the other requests have none on the mesh side. -/
def retainedBy (service : SidecarService) : Request → SidecarService
  | .publish context request => service.retain context request
  | _ => service

theorem step_sameMesh {service after : SidecarService} {request : Request}
    (taken : service.step request = some after)
    : (service.retainedBy request).registry.SameMesh after.registry := by
  cases request with
  | subscribe context request =>
      cases taken
      rw [subscribe_registry]
      exact service.registry.apply_sameMesh (.add _ _ _ _ _)
  | unsubscribe context request =>
      cases taken
      rw [unsubscribe_registry]
      exact service.registry.apply_sameMesh (.remove _ _ _ _)
  | resumeSubscribe context request =>
      cases taken
      cases found : service.registry.getPausedSubscription request.subscriptionId with
      | none =>
          rw [resumeSubscribe_notFound found]
          exact .refl _
      | some paused =>
          rw [resumeSubscribe_registry found]
          exact service.registry.apply_sameMesh (.resume _ _)
  | publish context request =>
      cases taken
      exact (service.retain context request).deliverFromRemote_sameMesh context _
  | deliver context envelope =>
      cases taken
      exact service.deliverFromRemote_sameMesh context envelope
  | writeDone context handle ok =>
      simp only [step, Option.ite_none_right_eq_some, Option.some.injEq] at taken
      obtain ⟨_, rfl⟩ := taken
      rw [onStream_registry]
      exact .refl _
  | cancel handle =>
      cases taken
      rw [onStream_registry]
      exact .refl _

end SidecarService

end NexusD.Services
