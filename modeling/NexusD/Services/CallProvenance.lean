import NexusD.Services.ConcurrentCalls
import NexusD.Services.Provenance

/-! Where the messages of a daemon come from, with its handlers in flight.
A delivery under way carries its envelope and the streams it has still to visit; a resume under
way carries what it has gathered for its stream. Streams keep their topics, so what was true of
both when they were collected stays true while other calls run.
-/

namespace NexusD.Services

open NexusD.Core NexusD.Library

namespace SidecarService

/-- The stream behind `handle` was made for `topics`. -/
def MadeFor (service : SidecarService) (handle : Nat) (topics : List ByteString) : Prop :=
  ∃ stream, service.streams handle = some stream ∧ stream.topics = topics

/-- No stream goes away or changes its topics. -/
def KeepsTopics (before after : SidecarService) : Prop :=
  ∀ handle topics, before.MadeFor handle topics → after.MadeFor handle topics

theorem keepsTopics_of_identities {before after : SidecarService}
    (streams
      : ∀ handle,
          (after.streams handle).map SubscriptionStream.identity
          = (before.streams handle).map SubscriptionStream.identity)
    : KeepsTopics before after := by
  intro handle topics made
  obtain ⟨stream, found, rfl⟩ := made
  have same := streams handle
  rw [found, Option.map_some] at same
  obtain ⟨new, is, identical⟩ := Option.map_eq_some_iff.mp same
  exact ⟨new, is, congrArg StreamIdentity.topics identical⟩

/-- A new stream takes a handle that none had. -/
theorem TableInvariant.keepsTopics {before after : SidecarService}
    (table : before.TableInvariant)
    (others
      : ∀ handle,
          handle ≠ before.nextStream → after.streams handle = before.streams handle)
    : KeepsTopics before after := by
  intro handle topics made
  obtain ⟨stream, found, same⟩ := made
  have older : handle ≠ before.nextStream :=
    Nat.ne_of_lt (table.allocated handle (by simp [found]))
  exact ⟨stream, (others handle older).trans found, same⟩

theorem trackStream_others (service : SidecarService) (id : ByteString)
    (topics : List ByteString) {handle : Nat} (other : handle ≠ service.nextStream)
    : (service.trackStream id topics).1.streams handle = service.streams handle :=
  Function.update_of_ne other _ _

theorem trackStream_madeFor (service : SidecarService) (id : ByteString)
    (topics : List ByteString)
    : (service.trackStream id topics).1.MadeFor service.nextStream topics :=
  ⟨_, Function.update_self _ _ _, rfl⟩

end SidecarService

open SidecarService (MadeFor KeepsTopics)

/-- The call's envelope is from `source`, and the streams it will visit asked for its topic.
-/
def DeliveryPc.Traced (source : MessageEnvelope → Prop) (service : SidecarService)
    : DeliveryPc → Prop
  | .idle => True
  | .buffered envelope _ => source envelope
  | .delivering envelope _ remaining | .recording envelope _ _ remaining =>
      source envelope
      ∧ ∀ handle ∈ remaining,
          ∃ topics, service.MadeFor handle topics ∧ envelope.topic ∈ topics

/-- What the call has gathered is for the topics of its stream. -/
def ResumePc.Traced (source : MessageEnvelope → Prop) (service : SidecarService)
    : ResumePc → Prop
  | .idle | .found _ _ | .finished _ _ => True
  | .tracked _ handle topics | .attached _ handle topics => service.MadeFor handle topics
  | .recovering _ handle _ remaining recovery =>
      ∃ topics,
        service.MadeFor handle topics
        ∧ (∀ topic ∈ remaining, topic ∈ topics)
        ∧ ∀ event ∈ recovery.pendingReplay, event.TracedTo source topics

theorem DeliveryPc.Traced.mono {source wider : MessageEnvelope → Prop}
    {before after : SidecarService} (implied : ∀ envelope, source envelope → wider envelope)
    (kept : KeepsTopics before after) {pc : DeliveryPc} (traced : pc.Traced source before)
    : pc.Traced wider after := by
  cases pc with
  | idle => trivial
  | buffered envelope number => exact implied envelope traced
  | delivering envelope number remaining | recording envelope number handle remaining =>
      refine ⟨implied envelope traced.1, ?_⟩
      intro visited member
      obtain ⟨topics, made, on⟩ := traced.2 visited member
      exact ⟨topics, kept visited topics made, on⟩

theorem ResumePc.Traced.mono {source wider : MessageEnvelope → Prop}
    {before after : SidecarService} (implied : ∀ envelope, source envelope → wider envelope)
    (kept : KeepsTopics before after) {pc : ResumePc} (traced : pc.Traced source before)
    : pc.Traced wider after := by
  cases pc with
  | idle | found | finished => trivial
  | tracked request handle topics | attached request handle topics =>
      exact kept handle topics traced
  | recovering request handle resumed remaining recovery =>
      obtain ⟨topics, made, left, pending⟩ := traced
      exact ⟨topics, kept handle topics made, left,
        fun event member => (pending event member).mono implied⟩

theorem SidecarService.startResume_every {kind : MessageEvent → Prop} (systemMs : Int)
    {recovery : SidecarService.Recovery} {stream : SubscriptionStream}
    (every : stream.EveryEvent kind) (pending : ∀ event ∈ recovery.pendingReplay, kind event)
    (info
      : kind
          (.subscriptionInfo
            (resumeInfo stream.subscriptionId stream.topics systemMs recovery)))
    : (startResume systemMs recovery stream).EveryEvent kind := by
  unfold startResume
  refine SubscriptionStream.EveryEvent.startWrite ?_ info
  split
  · rename_i write replay resumes
    exact every.withReplay resumes _ pending
  · exact every
  · exact every

namespace ServiceThreads

/-- Everything the daemon keeps, its calls in flight included, comes from `source`. -/
structure Traced (source : MessageEnvelope → Prop) (state : ServiceThreads) : Prop where
  table : state.service.TableInvariant
  service : state.service.Traced source
  deliveries : ∀ thread, (state.deliveries thread).Traced source state.service
  resumes : ∀ thread, (state.resumes thread).Traced source state.service

/-- The call hands the daemon nothing but envelopes of `source`. A whole ResumeSubscribe is
left to its steps.
-/
def Action.Sourced (source : MessageEnvelope → Prop) (state : ServiceThreads)
    : Action → Prop
  | .call _ _ envelope => source envelope
  | .retain context request => source (state.service.publishedEnvelope context request)
  | .handle (.resumeSubscribe _ _) => False
  | .deliver _ _ | .resumeCall _ _ | .resume _ _ | .handle _ => True

theorem traced_start (source : MessageEnvelope → Prop) (config : ServiceConfig)
    (localNodeId : ByteString) (messageBufferSize maxBufferMemory : Nat)
    : Traced source
        { service :=
            .create config { localNodeId } messageBufferSize maxBufferMemory } where
  table :=
    SidecarService.tableInvariant_create config (PeerRegistry.not_knows_fresh localNodeId)
      messageBufferSize maxBufferMemory
  service := SidecarService.traced_create source config localNodeId _ _
  deliveries _ := trivial
  resumes _ := trivial

theorem Traced.mono {source wider : MessageEnvelope → Prop} {state : ServiceThreads}
    (implied : ∀ envelope, source envelope → wider envelope) (traced : state.Traced source)
    : state.Traced wider where
  table := traced.table
  service := traced.service.mono implied
  deliveries thread := (traced.deliveries thread).mono implied (fun _ _ made => made)
  resumes thread := (traced.resumes thread).mono implied (fun _ _ made => made)

section Step

variable {source : MessageEnvelope → Prop} {state after : ServiceThreads}

/-- The service has moved, and no call has. -/
theorem Traced.moved (traced : state.Traced source) {service : SidecarService}
    (table : service.TableInvariant) (sound : service.Traced source)
    (kept : KeepsTopics state.service service)
    : Traced source { state with service } where
  table := table
  service := sound
  deliveries thread := (traced.deliveries thread).mono (fun _ is => is) kept
  resumes thread := (traced.resumes thread).mono (fun _ is => is) kept

theorem Traced.advance (traced : state.Traced source) {service : SidecarService}
    (table : service.TableInvariant) (sound : service.Traced source)
    (kept : KeepsTopics state.service service) (thread : Nat) {pc : DeliveryPc}
    (moved : pc.Traced source service) (entries : List QueueEntry)
    : (state.advance thread service pc entries).Traced source where
  table := table
  service := sound
  deliveries other := by
    by_cases same : other = thread
    · subst same
      simpa [ServiceThreads.advance] using moved
    · simpa [ServiceThreads.advance, same]
        using (traced.deliveries other).mono (fun _ is => is) kept
  resumes other := (traced.resumes other).mono (fun _ is => is) kept

theorem Traced.resumed (traced : state.Traced source) {service : SidecarService}
    (table : service.TableInvariant) (sound : service.Traced source)
    (kept : KeepsTopics state.service service) (thread : Nat) {pc : ResumePc}
    (moved : pc.Traced source service)
    : Traced source
        { state with service, resumes := Function.update state.resumes thread pc } where
  table := table
  service := sound
  deliveries other := (traced.deliveries other).mono (fun _ is => is) kept
  resumes other := by
    by_cases same : other = thread
    · subst same
      simpa using moved
    · simpa [same] using (traced.resumes other).mono (fun _ is => is) kept

/-- A step of a delivery. The streams it collects have the topic, and it visits no others. -/
theorem Traced.deliveryMove (traced : state.Traced source) {context : CallContext}
    {thread : Nat} {was pc : DeliveryPc} {next : SidecarService} {entries : List QueueEntry}
    (stands : state.deliveries thread = was)
    (moved : DeliveryMove state.service context was next pc entries)
    : next.Traced source ∧ pc.Traced source next := by
  have before := traced.deliveries thread
  rw [stands] at before
  have kept := SidecarService.keepsTopics_of_identities moved.quiet.1.streams
  have visited {envelope : MessageEnvelope} {number handle : Nat} {remaining : List Nat}
      (asked
        : DeliveryPc.Traced source state.service
            (.delivering envelope number (handle :: remaining)))
      : (state.service.deliverTo context envelope number handle).1.Traced source := by
    apply traced.service.deliverTo context asked.1 number
    intro stream found
    obtain ⟨topics, ⟨other, there, rfl⟩, on⟩ := asked.2 handle List.mem_cons_self
    rw [found, Option.some.injEq] at there
    rwa [there]
  have left {envelope : MessageEnvelope} {number handle : Nat} {remaining : List Nat}
      (asked
        : DeliveryPc.Traced source state.service
            (.delivering envelope number (handle :: remaining)))
      : DeliveryPc.Traced source state.service (.delivering envelope number remaining) :=
    ⟨asked.1, (List.forall_mem_cons.mp asked.2).2⟩
  cases moved with
  | collect =>
      refine ⟨traced.service, before, ?_⟩
      intro handle member
      have selected := (SidecarService.mem_matchingStreams.mp member).2
      unfold SidecarService.selects at selected
      split at selected
      · cases selected
      · rename_i stream found
        simp only [Bool.and_eq_true, List.contains_iff_mem] at selected
        exact ⟨stream.topics, ⟨stream, found, rfl⟩, selected.2⟩
  | leave => exact ⟨traced.service, trivial⟩
  | enter | skip => exact ⟨visited before, (left before).mono (fun _ is => is) kept⟩
  | @record envelope number handle remaining =>
      have rest
        : DeliveryPc.Traced source state.service (.delivering envelope number remaining) :=
        before
      exact ⟨traced.service.recordDelivery handle envelope.topic number,
        rest.mono (fun _ is => is) kept⟩

/-- A step of a resume. Each round of its loop asks the buffer for one of its topics. -/
theorem Traced.resumeMove (traced : state.Traced source) {context : CallContext}
    {thread : Nat} {was pc : ResumePc} {next : SidecarService}
    (stands : state.resumes thread = was)
    (moved : ResumeMove state.service context was next pc)
    : next.Traced source ∧ KeepsTopics state.service next ∧ pc.Traced source next := by
  have before := traced.resumes thread
  rw [stands] at before
  -- the end of the constructor writes the info and what has been gathered
  have started {handle : Nat} {topics : List ByteString} {recovery : SidecarService.Recovery}
      (made : state.service.MadeFor handle topics)
      (pending : ∀ event ∈ recovery.pendingReplay, event.TracedTo source topics)
      : (state.service.onStream handle
            (SidecarService.startResume context.systemMs recovery)).Traced source
        ∧ KeepsTopics state.service
            (state.service.onStream handle
              (SidecarService.startResume context.systemMs recovery)) := by
    constructor
    · refine traced.service.onStream handle ?_
      intro stream found
      obtain ⟨other, there, rfl⟩ := made
      rw [found, Option.some.injEq] at there
      subst there
      have topics :=
        congrArg StreamIdentity.topics
          (SidecarService.startResume_identity context.systemMs recovery stream)
      simp only [SubscriptionStream.identity] at topics
      rw [topics]
      exact SidecarService.startResume_every context.systemMs
        (traced.service.streams handle stream found) pending rfl
    · exact SidecarService.keepsTopics_of_identities
        (state.service.onStream_quiet handle
          (SidecarService.startResume_identity context.systemMs recovery)).streams
  cases moved with
  | track =>
      exact ⟨traced.service.trackStream _ _,
        traced.table.keepsTopics (fun _ other => state.service.trackStream_others _ _ other),
        state.service.trackStream_madeFor _ _⟩
  | @attach request handle topics =>
      have kept
        : KeepsTopics state.service
            (state.service.onStream handle
              (SidecarService.attachResume request.gapRecoveryMode)) := by
        intro other topics made
        obtain ⟨stream, found, rfl⟩ := made
        rw [MadeFor, SidecarService.onStream_streams]
        split
        · exact ⟨SidecarService.attachResume request.gapRecoveryMode stream,
            by rw [found, Option.map_some], rfl⟩
        · exact ⟨stream, found, rfl⟩
      refine ⟨traced.service.onStream handle ?_, kept, kept handle topics before⟩
      intro stream found
      refine ⟨(traced.service.streams handle stream found).queued, ?_, ?_⟩
      · intro reactor attached
        cases attached
        trivial
      · intro reactor attached
        cases attached
        simp [Reactor.pending]
  | @take request handle topics =>
      have mesh :=
        state.service.registry.apply_sameMesh (.resume context.now request.subscriptionId)
      refine ⟨traced.service.changed rfl mesh.retainedMessages traced.service.streams,
        fun _ _ made => made, topics, before, ?_, by simp⟩
      intro topic member
      split at member
      · cases member
      · exact member
  | @recover request handle paused topic remaining recovery =>
      obtain ⟨topics, made, left, pending⟩ := before
      rw [List.forall_mem_cons] at left
      exact ⟨traced.service, fun _ _ made => made, topics, made, left.2,
        traced.service.recoverTopic request paused left.1 pending⟩
  | finish done =>
      obtain ⟨topics, made, left, pending⟩ := before
      exact ⟨(started made pending).1, (started made pending).2, trivial⟩

/-- Every step of a daemon keeps what it has traced to what it was handed. -/
theorem Traced.step (traced : state.Traced source) {action : Action}
    (sourced : action.Sourced source state) (taken : state.step action = some after)
    : after.Traced source := by
  have table := tableInvariant_step traced.table taken
  cases move_of_step taken with
  | @call thread context envelope free =>
      have stands (number : Nat)
          : DeliveryPc.Traced source (state.service.bufferEnvelope context envelope).1
              (.buffered envelope number) :=
        sourced
      exact traced.advance table (traced.service.bufferEnvelope context sourced)
        (SidecarService.keepsTopics_of_identities (fun _ => rfl)) thread (stands _) []
  | deliver stands moved =>
      obtain ⟨sound, left⟩ := traced.deliveryMove stands moved
      exact traced.advance table sound
        (SidecarService.keepsTopics_of_identities moved.quiet.1.streams) _ left _
  | refuse => exact traced
  | @find thread request paused free found =>
      exact traced.resumed table traced.service (fun _ _ made => made) thread trivial
  | resume stands moved =>
      obtain ⟨sound, kept, left⟩ := traced.resumeMove stands moved
      exact traced.resumed table sound kept _ left
  | @retain context request =>
      exact traced.moved table (traced.service.retain context sourced)
        (SidecarService.keepsTopics_of_identities
          (state.service.retain_quiet context request).streams)
  | @handle request service apart moved =>
      cases request with
      | subscribe context request =>
          cases moved
          exact traced.moved table (traced.service.subscribe context request)
            (traced.table.keepsTopics (state.service.subscribe_opened context request).others)
      | unsubscribe context request =>
          cases moved
          exact traced.moved table (traced.service.unsubscribe context request)
            (SidecarService.keepsTopics_of_identities
              (state.service.unsubscribe_closed context request).streams)
      | resumeSubscribe context request => exact sourced.elim
      | publish | deliver => cases apart
      | writeDone context handle ok =>
          have quiet := SidecarService.quiet_of_step rfl moved
          simp only [SidecarService.step, Option.ite_none_right_eq_some,
            Option.some.injEq] at moved
          obtain ⟨_, rfl⟩ := moved
          exact traced.moved table (traced.service.writeDone _ _ handle ok)
            (SidecarService.keepsTopics_of_identities quiet.streams)
      | cancel handle =>
          have quiet := SidecarService.quiet_of_step rfl moved
          cases moved
          exact traced.moved table (traced.service.clearActive handle)
            (SidecarService.keepsTopics_of_identities quiet.streams)

end Step

end ServiceThreads

end NexusD.Services
