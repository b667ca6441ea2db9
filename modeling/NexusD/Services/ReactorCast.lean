import NexusD.Services.StreamEvents

/-! The class of the object behind `stream->reactor` when a message is delivered.
`deliverFromRemote` casts the pointer to `SubscribeReactor`. ResumeSubscribe stores an object
of another class in the same field, so the cast is right until a subscription with a topic is
resumed.
-/

namespace NexusD.Services.SidecarService

open NexusD.Core NexusD.Library

/-- Whatever the topic and the map's order, a stream that a delivery selects has no reactor
yet or one that Subscribe created.
-/
def CastsRight (service : SidecarService) : Prop :=
  ∀ order topic handle,
    handle ∈ service.matchingStreams order topic
    → ∀ stream reactor,
        service.streams handle = some stream
        → stream.reactor = some reactor
        → reactor.isSubscribe = true

/-- The paused subscription a ResumeSubscribe finds, expired or not, has no topics. -/
def ResumesNoTopics (service : SidecarService) (request : Request) : Prop :=
  ∀ context resume paused,
    request = .resumeSubscribe context resume
    → service.registry.getPausedSubscription resume.subscriptionId = some paused
    → paused.topics = []

/-- Streams of resumed subscriptions listen to nothing. -/
def ResumedSilent (service : SidecarService) : Prop :=
  ∀ handle stream,
    service.streams handle = some stream
    → stream.identity.reactorIsSubscribe = some false
    → stream.identity.topics = []

theorem ResumedSilent.castsRight {service : SidecarService} (silent : service.ResumedSilent)
    : service.CastsRight := by
  intro order topic handle selected stream reactor found set
  obtain ⟨_, listens⟩ := mem_matchingStreams.mp selected
  simp only [selects, found, Bool.and_eq_true, List.contains_iff_mem] at listens
  by_contra other
  have resumed : stream.identity.reactorIsSubscribe = some false := by
    simp [SubscriptionStream.identity, set, Bool.eq_false_of_not_eq_true other]
  have noTopics : stream.topics = [] := silent handle stream found resumed
  rw [noTopics] at listens
  exact List.not_mem_nil listens.2

/-- Where the cast is right every delivery returns. -/
theorem CastsRight.returned {service : SidecarService} (right : service.CastsRight)
    (context : CallContext) (envelope : MessageEnvelope)
    : (service.deliverFromRemote context envelope).2.returned = true := by
  refine returned_iff.mpr ?_
  intro handle member
  unfold miscasts
  split
  · rfl
  · rename_i stream is
    rw [Option.any_eq_false]
    intro reactor set
    simp [right context.streamOrder envelope.topic handle member stream reactor is set]

theorem ResumedSilent.of_identities {before after : SidecarService}
    (silent : before.ResumedSilent)
    (same
      : ∀ handle,
          (after.streams handle).map SubscriptionStream.identity
          = (before.streams handle).map SubscriptionStream.identity)
    : after.ResumedSilent := by
  intro handle stream found resumed
  have identical := same handle
  rw [found, Option.map_some, eq_comm, Option.map_eq_some_iff] at identical
  obtain ⟨old, was, equal⟩ := identical
  rw [← equal] at resumed ⊢
  exact silent handle old was resumed

/-- An opened stream keeps resumed streams silent if it is one of Subscribe's or has no
topics.
-/
theorem ResumedSilent.opened {before after : SidecarService} {id : ByteString}
    {topics : List ByteString} {isSubscribe : Bool} (silent : before.ResumedSilent)
    (opened : Opened before after id topics isSubscribe)
    (harmless : isSubscribe = false → topics = [])
    : after.ResumedSilent := by
  intro handle stream found resumed
  by_cases new : handle = before.nextStream
  · obtain ⟨created, is, identity, _⟩ := opened.opened
    rw [new, is, Option.some.injEq] at found
    subst found
    rw [identity] at resumed ⊢
    exact harmless (Option.some.inj resumed)
  · rw [opened.others handle new] at found
    exact silent handle stream found resumed

theorem ResumedSilent.step {service after : SidecarService} {request : Request}
    (silent : service.ResumedSilent) (noTopics : service.ResumesNoTopics request)
    (taken : service.step request = some after)
    : after.ResumedSilent := by
  cases request with
  | subscribe context request =>
      cases taken
      exact silent.opened (service.subscribe_opened context request) (by simp)
  | unsubscribe context request =>
      cases taken
      exact silent.of_identities (service.unsubscribe_closed context request).streams
  | resumeSubscribe context request =>
      cases taken
      cases found : service.registry.getPausedSubscription request.subscriptionId with
      | none => rwa [resumeSubscribe_notFound found]
      | some paused =>
          exact silent.opened (resumeSubscribe_opened found context)
            (fun _ => noTopics context request paused rfl found)
  | publish | deliver | writeDone | cancel =>
      exact silent.of_identities (quiet_of_step rfl taken).streams

theorem ResumedSilent.streamStep {service after : SidecarService} {event : StreamEvent}
    (silent : service.ResumedSilent)
    (plain : ∀ context request, event ≠ .resumeSubscribe context request)
    (taken : service.streamStep event = some after)
    : after.ResumedSilent := by
  rcases streamStep_cases taken with
    quiet | ⟨context, request, _, rfl⟩ | ⟨context, request, _, rfl⟩
      | ⟨context, request, _, resumes, _⟩
  · exact silent.of_identities quiet.streams
  · exact silent.opened (service.subscribe_opened context request) (by simp)
  · exact silent.of_identities (service.unsubscribe_closed context request).streams
  · exact absurd resumes (plain context request)

/-- In every state that a run of the service passes through the delivery cast meets a
`SubscribeReactor`, exactly if no ResumeSubscribe of the run finds a paused subscription with
a topic: its stream is selected for that topic from then on.
-/
theorem castsRight_iff_resumesNoTopics (config : ServiceConfig) (registry : PeerRegistry)
    (messageBufferSize maxBufferMemory : Nat) (requests : List Request)
    {final : SidecarService}
    (run
      : exec SidecarService.step (create config registry messageBufferSize maxBufferMemory)
          requests
        = some final)
    : (∀ earlier service,
        earlier <+: requests
        → exec SidecarService.step
              (create config registry messageBufferSize maxBufferMemory) earlier
            = some service
        → service.CastsRight)
      ↔ Along SidecarService.step
          (create config registry messageBufferSize maxBufferMemory) ResumesNoTopics
          requests := by
  constructor
  · intro right earlier request later service same reached context resume paused equal found
    subst same
    subst equal
    obtain ⟨after, taken, goes⟩ := exec_step_of_split run reached
    cases taken
    have opened := resumeSubscribe_opened found context
    obtain ⟨stream, is, identity, active⟩ := opened.opened
    by_contra listens
    obtain ⟨topic, member⟩ := List.exists_mem_of_ne_nil _ listens
    have sameTopics : stream.topics = paused.topics := congrArg StreamIdentity.topics identity
    have selected
      : service.nextStream
        ∈ (service.resumeSubscribe context resume).1.matchingStreams .asStored topic := by
      refine mem_matchingStreams.mpr ⟨⟨resume.subscriptionId, ?_⟩, ?_⟩
      · rw [opened.activeStreams, AList.lookup_insert]
      · simp [selects, is, active, sameTopics, member]
    have resumed : stream.reactor.map Reactor.isSubscribe = some false :=
      congrArg StreamIdentity.reactorIsSubscribe identity
    obtain ⟨reactor, set, other⟩ := Option.map_eq_some_iff.mp resumed
    have cast :=
      right _ _ ⟨later, by simp⟩ goes .asStored topic _ selected stream reactor is set
    rw [other] at cast
    cases cast
  · intro noTopics earlier service isPrefix reached
    apply ResumedSilent.castsRight
    exact exec_invariant ResumesNoTopics ResumedSilent (by simp [ResumedSilent, create])
      (fun silent condition taken => silent.step condition taken) reached
      (noTopics.of_prefix isPrefix)

/-- A client subscribes to topic `a`, one message is published there, the client leaves. -/
def subscribeAndLeave : List Request :=
  [
    .subscribe {} { topics := [[97]] },
    .deliver {} { topic := [97], payload := [1] },
    .unsubscribe {} { subscriptionId := subscriptionIdOf 0 [], pause := true }
  ]

theorem castsRight_until_resume
    : ∃ final,
        exec SidecarService.step smallDaemon subscribeAndLeave = some final
        ∧ ∀ earlier service,
            earlier <+: subscribeAndLeave
            → exec SidecarService.step smallDaemon earlier = some service
            → service.CastsRight := by
  refine ⟨_, rfl, ?_⟩
  refine (castsRight_iff_resumesNoTopics {} { localNodeId := [] } 5 0 subscribeAndLeave
    rfl).mpr ?_
  intro earlier request later service split _ context resume paused same _
  subst same
  have member : Request.resumeSubscribe context resume ∈ subscribeAndLeave := by simp [split]
  simp [subscribeAndLeave] at member

/-- The paused client comes back, and the next delivery on its topic casts a
`ResumeSubscribeReactor`.
-/
theorem resumed_stream_is_miscast
    : ∃ service,
        exec SidecarService.step smallDaemon
            (subscribeAndLeave
              ++ [.resumeSubscribe {} { subscriptionId := subscriptionIdOf 0 [] }])
          = some service
        ∧ ¬service.CastsRight := by
  refine ⟨_, rfl, ?_⟩
  intro right
  have cast := right .asStored [97] 1 (by decide) _ _ rfl rfl
  cases cast

end NexusD.Services.SidecarService
