import NexusD.Services.SubscriptionTable

/-! The delivery position the registry keeps for a subscription, followed from Subscribe over
its deliveries to the paused record. Each delivery overwrites the position with its own
sequence number, whatever the topic.
-/

namespace NexusD.Services.SidecarService

open NexusD.Core NexusD.Library

/-- The stream behind `handle` belongs to subscription `id`. -/
def AnswersTo (service : SidecarService) (handle : Nat) (id : ByteString) : Prop :=
  (service.streams handle).map SubscriptionStream.subscriptionId = some id

theorem Quiet.answersTo_iff {before after : SidecarService} (quiet : Quiet before after)
    (handle : Nat) (id : ByteString)
    : after.AnswersTo handle id ↔ before.AnswersTo handle id := by
  have same := congrArg (Option.map StreamIdentity.subscriptionId) (quiet.streams handle)
  rw [Option.map_map, Option.map_map] at same
  exact Eq.congr_left same

/-- The position the registry has for an active subscription. -/
def recordOf (service : SidecarService) (id : ByteString) : Option LocalSubscription :=
  service.registry.localSubscriptions.lookup id

def positioned (sequence : Nat) (subscription : LocalSubscription) : LocalSubscription :=
  { subscription with lastDeliveredSequence := sequence }

section Round

variable (service : SidecarService) (context : CallContext) (envelope : MessageEnvelope)
  (sequenceNumber handle : Nat)

theorem recordOf_recordDelivery {id : ByteString} (answers : service.AnswersTo handle id)
    : (service.recordDelivery handle envelope.topic sequenceNumber).recordOf id
      = (service.recordOf id).map (positioned sequenceNumber) := by
  obtain ⟨stream, found, rfl⟩ := Option.map_eq_some_iff.mp answers
  simp only [recordDelivery, found, recordOf]
  cases active : service.registry.localSubscriptions.lookup stream.subscriptionId with
  | none => simp [PeerRegistry.updateSubscriptionSequence, active]
  | some subscription => rw [PeerRegistry.updateSubscriptionSequence_same active]; rfl

theorem recordOf_recordDelivery_other {id : ByteString}
    (other : ¬service.AnswersTo handle id)
    : (service.recordDelivery handle envelope.topic sequenceNumber).recordOf id
      = service.recordOf id := by
  unfold recordDelivery
  split
  · rfl
  · rename_i stream found
    refine PeerRegistry.updateSubscriptionSequence_other ?_ envelope.topic _
    intro same
    subst same
    exact other (by simp [AnswersTo, found])

/-- A round leaves the records of other subscriptions alone. -/
theorem recordOf_deliverRound_other {id : ByteString}
    (other : ¬service.AnswersTo handle id)
    : (service.deliverRound context envelope sequenceNumber handle).1.recordOf id
      = service.recordOf id := by
  have quiet := service.deliverTo_quiet context envelope sequenceNumber handle
  have same
    : (service.deliverTo context envelope sequenceNumber handle).1.recordOf id
      = service.recordOf id := by
    simp [recordOf]
  rw [deliverRound_eq]
  dsimp only
  split
  · rw [recordOf_recordDelivery_other _ _ _ _ ((quiet.answersTo_iff handle id).not.mpr other),
      same]
  · exact same

/-- A round that enqueues moves the position of the stream's own subscription. -/
theorem recordOf_deliverRound_enqueued {id : ByteString}
    (answers : service.AnswersTo handle id)
    (enqueued
      : (service.deliverRound context envelope sequenceNumber handle).2 = some .enqueued)
    : (service.deliverRound context envelope sequenceNumber handle).1.recordOf id
      = (service.recordOf id).map (positioned sequenceNumber) := by
  have quiet := service.deliverTo_quiet context envelope sequenceNumber handle
  rw [deliverRound_eq] at enqueued ⊢
  dsimp only at enqueued ⊢
  rw [if_pos enqueued,
    recordOf_recordDelivery _ _ _ _ ((quiet.answersTo_iff handle id).mpr answers)]
  simp [recordOf]

/-- In any case a round leaves a record or moves its position to the round's number. -/
theorem recordOf_deliverRound_or (id : ByteString)
    : (service.deliverRound context envelope sequenceNumber handle).1.recordOf id
        = service.recordOf id
      ∨ (service.deliverRound context envelope sequenceNumber handle).1.recordOf id
        = (service.recordOf id).map (positioned sequenceNumber) := by
  by_cases answers : service.AnswersTo handle id
  · by_cases enqueued
      : (service.deliverRound context envelope sequenceNumber handle).2 = some .enqueued
    · exact .inr (recordOf_deliverRound_enqueued _ _ _ _ _ answers enqueued)
    · left
      rw [deliverRound_eq] at enqueued ⊢
      simp [if_neg enqueued, recordOf]
  · exact .inl (recordOf_deliverRound_other _ _ _ _ _ answers)

end Round

/-- `deliverFromRemote`, with its first piece kept folded. -/
theorem deliverFromRemote_fst (service : SidecarService) (context : CallContext)
    (envelope : MessageEnvelope)
    : (service.deliverFromRemote context envelope).1
      = (deliverToAll context envelope (service.bufferEnvelope context envelope).2
          (service.bufferEnvelope context envelope).1
          ((service.bufferEnvelope context envelope).1.matchingStreams context.streamOrder
            envelope.topic)).1 :=
  rfl

section Loop

variable (context : CallContext) (envelope : MessageEnvelope) (sequenceNumber : Nat)
  (service : SidecarService)

theorem map_positioned_positioned (record : Option LocalSubscription)
    : (record.map (positioned sequenceNumber)).map (positioned sequenceNumber)
      = record.map (positioned sequenceNumber) := by
  rw [Option.map_map]
  rfl

theorem recordOf_deliverToAll_other {id : ByteString} {handles : List Nat}
    (nobody : ∀ handle ∈ handles, ¬service.AnswersTo handle id)
    : (deliverToAll context envelope sequenceNumber service handles).1.recordOf id
      = service.recordOf id := by
  induction handles generalizing service with
  | nil => rfl
  | cons handle rest ih =>
      have quiet := service.deliverRound_quiet context envelope sequenceNumber handle
      cases cast : service.miscasts handle with
      | true => rw [deliverToAll_cons_of_miscasts _ _ _ cast]
      | false =>
          rw [deliverToAll_cons _ _ _ cast]
          refine (ih _ ?_).trans
            (recordOf_deliverRound_other _ _ _ _ _ (nobody handle List.mem_cons_self))
          intro later member
          exact (quiet.answersTo_iff later id).not.mpr
            (nobody later (List.mem_cons_of_mem _ member))

theorem recordOf_deliverToAll_or (id : ByteString) (handles : List Nat)
    : (deliverToAll context envelope sequenceNumber service handles).1.recordOf id
        = service.recordOf id
      ∨ (deliverToAll context envelope sequenceNumber service handles).1.recordOf id
        = (service.recordOf id).map (positioned sequenceNumber) := by
  refine deliverToAll_induction
    (motive := fun before after =>
      after.recordOf id = before.recordOf id
      ∨ after.recordOf id = (before.recordOf id).map (positioned sequenceNumber))
    (fun _ => .inl rfl) ?_ service handles
  intro service handle final rounds
  have first := recordOf_deliverRound_or service context envelope sequenceNumber handle id
  rcases rounds with same | moved
  · rcases first with unchanged | once
    · exact .inl (same.trans unchanged)
    · exact .inr (same.trans once)
  · rcases first with unchanged | once
    · exact .inr (by rw [← unchanged]; exact moved)
    · refine .inr (moved.trans ?_)
      rw [once, map_positioned_positioned]

/-- The loop leaves the number of a message that a stream took as the position of the
stream's subscription. Witness: later rounds can only write the same number again.
-/
theorem recordOf_deliverToAll_enqueued {id : ByteString} {handles : List Nat} {target : Nat}
    (answers : service.AnswersTo target id)
    (enqueued
      : (target, .enqueued) ∈ (deliverToAll context envelope sequenceNumber service handles).2)
    : (deliverToAll context envelope sequenceNumber service handles).1.recordOf id
      = (service.recordOf id).map (positioned sequenceNumber) := by
  induction handles generalizing service with
  | nil => simp [deliverToAll] at enqueued
  | cons handle rest ih =>
      have quiet := service.deliverRound_quiet context envelope sequenceNumber handle
      have casts : service.miscasts handle = false := by
        by_contra hangs
        rw [deliverToAll_cons_of_miscasts _ _ _ (eq_true_of_ne_false hangs)] at enqueued
        exact List.not_mem_nil enqueued
      rw [deliverToAll_cons _ _ _ casts] at enqueued ⊢
      simp only [List.mem_append, Option.mem_toList, Option.map_eq_some_iff,
        Prod.mk.injEq] at enqueued
      rcases enqueued with ⟨result, taken, rfl, rfl⟩ | later
      · have first :=
          recordOf_deliverRound_enqueued service context envelope sequenceNumber handle answers
            taken
        rcases recordOf_deliverToAll_or context envelope sequenceNumber
            (service.deliverRound context envelope sequenceNumber handle).1 id rest
          with same | again
        · exact same.trans first
        · exact again.trans (by rw [first, map_positioned_positioned])
      · apply (ih _ ((quiet.answersTo_iff target id).mpr answers) later).trans
        rcases recordOf_deliverRound_or service context envelope sequenceNumber handle id
          with same | once
        · rw [same]
        · rw [once, map_positioned_positioned]

end Loop

/-- Subscription `id` is served by the stream behind `handle` and recorded as `record`. -/
structure Follows (service : SidecarService) (id : ByteString) (handle : Nat)
    (topics : List ByteString) (record : LocalSubscription)
    : Prop where
  table : service.TableInvariant
  current : service.activeStreams.lookup id = some handle
  listens : (service.streams handle).map SubscriptionStream.topics = some topics
  recorded : service.recordOf id = some record

theorem Quiet.listens {before after : SidecarService} (quiet : Quiet before after)
    (handle : Nat)
    : (after.streams handle).map SubscriptionStream.topics
      = (before.streams handle).map SubscriptionStream.topics := by
  have same := congrArg (Option.map StreamIdentity.topics) (quiet.streams handle)
  rwa [Option.map_map, Option.map_map] at same

theorem Follows.quiet {before after : SidecarService} {id : ByteString} {handle : Nat}
    {topics : List ByteString} {record now : LocalSubscription}
    (follows : before.Follows id handle topics record) (quiet : Quiet before after)
    (recorded : after.recordOf id = some now)
    : after.Follows id handle topics now where
  table := follows.table.quiet quiet
  current := by rw [quiet.activeStreams, follows.current]
  listens := by rw [quiet.listens, follows.listens]
  recorded := recorded

theorem follows_subscribe {service : SidecarService} (table : service.TableInvariant)
    (context : CallContext) (request : SubscribeRequest)
    : (service.subscribe context request).Follows
        (subscriptionIdOf service.subscriptionCounter context.uuid) service.nextStream
        request.topics
        {
          subscriptionId := subscriptionIdOf service.subscriptionCounter context.uuid
          clientId := request.clientId
          topics := request.topics
          maxBufferSize := request.maxBufferSize
          createdAt := context.now
        } := by
  have opened := service.subscribe_opened context request
  have next : service.step (.subscribe context request)
      = some (service.subscribe context request) := rfl
  refine ⟨table.step next, ?_, ?_, ?_⟩
  · rw [opened.activeStreams, AList.lookup_insert]
  · obtain ⟨stream, is, identity, _⟩ := opened.opened
    rw [is]
    exact congrArg some (congrArg StreamIdentity.topics identity)
  · rw [recordOf, subscribe_registry]
    refine PeerRegistry.addLocalSubscription_fresh ?_ _ _ _ _
    have unknown := table.fresh context.uuid
    rw [PeerRegistry.Knows, not_or] at unknown
    simpa using unknown.1

theorem Follows.answers {service : SidecarService} {id : ByteString} {handle : Nat}
    {topics : List ByteString} {record : LocalSubscription}
    (follows : service.Follows id handle topics record)
    : service.AnswersTo handle id := by
  obtain ⟨stream, is, answers⟩ := follows.table.named id handle follows.current
  simp [AnswersTo, is, answers]

/-- The stream takes the message: its number becomes the subscription's position. -/
theorem Follows.deliver_enqueued {service : SidecarService} {id : ByteString} {handle : Nat}
    {topics : List ByteString} {record : LocalSubscription}
    (follows : service.Follows id handle topics record) {context : CallContext}
    {envelope : MessageEnvelope}
    (enqueued
      : (handle, .enqueued) ∈ (service.deliverFromRemote context envelope).2.results)
    : (service.deliverFromRemote context envelope).1.Follows id handle topics
        (positioned (service.deliverFromRemote context envelope).2.sequenceNumber
          record) := by
  apply follows.quiet (service.deliverFromRemote_quiet context envelope)
  have buffered := service.bufferEnvelope_quiet context envelope
  have moved :=
    recordOf_deliverToAll_enqueued context envelope
      (service.bufferEnvelope context envelope).2
      (service.bufferEnvelope context envelope).1
      ((buffered.answersTo_iff handle id).mpr follows.answers) enqueued
  apply moved.trans
  have same
    : (service.bufferEnvelope context envelope).1.recordOf id = service.recordOf id := rfl
  rw [same, follows.recorded]
  rfl

/-- A message on another topic passes the subscription by. -/
theorem Follows.deliver_elsewhere {service : SidecarService} {id : ByteString} {handle : Nat}
    {topics : List ByteString} {record : LocalSubscription}
    (follows : service.Follows id handle topics record) (context : CallContext)
    {envelope : MessageEnvelope} (elsewhere : envelope.topic ∉ topics)
    : (service.deliverFromRemote context envelope).1.Follows id handle topics record := by
  apply follows.quiet (service.deliverFromRemote_quiet context envelope)
  have buffered := service.bufferEnvelope_quiet context envelope
  rw [deliverFromRemote_fst]
  refine (recordOf_deliverToAll_other context envelope _ _ ?_).trans follows.recorded
  intro selected member answers
  obtain ⟨⟨other, listed⟩, listens⟩ := mem_matchingStreams.mp member
  rw [buffered.answersTo_iff] at answers
  rw [buffered.activeStreams] at listed
  -- the selected stream would be the subscription's own, which does not have the topic
  obtain ⟨stream, is, named⟩ := follows.table.named other selected listed
  have own : other = id := by
    rw [AnswersTo, is, Option.map_some, Option.some.injEq, named] at answers
    exact answers
  rw [own, follows.current, Option.some.injEq] at listed
  subst listed
  have topicsAre := follows.listens
  rw [is, Option.map_some, Option.some.injEq] at topicsAre
  have listed : envelope.topic ∈ stream.topics := by
    have here : (service.bufferEnvelope context envelope).1.streams handle = some stream := is
    simp only [selects, here, Bool.and_eq_true, List.contains_iff_mem] at listens
    exact listens.2
  exact elsewhere (topicsAre ▸ listed)

/-- The topic and number of a message, if it is on one of `topics`. -/
def deliveredOn (topics : List ByteString) (service : SidecarService) (context : CallContext)
    (envelope : MessageEnvelope)
    : List (ByteString × Nat) :=
  if envelope.topic ∈ topics then
    [(envelope.topic, (service.deliverFromRemote context envelope).2.sequenceNumber)]
  else
    []

/-- What a request delivers on `topics`. -/
def deliveryOf (topics : List ByteString) (service : SidecarService)
    : Request → List (ByteString × Nat)
  | .deliver context envelope => deliveredOn topics service context envelope
  | .publish context request =>
      deliveredOn topics (service.retain context request) context
        (service.publishedEnvelope context request)
  | _ => []

/-- The deliveries of a run on `topics`, in order. -/
def deliveryLog (topics : List ByteString)
    : SidecarService → List Request → List (ByteString × Nat)
  | _, [] => []
  | service, request :: rest =>
      deliveryOf topics service request
      ++ deliveryLog topics ((service.step request).getD service) rest

/-- The stream behind `handle` takes the message, if it is on one of `topics`. -/
def Takes (handle : Nat) (topics : List ByteString) (service : SidecarService)
    (context : CallContext) (envelope : MessageEnvelope)
    : Prop :=
  envelope.topic ∈ topics
  → (handle, .enqueued) ∈ (service.deliverFromRemote context envelope).2.results

/-- Only publishes, deliveries and write callbacks happen, and the stream behind `handle`
takes every message on one of `topics`.
-/
def TakesAll (handle : Nat) (topics : List ByteString) (service : SidecarService)
    : Request → Prop
  | .deliver context envelope => Takes handle topics service context envelope
  | .publish context request =>
      Takes handle topics (service.retain context request) context
        (service.publishedEnvelope context request)
  | .writeDone _ _ _ => True
  | .subscribe _ _ | .unsubscribe _ _ | .resumeSubscribe _ _ | .cancel _ => False

instance (handle : Nat) (topics : List ByteString) (service : SidecarService)
    (context : CallContext) (envelope : MessageEnvelope)
    : Decidable (Takes handle topics service context envelope) :=
  inferInstanceAs (Decidable (_ → _))

instance (handle : Nat) (topics : List ByteString) (service : SidecarService)
    : DecidablePred (TakesAll handle topics service)
  | .deliver context envelope =>
      inferInstanceAs (Decidable (Takes handle topics service context envelope))
  | .publish context request =>
      inferInstanceAs (Decidable (Takes _ _ (service.retain context request) context _))
  | .writeDone _ _ _ => isTrue trivial
  | .subscribe _ _ | .unsubscribe _ _ | .resumeSubscribe _ _ | .cancel _ => isFalse id

/-- The number of the last delivery, whatever its topic. -/
def lastSequence (initial : Nat) (log : List (ByteString × Nat)) : Nat :=
  log.foldl (fun _ delivery => delivery.2) initial

/-- Whether the message is on the subscription's topics or not, the position follows. -/
theorem Follows.deliver {service : SidecarService} {id : ByteString} {handle : Nat}
    {topics : List ByteString} {record : LocalSubscription}
    (follows : service.Follows id handle topics record) {context : CallContext}
    {envelope : MessageEnvelope} (takes : Takes handle topics service context envelope)
    : (service.deliverFromRemote context envelope).1.Follows id handle topics
        (positioned
          (lastSequence record.lastDeliveredSequence
            (deliveredOn topics service context envelope))
          record) := by
  by_cases here : envelope.topic ∈ topics
  · simpa [deliveredOn, here, lastSequence] using follows.deliver_enqueued (takes here)
  · simpa [deliveredOn, here, lastSequence, positioned]
      using follows.deliver_elsewhere context here

theorem Follows.step {service after : SidecarService} {id : ByteString} {handle : Nat}
    {topics : List ByteString} {record : LocalSubscription}
    (follows : service.Follows id handle topics record) {request : Request}
    (takes : TakesAll handle topics service request)
    (taken : service.step request = some after)
    : after.Follows id handle topics
        (positioned
          (lastSequence record.lastDeliveredSequence (deliveryOf topics service request))
          record) := by
  cases request with
  | deliver context envelope =>
      cases taken
      exact follows.deliver takes
  | publish context request =>
      cases taken
      refine Follows.deliver (follows.quiet (service.retain_quiet context request) ?_) takes
      rw [recordOf, retain_localSubscriptions]
      exact follows.recorded
  | writeDone context target ok =>
      have quiet := quiet_of_step rfl taken
      simp only [SidecarService.step, Option.ite_none_right_eq_some, Option.some.injEq] at taken
      obtain ⟨_, rfl⟩ := taken
      apply follows.quiet quiet
      simpa [recordOf, deliveryOf, lastSequence, positioned] using follows.recorded
  | subscribe | unsubscribe | resumeSubscribe | cancel => exact takes.elim

/-- After any run that the stream keeps up with, the position is the number of the run's last
delivery on any of the topics.
-/
theorem Follows.run {service final : SidecarService} {id : ByteString} {handle : Nat}
    {topics : List ByteString} {record : LocalSubscription}
    (follows : service.Follows id handle topics record) {requests : List Request}
    (run : exec SidecarService.step service requests = some final)
    (takes : Along SidecarService.step service (TakesAll handle topics) requests)
    : final.Follows id handle topics
        (positioned
          (lastSequence record.lastDeliveredSequence (deliveryLog topics service requests))
          record) := by
  induction requests generalizing service record with
  | nil =>
      cases run
      exact follows
  | cons request rest ih =>
      rw [exec_cons] at run
      obtain ⟨next, taken, rest'⟩ := Option.bind_eq_some_iff.mp run
      obtain ⟨first, later⟩ := along_cons_iff.mp takes
      have moved := ih (follows.step first taken) rest' (later next taken)
      rw [deliveryLog, taken, Option.getD_some, lastSequence, List.foldl_append]
      exact moved

end NexusD.Services.SidecarService
