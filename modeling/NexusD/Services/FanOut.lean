import NexusD.Services.LiveStreams

/-! The delivery loop, seen from one stream.
`deliverFromRemote` walks the table of streams once, up to the first one whose reactor it
miscasts. A stream is in the table under its own id only, so it meets a message at most once,
and what it makes of it depends on nothing but the stream itself.
-/

namespace NexusD.Services

open NexusD.Core NexusD.Library

/-- What the loop does to a stream that matches: without a reactor it is skipped, and only
Subscribe's reactor enqueues.
-/
def SubscriptionStream.receive (stream : SubscriptionStream) (now : TimePoint)
    (event : MessageEvent) (ttlMs : Int)
    : SubscriptionStream :=
  if stream.reactor.any Reactor.isSubscribe then
    (stream.enqueueMessage now event ttlMs).1
  else
    stream

theorem SubscriptionStream.receive_settings (stream : SubscriptionStream) (now : TimePoint)
    (event : MessageEvent) (ttlMs : Int)
    : stream.messageQueue.SameSettings (stream.receive now event ttlMs).messageQueue := by
  unfold receive
  split
  · exact stream.enqueueMessage_settings now event ttlMs
  · exact .refl _

namespace SidecarService

section Round

variable (service : SidecarService) (context : CallContext) (envelope : MessageEnvelope)
  (sequenceNumber : Nat)

/-- The loop's round for the stream, as a method of the stream. -/
def received (stream : SubscriptionStream) : SubscriptionStream :=
  stream.receive context.now (messageEvent envelope sequenceNumber)
    (service.effectiveTtl envelope)

theorem deliverTo_streams (handle other : Nat)
    : (service.deliverTo context envelope sequenceNumber handle).1.streams other
      = if other = handle then
          (service.streams other).map (service.received context envelope sequenceNumber)
        else
          service.streams other := by
  unfold deliverTo
  by_cases same : other = handle
  · subst other
    cases found : service.streams handle with
    | none => simp [found]
    | some stream =>
        rcases attached : stream.reactor with _ | (_ | _)
        · simp [found, attached, received, SubscriptionStream.receive]
        · simp [attached, setStream, received, SubscriptionStream.receive, Reactor.isSubscribe]
        · simp [found, attached, received, SubscriptionStream.receive, Reactor.isSubscribe]
  · rw [if_neg same]
    split
    · rfl
    · split
      · rfl
      · rfl
      · simp [setStream, same]

theorem deliverRound_streams (handle other : Nat)
    : (service.deliverRound context envelope sequenceNumber handle).1.streams other
      = if other = handle then
          (service.streams other).map (service.received context envelope sequenceNumber)
        else
          service.streams other := by
  rw [← deliverTo_streams, deliverRound_eq]
  dsimp only
  split
  · unfold recordDelivery
    split <;> rfl
  · rfl

end Round

theorem Quiet.received {before after : SidecarService} (quiet : Quiet before after)
    (context : CallContext) (envelope : MessageEnvelope) (sequenceNumber : Nat)
    : after.received context envelope sequenceNumber
      = before.received context envelope sequenceNumber := by
  funext stream
  rw [SidecarService.received, SidecarService.received, effectiveTtl, effectiveTtl,
    quiet.config]

/-- Whether the cast is wrong is a matter of the stream's identity. -/
theorem miscasts_eq (service : SidecarService) (handle : Nat)
    : service.miscasts handle
      = ((service.streams handle).map SubscriptionStream.identity).any
          (fun identity => identity.reactorIsSubscribe.any (!·)) := by
  unfold miscasts
  split
  · next absent => rw [absent]; rfl
  · next stream found => simp [found, SubscriptionStream.identity, Option.any_map]

/-- Deliveries leave every reactor of the class it is. -/
theorem Quiet.miscasts {before after : SidecarService} (quiet : Quiet before after)
    (handle : Nat)
    : after.miscasts handle = before.miscasts handle := by
  rw [miscasts_eq, miscasts_eq, quiet.streams]

/-- The streams that the loop gets to. -/
def reached (service : SidecarService) (handles : List Nat) : List Nat :=
  handles.takeWhile (fun handle => !service.miscasts handle)

theorem Quiet.reached {before after : SidecarService} (quiet : Quiet before after)
    (handles : List Nat)
    : after.reached handles = before.reached handles := by
  simp only [SidecarService.reached, quiet.miscasts]

theorem reached_subset (service : SidecarService) (handles : List Nat)
    : service.reached handles ⊆ handles :=
  (List.takeWhile_sublist _).subset

/-- Over distinct streams the loop runs its round once for each of them. -/
theorem deliverToAll_streams (context : CallContext) (envelope : MessageEnvelope)
    (sequenceNumber : Nat) (service : SidecarService) {handles : List Nat}
    (distinct : handles.Nodup) (handle : Nat)
    : (deliverToAll context envelope sequenceNumber service handles).1.streams handle
      = if handle ∈ service.reached handles then
          (service.streams handle).map (service.received context envelope sequenceNumber)
        else
          service.streams handle := by
  induction handles generalizing service with
  | nil => rfl
  | cons first rest ih =>
      obtain ⟨unseen, distinct⟩ := List.nodup_cons.mp distinct
      have quiet := service.deliverRound_quiet context envelope sequenceNumber first
      have round := service.deliverRound_streams context envelope sequenceNumber first handle
      cases cast : service.miscasts first with
      | true => simp [deliverToAll_cons_of_miscasts _ _ _ cast, cast, reached]
      | false =>
          rw [deliverToAll_cons _ _ _ cast]
          refine (ih (service.deliverRound context envelope sequenceNumber first).1
            distinct).trans ?_
          have later : service.reached (first :: rest) = first :: service.reached rest := by
            simp [reached, cast]
          rw [round, quiet.received, quiet.reached, later]
          by_cases here : handle = first
          · subst handle
            have once : first ∉ service.reached rest := by
              intro again
              exact unseen (service.reached_subset rest again)
            simp [once]
          · simp [here]

/-- The streams that get an answer from the loop are among those it visits, in that order. -/
theorem deliverToAll_answers (context : CallContext) (envelope : MessageEnvelope)
    (sequenceNumber : Nat) (service : SidecarService) (handles : List Nat)
    : ((deliverToAll context envelope sequenceNumber service handles).2.map Prod.fst).Sublist
        handles := by
  induction handles generalizing service with
  | nil => exact List.Sublist.refl _
  | cons first rest ih =>
      cases cast : service.miscasts first with
      | true =>
          rw [deliverToAll_cons_of_miscasts _ _ _ cast]
          exact List.nil_sublist _
      | false =>
          rw [deliverToAll_cons _ _ _ cast, List.map_append]
          cases (service.deliverRound context envelope sequenceNumber first).2 with
          | none => exact (ih _).cons first
          | some result => exact (ih _).cons_cons first

/-- No stream is found twice in the table. -/
theorem TableInvariant.nodup_matchingStreams {service : SidecarService}
    (table : service.TableInvariant) (order : IterationOrder ByteString) (topic : ByteString)
    : (service.matchingStreams order topic).Nodup := by
  refine List.Nodup.filter _ (List.Nodup.filterMap ?_ ?_)
  · intro left right handle listed listedToo
    exact table.unique listedToo listed
  · exact order.nodup_visit service.activeStreams.keys_nodup

/-- One delivery answers each stream at most once. -/
theorem TableInvariant.nodup_results {service : SidecarService}
    (table : service.TableInvariant) (context : CallContext) (envelope : MessageEnvelope)
    : ((service.deliverFromRemote context envelope).2.results.map Prod.fst).Nodup := by
  have still := table.quiet (service.bufferEnvelope_quiet context envelope)
  exact (deliverToAll_answers _ _ _ _ _).nodup
    (still.nodup_matchingStreams context.streamOrder envelope.topic)

/-- The streams that one delivery gets to: those with the topic, up to the first whose reactor
it miscasts.
-/
def reachedStreams (service : SidecarService) (order : IterationOrder ByteString)
    (topic : ByteString)
    : List Nat :=
  service.reached (service.matchingStreams order topic)

theorem reachedStreams_eq {service : SidecarService} {order : IterationOrder ByteString}
    {topic : ByteString}
    (casts
      : ∀ handle ∈ service.matchingStreams order topic, service.miscasts handle = false)
    : service.reachedStreams order topic = service.matchingStreams order topic := by
  refine List.takeWhile_eq_self_iff.mpr ?_
  intro handle member
  rw [casts handle member, Bool.not_false]

/-- A delivery returns exactly if it miscasts the reactor of none of its streams. -/
theorem returned_iff {service : SidecarService} {context : CallContext}
    {envelope : MessageEnvelope}
    : (service.deliverFromRemote context envelope).2.returned = true
      ↔ ∀ handle ∈ service.matchingStreams context.streamOrder envelope.topic,
          service.miscasts handle = false := by
  have report
    : (service.deliverFromRemote context envelope).2.returned
      = !(service.matchingStreams context.streamOrder envelope.topic).any service.miscasts :=
    rfl
  rw [report, Bool.not_eq_true', List.any_eq_false]
  simp only [Bool.not_eq_true]

/-- A reactor that is not miscast is Subscribe's. -/
theorem isSubscribe_of_casts {service : SidecarService} {handle : Nat}
    {stream : SubscriptionStream} (is : service.streams handle = some stream)
    (attached : stream.reactor.isSome = true) (casts : service.miscasts handle = false)
    : stream.reactor.any Reactor.isSubscribe = true := by
  obtain ⟨reactor, set⟩ := Option.isSome_iff_exists.mp attached
  simpa [miscasts, is, set] using casts

/-- The streams after one delivery. -/
theorem TableInvariant.streams_deliverFromRemote {service : SidecarService}
    (table : service.TableInvariant) (context : CallContext) (envelope : MessageEnvelope)
    (handle : Nat)
    : (service.deliverFromRemote context envelope).1.streams handle
      = if handle ∈ service.reachedStreams context.streamOrder envelope.topic then
          (service.streams handle).map
            (service.received context envelope
              (service.bufferEnvelope context envelope).2)
        else
          service.streams handle := by
  have still := table.quiet (service.bufferEnvelope_quiet context envelope)
  exact deliverToAll_streams context envelope (service.bufferEnvelope context envelope).2
    (service.bufferEnvelope context envelope).1
    (still.nodup_matchingStreams context.streamOrder envelope.topic) handle

end SidecarService

end NexusD.Services
