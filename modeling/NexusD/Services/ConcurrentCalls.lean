import NexusD.Library.Dispatch
import NexusD.Services.DeliveryPosition
import NexusD.Services.FanOut

/-! Handlers in flight at the same time.
`deliverFromRemote` and `ResumeSubscribe` each take several locks one after the other, and
between two of them other calls run. A step of a call is what it does under one lock, with the
clock readings and iteration orders it meets there; the other handlers run at one stroke.
-/

namespace NexusD.Services

open NexusD.Core NexusD.Library

/-- Where a call of `deliverFromRemote` is. -/
inductive DeliveryPc where
  | idle
  /-- `bufferMessage` has returned -/
  | buffered (envelope : MessageEnvelope) (sequenceNumber : Nat)
  /-- the matching streams are collected, and `remaining` are still to be visited -/
  | delivering (envelope : MessageEnvelope) (sequenceNumber : Nat) (remaining : List Nat)
  /-- the stream behind `handle` has taken the message -/
  | recording (envelope : MessageEnvelope) (sequenceNumber : Nat) (handle : Nat)
      (remaining : List Nat)

/-- Where a call of `ResumeSubscribe` is. -/
inductive ResumePc where
  | idle
  | found (request : ResumeSubscribeRequest) (paused : PausedSubscription)
  /-- the stream is in `activeStreams_` -/
  | tracked (request : ResumeSubscribeRequest) (handle : Nat) (topics : List ByteString)
  /-- `stream_->reactor = this` -/
  | attached (request : ResumeSubscribeRequest) (handle : Nat) (topics : List ByteString)
  /-- in the gap recovery loop, after `resumeSubscription` -/
  | recovering (request : ResumeSubscribeRequest) (handle : Nat)
      (resumed : Option PausedSubscription) (remaining : List ByteString)
      (recovery : SidecarService.Recovery)
  /-- the info is written -/
  | finished (handle : Nat) (recovery : SidecarService.Recovery)

/-- A message that a stream's queue has taken. -/
structure QueueEntry where
  handle : Nat
  topic : ByteString
  sequenceNumber : Nat
deriving DecidableEq, Repr

/-- The service with its calls in flight, and the record of what entered the queues. -/
structure ServiceThreads where
  service : SidecarService
  deliveries : Nat → DeliveryPc := fun _ => .idle
  resumes : Nat → ResumePc := fun _ => .idle
  entered : List QueueEntry := []

namespace ServiceThreads

inductive Action where
  /-- `deliverFromRemote` is called and buffers its message -/
  | call (thread : Nat) (context : CallContext) (envelope : MessageEnvelope)
  /-- the next step of a delivery -/
  | deliver (thread : Nat) (context : CallContext)
  /-- `ResumeSubscribe` is called and looks for its paused record -/
  | resumeCall (thread : Nat) (request : ResumeSubscribeRequest)
  /-- the next step of a resume -/
  | resume (thread : Nat) (context : CallContext)
  /-- a Publish stores its retained message, before it delivers -/
  | retain (context : CallContext) (request : PublishRequest)
  /-- another handler or callback, from start to end -/
  | handle (request : SidecarService.Request)

/-- One step of a delivery: the service, where the call then is and what entered a queue. -/
def deliveryStep (service : SidecarService) (context : CallContext)
    : DeliveryPc → Option (SidecarService × DeliveryPc × List QueueEntry)
  | .idle => none
  | .buffered envelope number =>
      some
        (service,
          .delivering envelope number
            (service.matchingStreams context.streamOrder envelope.topic),
          [])
  | .delivering _ _ [] => some (service, .idle, [])
  | .delivering envelope number (handle :: remaining) =>
      -- a miscast call hangs: the thread stays where it is
      if service.miscasts handle then
        none
      else
        match service.deliverTo context envelope number handle with
        | (next, some .enqueued) =>
            some
              (next, .recording envelope number handle remaining,
                [⟨handle, envelope.topic, number⟩])
        | (next, _) => some (next, .delivering envelope number remaining, [])
  | .recording envelope number handle remaining =>
      some
        (service.recordDelivery handle envelope.topic number,
          .delivering envelope number remaining, [])

def resumeStep (service : SidecarService) (context : CallContext)
    : ResumePc → Option (SidecarService × ResumePc)
  | .idle | .finished _ _ => none
  | .found request paused =>
      let (tracked, handle) := service.trackStream request.subscriptionId paused.topics
      some (tracked, .tracked request handle paused.topics)
  | .tracked request handle topics =>
      some
        (service.onStream handle (SidecarService.attachResume request.gapRecoveryMode),
          .attached request handle topics)
  | .attached request handle topics =>
      let (registry, resumed) :=
        service.registry.resumeSubscription context.now request.subscriptionId
      let remaining := if request.gapRecoveryMode = .none then [] else topics
      some ({ service with registry }, .recovering request handle resumed remaining {})
  | .recovering request handle (some paused) (topic :: remaining) recovery =>
      some
        (service,
          .recovering request handle (some paused) remaining
            (SidecarService.recoverTopic service.messageBuffer request paused recovery topic))
  | .recovering _ handle _ _ recovery =>
      some
        (service.onStream handle (SidecarService.startResume context.systemMs recovery),
          .finished handle recovery)

/-- The delivery of one thread has moved. -/
def advance (state : ServiceThreads) (thread : Nat) (service : SidecarService)
    (pc : DeliveryPc) (entries : List QueueEntry)
    : ServiceThreads :=
  { state with
    service
    deliveries := Function.update state.deliveries thread pc
    entered := state.entered ++ entries }

def step (state : ServiceThreads) : Action → Option ServiceThreads
  | .call thread context envelope =>
      match state.deliveries thread with
      | .idle =>
          let (service, number) := state.service.bufferEnvelope context envelope
          some (state.advance thread service (.buffered envelope number) [])
      | _ => none
  | .deliver thread context =>
      (deliveryStep state.service context (state.deliveries thread)).map
        (fun (service, pc, entries) => state.advance thread service pc entries)
  | .resumeCall thread request =>
      match state.resumes thread with
      | .idle =>
          match state.service.registry.getPausedSubscription request.subscriptionId with
          | none => some state
          | some paused =>
              some { state with
                resumes := Function.update state.resumes thread (.found request paused) }
      | _ => none
  | .resume thread context =>
      (resumeStep state.service context (state.resumes thread)).map
        (fun (service, pc) =>
          { state with service, resumes := Function.update state.resumes thread pc })
  | .retain context request =>
      some { state with service := state.service.retain context request }
  | .handle request =>
      -- deliveries go through `call`
      if request.bufferCall?.isNone then
        (state.service.step request).map (fun service => { state with service })
      else
        none

/-- What a step of a delivery does, by where the call is. -/
inductive DeliveryMove (service : SidecarService) (context : CallContext)
    : DeliveryPc → SidecarService → DeliveryPc → List QueueEntry → Prop
  | collect {envelope number}
      : DeliveryMove service context (.buffered envelope number) service
          (.delivering envelope number
            (service.matchingStreams context.streamOrder envelope.topic))
          []
  | leave {envelope number}
      : DeliveryMove service context (.delivering envelope number []) service .idle []
  | enter {envelope number handle remaining} (casts : service.miscasts handle = false)
      (entered : (service.deliverTo context envelope number handle).2 = some .enqueued)
      : DeliveryMove service context (.delivering envelope number (handle :: remaining))
          (service.deliverTo context envelope number handle).1
          (.recording envelope number handle remaining) [⟨handle, envelope.topic, number⟩]
  | skip {envelope number handle remaining} (casts : service.miscasts handle = false)
      (dropped : (service.deliverTo context envelope number handle).2 ≠ some .enqueued)
      : DeliveryMove service context (.delivering envelope number (handle :: remaining))
          (service.deliverTo context envelope number handle).1
          (.delivering envelope number remaining) []
  | record {envelope number handle remaining}
      : DeliveryMove service context (.recording envelope number handle remaining)
          (service.recordDelivery handle envelope.topic number)
          (.delivering envelope number remaining) []

/-- What a step of a resume does, by where the call is. -/
inductive ResumeMove (service : SidecarService) (context : CallContext)
    : ResumePc → SidecarService → ResumePc → Prop
  | track {request paused}
      : ResumeMove service context (.found request paused)
          (service.trackStream request.subscriptionId paused.topics).1
          (.tracked request service.nextStream paused.topics)
  | attach {request handle topics}
      : ResumeMove service context (.tracked request handle topics)
          (service.onStream handle (SidecarService.attachResume request.gapRecoveryMode))
          (.attached request handle topics)
  | take {request handle topics}
      : ResumeMove service context (.attached request handle topics)
          { service with
            registry :=
              (service.registry.resumeSubscription context.now request.subscriptionId).1 }
          (.recovering request handle
            (service.registry.resumeSubscription context.now request.subscriptionId).2
            (if request.gapRecoveryMode = .none then [] else topics) {})
  | recover {request handle paused topic remaining recovery}
      : ResumeMove service context
          (.recovering request handle (some paused) (topic :: remaining) recovery) service
          (.recovering request handle (some paused) remaining
            (SidecarService.recoverTopic service.messageBuffer request paused recovery topic))
  | finish {request handle resumed remaining recovery}
      (done : resumed = none ∨ remaining = [])
      : ResumeMove service context (.recovering request handle resumed remaining recovery)
          (service.onStream handle (SidecarService.startResume context.systemMs recovery))
          (.finished handle recovery)

/-- What a step does. -/
inductive Move (state : ServiceThreads) : Action → ServiceThreads → Prop
  | call {thread context envelope} (free : state.deliveries thread = .idle)
      : Move state (.call thread context envelope)
          (state.advance thread (state.service.bufferEnvelope context envelope).1
            (.buffered envelope (state.service.bufferEnvelope context envelope).2) [])
  | deliver {thread context was service pc entries} (stands : state.deliveries thread = was)
      (moved : DeliveryMove state.service context was service pc entries)
      : Move state (.deliver thread context) (state.advance thread service pc entries)
  | refuse {thread request} (free : state.resumes thread = .idle)
      (missing
        : state.service.registry.getPausedSubscription request.subscriptionId = none)
      : Move state (.resumeCall thread request) state
  | find {thread request paused} (free : state.resumes thread = .idle)
      (found
        : state.service.registry.getPausedSubscription request.subscriptionId = some paused)
      : Move state (.resumeCall thread request)
          { state with
            resumes := Function.update state.resumes thread (.found request paused) }
  | resume {thread context was service pc} (stands : state.resumes thread = was)
      (moved : ResumeMove state.service context was service pc)
      : Move state (.resume thread context)
          { state with service, resumes := Function.update state.resumes thread pc }
  | retain {context request}
      : Move state (.retain context request)
          { state with service := state.service.retain context request }
  | handle {request service} (apart : request.bufferCall? = none)
      (moved : state.service.step request = some service)
      : Move state (.handle request) { state with service }

/-- The numbers of the messages on `topic` that entered a stream's queue, in order. -/
def enteredOn (state : ServiceThreads) (handle : Nat) (topic : ByteString) : List Nat :=
  (state.entered.filter (fun entry => entry.handle == handle && entry.topic == topic)).map
    QueueEntry.sequenceNumber

end ServiceThreads

-----------------------------------------------------------------------------------------
-- The deliveries of one topic
-----------------------------------------------------------------------------------------

/-- A call on `topic` as the holder of its message's number. -/
def DeliveryPc.ticket (topic : ByteString) : DeliveryPc → Option (Ticket Nat)
  | .idle => none
  | .buffered envelope number => if envelope.topic = topic then some { number } else none
  | .delivering envelope number remaining | .recording envelope number _ remaining =>
      if envelope.topic = topic then some ⟨number, some remaining⟩ else none

namespace ServiceThreads

/-- The calls on `topic` and what they have put into queues; streams are the destinations. -/
def dispatch (state : ServiceThreads) (topic : ByteString) : Dispatch Nat where
  holders thread := (state.deliveries thread).ticket topic
  arrived :=
    (state.entered.filter (fun entry => entry.topic == topic)).map
      (fun entry => (entry.handle, entry.sequenceNumber))

theorem arrivedAt_dispatch (state : ServiceThreads) (topic : ByteString) (handle : Nat)
    : (state.dispatch topic).arrivedAt handle = state.enteredOn handle topic := by
  simp only [Dispatch.arrivedAt, dispatch, enteredOn, List.filter_map, List.map_map,
    List.filter_filter, Function.comp_def, beq_eq_decide]

variable {state after : ServiceThreads} {thread : Nat} {topic : ByteString}
  {pc was : DeliveryPc} {entries : List QueueEntry} {service next : SidecarService}
  {context : CallContext} {action : Action}

theorem holders_buffered {number : Nat} {envelope : MessageEnvelope}
    (pc : state.deliveries thread = .buffered envelope number) (on : envelope.topic = topic)
    : (state.dispatch topic).holders thread = some { number } := by
  simp [dispatch, pc, DeliveryPc.ticket, on]

theorem holders_delivering {number : Nat} {envelope : MessageEnvelope} {remaining : List Nat}
    (pc : state.deliveries thread = .delivering envelope number remaining)
    (on : envelope.topic = topic)
    : (state.dispatch topic).holders thread = some ⟨number, some remaining⟩ := by
  simp [dispatch, pc, DeliveryPc.ticket, on]

/-- The call of `bufferMessage` that a step makes. -/
def Action.bufferCall? : Action → Option BufferCall
  | .call _ context envelope => some (envelope.bufferCall context)
  | _ => none

/-- What one step does to the calls on `topic`. -/
inductive DispatchChange (topic : ByteString) (state : ServiceThreads)
    : Action → Dispatch Nat → Prop
  | unchanged {action : Action} (elsewhere : ∀ call ∈ action.bufferCall?, call.topic ≠ topic)
      : DispatchChange topic state action (state.dispatch topic)
  | issue {thread : Nat} {context : CallContext} {envelope : MessageEnvelope}
      (free : state.deliveries thread = .idle) (on : envelope.topic = topic)
      : DispatchChange topic state (.call thread context envelope)
          ((state.dispatch topic).hold thread
            (some { number := (state.service.bufferEnvelope context envelope).2 }))
  | collect {thread number : Nat} {context : CallContext} {envelope : MessageEnvelope}
      (pc : state.deliveries thread = .buffered envelope number)
      (on : envelope.topic = topic)
      : DispatchChange topic state (.deliver thread context)
          ((state.dispatch topic).hold thread
            (some
              ⟨number, some (state.service.matchingStreams context.streamOrder topic)⟩))
  | skip {thread number handle : Nat} {remaining : List Nat} {context : CallContext}
      {envelope : MessageEnvelope}
      (pc : state.deliveries thread = .delivering envelope number (handle :: remaining))
      (on : envelope.topic = topic)
      (dropped
        : (state.service.deliverTo context envelope number handle).2 ≠ some .enqueued)
      : DispatchChange topic state (.deliver thread context)
          ((state.dispatch topic).hold thread (some ⟨number, some remaining⟩))
  | enter {thread number handle : Nat} {remaining : List Nat} {context : CallContext}
      {envelope : MessageEnvelope}
      (pc : state.deliveries thread = .delivering envelope number (handle :: remaining))
      (on : envelope.topic = topic)
      (taken
        : (state.service.deliverTo context envelope number handle).2 = some .enqueued)
      : DispatchChange topic state (.deliver thread context)
          (((state.dispatch topic).hold thread (some ⟨number, some remaining⟩)).arrive handle
            number)
  | leave {thread number : Nat} {context : CallContext} {envelope : MessageEnvelope}
      (pc : state.deliveries thread = .delivering envelope number [])
      (on : envelope.topic = topic)
      : DispatchChange topic state (.deliver thread context)
          ((state.dispatch topic).hold thread none)

theorem dispatch_advance (state : ServiceThreads) (topic : ByteString) (thread : Nat)
    (service : SidecarService) (pc : DeliveryPc)
    : (state.advance thread service pc []).dispatch topic
      = (state.dispatch topic).hold thread (pc.ticket topic) := by
  simp only [dispatch, advance, Dispatch.hold, List.append_nil, Dispatch.mk.injEq, and_true]
  funext other
  by_cases same : other = thread
  · subst other
    simp
  · simp [same]

theorem dispatch_advance_entry (state : ServiceThreads) (thread : Nat)
    (service : SidecarService) (pc : DeliveryPc) (entry : QueueEntry)
    : (state.advance thread service pc [entry]).dispatch entry.topic
      = ((state.dispatch entry.topic).hold thread (pc.ticket entry.topic)).arrive entry.handle
          entry.sequenceNumber := by
  rw [← dispatch_advance state entry.topic thread service pc]
  simp [dispatch, advance, Dispatch.arrive]

/-- A step that changes neither number nor route of a call, and enters nothing on `topic`. -/
theorem dispatch_advance_same (same : pc.ticket topic = (state.deliveries thread).ticket topic)
    (elsewhere : ∀ entry ∈ entries, entry.topic ≠ topic) (service : SidecarService)
    : (state.advance thread service pc entries).dispatch topic = state.dispatch topic := by
  have none : entries.filter (fun entry => entry.topic == topic) = [] := by
    simpa [List.filter_eq_nil_iff] using elsewhere
  have entered
    : (state.advance thread service pc entries).dispatch topic
      = (state.advance thread service pc []).dispatch topic := by
    simp [dispatch, advance, none]
  rw [entered, dispatch_advance, same]
  simp [Dispatch.hold, dispatch]

/-- A miscast visit hangs, whatever the clock and the maps show later. -/
theorem deliveryStep_miscast {handle : Nat} (hangs : service.miscasts handle = true)
    (context : CallContext) (envelope : MessageEnvelope) (number : Nat) (remaining : List Nat)
    : deliveryStep service context (.delivering envelope number (handle :: remaining))
      = none := by
  simp [deliveryStep, hangs]

/-- Any other visit either enters the stream's queue and is then recorded, or passes on. -/
theorem deliveryStep_visit {handle : Nat} (casts : service.miscasts handle = false)
    (context : CallContext) (envelope : MessageEnvelope) (number : Nat) (remaining : List Nat)
    : deliveryStep service context (.delivering envelope number (handle :: remaining))
      = if (service.deliverTo context envelope number handle).2 = some .enqueued then
          some
            ((service.deliverTo context envelope number handle).1,
              .recording envelope number handle remaining,
              [⟨handle, envelope.topic, number⟩])
        else
          some
            ((service.deliverTo context envelope number handle).1,
              .delivering envelope number remaining, []) := by
  simp only [deliveryStep, casts, Bool.false_eq_true, if_false]
  split
  · rename_i next taken
    simp [taken]
  · rename_i next result other taken
    have dropped : result ≠ some .enqueued := other
    simp [taken, dropped]

theorem deliveryMove_of_step
    (moved : deliveryStep service context was = some (next, pc, entries))
    : DeliveryMove service context was next pc entries := by
  cases was with
  | idle => cases moved
  | buffered envelope number =>
      cases moved
      exact .collect
  | delivering envelope number remaining =>
      cases remaining with
      | nil =>
          cases moved
          exact .leave
      | cons handle remaining =>
          cases casts : service.miscasts handle with
          | true =>
              rw [deliveryStep_miscast casts] at moved
              cases moved
          | false =>
              rw [deliveryStep_visit casts] at moved
              split at moved
              · rename_i entered
                cases moved
                exact .enter casts entered
              · rename_i dropped
                cases moved
                exact .skip casts dropped
  | recording envelope number handle remaining =>
      cases moved
      exact .record

theorem resumeMove_of_step {was pc : ResumePc}
    (moved : resumeStep service context was = some (next, pc))
    : ResumeMove service context was next pc := by
  cases was with
  | idle | finished => cases moved
  | found request paused =>
      cases moved
      exact .track
  | tracked request handle topics =>
      cases moved
      exact .attach
  | attached request handle topics =>
      cases moved
      exact .take
  | recovering request handle resumed remaining recovery =>
      rcases resumed with _ | paused
      · cases moved
        exact .finish (.inl rfl)
      · rcases remaining with _ | ⟨topic, remaining⟩
        · cases moved
          exact .finish (.inr rfl)
        · cases moved
          exact .recover

theorem move_of_step (taken : state.step action = some after)
    : state.Move action after := by
  cases action with
  | call thread context envelope =>
      simp only [step] at taken
      split at taken
      · rename_i free
        cases taken
        exact .call free
      · cases taken
  | deliver thread context =>
      obtain ⟨⟨service, pc, entries⟩, moved, rfl⟩ := Option.map_eq_some_iff.mp taken
      exact .deliver rfl (deliveryMove_of_step moved)
  | resumeCall thread request =>
      simp only [step] at taken
      split at taken
      · rename_i free
        split at taken
        · rename_i missing
          cases taken
          exact .refuse free missing
        · rename_i paused found
          cases taken
          exact .find free found
      · cases taken
  | resume thread context =>
      obtain ⟨⟨service, pc⟩, moved, rfl⟩ := Option.map_eq_some_iff.mp taken
      exact .resume rfl (resumeMove_of_step moved)
  | retain context request =>
      cases taken
      exact .retain
  | handle request =>
      simp only [step, Option.ite_none_right_eq_some] at taken
      obtain ⟨service, moved, rfl⟩ := Option.map_eq_some_iff.mp taken.2
      exact .handle (Option.isNone_iff_eq_none.mp taken.1) moved

/-- A delivery step, seen from one topic. -/
theorem dispatch_deliveryMove (stands : state.deliveries thread = was)
    (moved : DeliveryMove state.service context was service pc entries) (topic : ByteString)
    : DispatchChange topic state (.deliver thread context)
        ((state.advance thread service pc entries).dispatch topic) := by
  -- a call on another topic has no ticket, before and after
  have elsewhere (before : was.ticket topic = none) (after : pc.ticket topic = none)
      (others : ∀ entry ∈ entries, entry.topic ≠ topic)
      : DispatchChange topic state (.deliver thread context)
          ((state.advance thread service pc entries).dispatch topic) := by
    rw [dispatch_advance_same (by rw [after, stands, before]) others]
    exact .unchanged (by simp [Action.bufferCall?])
  cases moved with
  | @collect envelope number =>
      by_cases on : envelope.topic = topic
      · subst on
        rw [dispatch_advance, DeliveryPc.ticket, if_pos rfl]
        exact .collect stands rfl
      · exact elsewhere (if_neg on) (if_neg on) (List.forall_mem_nil _)
  | @leave envelope number =>
      by_cases on : envelope.topic = topic
      · rw [dispatch_advance]
        exact .leave stands on
      · exact elsewhere (if_neg on) rfl (List.forall_mem_nil _)
  | @enter envelope number handle remaining casts entered =>
      by_cases on : envelope.topic = topic
      · subst on
        rw [dispatch_advance_entry state thread _ _ ⟨handle, envelope.topic, number⟩,
          DeliveryPc.ticket, if_pos rfl]
        exact .enter stands rfl entered
      · exact elsewhere (if_neg on) (if_neg on) (by simpa using on)
  | @skip envelope number handle remaining casts dropped =>
      by_cases on : envelope.topic = topic
      · subst on
        rw [dispatch_advance, DeliveryPc.ticket, if_pos rfl]
        exact .skip stands rfl dropped
      · exact elsewhere (if_neg on) (if_neg on) (List.forall_mem_nil _)
  | record =>
      rw [dispatch_advance_same (by rw [stands]; rfl) (List.forall_mem_nil _)]
      exact .unchanged (by simp [Action.bufferCall?])

/-- Every step, seen from one topic. -/
theorem dispatch_step (taken : state.step action = some after) (topic : ByteString)
    : DispatchChange topic state action (after.dispatch topic) := by
  cases move_of_step taken with
  | @call thread context envelope free =>
      by_cases on : envelope.topic = topic
      · rw [dispatch_advance, DeliveryPc.ticket, if_pos on]
        exact .issue free on
      · rw [dispatch_advance_same (by rw [free]; exact if_neg on) (List.forall_mem_nil _)]
        exact .unchanged (by simpa [Action.bufferCall?, MessageEnvelope.bufferCall] using on)
  | deliver stands moved => exact dispatch_deliveryMove stands moved topic
  | refuse | find | resume | retain | handle =>
      exact .unchanged (by simp [Action.bufferCall?])

-----------------------------------------------------------------------------------------
-- The service under the calls
-----------------------------------------------------------------------------------------

theorem DeliveryMove.quiet (moved : DeliveryMove service context was next pc entries)
    : SidecarService.Quiet service next ∧ next.messageBuffer = service.messageBuffer := by
  cases moved with
  | collect | leave => exact ⟨.refl service, rfl⟩
  | enter | skip => exact ⟨service.deliverTo_quiet _ _ _ _, by simp⟩
  | record => exact ⟨service.recordDelivery_quiet _ _ _, by simp⟩

theorem ResumeMove.messageBuffer {was pc : ResumePc}
    (moved : ResumeMove service context was next pc)
    : next.messageBuffer = service.messageBuffer := by
  cases moved with
  | track | take | recover => rfl
  | attach | finish => exact SidecarService.onStream_messageBuffer _ _ _

theorem step_messageBuffer (taken : state.step action = some after)
    : after.service.messageBuffer
      = state.service.messageBuffer.afterCalls action.bufferCall?.toList := by
  cases move_of_step taken with
  | call | refuse | find => rfl
  | deliver stands moved => exact moved.quiet.2
  | resume stands moved => exact moved.messageBuffer
  | retain => exact SidecarService.retain_messageBuffer _ _ _
  | handle apart moved =>
      have buffer := SidecarService.step_messageBuffer moved
      rw [apart] at buffer
      exact buffer

end ServiceThreads

namespace SidecarService

theorem TableInvariant.trackStream {service : SidecarService} (table : service.TableInvariant)
    (id : ByteString) (topics : List ByteString)
    : (service.trackStream id topics).1.TableInvariant where
  named other handle found := by
    simp only [SidecarService.trackStream] at found ⊢
    by_cases same : other = id
    · subst other
      rw [AList.lookup_insert, Option.some.injEq] at found
      subst found
      exact ⟨_, Function.update_self _ _ _, rfl⟩
    · rw [AList.lookup_insert_ne same] at found
      obtain ⟨stream, is, named⟩ := table.named other handle found
      have older : handle ≠ service.nextStream :=
        Nat.ne_of_lt (table.allocated handle (by simp [is]))
      exact ⟨stream, (Function.update_of_ne older _ _).trans is, named⟩
  numbered := table.numbered
  allocated handle present := by
    simp only [SidecarService.trackStream] at present ⊢
    by_cases new : handle = service.nextStream
    · exact new ▸ Nat.lt_succ_self _
    · rw [Function.update_of_ne new] at present
      exact Nat.lt_succ_of_lt (table.allocated handle present)

theorem TableInvariant.onStream {service : SidecarService} (table : service.TableInvariant)
    (target : Nat) {method : SubscriptionStream → SubscriptionStream}
    (same : ∀ stream, (method stream).subscriptionId = stream.subscriptionId)
    : (service.onStream target method).TableInvariant := by
  unfold SidecarService.onStream
  split
  · exact table
  · rename_i stream is
    refine ⟨?_, table.numbered, ?_⟩
    · intro id handle found
      obtain ⟨old, was, named⟩ := table.named id handle found
      by_cases moved : handle = target
      · subst moved
        rw [is, Option.some.injEq] at was
        subst was
        exact ⟨_, Function.update_self _ _ _, (same stream).trans named⟩
      · exact ⟨old, (Function.update_of_ne moved _ _).trans was, named⟩
    · intro handle present
      by_cases moved : handle = target
      · subst moved
        exact table.allocated handle (by simp [is])
      · exact table.allocated handle (by simpa [setStream, moved] using present)

theorem TableInvariant.registry {service : SidecarService} (table : service.TableInvariant)
    {registry : PeerRegistry} (known : ∀ id, registry.Knows id → service.registry.Knows id)
    : TableInvariant { service with registry } :=
  ⟨table.named, fun id knows => table.numbered id (known id knows), table.allocated⟩

end SidecarService

namespace ServiceThreads

theorem ResumeMove.tableInvariant {service next : SidecarService} {context : CallContext}
    {was pc : ResumePc} (moved : ResumeMove service context was next pc)
    (table : service.TableInvariant)
    : next.TableInvariant := by
  cases moved with
  | track => exact table.trackStream _ _
  | attach => exact table.onStream _ (fun _ => rfl)
  | take => exact table.registry (fun _ knows => PeerRegistry.knows_of_resumeSubscription knows)
  | recover => exact table
  | @finish request handle resumed remaining recovery done =>
      apply table.onStream handle
      intro stream
      exact congrArg StreamIdentity.subscriptionId
        (SidecarService.startResume_identity context.systemMs recovery stream)

theorem tableInvariant_step {state after : ServiceThreads} {action : Action}
    (table : state.service.TableInvariant) (taken : state.step action = some after)
    : after.service.TableInvariant := by
  cases move_of_step taken with
  | call => exact table.quiet (state.service.bufferEnvelope_quiet _ _)
  | deliver stands moved => exact table.quiet moved.quiet.1
  | refuse | find => exact table
  | resume stands moved => exact moved.tableInvariant table
  | retain => exact table.quiet (state.service.retain_quiet _ _)
  | handle apart moved => exact table.step moved

end ServiceThreads

end NexusD.Services
