import NexusD.Services.ConcurrentCalls

/-! Calls that run alone. Taken to the end without another call in between, the steps of
`deliverFromRemote` and of `ResumeSubscribe` are the handlers of the sequential service.
-/

namespace NexusD.Services

open NexusD.Core NexusD.Library

namespace ServiceThreads

variable {state : ServiceThreads} {thread handle : Nat} {request : ResumeSubscribeRequest}

/-- What a delivery loop puts into queues. -/
def entriesOf (topic : ByteString) (number : Nat) (results : List (Nat × EnqueueResult))
    : List QueueEntry :=
  (results.filter (fun result => result.2 = .enqueued)).map
    (fun result => ⟨result.1, topic, number⟩)

theorem advance_advance (state : ServiceThreads) (thread : Nat)
    (service service' : SidecarService) (pc pc' : DeliveryPc)
    (entries entries' : List QueueEntry)
    : (state.advance thread service pc entries).advance thread service' pc' entries'
      = state.advance thread service' pc' (entries ++ entries') := by
  simp [advance]

theorem deliveries_advance (state : ServiceThreads) (thread : Nat) (service : SidecarService)
    (pc : DeliveryPc) (entries : List QueueEntry)
    : (state.advance thread service pc entries).deliveries thread = pc :=
  Function.update_self _ _ _

theorem step_deliver {context : CallContext} {service : SidecarService} {pc : DeliveryPc}
    {entries : List QueueEntry}
    (moved
      : deliveryStep state.service context (state.deliveries thread)
        = some (service, pc, entries))
    : state.step (.deliver thread context)
      = some (state.advance thread service pc entries) := by
  simp [step, moved]

/-- One round of the delivery loop: a visit, and its record if the stream took it. -/
theorem exec_deliverRound {number : Nat} {envelope : MessageEnvelope} {remaining : List Nat}
    (pc : state.deliveries thread = .delivering envelope number (handle :: remaining))
    (casts : state.service.miscasts handle = false) (context : CallContext)
    : let round := state.service.deliverRound context envelope number handle
      ∃ steps,
        exec step state (List.replicate steps (.deliver thread context))
        = some
            (state.advance thread round.1 (.delivering envelope number remaining)
              (entriesOf envelope.topic number (round.2.map (handle, ·)).toList)) := by
  have visit := deliveryStep_visit casts context envelope number remaining
  rw [← pc] at visit
  rw [SidecarService.deliverRound_eq]
  by_cases taken
    : (state.service.deliverTo context envelope number handle).2 = some .enqueued
  · rw [if_pos taken] at visit
    refine ⟨2, ?_⟩
    simp only [List.replicate_succ, List.replicate_zero, exec_cons, step_deliver visit,
      Option.bind_some, exec_nil]
    rw [step_deliver (by rw [deliveries_advance]; rfl), Option.bind_some, advance_advance]
    simp [taken, entriesOf]
    rfl
  · rw [if_neg taken] at visit
    refine ⟨1, ?_⟩
    simp only [List.replicate_succ, List.replicate_zero, exec_cons, step_deliver visit,
      Option.bind_some, exec_nil]
    have none
      : entriesOf envelope.topic number
          (((state.service.deliverTo context envelope number handle).2.map
            (handle, ·)).toList)
        = [] := by
      cases returned : (state.service.deliverTo context envelope number handle).2 with
      | none => rfl
      | some result =>
          rw [returned, Option.some.injEq] at taken
          simp [entriesOf, taken]
    simp only [if_neg taken, none]

/-- Where a loop is left to itself: it has returned, or it hangs at a stream for good. -/
def LeftAt (service : SidecarService) (returned : Bool) (pc : DeliveryPc) : Prop :=
  if returned then pc = .idle else ∀ context, deliveryStep service context pc = none

/-- A loop that is not interrupted is `deliverToAll`, by induction over the streams left. -/
theorem exec_deliverToAll {number : Nat} {envelope : MessageEnvelope} {remaining : List Nat}
    (pc : state.deliveries thread = .delivering envelope number remaining)
    (context : CallContext)
    : let loop :=
        SidecarService.deliverToAll context envelope number state.service remaining
      ∃ steps left,
        exec step state (List.replicate steps (.deliver thread context))
          = some
              (state.advance thread loop.1 left (entriesOf envelope.topic number loop.2))
        ∧ LeftAt loop.1 (!remaining.any state.service.miscasts) left := by
  induction remaining generalizing state with
  | nil =>
      refine ⟨1, .idle, ?_, rfl⟩
      simp [step, deliveryStep, pc, SidecarService.deliverToAll, entriesOf]
  | cons handle remaining ih =>
      cases cast : state.service.miscasts handle with
      | true =>
          -- the call stays at this stream
          refine ⟨0, .delivering envelope number (handle :: remaining), ?_, ?_⟩
          · rw [SidecarService.deliverToAll_cons_of_miscasts _ _ _ cast]
            simp [entriesOf, advance, ← pc]
          · rw [SidecarService.deliverToAll_cons_of_miscasts _ _ _ cast]
            simpa [LeftAt, cast]
              using fun context => deliveryStep_miscast cast context envelope number remaining
      | false =>
          have quiet := state.service.deliverRound_quiet context envelope number handle
          obtain ⟨first, round⟩ := exec_deliverRound pc cast context
          obtain ⟨later, left, loop, rests⟩ := ih (deliveries_advance state thread _ _ _)
          refine ⟨first + later, left, ?_, ?_⟩
          · rw [← List.replicate_append_replicate, exec_append, round, Option.bind_some]
            apply loop.trans
            rw [advance_advance, SidecarService.deliverToAll_cons _ _ _ cast]
            simp [entriesOf, advance]
          · rw [SidecarService.deliverToAll_cons _ _ _ cast, List.any_cons, cast,
              Bool.false_or]
            have same
              : remaining.any
                  (state.service.deliverRound context envelope number handle).1.miscasts
                = remaining.any state.service.miscasts :=
              congrArg remaining.any (funext quiet.miscasts)
            rw [← same]
            exact rests

/-- A delivery that is not interrupted is `deliverFromRemote`, and it hangs where that does. -/
theorem exec_deliverFromRemote (idle : state.deliveries thread = .idle) (context : CallContext)
    (envelope : MessageEnvelope)
    : let delivered := state.service.deliverFromRemote context envelope
      ∃ steps left,
        exec step state
            (.call thread context envelope
              :: List.replicate steps (.deliver thread context))
          = some
              (state.advance thread delivered.1 left
                (entriesOf envelope.topic delivered.2.sequenceNumber delivered.2.results))
        ∧ LeftAt delivered.1 delivered.2.returned left := by
  have called
    : state.step (.call thread context envelope)
      = some
          (state.advance thread (state.service.bufferEnvelope context envelope).1
            (.buffered envelope (state.service.bufferEnvelope context envelope).2) []) := by
    simp [step, idle]
  obtain ⟨steps, left, loop, rests⟩ :=
    exec_deliverToAll
      (deliveries_advance
        (state.advance thread (state.service.bufferEnvelope context envelope).1
          (.buffered envelope (state.service.bufferEnvelope context envelope).2) [])
        thread (state.service.bufferEnvelope context envelope).1
        (.delivering envelope (state.service.bufferEnvelope context envelope).2
          ((state.service.bufferEnvelope context envelope).1.matchingStreams
            context.streamOrder envelope.topic))
        [])
      context
  refine ⟨steps + 1, left, ?_, rests⟩
  rw [exec_cons, called, Option.bind_some, List.replicate_succ, exec_cons,
    step_deliver (by rw [deliveries_advance]; rfl), Option.bind_some]
  apply loop.trans
  rw [advance_advance, advance_advance]
  rfl

theorem exec_recoverTopics {paused : PausedSubscription} {remaining : List ByteString}
    {recovery : SidecarService.Recovery}
    (pc : state.resumes thread = .recovering request handle (some paused) remaining recovery)
    (context : CallContext)
    : let gathered :=
        remaining.foldl
          (SidecarService.recoverTopic state.service.messageBuffer request paused) recovery
      exec step state (List.replicate (remaining.length + 1) (.resume thread context))
      = some { state with
          service :=
            state.service.onStream handle
              (SidecarService.startResume context.systemMs gathered)
          resumes := Function.update state.resumes thread (.finished handle gathered) } := by
  induction remaining generalizing state recovery with
  | nil => simp [step, resumeStep, pc]
  | cons topic remaining ih =>
      have next
        : state.step (.resume thread context)
          = some { state with
              resumes :=
                Function.update state.resumes thread
                  (.recovering request handle (some paused) remaining
                    (SidecarService.recoverTopic state.service.messageBuffer request paused
                      recovery topic)) } := by
        simp [step, resumeStep, pc]
      rw [List.length_cons, List.replicate_succ, exec_cons, next, Option.bind_some]
      apply (ih (Function.update_self _ _ _)).trans
      simp

/-- A recovery loop that is not interrupted is `recover`, whatever the registry answered. -/
theorem exec_recover {resumed : Option PausedSubscription} {topics : List ByteString}
    (pc
      : state.resumes thread
        = .recovering request handle resumed
            (if request.gapRecoveryMode = .none then [] else topics) {})
    (context : CallContext)
    : let recovery :=
        SidecarService.recover state.service.messageBuffer request topics resumed
      ∃ steps,
        exec step state (List.replicate steps (.resume thread context))
        = some { state with
            service :=
              state.service.onStream handle
                (SidecarService.startResume context.systemMs recovery)
            resumes := Function.update state.resumes thread (.finished handle recovery) } := by
  cases resumed with
  | none =>
      refine ⟨1, ?_⟩
      simp [step, resumeStep, pc, SidecarService.recover]
  | some paused =>
      refine ⟨_, (exec_recoverTopics pc context).trans ?_⟩
      by_cases mode : request.gapRecoveryMode = .none
      · simp [SidecarService.recover, mode]
      · simp [SidecarService.recover, mode]

/-- A resume that is not interrupted is `resumeSubscribe`. -/
theorem exec_resumeSubscribe (idle : state.resumes thread = .idle)
    {paused : PausedSubscription}
    (found
      : state.service.registry.getPausedSubscription request.subscriptionId = some paused)
    (context : CallContext)
    : ∃ steps recovery,
        exec step state
          (.resumeCall thread request :: List.replicate steps (.resume thread context))
        = some { state with
            service := (state.service.resumeSubscribe context request).1
            resumes :=
              Function.update state.resumes thread
                (.finished state.service.nextStream recovery) } := by
  let tracked := (state.service.trackStream request.subscriptionId paused.topics).1
  let attached :=
    tracked.onStream state.service.nextStream
      (SidecarService.attachResume request.gapRecoveryMode)
  let answer := attached.registry.resumeSubscription context.now request.subscriptionId
  let recovering : ServiceThreads :=
    { state with
      service := { attached with registry := answer.1 }
      resumes :=
        Function.update state.resumes thread
          (.recovering request state.service.nextStream answer.2
            (if request.gapRecoveryMode = .none then [] else paused.topics) {}) }
  have reached
    : exec step state
        (.resumeCall thread request :: List.replicate 3 (.resume thread context))
      = some recovering := by
    simp only [List.replicate_succ, List.replicate_zero, exec_cons, exec_nil, step, idle, found,
      Option.bind_some, Function.update_self, resumeStep, Option.map_some,
      Function.update_idem]
    rfl
  have pc
    : recovering.resumes thread
      = .recovering request state.service.nextStream answer.2
          (if request.gapRecoveryMode = .none then [] else paused.topics) {} :=
    Function.update_self _ _ _
  obtain ⟨steps, recovers⟩ := exec_recover pc context
  refine
    ⟨3 + steps,
      SidecarService.recover recovering.service.messageBuffer request paused.topics answer.2,
      ?_⟩
  rw [← List.replicate_append_replicate, ← List.cons_append, exec_append, reached,
    Option.bind_some]
  apply recovers.trans
  simp only [SidecarService.resumeSubscribe, found, recovering, Function.update_idem]
  rfl

end ServiceThreads

end NexusD.Services
