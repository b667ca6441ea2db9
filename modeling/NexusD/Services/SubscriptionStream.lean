import NexusD.Core.PeerRegistry
import NexusD.Core.TopicBuffer
import NexusD.Services.StreamTransitions

/-! A subscriber's stream with its reactor, and the reactor's two methods run alone.
`SubscribeReactor` and `ResumeSubscribeReactor` are unrelated classes whose pointers share the
field `reactor`. Each has the same code for `enqueueMessage`; their `OnWriteDone` differ.
-/

namespace NexusD.Services

open NexusD.Core NexusD.Library

structure SubscriptionInfo where
  subscriptionId : ByteString
  topics : List ByteString
  timestampMs : Int
  gapDetected : Bool := false
  missedMessageCount : Int := 0
  replayStarted : Bool := false
deriving DecidableEq, Repr

structure Message where
  messageId : ByteString
  topic : ByteString
  payload : ByteString
  contentType : ByteString := []
  timestampMs : Int
  sourceNodeId : ByteString := []
  correlationId : ByteString := []
  sequenceNumber : Nat := 0
deriving DecidableEq, Repr

/-- The alternatives of `MessageEvent` that the service sends, and the empty event. -/
inductive MessageEvent where
  | notSet
  | subscriptionInfo (info : SubscriptionInfo)
  | message (message : Message)
  | retainedMessage (message : Message)
  | replayMessage (message : Message)
  | replayComplete (subscriptionId : ByteString) (timestampMs : Int)
deriving DecidableEq, Repr

inductive GapRecoveryMode where
  | none
  | retainedOnly
  | replayBuffer
deriving DecidableEq, Repr

/-- What both reactor classes keep about their writes. -/
structure WriteSide where
  currentEvent : MessageEvent := .notSet
  /-- `StartWrite` calls that no `OnWriteDone` has answered yet -/
  outstanding : Nat := 0
  /-- `Finish` has been called -/
  finished : Bool := false
deriving DecidableEq, Repr

/-- The fields `ResumeSubscribeReactor` has beyond that. -/
structure ReplaySide where
  gapRecoveryMode : GapRecoveryMode
  pendingReplay : List MessageEvent := []
  replayCompleteSent : Bool := false
deriving DecidableEq, Repr

/-- The object behind `stream->reactor`, with the class it really has. -/
inductive Reactor where
  | subscribe (writeSide : WriteSide)
  | resume (writeSide : WriteSide) (replaySide : ReplaySide)
deriving DecidableEq, Repr

namespace Reactor

def writeSide : Reactor → WriteSide
  | .subscribe writeSide | .resume writeSide _ => writeSide

def mapWrite (update : WriteSide → WriteSide) : Reactor → Reactor
  | .subscribe writeSide => .subscribe (update writeSide)
  | .resume writeSide replaySide => .resume (update writeSide) replaySide

/-- `static_cast<SubscribeReactor*>` is defined on objects of that class only. -/
def isSubscribe : Reactor → Bool
  | .subscribe _ => true
  | .resume _ _ => false

@[simp]
theorem writeSide_mapWrite (update : WriteSide → WriteSide) (reactor : Reactor)
    : (reactor.mapWrite update).writeSide = update reactor.writeSide := by
  cases reactor <;> rfl

@[simp]
theorem isSubscribe_mapWrite (update : WriteSide → WriteSide) (reactor : Reactor)
    : (reactor.mapWrite update).isSubscribe = reactor.isSubscribe := by
  cases reactor <;> rfl

end Reactor

structure SubscriptionStream where
  subscriptionId : ByteString
  topics : List ByteString
  reactor : Option Reactor := none
  active : Bool := true
  messageQueue : SubscriberQueue MessageEvent
  writing : Bool := false
deriving DecidableEq, Repr

namespace SubscriptionStream

def startWrite (stream : SubscriptionStream) (event : MessageEvent) : SubscriptionStream :=
  { stream with
    reactor := stream.reactor.map
      (·.mapWrite
        (fun write => { write with
          currentEvent := event
          outstanding := write.outstanding + 1 })) }

def finish (stream : SubscriptionStream) : SubscriptionStream :=
  { stream with
    reactor := stream.reactor.map (·.mapWrite (fun write => { write with finished := true })) }

/-- The second locked section of `enqueueMessage`, for the winner of the exchange. -/
def claimWrite (stream : SubscriptionStream) (now : TimePoint) : SubscriptionStream :=
  if stream.messageQueue.empty then
    { stream with writing := false }
  else
    match stream.messageQueue.dequeue now with
    | (queue, some event) =>
        { stream with messageQueue := queue, writing := true }.startWrite event
    | (queue, none) => { stream with messageQueue := queue, writing := true }

/-- `enqueueMessage` with nobody else at work on the stream. -/
def enqueueMessage (stream : SubscriptionStream) (now : TimePoint) (event : MessageEvent)
    (ttlMs : Int)
    : SubscriptionStream × EnqueueResult :=
  if !stream.active then
    (stream, .droppedDisconnected)
  else
    let (queue, result) := stream.messageQueue.enqueue now event ttlMs
    let stored := { stream with messageQueue := queue }
    if result = .enqueued ∧ stream.writing = false then (stored.claimWrite now, result)
    else (stored, result)

/-- The locked section at the end of both classes' `OnWriteDone`. -/
def drainQueue (stream : SubscriptionStream) (now : TimePoint) : SubscriptionStream :=
  if stream.messageQueue.empty then
    { stream with writing := false }
  else
    match stream.messageQueue.dequeue now with
    | (queue, some event) => { stream with messageQueue := queue }.startWrite event
    | (queue, none) => { stream with messageQueue := queue, writing := false }

/-- gRPC takes back one outstanding write. -/
def answerWrite (stream : SubscriptionStream) : SubscriptionStream :=
  { stream with
    reactor := stream.reactor.map
      (·.mapWrite (fun write => { write with outstanding := write.outstanding - 1 })) }

/-- `OnWriteDone` with nobody else at work: the resuming class first sends what it has to
replay and one completion event.
-/
def onWriteDone (stream : SubscriptionStream) (now : TimePoint) (systemMs : Int)
    (ok : Bool)
    : SubscriptionStream :=
  let answered := stream.answerWrite
  if !ok || !answered.active then
    answered.finish
  else
    match answered.reactor with
    | some (.resume write replay) =>
        match replay.pendingReplay with
        | event :: rest =>
            { answered with
              reactor := some (.resume write { replay with pendingReplay := rest }) }.startWrite
                event
        | [] =>
            if !replay.replayCompleteSent && replay.gapRecoveryMode = .replayBuffer then
              { answered with
                reactor := some (.resume write { replay with replayCompleteSent := true })
                }.startWrite (.replayComplete answered.subscriptionId systemMs)
            else
              answered.drainQueue now
    | some (.subscribe _) | none => answered.drainQueue now

def writeSide (stream : SubscriptionStream) : WriteSide :=
  (stream.reactor.map Reactor.writeSide).getD {}

/-- The stream as the interleaved model sees it, between method calls. -/
def toStreamState (stream : SubscriptionStream) (now : TimePoint)
    : StreamState MessageEvent :=
  {
    active := stream.active
    writing := stream.writing
    writeMutex := none
    queueMutex := none
    queue := stream.messageQueue
    currentEvent := stream.writeSide.currentEvent
    outstanding := stream.writeSide.outstanding
    finished := stream.writeSide.finished
    producers := fun _ => .idle
    callbacks := fun _ => .idle
    clock := now
  }

/-- The stream while the only thread at work, publisher `id`, stands at `pc`. -/
def publishing (stream : SubscriptionStream) (now : TimePoint) (id : Nat)
    (pc : ProducerPc MessageEvent) (writeMutex : Option Party)
    : StreamState MessageEvent :=
  { stream.toStreamState now with
    producers := Function.update (fun _ => .idle) id pc
    writeMutex }

theorem publishing_idle (stream : SubscriptionStream) (now : TimePoint) (id : Nat)
    : stream.publishing now id .idle none = stream.toStreamState now := by
  simp [publishing, toStreamState]

/-- The publisher's way into an open queue. -/
theorem exec_admitted {stream : SubscriptionStream}
    (isOpen : stream.messageQueue.closed = false) (now : TimePoint) (id : Nat)
    (event : MessageEvent) (ttlMs : Int)
    : exec StreamState.step (stream.publishing now id (.admitted event ttlMs) none)
        (List.replicate 3 (.producer id))
      = some
          { stream.publishing now id
              (.inside (stream.messageQueue.prepare now event ttlMs))
              (some (.producer id)) with
            queueMutex := some (.producer id) } := by
  simp [exec, publishing, toStreamState, StreamState.step, StreamState.producerStep,
    StreamState.setProducer, isOpen]

/-- The first locked section, from `writeMutex` to the return of `enqueue`. A wait for space
ends by its timeout, because nobody else moves.
-/
theorem exec_enqueue (stream : SubscriptionStream) (now : TimePoint) (id : Nat)
    (event : MessageEvent) (ttlMs : Int)
    : ∃ steps,
        (∀ step ∈ steps, step = .producer id ∨ step = .wake id true)
        ∧ exec StreamState.step (stream.publishing now id (.admitted event ttlMs) none) steps
          = some
              (publishing
                { stream with messageQueue := (stream.messageQueue.enqueue now event ttlMs).1 }
                now id (.returning (stream.messageQueue.enqueue now event ttlMs).2)
                (some (.producer id))) := by
  cases closed : stream.messageQueue.closed with
  | true =>
      refine ⟨List.replicate 2 (.producer id), by simp, ?_⟩
      simp [exec, publishing, toStreamState, StreamState.step, StreamState.producerStep,
        StreamState.setProducer, SubscriberQueue.enqueue, closed]
  | false =>
      have entered := exec_admitted closed now id event ttlMs
      cases outcome
        : stream.messageQueue.enqueueLocked (stream.messageQueue.prepare now event ttlMs) with
      | returned queue result =>
          refine ⟨List.replicate 3 (.producer id) ++ [.producer id], by simp, ?_⟩
          rw [exec_append, entered, Option.bind_some]
          simp [publishing, toStreamState, StreamState.step, StreamState.producerStep,
            StreamState.setProducer, SubscriberQueue.enqueue, writeSide, closed, outcome]
      | waits =>
          refine ⟨List.replicate 3 (.producer id)
            ++ [.producer id, .wake id true, .producer id, .producer id], by simp, ?_⟩
          rw [exec_append, entered, Option.bind_some]
          simp [publishing, toStreamState, StreamState.step, StreamState.producerStep,
            StreamState.setProducer, SubscriberQueue.enqueue, writeSide, closed, outcome,
            SubscriberQueue.waitOver_of_waits outcome]

theorem step_returning (stream : SubscriptionStream) (now : TimePoint) (id : Nat)
    (result : EnqueueResult)
    : (stream.publishing now id (.returning result) (some (.producer id))).step (.producer id)
      = some
          (stream.publishing now id (if result = .enqueued then .exchanging else .idle)
            none) := by
  simp [StreamState.step, StreamState.producerStep, StreamState.setProducer, publishing]

/-- The winner of the exchange, up to its test of the queue. -/
theorem exec_exchanging {stream : SubscriptionStream} (clear : stream.writing = false)
    (now : TimePoint) (id : Nat)
    : exec StreamState.step (stream.publishing now id .exchanging none)
        (List.replicate 3 (.producer id))
      = some
          (publishing { stream with writing := true } now id
            (if stream.messageQueue.empty then .clearing else .draining)
            (some (.producer id))) := by
  simp [exec, publishing, toStreamState, StreamState.step, StreamState.producerStep,
    StreamState.setProducer, writeSide, clear]

/-- The winner of the exchange, from its second lock to the end. -/
theorem exec_claimWrite (stream : SubscriptionStream) (attached : stream.reactor.isSome)
    (clear : stream.writing = false) (now : TimePoint) (id : Nat)
    : exec StreamState.step (stream.publishing now id .exchanging none)
        (List.replicate 4 (.producer id))
      = some ((stream.claimWrite now).toStreamState now) := by
  obtain ⟨reactor, is⟩ := Option.isSome_iff_exists.mp attached
  rw [List.replicate_succ', exec_snoc, exec_exchanging clear, Option.bind_some, claimWrite]
  cases stream.messageQueue.empty with
  | true =>
      simp [publishing, toStreamState, StreamState.step, StreamState.producerStep,
        StreamState.setProducer, writeSide]
  | false =>
      rcases taken : stream.messageQueue.dequeue now with ⟨queue, _ | event⟩
      · simp [publishing, toStreamState, StreamState.step, StreamState.producerStep,
          StreamState.setProducer, writeSide, taken]
      · simp [publishing, toStreamState, StreamState.step, StreamState.producerStep,
          StreamState.setProducer, StreamState.startWrite, startWrite, writeSide, taken, is]

/-- `enqueueMessage` run alone is a schedule of the interleaved model in which only its
publisher moves.
-/
theorem exec_enqueueMessage {stream : SubscriptionStream} (attached : stream.reactor.isSome)
    (now : TimePoint) (id : Nat) (event : MessageEvent) (ttlMs : Int)
    : ∃ steps,
        (∀ step ∈ steps, step = .producer id ∨ step = .wake id true)
        ∧ exec StreamState.step (stream.toStreamState now) (.call id event ttlMs :: steps)
          = some ((stream.enqueueMessage now event ttlMs).1.toStreamState now) := by
  cases active : stream.active with
  | false =>
      refine ⟨[], by simp, ?_⟩
      simp [exec, StreamState.step, toStreamState, enqueueMessage, active]
  | true =>
      have entered
        : (stream.toStreamState now).step (.call id event ttlMs)
          = some (stream.publishing now id (.admitted event ttlMs) none) := by
        simp [StreamState.step, StreamState.setProducer, toStreamState, publishing, active]
      obtain ⟨first, movers, ran⟩ := exec_enqueue stream now id event ttlMs
      rcases enqueued : stream.messageQueue.enqueue now event ttlMs with ⟨queue, result⟩
      rw [enqueued] at ran
      -- what follows the return depends on the result and on the flag
      obtain ⟨rest, only, ends⟩
        : ∃ rest,
            (∀ step ∈ rest, step = .producer id)
            ∧ exec StreamState.step
                (publishing { stream with messageQueue := queue } now id
                  (if result = .enqueued then .exchanging else .idle) none)
                rest
              = some ((stream.enqueueMessage now event ttlMs).1.toStreamState now) := by
        by_cases taken : result = .enqueued
        · rw [if_pos taken]
          by_cases flag : stream.writing = false
          · refine ⟨List.replicate 4 (.producer id), by simp, ?_⟩
            rw [exec_claimWrite { stream with messageQueue := queue } attached flag]
            simp [enqueueMessage, active, enqueued, taken, flag]
          · refine ⟨[.producer id], by simp, ?_⟩
            simp [exec, publishing, toStreamState, StreamState.step, StreamState.producerStep,
              StreamState.setProducer, enqueueMessage, active, enqueued, taken,
              Bool.eq_true_of_not_eq_false flag]
        · refine ⟨[], by simp, ?_⟩
          rw [if_neg taken, publishing_idle]
          simp [enqueueMessage, active, enqueued, taken]
      refine ⟨first ++ .producer id :: rest, ?_, ?_⟩
      · intro step member
        rcases List.mem_append.mp member with early | late
        · exact movers step early
        · rcases List.mem_cons.mp late with rfl | later
          · exact .inl rfl
          · exact .inl (only step later)
      · rw [exec_cons, entered, Option.bind_some, exec_append, ran, Option.bind_some,
          exec_cons, step_returning, Option.bind_some, ends]

/-- The stream while the only thread at work, callback `id`, stands at `pc`. -/
def answering (stream : SubscriptionStream) (now : TimePoint) (id : Nat) (pc : CallbackPc)
    (writeMutex : Option Party)
    : StreamState MessageEvent :=
  { stream.toStreamState now with
    callbacks := Function.update (fun _ => .idle) id pc
    writeMutex }

/-- The callback past its test of the flag, up to its test of the queue. -/
theorem exec_answered {stream : SubscriptionStream} (active : stream.active = true)
    (now : TimePoint) (id : Nat)
    : exec StreamState.step (stream.answering now id (.answered true) none)
        (List.replicate 3 (.callback id))
      = some
          (stream.answering now id
            (if stream.messageQueue.empty then .clearing else .draining)
            (some (.callback id))) := by
  simp [exec, answering, toStreamState, StreamState.step, StreamState.callbackStep,
    StreamState.setCallback, active]

/-- The locked section at the end of the callback. -/
theorem exec_drainQueue {stream : SubscriptionStream} (attached : stream.reactor.isSome)
    (now : TimePoint) (id : Nat)
    : ∃ steps,
        (∀ step ∈ steps, step = .callback id)
        ∧ exec StreamState.step
            (stream.answering now id
              (if stream.messageQueue.empty then .clearing else .draining)
              (some (.callback id)))
            steps
          = some ((stream.drainQueue now).toStreamState now) := by
  obtain ⟨reactor, is⟩ := Option.isSome_iff_exists.mp attached
  unfold drainQueue
  cases stream.messageQueue.empty with
  | true =>
      refine ⟨[.callback id], by simp, ?_⟩
      simp [answering, toStreamState, StreamState.step, StreamState.callbackStep,
        StreamState.setCallback, writeSide]
  | false =>
      rcases taken : stream.messageQueue.dequeue now with ⟨queue, _ | event⟩
      · refine ⟨[.callback id, .callback id], by simp, ?_⟩
        simp [answering, toStreamState, StreamState.step, StreamState.callbackStep,
          StreamState.setCallback, writeSide, taken]
      · refine ⟨[.callback id], by simp, ?_⟩
        simp [answering, toStreamState, StreamState.step, StreamState.callbackStep,
          StreamState.setCallback, StreamState.startWrite, startWrite, writeSide, taken, is]

/-- The callback of a Subscribe stream, run alone, is a schedule of its own thread. -/
theorem exec_onWriteDone {stream : SubscriptionStream} {write : WriteSide}
    (attached : stream.reactor = some (.subscribe write)) (pending : 0 < write.outstanding)
    (now : TimePoint) (systemMs : Int) (id : Nat) (ok : Bool)
    : ∃ steps,
        (∀ step ∈ steps, step = .callback id)
        ∧ exec StreamState.step (stream.toStreamState now) (.writeDone id ok :: steps)
          = some ((stream.onWriteDone now systemMs ok).toStreamState now) := by
  have answered
    : (stream.toStreamState now).step (.writeDone id ok)
      = some (stream.answerWrite.answering now id (.answered ok) none) := by
    simp [StreamState.step, StreamState.setCallback, toStreamState, answering, answerWrite,
      writeSide, Reactor.writeSide, Reactor.mapWrite, attached, pending]
  by_cases ends : ok = false ∨ stream.active = false
  · refine ⟨[.callback id], by simp, ?_⟩
    rw [exec_cons, answered, Option.bind_some]
    simp [answering, toStreamState, StreamState.step, StreamState.callbackStep,
      StreamState.setCallback, writeSide, Reactor.writeSide, Reactor.mapWrite, onWriteDone,
      answerWrite, finish, attached, ends]
  · obtain ⟨rfl, active⟩ : ok = true ∧ stream.active = true := by simpa using ends
    have drains : stream.onWriteDone now systemMs true = stream.answerWrite.drainQueue now := by
      simp [onWriteDone, answerWrite, Reactor.mapWrite, attached, active]
    have present : stream.answerWrite.reactor.isSome = true := by simp [answerWrite, attached]
    have stillActive : stream.answerWrite.active = true := active
    obtain ⟨rest, only, ran⟩ := exec_drainQueue present now id
    refine ⟨List.replicate 3 (.callback id) ++ rest, ?_, ?_⟩
    · intro step member
      rcases List.mem_append.mp member with early | late
      · exact List.eq_of_mem_replicate early
      · exact only step late
    · rw [exec_cons, answered, Option.bind_some, exec_append,
        exec_answered stillActive, Option.bind_some, ran, drains]

end SubscriptionStream

end NexusD.Services
