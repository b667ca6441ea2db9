import NexusD.Services.DeliveryOrder
import NexusD.Services.PauseReplay

/-! A ResumeSubscribe with deliveries going on around it.
The resume lists its stream, stores its reactor and then reads the replay. No delivery ever
enters that stream's queue: as long as the pointer is null the stream is skipped, and from then
on the cast in `deliverFromRemote` is undefined and the call hangs.
-/

namespace NexusD.Services

open NexusD.Core NexusD.Library

namespace SidecarService

/-- No `SubscribeReactor` is behind the stream. -/
def Deaf (service : SidecarService) (handle : Nat) : Prop :=
  ∀ stream,
    service.streams handle = some stream
    → stream.reactor.any Reactor.isSubscribe = false

theorem Deaf.not_receives {service : SidecarService} {handle : Nat} (deaf : service.Deaf handle)
    : service.receives handle = false := by
  unfold receives
  split
  · rfl
  · rename_i stream is
    rw [deaf stream is, Bool.false_and]

theorem Deaf.deliverTo {service : SidecarService} {target : Nat} (deaf : service.Deaf target)
    (context : CallContext) (envelope : MessageEnvelope) (number handle : Nat)
    : (service.deliverTo context envelope number handle).1.streams target
      = service.streams target := by
  rw [deliverTo_streams]
  split
  · cases is : service.streams target with
    | none => rfl
    | some stream => simp [received, SubscriptionStream.receive, deaf stream is]
  · rfl

theorem Deaf.deliveryMove {service next : SidecarService} {target : Nat}
    (deaf : service.Deaf target) {context : CallContext} {was pc : DeliveryPc}
    {entries : List QueueEntry}
    (moved : ServiceThreads.DeliveryMove service context was next pc entries)
    : next.streams target = service.streams target := by
  cases moved with
  | collect | leave => rfl
  | enter | skip => exact deaf.deliverTo _ _ _ _
  | record =>
      unfold recordDelivery
      split <;> rfl

end SidecarService

/-- Nothing enters the queue of such a stream. -/
theorem ServiceThreads.enteredOn_step_of_deaf {state after : ServiceThreads} {action : Action}
    (taken : state.step action = some after) {handle : Nat} (deaf : state.service.Deaf handle)
    (topic : ByteString)
    : after.enteredOn handle topic = state.enteredOn handle topic := by
  have change := dispatch_step taken topic
  rw [← arrivedAt_dispatch, ← arrivedAt_dispatch]
  generalize after.dispatch topic = next at change ⊢
  cases change with
  | unchanged | issue | collect | skip | leave => rfl
  | enter pc on entered =>
      rename_i visited _ _ _
      have other : visited ≠ handle := by
        intro same
        subst same
        have receives := SidecarService.receives_of_deliverTo entered
        rw [deaf.not_receives] at receives
        cases receives
      rw [Dispatch.arrivedAt_arrive, if_neg other, List.append_nil]
      rfl

-----------------------------------------------------------------------------------------
-- The resume and what it meets
-----------------------------------------------------------------------------------------

/-- The number of the last message buffered on `topic`. -/
def SidecarService.lastNumber (service : SidecarService) (topic : ByteString) : Nat :=
  ((service.messageBuffer.topicBuffers.lookup topic).map TopicBuffer.currentSequence).getD 0

theorem lastNumber_of_holds {service : SidecarService} {topic : ByteString}
    {entries : TopicLog} (holds : service.messageBuffer.Holds topic entries)
    : service.lastNumber topic = entries.length := by
  rw [SidecarService.lastNumber, holds.keeps.window, TopicMessageBuffer.logOf]
  by_cases empty : entries = []
  · simp [empty]
  · simp [empty]

/-- What the resume has read from the buffer, once it has read it. -/
def ResumePc.read? : ResumePc → Option SidecarService.Recovery
  | .recovering _ _ _ [] recovery | .finished _ recovery => some recovery
  | _ => none

/-- A daemon without a memory limit, in any state it can reach, and a request to resume a
paused subscription to one topic from a position.
-/
structure Handover where
  config : ServiceConfig
  registry : PeerRegistry
  capacity : Nat
  history : List SidecarService.Request
  start : SidecarService
  request : ResumeSubscribeRequest
  paused : PausedSubscription
  topic : ByteString
  fresh : ∀ id, ¬registry.Knows id
  started
    : exec SidecarService.step (SidecarService.create config registry capacity 0) history
      = some start
  found : start.registry.getPausedSubscription request.subscriptionId = some paused
  single : paused.topics = [topic]
  mode : request.gapRecoveryMode = .replayBuffer
  positioned : 1 ≤ SidecarService.resumePosition request paused topic
  positive : 0 < capacity
  room : start.lastNumber topic ≤ capacity

namespace Handover

variable (setup : Handover)

/-- The stream the resume opens. -/
def handle : Nat := setup.start.nextStream

def position : Nat := SidecarService.resumePosition setup.request setup.paused setup.topic

def initial : ServiceThreads := { service := setup.start }

theorem replays : setup.request.gapRecoveryMode ≠ .none := by
  rw [setup.mode]
  decide

/-- Deliveries, as long as the topic's ring has room, and the steps of the one resume, within
the TTL.
-/
def Permits (state : ServiceThreads) : ServiceThreads.Action → Prop
  | .call _ _ envelope =>
      envelope.topic = setup.topic → state.service.lastNumber setup.topic < setup.capacity
  | .deliver _ _ => True
  | .resumeCall thread request => thread = 0 ∧ request = setup.request
  | .resume thread context => thread = 0 ∧ context.now ≤ setup.paused.expiresAt
  | .retain _ _ | .handle _ => False

instance (state : ServiceThreads) : DecidablePred (setup.Permits state)
  | .call _ _ _ => inferInstanceAs (Decidable (_ → _))
  | .deliver _ _ => .isTrue trivial
  | .resumeCall _ _ | .resume _ _ => inferInstanceAs (Decidable (_ ∧ _))
  | .retain _ _ | .handle _ => .isFalse id

/-- The stream exists, and this is in its `reactor` field. -/
def Serving (service : SidecarService) (reactor : Option Reactor → Prop) : Prop :=
  ∃ stream, service.streams setup.handle = some stream ∧ reactor stream.reactor

/-- The stream's reactor is a resuming one. -/
def Resuming (reactor : Option Reactor) : Prop :=
  ∃ write replay, reactor = some (.resume write replay)

/-- The stream's reactor is to replay what the recovery has gathered. -/
def Replaying (recovery : SidecarService.Recovery) (reactor : Option Reactor) : Prop :=
  ∃ write replay,
    reactor = some (.resume write replay) ∧ replay.pendingReplay = recovery.pendingReplay

def Recorded (service : SidecarService) : Prop :=
  service.registry.getPausedSubscription setup.request.subscriptionId = some setup.paused

/-- How far the resume is, and what the service looks like then. -/
inductive Phase (service : SidecarService) : ResumePc → Prop
  | idle (waiting : service.nextStream = setup.handle) (recorded : setup.Recorded service)
      : Phase service .idle
  | found (waiting : service.nextStream = setup.handle) (recorded : setup.Recorded service)
      : Phase service (.found setup.request setup.paused)
  | tracked (serving : setup.Serving service (· = none)) (recorded : setup.Recorded service)
      : Phase service (.tracked setup.request setup.handle [setup.topic])
  | attached (serving : setup.Serving service Resuming) (recorded : setup.Recorded service)
      : Phase service (.attached setup.request setup.handle [setup.topic])
  | recovering (serving : setup.Serving service Resuming)
      : Phase service
          (.recovering setup.request setup.handle (some setup.paused) [setup.topic] {})
  | recovered {recovery : SidecarService.Recovery} (serving : setup.Serving service Resuming)
      : Phase service
          (.recovering setup.request setup.handle (some setup.paused) [] recovery)
  | finished {recovery : SidecarService.Recovery}
      (serving : setup.Serving service (Replaying recovery))
      : Phase service (.finished setup.handle recovery)

variable {setup}

theorem Serving.deaf {service : SidecarService} {reactor : Option Reactor → Prop}
    (serving : setup.Serving service reactor)
    (other : ∀ own, reactor own → own.any Reactor.isSubscribe = false)
    : service.Deaf setup.handle := by
  obtain ⟨stream, is, set⟩ := serving
  intro same found
  cases is.symm.trans found
  exact other _ set

theorem Resuming.not_subscribe {reactor : Option Reactor} (resuming : Resuming reactor)
    : reactor.any Reactor.isSubscribe = false := by
  obtain ⟨write, replay, rfl⟩ := resuming
  rfl

/-- Whatever the resume has done so far, no delivery enters its stream. -/
theorem Phase.deaf {service : SidecarService} {pc : ResumePc} (phase : setup.Phase service pc)
    (table : service.TableInvariant)
    : service.Deaf setup.handle := by
  have absent (waiting : service.nextStream = setup.handle) : service.Deaf setup.handle := by
    intro stream is
    have allocated := table.allocated setup.handle (by simp [is])
    exact absurd allocated (by rw [waiting]; exact Nat.lt_irrefl _)
  cases phase with
  | idle waiting | found waiting => exact absent waiting
  | tracked serving =>
      refine serving.deaf ?_
      intro own null
      rw [null]
      rfl
  | attached serving | recovering serving | recovered serving =>
      exact serving.deaf (fun _ => Resuming.not_subscribe)
  | finished serving =>
      refine serving.deaf ?_
      intro own replaying
      obtain ⟨write, replay, is, _⟩ := replaying
      exact Resuming.not_subscribe ⟨write, replay, is⟩

/-- What deliveries do leaves the resume where it is. -/
theorem Phase.quiet {before after : SidecarService} {pc : ResumePc}
    (phase : setup.Phase before pc) (quiet : SidecarService.Quiet before after)
    (same : after.streams setup.handle = before.streams setup.handle)
    : setup.Phase after pc := by
  have waits (waiting : before.nextStream = setup.handle) : after.nextStream = setup.handle :=
    quiet.nextStream.trans waiting
  have stays (recorded : setup.Recorded before) : setup.Recorded after :=
    (congrArg (AList.lookup setup.request.subscriptionId) quiet.paused).trans recorded
  have serves {reactor : Option Reactor → Prop} (serving : setup.Serving before reactor)
      : setup.Serving after reactor := by
    rwa [Serving, same]
  cases phase with
  | idle waiting recorded => exact .idle (waits waiting) (stays recorded)
  | found waiting recorded => exact .found (waits waiting) (stays recorded)
  | tracked serving recorded => exact .tracked (serves serving) (stays recorded)
  | attached serving recorded => exact .attached (serves serving) (stays recorded)
  | recovering serving => exact .recovering (serves serving)
  | recovered serving => exact .recovered (serves serving)
  | finished serving => exact .finished (serves serving)

/-- A method on the resumed stream itself. -/
theorem Serving.onStream {service : SidecarService} {before after : Option Reactor → Prop}
    (serving : setup.Serving service before)
    {method : SubscriptionStream → SubscriptionStream}
    (moves : ∀ stream, before stream.reactor → after (method stream).reactor)
    : setup.Serving (service.onStream setup.handle method) after := by
  obtain ⟨stream, is, set⟩ := serving
  simp only [SidecarService.onStream, is]
  exact ⟨method stream, Function.update_self _ _ _, moves stream set⟩

/-- The end of the constructor fills the replay queue of a resuming reactor. -/
theorem replaying_startResume {stream : SubscriptionStream}
    (resuming : Resuming stream.reactor) (systemMs : Int) (recovery : SidecarService.Recovery)
    : Replaying recovery (SidecarService.startResume systemMs recovery stream).reactor := by
  obtain ⟨write, replay, set⟩ := resuming
  simp only [SidecarService.startResume, set, SubscriptionStream.startWrite, Option.map_some,
    Reactor.mapWrite]
  exact ⟨_, _, rfl, rfl⟩

/-- The resume goes on to its next phase. -/
theorem Phase.resume {service next : SidecarService} {context : CallContext}
    {pc moved : ResumePc} (phase : setup.Phase service pc)
    (inTime : context.now ≤ setup.paused.expiresAt)
    (taken : ServiceThreads.resumeStep service context pc = some (next, moved))
    : setup.Phase next moved := by
  cases phase with
  | idle => cases taken
  | found waiting recorded =>
      cases taken
      rw [waiting, setup.single]
      exact .tracked ⟨_, Function.update_self _ _ _, rfl⟩ recorded
  | tracked serving recorded =>
      cases taken
      refine .attached (serving.onStream (fun _ _ => ⟨_, _, rfl⟩)) ?_
      rw [Recorded, SidecarService.onStream_registry]
      exact recorded
  | attached serving recorded =>
      have resumed := PeerRegistry.resumeSubscription_eq recorded inTime
      simp only [ServiceThreads.resumeStep, resumed, if_neg setup.replays, Option.some.injEq,
        Prod.mk.injEq] at taken
      obtain ⟨rfl, rfl⟩ := taken
      exact .recovering serving
  | recovering serving =>
      cases taken
      exact .recovered serving
  | recovered serving =>
      cases taken
      exact .finished
        (serving.onStream (fun stream resuming => replaying_startResume resuming _ _))
  | finished => cases taken

/-- A step of the resume reads the buffer, or what it has read stays as it is. -/
theorem Phase.reads_or {service next : SidecarService} {context : CallContext}
    {pc moved : ResumePc} (phase : setup.Phase service pc)
    (taken : ServiceThreads.resumeStep service context pc = some (next, moved))
    : pc.read? = none
        ∧ moved.read?
          = some
              (SidecarService.recoverTopic service.messageBuffer setup.request setup.paused {}
                setup.topic)
      ∨ moved.read? = pc.read? := by
  cases phase with
  | idle | finished => cases taken
  | found | tracked | recovered =>
      cases taken
      exact .inr rfl
  | attached =>
      simp only [ServiceThreads.resumeStep, if_neg setup.replays, Option.some.injEq,
        Prod.mk.injEq] at taken
      obtain ⟨_, rfl⟩ := taken
      exact .inr rfl
  | recovering =>
      cases taken
      exact .inl ⟨rfl, rfl⟩

end Handover

end NexusD.Services
