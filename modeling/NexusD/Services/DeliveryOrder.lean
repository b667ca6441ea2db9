import NexusD.Core.UnlimitedMemory
import NexusD.Services.ConcurrentCalls

/-! The order in which the messages of one topic enter a subscriber's queue.
A message gets its number under the buffer's lock and enters each queue later, under that
stream's lock. Nothing ties the two orders together.
-/

namespace NexusD.Services

open NexusD.Core NexusD.Library

namespace SidecarService

/-- The stream has Subscribe's reactor and takes messages. -/
def receives (service : SidecarService) (handle : Nat) : Bool :=
  match service.streams handle with
  | none => false
  | some stream => stream.reactor.any Reactor.isSubscribe && stream.active

theorem receives_of_deliverTo {service : SidecarService} {context : CallContext}
    {envelope : MessageEnvelope} {number handle : Nat}
    (taken : (service.deliverTo context envelope number handle).2 = some .enqueued)
    : service.receives handle = true := by
  unfold deliverTo at taken
  split at taken
  · cases taken
  · rename_i stream is
    split at taken
    · cases taken
    · cases taken
    · rename_i write set
      cases live : stream.active with
      | true => simp [receives, is, set, live, Reactor.isSubscribe]
      | false => simp [SubscriptionStream.enqueueMessage, live] at taken

end SidecarService

namespace ServiceThreads

/-- No call on `topic` is in flight, and none of its messages has entered a queue. -/
def Untouched (topic : ByteString) (state : ServiceThreads) : Prop :=
  (∀ thread, (state.dispatch topic).holders thread = none)
  ∧ (state.dispatch topic).arrived = []

/-- The step keeps the order of `topic`.

* A message on the topic is accepted by the buffer, which still has the topic's ring unless
  nothing of the topic is under way yet.
* A message enters a stream's queue only when no call with a smaller number may still reach
  that stream.
-/
def KeepsOrder (topic : ByteString) (state : ServiceThreads) : Action → Prop
  | .call _ context envelope =>
      envelope.topic = topic
      → state.service.messageBuffer.accepts (envelope.bufferCall context) = true
        ∧ (state.service.messageBuffer.erases (envelope.bufferCall context) topic = false
            ∧ (state.service.messageBuffer.topicBuffers.lookup topic).isSome = true
          ∨ state.Untouched topic)
  | .deliver thread _ =>
      ∀ envelope number handle remaining,
        state.deliveries thread = .delivering envelope number (handle :: remaining)
        → envelope.topic = topic
        → state.service.receives handle = true
        → ∀ other ticket,
            (state.dispatch topic).holders other = some ticket
            → ticket.MayReach handle
            → number ≤ ticket.number
  | _ => True

/-- What holds of `topic` in every state of a run that keeps its order. -/
structure Orderly (topic : ByteString) (state : ServiceThreads) : Prop where
  table : state.service.TableInvariant
  positive : 0 < state.service.messageBuffer.bufferSizePerTopic
  inOrder : (state.dispatch topic).InOrder
  /-- while the topic has a ring, its log is as long as the largest number -/
  numbered
    : ∃ log,
        state.service.messageBuffer.Keeps topic log
        ∧ ∀ entries, log = some entries → (state.dispatch topic).Below (entries.length + 1)

theorem orderly_create (config : ServiceConfig) {registry : PeerRegistry}
    (fresh : ∀ id, ¬registry.Knows id) {messageBufferSize : Nat}
    (positive : 0 < messageBufferSize) (maxBufferMemory : Nat) (topic : ByteString)
    : Orderly topic
        { service :=
            SidecarService.create config registry messageBufferSize maxBufferMemory } where
  table :=
    SidecarService.tableInvariant_create config fresh messageBufferSize maxBufferMemory
  positive := positive
  inOrder := Dispatch.inOrder_empty
  numbered :=
    ⟨none, TopicMessageBuffer.keeps_create messageBufferSize maxBufferMemory topic, by simp⟩

variable {topic : ByteString} {state after : ServiceThreads} {action : Action} {thread : Nat}

/-- A step that puts nothing on the topic only ever loses the topic's log. -/
theorem Orderly.numbered_elsewhere (orderly : Orderly topic state)
    (taken : state.step action = some after)
    (elsewhere : ∀ call ∈ action.bufferCall?, call.topic ≠ topic)
    : ∃ log,
        after.service.messageBuffer.Keeps topic log
        ∧ ∀ entries, log = some entries → (state.dispatch topic).Below (entries.length + 1) := by
  obtain ⟨log, keeps, below⟩ := orderly.numbered
  rw [step_messageBuffer taken]
  cases made : action.bufferCall? with
  | none => exact ⟨log, keeps, below⟩
  | some call =>
      have other : call.topic ≠ topic := elsewhere call made
      refine ⟨_, keeps.bufferMessage orderly.positive call, ?_⟩
      intro entries is
      simp only [TopicMessageBuffer.nextLog, other, false_and, if_false,
        TopicMessageBuffer.keptLog] at is
      split at is
      · cases is
      · exact below entries is

/-- A message on the topic gets a number above all that are under way. -/
theorem Orderly.call (orderly : Orderly topic state) {context : CallContext}
    {envelope : MessageEnvelope}
    (keepsOrder : KeepsOrder topic state (.call thread context envelope))
    (on : envelope.topic = topic)
    : let number := (state.service.bufferEnvelope context envelope).2
      (state.dispatch topic).Below number
      ∧ ∃ log,
          (state.service.bufferEnvelope context envelope).1.messageBuffer.Keeps topic log
          ∧ ∀ entries, log = some entries → entries.length = number := by
  obtain ⟨log, keeps, below⟩ := orderly.numbered
  obtain ⟨accepted, known⟩ := keepsOrder on
  subst on
  have number : (state.service.bufferEnvelope context envelope).2
      = ((state.service.messageBuffer.keptLog (envelope.bufferCall context) envelope.topic
          log).getD []).length + 1 :=
    TopicMessageBuffer.Keeps.bufferMessage_seq keeps orderly.positive accepted
  refine ⟨?_, _, keeps.bufferMessage orderly.positive (envelope.bufferCall context), ?_⟩
  · rw [number]
    rcases known with ⟨kept, ring⟩ | ⟨idle, nothing⟩
    · rw [keeps.window] at ring
      cases log with
      | none => cases ring
      | some entries =>
          rw [TopicMessageBuffer.keptLog, if_neg (by rw [kept]; exact Bool.false_ne_true)]
          exact below entries rfl
    · refine ⟨?_, ?_⟩
      · intro thread ticket holds
        rw [idle thread] at holds
        cases holds
      · intro arrival member
        rw [nothing] at member
        cases member
  · intro entries is
    rw [TopicMessageBuffer.nextLog, if_pos ⟨rfl, accepted⟩, Option.some.injEq] at is
    rw [number, ← is, List.length_append, List.length_singleton]

theorem Orderly.step (orderly : Orderly topic state)
    (keepsOrder : KeepsOrder topic state action) (taken : state.step action = some after)
    : Orderly topic after := by
  suffices moved
    : (after.dispatch topic).InOrder
      ∧ ∃ log,
          after.service.messageBuffer.Keeps topic log
          ∧ ∀ entries, log = some entries → (after.dispatch topic).Below (entries.length + 1) by
    refine ⟨tableInvariant_step orderly.table taken, ?_, moved.1, moved.2⟩
    rw [step_messageBuffer taken, TopicMessageBuffer.afterCalls_sizes]
    exact orderly.positive
  have elsewhere := orderly.numbered_elsewhere taken
  have buffer := step_messageBuffer taken
  have change := dispatch_step taken topic
  generalize after.dispatch topic = next at change ⊢
  cases change with
  | unchanged other => exact ⟨orderly.inOrder, elsewhere other⟩
  | issue free on =>
      obtain ⟨above, log, keeps, length⟩ := orderly.call keepsOrder on
      refine ⟨orderly.inOrder.issue above, log, ?_, ?_⟩
      · rw [buffer]
        exact keeps
      · intro entries is
        rw [length entries is]
        exact above.issue
  | collect pc on =>
      have holds := holders_buffered pc on
      obtain ⟨log, keeps, below⟩ := elsewhere (by simp [Action.bufferCall?])
      refine ⟨?_, log, keeps, fun entries is => (below entries is).route holds⟩
      exact orderly.inOrder.route holds (orderly.table.nodup_matchingStreams _ _)
        (fun destination _ => Ticket.mayReach_unrouted _ destination)
  | skip pc on dropped =>
      have holds := holders_delivering pc on
      obtain ⟨log, keeps, below⟩ := elsewhere (by simp [Action.bufferCall?])
      exact ⟨orderly.inOrder.skip holds, log, keeps,
        fun entries is => (below entries is).route holds⟩
  | enter pc on entered =>
      have holds := holders_delivering pc on
      obtain ⟨log, keeps, below⟩ := elsewhere (by simp [Action.bufferCall?])
      refine ⟨?_, log, keeps, ?_⟩
      · refine orderly.inOrder.enter holds ?_
        intro other ticket held reach
        exact keepsOrder _ _ _ _ pc on (SidecarService.receives_of_deliverTo entered) other
          ticket held reach
      · intro entries is
        exact ((below entries is).route holds).arrive ((below entries is).held holds) _
  | leave pc on =>
      obtain ⟨log, keeps, below⟩ := elsewhere (by simp [Action.bufferCall?])
      exact ⟨orderly.inOrder.release, log, keeps, fun entries is => (below entries is).release⟩

/-- For any number of calls of `deliverFromRemote` in any interleaving with each other, with
resumes and with the other handlers: as long as every step keeps the order of a topic, its
messages enter every subscriber's queue in increasing order of their numbers.
-/
theorem entered_increasing_of_keepsOrder (config : ServiceConfig) {registry : PeerRegistry}
    (fresh : ∀ id, ¬registry.Knows id) {messageBufferSize : Nat}
    (positive : 0 < messageBufferSize) (maxBufferMemory : Nat) (topic : ByteString)
    (actions : List Action) {final : ServiceThreads}
    (run
      : exec step
          { service :=
              SidecarService.create config registry messageBufferSize maxBufferMemory }
          actions
        = some final)
    (along
      : Along step
          { service :=
              SidecarService.create config registry messageBufferSize maxBufferMemory }
          (KeepsOrder topic) actions)
    (handle : Nat)
    : (final.enteredOn handle topic).Pairwise (· < ·) := by
  have orderly :=
    exec_invariant (KeepsOrder topic) (Orderly topic)
      (orderly_create config fresh positive maxBufferMemory topic)
      (fun orderly keepsOrder taken => orderly.step keepsOrder taken) run along
  rw [← arrivedAt_dispatch]
  exact orderly.inOrder.sorted handle

/-- A delivery with no other call in flight overtakes nobody. -/
theorem keepsOrder_deliver_of_alone
    (alone : ∀ other, other ≠ thread → state.deliveries other = .idle) (topic : ByteString)
    (context : CallContext)
    : KeepsOrder topic state (.deliver thread context) := by
  intro envelope number handle remaining pc on _ other ticket holds _
  by_cases same : other = thread
  · subst other
    rw [holders_delivering pc on] at holds
    cases holds
    exact Nat.le_refl _
  · simp [dispatch, alone other same, DeliveryPc.ticket] at holds

/-- The thread whose delivery the step moves. -/
def Action.deliveryThread? : Action → Option Nat
  | .call thread _ _ | .deliver thread _ => some thread
  | _ => none

/-- Only `thread` delivers, and what is published on `topic` is never evicted. -/
structure OnePublisher (thread : Nat) (topic : ByteString) (state : ServiceThreads)
    : Prop where
  alone : ∀ other, other ≠ thread → state.deliveries other = .idle
  log
    : ∃ entries,
        state.service.messageBuffer.Holds topic entries
        ∧ (entries = [] → state.Untouched topic)

theorem OnePublisher.keepsOrder (one : OnePublisher thread topic state)
    (mine : ∀ mover ∈ action.deliveryThread?, mover = thread)
    : KeepsOrder topic state action := by
  cases action with
  | call mover context envelope =>
      intro on
      obtain ⟨entries, holds, untouched⟩ := one.log
      refine ⟨TopicMessageBuffer.accepts_unlimited holds.unlimited _, ?_⟩
      by_cases empty : entries = []
      · exact Or.inr (untouched empty)
      · refine Or.inl ⟨TopicMessageBuffer.erases_unlimited holds.unlimited _ _, ?_⟩
        rw [holds.keeps.window, TopicMessageBuffer.logOf, if_neg empty]
        rfl
  | deliver mover context =>
      obtain rfl := mine mover rfl
      exact keepsOrder_deliver_of_alone one.alone topic context
  | resumeCall | resume | retain | handle => trivial

theorem deliveries_step (taken : state.step action = some after) {other : Nat}
    (others : ∀ mover ∈ action.deliveryThread?, mover ≠ other)
    : after.deliveries other = state.deliveries other := by
  cases move_of_step taken with
  | call | deliver => exact Function.update_of_ne (others _ rfl).symm _ _
  | refuse | find | resume | retain | handle => rfl

/-- Only a call on the topic starts anything on it. -/
theorem Untouched.step (untouched : state.Untouched topic)
    (taken : state.step action = some after)
    (elsewhere : ∀ call ∈ action.bufferCall?, call.topic ≠ topic)
    : after.Untouched topic := by
  obtain ⟨idle, nothing⟩ := untouched
  have change := dispatch_step taken topic
  unfold Untouched
  generalize after.dispatch topic = next at change ⊢
  cases change with
  | unchanged => exact ⟨idle, nothing⟩
  | issue free on => exact absurd on (elsewhere _ rfl)
  | collect pc on =>
      have holds := holders_buffered pc on
      rw [idle] at holds
      cases holds
  | skip pc on | enter pc on | leave pc on =>
      have holds := holders_delivering pc on
      rw [idle] at holds
      cases holds

theorem OnePublisher.step (one : OnePublisher thread topic state)
    (mine : ∀ mover ∈ action.deliveryThread?, mover = thread)
    (taken : state.step action = some after)
    : OnePublisher thread topic after := by
  obtain ⟨entries, holds, untouched⟩ := one.log
  refine ⟨?_, entries ++ TopicMessageBuffer.entriesOn topic action.bufferCall?.toList, ?_, ?_⟩
  · intro other different
    rw [deliveries_step taken (by rintro mover moves rfl; exact different (mine _ moves))]
    exact one.alone other different
  · rw [step_messageBuffer taken]
    exact holds.afterCalls _
  · intro empty
    obtain ⟨first, none⟩ := List.append_eq_nil_iff.mp empty
    refine (untouched first).step taken ?_
    intro call made same
    subst same
    rw [Option.mem_def.mp made] at none
    simp [TopicMessageBuffer.entriesOn] at none

/-- A single publisher that never meets the memory limit delivers in order. -/
theorem along_keepsOrder_of_one_publisher (config : ServiceConfig) (registry : PeerRegistry)
    {messageBufferSize : Nat} (positive : 0 < messageBufferSize) (thread : Nat)
    {actions : List Action}
    (mine : ∀ action ∈ actions, ∀ mover ∈ action.deliveryThread?, mover = thread)
    (topic : ByteString)
    : Along step { service := SidecarService.create config registry messageBufferSize 0 }
        (KeepsOrder topic) actions := by
  refine along_of_invariant (OnePublisher thread topic) ?_
    (fun member one taken => one.step (mine _ member) taken)
    (fun member one => one.keepsOrder (mine _ member))
  refine ⟨fun _ _ => rfl, [], TopicMessageBuffer.holds_create positive topic, ?_⟩
  intro _
  exact ⟨fun _ => rfl, rfl⟩

/-- A client subscribes to topic `a`. -/
def withSubscriber : List Action := [.handle (.subscribe {} { topics := [[97]] })]

/-- One message on topic `a`, from its call to the end of its delivery. -/
def deliverAlone : List Action :=
  .call 0 {} { topic := [97], payload := [1] } :: List.replicate 4 (.deliver 0 {})

theorem entered_increasing_in_turn
    : ∃ final,
        exec step { service := SidecarService.smallDaemon }
            (withSubscriber ++ deliverAlone ++ deliverAlone)
          = some final
        ∧ final.enteredOn 0 [97] = [1, 2]
        ∧ (final.enteredOn 0 [97]).Pairwise (· < ·) := by
  have positive : 0 < 5 := by decide
  -- the final state stays a variable, so that it is computed once
  obtain ⟨final, run, entered⟩
    : ∃ final,
        exec step { service := SidecarService.smallDaemon }
            (withSubscriber ++ deliverAlone ++ deliverAlone)
          = some final
        ∧ final.enteredOn 0 [97] = [1, 2] :=
    ⟨_, rfl, by decide +kernel⟩
  refine ⟨final, run, entered, ?_⟩
  exact entered_increasing_of_keepsOrder {} (PeerRegistry.not_knows_fresh []) positive 0 [97]
    (withSubscriber ++ deliverAlone ++ deliverAlone) run
    (along_keepsOrder_of_one_publisher {} _ positive 0 (by decide) [97]) 0

/-- Two calls buffer their messages, the second one delivers first. -/
def overtaking : List Action :=
  [
    .call 0 {} { topic := [97], payload := [1] },
    .call 1 {} { topic := [97], payload := [2] },
    .deliver 1 {},
    .deliver 1 {},
    .deliver 0 {},
    .deliver 0 {}
  ]

theorem later_call_overtakes
    : ∃ final,
        exec step { service := SidecarService.smallDaemon } (withSubscriber ++ overtaking)
          = some final
        ∧ final.enteredOn 0 [97] = [2, 1]
        ∧ ¬(final.enteredOn 0 [97]).Pairwise (· < ·) :=
  ⟨_, rfl, by decide +kernel, by decide +kernel⟩

end ServiceThreads

end NexusD.Services
