import NexusD.Clients.NodeConnections

/-! What a step of the Node client does to the generator of one subscription.
What happens elsewhere leaves it alone or marks it inactive. An event of its own stream moves
its bridge, and when the call has ended, the generator waits for the next one or leaves.
-/

namespace NexusD.Clients

open NexusD.Core NexusD.Services
open NexusD.Library

namespace SubscriptionLoop

/-- The head of the outer loop, as far as the generator itself is concerned. -/
def entered (closed : Bool) (loop : SubscriptionLoop) : SubscriptionLoop :=
  if closed = true ∨ loop.isActive = false then { loop with phase := .ended }
  else loop.openCall

/-- Behind the loop over a call. -/
def afterCall (closed : Bool) (loop : SubscriptionLoop) : SubscriptionLoop :=
  let resuming := { loop with isResuming := true, phase := .sleeping }
  match loop.streamError with
  | none => { loop with phase := .ended }
  | some error =>
      if error.code = .cancelled then { loop with phase := .ended }
      else if error.isConnectionError then resuming
      else if closed = true ∨ loop.isActive = false then { loop with phase := .ended }
      else resuming

end SubscriptionLoop

/-- The messages that an event brings. -/
def CallEvent.brought : CallEvent → List ReceivedMessage
  | .data event => (NodeSubscription.received event).toList
  | .ended | .error _ | .pull | .run | .resume => []

namespace NodeClient

variable {Request Response : Type} {client after : NodeClient Request Response}

/-- What an action brings to the subscription `number`. -/
def broughtTo (number : Nat) : Action Request Response → List ReceivedMessage
  | .stream other event => if other = number then event.brought else []
  | .invoke _ _ | .respond _ _ | .proceed _ | .wake _ | .loop _ | .subscribe _ _
  | .wakeSubscription _ | .loopSubscription _ | .unsubscribe _ _ | .close => []

/-- A subscription is as it was, or has been marked inactive. -/
def Marked (before after : Option SubscriptionLoop) : Prop :=
  after = before
  ∨ ∃ loop, before = some loop ∧ after = some { loop with isActive := false }

theorem Marked.refl (loop : Option SubscriptionLoop) : Marked loop loop := .inl rfl

theorem Marked.trans {before middle after : Option SubscriptionLoop}
    (first : Marked before middle) (second : Marked middle after)
    : Marked before after := by
  rcases second with same | ⟨later, found, is⟩
  · exact same ▸ first
  · rcases first with same | ⟨loop, was, marked⟩
    · exact .inr ⟨later, same ▸ found, is⟩
    · rw [marked, Option.some.injEq] at found
      subst found
      exact .inr ⟨loop, was, is⟩

theorem Marked.exists_some {loop : SubscriptionLoop} {after : Option SubscriptionLoop}
    (marked : Marked (some loop) after)
    : ∃ noted, after = some noted := by
  rcases marked with same | ⟨_, _, is⟩
  · exact ⟨loop, same⟩
  · exact ⟨_, is⟩

/-- Marking some subscriptions commutes with writing one. -/
theorem Marked.update {before after : Nat → Option SubscriptionLoop} {number other : Nat}
    (marked : other ≠ number → Marked (before other) (after other))
    (loop : Option SubscriptionLoop)
    : Marked (Function.update before number loop other)
        (Function.update after number loop other) := by
  by_cases same : other = number
  · subst same
    simp only [Function.update_self]
    exact .refl _
  · rw [Function.update_of_ne same, Function.update_of_ne same]
    exact marked same

/-- What a step makes of one subscription; `messages` is what it brings. Whether the client was
closed is read on the way, and it is closed after the step if it was.
-/
inductive LoopStep (gapCallbacks : List Nat) (closedAfter : Bool)
    : Option SubscriptionLoop → Option SubscriptionLoop → List ReceivedMessage → Prop
  | rests (loop : Option SubscriptionLoop) : LoopStep gapCallbacks closedAfter loop loop []
  | starts (arguments : NodeSubscribeArguments) {closed : Bool}
      (still : closed = true → closedAfter = true)
      : LoopStep gapCallbacks closedAfter none
          (some (SubscriptionLoop.entered closed { arguments })) []
  | loops {loop : SubscriptionLoop} (phase : loop.phase = .looping) {closed : Bool}
      (still : closed = true → closedAfter = true)
      : LoopStep gapCallbacks closedAfter (some loop) (some (loop.entered closed)) []
  | wakes {loop : SubscriptionLoop} (phase : loop.phase = .sleeping)
      : LoopStep gapCallbacks closedAfter (some loop) (some { loop with phase := .looping }) []
  | pulls {loop : SubscriptionLoop} (demand : Nat)
      : LoopStep gapCallbacks closedAfter (some loop)
          (some { loop with bridge := { loop.bridge with demand } }) []
  | streams {loop noted : SubscriptionLoop} {event : CallEvent} {bridge : IteratorBridge}
      (phase : loop.phase = .streaming)
      (moved : loop.bridge.step gapCallbacks event.toBridge = some bridge)
      (marked : Marked (some { noteError loop event with bridge }) (some noted))
      {closed : Bool} (still : closed = true → closedAfter = true)
      : LoopStep gapCallbacks closedAfter (some loop)
          (some (if bridge.phase = .left then noted.afterCall closed else noted))
          event.brought

theorem subscriptions_enterLoop (client : NodeClient Request Response) (number : Nat)
    (loop : SubscriptionLoop)
    : (client.enterLoop number loop).subscriptions
      = Function.update client.subscriptions number
          (some (loop.entered client.connection.closed)) := by
  unfold enterLoop SubscriptionLoop.entered
  split <;> rfl

theorem subscriptions_deactivate (client : NodeClient Request Response) (number other : Nat)
    : Marked (client.subscriptions other) ((client.deactivate number).subscriptions other) := by
  unfold deactivate
  cases found : client.subscriptions number with
  | none => exact .refl _
  | some loop =>
      by_cases same : other = number
      · subst same
        exact .inr ⟨loop, found, by simp [setSubscription]⟩
      · exact .inl (by simp [setSubscription, same])

theorem subscriptions_foldl_deactivate (numbers : List Nat)
    (client : NodeClient Request Response) (other : Nat)
    : Marked (client.subscriptions other)
        ((numbers.foldl deactivate client).subscriptions other) := by
  induction numbers generalizing client with
  | nil => exact .refl _
  | cons number rest ih =>
      exact (client.subscriptions_deactivate number other).trans (ih (client.deactivate number))

theorem subscriptions_withConnection (client : NodeClient Request Response)
    (connection : NodeConnection) (other : Nat)
    : Marked (client.subscriptions other)
        ((client.withConnection connection).subscriptions other) := by
  unfold withConnection
  split
  · exact .refl _
  · exact subscriptions_foldl_deactivate _ client other

theorem subscriptions_onEvent (client : NodeClient Request Response) (event : CallEvent)
    (other : Nat)
    : Marked (client.subscriptions other) ((client.onEvent event).subscriptions other) := by
  rcases client.onEvent_eq event with connected | same
  · rw [connected]
    exact client.subscriptions_withConnection _ other
  · rewrite [same]
    exact .refl _

theorem subscriptions_afterStream (client : NodeClient Request Response) (number : Nat)
    (loop : SubscriptionLoop) (other : Nat)
    : Marked
        (Function.update client.subscriptions number
          (some (loop.afterCall client.connection.closed)) other)
        ((client.afterStream number loop).subscriptions other) := by
  obtain ⟨arguments, isActive, isResuming, streamError, bridge, phase⟩ := loop
  unfold afterStream SubscriptionLoop.afterCall
  cases streamError with
  | none => exact .refl _
  | some error =>
      dsimp only
      split
      · exact .refl _
      · split
        · exact subscriptions_withConnection _ _ other
        · split
          · exact .refl _
          · exact subscriptions_withConnection _ _ other

theorem subscriptions_settle (client : NodeClient Request Response) (number : Nat)
    (request : Request) (attempt : Nat) (settlement : Settlement Response) (other : Nat)
    : Marked (client.subscriptions other)
        ((client.settle number request attempt settlement).subscriptions other) := by
  cases settlement with
  | resolved response => exact .refl _
  | rejected error =>
      unfold settle
      dsimp only
      split
      · exact .refl _
      · have reconnecting := client.subscriptions_withConnection
          (client.connection.setConnectionState .reconnecting (some error)) other
        split
        · exact reconnecting.trans (subscriptions_withConnection _ _ other)
        · exact reconnecting

/-- A step concerns one subscription, and marks some inactive. -/
def Loops (client after : NodeClient Request Response) (other : Nat)
    (messages : List ReceivedMessage)
    : Prop :=
  ∃ middle,
    LoopStep client.gapCallbacks after.connection.closed (client.subscriptions other) middle
      messages
    ∧ Marked middle (after.subscriptions other)

theorem loops_of_update {number : Nat} {moved : Option SubscriptionLoop}
    {messages : List ReceivedMessage} {other : Nat}
    (subscriptions
      : Marked (Function.update client.subscriptions number moved other)
          (after.subscriptions other))
    (here
      : LoopStep client.gapCallbacks after.connection.closed (client.subscriptions number) moved
          messages)
    : Loops client after other (if number = other then messages else []) := by
  refine ⟨_, ?_, subscriptions⟩
  by_cases same : other = number
  · subst same
    rw [Function.update_self, if_pos rfl]
    exact here
  · rw [Function.update_of_ne same, if_neg (fun is => same is.symm)]
    exact .rests _

theorem loops_of_callEvent {number : Nat} {loop : SubscriptionLoop} {event : CallEvent}
    (found : client.subscriptions number = some loop)
    (taken : client.callEvent number loop event = some after) (other : Nat)
    : Loops client after other (if number = other then event.brought else []) := by
  unfold callEvent at taken
  split at taken
  · rename_i phase
    obtain ⟨bridge, moved, is⟩ := Option.map_eq_some_iff.mp taken
    dsimp only at is
    generalize written : client.setSubscription number { noteError loop event with bridge } = next
      at is
    have marked := next.subscriptions_onEvent event
    have here : next.subscriptions number = some { noteError loop event with bridge } := by
      rw [← written]
      exact Function.update_self _ _ _
    have others (different : other ≠ number)
        : Marked (client.subscriptions other) ((next.onEvent event).subscriptions other) := by
      have same : next.subscriptions other = client.subscriptions other := by
        rw [← written]
        exact Function.update_of_ne different _ _
      rw [← same]
      exact marked other
    obtain ⟨noted, stands⟩ := (here ▸ marked number).exists_some
    have noting : Marked (some { noteError loop event with bridge }) (some noted) := by
      rw [← here, ← stands]
      exact marked number
    have streams (still : (next.onEvent event).connection.closed = true
          → after.connection.closed = true)
        : LoopStep client.gapCallbacks after.connection.closed (client.subscriptions number)
            (some
              (if bridge.phase = .left then
                noted.afterCall (next.onEvent event).connection.closed
              else noted))
            event.brought := by
      rw [found]
      exact .streams phase moved noting still
    split at is
    · rename_i left
      have leaves
        : (next.onEvent event).leaveStream number
          = (next.onEvent event).afterStream number noted := by
        simp only [leaveStream, stands]
      have silent : Silent (next.onEvent event) after := by
        rw [← is]
        exact silent_leaveStream (.quiet rfl rfl) number
      have step := streams (silent.moves.invariant NodeConnection.Primitive.closed)
      rw [if_pos left] at step
      refine loops_of_update (.trans (.update others _) ?_) step
      rw [← is, leaves]
      exact subscriptions_afterStream _ number noted other
    · rename_i stays
      subst is
      have step := streams id
      rw [if_neg stays] at step
      refine loops_of_update ?_ step
      have unchanged
        : Function.update (next.onEvent event).subscriptions number (some noted)
          = (next.onEvent event).subscriptions := by
        rw [← stands, Function.update_eq_self]
      rw [← unchanged]
      exact .update others _
  all_goals
    split at taken
    · cases taken
      refine loops_of_update (.refl _) ?_
      rw [found]
      exact .pulls _
    all_goals cases taken

theorem loops_of_step {action : Action Request Response}
    (taken : client.step action = some after) (other : Nat)
    : Loops client after other (broughtTo other action) := by
  have still : client.connection.closed = true → after.connection.closed = true :=
    (effect_step taken).moves.invariant NodeConnection.Primitive.closed
  have marks (marked : Marked (client.subscriptions other) (after.subscriptions other))
      : Loops client after other [] :=
    ⟨_, .rests _, marked⟩
  have updated {number : Nat} {moved : Option SubscriptionLoop}
      (subscriptions : after.subscriptions = Function.update client.subscriptions number moved)
      (here
        : LoopStep client.gapCallbacks after.connection.closed (client.subscriptions number)
            moved [])
      : Loops client after other [] := by
    have step := loops_of_update (.inl (congrFun subscriptions other)) here
    rwa [ite_self] at step
  cases move_of_step taken with
  | invoke | loop =>
      refine marks (.inl ?_)
      unfold retry
      split <;> rfl
  | resolve => exact marks (client.subscriptions_withConnection _ other)
  | reject | wake => exact marks (.refl _)
  | settle => exact marks (client.subscriptions_settle _ _ _ _ other)
  | @subscribe number arguments new =>
      refine updated (subscriptions_enterLoop _ number _) ?_
      rw [new]
      exact .starts arguments still
  | stream found moved => exact loops_of_callEvent found moved other
  | wakeSubscription found phase =>
      refine updated rfl ?_
      rw [found]
      exact .wakes phase
  | @loopSubscription number loop found phase =>
      refine updated (client.subscriptions_enterLoop number loop) ?_
      rw [found]
      exact .loops phase still
  | unsubscribe =>
      refine marks ?_
      unfold NodeClient.unsubscribe
      dsimp only
      split
      · exact .refl _
      · exact client.subscriptions_deactivate _ other
  | close => exact marks (client.subscriptions_withConnection _ other)

end NodeClient

end NexusD.Clients
