import NexusD.Services.ServiceFrames

/-! Subscription ids and the stream table over whole runs.
Every id carries the counter value it was made from, so a new subscription never meets an old
record; and the table leads from each id to a stream of that id.
-/

namespace NexusD.Services.SidecarService

open NexusD.Core NexusD.Library

/-- The counter value inside a subscription id. -/
def counterOf (id : ByteString) : Nat :=
  decimalValue ((id.drop 4).takeWhile (· != 45))

theorem counterOf_subscriptionIdOf (counter : Nat) (uuid : ByteString)
    : counterOf (subscriptionIdOf counter uuid) = counter := by
  have digits : ∀ byte ∈ decimal counter, (byte != 45) = true := by
    intro byte member
    have large := decimal_ge member
    rw [bne_iff_ne]
    intro same
    subst same
    exact absurd large (by decide)
  have body
    : (subscriptionIdOf counter uuid).drop 4 = decimal counter ++ 45 :: uuid.take 8 := by
    simp [subscriptionIdOf]
  rw [counterOf, body, List.takeWhile_append_of_pos digits, List.takeWhile_cons]
  simp [decimalValue_decimal]

/-- What every state between two requests satisfies. -/
structure TableInvariant (service : SidecarService) : Prop where
  /-- a listed stream is one of the id it is listed under -/
  named
    : ∀ id handle,
        service.activeStreams.lookup id = some handle
        → ∃ stream, service.streams handle = some stream ∧ stream.subscriptionId = id
  /-- known ids are older than the counter -/
  numbered : ∀ id, service.registry.Knows id → counterOf id < service.subscriptionCounter
  allocated : ∀ handle, (service.streams handle).isSome = true → handle < service.nextStream

theorem tableInvariant_create (config : ServiceConfig) {registry : PeerRegistry}
    (fresh : ∀ id, ¬registry.Knows id) (messageBufferSize maxBufferMemory : Nat)
    : (create config registry messageBufferSize maxBufferMemory).TableInvariant where
  named id handle found := by simp [create] at found
  numbered id known := absurd known (fresh id)
  allocated handle present := by simp [create] at present

variable {service before after : SidecarService} {handle : Nat} {id : ByteString}

/-- A fresh id has no record, active or paused. -/
theorem TableInvariant.fresh (table : service.TableInvariant) (uuid : ByteString)
    : ¬service.registry.Knows (subscriptionIdOf service.subscriptionCounter uuid) := by
  intro known
  have older := table.numbered _ known
  rw [counterOf_subscriptionIdOf] at older
  exact Nat.lt_irrefl _ older

theorem Quiet.knows_iff (quiet : Quiet before after) (id : ByteString)
    : after.registry.Knows id ↔ before.registry.Knows id := by
  have active := congrArg Option.isSome (quiet.locals id)
  rw [Option.isSome_map, Option.isSome_map] at active
  rw [PeerRegistry.Knows, PeerRegistry.Knows, active, quiet.paused]

theorem isSome_streams_of_identities
    (same
      : (after.streams handle).map SubscriptionStream.identity
        = (before.streams handle).map SubscriptionStream.identity)
    : (after.streams handle).isSome = (before.streams handle).isSome := by
  have equal := congrArg Option.isSome same
  rwa [Option.isSome_map, Option.isSome_map] at equal

/-- A stream with its old identity still answers to its old id. -/
theorem named_of_identities
    (same
      : (after.streams handle).map SubscriptionStream.identity
        = (before.streams handle).map SubscriptionStream.identity)
    (named : ∃ stream, before.streams handle = some stream ∧ stream.subscriptionId = id)
    : ∃ stream, after.streams handle = some stream ∧ stream.subscriptionId = id := by
  obtain ⟨old, was, answers⟩ := named
  rw [was, Option.map_some] at same
  obtain ⟨new, is, identity⟩ := Option.map_eq_some_iff.mp same
  exact ⟨new, is, (congrArg StreamIdentity.subscriptionId identity).trans answers⟩

theorem TableInvariant.quiet (table : before.TableInvariant) (quiet : Quiet before after)
    : after.TableInvariant where
  named id handle found :=
    named_of_identities (quiet.streams handle)
      (table.named id handle (by rwa [quiet.activeStreams] at found))
  numbered id known := by
    rw [quiet.counter]
    exact table.numbered id ((quiet.knows_iff id).mp known)
  allocated handle present := by
    rw [quiet.nextStream]
    exact table.allocated handle
      (by rwa [isSome_streams_of_identities (quiet.streams handle)] at present)

theorem Opened.named {topics : List ByteString} {isSubscribe : Bool}
    (opened : Opened before after id topics isSubscribe) (table : before.TableInvariant)
    {other : ByteString} (found : after.activeStreams.lookup other = some handle)
    : ∃ stream, after.streams handle = some stream ∧ stream.subscriptionId = other := by
  rw [opened.activeStreams] at found
  by_cases same : other = id
  · subst other
    rw [AList.lookup_insert, Option.some.injEq] at found
    obtain ⟨stream, is, identity, _⟩ := opened.opened
    exact ⟨stream, found ▸ is, congrArg StreamIdentity.subscriptionId identity⟩
  · rw [AList.lookup_insert_ne same] at found
    obtain ⟨stream, was, answers⟩ := table.named other handle found
    have older : handle ≠ before.nextStream :=
      Nat.ne_of_lt (table.allocated handle (by simp [was]))
    exact ⟨stream, (opened.others handle older).trans was, answers⟩

theorem Opened.allocated {topics : List ByteString} {isSubscribe : Bool}
    (opened : Opened before after id topics isSubscribe) (table : before.TableInvariant)
    (present : (after.streams handle).isSome = true)
    : handle < after.nextStream := by
  rw [opened.nextStream]
  by_cases new : handle = before.nextStream
  · exact new ▸ Nat.lt_succ_self _
  · rw [opened.others handle new] at present
    exact Nat.lt_succ_of_lt (table.allocated handle present)

theorem subscribe_registry (service : SidecarService) (context : CallContext)
    (request : SubscribeRequest)
    : (service.subscribe context request).registry
      = (service.registry.addLocalSubscription context.now
          (subscriptionIdOf service.subscriptionCounter context.uuid) request.clientId
          request.topics request.maxBufferSize).1 := by
  simp [subscribe, generateSubscriptionId, trackStream]

theorem subscribe_counter (service : SidecarService) (context : CallContext)
    (request : SubscribeRequest)
    : (service.subscribe context request).subscriptionCounter
      = service.subscriptionCounter + 1 := by
  simp [subscribe, generateSubscriptionId, trackStream]

theorem unsubscribe_registry (service : SidecarService) (context : CallContext)
    (request : UnsubscribeRequest)
    : (service.unsubscribe context request).1.registry
      = (service.registry.removeLocalSubscription context.now request.subscriptionId
          request.pause service.config.pausedSubscriptionTtl).1 := by
  unfold unsubscribe
  dsimp only
  split
  · rfl
  · exact onStream_registry _ _ _

theorem resumeSubscribe_registry {request : ResumeSubscribeRequest}
    {paused : PausedSubscription}
    (found : service.registry.getPausedSubscription request.subscriptionId = some paused)
    (context : CallContext)
    : (service.resumeSubscribe context request).1.registry
      = (service.registry.resumeSubscription context.now request.subscriptionId).1 := by
  simp [resumeSubscribe, found, trackStream]

theorem resumeSubscribe_counter (service : SidecarService) (context : CallContext)
    (request : ResumeSubscribeRequest)
    : (service.resumeSubscribe context request).1.subscriptionCounter
      = service.subscriptionCounter := by
  unfold resumeSubscribe
  split
  · rfl
  · simp [trackStream]

theorem TableInvariant.step {request : Request} (table : service.TableInvariant)
    (taken : service.step request = some after)
    : after.TableInvariant := by
  cases request with
  | subscribe context request =>
      cases taken
      have opened := service.subscribe_opened context request
      refine ⟨fun _ _ => opened.named table, ?_, fun _ => opened.allocated table⟩
      intro id known
      rw [subscribe_registry] at known
      rw [subscribe_counter]
      rcases PeerRegistry.knows_of_addLocalSubscription known with rfl | older
      · rw [counterOf_subscriptionIdOf]
        exact Nat.lt_succ_self _
      · exact Nat.lt_succ_of_lt (table.numbered id older)
  | unsubscribe context request =>
      cases taken
      have closed := service.unsubscribe_closed context request
      refine ⟨?_, ?_, ?_⟩
      · intro id handle found
        have other : id ≠ request.subscriptionId := by
          intro same
          subst same
          simp [closed.gone] at found
        rw [closed.others id other] at found
        exact named_of_identities (closed.streams handle) (table.named id handle found)
      · intro id known
        rw [unsubscribe_registry] at known
        rw [closed.counter]
        exact table.numbered id (PeerRegistry.knows_of_removeLocalSubscription known)
      · intro handle present
        rw [closed.nextStream]
        rw [isSome_streams_of_identities (closed.streams handle)] at present
        exact table.allocated handle present
  | resumeSubscribe context request =>
      cases taken
      cases found : service.registry.getPausedSubscription request.subscriptionId with
      | none => rwa [resumeSubscribe_notFound found]
      | some paused =>
          have opened := resumeSubscribe_opened found context
          refine ⟨fun _ _ => opened.named table, ?_, fun _ => opened.allocated table⟩
          intro id known
          rw [resumeSubscribe_registry found] at known
          rw [resumeSubscribe_counter]
          exact table.numbered id (PeerRegistry.knows_of_resumeSubscription known)
  | publish | deliver | writeDone | cancel => exact table.quiet (quiet_of_step rfl taken)

theorem tableInvariant_of_exec {config : ServiceConfig} {registry : PeerRegistry}
    (fresh : ∀ id, ¬registry.Knows id) {messageBufferSize maxBufferMemory : Nat}
    {requests : List Request}
    (run
      : exec SidecarService.step (create config registry messageBufferSize maxBufferMemory)
          requests
        = some service)
    : service.TableInvariant :=
  exec_always TableInvariant
    (tableInvariant_create config fresh messageBufferSize maxBufferMemory)
    (fun table taken => table.step taken) run

/-- The settings are fixed when the service is created. -/
theorem step_config {request : Request} (taken : service.step request = some after)
    : after.config = service.config := by
  cases request with
  | subscribe context request =>
      cases taken
      exact (service.subscribe_opened context request).config
  | unsubscribe context request =>
      cases taken
      exact (service.unsubscribe_closed context request).config
  | resumeSubscribe context request =>
      cases taken
      cases found : service.registry.getPausedSubscription request.subscriptionId with
      | none => rw [resumeSubscribe_notFound found]
      | some paused => exact (resumeSubscribe_opened found context).config
  | publish | deliver | writeDone | cancel => exact (quiet_of_step rfl taken).config

end NexusD.Services.SidecarService
