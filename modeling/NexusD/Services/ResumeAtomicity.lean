import NexusD.Services.ConcurrentCalls

/-! What a call of `ResumeSubscribe` leaves behind.
The call looks for the paused record, enters its stream in the table and only then asks the
registry to resume, which has its own look at the record and at its expiry time. By then the
record may be expired, or another call may have taken it.
-/

namespace NexusD.Services

open NexusD.Core NexusD.Library

namespace SidecarService

/-- What only an `Unsubscribe` of `id` undoes. -/
structure Lasting (id : ByteString) (before after : SidecarService) : Prop where
  unpaused
    : before.registry.pausedSubscriptions.lookup id = none
      → after.registry.pausedSubscriptions.lookup id = none
  registered
    : (before.registry.localSubscriptions.lookup id).isSome = true
      → (after.registry.localSubscriptions.lookup id).isSome = true
  listed
    : (before.activeStreams.lookup id).isSome = true
      → (after.activeStreams.lookup id).isSome = true

theorem isSome_insert {Value : Type} {map : AList (fun _ : ByteString => Value)}
    {id : ByteString} (present : (map.lookup id).isSome = true) (key : ByteString)
    (value : Value)
    : ((map.insert key value).lookup id).isSome = true := by
  by_cases same : id = key
  · subst id
    rw [AList.lookup_insert, Option.isSome_some]
  · rwa [AList.lookup_insert_ne same]

theorem lookup_erase_none {Value : Type} {map : AList (fun _ : ByteString => Value)}
    {id : ByteString} (missing : map.lookup id = none) (key : ByteString)
    : (map.erase key).lookup id = none := by
  by_cases same : id = key
  · subst id
    exact AList.lookup_erase _ _
  · rwa [AList.lookup_erase_ne same]

namespace Lasting

variable {id : ByteString}

theorem refl (service : SidecarService) : Lasting id service service :=
  ⟨fun h => h, fun h => h, fun h => h⟩

theorem trans {first second third : SidecarService} (earlier : Lasting id first second)
    (later : Lasting id second third)
    : Lasting id first third where
  unpaused missing := later.unpaused (earlier.unpaused missing)
  registered present := later.registered (earlier.registered present)
  listed present := later.listed (earlier.listed present)

theorem of_quiet {before after : SidecarService} (quiet : Quiet before after)
    : Lasting id before after where
  unpaused missing := by rwa [quiet.paused]
  registered present := by
    have same := congrArg Option.isSome (quiet.locals id)
    rw [Option.isSome_map, Option.isSome_map] at same
    rwa [same]
  listed present := by rwa [quiet.activeStreams]

theorem trackStream (service : SidecarService) (key : ByteString) (topics : List ByteString)
    : Lasting id service (service.trackStream key topics).1 :=
  ⟨fun h => h, fun h => h, fun present => isSome_insert present _ _⟩

theorem onStream (service : SidecarService) (handle : Nat)
    (method : SubscriptionStream → SubscriptionStream)
    : Lasting id service (service.onStream handle method) := by
  unfold SidecarService.onStream
  split
  · exact .refl service
  · exact ⟨fun h => h, fun h => h, fun h => h⟩

theorem resumeSubscription (service : SidecarService) (now : TimePoint) (key : ByteString)
    : Lasting id service
        { service with registry := (service.registry.resumeSubscription now key).1 } := by
  refine ⟨?_, ?_, fun h => h⟩
  · intro missing
    unfold PeerRegistry.resumeSubscription
    split
    · exact missing
    · split <;> exact lookup_erase_none missing _
  · intro present
    unfold PeerRegistry.resumeSubscription
    split
    · exact present
    · split
      · exact present
      · exact isSome_insert present _ _

theorem subscribe (service : SidecarService) (context : CallContext)
    (request : SubscribeRequest)
    : Lasting id service (service.subscribe context request) := by
  refine ⟨?_, ?_, ?_⟩
  · intro missing
    rw [subscribe_registry]
    unfold PeerRegistry.addLocalSubscription
    split <;> exact missing
  · intro present
    rw [subscribe_registry]
    unfold PeerRegistry.addLocalSubscription
    split
    · exact present
    · exact isSome_insert present _ _
  · intro present
    rw [(service.subscribe_opened context request).activeStreams]
    exact isSome_insert present _ _

theorem unsubscribe (service : SidecarService) (context : CallContext)
    {request : UnsubscribeRequest} (other : id ≠ request.subscriptionId)
    : Lasting id service (service.unsubscribe context request).1 := by
  refine ⟨?_, ?_, ?_⟩
  · intro missing
    rw [unsubscribe_registry]
    unfold PeerRegistry.removeLocalSubscription
    split
    · exact missing
    · dsimp only
      split
      · rwa [AList.lookup_insert_ne other]
      · exact missing
  · intro present
    rw [unsubscribe_registry]
    unfold PeerRegistry.removeLocalSubscription
    split
    · exact present
    · rwa [AList.lookup_erase_ne other]
  · intro present
    rwa [(service.unsubscribe_closed context request).others id other]

theorem resumeSubscribe (service : SidecarService) (context : CallContext)
    (request : ResumeSubscribeRequest)
    : Lasting id service (service.resumeSubscribe context request).1 := by
  cases found : service.registry.getPausedSubscription request.subscriptionId with
  | none =>
      rw [resumeSubscribe_notFound found]
      exact .refl service
  | some paused =>
      have resumed : Lasting id service _ :=
        .resumeSubscription service context.now request.subscriptionId
      have opened := resumeSubscribe_opened found context
      rw [← resumeSubscribe_registry found] at resumed
      refine ⟨resumed.unpaused, resumed.registered, ?_⟩
      intro present
      rw [opened.activeStreams]
      exact isSome_insert present _ _

end Lasting

def Request.unsubscribes (id : ByteString) : Request → Prop
  | .unsubscribe _ request => request.subscriptionId = id
  | _ => False

theorem lasting_of_step {service after : SidecarService} {request : Request}
    {id : ByteString} (keeps : ¬request.unsubscribes id)
    (taken : service.step request = some after)
    : Lasting id service after := by
  cases request with
  | subscribe context request =>
      cases taken
      exact .subscribe service context request
  | unsubscribe context request =>
      cases taken
      exact .unsubscribe service context (fun same => keeps same.symm)
  | resumeSubscribe context request =>
      cases taken
      exact .resumeSubscribe service context request
  | publish | deliver | writeDone | cancel => exact .of_quiet (quiet_of_step rfl taken)

end SidecarService

def ResumePc.ended : ResumePc → Prop
  | .idle | .finished _ _ => True
  | .found _ _ | .tracked _ _ _ | .attached _ _ _ | .recovering _ _ _ _ _ => False

namespace ServiceThreads

def Action.unsubscribes (id : ByteString) : Action → Prop
  | .handle request => request.unsubscribes id
  | _ => False

variable {service next : SidecarService} {context : CallContext} {was pc : ResumePc}
  {state after start final : ServiceThreads} {action : Action}
  {request : ResumeSubscribeRequest} {thread : Nat} {actions : List Action}

theorem ResumeMove.lasting (moved : ResumeMove service context was next pc) (id : ByteString)
    : SidecarService.Lasting id service next := by
  cases moved with
  | track => exact .trackStream service _ _
  | attach | finish => exact .onStream service _ _
  | take => exact .resumeSubscription service _ _
  | recover => exact .refl service

theorem lasting_of_step {id : ByteString} (keeps : ¬action.unsubscribes id)
    (taken : state.step action = some after)
    : SidecarService.Lasting id state.service after.service := by
  cases move_of_step taken with
  | call => exact .of_quiet (state.service.bufferEnvelope_quiet _ _)
  | deliver stands moved => exact .of_quiet moved.quiet.1
  | refuse | find => exact .refl state.service
  | resume stands moved => exact moved.lasting id
  | retain => exact .of_quiet (state.service.retain_quiet _ _)
  | handle apart moved => exact SidecarService.lasting_of_step keeps moved

/-- The status the call ends with at its lookup, if it ends there. -/
def resumeAnswer (state : ServiceThreads) (request : ResumeSubscribeRequest)
    : Option SidecarService.ResumeError :=
  match state.service.registry.getPausedSubscription request.subscriptionId with
  | none => some (.notFound "No paused subscription found")
  | some _ => none

/-- The handler run alone answers the same. -/
theorem resumeSubscribe_error_iff (state : ServiceThreads) (context : CallContext)
    (request : ResumeSubscribeRequest) (error : SidecarService.ResumeError)
    : (state.service.resumeSubscribe context request).2 = .error error
      ↔ state.resumeAnswer request = some error := by
  unfold SidecarService.resumeSubscribe resumeAnswer
  cases state.service.registry.getPausedSubscription request.subscriptionId with
  | none => simp
  | some paused => simp

/-- The step belongs to the thread's call of `ResumeSubscribe`. -/
def Action.resumesOn (thread : Nat) : Action → Prop
  | .resumeCall caller _ => caller = thread
  | .resume caller _ => caller = thread
  | _ => False

def Action.callsOn (thread : Nat) : Action → Prop
  | .resumeCall caller _ => caller = thread
  | _ => False

/-- The paused record is taken away and an active one is there. -/
def Moved (id : ByteString) (before after : PeerRegistry) : Prop :=
  (before.pausedSubscriptions.lookup id).isSome = true
  ∧ after.pausedSubscriptions.lookup id = none
  ∧ (after.localSubscriptions.lookup id).isSome = true

/-- The paused record is there and not expired, or expired while the id is active anyway. -/
def InTime (id : ByteString) (now : TimePoint) (registry : PeerRegistry) : Prop :=
  ∃ paused,
    registry.pausedSubscriptions.lookup id = some paused
    ∧ (now ≤ paused.expiresAt ∨ (registry.localSubscriptions.lookup id).isSome = true)

theorem not_moved_self (id : ByteString) (registry : PeerRegistry)
    : ¬Moved id registry registry := by
  intro moved
  obtain ⟨present, missing, _⟩ := moved
  simp [missing] at present

theorem moved_resumeSubscription_iff {id : ByteString} {now : TimePoint}
    {registry : PeerRegistry}
    : Moved id registry (registry.resumeSubscription now id).1 ↔ InTime id now registry := by
  unfold Moved InTime PeerRegistry.resumeSubscription
  cases found : registry.pausedSubscriptions.lookup id with
  | none => simp
  | some paused =>
      by_cases late : paused.expiresAt < now
      · simp [late, AList.lookup_erase]
      · simp [late, AList.lookup_erase, AList.lookup_insert, Int.not_lt.mp late]

/-- A step of the call moves the subscription, and at the end it is active in both tables. -/
structure Moves (thread : Nat) (id : ByteString) (start : ServiceThreads)
    (actions : List Action) (final : ServiceThreads)
    : Prop where
  moved
    : ∃ context before after,
        Takes step start actions (.resume thread context) before after
        ∧ Moved id before.service.registry after.service.registry
  returned : ∃ handle recovery, final.resumes thread = .finished handle recovery
  unpaused : final.service.registry.pausedSubscriptions.lookup id = none
  registered : (final.service.registry.localSubscriptions.lookup id).isSome = true
  listed : (final.service.activeStreams.lookup id).isSome = true

/-- The call ends with NOT_FOUND and none of its steps changes the tables. -/
structure Refuses (thread : Nat) (request : ResumeSubscribeRequest) (start : ServiceThreads)
    (actions : List Action)
    : Prop where
  answer : start.resumeAnswer request = some (.notFound "No paused subscription found")
  unchanged
    : ∀ action before after,
        action.resumesOn thread
        → Takes step start actions action before after
        → after.service.activeStreams = before.service.activeStreams
          ∧ after.service.registry.localSubscriptions
            = before.service.registry.localSubscriptions

/-- The outcome of the call that the first of the actions starts. -/
def AllOrNothing (thread : Nat) (request : ResumeSubscribeRequest) (start : ServiceThreads)
    (actions : List Action) (final : ServiceThreads)
    : Prop :=
  Moves thread request.subscriptionId start actions final
  ∨ Refuses thread request start actions

/-- When the call comes to `resumeSubscription`, it is in time for the record. -/
def ResumesInTime (thread : Nat) (request : ResumeSubscribeRequest) (start : ServiceThreads)
    (actions : List Action)
    : Prop :=
  ∃ context before after,
    Takes step start actions (.resume thread context) before after
    ∧ (∃ handle topics, before.resumes thread = .attached request handle topics)
    ∧ InTime request.subscriptionId context.now before.service.registry

/-- Where a call that found its record stands, and that its stream is in the table. -/
def Underway (request : ResumeSubscribeRequest) (service : SidecarService) : ResumePc → Prop
  | .idle => False
  | .found asked _ => asked = request
  | .tracked asked _ _ | .attached asked _ _ | .recovering asked _ _ _ _ =>
      asked = request ∧ (service.activeStreams.lookup request.subscriptionId).isSome = true
  | .finished _ _ => (service.activeStreams.lookup request.subscriptionId).isSome = true

theorem Underway.lasting {before after : SidecarService}
    (underway : Underway request before pc)
    (lasting : SidecarService.Lasting request.subscriptionId before after)
    : Underway request after pc := by
  cases pc with
  | idle => exact underway
  | found asked paused => exact underway
  | tracked | attached | recovering => exact ⟨underway.1, lasting.listed underway.2⟩
  | finished handle recovery => exact lasting.listed underway

theorem Underway.finished (underway : Underway request service pc) (ended : pc.ended)
    : ∃ handle recovery, pc = .finished handle recovery := by
  cases pc with
  | idle => cases underway
  | found | tracked | attached | recovering => cases ended
  | finished handle recovery => exact ⟨handle, recovery, rfl⟩

theorem Underway.resumeMove (underway : Underway request service was)
    (moved : ResumeMove service context was next pc)
    : Underway request next pc := by
  have lasting := moved.lasting request.subscriptionId
  cases moved with
  | track =>
      obtain rfl := underway
      refine ⟨rfl, ?_⟩
      simp [SidecarService.trackStream, AList.lookup_insert]
  | attach | take => exact ⟨underway.1, lasting.listed underway.2⟩
  | recover => exact underway
  | finish => exact lasting.listed underway.2

/-- Other calls leave the thread's call where it is. -/
theorem resumes_of_step (other : ¬action.resumesOn thread)
    (taken : state.step action = some after)
    : after.resumes thread = state.resumes thread := by
  cases move_of_step taken with
  | call | deliver | refuse | retain | handle => rfl
  | find | resume => exact Function.update_of_ne (fun same => other same.symm) _ _

theorem underway_step (underway : Underway request state.service (state.resumes thread))
    (once : ¬action.callsOn thread) (keeps : ¬action.unsubscribes request.subscriptionId)
    (taken : state.step action = some after)
    : Underway request after.service (after.resumes thread) := by
  by_cases own : action.resumesOn thread
  · cases action with
    | resume caller context =>
        obtain rfl : caller = thread := own
        cases move_of_step taken with
        | resume stands moved =>
            rw [stands] at underway
            simpa using underway.resumeMove moved
    | resumeCall caller asked => exact absurd own once
    | call | deliver | retain | handle => cases own
  · rw [resumes_of_step own taken]
    exact underway.lasting (lasting_of_step keeps taken)

theorem lasting_of_exec {id : ByteString} (run : exec step start actions = some final)
    (keeps : ∀ action ∈ actions, ¬action.unsubscribes id)
    : SidecarService.Lasting id start.service final.service := by
  refine exec_invariant (fun _ action => ¬action.unsubscribes id)
    (fun state => SidecarService.Lasting id start.service state.service) (.refl _) ?_ run ?_
  · intro state action after lasting keeps taken
    exact lasting.trans (lasting_of_step keeps taken)
  · intro earlier action later state split _
    exact keeps action (by simp [split])

theorem underway_of_exec (run : exec step start actions = some final)
    (underway : Underway request start.service (start.resumes thread))
    (once : ∀ action ∈ actions, ¬action.callsOn thread)
    (keeps : ∀ action ∈ actions, ¬action.unsubscribes request.subscriptionId)
    : Underway request final.service (final.resumes thread) := by
  refine exec_invariant
    (fun _ action =>
      ¬action.callsOn thread ∧ ¬action.unsubscribes request.subscriptionId)
    (fun state => Underway request state.service (state.resumes thread)) underway
    (fun underway met taken => underway_step underway met.1 met.2 taken) run ?_
  intro earlier action later state split _
  exact ⟨once action (by simp [split]), keeps action (by simp [split])⟩

/-- A call that ended at its lookup takes no more steps. -/
theorem idle_of_exec (run : exec step start actions = some final)
    (idle : start.resumes thread = .idle) (once : ∀ action ∈ actions, ¬action.callsOn thread)
    : final.resumes thread = .idle := by
  refine exec_invariant (fun _ action => ¬action.callsOn thread)
    (fun state => state.resumes thread = .idle) idle ?_ run ?_
  · intro state action after idle once taken
    by_cases own : action.resumesOn thread
    · cases action with
      | resume caller context =>
          obtain rfl : caller = thread := own
          simp [step, idle, resumeStep] at taken
      | resumeCall caller asked => exact absurd own once
      | call | deliver | retain | handle => cases own
    · exact (resumes_of_step own taken).trans idle
  · intro earlier action later state split _
    exact once action (by simp [split])

/-- Of the call's steps only `resumeSubscription` touches the registry. -/
theorem ResumeMove.registry (moved : ResumeMove service context was next pc)
    : (∃ request handle topics,
        was = .attached request handle topics
        ∧ next.registry
          = (service.registry.resumeSubscription context.now request.subscriptionId).1)
      ∨ (∀ request handle topics, was ≠ .attached request handle topics)
        ∧ next.registry = service.registry := by
  cases moved with
  | take => exact .inl ⟨_, _, _, rfl, rfl⟩
  | track | recover => exact .inr ⟨fun _ _ _ => by simp, rfl⟩
  | attach | finish =>
      exact .inr ⟨fun _ _ _ => by simp, SidecarService.onStream_registry _ _ _⟩

theorem moved_iff_inTime {before : ServiceThreads}
    (underway : Underway request before.service (before.resumes thread))
    (taken : before.step (.resume thread context) = some after)
    : Moved request.subscriptionId before.service.registry after.service.registry
      ↔ (∃ handle topics, before.resumes thread = .attached request handle topics)
        ∧ InTime request.subscriptionId context.now before.service.registry := by
  cases move_of_step taken with
  | resume stands moved =>
      rw [stands] at underway ⊢
      dsimp only
      rcases moved.registry with ⟨asked, handle, topics, rfl, resumed⟩ | ⟨off, same⟩
      · obtain rfl : asked = request := underway.1
        rw [resumed, moved_resumeSubscription_iff]
        exact ⟨fun inTime => ⟨⟨handle, topics, rfl⟩, inTime⟩, And.right⟩
      · rw [same]
        refine iff_of_false (not_moved_self _ _) ?_
        intro both
        obtain ⟨⟨handle, topics, here⟩, _⟩ := both
        exact off request handle topics here

-----------------------------------------------------------------------------------------
-- The outcome
-----------------------------------------------------------------------------------------

/-- A call that finds no record refuses. -/
theorem refuses_of_missing {next : ServiceThreads} {later : List Action}
    (called : start.step (.resumeCall thread request) = some next)
    (missing : start.service.registry.getPausedSubscription request.subscriptionId = none)
    (once : ∀ action ∈ later, ¬action.callsOn thread)
    : Refuses thread request start (.resumeCall thread request :: later) := by
  have stays : next = start ∧ start.resumes thread = .idle := by
    simp only [step, missing] at called
    split at called
    · rename_i idle
      cases called
      exact ⟨rfl, idle⟩
    · cases called
  obtain ⟨rfl, idle⟩ := stays
  refine ⟨by simp [resumeAnswer, missing], ?_⟩
  intro action before after own takes
  rcases (takes_cons_iff called).mp takes
    with ⟨rfl, rfl, rfl⟩ | ⟨earlier, rest, split, reached, taken⟩
  · exact ⟨rfl, rfl⟩
  · have early : ∀ action ∈ earlier, ¬action.callsOn thread :=
      fun action member => once action (by simp [split, member])
    have here := idle_of_exec reached idle early
    cases action with
    | resume caller context =>
        obtain rfl : caller = thread := own
        simp [step, here, resumeStep] at taken
    | resumeCall caller asked =>
        exact absurd own (once (.resumeCall caller asked) (by simp [split]))
    | call | deliver | retain | handle => cases own

theorem underway_of_found {next : ServiceThreads} {paused : PausedSubscription}
    (called : start.step (.resumeCall thread request) = some next)
    (found
      : start.service.registry.getPausedSubscription request.subscriptionId = some paused)
    : Underway request next.service (next.resumes thread) := by
  simp only [step, found] at called
  split at called
  · cases called
    simp [Underway]
  · cases called

/-- A call that found its record moves the subscription exactly if it is in time. -/
theorem moves_iff_resumesInTime {next : ServiceThreads} {later : List Action}
    (called : start.step (.resumeCall thread request) = some next)
    (run : exec step next later = some final)
    (underway : Underway request next.service (next.resumes thread))
    (once : ∀ action ∈ later, ¬action.callsOn thread)
    (keeps : ∀ action ∈ later, ¬action.unsubscribes request.subscriptionId)
    (ended : (final.resumes thread).ended)
    : Moves thread request.subscriptionId start (.resumeCall thread request :: later) final
      ↔ ResumesInTime thread request start (.resumeCall thread request :: later) := by
  -- the call is underway at each of its steps
  have along {context : CallContext} {before after : ServiceThreads}
      (takes : Takes step next later (.resume thread context) before after)
      : Underway request before.service (before.resumes thread) := by
    obtain ⟨earlier, rest, rfl, reached, _⟩ := takes
    exact underway_of_exec reached underway
      (fun action member => once action (by simp [member]))
      (fun action member => keeps action (by simp [member]))
  constructor
  · intro moves
    obtain ⟨context, before, after, takes, moved⟩ := moves.moved
    rcases (takes_cons_iff called).mp takes with ⟨impossible, _⟩ | inside
    · cases impossible
    · have taken : before.step (.resume thread context) = some after := by
        obtain ⟨_, _, _, _, taken⟩ := inside
        exact taken
      exact ⟨context, before, after, takes,
        (moved_iff_inTime (along inside) taken).mp moved⟩
  · intro resumes
    obtain ⟨context, before, after, takes, inTime⟩ := resumes
    rcases (takes_cons_iff called).mp takes with ⟨impossible, _⟩ | inside
    · cases impossible
    · have underwayThen := along inside
      obtain ⟨earlier, rest, rfl, reached, taken⟩ := inside
      have moved := (moved_iff_inTime underwayThen taken).mpr inTime
      have onwards : exec step after rest = some final := by
        rwa [exec_append, reached, Option.bind_some, exec_cons, taken, Option.bind_some] at run
      have lasting :=
        lasting_of_exec onwards (fun action member => keeps action (by simp [member]))
      have atEnd := underway_of_exec run underway once keeps
      obtain ⟨handle, recovery, finished⟩ := atEnd.finished ended
      rw [finished] at atEnd
      exact ⟨⟨context, before, after, takes, moved⟩, ⟨handle, recovery, finished⟩,
        lasting.unpaused moved.2.1, lasting.registered moved.2.2, atEnd⟩

/-- A call of `ResumeSubscribe` is all or nothing exactly if it finds no paused record, or is
still in time for the record when it asks the registry to resume.
-/
theorem allOrNothing_iff_inTime {start final : ServiceThreads} {thread : Nat}
    {request : ResumeSubscribeRequest} {later : List Action}
    (run : exec step start (.resumeCall thread request :: later) = some final)
    (once : ∀ action ∈ later, ¬action.callsOn thread)
    (keeps : ∀ action ∈ later, ¬action.unsubscribes request.subscriptionId)
    (ended : (final.resumes thread).ended)
    : AllOrNothing thread request start (.resumeCall thread request :: later) final
      ↔ start.service.registry.pausedSubscriptions.lookup request.subscriptionId = none
        ∨ ResumesInTime thread request start (.resumeCall thread request :: later) := by
  rw [exec_cons] at run
  obtain ⟨next, called, run⟩ := Option.bind_eq_some_iff.mp run
  cases found : start.service.registry.pausedSubscriptions.lookup request.subscriptionId with
  | none => exact iff_of_true (.inr (refuses_of_missing called found once)) (.inl rfl)
  | some paused =>
      have answers : ¬Refuses thread request start (.resumeCall thread request :: later) := by
        intro refuses
        have answer := refuses.answer
        simp [resumeAnswer, PeerRegistry.getPausedSubscription, found] at answer
      have moves :=
        moves_iff_resumesInTime called run (underway_of_found called found) once keeps ended
      unfold AllOrNothing
      simp only [answers, or_false, moves, reduceCtorEq, false_or]

/-- A daemon whose only subscription was paused at time 0. -/
def pausedDaemon : ServiceThreads where
  service :=
    ((SidecarService.smallDaemon.subscribe {} { topics := [[97]] }).unsubscribe {}
      { subscriptionId := SidecarService.subscriptionIdOf 0 [], pause := true }).1

/-- The request that resumes it, and the steps of the call at one time. -/
def pausedRequest : ResumeSubscribeRequest where
  subscriptionId := SidecarService.subscriptionIdOf 0 []

def resumeStepsAt (now : TimePoint) : List Action :=
  List.replicate 4 (.resume 0 { now })

/-- The call is in time up to the last moment. -/
theorem allOrNothing_at_expiry
    : ∃ final,
        exec step pausedDaemon (.resumeCall 0 pausedRequest :: resumeStepsAt 300000000000)
          = some final
        ∧ AllOrNothing 0 pausedRequest pausedDaemon
            (.resumeCall 0 pausedRequest :: resumeStepsAt 300000000000) final := by
  refine ⟨_, rfl, (allOrNothing_iff_inTime ?_ ?_ ?_ ?_).mpr (.inr ?_)⟩
  · rfl
  · simp [resumeStepsAt, Action.callsOn]
  · simp [resumeStepsAt, Action.unsubscribes]
  · exact trivial
  · refine ⟨{ now := 300000000000 }, _, _,
      ⟨.resumeCall 0 pausedRequest :: List.replicate 2 (.resume 0 { now := 300000000000 }),
        [.resume 0 { now := 300000000000 }], rfl, rfl, rfl⟩,
      ⟨_, _, rfl⟩, _, rfl, .inl ?_⟩
    decide +kernel

/-- One tick later the record is expired: the stream is in the table, nothing is active in
the registry, the record is gone, and the client is not told.
-/
theorem expired_resume_leaves_stream
    : ∃ final,
        exec step pausedDaemon (.resumeCall 0 pausedRequest :: resumeStepsAt 300000000001)
          = some final
        ∧ final.service.activeStreams.lookup pausedRequest.subscriptionId = some 1
        ∧ final.service.registry.localSubscriptions.lookup pausedRequest.subscriptionId = none
        ∧ pausedDaemon.resumeAnswer pausedRequest = none
        ∧ ¬AllOrNothing 0 pausedRequest pausedDaemon
            (.resumeCall 0 pausedRequest :: resumeStepsAt 300000000001) final := by
  refine ⟨_, rfl, by decide +kernel, by decide +kernel, by decide +kernel, ?_⟩
  intro outcome
  rcases outcome with moves | refuses
  · have registered := moves.registered
    revert registered
    decide +kernel
  · have answer := refuses.answer
    revert answer
    decide +kernel

end ServiceThreads

end NexusD.Services
