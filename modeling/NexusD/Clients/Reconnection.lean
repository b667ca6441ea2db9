import NexusD.Clients.SubscribeLoop
import NexusD.Services.ResumeAtomicity

/-! A client's `subscribe` loop and the daemon it talks to.
After a lost connection the loop asks to resume its subscription. The daemon keeps a record
to resume from only for a subscription that was unsubscribed with `pause`, which the loop
never does.
-/

namespace NexusD.Clients

open NexusD.Core NexusD.Library NexusD.Services

/-- One loop and its daemon, with the ids of the subscriptions the daemon has opened for the
loop, the latest first.
-/
structure Session where
  daemon : ServiceThreads
  loop : SubscribeLoop := {}
  opened : List ByteString := []

inductive SessionAction where
  /-- the loop sends its request -/
  | call (context : CallContext)
  /-- an event arrives on the stream -/
  | receive (event : MessageEvent)
  | streamEnd
  /-- the stream fails -/
  | fail (code : StatusCode) (details : String)
  /-- a round of `_reconnect` -/
  | attempt (connected : Bool)
  /-- a step of the daemon, `OnCancel` of the loop's stream and other clients included -/
  | daemon (action : ServiceThreads.Action)

namespace Session

/-- A subscription info names the stream's own subscription. -/
def sends (session : Session) : MessageEvent → Bool
  | .subscriptionInfo info => session.opened.head? == some info.subscriptionId
  | _ => true

/-- The request at the head of the loop meets the daemon. -/
def call (session : Session) (arguments : SubscribeArguments) (context : CallContext)
    : Option Session :=
  match session.loop.nextRequest arguments with
  | .subscribe request =>
      (session.daemon.step (.handle (.subscribe context request))).map (fun daemon =>
        {
          daemon
          loop := { session.loop with phase := .reading }
          opened :=
            SidecarService.subscriptionIdOf session.daemon.service.subscriptionCounter
              context.uuid
            :: session.opened
        })
  | .resume request =>
      match session.daemon.resumeAnswer request with
      | some (.notFound message) =>
          some { session with
            loop :=
              session.loop.onRpcError arguments.reconnectConfig .notFound message }
      | none =>
          (session.daemon.step (.handle (.resumeSubscribe context request))).map
            (fun daemon =>
              {
                daemon
                loop := { session.loop with phase := .reading }
                opened := request.subscriptionId :: session.opened
              })

def step (arguments : SubscribeArguments) (session : Session)
    : SessionAction → Option Session
  | .call context =>
      if session.loop.phase = .calling then session.call arguments context else none
  | .receive event =>
      if session.loop.phase = .reading ∧ session.sends event = true then
        some { session with loop := session.loop.onEvent event }
      else none
  | .streamEnd =>
      if session.loop.phase = .reading then
        some { session with loop := session.loop.leave }
      else none
  | .fail code details =>
      if session.loop.phase = .reading then
        some { session with
          loop := session.loop.onRpcError arguments.reconnectConfig code details }
      else none
  | .attempt connected =>
      match session.loop.phase with
      | .reconnecting attempt details =>
          some { session with
            loop :=
              session.loop.reconnectRound arguments.reconnectConfig attempt details
                connected }
      | _ => none
  | .daemon action => (session.daemon.step action).map (fun daemon => { session with daemon })

/-- A daemon that has just started, and a loop that has not called it yet. -/
def start (config : ServiceConfig) (localNodeId : ByteString)
    (messageBufferSize maxBufferMemory : Nat)
    : Session where
  daemon :=
    { service := .create config { localNodeId } messageBufferSize maxBufferMemory }

/-- Nobody unsubscribes a subscription of the loop. -/
def KeepsSubscribed (session : Session) : SessionAction → Prop
  | .daemon action => ∀ id ∈ session.opened, ¬action.unsubscribes id
  | _ => True

/-- The subscriptions of the loop are not paused, and the id it holds is one of theirs. -/
structure Unpaused (session : Session) : Prop where
  table : session.daemon.service.TableInvariant
  unpaused
    : ∀ id ∈ session.opened,
        session.daemon.service.registry.pausedSubscriptions.lookup id = none
  held : ∀ id, session.loop.subscriptionId = some id → id ∈ session.opened

theorem unpaused_start (config : ServiceConfig) (localNodeId : ByteString)
    (messageBufferSize maxBufferMemory : Nat)
    : (start config localNodeId messageBufferSize maxBufferMemory).Unpaused where
  table :=
    SidecarService.tableInvariant_create config (PeerRegistry.not_knows_fresh localNodeId)
      messageBufferSize maxBufferMemory
  unpaused id member := by cases member
  held id held := by cases held

/-- A daemon step that pauses none of the loop's subscriptions. -/
theorem Unpaused.daemonStep {session : Session} (unpaused : session.Unpaused)
    {action : ServiceThreads.Action} {daemon : ServiceThreads}
    (taken : session.daemon.step action = some daemon)
    (keeps : ∀ id ∈ session.opened, ¬action.unsubscribes id)
    : Unpaused { session with daemon } where
  table := ServiceThreads.tableInvariant_step unpaused.table taken
  unpaused id member :=
    (ServiceThreads.lasting_of_step (keeps id member) taken).unpaused
      (unpaused.unpaused id member)
  held := unpaused.held

/-- What the loop does on its own, as long as it keeps the id it has. -/
theorem Unpaused.loopStep {session : Session} (unpaused : session.Unpaused)
    {loop : SubscribeLoop} (same : loop.subscriptionId = session.loop.subscriptionId)
    : Unpaused { session with loop } where
  table := unpaused.table
  unpaused := unpaused.unpaused
  held id held := unpaused.held id (same ▸ held)

theorem subscriptionId_onRpcError (loop : SubscribeLoop) (config : ReconnectConfig)
    (code : StatusCode) (details : String)
    : (loop.onRpcError config code details).subscriptionId = loop.subscriptionId := by
  unfold SubscribeLoop.onRpcError
  cases code with
  | cancelled | notFound | other => rfl
  | unavailable => dsimp only; split <;> rfl

theorem subscriptionId_reconnectRound (loop : SubscribeLoop) (config : ReconnectConfig)
    (attempt : Nat) (details : String) (connected : Bool)
    : (loop.reconnectRound config attempt details connected).subscriptionId
      = loop.subscriptionId := by
  unfold SubscribeLoop.reconnectRound
  split
  · rfl
  · split <;> rfl

/-- A new subscription has no paused record, and opening a stream does not make one. -/
theorem Unpaused.opens {session : Session} (unpaused : session.Unpaused)
    {request : SidecarService.Request} {daemon : ServiceThreads}
    (opens : session.daemon.step (.handle request) = some daemon)
    (keeps : ∀ id, ¬request.unsubscribes id) {id : ByteString}
    (new : session.daemon.service.registry.pausedSubscriptions.lookup id = none)
    (phase : LoopPhase)
    : Unpaused
        { daemon, loop := { session.loop with phase }, opened := id :: session.opened } where
  table := ServiceThreads.tableInvariant_step unpaused.table opens
  unpaused other member := by
    have spares : ¬(ServiceThreads.Action.handle request).unsubscribes other := keeps other
    have lasting := ServiceThreads.lasting_of_step spares opens
    rcases List.mem_cons.mp member with rfl | older
    · exact lasting.unpaused new
    · exact lasting.unpaused (unpaused.unpaused other older)
  held other held := List.mem_cons_of_mem _ (unpaused.held other held)

/-- The record the loop asks for does not exist. -/
theorem Unpaused.resumeAnswer {session : Session} (unpaused : session.Unpaused)
    {arguments : SubscribeArguments} {request : ResumeSubscribeRequest}
    (asks : session.loop.nextRequest arguments = .resume request)
    : session.daemon.resumeAnswer request
      = some (.notFound "No paused subscription found") := by
  have missing :=
    unpaused.unpaused _ (unpaused.held _ (SubscribeLoop.nextRequest_resume asks))
  simp [ServiceThreads.resumeAnswer, PeerRegistry.getPausedSubscription, missing]

theorem Unpaused.call {session after : Session} (unpaused : session.Unpaused)
    {arguments : SubscribeArguments} {context : CallContext}
    (taken : session.call arguments context = some after)
    : after.Unpaused := by
  unfold Session.call at taken
  split at taken
  · obtain ⟨daemon, opens, rfl⟩ := Option.map_eq_some_iff.mp taken
    have unknown := unpaused.table.fresh context.uuid
    refine unpaused.opens opens (fun _ no => no) ?_ .reading
    by_contra present
    exact unknown (.inr (Option.isSome_iff_ne_none.mpr present))
  · rename_i request asks
    simp only [unpaused.resumeAnswer asks, Option.some.injEq] at taken
    exact taken ▸ unpaused.loopStep (subscriptionId_onRpcError _ _ _ _)

theorem Unpaused.receive {session : Session} (unpaused : session.Unpaused)
    {event : MessageEvent} (sent : session.sends event = true)
    : Unpaused { session with loop := session.loop.onEvent event } where
  table := unpaused.table
  unpaused := unpaused.unpaused
  held id held := by
    rw [SubscribeLoop.subscriptionId_onEvent] at held
    cases event with
    | subscriptionInfo info =>
        cases held
        exact List.mem_of_mem_head? (beq_iff_eq.mp sent)
    | notSet | message | retainedMessage | replayMessage | replayComplete =>
        exact unpaused.held id held

theorem Unpaused.step {session after : Session} {action : SessionAction}
    (unpaused : session.Unpaused) {arguments : SubscribeArguments}
    (keeps : session.KeepsSubscribed action)
    (taken : session.step arguments action = some after)
    : after.Unpaused := by
  cases action with
  | call context =>
      simp only [Session.step, Option.ite_none_right_eq_some] at taken
      exact unpaused.call taken.2
  | receive event =>
      simp only [Session.step, Option.ite_none_right_eq_some, Option.some.injEq] at taken
      obtain ⟨⟨_, sent⟩, rfl⟩ := taken
      exact unpaused.receive sent
  | streamEnd =>
      simp only [Session.step, Option.ite_none_right_eq_some, Option.some.injEq] at taken
      obtain ⟨_, rfl⟩ := taken
      exact unpaused.loopStep rfl
  | fail code details =>
      simp only [Session.step, Option.ite_none_right_eq_some, Option.some.injEq] at taken
      obtain ⟨_, rfl⟩ := taken
      exact unpaused.loopStep (subscriptionId_onRpcError _ _ _ _)
  | attempt connected =>
      simp only [Session.step] at taken
      split at taken
      · cases taken
        exact unpaused.loopStep (subscriptionId_reconnectRound _ _ _ _ _)
      · cases taken
  | daemon action =>
      obtain ⟨daemon, moved, rfl⟩ := Option.map_eq_some_iff.mp taken
      exact unpaused.daemonStep moved keeps

/-- In every run in which nobody unsubscribes the loop's subscriptions, the loop's request to
resume is answered NOT_FOUND and ends it with an error.
-/
theorem resume_answered_notFound {config : ServiceConfig} {localNodeId : ByteString}
    {messageBufferSize maxBufferMemory : Nat} {arguments : SubscribeArguments}
    {actions : List SessionAction} {session : Session}
    (run
      : exec (step arguments) (start config localNodeId messageBufferSize maxBufferMemory)
          actions
        = some session)
    (keeps
      : Along (step arguments) (start config localNodeId messageBufferSize maxBufferMemory)
          KeepsSubscribed actions)
    {request : ResumeSubscribeRequest} (calling : session.loop.phase = .calling)
    (asks : session.loop.nextRequest arguments = .resume request) (context : CallContext)
    : session.daemon.resumeAnswer request
        = some (.notFound "No paused subscription found")
      ∧ session.step arguments (.call context)
        = some { session with
            loop := session.loop.raise "No paused subscription found" } := by
  have unpaused : session.Unpaused :=
    exec_invariant KeepsSubscribed Unpaused
      (unpaused_start config localNodeId messageBufferSize maxBufferMemory)
      (fun unpaused keeps taken => unpaused.step keeps taken) run keeps
  have answer := unpaused.resumeAnswer asks
  refine ⟨answer, ?_⟩
  simp [step, calling, call, asks, answer, SubscribeLoop.onRpcError]

/-- The client of the examples: one topic, default settings. -/
def oneTopic : SubscribeArguments where
  clientId := []
  topics := [[97]]

/-- The loop subscribes, receives its id, loses the connection and reconnects. -/
def lostConnection : List SessionAction :=
  [.call {},
    .receive
      (.subscriptionInfo
        {
          subscriptionId := SidecarService.subscriptionIdOf 0 []
          topics := [[97]]
          timestampMs := 0
        }),
    .daemon (.handle (.cancel 0)), .fail .unavailable "Socket closed", .attempt true]

theorem keepsSubscribed_lostConnection
    : Along (step oneTopic) (start {} [] 5 0) KeepsSubscribed lostConnection := by
  intro earlier action later session split _
  have member : action ∈ lostConnection := by simp [split]
  simp only [lostConnection, List.mem_cons, List.not_mem_nil, or_false] at member
  rcases member with rfl | rfl | rfl | rfl | rfl
  · trivial
  · trivial
  · exact fun _ _ no => no
  · trivial
  · trivial

theorem resume_answered_notFound_lostConnection
    : ∃ session request,
        exec (step oneTopic) (start {} [] 5 0) lostConnection = some session
        ∧ session.loop.nextRequest oneTopic = .resume request
        ∧ session.daemon.resumeAnswer request
          = some (.notFound "No paused subscription found") := by
  have lost
    : ∃ session,
        exec (step oneTopic) (start {} [] 5 0) lostConnection = some session
        ∧ session.loop.phase = .calling
        ∧ ∃ request, session.loop.nextRequest oneTopic = .resume request :=
    ⟨_, rfl, rfl, _, rfl⟩
  obtain ⟨session, run, calling, request, asks⟩ := lost
  exact ⟨session, request, run, asks,
    (resume_answered_notFound run keepsSubscribed_lostConnection calling asks {}).1⟩

/-- The loop then ends with an error while the daemon still has its subscription. -/
theorem lost_subscription_not_resumed
    : ∃ session,
        exec (step oneTopic) (start {} [] 5 0) (lostConnection ++ [.call {}]) = some session
        ∧ session.loop.phase = .raised "Subscribe failed: No paused subscription found"
        ∧ (session.daemon.service.registry.localSubscriptions.lookup
            (SidecarService.subscriptionIdOf 0 [])).isSome = true :=
  ⟨_, rfl, by decide +kernel, by decide +kernel⟩

end Session

end NexusD.Clients
