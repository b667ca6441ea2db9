import Mathlib.Order.Basic
import NexusD.Clients.SubscribeLoop

/-! The Python client's `publish` and the reconnections it makes.
`_reconnect` counts its attempts from zero in every call, and `publish` starts over by calling
itself. A channel is only set up, not connected, when it is made, so the first attempt is
always a success.
-/

namespace NexusD.Clients

open NexusD.Core

structure PublishResult where
  success : Bool
  messageId : ByteString
  subscriberCount : Nat
  errorMessage : ByteString
deriving DecidableEq, Repr

/-- How one Publish RPC ends. -/
inductive RpcOutcome where
  | response (result : PublishResult)
  | failed (code : StatusCode) (details : String)
deriving DecidableEq, Repr

def RpcOutcome.unavailable : RpcOutcome → Bool
  | .failed .unavailable _ => true
  | .response _ | .failed _ _ => false

/-- The outcome of each RPC, and whether each `_connect` goes through. -/
structure Environment where
  outcome : Nat → RpcOutcome
  connects : Nat → Bool

/-- Where the innermost `publish` is. -/
inductive PublishPhase where
  | calling
  /-- in `_reconnect`, with the details of the error that led there -/
  | reconnecting (attempt : Nat) (details : String)
  | returned (result : PublishResult)
  /-- `PublishError` -/
  | raised (message : String)
  /-- `ConnectionError("Not connected")` -/
  | notConnected
deriving DecidableEq, Repr

structure PublishCall where
  phase : PublishPhase := .calling
  /-- `self._stub` is set -/
  stub : Bool := true
  rpcs : Nat := 0
  connections : Nat := 0
deriving DecidableEq, Repr

namespace PublishCall

def raise (call : PublishCall) (details : String) : PublishCall :=
  { call with phase := .raised ("Publish failed: " ++ details) }

def onOutcome (config : ReconnectConfig) (call : PublishCall) : RpcOutcome → PublishCall
  | .response result => { call with phase := .returned result }
  | .failed .unavailable details =>
      if config.enabled then { call with phase := .reconnecting 0 details }
      else call.raise details
  | .failed _ details => call.raise details

/-- One round of `_reconnect` after `attempt` rounds. -/
def reconnectRound (config : ReconnectConfig) (call : PublishCall) (attempt : Nat)
    (details : String) (connected : Bool)
    : PublishCall :=
  if 0 < config.maxAttempts ∧ config.maxAttempts < attempt + 1 then
    call.raise details
  else
    let tried := { call with connections := call.connections + 1 }
    if connected then { tried with phase := .calling, stub := true }
    else { tried with phase := .reconnecting (attempt + 1) details }

/-- The next RPC or the next attempt to connect. -/
def advance (config : ReconnectConfig) (environment : Environment) (call : PublishCall)
    : PublishCall :=
  match call.phase with
  | .calling =>
      if call.stub then
        onOutcome config { call with rpcs := call.rpcs + 1 } (environment.outcome call.rpcs)
      else
        { call with phase := .notConnected }
  | .reconnecting attempt details =>
      call.reconnectRound config attempt details (environment.connects call.connections)
  | .returned _ | .raised _ | .notConnected => call

def after (config : ReconnectConfig) (environment : Environment) (steps : Nat) : PublishCall :=
  (advance config environment)^[steps] {}

/-- The call has returned a result or raised `PublishError`. -/
def Finished (call : PublishCall) : Prop :=
  (∃ result, call.phase = .returned result) ∨ ∃ message, call.phase = .raised message

/-- The call comes to its end, with at most `bound` RPCs. -/
def TerminatesWithin (config : ReconnectConfig) (environment : Environment) (bound : Nat)
    : Prop :=
  ∃ steps, (after config environment steps).Finished
    ∧ (after config environment steps).rpcs ≤ bound

/-- Every RPC before the current one was unavailable, and the last one of a finished call was
not.
-/
def Tried (environment : Environment) (call : PublishCall) : Prop :=
  match call.phase with
  | .calling =>
      call.stub = true ∧ ∀ i < call.rpcs, (environment.outcome i).unavailable = true
  | .reconnecting attempt _ =>
      attempt = 0 ∧ ∀ i < call.rpcs, (environment.outcome i).unavailable = true
  | .returned _ | .raised _ =>
      ∃ i, call.rpcs = i + 1 ∧ (environment.outcome i).unavailable = false
  | .notConnected => False

section Reconnecting

variable {config : ReconnectConfig} (enabled : config.enabled = true)
  (limited : 1 ≤ config.maxAttempts) {environment : Environment}
  (connects : ∀ i, environment.connects i = true)

include enabled in
theorem Tried.onOutcome {call : PublishCall} (tried : call.Tried environment)
    (calling : call.phase = .calling)
    : (PublishCall.onOutcome config { call with rpcs := call.rpcs + 1 }
        (environment.outcome call.rpcs)).Tried environment := by
  simp only [Tried, calling] at tried
  cases outcome : environment.outcome call.rpcs with
  | response result => exact ⟨call.rpcs, rfl, by rw [outcome]; rfl⟩
  | failed code details =>
      cases code with
      | unavailable =>
          simp only [PublishCall.onOutcome, enabled, if_true, Tried]
          refine ⟨trivial, ?_⟩
          intro i below
          rcases Nat.lt_succ_iff_lt_or_eq.mp below with earlier | rfl
          · exact tried.2 i earlier
          · rw [outcome]
            rfl
      | cancelled | notFound | other => exact ⟨call.rpcs, rfl, by rw [outcome]; rfl⟩

include limited connects in
theorem reconnectRound_eq (call : PublishCall) (details : String)
    : call.reconnectRound config 0 details (environment.connects call.connections)
      = { call with phase := .calling, stub := true, connections := call.connections + 1 } := by
  have within : ¬ (0 < config.maxAttempts ∧ config.maxAttempts < 0 + 1) := by omega
  rw [reconnectRound, if_neg within, connects]
  rfl

include enabled limited connects in
theorem Tried.advance {call : PublishCall} (tried : call.Tried environment)
    : (PublishCall.advance config environment call).Tried environment := by
  cases phase : call.phase with
  | calling =>
      have ready : call.stub = true := by
        simp only [Tried, phase] at tried
        exact tried.1
      have next := tried.onOutcome enabled phase
      simp only [PublishCall.advance, phase, ready, if_true] at next ⊢
      exact next
  | reconnecting attempt details =>
      simp only [Tried, phase] at tried
      obtain ⟨rfl, unavailable⟩ := tried
      simp only [PublishCall.advance, phase, reconnectRound_eq limited connects]
      exact ⟨rfl, unavailable⟩
  | returned result | raised message =>
      simpa only [PublishCall.advance, phase] using tried
  | notConnected => simp only [Tried, phase] at tried

include enabled limited connects in
theorem tried_after (steps : Nat) : (after config environment steps).Tried environment := by
  induction steps with
  | zero => exact ⟨rfl, fun i below => absurd below (Nat.not_lt_zero i)⟩
  | succ steps ih =>
      rw [after, Function.iterate_succ_apply']
      exact ih.advance enabled limited connects

include enabled limited connects in
/-- As long as the daemon is unavailable, every second step is one more RPC. -/
theorem after_unavailable {count : Nat}
    (unavailable : ∀ i < count, (environment.outcome i).unavailable = true)
    : after config environment (2 * count) = { rpcs := count, connections := count } := by
  induction count with
  | zero => rfl
  | succ count ih =>
      have earlier := ih (fun i below => unavailable i (Nat.lt_succ_of_lt below))
      have here := unavailable count (Nat.lt_succ_self count)
      rw [after] at earlier ⊢
      rw [Nat.mul_succ, Function.iterate_succ_apply', Function.iterate_succ_apply', earlier]
      cases outcome : environment.outcome count with
      | response result => simp [outcome, RpcOutcome.unavailable] at here
      | failed code details =>
          cases code with
          | unavailable =>
              simp only [PublishCall.advance, outcome, PublishCall.onOutcome, enabled, if_true,
                reconnectRound_eq limited connects]
          | cancelled | notFound | other => simp [outcome, RpcOutcome.unavailable] at here

end Reconnecting

theorem onOutcome_finished (config : ReconnectConfig) (call : PublishCall)
    {outcome : RpcOutcome} (available : outcome.unavailable = false)
    : (call.onOutcome config outcome).Finished
      ∧ (call.onOutcome config outcome).rpcs = call.rpcs := by
  cases outcome with
  | response result => exact ⟨.inl ⟨result, rfl⟩, rfl⟩
  | failed code details =>
      cases code with
      | unavailable => cases available
      | cancelled | notFound | other => exact ⟨.inr ⟨_, rfl⟩, rfl⟩

/-- A call that is over has had an RPC that was not unavailable. -/
theorem Tried.exists_available {environment : Environment} {call : PublishCall}
    (tried : call.Tried environment) (finished : call.Finished)
    : ∃ i, call.rpcs = i + 1 ∧ (environment.outcome i).unavailable = false := by
  rcases finished with ⟨result, phase⟩ | ⟨message, phase⟩
  · simpa only [Tried, phase] using tried
  · simpa only [Tried, phase] using tried

/-- The bound that the policy sets is kept exactly when one of that many RPCs ends otherwise
than unavailable: the attempts that it counts never fail.
-/
theorem terminatesWithin_iff {config : ReconnectConfig} (enabled : config.enabled = true)
    (limited : 1 ≤ config.maxAttempts) {environment : Environment}
    (connects : ∀ i, environment.connects i = true)
    : TerminatesWithin config environment (config.maxAttempts + 1)
      ↔ ∃ i ≤ config.maxAttempts, (environment.outcome i).unavailable = false := by
  constructor
  · intro terminates
    obtain ⟨steps, finished, bounded⟩ := terminates
    have tried := tried_after enabled limited connects steps
    obtain ⟨i, count, available⟩ := tried.exists_available finished
    exact ⟨i, by omega, available⟩
  · intro some_available
    -- the first RPC that is not unavailable ends the call
    have exists_available : ∃ i, (environment.outcome i).unavailable = false :=
      some_available.imp (fun _ both => both.2)
    let first := Nat.find exists_available
    have available := Nat.find_spec exists_available
    have early : first ≤ config.maxAttempts := by
      obtain ⟨i, below, at_i⟩ := some_available
      exact (Nat.find_min' exists_available at_i).trans below
    have unavailable : ∀ i < first, (environment.outcome i).unavailable = true := by
      intro i below
      exact Bool.of_not_eq_false (Nat.find_min exists_available below)
    have reached := after_unavailable enabled limited connects unavailable
    refine ⟨2 * first + 1, ?_⟩
    rw [after] at reached ⊢
    rw [Function.iterate_succ_apply', reached]
    have ends := onOutcome_finished config { rpcs := first + 1, connections := first } available
    exact ⟨ends.1, Nat.le_trans (Nat.le_of_eq ends.2) (Nat.succ_le_succ early)⟩

/-- One attempt is allowed. -/
def oneAttempt : ReconnectConfig where
  maxAttempts := 1

/-- A daemon that is down for one RPC and then refuses the message. -/
def downOnce : Environment where
  outcome i := if i = 0 then .failed .unavailable "down" else .failed .other "refused"
  connects _ := true

theorem terminatesWithin_downOnce
    : oneAttempt.enabled = true ∧ 1 ≤ oneAttempt.maxAttempts
      ∧ (∀ i, downOnce.connects i = true)
      ∧ (TerminatesWithin oneAttempt downOnce (oneAttempt.maxAttempts + 1)
        ↔ ∃ i ≤ oneAttempt.maxAttempts, (downOnce.outcome i).unavailable = false) :=
  ⟨rfl, Nat.le_refl 1, fun _ => rfl, terminatesWithin_iff rfl (Nat.le_refl 1) (fun _ => rfl)⟩

/-- A daemon that stays down. -/
def down : Environment where
  outcome _ := .failed .unavailable "connection refused"
  connects _ := true

/-- With one attempt allowed, `publish` goes on for ever. -/
theorem publish_never_ends
    : ¬ TerminatesWithin oneAttempt down (oneAttempt.maxAttempts + 1)
      ∧ (¬ ∃ steps, (after oneAttempt down steps).Finished)
      ∧ (after oneAttempt down 20).rpcs = 10 := by
  have endless : ¬ ∃ steps, (after oneAttempt down steps).Finished := by
    intro ends
    obtain ⟨steps, finished⟩ := ends
    have enabled : oneAttempt.enabled = true := rfl
    have connects : ∀ i, down.connects i = true := fun _ => rfl
    have tried := tried_after enabled (Nat.le_refl 1) connects steps
    obtain ⟨i, _, available⟩ := tried.exists_available finished
    cases available
  refine ⟨?_, endless, by decide⟩
  intro terminates
  exact endless (terminates.imp (fun _ both => both.1))

end PublishCall

end NexusD.Clients
