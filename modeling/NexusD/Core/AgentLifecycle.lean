import NexusD.Core.Basic
import NexusD.Library.Execution

/-! The discovery agent's threads, from `start` to `stop`.
One thread owns the agent and calls `start` and `stop`; the sender and the receiver run in
between. `stop` clears the flag, closes the socket and joins both threads. The socket stays
closed, so an agent that was stopped is silent for good.
-/

namespace NexusD.Core

open NexusD.Library

/-- The address a beacon advertises. -/
structure RpcEndpoint where
  ip : ByteString
  port : Nat
deriving DecidableEq, Repr

/-- Where the thread of `senderThread_` is; `absent` is a thread object without a thread. -/
inductive SenderPc where
  | absent
  /-- at the head of `senderLoop` -/
  | checking
  /-- in `sendBeacon`, before the lock -/
  | building
  /-- in `getLocalTopicHash` -/
  | hashing (endpoint : RpcEndpoint)
  | sending (endpoint : RpcEndpoint) (hash : UInt64)
  | sleeping
  | returned
deriving DecidableEq, Repr

/-- Where the thread of `receiverThread_` is. -/
inductive ReceiverPc where
  | absent
  /-- at the head of `receiverLoop` -/
  | checking
  | receiving
  | processing (datagram : ByteString)
  /-- comparing the clock with the last reaping -/
  | timing
  | reaping
  | returned
deriving DecidableEq, Repr

/-- Where the owner of the agent is. -/
inductive OwnerPc where
  | idle
  /-- in `start`, with the flag set -/
  | spawningSender
  | spawningReceiver
  /-- in `stop`, with the flag cleared -/
  | closing
  | joiningSender
  | joiningReceiver
  /-- `std::terminate`, by an assignment to a thread that was not joined -/
  | terminated
deriving DecidableEq, Repr

/-- What the agent's threads do to the outside. -/
inductive Deed where
  | sent (endpoint : RpcEndpoint) (hash : UInt64)
  | processed (datagram : ByteString)
  | reaped
deriving DecidableEq, Repr

structure AgentThreads where
  running : Bool := false
  socketValid : Bool := true
  /-- `currentRpcIp_` and `currentRpcPort_` -/
  endpoint : RpcEndpoint
  sender : SenderPc := .absent
  receiver : ReceiverPc := .absent
  owner : OwnerPc := .idle
  deeds : List Deed := []

namespace AgentThreads

inductive Action where
  /-- `start`; `configured` is whether the socket can be bound and join its group -/
  | start (configured : Bool)
  | stop
  /-- the owner's next step in `start` or `stop` -/
  | owner
  /-- another thread calls `updateRpcEndpoint` -/
  | updateRpcEndpoint (endpoint : RpcEndpoint)
  /-- a step of the sender; `hash` is what `getLocalTopicHash` returns -/
  | sender (hash : UInt64)
  /-- a step of the receiver; `due` is whether a second has passed -/
  | receiver (received : Option ByteString) (due : Bool)

def does (state : AgentThreads) (deed : Deed) : AgentThreads :=
  { state with deeds := state.deeds ++ [deed] }

def startStep (state : AgentThreads) (configured : Bool) : Option AgentThreads :=
  if state.owner = .idle then
    if state.running || !state.socketValid || !configured then some state
    else some { state with running := true, owner := .spawningSender }
  else
    none

def stopStep (state : AgentThreads) : Option AgentThreads :=
  if state.owner = .idle then
    if state.running then some { state with running := false, owner := .closing }
    else some state
  else
    none

def ownerStep (state : AgentThreads) : Option AgentThreads :=
  match state.owner with
  | .idle | .terminated => none
  | .spawningSender =>
      if state.sender = .absent then
        some { state with sender := .checking, owner := .spawningReceiver }
      else
        some { state with owner := .terminated }
  | .spawningReceiver =>
      if state.receiver = .absent then
        some { state with receiver := .checking, owner := .idle }
      else
        some { state with owner := .terminated }
  | .closing => some { state with socketValid := false, owner := .joiningSender }
  | .joiningSender =>
      -- `join` waits for the thread; without one `joinable` is false
      match state.sender with
      | .absent => some { state with owner := .joiningReceiver }
      | .returned => some { state with sender := .absent, owner := .joiningReceiver }
      | _ => none
  | .joiningReceiver =>
      match state.receiver with
      | .absent => some { state with owner := .idle }
      | .returned => some { state with receiver := .absent, owner := .idle }
      | _ => none

def senderStep (state : AgentThreads) (hash : UInt64) : Option AgentThreads :=
  match state.sender with
  | .absent | .returned => none
  | .checking =>
      some { state with sender := if state.running then .building else .returned }
  | .building => some { state with sender := .hashing state.endpoint }
  | .hashing endpoint => some { state with sender := .sending endpoint hash }
  | .sending endpoint hash =>
      let slept := { state with sender := .sleeping }
      -- `sendTo` fails on a closed socket
      some (if state.socketValid then slept.does (.sent endpoint hash) else slept)
  | .sleeping => some { state with sender := .checking }

def receiverStep (state : AgentThreads) (received : Option ByteString) (due : Bool)
    : Option AgentThreads :=
  match state.receiver with
  | .absent | .returned => none
  | .checking =>
      some { state with receiver := if state.running then .receiving else .returned }
  | .receiving =>
      match received with
      | none => some { state with receiver := .timing }
      | some datagram =>
          if state.socketValid then some { state with receiver := .processing datagram }
          else none
  | .processing datagram =>
      some ({ state with receiver := .timing }.does (.processed datagram))
  | .timing => some { state with receiver := if due then .reaping else .checking }
  | .reaping => some ({ state with receiver := .checking }.does .reaped)

def step (state : AgentThreads) : Action → Option AgentThreads
  | .start configured => state.startStep configured
  | .stop => state.stopStep
  | .owner => state.ownerStep
  | .updateRpcEndpoint endpoint => some { state with endpoint }
  | .sender hash => state.senderStep hash
  | .receiver received due => state.receiverStep received due

def create (endpoint : RpcEndpoint) : AgentThreads where
  endpoint

/-- What the owner has started and not yet joined, wherever it is. -/
def Kept (state : AgentThreads) : Prop :=
  match state.owner with
  | .idle =>
      if state.running then state.sender ≠ .absent ∧ state.receiver ≠ .absent
      else state.sender = .absent ∧ state.receiver = .absent
  | .spawningSender =>
      state.running = true ∧ state.sender = .absent ∧ state.receiver = .absent
  | .spawningReceiver =>
      state.running = true ∧ state.sender ≠ .absent ∧ state.receiver = .absent
  | .closing => state.running = false ∧ state.sender ≠ .absent ∧ state.receiver ≠ .absent
  | .joiningSender =>
      state.running = false
      ∧ state.socketValid = false
      ∧ state.sender ≠ .absent
      ∧ state.receiver ≠ .absent
  | .joiningReceiver =>
      state.running = false
      ∧ state.socketValid = false
      ∧ state.sender = .absent
      ∧ state.receiver ≠ .absent
  | .terminated => False

/-- A step of one of the two threads, as the owner sees it. -/
structure ThreadStep (state after : AgentThreads) : Prop where
  running : after.running = state.running
  socketValid : after.socketValid = state.socketValid
  owner : after.owner = state.owner
  sender : after.sender = .absent ↔ state.sender = .absent
  receiver : after.receiver = .absent ↔ state.receiver = .absent

variable {state after : AgentThreads} {action : Action} {actions : List Action}

theorem threadStep_sender {hash : UInt64} (taken : state.senderStep hash = some after)
    : ThreadStep state after := by
  unfold senderStep at taken
  cases pc : state.sender with
  | absent | returned => simp [pc] at taken
  | checking =>
      simp only [pc, Option.some.injEq] at taken
      subst taken
      refine ⟨rfl, rfl, rfl, ?_, .rfl⟩
      cases state.running <;> simp [pc]
  | building | hashing endpoint | sleeping =>
      simp only [pc, Option.some.injEq] at taken
      subst taken
      exact ⟨rfl, rfl, rfl, by simp [pc], .rfl⟩
  | sending endpoint hash =>
      simp only [pc, Option.some.injEq] at taken
      subst taken
      split <;> exact ⟨rfl, rfl, rfl, by simp [does, pc], .rfl⟩

theorem threadStep_receiver {received : Option ByteString} {due : Bool}
    (taken : state.receiverStep received due = some after)
    : ThreadStep state after := by
  unfold receiverStep at taken
  cases pc : state.receiver with
  | absent | returned => simp [pc] at taken
  | checking =>
      simp only [pc, Option.some.injEq] at taken
      subst taken
      refine ⟨rfl, rfl, rfl, .rfl, ?_⟩
      cases state.running <;> simp [pc]
  | receiving =>
      simp only [pc] at taken
      cases received with
      | none =>
          cases taken
          exact ⟨rfl, rfl, rfl, .rfl, by simp [pc]⟩
      | some datagram =>
          dsimp only at taken
          split at taken <;> cases taken
          exact ⟨rfl, rfl, rfl, .rfl, by simp [pc]⟩
  | processing datagram | reaping =>
      simp only [pc, Option.some.injEq] at taken
      subst taken
      exact ⟨rfl, rfl, rfl, .rfl, by simp [does, pc]⟩
  | timing =>
      simp only [pc, Option.some.injEq] at taken
      subst taken
      refine ⟨rfl, rfl, rfl, .rfl, ?_⟩
      cases due <;> simp [pc]

theorem ThreadStep.kept (moved : ThreadStep state after) (kept : state.Kept) : after.Kept := by
  simp only [Kept, moved.owner, moved.running, moved.socketValid, ne_eq, moved.sender,
    moved.receiver]
  exact kept

theorem Kept.ownerStep (kept : state.Kept) (taken : state.ownerStep = some after)
    : after.Kept := by
  unfold AgentThreads.ownerStep at taken
  cases pc : state.owner with
  | idle | terminated => simp [pc] at taken
  | spawningSender =>
      simp only [Kept, pc] at kept
      simp only [pc, kept.2.1, if_true, Option.some.injEq] at taken
      subst taken
      exact ⟨kept.1, by simp, kept.2.2⟩
  | spawningReceiver =>
      simp only [Kept, pc] at kept
      simp only [pc, kept.2.2, if_true, Option.some.injEq] at taken
      subst taken
      simp [Kept, kept.1, kept.2.1]
  | closing =>
      simp only [Kept, pc] at kept
      simp only [pc, Option.some.injEq] at taken
      subst taken
      exact ⟨kept.1, rfl, kept.2⟩
  | joiningSender =>
      simp only [Kept, pc] at kept
      simp only [pc] at taken
      split at taken
      · rename_i absent
        exact absurd absent kept.2.2.1
      · cases taken
        exact ⟨kept.1, kept.2.1, rfl, kept.2.2.2⟩
      · cases taken
  | joiningReceiver =>
      simp only [Kept, pc] at kept
      simp only [pc] at taken
      split at taken
      · rename_i absent
        exact absurd absent kept.2.2.2
      · cases taken
        simp [Kept, kept.1, kept.2.2.1]
      · cases taken

theorem Kept.step (kept : state.Kept) (taken : state.step action = some after)
    : after.Kept := by
  cases action with
  | start configured =>
      simp only [AgentThreads.step, startStep] at taken
      split at taken
      · rename_i idle
        split at taken
        · cases taken
          exact kept
        · rename_i starts
          cases taken
          have fresh : state.running = false := by
            simp only [Bool.or_eq_true, not_or, Bool.not_eq_true] at starts
            exact starts.1.1
          simp only [Kept, idle, fresh, Bool.false_eq_true, if_false] at kept
          exact ⟨rfl, kept⟩
      · cases taken
  | stop =>
      simp only [AgentThreads.step, stopStep] at taken
      split at taken
      · rename_i idle
        split at taken
        · rename_i running
          cases taken
          simp only [Kept, idle, running, if_true] at kept
          exact ⟨rfl, kept⟩
        · cases taken
          exact kept
      · cases taken
  | owner => exact kept.ownerStep taken
  | updateRpcEndpoint endpoint =>
      cases taken
      exact kept
  | sender hash => exact (threadStep_sender taken).kept kept
  | receiver received due => exact (threadStep_receiver taken).kept kept

theorem kept_of_exec {endpoint : RpcEndpoint}
    (run : exec step (create endpoint) actions = some state)
    : state.Kept :=
  exec_always Kept (by simp [Kept, create]) (fun kept taken => kept.step taken) run

-----------------------------------------------------------------------------------------
-- After stop
-----------------------------------------------------------------------------------------

/-- `stop` has cleared the flag and has not returned. -/
def Stopping (state : AgentThreads) : Prop :=
  state.owner = .closing ∨ state.owner = .joiningSender ∨ state.owner = .joiningReceiver

/-- `stop` has closed the socket and returned. -/
structure Stopped (state : AgentThreads) : Prop where
  idle : state.owner = .idle
  running : state.running = false
  closed : state.socketValid = false

theorem Stopped.absent (stopped : state.Stopped) (kept : state.Kept)
    : state.sender = .absent ∧ state.receiver = .absent := by
  simpa only [Kept, stopped.idle, stopped.running, Bool.false_eq_true, if_false] using kept

/-- A stopped agent has no threads and cannot be started. -/
theorem Stopped.step (stopped : state.Stopped) (kept : state.Kept)
    (taken : state.step action = some after)
    : after.Stopped ∧ after.deeds = state.deeds := by
  obtain ⟨noSender, noReceiver⟩ := stopped.absent kept
  cases action with
  | start configured =>
      simp only [AgentThreads.step, startStep, stopped.idle, stopped.closed, if_true,
        Bool.not_false, Bool.or_true, Bool.true_or, Option.some.injEq] at taken
      subst taken
      exact ⟨stopped, rfl⟩
  | stop =>
      simp only [AgentThreads.step, stopStep, stopped.idle, stopped.running, if_true,
        Bool.false_eq_true, if_false, Option.some.injEq] at taken
      subst taken
      exact ⟨stopped, rfl⟩
  | owner => simp [AgentThreads.step, AgentThreads.ownerStep, stopped.idle] at taken
  | updateRpcEndpoint endpoint =>
      cases taken
      exact ⟨⟨stopped.idle, stopped.running, stopped.closed⟩, rfl⟩
  | sender hash => simp [AgentThreads.step, senderStep, noSender] at taken
  | receiver received due => simp [AgentThreads.step, receiverStep, noReceiver] at taken

theorem Stopping.step (stopping : state.Stopping) (kept : state.Kept)
    (taken : state.step action = some after)
    : after.Stopping ∨ after.Stopped := by
  have busy : state.owner ≠ .idle := by
    rcases stopping with pc | pc | pc <;> simp [pc]
  cases action with
  | start configured => simp [AgentThreads.step, startStep, busy] at taken
  | stop => simp [AgentThreads.step, stopStep, busy] at taken
  | owner =>
      simp only [AgentThreads.step, AgentThreads.ownerStep] at taken
      rcases stopping with pc | pc | pc
      · simp only [pc, Option.some.injEq] at taken
        subst taken
        exact .inl (.inr (.inl rfl))
      · simp only [pc] at taken
        split at taken <;> cases taken <;> exact .inl (.inr (.inr rfl))
      · simp only [Kept, pc] at kept
        simp only [pc] at taken
        split at taken <;> cases taken <;> exact .inr ⟨rfl, kept.1, kept.2.1⟩
  | updateRpcEndpoint endpoint =>
      cases taken
      exact .inl stopping
  | sender hash =>
      have moved := threadStep_sender taken
      exact .inl (by rwa [Stopping, moved.owner])
  | receiver received due =>
      have moved := threadStep_receiver taken
      exact .inl (by rwa [Stopping, moved.owner])

/-- What a run from a stopped agent leaves. -/
theorem Stopped.silent (stopped : state.Stopped) (kept : state.Kept)
    (run : exec AgentThreads.step state actions = some after)
    : after.Stopped ∧ after.deeds = state.deeds := by
  have all : after.Kept ∧ after.Stopped ∧ after.deeds = state.deeds := by
    refine exec_always
      (fun now => now.Kept ∧ now.Stopped ∧ now.deeds = state.deeds)
      ⟨kept, stopped, rfl⟩ ?_ run
    intro now action next held taken
    obtain ⟨here, quiet, same⟩ := held
    obtain ⟨still, more⟩ := quiet.step here taken
    exact ⟨here.step taken, still, more.trans same⟩
  exact all.2

/-- In no run does a `start` assign to a thread that was not joined. Once a `stop` that found the
agent running has returned, both threads are gone, and nothing is sent, processed or reaped any
more, whatever is called then.
-/
theorem silent_after_stop {endpoint : RpcEndpoint}
    (run : exec step (create endpoint) actions = some state)
    : state.owner ≠ .terminated
      ∧ ∀ earlier later before,
          actions = earlier ++ .stop :: later
          → exec step (create endpoint) earlier = some before
          → before.running = true
          → state.owner = .idle
          → state.sender = .absent
            ∧ state.receiver = .absent
            ∧ ∀ more after,
                exec step state more = some after
                → after.running = false ∧ after.deeds = state.deeds := by
  have kept := kept_of_exec run
  refine ⟨fun crashed => by simp [Kept, crashed] at kept, ?_⟩
  intro earlier later before split reached running idle
  subst split
  obtain ⟨next, stops, came⟩ := exec_step_of_split run reached
  have begun : next.Kept ∧ (next.Stopping ∨ next.Stopped) := by
    refine ⟨kept_of_exec came, .inl ?_⟩
    simp only [step, stopStep, running, if_true] at stops
    split at stops <;> cases stops
    exact .inl rfl
  have rest : exec step next later = some state := by
    rw [List.append_cons, exec_append, came, Option.bind_some] at run
    exact run
  have ended : state.Kept ∧ (state.Stopping ∨ state.Stopped) := by
    refine exec_always (fun now => now.Kept ∧ (now.Stopping ∨ now.Stopped)) begun ?_ rest
    intro now action after held taken
    obtain ⟨here, either⟩ := held
    refine ⟨here.step taken, ?_⟩
    rcases either with stopping | stopped
    · exact stopping.step here taken
    · exact .inr (stopped.step here taken).1
  have stopped : state.Stopped := by
    rcases ended.2 with stopping | stopped
    · rcases stopping with pc | pc | pc <;> simp [pc] at idle
    · exact stopped
  obtain ⟨noSender, noReceiver⟩ := stopped.absent kept
  refine ⟨noSender, noReceiver, ?_⟩
  intro more after goes
  obtain ⟨still, same⟩ := stopped.silent kept goes
  exact ⟨still.running, same⟩

def here : RpcEndpoint where
  ip := [49]
  port := 7

/-- The agent is started, sends one beacon under an address that changes meanwhile, and is
stopped while the receiver waits.
-/
def oneBeacon : List Action :=
  [ .start true, .owner, .owner, .sender 0, .sender 0, .updateRpcEndpoint ⟨[50], 8⟩,
    .sender 5, .sender 0, .receiver none false ]

def stopAndJoin : List Action :=
  [ .owner, .sender 0, .sender 0, .owner, .receiver none false, .receiver none false,
    .receiver none false, .owner ]

theorem silent_after_stopAndJoin
    : ∃ state,
        exec step (create here) (oneBeacon ++ .stop :: stopAndJoin) = some state
        ∧ state.deeds = [.sent here 5]
        ∧ ∀ more after,
            exec step state more = some after
            → after.running = false ∧ after.deeds = state.deeds := by
  have begins
    : ∃ before,
        exec step (create here) oneBeacon = some before ∧ before.running = true :=
    ⟨_, rfl, rfl⟩
  have runs
    : ∃ state,
        exec step (create here) (oneBeacon ++ .stop :: stopAndJoin) = some state
        ∧ state.deeds = [.sent here 5]
        ∧ state.owner = .idle :=
    ⟨_, rfl, rfl, rfl⟩
  obtain ⟨before, reached, running⟩ := begins
  obtain ⟨state, run, did, idle⟩ := runs
  obtain ⟨_, silent⟩ := silent_after_stop run
  exact ⟨state, run, did, (silent oneBeacon stopAndJoin before rfl reached running idle).2.2⟩

-----------------------------------------------------------------------------------------
-- Stop returns
-----------------------------------------------------------------------------------------

/-- The steps the three threads have before them, once the flag is cleared. -/
def rank (state : AgentThreads) : Nat :=
  senderRank state.sender + receiverRank state.receiver + ownerRank state.owner
where
  senderRank : SenderPc → Nat
    | .absent | .returned => 0
    | .checking => 1
    | .sleeping => 2
    | .sending _ _ => 3
    | .hashing _ => 4
    | .building => 5
  receiverRank : ReceiverPc → Nat
    | .absent | .returned => 0
    | .checking => 1
    | .reaping => 2
    | .timing => 3
    | .processing _ => 4
    | .receiving => 5
  ownerRank : OwnerPc → Nat
    | .idle | .spawningSender | .spawningReceiver | .terminated => 0
    | .joiningReceiver => 1
    | .joiningSender => 2
    | .closing => 3

/-- One of the agent's own threads or the owner moves. -/
def Action.moves : Action → Bool
  | .owner | .sender _ | .receiver _ _ => true
  | .start _ | .stop | .updateRpcEndpoint _ => false

theorem rank_le (state : AgentThreads) : state.rank ≤ 13 := by
  have sender : rank.senderRank state.sender ≤ 5 := by
    cases state.sender <;> simp [rank.senderRank]
  have receiver : rank.receiverRank state.receiver ≤ 5 := by
    cases state.receiver <;> simp [rank.receiverRank]
  have owner : rank.ownerRank state.owner ≤ 3 := by
    cases state.owner <;> simp [rank.ownerRank]
  rw [rank]
  omega

theorem Stopping.rank_pos (stopping : state.Stopping) : 0 < state.rank := by
  rcases stopping with pc | pc | pc <;> simp [rank, rank.ownerRank, pc]

theorem Stopping.flag (stopping : state.Stopping) (kept : state.Kept)
    : state.running = false := by
  rcases stopping with pc | pc | pc <;> simp only [Kept, pc] at kept <;> exact kept.1

theorem rank_senderStep {hash : UInt64} (cleared : state.running = false)
    (taken : state.senderStep hash = some after)
    : after.rank < state.rank := by
  unfold senderStep at taken
  cases pc : state.sender with
  | absent | returned => simp [pc] at taken
  | checking | building | hashing endpoint | sleeping =>
      simp only [pc, cleared, Bool.false_eq_true, if_false, Option.some.injEq] at taken
      subst taken
      simp [rank, rank.senderRank, pc]
  | sending endpoint hash =>
      simp only [pc, Option.some.injEq] at taken
      subst taken
      split <;> simp [does, rank, rank.senderRank, pc]

theorem rank_receiverStep {received : Option ByteString} {due : Bool}
    (cleared : state.running = false) (taken : state.receiverStep received due = some after)
    : after.rank < state.rank := by
  unfold receiverStep at taken
  cases pc : state.receiver with
  | absent | returned => simp [pc] at taken
  | receiving =>
      simp only [pc] at taken
      cases received with
      | none =>
          cases taken
          simp [rank, rank.receiverRank, pc]
      | some datagram =>
          dsimp only at taken
          split at taken <;> cases taken
          simp [rank, rank.receiverRank, pc]
  | checking | processing datagram | reaping =>
      simp only [pc, cleared, Bool.false_eq_true, if_false, Option.some.injEq] at taken
      subst taken
      simp [does, rank, rank.receiverRank, pc]
  | timing =>
      simp only [pc, Option.some.injEq] at taken
      subst taken
      cases due <;> simp [rank, rank.receiverRank, pc]

theorem Stopping.rank_ownerStep (stopping : state.Stopping)
    (taken : state.ownerStep = some after)
    : after.rank < state.rank := by
  unfold AgentThreads.ownerStep at taken
  rcases stopping with pc | pc | pc
  · simp only [pc, Option.some.injEq] at taken
    subst taken
    simp [rank, rank.ownerRank, pc]
  · simp only [pc] at taken
    split at taken <;> cases taken <;>
      (rename_i at_sender; simp [rank, rank.ownerRank, rank.senderRank, pc, at_sender])
  · simp only [pc] at taken
    split at taken <;> cases taken <;>
      (rename_i at_receiver; simp [rank, rank.ownerRank, rank.receiverRank, pc, at_receiver])

/-- While `stop` waits, every move brings its return nearer, and nothing else delays it. -/
theorem Stopping.rank_step (stopping : state.Stopping) (kept : state.Kept)
    (taken : state.step action = some after)
    : after.rank + (if action.moves then 1 else 0) ≤ state.rank := by
  have busy : state.owner ≠ .idle := by
    rcases stopping with pc | pc | pc <;> simp [pc]
  cases action with
  | start configured => simp [AgentThreads.step, startStep, busy] at taken
  | stop => simp [AgentThreads.step, stopStep, busy] at taken
  | owner => exact stopping.rank_ownerStep taken
  | updateRpcEndpoint endpoint =>
      cases taken
      exact le_refl _
  | sender hash => exact rank_senderStep (stopping.flag kept) taken
  | receiver received due => exact rank_receiverStep (stopping.flag kept) taken

/-- The owner can move, or it waits to join a thread that can: the sender with whatever hash it
computes, the receiver at least with a receive that times out.
-/
def JoinsMoving (state : AgentThreads) : Prop :=
  (state.step .owner).isSome = true
  ∨ (state.owner = .joiningSender ∧ ∀ hash, (state.step (.sender hash)).isSome = true)
  ∨ (state.owner = .joiningReceiver
    ∧ ∀ due, (state.step (.receiver none due)).isSome = true)

theorem Stopping.joinsMoving (stopping : state.Stopping) : state.JoinsMoving := by
  rcases stopping with pc | pc | pc
  · exact .inl (by simp [AgentThreads.step, AgentThreads.ownerStep, pc])
  · cases at_sender : state.sender with
    | absent | returned =>
        exact .inl (by simp [AgentThreads.step, AgentThreads.ownerStep, pc, at_sender])
    | checking | building | hashing _ | sending _ _ | sleeping =>
        refine .inr (.inl ⟨pc, fun hash => ?_⟩)
        simp [AgentThreads.step, senderStep, at_sender]
  · cases at_receiver : state.receiver with
    | absent | returned =>
        exact .inl (by simp [AgentThreads.step, AgentThreads.ownerStep, pc, at_receiver])
    | checking | receiving | processing _ | timing | reaping =>
        refine .inr (.inr ⟨pc, fun due => ?_⟩)
        simp [AgentThreads.step, receiverStep, at_receiver]

/-- `stop` always returns: while it waits, the owner or the thread it joins can move, and after
thirteen moves, in whatever order the threads make them, it has returned.
-/
theorem stop_returns {endpoint : RpcEndpoint}
    (run : exec step (create endpoint) actions = some state) (stopping : state.Stopping)
    : state.JoinsMoving
      ∧ ∀ later after,
          exec step state later = some after
          → after.Stopping
          → (later.filter Action.moves).length < 13 := by
  have kept := kept_of_exec run
  refine ⟨stopping.joinsMoving, ?_⟩
  intro later after goes waits
  have counted
    : after.Kept
      ∧ (after.Stopping ∨ after.Stopped)
      ∧ (after.Stopping → after.rank + (later.filter Action.moves).length ≤ state.rank) := by
    refine exec_induction
      (motive := fun later now =>
        now.Kept
        ∧ (now.Stopping ∨ now.Stopped)
        ∧ (now.Stopping → now.rank + (later.filter Action.moves).length ≤ state.rank))
      ⟨kept, .inl stopping, fun _ => by simp⟩ ?_ goes
    intro earlier now action next _ ih taken
    obtain ⟨here, either, bound⟩ := ih
    rcases either with still | stopped
    · refine ⟨here.step taken, still.step here taken, ?_⟩
      intro _
      have before := bound still
      have fewer := still.rank_step here taken
      rw [List.filter_append, List.length_append]
      cases moved : action.moves <;> simp [moved] at fewer ⊢ <;> omega
    · have ended := (stopped.step here taken).1
      refine ⟨here.step taken, .inr ended, ?_⟩
      intro waiting
      rcases waiting with pc | pc | pc <;> simp [ended.idle] at pc
  have bound := counted.2.2 waits
  have positive := waits.rank_pos
  have most := state.rank_le
  omega

theorem stop_returns_oneBeacon
    : ∃ state,
        exec step (create here) (oneBeacon ++ [.stop]) = some state
        ∧ state.JoinsMoving
        ∧ ∀ later after,
            exec step state later = some after
            → after.Stopping
            → (later.filter Action.moves).length < 13 := by
  have runs
    : ∃ state,
        exec step (create here) (oneBeacon ++ [.stop]) = some state
        ∧ state.owner = .closing :=
    ⟨_, rfl, rfl⟩
  obtain ⟨state, run, closing⟩ := runs
  exact ⟨state, run, stop_returns run (.inl closing)⟩

end AgentThreads

end NexusD.Core
