import NexusD.Clients.NodeClient
import Mathlib.Data.List.Chain

/-! What the callbacks of a Node client hear of its connection state.
`setConnectionState` calls them in the order of their registration, and one of them may close
the client before the others have been called. Then these hear of the disconnection first. All
of them still hear of every change, and the first one hears of the changes as they are made.
-/

namespace NexusD.Clients

namespace NodeConnection

/-- The callbacks are called with the same arguments, one after the other. -/
def calls (callbacks : List Nat) (state : ReconnectionState) (error : Option NodeError)
    : List (Nat × ReconnectionState × Option NodeError) :=
  callbacks.map (fun callback => (callback, state, error))

/-- What one callback has been called with. -/
def heardBy (callback : Nat) (told : List (Nat × ReconnectionState × Option NodeError))
    : List (ReconnectionState × Option NodeError) :=
  told.filterMap (fun call => if call.1 = callback then some call.2 else none)

theorem heardBy_append (callback : Nat)
    (earlier later : List (Nat × ReconnectionState × Option NodeError))
    : heardBy callback (earlier ++ later) = heardBy callback earlier ++ heardBy callback later :=
  List.filterMap_append

theorem heardBy_calls {callbacks : List Nat} (distinct : callbacks.Nodup) (callback : Nat)
    (state : ReconnectionState) (error : Option NodeError)
    : heardBy callback (calls callbacks state error)
      = if callback ∈ callbacks then [(state, error)] else [] := by
  induction callbacks with
  | nil => rfl
  | cons first rest ih =>
      obtain ⟨fresh, distinct⟩ := List.nodup_cons.mp distinct
      have tail := ih distinct
      unfold heardBy calls at tail ⊢
      rw [List.map_cons, List.filterMap_cons, tail]
      by_cases same : first = callback
      · subst same
        simp [fresh]
      · simp [same, Ne.symm same]

/-- The connection has moved on, with these calls of the callbacks and these changes. -/
structure Adds (told : List (Nat × ReconnectionState × Option NodeError))
    (notified : List (ReconnectionState × Option NodeError))
    (before after : NodeConnection)
    : Prop where
  told : after.told = before.told ++ told
  notified : after.notified = before.notified ++ notified
  callbacks : after.callbacks = before.callbacks

section Changes

variable {connection before middle after : NodeConnection}
  {told told' : List (Nat × ReconnectionState × Option NodeError)}
  {notified notified' : List (ReconnectionState × Option NodeError)}

theorem Adds.trans (first : Adds told notified before middle)
    (second : Adds told' notified' middle after)
    : Adds (told ++ told') (notified ++ notified') before after :=
  ⟨by rw [second.told, first.told, List.append_assoc],
    by rw [second.notified, first.notified, List.append_assoc],
    second.callbacks.trans first.callbacks⟩

theorem adds_shut (connection : NodeConnection) : Adds [] [] connection connection.shut :=
  ⟨(List.append_nil _).symm, (List.append_nil _).symm, rfl⟩

theorem adds_tell (connection : NodeConnection) (callback : Nat) (state : ReconnectionState)
    (error : Option NodeError)
    : Adds [(callback, state, error)] [] connection (connection.tell callback state error) :=
  ⟨rfl, (List.append_nil _).symm, rfl⟩

theorem adds_enter (connection : NodeConnection) (state : ReconnectionState)
    (error : Option NodeError)
    : Adds [] [(state, error)] connection (connection.enter state error) :=
  ⟨(List.append_nil _).symm, rfl, rfl⟩

theorem close_of_disconnected (disconnected : connection.connectionState = .disconnected)
    : connection.close = connection.shut :=
  if_pos disconnected

/-- By induction on the callbacks: one that closes a disconnected client changes nothing that
the others hear of.
-/
theorem foldl_callBack_disconnected {close : NodeConnection → NodeConnection}
    (shuts
      : ∀ connection : NodeConnection,
          connection.connectionState = .disconnected → close connection = connection.shut)
    (state : ReconnectionState) (error : Option NodeError) (callbacks : List Nat)
    (disconnected : connection.connectionState = .disconnected)
    : Adds (calls callbacks state error) [] connection
        (callbacks.foldl (callBack close state error) connection)
      ∧ (callbacks.foldl (callBack close state error) connection).connectionState
        = .disconnected := by
  induction callbacks generalizing connection with
  | nil => exact ⟨⟨(List.append_nil _).symm, (List.append_nil _).symm, rfl⟩, disconnected⟩
  | cons callback rest ih =>
      have called
        : Adds [(callback, state, error)] [] connection
            (callBack close state error connection callback)
          ∧ (callBack close state error connection callback).connectionState
            = .disconnected := by
        have tells := connection.adds_tell callback state error
        unfold callBack
        split
        · rw [shuts (connection.tell callback state error) disconnected]
          exact ⟨tells.trans (adds_shut _), disconnected⟩
        · exact ⟨tells, disconnected⟩
      obtain ⟨others, still⟩ := ih called.2
      exact ⟨called.1.trans others, still⟩

/-- Everybody is told that the client has been closed. -/
theorem adds_close (connected : connection.connectionState ≠ .disconnected)
    : Adds (calls (List.range connection.callbacks.registered) .disconnected none)
        [(.disconnected, none)] connection connection.close
      ∧ connection.close.connectionState = .disconnected := by
  have shut : connection.shut.connectionState ≠ .disconnected := connected
  rw [close, changeState, if_neg shut]
  have entered := connection.adds_shut.trans (connection.shut.adds_enter .disconnected none)
  have shuts (inner : NodeConnection) (disconnected : inner.connectionState = .disconnected)
      : inner.shut.changeState id .disconnected none = inner.shut :=
    if_pos disconnected
  have disconnected
    : (connection.shut.enter .disconnected none).connectionState = .disconnected := rfl
  obtain ⟨adds, current⟩ := foldl_callBack_disconnected shuts .disconnected none
    (List.range connection.callbacks.registered) disconnected
  exact ⟨entered.trans adds, current⟩

/-- `close` and `setConnectionState` call each other as in the source. -/
theorem close_eq (connection : NodeConnection)
    : connection.close = connection.shut.setConnectionState .disconnected none := by
  have shuts (inner : NodeConnection) (disconnected : inner.connectionState = .disconnected)
      : inner.shut.changeState id .disconnected none = inner.close := by
    rw [close_of_disconnected disconnected]
    exact if_pos disconnected
  -- from the disconnected state on, both callbacks do the same
  have same (callbacks : List Nat) (start : NodeConnection)
      (disconnected : start.connectionState = .disconnected)
      : callbacks.foldl
            (callBack (fun inner => inner.shut.changeState id .disconnected none)
              .disconnected none) start
        = callbacks.foldl (callBack close .disconnected none) start := by
    induction callbacks generalizing start with
    | nil => rfl
    | cons callback rest ih =>
        have first
          : callBack (fun inner => inner.shut.changeState id .disconnected none)
              .disconnected none start callback
            = callBack close .disconnected none start callback := by
          unfold callBack
          split
          · exact shuts (start.tell callback .disconnected none) disconnected
          · rfl
        have single := foldl_callBack_disconnected (fun _ => close_of_disconnected)
          .disconnected none [callback] disconnected
        rw [List.foldl_cons, List.foldl_cons, first]
        exact ih _ single.2
  rw [setConnectionState, close, changeState, changeState]
  split
  · rfl
  · exact same _ _ rfl

/-- What comes of the loop over the callbacks: everybody is told of the state, or some callback
closes the client first, and those behind it hear of that before they hear of the state.
-/
inductive Announces (state : ReconnectionState) (error : Option NodeError) (callbacks : List Nat)
    (before after : NodeConnection)
    : Prop
  | told (adds : Adds (calls callbacks state error) [] before after)
      (current : after.connectionState = before.connectionState)
  | closed {front back : List Nat} {caller : Nat} (split : callbacks = front ++ caller :: back)
      (called : before.told.length + front.length ∈ before.callbacks.closing)
      (connected : before.connectionState ≠ .disconnected)
      (adds
        : Adds
            (calls (front ++ [caller]) state error
              ++ (calls (List.range before.callbacks.registered) .disconnected none
                ++ calls back state error))
            [(.disconnected, none)] before after)
      (current : after.connectionState = .disconnected)

/-- By induction on the callbacks, up to the first one that closes the client. -/
theorem announces_foldl (state : ReconnectionState) (error : Option NodeError)
    (callbacks : List Nat) (connection : NodeConnection)
    : Announces state error callbacks connection
        (callbacks.foldl (callBack close state error) connection) := by
  by_cases disconnected : connection.connectionState = .disconnected
  · obtain ⟨adds, still⟩ := foldl_callBack_disconnected (fun _ => close_of_disconnected) state
      error callbacks disconnected
    exact .told adds (still.trans disconnected.symm)
  induction callbacks generalizing connection with
  | nil => exact .told ⟨(List.append_nil _).symm, (List.append_nil _).symm, rfl⟩ rfl
  | cons callback rest ih =>
      have tells := connection.adds_tell callback state error
      have connected : (connection.tell callback state error).connectionState ≠ .disconnected :=
        disconnected
      rw [List.foldl_cons, callBack]
      split
      · rename_i closes
        obtain ⟨closed, current⟩ := adds_close connected
        obtain ⟨others, still⟩ := foldl_callBack_disconnected
          (fun _ => close_of_disconnected) state error rest current
        have split : callback :: rest = [] ++ callback :: rest := rfl
        exact .closed split closes disconnected (tells.trans (closed.trans others)) still
      · cases ih (connection.tell callback state error) connected with
        | told adds current => exact .told (tells.trans adds) current
        | @closed front back caller split called _ adds current =>
            have split : callback :: rest = (callback :: front) ++ caller :: back := by
              rw [split]
              rfl
            have later
              : (connection.tell callback state error).told.length + front.length
                = connection.told.length + (callback :: front).length := by
              simp only [tell, List.length_append, List.length_cons, List.length_nil]
              omega
            rw [later] at called
            exact .closed split called disconnected (tells.trans adds) current

theorem announces_setConnectionState {state : ReconnectionState}
    (differs : connection.connectionState ≠ state) (error : Option NodeError)
    : Announces state error (List.range connection.callbacks.registered)
        (connection.enter state error) (connection.setConnectionState state error) := by
  rw [setConnectionState, changeState, if_neg differs]
  exact announces_foldl state error _ _

theorem setConnectionState_of_same {state : ReconnectionState}
    (same : connection.connectionState = state) (error : Option NodeError)
    : connection.setConnectionState state error = connection :=
  if_pos same

/-- The state that is left is the one that was set, unless a callback closed the client. -/
theorem state_setConnectionState (connection : NodeConnection) (state : ReconnectionState)
    (error : Option NodeError)
    : (connection.setConnectionState state error).connectionState = state
      ∨ (connection.setConnectionState state error).connectionState = .disconnected := by
  by_cases same : connection.connectionState = state
  · rw [setConnectionState_of_same same]
    exact .inl same
  · cases announces_setConnectionState same error with
    | told adds current => exact .inl current
    | closed split called connected adds current => exact .inr current

theorem notified_setConnectionState (connection : NodeConnection) (state : ReconnectionState)
    (error : Option NodeError)
    : connection.notified <+: (connection.setConnectionState state error).notified := by
  by_cases same : connection.connectionState = state
  · rewrite [setConnectionState_of_same same]
    exact List.prefix_rfl
  · have entered := connection.adds_enter state error
    cases announces_setConnectionState same error with
    | told adds current => exact ⟨_, (entered.trans adds).notified.symm⟩
    | closed split called connected adds current => exact ⟨_, (entered.trans adds).notified.symm⟩

theorem mem_notified_setConnectionState {state : ReconnectionState}
    (differs : connection.connectionState ≠ state) (error : Option NodeError)
    : (state, error) ∈ (connection.setConnectionState state error).notified := by
  have entered := connection.adds_enter state error
  cases announces_setConnectionState differs error with
  | told adds current => simp [(entered.trans adds).notified]
  | closed split called connected adds current => simp [(entered.trans adds).notified]

-----------------------------------------------------------------------------------------
-- What everybody has heard
-----------------------------------------------------------------------------------------

/-- The states the connection has been in. -/
def states (connection : NodeConnection) : List ReconnectionState :=
  .connected :: connection.notified.map Prod.fst

/-- No callback that was registered before this one has called `close` when it was told of a
change.
-/
def LeftInPeace (callback : Nat) (connection : NodeConnection) : Prop :=
  ∀ i ∈ connection.callbacks.closing, ∀ call, connection.told[i]? = some call → callback ≤ call.1

/-- Every notification is of a change, and the last one is of the current state. Everybody hears
of each of them once, and in this order if nobody before them closes the client meanwhile.
-/
structure Announced (connection : NodeConnection) : Prop where
  changes : connection.states.IsChain (· ≠ ·)
  current : connection.states.getLast? = some connection.connectionState
  everyone
    : ∀ callback < connection.callbacks.registered,
        (heardBy callback connection.told).Perm connection.notified
  inOrder
    : ∀ callback < connection.callbacks.registered,
        LeftInPeace callback connection
        → heardBy callback connection.told = connection.notified

theorem LeftInPeace.earlier {callback : Nat} (peace : LeftInPeace callback after)
    (adds : Adds told notified before after)
    : LeftInPeace callback before := by
  intro i closes call is
  refine peace i (by rw [adds.callbacks]; exact closes) call ?_
  rw [adds.told]
  exact List.getElem?_append_left (List.getElem?_eq_some_iff.mp is).1 ▸ is

theorem heardBy_range {callback registered : Nat} (member : callback < registered)
    (state : ReconnectionState) (error : Option NodeError)
    : heardBy callback (calls (List.range registered) state error) = [(state, error)] := by
  rw [heardBy_calls List.nodup_range, if_pos (List.mem_range.mpr member)]

theorem Announced.extend {told : List (Nat × ReconnectionState × Option NodeError)}
    {notified : List (ReconnectionState × Option NodeError)} (announced : before.Announced)
    (adds : Adds told notified before after)
    (changes : (before.connectionState :: notified.map Prod.fst).IsChain (· ≠ ·))
    (current
      : (before.connectionState :: notified.map Prod.fst).getLast?
        = some after.connectionState)
    (everyone
      : ∀ callback < before.callbacks.registered, (heardBy callback told).Perm notified)
    (inOrder
      : ∀ callback < before.callbacks.registered,
          LeftInPeace callback after → heardBy callback told = notified)
    : after.Announced := by
  have states : after.states = before.states ++ notified.map Prod.fst := by
    simp [NodeConnection.states, adds.notified]
  refine ⟨?_, ?_, ?_, ?_⟩
  · rw [states, List.isChain_append]
    refine ⟨announced.changes, changes.tail, ?_⟩
    intro last isLast next isNext
    rw [announced.current] at isLast
    cases isLast
    exact (List.isChain_cons.mp changes).1 next isNext
  · rw [states, List.getLast?_append, announced.current, ← current, List.getLast?_cons]
    cases (notified.map Prod.fst).getLast? <;> rfl
  · intro callback member
    rw [adds.callbacks] at member
    rw [adds.told, adds.notified, heardBy_append]
    exact (announced.everyone callback member).append (everyone callback member)
  · intro callback member peace
    rw [adds.callbacks] at member
    rw [adds.told, adds.notified, heardBy_append,
      announced.inOrder callback member (peace.earlier adds), inOrder callback member peace]

/-- Whoever comes up to the caller in the order hears of the change first, and the others hear
of the disconnection first.
-/
theorem heardBy_closed {registered caller callback : Nat} {front back : List Nat}
    (split : List.range registered = front ++ caller :: back) (member : callback < registered)
    (state : ReconnectionState) (error : Option NodeError)
    : heardBy callback
        (calls (front ++ [caller]) state error
          ++ (calls (List.range registered) .disconnected none ++ calls back state error))
      = if callback ≤ caller then [(state, error), (.disconnected, none)]
        else [(.disconnected, none), (state, error)] := by
  have sorted := List.pairwise_lt_range (n := registered)
  have distinct := List.nodup_range (n := registered)
  have here := List.mem_range.mpr member
  rw [split, List.append_cons] at sorted distinct here
  obtain ⟨first, _, apart⟩ := List.pairwise_append.mp sorted
  obtain ⟨_, _, below⟩ := List.pairwise_append.mp first
  obtain ⟨firstDistinct, backDistinct, _⟩ := List.nodup_append.mp distinct
  rw [heardBy_append, heardBy_append, heardBy_range member, heardBy_calls firstDistinct,
    heardBy_calls backDistinct]
  rcases List.mem_append.mp here with early | late
  · have notBack : callback ∉ back := fun late => Nat.lt_irrefl _ (apart _ early _ late)
    have low : callback ≤ caller := by
      rcases List.mem_append.mp early with before | is
      · exact Nat.le_of_lt (below _ before _ (List.mem_singleton_self caller))
      · exact Nat.le_of_eq (List.mem_singleton.mp is)
    rw [if_pos early, if_neg notBack, if_pos low]
    rfl
  · have high : caller < callback := apart _ (List.mem_concat_self) _ late
    have notFirst : callback ∉ front ++ [caller] :=
      fun early => Nat.lt_irrefl _ (apart _ early _ late)
    rw [if_neg notFirst, if_pos late, if_neg (Nat.not_le.mpr high)]
    rfl

theorem Announced.setConnectionState (announced : connection.Announced)
    (state : ReconnectionState) (error : Option NodeError)
    : (connection.setConnectionState state error).Announced := by
  by_cases same : connection.connectionState = state
  · rw [setConnectionState_of_same same]
    exact announced
  · have entered := connection.adds_enter state error
    cases announces_setConnectionState same error with
    | told adds current =>
        refine announced.extend (entered.trans adds) ?_ ?_ ?_ ?_
        · simpa using same
        · exact congrArg some current.symm
        · intro callback member
          exact .of_eq (heardBy_range member state error)
        · intro callback member _
          exact heardBy_range member state error
    | @closed front back caller split called connected adds current =>
        have adds := entered.trans adds
        refine announced.extend adds ?_ ?_ ?_ ?_
        · simpa using ⟨same, connected⟩
        · exact congrArg some current.symm
        · intro callback member
          refine .trans (.of_eq (heardBy_closed split member state error)) ?_
          split
          · exact .refl _
          · exact .swap _ _ _
        · intro callback member peace
          -- the call that closed the client was that of `caller`
          have spoken
            : (connection.setConnectionState state error).told[connection.told.length
                + front.length]?
              = some (caller, state, error) := by
            rw [adds.told]
            simp [calls]
          have low : callback ≤ caller :=
            peace _ (by rw [adds.callbacks]; exact called) _ spoken
          exact (heardBy_closed split member state error).trans (if_pos low)

theorem Announced.close (announced : connection.Announced) : connection.close.Announced := by
  rw [close_eq]
  have shut : connection.shut.Announced :=
    ⟨announced.changes, announced.current, announced.everyone, announced.inOrder⟩
  exact shut.setConnectionState .disconnected none

end Changes
-----------------------------------------------------------------------------------------
-- What `setConnectionState` and `close` keep
-----------------------------------------------------------------------------------------

section Keeps

variable (kept : NodeConnection → Prop)
  (enters
    : ∀ {connection : NodeConnection} (state : ReconnectionState) (error : Option NodeError),
        kept connection → kept (connection.enter state error))
  (tells
    : ∀ {connection : NodeConnection} (callback : Nat) (state : ReconnectionState)
        (error : Option NodeError),
        kept connection → kept (connection.tell callback state error))

include enters tells

theorem changeState_keeps {close : NodeConnection → NodeConnection}
    (closes : ∀ {connection : NodeConnection}, kept connection → kept (close connection))
    {connection : NodeConnection} (holds : kept connection) (state : ReconnectionState)
    (error : Option NodeError)
    : kept (connection.changeState close state error) := by
  unfold changeState
  split
  · exact holds
  · refine List.foldlRecOn _ _ (enters state error holds) ?_
    intro connection holds callback _
    unfold callBack
    split
    · exact closes (tells callback state error holds)
    · exact tells callback state error holds

variable (shuts : ∀ {connection : NodeConnection}, kept connection → kept connection.shut)

include shuts

theorem close_keeps {connection : NodeConnection} (holds : kept connection)
    : kept connection.close := by
  have again {inner : NodeConnection} (holds : kept inner)
      : kept (inner.shut.changeState id .disconnected none) :=
    changeState_keeps kept enters tells (fun holds => holds) (shuts holds) .disconnected none
  exact changeState_keeps kept enters tells again (shuts holds) .disconnected none

theorem setConnectionState_keeps {connection : NodeConnection} (holds : kept connection)
    (state : ReconnectionState) (error : Option NodeError)
    : kept (connection.setConnectionState state error) := by
  have closes {inner : NodeConnection} (holds : kept inner) : kept inner.close :=
    close_keeps kept enters tells shuts holds
  exact changeState_keeps kept enters tells closes holds state error

end Keeps

end NodeConnection
end NexusD.Clients
