import NexusD.Library.Execution
import NexusD.Services.SubscriptionTable

/-! `generateSubscriptionId` called by many threads.
A call takes a value from the atomic counter and builds the id from it in its own time, so ids
come back in another order than the values they were made from.
-/

namespace NexusD.Services

open NexusD.Core NexusD.Library SidecarService

/-- The counter, the values that calls have taken and not yet used, and the ids returned. -/
structure SubscriptionIds where
  subscriptionCounter : UInt64 := 0
  taken : Nat → Option UInt64 := fun _ => none
  returned : List ByteString := []

namespace SubscriptionIds

inductive Action where
  /-- `subscriptionCounter_.fetch_add(1)` -/
  | fetchAdd (thread : Nat)
  /-- the rest of the call, with the UUID that is generated in it -/
  | finish (thread : Nat) (uuid : ByteString)

def Action.isCall : Action → Bool
  | .fetchAdd _ => true
  | .finish _ _ => false

def step (state : SubscriptionIds) : Action → Option SubscriptionIds
  | .fetchAdd thread =>
      match state.taken thread with
      | some _ => none
      | none =>
          some { state with
            subscriptionCounter := state.subscriptionCounter + 1
            taken := Function.update state.taken thread (some state.subscriptionCounter) }
  | .finish thread uuid =>
      match state.taken thread with
      | none => none
      | some counter =>
          some { state with
            taken := Function.update state.taken thread none
            returned := state.returned ++ [subscriptionIdOf counter.toNat uuid] }

/-- A call without others in between. -/
theorem exec_alone (service : SidecarService) (small : service.subscriptionCounter < 2 ^ 64)
    {state : SubscriptionIds}
    (same : state.subscriptionCounter = .ofNat service.subscriptionCounter) {thread : Nat}
    (idle : state.taken thread = none) (uuid : ByteString)
    : ∃ after,
        exec step state [.fetchAdd thread, .finish thread uuid] = some after
        ∧ after.subscriptionCounter
          = .ofNat (service.generateSubscriptionId uuid).1.subscriptionCounter
        ∧ after.returned = state.returned ++ [(service.generateSubscriptionId uuid).2] := by
  have number : state.subscriptionCounter.toNat = service.subscriptionCounter := by
    rw [same, UInt64.toNat_ofNat', Nat.mod_eq_of_lt small]
  refine ⟨{ state with
    subscriptionCounter := state.subscriptionCounter + 1
    taken := Function.update
      (Function.update state.taken thread (some state.subscriptionCounter)) thread none
    returned := state.returned ++ [(service.generateSubscriptionId uuid).2] }, ?_, ?_, rfl⟩
  · simp [step, idle, generateSubscriptionId, number]
  · simp [generateSubscriptionId, same]

/-- After `calls` calls, each value below `calls` is with one thread or in one id. -/
structure Distinct (calls : Nat) (state : SubscriptionIds) : Prop where
  counter : state.subscriptionCounter = .ofNat calls
  older : ∀ id ∈ state.returned, counterOf id < calls
  nodup : (state.returned.map counterOf).Nodup
  pending
    : ∀ {thread counter}, state.taken thread = some counter
      → counter.toNat < calls ∧ counter.toNat ∉ state.returned.map counterOf
  separate
    : ∀ {thread other counter}, state.taken thread = some counter
      → state.taken other = some counter → thread = other

theorem update_eq_some_iff {taken : Nat → Option UInt64} {thread other : Nat}
    {value : Option UInt64} {counter : UInt64}
    : Function.update taken thread value other = some counter
      ↔ other = thread ∧ value = some counter ∨ other ≠ thread ∧ taken other = some counter := by
  by_cases here : other = thread
  · simp [here]
  · simp [here]

/-- The value that is handed out is newer than all others. -/
theorem Distinct.fetchAdd {calls : Nat} {state after : SubscriptionIds} {thread : Nat}
    (distinct : Distinct calls state) (few : calls < 2 ^ 64)
    (taken : state.step (.fetchAdd thread) = some after)
    : Distinct (calls + 1) after := by
  have number : state.subscriptionCounter.toNat = calls := by
    rw [distinct.counter, UInt64.toNat_ofNat', Nat.mod_eq_of_lt few]
  have fresh {other : Nat} (held : state.taken other = some state.subscriptionCounter)
      : False := by
    have below := (distinct.pending held).1
    omega
  simp only [step] at taken
  split at taken
  · cases taken
  · cases taken
    constructor
    · simp [distinct.counter]
    · intro id member
      exact Nat.lt_succ_of_lt (distinct.older id member)
    · exact distinct.nodup
    · intro other counter held
      rcases update_eq_some_iff.mp held with ⟨_, same⟩ | ⟨_, earlier⟩
      · cases same
        rw [number]
        refine ⟨Nat.lt_succ_self calls, ?_⟩
        intro used
        obtain ⟨id, member, same⟩ := List.mem_map.mp used
        have below := distinct.older id member
        omega
      · obtain ⟨below, unused⟩ := distinct.pending earlier
        exact ⟨Nat.lt_succ_of_lt below, unused⟩
    · intro first second counter held held_too
      rcases update_eq_some_iff.mp held with ⟨here, same⟩ | ⟨_, earlier⟩
      · cases same
        rcases update_eq_some_iff.mp held_too with ⟨here_too, _⟩ | ⟨_, earlier⟩
        · rw [here, here_too]
        · exact (fresh earlier).elim
      · rcases update_eq_some_iff.mp held_too with ⟨_, same⟩ | ⟨_, earlier_too⟩
        · cases same
          exact (fresh earlier).elim
        · exact distinct.separate earlier earlier_too

/-- A value goes from the thread into its id. -/
theorem Distinct.finish {calls : Nat} {state after : SubscriptionIds} {thread : Nat}
    {uuid : ByteString} (distinct : Distinct calls state)
    (taken : state.step (.finish thread uuid) = some after)
    : Distinct calls after := by
  simp only [step] at taken
  split at taken
  · cases taken
  · rename_i counter held
    cases taken
    obtain ⟨below, unused⟩ := distinct.pending held
    constructor
    · exact distinct.counter
    · intro id member
      rcases List.mem_append.mp member with earlier | last
      · exact distinct.older id earlier
      · rw [List.mem_singleton.mp last, counterOf_subscriptionIdOf]
        exact below
    · rw [List.map_append, List.map_singleton, counterOf_subscriptionIdOf]
      exact List.nodup_append_comm.mpr (List.nodup_cons.mpr ⟨unused, distinct.nodup⟩)
    · intro other value held_too
      rcases update_eq_some_iff.mp held_too with ⟨_, nothing⟩ | ⟨elsewhere, earlier⟩
      · cases nothing
      · obtain ⟨below_too, unused_too⟩ := distinct.pending earlier
        refine ⟨below_too, ?_⟩
        rw [List.map_append, List.map_singleton, counterOf_subscriptionIdOf, List.mem_append,
          List.mem_singleton]
        intro used
        rcases used with before | same
        · exact unused_too before
        · rw [UInt64.toNat_inj.mp same] at earlier
          exact elsewhere (distinct.separate earlier held)
    · intro first second value held_first held_second
      rcases update_eq_some_iff.mp held_first with ⟨_, nothing⟩ | ⟨_, earlier⟩
      · cases nothing
      · rcases update_eq_some_iff.mp held_second with ⟨_, nothing⟩ | ⟨_, earlier_too⟩
        · cases nothing
        · exact distinct.separate earlier earlier_too

theorem distinct_of_exec {actions : List Action} {final : SubscriptionIds}
    (run : exec step {} actions = some final) (few : actions.countP Action.isCall ≤ 2 ^ 64)
    : Distinct (actions.countP Action.isCall) final := by
  refine exec_induction
    (motive := fun actions state =>
      actions.countP Action.isCall ≤ 2 ^ 64 → Distinct (actions.countP Action.isCall) state)
    ?_ ?_ run few
  · intro _
    constructor <;> simp
  · intro actions state action after _ ih taken few
    rw [List.countP_append] at few ⊢
    cases action with
    | fetchAdd thread =>
        have one : [Action.fetchAdd thread].countP Action.isCall = 1 := rfl
        rw [one] at few ⊢
        exact (ih (by omega)).fetchAdd (by omega) taken
    | finish thread uuid => exact (ih few).finish taken

/-- Of fewer than `2 ^ 64` calls no two return the same id, in any interleaving and whatever
the UUIDs are: every id gives away the value it was made from.
-/
theorem subscriptionIds_nodup {actions : List Action} {final : SubscriptionIds}
    (run : exec step {} actions = some final) (few : actions.countP Action.isCall < 2 ^ 64)
    : final.returned.Nodup
      ∧ (final.returned.map counterOf).Nodup
      ∧ ∀ (counter : UInt64) (uuid : ByteString),
          counterOf (subscriptionIdOf counter.toNat uuid) = counter.toNat := by
  have distinct := distinct_of_exec run (Nat.le_of_lt few)
  refine ⟨distinct.nodup.of_map, distinct.nodup, ?_⟩
  intro counter uuid
  exact counterOf_subscriptionIdOf counter.toNat uuid

/-- Two calls, the later one done first. -/
def twoCalls : List Action :=
  [.fetchAdd 0, .fetchAdd 1, .finish 1 [48], .finish 0 [48]]

theorem subscriptionIds_nodup_twoCalls
    : ∃ final,
        exec step {} twoCalls = some final
        ∧ twoCalls.countP Action.isCall < 2 ^ 64
        ∧ final.returned.Nodup
        ∧ (final.returned.map counterOf).Nodup
        ∧ ∀ (counter : UInt64) (uuid : ByteString),
            counterOf (subscriptionIdOf counter.toNat uuid) = counter.toNat :=
  ⟨_, rfl, by decide, subscriptionIds_nodup rfl (by decide : twoCalls.countP _ < 2 ^ 64)⟩

end SubscriptionIds

end NexusD.Services
