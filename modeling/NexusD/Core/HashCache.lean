import NexusD.Core.TopicHash
import NexusD.Library.DirtyCache

/-! `getLocalTopicHash` under concurrency.
The cached hash and its flag are atomics of their own; only the computation takes the
subscription lock. Changes of the subscriptions take that lock and set the flag.
-/

namespace NexusD.Core

open NexusD.Library

/-- A call that changes the subscriptions, with the clock reading it makes. -/
inductive SubscriptionChange where
  | add (now : TimePoint) (subscriptionId clientId : ByteString) (topics : List ByteString)
      (maxBufferSize : Int)
  | remove (now : TimePoint) (subscriptionId : ByteString) (pause : Bool) (ttlMs : Int)
  | resume (now : TimePoint) (subscriptionId : ByteString)

namespace PeerRegistry

def apply (registry : PeerRegistry) : SubscriptionChange → PeerRegistry
  | .add now subscriptionId clientId topics maxBufferSize =>
      (registry.addLocalSubscription now subscriptionId clientId topics maxBufferSize).1
  | .remove now subscriptionId pause ttlMs =>
      (registry.removeLocalSubscription now subscriptionId pause ttlMs).1
  | .resume now subscriptionId => (registry.resumeSubscription now subscriptionId).1

/-- `getLocalTopicHash` with nobody else at work; the index is walked if the flag is set. -/
def getLocalTopicHash (registry : PeerRegistry)
    (order : IterationOrder ByteString := .asStored)
    : PeerRegistry × UInt64 :=
  let refreshed :=
    if registry.hashDirty then
      { registry with
        cachedLocalHash := registry.computeLocalTopicHash order, hashDirty := false }
    else
      registry
  (refreshed, refreshed.cachedLocalHash)

theorem getLocalTopicHash_order (registry : PeerRegistry) (order : IterationOrder ByteString)
    : registry.getLocalTopicHash order = registry.getLocalTopicHash := by
  simp only [getLocalTopicHash, computeLocalTopicHash_sorted]

/-- A change leaves the cache alone; if it touches the index, it sets the flag. -/
theorem apply_cache (registry : PeerRegistry) (change : SubscriptionChange)
    : (registry.apply change).cachedLocalHash = registry.cachedLocalHash
      ∧ ((registry.apply change).hashDirty = true
        ∨ (registry.apply change).hashDirty = registry.hashDirty
          ∧ (registry.apply change).topicToSubscriptions
            = registry.topicToSubscriptions) := by
  cases change with
  | add now subscriptionId clientId topics maxBufferSize =>
      unfold apply addLocalSubscription
      dsimp only
      split <;> simp
  | remove now subscriptionId pause ttlMs =>
      unfold apply removeLocalSubscription
      dsimp only
      split <;> simp
  | resume now subscriptionId =>
      unfold apply resumeSubscription
      dsimp only
      split
      · simp
      · split <;> simp

end PeerRegistry

/-- The registry and its callers of `getLocalTopicHash`. -/
structure HashThreads where
  registry : PeerRegistry
  calls : Nat → CachePc UInt64 := fun _ => .idle

namespace HashThreads

inductive Action where
  | change (change : SubscriptionChange)
  /-- a call begins -/
  | call (thread : Nat)
  | step (thread : Nat)

def setCall (state : HashThreads) (thread : Nat) (pc : CachePc UInt64) : HashThreads :=
  { state with calls := Function.update state.calls thread pc }

/-- The next step of a call. -/
def callStep (state : HashThreads) (thread : Nat) : Option HashThreads :=
  match state.calls thread with
  | .idle => none
  | .starting =>
      -- `if (hashDirty_.load())`
      some
        (state.setCall thread (if state.registry.hashDirty then .computing else .loading))
  | .computing =>
      some (state.setCall thread (.storing state.registry.computeLocalTopicHash))
  | .storing hash =>
      some { state.setCall thread .clearing with
        registry := { state.registry with cachedLocalHash := hash } }
  | .clearing =>
      some { state.setCall thread .loading with
        registry := { state.registry with hashDirty := false } }
  | .loading => some (state.setCall thread .idle)

def step (state : HashThreads) : Action → Option HashThreads
  | .change change => some { state with registry := state.registry.apply change }
  | .call thread =>
      match state.calls thread with
      | .idle => some (state.setCall thread .starting)
      | _ => none
  | .step thread => state.callStep thread

/-- A node that has just started. -/
def start (localNodeId : ByteString) : HashThreads where
  registry := { localNodeId }

/-- A call that runs alone is the sequential function. -/
theorem exec_getLocalTopicHash {state : HashThreads} {thread : Nat}
    (idle : state.calls thread = .idle)
    : exec step state
        (.call thread
          :: List.replicate (if state.registry.hashDirty then 5 else 2) (.step thread))
      = some { state with registry := state.registry.getLocalTopicHash.1 } := by
  have back : Function.update state.calls thread .idle = state.calls :=
    Function.update_eq_self_iff.mpr idle.symm
  cases dirty : state.registry.hashDirty with
  | false =>
      simp [step, callStep, setCall, idle, dirty, List.replicate, back,
        PeerRegistry.getLocalTopicHash]
  | true =>
      simp [step, callStep, setCall, idle, dirty, List.replicate, back,
        PeerRegistry.getLocalTopicHash]

/-- The registry as a cache of the hash of its sorted topics. -/
def view (state : HashThreads) : DirtyCache (List ByteString) UInt64 where
  data := state.registry.sortedTopics
  cached := state.registry.cachedLocalHash
  dirty := state.registry.hashDirty
  readers := state.calls

/-- Every step is one of the cache, or changes nothing the cache shows. -/
theorem view_step {state after : HashThreads} {action : Action}
    (taken : state.step action = some after)
    : after.view = state.view
      ∨ ∃ cacheAction,
          state.view.step Crc64.computeStrings cacheAction = some after.view
          ∧ ∀ topics,
              cacheAction = .change topics
              → ∃ change,
                  action = .change change
                  ∧ topics = (state.registry.apply change).sortedTopics := by
  cases action with
  | change change =>
      cases taken
      obtain ⟨cached, flag⟩ := state.registry.apply_cache change
      rcases flag with set | ⟨same, index⟩
      · refine .inr ⟨.change (state.registry.apply change).sortedTopics, ?_, ?_⟩
        · simp [DirtyCache.step, view, cached, set]
        · intro topics is
          cases is
          exact ⟨change, rfl, rfl⟩
      · left
        simp [view, cached, same, PeerRegistry.sortedTopics, index]
  | call thread =>
      refine .inr ⟨.call thread, ?_, by simp⟩
      simp only [step] at taken
      split at taken
      · rename_i idle
        cases taken
        simp only [DirtyCache.step, view, idle]
        rfl
      · cases taken
  | step thread =>
      refine .inr ⟨.step thread, ?_, by simp⟩
      simp only [step, callStep] at taken
      cases pc : state.calls thread with
      | idle => simp [pc] at taken
      | starting | computing | storing | clearing | loading =>
          simp only [pc, Option.some.injEq] at taken
          subst taken
          simp only [DirtyCache.step, DirtyCache.readerStep, view, pc]
          rfl

-----------------------------------------------------------------------------------------
-- No lost invalidation
-----------------------------------------------------------------------------------------

def Settled (state : HashThreads) : Prop :=
  ∀ thread, state.calls thread = .idle

/-- If the flag is clear, the cached hash is the one of the current topics. -/
def CacheValid (state : HashThreads) : Prop :=
  state.registry.hashDirty = false
  → state.registry.cachedLocalHash = state.registry.computeLocalTopicHash

/-- A change of the topics comes while no call is between computing a hash and clearing the
flag.
-/
def SparesRefresh (state : HashThreads) : Action → Prop
  | .change change =>
      (state.registry.apply change).sortedTopics = state.registry.sortedTopics
      ∨ ∀ thread, ¬(state.calls thread).refreshing
  | .call _ | .step _ => True

theorem coherent_start (localNodeId : ByteString)
    : (start localNodeId).view.Coherent Crc64.computeStrings where
  clean clean := by cases clean
  storing thread hash is := by cases is
  clearing thread is := by cases is

theorem coherent_step {state after : HashThreads} {action : Action}
    (coherent : state.view.Coherent Crc64.computeStrings)
    (spares : state.SparesRefresh action) (taken : state.step action = some after)
    : after.view.Coherent Crc64.computeStrings := by
  rcases view_step taken with same | ⟨cacheAction, moved, changes⟩
  · rwa [same]
  · refine coherent.step ?_ moved
    intro topics is
    obtain ⟨change, rfl, rfl⟩ := changes topics is
    exact spares.imp_left (congrArg Crc64.computeStrings)

theorem sortedTopics_step {state after : HashThreads} {action : Action}
    (keeps
      : ∀ change,
          action = .change change
          → (state.registry.apply change).sortedTopics = state.registry.sortedTopics)
    (taken : state.step action = some after)
    : after.registry.sortedTopics = state.registry.sortedTopics := by
  cases action with
  | change change =>
      cases taken
      exact keeps change rfl
  | call thread =>
      simp only [step] at taken
      split at taken <;> cases taken
      rfl
  | step thread =>
      simp only [step, callStep] at taken
      split at taken <;> cases taken <;> rfl

theorem loadsCurrent_step {state after : HashThreads} {action : Action} {thread : Nat}
    (loads : state.view.LoadsCurrent Crc64.computeStrings thread)
    (coherent : state.view.Coherent Crc64.computeStrings)
    (keeps
      : ∀ change,
          action = .change change
          → (state.registry.apply change).sortedTopics = state.registry.sortedTopics)
    (taken : state.step action = some after)
    : after.view.LoadsCurrent Crc64.computeStrings thread := by
  rcases view_step taken with same | ⟨cacheAction, moved, changes⟩
  · rwa [same]
  · refine loads.step coherent ?_ moved
    intro topics is
    obtain ⟨change, changed, rfl⟩ := changes topics is
    exact congrArg Crc64.computeStrings (keeps change changed)

/-- In every run in which changes of the topics spare the refreshes in progress, a clear flag
means that the cached hash is the one of the current topics.
-/
theorem cacheValid_of_sparesRefresh (localNodeId : ByteString) (actions : List Action)
    (spares : Along step (start localNodeId) SparesRefresh actions)
    : Throughout step (start localNodeId) (fun state => state.Settled → state.CacheValid)
        actions := by
  intro early state isPrefix reached _
  have coherent :=
    exec_invariant SparesRefresh (fun state => state.view.Coherent Crc64.computeStrings)
      (coherent_start localNodeId)
      (fun coherent spares taken => coherent_step coherent spares taken) reached
      (spares.of_prefix isPrefix)
  exact coherent.clean

/-- A subscription to one topic. -/
def subscribeToA : Action := .change (.add 0 [49] [] [[97]] 0)

theorem cacheValid_after_subscribe
    : ∃ state,
        exec step (start []) (subscribeToA :: .call 0 :: List.replicate 5 (.step 0))
          = some state
        ∧ state.registry.hashDirty = false
        ∧ state.registry.cachedLocalHash = state.registry.computeLocalTopicHash := by
  have spares
    : Along step (start []) SparesRefresh
        (subscribeToA :: .call 0 :: List.replicate 5 (.step 0)) := by
    refine along_cons_iff.mpr ⟨.inr (fun _ no => no), fun next taken => ?_⟩
    intro earlier action later state split _
    have member : action ∈ Action.call 0 :: List.replicate 5 (.step 0) := by
      rw [split]
      simp
    rcases List.mem_cons.mp member with rfl | steps
    · trivial
    · obtain rfl := List.eq_of_mem_replicate steps
      trivial
  refine ⟨_, rfl, rfl, ?_⟩
  refine cacheValid_of_sparesRefresh [] _ spares _ _ (List.prefix_refl _) rfl ?_ rfl
  intro thread
  cases thread <;> rfl

/-- A call that is overtaken by a change of the hash, with no other call in progress, goes on
to leave a wrong hash with a clear flag.
-/
theorem stale_of_overtaken {state : HashThreads} {thread : Nat} {change : SubscriptionChange}
    (coherent : state.view.Coherent Crc64.computeStrings)
    (refreshing : (state.calls thread).refreshing)
    (alone : ∀ other, other ≠ thread → state.calls other = .idle)
    (alters
      : (state.registry.apply change).computeLocalTopicHash
        ≠ state.registry.computeLocalTopicHash)
    : ∃ later final,
        exec step state (.change change :: later) = some final
        ∧ final.Settled
        ∧ ¬final.CacheValid := by
  -- wherever the call stands, it is to store the old hash or has done so
  have ends
    : ∃ later,
        exec step state (.change change :: later)
          = some
              {
                registry :=
                  { state.registry.apply change with
                    cachedLocalHash := state.registry.computeLocalTopicHash
                    hashDirty := false }
                calls := Function.update state.calls thread .idle
              } := by
    cases pc : state.calls thread with
    | idle | starting | computing | loading =>
        rw [pc] at refreshing
        cases refreshing
    | storing hash =>
        obtain rfl : hash = _ := coherent.storing thread hash pc
        refine ⟨List.replicate 3 (.step thread), ?_⟩
        simp [step, callStep, setCall, pc, List.replicate, view,
          PeerRegistry.computeLocalTopicHash_sorted]
    | clearing =>
        have stored : state.registry.cachedLocalHash = state.registry.computeLocalTopicHash :=
          coherent.clearing thread pc
        refine ⟨List.replicate 2 (.step thread), ?_⟩
        simp [step, callStep, setCall, pc, List.replicate, ← stored,
          ← (state.registry.apply_cache change).1]
  obtain ⟨later, run⟩ := ends
  refine ⟨later, _, run, ?_, ?_⟩
  · intro other
    by_cases same : other = thread
    · simp [same]
    · simp [same, alone other same]
  · intro valid
    exact alters (valid rfl).symm

/-- Without a change, a call neither repairs a clear cache nor spoils it. -/
theorem cached_until_change {state final : HashThreads} {actions : List Action}
    (settled : state.Settled) (clean : state.registry.hashDirty = false)
    (unchanged : ∀ action ∈ actions, ∀ change, action ≠ .change change)
    (run : exec step state actions = some final)
    : final.registry.cachedLocalHash = state.registry.cachedLocalHash
      ∧ final.registry.computeLocalTopicHash = state.registry.computeLocalTopicHash := by
  have still
    : final.view.Undisturbed
      ∧ final.view.cached = state.view.cached
      ∧ final.view.data = state.view.data := by
    refine exec_invariant (fun _ action => ∀ change, action ≠ .change change)
      (fun after =>
        after.view.Undisturbed
        ∧ after.view.cached = state.view.cached
        ∧ after.view.data = state.view.data)
      ⟨⟨clean, fun thread => .inl (settled thread)⟩, rfl, rfl⟩ ?_ run ?_
    · intro before action after kept unchanged taken
      rcases view_step taken with same | ⟨cacheAction, moved, changes⟩
      · rwa [same]
      · have others : ∀ topics, cacheAction ≠ .change topics := by
          intro topics is
          obtain ⟨change, changed, _⟩ := changes topics is
          exact unchanged change changed
        obtain ⟨undisturbed, cached, data⟩ := kept.1.step others moved
        exact ⟨undisturbed, cached.trans kept.2.1, data.trans kept.2.2⟩
    · intro earlier action later between split _
      exact unchanged action (by simp [split])
  exact ⟨still.2.1, congrArg Crc64.computeStrings still.2.2⟩

/-- A subscription arrives between a call's computation and its store: the node goes on
advertising the hash of no topics, however often it is asked.
-/
theorem subscription_lost_to_refresh
    : ∃ state,
        exec step (start [])
            ([.call 0, .step 0, .step 0, subscribeToA] ++ List.replicate 3 (.step 0))
          = some state
        ∧ state.Settled
        ∧ ¬state.CacheValid
        ∧ ∀ actions final,
            (∀ action ∈ actions, ∀ change, action ≠ .change change)
            → exec step state actions = some final
            → final.registry.cachedLocalHash ≠ final.registry.computeLocalTopicHash := by
  have lost
    : ∃ state,
        exec step (start [])
            ([.call 0, .step 0, .step 0, subscribeToA] ++ List.replicate 3 (.step 0))
          = some state
        ∧ state.Settled
        ∧ state.registry.hashDirty = false
        ∧ state.registry.cachedLocalHash ≠ state.registry.computeLocalTopicHash := by
    refine ⟨_, rfl, ?_, rfl, by decide +kernel⟩
    intro thread
    cases thread <;> rfl
  obtain ⟨state, run, settled, clean, wrong⟩ := lost
  refine ⟨state, run, settled, fun valid => wrong (valid clean), ?_⟩
  intro actions final unchanged later
  obtain ⟨cached, computed⟩ := cached_until_change settled clean unchanged later
  rwa [cached, computed]

end HashThreads

end NexusD.Core
