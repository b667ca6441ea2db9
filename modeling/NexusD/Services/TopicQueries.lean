import NexusD.Core.SubscriptionCalls

/-! `GetTopics` among the other calls of the registry.
The reactor asks for the topics and then for the subscriptions of one topic after the other.
Each question is a critical section of its own, so the subscriptions may change between them.
-/

namespace NexusD.Core.PeerRegistry

open NexusD.Library

/-- The number of active subscriptions that name the topic. -/
def activeCount (registry : PeerRegistry) (topic : ByteString) : Nat :=
  (registry.localSubscriptions.entries.filter
    (fun entry => entry.2.topics.contains topic)).length

theorem activeCount_pos_iff {registry : PeerRegistry} {topic : ByteString}
    : 0 < registry.activeCount topic
      ↔ ∃ id subscription,
          registry.localSubscriptions.lookup id = some subscription
          ∧ topic ∈ subscription.topics := by
  simp only [activeCount, List.length_pos_iff_exists_mem, List.mem_filter,
    List.contains_iff_mem]
  constructor
  · intro listed
    obtain ⟨⟨id, subscription⟩, member, covers⟩ := listed
    exact ⟨id, subscription, AList.mem_lookup_iff.mpr member, covers⟩
  · intro active
    obtain ⟨id, subscription, found, covers⟩ := active
    exact ⟨⟨id, subscription⟩, AList.mem_lookup_iff.mp found, covers⟩

/-- The active subscriptions that name the topic, without the index. -/
theorem Indexes.getLocalSubscriptions_perm {registry : PeerRegistry}
    (indexes : registry.Indexes) (order : IterationOrder ByteString) (topic : ByteString)
    : (registry.getLocalSubscriptions order topic).Perm
        ((registry.localSubscriptions.entries.filter
          (fun entry => entry.2.topics.contains topic)).map Sigma.snd) := by
  have named {entry : Sigma (fun _ : ByteString => LocalSubscription)}
      (member : entry ∈ registry.localSubscriptions.entries)
      : entry.2.subscriptionId = entry.1 :=
    indexes.named entry.1 entry.2 (AList.mem_lookup_iff.mpr member)
  have distinct
    : ((registry.localSubscriptions.entries.filter
        (fun entry => entry.2.topics.contains topic)).map Sigma.snd).Nodup := by
    refine List.Nodup.map_on ?_ (registry.localSubscriptions.nodupKeys.nodup.filter _)
    intro entry member other listed same
    have keys : entry.1 = other.1 := by
      rw [← named (List.mem_of_mem_filter member), ← named (List.mem_of_mem_filter listed),
        same]
    exact Sigma.ext keys (heq_of_eq same)
  rw [List.perm_ext_iff_of_nodup (indexes.nodup_getLocalSubscriptions order topic) distinct]
  intro subscription
  simp only [indexes.mem_getLocalSubscriptions, List.mem_map, List.mem_filter,
    List.contains_iff_mem]
  constructor
  · intro registered
    exact ⟨⟨_, subscription⟩, ⟨AList.mem_lookup_iff.mp registered.1, registered.2⟩, rfl⟩
  · intro listed
    obtain ⟨entry, ⟨member, covers⟩, rfl⟩ := listed
    rw [named member]
    exact ⟨AList.mem_lookup_iff.mpr member, covers⟩

theorem Indexes.length_getLocalSubscriptions {registry : PeerRegistry}
    (indexes : registry.Indexes) (order : IterationOrder ByteString) (topic : ByteString)
    : (registry.getLocalSubscriptions order topic).length = registry.activeCount topic := by
  rw [(indexes.getLocalSubscriptions_perm order topic).length_eq, List.length_map, activeCount]

end NexusD.Core.PeerRegistry

namespace NexusD.Services

open NexusD.Core NexusD.Library

/-- `static_cast<int32_t>` -/
def int32 (value : Int) : Int := value.bmod (2 ^ 32)

/-- A call of `GetTopics`: the topics its loop has yet to visit, and the response so far. -/
structure TopicQuery where
  remaining : List ByteString
  topics : AList (fun _ : ByteString => Int) := ∅

structure TopicQueries where
  registry : PeerRegistry
  queries : Nat → Option TopicQuery := fun _ => none

namespace TopicQueries

inductive Action where
  | registry (call : RegistryCall)
  /-- a call of `GetTopics` comes to `getLocalTopics` -/
  | getTopics (query : Nat) (order : IterationOrder ByteString)
  /-- a round of its loop -/
  | count (query : Nat) (order : IterationOrder ByteString)

def Action.call? : Action → Option RegistryCall
  | .registry call => some call
  | .getTopics _ _ | .count _ _ => none

def step (state : TopicQueries) : Action → Option TopicQueries
  | .registry call => some { state with registry := state.registry.execute call }
  | .getTopics query order =>
      match state.queries query with
      | some _ => none
      | none =>
          some { state with
            queries :=
              Function.update state.queries query
                (some { remaining := state.registry.getLocalTopics order }) }
  | .count query order =>
      match state.queries query with
      | some { remaining := topic :: rest, topics } =>
          let subs := state.registry.getLocalSubscriptions order topic
          some { state with
            queries :=
              Function.update state.queries query
                (some { remaining := rest, topics := topics.insert topic (int32 subs.length) }) }
      | _ => none

def start (localNodeId : ByteString) : TopicQueries where
  registry := { localNodeId }

/-- The response is complete when the loop has visited every topic. -/
def response? (state : TopicQueries) (query : Nat)
    : Option (AList (fun _ : ByteString => Int)) :=
  match state.queries query with
  | some { remaining := [], topics } => some topics
  | _ => none

variable {localNodeId : ByteString} {actions : List Action} {state after : TopicQueries}
  {action : Action}

theorem registry_of_exec (run : exec step (start localNodeId) actions = some state)
    : exec PeerRegistry.step { localNodeId } (actions.filterMap Action.call?)
      = some state.registry := by
  refine exec_induction
    (motive := fun actions state =>
      exec PeerRegistry.step { localNodeId } (actions.filterMap Action.call?)
      = some state.registry)
    rfl ?_ run
  intro actions state action after _ ih taken
  rw [List.filterMap_append, exec_append, ih, Option.bind_some]
  cases action with
  | registry call =>
      cases taken
      rfl
  | getTopics query order =>
      simp only [step] at taken
      split at taken <;> cases taken
      rfl
  | count query order =>
      simp only [step] at taken
      split at taken <;> cases taken
      rfl

/-- Before every action of a run that adds no id twice the index is correct. -/
theorem indexes_of_exec (run : exec step (start localNodeId) actions = some state)
    (once : RegistryCall.AddsOnce (actions.filterMap Action.call?))
    : state.registry.Indexes :=
  (PeerRegistry.sound_of_exec (registry_of_exec run) once).1.index

-----------------------------------------------------------------------------------------
-- What a response says
-----------------------------------------------------------------------------------------

/-- The call asks for the topics when this is the registry. -/
def AsksIn (localNodeId : ByteString) (actions : List Action) (query : Nat)
    (registry : PeerRegistry)
    : Prop :=
  ∃ earlier order later state,
    actions = earlier ++ .getTopics query order :: later
    ∧ exec step (start localNodeId) earlier = some state
    ∧ state.registry = registry

/-- The call, which has asked for the topics, counts in this registry. -/
def CountsIn (localNodeId : ByteString) (actions : List Action) (query : Nat)
    (registry : PeerRegistry)
    : Prop :=
  ∃ earlier order later state,
    actions = earlier ++ .count query order :: later
    ∧ exec step (start localNodeId) earlier = some state
    ∧ (∃ asked, AsksIn localNodeId earlier query asked)
    ∧ state.registry = registry

theorem AsksIn.later {query : Nat} {registry : PeerRegistry}
    (asks : AsksIn localNodeId actions query registry) (more : List Action)
    : AsksIn localNodeId (actions ++ more) query registry := by
  obtain ⟨earlier, order, later, state, rfl, reached, is⟩ := asks
  exact ⟨earlier, order, later ++ more, state, by simp, reached, is⟩

theorem CountsIn.later {query : Nat} {registry : PeerRegistry}
    (counts : CountsIn localNodeId actions query registry) (more : List Action)
    : CountsIn localNodeId (actions ++ more) query registry := by
  obtain ⟨earlier, order, later, state, rfl, reached, asked, is⟩ := counts
  exact ⟨earlier, order, later ++ more, state, by simp, reached, asked, is⟩

/-- What a call has read: the topics of one moment, and a count of another for each. -/
structure Answering (localNodeId : ByteString) (actions : List Action) (number : Nat)
    (query : TopicQuery)
    : Prop where
  topics
    : ∃ asked,
        AsksIn localNodeId actions number asked
        ∧ ∀ topic,
            topic ∈ query.remaining ∨ topic ∈ query.topics ↔ 0 < asked.activeCount topic
  counts
    : ∀ topic count,
        query.topics.lookup topic = some count
        → ∃ counted,
            CountsIn localNodeId actions number counted
            ∧ count = int32 (counted.activeCount topic)

theorem Answering.later {number : Nat} {query : TopicQuery}
    (answering : Answering localNodeId actions number query) (more : List Action)
    : Answering localNodeId (actions ++ more) number query := by
  obtain ⟨⟨asked, asks, listed⟩, counts⟩ := answering
  refine ⟨⟨asked, asks.later more, listed⟩, ?_⟩
  intro topic count found
  obtain ⟨counted, counts, is⟩ := counts topic count found
  exact ⟨counted, counts.later more, is⟩

/-- `getLocalTopics` -/
theorem answering_getTopics (run : exec step (start localNodeId) actions = some state)
    (indexes : state.registry.Indexes) (number : Nat) (order : IterationOrder ByteString)
    : Answering localNodeId (actions ++ [.getTopics number order]) number
        { remaining := state.registry.getLocalTopics order } where
  topics := by
    refine ⟨state.registry, ⟨actions, order, [], state, rfl, run, rfl⟩, ?_⟩
    intro topic
    have listed : topic ∈ state.registry.getLocalTopics order ↔ _ := indexes.mem_getLocalTopics
    rw [PeerRegistry.activeCount_pos_iff, ← listed]
    simp
  counts topic count found := by simp at found

/-- A round of the loop -/
theorem Answering.count {number : Nat} {topic : ByteString} {rest : List ByteString}
    {topics : AList (fun _ : ByteString => Int)}
    (answering : Answering localNodeId actions number ⟨topic :: rest, topics⟩)
    (run : exec step (start localNodeId) actions = some state)
    (indexes : state.registry.Indexes) (order : IterationOrder ByteString)
    : Answering localNodeId (actions ++ [.count number order]) number
        ⟨rest,
          topics.insert topic
            (int32 (state.registry.getLocalSubscriptions order topic).length)⟩ where
  topics := by
    obtain ⟨asked, asks, listed⟩ := answering.topics
    refine ⟨asked, asks.later _, ?_⟩
    intro other
    rw [← listed other]
    simp only [AList.mem_insert, List.mem_cons]
    tauto
  counts other count found := by
    by_cases same : other = topic
    · subst same
      rw [AList.lookup_insert, Option.some.injEq, indexes.length_getLocalSubscriptions] at found
      obtain ⟨asked, asks, _⟩ := answering.topics
      exact ⟨state.registry, ⟨actions, order, [], state, rfl, run, ⟨asked, asks⟩, rfl⟩,
        found.symm⟩
    · rw [AList.lookup_insert_ne same] at found
      exact (answering.later _).counts other count found

theorem answering_of_exec (run : exec step (start localNodeId) actions = some state)
    (once : RegistryCall.AddsOnce (actions.filterMap Action.call?))
    : ∀ number query,
        state.queries number = some query → Answering localNodeId actions number query := by
  refine exec_induction
    (motive := fun actions state =>
      RegistryCall.AddsOnce (actions.filterMap Action.call?)
      → ∀ number query,
          state.queries number = some query → Answering localNodeId actions number query)
    ?_ ?_ run once
  · intro _ number query found
    cases found
  · intro actions state action after reached ih taken once number query found
    have earlier : RegistryCall.AddsOnce (actions.filterMap Action.call?) := by
      rw [RegistryCall.AddsOnce, List.filterMap_append, List.filterMap_append] at once
      exact once.of_append_left
    have indexes := indexes_of_exec reached earlier
    have before := ih earlier
    cases action with
    | registry call =>
        cases taken
        exact (before number query found).later _
    | getTopics other order =>
        simp only [step] at taken
        split at taken <;> cases taken
        dsimp only at found
        by_cases same : number = other
        · subst same
          rw [Function.update_self, Option.some.injEq] at found
          subst found
          exact answering_getTopics reached indexes number order
        · rw [Function.update_of_ne same] at found
          exact (before number query found).later _
    | count other order =>
        simp only [step] at taken
        split at taken <;> cases taken
        rename_i topic rest topics was
        dsimp only at found
        by_cases same : number = other
        · subst same
          rw [Function.update_self, Option.some.injEq] at found
          subst found
          exact (before number _ was).count reached indexes order
        · rw [Function.update_of_ne same] at found
          exact (before number query found).later _

/-- A response of `GetTopics` lists exactly the topics that had an active subscription when the
call asked for them, and gives each the number of active subscriptions it had at a later
moment of the call.
-/
theorem getTopics_of_exec (run : exec step (start localNodeId) actions = some state)
    (once : RegistryCall.AddsOnce (actions.filterMap Action.call?)) {query : Nat}
    {topics : AList (fun _ : ByteString => Int)}
    (answered : state.response? query = some topics)
    : (∃ asked,
        AsksIn localNodeId actions query asked
        ∧ ∀ topic, topic ∈ topics ↔ 0 < asked.activeCount topic)
      ∧ ∀ topic count,
          topics.lookup topic = some count
          → ∃ counted,
              CountsIn localNodeId actions query counted
              ∧ count = int32 (counted.activeCount topic) := by
  unfold response? at answered
  split at answered <;> cases answered
  rename_i found
  obtain ⟨⟨asked, asks, listed⟩, counts⟩ := answering_of_exec run once query _ found
  refine ⟨⟨asked, asks, ?_⟩, counts⟩
  intro topic
  rw [← listed topic]
  simp

/-- One of two subscriptions goes while the call is between its questions. -/
def overtaken : List Action :=
  [ .registry (.change (.add 0 [1] [] [[97], [98]] 0)),
    .registry (.change (.add 0 [2] [] [[97]] 0)),
    .getTopics 0 .asStored,
    .registry (.change (.remove 5 [1] false 0)),
    .count 0 .asStored,
    .count 0 .asStored ]

theorem getTopics_overtaken
    : ∃ state topics,
        exec step (start [9]) overtaken = some state
        ∧ state.response? 0 = some topics
        ∧ topics.lookup [97] = some 1
        ∧ topics.lookup [98] = some 0
        ∧ ∃ asked,
            AsksIn [9] overtaken 0 asked
            ∧ ∀ topic, topic ∈ topics ↔ 0 < asked.activeCount topic := by
  have runs
    : ∃ state topics,
        exec step (start [9]) overtaken = some state
        ∧ state.response? 0 = some topics
        ∧ topics.lookup [97] = some 1
        ∧ topics.lookup [98] = some 0 :=
    ⟨_, _, rfl, rfl, by decide, by decide⟩
  have once : RegistryCall.AddsOnce (overtaken.filterMap Action.call?) := by
    unfold RegistryCall.AddsOnce
    decide
  obtain ⟨state, topics, run, answered, first, second⟩ := runs
  exact ⟨state, topics, run, answered, first, second,
    (getTopics_of_exec run once answered).1⟩

end TopicQueries

end NexusD.Services
