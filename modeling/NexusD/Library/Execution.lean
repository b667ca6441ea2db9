import Mathlib.Data.List.Induction
import Mathlib.Data.Option.Basic
import Mathlib.Order.Bounds.Basic

/-! Finite executions of a partial step function, indexed by the actions taken.
An action names the thread that moves and whatever the environment decides for that move,
so an execution is a function of its action list and a schedule is just a list.
-/

namespace NexusD.Library

variable {State Action : Type*}

/-- Take the actions one after the other; `none` as soon as one of them is not enabled. -/
def exec (step : State → Action → Option State) (start : State) (actions : List Action)
    : Option State :=
  actions.foldlM step start

@[simp]
theorem exec_nil (step : State → Action → Option State) (start : State)
    : exec step start [] = some start :=
  rfl

@[simp]
theorem exec_cons (step : State → Action → Option State) (start : State) (action : Action)
    (rest : List Action)
    : exec step start (action :: rest)
      = (step start action).bind (fun next => exec step next rest) :=
  rfl

/-- Executions compose, by the monad law for the underlying fold. -/
theorem exec_append (step : State → Action → Option State) (start : State)
    (first second : List Action)
    : exec step start (first ++ second)
      = (exec step start first).bind (fun middle => exec step middle second) := by
  simp only [exec, List.foldlM_append, Option.bind_eq_bind]

/-- The last action of an execution starts in the state the others reached. -/
theorem exec_snoc (step : State → Action → Option State) (start : State)
    (actions : List Action) (action : Action)
    : exec step start (actions ++ [action])
      = (exec step start actions).bind (fun state => step state action) := by
  rw [exec_append]
  congr 1
  funext middle
  simp

variable {step : State → Action → Option State} {start state final : State} {action : Action}
  {actions : List Action} {condition : State → Action → Prop}

/-- If every action is enabled everywhere, every schedule runs to its end. -/
theorem exec_total (total : ∀ state action, ∃ after, step state action = some after)
    (start : State) (actions : List Action)
    : ∃ final, exec step start actions = some final := by
  induction actions generalizing start with
  | nil => exact ⟨start, rfl⟩
  | cons action rest ih =>
      obtain ⟨next, taken⟩ := total start action
      rw [exec_cons, taken, Option.bind_some]
      exact ih next

/-- An action inside a schedule is taken in the state its predecessors reached. -/
theorem exec_step_of_split {earlier later : List Action}
    (run : exec step start (earlier ++ action :: later) = some final)
    (reached : exec step start earlier = some state)
    : ∃ after,
        step state action = some after
        ∧ exec step start (earlier ++ [action]) = some after := by
  rw [exec_append, reached, Option.bind_some, exec_cons] at run
  obtain ⟨after, taken, _⟩ := Option.bind_eq_some_iff.mp run
  exact ⟨after, taken, by rw [exec_snoc, reached, Option.bind_some, taken]⟩

/-- Induction over executions, last action first. The motive may speak about the whole
schedule so far, not only about the state it reached.
-/
theorem exec_induction {motive : List Action → State → Prop} (initial : motive [] start)
    (next
      : ∀ {actions state action after},
          exec step start actions = some state
          → motive actions state
          → step state action = some after
          → motive (actions ++ [action]) after) (run : exec step start actions = some final)
    : motive actions final := by
  induction actions using List.reverseRecOn generalizing final with
  | nil =>
      cases run
      exact initial
  | append_singleton actions action ih =>
      rw [exec_snoc] at run
      obtain ⟨state, earlier, taken⟩ := Option.bind_eq_some_iff.mp run
      exact next earlier (ih earlier) taken

/-- What the steps of a schedule put out, one after the other. -/
def collect {Output : Type*} (step : State → Action → Option State)
    (output : State → Action → List Output)
    : State → List Action → List Output
  | _, [] => []
  | state, action :: rest =>
      output state action
      ++ match step state action with
        | none => []
        | some next => collect step output next rest

theorem collect_snoc {Output : Type*} {output : State → Action → List Output}
    (run : exec step start actions = some state) (action : Action)
    : collect step output start (actions ++ [action])
      = collect step output start actions ++ output state action := by
  induction actions generalizing start with
  | nil =>
      cases run
      cases taken : step state action <;> simp [collect, taken]
  | cons first rest ih =>
      rw [exec_cons] at run
      obtain ⟨next, taken, run⟩ := Option.bind_eq_some_iff.mp run
      simp only [List.cons_append, collect, taken, ih run, List.append_assoc]

/-- Every action of the schedule meets `condition` in the state where it is taken. -/
def Along (step : State → Action → Option State) (start : State)
    (condition : State → Action → Prop) (actions : List Action)
    : Prop :=
  ∀ earlier action later state,
    actions = earlier ++ action :: later
    → exec step start earlier = some state
    → condition state action

theorem along_nil
    : Along step start condition [] := by
  intro earlier mover later state split
  simp at split

/-- A step condition along a schedule, read from its first action on. -/
theorem along_cons_iff {rest : List Action}
    : Along step start condition (action :: rest)
      ↔ condition start action
        ∧ ∀ next ∈ step start action, Along step next condition rest := by
  constructor
  · intro along
    refine ⟨along [] action rest start rfl rfl, ?_⟩
    intro next taken earlier mover later state split reached
    refine along (action :: earlier) mover later state (by simp [split]) ?_
    rw [exec_cons, Option.mem_def.mp taken, Option.bind_some, reached]
  · intro both earlier mover later state split reached
    rcases both with ⟨met, along⟩
    cases earlier with
    | nil =>
        obtain ⟨rfl, rfl⟩ := List.cons.inj split
        cases reached
        exact met
    | cons first others =>
        obtain ⟨rfl, rfl⟩ := List.cons.inj split
        rw [exec_cons] at reached
        obtain ⟨next, taken, reached⟩ := Option.bind_eq_some_iff.mp reached
        exact along next taken others mover later state rfl reached

instance decidableAlong (step : State → Action → Option State)
    (condition : State → Action → Prop)
    [decidable : ∀ state action, Decidable (condition state action)]
    : (start : State) → (actions : List Action)
      → Decidable (Along step start condition actions)
  | _, [] => isTrue along_nil
  | start, action :: rest =>
      match taken : step start action with
      | none =>
          decidable_of_iff (condition start action) (by simp [along_cons_iff, taken])
      | some next =>
          have : Decidable (Along step next condition rest) :=
            decidableAlong step condition next rest
          decidable_of_iff (condition start action ∧ Along step next condition rest)
            (by simp [along_cons_iff, taken])

theorem Along.of_prefix {early : List Action} (along : Along step start condition actions)
    (isPrefix : early <+: actions)
    : Along step start condition early := by
  obtain ⟨rest, rfl⟩ := isPrefix
  intro earlier taken later state split reached
  exact along earlier taken (later ++ rest) state (by simp [split]) reached

/-- A step condition along a schedule holds along the rest of it, from where that starts. -/
theorem Along.of_suffix {middle : State} {early late : List Action}
    (along : Along step start condition (early ++ late))
    (reached : exec step start early = some middle)
    : Along step middle condition late := by
  intro earlier taken later state split there
  refine along (early ++ earlier) taken later state (by simp [split]) ?_
  rw [exec_append, reached, Option.bind_some, there]

/-- The last action of a conditioned schedule meets the condition. -/
theorem Along.last (along : Along step start condition (actions ++ [action]))
    (reached : exec step start actions = some state)
    : condition state action :=
  along actions action [] state rfl reached

/-- A step condition along a schedule, read up to its last action. -/
theorem along_snoc_iff (reached : exec step start actions = some state)
    : Along step start condition (actions ++ [action])
      ↔ Along step start condition actions ∧ condition state action := by
  constructor
  · intro along
    exact ⟨along.of_prefix (List.prefix_append _ _), along.last reached⟩
  · intro both earlier mover later current split there
    rcases both with ⟨along, met⟩
    rcases List.eq_nil_or_concat later with rfl | ⟨between, last, rfl⟩
    · obtain ⟨rfl, same⟩ := List.append_inj' split rfl
      cases same
      rw [reached] at there
      cases there
      exact met
    · rw [List.concat_eq_append, ← List.cons_append, ← List.append_assoc] at split
      obtain ⟨rfl, _⟩ := List.append_inj' split rfl
      exact along earlier mover between current rfl there

/-- Invariant rule: what holds at the start and is preserved by every enabled action that
meets the condition holds at the end of every schedule that meets it throughout.
-/
theorem exec_invariant (condition : State → Action → Prop) (invariant : State → Prop)
    (initial : invariant start)
    (preserved
      : ∀ {state action after},
          invariant state
          → condition state action
          → step state action = some after
          → invariant after) (run : exec step start actions = some final)
    (along : Along step start condition actions)
    : invariant final := by
  refine exec_induction
    (motive := fun actions state => Along step start condition actions → invariant state)
    (fun _ => initial) ?_ run along
  intro actions state action after reached ih taken along
  exact preserved (ih (along.of_prefix (List.prefix_append _ _))) (along.last reached) taken

/-- A step condition that an invariant implies holds along the schedule. -/
theorem along_of_invariant (invariant : State → Prop) (initial : invariant start)
    (preserved
      : ∀ {state action after},
          action ∈ actions
          → invariant state
          → step state action = some after
          → invariant after)
    (implies : ∀ {state action}, action ∈ actions → invariant state → condition state action)
    : Along step start condition actions := by
  intro earlier action later state same reached
  subst same
  apply implies (by simp)
  have inside : ∀ {taken}, taken ∈ earlier → taken ∈ earlier ++ action :: later :=
    fun member => List.mem_append_left _ member
  refine exec_invariant (fun _ taken => taken ∈ earlier) invariant initial
    (fun holds member taken => preserved (inside member) holds taken) reached ?_
  intro early taken late _ same _
  subst same
  simp

/-- A property that every enabled action preserves holds in every state a schedule reaches. -/
theorem exec_always (invariant : State → Prop) (initial : invariant start)
    (preserved
      : ∀ {state action after},
          invariant state → step state action = some after → invariant after)
    (run : exec step start actions = some final)
    : invariant final :=
  exec_invariant (fun _ _ => True) invariant initial (fun holds _ taken => preserved holds taken)
    run (fun _ _ _ _ _ _ => trivial)

/-- Within the schedule, `action` is taken in `before` and leads to `after`. -/
def Takes (step : State → Action → Option State) (start : State) (actions : List Action)
    (action : Action) (before after : State)
    : Prop :=
  ∃ earlier later,
    actions = earlier ++ action :: later
    ∧ exec step start earlier = some before
    ∧ step before action = some after

/-- A step within a schedule is its first or one of the rest. -/
theorem takes_cons_iff {next : State} {first : Action} (taken : step start first = some next)
    {later : List Action} {before after : State}
    : Takes step start (first :: later) action before after
      ↔ action = first ∧ before = start ∧ after = next
        ∨ Takes step next later action before after := by
  constructor
  · intro takes
    rcases takes with ⟨earlier, rest, split, reached, moved⟩
    cases earlier with
    | nil =>
        obtain ⟨rfl, rfl⟩ := List.cons.inj split
        cases reached
        rw [taken, Option.some.injEq] at moved
        exact .inl ⟨rfl, rfl, moved.symm⟩
    | cons head others =>
        obtain ⟨rfl, rfl⟩ := List.cons.inj split
        rw [exec_cons, taken, Option.bind_some] at reached
        exact .inr ⟨others, rest, rfl, reached, moved⟩
  · intro either
    rcases either with ⟨rfl, rfl, rfl⟩ | ⟨earlier, rest, rfl, reached, moved⟩
    · exact ⟨[], later, rfl, rfl, taken⟩
    · exact ⟨first :: earlier, rest, rfl, by rw [exec_cons, taken, Option.bind_some, reached],
        moved⟩

/-- The schedule passes through the state. -/
def Visits (step : State → Action → Option State) (start : State) (actions : List Action)
    (state : State)
    : Prop :=
  ∃ early, early <+: actions ∧ exec step start early = some state

theorem visits_nil_iff
    : Visits step start [] state ↔ state = start := by
  constructor
  · intro visits
    obtain ⟨early, isPrefix, reached⟩ := visits
    rw [List.prefix_nil.mp isPrefix] at reached
    cases reached
    rfl
  · intro same
    exact ⟨[], List.prefix_refl [], by rw [same, exec_nil]⟩

/-- One more action adds the state it leads to. -/
theorem visits_snoc_iff {before after : State}
    (reached : exec step start actions = some before) (taken : step before action = some after)
    : Visits step start (actions ++ [action]) state
      ↔ state = after ∨ Visits step start actions state := by
  have ends : exec step start (actions ++ [action]) = some after := by
    rw [exec_snoc, reached, Option.bind_some, taken]
  constructor
  · intro visits
    obtain ⟨early, isPrefix, there⟩ := visits
    rcases List.prefix_concat_iff.mp isPrefix with rfl | shorter
    · rw [ends, Option.some.injEq] at there
      exact .inl there.symm
    · exact .inr ⟨early, shorter, there⟩
  · intro either
    rcases either with rfl | ⟨early, isPrefix, there⟩
    · exact ⟨actions ++ [action], List.prefix_refl _, ends⟩
    · exact ⟨early, isPrefix.trans (List.prefix_append _ _), there⟩

/-- A value that every step updates to the maximum of itself and the new size is the largest
size on the way.
-/
theorem isGreatest_of_exec (size peak : State → Nat) (background : State → Prop)
    (initial : peak start = size start ∧ background start)
    (updated
      : ∀ {state action after},
          background state
          → step state action = some after
          → peak after = max (peak state) (size after) ∧ background after)
    (run : exec step start actions = some final)
    : IsGreatest { depth | ∃ state, Visits step start actions state ∧ depth = size state }
        (peak final) := by
  refine (exec_induction
    (motive := fun actions state =>
      IsGreatest { depth | ∃ state, Visits step start actions state ∧ depth = size state }
        (peak state)
      ∧ background state)
    ?_ ?_ run).1
  · refine ⟨⟨⟨start, visits_nil_iff.mpr rfl, initial.1⟩, ?_⟩, initial.2⟩
    intro depth member
    obtain ⟨state, visits, rfl⟩ := member
    rw [visits_nil_iff.mp visits, initial.1]
  · intro actions state action after reached both taken
    rcases both with ⟨greatest, holds⟩
    obtain ⟨raised, still⟩ := updated holds taken
    have sizes
      : { depth | ∃ state, Visits step start (actions ++ [action]) state ∧ depth = size state }
        = insert (size after)
            { depth | ∃ state, Visits step start actions state ∧ depth = size state } := by
      ext depth
      simp only [visits_snoc_iff reached taken, Set.mem_ofPred_eq, Set.mem_insert_iff,
        or_and_right, exists_or, exists_eq_left]
    rw [sizes, raised, max_comm]
    exact ⟨greatest.insert _, still⟩

/-- The property holds in every state the schedule passes through. -/
def Throughout (step : State → Action → Option State) (start : State)
    (property : State → Prop) (actions : List Action)
    : Prop :=
  ∀ early state, early <+: actions → exec step start early = some state → property state

/-- Where each step keeps the property exactly if it meets the condition, the states of a
schedule have the property exactly if its steps meet the condition.
-/
theorem throughout_iff_along (background property : State → Prop)
    (initial : background start ∧ property start)
    (preserved
      : ∀ {state action after},
          background state → step state action = some after → background after)
    (exact
      : ∀ {state action after},
          background state
          → property state
          → step state action = some after
          → (property after ↔ condition state action))
    (run : exec step start actions = some final)
    : Throughout step start property actions ↔ Along step start condition actions := by
  constructor
  · intro holds earlier action later state split reached
    subst split
    obtain ⟨after, taken, reachedAfter⟩ := exec_step_of_split run reached
    have before : property state := holds earlier state (List.prefix_append _ _) reached
    have behind : property after :=
      holds (earlier ++ [action]) after ⟨later, by simp⟩ reachedAfter
    exact (exact (exec_always background initial.1 preserved reached) before taken).mp behind
  · intro along early state isPrefix reached
    refine (exec_invariant condition (fun state => background state ∧ property state) initial
      ?_ reached (along.of_prefix isPrefix)).2
    intro state action after both met taken
    exact ⟨preserved both.1 taken, (exact both.1 both.2 taken).mpr met⟩

end NexusD.Library
