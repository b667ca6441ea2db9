import NexusD.Library.Execution

/-! Two-run properties from properties of one step.
An observer of a system sees a view of its state. If every action either leaves the view alone
or acts on the view itself, then what the observer sees is a function of the actions of the
second kind, and two runs that agree on these look alike.
-/

namespace NexusD.Library

variable {State Action View Input : Type*} {step : State → Action → Option State}

/-- Actions that change nothing can be left out of a schedule. -/
theorem exec_filter {start : State} (keep : Action → Bool) (invariant : State → Prop)
    (initial : invariant start)
    (preserved
      : ∀ {state action after},
          invariant state → step state action = some after → invariant after)
    (idle
      : ∀ {state action},
          invariant state → keep action = false → step state action = some state)
    (actions : List Action)
    : exec step start (actions.filter keep) = exec step start actions := by
  induction actions generalizing start with
  | nil => rfl
  | cons action rest ih =>
      rw [exec_cons]
      cases kept : keep action with
      | false =>
          rw [List.filter_cons_of_neg (by simp [kept]), idle initial kept, Option.bind_some]
          exact ih initial
      | true =>
          rw [List.filter_cons_of_pos kept, exec_cons]
          refine Option.bind_congr ?_
          intro next taken
          exact ih (preserved initial taken)

/-- If every action that meets the condition is one of another system, or none, on the view,
then a run of the system that meets it throughout shows a run of the other.
-/
theorem exec_project_along {start final : State} {viewStep : View → Input → Option View}
    (view : State → View) (input : Action → Option Input) (condition : State → Action → Prop)
    (invariant : State → Prop) (initial : invariant start)
    (preserved
      : ∀ {state action after},
          invariant state → step state action = some after → invariant after)
    (moves
      : ∀ {state action after},
          invariant state
          → condition state action
          → step state action = some after
          → exec viewStep (view state) (input action).toList = some (view after))
    {actions : List Action} (run : exec step start actions = some final)
    (along : Along step start condition actions)
    : exec viewStep (view start) (actions.filterMap input) = some (view final) := by
  refine exec_induction
    (motive := fun actions state =>
      Along step start condition actions
      → exec viewStep (view start) (actions.filterMap input) = some (view state))
    (fun _ => rfl) ?_ run along
  intro actions state action after reached ih taken along
  have last : [action].filterMap input = (input action).toList := by
    cases given : input action <;> simp [given]
  have earlier := ih (along.of_prefix (List.prefix_append _ _))
  rw [List.filterMap_append, exec_append, earlier, Option.bind_some, last]
  exact moves (exec_always invariant initial preserved reached) (along.last reached) taken

theorem exec_project {start final : State} {viewStep : View → Input → Option View}
    (view : State → View) (input : Action → Option Input) (invariant : State → Prop)
    (initial : invariant start)
    (preserved
      : ∀ {state action after},
          invariant state → step state action = some after → invariant after)
    (moves
      : ∀ {state action after},
          invariant state
          → step state action = some after
          → exec viewStep (view state) (input action).toList = some (view after))
    {actions : List Action} (run : exec step start actions = some final)
    : exec viewStep (view start) (actions.filterMap input) = some (view final) :=
  exec_project_along view input (fun _ _ => True) invariant initial preserved
    (fun holds _ taken => moves holds taken) run (fun _ _ _ _ _ _ => trivial)

end NexusD.Library
