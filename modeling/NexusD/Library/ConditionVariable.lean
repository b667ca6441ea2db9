import Mathlib.Data.List.Perm.Basic

/-! The threads that wait on a condition variable.
A notification moves a thread out of the blocked ones, and so does a timeout or a spurious
wake-up; either way the thread is still waiting for the mutex until it runs again.
-/

namespace NexusD.Library

/-- The threads inside a wait. -/
structure WaitSet (Thread : Type*) where
  /-- asleep, with no notification for them -/
  blocked : List Thread := []
  /-- notified, not yet run again -/
  notified : List Thread := []
  /-- woken by a timeout or spuriously, not yet run again -/
  left : List Thread := []

namespace WaitSet

variable {Thread : Type*}

def waiting (waitSet : WaitSet Thread) : List Thread :=
  waitSet.blocked ++ (waitSet.notified ++ waitSet.left)

/-- The thread gives up the mutex and falls asleep. -/
def block (waitSet : WaitSet Thread) (thread : Thread) : WaitSet Thread :=
  { waitSet with blocked := thread :: waitSet.blocked }

/-- Notify every blocked thread. -/
def notifyAll (waitSet : WaitSet Thread) : WaitSet Thread :=
  { waitSet with blocked := [], notified := waitSet.blocked ++ waitSet.notified }

variable [DecidableEq Thread]

/-- Notify the blocked thread that the system chooses; without a blocked thread nothing happens.
-/
def notifyOne (waitSet : WaitSet Thread) (chosen : Thread) : Option (WaitSet Thread) :=
  if waitSet.blocked.isEmpty then
    some waitSet
  else if chosen ∈ waitSet.blocked then
    some { waitSet with
      blocked := waitSet.blocked.erase chosen
      notified := chosen :: waitSet.notified }
  else
    none

/-- A blocked thread wakes up without a notification. -/
def leave (waitSet : WaitSet Thread) (thread : Thread) : Option (WaitSet Thread) :=
  if thread ∈ waitSet.blocked then
    some { waitSet with
      blocked := waitSet.blocked.erase thread
      left := thread :: waitSet.left }
  else
    none

/-- A thread that was woken has the mutex again. -/
def rerun (waitSet : WaitSet Thread) (thread : Thread) : Option (WaitSet Thread) :=
  if thread ∈ waitSet.notified then
    some { waitSet with notified := waitSet.notified.erase thread }
  else if thread ∈ waitSet.left then
    some { waitSet with left := waitSet.left.erase thread }
  else
    none

omit [DecidableEq Thread] in
theorem block_waiting (waitSet : WaitSet Thread) (thread : Thread)
    : (waitSet.block thread).waiting = thread :: waitSet.waiting :=
  rfl

omit [DecidableEq Thread] in
theorem notifyAll_waiting (waitSet : WaitSet Thread)
    : waitSet.notifyAll.waiting = waitSet.waiting := by
  simp [waiting, notifyAll]

section Steps

variable {waitSet after : WaitSet Thread} {thread : Thread}

/-- Either nobody is blocked, or the chosen thread is now a notified one. -/
theorem notifyOne_cases (taken : waitSet.notifyOne thread = some after)
    : waitSet.blocked = [] ∧ after = waitSet
      ∨ thread ∈ waitSet.blocked
        ∧ after
          = { waitSet with
              blocked := waitSet.blocked.erase thread
              notified := thread :: waitSet.notified } := by
  unfold notifyOne at taken
  split at taken
  · rename_i empty
    exact Or.inl ⟨List.isEmpty_iff.mp empty, (Option.some.inj taken).symm⟩
  · split at taken
    · rename_i member
      exact Or.inr ⟨member, (Option.some.inj taken).symm⟩
    · cases taken

theorem leave_cases (taken : waitSet.leave thread = some after)
    : thread ∈ waitSet.blocked
      ∧ after
        = { waitSet with
            blocked := waitSet.blocked.erase thread
            left := thread :: waitSet.left } := by
  unfold leave at taken
  split at taken
  · rename_i member
    exact ⟨member, (Option.some.inj taken).symm⟩
  · cases taken

theorem rerun_cases (taken : waitSet.rerun thread = some after)
    : thread ∈ waitSet.notified
        ∧ after = { waitSet with notified := waitSet.notified.erase thread }
      ∨ thread ∈ waitSet.left
        ∧ after = { waitSet with left := waitSet.left.erase thread } := by
  unfold rerun at taken
  split at taken
  · rename_i member
    exact Or.inl ⟨member, (Option.some.inj taken).symm⟩
  · split at taken
    · rename_i member
      exact Or.inr ⟨member, (Option.some.inj taken).symm⟩
    · cases taken

theorem notifyOne_waiting (taken : waitSet.notifyOne thread = some after)
    : after.waiting.Perm waitSet.waiting := by
  rcases notifyOne_cases taken with ⟨_, rfl⟩ | ⟨member, rfl⟩
  · exact .rfl
  · exact List.perm_middle.trans ((List.perm_cons_erase member).symm.append_right _)

theorem leave_waiting (taken : waitSet.leave thread = some after)
    : after.waiting.Perm waitSet.waiting := by
  obtain ⟨member, rfl⟩ := leave_cases taken
  have moved
    : (waitSet.notified ++ thread :: waitSet.left).Perm
        (thread :: (waitSet.notified ++ waitSet.left)) :=
    List.perm_middle
  exact (moved.append_left _).trans
    (List.perm_middle.trans ((List.perm_cons_erase member).symm.append_right _))

theorem rerun_waiting (taken : waitSet.rerun thread = some after)
    : waitSet.waiting.Perm (thread :: after.waiting) := by
  rcases rerun_cases taken with ⟨member, rfl⟩ | ⟨member, rfl⟩
  · have moved := (List.perm_cons_erase member).append_right waitSet.left
    exact (moved.append_left waitSet.blocked).trans List.perm_middle
  · have moved := (List.perm_cons_erase member).append_left waitSet.notified
    exact ((moved.trans List.perm_middle).append_left waitSet.blocked).trans List.perm_middle

/-- A notification that leaves threads blocked has notified one. -/
theorem notifyOne_notified (taken : waitSet.notifyOne thread = some after)
    (blocked : after.blocked ≠ [])
    : waitSet.blocked ≠ [] ∧ after.notified.length = waitSet.notified.length + 1 := by
  rcases notifyOne_cases taken with ⟨empty, rfl⟩ | ⟨member, rfl⟩
  · exact absurd empty blocked
  · exact ⟨List.ne_nil_of_mem member, rfl⟩

theorem leave_notified (taken : waitSet.leave thread = some after)
    : waitSet.blocked ≠ [] ∧ after.notified = waitSet.notified := by
  obtain ⟨member, rfl⟩ := leave_cases taken
  exact ⟨List.ne_nil_of_mem member, rfl⟩

/-- Running again uses up at most one notification. -/
theorem rerun_notified (taken : waitSet.rerun thread = some after)
    : after.blocked = waitSet.blocked
      ∧ waitSet.notified.length ≤ after.notified.length + 1 := by
  rcases rerun_cases taken with ⟨member, rfl⟩ | ⟨_, rfl⟩
  · refine ⟨rfl, ?_⟩
    dsimp only
    rw [List.length_erase_of_mem member]
    omega
  · exact ⟨rfl, Nat.le_succ _⟩

end Steps

end WaitSet

end NexusD.Library
