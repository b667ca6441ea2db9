import Mathlib.Data.Int.Notation
import Mathlib.Data.Option.Basic
import Mathlib.Logic.Function.Basic

/-! Failure detection by heartbeats.
A table remembers when each key was last heard of. A sweep drops the keys that have been silent
for as long as the patience, and at the latest one period after the last sweep the next one is
due. A key is then kept for the patience, and no longer than patience and period together.
-/

namespace NexusD.Library

structure Heartbeats (Key : Type*) where
  lastHeard : Key → Option Int
  /-- the last reading of the clock -/
  clock : Int
  lastSweep : Int

namespace Heartbeats

variable {Key : Type*} {table : Heartbeats Key} {patience period : Int}

def hear [DecidableEq Key] (table : Heartbeats Key) (key : Key) (heard now : Int)
    : Heartbeats Key :=
  { table with lastHeard := Function.update table.lastHeard key (some heard), clock := now }

def wait (table : Heartbeats Key) (now : Int) : Heartbeats Key := { table with clock := now }

/-- The sweep is decided on at `now`, and it measures the silence at `swept`. -/
def sweep (table : Heartbeats Key) (patience now swept : Int) : Heartbeats Key where
  lastHeard key := (table.lastHeard key).filter (fun heard => decide (swept < heard + patience))
  clock := swept
  lastSweep := now

/-- Nothing was heard after the last reading, and the last sweep has left no silent key. -/
structure Timely (patience : Int) (table : Heartbeats Key) : Prop where
  swept : table.lastSweep ≤ table.clock
  heard
    : ∀ key heard,
        table.lastHeard key = some heard
        → heard ≤ table.clock ∧ table.lastSweep < heard + patience

/-- Every key has been heard of less than `bound` ago. -/
def Recent (bound : Int) (table : Heartbeats Key) : Prop :=
  ∀ key heard, table.lastHeard key = some heard → table.clock < heard + bound

/-- The key has been heard of at `since` or later. -/
def HeardSince (key : Key) (since : Int) (table : Heartbeats Key) : Prop :=
  ∃ heard, table.lastHeard key = some heard ∧ since ≤ heard

theorem lastHeard_of_hear [DecidableEq Key] {key other : Key} {heard now time : Int}
    (found : (table.hear key heard now).lastHeard other = some time)
    : other = key ∧ time = heard ∨ table.lastHeard other = some time := by
  simp only [hear] at found
  by_cases same : other = key
  · subst same
    rw [Function.update_self, Option.some.injEq] at found
    exact .inl ⟨rfl, found.symm⟩
  · rw [Function.update_of_ne same] at found
    exact .inr found

theorem Timely.hear [DecidableEq Key] (timely : table.Timely patience)
    (positive : 0 < patience) {key : Key} {heard now : Int} (later : table.clock ≤ heard)
    (read : heard ≤ now)
    : (table.hear key heard now).Timely patience where
  swept := Int.le_trans timely.swept (Int.le_trans later read)
  heard other time found := by
    have swept : table.lastSweep ≤ table.clock := timely.swept
    simp only [Heartbeats.hear]
    rcases lastHeard_of_hear found with ⟨_, rfl⟩ | older
    · omega
    · have known := timely.heard other time older
      omega

theorem Timely.wait (timely : table.Timely patience) {now : Int} (later : table.clock ≤ now)
    : (table.wait now).Timely patience where
  swept := Int.le_trans timely.swept later
  heard key heard found :=
    ⟨Int.le_trans (timely.heard key heard found).1 later, (timely.heard key heard found).2⟩

theorem Timely.sweep (timely : table.Timely patience) {now swept : Int}
    (later : table.clock ≤ now) (read : now ≤ swept)
    : (table.sweep patience now swept).Timely patience where
  swept := read
  heard key heard found := by
    obtain ⟨known, patient⟩ := Option.filter_eq_some_iff.mp found
    have before := (timely.heard key heard known).1
    simp only [Heartbeats.sweep, decide_eq_true_eq] at patient ⊢
    omega

/-- As long as no sweep is due, the last one was not long ago. -/
theorem Timely.recent_wait (timely : table.Timely patience) {now : Int}
    (soon : now < table.lastSweep + period)
    : (table.wait now).Recent (patience + period) := by
  intro key heard found
  have known := (timely.heard key heard found).2
  simp only [Heartbeats.wait]
  omega

theorem recent_sweep (table : Heartbeats Key) (now swept : Int) (positive : 0 ≤ period)
    : (table.sweep patience now swept).Recent (patience + period) := by
  intro key heard found
  obtain ⟨_, patient⟩ := Option.filter_eq_some_iff.mp found
  simp only [sweep, decide_eq_true_eq] at patient ⊢
  omega

theorem heardSince_hear [DecidableEq Key] (table : Heartbeats Key) (key : Key)
    {heard now since : Int} (late : since ≤ heard)
    : (table.hear key heard now).HeardSince key since :=
  ⟨heard, Function.update_self _ _ _, late⟩

theorem HeardSince.hear [DecidableEq Key] {key : Key} {since : Int}
    (kept : table.HeardSince key since) (other : Key) {heard now : Int} (late : since ≤ heard)
    : (table.hear other heard now).HeardSince key since := by
  by_cases same : key = other
  · subst same
    exact heardSince_hear table key late
  · obtain ⟨time, found, after⟩ := kept
    exact ⟨time, (Function.update_of_ne same _ _).trans found, after⟩

theorem HeardSince.sweep {key : Key} {since : Int} (kept : table.HeardSince key since)
    {now swept : Int} (patient : swept < since + patience)
    : (table.sweep patience now swept).HeardSince key since := by
  obtain ⟨heard, found, after⟩ := kept
  refine ⟨heard, Option.filter_eq_some_iff.mpr ⟨found, ?_⟩, after⟩
  simp only [decide_eq_true_eq]
  omega

end Heartbeats

end NexusD.Library
