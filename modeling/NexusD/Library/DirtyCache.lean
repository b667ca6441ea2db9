import NexusD.Library.Execution
import Mathlib.Logic.Function.Basic

/-! A cached summary of shared data, with a flag that says the cache is out of date.
A reader that finds the flag set computes the summary, stores it, clears the flag and then
loads the cache; a writer changes the data and sets the flag. No lock spans a reader's steps,
so a change between a reader's computation and its clearing of the flag goes unnoticed.
-/

namespace NexusD.Library

/-- Where a reader stands. -/
inductive CachePc (Value : Type*) where
  | idle
  /-- next is the test of the flag -/
  | starting
  | computing
  | storing (value : Value)
  | clearing
  /-- next is the load whose value is returned -/
  | loading
deriving DecidableEq

structure DirtyCache (Data Value : Type*) where
  data : Data
  cached : Value
  dirty : Bool
  readers : Nat → CachePc Value

inductive CacheAction (Data : Type*) where
  | change (data : Data)
  | call (reader : Nat)
  | step (reader : Nat)

/-- The reader has computed a summary and has yet to clear the flag. -/
def CachePc.refreshing {Value : Type*} : CachePc Value → Prop
  | .storing _ | .clearing => True
  | .idle | .starting | .computing | .loading => False

namespace DirtyCache

variable {Data Value : Type*}

def setReader (cache : DirtyCache Data Value) (reader : Nat) (pc : CachePc Value)
    : DirtyCache Data Value :=
  { cache with readers := Function.update cache.readers reader pc }

def readerStep (summary : Data → Value) (cache : DirtyCache Data Value) (reader : Nat)
    : Option (DirtyCache Data Value) :=
  match cache.readers reader with
  | .idle => none
  | .starting =>
      some (cache.setReader reader (if cache.dirty then .computing else .loading))
  | .computing => some (cache.setReader reader (.storing (summary cache.data)))
  | .storing value => some { cache.setReader reader .clearing with cached := value }
  | .clearing => some { cache.setReader reader .loading with dirty := false }
  | .loading => some (cache.setReader reader .idle)

def step (summary : Data → Value) (cache : DirtyCache Data Value)
    : CacheAction Data → Option (DirtyCache Data Value)
  | .change data => some { cache with data, dirty := true }
  | .call reader =>
      match cache.readers reader with
      | .idle => some (cache.setReader reader .starting)
      | _ => none
  | .step reader => cache.readerStep summary reader

/-- The cache is right where the flag says so, and so is what readers are about to store. -/
structure Coherent (summary : Data → Value) (cache : DirtyCache Data Value) : Prop where
  clean : cache.dirty = false → cache.cached = summary cache.data
  storing
    : ∀ reader value, cache.readers reader = .storing value → value = summary cache.data
  clearing : ∀ reader, cache.readers reader = .clearing → cache.cached = summary cache.data

/-- A change of the summary does not overtake a refresh. -/
def SparesRefresh (summary : Data → Value) (cache : DirtyCache Data Value)
    (action : CacheAction Data)
    : Prop :=
  ∀ data,
    action = .change data
    → summary data = summary cache.data ∨ ∀ reader, ¬(cache.readers reader).refreshing

variable {summary : Data → Value}

variable {cache after : DirtyCache Data Value} {reader : Nat} {pc : CachePc Value}
  {action : CacheAction Data}

theorem Coherent.setReader (coherent : cache.Coherent summary)
    (storing : ∀ value, pc = .storing value → value = summary cache.data)
    (clearing : pc = .clearing → cache.cached = summary cache.data)
    : (cache.setReader reader pc).Coherent summary where
  clean := coherent.clean
  storing other value is := by
    by_cases same : other = reader
    · subst other
      exact storing value (by simpa [DirtyCache.setReader] using is)
    · exact coherent.storing other value (by simpa [DirtyCache.setReader, same] using is)
  clearing other is := by
    by_cases same : other = reader
    · subst other
      exact clearing (by simpa [DirtyCache.setReader] using is)
    · exact coherent.clearing other (by simpa [DirtyCache.setReader, same] using is)

theorem Coherent.readerStep (coherent : cache.Coherent summary)
    (taken : cache.readerStep summary reader = some after)
    : after.Coherent summary := by
  unfold DirtyCache.readerStep at taken
  cases pc : cache.readers reader with
  | idle => simp [pc] at taken
  | starting =>
      simp only [pc, Option.some.injEq] at taken
      subst taken
      apply coherent.setReader <;> split <;> simp
  | computing =>
      simp only [pc, Option.some.injEq] at taken
      subst taken
      apply coherent.setReader
      · intro value same
        cases same
        rfl
      · simp
  | storing value =>
      simp only [pc, Option.some.injEq] at taken
      subst taken
      have current := coherent.storing reader value pc
      refine ⟨fun _ => current, ?_, fun _ _ => current⟩
      intro other stored is
      by_cases same : other = reader
      · subst other
        simp [DirtyCache.setReader] at is
      · exact coherent.storing other stored (by simpa [DirtyCache.setReader, same] using is)
  | clearing =>
      simp only [pc, Option.some.injEq] at taken
      subst taken
      have moved : (cache.setReader reader .loading).Coherent summary :=
        coherent.setReader (by simp) (by simp)
      exact ⟨fun _ => coherent.clearing reader pc, moved.storing, moved.clearing⟩
  | loading =>
      simp only [pc, Option.some.injEq] at taken
      subst taken
      exact coherent.setReader (by simp) (by simp)

theorem Coherent.step (coherent : cache.Coherent summary)
    (spares : cache.SparesRefresh summary action)
    (taken : cache.step summary action = some after)
    : after.Coherent summary := by
  cases action with
  | change data =>
      cases taken
      rcases spares data rfl with same | none
      · refine ⟨by simp, ?_, ?_⟩
        · intro reader value is
          exact (coherent.storing reader value is).trans same.symm
        · intro reader is
          exact (coherent.clearing reader is).trans same.symm
      · refine ⟨by simp, ?_, ?_⟩
        · intro reader value is
          exact absurd (by simp [show cache.readers reader = _ from is, CachePc.refreshing])
            (none reader)
        · intro reader is
          exact absurd (by simp [show cache.readers reader = _ from is, CachePc.refreshing])
            (none reader)
  | call reader =>
      simp only [DirtyCache.step] at taken
      split at taken
      · cases taken
        exact coherent.setReader (by simp) (by simp)
      · cases taken
  | step reader => exact coherent.readerStep taken

/-- What the reader is about to return is right. -/
def LoadsCurrent (summary : Data → Value) (cache : DirtyCache Data Value) (reader : Nat)
    : Prop :=
  cache.readers reader = .loading → cache.cached = summary cache.data

theorem LoadsCurrent.setReader (loads : cache.LoadsCurrent summary reader) {other : Nat}
    (arrives : pc = .loading → cache.cached = summary cache.data)
    : (cache.setReader other pc).LoadsCurrent summary reader := by
  intro is
  by_cases same : reader = other
  · subst other
    exact arrives (by simpa [DirtyCache.setReader] using is)
  · exact loads (by simpa [DirtyCache.setReader, same] using is)

/-- It stays right while the summary does, whatever other readers store meanwhile. -/
theorem LoadsCurrent.step (loads : cache.LoadsCurrent summary reader)
    (coherent : cache.Coherent summary)
    (keeps : ∀ data, action = .change data → summary data = summary cache.data)
    (taken : cache.step summary action = some after)
    : after.LoadsCurrent summary reader := by
  cases action with
  | change data =>
      cases taken
      intro is
      exact (loads is).trans (keeps data rfl).symm
  | call other =>
      simp only [DirtyCache.step] at taken
      split at taken
      · cases taken
        exact loads.setReader (by simp)
      · cases taken
  | step other =>
      simp only [DirtyCache.step, DirtyCache.readerStep] at taken
      cases pc : cache.readers other with
      | idle => simp [pc] at taken
      | starting =>
          simp only [pc, Option.some.injEq] at taken
          subst taken
          apply loads.setReader
          cases flag : cache.dirty with
          | true => simp
          | false => exact fun _ => coherent.clean flag
      | computing | loading =>
          simp only [pc, Option.some.injEq] at taken
          subst taken
          exact loads.setReader (by simp)
      | storing value =>
          simp only [pc, Option.some.injEq] at taken
          subst taken
          exact fun _ => coherent.storing other value pc
      | clearing =>
          simp only [pc, Option.some.injEq] at taken
          subst taken
          have moved : (cache.setReader other .loading).LoadsCurrent summary reader :=
            loads.setReader (fun _ => coherent.clearing other pc)
          exact moved

/-- The flag is clear and nobody is about to touch the cache. -/
structure Undisturbed (cache : DirtyCache Data Value) : Prop where
  clean : cache.dirty = false
  readers
    : ∀ reader,
        cache.readers reader = .idle
        ∨ cache.readers reader = .starting
        ∨ cache.readers reader = .loading

theorem Undisturbed.setReader (still : cache.Undisturbed)
    (calm : pc = .idle ∨ pc = .starting ∨ pc = .loading)
    : (cache.setReader reader pc).Undisturbed where
  clean := still.clean
  readers other := by
    by_cases same : other = reader
    · subst other
      simpa [DirtyCache.setReader] using calm
    · simpa [DirtyCache.setReader, same] using still.readers other

/-- Right or wrong, such a cache stays as it is until the data changes. -/
theorem Undisturbed.step (still : cache.Undisturbed)
    (unchanged : ∀ data, action ≠ .change data)
    (taken : cache.step summary action = some after)
    : after.Undisturbed ∧ after.cached = cache.cached ∧ after.data = cache.data := by
  cases action with
  | change data => exact absurd rfl (unchanged data)
  | call reader =>
      simp only [DirtyCache.step] at taken
      split at taken
      · cases taken
        exact ⟨still.setReader (by simp), rfl, rfl⟩
      · cases taken
  | step reader =>
      simp only [DirtyCache.step, DirtyCache.readerStep] at taken
      rcases still.readers reader with pc | pc | pc
      · simp [pc] at taken
      · simp only [pc, still.clean, Bool.false_eq_true, if_false, Option.some.injEq] at taken
        subst taken
        exact ⟨still.setReader (by simp), rfl, rfl⟩
      · simp only [pc, Option.some.injEq] at taken
        subst taken
        exact ⟨still.setReader (by simp), rfl, rfl⟩

end DirtyCache

end NexusD.Library
