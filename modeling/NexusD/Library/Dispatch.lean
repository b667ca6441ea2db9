import Mathlib.Data.List.Nodup
import Mathlib.Logic.Function.Basic

/-! Numbered items on their way to several destinations.
Every thread holds at most one ticket: a number, and once they are known, the destinations it
has still to visit. The arrivals are recorded in the order they happen. For all such systems,
arrivals are in order if numbers grow as they are issued and no ticket overtakes a smaller one.
-/

namespace NexusD.Library

variable {Destination : Type*}

/-- A number under way. -/
structure Ticket (Destination : Type*) where
  number : Nat
  /-- what is still to visit, once that is known -/
  route : Option (List Destination) := none

def Ticket.MayReach (ticket : Ticket Destination) (destination : Destination) : Prop :=
  ∀ route ∈ ticket.route, destination ∈ route

/-- A ticket without a route may go anywhere. -/
theorem Ticket.mayReach_unrouted (number : Nat) (destination : Destination)
    : Ticket.MayReach { number } destination := by
  intro route is
  cases is

theorem Ticket.mayReach_routed_iff {number : Nat} {route : List Destination}
    {destination : Destination}
    : Ticket.MayReach ⟨number, some route⟩ destination ↔ destination ∈ route := by
  simp [Ticket.MayReach]

structure Dispatch (Destination : Type*) where
  holders : Nat → Option (Ticket Destination)
  arrived : List (Destination × Nat)

namespace Dispatch

def empty : Dispatch Destination := { holders := fun _ => none, arrived := [] }

def hold (dispatch : Dispatch Destination) (thread : Nat)
    (ticket : Option (Ticket Destination))
    : Dispatch Destination :=
  { dispatch with holders := Function.update dispatch.holders thread ticket }

def arrive (dispatch : Dispatch Destination) (destination : Destination) (number : Nat)
    : Dispatch Destination :=
  { dispatch with arrived := dispatch.arrived ++ [(destination, number)] }

/-- The numbers that arrived at one destination, in order. -/
def arrivedAt [DecidableEq Destination] (dispatch : Dispatch Destination)
    (destination : Destination)
    : List Nat :=
  (dispatch.arrived.filter (fun arrival => arrival.1 = destination)).map Prod.snd

/-- Everything held or arrived is below `number`. -/
structure Below (dispatch : Dispatch Destination) (number : Nat) : Prop where
  held : ∀ {thread ticket}, dispatch.holders thread = some ticket → ticket.number < number
  arrived : ∀ arrival ∈ dispatch.arrived, arrival.2 < number

theorem Below.mono {dispatch : Dispatch Destination} {small large : Nat}
    (below : dispatch.Below small) (le : small ≤ large)
    : dispatch.Below large where
  held holds := Nat.lt_of_lt_of_le (below.held holds) le
  arrived arrival member := Nat.lt_of_lt_of_le (below.arrived arrival member) le

/-- A holder after one thread's ticket was replaced: that thread, or another one as before. -/
theorem holders_hold {dispatch : Dispatch Destination} {thread other : Nat}
    {ticket : Option (Ticket Destination)} {held : Ticket Destination}
    (holds : (dispatch.hold thread ticket).holders other = some held)
    : other = thread ∧ ticket = some held
      ∨ other ≠ thread ∧ dispatch.holders other = some held := by
  by_cases same : other = thread
  · subst other
    exact Or.inl ⟨rfl, by simpa [hold] using holds⟩
  · exact Or.inr ⟨same, by simpa [hold, same] using holds⟩

/-- What holds of every ticket held before, and of the new one, holds of every ticket. -/
theorem forall_hold {dispatch : Dispatch Destination} {property : Ticket Destination → Prop}
    (all : ∀ {thread ticket}, dispatch.holders thread = some ticket → property ticket)
    {thread : Nat} {ticket : Option (Ticket Destination)} (new : ∀ held ∈ ticket, property held)
    {other : Nat} {held : Ticket Destination}
    (holds : (dispatch.hold thread ticket).holders other = some held)
    : property held := by
  rcases holders_hold holds with ⟨_, is⟩ | ⟨_, was⟩
  · exact new held is
  · exact all was

theorem mem_arrivedAt [DecidableEq Destination] {dispatch : Dispatch Destination}
    {destination : Destination} {number : Nat}
    : number ∈ dispatch.arrivedAt destination ↔ (destination, number) ∈ dispatch.arrived := by
  simp [arrivedAt]

theorem arrivedAt_arrive [DecidableEq Destination] (dispatch : Dispatch Destination)
    (destination other : Destination) (number : Nat)
    : (dispatch.arrive other number).arrivedAt destination
      = dispatch.arrivedAt destination ++ if other = destination then [number] else [] := by
  by_cases same : other = destination
  · simp [arrivedAt, arrive, same]
  · simp [arrivedAt, arrive, same]

namespace Below

variable {dispatch : Dispatch Destination} {bound : Nat} (below : dispatch.Below bound)
  {thread : Nat}
include below

theorem issue : (dispatch.hold thread (some { number := bound })).Below (bound + 1) where
  held :=
    forall_hold (below.mono (Nat.le_succ bound)).held (by simp)
  arrived := (below.mono (Nat.le_succ bound)).arrived

/-- A holder that settles or shortens its route stays below the bound. -/
theorem route {number : Nat} {before after : Option (List Destination)}
    (holds : dispatch.holders thread = some ⟨number, before⟩)
    : (dispatch.hold thread (some ⟨number, after⟩)).Below bound where
  held := by
    have fits : number < bound := below.held holds
    intro other ticket held
    refine forall_hold below.held ?_ held
    intro ticket is
    cases is
    exact fits
  arrived := below.arrived

theorem release : (dispatch.hold thread none).Below bound where
  held := forall_hold below.held (by simp)
  arrived := below.arrived

theorem arrive {number : Nat} (fits : number < bound) (destination : Destination)
    : (dispatch.arrive destination number).Below bound where
  held := below.held
  arrived arrival member := by
    rcases List.mem_append.mp member with old | new
    · exact below.arrived arrival old
    · rw [List.mem_singleton.mp new]
      exact fits

end Below

/-- No two threads hold the same number, and no route visits a destination twice. -/
structure Tidy (dispatch : Dispatch Destination) : Prop where
  unique
    : ∀ {left right ticket ticket'},
        dispatch.holders left = some ticket
        → dispatch.holders right = some ticket'
        → ticket.number = ticket'.number
        → left = right
  simple
    : ∀ {thread ticket},
        dispatch.holders thread = some ticket → ∀ route ∈ ticket.route, route.Nodup

theorem tidy_empty : (empty : Dispatch Destination).Tidy where
  unique holds := by cases holds
  simple holds := by cases holds

namespace Tidy

variable {dispatch : Dispatch Destination} (tidy : dispatch.Tidy) {thread : Nat}
include tidy

theorem issue {number : Nat} (below : dispatch.Below number)
    : (dispatch.hold thread (some { number })).Tidy where
  unique holds holds' same := by
    rcases holders_hold holds with ⟨rfl, is⟩ | ⟨_, was⟩
    · rcases holders_hold holds' with ⟨rfl, _⟩ | ⟨_, was'⟩
      · rfl
      · cases is
        exact absurd same.symm (Nat.ne_of_lt (below.held was'))
    · rcases holders_hold holds' with ⟨rfl, is'⟩ | ⟨_, was'⟩
      · cases is'
        exact absurd same (Nat.ne_of_lt (below.held was))
      · exact tidy.unique was was' same
  simple := forall_hold tidy.simple (by simp)

/-- A holder may settle or shorten its route. -/
theorem route {number : Nat} {before : Option (List Destination)} {after : List Destination}
    (holds : dispatch.holders thread = some ⟨number, before⟩) (simple : after.Nodup)
    : (dispatch.hold thread (some ⟨number, some after⟩)).Tidy where
  unique held held' same := by
    rcases holders_hold held with ⟨rfl, is⟩ | ⟨_, was⟩
    · rcases holders_hold held' with ⟨rfl, _⟩ | ⟨_, was'⟩
      · rfl
      · cases is
        exact tidy.unique holds was' same
    · rcases holders_hold held' with ⟨rfl, is'⟩ | ⟨_, was'⟩
      · cases is'
        exact tidy.unique was holds same
      · exact tidy.unique was was' same
  simple := forall_hold tidy.simple (by simpa using simple)

theorem release : (dispatch.hold thread none).Tidy where
  unique holds holds' same := by
    rcases holders_hold holds with ⟨_, is⟩ | ⟨_, was⟩
    · cases is
    · rcases holders_hold holds' with ⟨_, is'⟩ | ⟨_, was'⟩
      · cases is'
      · exact tidy.unique was was' same
  simple := forall_hold tidy.simple (by simp)

/-- An arrival changes no holder. -/
theorem arrive (destination : Destination) (number : Nat)
    : (dispatch.arrive destination number).Tidy :=
  ⟨tidy.unique, tidy.simple⟩

/-- A visited destination is not visited again by the number it was visited by. -/
theorem not_mayReach_visited {number : Nat} {destination : Destination}
    {rest : List Destination}
    (holds : dispatch.holders thread = some ⟨number, some (destination :: rest)⟩)
    {other : Nat} {ticket : Ticket Destination}
    (held : (dispatch.hold thread (some ⟨number, some rest⟩)).holders other = some ticket)
    (same : ticket.number = number)
    : ¬ticket.MayReach destination := by
  rcases holders_hold held with ⟨_, is⟩ | ⟨different, was⟩
  · cases is
    rw [Ticket.mayReach_routed_iff]
    exact (List.nodup_cons.mp (tidy.simple holds _ rfl)).1
  · exact absurd (tidy.unique was holds same) different

end Tidy

-----------------------------------------------------------------------------------------
-- Arrivals in order
-----------------------------------------------------------------------------------------

variable [DecidableEq Destination]

/-- At every destination the arrivals increase, and what may still come is larger. -/
structure InOrder (dispatch : Dispatch Destination) : Prop where
  tidy : dispatch.Tidy
  behind
    : ∀ {thread ticket},
        dispatch.holders thread = some ticket
        → ∀ destination,
            ticket.MayReach destination
            → ∀ number ∈ dispatch.arrivedAt destination, number < ticket.number
  sorted : ∀ destination, (dispatch.arrivedAt destination).Pairwise (· < ·)

theorem inOrder_empty : (empty : Dispatch Destination).InOrder where
  tidy := tidy_empty
  behind holds := by cases holds
  sorted _ := List.Pairwise.nil

namespace InOrder

variable {dispatch : Dispatch Destination} (inOrder : dispatch.InOrder) {thread : Nat}
include inOrder

theorem issue {number : Nat} (below : dispatch.Below number)
    : (dispatch.hold thread (some { number })).InOrder where
  tidy := inOrder.tidy.issue below
  behind := by
    apply forall_hold inOrder.behind
    intro ticket is destination _ arrived member
    cases is
    exact below.arrived _ (mem_arrivedAt.mp member)
  sorted := inOrder.sorted

theorem route {number : Nat} {before : Option (List Destination)} {after : List Destination}
    (holds : dispatch.holders thread = some ⟨number, before⟩) (simple : after.Nodup)
    (narrower
      : ∀ destination ∈ after, Ticket.MayReach ⟨number, before⟩ destination)
    : (dispatch.hold thread (some ⟨number, some after⟩)).InOrder where
  tidy := inOrder.tidy.route holds simple
  behind := by
    apply forall_hold inOrder.behind
    intro ticket is destination reach
    cases is
    exact inOrder.behind holds destination
      (narrower destination (Ticket.mayReach_routed_iff.mp reach))
  sorted := inOrder.sorted

theorem skip {number : Nat} {destination : Destination} {rest : List Destination}
    (holds : dispatch.holders thread = some ⟨number, some (destination :: rest)⟩)
    : (dispatch.hold thread (some ⟨number, some rest⟩)).InOrder := by
  apply inOrder.route holds (List.nodup_cons.mp (inOrder.tidy.simple holds _ rfl)).2
  intro other member
  exact Ticket.mayReach_routed_iff.mpr (List.mem_cons_of_mem _ member)

theorem release : (dispatch.hold thread none).InOrder where
  tidy := inOrder.tidy.release
  behind := forall_hold inOrder.behind (by simp)
  sorted := inOrder.sorted

/-- An arrival keeps the order if it overtakes no smaller number on its way there. -/
theorem enter {number : Nat} {destination : Destination} {rest : List Destination}
    (holds : dispatch.holders thread = some ⟨number, some (destination :: rest)⟩)
    (first
      : ∀ {other ticket},
          dispatch.holders other = some ticket
          → ticket.MayReach destination
          → number ≤ ticket.number)
    : ((dispatch.hold thread (some ⟨number, some rest⟩)).arrive destination
        number).InOrder := by
  have shortened := inOrder.skip holds
  refine ⟨shortened.tidy.arrive destination number, ?_, ?_⟩
  · intro other ticket held target reach arrival member
    rw [arrivedAt_arrive] at member
    rcases List.mem_append.mp member with old | new
    · exact shortened.behind held target reach arrival old
    · split at new
      · rename_i same
        subst same
        rw [List.mem_singleton.mp new]
        -- the ticket is another one, and not a smaller one
        have different : ticket.number ≠ number :=
          fun same => inOrder.tidy.not_mayReach_visited holds held same reach
        rcases holders_hold held with ⟨_, is⟩ | ⟨_, was⟩
        · cases is
          exact absurd rfl different
        · exact Nat.lt_of_le_of_ne (first was reach) different.symm
      · simp at new
  · intro target
    rw [arrivedAt_arrive]
    refine List.pairwise_append.mpr ⟨inOrder.sorted target, ?_, ?_⟩
    · split <;> simp
    · intro earlier old later new
      split at new
      · rename_i same
        subst same
        rw [List.mem_singleton.mp new]
        exact inOrder.behind holds destination
          (Ticket.mayReach_routed_iff.mpr List.mem_cons_self) earlier old
      · simp at new

end InOrder

end Dispatch

end NexusD.Library
