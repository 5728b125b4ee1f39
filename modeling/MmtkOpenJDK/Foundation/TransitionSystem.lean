import Mathlib.Data.List.Basic

/-! Guarded transition systems. An event is taken only in a state that enables
it, and its effect is then a function of that state, so a finite run can be
replayed as well as reasoned about. -/

namespace MmtkOpenJDK.Foundation

universe u v

structure System (State : Type u) (Event : Type v) where
  initial : State → Prop
  enabled : State → Event → Prop
  next : State → Event → State

namespace System

variable {State : Type u} {Event : Type v} {system : System State Event}
variable {start state : State} {event : Event} {events : List Event}

/-- The run of a finite list of events, each enabled in the state it is taken
from. The last event comes last in the list. -/
inductive Run (system : System State Event) (start : State) : List Event → State → Prop where
  | start : Run system start [] start
  | step {events : List Event} {state : State} {event : Event}
      (run : Run system start events state) (allowed : system.enabled state event) :
      Run system start (events ++ [event]) (system.next state event)

/-- A state that some run from some initial state ends in. -/
def Reachable (system : System State Event) (state : State) : Prop :=
  ∃ start events, system.initial start ∧ system.Run start events state

/-- Every event of the list is enabled where the replay takes it. -/
def Allowed (system : System State Event) : State → List Event → Prop
  | _, [] => True
  | state, event :: rest => system.enabled state event ∧ Allowed system (system.next state event) rest

instance decidableAllowed [∀ state event, Decidable (system.enabled state event)] :
    ∀ (state : State) (events : List Event), Decidable (system.Allowed state events)
  | _, [] => isTrue trivial
  | state, event :: rest =>
    have := decidableAllowed (system.next state event) rest
    inferInstanceAs (Decidable (_ ∧ _))

/-- A property of the history and the state that holds at the start and is kept
by every enabled event holds along the whole run. -/
theorem Run.history (run : system.Run start events state) (invariant : List Event → State → Prop)
    (base : invariant [] start)
    (kept : ∀ events state event, invariant events state → system.enabled state event →
      invariant (events ++ [event]) (system.next state event)) :
    invariant events state := by
  induction run with
  | start => exact base
  | step run allowed ih => exact kept _ _ _ ih allowed

theorem Run.invariant (run : system.Run start events state) (invariant : State → Prop)
    (base : invariant start)
    (kept : ∀ state event, invariant state → system.enabled state event →
      invariant (system.next state event)) :
    invariant state := by
  induction run with
  | start => exact base
  | step run allowed ih => exact kept _ _ ih allowed

theorem Reachable.invariant (reachable : system.Reachable state) (invariant : State → Prop)
    (base : ∀ start, system.initial start → invariant start)
    (kept : ∀ state event, invariant state → system.enabled state event →
      invariant (system.next state event)) :
    invariant state := by
  obtain ⟨start, events, initial, run⟩ := reachable
  exact run.invariant invariant (base start initial) kept

theorem Reachable.ofInitial (initial : system.initial state) : system.Reachable state :=
  ⟨state, [], initial, .start⟩

theorem Reachable.next (reachable : system.Reachable state) (allowed : system.enabled state event) :
    system.Reachable (system.next state event) := by
  obtain ⟨start, events, initial, run⟩ := reachable
  exact ⟨start, events ++ [event], initial, run.step allowed⟩

theorem Run.append {middle final : State} {more : List Event} (first : system.Run start events middle)
    (second : system.Run middle more final) : system.Run start (events ++ more) final := by
  induction second with
  | start => simpa using first
  | step run allowed ih => simpa using ih.step allowed

/-- Replaying an allowed list of events is a run. -/
theorem Allowed.run (allowed : system.Allowed state events) :
    system.Run state events (events.foldl system.next state) := by
  induction events generalizing state with
  | nil => exact .start
  | cons event rest ih =>
    have first : system.Run state [event] (system.next state event) := Run.start.step allowed.1
    exact first.append (ih allowed.2)

/-- Chosen events lead to the goal when each brings a state closer to it. -/
theorem exists_run_of_rank {chosen : Event → Prop} {valid goal : State → Prop} (rank : State → Nat)
    (progress : ∀ state, valid state → ∃ event, chosen event ∧ system.enabled state event ∧
      (goal (system.next state event) ∨
        valid (system.next state event) ∧ rank (system.next state event) < rank state))
    (holds : valid state) :
    ∃ events after, (∀ event ∈ events, chosen event) ∧ system.Run state events after ∧ goal after := by
  induction closer : rank state using Nat.strongRecOn generalizing state with
  | ind bound ih =>
    obtain ⟨event, choice, allowed, result⟩ := progress state holds
    have first : system.Run state [event] (system.next state event) := Run.start.step allowed
    rcases result with reached | ⟨still, decrease⟩
    · exact ⟨[event], _, by simpa using choice, first, reached⟩
    · obtain ⟨events, after, chosen', run, reached⟩ := ih _ (closer ▸ decrease) still rfl
      exact ⟨event :: events, after, by simpa using ⟨choice, chosen'⟩, first.append run, reached⟩

section Simulation

variable {State' : Type*} {Event' : Type*}

/-- The two states are the ends of one step of the system, or the same. -/
def Stutters (system : System State Event) (before after : State) : Prop :=
  after = before ∨ ∃ event, system.enabled before event ∧ after = system.next before event

theorem Reachable.stutters {before after : State} (reachable : system.Reachable before)
    (stutters : system.Stutters before after) : system.Reachable after := by
  rcases stutters with same | ⟨event, allowed, step⟩
  · exact same ▸ reachable
  · exact step ▸ reachable.next allowed

/-- A system whose steps are steps of an abstract system, or invisible in it,
reaches only states that the abstract system reaches. -/
theorem Reachable.abstract {abstract : System State' Event'} (reachable : system.Reachable state)
    (view : State → State') (invariant : State → Prop)
    (base : ∀ start, system.initial start → invariant start ∧ abstract.initial (view start))
    (kept : ∀ state event, invariant state → system.enabled state event →
      invariant (system.next state event) ∧ abstract.Stutters (view state) (view (system.next state event))) :
    invariant state ∧ abstract.Reachable (view state) := by
  refine reachable.invariant (fun state => invariant state ∧ abstract.Reachable (view state)) ?_ ?_
  · intro start initial
    obtain ⟨holds, abstractly⟩ := base start initial
    exact ⟨holds, .ofInitial abstractly⟩
  · intro state event valid allowed
    obtain ⟨holds, step⟩ := kept state event valid.1 allowed
    exact ⟨holds, valid.2.stutters step⟩

end Simulation

end System

end MmtkOpenJDK.Foundation
