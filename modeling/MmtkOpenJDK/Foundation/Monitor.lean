import Mathlib.Logic.Function.Basic

/-! A monitor: one mutex and one condition variable. A notified or spuriously
woken thread does not own the mutex; it competes for it like any other thread. -/

namespace MmtkOpenJDK.Foundation

universe u

structure Monitor (Thread : Type u) where
  owner : Option Thread
  asleep : Thread → Bool

namespace Monitor

variable {Thread : Type u}

/-- Nobody owns the mutex and nobody sleeps. -/
def fresh : Monitor Thread := ⟨none, fun _ => false⟩

/-- A thread may take the mutex when it is free and the thread is not waiting
for a notification. -/
def Free (monitor : Monitor Thread) (thread : Thread) : Prop :=
  monitor.owner = none ∧ monitor.asleep thread = false

instance [DecidableEq Thread] (monitor : Monitor Thread) (thread : Thread) :
    Decidable (monitor.Free thread) :=
  inferInstanceAs (Decidable (_ ∧ _))

def acquire (monitor : Monitor Thread) (thread : Thread) : Monitor Thread :=
  { monitor with owner := some thread }

def release (monitor : Monitor Thread) : Monitor Thread :=
  { monitor with owner := none }

/-- Release the mutex and join the wait set in one step. -/
def wait [DecidableEq Thread] (monitor : Monitor Thread) (thread : Thread) : Monitor Thread :=
  ⟨none, Function.update monitor.asleep thread true⟩

/-- Remove one thread from the wait set, as a spurious wakeup does. -/
def wake [DecidableEq Thread] (monitor : Monitor Thread) (thread : Thread) : Monitor Thread :=
  { monitor with asleep := Function.update monitor.asleep thread false }

def notifyAll (monitor : Monitor Thread) : Monitor Thread :=
  { monitor with asleep := fun _ => false }

variable {monitor : Monitor Thread} {thread other : Thread}

@[simp] theorem fresh_owner : (fresh : Monitor Thread).owner = none := rfl
@[simp] theorem fresh_asleep : (fresh : Monitor Thread).asleep thread = false := rfl
@[simp] theorem acquire_owner : (monitor.acquire thread).owner = some thread := rfl
@[simp] theorem acquire_asleep : (monitor.acquire thread).asleep = monitor.asleep := rfl
@[simp] theorem release_asleep : monitor.release.asleep = monitor.asleep := rfl
@[simp] theorem notifyAll_asleep : monitor.notifyAll.asleep thread = false := rfl

section Update

variable [DecidableEq Thread]

@[simp] theorem wait_asleep_other (different : other ≠ thread) :
    (monitor.wait thread).asleep other = monitor.asleep other := by
  simp [wait, different]

@[simp] theorem wake_asleep_self : (monitor.wake thread).asleep thread = false := by
  simp [wake]

@[simp] theorem wake_asleep_other (different : other ≠ thread) :
    (monitor.wake thread).asleep other = monitor.asleep other := by
  simp [wake, different]

end Update

/-- Every thread in the wait set satisfies the predicate. -/
def Sleepers (monitor : Monitor Thread) (pred : Thread → Prop) : Prop :=
  ∀ thread, monitor.asleep thread = true → pred thread

/-- The owner of the mutex is the thread that is in a critical section. -/
def Owned (monitor : Monitor Thread) (holds : Thread → Prop) : Prop :=
  ∀ thread, monitor.owner = some thread ↔ holds thread

section Rules

variable {pred pred' holds holds' : Thread → Prop}

/-- A step of a thread that is awake may change what is true of that thread. -/
theorem Sleepers.step (sleepers : monitor.Sleepers pred) (awake : monitor.asleep thread = false)
    (others : ∀ other, other ≠ thread → pred other → pred' other) : monitor.Sleepers pred' := by
  intro other asleep
  refine others other ?_ (sleepers other asleep)
  intro same
  rw [same, awake] at asleep
  cases asleep

theorem sleepers_notifyAll : monitor.notifyAll.Sleepers pred := by
  intro thread asleep
  simp at asleep

/-- A thread may go to sleep when it satisfies the predicate. -/
theorem Sleepers.wait [DecidableEq Thread] (sleepers : monitor.Sleepers pred) (own : pred' thread)
    (others : ∀ other, other ≠ thread → pred other → pred' other) : (monitor.wait thread).Sleepers pred' := by
  intro other asleep
  by_cases same : other = thread
  · exact same ▸ own
  · exact others other same (sleepers other (by simpa [same] using asleep))

theorem Sleepers.wake [DecidableEq Thread] (sleepers : monitor.Sleepers pred) :
    (monitor.wake thread).Sleepers pred := by
  intro other asleep
  by_cases same : other = thread
  · subst same
    simp at asleep
  · exact sleepers other (by simpa [same] using asleep)

/-- A free mutex: nobody is in a critical section, and the new owner enters one. -/
theorem Owned.acquire (owned : monitor.Owned holds) (free : monitor.owner = none) (enters : holds' thread)
    (others : ∀ other, other ≠ thread → (holds' other ↔ holds other)) :
    (monitor.acquire thread).Owned holds' := by
  intro other
  by_cases same : other = thread
  · subst same
    simp [enters]
  · rw [others other same, ← owned other, free]
    simp [Ne.symm same]

/-- The owner leaves its critical section and gives the mutex up. -/
theorem Owned.leave {after : Monitor Thread} (owned : monitor.Owned holds) (owner : holds thread)
    (free : after.owner = none) (leaves : ¬ holds' thread)
    (others : ∀ other, other ≠ thread → (holds' other ↔ holds other)) : after.Owned holds' := by
  have nobody : ∀ other, ¬ holds' other := by
    intro other holding
    by_cases same : other = thread
    · exact leaves (same ▸ holding)
    · have first := (owned other).mpr ((others other same).mp holding)
      have second := (owned thread).mpr owner
      exact same (Option.some.inj (first.symm.trans second))
  intro other
  simp [free, nobody other]

theorem Owned.congr (owned : monitor.Owned holds) (same : ∀ thread, holds' thread ↔ holds thread) :
    monitor.Owned holds' :=
  fun thread => (owned thread).trans (same thread).symm

end Rules

end Monitor

end MmtkOpenJDK.Foundation
