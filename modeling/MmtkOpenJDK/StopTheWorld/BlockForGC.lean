import Mathlib.Data.Fintype.Basic
import MmtkOpenJDK.Foundation.Monitor
import MmtkOpenJDK.Foundation.TransitionSystem

/-! Mutators that wait for a GC. `mmtk_block_for_gc` waits on `gc_lock` until the
start-the-world counter passes the value it read; the GC worker increments the
counter outside the lock, resumes the world and then notifies. -/

namespace MmtkOpenJDK.BlockForGC

open MmtkOpenJDK.Foundation

inductive Thread (Mutator : Type) where
  | worker
  | mutator (mutator : Mutator)
  deriving DecidableEq

/-- Where a mutator is. `parked` is any safepoint-safe state outside
`mmtk_block_for_gc`, such as a yieldpoint. From `entry` on it is inside, and from
`lock` to `leaving` in the scope of `ThreadBlockInVM`; at `test` and `sleep` it
owns `gc_lock`. -/
inductive MutatorPc where
  | running
  | parked
  | entry
  | read (nextCount : Nat)
  | lock (nextCount : Nat)
  | test (nextCount : Nat)
  | sleep (nextCount : Nat)
  | wait (nextCount : Nat)
  | leaving (nextCount : Nat)
  deriving DecidableEq

def MutatorPc.safe : MutatorPc → Bool
  | .running | .entry | .read _ => false
  | .parked | .lock _ | .test _ | .sleep _ | .wait _ | .leaving _ => true

/-- Inside `mmtk_block_for_gc`. -/
def MutatorPc.inside : MutatorPc → Bool
  | .running | .parked => false
  | _ => true

def MutatorPc.needsLock : MutatorPc → Bool
  | .lock _ | .wait _ => true
  | _ => false

/-- At the end of the scope of `ThreadBlockInVM`. -/
def MutatorPc.isLeaving : MutatorPc → Bool
  | .leaving _ => true
  | _ => false

/-- Where the GC worker is: between two GCs, in a stopped world before and after
the increment, in the resume request, before the lock, and owning it before and
after the notification. -/
inductive WorkerPc where
  | idle
  | collecting
  | counted
  | resuming
  | lock
  | locked
  | notified
  deriving DecidableEq

/-- An increment of the counter: the number of the stop it belongs to and the
value it set. -/
structure Increment where
  stop : Nat
  value : Nat
  deriving DecidableEq

/-- `count` is `mmtk_start_the_world_count`. The last three fields record the
history: how often the world was stopped, all increments, and the number of
stops before each mutator's last read of the counter. -/
structure State (Mutator : Type) where
  gcLock : Monitor (Thread Mutator)
  count : Nat
  worldStopped : Bool
  worker : WorkerPc
  mutators : Mutator → MutatorPc
  stops : Nat
  increments : List Increment
  readAt : Mutator → Nat

inductive Event (Mutator : Type) where
  | park (mutator : Mutator)
  | unpark (mutator : Mutator)
  | call (mutator : Mutator)
  | step (thread : Thread Mutator)
  | endSafepoint
  | spuriousWakeup (thread : Thread Mutator)
  deriving DecidableEq

variable {Mutator : Type}

/-- The world stops only when every mutator is safe, starts only after the resume
request, and no mutator becomes unsafe while it is stopped. -/
def enabled (state : State Mutator) : Event Mutator → Prop
  | .park mutator => state.mutators mutator = .running
  | .unpark mutator => state.mutators mutator = .parked ∧ state.worldStopped = false
  | .call mutator => state.mutators mutator = .running
  | .step (.mutator mutator) =>
    (state.mutators mutator).inside = true ∧
      ((state.mutators mutator).needsLock = true → state.gcLock.Free (.mutator mutator)) ∧
      ((state.mutators mutator).isLeaving = true → state.worldStopped = false)
  | .step .worker =>
    (state.worker = .idle → ∀ mutator, (state.mutators mutator).safe = true) ∧
      (state.worker = .lock → state.gcLock.Free .worker)
  | .endSafepoint => state.worldStopped = true ∧ state.worker ≠ .collecting ∧ state.worker ≠ .counted
  | .spuriousWakeup thread => state.gcLock.asleep thread = true

section Next

variable [DecidableEq Mutator]

def State.goto (state : State Mutator) (mutator : Mutator) (pc : MutatorPc) : State Mutator :=
  { state with mutators := Function.update state.mutators mutator pc }

/-- The condition of the loop in `mmtk_block_for_gc`. The mutator goes to sleep in a
step of its own, because the counter is not protected by the lock. -/
def blockTest (state : State Mutator) (mutator : Mutator) (nextCount : Nat) : State Mutator :=
  if state.count < nextCount then state.goto mutator (.sleep nextCount)
  else { state.goto mutator (.leaving nextCount) with gcLock := state.gcLock.release }

/-- `mmtk_block_for_gc`. -/
def mmtkBlockForGc (state : State Mutator) (mutator : Mutator) : State Mutator :=
  match state.mutators mutator with
  | .running | .parked => state
  | .entry =>
    let myCount := state.count
    { state.goto mutator (.read (myCount + 1)) with
      readAt := Function.update state.readAt mutator state.stops }
  | .read nextCount => state.goto mutator (.lock nextCount)
  | .lock nextCount =>
    { state.goto mutator (.test nextCount) with gcLock := state.gcLock.acquire (.mutator mutator) }
  | .test nextCount => blockTest state mutator nextCount
  | .sleep nextCount =>
    { state.goto mutator (.wait nextCount) with gcLock := state.gcLock.wait (.mutator mutator) }
  | .wait nextCount =>
    { state.goto mutator (.test nextCount) with gcLock := state.gcLock.acquire (.mutator mutator) }
  | .leaving _ => state.goto mutator .running

/-- The GC worker: the end of `mmtk_stop_all_mutators`, then `mmtk_resume_mutators`. -/
def workerStep (state : State Mutator) : State Mutator :=
  match state.worker with
  | .idle => { state with worker := .collecting, worldStopped := true, stops := state.stops + 1 }
  | .collecting =>
    { state with
      worker := .counted
      count := state.count + 1
      increments := state.increments ++ [⟨state.stops, state.count + 1⟩] }
  | .counted => { state with worker := .resuming }
  | .resuming => { state with worker := .lock }
  | .lock => { state with worker := .locked, gcLock := state.gcLock.acquire .worker }
  | .locked => { state with worker := .notified, gcLock := state.gcLock.notifyAll }
  | .notified => { state with worker := .idle, gcLock := state.gcLock.release }

def next (state : State Mutator) : Event Mutator → State Mutator
  | .park mutator => state.goto mutator .parked
  | .unpark mutator => state.goto mutator .running
  | .call mutator => state.goto mutator .entry
  | .step (.mutator mutator) => mmtkBlockForGc state mutator
  | .step .worker => workerStep state
  | .endSafepoint => { state with worldStopped := false }
  | .spuriousWakeup thread => { state with gcLock := state.gcLock.wake thread }

end Next

def initialState : State Mutator where
  gcLock := Monitor.fresh
  count := 0
  worldStopped := false
  worker := .idle
  mutators := fun _ => .running
  stops := 0
  increments := []
  readAt := fun _ => 0

def blockSystem (Mutator : Type) [DecidableEq Mutator] : System (State Mutator) (Event Mutator) where
  initial state := state = initialState
  enabled := enabled
  next := next

instance [DecidableEq Mutator] [Fintype Mutator] (state : State Mutator) :
    (event : Event Mutator) → Decidable (enabled state event)
  | .park _ | .call _ => inferInstanceAs (Decidable (_ = _))
  | .unpark _ => inferInstanceAs (Decidable (_ ∧ _))
  | .step (.mutator _) => inferInstanceAs (Decidable (_ ∧ (_ → _) ∧ (_ → _)))
  | .step .worker => inferInstanceAs (Decidable ((_ → ∀ _, _) ∧ (_ → _)))
  | .endSafepoint => inferInstanceAs (Decidable (_ ∧ _ ∧ _))
  | .spuriousWakeup _ => inferInstanceAs (Decidable (_ = _))

instance [DecidableEq Mutator] [Fintype Mutator] (state : State Mutator) (event : Event Mutator) :
    Decidable ((blockSystem Mutator).enabled state event) :=
  inferInstanceAs (Decidable (enabled state event))

end MmtkOpenJDK.BlockForGC
