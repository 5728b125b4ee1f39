import Mathlib.Data.List.Perm.Basic
import MmtkOpenJDK.Foundation.Monitor
import MmtkOpenJDK.Foundation.TransitionSystem

/-! The finalizer thread. GC rounds append objects to the ready queue and call
`MMTkFinalizerThread::schedule`; the thread waits for the request, drains the queue
and calls `finalize()` on every object it takes. -/

namespace MmtkOpenJDK.Finalization

open MmtkOpenJDK.Foundation

/-- The queue behind `get_finalized_object`: it answers `NULL` only when it is empty,
and otherwise removes the object it returns. -/
structure ReadyQueue (Object : Type) where
  pop : List Object → Option (Object × List Object)
  pop_nil : pop [] = none
  pop_some : ∀ queue, queue ≠ [] → ∃ object rest, pop queue = some (object, rest)
  pop_perm : ∀ queue object rest, pop queue = some (object, rest) → queue.Perm (object :: rest)

/-- First in, first out. -/
def ReadyQueue.Fifo {Object : Type} (ready : ReadyQueue Object) : Prop :=
  ∀ object rest, ready.pop (object :: rest) = some (object, rest)

def fifoQueue (Object : Type) : ReadyQueue Object where
  pop
    | [] => none
    | object :: rest => some (object, rest)
  pop_nil := rfl
  pop_some
    | [], nonempty => absurd rfl nonempty
    | object :: rest, _ => ⟨object, rest, rfl⟩
  pop_perm
    | [], _, _, found => by cases found
    | _ :: _, _, _, found => by
      cases found
      exact .refl _

inductive Thread where
  | gc
  | finalizer
  deriving DecidableEq

/-- Where the GC is. It appends nothing at `idle`; from `test` to `unlock` it is in
`schedule` and owns the monitor. -/
inductive GCPc where
  | idle
  | appending
  | lock
  | test
  | set
  | notify
  | unlock
  deriving DecidableEq

/-- From the first append of a round until `schedule` has notified. -/
def GCPc.inWindow : GCPc → Bool
  | .idle | .unlock => false
  | .appending | .lock | .test | .set | .notify => true

def GCPc.holds : GCPc → Bool
  | .idle | .appending | .lock => false
  | .test | .set | .notify | .unlock => true

/-- Where the finalizer thread is in `finalizer_thread_entry`. It owns the monitor at
`test`, `sleep`, `clear` and `unlock`, and drains the queue at `take` and `invoke`. -/
inductive FinalizerPc (Object : Type) where
  | lock
  | test
  | sleep
  | wait
  | clear
  | unlock
  | take
  | invoke (object : Object)

namespace FinalizerPc

variable {Object : Type}

def holds : FinalizerPc Object → Bool
  | .test | .sleep | .clear | .unlock => true
  | .lock | .wait | .take | .invoke _ => false

def needsLock : FinalizerPc Object → Bool
  | .lock | .wait => true
  | _ => false

/-- The object whose `finalize()` is to be called. -/
def current : FinalizerPc Object → List Object
  | .invoke object => [object]
  | _ => []

end FinalizerPc

/-- `monitor` and `isScheduled` are the fields `m` and `is_scheduled` of the thread,
`pendingException` is the thread's own. The last three fields record the history. -/
structure State (Object : Type) where
  monitor : Monitor Thread
  isScheduled : Bool
  queue : List Object
  gc : GCPc
  finalizer : FinalizerPc Object
  pendingException : Bool
  appended : List Object
  taken : List Object
  invoked : List Object

/-- A call of `finalize()` comes with whether the method throws. -/
inductive Event (Object : Type) where
  | append (object : Object)
  | gc
  | finalizer
  | finalize (throws : Bool)
  | spuriousWakeup

variable {Object : Type}

def enabled (state : State Object) : Event Object → Prop
  | .append _ => state.gc = .idle ∨ state.gc = .appending
  | .gc => state.gc = .lock → state.monitor.Free .gc
  | .finalizer =>
    state.finalizer.current = [] ∧ (state.finalizer.needsLock = true → state.monitor.Free .finalizer)
  | .finalize _ => state.finalizer.current ≠ []
  | .spuriousWakeup => state.monitor.asleep .finalizer = true

/-- The GC calls `MMTkFinalizerThread::schedule` at the end of a round. Only the
finalizer thread can wait on the monitor. -/
def schedule (state : State Object) : State Object :=
  match state.gc with
  | .idle | .appending => { state with gc := .lock }
  | .lock => { state with gc := .test, monitor := state.monitor.acquire .gc }
  | .test => if state.isScheduled then { state with gc := .unlock } else { state with gc := .set }
  | .set => { state with gc := .notify, isScheduled := true }
  | .notify => { state with gc := .unlock, monitor := state.monitor.wake .finalizer }
  | .unlock => { state with gc := .idle, monitor := state.monitor.release }

/-- The call of `get_finalized_object`. -/
def getFinalizedObject (ready : ReadyQueue Object) (state : State Object) : State Object :=
  match ready.pop state.queue with
  | none => { state with finalizer := .lock }
  | some (object, rest) =>
    { state with finalizer := .invoke object, queue := rest, taken := state.taken ++ [object] }

/-- `JavaCalls::call_virtual`: whether the method runs, and whether an exception is
pending afterwards. -/
def callVirtual (pendingException throws : Bool) : Bool × Bool :=
  if pendingException then (false, true) else (true, throws)

/-- `finalizer_thread_entry` outside the calls of `finalize()`. -/
def finalizerThreadEntry (ready : ReadyQueue Object) (state : State Object) : State Object :=
  match state.finalizer with
  | .lock => { state with finalizer := .test, monitor := state.monitor.acquire .finalizer }
  | .test => if state.isScheduled then { state with finalizer := .clear } else { state with finalizer := .sleep }
  | .sleep => { state with finalizer := .wait, monitor := state.monitor.wait .finalizer }
  | .wait => { state with finalizer := .test, monitor := state.monitor.acquire .finalizer }
  | .clear => { state with finalizer := .unlock, isScheduled := false }
  | .unlock => { state with finalizer := .take, monitor := state.monitor.release }
  | .take => getFinalizedObject ready state
  | .invoke _ => state

/-- The call of `finalize()` with `this_thread` as its `TRAPS` argument. -/
def invokeFinalize (state : State Object) (throws : Bool) : State Object :=
  let call := callVirtual state.pendingException throws
  { state with
    finalizer := .take
    pendingException := call.2
    invoked := if call.1 then state.invoked ++ state.finalizer.current else state.invoked }

def next (ready : ReadyQueue Object) (state : State Object) : Event Object → State Object
  | .append object =>
    { state with gc := .appending, queue := state.queue ++ [object], appended := state.appended ++ [object] }
  | .gc => schedule state
  | .finalizer => finalizerThreadEntry ready state
  | .finalize throws => invokeFinalize state throws
  | .spuriousWakeup => { state with monitor := state.monitor.wake .finalizer }

def initialState : State Object where
  monitor := Monitor.fresh
  isScheduled := false
  queue := []
  gc := .idle
  finalizer := .lock
  pendingException := false
  appended := []
  taken := []
  invoked := []

def finalizerSystem (ready : ReadyQueue Object) : System (State Object) (Event Object) where
  initial state := state = initialState
  enabled := enabled
  next := next ready

instance (pc : FinalizerPc Object) : Decidable (pc.current = []) := decidable_of_iff _ List.isEmpty_iff

instance (state : State Object) : (event : Event Object) → Decidable (enabled state event)
  | .append _ => inferInstanceAs (Decidable (_ ∨ _))
  | .gc => inferInstanceAs (Decidable (_ → _))
  | .finalizer => inferInstanceAs (Decidable (_ ∧ (_ → _)))
  | .finalize _ => inferInstanceAs (Decidable (¬ _))
  | .spuriousWakeup => inferInstanceAs (Decidable (_ = _))

instance (ready : ReadyQueue Object) (state : State Object) (event : Event Object) :
    Decidable ((finalizerSystem ready).enabled state event) :=
  inferInstanceAs (Decidable (enabled state event))

end MmtkOpenJDK.Finalization
