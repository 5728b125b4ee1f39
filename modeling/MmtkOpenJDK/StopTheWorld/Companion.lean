import MmtkOpenJDK.Foundation.Monitor
import MmtkOpenJDK.Foundation.TransitionSystem

/-! The companion-thread protocol. A GC worker stops and resumes the world by
`MMTkVMCompanionThread::request`, the companion thread's `run` loop asks the VM
thread for a `VM_MMTkSTWOperation`, and the VM thread stays in
`do_mmtk_stw_operation` while the world is stopped. The three share one monitor. -/

namespace MmtkOpenJDK.StopTheWorld

open MmtkOpenJDK.Foundation

inductive Thread where
  | worker
  | companion
  | vm
  deriving DecidableEq

inductive StwState where
  | threadsSuspended
  | threadsResumed
  deriving DecidableEq

/-- Where the GC worker is: outside, in `request(desired, true)`, or between the
two upcalls. At `issue` and `test` it owns the lock. -/
inductive WorkerPc where
  | mutating
  | lock (desired : StwState)
  | issue (desired : StwState)
  | test (desired : StwState)
  | wait (desired : StwState)
  | collecting
  deriving DecidableEq

/-- Where `run` is. At `enter`, `test` and `leave` the companion thread owns the
lock; from `execute` to `epilogue` it is in `VMThread::execute`, before
`doit_prologue`, before the operation is queued, until the VM thread releases it,
and before `doit_epilogue`. -/
inductive CompanionPc where
  | lock
  | enter
  | test
  | wait
  | leave
  | execute
  | enqueue
  | blocked
  | epilogue
  deriving DecidableEq

/-- `Heap_lock` is the companion thread's from `doit_prologue` to `doit_epilogue`, or
another thread's. -/
inductive HeapLockOwner where
  | companion
  | other
  deriving DecidableEq

/-- Where the VM thread is: selecting an operation, in another operation, inside
`do_mmtk_stw_operation` from `lock` to `leave`, or after it and before the
companion thread is released, possibly in further operations. -/
inductive VmPc where
  | select
  | otherOperation
  | lock
  | enter
  | test
  | wait
  | leave
  | finished
  | furtherOperation
  deriving DecidableEq

/-- `queued` says that the operation is in the VM thread's queue. The last three
fields count suspend requests issued and returned, and operation bodies started. -/
structure State where
  monitor : Monitor Thread
  desiredState : StwState
  reachedState : StwState
  worker : WorkerPc
  companion : CompanionPc
  vm : VmPc
  heapLock : Option HeapLockOwner
  queued : Bool
  requests : Nat
  returns : Nat
  operations : Nat

/-- The end of `request`: unlock and go back to the upcall. -/
def requestReturn (state : State) : StwState → State
  | .threadsSuspended =>
    { state with
      monitor := state.monitor.release
      worker := .collecting
      returns := state.returns + 1 }
  | .threadsResumed => { state with monitor := state.monitor.release, worker := .mutating }

/-- `request` from its assertion to the loop. -/
def requestIssue (state : State) (desired : StwState) (waitUntilReached : Bool) : State :=
  let issued : State :=
    { state with
      desiredState := desired
      monitor := state.monitor.notifyAll
      requests := if desired = .threadsSuspended then state.requests + 1 else state.requests }
  if waitUntilReached then { issued with worker := .test desired } else requestReturn issued desired

/-- One turn of the loop in `request`. -/
def requestTest (state : State) (desired : StwState) : State :=
  if state.reachedState ≠ desired then
    { state with monitor := state.monitor.wait .worker, worker := .wait desired }
  else requestReturn state desired

/-- The GC worker alternates `mmtk_stop_all_mutators` and `mmtk_resume_mutators`. -/
def workerStep (state : State) : State :=
  match state.worker with
  | .mutating => { state with worker := .lock .threadsSuspended }
  | .lock desired => { state with monitor := state.monitor.acquire .worker, worker := .issue desired }
  | .issue desired => requestIssue state desired true
  | .test desired => requestTest state desired
  | .wait desired => { state with monitor := state.monitor.acquire .worker, worker := .test desired }
  | .collecting => { state with worker := .lock .threadsResumed }

/-- `MMTkVMCompanionThread::run`, with the prologue and the epilogue of the operation. -/
def companionStep (state : State) : State :=
  match state.companion with
  | .lock => { state with monitor := state.monitor.acquire .companion, companion := .enter }
  | .enter => { state with companion := .test }
  | .test =>
    if state.desiredState ≠ .threadsSuspended then
      { state with monitor := state.monitor.wait .companion, companion := .wait }
    else { state with companion := .leave }
  | .wait => { state with monitor := state.monitor.acquire .companion, companion := .test }
  | .leave => { state with monitor := state.monitor.release, companion := .execute }
  | .execute => { state with heapLock := some .companion, companion := .enqueue }
  | .enqueue => { state with queued := true, companion := .blocked }
  | .blocked => state
  | .epilogue => { state with heapLock := none, companion := .lock }

/-- The VM thread: `do_mmtk_stw_operation`, and the operations around it. -/
def vmStep (state : State) : State :=
  match state.vm with
  | .select => { state with queued := false, vm := .lock, operations := state.operations + 1 }
  | .otherOperation => { state with vm := .select }
  | .lock => { state with monitor := state.monitor.acquire .vm, vm := .enter }
  | .enter =>
    { state with reachedState := .threadsSuspended, monitor := state.monitor.notifyAll, vm := .test }
  | .test =>
    if state.desiredState ≠ .threadsResumed then
      { state with monitor := state.monitor.wait .vm, vm := .wait }
    else { state with vm := .leave }
  | .wait => { state with monitor := state.monitor.acquire .vm, vm := .test }
  | .leave =>
    { state with
      reachedState := .threadsResumed
      monitor := state.monitor.notifyAll.release
      vm := .finished }
  | .finished => { state with companion := .epilogue, vm := .select }
  | .furtherOperation => { state with vm := .finished }

/-- Another VM operation, before or after the one of the companion thread. -/
def startOtherOperation (state : State) : State :=
  match state.vm with
  | .select => { state with vm := .otherOperation }
  | .finished => { state with vm := .furtherOperation }
  | _ => state

inductive Event where
  | step (thread : Thread)
  | otherOperation
  | lockHeap
  | unlockHeap
  | spuriousWakeup (thread : Thread)
  deriving DecidableEq

/-- The thread is about to take the lock, at first or after a wait. -/
def State.needsLock (state : State) : Thread → Bool
  | .worker =>
    match state.worker with
    | .lock _ | .wait _ => true
    | _ => false
  | .companion =>
    match state.companion with
    | .lock | .wait => true
    | _ => false
  | .vm =>
    match state.vm with
    | .lock | .wait => true
    | _ => false

/-- The companion thread does not step while `VMThread::execute` waits for the VM
thread or for `Heap_lock`, and the VM thread starts the operation only when it is
queued. -/
def enabled (state : State) : Event → Prop
  | .step thread =>
    (state.needsLock thread = true → state.monitor.Free thread) ∧
      (thread = .companion → state.companion ≠ .blocked ∧ (state.companion = .execute → state.heapLock = none)) ∧
      (thread = .vm → state.vm = .select → state.queued = true)
  | .otherOperation => state.vm = .select ∨ state.vm = .finished
  | .lockHeap => state.heapLock = none
  | .unlockHeap => state.heapLock = some .other
  | .spuriousWakeup thread => state.monitor.asleep thread = true

instance (state : State) : (event : Event) → Decidable (enabled state event)
  | .step _ => inferInstanceAs (Decidable ((_ → _) ∧ (_ → _ ∧ (_ → _)) ∧ (_ → _ → _)))
  | .otherOperation => inferInstanceAs (Decidable (_ ∨ _))
  | .lockHeap => inferInstanceAs (Decidable (_ = _))
  | .unlockHeap => inferInstanceAs (Decidable (_ = _))
  | .spuriousWakeup _ => inferInstanceAs (Decidable (_ = _))

def next (state : State) : Event → State
  | .step .worker => workerStep state
  | .step .companion => companionStep state
  | .step .vm => vmStep state
  | .otherOperation => startOtherOperation state
  | .lockHeap => { state with heapLock := some .other }
  | .unlockHeap => { state with heapLock := none }
  | .spuriousWakeup thread => { state with monitor := state.monitor.wake thread }

/-- The constructor of the companion thread, before any thread runs. -/
def initialState : State where
  monitor := Monitor.fresh
  desiredState := .threadsResumed
  reachedState := .threadsResumed
  worker := .mutating
  companion := .lock
  vm := .select
  heapLock := none
  queued := false
  requests := 0
  returns := 0
  operations := 0

def companionSystem : System State Event where
  initial state := state = initialState
  enabled := enabled
  next := next

instance (state : State) (event : Event) : Decidable (companionSystem.enabled state event) :=
  inferInstanceAs (Decidable (enabled state event))

end MmtkOpenJDK.StopTheWorld
