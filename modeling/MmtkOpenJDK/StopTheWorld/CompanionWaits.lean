import MmtkOpenJDK.StopTheWorld.CompanionInvariant

/-! The lock and the waits of the companion-thread protocol: no request is lost,
and no thread sleeps through what it waits for. -/

namespace MmtkOpenJDK.StopTheWorld

open MmtkOpenJDK.Foundation

variable {state : State}

/-- The thread owns the lock at this point of its code. -/
def State.Holds (state : State) : Thread → Prop
  | .worker => ∃ desired, state.worker = .issue desired ∨ state.worker = .test desired
  | .companion => state.companion = .enter ∨ state.companion = .test ∨ state.companion = .leave
  | .vm => state.vm = .enter ∨ state.vm = .test ∨ state.vm = .leave

/-- The thread is in the wait of its loop, and the loop would not end. -/
def State.Waits (state : State) : Thread → Prop
  | .worker => ∃ desired, state.worker = .wait desired ∧ state.reachedState ≠ desired
  | .companion => state.companion = .wait ∧ state.desiredState ≠ .threadsSuspended
  | .vm => state.vm = .wait ∧ state.desiredState ≠ .threadsResumed

structure Locked (state : State) : Prop where
  owned : state.monitor.Owned state.Holds
  sleepers : state.monitor.Sleepers state.Waits

theorem Locked.initial : Locked initialState where
  owned := by
    intro thread
    cases thread <;> simp [initialState, State.Holds]
  sleepers := by simp [Monitor.Sleepers, initialState]

theorem State.Waits.needsLock {thread : Thread} (waits : state.Waits thread) : state.needsLock thread = true := by
  cases thread with
  | worker =>
    obtain ⟨desired, pc, _⟩ := waits
    simp [State.needsLock, pc]
  | companion => simp [State.needsLock, waits.1]
  | vm => simp [State.needsLock, waits.1]

/-- A thread that takes a step is awake. -/
theorem Locked.awake (valid : Locked state) {thread : Thread} (allowed : enabled state (.step thread)) :
    state.monitor.asleep thread = false := by
  cases asleep : state.monitor.asleep thread with
  | false => rfl
  | true =>
    have free := allowed.1 (valid.sleepers thread asleep).needsLock
    exact asleep ▸ free.2

/-- The step leaves the other threads' part of the invariant as it is. -/
def Frame (thread : Thread) (state after : State) : Prop :=
  ∀ other, other ≠ thread → (after.Holds other ↔ state.Holds other) ∧ (state.Waits other → after.Waits other)

section Steps

variable {after : State} {thread : Thread}

theorem Locked.keep (valid : Locked state) (awake : state.monitor.asleep thread = false)
    (frame : Frame thread state after) (monitor : after.monitor = state.monitor)
    (own : after.Holds thread ↔ state.Holds thread) : Locked after where
  owned := by
    rw [monitor]
    refine valid.owned.congr ?_
    intro other
    by_cases same : other = thread
    · exact same ▸ own
    · exact (frame other same).1
  sleepers := by
    rw [monitor]
    exact valid.sleepers.step awake (fun other different => (frame other different).2)

theorem Locked.acquire (valid : Locked state) (allowed : enabled state (.step thread))
    (frame : Frame thread state after) (monitor : after.monitor = state.monitor.acquire thread)
    (needs : state.needsLock thread = true) (enters : after.Holds thread) : Locked after where
  owned := by
    rw [monitor]
    exact valid.owned.acquire (allowed.1 needs).1 enters (fun other different => (frame other different).1)
  sleepers := by
    rw [monitor]
    exact valid.sleepers.step (valid.awake allowed) (fun other different => (frame other different).2)

theorem Locked.release (valid : Locked state) (awake : state.monitor.asleep thread = false)
    (frame : Frame thread state after) (monitor : after.monitor = state.monitor.release)
    (own : state.Holds thread) (leaves : ¬ after.Holds thread) : Locked after where
  owned := by
    rw [monitor]
    exact valid.owned.leave own rfl leaves (fun other different => (frame other different).1)
  sleepers := by
    rw [monitor]
    exact valid.sleepers.step awake (fun other different => (frame other different).2)

theorem Locked.wait (valid : Locked state) (frame : Frame thread state after)
    (monitor : after.monitor = state.monitor.wait thread)
    (own : state.Holds thread) (leaves : ¬ after.Holds thread) (waits : after.Waits thread) : Locked after where
  owned := by
    rw [monitor]
    exact valid.owned.leave own rfl leaves (fun other different => (frame other different).1)
  sleepers := by
    rw [monitor]
    exact valid.sleepers.wait waits (fun other different => (frame other different).2)

/-- A step that changes one of the two states notifies all sleepers. -/
theorem Locked.notify (owned : after.monitor.Owned after.Holds)
    (monitor : ∀ thread, after.monitor.asleep thread = false) : Locked after where
  owned := owned
  sleepers := by
    intro thread asleep
    simp [monitor] at asleep

end Steps

theorem Locked.requestReturn (valid : Locked state) (awake : state.monitor.asleep .worker = false) {desired : StwState}
    (pc : state.worker = .test desired) : Locked (requestReturn state desired) := by
  cases desired
  all_goals
    refine valid.release awake ?_ rfl ⟨_, .inr pc⟩ (by simp [State.Holds, StopTheWorld.requestReturn])
    intro other different
    cases other <;> simp [State.Holds, State.Waits, StopTheWorld.requestReturn] at different ⊢

theorem Locked.workerStep (valid : Locked state) (allowed : enabled state (.step .worker)) :
    Locked (workerStep state) := by
  have frame : ∀ (monitor : Monitor Thread) (pc : WorkerPc),
      Frame .worker state { state with monitor := monitor, worker := pc } := by
    intro monitor pc other different
    cases other <;> simp [State.Holds, State.Waits] at different ⊢
  have awake := valid.awake allowed
  rw [StopTheWorld.workerStep]
  cases pc : state.worker with
  | mutating => exact valid.keep awake (frame _ _) rfl (by simp [State.Holds, pc])
  | lock desired =>
    exact valid.acquire allowed (frame _ _) rfl (by simp [State.needsLock, pc]) ⟨desired, .inl rfl⟩
  | issue desired =>
    refine .notify (valid.owned.congr ?_) (fun _ => rfl)
    intro thread
    cases thread <;> simp [State.Holds, requestIssue, pc]
  | test desired =>
    show Locked (requestTest state desired)
    by_cases reached : state.reachedState = desired
    · rw [requestTest, if_neg (not_not.mpr reached)]
      exact valid.requestReturn awake pc
    · rw [requestTest, if_pos reached]
      exact valid.wait (frame _ _) rfl ⟨desired, .inr pc⟩ (by simp [State.Holds]) ⟨desired, rfl, reached⟩
  | wait desired =>
    exact valid.acquire allowed (frame _ _) rfl (by simp [State.needsLock, pc]) ⟨desired, .inr rfl⟩
  | collecting => exact valid.keep awake (frame _ _) rfl (by simp [State.Holds, pc])

theorem Locked.companionStep (valid : Locked state) (allowed : enabled state (.step .companion)) :
    Locked (companionStep state) := by
  have frame : ∀ (monitor : Monitor Thread) (pc : CompanionPc) (heapLock : Option HeapLockOwner) (queued : Bool),
      Frame .companion state
        { state with monitor := monitor, companion := pc, heapLock := heapLock, queued := queued } := by
    intro monitor pc heapLock queued other different
    cases other <;> simp [State.Holds, State.Waits] at different ⊢
  have awake := valid.awake allowed
  rw [StopTheWorld.companionStep]
  cases pc : state.companion with
  | lock => exact valid.acquire allowed (frame _ _ _ _) rfl (by simp [State.needsLock, pc]) (.inl rfl)
  | enter => exact valid.keep awake (frame _ _ _ _) rfl (by simp [State.Holds, pc])
  | test =>
    by_cases wanted : state.desiredState = .threadsSuspended
    · rw [if_neg (not_not.mpr wanted)]
      exact valid.keep awake (frame _ _ _ _) rfl (by simp [State.Holds, pc])
    · rw [if_pos wanted]
      exact valid.wait (frame _ _ _ _) rfl (.inr (.inl pc)) (by simp [State.Holds]) ⟨rfl, wanted⟩
  | wait => exact valid.acquire allowed (frame _ _ _ _) rfl (by simp [State.needsLock, pc]) (.inr (.inl rfl))
  | leave => exact valid.release awake (frame _ _ _ _) rfl (.inr (.inr pc)) (by simp [State.Holds])
  | execute => exact valid.keep awake (frame _ _ _ _) rfl (by simp [State.Holds, pc])
  | enqueue => exact valid.keep awake (frame _ _ _ _) rfl (by simp [State.Holds, pc])
  | epilogue => exact valid.keep awake (frame _ _ _ _) rfl (by simp [State.Holds, pc])
  | blocked => exact valid

theorem Locked.vmStep (valid : Locked state) (agrees : Agrees state) (allowed : enabled state (.step .vm)) :
    Locked (vmStep state) := by
  have frame : ∀ (monitor : Monitor Thread) (pc : VmPc) (queued : Bool) (operations : Nat),
      Frame .vm state { state with monitor := monitor, vm := pc, queued := queued, operations := operations } := by
    intro monitor pc queued operations other different
    cases other <;> simp [State.Holds, State.Waits] at different ⊢
  have awake := valid.awake allowed
  rw [StopTheWorld.vmStep]
  cases pc : state.vm with
  | select => exact valid.keep awake (frame _ _ _ _) rfl (by simp [State.Holds, pc])
  | otherOperation => exact valid.keep awake (frame _ _ _ _) rfl (by simp [State.Holds, pc])
  | lock => exact valid.acquire allowed (frame _ _ _ _) rfl (by simp [State.needsLock, pc]) (.inl rfl)
  | enter =>
    refine .notify (valid.owned.congr ?_) (fun _ => rfl)
    intro thread
    cases thread <;> simp [State.Holds, pc]
  | test =>
    by_cases wanted : state.desiredState = .threadsResumed
    · rw [if_neg (not_not.mpr wanted)]
      exact valid.keep awake (frame _ _ _ _) rfl (by simp [State.Holds, pc])
    · rw [if_pos wanted]
      exact valid.wait (frame _ _ _ _) rfl (.inr (.inl pc)) (by simp [State.Holds]) ⟨rfl, wanted⟩
  | wait => exact valid.acquire allowed (frame _ _ _ _) rfl (by simp [State.needsLock, pc]) (.inr (.inl rfl))
  | leave =>
    have own : state.Holds .vm := .inr (.inr pc)
    refine .notify (valid.owned.leave own rfl (by simp [State.Holds]) ?_) (fun _ => rfl)
    intro other different
    cases other <;> simp [State.Holds] at different ⊢
  | finished =>
    obtain ⟨blocked, _⟩ := agrees.working (by rw [pc]; rfl)
    refine valid.keep awake ?_ rfl (by simp [State.Holds, pc])
    intro other different
    cases other <;> simp [State.Holds, State.Waits, blocked] at different ⊢
  | furtherOperation => exact valid.keep awake (frame _ _ _ _) rfl (by simp [State.Holds, pc])

theorem Locked.startOtherOperation (valid : Locked state) (allowed : state.vm = .select ∨ state.vm = .finished) :
    Locked (startOtherOperation state) := by
  have awake : state.monitor.asleep .vm = false := by
    by_contra asleep
    have waits := valid.sleepers .vm (by simpa using asleep)
    rcases allowed with pc | pc <;> simp [State.Waits, pc] at waits
  rcases allowed with pc | pc <;> simp only [StopTheWorld.startOtherOperation, pc]
  all_goals
    refine valid.keep awake ?_ rfl (by simp [State.Holds, pc])
    intro other different
    cases other <;> simp [State.Holds, State.Waits] at different ⊢

theorem Locked.next (valid : Locked state) (agrees : Agrees state) {event : Event} (allowed : enabled state event) :
    Locked (next state event) := by
  cases event with
  | step thread =>
    cases thread with
    | worker => exact valid.workerStep allowed
    | companion => exact valid.companionStep allowed
    | vm => exact valid.vmStep agrees allowed
  | otherOperation => exact valid.startOtherOperation allowed
  | lockHeap => exact ⟨valid.owned, valid.sleepers⟩
  | unlockHeap => exact ⟨valid.owned, valid.sleepers⟩
  | spuriousWakeup thread => exact ⟨valid.owned, valid.sleepers.wake⟩

theorem locked_of_reachable (reachable : companionSystem.Reachable state) : Locked state := by
  have both := reachable.invariant (fun state => Agrees state ∧ Locked state)
    (fun start initial => initial ▸ ⟨Agrees.initial, Locked.initial⟩)
    (fun _ _ valid allowed => ⟨(valid.1.next allowed).1, valid.2.next valid.1 allowed⟩)
  exact both.2

/-- The companion thread owns `Heap_lock` from the operation's prologue to its epilogue. -/
def CompanionPc.holdsHeapLock : CompanionPc → Bool
  | .enqueue | .blocked | .epilogue => true
  | _ => false

def HeapLocked (state : State) : Prop := state.heapLock = some .companion ↔ state.companion.holdsHeapLock = true

theorem HeapLocked.congr {after : State} (valid : HeapLocked state) (lock : after.heapLock = state.heapLock)
    (holds : after.companion.holdsHeapLock = state.companion.holdsHeapLock) : HeapLocked after := by
  rw [HeapLocked, lock, holds]
  exact valid

theorem workerStep_heapLock (state : State) :
    (workerStep state).heapLock = state.heapLock ∧ (workerStep state).companion = state.companion := by
  rw [workerStep]
  cases state.worker with
  | test desired =>
    show (requestTest state desired).heapLock = _ ∧ (requestTest state desired).companion = _
    by_cases reached : state.reachedState = desired
    · rw [requestTest, if_neg (not_not.mpr reached)]
      cases desired <;> exact ⟨rfl, rfl⟩
    · rw [requestTest, if_pos reached]
      exact ⟨rfl, rfl⟩
  | _ => exact ⟨rfl, rfl⟩

theorem HeapLocked.companionStep (valid : HeapLocked state) : HeapLocked (companionStep state) := by
  cases pc : state.companion with
  | test =>
    by_cases wanted : state.desiredState = .threadsSuspended <;>
      exact valid.congr (by simp [StopTheWorld.companionStep, pc, wanted])
        (by simp [StopTheWorld.companionStep, pc, wanted, CompanionPc.holdsHeapLock])
  | execute =>
    rw [StopTheWorld.companionStep, pc]
    exact iff_of_true rfl rfl
  | epilogue =>
    rw [StopTheWorld.companionStep, pc]
    simp [HeapLocked, CompanionPc.holdsHeapLock]
  | _ =>
    exact valid.congr (by rw [StopTheWorld.companionStep, pc])
      (by simp [StopTheWorld.companionStep, pc, CompanionPc.holdsHeapLock])

theorem HeapLocked.vmStep (valid : HeapLocked state) (agrees : Agrees state) : HeapLocked (vmStep state) := by
  rw [StopTheWorld.vmStep]
  cases pc : state.vm with
  | test =>
    by_cases wanted : state.desiredState = .threadsResumed
    · rw [if_neg (not_not.mpr wanted)]
      exact valid
    · rw [if_pos wanted]
      exact valid
  | finished =>
    obtain ⟨blocked, _⟩ := agrees.working (by rw [pc]; rfl)
    exact valid.congr rfl (by rw [blocked]; rfl)
  | _ => exact valid

theorem HeapLocked.next (valid : HeapLocked state) (agrees : Agrees state) {event : Event}
    (allowed : enabled state event) : HeapLocked (next state event) := by
  cases event with
  | step thread =>
    cases thread with
    | worker =>
      obtain ⟨lock, companion⟩ := workerStep_heapLock state
      exact valid.congr lock (by rw [StopTheWorld.next, companion])
    | companion => exact valid.companionStep
    | vm => exact valid.vmStep agrees
  | otherOperation =>
    rw [StopTheWorld.next, StopTheWorld.startOtherOperation]
    cases state.vm <;> exact valid
  | lockHeap =>
    have free : state.heapLock = none := allowed
    have outside : ¬ state.companion.holdsHeapLock = true := fun holds => by simp [valid.mpr holds] at free
    exact iff_of_false nofun outside
  | unlockHeap =>
    have held : state.heapLock = some .other := allowed
    have outside : ¬ state.companion.holdsHeapLock = true := fun holds => by simp [valid.mpr holds] at held
    exact iff_of_false nofun outside
  | spuriousWakeup thread => exact valid

/-- The companion thread finds `Heap_lock` free unless another thread has it. -/
theorem HeapLocked.free (valid : HeapLocked state) (execute : state.companion = .execute)
    (notOther : state.heapLock ≠ some .other) : state.heapLock = none := by
  cases lock : state.heapLock with
  | none => rfl
  | some owner =>
    cases owner with
    | companion => simpa [execute, CompanionPc.holdsHeapLock] using valid.mp lock
    | other => exact absurd lock notOther

theorem heapLocked_of_reachable (reachable : companionSystem.Reachable state) : HeapLocked state := by
  have both := reachable.invariant (fun state => Agrees state ∧ HeapLocked state)
    (fun start initial => initial ▸ ⟨Agrees.initial, iff_of_false nofun nofun⟩)
    (fun _ _ valid allowed => ⟨(valid.1.next allowed).1, valid.2.next valid.1 allowed⟩)
  exact both.2

/-- Nobody sleeps, and the companion thread is inside `VMThread::execute`. -/
def Notified (state : State) : Prop :=
  state.companion = .blocked ∧ ∀ thread, state.monitor.asleep thread = false

/-- The given events alone wake every sleeping thread. -/
def Wakes (moves : List Event) (state : State) : Prop :=
  ∃ events after, (∀ event ∈ events, event ∈ moves) ∧ companionSystem.Run state events after ∧ Notified after

/-- The lock is free when none of the other threads is in its critical section. -/
theorem Locked.free (valid : Locked state) {thread : Thread} (awake : state.monitor.asleep thread = false)
    (nobody : ∀ other, ¬ state.Holds other) : state.monitor.Free thread := by
  refine ⟨?_, awake⟩
  cases owner : state.monitor.owner with
  | none => rfl
  | some other => exact absurd ((valid.owned other).mp owner) (nobody other)

section Resume

/-- A resume request waits for the VM thread. -/
def Resuming (state : State) : Prop :=
  companionSystem.Reachable state ∧ state.worker = .wait .threadsResumed ∧
    state.reachedState = .threadsSuspended

theorem Resuming.vm (resuming : Resuming state) :
    (state.vm = .test ∨ state.vm = .wait ∨ state.vm = .leave) ∧ state.desiredState = .threadsResumed ∧
      state.companion = .blocked ∧ state.monitor.asleep .vm = false := by
  obtain ⟨reachable, pc, reached⟩ := resuming
  have agrees := (agrees_of_reachable reachable).1
  have desired : state.desiredState = .threadsResumed := by
    rw [agrees.desired, State.round, pc]
    rfl
  have inside : state.vm = .test ∨ state.vm = .wait ∨ state.vm = .leave := by
    have suspended := agrees.reached
    rw [reached] at suspended
    exact vm_of_suspended suspended.symm
  refine ⟨inside, desired, ?_, ?_⟩
  · apply agrees.operating
    rcases inside with vm | vm | vm <;> rw [vm] <;> rfl
  · by_contra asleep
    exact ((locked_of_reachable reachable).sleepers .vm (by simpa using asleep)).2 desired

def resumeRank (state : State) : Nat :=
  match state.vm with
  | .wait => 2
  | .test => 1
  | _ => 0

theorem Resuming.progress (resuming : Resuming state) :
    ∃ event, event ∈ [Event.step .vm] ∧ companionSystem.enabled state event ∧
      (Notified (companionSystem.next state event) ∨
        Resuming (companionSystem.next state event) ∧
          resumeRank (companionSystem.next state event) < resumeRank state) := by
  obtain ⟨inside, desired, blocked, awake⟩ := resuming.vm
  obtain ⟨reachable, pc, reached⟩ := resuming
  have locked := locked_of_reachable reachable
  have allowed : companionSystem.enabled state (.step .vm) := by
    refine ⟨?_, by simp, ?_⟩
    · intro needs
      refine locked.free awake ?_
      intro other
      rcases inside with vm | vm | vm <;> cases other <;> simp_all [State.Holds, State.needsLock]
    · intro _ idle
      rcases inside with vm | vm | vm <;> simp [vm] at idle
  have after := reachable.next allowed
  refine ⟨.step .vm, by simp, allowed, ?_⟩
  rcases inside with vm | vm | vm
  · refine .inr ⟨⟨after, ?_, ?_⟩, ?_⟩ <;>
      simp [companionSystem, next, vmStep, vm, desired, pc, reached, resumeRank]
  · refine .inr ⟨⟨after, ?_, ?_⟩, ?_⟩ <;>
      simp [companionSystem, next, vmStep, vm, pc, reached, resumeRank]
  · left
    simp [companionSystem, next, vmStep, vm, Notified, blocked]

theorem Resuming.wakes (resuming : Resuming state) : Wakes [.step .vm] state :=
  System.exists_run_of_rank resumeRank (fun _ valid => valid.progress) resuming

end Resume

section Suspend

/-- A suspend request waits for the operation's body. -/
def Suspending (state : State) : Prop :=
  companionSystem.Reachable state ∧ state.worker = .wait .threadsSuspended ∧
    state.reachedState = .threadsResumed

theorem Suspending.desired (suspending : Suspending state) : state.desiredState = .threadsSuspended := by
  obtain ⟨reachable, pc, _⟩ := suspending
  rw [(agrees_of_reachable reachable).1.desired, State.round, pc]
  rfl

theorem Suspending.companion_awake (suspending : Suspending state) : state.monitor.asleep .companion = false := by
  by_contra asleep
  exact ((locked_of_reachable suspending.1).sleepers .companion (by simpa using asleep)).2 suspending.desired

/-- The distance of `run` from its call of `VMThread::execute`, and of the VM
thread from the body of the operation. -/
def suspendRank (state : State) : Nat :=
  let companion := match state.companion with
    | .epilogue => 9
    | .lock => 8
    | .enter | .wait => 7
    | .test => 6
    | .leave => 5
    | .execute => 4
    | .enqueue => 3
    | .blocked => 2
  match state.vm with
  | .lock => 1
  | .select => companion
  | .otherOperation => companion + 1
  | .finished => 10
  | .furtherOperation => 11
  | _ => 0

/-- A step of the thread brings the operation's body closer or notifies. -/
def Approaches (thread : Thread) (state : State) : Prop :=
  companionSystem.enabled state (.step thread) ∧
    (Notified (next state (.step thread)) ∨
      Suspending (next state (.step thread)) ∧ suspendRank (next state (.step thread)) < suspendRank state)

theorem Suspending.companion_approaches (suspending : Suspending state) (vm : state.vm = .select)
    (outside : state.companion ≠ .blocked) (free : state.heapLock ≠ some .other) : Approaches .companion state := by
  have desired := suspending.desired
  have awake := suspending.companion_awake
  obtain ⟨reachable, pc, reached⟩ := suspending
  have allowed : companionSystem.enabled state (.step .companion) := by
    refine ⟨?_, fun _ => ⟨outside, fun pc => (heapLocked_of_reachable reachable).free pc free⟩, by simp⟩
    intro needs
    refine (locked_of_reachable reachable).free awake ?_
    intro other
    cases other with
    | worker => simp [State.Holds, pc]
    | companion => cases companion : state.companion <;> simp_all [State.Holds, State.needsLock]
    | vm => simp [State.Holds, vm]
  refine ⟨allowed, .inr ⟨⟨reachable.next allowed, ?_, ?_⟩, ?_⟩⟩
  all_goals
    cases companion : state.companion <;>
      simp_all [next, companionStep, suspendRank]

theorem Suspending.vm_approaches (suspending : Suspending state)
    (ready : state.vm = .select → state.companion = .blocked) : Approaches .vm state := by
  obtain ⟨reachable, pc, reached⟩ := suspending
  have locked := locked_of_reachable reachable
  have agrees := (agrees_of_reachable reachable).1
  have outside : state.vm ≠ .test ∧ state.vm ≠ .wait ∧ state.vm ≠ .leave := by
    refine ⟨?_, ?_, ?_⟩ <;>
    · intro vm
      have suspended := agrees.reached
      simp [State.round, vm, operationOf, reached, Operation.reached] at suspended
  have awake : state.monitor.asleep .vm = false := by
    by_contra asleep
    exact outside.2.1 (locked.sleepers .vm (by simpa using asleep)).1
  have allowed : companionSystem.enabled state (.step .vm) := by
    refine ⟨?_, by simp, fun _ vm => agrees.queued.mpr ⟨ready vm, by rw [vm]; rfl⟩⟩
    intro needs
    have vm : state.vm = .lock := by cases vm : state.vm <;> simp_all [State.needsLock]
    have blocked := agrees.operating (by rw [vm]; rfl)
    refine locked.free awake ?_
    intro other
    cases other <;> simp [State.Holds, pc, blocked, vm]
  refine ⟨allowed, ?_⟩
  cases vm : state.vm with
  | enter =>
    have blocked := agrees.operating (by rw [vm]; rfl)
    left
    simp [next, vmStep, vm, Notified, blocked]
  | test => exact absurd vm outside.1
  | wait => exact absurd vm outside.2.1
  | leave => exact absurd vm outside.2.2
  | _ =>
    refine .inr ⟨⟨reachable.next allowed, ?_, ?_⟩, ?_⟩ <;>
      simp_all [next, vmStep, suspendRank]

/-- The companion thread and the VM thread do not leave `Heap_lock` to another thread. -/
theorem companionStep_heapLock (free : state.heapLock ≠ some .other) : (companionStep state).heapLock ≠ some .other := by
  rw [companionStep]
  cases state.companion with
  | test => by_cases wanted : state.desiredState = .threadsSuspended <;> simpa [wanted] using free
  | execute => simp
  | epilogue => simp
  | _ => exact free

theorem vmStep_heapLock (state : State) : (vmStep state).heapLock = state.heapLock := by
  rw [vmStep]
  cases state.vm with
  | test => by_cases wanted : state.desiredState = .threadsResumed <;> simp [wanted]
  | _ => rfl

/-- A suspend request that no other thread holds up. -/
def Unhindered (state : State) : Prop := Suspending state ∧ state.heapLock ≠ some .other

theorem Unhindered.progress (unhindered : Unhindered state) :
    ∃ event, event ∈ [Event.step .companion, .step .vm] ∧ companionSystem.enabled state event ∧
      (Notified (companionSystem.next state event) ∨
        Unhindered (companionSystem.next state event) ∧
          suspendRank (companionSystem.next state event) < suspendRank state) := by
  obtain ⟨suspending, free⟩ := unhindered
  by_cases companionNext : state.vm = .select ∧ state.companion ≠ .blocked
  · obtain ⟨allowed, outcome⟩ := suspending.companion_approaches companionNext.1 companionNext.2 free
    exact ⟨.step .companion, by simp, allowed, outcome.imp_right fun ⟨still, closer⟩ =>
      ⟨⟨still, companionStep_heapLock free⟩, closer⟩⟩
  · obtain ⟨allowed, outcome⟩ := suspending.vm_approaches fun vm => by
      by_contra outside
      exact companionNext ⟨vm, outside⟩
    exact ⟨.step .vm, by simp, allowed, outcome.imp_right fun ⟨still, closer⟩ =>
      ⟨⟨still, (vmStep_heapLock state).symm ▸ free⟩, closer⟩⟩

theorem Unhindered.wakes (unhindered : Unhindered state) : Wakes [.step .companion, .step .vm] state :=
  System.exists_run_of_rank suspendRank (fun _ valid => valid.progress) unhindered

/-- Another thread that has `Heap_lock` gives it up first. -/
theorem Suspending.wakes_after_release (suspending : Suspending state) (held : state.heapLock = some .other) :
    Wakes [.unlockHeap, .step .companion, .step .vm] state := by
  obtain ⟨reachable, pc, reached⟩ := suspending
  have allowed : companionSystem.enabled state .unlockHeap := held
  have released : Suspending (companionSystem.next state .unlockHeap) := ⟨reachable.next allowed, pc, reached⟩
  obtain ⟨events, after, moved, run, notified⟩ := Unhindered.wakes ⟨released, nofun⟩
  refine ⟨.unlockHeap :: events, after, ?_, (System.Run.start.step allowed).append run, notified⟩
  intro event member
  rcases List.mem_cons.mp member with rfl | later
  · exact List.mem_cons_self
  · exact List.mem_cons_of_mem _ (moved event later)

end Suspend

/-- In every reachable state: (a) if the GC worker sleeps in a resume request, the
VM thread is still inside the operation, the request is what it waits for, it
does not sleep, and its steps alone wake the worker while the companion thread is
inside `VMThread::execute`; (b) if the GC worker sleeps in a suspend request, the
companion thread does not sleep in `run`, its next test of the desired state ends
its loop, and steps of the companion thread and the VM thread wake the worker, once
another thread that holds `Heap_lock` has released it. -/
theorem no_lost_request (reachable : companionSystem.Reachable state) :
    (state.worker = .wait .threadsResumed → state.monitor.asleep .worker = true →
      state.vm.insideOperation = true ∧ state.desiredState = .threadsResumed ∧
        state.monitor.asleep .vm = false ∧ state.companion = .blocked ∧ Wakes [.step .vm] state) ∧
    (state.worker = .wait .threadsSuspended → state.monitor.asleep .worker = true →
      state.monitor.asleep .companion = false ∧ state.desiredState = .threadsSuspended ∧
        (state.companion = .test → (companionStep state).companion = .leave) ∧
        (state.heapLock ≠ some .other → Wakes [.step .companion, .step .vm] state) ∧
        (state.heapLock = some .other → Wakes [.unlockHeap, .step .companion, .step .vm] state)) := by
  have locked := locked_of_reachable reachable
  constructor
  · intro pc asleep
    obtain ⟨wanted, waiting, notReached⟩ := locked.sleepers .worker asleep
    have same : wanted = .threadsResumed := by simpa [pc] using waiting.symm
    have resuming : Resuming state := by
      refine ⟨reachable, pc, ?_⟩
      cases value : state.reachedState with
      | threadsSuspended => rfl
      | threadsResumed => exact absurd (value.trans same.symm) notReached
    obtain ⟨inside, desired, blocked, awake⟩ := resuming.vm
    refine ⟨?_, desired, awake, blocked, resuming.wakes⟩
    rcases inside with vm | vm | vm <;> rw [vm] <;> rfl
  · intro pc asleep
    obtain ⟨wanted, waiting, notReached⟩ := locked.sleepers .worker asleep
    have same : wanted = .threadsSuspended := by simpa [pc] using waiting.symm
    have suspending : Suspending state := by
      refine ⟨reachable, pc, ?_⟩
      cases value : state.reachedState with
      | threadsResumed => rfl
      | threadsSuspended => exact absurd (value.trans same.symm) notReached
    refine ⟨suspending.companion_awake, suspending.desired, ?_, ?_, suspending.wakes_after_release⟩
    · intro test
      simp [companionStep, test, suspending.desired]
    · intro free
      exact Unhindered.wakes ⟨suspending, free⟩

/-- The first round up to the wait for the resume request. -/
def resumeWait : List Event :=
  firstStop ++ [.step .worker, .step .worker, .step .worker, .step .worker]

/-- The next round's suspend request arrives while the companion thread is still
inside `VMThread::execute` and the VM thread runs a further operation. -/
def overlappingRounds : List Event :=
  resumeWait ++ [.step .vm, .step .vm, .step .vm, .otherOperation, .step .worker, .step .worker,
    .step .worker, .step .worker, .step .worker, .step .worker]

/-- The first suspend request arrives while another thread holds `Heap_lock`. -/
def heapLockHeld : List Event :=
  [.lockHeap, .step .worker, .step .worker, .step .worker, .step .worker, .step .companion, .step .companion,
    .step .companion, .step .companion]

theorem overlapping_rounds_wake :
    Wakes [.step .vm] (resumeWait.foldl next initialState) ∧
      (overlappingRounds.foldl next initialState).vm = .furtherOperation ∧
      Wakes [.step .companion, .step .vm] (overlappingRounds.foldl next initialState) ∧
      (heapLockHeld.foldl next initialState).companion = .execute ∧
      Wakes [.unlockHeap, .step .companion, .step .vm] (heapLockHeld.foldl next initialState) := by
  have first : companionSystem.Allowed initialState resumeWait := by decide
  have second : companionSystem.Allowed initialState overlappingRounds := by decide
  have third : companionSystem.Allowed initialState heapLockHeld := by decide
  have resumed := (no_lost_request ⟨initialState, resumeWait, rfl, first.run⟩).1 (by decide) (by decide)
  have suspended := (no_lost_request ⟨initialState, overlappingRounds, rfl, second.run⟩).2 (by decide) (by decide)
  have held := (no_lost_request ⟨initialState, heapLockHeld, rfl, third.run⟩).2 (by decide) (by decide)
  exact ⟨resumed.2.2.2.2, by decide, suspended.2.2.2.1 (by decide), by decide, held.2.2.2.2 (by decide)⟩

end MmtkOpenJDK.StopTheWorld
