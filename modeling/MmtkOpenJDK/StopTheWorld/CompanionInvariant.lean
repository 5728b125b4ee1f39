import MmtkOpenJDK.StopTheWorld.Rounds

/-! The companion-thread protocol performs the moves of its rounds, whatever the
order of the three threads' steps and wakeups; a thread that sleeps waits for
something that has not happened. -/

namespace MmtkOpenJDK.StopTheWorld

open MmtkOpenJDK.Foundation

variable {state : State}

def WorkerPc.stage : WorkerPc → Stage
  | .mutating | .lock .threadsSuspended | .issue .threadsSuspended => .running
  | .test .threadsSuspended | .wait .threadsSuspended => .suspending
  | .collecting | .lock .threadsResumed | .issue .threadsResumed => .stopped
  | .test .threadsResumed | .wait .threadsResumed => .resuming

/-- The operation as seen from the program counters of the companion thread and
the VM thread. -/
def operationOf : CompanionPc → VmPc → Operation
  | _, .lock | _, .enter => .entered
  | _, .test | _, .wait => .stopped
  | _, .leave => .leaving
  | _, .finished | _, .furtherOperation => .released
  | .leave, _ | .execute, _ | .enqueue, _ | .blocked, _ => .asked
  | _, _ => .absent

def State.round (state : State) : Round where
  stage := state.worker.stage
  operation := operationOf state.companion state.vm
  requests := state.requests
  returns := state.returns
  operations := state.operations

/-- The VM thread has taken up the operation and not released the companion
thread. -/
def VmPc.operating : VmPc → Bool
  | .select | .otherOperation => false
  | _ => true

/-- The state variables are what the round says. The VM thread takes up the
operation from the queue, and the companion thread is inside `VMThread::execute`
until it is released. -/
structure Agrees (state : State) : Prop where
  desired : state.desiredState = state.round.stage.desired
  reached : state.reachedState = state.round.operation.reached
  queued : state.queued = true ↔ state.companion = .blocked ∧ state.vm.operating = false
  operating : state.vm.operating = true → state.companion = .blocked

theorem Agrees.initial : Agrees initialState := ⟨rfl, rfl, by decide, by decide⟩

/-- A step of the GC worker within its stage. -/
theorem Agrees.keepStage (valid : Agrees state) {monitor : Monitor Thread} {pc : WorkerPc}
    (same : pc.stage = state.worker.stage) :
    Agrees { state with monitor := monitor, worker := pc } ∧
      roundSystem.Stutters state.round { state with monitor := monitor, worker := pc : State }.round := by
  refine ⟨⟨?_, valid.reached, valid.queued, valid.operating⟩, .inl ?_⟩
  · simpa [State.round, same] using valid.desired
  · simp [State.round, same]

theorem Agrees.requestReturn (valid : Agrees state) {wanted : StwState} (pc : state.worker = .test wanted)
    (reached : state.reachedState = wanted) :
    Agrees (requestReturn state wanted) ∧
      roundSystem.Stutters state.round (requestReturn state wanted).round := by
  have desired : state.desiredState = (WorkerPc.test wanted).stage.desired := by
    simpa [State.round, pc] using valid.desired
  cases wanted with
  | threadsSuspended =>
    refine ⟨⟨desired, valid.reached, valid.queued, valid.operating⟩, .inr ⟨.stop, ⟨?_, ?_⟩, rfl⟩⟩
    · simp [State.round, pc, WorkerPc.stage]
    · rw [← valid.reached, reached]
  | threadsResumed =>
    refine ⟨⟨desired, valid.reached, valid.queued, valid.operating⟩, .inr ⟨.start, ⟨?_, ?_⟩, rfl⟩⟩
    · simp [State.round, pc, WorkerPc.stage]
    · rw [← valid.reached, reached]

theorem Agrees.workerStep (valid : Agrees state) :
    Agrees (workerStep state) ∧ roundSystem.Stutters state.round (workerStep state).round := by
  rw [StopTheWorld.workerStep]
  cases pc : state.worker with
  | mutating => exact valid.keepStage (by rw [pc]; rfl)
  | lock wanted => exact valid.keepStage (by cases wanted <;> rw [pc] <;> rfl)
  | issue wanted =>
    cases wanted with
    | threadsSuspended =>
      refine ⟨⟨rfl, valid.reached, valid.queued, valid.operating⟩, .inr ⟨.suspend, ?_, rfl⟩⟩
      show state.worker.stage = _
      rw [pc]
      rfl
    | threadsResumed =>
      refine ⟨⟨rfl, valid.reached, valid.queued, valid.operating⟩, .inr ⟨.resume, ?_, rfl⟩⟩
      show state.worker.stage = _
      rw [pc]
      rfl
  | test wanted =>
    show Agrees (requestTest state wanted) ∧ roundSystem.Stutters _ (requestTest state wanted).round
    by_cases reached : state.reachedState = wanted
    · rw [requestTest, if_neg (not_not.mpr reached)]
      exact valid.requestReturn pc reached
    · rw [requestTest, if_pos reached]
      exact valid.keepStage (by cases wanted <;> rw [pc] <;> rfl)
  | wait wanted => exact valid.keepStage (by cases wanted <;> rw [pc] <;> rfl)
  | collecting => exact valid.keepStage (by rw [pc]; rfl)

/-- While the VM thread is in no operation of the companion thread, only the
latter's position matters. -/
theorem operationOf_idle {vm : VmPc} (idle : vm.operating = false) (companion : CompanionPc) :
    operationOf companion vm = operationOf companion .select := by
  cases vm <;> simp [VmPc.operating] at idle <;> cases companion <;> rfl

theorem Agrees.idle (valid : Agrees state) (outside : state.companion ≠ .blocked) :
    state.vm.operating = false ∧ state.queued = false := by
  constructor
  · by_contra operating
    exact outside (valid.operating (by simpa using operating))
  · by_contra queued
    exact outside (valid.queued.mp (by simpa using queued)).1

theorem Agrees.working (valid : Agrees state) (working : state.vm.operating = true) :
    state.companion = .blocked ∧ state.queued = false := by
  refine ⟨valid.operating working, ?_⟩
  by_contra queued
  have idle := (valid.queued.mp (by simpa using queued)).2
  simp [working] at idle

/-- A step of the companion thread or the VM thread within the operation. -/
theorem Agrees.keepOperation (valid : Agrees state) {monitor : Monitor Thread} {companion : CompanionPc}
    {vm : VmPc} {heapLock : Option HeapLockOwner} {queued : Bool}
    (same : operationOf companion vm = operationOf state.companion state.vm)
    (queue : queued = true ↔ companion = .blocked ∧ vm.operating = false)
    (operating : vm.operating = true → companion = .blocked) :
    Agrees
        { state with monitor := monitor, companion := companion, vm := vm, heapLock := heapLock, queued := queued } ∧
      roundSystem.Stutters state.round
        { state with
          monitor := monitor, companion := companion, vm := vm, heapLock := heapLock
          queued := queued : State }.round := by
  refine ⟨⟨valid.desired, ?_, queue, operating⟩, .inl ?_⟩
  · simpa [State.round, same] using valid.reached
  · simp [State.round, same]

/-- A step of `run` outside `VMThread::execute`, while nothing is asked for or
after the operation has been asked for. -/
theorem Agrees.keepCompanion (valid : Agrees state) {monitor : Monitor Thread} {companion : CompanionPc}
    {heapLock : Option HeapLockOwner} (outside : state.companion ≠ .blocked) (still : companion ≠ .blocked)
    (same : operationOf companion .select = operationOf state.companion .select) :
    Agrees { state with monitor := monitor, companion := companion, heapLock := heapLock } ∧
      roundSystem.Stutters state.round
        { state with monitor := monitor, companion := companion, heapLock := heapLock : State }.round := by
  obtain ⟨idle, notQueued⟩ := valid.idle outside
  have now := operationOf_idle idle
  exact valid.keepOperation (by rw [now, now, same]) (by simp [notQueued, still]) (by simp [idle])

theorem Agrees.companionStep (valid : Agrees state) (outside : state.companion ≠ .blocked) :
    Agrees (companionStep state) ∧ roundSystem.Stutters state.round (companionStep state).round := by
  obtain ⟨idle, notQueued⟩ := valid.idle outside
  have now := operationOf_idle idle
  rw [StopTheWorld.companionStep]
  cases pc : state.companion with
  | lock => exact valid.keepCompanion outside (by simp) (by rw [pc]; rfl)
  | enter => exact valid.keepCompanion outside (by simp) (by rw [pc]; rfl)
  | test =>
    by_cases wanted : state.desiredState = .threadsSuspended
    · rw [if_neg (not_not.mpr wanted)]
      have before : state.round.operation = .absent := by
        show operationOf state.companion state.vm = _
        rw [now, pc]
        rfl
      have after : operationOf .leave state.vm = .asked := by rw [now]; rfl
      refine ⟨⟨valid.desired, ?_, by simp [notQueued], by simp [idle]⟩, .inr ⟨.ask, ⟨before, ?_⟩, ?_⟩⟩
      · simp only [State.round, after]
        rw [valid.reached, before]
        rfl
      · rw [← valid.desired, wanted]
      · simp [State.round, roundSystem, Round.next, after]
    · rw [if_pos wanted]
      exact valid.keepCompanion outside (by simp) (by rw [pc]; rfl)
  | wait => exact valid.keepCompanion outside (by simp) (by rw [pc]; rfl)
  | leave => exact valid.keepCompanion outside (by simp) (by rw [pc]; rfl)
  | execute => exact valid.keepCompanion outside (by simp) (by rw [pc]; rfl)
  | epilogue => exact valid.keepCompanion outside (by simp) (by rw [pc]; rfl)
  | enqueue => exact valid.keepOperation (by rw [now, now, pc]; rfl) (by simp [idle]) (by simp)
  | blocked => exact absurd pc outside

/-- A step of the VM thread within the body of the operation or after it. -/
theorem Agrees.keepVm (valid : Agrees state) {monitor : Monitor Thread} {vm : VmPc}
    (working : state.vm.operating = true) (still : vm.operating = true)
    (same : operationOf .blocked vm = operationOf .blocked state.vm) :
    Agrees { state with monitor := monitor, vm := vm } ∧
      roundSystem.Stutters state.round { state with monitor := monitor, vm := vm : State }.round := by
  obtain ⟨blocked, notQueued⟩ := valid.working working
  exact valid.keepOperation (by rw [blocked, same]) (by simp [notQueued, still]) (fun _ => blocked)

theorem Agrees.vmStep (valid : Agrees state) (ready : state.vm = .select → state.queued = true) :
    Agrees (vmStep state) ∧ roundSystem.Stutters state.round (vmStep state).round := by
  rw [StopTheWorld.vmStep]
  cases pc : state.vm with
  | select =>
    obtain ⟨blocked, _⟩ := valid.queued.mp (ready pc)
    have before : state.round.operation = .asked := by simp [State.round, pc, blocked, operationOf]
    refine ⟨⟨valid.desired, ?_, by simp [VmPc.operating], fun _ => blocked⟩, .inr ⟨.enter, before, rfl⟩⟩
    rw [valid.reached, before]
    rfl
  | otherOperation =>
    refine valid.keepOperation ?_ ?_ (by simp [VmPc.operating])
    · exact (operationOf_idle (by rw [pc]; rfl) _).symm
    · simpa [pc, VmPc.operating] using valid.queued
  | lock => exact valid.keepVm (by rw [pc]; rfl) rfl (by rw [pc]; rfl)
  | enter =>
    obtain ⟨blocked, notQueued⟩ := valid.working (by rw [pc]; rfl)
    have before : state.round.operation = .entered := by simp [State.round, pc, operationOf]
    exact ⟨⟨valid.desired, rfl, by simp [notQueued, VmPc.operating], fun _ => blocked⟩, .inr ⟨.reach, before, rfl⟩⟩
  | test =>
    by_cases wanted : state.desiredState = .threadsResumed
    · rw [if_neg (not_not.mpr wanted)]
      obtain ⟨blocked, notQueued⟩ := valid.working (by rw [pc]; rfl)
      have before : state.round.operation = .stopped := by simp [State.round, pc, operationOf]
      refine ⟨⟨valid.desired, ?_, by simp [notQueued, VmPc.operating], fun _ => blocked⟩,
        .inr ⟨.leave, ⟨before, ?_⟩, rfl⟩⟩
      · rw [valid.reached, before]
        rfl
      · rw [← valid.desired, wanted]
    · rw [if_pos wanted]
      exact valid.keepVm (by rw [pc]; rfl) rfl (by rw [pc]; rfl)
  | wait => exact valid.keepVm (by rw [pc]; rfl) rfl (by rw [pc]; rfl)
  | leave =>
    obtain ⟨blocked, notQueued⟩ := valid.working (by rw [pc]; rfl)
    have before : state.round.operation = .leaving := by simp [State.round, pc, operationOf]
    exact ⟨⟨valid.desired, rfl, by simp [notQueued, VmPc.operating], fun _ => blocked⟩, .inr ⟨.release, before, rfl⟩⟩
  | finished =>
    obtain ⟨_, notQueued⟩ := valid.working (by rw [pc]; rfl)
    have before : state.round.operation = .released := by simp [State.round, pc, operationOf]
    refine ⟨⟨valid.desired, ?_, by simp [notQueued], by simp [VmPc.operating]⟩, .inr ⟨.forget, before, rfl⟩⟩
    rw [valid.reached, before]
    rfl
  | furtherOperation => exact valid.keepVm (by rw [pc]; rfl) rfl (by rw [pc]; rfl)

theorem Agrees.startOtherOperation (valid : Agrees state) (allowed : state.vm = .select ∨ state.vm = .finished) :
    Agrees (startOtherOperation state) ∧ roundSystem.Stutters state.round (startOtherOperation state).round := by
  unfold StopTheWorld.startOtherOperation
  rcases allowed with pc | pc
  · simp only [pc]
    refine valid.keepOperation ?_ ?_ (by simp [VmPc.operating])
    · rw [pc]
      exact operationOf_idle rfl _
    · simpa [pc, VmPc.operating] using valid.queued
  · simp only [pc]
    exact valid.keepVm (by rw [pc]; rfl) rfl (by rw [pc]; rfl)

theorem Agrees.next (valid : Agrees state) {event : Event} (allowed : enabled state event) :
    Agrees (next state event) ∧ roundSystem.Stutters state.round (next state event).round := by
  cases event with
  | step thread =>
    cases thread with
    | worker => exact valid.workerStep
    | companion => exact valid.companionStep (allowed.2.1 rfl).1
    | vm => exact valid.vmStep (allowed.2.2 rfl)
  | otherOperation => exact valid.startOtherOperation allowed
  | lockHeap => exact ⟨⟨valid.desired, valid.reached, valid.queued, valid.operating⟩, .inl rfl⟩
  | unlockHeap => exact ⟨⟨valid.desired, valid.reached, valid.queued, valid.operating⟩, .inl rfl⟩
  | spuriousWakeup thread => exact ⟨⟨valid.desired, valid.reached, valid.queued, valid.operating⟩, .inl rfl⟩

/-- The protocol refines its rounds. -/
theorem agrees_of_reachable (reachable : companionSystem.Reachable state) :
    Agrees state ∧ state.round.Valid := by
  obtain ⟨agrees, abstractly⟩ : Agrees state ∧ roundSystem.Reachable state.round :=
    reachable.abstract State.round Agrees (fun start initial => initial ▸ ⟨Agrees.initial, rfl⟩)
      (fun _ _ valid allowed => valid.next allowed)
  exact ⟨agrees, Round.valid_of_reachable abstractly⟩

/-- The VM thread is inside `do_mmtk_stw_operation`. -/
def VmPc.insideOperation : VmPc → Bool
  | .lock | .enter | .test | .wait | .leave => true
  | _ => false

/-- Every assertion of the code on the two states, at the point where it stands. -/
structure AssertionsHold (state : State) : Prop where
  runEnter : state.companion = .enter → state.reachedState = .threadsResumed
  runLeave : state.companion = .leave → state.reachedState = .threadsResumed
  request : ∀ desired, state.worker = .issue desired → state.desiredState ≠ desired
  operation : state.vm = .leave →
    state.desiredState = .threadsResumed ∧ state.reachedState = .threadsSuspended

theorem Agrees.assertions (agrees : Agrees state) (valid : state.round.Valid) : AssertionsHold state where
  runEnter := by
    intro pc
    have now := operationOf_idle (agrees.idle (by simp [pc])).1
    rw [agrees.reached, State.round, now, pc]
    rfl
  runLeave := by
    intro pc
    have now := operationOf_idle (agrees.idle (by simp [pc])).1
    rw [agrees.reached, State.round, now, pc]
    rfl
  request := by
    intro desired pc
    rw [agrees.desired, State.round, pc]
    cases desired <;> simp [WorkerPc.stage, Stage.desired]
  operation := by
    intro pc
    have leaving : state.round.operation = .leaving := by simp [State.round, pc, operationOf]
    have compatible := valid.compatible
    rw [leaving] at compatible
    refine ⟨?_, by rw [agrees.reached, leaving]; rfl⟩
    rw [agrees.desired]
    cases stage : state.round.stage <;> simp [stage, Round.Compatible] at compatible
    rfl

theorem vm_of_stopped {companion : CompanionPc} {vm : VmPc} (stopped : operationOf companion vm = .stopped) :
    vm = .test ∨ vm = .wait := by
  cases vm <;> cases companion <;> simp [operationOf] at stopped ⊢

theorem vm_of_suspended {companion : CompanionPc} {vm : VmPc}
    (suspended : (operationOf companion vm).reached = .threadsSuspended) :
    vm = .test ∨ vm = .wait ∨ vm = .leave := by
  cases vm <;> cases companion <;> simp [operationOf, Operation.reached] at suspended ⊢

theorem WorkerPc.stage_suspending {pc : WorkerPc} (suspending : pc.stage = .suspending) :
    pc = .test .threadsSuspended ∨ pc = .wait .threadsSuspended := by
  rcases pc with _ | wanted | wanted | wanted | wanted | _ <;> (try cases wanted) <;>
    simp [WorkerPc.stage] at suspending ⊢

/-- In every reachable state: between the return of a suspend request and the
issue of the resume request the VM thread is inside the operation, every
assertion holds, and operation bodies and suspend requests correspond: at most
one request is outstanding, and without one there was a body for each request. -/
theorem stop_the_world_safe (reachable : companionSystem.Reachable state) :
    (state.worker = .collecting ∨ state.worker = .lock .threadsResumed ∨ state.worker = .issue .threadsResumed →
      state.vm.insideOperation = true ∧ state.reachedState = .threadsSuspended) ∧
    AssertionsHold state ∧
    state.operations ≤ state.requests ∧
    (state.returns ≤ state.operations ∧ state.requests ≤ state.returns + 1) ∧
    (state.worker ≠ .test .threadsSuspended → state.worker ≠ .wait .threadsSuspended →
      state.operations = state.returns ∧ state.requests = state.returns) := by
  obtain ⟨agrees, valid⟩ := agrees_of_reachable reachable
  have assertions := agrees.assertions valid
  obtain ⟨compatible, requests, operations⟩ := valid
  simp only [State.round] at compatible requests operations
  have bound := Round.begun_le_outstanding state.worker.stage (operationOf state.companion state.vm)
  refine ⟨?_, assertions, by omega, ⟨by omega, ?_⟩, ?_⟩
  · intro pcs
    have stage : state.worker.stage = .stopped := by
      rcases pcs with pc | pc | pc <;> rw [pc] <;> rfl
    rw [stage] at compatible
    have stopped : operationOf state.companion state.vm = .stopped := compatible
    refine ⟨?_, by rw [agrees.reached, State.round, stopped]; rfl⟩
    rcases vm_of_stopped stopped with pc | pc <;> rw [pc] <;> rfl
  · have one : Round.outstanding state.worker.stage ≤ 1 := by cases state.worker.stage <;> decide
    omega
  · intro notTest notWait
    have none : Round.outstanding state.worker.stage = 0 := by
      cases stage : state.worker.stage with
      | suspending => rcases WorkerPc.stage_suspending stage with pc | pc <;> contradiction
      | _ => rfl
    omega

/-- One full round up to the collection, the companion thread first. -/
def firstStop : List Event :=
  [.step .companion, .step .companion, .step .companion, .step .worker, .step .worker, .step .worker,
    .step .worker, .step .companion, .step .companion, .step .companion, .step .companion, .step .companion,
    .step .vm, .step .vm, .step .vm, .step .vm, .step .worker, .step .worker]

theorem first_stop_safe :
    (firstStop.foldl next initialState).worker = .collecting ∧
      (firstStop.foldl next initialState).vm.insideOperation = true ∧
      (firstStop.foldl next initialState).operations = 1 := by
  have allowed : companionSystem.Allowed initialState firstStop := by decide
  have safe := stop_the_world_safe ⟨initialState, firstStop, rfl, allowed.run⟩
  exact ⟨by decide, (safe.1 (.inl (by decide))).1, (safe.2.2.2.2 (by decide) (by decide)).1⟩

end MmtkOpenJDK.StopTheWorld
