import MmtkOpenJDK.Foundation.Monitor
import MmtkOpenJDK.References.PendingList

/-! The way of the pending list to the reference handler. `VM_MMTkSTWOperation` holds
`Heap_lock` from its prologue to its epilogue; the collector fills the list in between. What
Java threads do under `Heap_lock` is HotSpot's: they are assumed to wait on it only while the
list is empty, and to leave the list alone or take all of it. -/

namespace MmtkOpenJDK.References

open MmtkOpenJDK.Foundation

inductive HandoffThread (Java : Type) where
  | companion
  | java (thread : Java)
  deriving DecidableEq

/-- Where the companion thread is in `VMThread::execute`: outside, behind
`doit_prologue`, in `doit` with the world stopped, and at the three statements of
`doit_epilogue`. -/
inductive OperationPc where
  | idle
  | locked
  | doit
  | epilogue
  | notify
  | unlock
  deriving DecidableEq

/-- What a native method does once it owns `Heap_lock`: it waits on it, or leaves behind a
heap and returns, with the list if it was called for that. -/
inductive NativeStep (Oop : Type) where
  | wait
  | leave (heap : Heap Oop) (returned : Option (Option Oop))

/-- HotSpot's native methods under `Heap_lock`. -/
abbrev HeapLockNatives (Native Oop : Type) := Native → Heap Oop → NativeStep Oop

/-- What HotSpot promises. A native method waits only while there is no list, as
`waitForReferencePendingList` does. Otherwise it leaves the list alone, or gets it and leaves
none, as `getAndClearReferencePendingList` does. -/
structure HeapLockNatives.Documented {Native Oop : Type} (natives : HeapLockNatives Native Oop) : Prop where
  waits : ∀ native heap, natives native heap = .wait → heap.pendingList = none
  leaves : ∀ native heap after returned, natives native heap = .leave after returned →
    after = heap ∧ returned = none ∨ after = { heap with pendingList := none } ∧ returned = some heap.pendingList

/-- Where a Java thread is: outside, before a native method's section under `Heap_lock`, in
it, or in its wait. -/
inductive JavaPc (Native : Type) where
  | running
  | enter (native : Native)
  | inside (native : Native)
  | wait (native : Native)
  deriving DecidableEq

def JavaPc.needsLock {Native : Type} : JavaPc Native → Bool
  | .enter _ | .wait _ => true
  | .running | .inside _ => false

def JavaPc.holds {Native : Type} : JavaPc Native → Bool
  | .inside _ => true
  | .running | .enter _ | .wait _ => false

/-- `returned` records the lists that native methods returned. -/
structure HandoffState (Java Native Oop : Type) where
  heapLock : Monitor (HandoffThread Java)
  heap : Heap Oop
  operation : OperationPc
  worldStopped : Bool
  java : Java → JavaPc Native
  returned : List (Option Oop)

inductive HandoffEvent (Java Native Oop : Type) where
  | step (thread : HandoffThread Java)
  | call (thread : Java) (native : Native)
  | enqueue (objects : List Oop)
  | write (object : Oop) (value : Option Oop)
  | endSafepoint
  | spuriousWakeup (thread : HandoffThread Java)

section Steps

variable {Java Native Oop : Type} [DecidableEq Java] [DecidableEq Oop]

/-- The collector enqueues References while the operation is in `doit`, and fields are
written while the world runs. -/
def handoffEnabled (state : HandoffState Java Native Oop) : HandoffEvent Java Native Oop → Prop
  | .step .companion => state.operation = .idle → state.heapLock.Free .companion
  | .step (.java thread) =>
    state.java thread ≠ .running ∧ ((state.java thread).needsLock = true → state.heapLock.Free (.java thread))
  | .call thread _ => state.java thread = .running
  | .enqueue objects => state.operation = .doit ∧ enabled state.heap (.enqueue objects)
  | .write object value => state.worldStopped = false ∧ enabled state.heap (.write object value)
  | .endSafepoint => state.operation ≠ .doit
  | .spuriousWakeup thread => state.heapLock.asleep thread = true

/-- `Universe::has_reference_pending_list`. -/
def Heap.hasReferencePendingList (heap : Heap Oop) : Bool := heap.pendingList.isSome

/-- `doit_prologue`, the safepoint with `doit`, and `doit_epilogue`. -/
def operationStep (state : HandoffState Java Native Oop) : HandoffState Java Native Oop :=
  match state.operation with
  | .idle => { state with operation := .locked, heapLock := state.heapLock.acquire .companion }
  | .locked => { state with operation := .doit, worldStopped := true }
  | .doit => { state with operation := .epilogue }
  | .epilogue =>
    if state.heap.hasReferencePendingList then { state with operation := .notify }
    else { state with operation := .unlock }
  | .notify => { state with operation := .unlock, heapLock := state.heapLock.notifyAll }
  | .unlock => { state with operation := .idle, heapLock := state.heapLock.release }

def HandoffState.goto (state : HandoffState Java Native Oop) (thread : Java) (pc : JavaPc Native) :
    HandoffState Java Native Oop :=
  { state with java := Function.update state.java thread pc }

variable (natives : HeapLockNatives Native Oop)

/-- A thread enters a native method's section with the lock, and enters it again when it has
been woken. -/
def javaStep (state : HandoffState Java Native Oop) (thread : Java) : HandoffState Java Native Oop :=
  match state.java thread with
  | .running => state
  | .enter native => { state.goto thread (.inside native) with heapLock := state.heapLock.acquire (.java thread) }
  | .inside native =>
    match natives native state.heap with
    | .wait => { state.goto thread (.wait native) with heapLock := state.heapLock.wait (.java thread) }
    | .leave heap returned =>
      { state.goto thread .running with
        heapLock := state.heapLock.release
        heap
        returned := state.returned ++ returned.toList }
  | .wait native => { state.goto thread (.inside native) with heapLock := state.heapLock.acquire (.java thread) }

def handoffNext (state : HandoffState Java Native Oop) : HandoffEvent Java Native Oop → HandoffState Java Native Oop
  | .step .companion => operationStep state
  | .step (.java thread) => javaStep natives state thread
  | .call thread native => state.goto thread (.enter native)
  | .enqueue objects => { state with heap := next state.heap (.enqueue objects) }
  | .write object value => { state with heap := next state.heap (.write object value) }
  | .endSafepoint => { state with worldStopped := false }
  | .spuriousWakeup thread => { state with heapLock := state.heapLock.wake thread }

def HandoffState.sleep (state : HandoffState Java Native Oop) (thread : Java) (native : Native) :
    HandoffState Java Native Oop :=
  { state.goto thread (.wait native) with heapLock := state.heapLock.wait (.java thread) }

def HandoffState.leave (state : HandoffState Java Native Oop) (thread : Java) : HandoffState Java Native Oop :=
  { state.goto thread .running with heapLock := state.heapLock.release }

def HandoffState.take (state : HandoffState Java Native Oop) (thread : Java) : HandoffState Java Native Oop :=
  { state.leave thread with
    heap := { state.heap with pendingList := none }
    returned := state.returned ++ [state.heap.pendingList] }

omit [DecidableEq Oop] in
/-- What a thread does that owns the lock: there is no list and it waits, or it returns and
has left the list alone or taken it. -/
theorem javaStep_inside {natives : HeapLockNatives Native Oop} (documented : natives.Documented)
    {state : HandoffState Java Native Oop} {thread : Java} {native : Native}
    (inside : state.java thread = .inside native) :
    state.heap.pendingList = none ∧ javaStep natives state thread = state.sleep thread native ∨
      javaStep natives state thread = state.leave thread ∨ javaStep natives state thread = state.take thread := by
  cases step : natives native state.heap with
  | wait => exact .inl ⟨documented.waits native state.heap step, by simp only [javaStep, inside, step]; rfl⟩
  | leave heap returned =>
    rcases documented.leaves native state.heap heap returned step with ⟨rfl, rfl⟩ | ⟨rfl, rfl⟩
    · refine .inr (.inl ?_)
      simp only [javaStep, inside, step, Option.toList_none, List.append_nil]
      rfl
    · refine .inr (.inr ?_)
      simp only [javaStep, inside, step, Option.toList_some]
      rfl

def HandoffState.Initial (state : HandoffState Java Native Oop) : Prop :=
  state.heapLock = Monitor.fresh ∧ state.operation = .idle ∧ (∀ thread, state.java thread = .running) ∧
    state.worldStopped = false ∧ state.returned = [] ∧
    ∃ pending, Chain state.heap.discovered state.heap.pendingList pending

def handoffSystem (Java : Type) [DecidableEq Java] :
    System (HandoffState Java Native Oop) (HandoffEvent Java Native Oop) where
  initial := HandoffState.Initial
  enabled := handoffEnabled
  next := handoffNext natives

/-- The batches that the collector enqueued in a run. -/
def enqueued (events : List (HandoffEvent Java Native Oop)) : List (List Oop) :=
  events.filterMap fun
    | .enqueue objects => some objects
    | _ => none

end Steps

section Invariant

variable {Java Native Oop : Type} {state : HandoffState Java Native Oop} {thread : Java} {pc : JavaPc Native}

/-- The thread owns `Heap_lock` at this point of its code. -/
def HandoffState.Holds (state : HandoffState Java Native Oop) : HandoffThread Java → Prop
  | .companion => state.operation ≠ .idle
  | .java thread => (state.java thread).holds = true

/-- The operation has not come to its notification yet. -/
def OperationPc.owesNotification : OperationPc → Bool
  | .locked | .doit | .epilogue | .notify => true
  | .idle | .unlock => false

/-- A thread that may be in the wait set: there is nothing to be had, or the operation
will still notify it. -/
def HandoffState.MaySleep (state : HandoffState Java Native Oop) : HandoffThread Java → Prop
  | .companion => False
  | .java thread => (∃ native, state.java thread = .wait native) ∧
    (state.heap.pendingList = none ∨ state.operation.owesNotification = true)

structure Handoff (state : HandoffState Java Native Oop) : Prop where
  owned : state.heapLock.Owned state.Holds
  sleepers : state.heapLock.Sleepers state.MaySleep
  notifies : state.operation = .notify → state.heap.pendingList ≠ none

theorem Handoff.initial (initial : state.Initial) : Handoff state := by
  obtain ⟨lock, idle, running, _⟩ := initial
  refine ⟨?_, ?_, ?_⟩
  · intro thread
    cases thread with
    | companion => simp [lock, HandoffState.Holds, idle]
    | java thread => simp [lock, HandoffState.Holds, running thread, JavaPc.holds]
  · intro thread asleep
    simp [lock] at asleep
  · intro notify
    simp [idle] at notify

/-- The wait set when only the operation moves on. -/
theorem HandoffState.MaySleep.moveOn {after : HandoffState Java Native Oop} {thread : HandoffThread Java}
    (maySleep : state.MaySleep thread) (java : after.java = state.java)
    (owes : state.heap.pendingList = none ∨ state.operation.owesNotification = true →
      after.heap.pendingList = none ∨ after.operation.owesNotification = true) : after.MaySleep thread := by
  cases thread with
  | companion => exact maySleep
  | java thread => exact ⟨java ▸ maySleep.1, owes maySleep.2⟩

theorem Handoff.operationStep (valid : Handoff state)
    (allowed : state.operation = .idle → state.heapLock.Free .companion) :
    Handoff (operationStep state) := by
  have sleeping {after : HandoffState Java Native Oop} (java : after.java = state.java)
      (lock : after.heapLock.asleep = state.heapLock.asleep)
      (owes : state.heap.pendingList = none ∨ state.operation.owesNotification = true →
        after.heap.pendingList = none ∨ after.operation.owesNotification = true) :
      after.heapLock.Sleepers after.MaySleep := by
    intro thread asleep
    rw [lock] at asleep
    exact (valid.sleepers thread asleep).moveOn java owes
  -- the companion thread keeps the lock until its last step
  have keeping {after : HandoffState Java Native Oop} (java : after.java = state.java)
      (owner : after.heapLock.owner = state.heapLock.owner)
      (before : state.operation ≠ .idle) (inside : after.operation ≠ .idle) : after.heapLock.Owned after.Holds := by
    intro thread
    rw [owner, valid.owned thread]
    cases thread with
    | companion => exact iff_of_true before inside
    | java thread => simp only [HandoffState.Holds, java]
  rw [References.operationStep]
  cases operation : state.operation with
  | idle =>
    refine ⟨?_, sleeping rfl rfl fun _ => .inr rfl, nofun⟩
    refine valid.owned.acquire (allowed operation).1 ?_ ?_
    · simp [HandoffState.Holds]
    · intro other different
      cases other with
      | companion => exact absurd rfl different
      | java thread => exact Iff.rfl
  | locked => exact ⟨keeping rfl rfl (by simp [operation]) nofun, sleeping rfl rfl fun _ => .inr rfl, nofun⟩
  | doit => exact ⟨keeping rfl rfl (by simp [operation]) nofun, sleeping rfl rfl fun _ => .inr rfl, nofun⟩
  | epilogue =>
    cases list : state.heap.pendingList with
    | none =>
      simp only [Heap.hasReferencePendingList, list]
      exact ⟨keeping rfl rfl (by simp [operation]) nofun, sleeping rfl rfl fun _ => .inl list, nofun⟩
    | some first =>
      simp only [Heap.hasReferencePendingList, list]
      exact ⟨keeping rfl rfl (by simp [operation]) nofun, sleeping rfl rfl fun _ => .inr rfl, fun _ => by simp [list]⟩
  | notify =>
    exact ⟨keeping rfl rfl (by simp [operation]) nofun, Monitor.sleepers_notifyAll, nofun⟩
  | unlock =>
    refine ⟨?_, ?_, nofun⟩
    · have owner : state.Holds .companion := by simp [HandoffState.Holds, operation]
      refine valid.owned.leave owner rfl (by simp [HandoffState.Holds]) ?_
      intro other different
      cases other with
      | companion => exact absurd rfl different
      | java thread => exact Iff.rfl
    · refine sleeping rfl rfl ?_
      simp [operation, OperationPc.owesNotification]

/-- A thread in the wait set is where it waits. -/
theorem Handoff.awake (valid : Handoff state) (elsewhere : ∀ native, state.java thread ≠ .wait native) :
    state.heapLock.asleep (.java thread) = false := by
  rw [← Bool.not_eq_true]
  intro asleep
  obtain ⟨native, waits⟩ := (valid.sleepers _ asleep).1
  exact elsewhere native waits

/-- While a Java thread owns the lock, no operation is under way. -/
theorem Handoff.operation_idle (valid : Handoff state) (holds : (state.java thread).holds = true) :
    state.operation = .idle := by
  by_contra inside
  have first := (valid.owned .companion).mpr inside
  have second := (valid.owned (.java thread)).mpr holds
  exact absurd (first.symm.trans second) (by simp)

section Java

variable [DecidableEq Java] {lock : Monitor (HandoffThread Java)}

theorem HandoffState.goto_holds_other {other : HandoffThread Java} (different : other ≠ .java thread) :
    { state.goto thread pc with heapLock := lock }.Holds other ↔ state.Holds other := by
  cases other with
  | companion => exact Iff.rfl
  | java other =>
    have apart : other ≠ thread := fun same => different (same ▸ rfl)
    simp [HandoffState.Holds, HandoffState.goto, apart]

theorem HandoffState.goto_holds_self :
    { state.goto thread pc with heapLock := lock }.Holds (.java thread) ↔ pc.holds = true := by
  simp [HandoffState.Holds, HandoffState.goto]

theorem HandoffState.goto_maySleep_other {other : HandoffThread Java} (different : other ≠ .java thread)
    (maySleep : state.MaySleep other) : { state.goto thread pc with heapLock := lock }.MaySleep other := by
  cases other with
  | companion => exact maySleep
  | java other =>
    have apart : other ≠ thread := fun same => different (same ▸ rfl)
    exact ⟨by simpa [HandoffState.goto, apart] using maySleep.1, maySleep.2⟩

/-- A Java thread takes the lock. -/
theorem Handoff.javaAcquire (valid : Handoff state) (free : state.heapLock.Free (.java thread))
    (holds : pc.holds = true) :
    Handoff { state.goto thread pc with heapLock := state.heapLock.acquire (.java thread) } where
  owned := valid.owned.acquire free.1 (HandoffState.goto_holds_self.mpr holds)
    fun _ different => HandoffState.goto_holds_other different
  sleepers := valid.sleepers.step free.2 fun _ different => HandoffState.goto_maySleep_other different
  notifies := valid.notifies

theorem Handoff.javaLeaves (valid : Handoff state) (holds : (state.java thread).holds = true)
    (free : lock.owner = none) (leaves : pc.holds = false) :
    lock.Owned { state.goto thread pc with heapLock := lock }.Holds := by
  have owner : state.Holds (.java thread) := holds
  refine valid.owned.leave owner free ?_ fun _ different => HandoffState.goto_holds_other different
  rw [HandoffState.goto_holds_self, leaves]
  exact Bool.false_ne_true

/-- A Java thread gives the lock up and returns. -/
theorem Handoff.javaRelease (valid : Handoff state) (holds : (state.java thread).holds = true) :
    Handoff { state.goto thread .running with heapLock := state.heapLock.release } where
  owned := valid.javaLeaves holds rfl rfl
  sleepers := by
    have awake : state.heapLock.asleep (.java thread) = false := by
      apply valid.awake
      intro native waits
      simp [waits, JavaPc.holds] at holds
    exact valid.sleepers.step awake fun _ different => HandoffState.goto_maySleep_other different
  notifies := valid.notifies

variable {natives : HeapLockNatives Native Oop}

theorem Handoff.javaStep (documented : natives.Documented) (valid : Handoff state)
    (free : (state.java thread).needsLock = true → state.heapLock.Free (.java thread)) :
    Handoff (javaStep natives state thread) := by
  cases pc : state.java thread with
  | running =>
    rw [References.javaStep, pc]
    exact valid
  | enter native =>
    rw [References.javaStep, pc]
    exact valid.javaAcquire (free (by rw [pc]; rfl)) rfl
  | wait native =>
    rw [References.javaStep, pc]
    exact valid.javaAcquire (free (by rw [pc]; rfl)) rfl
  | inside native =>
    have holds : (state.java thread).holds = true := by rw [pc]; rfl
    rcases javaStep_inside documented pc with ⟨none, step⟩ | step | step
    · rw [step]
      refine ⟨valid.javaLeaves holds rfl rfl, ?_, valid.notifies⟩
      refine valid.sleepers.wait ?_ fun _ different => HandoffState.goto_maySleep_other different
      exact ⟨⟨native, by simp [HandoffState.sleep, HandoffState.goto]⟩, .inl none⟩
    · rw [step]
      exact valid.javaRelease holds
    · rw [step]
      have released := valid.javaRelease holds
      refine ⟨released.owned, ?_, ?_⟩
      · intro other asleep
        exact (released.sleepers other asleep).moveOn rfl fun _ => .inl rfl
      · intro notify
        exact absurd (valid.operation_idle holds) (by simp [show state.operation = .notify from notify])

theorem Handoff.call (valid : Handoff state) (running : state.java thread = .running) (native : Native) :
    Handoff (state.goto thread (.enter native)) where
  owned := by
    intro other
    refine (valid.owned other).trans ?_
    by_cases same : other = .java thread
    · subst same
      refine Iff.trans ?_ HandoffState.goto_holds_self.symm
      rw [HandoffState.Holds, running]
      exact Iff.rfl
    · exact (HandoffState.goto_holds_other same).symm
  sleepers := by
    have awake : state.heapLock.asleep (.java thread) = false := valid.awake fun _ => by simp [running]
    exact valid.sleepers.step awake fun _ different => HandoffState.goto_maySleep_other different
  notifies := valid.notifies

theorem Handoff.next [DecidableEq Oop] (documented : natives.Documented) (valid : Handoff state)
    {event : HandoffEvent Java Native Oop} (allowed : handoffEnabled state event) :
    Handoff (handoffNext natives state event) := by
  cases event with
  | step thread =>
    cases thread with
    | companion => exact valid.operationStep allowed
    | java thread => exact valid.javaStep documented allowed.2
  | call thread native => exact valid.call allowed native
  | enqueue objects =>
    have inDoit : state.operation = .doit := allowed.1
    refine ⟨valid.owned, ?_, ?_⟩
    · intro other asleep
      refine (valid.sleepers other asleep).moveOn rfl fun _ => .inr ?_
      simp [handoffNext, inDoit, OperationPc.owesNotification]
    · intro notify
      exact absurd (inDoit.symm.trans notify) (by simp)
  | write object value => exact ⟨valid.owned, valid.sleepers, valid.notifies⟩
  | endSafepoint => exact ⟨valid.owned, valid.sleepers, valid.notifies⟩
  | spuriousWakeup thread => exact ⟨valid.owned, valid.sleepers.wake, valid.notifies⟩

end Java

end Invariant

section Taken

variable {Oop : Type}

/-- The lists that were taken in a run of the pending list. -/
def taken (events : List (Event Oop)) : List (List Oop) :=
  events.filterMap fun
    | .take pending => some pending
    | _ => none

theorem flatten_taken (events : List (Event Oop)) : (taken events).flatten = delivered events := by
  induction events with
  | nil => rfl
  | cons event rest ih => cases event <;> simpa [taken, delivered] using ih

theorem head_of_chain {link : Oop → Option Oop} {first : Option Oop} {nodes : List Oop}
    (chain : Chain link first nodes) : nodes.head? = first := by
  cases nodes with
  | nil => exact (show first = none from chain).symm
  | cons node rest => exact chain.1.symm

end Taken

section Accounting

variable {Java Native Oop : Type} [DecidableEq Oop] {start state after : HandoffState Java Native Oop}
variable {events : List (HandoffEvent Java Native Oop)} {event : HandoffEvent Java Native Oop}
variable {abstract : List (Event Oop)} {initial : List Oop}

/-- What happened to the pending list is a run of its own: the collector's calls, the
handler's, and writes to other fields. -/
structure Refines (start : HandoffState Java Native Oop) (events : List (HandoffEvent Java Native Oop))
    (state : HandoffState Java Native Oop) (abstract : List (Event Oop)) : Prop where
  run : (pendingSystem Oop).Run start.heap abstract state.heap
  calls : calls abstract = enqueued events
  returned : (taken abstract).map List.head? = state.returned

theorem Refines.balanced (refines : Refines start events state abstract)
    (chain : Chain start.heap.discovered start.heap.pendingList initial) : Balanced initial abstract state.heap :=
  refines.run.history (Balanced initial) ⟨initial, chain, by simp [delivered, References.calls]⟩
    fun _ _ _ valid allowed => valid.step allowed

/-- A step that leaves the list alone. -/
theorem Refines.stutter (refines : Refines start events state abstract) (heap : after.heap = state.heap)
    (returned : after.returned = state.returned) (silent : enqueued [event] = []) :
    Refines start (events ++ [event]) after abstract := by
  refine ⟨heap ▸ refines.run, ?_, returned ▸ refines.returned⟩
  rw [refines.calls, enqueued, enqueued, List.filterMap_append]
  simpa [enqueued] using silent

/-- A step that is one of the list's own. -/
theorem Refines.visible {own : Event Oop} (refines : Refines start events state abstract)
    (allowed : enabled state.heap own) (heap : after.heap = next state.heap own)
    (called : References.calls [own] = enqueued [event])
    (returned : after.returned = state.returned ++ (taken [own]).map List.head?) :
    Refines start (events ++ [event]) after (abstract ++ [own]) := by
  have run : (pendingSystem Oop).Run start.heap (abstract ++ [own]) (next state.heap own) := refines.run.step allowed
  refine ⟨heap ▸ run, ?_, ?_⟩
  · have before := refines.calls
    rw [References.calls, enqueued] at before called ⊢
    rw [List.filterMap_append, List.filterMap_append, before, called]
  · have before := refines.returned
    rw [taken] at before returned ⊢
    rw [List.filterMap_append, List.map_append, before, returned]

/-- The calls of `getAndClearReferencePendingList` and the list that is left have shared
out what the collector enqueued. -/
theorem Refines.shared (refines : Refines start events state abstract)
    (chain : Chain start.heap.discovered start.heap.pendingList initial) :
    ∃ (lists : List (List Oop)) (pending : List Oop), lists.map List.head? = state.returned ∧
      Chain state.heap.discovered state.heap.pendingList pending ∧
      (lists.flatten ++ pending).Perm (initial ++ (enqueued events).flatMap List.eraseDups) := by
  obtain ⟨pending, present, balance⟩ := refines.balanced chain
  refine ⟨taken abstract, pending, refines.returned, present, ?_⟩
  rw [flatten_taken, ← refines.calls]
  exact balance

theorem Refines.operationStep (refines : Refines start events state abstract) :
    Refines start (events ++ [.step .companion]) (operationStep state) abstract := by
  rw [References.operationStep]
  cases state.operation with
  | epilogue =>
    cases state.heap.hasReferencePendingList with
    | true => exact refines.stutter rfl rfl rfl
    | false => exact refines.stutter rfl rfl rfl
  | _ => exact refines.stutter rfl rfl rfl

variable [DecidableEq Java] {natives : HeapLockNatives Native Oop}

theorem Refines.javaStep {thread : Java} (documented : natives.Documented)
    (refines : Refines start events state abstract)
    (chain : Chain start.heap.discovered start.heap.pendingList initial) :
    ∃ abstract, Refines start (events ++ [.step (.java thread)]) (javaStep natives state thread) abstract := by
  cases pc : state.java thread with
  | inside native =>
    rcases javaStep_inside documented pc with ⟨_, step⟩ | step | step
    · rw [step]
      exact ⟨abstract, refines.stutter rfl rfl rfl⟩
    · rw [step]
      exact ⟨abstract, refines.stutter rfl rfl rfl⟩
    · rw [step]
      obtain ⟨pending, present, _⟩ := refines.balanced chain
      have head := head_of_chain present
      have allowed : enabled state.heap (.take pending) := present
      exact ⟨_, refines.visible allowed rfl rfl (by simp [HandoffState.take, taken, head])⟩
  | running =>
    rw [References.javaStep, pc]
    exact ⟨abstract, refines.stutter rfl rfl rfl⟩
  | enter native =>
    rw [References.javaStep, pc]
    exact ⟨abstract, refines.stutter rfl rfl rfl⟩
  | wait native =>
    rw [References.javaStep, pc]
    exact ⟨abstract, refines.stutter rfl rfl rfl⟩

theorem Refines.next (documented : natives.Documented) (refines : Refines start events state abstract)
    (chain : Chain start.heap.discovered start.heap.pendingList initial) (allowed : handoffEnabled state event) :
    ∃ abstract, Refines start (events ++ [event]) (handoffNext natives state event) abstract := by
  cases event with
  | step thread =>
    cases thread with
    | companion => exact ⟨abstract, refines.operationStep⟩
    | java thread => exact refines.javaStep documented chain
  | enqueue objects => exact ⟨_, refines.visible allowed.2 rfl rfl (by simp [taken, handoffNext])⟩
  | write object value => exact ⟨_, refines.visible allowed.2 rfl rfl (by simp [taken, handoffNext])⟩
  | call thread native => exact ⟨abstract, refines.stutter rfl rfl rfl⟩
  | endSafepoint => exact ⟨abstract, refines.stutter rfl rfl rfl⟩
  | spuriousWakeup thread => exact ⟨abstract, refines.stutter rfl rfl rfl⟩

end Accounting

section Progress

variable {Java Native Oop : Type} {natives : HeapLockNatives Native Oop} {state after : HandoffState Java Native Oop}
variable {thread other : Java} {native : Native}

/-- The list was taken in between. -/
structure ListTaken (state after : HandoffState Java Native Oop) : Prop where
  heap : after.heap = { state.heap with pendingList := none }
  returned : after.returned = state.returned ++ [state.heap.pendingList]

/-- The list is there as before. -/
structure ListKept (state after : HandoffState Java Native Oop) : Prop where
  heap : after.heap = state.heap
  returned : after.returned = state.returned

/-- Only the operation has moved, and it is not over. -/
structure UnderWay (state after : HandoffState Java Native Oop) : Prop where
  inside : after.operation ≠ .idle
  java : after.java = state.java
  kept : ListKept state after

/-- Only the operation has moved, and it is over. -/
structure OperationOver (state after : HandoffState Java Native Oop) : Prop where
  java : after.java = state.java
  kept : ListKept state after
  idle : after.operation = .idle
  free : after.heapLock.owner = none

def OperationPc.rank : OperationPc → Nat
  | .idle => 0
  | .unlock => 1
  | .notify => 2
  | .epilogue => 3
  | .doit => 4
  | .locked => 5

theorem operationStep_frame (state : HandoffState Java Native Oop) :
    (operationStep state).java = state.java ∧ ListKept state (operationStep state) := by
  rw [operationStep]
  cases state.operation with
  | epilogue => cases state.heap.hasReferencePendingList <;> exact ⟨rfl, rfl, rfl⟩
  | _ => exact ⟨rfl, rfl, rfl⟩

/-- The operation comes closer to its end, where it gives the lock up. -/
theorem operationStep_rank (inside : state.operation ≠ .idle) :
    (operationStep state).operation.rank < state.operation.rank ∧
      ((operationStep state).operation = .idle → (operationStep state).heapLock.owner = none) := by
  rw [operationStep]
  cases operation : state.operation with
  | idle => exact absurd operation inside
  | epilogue => cases state.heap.hasReferencePendingList <;> exact ⟨by simp [OperationPc.rank], nofun⟩
  | unlock => exact ⟨Nat.lt_succ_self _, fun _ => rfl⟩
  | _ => exact ⟨Nat.lt_succ_self _, nofun⟩

theorem ListKept.trans {middle : HandoffState Java Native Oop} (first : ListKept state middle)
    (second : ListKept middle after) : ListKept state after :=
  ⟨second.heap.trans first.heap, second.returned.trans first.returned⟩

theorem ListKept.taken {middle : HandoffState Java Native Oop} (first : ListKept state middle)
    (taken : ListTaken middle after) : ListTaken state after :=
  ⟨first.heap ▸ taken.heap, first.heap ▸ first.returned ▸ taken.returned⟩

variable [DecidableEq Java]

/-- The operation needs nobody else to come to its end. -/
theorem exists_operationOver [DecidableEq Oop] (natives : HeapLockNatives Native Oop)
    (inside : state.operation ≠ .idle) :
    ∃ more after, (∀ event ∈ more, event = .step .companion) ∧ (handoffSystem natives Java).Run state more after ∧
      OperationOver state after := by
  have progress : ∀ middle, UnderWay state middle → ∃ event, event = .step .companion ∧
      (handoffSystem natives Java).enabled middle event ∧
      (OperationOver state ((handoffSystem natives Java).next middle event) ∨
        UnderWay state ((handoffSystem natives Java).next middle event) ∧
          ((handoffSystem natives Java).next middle event).operation.rank < middle.operation.rank) := by
    rintro middle ⟨within, java, kept⟩
    obtain ⟨sameJava, sameList⟩ := operationStep_frame middle
    obtain ⟨closer, ended⟩ := operationStep_rank within
    refine ⟨.step .companion, rfl, fun idle => absurd idle within, ?_⟩
    by_cases idle : (operationStep middle).operation = .idle
    · exact .inl ⟨sameJava.trans java, kept.trans sameList, idle, ended idle⟩
    · exact .inr ⟨⟨idle, sameJava.trans java, kept.trans sameList⟩, closer⟩
  exact System.exists_run_of_rank (fun middle => middle.operation.rank) progress ⟨inside, rfl, rfl, rfl⟩

/-- With a list there, the owner of the lock returns. -/
theorem javaStep_present (documented : natives.Documented) (present : state.heap.pendingList ≠ none)
    (inside : state.java thread = .inside native) :
    (javaStep natives state thread).java = Function.update state.java thread .running ∧
      (javaStep natives state thread).operation = state.operation ∧
      (javaStep natives state thread).heapLock = state.heapLock.release ∧
      (ListKept state (javaStep natives state thread) ∨ ListTaken state (javaStep natives state thread)) := by
  rcases javaStep_inside documented inside with ⟨none, _⟩ | step | step
  · exact absurd none present
  · rw [step]
    exact ⟨rfl, rfl, rfl, .inl ⟨rfl, rfl⟩⟩
  · rw [step]
    exact ⟨rfl, rfl, rfl, .inr ⟨rfl, rfl⟩⟩

/-- With nobody in its way, the thread is awake, tests again and returns. -/
theorem Handoff.returns [DecidableEq Oop] (documented : natives.Documented) (valid : Handoff state)
    (waits : state.java thread = .wait native) (present : state.heap.pendingList ≠ none)
    (idle : state.operation = .idle) (free : state.heapLock.owner = none) :
    ∃ after, (handoffSystem natives Java).Run state [.step (.java thread), .step (.java thread)] after ∧
      after.java thread = .running ∧ (ListKept state after ∨ ListTaken state after) := by
  have awake : state.heapLock.asleep (.java thread) = false := by
    rw [← Bool.not_eq_true]
    intro asleep
    have reason := (valid.sleepers _ asleep).2
    simp [idle, OperationPc.owesNotification, present] at reason
  have again : (References.javaStep natives state thread).java thread = .inside native := by
    simp [References.javaStep, waits, HandoffState.goto]
  have same : ListKept state (References.javaStep natives state thread) := by
    simp only [References.javaStep, waits]
    exact ⟨rfl, rfl⟩
  have first : (handoffSystem natives Java).enabled state (.step (.java thread)) :=
    ⟨by simp [waits], fun _ => ⟨free, awake⟩⟩
  have second : (handoffSystem natives Java).enabled (References.javaStep natives state thread) (.step (.java thread)) :=
    ⟨by simp [again], by simp [again, JavaPc.needsLock]⟩
  obtain ⟨running, _, _, outcome⟩ := javaStep_present documented (same.heap ▸ present) again
  refine ⟨_, (System.Run.start.step first).step second, ?_, ?_⟩
  · exact (congrFun running thread).trans (Function.update_self ..)
  · exact outcome.imp same.trans same.taken

/-- A thread that waits for a list that is there has returned, or the owner of the lock has
taken the list before it. -/
def Served (thread : Java) (state after : HandoffState Java Native Oop) : Prop :=
  after.java thread = .running ∧ (ListKept state after ∨ ListTaken state after) ∨
    ∃ owner, owner ≠ thread ∧ state.heapLock.owner = some (.java owner) ∧ after.java owner = .running ∧
      ListTaken state after

/-- The operation comes to its end, and then the thread returns. -/
theorem Handoff.served_by_operation [DecidableEq Oop] (documented : natives.Documented) (valid : Handoff state)
    (waits : state.java thread = .wait native) (present : state.heap.pendingList ≠ none)
    (owner : state.heapLock.owner = some .companion) :
    ∃ more after, (∀ event ∈ more, event = .step (.java thread) ∨ event = .step .companion) ∧
      (handoffSystem natives Java).Run state more after ∧ Served thread state after := by
  obtain ⟨more, middle, moved, run, ended⟩ := exists_operationOver natives ((valid.owned .companion).mp owner)
  have kept : Handoff middle := run.invariant Handoff valid fun _ _ valid allowed => valid.next documented allowed
  obtain ⟨after, rest, running, outcome⟩ := kept.returns documented ((congrFun ended.java thread).trans waits)
    (ended.kept.heap ▸ present) ended.idle ended.free
  refine ⟨_, after, ?_, run.append rest, .inl ⟨running, outcome.imp ended.kept.trans ended.kept.taken⟩⟩
  intro event member
  rcases List.mem_append.mp member with companion | own
  · exact .inr (moved event companion)
  · exact .inl (by simpa using own)

/-- The other thread returns, with the list or not; if not, the thread returns after it. -/
theorem Handoff.served_by_thread [DecidableEq Oop] (documented : natives.Documented) (valid : Handoff state)
    (waits : state.java thread = .wait native) (present : state.heap.pendingList ≠ none) {other : Java}
    (owner : state.heapLock.owner = some (.java other)) :
    ∃ more after, (∀ event ∈ more, event = .step (.java thread) ∨ event = .step (.java other)) ∧
      (handoffSystem natives Java).Run state more after ∧ Served thread state after := by
  have holds : (state.java other).holds = true := (valid.owned (.java other)).mp owner
  have idle := valid.operation_idle holds
  obtain ⟨own, within⟩ : ∃ native, state.java other = .inside native := by
    cases pc : state.java other with
    | inside native => exact ⟨native, rfl⟩
    | running | enter | wait => simp [pc, JavaPc.holds] at holds
  have different : thread ≠ other := by
    rintro rfl
    simp [waits] at within
  have allowed : (handoffSystem natives Java).enabled state (.step (.java other)) :=
    ⟨by simp [within], by simp [within, JavaPc.needsLock]⟩
  have first := System.Run.start.step allowed
  obtain ⟨java, operation, lock, outcome⟩ := javaStep_present documented present within
  rcases outcome with kept | taken
  · have next : Handoff (References.javaStep natives state other) := valid.javaStep documented allowed.2
    have stillWaits : (References.javaStep natives state other).java thread = .wait native := by
      simp [java, different, waits]
    obtain ⟨after, rest, running, outcome⟩ := next.returns documented stillWaits (kept.heap ▸ present)
      (operation.trans idle) (lock ▸ rfl)
    refine ⟨_, after, ?_, first.append rest, .inl ⟨running, outcome.imp kept.trans kept.taken⟩⟩
    intro event member
    simp only [List.nil_append, List.cons_append, List.mem_cons, List.not_mem_nil, or_false, or_self] at member
    exact member.symm
  · refine ⟨_, _, ?_, first, .inr ⟨other, different.symm, owner, ?_, taken⟩⟩
    · intro event member
      exact .inr (by simpa using member)
    · exact (congrFun java other).trans (Function.update_self ..)

/-- Only the thread and whoever owns the lock at the outset need to move. -/
theorem Handoff.served [DecidableEq Oop] (documented : natives.Documented) (valid : Handoff state)
    (waits : state.java thread = .wait native) (present : state.heap.pendingList ≠ none) :
    ∃ more after,
      (∀ event ∈ more, event = .step (.java thread) ∨
        ∃ owner, state.heapLock.owner = some owner ∧ event = .step owner) ∧
      (handoffSystem natives Java).Run state more after ∧ Served thread state after := by
  cases owner : state.heapLock.owner with
  | none =>
    have idle : state.operation = .idle := by
      by_contra inside
      have owns := (valid.owned .companion).mpr inside
      simp [owner] at owns
    obtain ⟨after, run, running, outcome⟩ := valid.returns documented waits present idle owner
    exact ⟨_, after, by simp, run, .inl ⟨running, outcome⟩⟩
  | some holder =>
    have served : ∃ more after, (∀ event ∈ more, event = .step (.java thread) ∨ event = .step holder) ∧
        (handoffSystem natives Java).Run state more after ∧ Served thread state after := by
      cases holder with
      | companion => exact valid.served_by_operation documented waits present owner
      | java other => exact valid.served_by_thread documented waits present owner
    obtain ⟨more, after, moved, run, outcome⟩ := served
    exact ⟨more, after, fun event member => (moved event member).imp_right fun own => ⟨holder, rfl, own⟩, run, outcome⟩

end Progress

/-- In every run: once the operation has come past its notification, nobody sleeps while
there is a pending list; nobody touches the list while the collector fills it; what was
enqueued has been returned or is pending, once; and a thread that waits for a list that
is there can be served by steps of the owner of the lock and of its own. -/
theorem pending_list_handed_over {Java Native Oop : Type} [DecidableEq Java] [DecidableEq Oop]
    (natives : HeapLockNatives Native Oop) (documented : natives.Documented) (start state : HandoffState Java Native Oop)
    (events : List (HandoffEvent Java Native Oop)) (initial : List Oop) (starts : start.Initial)
    (chain : Chain start.heap.discovered start.heap.pendingList initial)
    (run : (handoffSystem natives Java).Run start events state) :
    (state.heap.pendingList ≠ none → state.operation.owesNotification = false →
      ∀ thread, state.heapLock.asleep thread = false) ∧
    (state.operation = .doit → ∀ thread, (state.java thread).holds = false) ∧
    (∃ (lists : List (List Oop)) (pending : List Oop), lists.map List.head? = state.returned ∧
      Chain state.heap.discovered state.heap.pendingList pending ∧
      (lists.flatten ++ pending).Perm (initial ++ (enqueued events).flatMap List.eraseDups)) ∧
    ∀ thread native, state.java thread = .wait native → state.heap.pendingList ≠ none →
      ∃ more after,
        (∀ event ∈ more, event = .step (.java thread) ∨
          ∃ owner, state.heapLock.owner = some owner ∧ event = .step owner) ∧
        (handoffSystem natives Java).Run state more after ∧ Served thread state after := by
  have valid : Handoff state :=
    run.invariant Handoff (.initial starts) fun _ _ valid allowed => valid.next documented allowed
  have refines : ∃ abstract, Refines start events state abstract := by
    refine run.history (fun events state => ∃ abstract, Refines start events state abstract) ?_ ?_
    · exact ⟨[], .start, rfl, starts.2.2.2.2.1.symm⟩
    · rintro events state event ⟨abstract, refines⟩ allowed
      exact refines.next documented chain allowed
  refine ⟨?_, ?_, ?_, ?_⟩
  · intro present notified thread
    rw [← Bool.not_eq_true]
    intro asleep
    have maySleep := valid.sleepers thread asleep
    cases thread with
    | companion => exact maySleep
    | java thread => simpa [present, notified] using maySleep.2
  · intro inDoit thread
    rw [← Bool.not_eq_true]
    intro holds
    exact absurd (inDoit.symm.trans (valid.operation_idle holds)) (by simp)
  · obtain ⟨abstract, refines⟩ := refines
    exact refines.shared chain
  · intro thread native waits present
    exact valid.served documented waits present

/-- The natives of `java.lang.ref.Reference`, and any other code under the lock. -/
inductive ReferenceNative where
  | waitForReferencePendingList
  | getAndClearReferencePendingList
  | other
  deriving DecidableEq

def referenceNatives : HeapLockNatives ReferenceNative Nat
  | .waitForReferencePendingList, heap => if heap.hasReferencePendingList then .leave heap none else .wait
  | .getAndClearReferencePendingList, heap => .leave { heap with pendingList := none } (some heap.pendingList)
  | .other, heap => .leave heap none

theorem referenceNatives_documented : referenceNatives.Documented where
  waits native heap waits := by
    cases native with
    | waitForReferencePendingList =>
      by_cases present : heap.hasReferencePendingList = true
      · simp [referenceNatives, present] at waits
      · simpa [Heap.hasReferencePendingList] using present
    | getAndClearReferencePendingList => cases waits
    | other => cases waits
  leaves native heap after returned leaves := by
    cases native with
    | waitForReferencePendingList =>
      by_cases present : heap.hasReferencePendingList = true
      · simp only [referenceNatives, present, if_true, NativeStep.leave.injEq] at leaves
        exact .inl ⟨leaves.1.symm, leaves.2.symm⟩
      · simp [referenceNatives, present] at leaves
    | getAndClearReferencePendingList =>
      simp only [referenceNatives, NativeStep.leave.injEq] at leaves
      exact .inr ⟨leaves.1.symm, leaves.2.symm⟩
    | other =>
      simp only [referenceNatives, NativeStep.leave.injEq] at leaves
      exact .inl ⟨leaves.1.symm, leaves.2.symm⟩

/-- The handler goes to sleep on an empty list, and an operation enqueues two References and
notifies it. -/
def sleepThenEnqueue : List (HandoffEvent Bool ReferenceNative Nat) :=
  [.call true .waitForReferencePendingList, .step (.java true), .step (.java true), .step .companion, .step .companion,
    .enqueue [3, 5, 3], .step .companion, .step .companion, .step .companion]

/-- Another thread comes before the handler. -/
def sleepThenOvertaken : List (HandoffEvent Bool ReferenceNative Nat) :=
  sleepThenEnqueue ++ [.step .companion, .call false .getAndClearReferencePendingList, .step (.java false)]

def nothingPending : HandoffState Bool ReferenceNative Nat :=
  ⟨Monitor.fresh, ⟨fun _ => none, none⟩, .idle, false, fun _ => .running, []⟩

def handoffAfter (events : List (HandoffEvent Bool ReferenceNative Nat)) : HandoffState Bool ReferenceNative Nat :=
  events.foldl (handoffNext referenceNatives) nothingPending

theorem sleeping_handler_notified :
    (handoffAfter sleepThenEnqueue).heapLock.asleep (.java true) = false ∧
      (∃ more after, (handoffSystem referenceNatives Bool).Run (handoffAfter sleepThenEnqueue) more after ∧
        after.java true = .running) ∧
      ∃ more after, (handoffSystem referenceNatives Bool).Run (handoffAfter sleepThenOvertaken) more after ∧
        (after.java true = .running ∨ after.java false = .running ∧ after.returned = [some 3]) := by
  have starts : nothingPending.Initial := ⟨rfl, rfl, fun _ => rfl, rfl, rfl, [], rfl⟩
  have notified : (handoffSystem referenceNatives Bool).Allowed nothingPending sleepThenEnqueue := by
    exact ⟨rfl, ⟨nofun, fun _ => ⟨rfl, rfl⟩⟩, ⟨nofun, nofun⟩, fun _ => ⟨rfl, rfl⟩, nofun,
      ⟨rfl, [], fun _ _ => rfl, rfl, by simp⟩, nofun, nofun, nofun, trivial⟩
  have overtaken : (handoffSystem referenceNatives Bool).Allowed nothingPending sleepThenOvertaken := by
    exact ⟨rfl, ⟨nofun, fun _ => ⟨rfl, rfl⟩⟩, ⟨nofun, nofun⟩, fun _ => ⟨rfl, rfl⟩, nofun,
      ⟨rfl, [], fun _ _ => rfl, rfl, by simp⟩, nofun, nofun, nofun, nofun, rfl, ⟨nofun, fun _ => ⟨rfl, rfl⟩⟩, trivial⟩
  obtain ⟨awake, _, _, served⟩ := pending_list_handed_over referenceNatives referenceNatives_documented nothingPending _
    sleepThenEnqueue [] starts rfl notified.run
  refine ⟨awake (by decide) (by decide) (.java true), ?_, ?_⟩
  · obtain ⟨more, after, _, run, ⟨running, _⟩ | ⟨owner, _, owns, _⟩⟩ :=
      served true .waitForReferencePendingList rfl (by decide)
    · exact ⟨more, after, run, running⟩
    · cases owns
  · obtain ⟨_, _, _, served⟩ := pending_list_handed_over referenceNatives referenceNatives_documented nothingPending _
      sleepThenOvertaken [] starts rfl overtaken.run
    obtain ⟨more, after, _, run, ⟨running, _⟩ | ⟨owner, _, owns, running, taken⟩⟩ :=
      served true .waitForReferencePendingList rfl (by decide)
    · exact ⟨more, after, run, .inl running⟩
    · cases owns
      exact ⟨more, after, run, .inr ⟨running, taken.returned⟩⟩

end MmtkOpenJDK.References
