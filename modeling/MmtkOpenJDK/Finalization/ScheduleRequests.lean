import MmtkOpenJDK.Finalization.FinalizerThread

/-! No request to finalize is lost: outside the window of a GC round the finalizer
thread sleeps only when there is nothing to do. -/

namespace MmtkOpenJDK.Finalization

open MmtkOpenJDK.Foundation

variable {Object : Type} {state : State Object} {ready : ReadyQueue Object}

/-- The thread is in a critical section of the monitor. -/
def State.Holds (state : State Object) : Thread → Prop
  | .gc => state.gc.holds = true
  | .finalizer => state.finalizer.holds = true

/-- Only the finalizer thread in its call of `wait` can be asleep. -/
def State.Waits (state : State Object) (thread : Thread) : Prop :=
  thread = .finalizer ∧ state.finalizer = .wait

structure Locked (state : State Object) : Prop where
  owned : state.monitor.Owned state.Holds
  sleepers : state.monitor.Sleepers state.Waits

theorem Locked.initial : Locked (initialState : State Object) where
  owned thread := by cases thread <;> simp [initialState, State.Holds, GCPc.holds, FinalizerPc.holds]
  sleepers thread asleep := by simp [initialState] at asleep

/-- The two threads are never in the critical section together. -/
theorem Locked.exclusive (locked : Locked state) (gc : state.gc.holds = true) :
    state.finalizer.holds = false := by
  by_contra finalizer
  have first := (locked.owned .gc).mpr gc
  have second := (locked.owned .finalizer).mpr (by simpa [State.Holds] using finalizer)
  simp [first] at second

theorem Locked.awake (locked : Locked state)
    (free : state.finalizer.needsLock = true → state.monitor.Free .finalizer) :
    state.monitor.asleep .finalizer = false := by
  by_contra asleep
  obtain ⟨_, pc⟩ := locked.sleepers .finalizer (by simpa using asleep)
  exact asleep (free (by rw [pc]; rfl)).2

/-- A step of the GC that puts nobody to sleep. -/
theorem Locked.gcStep {after : State Object} (locked : Locked state) (owned : after.monitor.Owned after.Holds)
    (finalizer : after.finalizer = state.finalizer)
    (asleep : ∀ thread, after.monitor.asleep thread = true → state.monitor.asleep thread = true) :
    Locked after where
  owned := owned
  sleepers := by
    intro thread sleeping
    obtain ⟨same, pc⟩ := locked.sleepers thread (asleep thread sleeping)
    exact ⟨same, finalizer.trans pc⟩

theorem holds_gcStep {after : State Object} (finalizer : after.finalizer = state.finalizer) (other : Thread)
    (different : other ≠ .gc) : after.Holds other ↔ state.Holds other := by
  cases other with
  | gc => exact absurd rfl different
  | finalizer => simp [State.Holds, finalizer]

theorem holds_finalizerStep {after : State Object} (gc : after.gc = state.gc) (other : Thread)
    (different : other ≠ .finalizer) : after.Holds other ↔ state.Holds other := by
  cases other with
  | gc => simp [State.Holds, gc]
  | finalizer => exact absurd rfl different

/-- A step that leaves the monitor and the critical sections alone. -/
theorem Locked.keepOwner {after : State Object} (locked : Locked state) (monitor : after.monitor = state.monitor)
    (gc : after.gc.holds = state.gc.holds) (finalizer : after.finalizer.holds = state.finalizer.holds) :
    after.monitor.Owned after.Holds := by
  rw [monitor]
  refine locked.owned.congr ?_
  intro thread
  cases thread <;> simp [State.Holds, gc, finalizer]

theorem Locked.schedule (locked : Locked state) (allowed : enabled state .gc) : Locked (schedule state) := by
  have keep : ∀ pc isScheduled, pc.holds = state.gc.holds → Locked { state with gc := pc, isScheduled := isScheduled } :=
    fun pc isScheduled same => locked.gcStep (locked.keepOwner rfl same rfl) rfl (fun _ asleep => asleep)
  rw [Finalization.schedule]
  cases gc : state.gc with
  | idle => exact keep .lock _ (by rw [gc]; rfl)
  | appending => exact keep .lock _ (by rw [gc]; rfl)
  | lock =>
    exact locked.gcStep (locked.owned.acquire (allowed gc).1 rfl (holds_gcStep rfl)) rfl (fun _ asleep => asleep)
  | test =>
    by_cases scheduled : state.isScheduled = true
    · simp only [if_pos scheduled]
      exact keep .unlock _ (by rw [gc]; rfl)
    · simp only [if_neg scheduled]
      exact keep .set _ (by rw [gc]; rfl)
  | set => exact keep .notify true (by rw [gc]; rfl)
  | notify =>
    have owned : state.monitor.Owned { state with gc := .unlock }.Holds :=
      locked.owned.congr (by intro thread; cases thread <;> simp [State.Holds, gc, GCPc.holds])
    refine locked.gcStep owned rfl ?_
    intro thread asleep
    by_cases same : thread = .finalizer
    · subst same
      simp at asleep
    · simpa [same] using asleep
  | unlock =>
    have own : state.Holds .gc := by simp [State.Holds, gc, GCPc.holds]
    exact locked.gcStep (locked.owned.leave own rfl (by simp [State.Holds, GCPc.holds]) (holds_gcStep rfl)) rfl
      (fun _ asleep => asleep)

/-- A step of the finalizer thread after which it is awake. -/
theorem Locked.finalizerStep {after : State Object} (locked : Locked state) (owned : after.monitor.Owned after.Holds)
    (awake : state.monitor.asleep .finalizer = false) (asleep : after.monitor.asleep = state.monitor.asleep) :
    Locked after where
  owned := owned
  sleepers := by
    rw [Monitor.Sleepers, asleep]
    intro thread sleeping
    obtain ⟨rfl, _⟩ := locked.sleepers thread sleeping
    simp [awake] at sleeping

theorem Locked.getFinalizedObject (locked : Locked state) (awake : state.monitor.asleep .finalizer = false)
    (take : state.finalizer = .take) : Locked (getFinalizedObject ready state) := by
  rw [Finalization.getFinalizedObject]
  cases ready.pop state.queue with
  | none => exact locked.finalizerStep (locked.keepOwner rfl rfl (by rw [take]; rfl)) awake rfl
  | some found => exact locked.finalizerStep (locked.keepOwner rfl rfl (by rw [take]; rfl)) awake rfl

theorem Locked.finalizerThreadEntry (locked : Locked state) (allowed : enabled state .finalizer) :
    Locked (finalizerThreadEntry ready state) := by
  have awake := locked.awake allowed.2
  have keep : ∀ pc isScheduled, pc.holds = state.finalizer.holds →
      Locked { state with finalizer := pc, isScheduled := isScheduled } :=
    fun pc isScheduled same => locked.finalizerStep (locked.keepOwner rfl rfl same) awake rfl
  have acquire : state.finalizer.needsLock = true →
      Locked { state with finalizer := .test, monitor := state.monitor.acquire .finalizer } :=
    fun needs => locked.finalizerStep
      (locked.owned.acquire (allowed.2 needs).1 rfl (holds_finalizerStep rfl)) awake rfl
  rw [Finalization.finalizerThreadEntry]
  cases pc : state.finalizer with
  | lock => exact acquire (by rw [pc]; rfl)
  | test =>
    by_cases scheduled : state.isScheduled = true
    · simp only [if_pos scheduled]
      exact keep .clear _ (by rw [pc]; rfl)
    · simp only [if_neg scheduled]
      exact keep .sleep _ (by rw [pc]; rfl)
  | sleep =>
    have own : state.Holds .finalizer := by simp [State.Holds, pc, FinalizerPc.holds]
    refine ⟨locked.owned.leave own rfl (by simp [State.Holds, FinalizerPc.holds]) (holds_finalizerStep rfl), ?_⟩
    refine locked.sleepers.wait ⟨rfl, rfl⟩ ?_
    rintro other different ⟨same, _⟩
    exact absurd same different
  | wait => exact acquire (by rw [pc]; rfl)
  | clear => exact keep .unlock false (by rw [pc]; rfl)
  | unlock =>
    have own : state.Holds .finalizer := by simp [State.Holds, pc, FinalizerPc.holds]
    exact locked.finalizerStep
      (locked.owned.leave own rfl (by simp [State.Holds, FinalizerPc.holds]) (holds_finalizerStep rfl)) awake rfl
  | take => exact locked.getFinalizedObject awake pc
  | invoke object => exact locked

theorem Locked.next (locked : Locked state) {event : Event Object} (allowed : enabled state event) :
    Locked (next ready state event) := by
  cases event with
  | append object =>
    refine locked.gcStep (locked.keepOwner rfl ?_ rfl) rfl (fun _ asleep => asleep)
    rcases allowed with gc | gc <;> rw [gc] <;> rfl
  | gc => exact locked.schedule allowed
  | finalizer => exact locked.finalizerThreadEntry allowed
  | finalize throws =>
    cases pc : state.finalizer with
    | invoke object =>
      have awake := locked.awake (by simp [pc, FinalizerPc.needsLock])
      exact locked.finalizerStep (locked.keepOwner rfl rfl (by rw [pc]; rfl)) awake rfl
    | _ => simp [enabled, pc, FinalizerPc.current] at allowed
  | spuriousWakeup => exact ⟨locked.owned, locked.sleepers.wake⟩

/-- The thread has consumed a request and will look at the queue again. -/
def FinalizerPc.draining : FinalizerPc Object → Bool
  | .unlock | .take | .invoke _ => true
  | .lock | .test | .sleep | .wait | .clear => false

/-- Who will see to the objects in the queue, and what the flag is worth at each
point of the two threads. -/
structure Served (state : State Object) : Prop where
  flag : state.monitor.asleep .finalizer = true ∨ state.finalizer = .sleep →
    state.isScheduled = true → state.gc = .notify
  clear : state.finalizer = .clear → state.isScheduled = true
  scheduled : state.gc = .notify ∨ state.gc = .unlock → state.isScheduled = true
  served : state.queue ≠ [] → state.gc.inWindow = true ∨ state.isScheduled = true ∨ state.finalizer.draining = true

theorem Served.initial : Served (initialState : State Object) := by
  constructor <;> simp [initialState]

theorem Served.schedule (served : Served state) (locked : Locked state) : Served (schedule state) := by
  obtain ⟨flag, clear, scheduled, covered⟩ := served
  rw [Finalization.schedule]
  cases gc : state.gc with
  | idle | appending | lock =>
    refine ⟨?_, clear, by simp, fun _ => .inl rfl⟩
    intro sleeping set
    simp [flag sleeping set] at gc
  | test =>
    by_cases set : state.isScheduled = true
    · simp only [if_pos set]
      refine ⟨?_, clear, fun _ => set, fun _ => .inr (.inl set)⟩
      intro sleeping set
      simp [flag sleeping set] at gc
    · simp only [if_neg set]
      exact ⟨fun _ isSet => absurd isSet set, clear, by simp, fun _ => .inl rfl⟩
  | set => exact ⟨fun _ _ => rfl, fun _ => rfl, fun _ => rfl, fun _ => .inl rfl⟩
  | notify =>
    have set := scheduled (.inl gc)
    have outside := locked.exclusive (by rw [gc]; rfl)
    refine ⟨?_, clear, fun _ => set, fun _ => .inr (.inl set)⟩
    rintro (asleep | sleep)
    · simp at asleep
    · simp [show state.finalizer = _ from sleep, FinalizerPc.holds] at outside
  | unlock =>
    have set := scheduled (.inr gc)
    refine ⟨?_, clear, by simp, fun _ => .inr (.inl set)⟩
    intro sleeping _
    simp [flag sleeping set] at gc

theorem Served.getFinalizedObject (served : Served state) (locked : Locked state) (take : state.finalizer = .take) :
    Served (getFinalizedObject ready state) := by
  have awake := locked.awake (by simp [take, FinalizerPc.needsLock])
  rw [Finalization.getFinalizedObject]
  by_cases empty : state.queue = []
  · have answer : ready.pop state.queue = none := by rw [empty, ready.pop_nil]
    rw [answer]
    refine ⟨?_, by simp, served.scheduled, fun nonempty => absurd empty nonempty⟩
    simp [awake]
  · obtain ⟨object, rest, found⟩ := ready.pop_some state.queue empty
    rw [found]
    refine ⟨?_, by simp, served.scheduled, fun _ => .inr (.inr rfl)⟩
    simp [awake]

theorem Served.finalizerThreadEntry (served : Served state) (locked : Locked state)
    (allowed : enabled state .finalizer) : Served (finalizerThreadEntry ready state) := by
  have awake := locked.awake allowed.2
  obtain ⟨flag, clear, scheduled, covered⟩ := served
  rw [Finalization.finalizerThreadEntry]
  cases pc : state.finalizer with
  | lock | wait =>
    rw [pc] at covered
    exact ⟨by simp [awake], by simp, scheduled, covered⟩
  | test =>
    rw [pc] at covered
    by_cases set : state.isScheduled = true
    · simp only [if_pos set]
      exact ⟨by simp [awake], fun _ => set, scheduled, covered⟩
    · simp only [if_neg set]
      exact ⟨fun _ isSet => absurd isSet set, by simp, scheduled, covered⟩
  | sleep =>
    rw [pc] at covered
    exact ⟨fun _ => flag (.inr pc), by simp, scheduled, covered⟩
  | clear =>
    have outside : state.gc.holds = false := by
      by_contra inside
      have exclusive := locked.exclusive (by simpa using inside)
      simp [pc, FinalizerPc.holds] at exclusive
    refine ⟨by simp [awake], by simp, ?_, fun _ => .inr (.inr rfl)⟩
    rintro (gc | gc) <;> simp [show state.gc = _ from gc, GCPc.holds] at outside
  | unlock => exact ⟨by simp [awake], by simp, scheduled, fun _ => .inr (.inr rfl)⟩
  | take => exact Served.getFinalizedObject ⟨flag, clear, scheduled, covered⟩ locked pc
  | invoke object => exact ⟨flag, clear, scheduled, covered⟩

theorem Served.next (served : Served state) (locked : Locked state) {event : Event Object}
    (allowed : enabled state event) : Served (next ready state event) := by
  cases event with
  | append object =>
    refine ⟨?_, served.clear, by simp [Finalization.next], fun _ => .inl rfl⟩
    intro sleeping set
    have notify := served.flag sleeping set
    rcases allowed with gc | gc <;> simp [gc] at notify
  | gc => exact served.schedule locked
  | finalizer => exact served.finalizerThreadEntry locked allowed
  | finalize throws =>
    refine ⟨?_, by simp [Finalization.next, invokeFinalize], served.scheduled, fun _ => .inr (.inr rfl)⟩
    rintro (asleep | sleep)
    · exact served.flag (.inl asleep)
    · simp [Finalization.next, invokeFinalize] at sleep
  | spuriousWakeup =>
    refine ⟨?_, served.clear, served.scheduled, served.served⟩
    rintro (asleep | sleep)
    · simp [Finalization.next] at asleep
    · exact served.flag (.inr sleep)

/-- The account of the queue: what was appended has been taken or is still there. -/
structure Accounted (ready : ReadyQueue Object) (state : State Object) : Prop where
  once : state.appended.Perm (state.taken ++ state.queue)
  inOrder : ready.Fifo → state.appended = state.taken ++ state.queue

theorem Accounted.initial : Accounted ready (initialState : State Object) := by
  constructor <;> simp [initialState]

/-- Only the finalizer thread takes objects, and only the GC appends them. -/
theorem account_unchanged (ready : ReadyQueue Object) (state : State Object) {event : Event Object}
    (notAppend : ∀ object, event ≠ .append object) (notFinalizer : event ≠ .finalizer) :
    (next ready state event).appended = state.appended ∧ (next ready state event).taken = state.taken ∧
      (next ready state event).queue = state.queue := by
  cases event with
  | append object => exact absurd rfl (notAppend object)
  | finalizer => exact absurd rfl notFinalizer
  | gc =>
    rw [next, schedule]
    cases state.gc with
    | test =>
      by_cases set : state.isScheduled = true <;> simp [set]
    | _ => simp
  | finalize throws => simp [next, invokeFinalize]
  | spuriousWakeup => simp [next]

theorem Accounted.getFinalizedObject (accounted : Accounted ready state) :
    Accounted ready (getFinalizedObject ready state) := by
  obtain ⟨once, inOrder⟩ := accounted
  rw [Finalization.getFinalizedObject]
  cases found : ready.pop state.queue with
  | none => exact ⟨once, inOrder⟩
  | some result =>
    obtain ⟨object, rest⟩ := result
    have removed := ready.pop_perm state.queue object rest found
    refine ⟨?_, ?_⟩
    · simpa using once.trans (removed.append_left state.taken)
    · intro fifo
      cases queue : state.queue with
      | nil => simp [queue, ready.pop_nil] at found
      | cons first others =>
        rw [queue, fifo] at found
        cases found
        simpa [queue] using inOrder fifo

theorem Accounted.finalizerThreadEntry (accounted : Accounted ready state) :
    Accounted ready (finalizerThreadEntry ready state) := by
  rw [Finalization.finalizerThreadEntry]
  cases state.finalizer with
  | take => exact accounted.getFinalizedObject
  | test =>
    by_cases set : state.isScheduled = true
    · simp only [if_pos set]
      exact ⟨accounted.once, accounted.inOrder⟩
    · simp only [if_neg set]
      exact ⟨accounted.once, accounted.inOrder⟩
  | _ => exact ⟨accounted.once, accounted.inOrder⟩

theorem Accounted.append (accounted : Accounted ready state) (object : Object) :
    Accounted ready (next ready state (.append object)) := by
  refine ⟨?_, ?_⟩
  · simpa [next] using accounted.once.append_right [object]
  · intro fifo
    simp [next, accounted.inOrder fifo]

theorem Accounted.unchanged (accounted : Accounted ready state) {event : Event Object}
    (notAppend : ∀ object, event ≠ .append object) (notFinalizer : event ≠ .finalizer) :
    Accounted ready (next ready state event) := by
  obtain ⟨appended, taken, queue⟩ := account_unchanged ready state notAppend notFinalizer
  constructor
  · rw [appended, taken, queue]
    exact accounted.once
  · rw [appended, taken, queue]
    exact accounted.inOrder

theorem Accounted.next (accounted : Accounted ready state) (event : Event Object) :
    Accounted ready (next ready state event) := by
  cases event with
  | append object => exact accounted.append object
  | finalizer => exact accounted.finalizerThreadEntry
  | gc => exact accounted.unchanged (by simp) (by simp)
  | finalize throws => exact accounted.unchanged (by simp) (by simp)
  | spuriousWakeup => exact accounted.unchanged (by simp) (by simp)

theorem invariant_of_reachable (reachable : (finalizerSystem ready).Reachable state) :
    Locked state ∧ Served state ∧ Accounted ready state :=
  reachable.invariant (fun state => Locked state ∧ Served state ∧ Accounted ready state)
    (fun _ initial => initial ▸ ⟨Locked.initial, Served.initial, Accounted.initial⟩)
    (fun _ event valid allowed =>
      ⟨valid.1.next allowed, valid.2.1.next valid.1 allowed, valid.2.2.next event⟩)

/-- In every reachable state: outside the window of a GC round, a sleeping finalizer
thread has nothing to do and no request is pending; every appended object has been
taken once or is still in the queue, in order for a queue that is first in, first
out; and no other thread takes objects. -/
theorem no_schedule_request_lost (ready : ReadyQueue Object) {state : State Object}
    (reachable : (finalizerSystem ready).Reachable state) :
    (state.gc.inWindow = false → state.finalizer = .wait → state.monitor.asleep .finalizer = true →
      state.queue = [] ∧ state.isScheduled = false) ∧
    state.appended.Perm (state.taken ++ state.queue) ∧
    (ready.Fifo → state.appended = state.taken ++ state.queue) ∧
    (∀ event, event ≠ .finalizer → (next ready state event).taken = state.taken) := by
  obtain ⟨_, served, accounted⟩ := invariant_of_reachable reachable
  refine ⟨?_, accounted.once, accounted.inOrder, ?_⟩
  · intro closed pc asleep
    have unset : state.isScheduled = false := by
      by_contra set
      have notify := served.flag (.inl asleep) (by simpa using set)
      simp [notify, GCPc.inWindow] at closed
    refine ⟨?_, unset⟩
    by_contra nonempty
    simpa [closed, unset, pc, FinalizerPc.draining] using served.served nonempty
  · intro event other
    cases event with
    | append object => rfl
    | _ => exact (account_unchanged ready state (by simp) other).2.1

theorem fifoQueue_fifo : (fifoQueue Object).Fifo := fun _ _ => rfl

/-- Two objects in a first round; a third object and a second request arrive while
the thread drains; the thread then sleeps again. -/
def overlappingRounds : List (Event Nat) :=
  [.finalizer, .finalizer, .finalizer, .append 1, .append 2, .gc, .spuriousWakeup, .gc, .gc, .gc, .gc, .gc,
    .finalizer, .finalizer, .finalizer, .finalizer, .finalizer, .finalize false, .append 3, .gc, .gc, .gc, .gc, .gc,
    .gc, .finalizer, .finalize false, .finalizer, .finalize false, .finalizer, .finalizer, .finalizer, .finalizer,
    .finalizer, .finalizer, .finalizer, .finalizer, .finalizer]

theorem overlapping_rounds_served :
    (overlappingRounds.foldl (next (fifoQueue Nat)) initialState).taken = [1, 2, 3] ∧
      (overlappingRounds.foldl (next (fifoQueue Nat)) initialState).queue = [] := by
  have allowed : (finalizerSystem (fifoQueue Nat)).Allowed initialState overlappingRounds := by decide
  have lost := no_schedule_request_lost (fifoQueue Nat) ⟨initialState, overlappingRounds, rfl, allowed.run⟩
  have empty := (lost.1 (by decide) rfl (by decide)).1
  have inOrder := lost.2.2.1 fifoQueue_fifo
  rw [empty, List.append_nil] at inOrder
  exact ⟨inOrder.symm.trans (by decide), empty⟩

end MmtkOpenJDK.Finalization
