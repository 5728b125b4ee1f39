import MmtkOpenJDK.StopTheWorld.BlockForGC

/-! Every mutator in `mmtk_block_for_gc` waits for the first GC after its read of
the counter, and is notified of it. -/

namespace MmtkOpenJDK.BlockForGC

open MmtkOpenJDK.Foundation

variable {Mutator : Type} {state : State Mutator} {mutator : Mutator} {pc : MutatorPc}

/-- What the awaited value of one mutator is worth. Before the mutator is safe the
counter still has the value it read. -/
def Awaits (readAt count : Nat) : MutatorPc → Prop
  | .running | .parked | .entry => True
  | .read nextCount => nextCount = count + 1 ∧ readAt = count
  | .lock nextCount | .test nextCount | .sleep nextCount | .wait nextCount =>
    nextCount = readAt + 1 ∧ readAt ≤ count
  | .leaving nextCount => nextCount = readAt + 1 ∧ nextCount ≤ count

/-- The counter, the safepoint and the record of increments. -/
structure Counting (state : State Mutator) : Prop where
  safe : state.worldStopped = true → ∀ mutator, (state.mutators mutator).safe = true
  stopped : state.worker = .collecting ∨ state.worker = .counted → state.worldStopped = true
  counted : state.stops = if state.worker = .collecting then state.count + 1 else state.count
  recorded : state.increments = (List.range state.count).map (fun index => ⟨index + 1, index + 1⟩)
  awaits : ∀ mutator, Awaits (state.readAt mutator) state.count (state.mutators mutator)

theorem Counting.initial : Counting (initialState : State Mutator) where
  safe := by simp [initialState]
  stopped := by simp [initialState]
  counted := by simp [initialState]
  recorded := rfl
  awaits := fun _ => trivial

/-- A safe mutator does not mind an increment. -/
theorem Awaits.increment {readAt count : Nat} (awaits : Awaits readAt count pc) (safe : pc.safe = true) :
    Awaits readAt (count + 1) pc := by
  cases pc with
  | running | parked | entry => trivial
  | read nextCount => simp [MutatorPc.safe] at safe
  | lock nextCount | test nextCount | sleep nextCount | wait nextCount =>
    exact ⟨awaits.1, Nat.le_succ_of_le awaits.2⟩
  | leaving nextCount => exact ⟨awaits.1, Nat.le_succ_of_le awaits.2⟩

/-- An unsafe mutator keeps the world from being stopped and counted. -/
theorem Counting.unsafe_count (valid : Counting state) (running : (state.mutators mutator).safe = false) :
    state.worldStopped = false ∧ state.worker ≠ .collecting ∧ state.stops = state.count := by
  have notStopped : state.worldStopped = false := by
    by_contra stopped
    have safe := valid.safe (by simpa using stopped) mutator
    simp [running] at safe
  have notCollecting : state.worker ≠ .collecting := by
    intro collecting
    have stopped := valid.stopped (.inl collecting)
    simp [notStopped] at stopped
  exact ⟨notStopped, notCollecting, by simpa [notCollecting] using valid.counted⟩

theorem Counting.workerStep (valid : Counting state) (allowed : enabled state (.step .worker)) :
    Counting (workerStep state) := by
  have counted := valid.counted
  rw [BlockForGC.workerStep]
  cases worker : state.worker with
  | idle =>
    rw [worker] at counted
    exact ⟨fun _ => allowed.1 worker, fun _ => rfl, congrArg (· + 1) counted, valid.recorded, valid.awaits⟩
  | collecting =>
    have stopped := valid.stopped (.inl worker)
    rw [worker] at counted
    refine ⟨valid.safe, fun _ => stopped, counted, ?_, ?_⟩
    · simp [valid.recorded, List.range_succ, show state.stops = state.count + 1 from counted]
    · intro mutator
      exact (valid.awaits mutator).increment (valid.safe stopped mutator)
  | counted | resuming | lock | locked | notified =>
    rw [worker] at counted
    exact ⟨valid.safe, by simp, counted, valid.recorded, valid.awaits⟩

section Mutators

variable [DecidableEq Mutator]

/-- A mutator's step, as far as the counter goes. -/
theorem Counting.goto (valid : Counting state) {gcLock : Monitor (Thread Mutator)}
    (safe : state.worldStopped = true → pc.safe = true)
    (awaits : Awaits (state.readAt mutator) state.count pc) :
    Counting { state.goto mutator pc with gcLock := gcLock } where
  safe := by
    intro stopped other
    by_cases same : other = mutator
    · subst same
      simpa [State.goto] using safe stopped
    · simpa [State.goto, same] using valid.safe stopped other
  stopped := valid.stopped
  counted := valid.counted
  recorded := valid.recorded
  awaits := by
    intro other
    by_cases same : other = mutator
    · subst same
      simpa [State.goto] using awaits
    · simpa [State.goto, same] using valid.awaits other

/-- The read of the counter: the mutator is not safe, so no GC is under way. -/
theorem Counting.read (valid : Counting state) (entry : state.mutators mutator = .entry) :
    Counting { state.goto mutator (.read (state.count + 1)) with
      readAt := Function.update state.readAt mutator state.stops } := by
  have running : (state.mutators mutator).safe = false := by rw [entry]; rfl
  obtain ⟨notStopped, _, stops⟩ := valid.unsafe_count running
  refine ⟨?_, valid.stopped, valid.counted, valid.recorded, ?_⟩
  · intro stopped
    exact absurd stopped (by simp [State.goto, notStopped])
  · intro other
    by_cases same : other = mutator
    · subst same
      simp [State.goto, Awaits, stops]
    · simpa [State.goto, same] using valid.awaits other

theorem Counting.mmtkBlockForGc (valid : Counting state) (allowed : enabled state (.step (.mutator mutator))) :
    Counting (mmtkBlockForGc state mutator) := by
  have awaits := valid.awaits mutator
  rw [BlockForGC.mmtkBlockForGc]
  cases pc : state.mutators mutator with
  | running => exact valid
  | parked => exact valid
  | entry => exact valid.read pc
  | read nextCount =>
    rw [pc] at awaits
    exact valid.goto (fun _ => rfl) ⟨awaits.2.symm ▸ awaits.1, Nat.le_of_eq awaits.2⟩
  | lock nextCount =>
    rw [pc] at awaits
    exact valid.goto (fun _ => rfl) awaits
  | test nextCount =>
    rw [pc] at awaits
    show Counting (blockTest state mutator nextCount)
    by_cases waiting : state.count < nextCount
    · rw [blockTest, if_pos waiting]
      exact valid.goto (fun _ => rfl) awaits
    · rw [blockTest, if_neg waiting]
      exact valid.goto (fun _ => rfl) ⟨awaits.1, Nat.le_of_not_lt waiting⟩
  | sleep nextCount =>
    rw [pc] at awaits
    exact valid.goto (fun _ => rfl) awaits
  | wait nextCount =>
    rw [pc] at awaits
    exact valid.goto (fun _ => rfl) awaits
  | leaving nextCount =>
    have running := allowed.2.2 (by rw [pc]; rfl)
    exact valid.goto (by simp [running]) trivial

theorem Counting.next (valid : Counting state) {event : Event Mutator} (allowed : enabled state event) :
    Counting (next state event) := by
  cases event with
  | park mutator => exact valid.goto (fun _ => rfl) trivial
  | unpark mutator => exact valid.goto (by simp [allowed.2]) trivial
  | call mutator =>
    have running : (state.mutators mutator).safe = false := by rw [show state.mutators mutator = _ from allowed]; rfl
    exact valid.goto (by simp [(valid.unsafe_count running).1]) trivial
  | step thread =>
    cases thread with
    | worker => exact valid.workerStep allowed
    | mutator mutator => exact valid.mmtkBlockForGc allowed
  | endSafepoint =>
    obtain ⟨_, notCollecting, notCounted⟩ := allowed
    refine ⟨by simp [BlockForGC.next], ?_, valid.counted, valid.recorded, valid.awaits⟩
    rintro (collecting | counted)
    · exact absurd collecting notCollecting
    · exact absurd counted notCounted
  | spuriousWakeup thread =>
    exact ⟨valid.safe, valid.stopped, valid.counted, valid.recorded, valid.awaits⟩

end Mutators

def MutatorPc.holds : MutatorPc → Bool
  | .test _ | .sleep _ => true
  | _ => false

def WorkerPc.holds : WorkerPc → Bool
  | .locked | .notified => true
  | _ => false

/-- The thread owns `gc_lock` at this point of its code. -/
def State.Holds (state : State Mutator) : Thread Mutator → Prop
  | .worker => state.worker.holds = true
  | .mutator mutator => (state.mutators mutator).holds = true

/-- The increment is done and its notification is still to come. -/
def WorkerPc.notifying : WorkerPc → Bool
  | .counted | .resuming | .lock | .locked => true
  | _ => false

/-- The awaited value is not reached, or its notification is still to come. -/
def State.Pending (state : State Mutator) (nextCount : Nat) : Prop :=
  state.worker.notifying = true ∨ state.count < nextCount

def State.Waits (state : State Mutator) : Thread Mutator → Prop
  | .worker => False
  | .mutator mutator => ∃ nextCount, state.mutators mutator = .wait nextCount ∧ state.Pending nextCount

/-- The lock, and what is true of the mutators that sleep or are about to. -/
structure Waiting (state : State Mutator) : Prop where
  owned : state.gcLock.Owned state.Holds
  sleepers : state.gcLock.Sleepers state.Waits
  sleeping : ∀ mutator nextCount, state.mutators mutator = .sleep nextCount → state.Pending nextCount

theorem Waiting.initial : Waiting (initialState : State Mutator) where
  owned := by
    intro thread
    cases thread <;> simp [initialState, State.Holds, WorkerPc.holds, MutatorPc.holds]
  sleepers := by simp [Monitor.Sleepers, initialState]
  sleeping := by simp [initialState]

theorem Waiting.awake (valid : Waiting state)
    (free : (state.mutators mutator).needsLock = true → state.gcLock.Free (.mutator mutator)) :
    state.gcLock.asleep (.mutator mutator) = false := by
  cases asleep : state.gcLock.asleep (.mutator mutator) with
  | false => rfl
  | true =>
    obtain ⟨nextCount, pc, _⟩ := valid.sleepers _ asleep
    exact asleep ▸ (free (by rw [pc]; rfl)).2

/-- A step of the GC worker that does not hide an increment. -/
theorem Waiting.keepWorker {after : State Mutator} (valid : Waiting state)
    (mutators : after.mutators = state.mutators) (lock : after.gcLock.asleep = state.gcLock.asleep)
    (pending : ∀ nextCount, state.Pending nextCount → after.Pending nextCount)
    (owned : after.gcLock.Owned after.Holds) : Waiting after where
  owned := owned
  sleepers := by
    intro thread asleep
    rw [lock] at asleep
    have waits := valid.sleepers thread asleep
    cases thread with
    | worker => exact waits
    | mutator mutator =>
      obtain ⟨nextCount, pc, still⟩ := waits
      exact ⟨nextCount, by rw [mutators, pc], pending nextCount still⟩
  sleeping := by
    intro mutator nextCount pc
    rw [mutators] at pc
    exact pending nextCount (valid.sleeping mutator nextCount pc)

theorem Waiting.quietWorker {after : State Mutator} (valid : Waiting state)
    (mutators : after.mutators = state.mutators) (lock : after.gcLock = state.gcLock)
    (holds : after.worker.holds = state.worker.holds)
    (pending : ∀ nextCount, state.Pending nextCount → after.Pending nextCount) : Waiting after := by
  refine valid.keepWorker mutators (by rw [lock]) pending ?_
  rw [lock]
  refine valid.owned.congr ?_
  intro thread
  cases thread <;> simp [State.Holds, mutators, holds]

theorem Waiting.workerStep (valid : Waiting state) (allowed : enabled state (.step .worker)) :
    Waiting (workerStep state) := by
  rw [BlockForGC.workerStep]
  cases worker : state.worker with
  | idle =>
    refine valid.quietWorker rfl rfl (by rw [worker]; rfl) ?_
    simp [State.Pending, worker, WorkerPc.notifying]
  | collecting => exact valid.quietWorker rfl rfl (by rw [worker]; rfl) (fun _ _ => .inl rfl)
  | counted => exact valid.quietWorker rfl rfl (by rw [worker]; rfl) (fun _ _ => .inl rfl)
  | resuming => exact valid.quietWorker rfl rfl (by rw [worker]; rfl) (fun _ _ => .inl rfl)
  | lock =>
    refine valid.keepWorker rfl rfl (fun _ _ => .inl rfl) (valid.owned.acquire (allowed.2 worker).1 rfl ?_)
    intro other different
    cases other <;> simp [State.Holds] at different ⊢
  | locked =>
    have owner := (valid.owned .worker).mpr (by simp [State.Holds, worker, WorkerPc.holds])
    refine ⟨valid.owned.congr ?_, Monitor.sleepers_notifyAll, ?_⟩
    · intro thread
      cases thread <;> simp [State.Holds, worker, WorkerPc.holds]
    · intro mutator nextCount pc
      have other := (valid.owned (.mutator mutator)).mpr
        (by simp [State.Holds, show state.mutators mutator = _ from pc, MutatorPc.holds])
      simp [owner] at other
  | notified =>
    have own : state.Holds .worker := by simp [State.Holds, worker, WorkerPc.holds]
    refine valid.keepWorker rfl rfl ?_ (valid.owned.leave own rfl ?_ ?_)
    · simp [State.Pending, worker, WorkerPc.notifying]
    · simp [State.Holds, WorkerPc.holds]
    · intro other different
      cases other <;> simp [State.Holds] at different ⊢

section Mutators

variable [DecidableEq Mutator]

theorem holds_goto {gcLock : Monitor (Thread Mutator)} {other : Thread Mutator} (different : other ≠ .mutator mutator) :
    { state.goto mutator pc with gcLock := gcLock : State Mutator }.Holds other ↔ state.Holds other := by
  cases other with
  | worker => exact Iff.rfl
  | mutator other =>
    have otherMutator : other ≠ mutator := fun same => different (same ▸ rfl)
    simp [State.Holds, State.goto, otherMutator]

theorem waits_goto {gcLock : Monitor (Thread Mutator)} {other : Thread Mutator} (different : other ≠ .mutator mutator)
    (waits : state.Waits other) :
    { state.goto mutator pc with gcLock := gcLock : State Mutator }.Waits other := by
  cases other with
  | worker => exact waits
  | mutator other =>
    have otherMutator : other ≠ mutator := fun same => different (same ▸ rfl)
    simpa [State.Waits, State.goto, otherMutator, State.Pending] using waits

theorem Waiting.sleeping_goto (valid : Waiting state) (own : ∀ nextCount, pc = .sleep nextCount → state.Pending nextCount)
    (other : Mutator) (nextCount : Nat) (sleep : (state.goto mutator pc).mutators other = .sleep nextCount) :
    state.Pending nextCount := by
  by_cases same : other = mutator
  · subst same
    exact own nextCount (by simpa [State.goto] using sleep)
  · exact valid.sleeping other nextCount (by simpa [State.goto, same] using sleep)

/-- A mutator's step that leaves the lock alone. -/
theorem Waiting.keep (valid : Waiting state) (awake : state.gcLock.asleep (.mutator mutator) = false)
    (holds : pc.holds = (state.mutators mutator).holds)
    (sleep : ∀ nextCount, pc = .sleep nextCount → state.Pending nextCount) :
    Waiting (state.goto mutator pc) where
  owned := by
    refine valid.owned.congr ?_
    intro thread
    by_cases same : thread = .mutator mutator
    · subst same
      simp [State.Holds, State.goto, holds]
    · exact holds_goto same
  sleepers := valid.sleepers.step awake (fun _ different => waits_goto different)
  sleeping := valid.sleeping_goto sleep

theorem Waiting.acquire (valid : Waiting state) (free : state.gcLock.Free (.mutator mutator)) {nextCount : Nat} :
    Waiting { state.goto mutator (.test nextCount) with gcLock := state.gcLock.acquire (.mutator mutator) } where
  owned := valid.owned.acquire free.1 (by simp [State.Holds, State.goto, MutatorPc.holds])
    (fun _ different => holds_goto different)
  sleepers := valid.sleepers.step free.2 (fun _ different => waits_goto different)
  sleeping := valid.sleeping_goto (by simp)

theorem Waiting.mmtkBlockForGc (valid : Waiting state) (allowed : enabled state (.step (.mutator mutator))) :
    Waiting (mmtkBlockForGc state mutator) := by
  have awake := valid.awake allowed.2.1
  rw [BlockForGC.mmtkBlockForGc]
  cases pc : state.mutators mutator with
  | running => exact valid
  | parked => exact valid
  | entry =>
    have kept : Waiting (state.goto mutator (.read (state.count + 1))) :=
      valid.keep awake (by rw [pc]; rfl) (by simp)
    exact ⟨kept.owned, kept.sleepers, kept.sleeping⟩
  | read nextCount => exact valid.keep awake (by rw [pc]; rfl) (by simp)
  | lock nextCount => exact valid.acquire (allowed.2.1 (by rw [pc]; rfl))
  | test nextCount =>
    show Waiting (blockTest state mutator nextCount)
    by_cases waiting : state.count < nextCount
    · rw [blockTest, if_pos waiting]
      exact valid.keep awake (by rw [pc]; rfl) (fun other same => by cases same; exact .inr waiting)
    · rw [blockTest, if_neg waiting]
      have own : state.Holds (.mutator mutator) := by simp [State.Holds, pc, MutatorPc.holds]
      exact ⟨valid.owned.leave own rfl (by simp [State.Holds, State.goto, MutatorPc.holds])
          (fun _ different => holds_goto different),
        valid.sleepers.step awake (fun _ different => waits_goto different), valid.sleeping_goto (by simp)⟩
  | sleep nextCount =>
    have own : state.Holds (.mutator mutator) := by simp [State.Holds, pc, MutatorPc.holds]
    have pending := valid.sleeping mutator nextCount pc
    refine ⟨valid.owned.leave own rfl (by simp [State.Holds, State.goto, MutatorPc.holds])
      (fun _ different => holds_goto different), valid.sleepers.wait ?_ (fun _ different => waits_goto different),
      valid.sleeping_goto (by simp)⟩
    exact ⟨nextCount, by simp [State.goto], pending⟩
  | wait nextCount => exact valid.acquire (allowed.2.1 (by rw [pc]; rfl))
  | leaving nextCount => exact valid.keep awake (by rw [pc]; rfl) (by simp)

theorem Waiting.next (valid : Waiting state) {event : Event Mutator} (allowed : enabled state event) :
    Waiting (next state event) := by
  cases event with
  | park mutator =>
    have pc : state.mutators mutator = .running := allowed
    exact valid.keep (valid.awake (by simp [pc, MutatorPc.needsLock])) (by rw [pc]; rfl) (by simp)
  | unpark mutator =>
    have pc : state.mutators mutator = .parked := allowed.1
    exact valid.keep (valid.awake (by simp [pc, MutatorPc.needsLock])) (by rw [pc]; rfl) (by simp)
  | call mutator =>
    have pc : state.mutators mutator = .running := allowed
    exact valid.keep (valid.awake (by simp [pc, MutatorPc.needsLock])) (by rw [pc]; rfl) (by simp)
  | step thread =>
    cases thread with
    | worker => exact valid.workerStep allowed
    | mutator mutator => exact valid.mmtkBlockForGc allowed
  | endSafepoint => exact ⟨valid.owned, valid.sleepers, valid.sleeping⟩
  | spuriousWakeup thread => exact ⟨valid.owned, valid.sleepers.wake, valid.sleeping⟩

theorem invariant_of_reachable (reachable : (blockSystem Mutator).Reachable state) :
    Counting state ∧ Waiting state :=
  reachable.invariant (fun state => Counting state ∧ Waiting state)
    (fun _ initial => initial ▸ ⟨Counting.initial, Waiting.initial⟩)
    (fun _ _ valid allowed => ⟨valid.1.next allowed, valid.2.next allowed⟩)

/-- The value a mutator waits for. -/
def MutatorPc.awaited : MutatorPc → Option Nat
  | .running | .parked | .entry => none
  | .read nextCount | .lock nextCount | .test nextCount | .sleep nextCount | .wait nextCount
  | .leaving nextCount => some nextCount

/-- The first increment by a GC that stopped the world after the mutator's read. -/
def State.firstIncrement (state : State Mutator) (mutator : Mutator) : Option Increment :=
  state.increments.find? (fun increment => state.readAt mutator < increment.stop)

omit [DecidableEq Mutator] in
theorem Awaits.awaited {readAt count nextCount : Nat} (awaits : Awaits readAt count pc)
    (waiting : pc.awaited = some nextCount) : nextCount = readAt + 1 := by
  cases pc with
  | running | parked | entry => simp [MutatorPc.awaited] at waiting
  | read value =>
    cases waiting
    rw [awaits.2]
    exact awaits.1
  | lock value | test value | sleep value | wait value | leaving value =>
    cases waiting
    exact awaits.1

theorem find?_numbered (count bound : Nat) :
    ((List.range count).map (fun index => (⟨index + 1, index + 1⟩ : Increment))).find?
        (fun increment => bound < increment.stop) =
      if bound < count then some ⟨bound + 1, bound + 1⟩ else none := by
  induction count with
  | zero => rfl
  | succ count ih =>
    rw [List.range_succ, List.map_append, List.find?_append, ih]
    by_cases earlier : bound < count
    · simp [earlier, Nat.lt_succ_of_lt earlier]
    · by_cases same : bound = count
      · simp [same]
      · have later : ¬ bound < count + 1 := by omega
        simp [earlier, later]

omit [DecidableEq Mutator] in
theorem Counting.firstIncrement (valid : Counting state) (mutator : Mutator) :
    state.firstIncrement mutator =
      if state.readAt mutator < state.count then some ⟨state.readAt mutator + 1, state.readAt mutator + 1⟩
      else none := by
  rw [State.firstIncrement, valid.recorded, find?_numbered]

/-- Only a GC worker in a stopped world changes the counter. -/
theorem count_next (notCollecting : state.worker ≠ .collecting) (event : Event Mutator) :
    (next state event).count = state.count := by
  cases event with
  | step thread =>
    cases thread with
    | worker => cases worker : state.worker <;> simp_all [next, workerStep]
    | mutator mutator =>
      rw [next, mmtkBlockForGc]
      cases state.mutators mutator with
      | test nextCount =>
        show (blockTest state mutator nextCount).count = state.count
        rw [blockTest]
        split <;> rfl
      | _ => rfl
  | _ => rfl

/-- In every reachable state: (a) while a mutator has read the counter and is not
safe, the counter has the value it read and no step changes it; (b) the value a
mutator waits for is the one set by the first GC that stopped the world after
its read, and a mutator that leaves does so after that GC; (c) once the GC worker
has notified, no mutator sleeps whose value is reached. -/
theorem block_for_gc_right_gc (reachable : (blockSystem Mutator).Reachable state) :
    (∀ mutator nextCount, state.mutators mutator = .read nextCount →
      nextCount = state.count + 1 ∧ ∀ event, enabled state event → (next state event).count = state.count) ∧
    (∀ mutator nextCount, (state.mutators mutator).awaited = some nextCount →
      (∀ increment, state.firstIncrement mutator = some increment → increment.value = nextCount) ∧
        (state.mutators mutator = .leaving nextCount → (state.firstIncrement mutator).isSome = true)) ∧
    (∀ mutator nextCount, state.worker.notifying = false → state.mutators mutator = .wait nextCount →
      state.gcLock.asleep (.mutator mutator) = true → state.count < nextCount) := by
  obtain ⟨counting, waiting⟩ := invariant_of_reachable reachable
  refine ⟨?_, ?_, ?_⟩
  · intro mutator nextCount pc
    have awaits := counting.awaits mutator
    rw [pc] at awaits
    refine ⟨awaits.1, ?_⟩
    have running : (state.mutators mutator).safe = false := by rw [pc]; rfl
    intro event _
    exact count_next (counting.unsafe_count running).2.1 event
  · intro mutator nextCount awaited
    have value := (counting.awaits mutator).awaited awaited
    rw [counting.firstIncrement]
    constructor
    · intro increment found
      split at found
      · cases found
        exact value.symm
      · cases found
    · intro pc
      have awaits := counting.awaits mutator
      rw [pc] at awaits
      have reached : state.readAt mutator < state.count := by
        have bound := awaits.2
        omega
      simp [reached]
  · intro mutator nextCount notified pc asleep
    obtain ⟨value, wait, pending⟩ := waiting.sleepers _ asleep
    have same : nextCount = value := by simpa [pc] using wait
    rcases pending with notifying | less
    · simp [notified] at notifying
    · exact same ▸ less

end Mutators

/-- The GC worker increments the counter between a mutator's test and its sleep;
the other mutator stays at a yieldpoint. -/
def racingIncrement : List (Event Bool) :=
  [.park false, .call true, .step (.mutator true), .step (.mutator true), .step .worker,
    .step (.mutator true), .step (.mutator true), .step .worker, .step (.mutator true),
    .step .worker, .step .worker, .step .worker, .step .worker, .step .worker, .endSafepoint,
    .step (.mutator true), .step (.mutator true)]

theorem racing_increment_leaves :
    (racingIncrement.foldl next initialState).mutators true = .leaving 1 ∧
      ∃ increment, (racingIncrement.foldl next initialState).firstIncrement true = some increment ∧
        increment.value = 1 := by
  have allowed : (blockSystem Bool).Allowed initialState racingIncrement := by decide
  have leaving : (racingIncrement.foldl next initialState).mutators true = .leaving 1 := by decide
  have right := (block_for_gc_right_gc ⟨initialState, racingIncrement, rfl, allowed.run⟩).2.1 true 1
    (congrArg MutatorPc.awaited leaving)
  obtain ⟨increment, found⟩ := Option.isSome_iff_exists.mp (right.2 leaving)
  exact ⟨leaving, increment, found, right.1 increment found⟩

end MmtkOpenJDK.BlockForGC
