import MmtkOpenJDK.Finalization.FinalizerThread

/-! Finalizers that throw. The exception of `finalize()` stays pending on the
finalizer thread, and every later call returns without running the method. -/

namespace MmtkOpenJDK.Finalization

open MmtkOpenJDK.Foundation

variable {Object : Type} {state : State Object} {ready : ReadyQueue Object}

/-- Every object that was taken has its `finalize()` run once; the call of the last
one may still be to come. -/
def EachInvokedOnce (state : State Object) : Prop :=
  (state.invoked ++ state.finalizer.current).Perm state.taken

/-- Whether the methods throw, one entry for each finished call. -/
def outcomes (events : List (Event Object)) : List Bool :=
  events.filterMap fun event =>
    match event with
    | .finalize throws => some throws
    | _ => none

@[simp] theorem outcomes_append (events more : List (Event Object)) :
    outcomes (events ++ more) = outcomes events ++ outcomes more := List.filterMap_append

/-- How many of the calls run their method: those up to the first that throws. -/
def bodiesRun : List Bool → Nat
  | [] => 0
  | throws :: rest => if throws then 1 else bodiesRun rest + 1

theorem bodiesRun_append (calls : List Bool) (throws : Bool) :
    bodiesRun (calls ++ [throws]) = if calls.any id then bodiesRun calls else bodiesRun calls + 1 := by
  induction calls with
  | nil => cases throws <;> rfl
  | cons first rest ih =>
    cases first with
    | true => rfl
    | false =>
      rw [List.cons_append, bodiesRun, ih, bodiesRun]
      cases thrown : rest.any id <;> simp [List.any_cons, thrown]

/-- All methods run exactly if no call but the last throws. -/
theorem bodiesRun_eq_length_iff (calls : List Bool) :
    bodiesRun calls = calls.length ↔ ∀ throws ∈ calls.dropLast, throws = false := by
  induction calls with
  | nil => simp [bodiesRun]
  | cons first rest ih =>
    cases rest with
    | nil => cases first <;> simp [bodiesRun]
    | cons second others =>
      cases first with
      | true => simp [bodiesRun]
      | false =>
        rw [List.dropLast_cons_cons, List.forall_mem_cons, ← ih]
        simp [bodiesRun]

/-- What the thread has done so far, in terms of the outcomes of its calls. -/
structure Called (calls : List Bool) (state : State Object) : Prop where
  taken : ∃ finished, finished.length = calls.length ∧ state.taken = finished ++ state.finalizer.current ∧
    state.invoked = finished.take (bodiesRun calls)
  pending : state.pendingException = calls.any id

theorem bodiesRun_le_length (calls : List Bool) : bodiesRun calls ≤ calls.length := by
  induction calls with
  | nil => exact Nat.le_refl 0
  | cons first rest ih => cases first <;> simp [bodiesRun, ih]

theorem bodiesRun_of_quiet {calls : List Bool} (quiet : calls.any id = false) : bodiesRun calls = calls.length := by
  refine (bodiesRun_eq_length_iff calls).mpr ?_
  intro throws member
  simpa using List.any_eq_false.mp quiet throws (List.dropLast_subset calls member)

theorem Called.initial : Called [] (initialState : State Object) :=
  ⟨⟨[], rfl, rfl, rfl⟩, rfl⟩

/-- A call runs its method unless an exception is pending. -/
theorem Called.invokeFinalize {calls : List Bool} (called : Called calls state) {object : Object}
    (pc : state.finalizer = .invoke object) (throws : Bool) :
    Called (calls ++ [throws]) (invokeFinalize state throws) := by
  obtain ⟨⟨finished, count, taken, invoked⟩, pending⟩ := called
  have current : state.finalizer.current = [object] := by rw [pc]; rfl
  rw [current] at taken
  cases thrown : calls.any id with
  | true =>
    rw [thrown] at pending
    refine ⟨⟨finished ++ [object], by simp [count], ?_, ?_⟩, ?_⟩
    · simpa [Finalization.invokeFinalize, FinalizerPc.current] using taken
    · have bound := bodiesRun_le_length calls
      rw [bodiesRun_append, if_pos thrown, List.take_append_of_le_length (count ▸ bound)]
      simpa [Finalization.invokeFinalize, callVirtual, pending] using invoked
    · simp [Finalization.invokeFinalize, callVirtual, pending, thrown]
  | false =>
    rw [thrown] at pending
    refine ⟨⟨finished ++ [object], by simp [count], ?_, ?_⟩, ?_⟩
    · simpa [Finalization.invokeFinalize, FinalizerPc.current] using taken
    · have all : bodiesRun calls = finished.length := (bodiesRun_of_quiet thrown).trans count.symm
      rw [all, List.take_length] at invoked
      rw [bodiesRun_append, thrown, if_neg (by simp), all, List.take_of_length_le (by simp)]
      simp [Finalization.invokeFinalize, callVirtual, pending, invoked, current]
    · simp [Finalization.invokeFinalize, callVirtual, pending, thrown]

/-- A step that neither takes an object nor finishes a call. -/
theorem Called.keep {calls : List Bool} {after : State Object} (called : Called calls state)
    (taken : after.taken = state.taken) (invoked : after.invoked = state.invoked)
    (pending : after.pendingException = state.pendingException)
    (current : after.finalizer.current = state.finalizer.current) : Called calls after := by
  constructor
  · rw [taken, invoked, current]
    exact called.taken
  · rw [pending]
    exact called.pending

theorem Called.schedule {calls : List Bool} (called : Called calls state) : Called calls (schedule state) := by
  rw [Finalization.schedule]
  cases state.gc with
  | test => by_cases set : state.isScheduled = true <;> simp only [set] <;> exact called.keep rfl rfl rfl rfl
  | _ => exact called.keep rfl rfl rfl rfl

theorem Called.getFinalizedObject {calls : List Bool} (called : Called calls state) (pc : state.finalizer = .take) :
    Called calls (getFinalizedObject ready state) := by
  rw [Finalization.getFinalizedObject]
  cases ready.pop state.queue with
  | none => exact called.keep rfl rfl rfl (by rw [pc]; rfl)
  | some found =>
    obtain ⟨⟨finished, count, taken, invoked⟩, pending⟩ := called
    refine ⟨⟨finished, count, ?_, invoked⟩, pending⟩
    simp [taken, pc, FinalizerPc.current]

theorem Called.finalizerThreadEntry {calls : List Bool} (called : Called calls state) :
    Called calls (finalizerThreadEntry ready state) := by
  rw [Finalization.finalizerThreadEntry]
  cases pc : state.finalizer with
  | test =>
    by_cases set : state.isScheduled = true <;> simp only [set] <;>
      exact called.keep rfl rfl rfl (by rw [pc]; rfl)
  | take => exact called.getFinalizedObject pc
  | invoke object => exact called
  | _ => exact called.keep rfl rfl rfl (by rw [pc]; rfl)

theorem Called.next {calls : List Bool} (called : Called calls state) {event : Event Object}
    (allowed : enabled state event) : Called (calls ++ outcomes [event]) (next ready state event) := by
  have silent (none : outcomes [event] = []) (kept : Called calls (Finalization.next ready state event)) :
      Called (calls ++ outcomes [event]) (Finalization.next ready state event) := by
    rwa [none, List.append_nil]
  cases event with
  | append object => exact silent rfl (called.keep rfl rfl rfl rfl)
  | gc => exact silent rfl called.schedule
  | finalizer => exact silent rfl called.finalizerThreadEntry
  | finalize throws =>
    cases pc : state.finalizer with
    | invoke object => exact called.invokeFinalize pc throws
    | _ => simp [enabled, pc, FinalizerPc.current] at allowed
  | spuriousWakeup => exact silent rfl (called.keep rfl rfl rfl rfl)

theorem Called.of_run {events : List (Event Object)} (run : (finalizerSystem ready).Run initialState events state) :
    Called (outcomes events) state := by
  refine run.history (fun events state => Called (outcomes events) state) Called.initial ?_
  intro events state event called allowed
  rw [outcomes_append]
  exact called.next allowed

theorem Called.eachInvokedOnce_iff {calls : List Bool} (called : Called calls state) :
    EachInvokedOnce state ↔ bodiesRun calls = calls.length := by
  obtain ⟨⟨finished, count, taken, invoked⟩, _⟩ := called
  rw [EachInvokedOnce, taken, invoked, List.perm_append_right_iff]
  constructor
  · intro same
    have length := same.length_eq
    rw [List.length_take, count] at length
    have bound := bodiesRun_le_length calls
    omega
  · intro all
    rw [all, ← count, List.take_length]

/-- Along every run, each object that was taken has had its `finalize()` run once
exactly if no finished call but the last one threw. -/
theorem each_invoked_once_iff (ready : ReadyQueue Object) {events : List (Event Object)} {state : State Object}
    (run : (finalizerSystem ready).Run initialState events state) :
    EachInvokedOnce state ↔ ∀ throws ∈ (outcomes events).dropLast, throws = false := by
  rw [(Called.of_run run).eachInvokedOnce_iff, bodiesRun_eq_length_iff]

/-- One object in each of two rounds; the outcomes of the two calls are given. -/
def twoRounds (first second : Bool) : List (Event Nat) :=
  [.append 1, .gc, .gc, .gc, .gc, .gc, .gc, .finalizer, .finalizer, .finalizer, .finalizer, .finalizer,
    .finalize first, .finalizer, .append 2, .gc, .gc, .gc, .gc, .gc, .gc, .finalizer, .finalizer, .finalizer,
    .finalizer, .finalizer, .finalize second]

theorem two_rounds_run (first second : Bool) :
    (finalizerSystem (fifoQueue Nat)).Run initialState (twoRounds first second)
      ((twoRounds first second).foldl (next (fifoQueue Nat)) initialState) := by
  have allowed : (finalizerSystem (fifoQueue Nat)).Allowed initialState (twoRounds first second) := by
    cases first <;> cases second <;> decide
  exact allowed.run

/-- The last call may throw. -/
theorem last_call_throws_invoked :
    EachInvokedOnce ((twoRounds false true).foldl (next (fifoQueue Nat)) initialState) :=
  (each_invoked_once_iff (fifoQueue Nat) (two_rounds_run false true)).mpr (by decide)

/-- The exception of the first round suppresses the finalizer of the second. -/
theorem first_call_throws_suppresses :
    ∃ events state, (finalizerSystem (fifoQueue Nat)).Run initialState events state ∧
      state.taken = [1, 2] ∧ state.invoked = [1] ∧ ¬ EachInvokedOnce state := by
  refine ⟨twoRounds true false, _, two_rounds_run true false, by decide, by decide, ?_⟩
  intro each
  have length := each.length_eq
  revert length
  decide

end MmtkOpenJDK.Finalization
