import Mathlib.Logic.Function.Basic

/-! Threads that interleave the atomic steps of straight code with branches over
a shared state, and a rule in the style of rely and guarantee: each thread's own
step keeps the shared invariant and what the thread still has to do correct, and
nobody else's step disturbs the latter. -/

namespace MmtkOpenJDK.Foundation

universe u v w x

/-- What a thread still has to do. A branch evaluates its test in one step. -/
inductive Code (Test : Type u) (Action : Type v) where
  | done
  | act (action : Action) (rest : Code Test Action)
  | branch (test : Test) (taken other : Code Test Action)

/-- A test may change the shared state in the same step, as a compare-and-swap does. -/
structure Machine (Shared : Type w) (Test : Type u) (Action : Type v) where
  test : Shared → Test → Bool × Shared
  apply : Shared → Action → Shared

variable {Shared : Type w} {Test : Type u} {Action : Type v} {Thread : Type x}

def Code.isDone : Code Test Action → Bool
  | .done => true
  | _ => false

theorem Code.eq_done {code : Code Test Action} (done : code.isDone = true) : code = .done := by
  cases code with
  | done => rfl
  | act action rest => cases done
  | branch test taken other => cases done

/-- The same actions one after the other. -/
def Code.acts (actions : List Action) (rest : Code Test Action) : Code Test Action :=
  actions.foldr .act rest

@[simp] theorem Code.acts_nil (rest : Code Test Action) : Code.acts [] rest = rest := rfl

namespace Machine

def step (machine : Machine Shared Test Action) (shared : Shared) :
    Code Test Action → Shared × Code Test Action
  | .done => (shared, .done)
  | .act action rest => (machine.apply shared action, rest)
  | .branch test taken other =>
    ((machine.test shared test).2, if (machine.test shared test).1 then taken else other)

/-- One thread's step keeps the shared invariant, leaves its remaining code
correct, and changes the shared state only as the others rely on. -/
structure Discipline (machine : Machine Shared Test Action) where
  invariant : Shared → Prop
  correct : Shared → Code Test Action → Prop
  relies : Shared → Shared → Prop
  sound : ∀ shared code, invariant shared → correct shared code →
    invariant (machine.step shared code).1 ∧
      correct (machine.step shared code).1 (machine.step shared code).2 ∧
      relies shared (machine.step shared code).1
  stable : ∀ shared after code, relies shared after → correct shared code → correct after code

variable {machine : Machine Shared Test Action} [DecidableEq Thread]

/-- The invariant and the correctness of every thread's code. -/
def Discipline.Holds (discipline : machine.Discipline) (shared : Shared)
    (codes : Thread → Code Test Action) : Prop :=
  discipline.invariant shared ∧ ∀ thread, discipline.correct shared (codes thread)

theorem Discipline.Holds.step {discipline : machine.Discipline} {shared : Shared}
    {codes : Thread → Code Test Action} (holds : discipline.Holds shared codes) (thread : Thread) :
    discipline.Holds (machine.step shared (codes thread)).1
      (Function.update codes thread (machine.step shared (codes thread)).2) := by
  obtain ⟨invariant, correct⟩ := holds
  obtain ⟨kept, own, changes⟩ := discipline.sound shared (codes thread) invariant (correct thread)
  refine ⟨kept, ?_⟩
  intro other
  by_cases same : other = thread
  · subst same
    simpa using own
  · simpa [same] using discipline.stable _ _ _ changes (correct other)

/-- A thread starts new code that is correct in the shared state. -/
theorem Discipline.Holds.start {discipline : machine.Discipline} {shared : Shared}
    {codes : Thread → Code Test Action} (holds : discipline.Holds shared codes) (thread : Thread)
    {code : Code Test Action} (correct : discipline.correct shared code) :
    discipline.Holds shared (Function.update codes thread code) := by
  refine ⟨holds.1, ?_⟩
  intro other
  by_cases same : other = thread
  · subst same
    simpa using correct
  · simpa [same] using holds.2 other

omit [DecidableEq Thread] in
/-- A change of the shared state from outside that keeps the invariant and that
the threads' code can rely on. -/
theorem Discipline.Holds.change {discipline : machine.Discipline} {shared after : Shared}
    {codes : Thread → Code Test Action} (holds : discipline.Holds shared codes)
    (invariant : discipline.invariant after) (changes : discipline.relies shared after) :
    discipline.Holds after codes :=
  ⟨invariant, fun thread => discipline.stable _ _ _ changes (holds.2 thread)⟩

/-- What some thread still has to do is done by its step, or still to be done. -/
theorem exists_update {codes : Thread → Code Test Action} {thread : Thread} {code : Code Test Action}
    {owes : Code Test Action → Prop} {settled : Prop} (someone : ∃ thread, owes (codes thread))
    (own : owes (codes thread) → settled ∨ owes code) :
    settled ∨ ∃ other, owes (Function.update codes thread code other) := by
  obtain ⟨debtor, debt⟩ := someone
  by_cases same : debtor = thread
  · subst same
    refine (own debt).imp_right ?_
    intro still
    exact ⟨debtor, by simpa using still⟩
  · exact .inr ⟨debtor, by simpa [same] using debt⟩

end Machine

section Holdings

variable {Item : Type w} [DecidableEq Thread] {held : Thread → List Item} {thread other : Thread} {item : Item}

/-- A thread is given items. -/
theorem mem_update_append {items : List Item}
    (member : item ∈ Function.update held thread (items ++ held thread) other) : item ∈ items ∨ item ∈ held other := by
  by_cases same : other = thread
  · subst same
    simpa using member
  · exact .inr (by simpa [same] using member)

/-- A thread gives an item up. -/
theorem mem_update_erase [DecidableEq Item] {lost : Item}
    (member : item ∈ Function.update held thread ((held thread).erase lost) other) : item ∈ held other := by
  by_cases same : other = thread
  · subst same
    exact List.mem_of_mem_erase (by simpa using member)
  · simpa [same] using member

end Holdings

end MmtkOpenJDK.Foundation
