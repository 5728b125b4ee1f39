import Mathlib.Data.List.Induction
import MmtkOpenJDK.Foundation.LinkedList
import MmtkOpenJDK.Foundation.TransitionSystem

/-! The reference pending list. `mmtk_enqueue_references` links the References of
one batch through their `discovered` fields, skipping repeated elements, and
puts the batch in front of the list the reference handler takes from. -/

namespace MmtkOpenJDK.References

open MmtkOpenJDK.Foundation

variable {Oop : Type} [DecidableEq Oop]

/-- The `discovered` field of every Reference and `Universe`'s reference pending
list. A missing value is `NULL`. -/
structure Heap (Oop : Type) where
  discovered : Oop → Option Oop
  pendingList : Option Oop

/-- One turn of the loop over `objects[]`, with the `discovered` fields and `last`
before and after it. -/
def visit (state : (Oop → Option Oop) × Oop) (reff : Oop) : (Oop → Option Oop) × Oop :=
  if reff = state.2 then state
  else if state.1 reff ≠ none then state
  else (Function.update state.1 state.2 (some reff), reff)

def mmtkEnqueueReferences (heap : Heap Oop) : List Oop → Heap Oop
  | [] => heap
  | first :: rest =>
    let linked := rest.foldl visit (heap.discovered, first)
    { discovered := Function.update linked.1 linked.2 heap.pendingList
      pendingList := some first }

/-- What the callers promise: the References are undiscovered, and the pending
list is a finite list of other ones. -/
structure Heap.Accepts (heap : Heap Oop) (objects pending : List Oop) : Prop where
  undiscovered : ∀ reff ∈ objects, heap.discovered reff = none
  chain : Chain heap.discovered heap.pendingList pending
  disjoint : objects.Disjoint pending

/-- After some objects are visited, the distinct ones form a segment from the
first to `last`, and only their fields were written. -/
structure Visited (before : Oop → Option Oop) (objects : List Oop) (state : (Oop → Option Oop) × Oop) : Prop where
  linked : ∃ earlier, objects.eraseDups = earlier ++ [state.2] ∧
    Chain state.1 objects.head? (earlier ++ [state.2])
  frame : ∀ other ∉ objects, state.1 other = before other

theorem eraseDups_snoc (objects : List Oop) (reff : Oop) :
    (objects ++ [reff]).eraseDups = objects.eraseDups ++ if reff ∈ objects then [] else [reff] := by
  rw [List.eraseDups_append]
  by_cases member : reff ∈ objects <;> simp [List.removeAll, List.eraseDups_cons, member]

theorem nodup_eraseDups (objects : List Oop) : objects.eraseDups.Nodup := by
  induction objects using List.reverseRecOn with
  | nil => exact List.nodup_nil
  | append_singleton objects reff ih =>
    rw [eraseDups_snoc]
    by_cases member : reff ∈ objects
    · simpa [member] using ih
    · have fresh : ∀ other ∈ objects, other ≠ reff := fun other found => ne_of_mem_of_not_mem found member
      simpa [member, List.nodup_append, ih] using fresh

section Loop

variable {before : Oop → Option Oop} {objects : List Oop} {state : (Oop → Option Oop) × Oop} {reff : Oop}

theorem Visited.initial {first : Oop} (undiscovered : before first = none) :
    Visited before [first] (before, first) where
  linked := ⟨[], by simp [List.eraseDups_cons], by simp [Chain, Segment, undiscovered]⟩
  frame := fun _ _ => rfl

theorem Visited.last_mem (valid : Visited before objects state) : state.2 ∈ objects := by
  obtain ⟨earlier, same, _⟩ := valid.linked
  rw [← List.mem_eraseDups, same]
  simp

/-- The loop's own test finds exactly the objects that were visited before. -/
theorem Visited.visit_eq (valid : Visited before objects state) (undiscovered : before reff = none) :
    visit state reff =
      if reff ∈ objects then state else (Function.update state.1 state.2 (some reff), reff) := by
  obtain ⟨earlier, same, chain⟩ := valid.linked
  have visited : reff ∈ objects ↔ reff ∈ earlier ∨ reff = state.2 := by
    rw [← List.mem_eraseDups, same]
    simp
  unfold visit
  by_cases final : reff = state.2
  · rw [if_pos final, if_pos (visited.mpr (.inr final))]
  · rw [if_neg final]
    by_cases member : reff ∈ earlier
    · obtain ⟨successor, link⟩ := Segment.link_of_mem chain member
      rw [if_pos (by simp [link]), if_pos (visited.mpr (.inl member))]
    · have fresh : reff ∉ objects := by simp [visited, member, final]
      rw [if_neg fresh, if_neg]
      simp [valid.frame reff fresh, undiscovered]

theorem Visited.visit (valid : Visited before objects state) (undiscovered : before reff = none) :
    Visited before (objects ++ [reff]) (visit state reff) := by
  obtain ⟨earlier, same, chain⟩ := valid.linked
  have nonempty : objects ≠ [] := by
    rintro rfl
    simp at same
  have head : (objects ++ [reff]).head? = objects.head? := by
    obtain ⟨first, rest, parts⟩ := List.exists_cons_of_ne_nil nonempty
    simp [parts]
  rw [valid.visit_eq undiscovered]
  by_cases member : reff ∈ objects
  · rw [if_pos member]
    refine ⟨⟨earlier, ?_, ?_⟩, ?_⟩
    · simpa [eraseDups_snoc, member] using same
    · rwa [head]
    · intro other outside
      exact valid.frame other (fun inside => outside (List.mem_append_left _ inside))
  · rw [if_neg member]
    have once : state.2 ∉ earlier := by
      intro repeated
      exact (List.nodup_append.mp chain.nodup).2.2 _ repeated _ (by simp) rfl
    have fresh : reff ∉ earlier ++ [state.2] := by
      rwa [← same, List.mem_eraseDups]
    refine ⟨⟨earlier ++ [state.2], ?_, ?_⟩, ?_⟩
    · simp [eraseDups_snoc, member, same]
    · rw [head]
      refine segment_append.mpr ⟨some reff, Segment.relink chain once, rfl, ?_⟩
      have different : reff ≠ state.2 := fun equal => fresh (by simp [equal])
      simp [Segment, Function.update_of_ne different, valid.frame reff member, undiscovered]
    · intro other outside
      have notLast : other ≠ state.2 := by
        intro equal
        exact outside (List.mem_append_left _ (equal ▸ valid.last_mem))
      simp only [Function.update_of_ne notLast]
      exact valid.frame other (fun inside => outside (List.mem_append_left _ inside))

/-- The whole loop. -/
theorem Visited.foldl {rest : List Oop} (valid : Visited before objects state)
    (undiscovered : ∀ reff ∈ rest, before reff = none) :
    Visited before (objects ++ rest) (rest.foldl References.visit state) := by
  induction rest generalizing objects state with
  | nil => simpa using valid
  | cons reff rest ih =>
    have one := valid.visit (undiscovered reff (by simp))
    simpa using ih one (fun other member => undiscovered other (List.mem_cons_of_mem _ member))

end Loop

/-- One call puts the distinct References in front of the pending list. -/
theorem Heap.Accepts.enqueue {heap : Heap Oop} {objects pending : List Oop} (accepts : heap.Accepts objects pending) :
    Chain (mmtkEnqueueReferences heap objects).discovered (mmtkEnqueueReferences heap objects).pendingList
        (objects.eraseDups ++ pending) ∧
      ∀ other ∉ objects, (mmtkEnqueueReferences heap objects).discovered other = heap.discovered other := by
  cases objects with
  | nil => exact ⟨by simpa [mmtkEnqueueReferences] using accepts.chain, fun _ _ => rfl⟩
  | cons first rest =>
    have valid : Visited heap.discovered (first :: rest) (rest.foldl visit (heap.discovered, first)) :=
      (Visited.initial (accepts.undiscovered first (by simp))).foldl
        (fun reff member => accepts.undiscovered reff (List.mem_cons_of_mem _ member))
    obtain ⟨earlier, same, chain⟩ := valid.linked
    have once := (List.nodup_append.mp chain.nodup).2.2
    have lastMember := valid.last_mem
    refine ⟨?_, ?_⟩
    · rw [same]
      refine segment_append.mpr ⟨heap.pendingList, Segment.relink chain ?_, ?_⟩
      · exact fun repeated => once _ repeated _ (by simp) rfl
      · refine Segment.congr accepts.chain ?_
        intro node member
        have outside : node ∉ first :: rest := fun inside => accepts.disjoint inside member
        have notLast := (ne_of_mem_of_not_mem lastMember outside).symm
        simp only [mmtkEnqueueReferences, Function.update_of_ne notLast]
        exact valid.frame node outside
    · intro other outside
      have notLast := (ne_of_mem_of_not_mem lastMember outside).symm
      simp only [mmtkEnqueueReferences, Function.update_of_ne notLast]
      exact valid.frame other outside

inductive Event (Oop : Type) where
  | enqueue (objects : List Oop)
  | take (pending : List Oop)
  | write (object : Oop) (value : Option Oop)

/-- The reference handler takes the whole list. Fields of objects that are not on
the list may be written by anyone. -/
def enabled (heap : Heap Oop) : Event Oop → Prop
  | .enqueue objects => ∃ pending, heap.Accepts objects pending
  | .take pending => Chain heap.discovered heap.pendingList pending
  | .write object _ => ∃ pending, Chain heap.discovered heap.pendingList pending ∧ object ∉ pending

def next (heap : Heap Oop) : Event Oop → Heap Oop
  | .enqueue objects => mmtkEnqueueReferences heap objects
  | .take _ => { heap with pendingList := none }
  | .write object value => { heap with discovered := Function.update heap.discovered object value }

/-- A pending list of any finite length to start with. -/
def pendingSystem (Oop : Type) [DecidableEq Oop] : System (Heap Oop) (Event Oop) where
  initial heap := ∃ pending, Chain heap.discovered heap.pendingList pending
  enabled := enabled
  next := next

/-- The batches passed in by the calls of a run. -/
def calls (events : List (Event Oop)) : List (List Oop) :=
  events.filterMap fun
    | .enqueue objects => some objects
    | _ => none

/-- The References the handler took, in the order it took them. -/
def delivered (events : List (Event Oop)) : List Oop :=
  events.flatMap fun
    | .take pending => pending
    | _ => []

/-- Nothing is lost and nothing appears: what was taken and what is pending are
together the initial list and the distinct elements of every call. -/
def Balanced (initial : List Oop) (events : List (Event Oop)) (heap : Heap Oop) : Prop :=
  ∃ pending, Chain heap.discovered heap.pendingList pending ∧
    (delivered events ++ pending).Perm (initial ++ (calls events).flatMap List.eraseDups)

open scoped List in
theorem Balanced.step {initial : List Oop} {events : List (Event Oop)} {heap : Heap Oop}
    (valid : Balanced initial events heap) {event : Event Oop} (allowed : enabled heap event) :
    Balanced initial (events ++ [event]) (next heap event) := by
  obtain ⟨pending, chain, balance⟩ := valid
  cases event with
  | enqueue objects =>
    obtain ⟨pending', accepts⟩ := allowed
    have same := accepts.chain.unique chain
    subst same
    refine ⟨objects.eraseDups ++ pending', accepts.enqueue.1, ?_⟩
    have taken : delivered (events ++ [.enqueue objects]) = delivered events := by simp [delivered]
    have passed : (calls (events ++ [.enqueue objects])).flatMap List.eraseDups =
        (calls events).flatMap List.eraseDups ++ objects.eraseDups := by simp [calls]
    rw [taken, passed]
    calc delivered events ++ (objects.eraseDups ++ pending')
        _ ~ (delivered events ++ pending') ++ objects.eraseDups := by
          rw [List.append_assoc]
          exact List.perm_append_comm.append_left _
        _ ~ (initial ++ (calls events).flatMap List.eraseDups) ++ objects.eraseDups :=
          balance.append_right _
        _ = initial ++ ((calls events).flatMap List.eraseDups ++ objects.eraseDups) :=
          List.append_assoc ..
  | take pending' =>
    have same := Chain.unique allowed chain
    subst same
    refine ⟨[], rfl, ?_⟩
    simpa [delivered, calls] using balance
  | write object value =>
    obtain ⟨pending', chain', outside⟩ := allowed
    have same := chain'.unique chain
    subst same
    refine ⟨pending', Segment.update_of_notMem chain' outside, ?_⟩
    simpa [delivered, calls] using balance

/-- A Reference passed in by one call occurs once in the batches. -/
theorem count_batches (batches : List (List Oop)) (reff : Oop) :
    (batches.flatMap List.eraseDups).count reff = batches.countP (fun objects => reff ∈ objects) := by
  induction batches with
  | nil => rfl
  | cons objects rest ih =>
    rw [List.flatMap_cons, List.count_append, ih, List.countP_cons, Nat.add_comm]
    congr 1
    rw [(nodup_eraseDups objects).count]
    simp [List.mem_eraseDups]

/-- Every call puts its distinct References, in the order they first occur, in
front of the pending list and writes no other field; an empty call does nothing.
In every run of calls and of the handler taking the list, every Reference passed
in by one call is either pending or delivered, once, and taking the list
delivers it. -/
theorem mmtkEnqueueReferences_delivers_once :
    (∀ (heap : Heap Oop) (objects pending : List Oop), objects ≠ [] → heap.Accepts objects pending →
      Chain (mmtkEnqueueReferences heap objects).discovered (mmtkEnqueueReferences heap objects).pendingList
          (objects.eraseDups ++ pending) ∧
        ∀ other ∉ objects, (mmtkEnqueueReferences heap objects).discovered other = heap.discovered other) ∧
    (∀ heap : Heap Oop, mmtkEnqueueReferences heap [] = heap) ∧
    ∀ (start heap : Heap Oop) (initial : List Oop) (events : List (Event Oop)),
      Chain start.discovered start.pendingList initial → (pendingSystem Oop).Run start events heap →
      ∃ pending, enabled heap (.take pending) ∧
        (delivered events ++ pending).Perm (initial ++ (calls events).flatMap List.eraseDups) ∧
        ∀ reff, (calls events).countP (fun objects => reff ∈ objects) = 1 → reff ∉ initial →
          (delivered events ++ pending).count reff = 1 ∧
            (delivered (events ++ [.take pending])).count reff = 1 := by
  refine ⟨fun heap objects pending _ accepts => accepts.enqueue, fun _ => rfl, ?_⟩
  intro start heap initial events chain run
  have balanced : Balanced initial events heap :=
    run.history (Balanced initial) ⟨initial, chain, by simp [delivered, calls]⟩
      (fun _ _ _ valid allowed => valid.step allowed)
  obtain ⟨pending, present, balance⟩ := balanced
  refine ⟨pending, present, balance, ?_⟩
  intro reff once fresh
  have counted : (delivered events ++ pending).count reff = 1 := by
    rw [balance.count_eq, List.count_append, List.count_eq_zero_of_not_mem fresh, count_batches, once]
  refine ⟨counted, ?_⟩
  simpa [delivered] using counted

/-- One Reference is pending; a call with repeated elements, the handler, and a
second call follow. -/
def mixedCalls : List (Event Nat) :=
  [.enqueue [3, 5, 3, 5, 5, 3], .take [3, 5, 7], .enqueue [4, 4]]

def onePending : Heap Nat := ⟨fun _ => none, some 7⟩

theorem mixed_calls_deliver_once : ∃ pending, (delivered mixedCalls ++ pending).count 5 = 1 := by
  have first : (pendingSystem Nat).Run onePending [.enqueue [3, 5, 3, 5, 5, 3]] _ :=
    .step .start ⟨[7], by decide, by decide, by simp⟩
  have second : (pendingSystem Nat).Run onePending [.enqueue [3, 5, 3, 5, 5, 3], .take [3, 5, 7]] _ :=
    first.step (show Chain _ _ _ by decide)
  have third : (pendingSystem Nat).Run onePending mixedCalls _ :=
    second.step ⟨[], by decide, by decide, by simp⟩
  obtain ⟨pending, _, _, once⟩ :=
    mmtkEnqueueReferences_delivers_once.2.2 onePending _ [7] mixedCalls (by decide) third
  exact ⟨pending, (once 5 (by decide) (by decide)).1⟩

end MmtkOpenJDK.References
