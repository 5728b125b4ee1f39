import Mathlib.Logic.Function.Basic
import Mathlib.Data.List.Basic

/-! Singly linked lists in a mutable store. The store is the link field of every
node; a missing link ends a list. -/

namespace MmtkOpenJDK.Foundation

universe u

variable {Node : Type u}

/-- Following `link` from `start` visits exactly `nodes` and arrives at `stop`. -/
def Segment (link : Node → Option Node) : Option Node → List Node → Option Node → Prop
  | start, [], stop => start = stop
  | start, node :: rest, stop => start = some node ∧ Segment link (link node) rest stop

/-- The list that starts at `start` is finite, ends in null and holds `nodes`. -/
def Chain (link : Node → Option Node) (start : Option Node) (nodes : List Node) : Prop :=
  Segment link start nodes none

instance decidableSegment [DecidableEq Node] (link : Node → Option Node) :
    ∀ (start : Option Node) (nodes : List Node) (stop : Option Node), Decidable (Segment link start nodes stop)
  | start, [], stop => inferInstanceAs (Decidable (start = stop))
  | start, node :: rest, stop =>
    have := decidableSegment link (link node) rest stop
    inferInstanceAs (Decidable (start = some node ∧ Segment link (link node) rest stop))

instance [DecidableEq Node] (link : Node → Option Node) (start : Option Node) (nodes : List Node) :
    Decidable (Chain link start nodes) :=
  decidableSegment link start nodes none

variable {link : Node → Option Node} {start stop target : Option Node} {nodes others : List Node} {node last : Node}

theorem segment_append :
    Segment link start (nodes ++ others) stop ↔
      ∃ middle, Segment link start nodes middle ∧ Segment link middle others stop := by
  induction nodes generalizing start with
  | nil => simp [Segment]
  | cons node rest ih => simp [Segment, ih, and_assoc]

/-- The link of a node that is not the last one leads to the next. -/
theorem Segment.link_of_mem (segment : Segment link start (nodes ++ [last]) stop) (member : node ∈ nodes) :
    ∃ successor, link node = some successor := by
  induction nodes generalizing start with
  | nil => simp at member
  | cons first rest ih =>
    obtain ⟨_, remainder⟩ := segment
    rcases List.mem_cons.mp member with same | later
    · subst same
      cases rest with
      | nil => exact ⟨last, remainder.1⟩
      | cons second rest => exact ⟨second, remainder.1⟩
    · exact ih remainder later

/-- The list that starts at a given node is unique. -/
theorem Chain.unique (chain : Chain link start nodes) (other : Chain link start others) : nodes = others := by
  induction nodes generalizing start others with
  | nil =>
    cases others with
    | nil => rfl
    | cons node rest =>
      cases chain
      simp [Chain, Segment] at other
  | cons node rest ih =>
    obtain ⟨first, remainder⟩ := chain
    cases others with
    | nil =>
      cases other
      simp at first
    | cons node' rest' =>
      obtain ⟨first', remainder'⟩ := other
      have same : node = node' := Option.some.inj (first.symm.trans first')
      subst same
      rw [ih remainder remainder']

/-- A list that ends in null visits no node twice. -/
theorem Chain.nodup (chain : Chain link start nodes) : nodes.Nodup := by
  induction nodes generalizing start with
  | nil => exact List.nodup_nil
  | cons node rest ih =>
    obtain ⟨_, remainder⟩ := chain
    refine List.nodup_cons.mpr ⟨?_, ih remainder⟩
    intro repeated
    obtain ⟨before, after, same⟩ := List.append_of_mem repeated
    subst same
    obtain ⟨middle, _, back, again⟩ := segment_append.mp remainder
    have cycle := Chain.unique remainder again
    have lengths := congrArg List.length cycle
    simp at lengths
    omega

/-- A segment depends on the links of its own nodes only. -/
theorem Segment.congr {other : Node → Option Node} (segment : Segment link start nodes stop)
    (agree : ∀ node ∈ nodes, other node = link node) : Segment other start nodes stop := by
  induction nodes generalizing start with
  | nil => exact segment
  | cons first rest ih =>
    obtain ⟨head, remainder⟩ := segment
    refine ⟨head, ?_⟩
    rw [agree first (by simp)]
    exact ih remainder (fun node member => agree node (List.mem_cons_of_mem _ member))

section Update

variable [DecidableEq Node]

/-- Relinking a node outside a segment leaves the segment as it is. -/
theorem Segment.update_of_notMem (segment : Segment link start nodes stop) (outside : node ∉ nodes) :
    Segment (Function.update link node target) start nodes stop := by
  apply segment.congr
  intro other member
  exact Function.update_of_ne (ne_of_mem_of_not_mem member outside) _ _

/-- Relinking the last node of a segment redirects it. -/
theorem Segment.relink (segment : Segment link start (nodes ++ [last]) stop) (once : last ∉ nodes) :
    Segment (Function.update link last target) start (nodes ++ [last]) target := by
  obtain ⟨middle, before, final⟩ := segment_append.mp segment
  refine segment_append.mpr ⟨middle, before.update_of_notMem once, final.1, ?_⟩
  simp [Segment]

end Update

end MmtkOpenJDK.Foundation
