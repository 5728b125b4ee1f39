import Mathlib.Logic.Relation
import MmtkOpenJDK.Barriers.Tiers

/-! Mutators and collections of a generational plan in turns. The collector is mmtk-core's:
a nursery collection is promised to keep what is traced from the threads' references and
from what the object barrier remembered. With that nothing that a mutator can reach is ever
freed. -/

namespace MmtkOpenJDK.Barriers

open MmtkOpenJDK.Foundation

/-- What a collection, which may be full, makes of a heap when it starts from the roots. An
object remains the same object when it is moved. -/
abbrev Collector (Oop : Type) := Bool → (Oop → Prop) → Memory Oop → Memory Oop → Prop

/-- `held` are the references in a thread's registers and stack. -/
structure GenerationalState (Oop Thread : Type) where
  mutators : State Oop Thread
  held : Thread → List Oop

inductive GenerationalEvent (Oop Thread : Type) where
  | start (thread : Thread) (operation : Operation Oop)
  | access (thread : Thread) (access : TierAccess Oop)
  | step (thread : Thread)
  | allocate (thread : Thread) (newObj : Oop) (space : Space) (unlogged : Bool)
  | safepoint
  | load (thread : Thread) (slot : Slot Oop)
  | pass (thread receiver : Thread) (object : Oop)
  | forget (thread : Thread) (object : Oop)
  | collect (full : Bool) (after : Memory Oop)

variable {Oop Thread : Type}

section References

/-- The objects that an operation works with. -/
def Operation.references : Operation Oop → List Oop
  | .store base _ value => base :: value.toList
  | .cmpxchg newValue base _ _ => base :: newValue.toList
  | .xchg newValue base _ => base :: newValue.toList
  | .arraycopy _ _ _ dstObj dstOffsetInBytes dstRaw _ copied =>
    (objOffsetToRaw dstObj dstOffsetInBytes dstRaw).base :: copied.flatMap (·.2.toList)
  | .clone _ dst copied => dst :: copied.flatMap (·.2.toList)
  | .slowpathAllocationExit newObj => [newObj]
  | .c2Store base _ value _ => base :: value.toList

def LIRAccess.references (access : LIRAccess Oop) (newValue : Option Oop) : List Oop :=
  if access.isOop && access.decorators.inHeap then access.base :: newValue.toList else []

def C2Access.references (access : C2Access Oop) (newValue : Option Oop) : List Oop :=
  if access.isOop then access.base :: newValue.toList else []

def TierAccess.references : TierAccess Oop → List Oop
  | .interpreterStore decorators type dst val =>
    if isReferenceType type && decorators.inHeap then dst.base :: val.value.toList else []
  | .c1Store access value => access.references value
  | .c1Cmpxchg access _ newValue => access.references newValue
  | .c1Xchg access value => access.references value
  | .c2Store access val => access.references val
  | .c2CmpxchgVal access _ newVal => access.references newVal
  | .c2CmpxchgBool access _ newVal => access.references newVal
  | .c2Xchg access newVal => access.references newVal
  | .arraycopy stub => stub.dst.base :: stub.copied.flatMap (·.2.toList)

end References

section Collector

variable (fields : Oop → List Nat) (full : Bool) (roots retained : Oop → Prop) (memory : Memory Oop)

/-- What a collection traces. Besides the roots it may retain objects, such as those that
are to be finalized and the referents of soft references. A nursery collection does not look
into mature objects that the barrier has not remembered. -/
inductive Traced : Oop → Prop where
  | root {object : Oop} : roots object → full = true ∨ memory.space object = .nursery → Traced object
  | retained {object : Oop} : retained object → full = true ∨ memory.space object = .nursery → Traced object
  | field {base object : Oop} : Traced base → memory.Refers fields base object →
    full = true ∨ memory.space object = .nursery → Traced object
  | logged {base object : Oop} : full = false → base ∈ memory.logged → memory.Refers fields base object →
    memory.space object = .nursery → Traced object
  | range {slot : Slot Oop} {object : Oop} : full = false → slot ∈ memory.ranges → memory.slots slot = some object →
    memory.space object = .nursery → Traced object

/-- What mmtk-core promises of a collection. The objects traced are promoted, a nursery
collection leaves mature objects where they are, and the memory of all other objects is
reclaimed. Strong fields are kept, and any other field refers to nothing that is reclaimed.
The unlog bits of promoted and of logged objects are set. -/
structure Collector.Collects (after : Memory Oop) : Prop where
  retains : ∀ object, retained object → memory.Allocated object
  promotes : ∀ object, Traced fields full roots retained memory object → after.space object = .mature
  leaves : full = false → ∀ object, memory.space object = .mature → after.space object = .mature
  reclaims : ∀ object, after.Allocated object →
    Traced fields full roots retained memory object ∨ full = false ∧ memory.space object = .mature
  strong : ∀ slot, after.Allocated slot.base → slot.offset ∈ fields slot.base → after.slots slot = memory.slots slot
  weak : ∀ slot, slot.offset ∉ fields slot.base → after.Live (after.slots slot)
  zeroed : ∀ slot, ¬ after.Allocated slot.base → after.slots slot = none
  unlogs : ∀ object, after.Allocated object →
    memory.unlogged object = true ∨ memory.space object = .nursery ∨ object ∈ memory.logged →
      after.unlogged object = true
  buffers : after.logged = [] ∧ after.ranges = []

/-- The collector keeps these promises whenever it is called. -/
def Collector.Documented (collector : Collector Oop) : Prop :=
  ∀ full roots memory after, collector full roots memory after →
    ∃ retained, Collector.Collects fields full roots retained memory after

variable {fields full roots retained memory} {after : Memory Oop} {object : Oop}

/-- What a collection leaves is mature. -/
theorem Collector.Collects.left_mature (collects : Collects fields full roots retained memory after)
    (allocated : after.Allocated object) : after.space object = .mature := by
  rcases collects.reclaims object allocated with traced | ⟨nursery, mature⟩
  · exact collects.promotes object traced
  · exact collects.leaves nursery object mature

/-- An object that is traced or not collected is left. -/
theorem Collector.Collects.left (collects : Collects fields full roots retained memory after)
    (allocated : memory.Allocated object)
    (traced : full = true ∨ memory.space object = .nursery → Traced fields full roots retained memory object) :
    after.Allocated object := by
  have mature : after.space object = .mature := by
    by_cases collected : full = true ∨ memory.space object = .nursery
    · exact collects.promotes object (traced collected)
    · obtain ⟨notFull, old⟩ := not_or.mp collected
      exact collects.leaves (by simpa using notFull) object (allocated.nursery_or_mature.resolve_left old)
  simp [Memory.Allocated, mature]

/-- The strong references that remain are those of the objects that are left. -/
theorem Collector.Collects.refers_iff (collects : Collects fields full roots retained memory after) {target : Oop} :
    after.Refers fields object target ↔ after.Allocated object ∧ memory.Refers fields object target := by
  constructor
  · rintro ⟨offset, field, holds⟩
    by_cases left : after.Allocated object
    · rw [collects.strong ⟨object, offset⟩ left field] at holds
      exact ⟨left, offset, field, holds⟩
    · rw [collects.zeroed ⟨object, offset⟩ left] at holds
      cases holds
  · rintro ⟨left, offset, field, holds⟩
    exact ⟨offset, field, (collects.strong ⟨object, offset⟩ left field).trans holds⟩

end Collector

/-- A generational plan with the object barrier. -/
structure GenerationalPlan (Oop : Type) where
  fields : Oop → List Nat
  compressed : Bool
  enableBarrierFastpath : Bool
  enableAllocationFastpath : Bool

namespace GenerationalState

variable (state : GenerationalState Oop Thread)

def roots (object : Oop) : Prop := ∃ thread, object ∈ state.held thread

/-- What the threads can reach through strong fields. -/
def Reaches (fields : Oop → List Nat) (object : Oop) : Prop :=
  ∃ base, state.roots base ∧ Relation.ReflTransGen (state.mutators.memory.Refers fields) base object

end GenerationalState

/-- The heap after a collection. No object is fresh any more, and the allocations that are
still to be announced are those of objects that are left. -/
def Memory.collected (memory after : Memory Oop) : Memory Oop :=
  { after with
    new := fun object => memory.new object && decide (after.Allocated object)
    fresh := fun _ => false
    recorded := memory.recorded }

namespace GenerationalPlan

variable (plan : GenerationalPlan Oop)

def tiers : TierConfig Oop :=
  objectTiers plan.fields plan.compressed plan.enableBarrierFastpath plan.enableAllocationFastpath

/-- A thread only works with references that it holds. What HotSpot promises of an access it
promises of one to objects that have not been freed. -/
def enabled (collector : Collector Oop) (state : GenerationalState Oop Thread) : GenerationalEvent Oop Thread → Prop
  | .start thread operation => (state.mutators.codes thread).isDone = true ∧
    (∀ object ∈ operation.references, object ∈ state.held thread) ∧
    ((∀ object ∈ operation.references, state.mutators.memory.Allocated object) →
      operation.Valid plan.tiers.toConfig state.mutators.memory)
  | .access thread access => (state.mutators.codes thread).isDone = true ∧
    (∀ object ∈ access.references, object ∈ state.held thread) ∧
    ((∀ object ∈ access.references, state.mutators.memory.Allocated object) →
      access.Valid plan.compressed state.mutators.memory)
  | .step thread => (state.mutators.codes thread).isDone = false
  | .allocate _ newObj space unlogged => state.mutators.memory.space newObj = .unallocated ∧
    space ≠ .unallocated ∧ plan.tiers.mayAllocate space unlogged = true
  | .safepoint => ∀ thread, (state.mutators.codes thread).isDone = true
  | .load thread slot => slot.base ∈ state.held thread
  | .pass thread _ object => object ∈ state.held thread
  | .forget _ _ => True
  | .collect full after => (∀ thread, (state.mutators.codes thread).isDone = true) ∧
    collector full state.roots state.mutators.memory after

variable [DecidableEq Oop] [DecidableEq Thread]

def mutate (state : GenerationalState Oop Thread) (event : TierEvent Oop Thread) : GenerationalState Oop Thread :=
  { state with mutators := (tierSystem plan.tiers AfterGC).next state.mutators event }

def hold (state : GenerationalState Oop Thread) (thread : Thread) (value : Option Oop) : GenerationalState Oop Thread :=
  { state with held := Function.update state.held thread (value.toList ++ state.held thread) }

def next (state : GenerationalState Oop Thread) : GenerationalEvent Oop Thread → GenerationalState Oop Thread
  | .start thread operation => plan.mutate state (.other (.start thread operation))
  | .access thread access => plan.mutate state (.access thread access)
  | .step thread => plan.mutate state (.other (.step thread))
  | .allocate thread newObj space unlogged =>
    hold (plan.mutate state (.other (.allocate newObj space unlogged))) thread (some newObj)
  | .safepoint => plan.mutate state (.other .safepoint)
  | .load thread slot => hold state thread (state.mutators.memory.slots slot)
  | .pass _ receiver object => hold state receiver (some object)
  | .forget thread object =>
    { state with held := Function.update state.held thread ((state.held thread).erase object) }
  | .collect _ after =>
    { state with mutators := { state.mutators with memory := state.mutators.memory.collected after } }

def system (collector : Collector Oop) : System (GenerationalState Oop Thread) (GenerationalEvent Oop Thread) where
  initial state := (tierSystem plan.tiers AfterGC).initial state.mutators ∧
    ∀ object, state.roots object → state.mutators.memory.Allocated object
  enabled := plan.enabled collector
  next := plan.next

end GenerationalPlan

/-- When no access is under way, every mature object with a clear bit is logged. -/
theorem Accounted.idle_logs {codes : Thread → BarrierCode Oop} {memory : Memory Oop} {object : Oop}
    (accounted : Accounted memory codes) (idle : ∀ thread, (codes thread).isDone = true)
    (mature : memory.space object = .mature) (clear : memory.unlogged object = false) : object ∈ memory.logged := by
  refine (accounted.logs object mature clear).resolve_right ?_
  rintro ⟨thread, pending⟩
  rw [Code.eq_done (idle thread)] at pending
  exact pending

/-- What holds all along: the barrier remembers, and the threads hold allocated objects. -/
structure Collecting [DecidableEq Oop] (state : GenerationalState Oop Thread) : Prop where
  remembering : Remembering state.mutators
  held : ∀ object, state.roots object → state.mutators.memory.Allocated object

section Collection

variable [DecidableEq Oop] {fields : Oop → List Nat} {full : Bool} {retained : Oop → Prop}
  {state : GenerationalState Oop Thread} {after : Memory Oop} {object : Oop}

/-- Only objects are traced. -/
theorem Collecting.traced_allocated (valid : Collecting state)
    (retains : ∀ object, retained object → state.mutators.memory.Allocated object)
    (traced : Traced fields full state.roots retained state.mutators.memory object) :
    state.mutators.memory.Allocated object := by
  have live := valid.remembering.checked.1.live
  cases traced with
  | root isRoot _ => exact valid.held object isRoot
  | retained isRetained _ => exact retains object isRetained
  | field _ refers _ =>
    obtain ⟨offset, _, holds⟩ := refers
    exact live _ object holds
  | logged _ _ refers _ =>
    obtain ⟨offset, _, holds⟩ := refers
    exact live _ object holds
  | range _ _ holds _ => exact live _ object holds

section Kept

variable (valid : Collecting state) (idle : ∀ thread, (state.mutators.codes thread).isDone = true)
  (collects : Collector.Collects fields full state.roots retained state.mutators.memory after)

include valid idle collects

/-- What a strong field of an object that is left refers to is left. For a mature object of
a nursery collection this is what the barrier remembers. -/
theorem Collecting.referent_left (slot : Slot Oop) {value : Oop} (base : after.Allocated slot.base)
    (field : slot.offset ∈ fields slot.base) (holds : state.mutators.memory.slots slot = some value) :
    after.Allocated value := by
  have refers : state.mutators.memory.Refers fields slot.base value := ⟨slot.offset, field, holds⟩
  refine collects.left (valid.remembering.checked.1.live slot value holds) ?_
  intro collected
  rcases collects.reclaims slot.base base with traced | ⟨nursery, mature⟩
  · exact .field traced refers collected
  · have young : state.mutators.memory.space value = .nursery := collected.resolve_left (by simp [nursery])
    rcases valid.remembering.accounted.idle idle ⟨mature, value, holds, young⟩ with logged | recorded
    · exact .logged nursery logged refers young
    · exact .range nursery recorded holds young

/-- Whatever the threads reach is left. -/
theorem Collecting.reached_left (reached : state.Reaches fields object) : after.Allocated object := by
  obtain ⟨base, isRoot, path⟩ := reached
  induction path with
  | refl => exact collects.left (valid.held base isRoot) (.root isRoot)
  | @tail middle target _ refers ih =>
    obtain ⟨offset, field, holds⟩ := refers
    exact valid.referent_left idle collects ⟨middle, offset⟩ ih field holds

/-- After the collection the barrier starts afresh. -/
theorem Collecting.remembering_collected :
    Remembering (⟨state.mutators.memory.collected after, state.mutators.codes⟩ : State Oop Thread) := by
  refine ⟨⟨⟨?_, nofun, ?_⟩, ?_⟩, ⟨?_, ?_⟩⟩
  · intro slot value holds
    change after.slots slot = some value at holds
    by_cases base : after.Allocated slot.base
    · by_cases field : slot.offset ∈ fields slot.base
      · rw [collects.strong slot base field] at holds
        exact valid.referent_left idle collects slot base field holds
      · exact collects.weak slot field value holds
    · rw [collects.zeroed slot base] at holds
      cases holds
  · intro object isNew
    simp only [Memory.collected, Bool.and_eq_true, decide_eq_true_eq] at isNew
    exact isNew.2
  · intro thread
    change CheckedCode _ (state.mutators.codes thread)
    rw [Code.eq_done (idle thread)]
    exact checkedCode_done
  · rintro slot ⟨_, value, _, young⟩
    have mature := collects.left_mature (show after.Allocated value by
      rw [Memory.Allocated, show after.space value = .nursery from young]
      decide)
    exact absurd (young.symm.trans mature) (by decide)
  · intro object mature clear
    have left : after.Allocated object := by
      rw [Memory.Allocated, show after.space object = .mature from mature]
      decide
    refine absurd (collects.unlogs object left ?_) (by simp [show after.unlogged object = false from clear])
    by_cases young : state.mutators.memory.space object = .nursery
    · exact .inr (.inl young)
    · have wasMature : state.mutators.memory.space object = .mature := by
        rcases collects.reclaims object left with traced | ⟨_, wasMature⟩
        · exact (valid.traced_allocated collects.retains traced).nursery_or_mature.resolve_left young
        · exact wasMature
      cases bit : state.mutators.memory.unlogged object with
      | true => exact .inl rfl
      | false => exact .inr (.inr (valid.remembering.accounted.idle_logs idle wasMature bit))

end Kept

/-- The threads reach the same objects as before, with the same strong fields, and all of
them are mature. -/
structure KeepsReachable (fields : Oop → List Nat) (before after : GenerationalState Oop Thread) : Prop where
  reaches : ∀ object, after.Reaches fields object ↔ before.Reaches fields object
  mature : ∀ object, before.Reaches fields object → after.mutators.memory.space object = .mature
  strong : ∀ object, before.Reaches fields object → ∀ offset ∈ fields object,
    after.mutators.memory.slots ⟨object, offset⟩ = before.mutators.memory.slots ⟨object, offset⟩

theorem Collecting.keepsReachable (valid : Collecting state)
    (idle : ∀ thread, (state.mutators.codes thread).isDone = true)
    (collects : Collector.Collects fields full state.roots retained state.mutators.memory after) :
    KeepsReachable fields state
      { state with mutators := { state.mutators with memory := state.mutators.memory.collected after } } := by
  have left : ∀ {object}, state.Reaches fields object → after.Allocated object :=
    fun reached => valid.reached_left idle collects reached
  refine ⟨?_, ?_, ?_⟩
  · intro object
    constructor
    · rintro ⟨base, isRoot, path⟩
      refine ⟨base, isRoot, Relation.ReflTransGen.mono ?_ base object path⟩
      exact fun _ _ refers => (collects.refers_iff.mp refers).2
    · rintro ⟨base, isRoot, path⟩
      refine ⟨base, isRoot, ?_⟩
      induction path with
      | refl => exact .refl
      | tail path refers ih => exact ih.tail (collects.refers_iff.mpr ⟨left ⟨base, isRoot, path⟩, refers⟩)
  · intro object reached
    exact collects.left_mature (left reached)
  · intro object reached offset field
    exact collects.strong ⟨object, offset⟩ (left reached) field

end Collection

section Run

variable [DecidableEq Oop] [DecidableEq Thread] {plan : GenerationalPlan Oop} {state : GenerationalState Oop Thread}
  {object : Oop}

/-- The mutators free nothing. -/
theorem Remembering.allocated_next {state : State Oop Thread} {event : TierEvent Oop Thread} (valid : Remembering state)
    (allowed : (tierSystem plan.tiers AfterGC).enabled state event) (allocated : state.memory.Allocated object) :
    ((tierSystem plan.tiers AfterGC).next state event).memory.Allocated object := by
  cases event with
  | access thread access => exact allocated
  | other event =>
    cases event with
    | start thread operation => exact allocated
    | step thread =>
      have sound :=
        (objectDiscipline Oop).sound state.memory (state.codes thread) valid.checked.1 (valid.checked.2 thread)
      have grows : Grows state.memory ((machine Oop).step state.memory (state.codes thread)).1 := sound.2.2
      exact grows.allocated allocated
    | allocate newObj space unlogged =>
      have grows : Grows state.memory (state.memory.allocate newObj space unlogged) := grows_allocate allowed.1
      exact grows.allocated allocated
    | safepoint => exact allocated

theorem Collecting.mutate (valid : Collecting state) (event : TierEvent Oop Thread)
    (allowed : (tierSystem plan.tiers AfterGC).enabled state.mutators event) : Collecting (plan.mutate state event) where
  remembering := valid.remembering.tierNext allowed
  held object isRoot := valid.remembering.allocated_next allowed (valid.held object isRoot)

theorem Collecting.hold (valid : Collecting state) (thread : Thread) {value : Option Oop}
    (live : state.mutators.memory.Live value) : Collecting (GenerationalPlan.hold state thread value) := by
  refine ⟨valid.remembering, ?_⟩
  rintro object ⟨other, member⟩
  rcases mem_update_append member with taken | earlier
  · exact live object (Option.mem_toList.mp taken)
  · exact valid.held object ⟨other, earlier⟩

omit [DecidableEq Thread] in
/-- A thread that starts an access holds what it works with. -/
theorem Collecting.holds {objects : List Oop} {thread : Thread} (valid : Collecting state)
    (held : ∀ object ∈ objects, object ∈ state.held thread) :
    ∀ object ∈ objects, state.mutators.memory.Allocated object :=
  fun object member => valid.held object ⟨thread, held object member⟩

theorem Collecting.next {collector : Collector Oop} (documented : collector.Documented plan.fields)
    {event : GenerationalEvent Oop Thread} (valid : Collecting state) (allowed : plan.enabled collector state event) :
    Collecting (plan.next state event) := by
  cases event with
  | start thread operation =>
    obtain ⟨idle, held, promised⟩ := allowed
    exact valid.mutate (.other (.start thread operation)) ⟨idle, promised (valid.holds held)⟩
  | access thread access =>
    obtain ⟨idle, held, promised⟩ := allowed
    exact valid.mutate (.access thread access) ⟨idle, promised (valid.holds held)⟩
  | step thread => exact valid.mutate (.other (.step thread)) allowed
  | allocate thread newObj space unlogged =>
    refine (valid.mutate (.other (.allocate newObj space unlogged)) allowed).hold thread ?_
    intro object same
    cases same
    simpa [Memory.Allocated, GenerationalPlan.mutate, tierSystem, Barriers.next, Memory.allocate] using allowed.2.1
  | safepoint => exact valid.mutate (.other .safepoint) allowed
  | load thread slot => exact valid.hold thread (valid.remembering.checked.1.live slot)
  | pass thread receiver object =>
    refine valid.hold receiver ?_
    intro other same
    cases same
    exact valid.held object ⟨thread, allowed⟩
  | forget thread object =>
    refine ⟨valid.remembering, ?_⟩
    rintro kept ⟨other, member⟩
    exact valid.held kept ⟨other, mem_update_erase member⟩
  | collect full after =>
    obtain ⟨retained, collects⟩ := documented full state.roots state.mutators.memory after allowed.2
    refine ⟨valid.remembering_collected allowed.1 collects, ?_⟩
    intro object isRoot
    have left : after.Allocated object := valid.reached_left allowed.1 collects ⟨object, isRoot, .refl⟩
    exact left

theorem Collecting.initial {collector : Collector Oop} (initial : (plan.system collector).initial state) :
    Collecting state := by
  obtain ⟨⟨afterGC, idle, notNew, notFresh⟩, held⟩ := initial
  exact ⟨.initial afterGC idle notNew notFresh, held⟩

omit [DecidableEq Thread] in
theorem Collecting.reached_allocated {fields : Oop → List Nat} (valid : Collecting state)
    (reached : state.Reaches fields object) : state.mutators.memory.Allocated object := by
  obtain ⟨base, isRoot, path⟩ := reached
  induction path with
  | refl => exact valid.held base isRoot
  | @tail middle target _ refers _ =>
    obtain ⟨offset, _, holds⟩ := refers
    exact valid.remembering.checked.1.live ⟨middle, offset⟩ target holds

/-- In every run of any number of mutators, in any tier, and of any number of nursery and full
collections in between, by a collector that keeps mmtk-core's promises: what a mutator can
reach through strong fields has not been freed, and every collection keeps all of that as
it is, and promotes it. -/
theorem collections_keep_reachable (plan : GenerationalPlan Oop) (collector : Collector Oop)
    (documented : collector.Documented plan.fields) {start state : GenerationalState Oop Thread}
    {events : List (GenerationalEvent Oop Thread)} (initial : (plan.system collector).initial start)
    (run : (plan.system collector).Run start events state) :
    (∀ object, state.Reaches plan.fields object → state.mutators.memory.Allocated object) ∧
      ∀ full after, plan.enabled collector state (.collect full after) →
        KeepsReachable plan.fields state (plan.next state (.collect full after)) := by
  have valid : Collecting state :=
    run.invariant Collecting (.initial initial) fun _ _ valid allowed => valid.next documented allowed
  refine ⟨fun _ reached => valid.reached_allocated reached, ?_⟩
  intro full after allowed
  obtain ⟨retained, collects⟩ := documented full state.roots state.mutators.memory after allowed.2
  exact valid.keepsReachable allowed.1 collects

end Run

section Tracing

variable (fields : Oop → List Nat) (full : Bool) (roots retained : Oop → Prop) (memory : Memory Oop)

/-- What has to be left of a heap. -/
def Left (object : Oop) : Prop :=
  Traced fields full roots retained memory object ∨ full = false ∧ memory.space object = .mature

open scoped Classical in
/-- The heap after a collection that leaves nothing else, and clears weak references to what
is not left. -/
noncomputable def tracedHeap : Memory Oop where
  slots slot :=
    if Left fields full roots retained memory slot.base then
      if slot.offset ∈ fields slot.base then memory.slots slot
      else (memory.slots slot).filter fun value => decide (Left fields full roots retained memory value)
    else none
  unlogged _ := true
  space object := if Left fields full roots retained memory object then .mature else .unallocated
  new := memory.new
  fresh := memory.fresh
  recorded := memory.recorded
  logged := []
  ranges := []

/-- A collector that may retain any objects. -/
def tracingCollector : Collector Oop := fun full roots memory after =>
  ∃ retained : Oop → Prop, (∀ object, retained object → memory.Allocated object) ∧
    after = tracedHeap fields full roots retained memory

variable {fields full roots retained memory} {object : Oop}

theorem tracedHeap_allocated_iff :
    (tracedHeap fields full roots retained memory).Allocated object ↔ Left fields full roots retained memory object := by
  by_cases left : Left fields full roots retained memory object <;> simp [Memory.Allocated, tracedHeap, left]

theorem tracedHeap_mature (left : Left fields full roots retained memory object) :
    (tracedHeap fields full roots retained memory).space object = .mature := by
  simp [tracedHeap, left]

/-- A collector can keep mmtk-core's promises. -/
theorem tracingCollector_documented : (tracingCollector fields).Documented fields := by
  rintro full roots memory _ ⟨retained, retains, rfl⟩
  refine ⟨retained, retains, ?_, ?_, ?_, ?_, ?_, ?_, fun _ _ _ => rfl, rfl, rfl⟩
  · exact fun object traced => tracedHeap_mature (.inl traced)
  · exact fun nursery object mature => tracedHeap_mature (.inr ⟨nursery, mature⟩)
  · exact fun object allocated => tracedHeap_allocated_iff.mp allocated
  · intro slot allocated field
    simp [tracedHeap, tracedHeap_allocated_iff.mp allocated, field]
  · intro slot other value holds
    refine tracedHeap_allocated_iff.mpr ?_
    by_cases left : Left fields full roots retained memory slot.base
    · simp only [tracedHeap, left, other, if_true, if_false] at holds
      simpa using (Option.filter_eq_some_iff.mp holds).2
    · simp [tracedHeap, left] at holds
  · intro slot reclaimed
    have gone : ¬ Left fields full roots retained memory slot.base :=
      fun left => reclaimed (tracedHeap_allocated_iff.mpr left)
    simp [tracedHeap, gone]

end Tracing

def smallPlan : GenerationalPlan Nat := ⟨fun _ => [8], true, true, true⟩

/-- Object 0 is mature, the others are still to be allocated. -/
def smallHeap : Memory Nat where
  slots _ := none
  unlogged _ := true
  space object := if object = 0 then .mature else .unallocated
  new _ := false
  fresh _ := false
  recorded := []
  logged := []
  ranges := []

def smallStart : GenerationalState Nat Unit := ⟨⟨smallHeap, fun _ => .done⟩, fun _ => [0]⟩

/-- Object 1 is stored in object 0 by code of C1, and nothing else refers to it. Nothing
refers to object 2. -/
def smallEvents : List (GenerationalEvent Nat Unit) :=
  [.allocate () 1 .nursery false, .allocate () 2 .nursery false,
    .access () (.c1Store ⟨0, 8, true, ⟨true, false, false, false, false⟩⟩ (some 1)), .step (), .step (), .step (),
    .step (), .forget () 1, .forget () 2]

def smallState : GenerationalState Nat Unit := smallEvents.foldl smallPlan.next smallStart

/-- The heap after a nursery collection. -/
noncomputable def smallAfter : Memory Nat :=
  tracedHeap smallPlan.fields false smallState.roots (fun _ => False) smallState.mutators.memory

theorem small_traced {object : Nat}
    (traced : Traced smallPlan.fields false smallState.roots (fun _ => False) smallState.mutators.memory object) :
    object = 1 := by
  induction traced with
  | root isRoot young =>
    obtain ⟨thread, held⟩ := isRoot
    cases List.mem_singleton.mp (show _ ∈ [0] from held)
    exact absurd young (by decide)
  | retained isRetained => exact isRetained.elim
  | field _ refers _ ih =>
    subst ih
    obtain ⟨offset, field, holds⟩ := refers
    cases List.mem_singleton.mp (show offset ∈ [8] from field)
    exact absurd holds (by rw [show smallState.mutators.memory.slots ⟨1, 8⟩ = none by rfl]; exact nofun)
  | logged _ logged refers _ =>
    cases List.mem_singleton.mp (show _ ∈ [0] from logged)
    obtain ⟨offset, field, holds⟩ := refers
    cases List.mem_singleton.mp (show offset ∈ [8] from field)
    exact (Option.some.inj holds).symm
  | range _ recorded => exact absurd recorded List.not_mem_nil

theorem remembered_object_promoted :
    (smallPlan.next smallState (.collect false smallAfter)).mutators.memory.space 1 = .mature ∧
      (smallPlan.next smallState (.collect false smallAfter)).mutators.memory.space 2 = .unallocated := by
  have initial : (smallPlan.system (tracingCollector smallPlan.fields)).initial smallStart := by
    refine ⟨⟨⟨?_, ?_, ?_⟩, fun _ => rfl, fun _ => rfl, fun _ => rfl⟩, ?_⟩
    · intro object _
      rfl
    · intro slot value _ found
      cases found
    · intro slot object found
      cases found
    · rintro object ⟨thread, held⟩
      cases List.mem_singleton.mp (show object ∈ [0] from held)
      decide
  have allowed : (smallPlan.system (tracingCollector smallPlan.fields)).Allowed smallStart smallEvents := by
    refine ⟨⟨by decide, by decide, rfl⟩, ⟨by decide, by decide, rfl⟩, ⟨rfl, by decide, ?_⟩, rfl, rfl, rfl, rfl,
      trivial, trivial, trivial⟩
    intro allocated _ _
    refine ⟨allocated 0 (by decide), ?_⟩
    intro object same
    cases same
    exact allocated 1 (by decide)
  have keeps := (collections_keep_reachable smallPlan _ tracingCollector_documented initial allowed.run).2 false smallAfter
    ⟨fun _ => rfl, fun _ => False, nofun, rfl⟩
  have reached : smallState.Reaches smallPlan.fields 1 := ⟨0, ⟨(), by decide⟩, .single ⟨8, by decide, by decide⟩⟩
  refine ⟨keeps.mature 1 reached, ?_⟩
  have gone : ¬ smallAfter.Allocated 2 := by
    rw [smallAfter, tracedHeap_allocated_iff]
    rintro (traced | ⟨_, mature⟩)
    · exact absurd (small_traced traced) (by decide)
    · exact absurd mature (by decide)
  exact not_not.mp gone

end MmtkOpenJDK.Barriers
