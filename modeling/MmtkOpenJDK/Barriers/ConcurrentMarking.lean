import Mathlib.Logic.Relation
import MmtkOpenJDK.Barriers.ReferenceLoads
import MmtkOpenJDK.Barriers.Tiers

/-! Concurrent marking. Mutators load, store and copy references and take weak referents
into use, through the barriers of any tier, while mmtk-core traces the heap from the roots
of the snapshot. Whatever they do, what they can still reach is marked or new when marking
is complete. -/

namespace MmtkOpenJDK.Barriers

open MmtkOpenJDK.Foundation

/-- `held` are the references in a thread's registers and stack, `loading` is a referent
that was loaded and has not gone through the load barrier. `traced` are the slots that the
marker has read. -/
structure MarkingState (Oop Thread : Type) where
  mutators : State Oop Thread
  held : Thread → List Oop
  loading : Thread → Option Oop
  marked : List Oop
  traced : List (Slot Oop)

inductive MarkingEvent (Oop Thread Class : Type) where
  | start (thread : Thread) (operation : Operation Oop)
  | access (thread : Thread) (access : TierAccess Oop)
  | step (thread : Thread)
  | allocate (thread : Thread) (newObj : Oop) (space : Space) (unlogged : Bool)
  | safepoint
  | load (thread : Thread) (slot : Slot Oop)
  | loadReferent (thread : Thread) (reference : Oop)
  | loadBarrier (thread : Thread) (site : LoadSite Class)
  | pass (thread receiver : Thread) (object : Oop)
  | forget (thread : Thread) (object : Oop)
  | mark (root : Oop)
  | trace (slot : Slot Oop)

/-- The marking phase: the fields that are strong, where the referent of a `Reference` is,
the addresses of objects, and the last collection, which has started to mark. -/
structure MarkingPhase (Oop Class : Type) where
  fields : Oop → List Nat
  compressed : Bool
  enableBarrierFastpath : Bool
  enableAllocationFastpath : Bool
  hierarchy : ClassHierarchy Class
  referentOffset : BitVec 64
  flagAddress : BitVec 64
  address : Oop → BitVec 64
  collections : List Bool
  notNull : ∀ object, address object ≠ 0
  marking : isMarking true collections = true

/-- The reference that the next step of the code writes. -/
def storedNext {Oop : Type} : BarrierCode Oop → Option Oop
  | .act (.store _ value) _ => value
  | .act (.cmpxchg _ newValue _) _ => newValue
  | _ => none

variable {Oop Thread Class : Type}

def Memory.remember (memory : Memory Oop) (value : Oop) : Memory Oop :=
  { memory with recorded := value :: memory.recorded }

namespace MarkingPhase

variable (phase : MarkingPhase Oop Class)

def config : Config Oop :=
  satbConfig phase.fields phase.compressed phase.enableBarrierFastpath phase.enableAllocationFastpath

def tiers : TierConfig Oop :=
  satbTiers phase.fields phase.compressed phase.enableBarrierFastpath phase.enableAllocationFastpath

def referent (reference : Oop) : Slot Oop := ⟨reference, phase.referentOffset.toNat⟩

/-- Accesses to strong fields, and stores to the referent of a `Reference`. -/
def MayStart (memory : Memory Oop) (operation : Operation Oop) : Prop :=
  operation.Valid phase.config memory ∨
    ∃ reference value, operation = .store reference phase.referentOffset.toNat value

/-- A thread only works with references that it holds. The element of an array copy and
the old value of an exchange are loaded before they are stored or returned. A referent is
loaded by a load that has a barrier. -/
def enabled (roots : Oop → Prop) (state : MarkingState Oop Thread) : MarkingEvent Oop Thread Class → Prop
  | .start thread operation =>
    (state.mutators.codes thread).isDone = true ∧ phase.MayStart state.mutators.memory operation
  | .access thread access =>
    (state.mutators.codes thread).isDone = true ∧ access.Valid phase.compressed state.mutators.memory
  | .step thread => (state.mutators.codes thread).isDone = false ∧
    ∀ value, storedNext (state.mutators.codes thread) = some value → value ∈ state.held thread
  | .allocate _ newObj space _ => state.mutators.memory.space newObj = .unallocated ∧ space ≠ .unallocated
  | .safepoint => ∀ thread, (state.mutators.codes thread).isDone = true ∧ state.loading thread = none
  | .load thread slot => slot.base ∈ state.held thread ∧ slot.offset ∈ phase.fields slot.base
  | .loadReferent thread reference => reference ∈ state.held thread ∧ state.loading thread = none
  | .loadBarrier thread site => (state.loading thread).isSome = true ∧ site.Valid phase.hierarchy phase.referentOffset ∧
    site.loadsReferent phase.hierarchy phase.referentOffset = true ∧ site.leftOut phase.hierarchy = false
  | .pass thread _ object => object ∈ state.held thread
  | .forget _ _ => True
  | .mark root => roots root ∨ root ∈ state.mutators.memory.recorded
  | .trace slot => slot.base ∈ state.marked ∧ slot.offset ∈ phase.fields slot.base

variable [DecidableEq Oop] [DecidableEq Thread]

/-- The load barrier of a site. mmtk-core records what it is called with. -/
def recordReferent (site : LoadSite Class) (memory : Memory Oop) (value : Oop) : Memory Oop :=
  if site.calls phase.hierarchy phase.referentOffset phase.flagAddress (flagAfter true phase.collections)
      (phase.address value) then
    memory.remember value
  else memory

def hold (state : MarkingState Oop Thread) (thread : Thread) (value : Option Oop) : MarkingState Oop Thread :=
  { state with held := Function.update state.held thread (value.toList ++ state.held thread) }

def next (state : MarkingState Oop Thread) : MarkingEvent Oop Thread Class → MarkingState Oop Thread
  | .start thread operation =>
    { state with mutators := Barriers.next phase.config state.mutators (.start thread operation) }
  | .access thread access =>
    { state with mutators := (tierSystem phase.tiers AllUnlogged).next state.mutators (.access thread access) }
  | .step thread => { state with mutators := Barriers.next phase.config state.mutators (.step thread) }
  | .allocate thread newObj space unlogged =>
    hold { state with mutators := Barriers.next phase.config state.mutators (.allocate newObj space unlogged) }
      thread (some newObj)
  | .safepoint => { state with mutators := Barriers.next phase.config state.mutators .safepoint }
  | .load thread slot => hold state thread (state.mutators.memory.slots slot)
  | .loadReferent thread reference =>
    { state with
      loading := Function.update state.loading thread (state.mutators.memory.slots (phase.referent reference)) }
  | .loadBarrier thread site =>
    match state.loading thread with
    | none => state
    | some value =>
      let memory := phase.recordReferent site state.mutators.memory value
      hold { state with
        mutators := { state.mutators with memory }
        loading := Function.update state.loading thread none } thread (some value)
  | .pass _ receiver object => hold state receiver (some object)
  | .forget thread object =>
    { state with held := Function.update state.held thread ((state.held thread).erase object) }
  | .mark root => { state with marked := root :: state.marked }
  | .trace slot =>
    { state with marked := (state.mutators.memory.slots slot).toList ++ state.marked, traced := slot :: state.traced }

/-- Marking starts in a pause: the unlog bits are set, nothing is running, and references
are to allocated objects. -/
def system (roots : Oop → Prop) : System (MarkingState Oop Thread) (MarkingEvent Oop Thread Class) where
  initial state := AllUnlogged state.mutators.memory ∧
    (∀ thread, (state.mutators.codes thread).isDone = true ∧ state.loading thread = none) ∧
    (∀ object, state.mutators.memory.new object = false) ∧ (∀ object, state.mutators.memory.fresh object = false) ∧
    (∀ thread, ∀ object ∈ state.held thread, roots object ∧ state.mutators.memory.Allocated object) ∧
    (∀ slot value, state.mutators.memory.slots slot = some value → state.mutators.memory.Allocated slot.base →
      state.mutators.memory.Allocated value) ∧
    state.marked = [] ∧ state.traced = []
  enabled := phase.enabled roots
  next := phase.next

/-- The marker has nothing left to do: the roots and what the barriers recorded are marked,
and of every marked object that is not new all fields have been read. -/
structure Complete (roots : Oop → Prop) (state : MarkingState Oop Thread) : Prop where
  roots : ∀ object, roots object → object ∈ state.marked
  recorded : ∀ object ∈ state.mutators.memory.recorded, object ∈ state.marked
  traced : ∀ object ∈ state.marked, state.mutators.memory.new object = false →
    ∀ offset ∈ phase.fields object, ⟨object, offset⟩ ∈ state.traced

end MarkingPhase

/-- What the threads can reach through strong fields. -/
def MarkingState.Reaches (fields : Oop → List Nat) (state : MarkingState Oop Thread) (object : Oop) : Prop :=
  ∃ thread, ∃ base ∈ state.held thread, Relation.ReflTransGen (state.mutators.memory.Refers fields) base object

section Invariant

variable (phase : MarkingPhase Oop Class) (origin : Memory Oop) (roots : Oop → Prop)

/-- What is reachable in the snapshot from a root of it or from a recorded object. -/
def InSnapshot (fields : Oop → List Nat) (memory : Memory Oop) (object : Oop) : Prop :=
  ∃ root, (roots root ∨ root ∈ memory.recorded) ∧
    Relation.ReflTransGen (fun base value => origin.Allocated base ∧ origin.Refers fields base value) root object

/-- An object that marking will not lose. -/
structure Kept (fields : Oop → List Nat) (memory : Memory Oop) (object : Oop) : Prop where
  allocated : memory.Allocated object
  found : memory.new object = true ∨ InSnapshot origin roots fields memory object

/-- A reference in the heap is to an object that is kept, or has been there since the
snapshot. -/
structure HeapKept (fields : Oop → List Nat) (memory : Memory Oop) : Prop where
  slots : ∀ slot value, memory.slots slot = some value → memory.Allocated slot.base →
    memory.Allocated value ∧ (Kept origin roots fields memory value ∨
      memory.new slot.base = false ∧ origin.slots slot = some value)
  born : ∀ object, memory.Allocated object → origin.Allocated object ∨ memory.new object = true

structure Marking [DecidableEq Oop] (state : MarkingState Oop Thread) : Prop where
  snapshot : (satbDiscipline phase.fields origin).Holds state.mutators.memory state.mutators.codes
  heap : HeapKept origin roots phase.fields state.mutators.memory
  held : ∀ thread, ∀ object ∈ state.held thread, Kept origin roots phase.fields state.mutators.memory object
  loading : ∀ thread value, state.loading thread = some value → state.mutators.memory.Allocated value
  traced : ∀ slot ∈ state.traced, origin.Allocated slot.base → ∀ value, origin.slots slot = some value →
    value ∈ state.marked ∨ value ∈ state.mutators.memory.recorded

end Invariant

/-- What an event can do to memory: references are recorded, objects are allocated without
references, and one reference is written. -/
structure Evolves (memory after : Memory Oop) (stored : Option Oop) : Prop where
  new : ∀ object, memory.new object = true → after.new object = true
  recorded : ∀ value ∈ memory.recorded, value ∈ after.recorded
  allocated : ∀ object, memory.Allocated object → after.Allocated object
  born : ∀ object, after.Allocated object → memory.Allocated object ∨ after.new object = true
  slots : ∀ slot value, after.slots slot = some value → stored = some value ∨
    memory.slots slot = some value ∧ after.new slot.base = memory.new slot.base ∧
      (after.Allocated slot.base → memory.Allocated slot.base)

section Evolution

variable {phase : MarkingPhase Oop Class} {origin memory after : Memory Oop} {roots : Oop → Prop}
  {fields : Oop → List Nat} {stored : Option Oop} {object : Oop}

theorem Kept.evolve (kept : Kept origin roots fields memory object) (evolves : Evolves memory after stored) :
    Kept origin roots fields after object := by
  refine ⟨evolves.allocated object kept.allocated, ?_⟩
  rcases kept.found with isNew | ⟨root, found, path⟩
  · exact .inl (evolves.new object isNew)
  · exact .inr ⟨root, found.imp_right (evolves.recorded root), path⟩

theorem HeapKept.evolve (heap : HeapKept origin roots fields memory) (evolves : Evolves memory after stored)
    (known : ∀ value, stored = some value → Kept origin roots fields memory value) :
    HeapKept origin roots fields after where
  slots := by
    intro slot value current allocated
    rcases evolves.slots slot value current with written | ⟨earlier, sameAge, alsoAllocated⟩
    · have kept := (known value written).evolve evolves
      exact ⟨kept.allocated, .inl kept⟩
    · obtain ⟨target, kept | original⟩ := heap.slots slot value earlier (alsoAllocated allocated)
      · exact ⟨evolves.allocated value target, .inl (kept.evolve evolves)⟩
      · exact ⟨evolves.allocated value target, .inr (sameAge ▸ original)⟩
  born := by
    intro object allocated
    rcases evolves.born object allocated with before | isNew
    · exact (heap.born object before).imp_right (evolves.new object)
    · exact .inr isNew

/-- The target of a strong field of a kept object is kept. -/
theorem HeapKept.refers (heap : HeapKept origin roots fields memory) {base : Oop}
    (kept : Kept origin roots fields memory base) (refers : memory.Refers fields base object) :
    Kept origin roots fields memory object := by
  obtain ⟨offset, field, current⟩ := refers
  obtain ⟨target, isKept | ⟨old, original⟩⟩ := heap.slots ⟨base, offset⟩ object current kept.allocated
  · exact isKept
  · have snapshot : origin.Allocated base := (heap.born base kept.allocated).resolve_right (by simp [old])
    obtain ⟨root, found, path⟩ := kept.found.resolve_left (by simp [old])
    exact ⟨target, .inr ⟨root, found, path.tail ⟨snapshot, offset, field, original⟩⟩⟩

/-- A change that leaves slots, spaces and ages as they are. -/
theorem Evolves.ofSlots (slots : after.slots = memory.slots) (space : after.space = memory.space)
    (new : after.new = memory.new) (recorded : ∀ value ∈ memory.recorded, value ∈ after.recorded) :
    Evolves memory after stored where
  new object isNew := new ▸ isNew
  recorded := recorded
  allocated object allocated := by rwa [Memory.Allocated, space]
  born object allocated := by
    rw [Memory.Allocated, space] at allocated
    exact .inl allocated
  slots slot value current := by
    refine .inr ⟨slots ▸ current, by rw [new], ?_⟩
    intro allocated
    rwa [Memory.Allocated, space] at allocated

variable [DecidableEq Oop]

theorem Evolves.write (memory : Memory Oop) (slot : Slot Oop) (value : Option Oop) :
    Evolves memory (memory.write slot value) value where
  new _ isNew := isNew
  recorded _ member := member
  allocated _ allocated := allocated
  born _ allocated := .inl allocated
  slots other current found := by
    by_cases same : other = slot
    · exact .inl (by simpa [Memory.write, same] using found)
    · exact .inr ⟨by simpa [Memory.write, same] using found, rfl, id⟩

theorem Evolves.step (memory : Memory Oop) (code : BarrierCode Oop) :
    Evolves memory ((machine Oop).step memory code).1 (storedNext code) := by
  cases code with
  | done => exact .ofSlots rfl rfl rfl (fun _ member => member)
  | act action rest =>
    cases action with
    | store slot value => exact .write memory slot value
    | cmpxchg slot newValue compareValue =>
      change Evolves memory (memory.apply (.cmpxchg slot newValue compareValue)) newValue
      rw [Memory.apply]
      split
      · exact .write memory slot newValue
      · exact .ofSlots rfl rfl rfl (fun _ member => member)
    | record slot => exact .ofSlots rfl rfl rfl (fun _ member => List.mem_append_right _ member)
    | clearUnlog src => exact .ofSlots rfl rfl rfl (fun _ member => member)
    | enqueue src => exact .ofSlots rfl rfl rfl (fun _ member => member)
    | recordRange slots => exact .ofSlots rfl rfl rfl (fun _ member => member)
    | exitAllocation newObj => exact .ofSlots rfl rfl rfl (fun _ member => member)
  | branch test taken other =>
    cases test with
    | isUnlogged src => exact .ofSlots rfl rfl rfl (fun _ member => member)
    | tryLog src => exact .ofSlots rfl rfl rfl (fun _ member => member)

theorem Evolves.allocate {newObj : Oop} {space : Space} (unlogged : Bool) (used : space ≠ .unallocated) :
    Evolves memory (memory.allocate newObj space unlogged) none where
  new object isNew := by
    by_cases same : object = newObj
    · simp [Memory.allocate, same]
    · simpa [Memory.allocate, same] using isNew
  recorded _ member := member
  allocated object allocated := by
    by_cases same : object = newObj
    · simpa [Memory.Allocated, Memory.allocate, same] using used
    · simpa [Memory.Allocated, Memory.allocate, same] using allocated
  born object allocated := by
    by_cases same : object = newObj
    · exact .inr (by simp [Memory.allocate, same])
    · exact .inl (by simpa [Memory.Allocated, Memory.allocate, same] using allocated)
  slots slot value current := by
    have other : slot.base ≠ newObj := by
      intro same
      simp [Memory.allocate, same] at current
    refine .inr ⟨by simpa [Memory.allocate, other] using current, by simp [Memory.allocate, other], ?_⟩
    simp [Memory.Allocated, Memory.allocate, other]

end Evolution

section Run

variable {phase : MarkingPhase Oop Class} {origin : Memory Oop} {roots : Oop → Prop} {state : MarkingState Oop Thread}

/-- A store to a referent goes through the barrier of its object, too. -/
theorem MarkingPhase.MayStart.securedCode {memory : Memory Oop} {operation : Operation Oop}
    (allowed : phase.MayStart memory operation) (valid : Snapshot phase.fields origin memory) :
    SecuredCode phase.fields origin memory (operation.code phase.config) := by
  rcases allowed with promised | ⟨reference, value, rfl⟩
  · exact valid.securedCode promised
  · exact ⟨fun _ => False, by simp, covered_pre phase.compressed phase.enableBarrierFastpath reference _ value
      ⟨fun tracked => .inl ⟨rfl, tracked.2⟩, trivial⟩⟩

/-- During marking every referent that is taken into use is recorded. -/
theorem MarkingPhase.recordReferent_eq {site : LoadSite Class} (valid : site.Valid phase.hierarchy phase.referentOffset)
    (referent : site.loadsReferent phase.hierarchy phase.referentOffset = true)
    (barrier : site.leftOut phase.hierarchy = false) (memory : Memory Oop) (value : Oop) :
    phase.recordReferent site memory value = memory.remember value := by
  have active : flagAfter true phase.collections = 1 := by
    rw [flagAfter_eq, phase.marking]
    rfl
  have notNull : (phase.address value != 0) = true := bne_iff_ne.mpr (phase.notNull value)
  rw [MarkingPhase.recordReferent, active, valid.calls_eq (.inr rfl), referent, barrier, notNull]
  simp

theorem Snapshot.remember {fields : Oop → List Nat} {memory : Memory Oop} (valid : Snapshot fields origin memory)
    (value : Oop) : Snapshot fields origin (memory.remember value) where
  kept slot old tracked same := (valid.kept slot old tracked same).imp_right (List.mem_cons_of_mem value)
  cleared src clear offset member :=
    (valid.cleared src clear offset member).mono (fun _ known => List.mem_cons_of_mem value known)
  new := valid.new
  fresh := valid.fresh
  allocated := valid.allocated

variable [DecidableEq Oop]

/-- The mutators' memory changes; what is held and traced stays. -/
theorem Marking.evolve (valid : Marking phase origin roots state) {mutators : State Oop Thread}
    {stored : Option Oop} (evolves : Evolves state.mutators.memory mutators.memory stored)
    (known : ∀ value, stored = some value → Kept origin roots phase.fields state.mutators.memory value)
    (snapshot : (satbDiscipline phase.fields origin).Holds mutators.memory mutators.codes) :
    Marking phase origin roots { state with mutators } where
  snapshot := snapshot
  heap := valid.heap.evolve evolves known
  held thread object member := (valid.held thread object member).evolve evolves
  loading thread value loaded := evolves.allocated value (valid.loading thread value loaded)
  traced slot member allocated value original :=
    (valid.traced slot member allocated value original).imp_right (evolves.recorded value)

/-- When marking is complete, what belongs to the snapshot is marked. -/
theorem Marking.marked (valid : Marking phase origin roots state) (complete : phase.Complete roots state) {object : Oop}
    (found : InSnapshot origin roots phase.fields state.mutators.memory object) : object ∈ state.marked := by
  obtain ⟨root, isRoot, path⟩ := found
  induction path with
  | refl => exact isRoot.elim (complete.roots root) (complete.recorded root)
  | @tail base value _ edge ih =>
    obtain ⟨allocated, offset, field, original⟩ := edge
    have old : state.mutators.memory.new base = false := by
      by_contra isNew
      exact valid.snapshot.1.new base (by simpa using isNew) allocated
    have traced := complete.traced base ih old offset field
    exact (valid.traced ⟨base, offset⟩ traced allocated value original).elim id (complete.recorded value)

variable [DecidableEq Thread]

theorem Marking.loaded (valid : Marking phase origin roots state) (thread : Thread) :
    Marking phase origin roots { state with loading := Function.update state.loading thread none } := by
  refine ⟨valid.snapshot, valid.heap, valid.held, ?_, valid.traced⟩
  intro other value loaded
  by_cases same : other = thread
  · simp [same] at loaded
  · exact valid.loading other value (by simpa [same] using loaded)

theorem Marking.hold (valid : Marking phase origin roots state)
    (thread : Thread) {value : Option Oop}
    (kept : ∀ object, value = some object → Kept origin roots phase.fields state.mutators.memory object) :
    Marking phase origin roots (MarkingPhase.hold state thread value) := by
  refine ⟨valid.snapshot, valid.heap, ?_, valid.loading, valid.traced⟩
  intro other object member
  rcases mem_update_append member with taken | earlier
  · exact kept object (Option.mem_toList.mp taken)
  · exact valid.held other object earlier

/-- A new object is kept. -/
theorem Marking.allocate (valid : Marking phase origin roots state) (thread : Thread) {newObj : Oop} {space : Space}
    (unlogged : Bool) (unused : state.mutators.memory.space newObj = .unallocated) (used : space ≠ .unallocated) :
    Marking phase origin roots
      (MarkingPhase.hold { state with
        mutators := Barriers.next phase.config state.mutators (.allocate newObj space unlogged) } thread (some newObj)) := by
  have evolves : Evolves state.mutators.memory (state.mutators.memory.allocate newObj space unlogged) none :=
    .allocate unlogged used
  have snapshot := valid.snapshot.change (valid.snapshot.1.allocate space unlogged unused) (fun _ member => member)
  have evolved : Marking phase origin roots
      { state with mutators := Barriers.next phase.config state.mutators (.allocate newObj space unlogged) } :=
    valid.evolve evolves (by simp) snapshot
  refine evolved.hold thread ?_
  intro object same
  cases same
  exact ⟨by simpa [Memory.Allocated, Barriers.next, Memory.allocate] using used,
    .inl (by simp [Barriers.next, Memory.allocate])⟩

/-- A referent is loaded. It may be one that only the referent field keeps in the snapshot. -/
theorem Marking.loadReferent (valid : Marking phase origin roots state) (thread : Thread) {reference : Oop}
    (held : reference ∈ state.held thread) :
    Marking phase origin roots { state with
      loading := Function.update state.loading thread (state.mutators.memory.slots (phase.referent reference)) } := by
  refine ⟨valid.snapshot, valid.heap, valid.held, ?_, valid.traced⟩
  intro other value loaded
  by_cases same : other = thread
  · simp only [same, Function.update_self] at loaded
    exact (valid.heap.slots _ value loaded (valid.held thread reference held).allocated).1
  · simp only [Function.update_of_ne same] at loaded
    exact valid.loading other value loaded

/-- The load barrier records it, so that it is kept when the thread takes it. -/
theorem Marking.remember (valid : Marking phase origin roots state) {thread : Thread} {value : Oop}
    (loading : state.loading thread = some value) :
    Marking phase origin roots (MarkingPhase.hold { state with
      mutators := ⟨state.mutators.memory.remember value, state.mutators.codes⟩
      loading := Function.update state.loading thread none } thread (some value)) := by
  have evolves : Evolves state.mutators.memory (state.mutators.memory.remember value) none :=
    .ofSlots rfl rfl rfl (fun _ member => List.mem_cons_of_mem value member)
  have snapshot := valid.snapshot.change (valid.snapshot.1.remember value)
    (fun _ member => List.mem_cons_of_mem value member)
  have evolved : Marking phase origin roots
      { state with mutators := ⟨state.mutators.memory.remember value, state.mutators.codes⟩ } :=
    valid.evolve evolves (by simp) snapshot
  refine (evolved.loaded thread).hold thread ?_
  intro object same
  cases same
  exact ⟨evolved.loading thread value loading, .inr ⟨value, .inr (by simp [Memory.remember]), .refl⟩⟩

omit [DecidableEq Thread] in
/-- The marker reads a slot: what was there in the snapshot is marked or recorded. -/
theorem Marking.trace (valid : Marking phase origin roots state) {slot : Slot Oop}
    (field : slot.offset ∈ phase.fields slot.base) :
    Marking phase origin roots { state with
      marked := (state.mutators.memory.slots slot).toList ++ state.marked
      traced := slot :: state.traced } := by
  refine ⟨valid.snapshot, valid.heap, valid.held, valid.loading, ?_⟩
  intro other member allocated value original
  rcases List.mem_cons.mp member with same | earlier
  · subst same
    refine (valid.snapshot.1.kept other value ⟨allocated, field⟩ original).imp_left ?_
    intro current
    exact List.mem_append_left _ (by simp [current])
  · exact (valid.traced other earlier allocated value original).imp_left (List.mem_append_right _)

/-- Every event keeps the invariant. -/
theorem Marking.next {event : MarkingEvent Oop Thread Class} (valid : Marking phase origin roots state)
    (allowed : phase.enabled roots state event) : Marking phase origin roots (phase.next state event) := by
  have quiet : Evolves state.mutators.memory state.mutators.memory none :=
    .ofSlots rfl rfl rfl (fun _ member => member)
  cases event with
  | start thread operation =>
    exact valid.evolve quiet (by simp) (valid.snapshot.start thread (allowed.2.securedCode valid.snapshot.1))
  | access thread access =>
    exact valid.evolve quiet (by simp) (valid.snapshot.start thread (valid.snapshot.1.securedTierCode allowed.2))
  | step thread =>
    exact valid.evolve (.step _ _) (fun value stored => valid.held thread value (allowed.2 value stored))
      (valid.snapshot.step thread)
  | allocate thread newObj space unlogged => exact valid.allocate thread unlogged allowed.1 allowed.2
  | safepoint =>
    have evolves : Evolves state.mutators.memory { state.mutators.memory with fresh := fun _ => false } none :=
      .ofSlots rfl rfl rfl (fun _ member => member)
    exact valid.evolve evolves (by simp) (valid.snapshot.change valid.snapshot.1.safepoint (fun _ member => member))
  | load thread slot =>
    refine valid.hold thread ?_
    intro object current
    exact valid.heap.refers (valid.held thread slot.base allowed.1) ⟨slot.offset, allowed.2, current⟩
  | loadReferent thread reference => exact valid.loadReferent thread allowed.1
  | loadBarrier thread site =>
    obtain ⟨loaded, siteValid, referent, base⟩ := allowed
    obtain ⟨value, isLoading⟩ := Option.isSome_iff_exists.mp loaded
    simp only [MarkingPhase.next, isLoading, MarkingPhase.recordReferent_eq siteValid referent base]
    exact valid.remember isLoading
  | pass thread receiver object =>
    refine valid.hold receiver ?_
    intro other same
    cases same
    exact valid.held thread object allowed
  | forget thread object =>
    exact ⟨valid.snapshot, valid.heap, fun other kept member => valid.held other kept (mem_update_erase member),
      valid.loading, valid.traced⟩
  | mark root =>
    refine ⟨valid.snapshot, valid.heap, valid.held, valid.loading, ?_⟩
    intro slot member allocated value original
    exact (valid.traced slot member allocated value original).imp_left (List.mem_cons_of_mem root)
  | trace slot => exact valid.trace allowed.2

theorem Marking.initial (initial : (phase.system roots).initial state) :
    Marking phase state.mutators.memory roots state := by
  obtain ⟨unlogged, idle, notNew, notFresh, held, closed, -, noTrace⟩ := initial
  refine ⟨⟨.initial unlogged notNew notFresh, ?_⟩, ⟨?_, ?_⟩, ?_, ?_, by simp [noTrace]⟩
  · intro thread
    rw [Code.eq_done (idle thread).1]
    exact securedCode_done
  · intro slot value current allocated
    exact ⟨closed slot value current allocated, .inr ⟨notNew slot.base, current⟩⟩
  · intro object allocated
    exact .inl allocated
  · intro thread object member
    exact ⟨(held thread object member).2, .inr ⟨object, .inl (held thread object member).1, .refl⟩⟩
  · intro thread value loaded
    simp [(idle thread).2] at loaded

/-- In every run of any number of mutators and of the marker, in any order: when marking is
complete, every object that a mutator can reach through strong fields is marked or was
allocated during marking. -/
theorem reachable_objects_marked (phase : MarkingPhase Oop Class) (roots : Oop → Prop)
    {start state : MarkingState Oop Thread} {events : List (MarkingEvent Oop Thread Class)}
    (initial : (phase.system roots).initial start) (run : (phase.system roots).Run start events state)
    (complete : phase.Complete roots state) (object : Oop) (reached : state.Reaches phase.fields object) :
    object ∈ state.marked ∨ state.mutators.memory.new object = true := by
  have valid : Marking phase start.mutators.memory roots state :=
    run.invariant (Marking phase start.mutators.memory roots) (.initial initial)
      (fun _ _ valid allowed => valid.next allowed)
  obtain ⟨thread, base, member, path⟩ := reached
  have kept : Kept start.mutators.memory roots phase.fields state.mutators.memory object := by
    induction path with
    | refl => exact valid.held thread base member
    | tail _ refers ih => exact valid.heap.refers ih refers
  exact kept.found.symm.imp_left (valid.marked complete)

end Run

/-- Object 0 is a soft reference to object 1, object 2 has one reference field. -/
def softMemory : Memory (Fin 3) where
  slots slot := if slot = ⟨0, 12⟩ then some 1 else none
  unlogged _ := true
  space _ := .mature
  new _ := false
  fresh _ := false
  recorded := []
  logged := []
  ranges := []

def softPhase : MarkingPhase (Fin 3) LibraryClass where
  fields object := if object = 2 then [8] else []
  compressed := true
  enableBarrierFastpath := true
  enableAllocationFastpath := true
  hierarchy := libraryClasses
  referentOffset := 12
  flagAddress := 64
  address object := BitVec.ofNat 64 (4096 + 8 * object.val)
  collections := [true]
  notNull := by decide
  marking := rfl

def softStart : MarkingState (Fin 3) Unit := ⟨⟨softMemory, fun _ => .done⟩, fun _ => [0, 2], fun _ => none, [], []⟩

/-- The field of object 2 is traced before the referent is loaded and stored there, by code
of C1 that is still to be patched. -/
def softEvents : List (MarkingEvent (Fin 3) Unit LibraryClass) :=
  [.mark 0, .mark 2, .trace ⟨2, 8⟩, .loadReferent () 0, .loadBarrier () (unsafeSite .object),
    .access () (.c1Store ⟨2, 8, true, ⟨true, true, false, false, false⟩⟩ (some 1)), .step (), .step (), .step (),
    .mark 1]

def softState : MarkingState (Fin 3) Unit := softEvents.foldl softPhase.next softStart

theorem stored_referent_marked : (1 : Fin 3) ∈ softState.marked ∨ softState.mutators.memory.new 1 = true := by
  have initial : (softPhase.system (· ≠ 1)).initial softStart := by
    refine ⟨fun _ _ => rfl, fun _ => ⟨rfl, rfl⟩, fun _ => rfl, fun _ => rfl, ?_, ?_, rfl, rfl⟩
    · intro thread
      change ∀ object ∈ [(0 : Fin 3), 2], object ≠ 1 ∧ softMemory.Allocated object
      decide
    · intro slot value _ _
      simp [Memory.Allocated, softStart, softMemory]
  have allowed : (softPhase.system (· ≠ 1)).Allowed softStart softEvents := by
    refine ⟨.inl (by decide), .inl (by decide), ⟨by decide, by decide⟩, ⟨by decide, rfl⟩,
      ⟨by decide, unsafeSite_valid (by decide), by decide, by decide⟩, ⟨rfl, fun _ _ => ⟨by decide, ?_⟩⟩,
      ⟨rfl, by decide⟩, ⟨rfl, by decide⟩, ⟨rfl, by decide⟩, .inr (by decide), trivial⟩
    intro object same
    cases same
    decide
  have complete : softPhase.Complete (· ≠ 1) softState := ⟨by decide, by decide, by decide⟩
  have reached : softState.Reaches softPhase.fields 1 := by
    refine ⟨(), 2, by decide, .single ⟨8, by decide, by decide⟩⟩
  exact reachable_objects_marked softPhase (· ≠ 1) initial allowed.run complete 1 reached

end MmtkOpenJDK.Barriers
