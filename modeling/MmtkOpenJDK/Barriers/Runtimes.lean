import MmtkOpenJDK.Barriers.AccessBarrier

/-! The two barrier runtimes, over what mmtk-core documents of its own barriers,
and C2's decision to leave a barrier out. -/

namespace MmtkOpenJDK.Barriers

open MmtkOpenJDK.Foundation

variable {Oop : Type}

/-! mmtk-core's barriers. `fields` gives the offsets of an object's reference
fields. -/

namespace SATBBarrier

variable (fields : Oop → List Nat)

/-- The slow path records every reference field and only then clears the bit. -/
def objectReferenceWriteSlow (src : Oop) : Block Oop := fun rest =>
  .acts (((fields src).map (Slot.mk src)).map .record) (.act (.clearUnlog src) rest)

def objectReferenceWritePre (src : Oop) : Block Oop := fun rest =>
  .branch (.isUnlogged src) (objectReferenceWriteSlow fields src rest) rest

def memoryRegionCopyPre (dst : List (Slot Oop)) : Block Oop := .acts (dst.map .record)

end SATBBarrier

namespace ObjectBarrier

/-- The slow path logs the object if it is the one that clears the bit. -/
def objectReferenceWriteSlow (src : Oop) : Block Oop := fun rest =>
  .branch (.tryLog src) (.act (.enqueue src) rest) rest

def objectReferenceWritePost (src : Oop) : Block Oop := fun rest =>
  .branch (.isUnlogged src) (objectReferenceWriteSlow src rest) rest

def objectProbableWrite (newObj : Oop) : Block Oop := fun rest =>
  .branch (.isUnlogged newObj) (objectReferenceWriteSlow newObj rest) rest

def memoryRegionCopyPost (dst : List (Slot Oop)) : Block Oop := .act (.recordRange dst)

end ObjectBarrier

/-- `mmtk_array_copy_pre`. -/
def mmtkArrayCopyPre (compressed : Bool) (dst : Slot Oop) (count : Nat) : Block Oop :=
  let bytes := count <<< logBytesInSlot compressed
  SATBBarrier.memoryRegionCopyPre (regionSlots compressed dst bytes)

/-- `mmtk_array_copy_post`. -/
def mmtkArrayCopyPost (compressed : Bool) (dst : Slot Oop) (count : Nat) : Block Oop :=
  let bytes := count <<< logBytesInSlot compressed
  ObjectBarrier.memoryRegionCopyPost (regionSlots compressed dst bytes)

/-- With the fast path the runtime tests the unlog bit itself and calls the slow
path; without it, the full barrier does. -/
def mmtkSATBBarrierSetRuntime (fields : Oop → List Nat) (compressed enableBarrierFastpath : Bool) :
    MMTkBarrierSetRuntime Oop where
  objectReferenceWritePre src _ _ := fun rest =>
    if enableBarrierFastpath then
      .branch (.isUnlogged src) (SATBBarrier.objectReferenceWriteSlow fields src rest) rest
    else SATBBarrier.objectReferenceWritePre fields src rest
  objectReferenceArrayCopyPre _ dst count := fun rest =>
    if count = 0 then rest else mmtkArrayCopyPre compressed dst count rest

def mmtkObjectBarrierSetRuntime (compressed enableBarrierFastpath : Bool) : MMTkBarrierSetRuntime Oop where
  objectReferenceWritePost src _ _ := fun rest =>
    if enableBarrierFastpath then
      .branch (.isUnlogged src) (ObjectBarrier.objectReferenceWriteSlow src rest) rest
    else ObjectBarrier.objectReferenceWritePost src rest
  objectReferenceArrayCopyPost _ dst count := mmtkArrayCopyPost compressed dst count
  objectProbableWrite newObj := fun rest =>
    if enableBarrierFastpath then
      .branch (.isUnlogged newObj) (ObjectBarrier.objectProbableWrite newObj rest) rest
    else ObjectBarrier.objectProbableWrite newObj rest

/-- What C2 knows about a store: the value is the constant null, the destination
is the object just allocated, its offset is unknown, it comes from an allocation,
the control is the end of an initialization, of the same allocation. -/
structure StoreNode where
  valIsConstNull : Bool
  srcIsJustAllocated : Bool
  offsetIsBot : Bool
  hasAlloc : Bool
  controlIsInitialize : Bool
  initializesAlloc : Bool

/-- `MMTkBarrierSetC2::can_remove_barrier`. -/
def canRemoveBarrier (enableAllocationFastpath : Bool) (node : StoreNode) (skipConstNull : Bool) : Bool :=
  if skipConstNull && node.valIsConstNull then true
  else if !enableAllocationFastpath then false
  else if node.srcIsJustAllocated then true
  else if node.offsetIsBot then false
  else if !node.hasAlloc then false
  else if node.controlIsInitialize then node.initializesAlloc
  else false

/-- C2's facts hold when the store runs. -/
structure StoreNode.Holds (node : StoreNode) (memory : Memory Oop) (base : Oop) (value : Option Oop) : Prop where
  constNull : node.valIsConstNull = true → value = none
  justAllocated : node.srcIsJustAllocated = true → memory.fresh base = true
  initialized : node.hasAlloc = true → node.controlIsInitialize = true → node.initializesAlloc = true →
    memory.fresh base = true

/-- A barrier is left out for a null value or a fresh destination only. -/
theorem fresh_of_canRemoveBarrier {node : StoreNode} {memory : Memory Oop} {base : Oop} {value : Option Oop}
    {enableAllocationFastpath skipConstNull : Bool} (holds : node.Holds memory base value)
    (removed : canRemoveBarrier enableAllocationFastpath node skipConstNull = true) :
    (skipConstNull = true ∧ value = none) ∨ memory.fresh base = true := by
  obtain ⟨constNull, justAllocated, initialized⟩ := holds
  unfold canRemoveBarrier at removed
  by_cases null : (skipConstNull && node.valIsConstNull) = true
  · rw [Bool.and_eq_true] at null
    exact .inl ⟨null.1, constNull null.2⟩
  · right
    rw [if_neg null] at removed
    by_cases just : node.srcIsJustAllocated = true
    · exact justAllocated just
    · cases fast : enableAllocationFastpath <;> cases bottom : node.offsetIsBot <;>
        cases alloc : node.hasAlloc <;> cases init : node.controlIsInitialize <;>
        simp_all

end MmtkOpenJDK.Barriers
