import Mathlib.Algebra.Group.Nat.Defs
import MmtkOpenJDK.Foundation.Interleaving
import MmtkOpenJDK.Foundation.TransitionSystem

/-! `MMTkBarrierSet::AccessBarrier` and the runtimes behind it. An access is a
sequence of atomic steps: the runtime's barrier before it, the raw access, and
the barrier after it. -/

namespace MmtkOpenJDK.Barriers

open MmtkOpenJDK.Foundation

/-- A slot is named by the object it belongs to and its offset in bytes. -/
structure Slot (Oop : Type) where
  base : Oop
  offset : Nat
  deriving DecidableEq

inductive Space where
  | unallocated
  | nursery
  | mature
  deriving DecidableEq

/-- What the barriers read and write. `recorded` holds the values recorded for the
snapshot, `logged` the objects in the modified-object buffers, `ranges` the slots
of the regions recorded after array copies. An object allocated in the run is
`new`; it is `fresh` from its allocation, or from the end of the slow path's exit
hook, to the next safepoint. -/
structure Memory (Oop : Type) where
  slots : Slot Oop → Option Oop
  unlogged : Oop → Bool
  space : Oop → Space
  new : Oop → Bool
  fresh : Oop → Bool
  recorded : List Oop
  logged : List Oop
  ranges : List (Slot Oop)

/-- The unlog bit is tested alone, or tested and cleared at once. -/
inductive Test (Oop : Type) where
  | isUnlogged (src : Oop)
  | tryLog (src : Oop)

inductive Action (Oop : Type) where
  | store (slot : Slot Oop) (value : Option Oop)
  | cmpxchg (slot : Slot Oop) (newValue compareValue : Option Oop)
  | record (slot : Slot Oop)
  | clearUnlog (src : Oop)
  | enqueue (src : Oop)
  | recordRange (slots : List (Slot Oop))
  | exitAllocation (newObj : Oop)

variable {Oop : Type} [DecidableEq Oop]

def Memory.write (memory : Memory Oop) (slot : Slot Oop) (value : Option Oop) : Memory Oop :=
  { memory with slots := Function.update memory.slots slot value }

def Memory.clear (memory : Memory Oop) (src : Oop) : Memory Oop :=
  { memory with unlogged := Function.update memory.unlogged src false }

def Memory.test (memory : Memory Oop) : Test Oop → Bool × Memory Oop
  | .isUnlogged src => (memory.unlogged src, memory)
  | .tryLog src => (memory.unlogged src, memory.clear src)

def Memory.apply (memory : Memory Oop) : Action Oop → Memory Oop
  | .store slot value => memory.write slot value
  | .cmpxchg slot newValue compareValue =>
    if memory.slots slot = compareValue then memory.write slot newValue else memory
  | .record slot => { memory with recorded := (memory.slots slot).toList ++ memory.recorded }
  | .clearUnlog src => memory.clear src
  | .enqueue src => { memory with logged := src :: memory.logged }
  | .recordRange slots => { memory with ranges := slots ++ memory.ranges }
  | .exitAllocation newObj => { memory with fresh := Function.update memory.fresh newObj true }

def machine (Oop : Type) [DecidableEq Oop] : Machine (Memory Oop) (Test Oop) (Action Oop) where
  test := Memory.test
  apply := Memory.apply

abbrev BarrierCode (Oop : Type) := Code (Test Oop) (Action Oop)

/-- A piece of code, given what comes after it. -/
abbrev Block (Oop : Type) := BarrierCode Oop → BarrierCode Oop

/-- The virtual methods of the runtime, which do nothing unless overridden. -/
structure MMTkBarrierSetRuntime (Oop : Type) where
  objectReferenceWritePre (src : Oop) (slot : Slot Oop) (target : Option Oop) : Block Oop := id
  objectReferenceWritePost (src : Oop) (slot : Slot Oop) (target : Option Oop) : Block Oop := id
  objectReferenceArrayCopyPre (src dst : Slot Oop) (count : Nat) : Block Oop := id
  objectReferenceArrayCopyPost (src dst : Slot Oop) (count : Nat) : Block Oop := id
  objectProbableWrite (newObj : Oop) : Block Oop := id

section Geometry

def logBytesInSlot (compressed : Bool) : Nat := if compressed then 2 else 3

omit [DecidableEq Oop] in
def Slot.advance (slot : Slot Oop) (bytes : Nat) : Slot Oop := ⟨slot.base, slot.offset + bytes⟩

/-- The slot of the array element with the given index. -/
def Slot.element (compressed : Bool) (dst : Slot Oop) (index : Nat) : Slot Oop :=
  dst.advance (index * 2 ^ logBytesInSlot compressed)

/-- The slots of a memory region. -/
def regionSlots (compressed : Bool) (start : Slot Oop) (bytes : Nat) : List (Slot Oop) :=
  (List.range (bytes / 2 ^ logBytesInSlot compressed)).map (start.element compressed)

/-- `arrayOopDesc::obj_offset_to_raw`. -/
def objOffsetToRaw (obj : Option Oop) (offsetInBytes : Nat) (raw : Slot Oop) : Slot Oop :=
  match obj with
  | some obj => ⟨obj, offsetInBytes⟩
  | none => raw

omit [DecidableEq Oop] in
theorem mem_regionSlots {compressed : Bool} {start slot : Slot Oop} {count : Nat} :
    slot ∈ regionSlots compressed start (count <<< logBytesInSlot compressed) ↔
      ∃ index < count, slot = start.element compressed index := by
  have whole : count <<< logBytesInSlot compressed / 2 ^ logBytesInSlot compressed = count := by
    rw [Nat.shiftLeft_eq]
    exact Nat.mul_div_cancel _ (Nat.two_pow_pos _)
  simp [regionSlots, whole, eq_comm]

end Geometry

namespace AccessBarrier

variable (runtime : MMTkBarrierSetRuntime Oop)

def oopStoreInHeapAt (base : Oop) (offset : Nat) (value : Option Oop) : BarrierCode Oop :=
  runtime.objectReferenceWritePre base ⟨base, offset⟩ value <|
    .act (.store ⟨base, offset⟩ value) <|
      runtime.objectReferenceWritePost base ⟨base, offset⟩ value .done

def oopAtomicCmpxchgInHeapAt (newValue : Option Oop) (base : Oop) (offset : Nat)
    (compareValue : Option Oop) : BarrierCode Oop :=
  runtime.objectReferenceWritePre base ⟨base, offset⟩ newValue <|
    .act (.cmpxchg ⟨base, offset⟩ newValue compareValue) <|
      runtime.objectReferenceWritePost base ⟨base, offset⟩ newValue .done

def oopAtomicXchgInHeapAt (newValue : Option Oop) (base : Oop) (offset : Nat) : BarrierCode Oop :=
  runtime.objectReferenceWritePre base ⟨base, offset⟩ newValue <|
    .act (.store ⟨base, offset⟩ newValue) <|
      runtime.objectReferenceWritePost base ⟨base, offset⟩ newValue .done

/-- `Raw::oop_arraycopy` stores the elements in an order of its own and may stop
early; `copied` lists its stores, by element index. -/
def oopArraycopyInHeap (compressed : Bool) (srcObj : Option Oop) (srcOffsetInBytes : Nat) (srcRaw : Slot Oop)
    (dstObj : Option Oop) (dstOffsetInBytes : Nat) (dstRaw : Slot Oop) (length : Nat)
    (copied : List (Nat × Option Oop)) : BarrierCode Oop :=
  let src := objOffsetToRaw srcObj srcOffsetInBytes srcRaw
  let dst := objOffsetToRaw dstObj dstOffsetInBytes dstRaw
  runtime.objectReferenceArrayCopyPre src dst length <|
    .acts (copied.map fun element => .store (dst.element compressed element.1) element.2) <|
      runtime.objectReferenceArrayCopyPost src dst length .done

/-- `Raw::clone` without any barrier; `copied` lists its stores of references. -/
def cloneInHeap (dst : Oop) (copied : List (Nat × Option Oop)) : BarrierCode Oop :=
  .acts (copied.map fun field => .store ⟨dst, field.1⟩ field.2) .done

end AccessBarrier

/-- The exit hook of the slow path, after which the thread goes on with the object. -/
def onSlowpathAllocationExit (runtime : MMTkBarrierSetRuntime Oop) (newObj : Oop) : BarrierCode Oop :=
  runtime.objectProbableWrite newObj (.act (.exitAllocation newObj) .done)

end MmtkOpenJDK.Barriers
