import Mathlib.Data.Fintype.Basic
import MmtkOpenJDK.Barriers.Runtimes

/-! Mutator threads that access the heap through the barrier set. Every access is
interleaved with the others step by step. -/

namespace MmtkOpenJDK.Barriers

open MmtkOpenJDK.Foundation

/-- The barrier set in use, and what its plan promises: which objects are cloned
into, and with which unlog bit a new object comes. -/
structure Config (Oop : Type) where
  runtime : MMTkBarrierSetRuntime Oop
  fields : Oop → List Nat
  compressed : Bool
  enableAllocationFastpath : Bool
  skipConstNull : Bool
  mayClone : Memory Oop → Oop → Bool
  mayAllocate : Space → Bool → Bool

/-- The accesses of `AccessBarrier`, the exit hook of slow-path allocations, and
stores compiled by C2. -/
inductive Operation (Oop : Type) where
  | store (base : Oop) (offset : Nat) (value : Option Oop)
  | cmpxchg (newValue : Option Oop) (base : Oop) (offset : Nat) (compareValue : Option Oop)
  | xchg (newValue : Option Oop) (base : Oop) (offset : Nat)
  | arraycopy (srcObj : Option Oop) (srcOffsetInBytes : Nat) (srcRaw : Slot Oop) (dstObj : Option Oop)
      (dstOffsetInBytes : Nat) (dstRaw : Slot Oop) (length : Nat) (copied : List (Nat × Option Oop))
  | clone (src dst : Oop) (copied : List (Nat × Option Oop))
  | slowpathAllocationExit (newObj : Oop)
  | c2Store (base : Oop) (offset : Nat) (value : Option Oop) (node : StoreNode)

variable {Oop Thread : Type}

def Operation.code (config : Config Oop) : Operation Oop → BarrierCode Oop
  | .store base offset value => AccessBarrier.oopStoreInHeapAt config.runtime base offset value
  | .cmpxchg newValue base offset compareValue =>
    AccessBarrier.oopAtomicCmpxchgInHeapAt config.runtime newValue base offset compareValue
  | .xchg newValue base offset => AccessBarrier.oopAtomicXchgInHeapAt config.runtime newValue base offset
  | .arraycopy srcObj srcOffsetInBytes srcRaw dstObj dstOffsetInBytes dstRaw length copied =>
    AccessBarrier.oopArraycopyInHeap config.runtime config.compressed srcObj srcOffsetInBytes srcRaw
      dstObj dstOffsetInBytes dstRaw length copied
  | .clone _ dst copied => AccessBarrier.cloneInHeap dst copied
  | .slowpathAllocationExit newObj => onSlowpathAllocationExit config.runtime newObj
  | .c2Store base offset value node =>
    if canRemoveBarrier config.enableAllocationFastpath node config.skipConstNull then
      .act (.store ⟨base, offset⟩ value) .done
    else AccessBarrier.oopStoreInHeapAt config.runtime base offset value

def Memory.Allocated (memory : Memory Oop) (object : Oop) : Prop := memory.space object ≠ .unallocated

instance (memory : Memory Oop) (object : Oop) : Decidable (memory.Allocated object) :=
  inferInstanceAs (Decidable (_ ≠ _))

/-- A reference that can be stored: null or an allocated object. -/
def Memory.Live (memory : Memory Oop) (value : Option Oop) : Prop :=
  ∀ object, value = some object → memory.Allocated object

/-- What HotSpot promises of an access: it is to a reference field of an allocated
object, an array copy stays inside its destination range, and C2 is right about
what it knows. -/
def Operation.Valid (config : Config Oop) (memory : Memory Oop) : Operation Oop → Prop
  | .store base offset value =>
    memory.Allocated base ∧ offset ∈ config.fields base ∧ memory.Live value
  | .cmpxchg newValue base offset _ =>
    memory.Allocated base ∧ offset ∈ config.fields base ∧ memory.Live newValue
  | .xchg newValue base offset =>
    memory.Allocated base ∧ offset ∈ config.fields base ∧ memory.Live newValue
  | .arraycopy _ _ _ dstObj dstOffsetInBytes dstRaw length copied =>
    memory.Allocated (objOffsetToRaw dstObj dstOffsetInBytes dstRaw).base ∧
      ∀ element ∈ copied, element.1 < length ∧ memory.Live element.2
  | .clone _ dst copied =>
    config.mayClone memory dst = true ∧ ∀ field ∈ copied, memory.Live field.2
  | .slowpathAllocationExit newObj => memory.new newObj = true
  | .c2Store base offset value node =>
    memory.Allocated base ∧ offset ∈ config.fields base ∧ memory.Live value ∧ node.Holds memory base value

structure State (Oop Thread : Type) where
  memory : Memory Oop
  codes : Thread → BarrierCode Oop

inductive Event (Oop Thread : Type) where
  | start (thread : Thread) (operation : Operation Oop)
  | step (thread : Thread)
  | allocate (newObj : Oop) (space : Space) (unlogged : Bool)
  | safepoint

def enabled (config : Config Oop) (state : State Oop Thread) : Event Oop Thread → Prop
  | .start thread operation =>
    (state.codes thread).isDone = true ∧ operation.Valid config state.memory
  | .step thread => (state.codes thread).isDone = false
  | .allocate newObj space unlogged =>
    state.memory.space newObj = .unallocated ∧ space ≠ .unallocated ∧
      config.mayAllocate space unlogged = true
  | .safepoint => ∀ thread, (state.codes thread).isDone = true

section Next

variable [DecidableEq Oop] [DecidableEq Thread]

/-- A new object has null fields. One that was promoted before its allocating
thread continues has seen a safepoint. -/
def Memory.allocate (memory : Memory Oop) (newObj : Oop) (space : Space) (unlogged : Bool) : Memory Oop :=
  { memory with
    slots := fun slot => if slot.base = newObj then none else memory.slots slot
    unlogged := Function.update memory.unlogged newObj unlogged
    space := Function.update memory.space newObj space
    new := Function.update memory.new newObj true
    fresh := Function.update memory.fresh newObj (space = .nursery) }

def next (config : Config Oop) (state : State Oop Thread) : Event Oop Thread → State Oop Thread
  | .start thread operation =>
    { state with codes := Function.update state.codes thread (operation.code config) }
  | .step thread =>
    let result := (machine Oop).step state.memory (state.codes thread)
    { memory := result.1, codes := Function.update state.codes thread result.2 }
  | .allocate newObj space unlogged =>
    { state with memory := state.memory.allocate newObj space unlogged }
  | .safepoint => { state with memory := { state.memory with fresh := fun _ => false } }

/-- The system of mutators, from the states described by `initial`. -/
def mutatorSystem (config : Config Oop) (initial : Memory Oop → Prop) :
    System (State Oop Thread) (Event Oop Thread) where
  initial state := initial state.memory ∧ (∀ thread, (state.codes thread).isDone = true) ∧
    (∀ object, state.memory.new object = false) ∧ ∀ object, state.memory.fresh object = false
  enabled := enabled config
  next := next config

end Next

end MmtkOpenJDK.Barriers
