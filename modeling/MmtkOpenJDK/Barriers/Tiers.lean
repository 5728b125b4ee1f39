import MmtkOpenJDK.Barriers.ObjectBarrierInvariant
import MmtkOpenJDK.Barriers.SATBInvariant
import MmtkOpenJDK.Foundation.X86
import MmtkOpenJDK.ObjectModel.Abi

/-! Accesses that the interpreter, C1, C2 and the array-copy stubs emit code for. Each tier
puts its own barriers around the raw access and has its own reasons to leave them out, and
a stub has to carry the arguments of its barrier past the copy. -/

namespace MmtkOpenJDK.Barriers

open MmtkOpenJDK.Foundation MmtkOpenJDK.ObjectModel X86

/-- The decorators that the barriers of the tiers look at. -/
structure Decorators where
  inHeap : Bool
  needsPatching : Bool
  arraycopyCheckcast : Bool
  arraycopyDisjoint : Bool
  isDestUninitialized : Bool

/-- The access between two barriers. -/
inductive RawAccess (Oop : Type) where
  | store (value : Option Oop)
  | cmpxchg (newValue compareValue : Option Oop)
  | xchg (newValue : Option Oop)

variable {Oop Thread : Type}

namespace RawAccess

def newValue : RawAccess Oop → Option Oop
  | .store value => value
  | .cmpxchg newValue _ => newValue
  | .xchg newValue => newValue

def action (slot : Slot Oop) : RawAccess Oop → Action Oop
  | .store value => .store slot value
  | .cmpxchg newValue compareValue => .cmpxchg slot newValue compareValue
  | .xchg newValue => .store slot newValue

/-- Only an access to a reference in the heap changes a slot. -/
def block (reference : Bool) (slot : Slot Oop) (raw : RawAccess Oop) : Block Oop := fun rest =>
  if reference then .act (raw.action slot) rest else rest

end RawAccess

/-- The barriers around an access are for references. -/
def substituted (isOop : Bool) (pre raw post : Block Oop) : BarrierCode Oop :=
  if isOop then pre (raw (post .done)) else raw .done

def isReferenceType (type : BasicType) : Bool := type == .object || type == .array

section Interpreter

/-- The register of the stored value: there is none for the constant null. -/
inductive ValueRegister (Oop : Type) where
  | noreg
  | holding (value : Option Oop)

def ValueRegister.value : ValueRegister Oop → Option Oop
  | .noreg => none
  | .holding value => value

def ValueRegister.isNoreg : ValueRegister Oop → Bool
  | .noreg => true
  | .holding _ => false

/-- What a register of an array-copy stub holds. -/
inductive Word (Oop : Type) where
  | pointer (slot : Slot Oop)
  | number (value : Nat)

/-- The registers that an array-copy barrier is emitted with. The moves of the arguments
overwrite none that is still needed. -/
structure ArrayCopyRegisters where
  src : Reg
  dst : Reg
  count : Reg
  dstKept : dst ≠ .rdi
  countKept : count ≠ .rdi ∧ count ≠ .rsi

/-- The virtual methods of the assembler. An array-copy prologue may save registers. -/
structure MMTkBarrierSetAssembler (Oop : Type) where
  objectReferenceWritePre (decorators : Decorators) (dst : Slot Oop) (val : ValueRegister Oop) : Block Oop := id
  objectReferenceWritePost (decorators : Decorators) (dst : Slot Oop) (val : ValueRegister Oop) : Block Oop := id
  arraycopyPrologue (decorators : Decorators) (type : BasicType) (operands : ArrayCopyRegisters)
    (regs : Reg → Word Oop) : (Reg → Word Oop) × Block Oop := (regs, id)
  arraycopyEpilogue (decorators : Decorators) (type : BasicType) (operands : ArrayCopyRegisters)
    (regs : Reg → Word Oop) : Block Oop := id

/-- `MMTkBarrierSetAssembler::can_remove_barrier`. -/
def Decorators.canRemoveBarrier (decorators : Decorators) (val : ValueRegister Oop) (skipConstNull : Bool) : Bool :=
  !decorators.inHeap || (skipConstNull && val.isNoreg)

def MMTkBarrierSetAssembler.storeAt (assembler : MMTkBarrierSetAssembler Oop) (decorators : Decorators)
    (type : BasicType) (dst : Slot Oop) (val : ValueRegister Oop) : BarrierCode Oop :=
  substituted (isReferenceType type) (assembler.objectReferenceWritePre decorators dst val)
    (RawAccess.block (isReferenceType type && decorators.inHeap) dst (.store val.value))
    (assembler.objectReferenceWritePost decorators dst val)

/-- The moves of the operands to `c_rarg0`, `c_rarg1` and `c_rarg2`, one after the other. -/
def ArrayCopyRegisters.passArguments (operands : ArrayCopyRegisters) (regs : Reg → Word Oop) : Reg → Word Oop :=
  let regs := Function.update regs .rdi (regs operands.src)
  let regs := Function.update regs .rsi (regs operands.dst)
  Function.update regs .rdx (regs operands.count)

/-- A call of an array-copy barrier with its arguments in registers. mmtk-core does not
look at the source. -/
def callArrayCopy (barrier : Slot Oop → Nat → Block Oop) (regs : Reg → Word Oop) : Block Oop :=
  match regs .rsi, regs .rdx with
  | .pointer dst, .number count => barrier dst count
  | _, _ => id

end Interpreter

section Compilers

/-- `LIRAccess`, with its base and offset resolved. -/
structure LIRAccess (Oop : Type) where
  base : Oop
  offset : Nat
  isOop : Bool
  decorators : Decorators

structure MMTkBarrierSetC1 (Oop : Type) where
  objectReferenceWritePre (access : LIRAccess Oop) (newVal : Option Oop) : Block Oop := id
  objectReferenceWritePost (access : LIRAccess Oop) (newVal : Option Oop) : Block Oop := id

namespace MMTkBarrierSetC1

variable (c1 : MMTkBarrierSetC1 Oop) (access : LIRAccess Oop)

def substituting (raw : RawAccess Oop) : BarrierCode Oop :=
  substituted access.isOop (c1.objectReferenceWritePre access raw.newValue)
    (raw.block (access.isOop && access.decorators.inHeap) ⟨access.base, access.offset⟩)
    (c1.objectReferenceWritePost access raw.newValue)

def storeAtResolved (value : Option Oop) : BarrierCode Oop := c1.substituting access (.store value)

def atomicCmpxchgAtResolved (cmpValue newValue : Option Oop) : BarrierCode Oop :=
  c1.substituting access (.cmpxchg newValue cmpValue)

def atomicXchgAtResolved (value : Option Oop) : BarrierCode Oop := c1.substituting access (.xchg value)

end MMTkBarrierSetC1

/-- `C2Access`, with what C2 knows about the store. Its references are in the heap. -/
structure C2Access (Oop : Type) where
  base : Oop
  offset : Nat
  isOop : Bool
  node : StoreNode

structure MMTkBarrierSetC2 (Oop : Type) where
  objectReferenceWritePre (access : C2Access Oop) (val : Option Oop) : Block Oop := id
  objectReferenceWritePost (access : C2Access Oop) (val : Option Oop) : Block Oop := id

namespace MMTkBarrierSetC2

variable (c2 : MMTkBarrierSetC2 Oop) (access : C2Access Oop)

def substituting (raw : RawAccess Oop) : BarrierCode Oop :=
  substituted access.isOop (c2.objectReferenceWritePre access raw.newValue)
    (raw.block access.isOop ⟨access.base, access.offset⟩) (c2.objectReferenceWritePost access raw.newValue)

def storeAtResolved (val : Option Oop) : BarrierCode Oop := c2.substituting access (.store val)

def atomicCmpxchgValAtResolved (expectedVal newVal : Option Oop) : BarrierCode Oop :=
  c2.substituting access (.cmpxchg newVal expectedVal)

def atomicCmpxchgBoolAtResolved (expectedVal newVal : Option Oop) : BarrierCode Oop :=
  c2.substituting access (.cmpxchg newVal expectedVal)

def atomicXchgAtResolved (newVal : Option Oop) : BarrierCode Oop := c2.substituting access (.xchg newVal)

end MMTkBarrierSetC2

end Compilers

/-- The inlined test of the unlog bit before a call of the slow path, or a call of the full
barrier. -/
def unlogTested (enableBarrierFastpath : Bool) (src : Oop) (slow full : Block Oop) : Block Oop := fun rest =>
  if enableBarrierFastpath then .branch (.isUnlogged src) (slow rest) rest else full rest

section SATB

variable (fields : Oop → List Nat) (compressed enableBarrierFastpath enableAllocationFastpath : Bool)

def satbWritePre (src : Oop) : Block Oop :=
  unlogTested enableBarrierFastpath src (SATBBarrier.objectReferenceWriteSlow fields src)
    (SATBBarrier.objectReferenceWritePre fields src)

def mmtkSATBBarrierSetAssembler : MMTkBarrierSetAssembler Oop where
  objectReferenceWritePre decorators dst val :=
    if decorators.canRemoveBarrier val false then id else satbWritePre fields enableBarrierFastpath dst.base
  arraycopyPrologue _ type operands regs :=
    if isReferenceType type then
      match regs operands.count with
      | .number 0 => (regs, id)
      | _ => (regs, callArrayCopy (mmtkArrayCopyPre compressed) (operands.passArguments regs))
    else (regs, id)

/-- Code that still has to be patched has no slot address to start from and goes to the
slow path without a test. -/
def mmtkSATBBarrierSetC1 : MMTkBarrierSetC1 Oop where
  objectReferenceWritePre access _ :=
    if !access.decorators.inHeap then id
    else if enableBarrierFastpath && access.decorators.needsPatching then
      SATBBarrier.objectReferenceWriteSlow fields access.base
    else satbWritePre fields enableBarrierFastpath access.base

def mmtkSATBBarrierSetC2 : MMTkBarrierSetC2 Oop where
  objectReferenceWritePre access _ :=
    if canRemoveBarrier enableAllocationFastpath access.node false then id
    else satbWritePre fields enableBarrierFastpath access.base

end SATB

section ObjectBarrier

variable (compressed enableBarrierFastpath enableAllocationFastpath : Bool)

def objectWritePost (src : Oop) : Block Oop :=
  unlogTested enableBarrierFastpath src (ObjectBarrier.objectReferenceWriteSlow src)
    (ObjectBarrier.objectReferenceWritePost src)

/-- Compressed elements of a `T_OBJECT` array are copied as `int`s. -/
def isObjInt (type : BasicType) : Bool := type == .object && compressed

/-- The array copy overwrites the count, or the destination if it is disjoint and copies
`int`s, so that one is saved in `r11`. -/
def mmtkObjectBarrierSetAssembler : MMTkBarrierSetAssembler Oop where
  objectReferenceWritePost decorators dst val :=
    if decorators.canRemoveBarrier val true then id else objectWritePost enableBarrierFastpath dst.base
  arraycopyPrologue decorators type operands regs :=
    if isReferenceType type then
      if !decorators.arraycopyCheckcast then
        if !isObjInt compressed type then (Function.update regs .r11 (regs operands.count), id)
        else if decorators.arraycopyDisjoint then (Function.update regs .r11 (regs operands.dst), id)
        else (regs, id)
      else (regs, id)
    else (regs, id)
  arraycopyEpilogue decorators type operands regs :=
    if isReferenceType type && !decorators.isDestUninitialized then
      let operands : ArrayCopyRegisters :=
        if !decorators.arraycopyCheckcast then
          if !isObjInt compressed type then { operands with count := .r11, countKept := by decide }
          else if decorators.arraycopyDisjoint then { operands with dst := .r11, dstKept := by decide }
          else operands
        else operands
      callArrayCopy (mmtkArrayCopyPost compressed) (operands.passArguments regs)
    else id

def mmtkObjectBarrierSetC1 : MMTkBarrierSetC1 Oop where
  objectReferenceWritePost access _ :=
    if !access.decorators.inHeap then id else objectWritePost enableBarrierFastpath access.base

def mmtkObjectBarrierSetC2 : MMTkBarrierSetC2 Oop where
  objectReferenceWritePost access _ :=
    if canRemoveBarrier enableAllocationFastpath access.node true then id
    else objectWritePost enableBarrierFastpath access.base

end ObjectBarrier

/-- A run of an array-copy stub, which is HotSpot's: the operands of its prologue and of its
epilogue, the registers before it and what the copy makes of them, the references it stores
by element index, and how many elements it reports. A checkcast copy reports those before
the first that fails the check. -/
structure ArrayCopyStub (Oop : Type) where
  decorators : Decorators
  type : BasicType
  entry : ArrayCopyRegisters
  exit : ArrayCopyRegisters
  regs : Reg → Word Oop
  clobber : (Reg → Word Oop) → Reg → Word Oop
  src : Slot Oop
  dst : Slot Oop
  count : Nat
  copied : List (Nat × Option Oop)
  reported : Nat

def ArrayCopyStub.code (compressed : Bool) (assembler : MMTkBarrierSetAssembler Oop) (stub : ArrayCopyStub Oop) :
    BarrierCode Oop :=
  let prologue := assembler.arraycopyPrologue stub.decorators stub.type stub.entry stub.regs
  prologue.2 <|
    .acts (stub.copied.map fun element => .store (stub.dst.element compressed element.1) element.2) <|
      assembler.arraycopyEpilogue stub.decorators stub.type stub.exit (stub.clobber prologue.1) .done

/-- The operands are where the prologue was told to find them, which is where the copy goes
on to look for them. -/
structure ArrayCopyStub.Operands (stub : ArrayCopyStub Oop) (regs : Reg → Word Oop) : Prop where
  src : regs stub.entry.src = .pointer stub.src
  dst : regs stub.entry.dst = .pointer stub.dst
  count : regs stub.entry.count = .number stub.count

/-- What HotSpot's stubs promise of a copy that starts with its operands in place: which of
them are then in the registers that the epilogue is told of, that `r11` survives unless
types are checked, and that a destination that is not initialized has just been
allocated. -/
structure ArrayCopyStub.Valid (compressed : Bool) (memory : Memory Oop) (stub : ArrayCopyStub Oop) : Prop where
  operands : stub.Operands stub.regs
  scratch : stub.entry.src ≠ .r11 ∧ stub.entry.dst ≠ .r11 ∧ stub.entry.count ≠ .r11
  saved : stub.decorators.arraycopyCheckcast = false →
    ∀ regs, stub.Operands regs → stub.clobber regs .r11 = regs .r11
  exitDst : stub.decorators.arraycopyCheckcast = true ∨ isObjInt compressed stub.type = false ∨
    stub.decorators.arraycopyDisjoint = false →
      ∀ regs, stub.Operands regs → stub.clobber regs stub.exit.dst = .pointer stub.dst
  exitCount : stub.decorators.arraycopyCheckcast = true ∨ isObjInt compressed stub.type = true →
    ∀ regs, stub.Operands regs → stub.clobber regs stub.exit.count = .number stub.reported
  complete : stub.decorators.arraycopyCheckcast = false → stub.reported = stub.count
  part : stub.reported ≤ stub.count
  copied : ∀ element ∈ stub.copied, element.1 < stub.reported ∧ memory.Live element.2
  references : isReferenceType stub.type = false → stub.copied = []
  allocated : memory.Allocated stub.dst.base
  uninitialized : stub.decorators.isDestUninitialized = true → memory.fresh stub.dst.base = true

/-- A barrier set with the code of all its tiers. -/
structure TierConfig (Oop : Type) extends Config Oop where
  assembler : MMTkBarrierSetAssembler Oop
  c1 : MMTkBarrierSetC1 Oop
  c2 : MMTkBarrierSetC2 Oop

/-- The accesses that the tiers emit code for. -/
inductive TierAccess (Oop : Type) where
  | interpreterStore (decorators : Decorators) (type : BasicType) (dst : Slot Oop) (val : ValueRegister Oop)
  | c1Store (access : LIRAccess Oop) (value : Option Oop)
  | c1Cmpxchg (access : LIRAccess Oop) (cmpValue newValue : Option Oop)
  | c1Xchg (access : LIRAccess Oop) (value : Option Oop)
  | c2Store (access : C2Access Oop) (val : Option Oop)
  | c2CmpxchgVal (access : C2Access Oop) (expectedVal newVal : Option Oop)
  | c2CmpxchgBool (access : C2Access Oop) (expectedVal newVal : Option Oop)
  | c2Xchg (access : C2Access Oop) (newVal : Option Oop)
  | arraycopy (stub : ArrayCopyStub Oop)

def TierAccess.code (config : TierConfig Oop) : TierAccess Oop → BarrierCode Oop
  | .interpreterStore decorators type dst val => config.assembler.storeAt decorators type dst val
  | .c1Store access value => config.c1.storeAtResolved access value
  | .c1Cmpxchg access cmpValue newValue => config.c1.atomicCmpxchgAtResolved access cmpValue newValue
  | .c1Xchg access value => config.c1.atomicXchgAtResolved access value
  | .c2Store access val => config.c2.storeAtResolved access val
  | .c2CmpxchgVal access expectedVal newVal => config.c2.atomicCmpxchgValAtResolved access expectedVal newVal
  | .c2CmpxchgBool access expectedVal newVal => config.c2.atomicCmpxchgBoolAtResolved access expectedVal newVal
  | .c2Xchg access newVal => config.c2.atomicXchgAtResolved access newVal
  | .arraycopy stub => stub.code config.compressed config.assembler

/-- An access to a reference in the heap is to an allocated object and writes a reference
that can be stored. -/
def LIRAccess.Valid (memory : Memory Oop) (access : LIRAccess Oop) (newValue : Option Oop) : Prop :=
  access.isOop = true → access.decorators.inHeap = true → memory.Allocated access.base ∧ memory.Live newValue

def C2Access.Valid (memory : Memory Oop) (access : C2Access Oop) (newValue : Option Oop) : Prop :=
  access.isOop = true →
    memory.Allocated access.base ∧ memory.Live newValue ∧ access.node.Holds memory access.base newValue

def TierAccess.Valid (compressed : Bool) (memory : Memory Oop) : TierAccess Oop → Prop
  | .interpreterStore decorators type dst val => isReferenceType type = true → decorators.inHeap = true →
    memory.Allocated dst.base ∧ memory.Live val.value
  | .c1Store access value => access.Valid memory value
  | .c1Cmpxchg access _ newValue => access.Valid memory newValue
  | .c1Xchg access value => access.Valid memory value
  | .c2Store access val => access.Valid memory val
  | .c2CmpxchgVal access _ newVal => access.Valid memory newVal
  | .c2CmpxchgBool access _ newVal => access.Valid memory newVal
  | .c2Xchg access newVal => access.Valid memory newVal
  | .arraycopy stub => stub.Valid compressed memory

def satbTiers (fields : Oop → List Nat) (compressed enableBarrierFastpath enableAllocationFastpath : Bool) :
    TierConfig Oop where
  toConfig := satbConfig fields compressed enableBarrierFastpath enableAllocationFastpath
  assembler := mmtkSATBBarrierSetAssembler fields compressed enableBarrierFastpath
  c1 := mmtkSATBBarrierSetC1 fields enableBarrierFastpath
  c2 := mmtkSATBBarrierSetC2 fields enableBarrierFastpath enableAllocationFastpath

def objectTiers (fields : Oop → List Nat) (compressed enableBarrierFastpath enableAllocationFastpath : Bool) :
    TierConfig Oop where
  toConfig := objectConfig fields compressed enableBarrierFastpath enableAllocationFastpath
  assembler := mmtkObjectBarrierSetAssembler compressed enableBarrierFastpath
  c1 := mmtkObjectBarrierSetC1 enableBarrierFastpath
  c2 := mmtkObjectBarrierSetC2 enableBarrierFastpath enableAllocationFastpath

/-- Mutators that access the heap through the runtime or in any tier. -/
inductive TierEvent (Oop Thread : Type) where
  | access (thread : Thread) (access : TierAccess Oop)
  | other (event : Event Oop Thread)

section System

variable [DecidableEq Oop] [DecidableEq Thread]

def tierSystem (config : TierConfig Oop) (initial : Memory Oop → Prop) :
    System (State Oop Thread) (TierEvent Oop Thread) where
  initial := (mutatorSystem config.toConfig initial).initial
  enabled state
    | .access thread access => (state.codes thread).isDone = true ∧ access.Valid config.compressed state.memory
    | .other event => enabled config.toConfig state event
  next state
    | .access thread access => { state with codes := Function.update state.codes thread (access.code config) }
    | .other event => next config.toConfig state event

end System

/-- A strong field of the base refers to the object. -/
def Memory.Refers (fields : Oop → List Nat) (memory : Memory Oop) (base object : Oop) : Prop :=
  ∃ offset ∈ fields base, memory.slots ⟨base, offset⟩ = some object

section Substituted

variable {P : BarrierCode Oop → Prop} {isOop reference inHeap : Bool} {pre post : Block Oop} {raw : RawAccess Oop}
  {slot : Slot Oop}

/-- What the code of an access has to satisfy is left to show for references. -/
theorem substituted_of (nothing : P .done) (primitive : isOop = false → reference = false)
    (skipped : isOop = true → reference = false → pre (post .done) = .done)
    (access : isOop = true → reference = true → P (pre (.act (raw.action slot) (post .done)))) :
    P (substituted isOop pre (raw.block reference slot) post) := by
  cases isOop with
  | false =>
    rw [primitive rfl]
    exact nothing
  | true =>
    cases reference with
    | false =>
      change P (pre (post .done))
      rw [skipped rfl rfl]
      exact nothing
    | true => exact access rfl rfl

/-- Off the heap the barriers have to be left out. -/
theorem substituted_of_inHeap (nothing : P .done) (skipped : inHeap = false → pre (post .done) = .done)
    (access : isOop = true → inHeap = true → P (pre (.act (raw.action slot) (post .done)))) :
    P (substituted isOop pre (raw.block (isOop && inHeap) slot) post) := by
  refine substituted_of nothing ?_ ?_ ?_
  · intro primitive
    rw [primitive, Bool.false_and]
  · intro isOop offHeap
    rw [isOop, Bool.true_and] at offHeap
    exact skipped offHeap
  · intro isOop reference
    rw [isOop, Bool.true_and] at reference
    exact access isOop reference

end Substituted

section SATBCode

variable {fields : Oop → List Nat} {origin memory : Memory Oop} {known : Slot Oop → Prop} {rest : BarrierCode Oop}
  {slot : Slot Oop}

/-- Behind the barrier of its object a slot may be written. -/
theorem covered_satbWritePre (enableBarrierFastpath : Bool) (slot : Slot Oop) (raw : RawAccess Oop) :
    Covered fields origin known
      (satbWritePre fields enableBarrierFastpath slot.base (.act (raw.action slot) .done)) := by
  refine covered_pre true enableBarrierFastpath slot.base slot none ?_
  cases raw <;> exact ⟨fun tracked => .inl ⟨rfl, tracked.2⟩, trivial⟩

theorem covered_satbWriteSlow (slot : Slot Oop) (raw : RawAccess Oop) :
    Covered fields origin known
      (SATBBarrier.objectReferenceWriteSlow fields slot.base (.act (raw.action slot) .done)) :=
  (covered_satbWritePre true slot raw).1

theorem covered_untracked (untracked : ¬ Tracked fields origin slot) (raw : RawAccess Oop) :
    Covered fields origin known (.act (raw.action slot) .done) := by
  cases raw <;> exact ⟨fun tracked => absurd tracked untracked, trivial⟩

/-- The arguments of an array-copy barrier are what the operands hold. -/
theorem callArrayCopy_passArguments {operands : ArrayCopyRegisters} {regs : Reg → Word Oop} {dst : Slot Oop}
    {count : Nat} (barrier : Slot Oop → Nat → Block Oop) (holdsDst : regs operands.dst = .pointer dst)
    (holdsCount : regs operands.count = .number count) :
    callArrayCopy barrier (operands.passArguments regs) = barrier dst count := by
  have second : operands.passArguments regs .rsi = .pointer dst := by
    simp [ArrayCopyRegisters.passArguments, operands.dstKept, holdsDst]
  have third : operands.passArguments regs .rdx = .number count := by
    simp [ArrayCopyRegisters.passArguments, operands.countKept, holdsCount]
  rw [callArrayCopy, second, third]

variable {compressed enableBarrierFastpath enableAllocationFastpath : Bool}

theorem securedCode_c1 (access : LIRAccess Oop) (raw : RawAccess Oop) :
    SecuredCode fields origin memory ((mmtkSATBBarrierSetC1 fields enableBarrierFastpath).substituting access raw) := by
  refine substituted_of_inHeap securedCode_done ?_ ?_
  · intro offHeap
    simp [mmtkSATBBarrierSetC1, offHeap]
  · intro _ inHeap
    refine Covered.securedCode ?_
    simp only [mmtkSATBBarrierSetC1, inHeap, Bool.not_true, Bool.false_eq_true, ↓reduceIte]
    split
    · exact covered_satbWriteSlow ⟨access.base, access.offset⟩ raw
    · exact covered_satbWritePre enableBarrierFastpath ⟨access.base, access.offset⟩ raw

theorem Snapshot.securedCode_c2 (valid : Snapshot fields origin memory) {access : C2Access Oop} {raw : RawAccess Oop}
    (promised : access.Valid memory raw.newValue) :
    SecuredCode fields origin memory
      ((mmtkSATBBarrierSetC2 fields enableBarrierFastpath enableAllocationFastpath).substituting access raw) := by
  refine substituted_of securedCode_done id (fun isOop other => by simp [isOop] at other) ?_
  intro isOop _
  refine Covered.securedCode ?_
  by_cases removed : canRemoveBarrier enableAllocationFastpath access.node false = true
  · have fresh : memory.fresh access.base = true := by
      simpa using fresh_of_canRemoveBarrier (promised isOop).2.2 removed
    simp only [mmtkSATBBarrierSetC2, removed, ↓reduceIte]
    exact covered_untracked (fun tracked => valid.fresh access.base fresh tracked.1) raw
  · simp only [mmtkSATBBarrierSetC2, removed, Bool.false_eq_true, ↓reduceIte]
    exact covered_satbWritePre enableBarrierFastpath ⟨access.base, access.offset⟩ raw

/-- The prologue of a stub is the barrier of the runtime. -/
theorem arraycopyPrologue_satb {stub : ArrayCopyStub Oop} (promised : stub.Valid compressed memory)
    (reference : isReferenceType stub.type = true) :
    ((mmtkSATBBarrierSetAssembler fields compressed enableBarrierFastpath).arraycopyPrologue stub.decorators stub.type
      stub.entry stub.regs).2 = (mmtkSATBBarrierSetRuntime fields compressed
        enableBarrierFastpath).objectReferenceArrayCopyPre stub.dst stub.dst stub.count := by
  have holdsCount := promised.operands.count
  have call := callArrayCopy_passArguments (mmtkArrayCopyPre compressed) promised.operands.dst holdsCount
  cases count : stub.count with
  | zero =>
    simp only [mmtkSATBBarrierSetAssembler, reference, holdsCount, count, mmtkSATBBarrierSetRuntime]
    rfl
  | succ count =>
    simp only [mmtkSATBBarrierSetAssembler, reference, holdsCount, count, mmtkSATBBarrierSetRuntime]
    simpa [count] using call

theorem securedCode_arraycopy {stub : ArrayCopyStub Oop} (promised : stub.Valid compressed memory) :
    SecuredCode fields origin memory
      (stub.code compressed (mmtkSATBBarrierSetAssembler fields compressed enableBarrierFastpath)) := by
  refine Covered.securedCode ?_
  cases reference : isReferenceType stub.type with
  | false =>
    simp only [ArrayCopyStub.code, mmtkSATBBarrierSetAssembler, reference, promised.references reference]
    trivial
  | true =>
    rw [ArrayCopyStub.code, arraycopyPrologue_satb promised reference]
    refine covered_arrayCopyPre compressed enableBarrierFastpath _ _ (covered_stores ?_ trivial)
    intro element member _
    exact .inl ⟨element.1, Nat.lt_of_lt_of_le (promised.copied element member).1 promised.part, rfl⟩

/-- Every access of every tier secures the slots before it writes them. -/
theorem Snapshot.securedTierCode (valid : Snapshot fields origin memory) {access : TierAccess Oop}
    (promised : access.Valid compressed memory) :
    SecuredCode fields origin memory
      (access.code (satbTiers fields compressed enableBarrierFastpath enableAllocationFastpath)) := by
  cases access with
  | interpreterStore decorators type dst val =>
    refine substituted_of_inHeap securedCode_done ?_ ?_
    · intro offHeap
      simp [satbTiers, mmtkSATBBarrierSetAssembler, Decorators.canRemoveBarrier, offHeap]
    · intro _ inHeap
      refine Covered.securedCode ?_
      simpa [satbTiers, mmtkSATBBarrierSetAssembler, Decorators.canRemoveBarrier, inHeap] using
        covered_satbWritePre enableBarrierFastpath dst (.store val.value)
  | c1Store access value => exact securedCode_c1 access _
  | c1Cmpxchg access cmpValue newValue => exact securedCode_c1 access _
  | c1Xchg access value => exact securedCode_c1 access _
  | c2Store access val => exact valid.securedCode_c2 promised
  | c2CmpxchgVal access expectedVal newVal => exact valid.securedCode_c2 promised
  | c2CmpxchgBool access expectedVal newVal => exact valid.securedCode_c2 promised
  | c2Xchg access newVal => exact valid.securedCode_c2 promised
  | arraycopy stub => exact securedCode_arraycopy promised

end SATBCode

section ObjectCode

variable {memory : Memory Oop} {slot : Slot Oop} {raw : RawAccess Oop}
  {compressed enableBarrierFastpath enableAllocationFastpath : Bool}

theorem checked_action {known : Oop → Prop} {rest : BarrierCode Oop} (live : memory.Live raw.newValue)
    (barrier : raw.newValue = none ∨ known slot.base ∨ Owes slot rest) (checked : Checked memory known rest) :
    Checked memory known (.act (raw.action slot) rest) := by
  cases raw <;> exact ⟨live, barrier, checked⟩

/-- A reference is written and the barrier of its object follows. -/
theorem checkedCode_objectWritePost (enableBarrierFastpath : Bool) (allocated : memory.Allocated slot.base)
    (live : memory.Live raw.newValue) :
    CheckedCode memory (.act (raw.action slot) (objectWritePost enableBarrierFastpath slot.base .done)) :=
  ⟨fun _ => False, by simp, checked_action live (.inr (.inr (owes_post true enableBarrierFastpath slot none)))
    (checked_post true enableBarrierFastpath slot none allocated)⟩

/-- Null needs no barrier. -/
theorem checkedCode_null (null : raw.newValue = none) : CheckedCode memory (.act (raw.action slot) .done) :=
  ⟨fun _ => False, by simp, checked_action (by simp [null, Memory.Live]) (.inl null) trivial⟩

/-- Neither does a fresh object. -/
theorem Generational.checkedCode_fresh (valid : Generational memory) (fresh : memory.fresh slot.base = true)
    (live : memory.Live raw.newValue) : CheckedCode memory (.act (raw.action slot) .done) := by
  refine ⟨fun object => object = slot.base, ?_, checked_action live (.inr (.inl rfl)) trivial⟩
  intro object same
  exact same ▸ valid.fresh slot.base fresh

theorem checkedCode_c1 {access : LIRAccess Oop} (promised : access.Valid memory raw.newValue) :
    CheckedCode memory ((mmtkObjectBarrierSetC1 enableBarrierFastpath).substituting access raw) := by
  refine substituted_of_inHeap checkedCode_done ?_ ?_
  · intro offHeap
    simp [mmtkObjectBarrierSetC1, offHeap]
  · intro isOop inHeap
    obtain ⟨allocated, live⟩ := promised isOop inHeap
    simp only [mmtkObjectBarrierSetC1, inHeap, Bool.not_true, Bool.false_eq_true, ↓reduceIte]
    exact checkedCode_objectWritePost enableBarrierFastpath allocated live

theorem Generational.checkedCode_c2 (valid : Generational memory) {access : C2Access Oop}
    (promised : access.Valid memory raw.newValue) :
    CheckedCode memory
      ((mmtkObjectBarrierSetC2 enableBarrierFastpath enableAllocationFastpath).substituting access raw) := by
  refine substituted_of checkedCode_done id (fun isOop other => by simp [isOop] at other) ?_
  intro isOop _
  obtain ⟨allocated, live, facts⟩ := promised isOop
  by_cases removed : canRemoveBarrier enableAllocationFastpath access.node true = true
  · simp only [mmtkObjectBarrierSetC2, removed, ↓reduceIte]
    rcases fresh_of_canRemoveBarrier facts removed with ⟨_, null⟩ | fresh
    · exact checkedCode_null null
    · exact valid.checkedCode_fresh fresh live
  · simp only [mmtkObjectBarrierSetC2, removed, Bool.false_eq_true, ↓reduceIte]
    exact checkedCode_objectWritePost enableBarrierFastpath allocated live

/-- The prologue leaves the operands of the copy where they are. -/
theorem arraycopyPrologue_operands {stub : ArrayCopyStub Oop} (promised : stub.Valid compressed memory) :
    stub.Operands ((mmtkObjectBarrierSetAssembler compressed enableBarrierFastpath).arraycopyPrologue stub.decorators
      stub.type stub.entry stub.regs).1 := by
  obtain ⟨src, dst, count⟩ := promised.operands
  have saves (word : Word Oop) : stub.Operands (Function.update stub.regs .r11 word) := by
    refine ⟨?_, ?_, ?_⟩
    · rwa [Function.update_of_ne promised.scratch.1]
    · rwa [Function.update_of_ne promised.scratch.2.1]
    · rwa [Function.update_of_ne promised.scratch.2.2]
  simp only [mmtkObjectBarrierSetAssembler]
  split
  · split
    · split
      · exact saves _
      · split
        · exact saves _
        · exact promised.operands
    · exact promised.operands
  · exact promised.operands

/-- Whatever else the copy does to its registers, the epilogue of a stub is called with the
destination and with the number of elements that were copied. -/
theorem arraycopyEpilogue_object {stub : ArrayCopyStub Oop} (promised : stub.Valid compressed memory)
    (reference : isReferenceType stub.type = true) (initialized : stub.decorators.isDestUninitialized = false) :
    let assembler : MMTkBarrierSetAssembler Oop := mmtkObjectBarrierSetAssembler compressed enableBarrierFastpath
    assembler.arraycopyEpilogue stub.decorators stub.type stub.exit (stub.clobber
        (assembler.arraycopyPrologue stub.decorators stub.type stub.entry stub.regs).1) =
      mmtkArrayCopyPost compressed stub.dst stub.reported := by
  intro assembler
  have kept : stub.Operands (assembler.arraycopyPrologue stub.decorators stub.type stub.entry stub.regs).1 :=
    arraycopyPrologue_operands promised
  generalize prologue : (assembler.arraycopyPrologue stub.decorators stub.type stub.entry stub.regs).1 = regs at kept
  cases checkcast : stub.decorators.arraycopyCheckcast with
  | true =>
    simp only [assembler, mmtkObjectBarrierSetAssembler, reference, initialized, checkcast]
    exact callArrayCopy_passArguments _ (promised.exitDst (.inl checkcast) _ kept)
      (promised.exitCount (.inl checkcast) _ kept)
  | false =>
    have complete := promised.complete checkcast
    have saved := promised.saved checkcast regs kept
    cases objInt : isObjInt compressed stub.type with
    | false =>
      have count : regs .r11 = .number stub.count := by
        simp [← prologue, assembler, mmtkObjectBarrierSetAssembler, reference, checkcast, objInt, promised.operands.count]
      simp only [assembler, mmtkObjectBarrierSetAssembler, reference, initialized, checkcast, objInt]
      refine callArrayCopy_passArguments _ (promised.exitDst (.inr (.inl objInt)) _ kept) ?_
      exact saved.trans (by rw [count, complete])
    | true =>
      cases disjoint : stub.decorators.arraycopyDisjoint with
      | true =>
        have dst : regs .r11 = .pointer stub.dst := by
          simp [← prologue, assembler, mmtkObjectBarrierSetAssembler, reference, checkcast, objInt, disjoint,
            promised.operands.dst]
        simp only [assembler, mmtkObjectBarrierSetAssembler, reference, initialized, checkcast, objInt, disjoint]
        exact callArrayCopy_passArguments _ (saved.trans dst) (promised.exitCount (.inr objInt) _ kept)
      | false =>
        simp only [assembler, mmtkObjectBarrierSetAssembler, reference, initialized, checkcast, objInt, disjoint]
        exact callArrayCopy_passArguments _ (promised.exitDst (.inr (.inr disjoint)) _ kept)
          (promised.exitCount (.inr objInt) _ kept)

theorem arraycopyPrologue_object (decorators : Decorators) (type : BasicType) (operands : ArrayCopyRegisters)
    (regs : Reg → Word Oop) :
    ((mmtkObjectBarrierSetAssembler compressed enableBarrierFastpath).arraycopyPrologue decorators type operands
      regs).2 = id := by
  simp only [mmtkObjectBarrierSetAssembler]
  split
  · split
    · split
      · rfl
      · split <;> rfl
    · rfl
  · rfl

theorem Generational.checkedCode_arraycopy (valid : Generational memory) {stub : ArrayCopyStub Oop}
    (promised : stub.Valid compressed memory) :
    CheckedCode memory (stub.code compressed (mmtkObjectBarrierSetAssembler compressed enableBarrierFastpath)) := by
  have live : ∀ element ∈ stub.copied, memory.Live element.2 :=
    fun element member => (promised.copied element member).2
  rw [ArrayCopyStub.code, arraycopyPrologue_object, id_eq]
  cases reference : isReferenceType stub.type with
  | false =>
    simp only [mmtkObjectBarrierSetAssembler, reference, promised.references reference]
    exact checkedCode_done
  | true =>
    cases uninitialized : stub.decorators.isDestUninitialized with
    | true =>
      refine ⟨fun object => object = stub.dst.base, ?_, ?_⟩
      · intro object same
        exact same ▸ valid.fresh stub.dst.base (promised.uninitialized uninitialized)
      · refine checked_stores live (fun _ _ => .inl rfl) ?_
        simp only [mmtkObjectBarrierSetAssembler, reference, uninitialized]
        trivial
    | false =>
      rw [arraycopyEpilogue_object promised reference uninitialized]
      refine ⟨fun _ => False, by simp, checked_stores live ?_ trivial⟩
      intro element member
      exact .inr (.inl (mem_regionSlots.mpr ⟨element.1, (promised.copied element member).1, rfl⟩))

/-- Every access of every tier is followed by the barrier it needs. -/
theorem Generational.checkedTierCode {fields : Oop → List Nat} (valid : Generational memory) {access : TierAccess Oop}
    (promised : access.Valid compressed memory) :
    CheckedCode memory
      (access.code (objectTiers fields compressed enableBarrierFastpath enableAllocationFastpath)) := by
  cases access with
  | interpreterStore decorators type dst val =>
    refine substituted_of_inHeap checkedCode_done ?_ ?_
    · intro offHeap
      simp [objectTiers, mmtkObjectBarrierSetAssembler, Decorators.canRemoveBarrier, offHeap]
    · intro isOop inHeap
      obtain ⟨allocated, live⟩ := promised isOop inHeap
      cases val with
      | noreg =>
        have removed : decorators.canRemoveBarrier (ValueRegister.noreg : ValueRegister Oop) true = true := by
          simp [Decorators.canRemoveBarrier, ValueRegister.isNoreg]
        simp only [objectTiers, mmtkObjectBarrierSetAssembler, removed, ↓reduceIte]
        exact checkedCode_null (by rfl)
      | holding value =>
        have emitted : decorators.canRemoveBarrier (.holding value) true = false := by
          simp [Decorators.canRemoveBarrier, ValueRegister.isNoreg, inHeap]
        simp only [objectTiers, mmtkObjectBarrierSetAssembler, emitted, Bool.false_eq_true, ↓reduceIte]
        exact checkedCode_objectWritePost enableBarrierFastpath allocated live
  | c1Store access value => exact checkedCode_c1 promised
  | c1Cmpxchg access cmpValue newValue => exact checkedCode_c1 promised
  | c1Xchg access value => exact checkedCode_c1 promised
  | c2Store access val => exact valid.checkedCode_c2 promised
  | c2CmpxchgVal access expectedVal newVal => exact valid.checkedCode_c2 promised
  | c2CmpxchgBool access expectedVal newVal => exact valid.checkedCode_c2 promised
  | c2Xchg access newVal => exact valid.checkedCode_c2 promised
  | arraycopy stub => exact valid.checkedCode_arraycopy promised

end ObjectCode

theorem Remembering.tierNext [DecidableEq Oop] [DecidableEq Thread] {fields : Oop → List Nat}
    {compressed enableBarrierFastpath enableAllocationFastpath : Bool} {state : State Oop Thread}
    {event : TierEvent Oop Thread} (valid : Remembering state)
    (allowed : (tierSystem (objectTiers fields compressed enableBarrierFastpath enableAllocationFastpath)
      AfterGC).enabled state event) :
    Remembering ((tierSystem (objectTiers fields compressed enableBarrierFastpath enableAllocationFastpath)
      AfterGC).next state event) := by
  cases event with
  | access thread access =>
    exact ⟨valid.checked.start thread (valid.checked.1.checkedTierCode allowed.2), valid.accounted.start allowed.1 _⟩
  | other event => exact valid.next allowed

/-- In every run of any number of mutators that access the heap through the runtime, in the
interpreter, in code of C1 and C2 and in array-copy stubs, when no access is under way, a
slot of a mature object that holds a nursery object belongs to a logged object or to a
recorded range. -/
theorem object_barrier_remembers_in_tiers [DecidableEq Oop] [DecidableEq Thread] (fields : Oop → List Nat)
    (compressed enableBarrierFastpath enableAllocationFastpath : Bool)
    {start state : State Oop Thread} {events : List (TierEvent Oop Thread)}
    (initial : (tierSystem (objectTiers fields compressed enableBarrierFastpath enableAllocationFastpath)
      AfterGC).initial start)
    (run : (tierSystem (objectTiers fields compressed enableBarrierFastpath enableAllocationFastpath)
      AfterGC).Run start events state)
    (idle : ∀ thread, (state.codes thread).isDone = true) (slot : Slot Oop) (value : Oop)
    (mature : state.memory.space slot.base = .mature) (held : state.memory.slots slot = some value)
    (nursery : state.memory.space value = .nursery) :
    slot.base ∈ state.memory.logged ∨ slot ∈ state.memory.ranges := by
  obtain ⟨afterGC, startIdle, notNew, notFresh⟩ := initial
  have valid : Remembering state :=
    run.invariant Remembering (.initial afterGC startIdle notNew notFresh) fun _ _ valid allowed => valid.tierNext allowed
  exact valid.accounted.idle idle ⟨mature, value, held, nursery⟩

/-- Objects 0, 2 and 4 are mature and refer to nothing. -/
def matureObjects : Memory Nat where
  slots _ := none
  unlogged object := decide (object ∈ [0, 2, 4])
  space object := if object ∈ [0, 2, 4] then .mature else .unallocated
  new _ := false
  fresh _ := false
  recorded := []
  logged := []
  ranges := []

/-- A disjoint copy of one compressed element, which overwrites its destination register. -/
def disjointCopy : ArrayCopyStub Nat where
  decorators := ⟨true, false, false, true, false⟩
  type := .object
  entry := ⟨.rdi, .rsi, .rdx, by decide, by decide⟩
  exit := ⟨.rdi, .rsi, .rcx, by decide, by decide⟩
  regs reg := if reg = .rdi then .pointer ⟨2, 16⟩ else if reg = .rsi then .pointer ⟨0, 16⟩ else .number 1
  clobber regs := Function.update (Function.update regs .rcx (regs .rdx)) .rsi (.number 0)
  src := ⟨2, 16⟩
  dst := ⟨0, 16⟩
  count := 1
  copied := [(0, some 1)]
  reported := 1

/-- A copy of two elements, the second of which fails its type check. It uses `r11` itself and
keeps its count in `rcx`. -/
def checkcastCopy : ArrayCopyStub Nat where
  decorators := ⟨true, false, true, true, false⟩
  type := .object
  entry := ⟨.rdi, .rsi, .rdx, by decide, by decide⟩
  exit := ⟨.rdi, .rsi, .rcx, by decide, by decide⟩
  regs reg := if reg = .rdi then .pointer ⟨0, 16⟩ else if reg = .rsi then .pointer ⟨4, 16⟩ else .number 2
  clobber regs := Function.update (Function.update regs .rcx (.number 1)) .r11 (.number 0)
  src := ⟨0, 16⟩
  dst := ⟨4, 16⟩
  count := 2
  copied := [(0, some 1)]
  reported := 1

/-- The copies, with a store of C1 to object 2 by another thread in between, step by step. -/
def tierEvents : List (TierEvent Nat Bool) :=
  [.other (.allocate 1 .nursery false), .access true (.arraycopy disjointCopy),
    .access false (.c1Store ⟨2, 8, true, ⟨true, false, false, false, false⟩⟩ (some 1)), .other (.step true),
    .other (.step false), .other (.step false), .other (.step true), .other (.step false), .other (.step false),
    .access true (.arraycopy checkcastCopy), .other (.step true), .other (.step true)]

def tierState : State Nat Bool :=
  tierEvents.foldl (tierSystem (objectTiers (fun _ => [8]) true true true) AfterGC).next
    ⟨matureObjects, fun _ => .done⟩

theorem copies_and_store_remembered :
    (tierState.memory.slots ⟨0, 16⟩ = some 1 ∧ ⟨0, 16⟩ ∈ tierState.memory.ranges) ∧
      (tierState.memory.slots ⟨2, 8⟩ = some 1 ∧ 2 ∈ tierState.memory.logged) ∧
      tierState.memory.slots ⟨4, 16⟩ = some 1 ∧ ⟨4, 16⟩ ∈ tierState.memory.ranges := by
  have live : ∀ memory : Memory Nat, memory.space 1 = .nursery → memory.Live (some 1) := by
    intro memory nursery object same
    cases same
    rw [Memory.Allocated, nursery]
    decide
  have disjoint (memory : Memory Nat) (nursery : memory.space 1 = .nursery) (mature : memory.Allocated 0) :
      disjointCopy.Valid true memory := by
    refine ⟨⟨rfl, rfl, rfl⟩, by decide, fun _ _ _ => rfl, fun other => absurd other (by decide),
      fun _ _ operands => operands.count, fun _ => rfl, by decide, ?_, by decide, mature,
      fun other => absurd other (by decide)⟩
    intro element member
    rw [List.mem_singleton.mp member]
    exact ⟨by decide, live _ nursery⟩
  have checkcast (memory : Memory Nat) (nursery : memory.space 1 = .nursery) (mature : memory.Allocated 4) :
      checkcastCopy.Valid true memory := by
    refine ⟨⟨rfl, rfl, rfl⟩, by decide, fun other => absurd other (by decide), fun _ _ operands => operands.dst,
      fun _ _ _ => rfl, fun other => absurd other (by decide), by decide, ?_, by decide, mature,
      fun other => absurd other (by decide)⟩
    intro element member
    rw [List.mem_singleton.mp member]
    exact ⟨by decide, live _ nursery⟩
  have allowed : (tierSystem (objectTiers (fun _ => [8]) true true true) AfterGC).Allowed
      ⟨matureObjects, fun _ => .done⟩ tierEvents :=
    ⟨⟨by decide, by decide, rfl⟩, ⟨rfl, disjoint _ rfl (by decide)⟩, ⟨rfl, fun _ _ => ⟨by decide, live _ (by decide)⟩⟩,
      rfl, rfl, rfl, rfl, rfl, rfl, ⟨rfl, checkcast _ rfl (by decide)⟩, rfl, rfl, trivial⟩
  have initial : (tierSystem (objectTiers (fun _ => [8]) true true true) AfterGC).initial
      (⟨matureObjects, fun _ => .done⟩ : State Nat Bool) := by
    refine ⟨⟨?_, ?_, ?_⟩, fun _ => rfl, fun _ => rfl, fun _ => rfl⟩
    · intro object mature
      by_cases member : object ∈ [0, 2, 4]
      · exact decide_eq_true member
      · simp only [matureObjects, if_neg member] at mature
        cases mature
    · intro slot value _ found
      cases found
    · intro slot object found
      cases found
  have remembers := object_barrier_remembers_in_tiers (fun _ => [8]) true true true initial allowed.run
    (by intro thread; cases thread <;> rfl)
  refine ⟨⟨by decide, ?_⟩, ⟨by decide, ?_⟩, by decide, ?_⟩
  · exact (remembers ⟨0, 16⟩ 1 (by decide) (by decide) (by decide)).resolve_left (by decide)
  · exact (remembers ⟨2, 8⟩ 1 (by decide) (by decide) (by decide)).resolve_right (by decide)
  · exact (remembers ⟨4, 16⟩ 1 (by decide) (by decide) (by decide)).resolve_left (by decide)

end MmtkOpenJDK.Barriers
