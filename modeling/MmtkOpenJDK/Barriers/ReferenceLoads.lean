import MmtkOpenJDK.Foundation.IdealGraph

/-! The load barrier of the referent field of `java.lang.ref.Reference`. While concurrent
marking is active, every tier passes the loaded referent on to mmtk-core; each has its own
test of the flag, of null, and of whether the load can be one of a referent. -/

namespace MmtkOpenJDK.Barriers

open MmtkOpenJDK.Foundation X86 Ideal

/-- `CONCURRENT_MARKING_ACTIVE` before the first collection. -/
def concurrentMarkingInactive : BitVec 8 := 0

/-- What `resume_mutators` leaves in `CONCURRENT_MARKING_ACTIVE`. -/
def resumeMutators (planIsConcurrentImmix concurrentWorkInProgress : Bool) (flag : BitVec 8) : BitVec 8 :=
  if planIsConcurrentImmix then if concurrentWorkInProgress then 1 else 0 else flag

/-- The flag after the given collections, of each of which it is known whether it leaves
concurrent work in progress. -/
def flagAfter (planIsConcurrentImmix : Bool) (collections : List Bool) : BitVec 8 :=
  collections.foldl (fun flag concurrentWorkInProgress => resumeMutators planIsConcurrentImmix concurrentWorkInProgress flag)
    concurrentMarkingInactive

/-- Marking is active after these collections. -/
def isMarking (planIsConcurrentImmix : Bool) (collections : List Bool) : Bool :=
  planIsConcurrentImmix && collections.getLast?.getD false

inductive ReferenceStrength where
  | strong
  | weak
  | phantom
  | unknown
  deriving DecidableEq

/-- The decorators and the type of a load, as far as the barriers look at them. -/
structure LoadAccess where
  isOop : Bool
  strength : ReferenceStrength
  noKeepalive : Bool
  inHeap : Bool

/-- `load_reference`: whether mmtk-core is called. -/
def MMTkSATBBarrierSetRuntime.loadReference (flag : BitVec 8) (value : BitVec 64) : Bool :=
  flag.setWidth 32 == (1 : BitVec 32) && value != 0

/-- `oop_load_in_heap_at` and `oop_load_not_in_heap`. -/
def AccessBarrier.oopLoad (access : LoadAccess) (flag : BitVec 8) (value : BitVec 64) : Bool :=
  let onStrongOopRef := access.strength == .strong
  let peek := access.noKeepalive
  let needsEnqueue := !peek && !onStrongOopRef
  if needsEnqueue && value != 0 then MMTkSATBBarrierSetRuntime.loadReference flag value else false

/-- The interpreter's barrier behind the load: the argument of the call, if it is made. -/
def MMTkSATBBarrierSetAssembler.loadAt (flagAddress : BitVec 64) (access : LoadAccess) (dst : Reg) (state : X86.State) :
    Option (BitVec 64) :=
  let onReference := access.strength == .weak || access.strength == .phantom
  if access.isOop && onReference then
    let tmp := Reg.r10
    let tmp2 := Reg.r11
    let state := state.set tmp flagAddress
    let state := state.set tmp2 (state.regs tmp2 ^^^ state.regs tmp2)
    let state := state.set tmp2 (mergeByte (state.regs tmp2) (state.memory.bytes (state.regs tmp)))
    let state := state.compare (state.regs tmp2) 1
    if Condition.notEqual.holds state.compared then none
    else
      let state := state.compare (state.regs dst) 0
      if Condition.equal.holds state.compared then none else some (state.regs dst)
  else none

/-- C1: `isReferent` is the outcome of `generate_referent_check`, and the stub tests for
null. -/
def MMTkSATBBarrierSetC1.loadAtResolved (access : LoadAccess) (isReferent : Bool) (flag : BitVec 8)
    (value : BitVec 64) : Bool :=
  let isAnonymous := access.strength == .unknown
  if access.isOop && (access.strength == .weak || access.strength == .phantom || isAnonymous) then
    if isAnonymous && !isReferent then false
    else
      let cmFlag : BitVec 32 := flag.signExtend 32
      if cmFlag == 1 then
        if value == 0 then false else true
      else false
  else false

/-- The classes and interfaces of the VM. The superclasses of a class are a chain, the one
proper superclass of `Reference` is `Object`, and an interface is neither below `Reference`
nor above `Object`. -/
structure ClassHierarchy (Class : Type) where
  isSubtypeOf : Class → Class → Bool
  isInterface : Class → Bool
  objectKlass : Class
  referenceKlass : Class
  chain : ∀ klass first second, isInterface first = false → isInterface second = false →
    isSubtypeOf klass first = true → isSubtypeOf klass second = true →
    isSubtypeOf first second = true ∨ isSubtypeOf second first = true
  referenceClass : isInterface referenceKlass = false
  reference : ∀ klass, isInterface klass = false → isSubtypeOf referenceKlass klass = true →
    isSubtypeOf klass referenceKlass = true ∨ isSubtypeOf objectKlass klass = true
  interfaces : ∀ klass, isInterface klass = true →
    isSubtypeOf klass referenceKlass = false ∧ isSubtypeOf objectKlass klass = false

/-- The field that a load reads, by the class of its base and its offset. A base without a
class is null or an array, or there is none because the load is not from the heap. -/
structure LoadedField (Class : Type) where
  baseClass : Option Class
  offset : BitVec 64

/-- What C2 knows about the base of a load. -/
inductive BaseType (Class : Type) where
  | noOop
  | array
  | inst (klass : Class) (isLoaded : Bool)

/-- What C2 knows about an unknown load. -/
structure UnknownLoad (Class : Type) where
  constOffset : Option (BitVec 64)
  baseType : BaseType Class

section C2

variable {Class : Type} (hierarchy : ClassHierarchy Class) (referentOffset flagAddress : BitVec 64)

/-- The field is the referent of a `Reference`. -/
def LoadedField.isReferent (field : LoadedField Class) : Bool :=
  field.offset == referentOffset && field.baseClass.any fun klass => hierarchy.isSubtypeOf klass hierarchy.referenceKlass

/-- C2's facts are true of the field. -/
structure UnknownLoad.Holds (load : UnknownLoad Class) (field : LoadedField Class) : Prop where
  constOffset : ∀ offset, load.constOffset = some offset → field.offset = offset
  array : load.baseType = .array → field.baseClass = none
  inst : ∀ klass isLoaded, load.baseType = .inst klass isLoaded →
    ∀ actual, field.baseClass = some actual → hierarchy.isSubtypeOf actual klass = true

/-- All that C2 knows of the base is a loaded interface. -/
def UnknownLoad.ofInterface (load : UnknownLoad Class) : Bool :=
  match load.baseType with
  | .inst klass isLoaded => isLoaded && hierarchy.isInterface klass
  | _ => false

/-- The two tests of `reference_load_barrier`; the loaded value is the first input. -/
def cmFlagTest : Node .bool := .bool (.cmpI (.loadB .parmMemory (.conL flagAddress)) (.conI 0)) .ne

def valueTest : Node .bool := .bool (.cmpP (.parmL 0) (.conL 0)) .ne

def referenceLoadBarrier (env : Env) : Bool :=
  if (cmFlagTest flagAddress).eval env then if valueTest.eval env then true else false else false

/-- `reference_load_barrier_for_unknown_load`: three filters at compile time and two at
run time. -/
def referenceLoadBarrierForUnknownLoad (load : UnknownLoad Class) (field : LoadedField Class) (env : Env) : Bool :=
  if load.constOffset.any (· != referentOffset) then false
  else
    match load.baseType with
    | .array => false
    | .inst klass isLoaded =>
      if isLoaded && !hierarchy.isSubtypeOf klass hierarchy.referenceKlass &&
          !hierarchy.isSubtypeOf hierarchy.objectKlass klass then false
      else if field.isReferent hierarchy referentOffset then referenceLoadBarrier flagAddress env else false
    | .noOop => if field.isReferent hierarchy referentOffset then referenceLoadBarrier flagAddress env else false

/-- `MMTkSATBBarrierSetC2::load_at_resolved`. An unknown load without a base or an offset
has no barrier. -/
def MMTkSATBBarrierSetC2.loadAtResolved (access : LoadAccess) (unknownLoad : Option (UnknownLoad Class))
    (field : LoadedField Class) (env : Env) : Bool :=
  let onWeak := access.strength == .weak
  let unknown := access.strength == .unknown
  let needReadBarrier := access.inHeap && (onWeak || unknown && unknownLoad.isSome)
  if !access.isOop || !needReadBarrier then false
  else if onWeak then referenceLoadBarrier flagAddress env
  else
    match unknownLoad with
    | some load =>
      if unknown then referenceLoadBarrierForUnknownLoad hierarchy referentOffset flagAddress load field env else false
    | none => false

end C2

/-- A load by one of the tiers. The interpreter's code runs in any register state, C2's in
any environment. -/
inductive LoadSite (Class : Type) where
  | runtime (access : LoadAccess) (field : LoadedField Class)
  | interpreter (access : LoadAccess) (field : LoadedField Class) (dst : Reg) (frame : X86.State)
  | c1 (access : LoadAccess) (field : LoadedField Class)
  | c2 (access : LoadAccess) (field : LoadedField Class) (unknownLoad : Option (UnknownLoad Class)) (env : Env)

/-- Memory with the flag in its place. -/
def withFlag (flagAddress : BitVec 64) (memory : X86.Memory) (flag : BitVec 8) : X86.Memory :=
  { memory with bytes := Function.update memory.bytes flagAddress flag }

section Sites

variable {Class : Type} (hierarchy : ClassHierarchy Class) (referentOffset flagAddress : BitVec 64)

def LoadSite.field : LoadSite Class → LoadedField Class
  | .runtime _ field | .interpreter _ field _ _ | .c1 _ field | .c2 _ field _ _ => field

/-- HotSpot loads a referent with weak, phantom or unknown strength, and other references
with strong or unknown strength. -/
def LoadAccess.Fits (access : LoadAccess) (field : LoadedField Class) : Prop :=
  access.isOop = true ∧
    (access.strength ≠ .unknown → (field.isReferent hierarchy referentOffset = true ↔ access.strength ≠ .strong))

/-- The loads of references that HotSpot generates code for, and any load of the runtime. The
interpreter's are not of unknown strength, and do not load into the registers that its
barrier uses. -/
def LoadSite.Valid : LoadSite Class → Prop
  | .runtime _ _ => True
  | .interpreter access field dst _ =>
    access.Fits hierarchy referentOffset field ∧ access.strength ≠ .unknown ∧ dst ≠ .r10 ∧ dst ≠ .r11
  | .c1 access field => access.Fits hierarchy referentOffset field
  | .c2 access field unknownLoad _ =>
    access.Fits hierarchy referentOffset field ∧ ∀ load, unknownLoad = some load → load.Holds hierarchy field

def LoadSite.loadsReferent (site : LoadSite Class) : Bool := site.field.isReferent hierarchy referentOffset

/-- The runtime passes on what it loads from any field. -/
def LoadSite.isRuntime : LoadSite Class → Bool
  | .runtime _ _ => true
  | .interpreter _ _ _ _ | .c1 _ _ | .c2 _ _ _ _ => false

/-- The loads that have no barrier, whatever they load: strong loads and peeks of the runtime,
and of C2 those that are not known to be from the heap, phantom ones, and unknown ones without
a base or an offset or from what it only knows to be of an interface. -/
def LoadSite.leftOut : LoadSite Class → Bool
  | .runtime access _ => access.noKeepalive || access.strength == .strong
  | .interpreter _ _ _ _ | .c1 _ _ => false
  | .c2 access _ unknownLoad _ => !access.inHeap || access.strength == .phantom ||
    access.strength == .unknown && unknownLoad.all fun load => load.ofInterface hierarchy

/-- Whether the site calls mmtk-core with the loaded value. -/
def LoadSite.calls (flag : BitVec 8) (value : BitVec 64) : LoadSite Class → Bool
  | .runtime access _ => AccessBarrier.oopLoad access flag value
  | .interpreter access _ dst frame =>
    MMTkSATBBarrierSetAssembler.loadAt flagAddress access dst
      { frame with regs := Function.update frame.regs dst value, memory := withFlag flagAddress frame.memory flag } ==
        some value
  | .c1 access field =>
    MMTkSATBBarrierSetC1.loadAtResolved access (field.isReferent hierarchy referentOffset) flag value
  | .c2 access field unknownLoad env =>
    MMTkSATBBarrierSetC2.loadAtResolved hierarchy referentOffset flagAddress access unknownLoad field
      { env with longs := fun _ => value, memory := withFlag flagAddress env.memory flag }

end Sites

section Agreement

variable {Class : Type} {hierarchy : ClassHierarchy Class} {referentOffset flagAddress : BitVec 64}
  {flag : BitVec 8} {value : BitVec 64}

/-- The flag is never anything but 0 or 1, so that tests for 1 and for not 0 agree. -/
theorem flagAfter_eq (planIsConcurrentImmix : Bool) (collections : List Bool) :
    flagAfter planIsConcurrentImmix collections =
      BitVec.ofNat 8 (isMarking planIsConcurrentImmix collections).toNat := by
  induction collections using List.reverseRecOn with
  | nil => cases planIsConcurrentImmix <;> rfl
  | append_singleton earlier concurrentWorkInProgress ih =>
    rw [flagAfter, List.foldl_append]
    change resumeMutators planIsConcurrentImmix concurrentWorkInProgress (flagAfter planIsConcurrentImmix earlier) = _
    cases planIsConcurrentImmix with
    | true => cases concurrentWorkInProgress <;> simp [resumeMutators, isMarking]
    | false => simpa [resumeMutators, isMarking] using ih

theorem withFlag_bytes (memory : X86.Memory) : (withFlag flagAddress memory flag).bytes flagAddress = flag := by
  simp [withFlag]

/-- A byte moved to a register that was cleared is the whole register. -/
theorem mergeByte_zero (byte : BitVec 8) : mergeByte 0#64 byte = byte.setWidth 64 := by
  apply BitVec.eq_of_toNat_eq
  have small : byte.toNat = byte.toNat % 18446744073709551616 := by omega
  refine (BitVec.toNat_append (((0#64) >>> 8).setWidth 56) byte).trans ?_
  simpa using small

theorem runtime_calls {access : LoadAccess} (binary : flag = 0 ∨ flag = 1) :
    AccessBarrier.oopLoad access flag value =
      (!(access.noKeepalive || access.strength == .strong) && (flag == 1 && value != 0)) := by
  simp only [AccessBarrier.oopLoad, MMTkSATBBarrierSetRuntime.loadReference, ← Bool.not_or]
  cases access.noKeepalive || access.strength == .strong with
  | true => simp
  | false => rcases binary with rfl | rfl <;> by_cases null : value = 0#64 <;> simp [null]

/-- A known strength tells whether the field is a referent. -/
theorem LoadAccess.Fits.isReferent_eq {access : LoadAccess} {field : LoadedField Class}
    (fits : access.Fits hierarchy referentOffset field) (known : access.strength ≠ .unknown) :
    field.isReferent hierarchy referentOffset = (access.strength != .strong) := by
  rw [Bool.eq_iff_iff, fits.2 known, bne_iff_ne]

/-- The flag's address and value go through `r10` and `r11`, the loaded value stays where
it is. -/
theorem interpreter_calls {access : LoadAccess} {field : LoadedField Class} {dst : Reg} {frame : X86.State}
    (fits : access.Fits hierarchy referentOffset field) (known : access.strength ≠ .unknown) (notAddress : dst ≠ .r10)
    (notFlag : dst ≠ .r11) (loaded : frame.regs dst = value) (active : frame.memory.bytes flagAddress = flag)
    (binary : flag = 0 ∨ flag = 1) :
    (MMTkSATBBarrierSetAssembler.loadAt flagAddress access dst frame == some value) =
      (field.isReferent hierarchy referentOffset && (flag == 1 && value != 0)) := by
  have guarded : (access.isOop && (access.strength == .weak || access.strength == .phantom)) =
      field.isReferent hierarchy referentOffset := by
    rw [fits.isReferent_eq known, fits.1]
    cases strength : access.strength <;> simp_all
  rw [MMTkSATBBarrierSetAssembler.loadAt, guarded]
  cases field.isReferent hierarchy referentOffset with
  | false => rfl
  | true =>
    simp only [↓reduceIte, Condition.holds, compare_compared, compare_regs, set_regs_self, set_memory,
      BitVec.xor_self, set_regs_other notFlag, set_regs_other notAddress,
      set_regs_other (show Reg.r10 ≠ .r11 by decide), active, loaded, mergeByte_zero]
    rcases binary with rfl | rfl <;> by_cases null : value = 0#64 <;> simp [null]

theorem c1_calls {access : LoadAccess} {field : LoadedField Class} (fits : access.Fits hierarchy referentOffset field)
    (binary : flag = 0 ∨ flag = 1) :
    MMTkSATBBarrierSetC1.loadAtResolved access (field.isReferent hierarchy referentOffset) flag value =
      (field.isReferent hierarchy referentOffset && (flag == 1 && value != 0)) := by
  rw [MMTkSATBBarrierSetC1.loadAtResolved, fits.1]
  cases strength : access.strength with
  | strong =>
    rw [fits.isReferent_eq (by simp [strength]), strength]
    rfl
  | unknown =>
    cases field.isReferent hierarchy referentOffset with
    | false => rfl
    | true => rcases binary with rfl | rfl <;> by_cases null : value = 0#64 <;> simp [null]
  | _ =>
    rw [fits.isReferent_eq (by simp [strength]), strength]
    rcases binary with rfl | rfl <;> by_cases null : value = 0#64 <;> simp [null]

theorem referenceLoadBarrier_eq {env : Env} (binary : flag = 0 ∨ flag = 1)
    (active : env.memory.bytes flagAddress = flag) (loaded : env.longs 0 = value) :
    referenceLoadBarrier flagAddress env = (flag == 1 && value != 0) := by
  have flagTest : (cmFlagTest flagAddress).eval env = (flag == 1) := by
    change BoolTest.ne.holds (compare ((env.memory.bytes flagAddress).signExtend 32).toInt (0 : BitVec 32).toInt) = _
    rw [active]
    rcases binary with rfl | rfl <;> decide
  have nullTest : valueTest.eval env = (value != 0) := by
    change BoolTest.ne.holds (compare (env.longs 0).toNat (0 : BitVec 64).toNat) = _
    rw [loaded, Bool.eq_iff_iff, BoolTest.holds, bne_iff_ne, bne_iff_ne, ne_eq, ne_eq, compare_eq_iff_eq,
      BitVec.toNat_inj]
  rw [referenceLoadBarrier, flagTest, nullTest]
  cases flag == 1 <;> cases value != 0 <;> rfl

section UnknownLoads

variable {load : UnknownLoad Class} {field : LoadedField Class} {klass actual : Class} {isLoaded : Bool}

/-- What C2 knows about the class of the base leaves room for a `Reference`. -/
theorem UnknownLoad.Holds.related (holds : load.Holds hierarchy field) (known : load.baseType = .inst klass isLoaded)
    (isClass : hierarchy.isInterface klass = false) (base : field.baseClass = some actual)
    (isReference : hierarchy.isSubtypeOf actual hierarchy.referenceKlass = true) :
    hierarchy.isSubtypeOf klass hierarchy.referenceKlass = true ∨
      hierarchy.isSubtypeOf hierarchy.objectKlass klass = true := by
  have isInstance := holds.inst klass isLoaded known actual base
  rcases hierarchy.chain actual klass hierarchy.referenceKlass isClass hierarchy.referenceClass isInstance isReference
    with below | above
  · exact .inl below
  · exact hierarchy.reference klass isClass above

/-- The filters at compile time leave out the loads of a referent from what C2 only knows
to be of an interface, and no others. -/
theorem UnknownLoad.Holds.barrier {env : Env} (holds : load.Holds hierarchy field) :
    referenceLoadBarrierForUnknownLoad hierarchy referentOffset flagAddress load field env =
      (field.isReferent hierarchy referentOffset && !load.ofInterface hierarchy &&
        referenceLoadBarrier flagAddress env) := by
  cases referent : field.isReferent hierarchy referentOffset with
  | false =>
    rw [Bool.false_and, Bool.false_and, referenceLoadBarrierForUnknownLoad]
    split
    · rfl
    · cases load.baseType <;> simp [referent]
  | true =>
    have parts := referent
    simp only [LoadedField.isReferent, Bool.and_eq_true, beq_iff_eq, Option.any_eq_true] at parts
    obtain ⟨atReferent, actual, base, isReference⟩ := parts
    have offsetFits : load.constOffset.any (· != referentOffset) = false := by
      cases constant : load.constOffset with
      | none => rfl
      | some offset => simp [← holds.constOffset offset constant, atReferent]
    rw [Bool.true_and, referenceLoadBarrierForUnknownLoad, offsetFits]
    cases known : load.baseType with
    | noOop => simp [UnknownLoad.ofInterface, known, referent]
    | array =>
      have noClass := holds.array known
      rw [base] at noClass
      cases noClass
    | inst klass isLoaded =>
      cases isInterface : hierarchy.isInterface klass with
      | true =>
        obtain ⟨notBelow, notAbove⟩ := hierarchy.interfaces klass isInterface
        cases isLoaded <;> simp [UnknownLoad.ofInterface, known, isInterface, notBelow, notAbove, referent]
      | false =>
        rcases holds.related known isInterface base isReference with below | object
        · simp [UnknownLoad.ofInterface, known, isInterface, below, referent]
        · simp [UnknownLoad.ofInterface, known, isInterface, object, referent]

end UnknownLoads

theorem c2_calls {access : LoadAccess} {field : LoadedField Class} {unknownLoad : Option (UnknownLoad Class)}
    {env : Env} (fits : access.Fits hierarchy referentOffset field)
    (holds : ∀ load, unknownLoad = some load → load.Holds hierarchy field) (binary : flag = 0 ∨ flag = 1)
    (active : env.memory.bytes flagAddress = flag) (loaded : env.longs 0 = value) :
    MMTkSATBBarrierSetC2.loadAtResolved hierarchy referentOffset flagAddress access unknownLoad field env =
      (!(LoadSite.c2 access field unknownLoad env).leftOut hierarchy && field.isReferent hierarchy referentOffset &&
        (flag == 1 && value != 0)) := by
  rw [← referenceLoadBarrier_eq binary active loaded]
  simp only [MMTkSATBBarrierSetC2.loadAtResolved, LoadSite.leftOut, fits.1]
  cases inHeap : access.inHeap with
  | false => rfl
  | true =>
    cases strength : access.strength with
    | strong =>
      rw [fits.isReferent_eq (by simp [strength]), strength]
      rfl
    | weak =>
      rw [fits.isReferent_eq (by simp [strength]), strength]
      rfl
    | phantom => rfl
    | unknown =>
      cases unknownLoad with
      | none => rfl
      | some load =>
        exact (holds load rfl).barrier.trans
          (congrArg (· && referenceLoadBarrier flagAddress env) (Bool.and_comm _ _))

/-- A tier calls mmtk-core when the flag is set, the loaded value is not null, the load has a
barrier and the field is a referent. The runtime does not ask for the field. -/
theorem LoadSite.Valid.calls_eq {site : LoadSite Class} (valid : site.Valid hierarchy referentOffset)
    (binary : flag = 0 ∨ flag = 1) :
    site.calls hierarchy referentOffset flagAddress flag value =
      (!site.leftOut hierarchy && (site.isRuntime || site.loadsReferent hierarchy referentOffset) &&
        (flag == 1 && value != 0)) := by
  cases site with
  | runtime access field =>
    rw [LoadSite.isRuntime, Bool.true_or, Bool.and_true]
    exact runtime_calls binary
  | interpreter access field dst frame =>
    obtain ⟨fits, known, notAddress, notFlag⟩ := valid
    exact interpreter_calls fits known notAddress notFlag (Function.update_self dst value frame.regs)
      (withFlag_bytes frame.memory) binary
  | c1 access field => exact c1_calls valid binary
  | c2 access field unknownLoad env =>
    exact c2_calls valid.1 valid.2 binary (withFlag_bytes env.memory) rfl

end Agreement

/-- `entry` is an interface, and `cacheEntry` is a soft reference that implements it. -/
inductive LibraryClass where
  | object
  | reference
  | softReference
  | string
  | entry
  | cacheEntry
  deriving DecidableEq

def LibraryClass.supertypes : LibraryClass → List LibraryClass
  | .object => [.object]
  | .reference => [.reference, .object]
  | .softReference => [.softReference, .reference, .object]
  | .string => [.string, .object]
  | .entry => [.entry, .object]
  | .cacheEntry => [.cacheEntry, .entry, .softReference, .reference, .object]

def libraryClasses : ClassHierarchy LibraryClass where
  isSubtypeOf klass other := klass.supertypes.contains other
  isInterface klass := klass == .entry
  objectKlass := .object
  referenceKlass := .reference
  chain := by
    intro klass first second
    cases klass <;> cases first <;> cases second <;> decide
  referenceClass := rfl
  reference := by
    intro klass
    cases klass <;> decide
  interfaces := by
    intro klass
    cases klass <;> decide

/-- A load by `Unsafe.getObject`. -/
def unsafeAccess : LoadAccess where
  isOop := true
  strength := .unknown
  noKeepalive := false
  inHeap := true

/-- The referent of a soft reference, which C2 knows as an object of the given class. -/
def unsafeSite (klass : LibraryClass) : LoadSite LibraryClass :=
  .c2 unsafeAccess ⟨some .cacheEntry, 12⟩ (some ⟨none, .inst klass true⟩)
    ⟨fun _ => 0, fun _ => 0, ⟨fun _ => 0, fun _ => 0⟩⟩

theorem unsafeSite_valid {klass : LibraryClass} (isInstance : libraryClasses.isSubtypeOf .cacheEntry klass = true) :
    (unsafeSite klass).Valid libraryClasses 12 := by
  refine ⟨⟨rfl, fun known => absurd rfl known⟩, ?_⟩
  rintro load ⟨⟩
  refine ⟨?_, ?_, ?_⟩
  · intro offset known
    cases known
  · intro isArray
    cases isArray
  · intro other isLoaded known actual base
    cases known
    cases base
    exact isInstance

end MmtkOpenJDK.Barriers
