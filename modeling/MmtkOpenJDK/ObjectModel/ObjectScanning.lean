import MmtkOpenJDK.ObjectModel.ArrayGeometry
import MmtkOpenJDK.Slots.SlotRange

/-! `scan_object`: which slots of an object are visited, and which `Reference` objects
are registered as candidates for reference processing. -/

namespace MmtkOpenJDK.ObjectModel

open MmtkOpenJDK.Heap MmtkOpenJDK.Foundation
open Slots (OpenJDKSlot slotBytes slotBytes_pos regionSlots)
open ByteMemory (Region)

inductive CandidateKind where
  | weak
  | soft
  | phantom
  deriving DecidableEq

/-- What a scan does: the slots passed to the visitor, in order, and the calls of
`add_weak_candidate`, `add_soft_candidate` and `add_phantom_candidate`. -/
structure Scan (compressed : Bool) where
  slots : List (OpenJDKSlot compressed)
  candidates : List (CandidateKind × Address)
  deriving DecidableEq

section Iterate

variable (vm : VM) (compressed : Bool) (oop : Address)

def OopMapBlock.oopIterate (block : OopMapBlock) : List (OpenJDKSlot compressed) :=
  let logBytesInOop := if compressed then 2 else 3
  let start := OopDesc.getFieldAddress oop block.offset
  (List.range block.count.toNat).map fun i => ⟨start + BitVec.ofNat 64 (i <<< logBytesInOop)⟩

def InstanceKlass.oopIterate (klass : Address) : List (OpenJDKSlot compressed) :=
  (InstanceKlass.nonstaticOopMaps vm klass).flatMap (OopMapBlock.oopIterate compressed oop)

/-- The addresses of the elements of a Rust slice. -/
def sliceElements (slice : Address × Nat) (sizeOfElement : Nat) : List Address :=
  (List.range slice.2).map fun index => slice.1 + BitVec.ofNat 64 (index * sizeOfElement)

def sizeOfNarrowOop : Nat := 4
def sizeOfOop : Nat := 8

/-- Visit a slice of `NarrowOop` or of `Oop`. -/
def visitSlice (slice : Address × Nat) : List (OpenJDKSlot compressed) :=
  if compressed then (sliceElements slice sizeOfNarrowOop).map (⟨·⟩)
  else (sliceElements slice sizeOfOop).map (⟨·⟩)

def InstanceMirrorKlass.oopIterate (klass : Address) : List (OpenJDKSlot compressed) :=
  InstanceKlass.oopIterate vm compressed oop klass ++
    visitSlice compressed (InstanceMirrorKlass.startOfStaticFields vm oop, InstanceMirrorKlass.staticOopFieldCount vm oop)

def InstanceClassLoaderKlass.oopIterate (klass : Address) : List (OpenJDKSlot compressed) :=
  InstanceKlass.oopIterate vm compressed oop klass

def ObjArrayKlass.oopIterate : List (OpenJDKSlot compressed) :=
  visitSlice compressed (ArrayOopDesc.data vm compressed oop .object)

def InstanceRefKlass.shouldScanWeakRefs : Bool := !vm.noReferenceTypes

def InstanceRefKlass.processRefAsStrong : List (OpenJDKSlot compressed) :=
  [⟨InstanceRefKlass.referentAddress vm oop⟩]

def InstanceRefKlass.oopIterate (klass : Address) : Except String (Scan compressed) :=
  let slots := InstanceKlass.oopIterate vm compressed oop klass ++ [⟨InstanceRefKlass.discoveredAddress vm oop⟩]
  if InstanceRefKlass.shouldScanWeakRefs vm then
    match (vm.klassAt klass).referenceType with
    | .none => .error "oop_iterate on InstanceRefKlass with reference_type as None"
    | .weak => .ok ⟨slots, [(.weak, oop)]⟩
    | .soft => .ok ⟨slots, [(.soft, oop)]⟩
    | .phantom => .ok ⟨slots, [(.phantom, oop)]⟩
    | .final | .other => .ok ⟨slots ++ processRefAsStrong vm compressed oop, []⟩
  else .ok ⟨slots ++ processRefAsStrong vm compressed oop, []⟩

def oopIterate : Except String (Scan compressed) :=
  let klass := OopDesc.klassAddress vm compressed oop
  match (vm.klassAt klass).id with
  | .instanceKlass => .ok ⟨InstanceKlass.oopIterate vm compressed oop klass, []⟩
  | .instanceClassLoader => .ok ⟨InstanceClassLoaderKlass.oopIterate vm compressed oop klass, []⟩
  | .instanceMirror => .ok ⟨InstanceMirrorKlass.oopIterate vm compressed oop klass, []⟩
  | .objArray => .ok ⟨ObjArrayKlass.oopIterate vm compressed oop, []⟩
  | .typeArray => .ok ⟨[], []⟩
  | .instanceRef => InstanceRefKlass.oopIterate vm compressed oop klass

def scanObject : Except String (Scan compressed) := oopIterate vm compressed oop

end Iterate

/-! HotSpot's account of the same object. -/

section Layout

variable (vm : VM) (compressed : Bool) (oop : Address) (maps : List OopMapBlock)

def oopMapRegion (block : OopMapBlock) : Region 64 := ⟨oop + block.offset.signExtend 64, block.count.toNat⟩

def staticRegion : Region 64 :=
  ⟨oop + vm.offsetOfStaticFields.signExtend 64,
    (loadI32 vm (oop + vm.staticOopFieldCountOffset.signExtend 64)).toNat⟩

def elementRegion : Region 64 :=
  ⟨oop + BitVec.ofNat 64 (headerBytes compressed), (ArrayOopDesc.length vm compressed oop).toNat⟩

def discoveredRegion : Region 64 := ⟨oop + vm.discoveredOffset.signExtend 64, 1⟩

def referentRegion : Region 64 := ⟨oop + vm.referentOffset.signExtend 64, 1⟩

/-- The regions of an object that hold references. -/
def referenceRegions : List (Region 64) :=
  match (OopDesc.klass vm compressed oop).id with
  | .instanceKlass | .instanceClassLoader => maps.map (oopMapRegion oop)
  | .instanceMirror => maps.map (oopMapRegion oop) ++ [staticRegion vm oop]
  | .instanceRef => maps.map (oopMapRegion oop) ++ [discoveredRegion vm oop, referentRegion vm oop]
  | .objArray => [elementRegion vm compressed oop]
  | .typeArray => []

/-- A `Reference` is treated as strong if reference processing is off, or if it is
neither weak, soft nor phantom. -/
def TreatedAsStrong (klass : InstanceKlass) : Prop :=
  vm.noReferenceTypes = true ∨ klass.referenceType = .final ∨ klass.referenceType = .other

instance (klass : InstanceKlass) : Decidable (TreatedAsStrong vm klass) := inferInstanceAs (Decidable (_ ∨ _ ∨ _))

/-- The klass has oop-map blocks. -/
def KlassID.isInstance : KlassID → Bool
  | .instanceKlass | .instanceClassLoader | .instanceMirror | .instanceRef => true
  | .typeArray | .objArray => false

/-- The oop-map blocks lie behind the itable, in words, and there are as many as the
klass says. -/
structure StoresMaps (klass : Address) : Prop where
  size : (vm.klassAt klass).nonstaticOopMapSize.toInt = maps.length
  blocks : ∀ index (bound : index < maps.length),
    vm.blockAt (klass + BitVec.ofNat 64 (vm.sizeOfInstanceKlass / 8 * 8) + asUsize (vm.klassAt klass).vtableLen * 8 +
      asUsize (vm.klassAt klass).itableLen * 8 + BitVec.ofNat 64 (index * 8)) = maps.get ⟨index, bound⟩

/-- What HotSpot guarantees of the layout of an object. -/
structure ValidLayout : Prop where
  stored : (OopDesc.klass vm compressed oop).id.isInstance = true →
    StoresMaps vm maps (OopDesc.klassAddress vm compressed oop)
  apart : (referenceRegions vm compressed oop maps).Pairwise (Region.Apart (slotBytes compressed))
  statics : (OopDesc.klass vm compressed oop).id = .instanceMirror →
    0 ≤ (loadI32 vm (oop + vm.staticOopFieldCountOffset.signExtend 64)).toInt
  length : (OopDesc.klass vm compressed oop).id = .objArray → 0 ≤ (ArrayOopDesc.length vm compressed oop).toInt
  referenceType : (OopDesc.klass vm compressed oop).id = .instanceRef →
    (OopDesc.klass vm compressed oop).referenceType ≠ .none

/-- The addresses of the reference fields of an object that the collector follows. -/
def IsReferenceSlot (address : Address) : Prop :=
  ((OopDesc.klass vm compressed oop).id.isInstance = true ∧
    ∃ block ∈ maps, address ∈ (oopMapRegion oop block).cells (slotBytes compressed)) ∨
  ((OopDesc.klass vm compressed oop).id = .instanceMirror ∧
    address ∈ (staticRegion vm oop).cells (slotBytes compressed)) ∨
  ((OopDesc.klass vm compressed oop).id = .objArray ∧
    address ∈ (elementRegion vm compressed oop).cells (slotBytes compressed)) ∨
  ((OopDesc.klass vm compressed oop).id = .instanceRef ∧ address = (discoveredRegion vm oop).start) ∨
  ((OopDesc.klass vm compressed oop).id = .instanceRef ∧ TreatedAsStrong vm (OopDesc.klass vm compressed oop) ∧
    address = (referentRegion vm oop).start)

/-- The regions whose cells are visited. -/
def visitedRegions : List (Region 64) :=
  match (OopDesc.klass vm compressed oop).id with
  | .instanceKlass | .instanceClassLoader => maps.map (oopMapRegion oop)
  | .instanceMirror => maps.map (oopMapRegion oop) ++ [staticRegion vm oop]
  | .instanceRef =>
    maps.map (oopMapRegion oop) ++ [discoveredRegion vm oop] ++
      if TreatedAsStrong vm (OopDesc.klass vm compressed oop) then [referentRegion vm oop] else []
  | .objArray => [elementRegion vm compressed oop]
  | .typeArray => []

end Layout

section Visits

variable {vm : VM} {compressed : Bool} {oop klass : Address} {maps : List OopMapBlock}

theorem OopMapBlock.oopIterate_eq (block : OopMapBlock) :
    block.oopIterate compressed oop = regionSlots compressed (oopMapRegion oop block) := by
  rw [oopIterate, regionSlots, Region.cells, List.map_map]
  refine List.map_congr_left ?_
  intro index _
  cases compressed <;> simp [Region.cell, oopMapRegion, slotBytes, OopDesc.getFieldAddress, asUsize, Nat.shiftLeft_eq]

theorem visitSlice_eq (region : Region 64) :
    visitSlice compressed (region.start, region.count) = regionSlots compressed region := by
  cases compressed <;> rfl

theorem nonstaticOopMapCount_eq (stores : StoresMaps vm maps klass) :
    InstanceKlass.nonstaticOopMapCount vm klass = maps.length := by
  have nonnegative : 0 ≤ (vm.klassAt klass).nonstaticOopMapSize.toInt := by
    rw [stores.size]
    exact Int.natCast_nonneg _
  have size := stores.size
  rw [BitVec.toInt_eq_toNat_of_lt (BitVec.toInt_pos_iff.mp nonnegative)] at size
  have one : alignUp 8 bytesInWord >>> 3 = 1 := by decide
  rw [InstanceKlass.nonstaticOopMapCount]
  simp only [one]
  rw [BitVec.toNat_udiv, asUsize_toNat nonnegative]
  simpa using Int.natCast_inj.mp size

theorem nonstaticOopMaps_eq (stores : StoresMaps vm maps klass) :
    InstanceKlass.nonstaticOopMaps vm klass = maps := by
  rw [InstanceKlass.nonstaticOopMaps, nonstaticOopMapCount_eq stores]
  refine List.ext_getElem (by simp) ?_
  intro index _ bound
  simpa [InstanceKlass.startOfItable, InstanceKlass.startOfVtable, InstanceKlass.headerSize] using
    stores.blocks index bound

theorem InstanceKlass.oopIterate_eq (stores : StoresMaps vm maps klass) :
    InstanceKlass.oopIterate vm compressed oop klass =
      (maps.map (oopMapRegion oop)).flatMap (regionSlots compressed) := by
  rw [InstanceKlass.oopIterate, nonstaticOopMaps_eq stores, List.flatMap_map]
  exact List.flatMap_congr fun block _ => block.oopIterate_eq

theorem InstanceMirrorKlass.oopIterate_eq (stores : StoresMaps vm maps klass)
    (nonnegative : 0 ≤ (loadI32 vm (oop + vm.staticOopFieldCountOffset.signExtend 64)).toInt) :
    InstanceMirrorKlass.oopIterate vm compressed oop klass =
      (maps.map (oopMapRegion oop) ++ [staticRegion vm oop]).flatMap (regionSlots compressed) := by
  have count : InstanceMirrorKlass.staticOopFieldCount vm oop = (staticRegion vm oop).count := asUsize_toNat nonnegative
  have slice : visitSlice compressed (InstanceMirrorKlass.startOfStaticFields vm oop,
      InstanceMirrorKlass.staticOopFieldCount vm oop) = regionSlots compressed (staticRegion vm oop) := by
    rw [count]
    exact visitSlice_eq (staticRegion vm oop)
  rw [InstanceMirrorKlass.oopIterate, InstanceKlass.oopIterate_eq stores, slice]
  simp

theorem data_object (nonnegative : 0 ≤ (ArrayOopDesc.length vm compressed oop).toInt) :
    ArrayOopDesc.data vm compressed oop .object =
      ((elementRegion vm compressed oop).start, (elementRegion vm compressed oop).count) := by
  have header : ArrayOopDesc.headerSize compressed .object * bytesInWord = BitVec.ofNat 64 (headerBytes compressed) :=
    headerSize_of_unaligned rfl
  rw [ArrayOopDesc.data, ArrayOopDesc.base, header, asUsize_toNat nonnegative]
  rfl

theorem ObjArrayKlass.oopIterate_eq (nonnegative : 0 ≤ (ArrayOopDesc.length vm compressed oop).toInt) :
    ObjArrayKlass.oopIterate vm compressed oop = regionSlots compressed (elementRegion vm compressed oop) := by
  rw [ObjArrayKlass.oopIterate, data_object nonnegative, visitSlice_eq]

theorem regionSlots_single (address : Address) : regionSlots compressed ⟨address, 1⟩ = [⟨address⟩] := by
  simp [regionSlots, Region.cells, Region.cell]

/-- The candidate that a `Reference` becomes. -/
def candidateKind : ReferenceType → Option CandidateKind
  | .weak => some .weak
  | .soft => some .soft
  | .phantom => some .phantom
  | .none | .other | .final => none

/-- The candidates that a scan registers: none if the referent is visited. -/
def registered (vm : VM) (compressed : Bool) (oop : Address) : List (CandidateKind × Address) :=
  match (OopDesc.klass vm compressed oop).id with
  | .instanceRef =>
    if TreatedAsStrong vm (OopDesc.klass vm compressed oop) then []
    else (candidateKind (OopDesc.klass vm compressed oop).referenceType).toList.map (·, oop)
  | _ => []

theorem InstanceRefKlass.oopIterate_eq (stores : StoresMaps vm maps klass)
    (typed : (vm.klassAt klass).referenceType ≠ .none) :
    InstanceRefKlass.oopIterate vm compressed oop klass =
      .ok ⟨(maps.map (oopMapRegion oop) ++ [discoveredRegion vm oop] ++
          if TreatedAsStrong vm (vm.klassAt klass) then [referentRegion vm oop] else []).flatMap
            (regionSlots compressed),
        if TreatedAsStrong vm (vm.klassAt klass) then []
        else (candidateKind (vm.klassAt klass).referenceType).toList.map (·, oop)⟩ := by
  have discovered : regionSlots compressed (discoveredRegion vm oop) =
      [⟨InstanceRefKlass.discoveredAddress vm oop⟩] := regionSlots_single _
  have referent : regionSlots compressed (referentRegion vm oop) =
      InstanceRefKlass.processRefAsStrong vm compressed oop := regionSlots_single _
  rw [InstanceRefKlass.oopIterate, InstanceKlass.oopIterate_eq stores]
  cases off : vm.noReferenceTypes <;> cases type : (vm.klassAt klass).referenceType <;>
    simp_all [InstanceRefKlass.shouldScanWeakRefs, TreatedAsStrong, candidateKind]

/-- A scan visits the cells of the visited regions, in order. -/
theorem scanObject_eq (layout : ValidLayout vm compressed oop maps) :
    scanObject vm compressed oop =
      .ok ⟨(visitedRegions vm compressed oop maps).flatMap (regionSlots compressed), registered vm compressed oop⟩ := by
  rw [scanObject, oopIterate, visitedRegions, registered]
  obtain ⟨stored, _, statics, length, typed⟩ := layout
  simp only [OopDesc.klass] at stored statics length typed ⊢
  cases id : (vm.klassAt (OopDesc.klassAddress vm compressed oop)).id with
  | instanceKlass => simp [InstanceKlass.oopIterate_eq (stored (by rw [id]; rfl))]
  | instanceClassLoader =>
    simp [InstanceClassLoaderKlass.oopIterate, InstanceKlass.oopIterate_eq (stored (by rw [id]; rfl))]
  | instanceMirror => simp [InstanceMirrorKlass.oopIterate_eq (stored (by rw [id]; rfl)) (statics id)]
  | instanceRef => exact InstanceRefKlass.oopIterate_eq (stored (by rw [id]; rfl)) (typed id)
  | objArray => simp [ObjArrayKlass.oopIterate_eq (length id)]
  | typeArray => rfl

end Visits

section Visited

variable {vm : VM} {compressed : Bool} {oop : Address} {maps : List OopMapBlock}

theorem visitedRegions_sublist :
    (visitedRegions vm compressed oop maps).Sublist (referenceRegions vm compressed oop maps) := by
  rw [visitedRegions, referenceRegions]
  cases (OopDesc.klass vm compressed oop).id with
  | instanceRef =>
    by_cases strong : TreatedAsStrong vm (OopDesc.klass vm compressed oop)
    · simp [strong]
    · simp [strong]
  | _ => exact .refl _

/-- All counts are 32-bit numbers. -/
theorem fits_of_count {region : Region 64} (small : region.count < 2 ^ 32) : region.Fits (slotBytes compressed) := by
  have width : slotBytes compressed ≤ 8 := by cases compressed <;> decide
  have bytes := Nat.mul_le_mul small.le width
  rw [Region.Fits]
  omega

theorem referenceRegions_fit {region : Region 64} (member : region ∈ referenceRegions vm compressed oop maps) :
    region.Fits (slotBytes compressed) := by
  have blocks : region ∈ maps.map (oopMapRegion oop) → region.count < 2 ^ 32 := by
    intro mapped
    obtain ⟨block, _, rfl⟩ := List.mem_map.mp mapped
    exact block.count.isLt
  refine fits_of_count ?_
  rw [referenceRegions] at member
  split at member
  · exact blocks member
  · exact blocks member
  · rcases List.mem_append.mp member with mapped | last
    · exact blocks mapped
    · obtain rfl := List.mem_singleton.mp last
      exact BitVec.isLt _
  · rcases List.mem_append.mp member with mapped | last
    · exact blocks mapped
    · rcases List.mem_pair.mp last with rfl | rfl <;> exact Nat.one_lt_two_pow (by decide)
  · obtain rfl := List.mem_singleton.mp member
    exact BitVec.isLt _
  · cases member

theorem mem_flatMap_regionSlots {regions : List (Region 64)} {slot : OpenJDKSlot compressed} :
    slot ∈ regions.flatMap (regionSlots compressed) ↔
      ∃ region ∈ regions, slot.addr ∈ region.cells (slotBytes compressed) := by
  simp only [List.mem_flatMap, regionSlots, List.mem_map]
  refine exists_congr fun region => and_congr_right fun _ => ?_
  constructor
  · rintro ⟨address, member, rfl⟩
    exact member
  · intro member
    exact ⟨slot.addr, member, rfl⟩

theorem pairwise_regionSlots {regions : List (Region 64)}
    (fits : ∀ region ∈ regions, region.Fits (slotBytes compressed))
    (apart : regions.Pairwise (Region.Apart (slotBytes compressed))) :
    (regions.flatMap (regionSlots compressed)).Pairwise fun first second =>
      ByteMemory.Disjoint first.addr (slotBytes compressed) second.addr (slotBytes compressed) := by
  have slots : regions.flatMap (regionSlots compressed) =
      (regions.flatMap (Region.cells · (slotBytes compressed))).map (⟨·⟩) := List.map_flatMap.symm
  rw [slots, List.pairwise_map]
  exact ByteMemory.pairwise_flatMap_cells fits apart

theorem mem_cells_single {start address : Address} :
    address ∈ (⟨start, 1⟩ : Region 64).cells (slotBytes compressed) ↔ address = start := by
  simp [Region.cells, Region.cell]

/-- The visited cells are the reference fields. -/
theorem visited_iff_isReferenceSlot {address : Address} :
    (∃ region ∈ visitedRegions vm compressed oop maps, address ∈ region.cells (slotBytes compressed)) ↔
      IsReferenceSlot vm compressed oop maps address := by
  have discovered : address ∈ (discoveredRegion vm oop).cells (slotBytes compressed) ↔
      address = (discoveredRegion vm oop).start := mem_cells_single
  have referent : address ∈ (referentRegion vm oop).cells (slotBytes compressed) ↔
      address = (referentRegion vm oop).start := mem_cells_single
  rw [visitedRegions, IsReferenceSlot]
  cases id : (OopDesc.klass vm compressed oop).id with
  | instanceRef =>
    by_cases strong : TreatedAsStrong vm (OopDesc.klass vm compressed oop)
    · simp [strong, KlassID.isInstance, or_and_right, exists_or, discovered, referent]
    · simp [strong, KlassID.isInstance, or_and_right, exists_or, discovered]
  | instanceMirror => simp [KlassID.isInstance, or_and_right, exists_or]
  | _ => simp [KlassID.isInstance]

/-- The referent of a `Reference` that is not treated as strong is in none of the
visited regions. -/
theorem referent_not_visited (layout : ValidLayout vm compressed oop maps)
    (id : (OopDesc.klass vm compressed oop).id = .instanceRef)
    (weak : ¬ TreatedAsStrong vm (OopDesc.klass vm compressed oop)) {region : Region 64}
    (member : region ∈ visitedRegions vm compressed oop maps) :
    (referentRegion vm oop).start ∉ region.cells (slotBytes compressed) := by
  have split : referenceRegions vm compressed oop maps =
      visitedRegions vm compressed oop maps ++ [referentRegion vm oop] := by
    simp [referenceRegions, visitedRegions, id, weak]
  have apart := layout.apart
  rw [split, List.pairwise_append] at apart
  have separate := apart.2.2 region member (referentRegion vm oop) List.mem_cons_self
  intro visited
  exact (separate.disjoint visited (mem_cells_single.mpr rfl)).ne slotBytes_pos rfl

/-- A `Reference` that is not treated as strong becomes one candidate. -/
theorem registered_weak (layout : ValidLayout vm compressed oop maps)
    (id : (OopDesc.klass vm compressed oop).id = .instanceRef)
    (weak : ¬ TreatedAsStrong vm (OopDesc.klass vm compressed oop)) :
    ∃ kind, registered vm compressed oop = [(kind, oop)] := by
  have typed := layout.referenceType id
  have weakType := weak
  rw [TreatedAsStrong, not_or, not_or] at weakType
  simp only [registered, id, if_neg weak]
  cases type : (OopDesc.klass vm compressed oop).referenceType with
  | weak | soft | phantom => exact ⟨_, rfl⟩
  | none => exact absurd type typed
  | final => exact absurd type weakType.2.1
  | other => exact absurd type weakType.2.2

end Visited

/-- A scan visits every reference field of an object once, and a `Reference` has its
referent visited or is registered as one candidate, of the kind of its klass. -/
theorem scan_object_visits_once (vm : VM) (compressed : Bool) (oop : Address) (maps : List OopMapBlock)
    (layout : ValidLayout vm compressed oop maps) :
    ∃ scan, scanObject vm compressed oop = .ok scan ∧
      scan.slots.Nodup ∧
      scan.slots.Pairwise (fun first second =>
        ByteMemory.Disjoint first.addr (slotBytes compressed) second.addr (slotBytes compressed)) ∧
      (∀ slot, slot ∈ scan.slots ↔ IsReferenceSlot vm compressed oop maps slot.addr) ∧
      ((OopDesc.klass vm compressed oop).id = .instanceRef →
        Xor (⟨InstanceRefKlass.referentAddress vm oop⟩ ∈ scan.slots) (∃ kind, scan.candidates = [(kind, oop)])) ∧
      ((OopDesc.klass vm compressed oop).id ≠ .instanceRef → scan.candidates = []) ∧
      scan.candidates = registered vm compressed oop := by
  have disjoint := pairwise_regionSlots (fun region member => referenceRegions_fit (visitedRegions_sublist.subset member))
    (layout.apart.sublist visitedRegions_sublist)
  refine ⟨_, scanObject_eq layout, ?_, disjoint, ?_, ?_, ?_, rfl⟩
  · refine disjoint.imp ?_
    intro first second separate same
    exact separate.ne slotBytes_pos (congrArg OpenJDKSlot.addr same)
  · intro slot
    rw [mem_flatMap_regionSlots, visited_iff_isReferenceSlot]
  · intro id
    by_cases strong : TreatedAsStrong vm (OopDesc.klass vm compressed oop)
    · refine .inl ⟨?_, ?_⟩
      · rw [mem_flatMap_regionSlots, visited_iff_isReferenceSlot]
        exact .inr (.inr (.inr (.inr ⟨id, strong, rfl⟩)))
      · simp [registered, id, strong]
    · refine .inr ⟨registered_weak layout id strong, ?_⟩
      rw [mem_flatMap_regionSlots]
      rintro ⟨region, member, visited⟩
      exact referent_not_visited layout id strong member visited
  · intro other
    simp only [registered]

/-- A `WeakReference` with the fields `referent`, `queue`, `next` and `discovered`. -/
def weakReferenceVM : VM where
  memory _ := 0
  klassAt _ := ⟨⟨0, .instanceRef, 0⟩, 1, 0, .weak⟩
  blockAt _ := ⟨16, 2⟩
  compressedKlassBase := 0x800000000
  compressedKlassShift := 3
  sizeOfInstanceKlass := 480
  offsetOfStaticFields := 0
  staticOopFieldCountOffset := 0
  referentOffset := 12
  discoveredOffset := 24
  getObjectSize _ := 32
  noReferenceTypes := false

theorem weakReferenceVM_layout : ValidLayout weakReferenceVM true 0x10000000 [⟨16, 2⟩] where
  stored _ := by
    refine ⟨by decide, ?_⟩
    intro index bound
    obtain rfl : index = 0 := Nat.lt_one_iff.mp bound
    rfl
  apart := by
    have maps : Region.Apart 4 (oopMapRegion 0x10000000 ⟨16, 2⟩) (discoveredRegion weakReferenceVM 0x10000000) :=
      Region.apart_of_le (by decide) (by decide)
    have referent : Region.Apart 4 (referentRegion weakReferenceVM 0x10000000) (oopMapRegion 0x10000000 ⟨16, 2⟩) :=
      Region.apart_of_le (by decide) (by decide)
    have fields : Region.Apart 4 (referentRegion weakReferenceVM 0x10000000)
        (discoveredRegion weakReferenceVM 0x10000000) := Region.apart_of_le (by decide) (by decide)
    change List.Pairwise (Region.Apart 4) [_, _, _]
    simpa using ⟨⟨maps, referent.symm⟩, fields.symm⟩
  statics mirror := by cases mirror
  length array := by cases array
  referenceType _ := by decide

theorem weak_reference_scanned :
    ∃ scan, scanObject weakReferenceVM true 0x10000000 = .ok scan ∧
      scan.slots = [⟨0x10000010⟩, ⟨0x10000014⟩, ⟨0x10000018⟩] ∧
      Xor (⟨0x1000000c⟩ ∈ scan.slots) (∃ kind, scan.candidates = [(kind, 0x10000000)]) ∧
      scan.candidates = [(.weak, 0x10000000)] := by
  obtain ⟨scan, done, _, _, _, once, _, candidates⟩ :=
    scan_object_visits_once weakReferenceVM true 0x10000000 [⟨16, 2⟩] weakReferenceVM_layout
  refine ⟨scan, done, ?_, once rfl, candidates.trans (by decide)⟩
  obtain rfl := Except.ok.inj done
  decide

end MmtkOpenJDK.ObjectModel
