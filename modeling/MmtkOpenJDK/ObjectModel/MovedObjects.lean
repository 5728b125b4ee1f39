import MmtkOpenJDK.Foundation.Relocation
import MmtkOpenJDK.ObjectModel.CopyTo
import MmtkOpenJDK.ObjectModel.ObjectScanning

/-! What a scan finds at the new address of an object, after a compaction and after an
evacuation. -/

namespace MmtkOpenJDK.ObjectModel

open MmtkOpenJDK.Heap MmtkOpenJDK.Foundation
open ByteMemory (Covers Disjoint Copies Move Region Relocated SizedBehind Evacuated Evacuates FreshPlaces)
open Slots (Memory OpenJDKSlot slotBytes regionSlots)

/-- The word in front of the klass pointer. The metadata specs put the forwarding pointer
and its bits there. -/
def markWordBytes : Nat := 8

/-- mmtk-core's copy context of a worker. `forward` is what the collector does to the old
object once `copy` has returned. -/
structure GCWorkerCopyContext (Semantics State : Type) where
  allocCopy : State → Address → BitVec 64 → BitVec 64 → BitVec 64 → Semantics → Address × State
  postCopy : State → Address → BitVec 64 → Semantics → Memory → Memory × State
  forward : Address → Address → Memory → Memory

/-- The collector writes to no part of an object but its mark word. -/
structure GCWorkerCopyContext.KeepsToMarkWords {Semantics State : Type}
    (context : GCWorkerCopyContext Semantics State) : Prop where
  postCopy : ∀ state object bytes semantics memory byte, ¬ Covers object markWordBytes byte →
    (context.postCopy state object bytes semantics memory).1 byte = memory byte
  forward : ∀ src dst memory byte, ¬ Covers src markWordBytes byte →
    context.forward src dst memory byte = memory byte

section Copying

variable (moving : MovingVM) (compressed : Bool) {Semantics State : Type}
variable (context : GCWorkerCopyContext Semantics State)

namespace VMObjectModel

def sizeOfUsize : BitVec 64 := 8

/-- The new object and the memory afterwards. Overlapping ranges are undefined behaviour
in the source. -/
def copy (state : State) (memory : Memory) (src : Address) (semantics : Semantics) : Address × Memory × State :=
  let bytes := OopDesc.size (moving.withMemory memory) compressed src
  let allocated := context.allocCopy state src bytes sizeOfUsize 0 semantics
  let dst := allocated.1
  let copied := memory.copyAscending src dst bytes.toNat
  (dst, context.postCopy allocated.2 dst bytes semantics copied)

end VMObjectModel

/-- The objects that the collector evacuates, in the order in which it meets them, and
where they went. -/
def evacuate : State → Memory → List (Address × Semantics) → List (Move 64) × Memory
  | _, memory, [] => ([], memory)
  | state, memory, (src, semantics) :: rest =>
    let result := VMObjectModel.copy moving compressed context state memory src semantics
    let others := evacuate result.2.2 (context.forward src result.1 result.2.1) rest
    (⟨src, result.1⟩ :: others.1, others.2)

end Copying

/-- The size of an object moves along with the object, whatever its mark word is. -/
def MovingVM.SizeFollows (moving : MovingVM) : Prop :=
  ∀ before after src dst, Relocated markWordBytes before after src dst (moving.objectSize before src).toNat →
    moving.objectSize after dst = moving.objectSize before src

/-- HotSpot's account of an object that can be scanned: what a scan reads and visits is
part of the object. -/
structure IsScannable (moving : MovingVM) (compressed : Bool) (memory : Memory) (maps : List OopMapBlock)
    (object : Address) : Prop extends IsObject moving compressed memory object where
  layout : ValidLayout (moving.withMemory memory) compressed object maps
  low : object.toNat + sizeBytes moving compressed memory object ≤ 2 ^ 63
  regions : ∀ region ∈ referenceRegions (moving.withMemory memory) compressed object maps,
    ∃ offset, markWordBytes ≤ offset ∧
      offset + region.count * slotBytes compressed ≤ sizeBytes moving compressed memory object ∧
      region.start = object + BitVec.ofNat 64 offset
  statics : (OopDesc.klass (moving.withMemory memory) compressed object).id = .instanceMirror →
    ∃ offset, markWordBytes ≤ offset ∧ offset + 4 ≤ sizeBytes moving compressed memory object ∧
      asUsize moving.vm.staticOopFieldCountOffset = BitVec.ofNat 64 offset
  lengthField : (OopDesc.klass (moving.withMemory memory) compressed object).id = .objArray →
    (ArrayOopDesc.lengthOffset compressed).toNat + 4 ≤ sizeBytes moving compressed memory object

/-- The place in the object at `dst` of an address in the object at `src`. -/
def displaced (src dst address : Address) : Address := dst + (address - src)

def displacedSlot {compressed : Bool} (src dst : Address) (slot : OpenJDKSlot compressed) : OpenJDKSlot compressed :=
  ⟨displaced src dst slot.addr⟩

def Scan.displaced {compressed : Bool} (src dst : Address) (scan : Scan compressed) : Scan compressed :=
  ⟨scan.slots.map (displacedSlot src dst),
    scan.candidates.map fun candidate => (candidate.1, ObjectModel.displaced src dst candidate.2)⟩

/-- The collector finds at `dst` the object that was at `src`: the klass and the size are
the same, and a scan visits the same fields, with the same references in them. -/
structure SameObject (moving : MovingVM) (compressed : Bool) (oops : NarrowOops) (before after : Memory)
    (src dst : Address) : Prop where
  klass : OopDesc.klassAddress (moving.withMemory after) compressed dst =
    OopDesc.klassAddress (moving.withMemory before) compressed src
  size : VMObjectModel.getCurrentSize moving compressed after dst =
    VMObjectModel.getCurrentSize moving compressed before src
  scanned : ∃ scan, scanObject (moving.withMemory before) compressed src = .ok scan ∧
    scanObject (moving.withMemory after) compressed dst = .ok (scan.displaced src dst) ∧
    ∀ slot ∈ scan.slots, (displacedSlot src dst slot).load oops after = slot.load oops before

section Displacement

variable {moving : MovingVM} {compressed : Bool} {before after : Memory} {src dst klass : Address}

theorem displaced_offset (offset : Address) : displaced src dst (src + offset) = dst + offset := by
  rw [displaced, add_sub_cancel_left]

theorem displaced_self : displaced src dst src = dst := by
  rw [displaced, sub_self, add_zero]

theorem displacedSlot_offset (offset : Address) :
    displacedSlot src dst (⟨src + offset⟩ : OpenJDKSlot compressed) = ⟨dst + offset⟩ :=
  congrArg OpenJDKSlot.mk (displaced_offset offset)

theorem OopMapBlock.oopIterate_displaced (block : OopMapBlock) :
    block.oopIterate compressed dst = (block.oopIterate compressed src).map (displacedSlot src dst) := by
  rw [oopIterate, oopIterate, List.map_map]
  refine List.map_congr_left ?_
  intro index _
  simp [OopDesc.getFieldAddress, BitVec.add_assoc, displacedSlot_offset]

theorem visitSlice_displaced (offset : Address) (count : Nat) :
    visitSlice compressed (dst + offset, count) =
      (visitSlice compressed (src + offset, count)).map (displacedSlot src dst) := by
  have elements (sizeOfElement : Nat) :
      sliceElements (dst + offset, count) sizeOfElement =
        (sliceElements (src + offset, count) sizeOfElement).map (displaced src dst) := by
    rw [sliceElements, sliceElements, List.map_map]
    refine List.map_congr_left ?_
    intro index _
    simp [BitVec.add_assoc, displaced_offset]
  cases compressed with
  | true =>
    simp only [visitSlice, if_true, elements, List.map_map]
    rfl
  | false =>
    simp only [visitSlice, Bool.false_eq_true, if_false, elements, List.map_map]
    rfl

theorem InstanceKlass.oopIterate_displaced (before after : Memory) (src dst : Address) :
    InstanceKlass.oopIterate (moving.withMemory after) compressed dst klass =
      (InstanceKlass.oopIterate (moving.withMemory before) compressed src klass).map (displacedSlot src dst) := by
  rw [InstanceKlass.oopIterate, InstanceKlass.oopIterate, List.map_flatMap]
  exact List.flatMap_congr fun block _ => block.oopIterate_displaced

theorem InstanceMirrorKlass.oopIterate_displaced
    (statics : InstanceMirrorKlass.staticOopFieldCount (moving.withMemory after) dst =
      InstanceMirrorKlass.staticOopFieldCount (moving.withMemory before) src) :
    InstanceMirrorKlass.oopIterate (moving.withMemory after) compressed dst klass =
      (InstanceMirrorKlass.oopIterate (moving.withMemory before) compressed src klass).map (displacedSlot src dst) := by
  rw [InstanceMirrorKlass.oopIterate, InstanceMirrorKlass.oopIterate, statics, List.map_append,
    InstanceKlass.oopIterate_displaced before after src dst, InstanceMirrorKlass.startOfStaticFields,
    InstanceMirrorKlass.startOfStaticFields]
  exact congrArg _ (visitSlice_displaced _ _)

theorem ObjArrayKlass.oopIterate_displaced
    (length : ArrayOopDesc.length (moving.withMemory after) compressed dst =
      ArrayOopDesc.length (moving.withMemory before) compressed src) :
    ObjArrayKlass.oopIterate (moving.withMemory after) compressed dst =
      (ObjArrayKlass.oopIterate (moving.withMemory before) compressed src).map (displacedSlot src dst) := by
  rw [ObjArrayKlass.oopIterate, ObjArrayKlass.oopIterate, ArrayOopDesc.data, ArrayOopDesc.data, length]
  exact visitSlice_displaced _ _

theorem InstanceRefKlass.oopIterate_displaced :
    InstanceRefKlass.oopIterate (moving.withMemory after) compressed dst klass =
      (InstanceRefKlass.oopIterate (moving.withMemory before) compressed src klass).map (Scan.displaced src dst) := by
  have discovered : displacedSlot src dst
      (⟨InstanceRefKlass.discoveredAddress (moving.withMemory before) src⟩ : OpenJDKSlot compressed) =
      ⟨InstanceRefKlass.discoveredAddress (moving.withMemory after) dst⟩ := displacedSlot_offset _
  have referent : displacedSlot src dst
      (⟨InstanceRefKlass.referentAddress (moving.withMemory before) src⟩ : OpenJDKSlot compressed) =
      ⟨InstanceRefKlass.referentAddress (moving.withMemory after) dst⟩ := displacedSlot_offset _
  have sameKlass : (moving.withMemory after).klassAt klass = (moving.withMemory before).klassAt klass := rfl
  have sameOption : InstanceRefKlass.shouldScanWeakRefs (moving.withMemory after) =
      InstanceRefKlass.shouldScanWeakRefs (moving.withMemory before) := rfl
  rw [InstanceRefKlass.oopIterate, InstanceRefKlass.oopIterate, sameKlass, sameOption,
    InstanceKlass.oopIterate_displaced before after src dst]
  cases InstanceRefKlass.shouldScanWeakRefs (moving.withMemory before) with
  | true =>
    cases ((moving.withMemory before).klassAt klass).referenceType <;>
      simp [Except.map, Scan.displaced, InstanceRefKlass.processRefAsStrong, discovered, referent, displaced_self]
  | false =>
    simp [Except.map, Scan.displaced, InstanceRefKlass.processRefAsStrong, discovered, referent]

/-- The klass pointer lies in front of the length of an array. -/
theorem klassAddress_displaced
    (pointer : ∀ width, 8 + width ≤ (ArrayOopDesc.lengthOffset compressed).toNat →
      after.read (dst + klassOffset) width = before.read (src + klassOffset) width) :
    OopDesc.klassAddress (moving.withMemory after) compressed dst =
      OopDesc.klassAddress (moving.withMemory before) compressed src := by
  cases compressed with
  | true => simp [OopDesc.klassAddress, MovingVM.withMemory, pointer 4 (by decide)]
  | false => simp [OopDesc.klassAddress, MovingVM.withMemory, pointer 8 (by decide)]

/-- A scan depends on the address of the object and on three fields of it. -/
theorem scanObject_displaced
    (klass : OopDesc.klassAddress (moving.withMemory after) compressed dst =
      OopDesc.klassAddress (moving.withMemory before) compressed src)
    (statics : (OopDesc.klass (moving.withMemory before) compressed src).id = .instanceMirror →
      InstanceMirrorKlass.staticOopFieldCount (moving.withMemory after) dst =
        InstanceMirrorKlass.staticOopFieldCount (moving.withMemory before) src)
    (length : (OopDesc.klass (moving.withMemory before) compressed src).id = .objArray →
      ArrayOopDesc.length (moving.withMemory after) compressed dst =
        ArrayOopDesc.length (moving.withMemory before) compressed src) :
    scanObject (moving.withMemory after) compressed dst =
      (scanObject (moving.withMemory before) compressed src).map (Scan.displaced src dst) := by
  have sameKlass (address : Address) :
      (moving.withMemory after).klassAt address = (moving.withMemory before).klassAt address := rfl
  rw [scanObject, scanObject, oopIterate, oopIterate, klass, sameKlass]
  rw [OopDesc.klass] at statics length
  cases id : ((moving.withMemory before).klassAt (OopDesc.klassAddress (moving.withMemory before) compressed src)).id with
  | instanceKlass =>
    simp only [InstanceKlass.oopIterate_displaced before after src dst]
    rfl
  | instanceClassLoader =>
    simp only [InstanceClassLoaderKlass.oopIterate, InstanceKlass.oopIterate_displaced before after src dst]
    rfl
  | instanceMirror => simp [Except.map, Scan.displaced, InstanceMirrorKlass.oopIterate_displaced (statics id)]
  | objArray => simp [Except.map, Scan.displaced, ObjArrayKlass.oopIterate_displaced (length id)]
  | typeArray => rfl
  | instanceRef => exact InstanceRefKlass.oopIterate_displaced

/-- `size` gives the same at both addresses, whichever way it takes. -/
theorem size_displaced
    (klass : OopDesc.klassAddress (moving.withMemory after) compressed dst =
      OopDesc.klassAddress (moving.withMemory before) compressed src)
    (slow : OopDesc.size (moving.withMemory before) compressed src = moving.objectSize before src →
      moving.objectSize after dst = moving.objectSize before src)
    (length : (OopDesc.klass (moving.withMemory before) compressed src).layoutHelper.toInt < 0 →
      ArrayOopDesc.length (moving.withMemory after) compressed dst =
        ArrayOopDesc.length (moving.withMemory before) compressed src) :
    VMObjectModel.getCurrentSize moving compressed after dst =
      VMObjectModel.getCurrentSize moving compressed before src := by
  have sameKlass : OopDesc.klass (moving.withMemory after) compressed dst =
      OopDesc.klass (moving.withMemory before) compressed src := congrArg moving.vm.klassAt klass
  rw [VMObjectModel.getCurrentSize, VMObjectModel.getCurrentSize]
  unfold OopDesc.size at slow ⊢
  rw [sameKlass]
  generalize (OopDesc.klass (moving.withMemory before) compressed src).layoutHelper = lh at slow length ⊢
  by_cases positive : 0 < lh.toInt
  · simp only [if_pos positive] at slow ⊢
    cases path : Klass.layoutHelperNeedsSlowPath lh with
    | true => exact slow (by simp [path, MovingVM.withMemory])
    | false => rfl
  · simp only [if_neg positive] at slow ⊢
    by_cases negative : lh.toInt < 0
    · simp only [if_pos negative]
      rw [length negative]
    · simp only [if_neg negative] at slow ⊢
      exact slow rfl

end Displacement

section Relocation

variable {moving : MovingVM} {compressed : Bool} {oops : NarrowOops} {before after : Memory}
variable {maps : List OopMapBlock} {src dst : Address} {bytes : Nat}

theorem klassAddress_relocated (relocated : Relocated markWordBytes before after src dst bytes)
    (header : (ArrayOopDesc.lengthOffset compressed).toNat ≤ bytes) :
    OopDesc.klassAddress (moving.withMemory after) compressed dst =
      OopDesc.klassAddress (moving.withMemory before) compressed src := by
  refine klassAddress_displaced ?_
  intro width inside
  exact relocated.read (Nat.le_refl 8) (inside.trans header)

theorem loadI32_relocated (relocated : Relocated markWordBytes before after src dst bytes) {offset : Address}
    (behind : markWordBytes ≤ offset.toNat) (inside : offset.toNat + 4 ≤ bytes) :
    loadI32 (moving.withMemory after) (dst + offset) = loadI32 (moving.withMemory before) (src + offset) := by
  have field := relocated.read behind inside
  rw [BitVec.ofNat_toNat, BitVec.setWidth_eq] at field
  exact congrArg (BitVec.ofNat 32) field

theorem length_relocated (relocated : Relocated markWordBytes before after src dst bytes)
    (header : (ArrayOopDesc.lengthOffset compressed).toNat + 4 ≤ bytes) :
    ArrayOopDesc.length (moving.withMemory after) compressed dst =
      ArrayOopDesc.length (moving.withMemory before) compressed src := by
  have behind : markWordBytes ≤ (ArrayOopDesc.lengthOffset compressed).toNat := by cases compressed <;> decide
  exact loadI32_relocated relocated behind header

theorem size_relocated (isObject : IsObject moving compressed before src) (follows : moving.SizeFollows)
    (relocated : Relocated markWordBytes before after src dst (sizeBytes moving compressed before src)) :
    VMObjectModel.getCurrentSize moving compressed after dst =
      VMObjectModel.getCurrentSize moving compressed before src := by
  refine size_displaced (klassAddress_relocated relocated isObject.header) ?_ ?_
  · intro taken
    have covered : sizeBytes moving compressed before src = (moving.objectSize before src).toNat :=
      congrArg BitVec.toNat taken
    exact follows before after src dst (covered ▸ relocated)
  · intro negative
    exact length_relocated relocated (isObject.arrayHeader negative)

theorem IsScannable.scanned (scannable : IsScannable moving compressed before maps src)
    (relocated : Relocated markWordBytes before after src dst (sizeBytes moving compressed before src)) :
    scanObject (moving.withMemory after) compressed dst =
      (scanObject (moving.withMemory before) compressed src).map (Scan.displaced src dst) := by
  refine scanObject_displaced (klassAddress_relocated relocated scannable.header) ?_ ?_
  · intro mirror
    obtain ⟨offset, behind, inside, place⟩ := scannable.statics mirror
    have field := relocated.read behind inside
    rw [← place] at field
    exact congrArg (fun value => (asUsize (BitVec.ofNat 32 value)).toNat) field
  · intro array
    exact length_relocated relocated (scannable.lengthField array)

/-- A reference field is a cell of the object. -/
theorem IsScannable.cell_inside (scannable : IsScannable moving compressed before maps src) {address : Address}
    (member : address ∈ (referenceRegions (moving.withMemory before) compressed src maps).flatMap
      (Region.cells · (slotBytes compressed))) :
    ∃ offset, markWordBytes ≤ offset ∧ offset + slotBytes compressed ≤ sizeBytes moving compressed before src ∧
      address = src + BitVec.ofNat 64 offset := by
  obtain ⟨region, present, cell⟩ := List.mem_flatMap.mp member
  obtain ⟨index, bound, rfl⟩ := Region.mem_cells.mp cell
  obtain ⟨offset, behind, inside, start⟩ := scannable.regions region present
  have last : index * slotBytes compressed + slotBytes compressed ≤ region.count * slotBytes compressed := by
    rw [← Nat.succ_mul]
    exact Nat.mul_le_mul_right _ bound
  refine ⟨offset + index * slotBytes compressed, by omega, by omega, ?_⟩
  rw [Region.cell, start, BitVec.ofNat_add, BitVec.add_assoc]

/-- The reference in a slot of an object in the lower half of the address space. -/
theorem load_of_low (memory : Memory) {slot : OpenJDKSlot compressed} (low : slot.addr.toNat < 2 ^ 63) :
    slot.load oops memory = Slots.cellReference oops compressed (memory.read slot.addr (slotBytes compressed)) := by
  have reported : Slots.taggedSlot compressed compressed slot.addr = .ok slot.addr := by cases compressed <;> rfl
  exact Slots.load_eq memory low id reported

/-- A reference field holds at the new address what it held at the old one. -/
theorem IsScannable.load_relocated (scannable : IsScannable moving compressed before maps src)
    (low : dst.toNat + sizeBytes moving compressed before src ≤ 2 ^ 63)
    (relocated : Relocated markWordBytes before after src dst (sizeBytes moving compressed before src))
    {slot : OpenJDKSlot compressed}
    (member : slot.addr ∈ (referenceRegions (moving.withMemory before) compressed src maps).flatMap
      (Region.cells · (slotBytes compressed))) :
    (displacedSlot src dst slot).load oops after = slot.load oops before := by
  obtain ⟨offset, behind, inside, address⟩ := scannable.cell_inside member
  have place : (displacedSlot src dst slot).addr = dst + BitVec.ofNat 64 offset := by
    rw [displacedSlot, address, displaced_offset]
  have positive : 0 < slotBytes compressed := Slots.slotBytes_pos
  have scannableLow := scannable.low
  have oldLow : slot.addr.toNat < 2 ^ 63 := by
    rw [address, ByteMemory.toNat_offset (by omega)]
    omega
  have newLow : (displacedSlot src dst slot).addr.toNat < 2 ^ 63 := by
    rw [place, ByteMemory.toNat_offset (by omega)]
    omega
  rw [load_of_low after newLow, load_of_low before oldLow, place, address, relocated.read behind inside]

theorem mem_referenceRegions_of_visited {vm : VM} {object : Address} {slot : OpenJDKSlot compressed}
    (member : slot ∈ (visitedRegions vm compressed object maps).flatMap (regionSlots compressed)) :
    slot.addr ∈ (referenceRegions vm compressed object maps).flatMap (Region.cells · (slotBytes compressed)) := by
  obtain ⟨region, visited, cell⟩ := mem_flatMap_regionSlots.mp member
  exact List.mem_flatMap.mpr ⟨region, visitedRegions_sublist.subset visited, cell⟩

/-- The object is the same wherever its bytes have been brought. -/
theorem IsScannable.sameObject (scannable : IsScannable moving compressed before maps src)
    (follows : moving.SizeFollows) (low : dst.toNat + sizeBytes moving compressed before src ≤ 2 ^ 63)
    (relocated : Relocated markWordBytes before after src dst (sizeBytes moving compressed before src)) :
    SameObject moving compressed oops before after src dst := by
  refine ⟨klassAddress_relocated relocated scannable.header, size_relocated scannable.toIsObject follows relocated, ?_⟩
  have scanned := scanObject_eq scannable.layout
  refine ⟨_, scanned, ?_, ?_⟩
  · rw [scannable.scanned relocated, scanned]
    rfl
  · intro slot member
    exact scannable.load_relocated low relocated (mem_referenceRegions_of_visited member)

end Relocation

section Compaction

variable {moving : MovingVM} {compressed : Bool} {memory : Memory} {returned : Address} {moves : List (Move 64)}

theorem Compacting.down (compacting : Compacting moving compressed memory returned moves) :
    ∀ move ∈ moves, move.dst ≤ move.src := by
  induction moves generalizing memory returned with
  | nil => simp
  | cons move rest ih =>
    obtain ⟨_, down, others⟩ := compacting
    intro later member
    rcases List.mem_cons.mp member with rfl | member
    · exact down
    · exact ih others later member

end Compaction

/-- A compaction keeps every object: the collector finds it at its new address with the
same klass, size, fields and references. -/
theorem compaction_keeps_objects (moving : MovingVM) (compressed : Bool) (oops : NarrowOops) (memory : Memory)
    (maps : Address → List OopMapBlock) (returned : Address) (moves : List (Move 64))
    (follows : moving.SizeFollows)
    (scannable : ∀ move ∈ moves, IsScannable moving compressed memory (maps move.src) move.src)
    (ordered : moves.Pairwise fun move later =>
      move.src.toNat + sizeBytes moving compressed memory move.src ≤ later.src.toNat)
    (compacting : Compacting moving compressed memory returned moves) :
    ∀ move ∈ moves,
      SameObject moving compressed oops memory (compact moving compressed memory moves) move.src move.dst := by
  intro move member
  have objects : ObjectsInOrder moving compressed memory moves :=
    ⟨fun move member => (scannable move member).toIsObject, ordered⟩
  have order := objects.inOrder
  have object := scannable move member
  have down : move.dst.toNat ≤ move.src.toNat := compacting.down move member
  have low := object.low
  refine object.sameObject follows (by omega) ?_
  intro index _ bound
  exact (compacting.slides order).contents order member bound

/-- Two arrays of references next to each other, of one element and of two; the first
element of the second one refers to the first one. At `0x3000` there is a narrow oop that
refers to the second one. -/
def objectArraysMemory : Memory := fun byte =>
  if byte = 0x101C then 1 else if byte = 0x1034 ∨ byte = 0x1038 ∨ byte = 0x1039 ∨ byte = 0x3001 then 2
  else if byte = 0x3000 then 5 else 0

/-- The size of an array of narrow oops, as the VM computes it. -/
def objectArraySize (memory : Memory) (object : Address) : BitVec 64 :=
  BitVec.ofNat 64 ((memory.read (object + 12) 4 * 4 + 23) / 8 * 8)

theorem objectArraySize_relocated (before after : Memory) (src dst : Address)
    (relocated : Relocated markWordBytes before after src dst (objectArraySize before src).toNat) :
    objectArraySize after dst = objectArraySize before src := by
  have length : before.read (src + 12) 4 < 256 ^ 4 := ByteMemory.read_lt
  have header : 12 + 4 ≤ (objectArraySize before src).toNat := by
    rw [objectArraySize, BitVec.toNat_ofNat]
    omega
  have same : after.read (dst + 12) 4 = before.read (src + 12) 4 := relocated.read (by decide) header
  rw [objectArraySize, same, objectArraySize]

/-- `0x80100C02` is the layout helper of `Object[]` with compressed klass pointers. -/
def objectArraysVM : MovingVM where
  vm := {
    memory := objectArraysMemory
    klassAt _ := ⟨⟨0x80100C02, .objArray, 0⟩, 0, 0, .none⟩
    blockAt _ := ⟨0, 0⟩
    compressedKlassBase := 0
    compressedKlassShift := 3
    sizeOfInstanceKlass := 480
    offsetOfStaticFields := 0
    staticOopFieldCountOffset := 0
    referentOffset := 0
    discoveredOffset := 0
    getObjectSize := objectArraySize objectArraysMemory
    noReferenceTypes := false }
  objectSize := objectArraySize
  objectSize_own memory other object agree :=
    objectArraySize_relocated memory other object object fun index _ bound => agree _ ⟨index, bound, rfl⟩
  fillAlignmentGap _ _ memory := memory

theorem objectArraysVM_layout (array : Address)
    (length : 0 ≤ (ArrayOopDesc.length (objectArraysVM.withMemory objectArraysMemory) true array).toInt) :
    ValidLayout (objectArraysVM.withMemory objectArraysMemory) true array [] where
  stored isInstance := by cases isInstance
  apart := List.pairwise_singleton _ _
  statics mirror := by cases mirror
  length _ := length
  referenceType reference := by cases reference

theorem objectArraysVM_scannable :
    ∀ object ∈ [(0x1010 : Address), 0x1028], IsScannable objectArraysVM true objectArraysMemory [] object := by
  intro object member
  have regions (array : Address)
      (inside : 16 + (ArrayOopDesc.length (objectArraysVM.withMemory objectArraysMemory) true array).toNat * 4 ≤
        sizeBytes objectArraysVM true objectArraysMemory array) :
      ∀ region ∈ referenceRegions (objectArraysVM.withMemory objectArraysMemory) true array [],
        ∃ offset, markWordBytes ≤ offset ∧
          offset + region.count * slotBytes true ≤ sizeBytes objectArraysVM true objectArraysMemory array ∧
          region.start = array + BitVec.ofNat 64 offset := by
    intro region present
    obtain rfl := List.mem_singleton.mp present
    exact ⟨16, by decide, inside, rfl⟩
  have noMirror (array : Address) :
      (OopDesc.klass (objectArraysVM.withMemory objectArraysMemory) true array).id ≠ .instanceMirror := nofun
  rcases List.mem_pair.mp member with rfl | rfl
  · exact ⟨⟨by decide, by decide, by decide⟩, objectArraysVM_layout _ (by decide), by decide, regions _ (by decide),
      fun mirror => absurd mirror (noMirror _), by decide⟩
  · exact ⟨⟨by decide, by decide, by decide⟩, objectArraysVM_layout _ (by decide), by decide, regions _ (by decide),
      fun mirror => absurd mirror (noMirror _), by decide⟩

/-- The arrays slide down by two words, the second one over the end of the first. -/
theorem object_arrays_compacted :
    SameObject objectArraysVM true ⟨0, 3⟩ objectArraysMemory
      (compact objectArraysVM true objectArraysMemory [⟨0x1010, 0x1000⟩, ⟨0x1028, 0x1018⟩]) 0x1028 0x1018 := by
  have compacting : Compacting objectArraysVM true objectArraysMemory 0 [⟨0x1010, 0x1000⟩, ⟨0x1028, 0x1018⟩] :=
    ⟨by decide, by decide, by decide, by decide, trivial⟩
  refine compaction_keeps_objects objectArraysVM true ⟨0, 3⟩ objectArraysMemory (fun _ => []) 0 _
    objectArraySize_relocated ?_ ?_ compacting ⟨0x1028, 0x1018⟩ (by simp)
  · intro move member
    rcases List.mem_pair.mp member with rfl | rfl
    · exact objectArraysVM_scannable _ (by simp)
    · exact objectArraysVM_scannable _ (by simp)
  · simp only [List.pairwise_cons, List.mem_singleton, forall_eq, List.not_mem_nil, false_implies, implies_true,
      List.Pairwise.nil, and_true]
    decide

section Evacuation

variable {moving : MovingVM} {compressed : Bool} {Semantics State : Type}
variable {context : GCWorkerCopyContext Semantics State} {state : State} {memory : Memory} {src : Address}
variable {objects : List (Address × Semantics)}

/-- What `alloc_copy` promises: the places are free and apart from each other. -/
structure AllocatesFresh (moving : MovingVM) (compressed : Bool) (memory : Memory) (moves : List (Move 64)) :
    Prop where
  fresh : ∀ move ∈ moves, ∀ other ∈ moves, Disjoint move.dst (sizeBytes moving compressed memory move.src)
    other.src (sizeBytes moving compressed memory other.src)
  separate : moves.Pairwise fun move later => Disjoint move.dst (sizeBytes moving compressed memory move.src)
    later.dst (sizeBytes moving compressed memory later.src)
  low : ∀ move ∈ moves, move.dst.toNat + sizeBytes moving compressed memory move.src ≤ 2 ^ 63

theorem IsObject.sizedBehind (isObject : IsObject moving compressed memory src) (follows : moving.SizeFollows) :
    SizedBehind markWordBytes (sizeBytes moving compressed) memory src := by
  refine ⟨?_, ?_⟩
  · have behind : markWordBytes ≤ (ArrayOopDesc.lengthOffset compressed).toNat := by cases compressed <;> decide
    exact behind.trans isObject.header
  · intro other relocated
    exact congrArg BitVec.toNat (size_relocated isObject follows relocated)

/-- `copy` and the forwarding of the old object, together. -/
theorem copy_evacuated (keeps : context.KeepsToMarkWords) (semantics : Semantics)
    (room : markWordBytes ≤ sizeBytes moving compressed memory src)
    (fresh : Disjoint (VMObjectModel.copy moving compressed context state memory src semantics).1
      (sizeBytes moving compressed memory src) src (sizeBytes moving compressed memory src)) :
    let result := VMObjectModel.copy moving compressed context state memory src semantics
    Evacuated markWordBytes memory (context.forward src result.1 result.2.1) src result.1
      (sizeBytes moving compressed memory src) := by
  intro result
  have small : sizeBytes moving compressed memory src ≤ 2 ^ 64 := (BitVec.isLt _).le
  have copies : Copies memory (memory.copyAscending src result.1 (sizeBytes moving compressed memory src)) src result.1
      (sizeBytes moving compressed memory src) :=
    ByteMemory.copies_copyAscending small (ByteMemory.readsAhead_of_disjoint fresh)
  have written (byte : Address) (notNew : ¬ Covers result.1 markWordBytes byte)
      (notOld : ¬ Covers src markWordBytes byte) :
      context.forward src result.1 result.2.1 byte =
        memory.copyAscending src result.1 (sizeBytes moving compressed memory src) byte := by
    rw [keeps.forward _ _ _ _ notOld]
    exact keeps.postCopy _ _ _ _ _ _ notNew
  refine ⟨?_, ?_⟩
  · intro index behind bound
    rw [written, copies.contents index bound]
    · rintro ⟨other, before, same⟩
      have equal := ByteMemory.offset_inj (by omega) (by omega) same
      omega
    · intro noted
      exact fresh _ ⟨index, bound, rfl⟩ (noted.mono room)
  · intro byte notCopied notOld
    rw [written byte (fun noted => notCopied (noted.mono room)) notOld]
    exact copies.frame byte notCopied

theorem evacuate_sources :
    (evacuate moving compressed context state memory objects).1.map Move.src = objects.map Prod.fst := by
  induction objects generalizing state memory with
  | nil => rfl
  | cons object rest ih =>
    rw [evacuate, List.map_cons, List.map_cons]
    exact congrArg _ ih

theorem evacuate_evacuates (keeps : context.KeepsToMarkWords)
    (places : FreshPlaces markWordBytes (sizeBytes moving compressed) memory
      (evacuate moving compressed context state memory objects).1) :
    Evacuates markWordBytes (sizeBytes moving compressed) memory
      (evacuate moving compressed context state memory objects).1
      (evacuate moving compressed context state memory objects).2 := by
  induction objects generalizing state memory with
  | nil => exact .done memory
  | cons object rest ih =>
    obtain ⟨src, semantics⟩ := object
    rw [evacuate] at places ⊢
    have room := (places.objects _ List.mem_cons_self).room
    have fresh := places.fresh _ List.mem_cons_self _ List.mem_cons_self
    have evacuated := copy_evacuated keeps semantics room fresh
    exact .move evacuated (ih (places.next evacuated))

theorem evacuate_origin {move : Move 64}
    (member : move ∈ (evacuate moving compressed context state memory objects).1) :
    ∃ object ∈ objects, object.1 = move.src := by
  have source : move.src ∈ objects.map Prod.fst := evacuate_sources ▸ List.mem_map_of_mem member
  exact List.mem_map.mp source

theorem evacuate_places {maps : Address → List OopMapBlock} (follows : moving.SizeFollows)
    (scannable : ∀ object ∈ objects, IsScannable moving compressed memory (maps object.1) object.1)
    (apart : objects.Pairwise fun object later =>
      Disjoint object.1 (sizeBytes moving compressed memory object.1) later.1
        (sizeBytes moving compressed memory later.1))
    (allocates : AllocatesFresh moving compressed memory (evacuate moving compressed context state memory objects).1) :
    FreshPlaces markWordBytes (sizeBytes moving compressed) memory
      (evacuate moving compressed context state memory objects).1 := by
  have apartMoves : (evacuate moving compressed context state memory objects).1.Pairwise fun move later =>
      Disjoint move.src (sizeBytes moving compressed memory move.src) later.src
        (sizeBytes moving compressed memory later.src) := by
    have addresses : (objects.map Prod.fst).Pairwise fun address later =>
        Disjoint address (sizeBytes moving compressed memory address) later
          (sizeBytes moving compressed memory later) := List.pairwise_map.mpr apart
    rw [← evacuate_sources] at addresses
    exact List.pairwise_map.mp addresses
  refine ⟨?_, apartMoves, allocates.fresh, allocates.separate⟩
  intro move member
  obtain ⟨object, present, same⟩ := evacuate_origin member
  exact same ▸ (scannable object present).sizedBehind follows

end Evacuation

/-- So does an evacuation, in whatever order the objects are met: each of them is found
at the place that `copy` returned for it. -/
theorem evacuation_keeps_objects {Semantics State : Type} (moving : MovingVM) (compressed : Bool) (oops : NarrowOops)
    (context : GCWorkerCopyContext Semantics State) (state : State) (memory : Memory)
    (maps : Address → List OopMapBlock) (objects : List (Address × Semantics)) (follows : moving.SizeFollows)
    (keeps : context.KeepsToMarkWords)
    (scannable : ∀ object ∈ objects, IsScannable moving compressed memory (maps object.1) object.1)
    (apart : objects.Pairwise fun object later =>
      Disjoint object.1 (sizeBytes moving compressed memory object.1) later.1
        (sizeBytes moving compressed memory later.1))
    (allocates : AllocatesFresh moving compressed memory (evacuate moving compressed context state memory objects).1) :
    let result := evacuate moving compressed context state memory objects
    result.1.map Move.src = objects.map Prod.fst ∧
      ∀ move ∈ result.1, SameObject moving compressed oops memory result.2 move.src move.dst := by
  intro result
  have places := evacuate_places follows scannable apart allocates
  refine ⟨evacuate_sources, ?_⟩
  intro move member
  have relocated := (evacuate_evacuates keeps places).contents places member
  obtain ⟨object, present, same⟩ := evacuate_origin member
  have origin : IsScannable moving compressed memory (maps move.src) move.src := same ▸ scannable object present
  exact origin.sameObject follows (allocates.low move member) relocated

/-- A copy allocator that bumps a cursor; the old object gets the new address. -/
def bumpContext : GCWorkerCopyContext Unit Address where
  allocCopy cursor _ bytes _ _ _ := (cursor, cursor + bytes)
  postCopy cursor _ _ _ memory := (memory, cursor)
  forward src dst memory := memory.write src markWordBytes dst.toNat

theorem bumpContext_keepsToMarkWords : bumpContext.KeepsToMarkWords :=
  ⟨fun _ _ _ _ _ _ _ => rfl, fun _ dst _ _ outside => ByteMemory.write_outside dst.toNat outside⟩

/-- The second array is met first. -/
def arraysMet : List (Address × Unit) := [(0x1028, ()), (0x1010, ())]

def arraysMoves : List (Move 64) := [⟨0x1028, 0x2000⟩, ⟨0x1010, 0x2018⟩]

theorem arraysMoves_eq :
    (evacuate objectArraysVM true bumpContext 0x2000 objectArraysMemory arraysMet).1 = arraysMoves := by
  have size : OopDesc.size (objectArraysVM.withMemory objectArraysMemory) true 0x1028 = 24 := by decide
  simp only [arraysMet, evacuate, VMObjectModel.copy, bumpContext, size]
  rfl

theorem objectArrays_sizes : sizeBytes objectArraysVM true objectArraysMemory 0x1028 = 24 ∧
    sizeBytes objectArraysVM true objectArraysMemory 0x1010 = 24 := by decide

theorem arraysMet_scannable :
    ∀ object ∈ arraysMet, IsScannable objectArraysVM true objectArraysMemory [] object.1 := by
  intro object member
  rcases List.mem_pair.mp member with rfl | rfl
  · exact objectArraysVM_scannable _ (by simp)
  · exact objectArraysVM_scannable _ (by simp)

theorem arraysMet_apart : arraysMet.Pairwise fun object later =>
    Disjoint object.1 (sizeBytes objectArraysVM true objectArraysMemory object.1) later.1
      (sizeBytes objectArraysVM true objectArraysMemory later.1) := by
  rw [arraysMet, List.pairwise_pair, objectArrays_sizes.1, objectArrays_sizes.2]
  exact (ByteMemory.disjoint_of_le (by decide) (by decide)).symm

theorem arraysMoves_fresh : AllocatesFresh objectArraysVM true objectArraysMemory arraysMoves := by
  obtain ⟨first, second⟩ := objectArrays_sizes
  have above (place object : Address) (ordered : object.toNat + 24 ≤ place.toNat) (inside : place.toNat + 24 ≤ 2 ^ 64) :
      Disjoint place 24 object 24 := (ByteMemory.disjoint_of_le ordered inside).symm
  refine ⟨?_, ?_, ?_⟩
  · simp only [arraysMoves, List.mem_cons, List.not_mem_nil, or_false, forall_eq_or_imp, forall_eq, first, second]
    exact ⟨⟨above _ _ (by decide) (by decide), above _ _ (by decide) (by decide)⟩,
      above _ _ (by decide) (by decide), above _ _ (by decide) (by decide)⟩
  · rw [arraysMoves, List.pairwise_pair, first, second]
    exact ByteMemory.disjoint_of_le (by decide) (by decide)
  · simp only [arraysMoves, List.mem_cons, List.not_mem_nil, or_false, forall_eq_or_imp, forall_eq, first, second]
    decide

theorem object_arrays_evacuated :
    SameObject objectArraysVM true ⟨0, 3⟩ objectArraysMemory
      (evacuate objectArraysVM true bumpContext 0x2000 objectArraysMemory arraysMet).2 0x1010 0x2018 := by
  have kept := evacuation_keeps_objects objectArraysVM true ⟨0, 3⟩ bumpContext 0x2000 objectArraysMemory (fun _ => [])
    arraysMet objectArraySize_relocated bumpContext_keepsToMarkWords arraysMet_scannable arraysMet_apart
    (arraysMoves_eq ▸ arraysMoves_fresh)
  refine kept.2 ⟨0x1010, 0x2018⟩ ?_
  rw [arraysMoves_eq]
  exact List.mem_cons_of_mem _ List.mem_cons_self

end MmtkOpenJDK.ObjectModel
