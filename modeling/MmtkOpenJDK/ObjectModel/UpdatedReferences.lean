import Mathlib.Data.List.Pairwise
import MmtkOpenJDK.ObjectModel.MovedObjects

/-! The references after an evacuation. The roots, every slot that a scan of a moved object
finds, and the referents of the references that were registered as candidates are updated.
mmtk-core decides on each update from the reference that it has loaded; the update itself is
the binding's. -/

namespace MmtkOpenJDK.ObjectModel

open MmtkOpenJDK.Heap MmtkOpenJDK.Foundation
open ByteMemory (Covers Disjoint Move Region Relocated RelocatedExcept CellWork)
open Slots (Memory OpenJDKSlot slotBytes regionSlots cellBytes taggedSlot Storable)

namespace VMReferenceGlue

variable (vm : VM) (compressed : Bool) (oops : NarrowOops)

def referentSlot (reference : Address) : OpenJDKSlot compressed := ⟨InstanceRefKlass.referentAddress vm reference⟩

def setReferent (memory : Memory) (reff referent : Address) : Memory :=
  (referentSlot vm compressed reff).store oops memory referent

def getReferent (memory : Memory) (object : Address) : Option Address :=
  (referentSlot vm compressed object).load oops memory

def clearReferent (memory : Memory) (newReference : Address) : Memory :=
  (referentSlot vm compressed newReference).storeNull memory

end VMReferenceGlue

/-- The new address of an object; objects that were not moved keep theirs. -/
def forwarded (moves : List (Move 64)) (object : Address) : Address :=
  ((moves.find? fun move => move.src == object).map Move.dst).getD object

/-- What mmtk-core does about the referent of a candidate. -/
inductive ReferentUpdate where
  | keep
  | setReferent (referent : Address)
  | clearReferent
  deriving DecidableEq

/-- mmtk-core's part in the updates. `processSlot` is the object that it stores in a slot, if
any, after it has loaded it. -/
structure ReferenceProcessing (compressed : Bool) where
  processSlot : OpenJDKSlot compressed → Option Address → Option Address
  processReference : Address → Option Address → ReferentUpdate

/-- What mmtk-core promises. It leaves null references alone. In a slot the new address of
the object is stored, but may not be if the object was not moved. The referent of a retained
reference is treated likewise, and that of any other is cleared. -/
structure ReferenceProcessing.Documented {compressed : Bool} (processing : ReferenceProcessing compressed)
    (trace : Address → Address) (retained : Address → Bool) : Prop where
  nullSlot : ∀ slot, processing.processSlot slot none = none
  slot : ∀ slot object, (processing.processSlot slot (some object)).getD object = trace object
  nullReferent : ∀ reference, processing.processReference reference none = .keep
  kept : ∀ reference referent, retained reference = true →
    processing.processReference reference (some referent) = .setReferent (trace referent) ∨
      processing.processReference reference (some referent) = .keep ∧ trace referent = referent
  cleared : ∀ reference referent, retained reference = false →
    processing.processReference reference (some referent) = .clearReferent

section Processing

variable (vm : VM) {compressed : Bool} (oops : NarrowOops) (processing : ReferenceProcessing compressed)

/-- The binding's load and store around what mmtk-core decides on a slot. -/
def updateSlot (slot : OpenJDKSlot compressed) (memory : Memory) : Memory :=
  match processing.processSlot slot (slot.load oops memory) with
  | none => memory
  | some object => slot.store oops memory object

/-- The binding's accesses to a referent around what mmtk-core decides on it. -/
def updateReferent (reference : Address) (memory : Memory) : Memory :=
  match processing.processReference reference (VMReferenceGlue.getReferent vm compressed oops memory reference) with
  | .keep => memory
  | .setReferent referent => VMReferenceGlue.setReferent vm compressed oops memory reference referent
  | .clearReferent => VMReferenceGlue.clearReferent vm compressed memory reference

end Processing

/-- A root is reported as in `MMTkRootsClosure`, a field as in a scan. -/
inductive SlotWork (compressed : Bool) where
  | root (narrow : Bool) (p : Address) (slot : OpenJDKSlot compressed)
  | field (slot : OpenJDKSlot compressed)
  | candidate (reference : Address)
  deriving DecidableEq

section Work

variable (vm : VM) {compressed : Bool} (oops : NarrowOops) (processing : ReferenceProcessing compressed)
variable (trace : Address → Address) (retained : Address → Bool)

namespace SlotWork

def slot : SlotWork compressed → OpenJDKSlot compressed
  | .root _ _ slot => slot
  | .field slot => slot
  | .candidate reference => VMReferenceGlue.referentSlot vm compressed reference

def narrow : SlotWork compressed → Bool
  | .root narrow _ _ => narrow
  | _ => compressed

def address (work : SlotWork compressed) : Address :=
  match work with
  | .root _ p _ => p
  | work => (work.slot vm).addr

def apply : SlotWork compressed → Memory → Memory
  | .root _ _ slot => updateSlot oops processing slot
  | .field slot => updateSlot oops processing slot
  | .candidate reference => updateReferent vm oops processing reference

/-- What becomes of the reference in the slot. -/
def change : SlotWork compressed → Option Address → Option Address
  | .candidate reference, referent => if retained reference then referent.map trace else none
  | _, object => object.map trace

/-- The word by which the cell is reported, in the lower half of the address space. -/
structure Reported (work : SlotWork compressed) : Prop where
  low : (work.address vm).toNat < 2 ^ 63
  kind : work.narrow = true → compressed = true
  reported : taggedSlot compressed work.narrow (work.address vm) = .ok (work.slot vm).addr

end SlotWork

end Work

/-- The work of a collection on references, and what it is to come to. -/
def referenceWork (vm : VM) {compressed : Bool} (oops : NarrowOops) (processing : ReferenceProcessing compressed)
    (trace : Address → Address) (retained : Address → Bool) :
    CellWork 64 (SlotWork compressed) (Option Address) where
  address work := work.address vm
  bytes work := cellBytes work.narrow
  load work := (work.slot vm).load oops
  apply work := work.apply vm oops processing
  change work := work.change trace retained
  admissible work object := Storable oops work.narrow (object.map trace)

section Cells

variable {vm : VM} {compressed : Bool} {oops : NarrowOops} {processing : ReferenceProcessing compressed}
variable {trace : Address → Address} {retained : Address → Bool}
variable {slot : OpenJDKSlot compressed} {narrow : Bool} {p : Address} {memory : Memory}

theorem updateSlot_frame (low : p.toNat < 2 ^ 63) (kind : narrow = true → compressed = true)
    (reported : taggedSlot compressed narrow p = .ok slot.addr) {byte : Address}
    (outside : ¬ Covers p (cellBytes narrow) byte) : updateSlot oops processing slot memory byte = memory byte := by
  have cell := Slots.slot_isCell oops low kind reported
  rw [updateSlot]
  cases processing.processSlot slot (slot.load oops memory) with
  | none => rfl
  | some object => exact cell.frame memory (some object) byte outside

theorem updateSlot_load (documented : processing.Documented trace retained) (low : p.toNat < 2 ^ 63)
    (kind : narrow = true → compressed = true) (reported : taggedSlot compressed narrow p = .ok slot.addr)
    (storable : Storable oops narrow ((slot.load oops memory).map trace)) :
    slot.load oops (updateSlot oops processing slot memory) = (slot.load oops memory).map trace := by
  cases held : slot.load oops memory with
  | none => simp only [updateSlot, held, documented.nullSlot, Option.map_none]
  | some object =>
    rw [held] at storable
    have traced := documented.slot slot object
    cases stored : processing.processSlot slot (some object) with
    | none =>
      have same : object = trace object := by rwa [stored] at traced
      simp only [updateSlot, held, stored, Option.map_some, ← same]
    | some target =>
      obtain rfl : target = trace object := by rwa [stored] at traced
      simp only [updateSlot, held, stored]
      exact Slots.load_assign memory (some (trace object)) low kind reported storable

theorem referent_reported (vm : VM) (compressed : Bool) (reference : Address) :
    taggedSlot compressed compressed (InstanceRefKlass.referentAddress vm reference) =
      .ok (VMReferenceGlue.referentSlot vm compressed reference).addr := by
  cases compressed <;> rfl

theorem updateReferent_frame {reference byte : Address}
    (low : (InstanceRefKlass.referentAddress vm reference).toNat < 2 ^ 63)
    (outside : ¬ Covers (InstanceRefKlass.referentAddress vm reference) (cellBytes compressed) byte) :
    updateReferent vm oops processing reference memory byte = memory byte := by
  have cell := Slots.slot_isCell oops low id (referent_reported vm compressed reference)
  rw [updateReferent]
  cases processing.processReference reference
      (VMReferenceGlue.getReferent vm compressed oops memory reference) with
  | keep => rfl
  | setReferent referent => exact cell.frame memory (some referent) byte outside
  | clearReferent => exact cell.frame memory none byte outside

theorem updateReferent_load (documented : processing.Documented trace retained) {reference : Address}
    (low : (InstanceRefKlass.referentAddress vm reference).toNat < 2 ^ 63)
    (storable : Storable oops compressed
      ((VMReferenceGlue.getReferent vm compressed oops memory reference).map trace)) :
    VMReferenceGlue.getReferent vm compressed oops (updateReferent vm oops processing reference memory) reference =
      if retained reference then (VMReferenceGlue.getReferent vm compressed oops memory reference).map trace
      else none := by
  have reported := referent_reported vm compressed reference
  cases held : VMReferenceGlue.getReferent vm compressed oops memory reference with
  | none => simp only [updateReferent, held, documented.nullReferent, Option.map_none, ite_self]
  | some referent =>
    rw [held] at storable
    cases keep : retained reference with
    | true =>
      rcases documented.kept reference referent keep with update | ⟨update, same⟩
      · simp only [updateReferent, held, update, if_true]
        exact Slots.load_assign memory (some (trace referent)) low id reported storable
      · simp only [updateReferent, held, update, if_true, Option.map_some, same]
    | false =>
      have update := documented.cleared reference referent keep
      simp only [updateReferent, held, update, Bool.false_eq_true, if_false]
      exact Slots.load_assign memory none low id reported (by simp [Storable])

theorem SlotWork.Reported.isLocal {work : SlotWork compressed} (documented : processing.Documented trace retained)
    (valid : work.Reported vm) : (referenceWork vm oops processing trace retained).Local work := by
  refine ⟨(Slots.slot_isCell oops valid.low valid.kind valid.reported).reads, ?_, ?_⟩
  · intro memory byte outside
    cases work with
    | root narrow p slot => exact updateSlot_frame valid.low valid.kind valid.reported outside
    | field slot => exact updateSlot_frame valid.low valid.kind valid.reported outside
    | candidate reference => exact updateReferent_frame valid.low outside
  · intro memory storable
    cases work with
    | root narrow p slot => exact updateSlot_load documented valid.low valid.kind valid.reported storable
    | field slot => exact updateSlot_load documented valid.low valid.kind valid.reported storable
    | candidate reference => exact updateReferent_load documented valid.low storable

end Cells

/-- The work that a scan of an object gives rise to. -/
def Scan.work {compressed : Bool} (scan : Scan compressed) : List (SlotWork compressed) :=
  scan.slots.map .field ++ scan.candidates.map fun candidate => .candidate candidate.2

def objectWork (vm : VM) (compressed : Bool) (object : Address) : List (SlotWork compressed) :=
  match scanObject vm compressed object with
  | .ok scan => scan.work
  | .error _ => []

section Objects

variable {vm : VM} {compressed : Bool} {object src dst : Address} {maps : List OopMapBlock}

theorem map_address_field (region : Region 64) :
    (regionSlots compressed region).map (fun slot => (SlotWork.field slot).address vm) =
      region.cells (slotBytes compressed) := by
  rw [regionSlots, List.map_map]
  exact List.map_id _

/-- The work on an object is on its reference fields, each of them once. -/
theorem objectWork_addresses (layout : ValidLayout vm compressed object maps) :
    (objectWork vm compressed object).map (SlotWork.address vm) =
      (referenceRegions vm compressed object maps).flatMap (Region.cells · (slotBytes compressed)) := by
  have fields (regions : List (Region 64)) :
      ((regions.flatMap (regionSlots compressed)).map SlotWork.field).map (SlotWork.address vm) =
        regions.flatMap (Region.cells · (slotBytes compressed)) := by
    rw [List.map_map, List.map_flatMap]
    exact List.flatMap_congr fun region _ => map_address_field region
  have typed := layout.referenceType
  simp only [objectWork, scanObject_eq layout, Scan.work, List.map_append, fields, visitedRegions, registered,
    referenceRegions]
  cases id : (OopDesc.klass vm compressed object).id with
  | instanceKlass => simp
  | instanceClassLoader => simp
  | instanceMirror => simp
  | objArray => simp
  | typeArray => simp
  | instanceRef =>
    by_cases strong : TreatedAsStrong vm (OopDesc.klass vm compressed object)
    · simp [strong]
    · have weak : ∃ kind, candidateKind (OopDesc.klass vm compressed object).referenceType = some kind := by
        have some := typed id
        rw [TreatedAsStrong] at strong
        cases type : (OopDesc.klass vm compressed object).referenceType <;> simp_all [candidateKind]
      obtain ⟨kind, known⟩ := weak
      simp [strong, known, SlotWork.address, SlotWork.slot, VMReferenceGlue.referentSlot, referentRegion, Region.cells,
        Region.cell, InstanceRefKlass.referentAddress, OopDesc.getFieldAddress, asUsize]

end Objects

section Fields

variable (moving : MovingVM) (compressed : Bool) (memory : Memory) (maps : List OopMapBlock) (object : Address)

/-- HotSpot keeps the references apart from the fields that `size` and a scan read. -/
structure FieldsApart : Prop where
  header : ∀ region ∈ referenceRegions (moving.withMemory memory) compressed object maps,
    Disjoint object (ArrayOopDesc.lengthOffset compressed).toNat region.start (region.count * slotBytes compressed)
  length : (OopDesc.klass (moving.withMemory memory) compressed object).layoutHelper.toInt < 0 ∨
      (OopDesc.klass (moving.withMemory memory) compressed object).id = .objArray →
    ∀ region ∈ referenceRegions (moving.withMemory memory) compressed object maps,
      Disjoint (object + ArrayOopDesc.lengthOffset compressed) 4 region.start (region.count * slotBytes compressed)
  statics : (OopDesc.klass (moving.withMemory memory) compressed object).id = .instanceMirror →
    ∀ region ∈ referenceRegions (moving.withMemory memory) compressed object maps,
      Disjoint (object + asUsize moving.vm.staticOopFieldCountOffset) 4 region.start
        (region.count * slotBytes compressed)

/-- What a collection writes in an object that it moves: the mark word and references. -/
def Rewritten (index : Nat) : Prop :=
  index < markWordBytes ∨ ∃ region ∈ referenceRegions (moving.withMemory memory) compressed object maps,
    Covers region.start (region.count * slotBytes compressed) (object + BitVec.ofNat 64 index)

end Fields

/-- The size of an object depends neither on its mark word nor on its references. -/
def MovingVM.SizeKept (moving : MovingVM) (compressed : Bool) (maps : Address → List OopMapBlock) : Prop :=
  ∀ before after src dst,
    RelocatedExcept (Rewritten moving compressed before (maps src) src) before after src dst
      (moving.objectSize before src).toNat → moving.objectSize after dst = moving.objectSize before src

theorem MovingVM.SizeKept.follows {moving : MovingVM} {compressed : Bool} {maps : Address → List OopMapBlock}
    (kept : moving.SizeKept compressed maps) : moving.SizeFollows :=
  fun before after src dst relocated => kept before after src dst (relocated.except fun _ below => .inl below)

section Rescan

variable {moving : MovingVM} {compressed : Bool} {before after : Memory} {maps : List OopMapBlock}
variable {src dst : Address} {bytes : Nat}

/-- A field that is apart from the references is not rewritten. -/
theorem read_of_apart (relocated : RelocatedExcept (Rewritten moving compressed before maps src) before after src dst bytes)
    {offset : Address} {count : Nat} (behind : markWordBytes ≤ offset.toNat) (inside : offset.toNat + count ≤ bytes)
    (apart : ∀ region ∈ referenceRegions (moving.withMemory before) compressed src maps,
      Disjoint (src + offset) count region.start (region.count * slotBytes compressed)) :
    after.read (dst + offset) count = before.read (src + offset) count := by
  have same : BitVec.ofNat 64 offset.toNat = offset := by simp
  have kept : ∀ index, offset.toNat ≤ index → index < offset.toNat + count →
      ¬ Rewritten moving compressed before maps src index := by
    rintro index above below (header | ⟨region, present, covered⟩)
    · omega
    · refine apart region present _ ⟨index - offset.toNat, by omega, ?_⟩ covered
      rw [← same, BitVec.add_assoc, ← BitVec.ofNat_add, same, Nat.add_sub_cancel' above]
  have field := relocated.read kept inside
  rwa [same] at field

theorem FieldsApart.klassAddress (apart : FieldsApart moving compressed before maps src)
    (relocated : RelocatedExcept (Rewritten moving compressed before maps src) before after src dst bytes)
    (header : (ArrayOopDesc.lengthOffset compressed).toNat ≤ bytes) :
    OopDesc.klassAddress (moving.withMemory after) compressed dst =
      OopDesc.klassAddress (moving.withMemory before) compressed src := by
  refine klassAddress_displaced ?_
  intro width inside
  refine read_of_apart relocated (Nat.le_refl 8) (inside.trans header) ?_
  intro region present byte covered
  exact apart.header region present byte (covered.within inside)

theorem FieldsApart.arrayLength (apart : FieldsApart moving compressed before maps src)
    (relocated : RelocatedExcept (Rewritten moving compressed before maps src) before after src dst bytes)
    (array : (OopDesc.klass (moving.withMemory before) compressed src).layoutHelper.toInt < 0 ∨
      (OopDesc.klass (moving.withMemory before) compressed src).id = .objArray)
    (header : (ArrayOopDesc.lengthOffset compressed).toNat + 4 ≤ bytes) :
    ArrayOopDesc.length (moving.withMemory after) compressed dst =
      ArrayOopDesc.length (moving.withMemory before) compressed src := by
  have behind : markWordBytes ≤ (ArrayOopDesc.lengthOffset compressed).toNat := by cases compressed <;> decide
  exact congrArg (BitVec.ofNat 32) (read_of_apart relocated behind header (apart.length array))

theorem IsScannable.rescanned (scannable : IsScannable moving compressed before maps src)
    (apart : FieldsApart moving compressed before maps src)
    (relocated : RelocatedExcept (Rewritten moving compressed before maps src) before after src dst
      (sizeBytes moving compressed before src)) :
    scanObject (moving.withMemory after) compressed dst =
      (scanObject (moving.withMemory before) compressed src).map (Scan.displaced src dst) := by
  refine scanObject_displaced (apart.klassAddress relocated scannable.header) ?_ ?_
  · intro mirror
    obtain ⟨offset, behind, inside, place⟩ := scannable.statics mirror
    have small : sizeBytes moving compressed before src < 2 ^ 64 := BitVec.isLt _
    have number : (asUsize moving.vm.staticOopFieldCountOffset).toNat = offset := by
      rw [place, BitVec.toNat_ofNat, Nat.mod_eq_of_lt (by omega)]
    have field := read_of_apart relocated (number.symm ▸ behind) (number.symm ▸ inside) (apart.statics mirror)
    exact congrArg (fun value => (asUsize (BitVec.ofNat 32 value)).toNat) field
  · intro array
    exact apart.arrayLength relocated (.inr array) (scannable.lengthField array)

theorem IsScannable.resized {maps : Address → List OopMapBlock}
    (scannable : IsScannable moving compressed before (maps src) src)
    (apart : FieldsApart moving compressed before (maps src) src) (kept : moving.SizeKept compressed maps)
    (relocated : RelocatedExcept (Rewritten moving compressed before (maps src) src) before after src dst
      (sizeBytes moving compressed before src)) :
    VMObjectModel.getCurrentSize moving compressed after dst =
      VMObjectModel.getCurrentSize moving compressed before src := by
  refine size_displaced (apart.klassAddress relocated scannable.header) ?_ ?_
  · intro taken
    have covered : sizeBytes moving compressed before src = (moving.objectSize before src).toNat :=
      congrArg BitVec.toNat taken
    exact kept before after src dst (covered ▸ relocated)
  · intro negative
    exact apart.arrayLength relocated (.inl negative) (scannable.arrayHeader negative)

end Rescan

section Placement

variable {moving : MovingVM} {compressed : Bool} {memory mid : Memory} {maps : List OopMapBlock} {src dst : Address}

theorem referentAddress_displaced (vm : VM) (reference : Address) :
    InstanceRefKlass.referentAddress vm (displaced src dst reference) =
      displaced src dst (InstanceRefKlass.referentAddress vm reference) := by
  rw [InstanceRefKlass.referentAddress, InstanceRefKlass.referentAddress, OopDesc.getFieldAddress,
    OopDesc.getFieldAddress, displaced, displaced, add_sub_right_comm, add_assoc]

theorem SlotWork.address_displaced (vm : VM) (scan : Scan compressed) :
    (scan.displaced src dst).work.map (SlotWork.address vm) =
      (scan.work.map (SlotWork.address vm)).map (displaced src dst) := by
  simp only [Scan.work, Scan.displaced, List.map_append, List.map_map]
  refine congrArg₂ _ rfl (List.map_congr_left ?_)
  intro candidate _
  exact referentAddress_displaced vm candidate.2

/-- The work on a moved object is on its reference fields, at their new places. -/
theorem IsScannable.work_placed (scannable : IsScannable moving compressed memory maps src)
    (relocated : Relocated markWordBytes memory mid src dst (sizeBytes moving compressed memory src)) :
    (objectWork (moving.withMemory mid) compressed dst).map (SlotWork.address moving.vm) =
      ((referenceRegions (moving.withMemory memory) compressed src maps).flatMap
        (Region.cells · (slotBytes compressed))).map (displaced src dst) := by
  have scanned := scannable.scanned relocated
  have sources := objectWork_addresses scannable.layout
  rw [objectWork, scanObject_eq scannable.layout] at sources
  rw [objectWork, scanned, scanObject_eq scannable.layout, ← sources]
  exact SlotWork.address_displaced moving.vm _

theorem IsScannable.work_inside (scannable : IsScannable moving compressed memory maps src)
    (relocated : Relocated markWordBytes memory mid src dst (sizeBytes moving compressed memory src))
    {work : SlotWork compressed} (member : work ∈ objectWork (moving.withMemory mid) compressed dst) :
    ∃ offset, offset + slotBytes compressed ≤ sizeBytes moving compressed memory src ∧
      work.address moving.vm = dst + BitVec.ofNat 64 offset ∧
      ∃ region ∈ referenceRegions (moving.withMemory memory) compressed src maps,
        src + BitVec.ofNat 64 offset ∈ region.cells (slotBytes compressed) := by
  have place : work.address moving.vm ∈ (objectWork (moving.withMemory mid) compressed dst).map
      (SlotWork.address moving.vm) := List.mem_map_of_mem member
  rw [scannable.work_placed relocated] at place
  obtain ⟨address, cell, same⟩ := List.mem_map.mp place
  obtain ⟨offset, _, inside, rfl⟩ := scannable.cell_inside cell
  rw [displaced_offset] at same
  exact ⟨offset, inside, same.symm, List.mem_flatMap.mp cell⟩

/-- Fields are reported without a tag. -/
theorem objectWork_plain (offsets : VM) {vm : VM} {object : Address} {work : SlotWork compressed}
    (member : work ∈ objectWork vm compressed object) :
    work.narrow = compressed ∧ (work.slot offsets).addr = work.address offsets := by
  rw [objectWork] at member
  split at member
  · rcases List.mem_append.mp member with field | candidate
    · obtain ⟨slot, _, rfl⟩ := List.mem_map.mp field
      exact ⟨rfl, rfl⟩
    · obtain ⟨reference, _, rfl⟩ := List.mem_map.mp candidate
      exact ⟨rfl, rfl⟩
  · cases member

theorem IsScannable.work_reported (scannable : IsScannable moving compressed memory maps src)
    (low : dst.toNat + sizeBytes moving compressed memory src ≤ 2 ^ 63)
    (relocated : Relocated markWordBytes memory mid src dst (sizeBytes moving compressed memory src))
    {work : SlotWork compressed} (member : work ∈ objectWork (moving.withMemory mid) compressed dst) :
    work.Reported moving.vm := by
  obtain ⟨offset, inside, place, _⟩ := scannable.work_inside relocated member
  have positive : 0 < slotBytes compressed := Slots.slotBytes_pos
  obtain ⟨narrow, plain⟩ := objectWork_plain moving.vm member
  refine ⟨?_, fun isNarrow => narrow ▸ isNarrow, ?_⟩
  · rw [place, ByteMemory.toNat_offset (by omega)]
    omega
  · rw [narrow, plain]
    cases compressed <;> rfl

end Placement

section Updates

/-- Roots and slots of objects that stay where they are: their cells overlap neither each
other nor an object that moves. -/
structure OutsideMoves (moving : MovingVM) {compressed : Bool} (memory : Memory) (moves : List (Move 64))
    (others : List (SlotWork compressed)) : Prop where
  reported : ∀ work ∈ others, work.Reported moving.vm
  apart : others.Pairwise fun work later =>
    Disjoint (work.address moving.vm) (cellBytes work.narrow) (later.address moving.vm) (cellBytes later.narrow)
  outside : ∀ work ∈ others, ∀ move ∈ moves,
    Disjoint (work.address moving.vm) (cellBytes work.narrow) move.src (sizeBytes moving compressed memory move.src) ∧
    Disjoint (work.address moving.vm) (cellBytes work.narrow) move.dst (sizeBytes moving compressed memory move.src)

/-- Objects that have been brought to new places. -/
structure Brought (moving : MovingVM) (compressed : Bool) (memory mid : Memory) (maps : Address → List OopMapBlock)
    (moves : List (Move 64)) : Prop where
  scannable : ∀ move ∈ moves, IsScannable moving compressed memory (maps move.src) move.src
  relocated : ∀ move ∈ moves,
    Relocated markWordBytes memory mid move.src move.dst (sizeBytes moving compressed memory move.src)
  separate : moves.Pairwise fun move later => Disjoint move.dst (sizeBytes moving compressed memory move.src)
    later.dst (sizeBytes moving compressed memory later.src)
  low : ∀ move ∈ moves, move.dst.toNat + sizeBytes moving compressed memory move.src ≤ 2 ^ 63

variable {moving : MovingVM} {compressed : Bool} {memory mid : Memory} {maps : Address → List OopMapBlock}
variable {moves : List (Move 64)} {others : List (SlotWork compressed)} {move : Move 64} {work : SlotWork compressed}

/-- The cell of a field of a moved object is part of the object. -/
theorem Brought.inside (brought : Brought moving compressed memory mid maps moves) (member : move ∈ moves)
    (own : work ∈ objectWork (moving.withMemory mid) compressed move.dst) {byte : Address}
    (covered : Covers (work.address moving.vm) (cellBytes work.narrow) byte) :
    Covers move.dst (sizeBytes moving compressed memory move.src) byte := by
  obtain ⟨offset, inside, place, _⟩ := (brought.scannable move member).work_inside (brought.relocated move member) own
  rw [(objectWork_plain moving.vm own).1, place] at covered
  exact covered.within inside

/-- All the work after an evacuation. -/
def collectionWork (moving : MovingVM) (compressed : Bool) (mid : Memory) (moves : List (Move 64))
    (others : List (SlotWork compressed)) : List (SlotWork compressed) :=
  others ++ moves.flatMap fun move => objectWork (moving.withMemory mid) compressed move.dst

theorem mem_collectionWork : work ∈ collectionWork moving compressed mid moves others ↔
    work ∈ others ∨ ∃ move ∈ moves, work ∈ objectWork (moving.withMemory mid) compressed move.dst := by
  rw [collectionWork, List.mem_append, List.mem_flatMap]

theorem Brought.reported (brought : Brought moving compressed memory mid maps moves)
    (outside : OutsideMoves moving memory moves others)
    (member : work ∈ collectionWork moving compressed mid moves others) : work.Reported moving.vm := by
  rcases mem_collectionWork.mp member with other | ⟨move, moved, own⟩
  · exact outside.reported work other
  · exact (brought.scannable move moved).work_reported (brought.low move moved) (brought.relocated move moved) own

/-- The cells of one moved object do not overlap. -/
theorem Brought.apart_object (brought : Brought moving compressed memory mid maps moves) (member : move ∈ moves) :
    (objectWork (moving.withMemory mid) compressed move.dst).Pairwise fun work later =>
      Disjoint (work.address moving.vm) (cellBytes work.narrow) (later.address moving.vm) (cellBytes later.narrow) := by
  have scannable := brought.scannable move member
  have cells := ByteMemory.pairwise_flatMap_cells (fun region present => referenceRegions_fit present)
    scannable.layout.apart
  have places : (((referenceRegions (moving.withMemory memory) compressed move.src (maps move.src)).flatMap
      (Region.cells · (slotBytes compressed))).map (displaced move.src move.dst)).Pairwise fun first second =>
        Disjoint first (slotBytes compressed) second (slotBytes compressed) := by
    refine List.pairwise_map.mpr (cells.imp ?_)
    intro first second disjoint
    have moved (address : Address) : displaced move.src move.dst address = address + (move.dst - move.src) := by
      rw [displaced, add_comm, sub_add_eq_add_sub, add_sub_assoc]
    rw [moved, moved]
    exact disjoint.translate _
  rw [← scannable.work_placed (brought.relocated move member)] at places
  refine (List.pairwise_map.mp places).imp_of_mem ?_
  intro work later own own' disjoint
  rw [(objectWork_plain moving.vm own).1, (objectWork_plain moving.vm own').1]
  exact disjoint

theorem Brought.apart (brought : Brought moving compressed memory mid maps moves)
    (outside : OutsideMoves moving memory moves others) :
    (collectionWork moving compressed mid moves others).Pairwise fun work later =>
      Disjoint (work.address moving.vm) (cellBytes work.narrow) (later.address moving.vm) (cellBytes later.narrow) := by
  refine List.pairwise_append.mpr ⟨outside.apart, ?_, ?_⟩
  · refine List.pairwise_flatMap.mpr ⟨fun move member => brought.apart_object member, ?_⟩
    refine brought.separate.imp_of_mem ?_
    intro move later moved moved' separate work own work' own' byte covered covered'
    exact separate byte (brought.inside moved own covered) (brought.inside moved' own' covered')
  · intro work other work' member byte covered covered'
    obtain ⟨move, moved, own⟩ := List.mem_flatMap.mp member
    exact (outside.outside work other move moved).2 byte covered (brought.inside moved own covered')

/-- A byte of a moved object that no reference covers is covered by no cell. -/
theorem Brought.untouched (brought : Brought moving compressed memory mid maps moves)
    (outside : OutsideMoves moving memory moves others) (moved : move ∈ moves) {index : Nat}
    (bound : index < sizeBytes moving compressed memory move.src)
    (kept : ¬ Rewritten moving compressed memory (maps move.src) move.src index)
    (member : work ∈ collectionWork moving compressed mid moves others) :
    ¬ Covers (work.address moving.vm) (cellBytes work.narrow) (move.dst + BitVec.ofNat 64 index) := by
  intro covered
  have here : Covers move.dst (sizeBytes moving compressed memory move.src) (move.dst + BitVec.ofNat 64 index) :=
    ⟨index, bound, rfl⟩
  rcases mem_collectionWork.mp member with other | ⟨holder, holds, own⟩
  · exact (outside.outside work other move moved).2 _ covered here
  · by_cases same : holder = move
    · subst same
      obtain ⟨offset, inside, place, region, present, cell⟩ :=
        (brought.scannable holder holds).work_inside (brought.relocated holder holds) own
      have small : sizeBytes moving compressed memory holder.src < 2 ^ 64 := BitVec.isLt _
      rw [(objectWork_plain moving.vm own).1, place] at covered
      obtain ⟨rest, within, equal⟩ := covered
      have width : rest < slotBytes compressed := within
      rw [BitVec.add_assoc, ← BitVec.ofNat_add] at equal
      have split := ByteMemory.offset_inj (by omega) (by omega) equal
      obtain ⟨position, below, start⟩ := Region.mem_cells.mp cell
      refine kept (.inr ⟨region, present, Region.covers_cell below ⟨rest, width, ?_⟩⟩)
      rw [← start, split, BitVec.ofNat_add, BitVec.add_assoc]
    · have : Std.Symm fun move later : Move 64 => Disjoint move.dst (sizeBytes moving compressed memory move.src)
          later.dst (sizeBytes moving compressed memory later.src) := ⟨fun _ _ disjoint => disjoint.symm⟩
      exact brought.separate.forall holds moved same _ (brought.inside holds own covered) here

/-- What a collection makes of an object: the klass, the size and the fields are the same,
and the references in them have been updated. -/
structure UpdatedObject (moving : MovingVM) (compressed : Bool) (oops : NarrowOops) (trace : Address → Address)
    (retained : Address → Bool) (before after : Memory) (src dst : Address) : Prop where
  klass : OopDesc.klassAddress (moving.withMemory after) compressed dst =
    OopDesc.klassAddress (moving.withMemory before) compressed src
  size : VMObjectModel.getCurrentSize moving compressed after dst =
    VMObjectModel.getCurrentSize moving compressed before src
  scanned : ∃ scan, scanObject (moving.withMemory before) compressed src = .ok scan ∧
    scanObject (moving.withMemory after) compressed dst = .ok (scan.displaced src dst) ∧
    (∀ slot ∈ scan.slots, (displacedSlot src dst slot).load oops after = (slot.load oops before).map trace) ∧
    ∀ candidate ∈ scan.candidates,
      VMReferenceGlue.getReferent moving.vm compressed oops after (displaced src dst candidate.2) =
        if retained (displaced src dst candidate.2) then
          (VMReferenceGlue.getReferent moving.vm compressed oops before candidate.2).map trace
        else none

variable {oops : NarrowOops} {processing : ReferenceProcessing compressed} {trace : Address → Address}
variable {retained : Address → Bool} {works : List (SlotWork compressed)}

/-- The work that is done, in any order. -/
structure Completes (moving : MovingVM) {compressed : Bool} (oops : NarrowOops) (trace : Address → Address)
    (mid : Memory) (moves : List (Move 64)) (others works : List (SlotWork compressed)) : Prop where
  permutation : works.Perm (collectionWork moving compressed mid moves others)
  storable : ∀ work ∈ works, Storable oops work.narrow (((work.slot moving.vm).load oops mid).map trace)

theorem Brought.updated_slot (brought : Brought moving compressed memory mid maps moves)
    (documented : processing.Documented trace retained)
    (outside : OutsideMoves moving memory moves others) (completes : Completes moving oops trace mid moves others works)
    (member : work ∈ collectionWork moving compressed mid moves others) :
    (work.slot moving.vm).load oops ((referenceWork moving.vm oops processing trace retained).applyAll works mid) =
      work.change trace retained ((work.slot moving.vm).load oops mid) := by
  have done := completes.permutation.mem_iff.mpr member
  have apart : works.Pairwise (referenceWork moving.vm oops processing trace retained).Apart :=
    (completes.permutation.pairwise_iff fun disjoint => disjoint.symm).mpr (brought.apart outside)
  have localWork : ∀ other ∈ works, (referenceWork moving.vm oops processing trace retained).Local other :=
    fun other present => (brought.reported outside (completes.permutation.mem_iff.mp present)).isLocal documented
  exact CellWork.applyAll_load localWork apart done (completes.storable work done)

theorem Brought.updated_frame (brought : Brought moving compressed memory mid maps moves)
    (documented : processing.Documented trace retained)
    (outside : OutsideMoves moving memory moves others) (completes : Completes moving oops trace mid moves others works)
    (moved : move ∈ moves) :
    RelocatedExcept (Rewritten moving compressed memory (maps move.src) move.src) memory
      ((referenceWork moving.vm oops processing trace retained).applyAll works mid) move.src move.dst
      (sizeBytes moving compressed memory move.src) := by
  intro index kept bound
  have copied := brought.relocated move moved index (Nat.not_lt.mp fun header => kept (.inl header)) bound
  refine Eq.trans (CellWork.applyAll_frame ?_ ?_) copied
  · intro work present
    exact (brought.reported outside (completes.permutation.mem_iff.mp present)).isLocal documented
  · intro work present
    exact brought.untouched outside moved bound kept (completes.permutation.mem_iff.mp present)

/-- Every moved object is updated. -/
theorem Brought.updated (brought : Brought moving compressed memory mid maps moves)
    (documented : processing.Documented trace retained)
    (outside : OutsideMoves moving memory moves others) (completes : Completes moving oops trace mid moves others works)
    (kept : moving.SizeKept compressed maps) (fields : FieldsApart moving compressed memory (maps move.src) move.src)
    (moved : move ∈ moves) :
    UpdatedObject moving compressed oops trace retained memory
      ((referenceWork moving.vm oops processing trace retained).applyAll works mid) move.src move.dst := by
  have scannable := brought.scannable move moved
  have relocated := brought.relocated move moved
  have low := brought.low move moved
  have frame := brought.updated_frame documented outside completes moved
  have scanned := scanObject_eq scannable.layout
  have addresses := objectWork_addresses scannable.layout
  rw [objectWork, scanned] at addresses
  -- the work that a scan of the moved object finds
  have own (work : SlotWork compressed) (member : work ∈ (Scan.displaced move.src move.dst
      ⟨(visitedRegions (moving.withMemory memory) compressed move.src (maps move.src)).flatMap (regionSlots compressed),
        registered (moving.withMemory memory) compressed move.src⟩).work) :
      work ∈ collectionWork moving compressed mid moves others := by
    refine mem_collectionWork.mpr (.inr ⟨move, moved, ?_⟩)
    rw [objectWork, scannable.scanned relocated, scanned]
    exact member
  refine ⟨fields.klassAddress frame scannable.header, scannable.resized fields kept frame, _, scanned, ?_, ?_, ?_⟩
  · rw [scannable.rescanned fields frame, scanned]
    rfl
  · intro slot member
    have work := own (.field (displacedSlot move.src move.dst slot))
      (List.mem_append_left _ (List.mem_map_of_mem (List.mem_map_of_mem member)))
    refine (brought.updated_slot documented outside completes work).trans ?_
    exact congrArg (Option.map trace)
      (scannable.load_relocated low relocated (mem_referenceRegions_of_visited member))
  · intro candidate member
    have work := own (.candidate (displaced move.src move.dst candidate.2))
      (List.mem_append_right _ (List.mem_map.mpr ⟨_, List.mem_map_of_mem member, rfl⟩))
    have field : InstanceRefKlass.referentAddress moving.vm candidate.2 ∈
        (referenceRegions (moving.withMemory memory) compressed move.src (maps move.src)).flatMap
          (Region.cells · (slotBytes compressed)) := by
      rw [← addresses]
      exact List.mem_map.mpr ⟨.candidate candidate.2,
        List.mem_append_right _ (List.mem_map.mpr ⟨candidate, member, rfl⟩), rfl⟩
    have same : VMReferenceGlue.getReferent moving.vm compressed oops mid (displaced move.src move.dst candidate.2) =
        VMReferenceGlue.getReferent moving.vm compressed oops memory candidate.2 := by
      have place : VMReferenceGlue.referentSlot moving.vm compressed (displaced move.src move.dst candidate.2) =
          displacedSlot move.src move.dst (VMReferenceGlue.referentSlot moving.vm compressed candidate.2) :=
        congrArg OpenJDKSlot.mk (referentAddress_displaced moving.vm candidate.2)
      rw [VMReferenceGlue.getReferent, place]
      exact scannable.load_relocated low relocated field
    refine (brought.updated_slot documented outside completes work).trans ?_
    exact congrArg (SlotWork.change trace retained (.candidate (displaced move.src move.dst candidate.2))) same

/-- Objects that do not overlap have different addresses. -/
theorem forwarded_src (positive : ∀ move ∈ moves, 0 < sizeBytes moving compressed memory move.src)
    (apart : moves.Pairwise fun move later => Disjoint move.src (sizeBytes moving compressed memory move.src)
      later.src (sizeBytes moving compressed memory later.src)) (member : move ∈ moves) :
    forwarded moves move.src = move.dst := by
  induction moves with
  | nil => cases member
  | cons first rest ih =>
    obtain ⟨firstApart, restApart⟩ := List.pairwise_cons.mp apart
    rcases List.mem_cons.mp member with rfl | later
    · simp [forwarded]
    · have different : first.src ≠ move.src := by
        intro same
        have here : Covers first.src (sizeBytes moving compressed memory first.src) first.src :=
          ⟨0, positive first List.mem_cons_self, by simp⟩
        have there : Covers move.src (sizeBytes moving compressed memory move.src) first.src :=
          ⟨0, positive move member, by simp [same]⟩
        exact firstApart move later first.src here there
      have found := ih (fun other present => positive other (List.mem_cons_of_mem _ present)) restApart later
      simpa [forwarded, List.find?_cons, different] using found

end Updates

/-- After an evacuation and the updates of the roots, of every slot that a scan of a moved
object finds and of every candidate, in any order, the collector finds every object at its
new address with its klass, its size and its fields. A field refers to the new address of
what it referred to, and so does a root; the referent of a candidate is updated if it was
retained and cleared if not. What mmtk-core decides is assumed to be as promised; that the
updates come to this in memory, and spoil nothing else, is the binding's. -/
theorem evacuation_updates_references {Semantics State : Type} (moving : MovingVM) (compressed : Bool)
    (oops : NarrowOops) (context : GCWorkerCopyContext Semantics State) (state : State) (memory : Memory)
    (maps : Address → List OopMapBlock) (objects : List (Address × Semantics)) (retained : Address → Bool)
    (processing : ReferenceProcessing compressed) (others works : List (SlotWork compressed))
    (kept : moving.SizeKept compressed maps) (keeps : context.KeepsToMarkWords)
    (scannable : ∀ object ∈ objects, IsScannable moving compressed memory (maps object.1) object.1)
    (fields : ∀ object ∈ objects, FieldsApart moving compressed memory (maps object.1) object.1)
    (apart : objects.Pairwise fun object later =>
      Disjoint object.1 (sizeBytes moving compressed memory object.1) later.1
        (sizeBytes moving compressed memory later.1))
    {moves : List (Move 64)} {mid : Memory}
    (evacuated : evacuate moving compressed context state memory objects = (moves, mid))
    (allocates : AllocatesFresh moving compressed memory moves) (outside : OutsideMoves moving memory moves others)
    (documented : processing.Documented (forwarded moves) retained)
    (completes : Completes moving oops (forwarded moves) mid moves others works) :
    let final := (referenceWork moving.vm oops processing (forwarded moves) retained).applyAll works mid
    moves.map Move.src = objects.map Prod.fst ∧
      (∀ move ∈ moves, forwarded moves move.src = move.dst ∧
        UpdatedObject moving compressed oops (forwarded moves) retained memory final move.src move.dst) ∧
      ∀ work ∈ others, (work.slot moving.vm).load oops final =
        work.change (forwarded moves) retained ((work.slot moving.vm).load oops memory) := by
  intro final
  have first : (evacuate moving compressed context state memory objects).1 = moves := congrArg Prod.fst evacuated
  have second : (evacuate moving compressed context state memory objects).2 = mid := congrArg Prod.snd evacuated
  have places := evacuate_places kept.follows scannable apart (first.symm ▸ allocates)
  have evacuates := evacuate_evacuates keeps places
  rw [first, second] at evacuates
  rw [first] at places
  have origin (move : Move 64) (member : move ∈ moves) : ∃ object ∈ objects, object.1 = move.src :=
    evacuate_origin (first.symm ▸ member)
  have brought : Brought moving compressed memory mid maps moves := by
    refine ⟨?_, fun move member => evacuates.contents places member, allocates.separate, allocates.low⟩
    intro move member
    obtain ⟨object, present, same⟩ := origin move member
    exact same ▸ scannable object present
  refine ⟨first ▸ evacuate_sources, ?_, ?_⟩
  · intro move member
    obtain ⟨object, present, same⟩ := origin move member
    have positive : ∀ move ∈ moves, 0 < sizeBytes moving compressed memory move.src :=
      fun move member => Nat.lt_of_lt_of_le (by decide) (places.objects move member).room
    exact ⟨forwarded_src positive places.apart member,
      brought.updated documented outside completes kept (same ▸ fields object present) member⟩
  · intro work member
    refine (brought.updated_slot documented outside completes (mem_collectionWork.mpr (.inl member))).trans ?_
    refine congrArg (work.change (forwarded moves) retained) ?_
    have valid := outside.reported work member
    refine (Slots.slot_isCell oops valid.low valid.kind valid.reported).reads _ _ ?_
    intro byte covered
    refine evacuates.untouched places ?_
    intro move moved
    obtain ⟨old, new⟩ := outside.outside work member move moved
    exact ⟨new byte covered, old byte covered⟩

theorem objectArraysVM_sizeKept : objectArraysVM.SizeKept true fun _ => [] := by
  intro before after src dst relocated
  have length : before.read (src + 12) 4 < 256 ^ 4 := ByteMemory.read_lt
  have header : 12 + 4 ≤ (objectArraySize before src).toNat := by
    rw [objectArraySize, BitVec.toNat_ofNat]
    omega
  have elements (region : Region 64) (present : region ∈ referenceRegions (objectArraysVM.withMemory before) true src []) :
      Disjoint (src + 12) 4 region.start (region.count * slotBytes true) := by
    obtain rfl := List.mem_singleton.mp present
    rintro byte ⟨index, bound, rfl⟩ ⟨later, within, same⟩
    have count : (elementRegion (objectArraysVM.withMemory before) true src).count < 2 ^ 32 := BitVec.isLt _
    have small : later < 2 ^ 34 := Nat.lt_of_lt_of_le within (Nat.mul_le_mul_right 4 count.le)
    have start : (elementRegion (objectArraysVM.withMemory before) true src).start = src + BitVec.ofNat 64 16 := rfl
    rw [start, BitVec.add_assoc, BitVec.add_assoc, ← BitVec.ofNat_add] at same
    have places : src + BitVec.ofNat 64 (12 + index) = src + BitVec.ofNat 64 (16 + later) := by
      rw [← same, BitVec.ofNat_add]
      rfl
    have equal := ByteMemory.offset_inj (by omega) (by omega) places
    omega
  have same : after.read (dst + 12) 4 = before.read (src + 12) 4 :=
    read_of_apart relocated (by decide) header elements
  exact congrArg (fun count => BitVec.ofNat 64 ((count * 4 + 23) / 8 * 8)) same

theorem objectArraysVM_fieldsApart :
    ∀ object ∈ [(0x1010 : Address), 0x1028], FieldsApart objectArraysVM true objectArraysMemory [] object := by
  intro object member
  have elements (array : Address)
      (inside : (array + 16).toNat + (ArrayOopDesc.length (objectArraysVM.withMemory objectArraysMemory) true array).toNat * 4
        ≤ 2 ^ 64)
      (ordered : array.toNat + 12 ≤ (array + 16).toNat ∧ (array + 12).toNat + 4 ≤ (array + 16).toNat) :
      FieldsApart objectArraysVM true objectArraysMemory [] array := by
    refine ⟨?_, ?_, ?_⟩
    · intro region present
      obtain rfl := List.mem_singleton.mp present
      exact ByteMemory.disjoint_of_le ordered.1 inside
    · intro _ region present
      obtain rfl := List.mem_singleton.mp present
      exact ByteMemory.disjoint_of_le ordered.2 inside
    · intro mirror
      cases mirror
  rcases List.mem_pair.mp member with rfl | rfl
  · exact elements _ (by decide) (by decide)
  · exact elements _ (by decide) (by decide)

def arraysMid : Memory := (evacuate objectArraysVM true bumpContext 0x2000 objectArraysMemory arraysMet).2

def arraysRoot : SlotWork true := .root true 0x3000 ⟨0x3000⟩

/-- The elements of the arrays at their new places, and the root. -/
def arraysWork : List (SlotWork true) := [.field ⟨0x2028⟩, .field ⟨0x2014⟩, arraysRoot, .field ⟨0x2010⟩]

theorem arraysRoot_outside : OutsideMoves objectArraysVM objectArraysMemory arraysMoves [arraysRoot] := by
  refine ⟨?_, List.pairwise_singleton _ _, ?_⟩
  · intro work member
    obtain rfl := List.mem_singleton.mp member
    exact ⟨by decide, fun _ => rfl, rfl⟩
  · have below (place : Address) (ordered : place.toNat + 24 ≤ 0x3000) : Disjoint (0x3000 : Address) 4 place 24 :=
      (ByteMemory.disjoint_of_le ordered (by decide)).symm
    intro work member move moved
    obtain rfl := List.mem_singleton.mp member
    rcases List.mem_pair.mp moved with rfl | rfl
    · rw [objectArrays_sizes.1]
      exact ⟨below _ (by decide), below _ (by decide)⟩
    · rw [objectArrays_sizes.2]
      exact ⟨below _ (by decide), below _ (by decide)⟩

theorem arraysWork_completes :
    Completes objectArraysVM ⟨0, 3⟩ (forwarded arraysMoves) arraysMid arraysMoves [arraysRoot] arraysWork := by
  have listed : collectionWork objectArraysVM true arraysMid arraysMoves [arraysRoot] =
      [arraysRoot, .field ⟨0x2010⟩, .field ⟨0x2014⟩, .field ⟨0x2028⟩] := by decide +kernel
  refine ⟨listed ▸ by decide, ?_⟩
  have null : Slots.Storable ⟨0, 3⟩ true none := nofun
  have place (object : Address) (encodable : Slots.Encodable ⟨0, 3⟩ object) (nonzero : object ≠ 0) :
      Storable ⟨0, 3⟩ true (some object) := by
    intro other same
    cases same
    exact ⟨nonzero, fun _ => encodable⟩
  have loads : (((⟨0x2028⟩ : OpenJDKSlot true).load ⟨0, 3⟩ arraysMid).map (forwarded arraysMoves) = none ∧
      ((⟨0x2014⟩ : OpenJDKSlot true).load ⟨0, 3⟩ arraysMid).map (forwarded arraysMoves) = none) ∧
      ((⟨0x3000⟩ : OpenJDKSlot true).load ⟨0, 3⟩ arraysMid).map (forwarded arraysMoves) = some 0x2000 ∧
      ((⟨0x2010⟩ : OpenJDKSlot true).load ⟨0, 3⟩ arraysMid).map (forwarded arraysMoves) = some 0x2018 := by
    decide +kernel
  obtain ⟨⟨last, empty⟩, root, link⟩ := loads
  intro work member
  simp only [arraysWork, List.mem_cons, List.not_mem_nil, or_false] at member
  rcases member with rfl | rfl | rfl | rfl
  · exact last ▸ null
  · exact empty ▸ null
  · exact root ▸ place 0x2000 ⟨by decide, by decide, by decide⟩ (by decide)
  · exact link ▸ place 0x2018 ⟨by decide, by decide, by decide⟩ (by decide)

/-- mmtk-core does not store a reference that does not change, but sets every referent. -/
def tracingProcessing (trace : Address → Address) (retained : Address → Bool) : ReferenceProcessing true where
  processSlot
    | _, none => none
    | _, some object => if trace object = object then none else some (trace object)
  processReference
    | _, none => .keep
    | reference, some referent => if retained reference then .setReferent (trace referent) else .clearReferent

theorem tracingProcessing_documented (trace : Address → Address) (retained : Address → Bool) :
    (tracingProcessing trace retained).Documented trace retained where
  nullSlot _ := rfl
  slot _ object := by
    by_cases same : trace object = object
    · simp [tracingProcessing, same]
    · simp [tracingProcessing, same]
  nullReferent _ := rfl
  kept reference referent kept := .inl (by simp [tracingProcessing, kept])
  cleared reference referent dropped := by simp [tracingProcessing, dropped]

/-- The root and the reference between the arrays lead to the new places. -/
theorem linked_arrays_updated :
    let final := (referenceWork objectArraysVM.vm ⟨0, 3⟩ (tracingProcessing (forwarded arraysMoves) fun _ => true)
      (forwarded arraysMoves) fun _ => true).applyAll arraysWork arraysMid
    (⟨0x3000⟩ : OpenJDKSlot true).load ⟨0, 3⟩ final = some 0x2000 ∧
      UpdatedObject objectArraysVM true ⟨0, 3⟩ (forwarded arraysMoves) (fun _ => true) objectArraysMemory final
        0x1028 0x2000 := by
  intro final
  have fields : ∀ object ∈ arraysMet, FieldsApart objectArraysVM true objectArraysMemory [] object.1 := by
    intro object member
    rcases List.mem_pair.mp member with rfl | rfl
    · exact objectArraysVM_fieldsApart _ (by simp)
    · exact objectArraysVM_fieldsApart _ (by simp)
  obtain ⟨_, objects, others⟩ := evacuation_updates_references objectArraysVM true ⟨0, 3⟩ bumpContext 0x2000
    objectArraysMemory (fun _ => []) arraysMet (fun _ => true) (tracingProcessing _ _) [arraysRoot] arraysWork
    objectArraysVM_sizeKept bumpContext_keepsToMarkWords arraysMet_scannable fields arraysMet_apart
    (Prod.ext arraysMoves_eq rfl) arraysMoves_fresh arraysRoot_outside (tracingProcessing_documented _ _)
    arraysWork_completes
  refine ⟨(others arraysRoot List.mem_cons_self).trans (by decide +kernel), ?_⟩
  exact (objects ⟨0x1028, 0x2000⟩ List.mem_cons_self).2

end MmtkOpenJDK.ObjectModel
