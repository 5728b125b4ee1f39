import MmtkOpenJDK.ObjectModel.ObjectScanning

/-! The slots of an object array as the array-copy barriers, the scan of the array and
`ArrayOopDesc::slice` see them. -/

namespace MmtkOpenJDK.ObjectModel

open MmtkOpenJDK.Heap MmtkOpenJDK.Foundation
open Slots (OpenJDKSlot OpenJDKSlotRange slotBytes regionSlots)
open ByteMemory (Region)

def ArrayOopDesc.slice (vm : VM) (compressed : Bool) (oop : Address) (ty : BasicType) : OpenJDKSlotRange compressed :=
  let base := ArrayOopDesc.base compressed oop ty
  let start := base
  let lshift := OpenJDKSlot.logBytesInSlot compressed
  let stop := base + asUsize (ArrayOopDesc.length vm compressed oop) <<< lshift
  .ofAddresses compressed start stop

/-- `log_bytes_in_slot`, which asks whether compressed oops are used. -/
def logBytesInSlot (useCompressedOops : Bool) : Nat :=
  if useCompressedOops then OpenJDKSlot.logBytesInSlot true else OpenJDKSlot.logBytesInSlot false

/-- The two regions that a copy barrier is called with. -/
structure RegionCopy (compressed : Bool) where
  src : OpenJDKSlotRange compressed
  dst : OpenJDKSlotRange compressed

/-- The regions of a copy of the given number of elements. -/
def arrayCopyRegions (compressed : Bool) (src dst : Address) (count : BitVec 64) : RegionCopy compressed :=
  let bytes := count <<< logBytesInSlot compressed
  ⟨.ofAddresses compressed src (src + bytes), .ofAddresses compressed dst (dst + bytes)⟩

/-- What `mmtk_array_copy_pre` passes to `memory_region_copy_pre`. -/
def mmtkArrayCopyPre (compressed : Bool) (src dst : Address) (count : BitVec 64) : RegionCopy compressed :=
  arrayCopyRegions compressed src dst count

/-- What `mmtk_array_copy_post` passes to `memory_region_copy_post`. -/
def mmtkArrayCopyPost (compressed : Bool) (src dst : Address) (count : BitVec 64) : RegionCopy compressed :=
  arrayCopyRegions compressed src dst count

/-- An object array with HotSpot's layout helper, below the end of the address space. -/
structure ValidObjArray (vm : VM) (compressed : Bool) (oop : Address) : Prop where
  id : (OopDesc.klass vm compressed oop).id = .objArray
  encodes : EncodesArray compressed (OpenJDKSlot.logBytesInSlot compressed)
    (OopDesc.klass vm compressed oop).layoutHelper
  nonnegative : 0 ≤ (ArrayOopDesc.length vm compressed oop).toInt
  inside : oop.toNat + (OopDesc.size vm compressed oop).toNat < 2 ^ 64

/-- The address of an element of an object array. -/
def elementAddress (compressed : Bool) (oop : Address) (index : Nat) : Address :=
  ArrayOopDesc.base compressed oop .object + BitVec.ofNat 64 (index * slotBytes compressed)

/-- A range yields the slots of a part of the array, as the scan and the slice of the
array list them, with no address beyond the array. -/
structure RangeAgrees (vm : VM) (compressed : Bool) (oop : Address) (index count : Nat)
    (range : OpenJDKSlotRange compressed) (visited whole : List (OpenJDKSlot compressed)) : Prop where
  yields : range.iterSlots.Yields ((visited.drop index).take count)
  slice : (visited.drop index).take count = (whole.drop index).take count
  steps : ((visited.drop index).take count).length = count
  bytes : range.bytes.toNat = count * slotBytes compressed
  start : range.start.addr.toNat = oop.toNat + headerBytes compressed + index * slotBytes compressed
  stop : range.stop.addr.toNat = oop.toNat + headerBytes compressed + (index + count) * slotBytes compressed
  cells : ∀ slot ∈ (visited.drop index).take count, ∃ position < count,
    slot.addr.toNat = oop.toNat + headerBytes compressed + (index + position) * slotBytes compressed ∧
      slot.addr.toNat + slotBytes compressed ≤ oop.toNat + (OopDesc.size vm compressed oop).toNat

section Array

variable {vm : VM} {compressed : Bool} {oop : Address} {index count : Nat}

theorem ValidObjArray.layout (array : ValidObjArray vm compressed oop) : ValidLayout vm compressed oop [] := by
  have id := array.id
  refine ⟨?_, ?_, ?_, fun _ => array.nonnegative, ?_⟩
  · intro isInstance
    simp [id, KlassID.isInstance] at isInstance
  · simp [referenceRegions, id]
  · intro mirror
    simp [id] at mirror
  · intro reference
    simp [id] at reference

theorem ValidObjArray.scan (array : ValidObjArray vm compressed oop) :
    scanObject vm compressed oop = .ok ⟨regionSlots compressed (elementRegion vm compressed oop), []⟩ := by
  rw [scanObject_eq array.layout]
  simp [visitedRegions, registered, array.id]

theorem base_object (compressed : Bool) (oop : Address) :
    ArrayOopDesc.base compressed oop .object = oop + BitVec.ofNat 64 (headerBytes compressed) := by
  rw [ArrayOopDesc.base, headerSize_of_unaligned rfl]

/-- The end of the elements is inside the object. -/
theorem ValidObjArray.occupied_le (array : ValidObjArray vm compressed oop) :
    headerBytes compressed + (ArrayOopDesc.length vm compressed oop).toNat * slotBytes compressed ≤
      (OopDesc.size vm compressed oop).toNat := by
  have width : 2 ^ OpenJDKSlot.logBytesInSlot compressed = slotBytes compressed := by cases compressed <;> rfl
  rw [size_toNat array.encodes array.nonnegative (by cases compressed <;> decide), occupiedBytes, width]
  omega

theorem ValidObjArray.elementAddress_toNat (array : ValidObjArray vm compressed oop)
    (bound : index ≤ (ArrayOopDesc.length vm compressed oop).toNat) :
    (elementAddress compressed oop index).toNat =
      oop.toNat + headerBytes compressed + index * slotBytes compressed := by
  have occupied := array.occupied_le
  have inside := array.inside
  have before := Nat.mul_le_mul_right (slotBytes compressed) bound
  have base : (oop + BitVec.ofNat 64 (headerBytes compressed)).toNat = oop.toNat + headerBytes compressed :=
    ByteMemory.toNat_offset (by omega)
  rw [elementAddress, base_object, ByteMemory.toNat_offset (by omega), base]

theorem elementAddress_add (index count : Nat) :
    elementAddress compressed oop index + BitVec.ofNat 64 (count * slotBytes compressed) =
      elementAddress compressed oop (index + count) := by
  rw [elementAddress, elementAddress, Nat.add_mul, BitVec.ofNat_add, BitVec.add_assoc]

theorem elementAddress_zero : elementAddress compressed oop 0 = ArrayOopDesc.base compressed oop .object := by
  simp [elementAddress]

/-- The range of a part of the array. -/
def partRange (compressed : Bool) (oop : Address) (index count : Nat) : OpenJDKSlotRange compressed :=
  .ofAddresses compressed (elementAddress compressed oop index) (elementAddress compressed oop (index + count))

theorem part_eq (part : index + count ≤ (ArrayOopDesc.length vm compressed oop).toNat) :
    ((regionSlots compressed (elementRegion vm compressed oop)).drop index).take count =
      regionSlots compressed ⟨elementAddress compressed oop index, count⟩ := by
  rw [elementAddress, base_object]
  exact Slots.regionSlots_part part

theorem ValidObjArray.partRange_yields (array : ValidObjArray vm compressed oop)
    (part : index + count ≤ (ArrayOopDesc.length vm compressed oop).toNat) :
    (partRange compressed oop index count).iterSlots.Yields
      (((regionSlots compressed (elementRegion vm compressed oop)).drop index).take count) := by
  have start := array.elementAddress_toNat ((Nat.le_add_right index count).trans part)
  have stop := array.elementAddress_toNat part
  have bound := (elementAddress compressed oop (index + count)).isLt
  rw [partRange, ← elementAddress_add, part_eq part]
  refine Slots.iterSlots_yields (elementAddress compressed oop index) count ?_
  rw [Nat.add_mul] at stop
  omega

/-- An element's cell is inside the object. -/
theorem ValidObjArray.cell_inside (array : ValidObjArray vm compressed oop)
    (bound : index < (ArrayOopDesc.length vm compressed oop).toNat) :
    (elementAddress compressed oop index).toNat + slotBytes compressed ≤
      oop.toNat + (OopDesc.size vm compressed oop).toNat := by
  have occupied := array.occupied_le
  have cell : (index + 1) * slotBytes compressed ≤
      (ArrayOopDesc.length vm compressed oop).toNat * slotBytes compressed := Nat.mul_le_mul_right _ bound
  rw [array.elementAddress_toNat bound.le]
  rw [Nat.succ_mul] at cell
  omega

theorem ValidObjArray.partRange_agrees (array : ValidObjArray vm compressed oop)
    (part : index + count ≤ (ArrayOopDesc.length vm compressed oop).toNat) :
    RangeAgrees vm compressed oop index count (partRange compressed oop index count)
      (regionSlots compressed (elementRegion vm compressed oop))
      (regionSlots compressed (elementRegion vm compressed oop)) := by
  have start := array.elementAddress_toNat ((Nat.le_add_right index count).trans part)
  have stop := array.elementAddress_toNat part
  refine ⟨array.partRange_yields part, rfl, ?_, ?_, start, stop, ?_⟩
  · rw [part_eq part, Slots.length_regionSlots]
  · rw [Nat.add_mul] at stop
    have ordered : elementAddress compressed oop index ≤ elementAddress compressed oop (index + count) := by
      rw [BitVec.le_def, start, stop]
      omega
    rw [partRange, OpenJDKSlotRange.bytes, OpenJDKSlotRange.ofAddresses, BitVec.toNat_sub_of_le ordered, start, stop]
    omega
  · rw [part_eq part]
    intro slot member
    obtain ⟨address, cell, rfl⟩ := List.mem_map.mp member
    obtain ⟨position, bound, rfl⟩ := Region.mem_cells.mp cell
    have element : (⟨elementAddress compressed oop index, count⟩ : Region 64).cell (slotBytes compressed) position =
        elementAddress compressed oop (index + position) := elementAddress_add index position
    have inside : index + position < (ArrayOopDesc.length vm compressed oop).toNat := by
      have position_lt : position < count := bound
      omega
    refine ⟨position, bound, ?_, ?_⟩
    · rw [element]
      exact array.elementAddress_toNat inside.le
    · rw [element]
      exact array.cell_inside inside

theorem shiftLeft_slot (count : BitVec 64) :
    count <<< OpenJDKSlot.logBytesInSlot compressed = BitVec.ofNat 64 (count.toNat * slotBytes compressed) := by
  apply BitVec.eq_of_toNat_eq
  rw [BitVec.toNat_shiftLeft, BitVec.toNat_ofNat, Slots.shiftLeft_logBytesInSlot]

/-- The destination of a copy into the array is the range of a part of it. -/
theorem arrayCopyRegions_dst (src : Address) (index : Nat) (count : BitVec 64) :
    (arrayCopyRegions compressed src (elementAddress compressed oop index) count).dst =
      partRange compressed oop index count.toNat := by
  have shift : logBytesInSlot compressed = OpenJDKSlot.logBytesInSlot compressed := by cases compressed <;> rfl
  simp only [arrayCopyRegions, shift, shiftLeft_slot, elementAddress_add, partRange]

/-- The slice of the array is the range of all its elements. -/
theorem ValidObjArray.slice_eq (array : ValidObjArray vm compressed oop) :
    ArrayOopDesc.slice vm compressed oop .object =
      partRange compressed oop 0 (ArrayOopDesc.length vm compressed oop).toNat := by
  rw [ArrayOopDesc.slice, partRange, ← elementAddress_add, elementAddress_zero]
  simp only [shiftLeft_slot, asUsize_toNat array.nonnegative]

end Array

/-- The barriers of an array copy, the scan of the array and its slice see the same
slots. -/
theorem array_copy_slots_agree (vm : VM) (compressed : Bool) (oop src : Address) (index : Nat) (count : BitVec 64)
    (array : ValidObjArray vm compressed oop)
    (part : index + count.toNat ≤ (ArrayOopDesc.length vm compressed oop).toNat) :
    ∃ scan whole, scanObject vm compressed oop = .ok scan ∧
      (ArrayOopDesc.slice vm compressed oop .object).iterSlots.Yields whole ∧
      RangeAgrees vm compressed oop index count.toNat
        (mmtkArrayCopyPre compressed src (elementAddress compressed oop index) count).dst scan.slots whole ∧
      RangeAgrees vm compressed oop index count.toNat
        (mmtkArrayCopyPost compressed src (elementAddress compressed oop index) count).dst scan.slots whole := by
  have slice : (ArrayOopDesc.slice vm compressed oop .object).iterSlots.Yields
      (regionSlots compressed (elementRegion vm compressed oop)) := by
    have all := array.partRange_yields (show 0 + (ArrayOopDesc.length vm compressed oop).toNat ≤ _ by omega)
    have everything : (regionSlots compressed (elementRegion vm compressed oop)).length =
        (ArrayOopDesc.length vm compressed oop).toNat := Slots.length_regionSlots _
    rw [List.drop_zero, List.take_of_length_le everything.le] at all
    rw [array.slice_eq]
    exact all
  refine ⟨_, _, array.scan, slice, ?_, ?_⟩
  · rw [mmtkArrayCopyPre, arrayCopyRegions_dst]
    exact array.partRange_agrees part
  · rw [mmtkArrayCopyPost, arrayCopyRegions_dst]
    exact array.partRange_agrees part

/-- An `Object[]` of three elements; `0x80100C02` is its layout helper. -/
def objArrayVM : VM :=
  { uniformVM true 0x80100C02 with klassAt := fun _ => ⟨⟨0x80100C02, .objArray, 0⟩, 0, 0, .none⟩ }

theorem objArrayVM_valid : ValidObjArray objArrayVM true 0x10000000 where
  id := rfl
  encodes := ⟨by decide, by decide, by decide⟩
  nonnegative := by decide
  inside := by decide

theorem last_two_elements_agree :
    ∃ scan, scanObject objArrayVM true 0x10000000 = .ok scan ∧
      scan.slots = [⟨0x10000010⟩, ⟨0x10000014⟩, ⟨0x10000018⟩] ∧
      (mmtkArrayCopyPre true 0x20000000 (elementAddress true 0x10000000 1) 2).dst.iterSlots.Yields
        [⟨0x10000014⟩, ⟨0x10000018⟩] := by
  obtain ⟨scan, whole, done, _, pre, _⟩ :=
    array_copy_slots_agree objArrayVM true 0x10000000 0x20000000 1 2 objArrayVM_valid (by decide)
  have visited : scan.slots = [⟨0x10000010⟩, ⟨0x10000014⟩, ⟨0x10000018⟩] := by
    obtain rfl := Except.ok.inj done
    decide
  have yields := pre.yields
  rw [visited] at yields
  exact ⟨scan, done, visited, yields⟩

end MmtkOpenJDK.ObjectModel
