import MmtkOpenJDK.Foundation.Regions
import MmtkOpenJDK.Foundation.SlidingCopy
import MmtkOpenJDK.Slots.SlotAccess

/-! Ranges of slots, the iterator over them and the copy from one to another. -/

namespace MmtkOpenJDK.Slots

open MmtkOpenJDK.Heap MmtkOpenJDK.Foundation
open ByteMemory (Region)

variable {compressed : Bool}

def OpenJDKSlot.logBytesInSlot (compressed : Bool) : Nat := if compressed then 2 else 3

def OpenJDKSlot.bytesInSlot (compressed : Bool) : Address := 1 <<< logBytesInSlot compressed

structure OpenJDKSlotRange (compressed : Bool) where
  start : OpenJDKSlot compressed
  stop : OpenJDKSlot compressed

/-- mmtk-core's copy from one range of addresses to another, each given by its bounds. -/
abbrev AddressRangeCopy := Address × Address → Address × Address → Memory → Memory

structure OpenJDKSlotRangeIterator (compressed : Bool) where
  cursor : Address
  limit : Address

namespace OpenJDKSlotRange

/-- The conversion from a range of addresses. -/
def ofAddresses (compressed : Bool) (start stop : Address) : OpenJDKSlotRange compressed := ⟨⟨start⟩, ⟨stop⟩⟩

def iterSlots (range : OpenJDKSlotRange compressed) : OpenJDKSlotRangeIterator compressed :=
  ⟨range.start.addr, range.stop.addr⟩

def bytes (range : OpenJDKSlotRange compressed) : BitVec 64 := range.stop.addr - range.start.addr

/-- `MemorySlice::copy`. The assertions are those of a debug build. -/
def copy (debugAssertions : Bool) (rangeCopy : AddressRangeCopy) (src tgt : OpenJDKSlotRange compressed)
    (memory : Memory) : Except String Memory :=
  if debugAssertions && src.bytes != tgt.bytes then .error "assertion `left == right` failed"
  else if compressed then
    if debugAssertions && src.bytes &&& (1 <<< 2 - 1) != 0 then
      .error "assertion `left == right` failed: bytes are not a multiple of 32-bit integers"
    else
      let words := tgt.bytes >>> 2
      .ok (memory.copyBlock src.start.addr tgt.start.addr (words.toNat * 4))
  else if debugAssertions && src.bytes &&& (1 <<< 3 - 1) != 0 then
    .error "assertion `left == right` failed: bytes are not a multiple of words"
  else .ok (rangeCopy (src.start.addr, src.stop.addr) (tgt.start.addr, tgt.stop.addr) memory)

end OpenJDKSlotRange

namespace OpenJDKSlotRangeIterator

def next (iterator : OpenJDKSlotRangeIterator compressed) :
    Option (OpenJDKSlot compressed × OpenJDKSlotRangeIterator compressed) :=
  if iterator.limit ≤ iterator.cursor then none
  else
    let slot := iterator.cursor
    some (⟨slot⟩, { iterator with cursor := iterator.cursor + OpenJDKSlot.bytesInSlot compressed })

/-- The given number of calls of `next`, if none of them returns `None`. -/
def takeSlots (iterator : OpenJDKSlotRangeIterator compressed) :
    Nat → Option (List (OpenJDKSlot compressed) × OpenJDKSlotRangeIterator compressed)
  | 0 => some ([], iterator)
  | steps + 1 =>
    match iterator.next with
    | none => none
    | some (slot, rest) => (rest.takeSlots steps).map fun result => (slot :: result.1, result.2)

/-- The iterator returns these slots and then stops. -/
def Yields (iterator : OpenJDKSlotRangeIterator compressed) (slots : List (OpenJDKSlot compressed)) : Prop :=
  ∃ stopped, iterator.takeSlots slots.length = some (slots, stopped) ∧ stopped.next = none

theorem Yields.nil {iterator : OpenJDKSlotRangeIterator compressed} (stops : iterator.next = none) :
    iterator.Yields [] := ⟨iterator, rfl, stops⟩

theorem Yields.cons {iterator rest : OpenJDKSlotRangeIterator compressed} {slot : OpenJDKSlot compressed}
    {slots : List (OpenJDKSlot compressed)} (step : iterator.next = some (slot, rest)) (yields : rest.Yields slots) :
    iterator.Yields (slot :: slots) := by
  obtain ⟨stopped, taken, stops⟩ := yields
  exact ⟨stopped, by simp [takeSlots, step, taken], stops⟩

end OpenJDKSlotRangeIterator

/-- The width of a slot in an object. -/
def slotBytes (compressed : Bool) : Nat := if compressed then 4 else 8

theorem slotBytes_pos : 0 < slotBytes compressed := by cases compressed <;> decide

theorem bytesInSlot_toNat : (OpenJDKSlot.bytesInSlot compressed).toNat = slotBytes compressed := by
  cases compressed <;> rfl

theorem shiftLeft_logBytesInSlot (count : Nat) :
    count <<< OpenJDKSlot.logBytesInSlot compressed = count * slotBytes compressed := by
  rw [Nat.shiftLeft_eq]
  cases compressed <;> rfl

/-- The slots of the cells of a region. -/
def regionSlots (compressed : Bool) (region : Region 64) : List (OpenJDKSlot compressed) :=
  (region.cells (slotBytes compressed)).map (⟨·⟩)

@[simp] theorem length_regionSlots (region : Region 64) : (regionSlots compressed region).length = region.count := by
  simp [regionSlots, Region.cells]

theorem advance_succ (start : Address) (index : Nat) :
    start + BitVec.ofNat 64 ((index + 1) * slotBytes compressed) =
      start + OpenJDKSlot.bytesInSlot compressed + BitVec.ofNat 64 (index * slotBytes compressed) := by
  have width : OpenJDKSlot.bytesInSlot compressed = BitVec.ofNat 64 (slotBytes compressed) := by
    cases compressed <;> rfl
  rw [width, BitVec.add_assoc, ← BitVec.ofNat_add, Nat.succ_mul, Nat.add_comm (slotBytes compressed)]

/-- The first cell of a region and the region behind it. -/
theorem regionSlots_succ (start : Address) (count : Nat) :
    regionSlots compressed ⟨start, count + 1⟩ =
      ⟨start⟩ :: regionSlots compressed ⟨start + OpenJDKSlot.bytesInSlot compressed, count⟩ := by
  simp [regionSlots, Region.cells, Region.cell, List.range_succ_eq_map, Function.comp_def, advance_succ]

/-- A part of a region is a region. -/
theorem regionSlots_part {start : Address} {index count length : Nat} (part : index + count ≤ length) :
    ((regionSlots compressed ⟨start, length⟩).drop index).take count =
      regionSlots compressed ⟨start + BitVec.ofNat 64 (index * slotBytes compressed), count⟩ := by
  refine List.ext_getElem (by simp; omega) ?_
  intro position _ _
  simp [regionSlots, Region.cells, Region.cell, Nat.add_mul, BitVec.ofNat_add, BitVec.add_assoc]

/-- The iterator over a region that does not reach the end of the address space
returns the slots of its cells. -/
theorem iterSlots_yields (start : Address) (count : Nat)
    (inside : start.toNat + count * slotBytes compressed < 2 ^ 64) :
    (OpenJDKSlotRange.ofAddresses compressed start (start + BitVec.ofNat 64 (count * slotBytes compressed))).iterSlots.Yields
      (regionSlots compressed ⟨start, count⟩) := by
  induction count generalizing start with
  | zero =>
    refine .nil ?_
    simp [OpenJDKSlotRange.ofAddresses, OpenJDKSlotRange.iterSlots, OpenJDKSlotRangeIterator.next]
  | succ count ih =>
    have positive : 0 < slotBytes compressed := slotBytes_pos
    rw [Nat.succ_mul] at inside
    have moved : (start + OpenJDKSlot.bytesInSlot compressed).toNat = start.toNat + slotBytes compressed := by
      rw [BitVec.toNat_add, bytesInSlot_toNat, Nat.mod_eq_of_lt (by omega)]
    have before : ¬ start + BitVec.ofNat 64 ((count + 1) * slotBytes compressed) ≤ start := by
      rw [Nat.succ_mul, BitVec.le_def, ByteMemory.toNat_offset (by omega)]
      omega
    have step : (OpenJDKSlotRange.ofAddresses compressed start
        (start + BitVec.ofNat 64 ((count + 1) * slotBytes compressed))).iterSlots.next =
          some (⟨start⟩, (OpenJDKSlotRange.ofAddresses compressed (start + OpenJDKSlot.bytesInSlot compressed)
            (start + OpenJDKSlot.bytesInSlot compressed + BitVec.ofNat 64 (count * slotBytes compressed))).iterSlots) := by
      rw [← advance_succ, OpenJDKSlotRangeIterator.next]
      exact if_neg before
    rw [regionSlots_succ]
    exact .cons step (ih (start + OpenJDKSlot.bytesInSlot compressed) (by omega))

end MmtkOpenJDK.Slots
