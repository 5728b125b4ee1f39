import MmtkOpenJDK.ObjectModel.ArrayCopySlots
import MmtkOpenJDK.ObjectModel.MovedObjects

/-! Copies between object arrays with `OpenJDKSlotRange::copy`. However the ranges overlap,
a sequence of copies changes the elements as it changes those of abstract arrays, and
nothing else. -/

namespace MmtkOpenJDK.ObjectModel

open MmtkOpenJDK.Heap MmtkOpenJDK.Foundation
open ByteMemory (Covers Copies Relocated)
open Slots (Memory OpenJDKSlot OpenJDKSlotRange AddressRangeCopy slotBytes regionSlots)

/-- A copy of elements from one array to another, or within one. -/
structure ArrayCopy where
  src : Address
  srcPos : Nat
  dst : Address
  dstPos : Nat
  count : BitVec 64

/-- The references in arrays, by array and index. -/
abbrev Elements := Address → Nat → Option Address

/-- What the copy is for: the elements of the source are read before any is written. -/
def ArrayCopy.update (copy : ArrayCopy) (elements : Elements) : Elements := fun array index =>
  if array = copy.dst ∧ copy.dstPos ≤ index ∧ index < copy.dstPos + copy.count.toNat then
    elements copy.src (copy.srcPos + (index - copy.dstPos))
  else elements array index

section Run

variable (compressed debugAssertions : Bool) (rangeCopy : AddressRangeCopy)

/-- The copy of the regions that the barriers of the array copy are called with. -/
def ArrayCopy.run (copy : ArrayCopy) (memory : Memory) : Except String Memory :=
  let regions := arrayCopyRegions compressed (elementAddress compressed copy.src copy.srcPos)
    (elementAddress compressed copy.dst copy.dstPos) copy.count
  regions.src.copy debugAssertions rangeCopy regions.dst memory

def copyArrays (copies : List ArrayCopy) (memory : Memory) : Except String Memory :=
  copies.foldlM (fun memory copy => copy.run compressed debugAssertions rangeCopy memory) memory

end Run

/-- What `Range<Address>::copy` promises: it copies a range of whole words to one of the
same length. -/
def CopiesWords (rangeCopy : AddressRangeCopy) : Prop :=
  ∀ memory src tgt words, words * 8 < 2 ^ 64 →
    Copies memory (rangeCopy (src, src + BitVec.ofNat 64 (words * 8)) (tgt, tgt + BitVec.ofNat 64 (words * 8)) memory)
      src tgt (words * 8)

section Arrays

variable (moving : MovingVM) (compressed : Bool) (oops : NarrowOops) (memory : Memory) (arrays : List Address)

def arrayLength (array : Address) : Nat := (ArrayOopDesc.length (moving.withMemory memory) compressed array).toNat

/-- Object arrays in the lower half of the address space, none overlapping another. -/
structure ObjArrays : Prop where
  valid : ∀ array ∈ arrays, ValidObjArray (moving.withMemory memory) compressed array
  low : ∀ array ∈ arrays, array.toNat + sizeBytes moving compressed memory array ≤ 2 ^ 63
  apart : ∀ array ∈ arrays, ∀ other ∈ arrays, array ≠ other →
    array.toNat + sizeBytes moving compressed memory array ≤ other.toNat ∨
      other.toNat + sizeBytes moving compressed memory other ≤ array.toNat

/-- The bounds that are checked before an array copy. -/
structure ArrayCopy.Inside (copy : ArrayCopy) : Prop where
  src : copy.src ∈ arrays
  dst : copy.dst ∈ arrays
  srcBound : copy.srcPos + copy.count.toNat ≤ arrayLength moving compressed memory copy.src
  dstBound : copy.dstPos + copy.count.toNat ≤ arrayLength moving compressed memory copy.dst

def elementsIn : Elements := fun array index =>
  OpenJDKSlot.load oops (⟨elementAddress compressed array index⟩ : OpenJDKSlot compressed) memory

/-- The arrays are as they were and hold these elements, and nothing else has changed. -/
structure HoldsElements (after : Memory) (elements : Elements) : Prop where
  valid : ObjArrays moving compressed after arrays
  lengths : ∀ array ∈ arrays, arrayLength moving compressed after array = arrayLength moving compressed memory array
  contents : ∀ array ∈ arrays, ∀ index < arrayLength moving compressed memory array,
    elementsIn compressed oops after array index = elements array index
  frame : ∀ byte, (∀ array ∈ arrays, ¬ Covers (elementAddress compressed array 0)
    (arrayLength moving compressed memory array * slotBytes compressed) byte) → after byte = memory byte

end Arrays

section Copying

variable {moving : MovingVM} {compressed : Bool} {rangeCopy : AddressRangeCopy} {memory : Memory}
  {arrays : List Address} {copy : ArrayCopy} {count : Nat}

theorem bytes_ofAddresses (start bytes : Address) :
    (OpenJDKSlotRange.ofAddresses compressed start (start + bytes)).bytes = bytes := by
  rw [OpenJDKSlotRange.bytes, OpenJDKSlotRange.ofAddresses, BitVec.add_comm, BitVec.add_sub_cancel]

/-- A whole number of slots passes the assertion about their bytes. -/
theorem whole_slots (log : Nat) (small : count * 2 ^ log < 2 ^ 64) :
    BitVec.ofNat 64 (count * 2 ^ log) &&& BitVec.ofNat 64 (2 ^ log - 1) = 0#64 := by
  apply BitVec.eq_of_toNat_eq
  rw [BitVec.toNat_and, BitVec.toNat_ofNat, BitVec.toNat_ofNat, Nat.mod_eq_of_lt small]
  by_cases empty : count = 0
  · simp [empty]
  · have positive : 0 < count := Nat.pos_of_ne_zero empty
    have width : 2 ^ log ≤ count * 2 ^ log := Nat.le_mul_of_pos_left _ positive
    rw [Nat.mod_eq_of_lt (by omega), Nat.and_two_pow_sub_one_eq_mod, Nat.mul_mod_left]
    rfl

/-- The copy of two ranges of the same whole number of slots. -/
theorem slotRange_copies (debugAssertions : Bool) (copiesWords : CopiesWords rangeCopy) (memory : Memory)
    (src tgt : Address) (small : count * slotBytes compressed < 2 ^ 64) :
    ∃ after, (OpenJDKSlotRange.ofAddresses compressed src (src + BitVec.ofNat 64 (count * slotBytes compressed))).copy
        debugAssertions rangeCopy
        (.ofAddresses compressed tgt (tgt + BitVec.ofNat 64 (count * slotBytes compressed))) memory = .ok after ∧
      Copies memory after src tgt (count * slotBytes compressed) := by
  rw [OpenJDKSlotRange.copy, bytes_ofAddresses, bytes_ofAddresses]
  cases compressed with
  | true =>
    have whole : BitVec.ofNat 64 (count * 4) &&& 3#64 = 0#64 := whole_slots 2 small
    have words : (BitVec.ofNat 64 (count * 4) >>> 2).toNat * 4 = count * 4 := by
      have small' : count * 4 < 2 ^ 64 := small
      rw [BitVec.toNat_ushiftRight, BitVec.toNat_ofNat, Nat.mod_eq_of_lt small', Nat.shiftRight_eq_div_pow]
      omega
    have copies : Copies memory (memory.copyBlock src tgt ((BitVec.ofNat 64 (count * 4) >>> 2).toNat * 4)) src tgt
        (count * 4) := by
      rw [words]
      exact ByteMemory.copies_copyBlock (Nat.le_of_lt small)
    refine ⟨_, ?_, copies⟩
    simp [slotBytes, whole, OpenJDKSlotRange.ofAddresses]
  | false =>
    have whole : BitVec.ofNat 64 (count * 8) &&& 7#64 = 0#64 := whole_slots 3 small
    refine ⟨_, ?_, copiesWords memory src tgt count small⟩
    simp [slotBytes, whole, OpenJDKSlotRange.ofAddresses]

theorem ArrayCopy.run_copies (debugAssertions : Bool) (copiesWords : CopiesWords rangeCopy)
    (valid : ObjArrays moving compressed memory arrays) (inside : copy.Inside moving compressed memory arrays) :
    ∃ after, copy.run compressed debugAssertions rangeCopy memory = .ok after ∧
      Copies memory after (elementAddress compressed copy.src copy.srcPos)
        (elementAddress compressed copy.dst copy.dstPos) (copy.count.toNat * slotBytes compressed) := by
  have shift : logBytesInSlot compressed = OpenJDKSlot.logBytesInSlot compressed := by cases compressed <;> rfl
  have small : copy.count.toNat * slotBytes compressed < 2 ^ 64 := by
    have dst := valid.valid copy.dst inside.dst
    have elements := Nat.mul_le_mul_right (slotBytes compressed) inside.dstBound
    have occupied := dst.occupied_le
    have room := dst.inside
    rw [Nat.add_mul, arrayLength] at elements
    omega
  simp only [ArrayCopy.run, arrayCopyRegions, shift, shiftLeft_slot]
  exact slotRange_copies debugAssertions copiesWords memory _ _ small

end Copying

section Arrays

variable {moving : MovingVM} {compressed : Bool} {oops : NarrowOops} {memory after : Memory} {arrays : List Address}
  {copy : ArrayCopy} {array : Address} {index : Nat}

theorem lengthOffset_le (compressed : Bool) : (ArrayOopDesc.lengthOffset compressed).toNat + 4 ≤ headerBytes compressed := by
  cases compressed <;> decide

/-- An array is determined by its header. -/
theorem ValidObjArray.congr (valid : ValidObjArray (moving.withMemory memory) compressed array)
    (agree : ∀ byte, Covers array (headerBytes compressed) byte → after byte = memory byte) :
    ValidObjArray (moving.withMemory after) compressed array ∧
      ArrayOopDesc.length (moving.withMemory after) compressed array =
        ArrayOopDesc.length (moving.withMemory memory) compressed array ∧
      sizeBytes moving compressed after array = sizeBytes moving compressed memory array := by
  have header := lengthOffset_le compressed
  have klass : OopDesc.klass (moving.withMemory after) compressed array =
      OopDesc.klass (moving.withMemory memory) compressed array := klass_congr (by omega) agree
  have length : ArrayOopDesc.length (moving.withMemory after) compressed array =
      ArrayOopDesc.length (moving.withMemory memory) compressed array := length_congr header agree
  have width : OpenJDKSlot.logBytesInSlot compressed ≤ 3 := by cases compressed <;> decide
  have encodes : EncodesArray compressed (OpenJDKSlot.logBytesInSlot compressed)
      (OopDesc.klass (moving.withMemory after) compressed array).layoutHelper := by
    rw [klass]
    exact valid.encodes
  have nonnegative : 0 ≤ (ArrayOopDesc.length (moving.withMemory after) compressed array).toInt := by
    rw [length]
    exact valid.nonnegative
  have size : (OopDesc.size (moving.withMemory after) compressed array).toNat =
      (OopDesc.size (moving.withMemory memory) compressed array).toNat := by
    rw [size_toNat encodes nonnegative width, size_toNat valid.encodes valid.nonnegative width, occupiedBytes,
      occupiedBytes, length]
  refine ⟨⟨?_, encodes, nonnegative, ?_⟩, length, size⟩
  · rw [klass]
    exact valid.id
  · rw [size]
    exact valid.inside

/-- Where the bytes of an element are. -/
theorem ObjArrays.element (valid : ObjArrays moving compressed memory arrays) (member : array ∈ arrays)
    (bound : index < arrayLength moving compressed memory array) {byte : Address}
    (covered : Covers (elementAddress compressed array index) (slotBytes compressed) byte) :
    array.toNat + headerBytes compressed + index * slotBytes compressed ≤ byte.toNat ∧
      byte.toNat < array.toNat + headerBytes compressed + (index + 1) * slotBytes compressed ∧
      byte.toNat < array.toNat + sizeBytes moving compressed memory array := by
  have isArray := valid.valid array member
  have start := isArray.elementAddress_toNat (Nat.le_of_lt bound)
  have stop : (elementAddress compressed array index).toNat + slotBytes compressed ≤
    array.toNat + sizeBytes moving compressed memory array := isArray.cell_inside bound
  have low := valid.low array member
  obtain ⟨above, below⟩ := covered.toNat (by omega)
  rw [Nat.succ_mul]
  omega

theorem ObjArrays.elementsIn_eq (valid : ObjArrays moving compressed memory arrays) (member : array ∈ arrays)
    (bound : index < arrayLength moving compressed memory array) (other : Memory) :
    elementsIn compressed oops other array index = Slots.cellReference oops compressed
      (other.read (elementAddress compressed array index) (slotBytes compressed)) := by
  have cell : (elementAddress compressed array index).toNat + slotBytes compressed ≤
    array.toNat + sizeBytes moving compressed memory array := (valid.valid array member).cell_inside bound
  have low := valid.low array member
  have positive : 0 < slotBytes compressed := Slots.slotBytes_pos
  refine load_of_low other ?_
  change (elementAddress compressed array index).toNat < 2 ^ 63
  omega

/-- Where the bytes of the destination are. -/
theorem ArrayCopy.Inside.covered (inside : copy.Inside moving compressed memory arrays)
    (valid : ObjArrays moving compressed memory arrays) {byte : Address}
    (covered : Covers (elementAddress compressed copy.dst copy.dstPos) (copy.count.toNat * slotBytes compressed) byte) :
    copy.dst.toNat + headerBytes compressed + copy.dstPos * slotBytes compressed ≤ byte.toNat ∧
      byte.toNat < copy.dst.toNat + headerBytes compressed + (copy.dstPos + copy.count.toNat) * slotBytes compressed ∧
      byte.toNat < copy.dst.toNat + sizeBytes moving compressed memory copy.dst := by
  have isArray := valid.valid copy.dst inside.dst
  have bound := inside.dstBound
  have position : copy.dstPos ≤ (ArrayOopDesc.length (moving.withMemory memory) compressed copy.dst).toNat :=
    (Nat.le_add_right _ _).trans bound
  have start := isArray.elementAddress_toNat position
  have occupied : headerBytes compressed + _ * slotBytes compressed ≤ sizeBytes moving compressed memory copy.dst :=
    isArray.occupied_le
  have elements := Nat.mul_le_mul_right (slotBytes compressed) bound
  have low := valid.low copy.dst inside.dst
  rw [Nat.add_mul, arrayLength] at elements
  obtain ⟨above, below⟩ := covered.toNat (by omega)
  rw [Nat.add_mul]
  omega

section Step

variable (valid : ObjArrays moving compressed memory arrays) (inside : copy.Inside moving compressed memory arrays)
  (copies : Copies memory after (elementAddress compressed copy.src copy.srcPos)
    (elementAddress compressed copy.dst copy.dstPos) (copy.count.toNat * slotBytes compressed))
  (member : array ∈ arrays)

include valid inside copies member

theorem copied_header {byte : Address} (covered : Covers array (headerBytes compressed) byte) :
    after byte = memory byte := by
  have isArray := valid.valid array member
  have occupied : headerBytes compressed + _ * slotBytes compressed ≤ sizeBytes moving compressed memory array :=
    isArray.occupied_le
  have low := valid.low array member
  have bounds := covered.toNat (by omega)
  apply copies.frame
  intro written
  have place := inside.covered valid written
  by_cases same : array = copy.dst
  · subst same
    omega
  · have apart := valid.apart array member copy.dst inside.dst same
    omega

/-- The elements outside the destination stay. -/
theorem copied_elsewhere (bound : index < arrayLength moving compressed memory array)
    (elsewhere : ¬ (array = copy.dst ∧ copy.dstPos ≤ index ∧ index < copy.dstPos + copy.count.toNat)) :
    elementsIn compressed oops after array index = elementsIn compressed oops memory array index := by
  rw [valid.elementsIn_eq member bound, valid.elementsIn_eq member bound]
  congr 1
  apply ByteMemory.read_congr
  intro byte covered
  have bounds := valid.element member bound covered
  apply copies.frame
  intro written
  have place := inside.covered valid written
  by_cases same : array = copy.dst
  · subst same
    by_cases before : index < copy.dstPos
    · have order := Nat.mul_le_mul_right (slotBytes compressed) before
      rw [Nat.succ_eq_add_one] at order
      omega
    · have behind : copy.dstPos + copy.count.toNat ≤ index := by
        by_contra within
        exact elsewhere ⟨rfl, by omega, by omega⟩
      have order := Nat.mul_le_mul_right (slotBytes compressed) behind
      omega
  · have apart := valid.apart array member copy.dst inside.dst same
    omega

omit member in
/-- An element of the destination is that of the source. -/
theorem copied_element (position : index < copy.count.toNat) :
    elementsIn compressed oops after copy.dst (copy.dstPos + index) =
      elementsIn compressed oops memory copy.src (copy.srcPos + index) := by
  have srcBound : copy.srcPos + index < arrayLength moving compressed memory copy.src :=
    Nat.lt_of_lt_of_le (Nat.add_lt_add_left position _) inside.srcBound
  have dstBound : copy.dstPos + index < arrayLength moving compressed memory copy.dst :=
    Nat.lt_of_lt_of_le (Nat.add_lt_add_left position _) inside.dstBound
  have part : index * slotBytes compressed + slotBytes compressed ≤ copy.count.toNat * slotBytes compressed := by
    rw [← Nat.succ_mul]
    exact Nat.mul_le_mul_right _ position
  have relocated : Relocated 0 memory after (elementAddress compressed copy.src copy.srcPos)
      (elementAddress compressed copy.dst copy.dstPos) (copy.count.toNat * slotBytes compressed) :=
    fun offset _ bound => copies.contents offset bound
  have read := relocated.read (Nat.zero_le _) part
  rw [elementAddress_add, elementAddress_add] at read
  rw [valid.elementsIn_eq inside.dst dstBound, valid.elementsIn_eq inside.src srcBound, read]

end Step

/-- The elements that a copy writes are elements of its destination. -/
theorem ArrayCopy.Inside.written (inside : copy.Inside moving compressed memory arrays) {byte : Address}
    (written : Covers (elementAddress compressed copy.dst copy.dstPos) (copy.count.toNat * slotBytes compressed) byte) :
    Covers (elementAddress compressed copy.dst 0)
      (arrayLength moving compressed memory copy.dst * slotBytes compressed) byte := by
  have place : elementAddress compressed copy.dst copy.dstPos =
      elementAddress compressed copy.dst 0 + BitVec.ofNat 64 (copy.dstPos * slotBytes compressed) := by
    rw [elementAddress_add, Nat.zero_add]
  rw [place] at written
  refine written.within ?_
  rw [← Nat.add_mul]
  exact Nat.mul_le_mul_right _ inside.dstBound

/-- A copy keeps every array and its length. -/
theorem ObjArrays.copied (valid : ObjArrays moving compressed memory arrays)
    (inside : copy.Inside moving compressed memory arrays)
    (copies : Copies memory after (elementAddress compressed copy.src copy.srcPos)
      (elementAddress compressed copy.dst copy.dstPos) (copy.count.toNat * slotBytes compressed)) :
    ObjArrays moving compressed after arrays ∧
      ∀ array ∈ arrays, arrayLength moving compressed after array = arrayLength moving compressed memory array := by
  have kept : ∀ array ∈ arrays, ValidObjArray (moving.withMemory after) compressed array ∧
      ArrayOopDesc.length (moving.withMemory after) compressed array =
        ArrayOopDesc.length (moving.withMemory memory) compressed array ∧
      sizeBytes moving compressed after array = sizeBytes moving compressed memory array := fun array member =>
    (valid.valid array member).congr fun _ covered => copied_header valid inside copies member covered
  refine ⟨⟨fun array member => (kept array member).1, ?_, ?_⟩, fun array member => ?_⟩
  · intro array member
    rw [(kept array member).2.2]
    exact valid.low array member
  · intro array member other member' different
    rw [(kept array member).2.2, (kept other member').2.2]
    exact valid.apart array member other member' different
  · rw [arrayLength, (kept array member).2.1]
    rfl

variable {now : Memory} {elements : Elements} {rangeCopy : AddressRangeCopy}

theorem HoldsElements.step (holds : HoldsElements moving compressed oops memory arrays now elements)
    (debugAssertions : Bool) (copiesWords : CopiesWords rangeCopy)
    (inside : copy.Inside moving compressed memory arrays) :
    ∃ after, copy.run compressed debugAssertions rangeCopy now = .ok after ∧
      HoldsElements moving compressed oops memory arrays after (copy.update elements) := by
  have current : copy.Inside moving compressed now arrays :=
    ⟨inside.src, inside.dst, by rw [holds.lengths _ inside.src]; exact inside.srcBound,
      by rw [holds.lengths _ inside.dst]; exact inside.dstBound⟩
  obtain ⟨after, done, copies⟩ := ArrayCopy.run_copies debugAssertions copiesWords holds.valid current
  obtain ⟨valid, lengths⟩ := holds.valid.copied current copies
  refine ⟨after, done, valid, fun array member => (lengths array member).trans (holds.lengths array member), ?_, ?_⟩
  · intro array member index bound
    have bound' : index < arrayLength moving compressed now array := by rwa [holds.lengths array member]
    rw [ArrayCopy.update]
    split
    case isTrue written =>
      obtain ⟨rfl, above, below⟩ := written
      obtain ⟨position, rfl⟩ := Nat.exists_eq_add_of_le above
      have source : copy.srcPos + position < arrayLength moving compressed memory copy.src := by
        have bound := inside.srcBound
        omega
      rw [copied_element holds.valid current copies (by omega), Nat.add_sub_cancel_left]
      exact holds.contents copy.src inside.src _ source
    case isFalse elsewhere =>
      rw [copied_elsewhere holds.valid current copies member bound' elsewhere]
      exact holds.contents array member index bound
  · intro byte outside
    refine (copies.frame byte fun written => ?_).trans (holds.frame byte outside)
    exact outside copy.dst inside.dst (inside.written written)

theorem HoldsElements.run {requests : List ArrayCopy}
    (holds : HoldsElements moving compressed oops memory arrays now elements) (debugAssertions : Bool)
    (copiesWords : CopiesWords rangeCopy) (inside : ∀ copy ∈ requests, copy.Inside moving compressed memory arrays) :
    ∃ after, copyArrays compressed debugAssertions rangeCopy requests now = .ok after ∧
      HoldsElements moving compressed oops memory arrays after
        (requests.foldl (fun elements copy => copy.update elements) elements) := by
  induction requests generalizing now elements with
  | nil => exact ⟨now, rfl, holds⟩
  | cons copy rest ih =>
    obtain ⟨between, done, holds'⟩ := holds.step debugAssertions copiesWords (inside copy List.mem_cons_self)
    obtain ⟨after, finished, final⟩ := ih holds' fun other member => inside other (List.mem_cons_of_mem _ member)
    refine ⟨after, ?_, final⟩
    rw [copyArrays, List.foldlM_cons, done]
    exact finished

/-- A scan finds the same slots in the array as before. -/
theorem HoldsElements.scan (holds : HoldsElements moving compressed oops memory arrays now elements)
    (valid : ObjArrays moving compressed memory arrays) (member : array ∈ arrays) :
    scanObject (moving.withMemory now) compressed array = scanObject (moving.withMemory memory) compressed array := by
  have length : ArrayOopDesc.length (moving.withMemory now) compressed array =
      ArrayOopDesc.length (moving.withMemory memory) compressed array :=
    BitVec.eq_of_toNat_eq (holds.lengths array member)
  rw [(holds.valid.valid array member).scan, (valid.valid array member).scan, elementRegion, elementRegion, length]

end Arrays

/-- However the copies overlap and in whatever order they come: none of them fails, each array
holds what the copies of abstract arrays leave in it, a scan finds the same slots in
it, and no byte outside the elements changes. -/
theorem array_copies_refine (moving : MovingVM) (compressed debugAssertions : Bool) (oops : NarrowOops)
    (rangeCopy : AddressRangeCopy) (copiesWords : CopiesWords rangeCopy) (memory : Memory) (arrays : List Address)
    (valid : ObjArrays moving compressed memory arrays) (copies : List ArrayCopy)
    (inside : ∀ copy ∈ copies, copy.Inside moving compressed memory arrays) :
    ∃ after, copyArrays compressed debugAssertions rangeCopy copies memory = .ok after ∧
      HoldsElements moving compressed oops memory arrays after
        (copies.foldl (fun elements copy => copy.update elements) (elementsIn compressed oops memory)) ∧
      ∀ array ∈ arrays,
        scanObject (moving.withMemory after) compressed array = scanObject (moving.withMemory memory) compressed array := by
  have unchanged : HoldsElements moving compressed oops memory arrays memory (elementsIn compressed oops memory) :=
    ⟨valid, fun _ _ => rfl, fun _ _ _ _ => rfl, fun _ _ => rfl⟩
  obtain ⟨after, done, holds⟩ := unchanged.run debugAssertions copiesWords inside
  exact ⟨after, done, holds, fun array member => holds.scan valid member⟩

/-- A copy of the bytes between the bounds. -/
def copyBetween : AddressRangeCopy := fun src tgt memory => memory.copyBlock src.1 tgt.1 (src.2 - src.1).toNat

theorem copyBetween_copiesWords : CopiesWords copyBetween := by
  intro memory src tgt words small
  have distance : (src + BitVec.ofNat 64 (words * 8) - src).toNat = words * 8 := by
    rw [BitVec.add_comm, BitVec.add_sub_cancel, BitVec.toNat_ofNat, Nat.mod_eq_of_lt small]
  simp only [copyBetween, distance]
  exact ByteMemory.copies_copyBlock (Nat.le_of_lt small)

/-- The second array has four elements. -/
def longerArrayMemory : Memory := fun byte => if byte = 0x1034 then 4 else objectArraysMemory byte

/-- The second array is shifted by one element twice, and an element is copied to the first
array. -/
def chainedCopies : List ArrayCopy :=
  [⟨0x1028, 0, 0x1028, 1, 3⟩, ⟨0x1028, 0, 0x1028, 1, 3⟩, ⟨0x1028, 2, 0x1010, 0, 1⟩]

/-- The reference has come as far as two shifts bring it. -/
theorem chained_copies_done :
    ∃ after, copyArrays true true copyBetween chainedCopies longerArrayMemory = .ok after ∧
      elementsIn true ⟨0, 3⟩ after 0x1010 0 = some 0x1010 ∧ elementsIn true ⟨0, 3⟩ after 0x1028 3 = none := by
  have valid : ObjArrays objectArraysVM true longerArrayMemory [0x1010, 0x1028] := by
    have encodes : EncodesArray true 2 (0x80100C02 : BitVec 32) := ⟨by decide, by decide, by decide⟩
    have array (oop : Address)
        (nonnegative : 0 ≤ (ArrayOopDesc.length (objectArraysVM.withMemory longerArrayMemory) true oop).toInt)
        (inside : oop.toNat + sizeBytes objectArraysVM true longerArrayMemory oop < 2 ^ 64) :
        ValidObjArray (objectArraysVM.withMemory longerArrayMemory) true oop :=
      ⟨rfl, encodes, nonnegative, inside⟩
    refine ⟨?_, ?_, ?_⟩
    · intro oop member
      rcases List.mem_pair.mp member with rfl | rfl
      · exact array _ (by decide) (by decide)
      · exact array _ (by decide) (by decide)
    · intro oop member
      rcases List.mem_pair.mp member with rfl | rfl
      · decide
      · decide
    · intro oop member other member' different
      rcases List.mem_pair.mp member with rfl | rfl
      · rcases List.mem_pair.mp member' with rfl | rfl
        · exact absurd rfl different
        · decide
      · rcases List.mem_pair.mp member' with rfl | rfl
        · decide
        · exact absurd rfl different
  have inside : ∀ copy ∈ chainedCopies, copy.Inside objectArraysVM true longerArrayMemory [0x1010, 0x1028] := by
    intro copy member
    simp only [chainedCopies, List.mem_cons, List.not_mem_nil, or_false, or_self_left] at member
    rcases member with rfl | rfl
    · exact ⟨by decide, by decide, by decide, by decide⟩
    · exact ⟨by decide, by decide, by decide, by decide⟩
  obtain ⟨after, done, holds, _⟩ := array_copies_refine objectArraysVM true true ⟨0, 3⟩ copyBetween
    copyBetween_copiesWords longerArrayMemory _ valid chainedCopies inside
  exact ⟨after, done, (holds.contents 0x1010 (by decide) 0 (by decide)).trans (by decide),
    (holds.contents 0x1028 (by decide) 3 (by decide)).trans (by decide)⟩

end MmtkOpenJDK.ObjectModel
