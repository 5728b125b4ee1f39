import MmtkOpenJDK.Foundation.SlidingCopy
import MmtkOpenJDK.ObjectModel.Abi

/-! Moving objects: `copy_to` slides one object, and a compaction calls it for one
object after the other. -/

namespace MmtkOpenJDK.ObjectModel

open MmtkOpenJDK.Heap MmtkOpenJDK.Foundation
open ByteMemory (Covers Disjoint Copies Move SelfSized InOrder Slides)
open Slots (Memory)

/-- A VM whose memory changes. The size that it reports for an object is read from
the object itself; the filling of alignment gaps belongs to mmtk-core. -/
structure MovingVM where
  vm : VM
  objectSize : Memory → Address → BitVec 64
  objectSize_own : ∀ memory other object,
    (∀ byte, Covers object (objectSize memory object).toNat byte → other byte = memory byte) →
      objectSize other object = objectSize memory object
  fillAlignmentGap : Address → Address → Memory → Memory

/-- The VM at a moment. -/
def MovingVM.withMemory (moving : MovingVM) (memory : Memory) : VM :=
  { moving.vm with memory, getObjectSize := moving.objectSize memory }

namespace VMObjectModel

variable (moving : MovingVM) (compressed : Bool) (memory : Memory)

def refToObjectStart (object : Address) : Address := object

def getReferenceWhenCopiedTo (_src dst : Address) : Address := dst

def getCurrentSize (object : Address) : BitVec 64 := OopDesc.size (moving.withMemory memory) compressed object

def getSizeWhenCopied (object : Address) : BitVec 64 := getCurrentSize moving compressed memory object

/-- The memory afterwards and the end of the moved object. -/
def copyTo (src dst region : Address) : Memory × Address :=
  let needCopy := src != dst
  let bytes := OopDesc.size (moving.withMemory memory) compressed src
  let copied := if needCopy then memory.copyAscending src dst bytes.toNat else memory
  let start := refToObjectStart dst
  let filled := if region != 0 then moving.fillAlignmentGap region start copied else copied
  (filled, start + bytes)

end VMObjectModel

/-- The size in bytes, as a number. -/
def sizeBytes (moving : MovingVM) (compressed : Bool) (memory : Memory) (object : Address) : Nat :=
  (VMObjectModel.getSizeWhenCopied moving compressed memory object).toNat

/-- The calls of a compaction, in the order of the list. -/
def compact (moving : MovingVM) (compressed : Bool) : Memory → List (Move 64) → Memory
  | memory, [] => memory
  | memory, move :: rest =>
    let dst := VMObjectModel.getReferenceWhenCopiedTo move.src move.dst
    compact moving compressed (VMObjectModel.copyTo moving compressed memory move.src dst 0).1 rest

/-- No object moves up, and none is placed below the address that the call for the
object before it returned. -/
def Compacting (moving : MovingVM) (compressed : Bool) : Memory → Address → List (Move 64) → Prop
  | _, _, [] => True
  | memory, returned, move :: rest =>
    let dst := VMObjectModel.getReferenceWhenCopiedTo move.src move.dst
    let result := VMObjectModel.copyTo moving compressed memory move.src dst 0
    returned ≤ move.dst ∧ move.dst ≤ move.src ∧ Compacting moving compressed result.1 result.2 rest

/-- An object inside the address space that has room for its own header: the klass
pointer, and the length in an array. -/
structure IsObject (moving : MovingVM) (compressed : Bool) (memory : Memory) (object : Address) : Prop where
  inside : object.toNat + sizeBytes moving compressed memory object ≤ 2 ^ 64
  header : (ArrayOopDesc.lengthOffset compressed).toNat ≤ sizeBytes moving compressed memory object
  arrayHeader : (OopDesc.klass (moving.withMemory memory) compressed object).layoutHelper.toInt < 0 →
    (ArrayOopDesc.lengthOffset compressed).toNat + 4 ≤ sizeBytes moving compressed memory object

/-- The objects to be moved, in ascending order. -/
structure ObjectsInOrder (moving : MovingVM) (compressed : Bool) (memory : Memory) (moves : List (Move 64)) :
    Prop where
  objects : ∀ move ∈ moves, IsObject moving compressed memory move.src
  ordered : moves.Pairwise fun move later =>
    move.src.toNat + sizeBytes moving compressed memory move.src ≤ later.src.toNat

section Sizes

variable {moving : MovingVM} {compressed : Bool} {memory other : Memory} {object : Address} {bytes : Nat}

theorem klass_congr (header : (ArrayOopDesc.lengthOffset compressed).toNat ≤ bytes)
    (agree : ∀ byte, Covers object bytes byte → other byte = memory byte) :
    OopDesc.klass (moving.withMemory other) compressed object =
      OopDesc.klass (moving.withMemory memory) compressed object := by
  have pointer (width : Nat) (inside : 8 + width ≤ bytes) :
      other.read (object + klassOffset) width = memory.read (object + klassOffset) width := by
    apply ByteMemory.read_congr
    intro byte covered
    exact agree byte (covered.within inside)
  cases compressed with
  | true => simp [OopDesc.klass, OopDesc.klassAddress, MovingVM.withMemory, pointer 4 header]
  | false => simp [OopDesc.klass, OopDesc.klassAddress, MovingVM.withMemory, pointer 8 header]

theorem length_congr (header : (ArrayOopDesc.lengthOffset compressed).toNat + 4 ≤ bytes)
    (agree : ∀ byte, Covers object bytes byte → other byte = memory byte) :
    ArrayOopDesc.length (moving.withMemory other) compressed object =
      ArrayOopDesc.length (moving.withMemory memory) compressed object := by
  refine congrArg (BitVec.ofNat 32) (ByteMemory.read_congr ?_)
  intro byte covered
  have offset : ArrayOopDesc.lengthOffset compressed = BitVec.ofNat 64 (ArrayOopDesc.lengthOffset compressed).toNat :=
    (by simp)
  rw [offset] at covered
  exact agree byte (covered.within header)

/-- `size` reads nothing but the object, whichever way it takes. -/
theorem IsObject.selfSized (isObject : IsObject moving compressed memory object) :
    SelfSized (sizeBytes moving compressed) memory object := by
  refine ⟨isObject.inside, ?_⟩
  intro other agree
  have klass : OopDesc.klass (moving.withMemory other) compressed object =
    OopDesc.klass (moving.withMemory memory) compressed object := klass_congr isObject.header agree
  have slow (taken : OopDesc.size (moving.withMemory memory) compressed object = moving.objectSize memory object) :
      moving.objectSize other object = moving.objectSize memory object := by
    have covered : sizeBytes moving compressed memory object = (moving.objectSize memory object).toNat :=
      congrArg BitVec.toNat taken
    rw [covered] at agree
    exact moving.objectSize_own memory other object agree
  have array := isObject.arrayHeader
  refine congrArg BitVec.toNat ?_
  rw [VMObjectModel.getSizeWhenCopied, VMObjectModel.getCurrentSize, VMObjectModel.getSizeWhenCopied,
    VMObjectModel.getCurrentSize]
  unfold OopDesc.size at slow ⊢
  rw [klass]
  generalize (OopDesc.klass (moving.withMemory memory) compressed object).layoutHelper = lh at slow array ⊢
  by_cases positive : 0 < lh.toInt
  · simp only [if_pos positive] at slow ⊢
    cases path : Klass.layoutHelperNeedsSlowPath lh with
    | true => exact slow (by simp [path, MovingVM.withMemory])
    | false => rfl
  · simp only [if_neg positive] at slow ⊢
    by_cases negative : lh.toInt < 0
    · simp only [if_pos negative]
      rw [length_congr (array negative) agree]
    · simp only [if_neg negative] at slow ⊢
      exact slow rfl

end Sizes

section Moves

variable {moving : MovingVM} {compressed : Bool} {memory : Memory} {src dst returned : Address}
variable {moves : List (Move 64)}

theorem copyTo_copies
    (placed : dst ≤ src ∧ src.toNat + sizeBytes moving compressed memory src ≤ 2 ^ 64 ∨
      Disjoint dst (sizeBytes moving compressed memory src) src (sizeBytes moving compressed memory src)) :
    Copies memory (VMObjectModel.copyTo moving compressed memory src dst 0).1 src dst
      (sizeBytes moving compressed memory src) := by
  by_cases same : src = dst
  · subst same
    simpa [VMObjectModel.copyTo] using ByteMemory.copies_refl
  · have ahead : ByteMemory.ReadsAhead src dst (sizeBytes moving compressed memory src) := by
      rcases placed with ⟨down, inside⟩ | disjoint
      · exact ByteMemory.readsAhead_of_le down inside
      · exact ByteMemory.readsAhead_of_disjoint disjoint
    have moved : (VMObjectModel.copyTo moving compressed memory src dst 0).1 =
        memory.copyAscending src dst (sizeBytes moving compressed memory src) := by
      simp [VMObjectModel.copyTo, same, sizeBytes, VMObjectModel.getSizeWhenCopied, VMObjectModel.getCurrentSize]
    rw [moved]
    exact ByteMemory.copies_copyAscending (BitVec.isLt _).le ahead

theorem copyTo_returns :
    (VMObjectModel.copyTo moving compressed memory src dst 0).2 =
      dst + VMObjectModel.getSizeWhenCopied moving compressed memory src := rfl

theorem ObjectsInOrder.inOrder (order : ObjectsInOrder moving compressed memory moves) :
    InOrder (sizeBytes moving compressed) memory moves :=
  ⟨fun move member => (order.objects move member).selfSized, order.ordered⟩

/-- The calls of a compaction are a slide. The end of an object can be the end of the
address space, and the returned address 0, only after the last call. -/
theorem Compacting.slides (compacting : Compacting moving compressed memory returned moves)
    (order : InOrder (sizeBytes moving compressed) memory moves) :
    Slides (sizeBytes moving compressed) memory returned.toNat moves (compact moving compressed memory moves) := by
  induction moves generalizing memory returned with
  | nil => exact .done memory returned.toNat
  | cons move rest ih =>
    obtain ⟨above, down, others⟩ := compacting
    have inside := (order.objects move List.mem_cons_self).inside
    have copies := copyTo_copies (.inl ⟨down, inside⟩)
    have slides := ih others (order.next down copies)
    refine .move above down copies ?_
    cases rest with
    | nil => exact .done _ _
    | cons later rest =>
      have behind := (List.pairwise_cons.mp order.ordered).1 later List.mem_cons_self
      have bound := later.src.isLt
      have low : move.dst.toNat ≤ move.src.toNat := down
      have cursor : (move.dst + VMObjectModel.getSizeWhenCopied moving compressed memory move.src).toNat =
          move.dst.toNat + sizeBytes moving compressed memory move.src := by
        rw [BitVec.toNat_add]
        exact Nat.mod_eq_of_lt (by unfold sizeBytes at behind; omega)
      rw [← cursor]
      exact slides

end Moves

/-- `copy_to` moves an object down over itself or to another place without touching
anything else, and a compaction leaves each object's bytes at its destination. -/
theorem copy_to_slides (moving : MovingVM) (compressed : Bool) (memory : Memory) :
    (∀ src dst, dst ≤ src ∧ src.toNat + sizeBytes moving compressed memory src ≤ 2 ^ 64 ∨
        Disjoint dst (sizeBytes moving compressed memory src) src (sizeBytes moving compressed memory src) →
      let result := VMObjectModel.copyTo moving compressed memory src dst 0
      Copies memory result.1 src dst (sizeBytes moving compressed memory src) ∧
        result.2 = dst + VMObjectModel.getSizeWhenCopied moving compressed memory src) ∧
    (∀ returned moves, ObjectsInOrder moving compressed memory moves →
      Compacting moving compressed memory returned moves →
      ∀ move ∈ moves, ∀ index < sizeBytes moving compressed memory move.src,
        compact moving compressed memory moves (move.dst + BitVec.ofNat 64 index) =
          memory (move.src + BitVec.ofNat 64 index)) := by
  refine ⟨?_, ?_⟩
  · intro src dst placed
    exact ⟨copyTo_copies placed, copyTo_returns⟩
  · intro returned moves objects compacting move member index bound
    have order := objects.inOrder
    exact (compacting.slides order).contents order member bound

/-- Two byte arrays next to each other, of 3 and of 9 elements; the last byte of the
second one is 7. `0xC0100800` is the layout helper of `byte[]`. -/
def byteArraysMemory : Memory := fun byte =>
  if byte = 0x101C then 3 else if byte = 0x1034 then 9 else if byte = 0x1040 then 7 else 0

/-- The size of a byte array with compressed klass pointers, as the VM computes it. -/
def byteArraySize (memory : Memory) (object : Address) : BitVec 64 :=
  BitVec.ofNat 64 ((memory.read (object + 12) 4 + 23) / 8 * 8)

theorem byteArraySize_own (memory other : Memory) (object : Address)
    (agree : ∀ byte, Covers object (byteArraySize memory object).toNat byte → other byte = memory byte) :
    byteArraySize other object = byteArraySize memory object := by
  have length : memory.read (object + 12) 4 < 256 ^ 4 := ByteMemory.read_lt
  have header : 12 + 4 ≤ (byteArraySize memory object).toNat := by
    rw [byteArraySize, BitVec.toNat_ofNat]
    omega
  have same : other.read (object + 12) 4 = memory.read (object + 12) 4 := by
    apply ByteMemory.read_congr
    intro byte covered
    exact agree byte (covered.within header)
  rw [byteArraySize, same, byteArraySize]

def byteArraysVM : MovingVM where
  vm := {
    memory := byteArraysMemory
    klassAt _ := ⟨⟨0xC0100800, .typeArray, 0⟩, 0, 0, .none⟩
    blockAt _ := ⟨0, 0⟩
    compressedKlassBase := 0
    compressedKlassShift := 3
    sizeOfInstanceKlass := 480
    offsetOfStaticFields := 0
    staticOopFieldCountOffset := 0
    referentOffset := 0
    discoveredOffset := 0
    getObjectSize := byteArraySize byteArraysMemory
    noReferenceTypes := false }
  objectSize := byteArraySize
  objectSize_own := byteArraySize_own
  fillAlignmentGap _ _ memory := memory

/-- Both arrays slide down by two words, the second one over the end of the first. -/
theorem byte_arrays_compacted :
    compact byteArraysVM true byteArraysMemory [⟨0x1010, 0x1000⟩, ⟨0x1028, 0x1018⟩] 0x1030 = 7 := by
  have objects : ObjectsInOrder byteArraysVM true byteArraysMemory [⟨0x1010, 0x1000⟩, ⟨0x1028, 0x1018⟩] := by
    refine ⟨?_, ?_⟩
    · intro move member
      rcases List.mem_pair.mp member with rfl | rfl
      · exact ⟨by decide, by decide, by decide⟩
      · exact ⟨by decide, by decide, by decide⟩
    · simp only [List.pairwise_cons, List.mem_singleton, forall_eq, List.not_mem_nil, false_implies, implies_true,
        List.Pairwise.nil, and_true]
      decide
  have compacting : Compacting byteArraysVM true byteArraysMemory 0 [⟨0x1010, 0x1000⟩, ⟨0x1028, 0x1018⟩] :=
    ⟨by decide, by decide, by decide, by decide, trivial⟩
  exact (copy_to_slides byteArraysVM true byteArraysMemory).2 0 _ objects compacting ⟨0x1028, 0x1018⟩ (by simp) 24
    (by decide)

end MmtkOpenJDK.ObjectModel
