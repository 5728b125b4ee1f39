import MmtkOpenJDK.Foundation.IdealGraph
import MmtkOpenJDK.Foundation.SideMetadata

/-! What the allocation code generators ask mmtk-core and HotSpot for: the selected
allocator, the place of its bump pointer in the thread, the largest size outside
the large object space, and the build flags. -/

namespace MmtkOpenJDK.Allocation

open MmtkOpenJDK.Foundation X86

/-- The tag of an `AllocatorSelector`. -/
inductive Tag where
  | bumpPointer
  | largeObject
  | malloc
  | immix
  | markCompact
  | freeList
  deriving DecidableEq

structure AllocatorSelector where
  tag : Tag
  index : Nat
  deriving DecidableEq

/-- Malloc, large-object and free-list allocators have no fast path. -/
def Tag.isSlow : Tag → Bool
  | .malloc | .largeObject | .freeList => true
  | .bumpPointer | .immix | .markCompact => false

section Layout

/-! The byte layout of the allocators in `MMTkMutatorContext`. -/

def cursorOffset : Nat := 8
def limitOffset : Nat := 16
def sizeofBumpAllocator : Nat := 48
def sizeofLargeObjectAllocator : Nat := 24
def sizeofMallocAllocator : Nat := 24
def sizeofImmixAllocator : Nat := 88
def sizeofFreeListAllocator : Nat := 56
def sizeofMarkCompactAllocator : Nat := sizeofBumpAllocator

def offsetOfBumpPointer : Nat := 0
def offsetOfImmix : Nat :=
  6 * sizeofBumpAllocator + 2 * sizeofLargeObjectAllocator + 1 * sizeofMallocAllocator
def offsetOfMarkcompact : Nat := offsetOfImmix + 2 * sizeofImmixAllocator + 2 * sizeofFreeListAllocator

end Layout

structure MMTkAllocatorOffsets where
  tlabTopOffset : Nat
  tlabEndOffset : Nat
  deriving DecidableEq

/-- `get_tlab_top_and_end_offsets`, from the offset of the allocators in the thread. -/
def getTlabTopAndEndOffsets (allocatorsBaseOffset : Nat) (selector : AllocatorSelector) :
    Except String MMTkAllocatorOffsets :=
  match selector.tag with
  | .immix =>
    let allocatorBaseOffset := allocatorsBaseOffset + offsetOfImmix + selector.index * sizeofImmixAllocator
    .ok ⟨allocatorBaseOffset + cursorOffset, allocatorBaseOffset + limitOffset⟩
  | .bumpPointer =>
    let allocatorBaseOffset := allocatorsBaseOffset + offsetOfBumpPointer + selector.index * sizeofBumpAllocator
    .ok ⟨allocatorBaseOffset + cursorOffset, allocatorBaseOffset + limitOffset⟩
  | .markCompact =>
    let allocatorBaseOffset :=
      allocatorsBaseOffset + offsetOfMarkcompact + selector.index * sizeofMarkCompactAllocator
    .ok ⟨allocatorBaseOffset + cursorOffset, allocatorBaseOffset + limitOffset⟩
  | .largeObject | .malloc | .freeList => .error "Unimplemented allocator fastpath\n"

/-- The header of the mark-compact allocator is a few words, and the counter of
allocated bytes is not a field of an allocator. -/
structure Settings where
  maxNonLosBytes : BitVec 64
  selector : AllocatorSelector
  markCompactHeader : BitVec 64
  enableAllocationFastpath : Bool
  enableVoBit : Bool
  voBitBase : BitVec 64
  allocatorsBaseOffset : Nat
  allocatedBytesOffset : Nat
  header_aligned : markCompactHeader.toNat % 8 = 0
  header_small : markCompactHeader.toNat < 2 ^ 31
  counter_outside : ∀ offsets, getTlabTopAndEndOffsets allocatorsBaseOffset selector = .ok offsets →
    allocatedBytesOffset ≠ offsets.tlabTopOffset ∧ allocatedBytesOffset ≠ offsets.tlabEndOffset

namespace Settings

variable (settings : Settings)

def extraHeader : BitVec 64 := if settings.selector.tag = .markCompact then settings.markCompactHeader else 0

/-- The size that the generators compare with, as an unsigned word. -/
def largestSize : BitVec 64 := settings.maxNonLosBytes - settings.extraHeader

def setsVoBit : Bool := settings.enableVoBit || decide (settings.selector.tag = .markCompact)

/-- The fast path is on and the allocator has one. -/
def HasFastPath : Prop := settings.enableAllocationFastpath = true ∧ settings.selector.tag.isSlow = false

instance : Decidable settings.HasFastPath := inferInstanceAs (Decidable (_ ∧ _))

/-- The place of the bump pointer, if the allocator has one. -/
def offsets : MMTkAllocatorOffsets :=
  match getTlabTopAndEndOffsets settings.allocatorsBaseOffset settings.selector with
  | .ok offsets => offsets
  | .error _ => ⟨0, 0⟩

/-- The cursor and the limit of the thread-local buffer. -/
def cursor (memory : Memory) : BitVec 64 := memory.thread settings.offsets.tlabTopOffset

def limit (memory : Memory) : BitVec 64 := memory.thread settings.offsets.tlabEndOffset

/-- Where the next object starts, behind its header. -/
def objectStart (memory : Memory) : BitVec 64 := settings.cursor memory + settings.extraHeader

/-- The effect of a fast allocation on the buffer and on the valid-object bits. -/
structure Bumped (size : BitVec 64) (memory after : Memory) : Prop where
  cursor : settings.cursor after = settings.objectStart memory + size
  limit : settings.limit after = settings.limit memory
  bytes : after.bytes =
    if settings.setsVoBit then setMetaBit settings.voBitBase memory.bytes (settings.objectStart memory)
    else memory.bytes

variable {settings}

theorem extraHeader_aligned : settings.extraHeader.toNat % 8 = 0 := by
  unfold extraHeader
  split
  · exact settings.header_aligned
  · rfl

theorem extraHeader_small : settings.extraHeader.toNat < 2 ^ 31 := by
  unfold extraHeader
  split
  · exact settings.header_small
  · decide

/-- An allocator with a fast path has a bump pointer, whose two words are neighbours. -/
theorem getTlabTopAndEndOffsets_ok {selector : AllocatorSelector} (fast : selector.tag.isSlow = false)
    (allocatorsBaseOffset : Nat) :
    ∃ top, getTlabTopAndEndOffsets allocatorsBaseOffset selector = .ok ⟨top, top + 8⟩ := by
  obtain ⟨tag, index⟩ := selector
  cases tag with
  | bumpPointer | immix | markCompact => exact ⟨_, rfl⟩
  | largeObject | malloc | freeList => cases fast

/-- The fatal branch is not reached by a selector with a fast path. -/
theorem HasFastPath.offsets_eq (fast : settings.HasFastPath) :
    getTlabTopAndEndOffsets settings.allocatorsBaseOffset settings.selector = .ok settings.offsets := by
  obtain ⟨top, found⟩ := getTlabTopAndEndOffsets_ok fast.2 settings.allocatorsBaseOffset
  rw [offsets, found]

/-- The cursor, the limit and the counter of allocated bytes are different words. -/
theorem HasFastPath.separate (fast : settings.HasFastPath) :
    settings.offsets.tlabTopOffset ≠ settings.offsets.tlabEndOffset ∧
      settings.allocatedBytesOffset ≠ settings.offsets.tlabTopOffset ∧
      settings.allocatedBytesOffset ≠ settings.offsets.tlabEndOffset := by
  obtain ⟨top, found⟩ := getTlabTopAndEndOffsets_ok fast.2 settings.allocatorsBaseOffset
  have same : settings.offsets = ⟨top, top + 8⟩ := Except.ok.inj (fast.offsets_eq.symm.trans found)
  refine ⟨?_, settings.counter_outside _ fast.offsets_eq⟩
  rw [same]
  simp

end Settings

/-- An Immix plan whose objects of 16 KiB and more are large. -/
def immixSettings : Settings where
  maxNonLosBytes := 0x4000
  selector := ⟨.immix, 0⟩
  markCompactHeader := 8
  enableAllocationFastpath := true
  enableVoBit := true
  voBitBase := 0x100000000000
  allocatorsBaseOffset := 0x400
  allocatedBytesOffset := 0x100
  header_aligned := by decide
  header_small := by decide
  counter_outside := by
    intro offsets found
    cases found
    decide

end MmtkOpenJDK.Allocation
