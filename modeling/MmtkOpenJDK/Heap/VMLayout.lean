import Mathlib.Data.BitVec

/-! The heap range installed for compressed pointers and the narrow-oop base and
shift chosen from it. Addresses are machine words; the chunk alignment and the
accessors of the installed range belong to mmtk-core. -/

namespace MmtkOpenJDK.Heap

abbrev Address := BitVec 64

def logBytesInGbyte : Nat := 30
def logBytesInChunk : Nat := 22
def bytesInChunk : Address := 1 <<< logBytesInChunk

def alignDown (address align : Address) : Address := address &&& ~~~(align - 1)

def alignUp (address align : Address) : Address := (address + align - 1) &&& ~~~(align - 1)

def chunkAlignDown (address : Address) : Address := alignDown address bytesInChunk

def chunkAlignUp (address : Address) : Address := alignUp address bytesInChunk

structure VMLayout where
  logAddressSpace : Nat
  heapStart : Address
  heapEnd : Address
  logSpaceExtent : Nat
  forceUseContiguousSpaces : Bool
deriving DecidableEq, Repr

def gbytes (count : Nat) : Address := BitVec.ofNat 64 count <<< logBytesInGbyte

/-- `set_compressed_pointer_vm_layout`: the layout given to the builder, or the
message of the failed assertion. -/
def setCompressedPointerVmLayout (maxHeapSize : Address) : Except String VMLayout :=
  if maxHeapSize ≤ gbytes 32 then
    let start : Address := 0x40000000
    let limit : Address :=
      if start + maxHeapSize ≤ gbytes 4 then gbytes 4
      else if start + maxHeapSize ≤ gbytes 32 then gbytes 32
      else 0x40000000 + gbytes 32
    .ok {
      logAddressSpace := 35
      heapStart := chunkAlignDown start
      heapEnd := chunkAlignUp limit
      logSpaceExtent := 31
      forceUseContiguousSpaces := false }
  else .error "Heap size is larger than 32 GB"

/-- The globals `BASE` and `SHIFT`. -/
structure NarrowOops where
  base : Address
  shift : Nat
deriving DecidableEq, Repr

/-- `initialize_compressed_oops_base_and_shift`, from the two heap bounds that
mmtk-core reports. -/
def initializeCompressedOopsBaseAndShift (startingHeapAddress lastHeapAddress : Address) : NarrowOops :=
  if lastHeapAddress ≤ gbytes 4 then ⟨0, 0⟩
  else if lastHeapAddress ≤ gbytes 32 then ⟨0, 3⟩
  else ⟨startingHeapAddress - 4096, 3⟩

/-- The encoding `SINGLETON_COMPRESSED` ends up with: mmtk-core is initialized
with the layout and reports its bounds back unchanged. -/
def VMLayout.narrowOops (layout : VMLayout) : NarrowOops :=
  initializeCompressedOopsBaseAndShift layout.heapStart layout.heapEnd

/-- The layout of one of the three heap ends. -/
def layoutTo (heapEnd : Address) : VMLayout :=
  { logAddressSpace := 35, heapStart := 0x40000000, heapEnd
    logSpaceExtent := 31, forceUseContiguousSpaces := false }

/-- The thresholds of the heap end, as thresholds of the heap size. -/
theorem start_add_le_four {maxHeapSize : Address} (bounded : maxHeapSize ≤ gbytes 32) :
    (0x40000000 : Address) + maxHeapSize ≤ gbytes 4 ↔ maxHeapSize ≤ gbytes 3 := by
  simp only [gbytes, logBytesInGbyte] at bounded ⊢
  constructor
  · intro selected
    bv_omega
  · intro low
    bv_omega

theorem start_add_le_thirtyTwo {maxHeapSize : Address} (bounded : maxHeapSize ≤ gbytes 32) :
    (0x40000000 : Address) + maxHeapSize ≤ gbytes 32 ↔ maxHeapSize ≤ gbytes 31 := by
  simp only [gbytes, logBytesInGbyte] at bounded ⊢
  constructor
  · intro selected
    bv_omega
  · intro middle
    bv_omega

/-- Everything the installed layout can be: the heap size selects one of three
heap ends, each with its own narrow-oop encoding. -/
theorem setCompressedPointerVmLayout_cases {maxHeapSize : Address} {layout : VMLayout}
    (accepted : setCompressedPointerVmLayout maxHeapSize = .ok layout) :
    (maxHeapSize ≤ gbytes 3 ∧ layout = layoutTo (gbytes 4) ∧ layout.narrowOops = ⟨0, 0⟩) ∨
    (gbytes 3 < maxHeapSize ∧ maxHeapSize ≤ gbytes 31 ∧
      layout = layoutTo (gbytes 32) ∧ layout.narrowOops = ⟨0, 3⟩) ∨
    (gbytes 31 < maxHeapSize ∧ maxHeapSize ≤ gbytes 32 ∧
      layout = layoutTo (gbytes 33) ∧ layout.narrowOops = ⟨gbytes 1 - 4096, 3⟩) := by
  unfold setCompressedPointerVmLayout at accepted
  split at accepted
  · rename_i bounded
    have same := Except.ok.inj accepted
    simp only [start_add_le_four bounded, start_add_le_thirtyTwo bounded] at same
    by_cases low : maxHeapSize ≤ gbytes 3
    · left
      rw [if_pos low] at same
      subst same
      exact ⟨low, by decide, by decide⟩
    · right
      rw [if_neg low] at same
      by_cases middle : maxHeapSize ≤ gbytes 31
      · left
        rw [if_pos middle] at same
        subst same
        exact ⟨BitVec.not_le.mp low, middle, by decide, by decide⟩
      · right
        rw [if_neg middle] at same
        subst same
        exact ⟨BitVec.not_le.mp middle, bounded, by decide, by decide⟩
  · cases accepted

end MmtkOpenJDK.Heap
