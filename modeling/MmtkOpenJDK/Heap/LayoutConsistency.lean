import MmtkOpenJDK.Heap.VMLayout

/-! Whether the layout installed for compressed pointers fits its own constants: the
declared width of the address space, the chunks of mmtk-core, and the thresholds by
which the narrow-oop encoding is chosen afterwards. -/

namespace MmtkOpenJDK.Heap

/-- The three ranges of a heap end that both functions tell apart. -/
inductive Regime where
  | unscaled
  | zeroBased
  | heapBased
  deriving DecidableEq

namespace Regime

def ofEnd (limit : Address) : Regime :=
  if limit ≤ gbytes 4 then .unscaled
  else if limit ≤ gbytes 32 then .zeroBased
  else .heapBased

/-- The heap end before it is aligned. -/
def heapEnd : Regime → Address
  | .unscaled => gbytes 4
  | .zeroBased => gbytes 32
  | .heapBased => 0x40000000 + gbytes 32

def narrowOops (startingHeapAddress : Address) : Regime → NarrowOops
  | .unscaled => ⟨0, 0⟩
  | .zeroBased => ⟨0, 3⟩
  | .heapBased => ⟨startingHeapAddress - 4096, 3⟩

end Regime

/-- The first function ends the heap by the regime of `start + max_heap_size`. -/
theorem setCompressedPointerVmLayout_regime {maxHeapSize : Address} {layout : VMLayout}
    (accepted : setCompressedPointerVmLayout maxHeapSize = .ok layout) :
    layout.heapEnd = chunkAlignUp (Regime.ofEnd (0x40000000 + maxHeapSize)).heapEnd := by
  unfold setCompressedPointerVmLayout at accepted
  split at accepted
  · have same := Except.ok.inj accepted
    subst same
    rw [Regime.ofEnd]
    by_cases low : (0x40000000 : Address) + maxHeapSize ≤ gbytes 4
    · simp only [if_pos low, Regime.heapEnd]
    · by_cases middle : (0x40000000 : Address) + maxHeapSize ≤ gbytes 32
      · simp only [if_neg low, if_pos middle, Regime.heapEnd]
      · simp only [if_neg low, if_neg middle, Regime.heapEnd]
  · cases accepted

/-- The second one encodes by the regime of the heap end it finds. -/
theorem narrowOops_regime (layout : VMLayout) :
    layout.narrowOops = (Regime.ofEnd layout.heapEnd).narrowOops layout.heapStart := by
  rw [VMLayout.narrowOops, initializeCompressedOopsBaseAndShift, Regime.ofEnd]
  split
  · rfl
  · split
    · rfl
    · rfl

/-- Every step of the two functions gives the number it stands for. -/
structure NoOverflow (maxHeapSize : Address) (layout : VMLayout) : Prop where
  thresholds : (gbytes 4).toNat = 4 * 2 ^ 30 ∧ (gbytes 32).toNat = 32 * 2 ^ 30
  heapLimit : 0x40000000 + maxHeapSize.toNat < 2 ^ 64
  largestEnd : (Regime.heapBased.heapEnd).toNat = 0x40000000 + 32 * 2 ^ 30
  alignment : (Regime.ofEnd (0x40000000 + maxHeapSize)).heapEnd.toNat + (bytesInChunk.toNat - 1) < 2 ^ 64
  base : 4096 ≤ layout.heapStart.toNat

/-- What a layout must satisfy. `chosen` and `encoding` say which regime either
function selects, `regime` that it is the same one. -/
structure SelfConsistent (maxHeapSize : Address) (layout : VMLayout) : Prop where
  startAligned : layout.heapStart.toNat % 2 ^ logBytesInChunk = 0
  endAligned : layout.heapEnd.toNat % 2 ^ logBytesInChunk = 0
  startPositive : 0 < layout.heapStart.toNat
  room : layout.heapStart.toNat + maxHeapSize.toNat ≤ layout.heapEnd.toNat
  addressSpace : layout.heapEnd.toNat ≤ 2 ^ layout.logAddressSpace
  chunks : ∀ address : Address, layout.heapStart ≤ address → address < layout.heapEnd →
    address.toNat / 2 ^ logBytesInChunk < 2 ^ (layout.logAddressSpace - logBytesInChunk)
  chosen : layout.heapEnd = chunkAlignUp (Regime.ofEnd (0x40000000 + maxHeapSize)).heapEnd
  encoding : layout.narrowOops = (Regime.ofEnd layout.heapEnd).narrowOops layout.heapStart
  regime : Regime.ofEnd (0x40000000 + maxHeapSize) = Regime.ofEnd layout.heapEnd
  noOverflow : NoOverflow maxHeapSize layout

/-- The layouts of the first two regimes. -/
theorem selfConsistent_layoutTo {maxHeapSize heapEnd : Address}
    (accepted : setCompressedPointerVmLayout maxHeapSize = .ok (layoutTo heapEnd))
    (aligned : heapEnd.toNat % 2 ^ logBytesInChunk = 0) (inside : heapEnd.toNat ≤ 2 ^ 35)
    (room : 2 ^ 30 + maxHeapSize.toNat ≤ heapEnd.toNat)
    (regime : Regime.ofEnd (0x40000000 + maxHeapSize) = Regime.ofEnd heapEnd) :
    SelfConsistent maxHeapSize (layoutTo heapEnd) := by
  have start : (layoutTo heapEnd).heapStart.toNat = 2 ^ 30 := rfl
  refine ⟨by rw [start]; decide, aligned, by rw [start]; decide, room, inside, ?_,
    setCompressedPointerVmLayout_regime accepted, narrowOops_regime _, regime, ?_⟩
  · intro address _ below
    have bound : address.toNat < heapEnd.toNat := below
    change address.toNat / 2 ^ 22 < 2 ^ (35 - 22)
    omega
  · have limit : (Regime.ofEnd (0x40000000 + maxHeapSize)).heapEnd.toNat + (bytesInChunk.toNat - 1) < 2 ^ 64 := by
      cases Regime.ofEnd (0x40000000 + maxHeapSize) <;> decide
    exact ⟨⟨by decide, by decide⟩, by omega, by decide, limit, by rw [start]; decide⟩

/-- The layout is consistent exactly up to 31 GiB. Beyond, the heap ends at 33 GiB,
outside of the address space of 32 GiB that the layout declares. -/
theorem layout_self_consistent_iff (maxHeapSize : Address) (layout : VMLayout)
    (accepted : setCompressedPointerVmLayout maxHeapSize = .ok layout) :
    SelfConsistent maxHeapSize layout ↔ maxHeapSize ≤ gbytes 31 := by
  rcases setCompressedPointerVmLayout_cases accepted with
    ⟨small, rfl, _⟩ | ⟨large, small, rfl, _⟩ | ⟨large, _, rfl, _⟩
  · refine iff_of_true ?_ (BitVec.le_trans small (by decide))
    have bytes : maxHeapSize.toNat ≤ 3 * 2 ^ 30 := small
    have bounded : maxHeapSize ≤ gbytes 32 := BitVec.le_trans small (by decide)
    refine selfConsistent_layoutTo accepted (by decide) (by decide) ?_ ?_
    · change 2 ^ 30 + maxHeapSize.toNat ≤ 4 * 2 ^ 30
      omega
    · rw [Regime.ofEnd, if_pos ((start_add_le_four bounded).mpr small)]
      decide
  · refine iff_of_true ?_ small
    have bytes : maxHeapSize.toNat ≤ 31 * 2 ^ 30 := small
    have bounded : maxHeapSize ≤ gbytes 32 := BitVec.le_trans small (by decide)
    have notLow : ¬ maxHeapSize ≤ gbytes 3 := BitVec.not_le.mpr large
    refine selfConsistent_layoutTo accepted (by decide) (by decide) ?_ ?_
    · change 2 ^ 30 + maxHeapSize.toNat ≤ 32 * 2 ^ 30
      omega
    · rw [Regime.ofEnd, if_neg (mt (start_add_le_four bounded).mp notLow),
        if_pos ((start_add_le_thirtyTwo bounded).mpr small)]
      decide
  · refine iff_of_false ?_ (BitVec.not_le.mpr large)
    intro consistent
    exact absurd consistent.addressSpace (by decide)

theorem layout_self_consistent_at_31_gbytes :
    ∃ layout, setCompressedPointerVmLayout (gbytes 31) = .ok layout ∧ SelfConsistent (gbytes 31) layout :=
  ⟨layoutTo (gbytes 32), by rfl, (layout_self_consistent_iff (gbytes 31) _ (by rfl)).mpr (by decide)⟩

/-- A heap of 32 GiB is accepted; its last chunks have no entry in mmtk-core's tables. -/
theorem layout_beyond_address_space :
    ∃ layout, setCompressedPointerVmLayout (gbytes 32) = .ok layout ∧
      2 ^ layout.logAddressSpace < layout.heapEnd.toNat ∧
      (layout.heapStart ≤ 0x83FC00000 ∧ 0x83FC00000 < layout.heapEnd ∧
        2 ^ (layout.logAddressSpace - logBytesInChunk) ≤ 0x83FC00000 / 2 ^ logBytesInChunk) ∧
      ¬ SelfConsistent (gbytes 32) layout := by
  refine ⟨layoutTo (gbytes 33), by rfl, by decide, by decide, ?_⟩
  intro consistent
  exact absurd consistent.addressSpace (by decide)

end MmtkOpenJDK.Heap
