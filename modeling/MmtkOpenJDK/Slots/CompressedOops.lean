import MmtkOpenJDK.Heap.VMLayout

/-! Narrow oops: the 32-bit encoding of object addresses, and the exact part of
every installable heap on which it can be undone. -/

namespace MmtkOpenJDK.Slots

open MmtkOpenJDK.Heap

variable {oops : NarrowOops} {o : Address}

/-- The shifted offset of an object before the cast to `u32`. -/
def shiftedOffset (oops : NarrowOops) (o : Address) : Address :=
  (o - oops.base) >>> oops.shift

def compress (oops : NarrowOops) (o : Address) : BitVec 32 :=
  (shiftedOffset oops o).setWidth 32

/-- `None` stands for the null reference. The source builds the object reference
unchecked, so the decoded address is returned as it is. -/
def decompress (oops : NarrowOops) (v : BitVec 32) : Option Address :=
  if v = 0 then none
  else some (oops.base + (v.setWidth 64 <<< oops.shift))

/-- The offset of `o` is positive, a multiple of the encoding's unit, and its
number of units fits the 32 bits of a narrow oop. -/
structure Encodable (oops : NarrowOops) (o : Address) : Prop where
  above : oops.base < o
  aligned : (o - oops.base).toNat % 2 ^ oops.shift = 0
  fits : (shiftedOffset oops o).toNat < 2 ^ 32

theorem shiftedOffset_toNat :
    (shiftedOffset oops o).toNat = (o - oops.base).toNat / 2 ^ oops.shift := by
  rw [shiftedOffset, BitVec.toNat_ushiftRight, Nat.shiftRight_eq_div_pow]

theorem compress_toNat (fits : (shiftedOffset oops o).toNat < 2 ^ 32) :
    (compress oops o).toNat = (o - oops.base).toNat / 2 ^ oops.shift := by
  rw [compress, BitVec.toNat_setWidth, Nat.mod_eq_of_lt fits, shiftedOffset_toNat]

private theorem offset_pos (above : oops.base < o) : 0 < (o - oops.base).toNat := by
  bv_omega

theorem Encodable.compress_ne_zero (encodable : Encodable oops o) : compress oops o ≠ 0 := by
  intro zero
  have units := compress_toNat encodable.fits
  rw [zero] at units
  have small : (o - oops.base).toNat < 2 ^ oops.shift := by
    rcases Nat.div_eq_zero_iff.mp units.symm with bad | small
    · exact absurd bad (Nat.two_pow_pos _).ne'
    · exact small
  have none : (o - oops.base).toNat = 0 := by
    rw [← Nat.mod_eq_of_lt small]
    exact encodable.aligned
  exact absurd (offset_pos encodable.above) (by omega)

theorem Encodable.decompress_compress (encodable : Encodable oops o) :
    decompress oops (compress oops o) = some o := by
  have units := compress_toNat encodable.fits
  have offset : (compress oops o).setWidth 64 <<< oops.shift = o - oops.base := by
    apply BitVec.eq_of_toNat_eq
    have whole : (o - oops.base).toNat / 2 ^ oops.shift * 2 ^ oops.shift = (o - oops.base).toNat :=
      Nat.div_mul_cancel (Nat.dvd_of_mod_eq_zero encodable.aligned)
    have narrow : (compress oops o).toNat % 2 ^ 64 = (compress oops o).toNat :=
      Nat.mod_eq_of_lt (Nat.lt_trans (compress oops o).isLt (by decide))
    rw [BitVec.toNat_shiftLeft, BitVec.toNat_setWidth, Nat.shiftLeft_eq, narrow, units, whole,
      Nat.mod_eq_of_lt (o - oops.base).isLt]
  rw [decompress, if_neg encodable.compress_ne_zero, offset]
  exact congrArg some (by bv_omega)

/-- The cast drops nothing, the narrow oop is not null, and decoding gives the
object back. -/
structure RoundTrips (oops : NarrowOops) (o : Address) : Prop where
  fits : (shiftedOffset oops o).toNat < 2 ^ 32
  notNull : compress oops o ≠ 0
  recovered : decompress oops (compress oops o) = some o

theorem Encodable.roundTrips (encodable : Encodable oops o) : RoundTrips oops o :=
  ⟨encodable.fits, encodable.compress_ne_zero, encodable.decompress_compress⟩

/-- An 8-byte aligned object address of the installed heap. -/
structure InHeap (layout : VMLayout) (o : Address) : Prop where
  aligned : o.toNat % 8 = 0
  start : layout.heapStart ≤ o
  limit : o < layout.heapEnd

/-- The narrow oops of a heap are faithful: every object survives the round
trip, distinct objects have distinct encodings, and none is encoded as null. -/
structure Faithful (layout : VMLayout) : Prop where
  roundTrips : ∀ o, InHeap layout o → RoundTrips layout.narrowOops o
  injective : ∀ first second, InHeap layout first → InHeap layout second →
    compress layout.narrowOops first = compress layout.narrowOops second → first = second
  notNull : ∀ o, InHeap layout o → compress layout.narrowOops o ≠ 0

theorem Faithful.ofRoundTrips {layout : VMLayout}
    (roundTrips : ∀ o, InHeap layout o → RoundTrips layout.narrowOops o) : Faithful layout where
  roundTrips := roundTrips
  injective := by
    intro first second firstHeap secondHeap same
    have decoded := (roundTrips first firstHeap).recovered
    rw [same, (roundTrips second secondHeap).recovered] at decoded
    exact (Option.some.inj decoded).symm
  notNull o inHeap := (roundTrips o inHeap).notNull

/-- A base of zero with every offset representable: nothing is lost. -/
theorem roundTrips_of_zero_base {shift : Nat} (positive : 0 < o.toNat)
    (aligned : o.toNat % 2 ^ shift = 0) (bounded : o.toNat / 2 ^ shift < 2 ^ 32) :
    RoundTrips ⟨0, shift⟩ o := by
  have encodable : Encodable ⟨0, shift⟩ o := {
    above := by bv_omega
    aligned := by simpa using aligned
    fits := by simpa [shiftedOffset_toNat] using bounded }
  exact encodable.roundTrips

/-- With the base one page below the start of the heap, exactly the last page of
the 32 GiB range is out of reach of a shifted 32-bit offset. -/
theorem roundTrips_biased_iff (aligned : o.toNat % 8 = 0) (start : gbytes 1 ≤ o) :
    RoundTrips ⟨gbytes 1 - 4096, 3⟩ o ↔ o < gbytes 33 - 4096 := by
  have offset : (o - (gbytes 1 - 4096)).toNat = o.toNat - (2 ^ 30 - 4096) := by
    simp only [gbytes, logBytesInGbyte] at start ⊢
    bv_omega
  have low : 2 ^ 30 ≤ o.toNat := start
  have units : (shiftedOffset ⟨gbytes 1 - 4096, 3⟩ o).toNat = (o.toNat - (2 ^ 30 - 4096)) / 8 := by
    rw [shiftedOffset_toNat, offset]
    rfl
  have limit : o < gbytes 33 - 4096 ↔ o.toNat < 33 * 2 ^ 30 - 4096 := Iff.rfl
  rw [limit]
  constructor
  · intro roundTrips
    have fits := roundTrips.fits
    rw [units] at fits
    omega
  · intro inside
    have encodable : Encodable ⟨gbytes 1 - 4096, 3⟩ o := {
      above := by
        simp only [gbytes, logBytesInGbyte] at start ⊢
        bv_omega
      aligned := by
        change (o - (gbytes 1 - 4096)).toNat % 8 = 0
        rw [offset]
        omega
      fits := by rw [units]; omega }
    exact encodable.roundTrips

/-- An object of the heap survives the round trip unless the heap reaches 33 GiB
and the object lies in its last page. -/
theorem roundTrips_iff {maxHeapSize : Address} {layout : VMLayout}
    (accepted : setCompressedPointerVmLayout maxHeapSize = .ok layout) (inHeap : InHeap layout o) :
    RoundTrips layout.narrowOops o ↔ maxHeapSize ≤ gbytes 31 ∨ o < layout.heapEnd - 4096 := by
  obtain ⟨aligned, start, limit⟩ := inHeap
  rcases setCompressedPointerVmLayout_cases accepted with
    ⟨small, rfl, encoding⟩ | ⟨_, small, rfl, encoding⟩ | ⟨large, _, rfl, encoding⟩
  · have low : 2 ^ 30 ≤ o.toNat := start
    have high : o.toNat < 4 * 2 ^ 30 := limit
    rw [encoding]
    exact iff_of_true (roundTrips_of_zero_base (by omega) (by omega) (by omega))
      (.inl (BitVec.le_trans small (by decide)))
  · have low : 2 ^ 30 ≤ o.toNat := start
    have high : o.toNat < 32 * 2 ^ 30 := limit
    rw [encoding]
    exact iff_of_true (roundTrips_of_zero_base (by omega) (by omega) (by omega)) (.inl small)
  · rw [encoding, roundTrips_biased_iff aligned start]
    have notSmall : ¬ maxHeapSize ≤ gbytes 31 := BitVec.not_le.mpr large
    simp [notSmall, layoutTo]

private theorem lastPage_inHeap (large : gbytes 31 < maxHeapSize)
    (accepted : setCompressedPointerVmLayout maxHeapSize = .ok layout) :
    InHeap layout (layout.heapEnd - 4096) := by
  rcases setCompressedPointerVmLayout_cases accepted with
    ⟨small, _⟩ | ⟨_, small, _⟩ | ⟨_, _, rfl, _⟩
  · exact absurd (BitVec.le_trans small (by decide)) (BitVec.not_le.mpr large)
  · exact absurd small (BitVec.not_le.mpr large)
  · exact ⟨by decide, by decide, by decide⟩

/-- The narrow oops of an accepted heap size are faithful exactly up to 31 GiB.
Beyond, the objects of the last page, and only they, are lost. -/
theorem narrowOops_faithful_iff (maxHeapSize : Address) (layout : VMLayout)
    (accepted : setCompressedPointerVmLayout maxHeapSize = .ok layout) :
    (Faithful layout ↔ maxHeapSize ≤ gbytes 31) ∧
      ∀ o, InHeap layout o →
        (RoundTrips layout.narrowOops o ↔ maxHeapSize ≤ gbytes 31 ∨ o < layout.heapEnd - 4096) := by
  refine ⟨?_, fun o inHeap => roundTrips_iff accepted inHeap⟩
  constructor
  · intro faithful
    by_contra notSmall
    have inHeap := lastPage_inHeap (BitVec.not_le.mp notSmall) accepted
    rcases (roundTrips_iff accepted inHeap).mp (faithful.roundTrips _ inHeap) with small | below
    · exact notSmall small
    · exact absurd below (BitVec.lt_irrefl _)
  · intro small
    exact Faithful.ofRoundTrips (fun o inHeap => (roundTrips_iff accepted inHeap).mpr (.inl small))

theorem narrowOops_faithful_at_31_gbytes :
    ∃ layout, setCompressedPointerVmLayout (gbytes 31) = .ok layout ∧ Faithful layout :=
  ⟨layoutTo (gbytes 32), by rfl, (narrowOops_faithful_iff (gbytes 31) _ (by rfl)).1.mpr (by decide)⟩

/-- With a 32 GiB heap the first object of the last page is encoded as null. -/
theorem compress_last_page_null :
    ∃ layout, setCompressedPointerVmLayout (gbytes 32) = .ok layout ∧
      InHeap layout 0x83FFFF000 ∧ compress layout.narrowOops 0x83FFFF000 = 0 ∧
      ¬ RoundTrips layout.narrowOops 0x83FFFF000 := by
  have null : compress (layoutTo (gbytes 33)).narrowOops 0x83FFFF000 = 0 := by decide
  exact ⟨layoutTo (gbytes 33), by rfl, ⟨by decide, by decide, by decide⟩, null,
    fun roundTrips => roundTrips.notNull null⟩

end MmtkOpenJDK.Slots
