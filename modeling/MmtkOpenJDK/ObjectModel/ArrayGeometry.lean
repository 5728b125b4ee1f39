import Mathlib.Order.Bounds.Basic
import MmtkOpenJDK.ObjectModel.Abi

/-! The size of an array is computed from the layout helper of its klass, the place of
its elements from the offsets of the header fields. -/

namespace MmtkOpenJDK.ObjectModel

open MmtkOpenJDK.Heap

/-- The log of the element size of the arrays of a type, if it has arrays. -/
def BasicType.logElementSize (compressed : Bool) : BasicType → Option Nat
  | .boolean | .byte => some 0
  | .char | .short => some 1
  | .float | .int => some 2
  | .double | .long => some 3
  | .object | .array => some (if compressed then 2 else 3)
  | .void | .address | .narrowOop | .metadata | .narrowKlass | .conflict | .illegal => none

/-- HotSpot's header size of an array in bytes. -/
def headerBytes (compressed : Bool) : Nat := (alignUp (ArrayOopDesc.lengthOffset compressed + 4) 8).toNat

/-- The layout helper of an array klass: it is negative, its lowest byte is the log of
the element size, and its third byte is the size of the header. -/
structure EncodesArray (compressed : Bool) (log2 : Nat) (lh : BitVec 32) : Prop where
  negative : lh.toInt < 0
  log2 : (lh.extractLsb' 0 8).toNat = log2
  header : (lh.extractLsb' 16 8).toNat = headerBytes compressed

section Geometry

variable {vm : VM} {compressed : Bool} {oop : Address} {ty : BasicType} {log2 : Nat} {lh : BitVec 32}

theorem BasicType.logElementSize_le (element : ty.logElementSize compressed = some log2) : log2 ≤ 3 := by
  cases compressed <;> cases ty <;> simp [logElementSize] at element <;> omega

theorem headerBytes_le (compressed : Bool) : headerBytes compressed ≤ 24 := by cases compressed <;> decide

theorem asUsize_toNat {value : BitVec 32} (nonnegative : 0 ≤ value.toInt) : (asUsize value).toNat = value.toNat := by
  have msb : value.msb = false := by
    rw [BitVec.msb_eq_toInt]
    simpa using nonnegative
  rw [asUsize, BitVec.signExtend_eq_setWidth_of_msb_false msb, BitVec.toNat_setWidth, Nat.mod_eq_of_lt (by omega)]

theorem layoutHelperLog2ElementSize_toNat (encodes : EncodesArray compressed log2 lh) (small : log2 ≤ 3) :
    (Klass.layoutHelperLog2ElementSize lh).toNat = log2 := by
  have encoded := encodes.log2
  rw [BitVec.extractLsb'_toNat, Nat.shiftRight_zero] at encoded
  rw [Klass.layoutHelperLog2ElementSize, BitVec.sshiftRight_zero, BitVec.toNat_and]
  have masked : lh.toNat &&& (63 : BitVec 32).toNat = lh.toNat % 64 := Nat.and_two_pow_sub_one_eq_mod lh.toNat 6
  rw [masked]
  omega

theorem layoutHelperHeaderSize_toNat (encodes : EncodesArray compressed log2 lh) :
    (Klass.layoutHelperHeaderSize lh).toNat = headerBytes compressed := by
  have msb : lh.msb = true := by
    rw [BitVec.msb_eq_toInt]
    simpa using encodes.negative
  have encoded := encodes.header
  rw [BitVec.extractLsb'_toNat, Nat.shiftRight_eq_div_pow] at encoded
  rw [Klass.layoutHelperHeaderSize, BitVec.toNat_and, BitVec.toNat_sshiftRight_of_msb_true msb]
  have masked (value : Nat) : value &&& (255 : BitVec 32).toNat = value % 256 :=
    Nat.and_two_pow_sub_one_eq_mod value 8
  rw [masked, Nat.shiftRight_eq_div_pow]
  have bound := lh.isLt
  omega

/-- Clearing the three lowest bits rounds down. -/
theorem toNat_and_not_seven (value : BitVec 64) : (value &&& ~~~7#64).toNat = value.toNat / 8 * 8 := by
  have mask : 7#64 = (BitVec.allOnes 3).setWidth 64 := by decide
  have cleared : value &&& ~~~7#64 = value >>> 3 <<< 3 := by
    rw [mask]
    ext index bound
    simp only [BitVec.getElem_and, BitVec.getElem_not, BitVec.getElem_setWidth, BitVec.getElem_shiftLeft,
      BitVec.getElem_ushiftRight, BitVec.getLsbD_allOnes]
    by_cases low : index < 3
    · simp [low]
    · simp [low, show 3 + (index - 3) = index by omega, bound]
  rw [cleared, BitVec.toNat_shiftLeft, BitVec.toNat_ushiftRight, Nat.shiftLeft_eq, Nat.shiftRight_eq_div_pow]
  have small := value.isLt
  omega

/-- The bytes of the header and the elements. -/
def occupiedBytes (vm : VM) (compressed : Bool) (oop : Address) (log2 : Nat) : Nat :=
  headerBytes compressed + (ArrayOopDesc.length vm compressed oop).toNat * 2 ^ log2

theorem occupiedBytes_lt (nonnegative : 0 ≤ (ArrayOopDesc.length vm compressed oop).toInt) (small : log2 ≤ 3) :
    occupiedBytes vm compressed oop log2 + 7 < 2 ^ 35 := by
  have length := BitVec.toInt_pos_iff.mp nonnegative
  have header := headerBytes_le compressed
  have element : 2 ^ log2 ≤ 8 := Nat.pow_le_pow_right (by decide) small
  have bytes := Nat.mul_le_mul_left (ArrayOopDesc.length vm compressed oop).toNat element
  unfold occupiedBytes
  omega

/-- The branch of `size` for arrays. -/
theorem size_of_negative (negative : (OopDesc.klass vm compressed oop).layoutHelper.toInt < 0) :
    OopDesc.size vm compressed oop =
      (asUsize (ArrayOopDesc.length vm compressed oop) <<<
          (Klass.layoutHelperLog2ElementSize (OopDesc.klass vm compressed oop).layoutHelper).toNat +
        asUsize (Klass.layoutHelperHeaderSize (OopDesc.klass vm compressed oop).layoutHelper) + 7#64) &&& ~~~7#64 := by
  rw [OopDesc.size]
  simp only [if_neg negative.not_gt, if_pos negative]
  rfl

theorem size_toNat (encodes : EncodesArray compressed log2 (OopDesc.klass vm compressed oop).layoutHelper)
    (nonnegative : 0 ≤ (ArrayOopDesc.length vm compressed oop).toInt) (small : log2 ≤ 3) :
    (OopDesc.size vm compressed oop).toNat = (occupiedBytes vm compressed oop log2 + 7) / 8 * 8 := by
  have bound := occupiedBytes_lt nonnegative small
  have header := layoutHelperHeaderSize_toNat encodes
  unfold occupiedBytes at bound ⊢
  rw [size_of_negative encodes.negative, toNat_and_not_seven, layoutHelperLog2ElementSize_toNat encodes small]
  have elements : (asUsize (ArrayOopDesc.length vm compressed oop) <<< log2).toNat =
      (ArrayOopDesc.length vm compressed oop).toNat * 2 ^ log2 := by
    rw [BitVec.toNat_shiftLeft, asUsize_toNat nonnegative, Nat.shiftLeft_eq, Nat.mod_eq_of_lt (by omega)]
  have headerWord : (asUsize (Klass.layoutHelperHeaderSize (OopDesc.klass vm compressed oop).layoutHelper)).toNat =
      headerBytes compressed := by
    have few := headerBytes_le compressed
    rw [asUsize_toNat, header]
    rw [BitVec.toInt_eq_toNat_of_lt (by omega)]
    exact Int.natCast_nonneg _
  rw [BitVec.toNat_add, BitVec.toNat_add, elements, headerWord, BitVec.toNat_ofNat]
  omega

end Geometry

/-- The two computations agree on an array: the size is the least multiple of 8 that
holds the header and the elements, the elements start behind the header, and they
end inside the object with less than a word of padding. -/
structure GeometryAgrees (vm : VM) (compressed : Bool) (oop : Address) (ty : BasicType) (log2 : Nat) : Prop where
  size : IsLeast {bytes | 8 ∣ bytes ∧ occupiedBytes vm compressed oop log2 ≤ bytes} (OopDesc.size vm compressed oop).toNat
  noOverflow : occupiedBytes vm compressed oop log2 + 7 < 2 ^ 64
  base : ArrayOopDesc.base compressed oop ty = oop + BitVec.ofNat 64 (headerBytes compressed)
  length : (ArrayOopDesc.data vm compressed oop ty).2 = (ArrayOopDesc.length vm compressed oop).toNat
  inside : ((ArrayOopDesc.data vm compressed oop ty).1 - oop).toNat +
    (ArrayOopDesc.data vm compressed oop ty).2 * 2 ^ log2 ≤ (OopDesc.size vm compressed oop).toNat
  padding : (OopDesc.size vm compressed oop).toNat < ((ArrayOopDesc.data vm compressed oop ty).1 - oop).toNat +
    (ArrayOopDesc.data vm compressed oop ty).2 * 2 ^ log2 + 8

theorem headerSize_of_unaligned {compressed : Bool} {ty : BasicType}
    (unaligned : ArrayOopDesc.elementTypeShouldBeAligned ty = false) :
    ArrayOopDesc.headerSize compressed ty * bytesInWord = BitVec.ofNat 64 (headerBytes compressed) := by
  rw [ArrayOopDesc.headerSize, if_neg (by simp [unaligned])]
  cases compressed <;> decide

/-- For `double` and `long`, a number of words is aligned as if it were bytes. -/
theorem headerSize_of_aligned {compressed : Bool} {ty : BasicType}
    (aligned : ArrayOopDesc.elementTypeShouldBeAligned ty = true) :
    ArrayOopDesc.headerSize compressed ty * bytesInWord = 64 := by
  rw [ArrayOopDesc.headerSize, if_pos aligned]
  cases compressed <;> decide

theorem elementTypeShouldBeAligned_iff {ty : BasicType} :
    ArrayOopDesc.elementTypeShouldBeAligned ty = true ↔ ty = .double ∨ ty = .long := by
  simp [ArrayOopDesc.elementTypeShouldBeAligned]

section Agreement

variable {vm : VM} {compressed : Bool} {oop : Address} {ty : BasicType} {log2 : Nat}

theorem isLeast_alignedUp (bytes : Nat) : IsLeast {size | 8 ∣ size ∧ bytes ≤ size} ((bytes + 7) / 8 * 8) := by
  refine ⟨⟨Nat.dvd_mul_left 8 _, by omega⟩, ?_⟩
  rintro size ⟨multiple, enough⟩
  omega

theorem geometryAgrees_of_unaligned (unaligned : ArrayOopDesc.elementTypeShouldBeAligned ty = false)
    (encodes : EncodesArray compressed log2 (OopDesc.klass vm compressed oop).layoutHelper)
    (nonnegative : 0 ≤ (ArrayOopDesc.length vm compressed oop).toInt) (small : log2 ≤ 3) :
    GeometryAgrees vm compressed oop ty log2 := by
  have size := size_toNat encodes nonnegative small
  have bound := occupiedBytes_lt nonnegative small
  have base : ArrayOopDesc.base compressed oop ty = oop + BitVec.ofNat 64 (headerBytes compressed) :=
    congrArg (oop + ·) (headerSize_of_unaligned unaligned)
  have length : (ArrayOopDesc.data vm compressed oop ty).2 = (ArrayOopDesc.length vm compressed oop).toNat :=
    asUsize_toNat nonnegative
  have offset : ((ArrayOopDesc.data vm compressed oop ty).1 - oop).toNat = headerBytes compressed := by
    rw [ArrayOopDesc.data, base, add_sub_cancel_left]
    cases compressed <;> decide
  have occupied : ((ArrayOopDesc.data vm compressed oop ty).1 - oop).toNat +
      (ArrayOopDesc.data vm compressed oop ty).2 * 2 ^ log2 = occupiedBytes vm compressed oop log2 := by
    rw [offset, length, occupiedBytes]
  refine ⟨?_, by omega, base, length, ?_, ?_⟩
  · rw [size]
    exact isLeast_alignedUp _
  · rw [occupied, size]
    omega
  · rw [occupied, size]
    omega

end Agreement

/-- The geometry of arrays is consistent for all element types but `double` and `long`. -/
theorem array_geometry_agrees_iff (vm : VM) (compressed : Bool) (oop : Address) (ty : BasicType) (log2 : Nat)
    (element : ty.logElementSize compressed = some log2)
    (encodes : EncodesArray compressed log2 (OopDesc.klass vm compressed oop).layoutHelper)
    (nonnegative : 0 ≤ (ArrayOopDesc.length vm compressed oop).toInt) :
    GeometryAgrees vm compressed oop ty log2 ↔ ty ≠ .double ∧ ty ≠ .long := by
  rw [← not_or, ← elementTypeShouldBeAligned_iff]
  constructor
  · intro agrees aligned
    have base := agrees.base
    rw [ArrayOopDesc.base, headerSize_of_aligned aligned, BitVec.add_right_inj] at base
    cases compressed <;> exact absurd base (by decide)
  · intro unaligned
    exact geometryAgrees_of_unaligned (by simpa using unaligned) encodes nonnegative
      (BasicType.logElementSize_le element)

/-- A memory in which every array has three elements, and every klass is one whose
layout helper is given. -/
def uniformVM (compressed : Bool) (layoutHelper : BitVec 32) : VM where
  memory byte := if byte = 0x10000000 + ArrayOopDesc.lengthOffset compressed then 3 else 0
  klassAt _ := ⟨⟨layoutHelper, .typeArray, 0⟩, 0, 0, .none⟩
  blockAt _ := ⟨0, 0⟩
  compressedKlassBase := 0
  compressedKlassShift := 3
  sizeOfInstanceKlass := 480
  offsetOfStaticFields := 0
  staticOopFieldCountOffset := 0
  referentOffset := 0
  discoveredOffset := 0
  getObjectSize _ := 0
  noReferenceTypes := false

/-- An array of three bytes: `0xC0100800` is the layout helper of `byte[]`. -/
theorem byte_array_agrees :
    GeometryAgrees (uniformVM true 0xC0100800) true 0x10000000 .byte 0 := by
  have encodes : EncodesArray true 0 (0xC0100800 : BitVec 32) := ⟨by decide, by decide, by decide⟩
  exact (array_geometry_agrees_iff (uniformVM true 0xC0100800) true 0x10000000 .byte 0 rfl encodes (by decide)).mpr
    ⟨by decide, by decide⟩

/-- An array of three longs: its elements are said to start 64 bytes into an object
of 40 bytes. -/
theorem long_array_disagrees :
    EncodesArray true 3 (0xC0100B03 : BitVec 32) ∧
      ArrayOopDesc.length (uniformVM true 0xC0100B03) true 0x10000000 = 3 ∧
      OopDesc.size (uniformVM true 0xC0100B03) true 0x10000000 = 40 ∧
      ArrayOopDesc.base true 0x10000000 .long = 0x10000000 + 64 ∧
      ¬ GeometryAgrees (uniformVM true 0xC0100B03) true 0x10000000 .long 3 := by
  refine ⟨⟨by decide, by decide, by decide⟩, by decide, by decide, by decide, ?_⟩
  intro agrees
  exact absurd agrees.base (by decide)

end MmtkOpenJDK.ObjectModel
