import MmtkOpenJDK.Foundation.ByteMemory

/-! Side metadata: a table that holds one bit for every 8-byte granule of the
address space. -/

namespace MmtkOpenJDK.Foundation

/-- The byte of side metadata that holds the bit of an address. -/
def metaAddress (base a : BitVec 64) : BitVec 64 := base + (a >>> 6)

/-- The position of the bit in that byte. -/
def metaShift (a : BitVec 64) : Nat := ((a >>> 3) &&& 7).toNat

def metaBit (base : BitVec 64) (bytes : ByteMemory 64) (a : BitVec 64) : Bool :=
  (bytes (metaAddress base a)).getLsbD (metaShift a)

/-- The table with the bit of one address set. -/
def setMetaBit (base : BitVec 64) (bytes : ByteMemory 64) (a : BitVec 64) : ByteMemory 64 :=
  Function.update bytes (metaAddress base a) (bytes (metaAddress base a) ||| BitVec.twoPow 8 (metaShift a))

variable {base a : BitVec 64} {bytes : ByteMemory 64}

theorem toNat_and_seven {width : Nat} (wide : 3 < width) (value : BitVec width) :
    (value &&& 7).toNat = value.toNat % 8 := by
  have room : 2 ^ 3 < 2 ^ width := Nat.pow_lt_pow_right (by decide) wide
  have small : 7 < 2 ^ width := by omega
  have mask : (7 : BitVec width).toNat = 2 ^ 3 - 1 := by
    simpa using Nat.mod_eq_of_lt small
  rw [BitVec.toNat_and, mask, Nat.and_two_pow_sub_one_eq_mod]

theorem metaShift_eq : metaShift a = a.toNat / 8 % 8 := by
  rw [metaShift, toNat_and_seven (by decide), BitVec.toNat_ushiftRight, Nat.shiftRight_eq_div_pow]

theorem metaShift_lt : metaShift a < 8 := by
  rw [metaShift_eq]
  omega

/-- A shift count taken from the low bits of `a >> 3`, in any width. -/
theorem masked_shift {value modulus : Nat} (same : value % 8 = (a.toNat >>> 3) % 8) (wide : 8 ≤ modulus) :
    (value &&& 7) % modulus = metaShift a := by
  have mask : 7 = 2 ^ 3 - 1 := rfl
  rw [Nat.shiftRight_eq_div_pow] at same
  rw [mask, Nat.and_two_pow_sub_one_eq_mod, metaShift_eq, Nat.mod_eq_of_lt (by omega)]
  exact same

/-- Two addresses have the same bit exactly when they are in the same granule. -/
theorem same_bit_iff {b : BitVec 64} :
    metaAddress base a = metaAddress base b ∧ metaShift a = metaShift b ↔ a.toNat / 8 = b.toNat / 8 := by
  have offset : ∀ c : BitVec 64, (c >>> 6).toNat = c.toNat / 64 := by
    intro c
    rw [BitVec.toNat_ushiftRight, Nat.shiftRight_eq_div_pow]
  rw [metaShift_eq, metaShift_eq, metaAddress, metaAddress, BitVec.add_right_inj, ← BitVec.toNat_inj,
    offset, offset]
  omega

/-- Setting a bit leaves every other bit as it was. -/
theorem getLsbD_setMetaBit (address : BitVec 64) (position : Nat) :
    (setMetaBit base bytes a address).getLsbD position = true ↔
      (bytes address).getLsbD position = true ∨ address = metaAddress base a ∧ position = metaShift a := by
  unfold setMetaBit
  by_cases same : address = metaAddress base a
  · subst same
    rw [Function.update_self, BitVec.getLsbD_or, BitVec.getLsbD_twoPow]
    simp [metaShift_lt, @eq_comm _ position]
  · simp [same]

end MmtkOpenJDK.Foundation
