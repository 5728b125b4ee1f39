import Mathlib.Data.BitVec
import Mathlib.Logic.Function.Basic

/-! Byte-addressed memory with little-endian cells of any width and alignment.
Address arithmetic wraps around, as it does on the machine. -/

namespace MmtkOpenJDK.Foundation

abbrev ByteMemory (width : Nat) := BitVec width → BitVec 8

namespace ByteMemory

variable {width : Nat} {memory other : ByteMemory width} {address byte : BitVec width} {bytes : Nat}

/-- The byte belongs to the cell of the given length at the address. -/
def Covers (address : BitVec width) (bytes : Nat) (byte : BitVec width) : Prop :=
  ∃ index < bytes, byte = address + BitVec.ofNat width index

def read (memory : ByteMemory width) (address : BitVec width) : Nat → Nat
  | 0 => 0
  | bytes + 1 => (memory address).toNat + 256 * read memory (address + 1) bytes

def write (memory : ByteMemory width) (address : BitVec width) : Nat → Nat → ByteMemory width
  | 0, _ => memory
  | bytes + 1, value =>
    Function.update (write memory (address + 1) bytes (value / 256)) address (BitVec.ofNat 8 value)

/-- A cell is its first byte followed by the cell of the remaining ones. -/
theorem covers_succ :
    Covers address (bytes + 1) byte ↔ byte = address ∨ Covers (address + 1) bytes byte := by
  constructor
  · rintro ⟨index, bound, same⟩
    cases index with
    | zero => exact .inl (by simpa using same)
    | succ index =>
      refine .inr ⟨index, by omega, ?_⟩
      rw [same, Nat.add_comm, BitVec.ofNat_add, BitVec.add_assoc]
      rfl
  · rintro (same | ⟨index, bound, same⟩)
    · exact ⟨0, by omega, by simpa using same⟩
    · refine ⟨index + 1, by omega, ?_⟩
      rw [same, Nat.add_comm, BitVec.ofNat_add, BitVec.add_assoc]
      rfl

/-- Offsets below the size of the address space are not identified. -/
theorem offset_inj {index later : Nat} (small : index < 2 ^ width) (small' : later < 2 ^ width)
    (same : address + BitVec.ofNat width index = address + BitVec.ofNat width later) : index = later := by
  have offsets := congrArg BitVec.toNat ((BitVec.add_right_inj address).mp same)
  rwa [BitVec.toNat_ofNat, BitVec.toNat_ofNat, Nat.mod_eq_of_lt small, Nat.mod_eq_of_lt small'] at offsets

theorem toNat_offset {index : Nat} (inside : address.toNat + index < 2 ^ width) :
    (address + BitVec.ofNat width index).toNat = address.toNat + index := by
  rw [BitVec.toNat_add, BitVec.toNat_ofNat, Nat.mod_eq_of_lt (show index < 2 ^ width by omega),
    Nat.mod_eq_of_lt inside]

/-- A byte of a range that does not wrap around lies between its bounds. -/
theorem Covers.toNat (covered : Covers address bytes byte) (inside : address.toNat + bytes ≤ 2 ^ width) :
    address.toNat ≤ byte.toNat ∧ byte.toNat < address.toNat + bytes := by
  obtain ⟨index, bound, rfl⟩ := covered
  rw [toNat_offset (by omega)]
  omega

/-- A cell at an offset inside a range. -/
theorem Covers.within {offset count : Nat} (covered : Covers (address + BitVec.ofNat width offset) count byte)
    (inside : offset + count ≤ bytes) : Covers address bytes byte := by
  obtain ⟨index, bound, same⟩ := covered
  refine ⟨offset + index, by omega, ?_⟩
  rw [same, BitVec.ofNat_add, BitVec.add_assoc]

/-- In an address space larger than the cell, the first byte is not met again. -/
theorem Covers.ne_head (room : bytes < 2 ^ width) (covered : Covers (address + 1) bytes byte) :
    byte ≠ address := by
  rintro rfl
  obtain ⟨index, bound, same⟩ := covered
  have zero : BitVec.ofNat width (1 + index) = 0 := by
    rw [BitVec.add_assoc] at same
    rw [BitVec.ofNat_add]
    exact BitVec.add_right_eq_self.mp same.symm
  have wrapped := congrArg BitVec.toNat zero
  rw [BitVec.toNat_ofNat, Nat.mod_eq_of_lt (by omega)] at wrapped
  simp at wrapped

theorem read_congr (agree : ∀ byte, Covers address bytes byte → memory byte = other byte) :
    memory.read address bytes = other.read address bytes := by
  induction bytes generalizing address with
  | zero => rfl
  | succ bytes ih =>
    rw [read, read, agree address (covers_succ.mpr (.inl rfl)),
      ih (fun byte covered => agree byte (covers_succ.mpr (.inr covered)))]

theorem read_lt : memory.read address bytes < 256 ^ bytes := by
  induction bytes generalizing address with
  | zero => simp [read]
  | succ bytes ih =>
    have tail : memory.read (address + 1) bytes < 256 ^ bytes := ih
    have head := (memory address).isLt
    rw [read, Nat.pow_succ]
    omega

theorem write_outside (value : Nat) (outside : ¬ Covers address bytes byte) :
    memory.write address bytes value byte = memory byte := by
  induction bytes generalizing address value with
  | zero => rfl
  | succ bytes ih =>
    rw [covers_succ, not_or] at outside
    rw [write, Function.update_of_ne outside.1]
    exact ih _ outside.2

/-- Inside the cell, nothing of the old memory is left. -/
theorem write_inside (value : Nat) (inside : Covers address bytes byte) :
    memory.write address bytes value byte = other.write address bytes value byte := by
  induction bytes generalizing address value with
  | zero => simp [Covers] at inside
  | succ bytes ih =>
    rw [write, write]
    by_cases same : byte = address
    · subst same
      simp
    · rw [Function.update_of_ne same, Function.update_of_ne same]
      exact ih _ ((covers_succ.mp inside).resolve_left same)

theorem read_write (value : Nat) (room : bytes ≤ 2 ^ width) :
    (memory.write address bytes value).read address bytes = value % 256 ^ bytes := by
  induction bytes generalizing address value with
  | zero => simp [read, Nat.mod_one]
  | succ bytes ih =>
    have tail : (memory.write address (bytes + 1) value).read (address + 1) bytes =
        (memory.write (address + 1) bytes (value / 256)).read (address + 1) bytes := by
      apply read_congr
      intro byte covered
      rw [write, Function.update_of_ne (covered.ne_head room)]
    rw [read, tail, ih _ (by omega), Nat.pow_succ, Nat.mul_comm (256 ^ bytes), Nat.mod_mul]
    simp [write]

theorem read_eq_zero_iff :
    memory.read address bytes = 0 ↔ ∀ byte, Covers address bytes byte → memory byte = 0 := by
  induction bytes generalizing address with
  | zero => simp [read, Covers]
  | succ bytes ih =>
    simp only [read, covers_succ, forall_eq_or_imp, ← ih]
    constructor
    · intro zero
      exact ⟨BitVec.eq_of_toNat_eq (by simp; omega), by omega⟩
    · rintro ⟨head, tail⟩
      rw [head, tail]
      rfl

/-- A load and a store act on one cell: the load reads nothing else, the store
changes nothing else and leaves nothing of the cell's old contents. -/
structure IsCell {Loaded Stored : Type} (load : ByteMemory width → Loaded)
    (store : ByteMemory width → Stored → ByteMemory width)
    (address : BitVec width) (bytes : Nat) : Prop where
  reads : ∀ memory other, (∀ byte, Covers address bytes byte → memory byte = other byte) →
    load memory = load other
  frame : ∀ memory value byte, ¬ Covers address bytes byte → store memory value byte = memory byte
  overwrites : ∀ memory other value byte, Covers address bytes byte →
    store memory value byte = store other value byte

def Disjoint (first : BitVec width) (firstBytes : Nat) (second : BitVec width) (secondBytes : Nat) : Prop :=
  ∀ byte, Covers first firstBytes byte → ¬ Covers second secondBytes byte

section Cells

variable {Loaded Stored Loaded' Stored' : Type}
variable {load : ByteMemory width → Loaded} {store : ByteMemory width → Stored → ByteMemory width}
variable {load' : ByteMemory width → Loaded'} {store' : ByteMemory width → Stored' → ByteMemory width}
variable {address' : BitVec width} {bytes' : Nat}

theorem IsCell.load_disjoint (cell : IsCell load store address bytes)
    (cell' : IsCell load' store' address' bytes') (disjoint : Disjoint address bytes address' bytes')
    (value : Stored') : load (store' memory value) = load memory :=
  cell.reads _ _ (fun byte covered => cell'.frame memory value byte (disjoint byte covered))

theorem IsCell.store_comm (cell : IsCell load store address bytes)
    (cell' : IsCell load' store' address' bytes') (disjoint : Disjoint address bytes address' bytes')
    (value : Stored) (value' : Stored') :
    store (store' memory value') value = store' (store memory value) value' := by
  funext byte
  by_cases covered : Covers address bytes byte
  · rw [cell.overwrites _ memory value byte covered,
      cell'.frame _ value' byte (disjoint byte covered)]
  · rw [cell.frame _ value byte covered]
    by_cases covered' : Covers address' bytes' byte
    · exact cell'.overwrites _ _ value' byte covered'
    · rw [cell'.frame _ value' byte covered', cell'.frame _ value' byte covered',
        cell.frame _ value byte covered]

end Cells

/-- Little-endian reads and writes through any decoding and encoding are a cell. -/
theorem isCell_codec {Loaded Stored : Type} (decode : Nat → Loaded) (encode : Stored → Nat)
    (address : BitVec width) (bytes : Nat) :
    IsCell (fun memory => decode (memory.read address bytes))
      (fun memory value => memory.write address bytes (encode value)) address bytes where
  reads _ _ agree := congrArg decode (read_congr agree)
  frame _ value _ outside := write_outside (encode value) outside
  overwrites _ _ value _ inside := write_inside (encode value) inside

end ByteMemory

end MmtkOpenJDK.Foundation
