import MmtkOpenJDK.Foundation.ByteMemory
import MmtkOpenJDK.Slots.CompressedOops

/-! Slots on x86_64: the word by which the C++ side reports a slot pointer, and
the loads and stores that the Rust side performs through that word. -/

namespace MmtkOpenJDK.Slots

open MmtkOpenJDK.Heap MmtkOpenJDK.Foundation

abbrev Memory := ByteMemory 64

/-- The tag that marks an uncompressed root slot. -/
def tagMask : Address := 1 <<< 63

/-- What both closures do with a slot pointer before they pass it on. The
failure is that of the `guarantee`. -/
def taggedSlot (useCompressedOops narrow : Bool) (p : Address) : Except String Address :=
  if useCompressedOops && !narrow then
    if p &&& tagMask = 0 then .ok (p ||| tagMask) else .error "test"
  else .ok p

/-- The word `MMTkRootsClosure::do_oop_work` puts in its buffer for `p`. -/
def MMTkRootsClosure.reportedSlot (useCompressedOops narrow : Bool) (p : Address) :
    Except String Address :=
  taggedSlot useCompressedOops narrow p

/-- The word `MMTkRegisterNMethodOopClosure::do_oop_work` gives to
`mmtk_add_nmethod_oop` for `p`. -/
def MMTkRegisterNMethodOopClosure.reportedSlot (useCompressedOops narrow : Bool) (p : Address) :
    Except String Address :=
  taggedSlot useCompressedOops narrow p

structure OpenJDKSlot (compressed : Bool) where
  addr : Address
deriving DecidableEq

namespace OpenJDKSlot

variable {compressed : Bool}

def isCompressed (slot : OpenJDKSlot compressed) : Bool := slot.addr &&& tagMask == 0

def untaggedAddress (slot : OpenJDKSlot compressed) : Address := slot.addr <<< 1 >>> 1

def accessAddress (slot : OpenJDKSlot compressed) (untag : Bool) : Address :=
  if untag then slot.untaggedAddress else slot.addr

/-- `x86_read_unaligned` at a type of the given number of bytes. -/
def x86ReadUnaligned (slot : OpenJDKSlot compressed) (untag : Bool) (bytes : Nat) (memory : Memory) : Nat :=
  memory.read (slot.accessAddress untag) bytes

/-- `x86_write_unaligned` at a type of the given number of bytes. -/
def x86WriteUnaligned (slot : OpenJDKSlot compressed) (untag : Bool) (bytes : Nat) (memory : Memory)
    (value : Nat) : Memory :=
  memory.write (slot.accessAddress untag) bytes value

/-- `ObjectReference::from_raw_address`. -/
def fromRawAddress (address : Address) : Option Address :=
  if address = 0 then none else some address

def load (oops : NarrowOops) (slot : OpenJDKSlot compressed) (memory : Memory) : Option Address :=
  if compressed then
    if slot.isCompressed then decompress oops (BitVec.ofNat 32 (slot.x86ReadUnaligned true 4 memory))
    else fromRawAddress (BitVec.ofNat 64 (slot.x86ReadUnaligned true 8 memory))
  else fromRawAddress (BitVec.ofNat 64 (slot.x86ReadUnaligned false 8 memory))

def store (oops : NarrowOops) (slot : OpenJDKSlot compressed) (memory : Memory) (object : Address) : Memory :=
  if compressed then
    if slot.isCompressed then slot.x86WriteUnaligned true 4 memory (compress oops object).toNat
    else slot.x86WriteUnaligned true 8 memory object.toNat
  else slot.x86WriteUnaligned false 8 memory object.toNat

def storeNull (slot : OpenJDKSlot compressed) (memory : Memory) : Memory :=
  if compressed then
    if slot.isCompressed then slot.x86WriteUnaligned true 4 memory 0
    else slot.x86WriteUnaligned true 8 memory 0
  else slot.x86WriteUnaligned false 8 memory 0

end OpenJDKSlot

/-- The width of the cell a slot pointer of either kind points to. -/
def cellBytes (narrow : Bool) : Nat := if narrow then 4 else 8

/-- The reference held by a cell with the given little-endian value. -/
def cellReference (oops : NarrowOops) (narrow : Bool) (value : Nat) : Option Address :=
  if narrow then decompress oops (BitVec.ofNat 32 value)
  else OpenJDKSlot.fromRawAddress (BitVec.ofNat 64 value)

/-- The value of a cell that holds the reference. -/
def cellValue (oops : NarrowOops) (narrow : Bool) : Option Address → Nat
  | none => 0
  | some object => if narrow then (compress oops object).toNat else object.toNat

section Tag

variable {p : Address}

private theorem untag_plain (small : p.toNat < 2 ^ 63) : p <<< 1 >>> 1 = p := by
  apply BitVec.eq_of_toNat_eq
  simp only [BitVec.toNat_ushiftRight, BitVec.toNat_shiftLeft, Nat.shiftLeft_eq,
    Nat.shiftRight_eq_div_pow]
  omega

private theorem untag_tagged (small : p.toNat < 2 ^ 63) : (p ||| tagMask) <<< 1 >>> 1 = p := by
  have shiftedOut : tagMask <<< 1 = 0 := by decide
  rw [BitVec.shiftLeft_or_distrib, shiftedOut]
  simpa using untag_plain small

private theorem tag_absent (small : p.toNat < 2 ^ 63) : p &&& tagMask = 0 := by
  have bit : p.getLsbD 63 = false := Nat.testBit_lt_two_pow small
  change p &&& BitVec.twoPow 64 63 = 0
  rw [BitVec.and_twoPow, bit]
  rfl

private theorem tag_present : (p ||| tagMask) &&& tagMask ≠ 0 := by
  have bit : (p ||| tagMask).getLsbD 63 = true := by
    rw [BitVec.getLsbD_or, show tagMask.getLsbD 63 = true by decide, Bool.or_true]
  change (p ||| tagMask) &&& BitVec.twoPow 64 63 ≠ 0
  rw [BitVec.and_twoPow, bit]
  decide

end Tag

section Agreement

variable {oops : NarrowOops} {useCompressedOops narrow : Bool} {p : Address}
variable {slot : OpenJDKSlot useCompressedOops}

/-- The tag tells the two kinds of pointers apart and can be stripped again. -/
theorem reported_tag {slot : OpenJDKSlot true} (small : p.toNat < 2 ^ 63)
    (reported : taggedSlot true narrow p = .ok slot.addr) :
    slot.untaggedAddress = p ∧ slot.isCompressed = narrow := by
  cases narrow with
  | true =>
    have same : p = slot.addr := by simpa [taggedSlot] using reported
    subst same
    exact ⟨untag_plain small, by simp [OpenJDKSlot.isCompressed, tag_absent small]⟩
  | false =>
    have same : p ||| tagMask = slot.addr := by simpa [taggedSlot, tag_absent small] using reported
    rw [OpenJDKSlot.untaggedAddress, OpenJDKSlot.isCompressed, ← same]
    exact ⟨untag_tagged small, by simpa using tag_present⟩

/-- A wide slot is reported untagged when compressed oops are off. -/
private theorem reported_uncompressed (kind : narrow = true → useCompressedOops = true)
    (off : useCompressedOops = false) (reported : taggedSlot useCompressedOops narrow p = .ok slot.addr) :
    narrow = false ∧ slot.addr = p := by
  subst off
  have wide : narrow = false := by simpa using kind
  exact ⟨wide, by simpa [taggedSlot, wide] using reported.symm⟩

/-- The three-way dispatch of `load` reads the cell the pointer points to. -/
theorem load_eq (memory : Memory) (small : p.toNat < 2 ^ 63)
    (kind : narrow = true → useCompressedOops = true)
    (reported : taggedSlot useCompressedOops narrow p = .ok slot.addr) :
    slot.load oops memory = cellReference oops narrow (memory.read p (cellBytes narrow)) := by
  cases useCompressedOops with
  | true =>
    obtain ⟨address, width⟩ := reported_tag small reported
    cases narrow <;>
      simp [OpenJDKSlot.load, OpenJDKSlot.x86ReadUnaligned, OpenJDKSlot.accessAddress,
        address, width, cellReference, cellBytes]
  | false =>
    obtain ⟨rfl, address⟩ := reported_uncompressed kind rfl reported
    simp [address, OpenJDKSlot.load, OpenJDKSlot.x86ReadUnaligned, OpenJDKSlot.accessAddress,
      cellReference, cellBytes]

/-- `store`, and `store_null` for the absent reference. -/
def OpenJDKSlot.assign {compressed : Bool} (oops : NarrowOops) (slot : OpenJDKSlot compressed)
    (memory : Memory) : Option Address → Memory
  | some object => slot.store oops memory object
  | none => slot.storeNull memory

/-- Both stores write the cell the pointer points to. -/
theorem assign_eq (memory : Memory) (small : p.toNat < 2 ^ 63)
    (kind : narrow = true → useCompressedOops = true)
    (reported : taggedSlot useCompressedOops narrow p = .ok slot.addr) (reference : Option Address) :
    slot.assign oops memory reference =
      memory.write p (cellBytes narrow) (cellValue oops narrow reference) := by
  cases useCompressedOops with
  | true =>
    obtain ⟨address, width⟩ := reported_tag small reported
    cases narrow <;> cases reference <;>
      simp [OpenJDKSlot.assign, OpenJDKSlot.store, OpenJDKSlot.storeNull, OpenJDKSlot.x86WriteUnaligned,
        OpenJDKSlot.accessAddress, address, width, cellValue, cellBytes]
  | false =>
    obtain ⟨rfl, address⟩ := reported_uncompressed kind rfl reported
    cases reference <;>
      simp [address, OpenJDKSlot.assign, OpenJDKSlot.store, OpenJDKSlot.storeNull, OpenJDKSlot.x86WriteUnaligned,
        OpenJDKSlot.accessAddress, cellValue, cellBytes]

/-- The references a cell of either kind can hold. -/
def Storable (oops : NarrowOops) (narrow : Bool) (reference : Option Address) : Prop :=
  ∀ object, reference = some object → object ≠ 0 ∧ (narrow = true → Encodable oops object)

theorem cellValue_lt (oops : NarrowOops) (narrow : Bool) (reference : Option Address) :
    cellValue oops narrow reference < 256 ^ cellBytes narrow := by
  cases reference with
  | none => exact Nat.pow_pos (by decide)
  | some object =>
    cases narrow with
    | true => exact (compress oops object).isLt
    | false => exact object.isLt

theorem cellReference_cellValue {reference : Option Address} (storable : Storable oops narrow reference) :
    cellReference oops narrow (cellValue oops narrow reference) = reference := by
  cases reference with
  | none => cases narrow <;> rfl
  | some object =>
    obtain ⟨nonzero, encodable⟩ := storable object rfl
    cases narrow with
    | true => simpa [cellReference, cellValue] using (encodable rfl).decompress_compress
    | false => simpa [cellReference, cellValue, OpenJDKSlot.fromRawAddress] using nonzero

private theorem ofNat_eq_zero_iff (width : Nat) {value : Nat} (bounded : value < 2 ^ width) :
    BitVec.ofNat width value = 0 ↔ value = 0 := by
  rw [← BitVec.toNat_inj, BitVec.toNat_ofNat, Nat.mod_eq_of_lt bounded]
  rfl

/-- A cell holds no reference exactly when its value is zero. -/
theorem cellReference_eq_none_iff {value : Nat} (bounded : value < 256 ^ cellBytes narrow) :
    cellReference oops narrow value = none ↔ value = 0 := by
  cases narrow with
  | true =>
    have zero := ofNat_eq_zero_iff 32 (by simpa [cellBytes] using bounded)
    rw [← zero]
    simp [cellReference, decompress]
  | false =>
    have zero := ofNat_eq_zero_iff 64 (by simpa [cellBytes] using bounded)
    rw [← zero]
    simp [cellReference, OpenJDKSlot.fromRawAddress]

theorem slot_isCell (oops : NarrowOops) (small : p.toNat < 2 ^ 63)
    (kind : narrow = true → useCompressedOops = true)
    (reported : taggedSlot useCompressedOops narrow p = .ok slot.addr) :
    ByteMemory.IsCell (slot.load oops)
      (slot.assign oops) p (cellBytes narrow) := by
  have codec := ByteMemory.isCell_codec (cellReference oops narrow) (cellValue oops narrow) p (cellBytes narrow)
  have loads : slot.load oops =
      fun memory => cellReference oops narrow (memory.read p (cellBytes narrow)) :=
    funext (fun memory => load_eq memory small kind reported)
  have stores : slot.assign oops =
      fun memory reference => memory.write p (cellBytes narrow) (cellValue oops narrow reference) :=
    funext (fun memory => funext (fun reference => assign_eq memory small kind reported reference))
  rw [loads, stores]
  exact codec

/-- What is stored in a slot is what the next load returns. -/
theorem load_assign (memory : Memory) (reference : Option Address) (small : p.toNat < 2 ^ 63)
    (kind : narrow = true → useCompressedOops = true)
    (reported : taggedSlot useCompressedOops narrow p = .ok slot.addr)
    (storable : Storable oops narrow reference) :
    slot.load oops
      (slot.assign oops memory reference) = reference := by
  have room : cellBytes narrow ≤ 2 ^ 64 := by cases narrow <;> decide
  rw [load_eq _ small kind reported, assign_eq memory small kind reported,
    ByteMemory.read_write _ room, Nat.mod_eq_of_lt (cellValue_lt oops narrow reference)]
  exact cellReference_cellValue storable

theorem load_eq_none_iff (memory : Memory) (small : p.toNat < 2 ^ 63)
    (kind : narrow = true → useCompressedOops = true)
    (reported : taggedSlot useCompressedOops narrow p = .ok slot.addr) :
    slot.load oops memory = none ↔
      ∀ byte, ByteMemory.Covers p (cellBytes narrow) byte → memory byte = 0 := by
  rw [load_eq memory small kind reported, cellReference_eq_none_iff ByteMemory.read_lt,
    ByteMemory.read_eq_zero_iff]

/-- A pointer without the tag bit never fails the `guarantee`. -/
theorem taggedSlot_ok (useCompressedOops narrow : Bool) (small : p.toNat < 2 ^ 63) :
    ∃ s, taggedSlot useCompressedOops narrow p = .ok s ∧
      (s &&& tagMask ≠ 0 ↔ useCompressedOops = true ∧ narrow = false) := by
  cases useCompressedOops <;> cases narrow
  case true.false =>
    exact ⟨p ||| tagMask, by simp [taggedSlot, tag_absent small], by simpa using tag_present⟩
  all_goals exact ⟨p, rfl, by simp [tag_absent small]⟩

end Agreement

/-- The word reported for a slot pointer by either closure names one memory cell
to the Rust side: the tag is read back as it was set, a stored reference is
loaded again, and no access touches a byte outside the cell. -/
theorem reported_slot_is_cell (oops : NarrowOops) (useCompressedOops narrow : Bool) (p : Address)
    (small : p.toNat < 2 ^ 63) (kind : narrow = true → useCompressedOops = true) :
    ∃ slot : OpenJDKSlot useCompressedOops,
      MMTkRootsClosure.reportedSlot useCompressedOops narrow p = .ok slot.addr ∧
      MMTkRegisterNMethodOopClosure.reportedSlot useCompressedOops narrow p = .ok slot.addr ∧
      (slot.addr &&& tagMask ≠ 0 ↔ useCompressedOops = true ∧ narrow = false) ∧
      (useCompressedOops = true →
        slot.untaggedAddress = p ∧ (slot.isCompressed = true ↔ narrow = true)) ∧
      (∀ memory o, o ≠ 0 → (narrow = true → Encodable oops o) →
        slot.load oops (slot.store oops memory o) = some o) ∧
      (∀ memory, slot.load oops (slot.storeNull memory) = none) ∧
      ByteMemory.IsCell (slot.load oops) (slot.store oops) p (cellBytes narrow) ∧
      ByteMemory.IsCell (slot.load oops) (fun memory (_ : Unit) => slot.storeNull memory)
        p (cellBytes narrow) ∧
      (∀ (narrow' : Bool) (p' : Address) (slot' : OpenJDKSlot useCompressedOops), p'.toNat < 2 ^ 63 →
        (narrow' = true → useCompressedOops = true) →
        MMTkRootsClosure.reportedSlot useCompressedOops narrow' p' = .ok slot'.addr →
        ByteMemory.Disjoint p (cellBytes narrow) p' (cellBytes narrow') →
        ∀ memory reference reference',
          slot.load oops (slot'.assign oops memory reference') = slot.load oops memory ∧
          slot.assign oops (slot'.assign oops memory reference') reference =
            slot'.assign oops (slot.assign oops memory reference) reference') ∧
      (∀ memory, slot.load oops memory = cellReference oops narrow (memory.read p (cellBytes narrow))) ∧
      (∀ memory, slot.load oops memory = none ↔
        ∀ byte, ByteMemory.Covers p (cellBytes narrow) byte → memory byte = 0) := by
  obtain ⟨s, reported, tag⟩ := taggedSlot_ok useCompressedOops narrow small
  have cell := slot_isCell oops small kind reported
  refine ⟨⟨s⟩, reported, reported, tag, ?_, ?_, ?_, ?_, ?_, ?_, ?_, ?_⟩
  · intro on
    subst on
    obtain ⟨address, width⟩ := reported_tag small reported
    exact ⟨address, by rw [width]⟩
  · intro memory o nonzero encodable
    apply load_assign memory (some o) small kind reported
    intro object same
    cases same
    exact ⟨nonzero, encodable⟩
  · intro memory
    exact load_assign memory none small kind reported (by simp [Storable])
  · exact ⟨cell.reads, fun memory o => cell.frame memory (some o),
      fun memory other o => cell.overwrites memory other (some o)⟩
  · exact ⟨cell.reads, fun memory _ => cell.frame memory none,
      fun memory other _ => cell.overwrites memory other none⟩
  · intro narrow' p' slot' small' kind' reported' disjoint memory reference reference'
    have cell' := slot_isCell oops small' kind' reported'
    exact ⟨cell.load_disjoint cell' disjoint reference',
      cell.store_comm cell' disjoint reference reference'⟩
  · exact fun memory => load_eq memory small kind reported
  · exact fun memory => load_eq_none_iff memory small kind reported

/-- An unaligned oop inside an instruction, with compressed oops on. -/
theorem reported_slot_is_cell_unaligned :
    ∃ slot : OpenJDKSlot true,
      MMTkRegisterNMethodOopClosure.reportedSlot true false 0x7F0000001003 = .ok slot.addr ∧
      slot.untaggedAddress = 0x7F0000001003 ∧ slot.isCompressed = false ∧
      ∀ memory, slot.load ⟨0, 3⟩ (slot.store ⟨0, 3⟩ memory 0x40000008) = some 0x40000008 := by
  obtain ⟨slot, _, reported, _, tag, stored, _⟩ :=
    reported_slot_is_cell ⟨0, 3⟩ true false 0x7F0000001003 (by decide) (by decide)
  obtain ⟨address, kind⟩ := tag rfl
  exact ⟨slot, reported, address, by simpa using kind,
    fun memory => stored memory 0x40000008 (by decide) (by simp)⟩

end MmtkOpenJDK.Slots
