import MmtkOpenJDK.Foundation.ByteMemory

/-! Copies within one memory, byte by byte in ascending order, and compactions made
of them: objects that slide down one after the other, each as long as its own bytes
say. -/

namespace MmtkOpenJDK.Foundation.ByteMemory

variable {width : Nat} {memory before after : ByteMemory width} {src dst byte : BitVec width} {bytes : Nat}

def copyByte (src dst : BitVec width) (memory : ByteMemory width) (index : Nat) : ByteMemory width :=
  Function.update memory (dst + BitVec.ofNat width index) (memory (src + BitVec.ofNat width index))

def copyAscending (memory : ByteMemory width) (src dst : BitVec width) (bytes : Nat) : ByteMemory width :=
  (List.range bytes).foldl (copyByte src dst) memory

theorem copyAscending_succ :
    memory.copyAscending src dst (bytes + 1) = copyByte src dst (memory.copyAscending src dst bytes) bytes := by
  simp [copyAscending, List.range_succ]

/-- No byte is overwritten before it has been read. -/
def ReadsAhead (src dst : BitVec width) (bytes : Nat) : Prop :=
  ∀ index later, index < later → later < bytes →
    dst + BitVec.ofNat width index ≠ src + BitVec.ofNat width later

theorem readsAhead_of_le (down : dst.toNat ≤ src.toNat) (inside : src.toNat + bytes ≤ 2 ^ width) :
    ReadsAhead src dst bytes := by
  intro index later earlier bound same
  have places := congrArg BitVec.toNat same
  rw [toNat_offset (by omega), toNat_offset (by omega)] at places
  omega

theorem readsAhead_of_disjoint (disjoint : Disjoint dst bytes src bytes) : ReadsAhead src dst bytes := by
  intro index later earlier bound same
  exact disjoint _ ⟨index, by omega, rfl⟩ ⟨later, bound, same⟩

/-- What a copy has to do: the destination holds the old bytes of the source, and
nothing else has changed. -/
structure Copies (before after : ByteMemory width) (src dst : BitVec width) (bytes : Nat) : Prop where
  contents : ∀ index < bytes, after (dst + BitVec.ofNat width index) = before (src + BitVec.ofNat width index)
  frame : ∀ byte, ¬ Covers dst bytes byte → after byte = before byte

theorem copyAscending_outside (outside : ¬ Covers dst bytes byte) :
    memory.copyAscending src dst bytes byte = memory byte := by
  induction bytes with
  | zero => rfl
  | succ bytes ih =>
    have different : byte ≠ dst + BitVec.ofNat width bytes := fun same => outside ⟨bytes, by omega, same⟩
    rw [copyAscending_succ, copyByte, Function.update_of_ne different]
    apply ih
    rintro ⟨index, bound, same⟩
    exact outside ⟨index, by omega, same⟩

theorem copyAscending_inside (room : bytes ≤ 2 ^ width) (ahead : ReadsAhead src dst bytes) {index : Nat}
    (bound : index < bytes) :
    memory.copyAscending src dst bytes (dst + BitVec.ofNat width index) = memory (src + BitVec.ofNat width index) := by
  induction bytes with
  | zero => omega
  | succ bytes ih =>
    rw [copyAscending_succ, copyByte]
    by_cases last : index = bytes
    · subst last
      rw [Function.update_self]
      -- the byte read last is not among those already written
      apply copyAscending_outside
      rintro ⟨earlier, before, same⟩
      exact ahead earlier index before (by omega) same.symm
    · have different : dst + BitVec.ofNat width index ≠ dst + BitVec.ofNat width bytes := by
        intro same
        exact last (offset_inj (by omega) (by omega) same)
      rw [Function.update_of_ne different]
      apply ih (by omega) _ (by omega)
      intro earlier later order bound'
      exact ahead earlier later order (by omega)

theorem copies_copyAscending (room : bytes ≤ 2 ^ width) (ahead : ReadsAhead src dst bytes) :
    Copies memory (memory.copyAscending src dst bytes) src dst bytes :=
  ⟨fun _ bound => copyAscending_inside room ahead bound, fun _ outside => copyAscending_outside outside⟩

/-- A copy at once, of ranges that may overlap in any way. -/
def copyBlock (memory : ByteMemory width) (src dst : BitVec width) (bytes : Nat) : ByteMemory width := fun byte =>
  if (byte - dst).toNat < bytes then memory (src + (byte - dst)) else memory byte

theorem copies_copyBlock (room : bytes ≤ 2 ^ width) : Copies memory (memory.copyBlock src dst bytes) src dst bytes := by
  constructor
  · intro index bound
    have distance : dst + BitVec.ofNat width index - dst = BitVec.ofNat width index := by
      rw [BitVec.add_comm, BitVec.add_sub_cancel]
    rw [copyBlock, distance, BitVec.toNat_ofNat, Nat.mod_eq_of_lt (by omega), if_pos bound]
  · intro byte outside
    rw [copyBlock, if_neg]
    intro inside
    refine outside ⟨(byte - dst).toNat, inside, ?_⟩
    rw [BitVec.ofNat_toNat, BitVec.setWidth_eq, BitVec.add_comm, BitVec.sub_add_cancel]

/-- Leaving everything in place copies a range onto itself. -/
theorem copies_refl : Copies memory memory src src bytes :=
  ⟨fun _ _ => rfl, fun _ _ => rfl⟩

/-- A copy down to the destination leaves everything from the end of the source on as
it was. -/
theorem Copies.above (copies : Copies before after src dst bytes) (down : dst.toNat ≤ src.toNat)
    (inside : src.toNat + bytes ≤ 2 ^ width) (above : src.toNat + bytes ≤ byte.toNat) : after byte = before byte := by
  apply copies.frame
  intro covered
  have bounds := covered.toNat (by omega)
  omega

theorem Copies.below (copies : Copies before after src dst bytes) (inside : dst.toNat + bytes ≤ 2 ^ width)
    (below : byte.toNat < dst.toNat) : after byte = before byte := by
  apply copies.frame
  intro covered
  have bounds := covered.toNat inside
  omega

section Compaction

variable {size : ByteMemory width → BitVec width → Nat}

structure Move (width : Nat) where
  src : BitVec width
  dst : BitVec width

/-- An object inside the address space whose size is determined by its own bytes. -/
structure SelfSized (size : ByteMemory width → BitVec width → Nat) (memory : ByteMemory width)
    (object : BitVec width) : Prop where
  inside : object.toNat + size memory object ≤ 2 ^ width
  own : ∀ other, (∀ byte, Covers object (size memory object) byte → other byte = memory byte) →
    size other object = size memory object

/-- The sources, in ascending order and without overlaps. -/
structure InOrder (size : ByteMemory width → BitVec width → Nat) (memory : ByteMemory width)
    (moves : List (Move width)) : Prop where
  objects : ∀ move ∈ moves, SelfSized size memory move.src
  ordered : moves.Pairwise fun move later => move.src.toNat + size memory move.src ≤ later.src.toNat

/-- The moves one after the other, each down or in place and not below the end of the
one before. The size is that in the memory at the time. -/
inductive Slides (size : ByteMemory width → BitVec width → Nat) :
    ByteMemory width → Nat → List (Move width) → ByteMemory width → Prop where
  | done (memory : ByteMemory width) (cursor : Nat) : Slides size memory cursor [] memory
  | move {memory between after : ByteMemory width} {cursor : Nat} {move : Move width} {rest : List (Move width)}
      (above : cursor ≤ move.dst.toNat) (down : move.dst.toNat ≤ move.src.toNat)
      (copies : Copies memory between move.src move.dst (size memory move.src))
      (others : Slides size between (move.dst.toNat + size memory move.src) rest after) :
      Slides size memory cursor (move :: rest) after

variable {move : Move width} {rest : List (Move width)} {cursor : Nat} {moves : List (Move width)}

/-- The first move leaves the objects behind it as they are, and so their sizes. -/
theorem InOrder.behind (order : InOrder size before (move :: rest)) (down : move.dst.toNat ≤ move.src.toNat)
    (copies : Copies before after move.src move.dst (size before move.src)) {later : Move width}
    (member : later ∈ rest) :
    (∀ byte, Covers later.src (size before later.src) byte → after byte = before byte) ∧
      size after later.src = size before later.src := by
  have object := order.objects later (List.mem_cons_of_mem _ member)
  have ordered := (List.pairwise_cons.mp order.ordered).1 later member
  have same : ∀ byte, Covers later.src (size before later.src) byte → after byte = before byte := by
    intro byte covered
    have bounds := covered.toNat object.inside
    exact copies.above down (order.objects move List.mem_cons_self).inside (by omega)
  exact ⟨same, object.own after same⟩

theorem InOrder.next (order : InOrder size before (move :: rest)) (down : move.dst.toNat ≤ move.src.toNat)
    (copies : Copies before after move.src move.dst (size before move.src)) : InOrder size after rest := by
  refine ⟨?_, ?_⟩
  · intro later member
    obtain ⟨same, sized⟩ := order.behind down copies member
    have object := order.objects later (List.mem_cons_of_mem _ member)
    refine ⟨by rw [sized]; exact object.inside, ?_⟩
    intro other agree
    rw [sized] at agree ⊢
    refine object.own other ?_
    intro byte covered
    rw [agree byte covered, same byte covered]
  · refine (List.pairwise_cons.mp order.ordered).2.imp_of_mem ?_
    intro earlier later member _ ordered
    rw [(order.behind down copies member).2]
    exact ordered

/-- What lies below the cursor is not touched any more. -/
theorem Slides.untouched (slides : Slides size before cursor moves after) (order : InOrder size before moves)
    (below : byte.toNat < cursor) : after byte = before byte := by
  induction slides with
  | done => rfl
  | move above down copies _ ih =>
    have inside := (order.objects _ List.mem_cons_self).inside
    rw [ih (order.next down copies) (by omega)]
    exact copies.below (by omega) (by omega)

/-- Every object arrives with the bytes that it had before the first move. -/
theorem Slides.contents (slides : Slides size before cursor moves after) (order : InOrder size before moves)
    (member : move ∈ moves) {index : Nat} (bound : index < size before move.src) :
    after (move.dst + BitVec.ofNat width index) = before (move.src + BitVec.ofNat width index) := by
  induction slides with
  | done => cases member
  | move above down copies others ih =>
    rcases List.mem_cons.mp member with rfl | later
    · have inside := (order.objects _ List.mem_cons_self).inside
      have place : (move.dst + BitVec.ofNat width index).toNat = move.dst.toNat + index := toNat_offset (by omega)
      rw [others.untouched (order.next down copies) (by omega)]
      exact copies.contents index bound
    · obtain ⟨same, sized⟩ := order.behind down copies later
      rw [ih (order.next down copies) later (by rwa [sized])]
      exact same _ ⟨index, bound, rfl⟩

end Compaction

end MmtkOpenJDK.Foundation.ByteMemory
