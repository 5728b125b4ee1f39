import MmtkOpenJDK.Foundation.SlidingCopy

/-! Objects that are found again at another address, evacuations (copies to fresh places,
in any order, that leave a note in the header of the old object), and work on cells that
do not overlap. -/

namespace MmtkOpenJDK.Foundation.ByteMemory

variable {width : Nat} {memory before between after : ByteMemory width} {src dst byte : BitVec width}
variable {header bytes : Nat}

/-- The range at `dst` holds what the range at `src` held, apart from the excluded places. -/
def RelocatedExcept (excluded : Nat → Prop) (before after : ByteMemory width) (src dst : BitVec width) (bytes : Nat) :
    Prop :=
  ∀ index, ¬ excluded index → index < bytes →
    after (dst + BitVec.ofNat width index) = before (src + BitVec.ofNat width index)

theorem RelocatedExcept.read {excluded : Nat → Prop} (relocated : RelocatedExcept excluded before after src dst bytes)
    {offset count : Nat} (kept : ∀ index, offset ≤ index → index < offset + count → ¬ excluded index)
    (inside : offset + count ≤ bytes) :
    after.read (dst + BitVec.ofNat width offset) count = before.read (src + BitVec.ofNat width offset) count := by
  have next (address : BitVec width) (offset : Nat) :
      address + BitVec.ofNat width offset + 1 = address + BitVec.ofNat width (offset + 1) := by
    rw [BitVec.ofNat_add, BitVec.add_assoc]
    rfl
  induction count generalizing offset with
  | zero => rfl
  | succ count ih =>
    have first := relocated offset (kept offset (by omega) (by omega)) (by omega)
    rw [ByteMemory.read, ByteMemory.read, next, next, first, ih ?_ (by omega)]
    intro index above below
    exact kept index (by omega) (by omega)

/-- Behind the header, the range at `dst` holds what the range at `src` held. -/
def Relocated (header : Nat) (before after : ByteMemory width) (src dst : BitVec width) (bytes : Nat) : Prop :=
  ∀ index, header ≤ index → index < bytes →
    after (dst + BitVec.ofNat width index) = before (src + BitVec.ofNat width index)

theorem Relocated.except {excluded : Nat → Prop} (relocated : Relocated header before after src dst bytes)
    (headed : ∀ index < header, excluded index) : RelocatedExcept excluded before after src dst bytes := by
  intro index kept bound
  exact relocated index (Nat.not_lt.mp fun below => kept (headed index below)) bound

theorem Relocated.read (relocated : Relocated header before after src dst bytes) {offset count : Nat}
    (behind : header ≤ offset) (inside : offset + count ≤ bytes) :
    after.read (dst + BitVec.ofNat width offset) count = before.read (src + BitVec.ofNat width offset) count :=
  (relocated.except fun _ below => below).read (fun _ above _ below => by omega) inside

/-- The object at `src` has been copied to `dst`. Nothing else has changed, apart from
the header of the copy and that of the old object. -/
structure Evacuated (header : Nat) (before after : ByteMemory width) (src dst : BitVec width) (bytes : Nat) :
    Prop where
  contents : Relocated header before after src dst bytes
  frame : ∀ byte, ¬ Covers dst bytes byte → ¬ Covers src header byte → after byte = before byte

section Evacuation

variable {size : ByteMemory width → BitVec width → Nat} {move : Move width} {moves rest : List (Move width)}

/-- The copies one after the other. The size is that in the memory at the time. -/
inductive Evacuates (header : Nat) (size : ByteMemory width → BitVec width → Nat) :
    ByteMemory width → List (Move width) → ByteMemory width → Prop where
  | done (memory : ByteMemory width) : Evacuates header size memory [] memory
  | move {memory between after : ByteMemory width} {move : Move width} {rest : List (Move width)}
      (evacuated : Evacuated header memory between move.src move.dst (size memory move.src))
      (others : Evacuates header size between rest after) : Evacuates header size memory (move :: rest) after

/-- An object with a header whose size is determined by what follows the header. -/
structure SizedBehind (header : Nat) (size : ByteMemory width → BitVec width → Nat) (memory : ByteMemory width)
    (object : BitVec width) : Prop where
  room : header ≤ size memory object
  own : ∀ other, Relocated header memory other object object (size memory object) →
    size other object = size memory object

/-- Old objects and new places, none of them overlapping another. -/
structure FreshPlaces (header : Nat) (size : ByteMemory width → BitVec width → Nat) (memory : ByteMemory width)
    (moves : List (Move width)) : Prop where
  objects : ∀ move ∈ moves, SizedBehind header size memory move.src
  apart : moves.Pairwise fun move later =>
    Disjoint move.src (size memory move.src) later.src (size memory later.src)
  fresh : ∀ move ∈ moves, ∀ other ∈ moves,
    Disjoint move.dst (size memory move.src) other.src (size memory other.src)
  separate : moves.Pairwise fun move later =>
    Disjoint move.dst (size memory move.src) later.dst (size memory later.src)

theorem Covers.mono {more : Nat} (covered : Covers src bytes byte) (le : bytes ≤ more) : Covers src more byte := by
  obtain ⟨index, bound, same⟩ := covered
  exact ⟨index, by omega, same⟩

/-- A range that ends before the other begins. -/
theorem disjoint_of_le {first second : BitVec width} {firstBytes secondBytes : Nat}
    (ordered : first.toNat + firstBytes ≤ second.toNat) (inside : second.toNat + secondBytes ≤ 2 ^ width) :
    Disjoint first firstBytes second secondBytes := by
  intro byte covered covered'
  have bound := covered.toNat (ordered.trans second.isLt.le)
  have bound' := covered'.toNat inside
  omega

theorem Disjoint.symm {first second : BitVec width} {firstBytes secondBytes : Nat}
    (disjoint : Disjoint first firstBytes second secondBytes) : Disjoint second secondBytes first firstBytes :=
  fun byte covered covered' => disjoint byte covered' covered

/-- A copy leaves the later objects as they are. -/
theorem FreshPlaces.behind (places : FreshPlaces header size before (move :: rest))
    (evacuated : Evacuated header before after move.src move.dst (size before move.src)) {later : Move width}
    (member : later ∈ rest) :
    (∀ byte, Covers later.src (size before later.src) byte → after byte = before byte) ∧
      size after later.src = size before later.src := by
  have object := places.objects later (List.mem_cons_of_mem _ member)
  have headed := (places.objects move List.mem_cons_self).room
  have same : ∀ byte, Covers later.src (size before later.src) byte → after byte = before byte := by
    intro byte covered
    refine evacuated.frame byte ?_ ?_
    · intro copied
      exact places.fresh move List.mem_cons_self later (List.mem_cons_of_mem _ member) byte copied covered
    · intro noted
      exact (List.pairwise_cons.mp places.apart).1 later member byte (noted.mono headed) covered
  exact ⟨same, object.own after fun index _ bound => same _ ⟨index, bound, rfl⟩⟩

theorem FreshPlaces.next (places : FreshPlaces header size before (move :: rest))
    (evacuated : Evacuated header before after move.src move.dst (size before move.src)) :
    FreshPlaces header size after rest := by
  have sized {later : Move width} (member : later ∈ rest) : size after later.src = size before later.src :=
    (places.behind evacuated member).2
  refine ⟨?_, ?_, ?_, ?_⟩
  · intro later member
    have object := places.objects later (List.mem_cons_of_mem _ member)
    refine ⟨by rw [sized member]; exact object.room, ?_⟩
    intro other agree
    rw [sized member] at agree ⊢
    refine object.own other ?_
    intro index behind bound
    rw [agree index behind bound, (places.behind evacuated member).1 _ ⟨index, bound, rfl⟩]
  · refine (List.pairwise_cons.mp places.apart).2.imp_of_mem ?_
    intro earlier later member member' apart
    rw [sized member, sized member']
    exact apart
  · intro later member other member'
    rw [sized member, sized member']
    exact places.fresh later (List.mem_cons_of_mem _ member) other (List.mem_cons_of_mem _ member')
  · refine (List.pairwise_cons.mp places.separate).2.imp_of_mem ?_
    intro earlier later member member' separate
    rw [sized member, sized member']
    exact separate

theorem Evacuates.untouched (evacuates : Evacuates header size before moves after)
    (places : FreshPlaces header size before moves)
    (outside : ∀ move ∈ moves, ¬ Covers move.dst (size before move.src) byte ∧
      ¬ Covers move.src (size before move.src) byte) : after byte = before byte := by
  induction evacuates with
  | done => rfl
  | move evacuated others ih =>
    have headed := (places.objects _ List.mem_cons_self).room
    obtain ⟨notCopied, notOld⟩ := outside _ List.mem_cons_self
    rw [ih (places.next evacuated) ?_]
    · exact evacuated.frame byte notCopied fun noted => notOld (noted.mono headed)
    · intro later member
      rw [(places.behind evacuated member).2]
      exact outside later (List.mem_cons_of_mem _ member)

/-- Every object arrives with the bytes that it had before the first copy. -/
theorem Evacuates.contents (evacuates : Evacuates header size before moves after)
    (places : FreshPlaces header size before moves) (member : move ∈ moves) :
    Relocated header before after move.src move.dst (size before move.src) := by
  induction evacuates with
  | done => cases member
  | move evacuated others ih =>
    rcases List.mem_cons.mp member with rfl | later
    · intro index behind bound
      -- the copy stays as it is: the later copies go to other places
      have kept : ∀ other ∈ _, _ := fun other present => And.intro
        ((List.pairwise_cons.mp places.separate).1 other present _ ⟨index, bound, rfl⟩)
        (places.fresh move List.mem_cons_self other (List.mem_cons_of_mem _ present) _ ⟨index, bound, rfl⟩)
      rw [others.untouched (places.next evacuated) ?_]
      · exact evacuated.contents index behind bound
      · intro other present
        rw [(places.behind evacuated present).2]
        exact kept other present
    · obtain ⟨same, sized⟩ := places.behind evacuated later
      intro index behind bound
      rw [ih (places.next evacuated) later index behind (by rwa [sized])]
      exact same _ ⟨index, bound, rfl⟩

end Evacuation

section Work

variable {Item Value : Type}

/-- Work on cells: each item has a cell, and what it does to the value of the cell, provided
that the value is admissible. -/
structure CellWork (width : Nat) (Item Value : Type) where
  address : Item → BitVec width
  bytes : Item → Nat
  load : Item → ByteMemory width → Value
  apply : Item → ByteMemory width → ByteMemory width
  change : Item → Value → Value
  admissible : Item → Value → Prop

/-- The item changes the value of its cell and no byte outside of it. -/
structure CellWork.Local (work : CellWork width Item Value) (item : Item) : Prop where
  reads : ∀ memory other, (∀ byte, Covers (work.address item) (work.bytes item) byte → memory byte = other byte) →
    work.load item memory = work.load item other
  frame : ∀ memory byte, ¬ Covers (work.address item) (work.bytes item) byte →
    work.apply item memory byte = memory byte
  changes : ∀ memory, work.admissible item (work.load item memory) →
    work.load item (work.apply item memory) = work.change item (work.load item memory)

/-- The two items have different cells. -/
def CellWork.Apart (work : CellWork width Item Value) (item other : Item) : Prop :=
  Disjoint (work.address item) (work.bytes item) (work.address other) (work.bytes other)

/-- The items one after the other. -/
def CellWork.applyAll (work : CellWork width Item Value) (items : List Item) (memory : ByteMemory width) :
    ByteMemory width :=
  items.foldl (fun memory item => work.apply item memory) memory

variable {work : CellWork width Item Value} {item : Item} {items : List Item}

theorem CellWork.applyAll_frame (localWork : ∀ item ∈ items, work.Local item)
    (outside : ∀ item ∈ items, ¬ Covers (work.address item) (work.bytes item) byte) :
    work.applyAll items memory byte = memory byte := by
  induction items generalizing memory with
  | nil => rfl
  | cons item rest ih =>
    have first := (localWork item List.mem_cons_self).frame memory byte (outside item List.mem_cons_self)
    refine (ih ?_ ?_).trans first
    · exact fun other member => localWork other (List.mem_cons_of_mem _ member)
    · exact fun other member => outside other (List.mem_cons_of_mem _ member)

/-- Each cell is changed by its own item alone. -/
theorem CellWork.applyAll_load (localWork : ∀ item ∈ items, work.Local item) (apart : items.Pairwise work.Apart)
    (member : item ∈ items) (admitted : work.admissible item (work.load item memory)) :
    work.load item (work.applyAll items memory) = work.change item (work.load item memory) := by
  induction items generalizing memory with
  | nil => cases member
  | cons head rest ih =>
    obtain ⟨headApart, restApart⟩ := List.pairwise_cons.mp apart
    have headLocal := localWork head List.mem_cons_self
    have restLocal := fun other present => localWork other (List.mem_cons_of_mem head present)
    rcases List.mem_cons.mp member with rfl | later
    · refine Eq.trans ?_ (headLocal.changes memory admitted)
      refine headLocal.reads _ _ ?_
      intro byte covered
      exact applyAll_frame restLocal fun other present => headApart other present byte covered
    · have kept : work.load item (work.apply head memory) = work.load item memory := by
        refine (restLocal item later).reads _ _ ?_
        intro byte covered
        exact headLocal.frame memory byte fun own => headApart item later byte own covered
      rw [← kept] at admitted ⊢
      exact ih restLocal restApart later admitted

end Work

/-- A range moves along with another. -/
theorem Disjoint.translate {first second : BitVec width} {firstBytes secondBytes : Nat}
    (disjoint : Disjoint first firstBytes second secondBytes) (distance : BitVec width) :
    Disjoint (first + distance) firstBytes (second + distance) secondBytes := by
  have back (start : BitVec width) (count : Nat) (byte : BitVec width) (covered : Covers (start + distance) count byte) :
      Covers start count (byte - distance) := by
    obtain ⟨index, bound, rfl⟩ := covered
    exact ⟨index, bound, by rw [add_right_comm, add_sub_cancel_right]⟩
  intro byte covered covered'
  exact disjoint _ (back first firstBytes byte covered) (back second secondBytes byte covered')

end MmtkOpenJDK.Foundation.ByteMemory
