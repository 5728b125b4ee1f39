import MmtkOpenJDK.Foundation.ByteMemory

/-! Regions of memory that are divided into cells of one width. -/

namespace MmtkOpenJDK.Foundation.ByteMemory

variable {width : Nat} {byte : BitVec width} {bytes : Nat}

structure Region (width : Nat) where
  start : BitVec width
  count : Nat
  deriving DecidableEq

def Region.cell (region : Region width) (bytes index : Nat) : BitVec width :=
  region.start + BitVec.ofNat width (index * bytes)

def Region.cells (region : Region width) (bytes : Nat) : List (BitVec width) :=
  (List.range region.count).map (region.cell bytes)

/-- No byte belongs to both regions. -/
def Region.Apart (bytes : Nat) (first second : Region width) : Prop :=
  Disjoint first.start (first.count * bytes) second.start (second.count * bytes)

/-- The region does not overlap itself. -/
def Region.Fits (bytes : Nat) (region : Region width) : Prop := region.count * bytes ≤ 2 ^ width

variable {region first second : Region width}

theorem Region.mem_cells {address : BitVec width} :
    address ∈ region.cells bytes ↔ ∃ index < region.count, address = region.cell bytes index := by
  simp [cells, eq_comm]

/-- A cell lies inside its region. -/
theorem Region.covers_cell {index : Nat} (bound : index < region.count)
    (covered : Covers (region.cell bytes index) bytes byte) : Covers region.start (region.count * bytes) byte := by
  apply covered.within
  rw [← Nat.succ_mul]
  exact Nat.mul_le_mul_right bytes bound

/-- Two cells of a region have no byte in common. -/
theorem Region.disjoint_cells {index later : Nat} (fits : region.Fits bytes) (earlier : index < later)
    (bound : later < region.count) :
    Disjoint (region.cell bytes index) bytes (region.cell bytes later) bytes := by
  rintro byte ⟨offset, inside, same⟩ ⟨offset', inside', same'⟩
  have before : index * bytes + bytes ≤ later * bytes := by
    rw [← Nat.succ_mul]
    exact Nat.mul_le_mul_right bytes earlier
  have last : later * bytes + bytes ≤ 2 ^ width := by
    rw [← Nat.succ_mul]
    exact (Nat.mul_le_mul_right bytes bound).trans fits
  have places : region.start + BitVec.ofNat width (index * bytes + offset) =
      region.start + BitVec.ofNat width (later * bytes + offset') := by
    rw [BitVec.ofNat_add, BitVec.ofNat_add, ← BitVec.add_assoc, ← BitVec.add_assoc]
    exact same.symm.trans same'
  have equal := offset_inj (by omega) (by omega) places
  omega

theorem Region.pairwise_cells (fits : region.Fits bytes) :
    (region.cells bytes).Pairwise fun first second => Disjoint first bytes second bytes := by
  rw [cells, List.pairwise_map]
  refine List.pairwise_lt_range.imp_of_mem ?_
  intro index later _ member earlier
  exact disjoint_cells fits earlier (List.mem_range.mp member)

/-- Cells of regions that are apart have no byte in common. -/
theorem Region.Apart.disjoint {address address' : BitVec width} (apart : Region.Apart bytes first second)
    (member : address ∈ first.cells bytes) (member' : address' ∈ second.cells bytes) :
    Disjoint address bytes address' bytes := by
  obtain ⟨index, bound, rfl⟩ := mem_cells.mp member
  obtain ⟨index', bound', rfl⟩ := mem_cells.mp member'
  intro byte covered covered'
  exact apart byte (covers_cell bound covered) (covers_cell bound' covered')

theorem pairwise_flatMap_cells {regions : List (Region width)} (fits : ∀ region ∈ regions, region.Fits bytes)
    (apart : regions.Pairwise (Region.Apart bytes)) :
    (regions.flatMap (Region.cells · bytes)).Pairwise fun first second => Disjoint first bytes second bytes := by
  rw [List.pairwise_flatMap]
  refine ⟨fun region member => Region.pairwise_cells (fits region member), apart.imp ?_⟩
  intro first second separate address member address' member'
  exact separate.disjoint member member'

/-- A cell that is not empty has its first byte. -/
theorem Disjoint.ne {address address' : BitVec width} (positive : 0 < bytes)
    (disjoint : Disjoint address bytes address' bytes) : address ≠ address' := by
  rintro rfl
  have head : Covers address bytes address := ⟨0, positive, by simp⟩
  exact disjoint address head head

theorem Region.Apart.symm (apart : Region.Apart bytes first second) : Region.Apart bytes second first :=
  fun byte covered covered' => apart byte covered' covered

/-- A region that ends before the other begins is apart from it. -/
theorem Region.apart_of_le (ordered : first.start.toNat + first.count * bytes ≤ second.start.toNat)
    (inside : second.start.toNat + second.count * bytes ≤ 2 ^ width) : Region.Apart bytes first second := by
  intro byte covered covered'
  have bound := covered.toNat (Nat.le_of_lt (Nat.lt_of_le_of_lt ordered second.start.isLt))
  have bound' := covered'.toNat inside
  omega

end MmtkOpenJDK.Foundation.ByteMemory
