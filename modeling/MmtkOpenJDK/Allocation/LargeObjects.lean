import MmtkOpenJDK.Allocation.FastPath

/-! The choice of the large object space. Every allocation path compares the size
with the limit in its own way; the slow path decides by `MMTkMutatorContext::alloc`. -/

namespace MmtkOpenJDK.Allocation

open MmtkOpenJDK.Foundation Ideal
open X86 (Memory)

inductive Allocator where
  | default
  | immortal
  | los
  | code
  | readOnly
  deriving DecidableEq

/-- The allocator that `MMTkMutatorContext::alloc` passes to mmtk-core. -/
def MMTkMutatorContext.alloc (settings : Settings) (bytes : BitVec 64) (allocator : Allocator) : Allocator :=
  if settings.maxNonLosBytes ≤ bytes then .los else allocator

/-- `MMTkHeap::mem_allocate`, with the size in words. -/
def MMTkHeap.memAllocate (settings : Settings) (size : BitVec 64) : Allocator :=
  MMTkMutatorContext.alloc settings (size <<< 3) .default

/-- The ways to allocate an object: compiled code, or the slow path called directly. -/
inductive Way where
  | compiled (request : Request)
  | direct (words : BitVec 64)

def Way.size (memory : Memory) : Way → BitVec 64
  | .compiled request => request.size memory
  | .direct words => words <<< 3

/-- Where the object is placed: compiled code that takes its slow path calls
`MMTkMutatorContext::alloc` with the default allocator. -/
def Way.placement (settings : Settings) (memory : Memory) : Way → Allocator
  | .compiled request =>
    match (request.perform settings memory).2 with
    | some _ => .default
    | none => MMTkMutatorContext.alloc settings (request.size memory) .default
  | .direct words => MMTkHeap.memAllocate settings words

def Way.TakesFastPath (settings : Settings) (memory : Memory) : Way → Prop
  | .compiled request => request.TakesFastPath settings memory
  | .direct _ => False

/-- The object is in the large object space exactly if it is large, and an object
that the fast path places fits with its header. -/
structure PlacedBySize (settings : Settings) (memory : Memory) (way : Way) : Prop where
  large : way.placement settings memory = .los ↔ settings.maxNonLosBytes ≤ way.size memory
  fast : way.TakesFastPath settings memory →
    (way.size memory).toNat + settings.extraHeader.toNat ≤ settings.maxNonLosBytes.toNat

/-- The size does not fit the default space. -/
def TooLarge (settings : Settings) (size : BitVec 64) : Prop :=
  settings.maxNonLosBytes ≤ size ∨
    settings.maxNonLosBytes.toNat < size.toNat + settings.extraHeader.toNat

/-- The initial test of C2 lets the allocation pass. -/
def InitialTestPasses (node : AllocateNode) (raw : BitVec 32 → Bool) (env : Env) : Prop :=
  match findIntCon node.initialTest with
  | some value => value = 0
  | none => raw (node.initialTest.eval env) = false

/-- The fast path is taken for an object of exactly the limit and without a header,
because its size is a constant; or for a variable size that is too large, because bit 31 of
the limit is set and `eden_allocate` compares with a sign-extended immediate operand. -/
def Misplaced (settings : Settings) (memory : Memory) : Way → Prop
  | .direct _ => False
  | .compiled (.eden call frame) =>
    settings.HasFastPath ∧ Fits settings memory (call.sizeInBytes frame) ∧
      match call.size with
      | .con _ => call.sizeInBytes frame = settings.maxNonLosBytes ∧ settings.extraHeader = 0
      | .var _ => settings.largestSize.getLsbD 31 = true ∧ TooLarge settings (call.sizeInBytes frame)
  | .compiled (.c2 dtraceAllocProbes node raw env) =>
    dtraceAllocProbes = false ∧ settings.HasFastPath ∧ InitialTestPasses node raw { env with memory } ∧
      findLongCon node.sizeInBytes = some settings.maxNonLosBytes ∧ settings.extraHeader = 0 ∧
      (settings.cursor memory).toNat + settings.maxNonLosBytes.toNat < (settings.limit memory).toNat

/-- What HotSpot promises of an allocation. -/
def Way.Valid (memory : Memory) : Way → Prop
  | .compiled (.eden call frame) => (Request.eden call frame).Valid memory
  | .compiled (.c2 dtraceAllocProbes node raw env) =>
    (Request.c2 dtraceAllocProbes node raw env).Valid memory ∧ node.WellFormed
  | .direct _ => True

section Placement

variable {settings : Settings} {memory : Memory} {way : Way}

theorem placement_slow (slow : ¬ way.TakesFastPath settings memory) :
    way.placement settings memory = MMTkMutatorContext.alloc settings (way.size memory) .default := by
  cases way with
  | direct words => rfl
  | compiled request =>
    rw [Way.placement, Request.perform_slow slow]
    rfl

theorem placement_fast (buffer : settings.Buffer memory) (valid : way.Valid memory)
    (fast : way.TakesFastPath settings memory) : way.placement settings memory = .default := by
  cases way with
  | direct words => exact fast.elim
  | compiled request =>
    have requestValid : request.Valid memory := by
      cases request with
      | eden call frame => exact valid
      | c2 dtraceAllocProbes node raw env => exact valid.1
    obtain ⟨after, result, _⟩ := request.perform_fast buffer requestValid fast
    rw [Way.placement, result]

/-- Only a fast path that takes too large an object is at fault. -/
theorem placedBySize_iff (buffer : settings.Buffer memory) (valid : way.Valid memory) :
    PlacedBySize settings memory way ↔
      ¬ (way.TakesFastPath settings memory ∧ TooLarge settings (way.size memory)) := by
  by_cases fast : way.TakesFastPath settings memory
  · have placed := placement_fast buffer valid fast
    constructor
    · rintro ⟨large, fits⟩ ⟨_, tooLarge | tooLarge⟩
      · rw [placed] at large
        cases large.mpr tooLarge
      · exact absurd (fits fast) (by omega)
    · intro small
      rw [not_and, TooLarge, not_or] at small
      obtain ⟨below, fits⟩ := small fast
      refine ⟨?_, fun _ => by omega⟩
      simp [placed, below]
  · have placed := placement_slow fast
    refine iff_of_true ⟨?_, fun taken => absurd taken fast⟩ (fun both => fast both.1)
    rw [placed, MMTkMutatorContext.alloc]
    split <;> simp_all

theorem largestSize_toNat (header : settings.extraHeader ≤ settings.maxNonLosBytes) :
    settings.largestSize.toNat = settings.maxNonLosBytes.toNat - settings.extraHeader.toNat := by
  rw [Settings.largestSize, BitVec.toNat_sub_of_le header]

/-- The comparison of a constant size lets one size too many pass. -/
theorem constant_tooLarge_iff {size : BitVec 64} (header : settings.extraHeader ≤ settings.maxNonLosBytes) :
    size ≤ settings.largestSize ∧ TooLarge settings size ↔
      size = settings.maxNonLosBytes ∧ settings.extraHeader = 0 := by
  have largest := largestSize_toNat header
  have below := BitVec.le_def.mp header
  rw [TooLarge, BitVec.le_def, BitVec.le_def, ← BitVec.toNat_inj, ← BitVec.toNat_inj]
  simp only [BitVec.ofNat_eq_ofNat, BitVec.toNat_ofNat, Nat.zero_mod]
  omega

/-- The comparison of a variable size in C2 is strict and signed. -/
theorem variable_not_tooLarge {size : BitVec 64} (header : settings.extraHeader ≤ settings.maxNonLosBytes)
    (positive : 0 < size.toInt) (passes : size.toInt < settings.largestSize.toInt) : ¬ TooLarge settings size := by
  have largest := largestSize_toNat header
  have below := BitVec.le_def.mp header
  have sizeSmall := BitVec.toInt_pos_iff.mp positive.le
  have limitSmall := BitVec.toInt_pos_iff.mp (positive.trans passes).le
  rw [BitVec.toInt_eq_toNat_of_lt sizeSmall, BitVec.toInt_eq_toNat_of_lt limitSmall] at passes
  rw [TooLarge, BitVec.le_def]
  omega

/-- The immediate operand lets a size that is too large pass when its sign bit is set. -/
theorem immediate_tooLarge_iff {size : BitVec 64} (header : settings.extraHeader ≤ settings.maxNonLosBytes)
    (small : size.toNat < 2 ^ 47) :
    size < (settings.largestSize.setWidth 32).signExtend 64 ∧ TooLarge settings size ↔
      settings.largestSize.getLsbD 31 = true ∧ TooLarge settings size := by
  have largest := largestSize_toNat header
  have below := BitVec.le_def.mp header
  have operand : ((settings.largestSize.setWidth 32).signExtend 64).toNat =
      settings.largestSize.toNat % 2 ^ 32 + if settings.largestSize.getLsbD 31 then 2 ^ 64 - 2 ^ 32 else 0 := by
    rw [BitVec.toNat_signExtend, BitVec.msb_setWidth]
    simp
    omega
  refine and_congr_left fun tooLarge => ?_
  rw [BitVec.lt_def, operand]
  cases sign : settings.largestSize.getLsbD 31 with
  | true =>
    simp only [if_true, iff_true]
    omega
  | false =>
    -- the operand is no larger than the limit, less the header
    simp only [Bool.false_eq_true, if_false, iff_false]
    rw [TooLarge, BitVec.le_def] at tooLarge
    omega

theorem eden_misplaced_iff {call : EdenCall} {frame : X86.State} (buffer : settings.Buffer memory)
    (header : settings.extraHeader ≤ settings.maxNonLosBytes) :
    EdenFits settings call { frame with memory } ∧ TooLarge settings (call.sizeInBytes frame) ↔
      Misplaced settings memory (.compiled (.eden call frame)) := by
  have room : EdenRoom settings (call.sizeInBytes { frame with memory }) memory ↔
      Fits settings memory (call.sizeInBytes frame) := edenRoom_iff buffer
  have fits : EdenFits settings call { frame with memory } ↔
      settings.HasFastPath ∧ Fits settings memory (call.sizeInBytes frame) ∧
        edenSizePasses settings call { frame with memory } :=
    ⟨fun fits => ⟨fits.enabled, room.mp fits.room, fits.size⟩, fun ⟨enabled, inside, size⟩ => ⟨enabled, size, room.mpr inside⟩⟩
  rw [fits, and_assoc, and_assoc, Misplaced]
  refine and_congr_right fun _ => and_congr_right fun inside => ?_
  have bounded := buffer.bounded
  have small : (call.sizeInBytes frame).toNat < 2 ^ 47 := by
    rw [Fits] at inside
    omega
  cases size : call.size with
  | con bytes =>
    simp only [edenSizePasses, EdenCall.sizeInBytes, size]
    exact constant_tooLarge_iff header
  | var register =>
    simp only [EdenCall.sizeInBytes, size] at small
    simp only [edenSizePasses, EdenCall.sizeInBytes, size]
    exact immediate_tooLarge_iff header small

section C2

variable {dtraceAllocProbes : Bool} {node : AllocateNode} {raw : BitVec 32 → Bool} {env : Env}

/-- The decision for a constant size. -/
theorem attempts_constant {size : BitVec 64} (wellFormed : node.WellFormed)
    (constant : findLongCon node.sizeInBytes = some size) :
    (slowPathDecision settings dtraceAllocProbes node).Attempts raw env ↔
      dtraceAllocProbes = false ∧ settings.HasFastPath ∧ InitialTestPasses node raw env ∧
        size ≤ settings.largestSize := by
  by_cases fast : dtraceAllocProbes = false ∧ settings.HasFastPath
  · rw [slowPathDecision_fast fast.1 fast.2, sizeCheck_constant wellFormed constant, ← BitVec.not_lt]
    by_cases large : settings.largestSize < size
    · simp [Decision.Attempts, large]
    · rw [if_neg large]
      cases test : findIntCon node.initialTest with
      | none => simp [constantTest_runtime test, Decision.Attempts, InitialTestPasses, test, fast, large, Condition.eval]
      | some value =>
        rw [constantTest_constant test (wellFormed.test value test)]
        rcases wellFormed.test value test with rfl | rfl <;>
          simp [Decision.Attempts, InitialTestPasses, test, fast, large]
  · rw [slowPathDecision_forced fast]
    refine iff_of_false (fun attempts => by cases attempts.1) ?_
    rintro ⟨probes, enabled, _⟩
    exact fast ⟨probes, enabled⟩

/-- The emitted check of a variable size. -/
theorem attempts_variable (wellFormed : node.WellFormed) (variableSize : findLongCon node.sizeInBytes = none)
    (attempts : (slowPathDecision settings dtraceAllocProbes node).Attempts raw env) :
    (node.sizeInBytes.eval env).toInt < settings.largestSize.toInt := by
  obtain ⟨probes, fast⟩ := fast_of_attempting attempts.1
  rw [← c2SizePasses_variable variableSize]
  have plain : findIntCon node.initialTest ≠ some 1 := by
    intro test
    rw [slowPathDecision_fast probes fast, constantTest_constant test (.inr rfl), sizeCheck, variableSize] at attempts
    cases attempts.1
  have checked : (sizeCheck settings node (constantTest node)).Sound
      (fun env => node.initialTest.eval env = 0 ∧ c2SizePasses settings node env) := by
    refine sizeCheck_sound wellFormed ?_
    rintro (⟨test, _⟩ | ⟨_, bytes, size, _⟩)
    · exact plain test
    · rw [variableSize] at size
      cases size
  rw [slowPathDecision_fast probes fast] at attempts
  exact ((checked.attempts raw env).mp attempts).2

theorem c2_misplaced_iff (buffer : settings.Buffer memory)
    (valid : (Way.compiled (.c2 dtraceAllocProbes node raw env)).Valid memory)
    (header : settings.extraHeader ≤ settings.maxNonLosBytes) :
    C2Fits settings dtraceAllocProbes node raw { env with memory } ∧
        TooLarge settings (node.sizeInBytes.eval { env with memory }) ↔
      Misplaced settings memory (.compiled (.c2 dtraceAllocProbes node raw env)) := by
  obtain ⟨request, wellFormed⟩ := valid
  have positive : 0 < (node.sizeInBytes.eval { env with memory }).toInt := request.signed _ _ _ _ rfl
  have small := BitVec.toInt_pos_iff.mp positive.le
  have room := c2Room_iff buffer (show (node.sizeInBytes.eval { env with memory }).toNat < 2 ^ 63 by omega)
  cases constant : findLongCon node.sizeInBytes with
  | none =>
    refine iff_of_false ?_ (fun misplaced => by simp [Misplaced, constant] at misplaced)
    rintro ⟨fits, tooLarge⟩
    exact variable_not_tooLarge header positive (attempts_variable wellFormed constant fits.attempts) tooLarge
  | some size =>
    have value : node.sizeInBytes.eval { env with memory } = size := eval_of_findLongCon constant
    rw [value] at room ⊢
    constructor
    · rintro ⟨fits, tooLarge⟩
      obtain ⟨probes, fast, test, passes⟩ := (attempts_constant wellFormed constant).mp fits.attempts
      obtain ⟨rfl, none⟩ := (constant_tooLarge_iff header).mp ⟨passes, tooLarge⟩
      have inside := fits.room
      rw [value] at inside
      exact ⟨probes, fast, test, constant, none, by simpa [none] using room.mp inside⟩
    · rintro ⟨probes, fast, test, limit, none, inside⟩
      obtain rfl : size = settings.maxNonLosBytes := Option.some.inj (constant.symm.trans limit)
      obtain ⟨passes, tooLarge⟩ := (constant_tooLarge_iff header).mpr ⟨rfl, none⟩
      refine ⟨⟨(attempts_constant wellFormed constant).mpr ⟨probes, fast, test, passes⟩, ?_⟩, tooLarge⟩
      rw [value]
      exact room.mpr (by simpa [none] using inside)

end C2

end Placement

/-- Compiled code and the slow path choose the large object space by the same line,
except for the misplaced allocations. -/
theorem placed_by_size_iff (settings : Settings) (memory : Memory) (way : Way)
    (header : settings.extraHeader ≤ settings.maxNonLosBytes) (buffer : settings.Buffer memory)
    (valid : way.Valid memory) :
    PlacedBySize settings memory way ↔ ¬ Misplaced settings memory way := by
  rw [placedBySize_iff buffer valid]
  refine not_congr ?_
  cases way with
  | direct words => exact iff_of_false (fun both => both.1) id
  | compiled request =>
    cases request with
    | eden call frame => exact eden_misplaced_iff buffer header
    | c2 dtraceAllocProbes node raw env => exact c2_misplaced_iff buffer valid header

/-- A buffer with room for an object of the limit. -/
def roomyMemory : Memory where
  thread offset :=
    if offset = immixSettings.offsets.tlabTopOffset then 0x20000000
    else if offset = immixSettings.offsets.tlabEndOffset then 0x20008000
    else 0
  bytes _ := 0

def constantWay (size : BitVec 64) : Way :=
  .compiled (.c2 false ⟨.conI 0, .conL size⟩ (fun _ => false) ⟨fun _ => 0, fun _ => 0, roomyMemory⟩)

theorem roomy_buffer : immixSettings.Buffer roomyMemory := ⟨by decide, by decide, by decide⟩

theorem constantWay_valid {size : BitVec 64} (positive : 0 < size.toInt) (aligned : size.toNat % 8 = 0) :
    (constantWay size).Valid roomyMemory := by
  refine ⟨⟨?_, aligned, fun _ _ _ _ _ => positive⟩, ⟨?_, ?_⟩⟩
  · by_contra empty
    have zero : size = 0 := BitVec.eq_of_toNat_eq (Nat.le_zero.mp (not_lt.mp empty))
    simp [zero] at positive
  · intro value found
    cases found
    exact .inl rfl
  · intro value found
    cases found
    exact positive.le

theorem below_limit_placed : PlacedBySize immixSettings roomyMemory (constantWay 0x3ff8) := by
  refine (placed_by_size_iff immixSettings roomyMemory (constantWay 0x3ff8) (by decide) roomy_buffer
    (constantWay_valid (by decide) (by decide))).mpr ?_
  rintro ⟨_, _, _, same, _⟩
  exact absurd (Option.some.inj same) (by decide)

/-- An object of exactly the limit, whose size is a constant, is bump-allocated. -/
theorem limit_misplaced :
    (constantWay 0x4000).size roomyMemory = immixSettings.maxNonLosBytes ∧
      (constantWay 0x4000).placement immixSettings roomyMemory = .default ∧
      (Way.direct 0x800).size roomyMemory = immixSettings.maxNonLosBytes ∧
      (Way.direct 0x800).placement immixSettings roomyMemory = .los ∧
      ¬ PlacedBySize immixSettings roomyMemory (constantWay 0x4000) := by
  have bumped : (constantWay 0x4000).placement immixSettings roomyMemory = .default := by decide
  refine ⟨by decide, bumped, by decide, by decide, ?_⟩
  intro placed
  have large := placed.large.mpr (by decide)
  rw [bumped] at large
  cases large

end MmtkOpenJDK.Allocation
