import MmtkOpenJDK.Allocation.EdenAllocate
import MmtkOpenJDK.Allocation.ExpandAllocate

/-! Sequences of fast-path allocations on one thread, each by the code of either
generator: the objects are disjoint, and the valid-object bits are exact. -/

namespace MmtkOpenJDK.Allocation

open MmtkOpenJDK.Foundation Ideal
open X86 (Memory)

/-- The code of one allocation with everything it reads besides memory. -/
inductive Request where
  | eden (call : EdenCall) (frame : X86.State)
  | c2 (dtraceAllocProbes : Bool) (node : AllocateNode) (raw : BitVec 32 → Bool) (env : Env)

/-- The requested size at run time. -/
def Request.size (memory : Memory) : Request → BitVec 64
  | .eden call frame => call.sizeInBytes frame
  | .c2 _ node _ env => node.sizeInBytes.eval { env with memory }

/-- Run the code: memory afterwards, and the object unless the slow path is taken. -/
def Request.perform (settings : Settings) (memory : Memory) : Request → Memory × Option (BitVec 64)
  | .eden call frame =>
    match edenAllocate settings call with
    | .error _ => (memory, none)
    | .ok code =>
      let result := X86.run code { frame with memory }
      match result.2 with
      | some .slowCase => (result.1.memory, none)
      | none => (result.1.memory, some (result.1.regs .rax))
  | .c2 dtraceAllocProbes node raw env =>
    match expandAllocate settings dtraceAllocProbes node with
    | .error _ => (memory, none)
    | .ok graph =>
      match graph.eval raw { env with memory } with
      | .slow => (memory, none)
      | .allocated oop after => (after, some oop)

/-- Sizes are positive multiples of 8; those of C2 are signed. -/
structure Request.Valid (request : Request) (memory : Memory) : Prop where
  positive : 0 < (request.size memory).toNat
  aligned : (request.size memory).toNat % 8 = 0
  signed : ∀ dtraceAllocProbes node raw env, request = .c2 dtraceAllocProbes node raw env →
    0 < (request.size memory).toInt

/-- The thread-local buffer. -/
structure Settings.Buffer (settings : Settings) (memory : Memory) : Prop where
  aligned : (settings.cursor memory).toNat % 8 = 0
  ordered : (settings.cursor memory).toNat ≤ (settings.limit memory).toNat
  bounded : (settings.limit memory).toNat < 2 ^ 47

/-- A fast allocation: the object behind its header lies between the old cursor and
the limit, and the new cursor is its end. -/
structure FastAllocation (settings : Settings) (memory : Memory) (size : BitVec 64) (after : Memory)
    (obj : BitVec 64) : Prop where
  object : obj.toNat = (settings.cursor memory).toNat + settings.extraHeader.toNat
  inside : obj.toNat + size.toNat ≤ (settings.limit memory).toNat
  cursor : (settings.cursor after).toNat = obj.toNat + size.toNat
  limit : settings.limit after = settings.limit memory
  bytes : after.bytes = if settings.setsVoBit then setMetaBit settings.voBitBase memory.bytes obj else memory.bytes

section Step

variable {settings : Settings} {memory after : Memory} {size : BitVec 64}

theorem Settings.Buffer.objectStart_toNat (buffer : settings.Buffer memory) :
    (settings.objectStart memory).toNat = (settings.cursor memory).toNat + settings.extraHeader.toNat := by
  have header := settings.extraHeader_small
  have ordered := buffer.ordered
  have bounded := buffer.bounded
  rw [Settings.objectStart, BitVec.toNat_add, Nat.mod_eq_of_lt (by omega)]

/-- The object fits the buffer as a number. -/
def Fits (settings : Settings) (memory : Memory) (size : BitVec 64) : Prop :=
  (settings.cursor memory).toNat + settings.extraHeader.toNat + size.toNat ≤ (settings.limit memory).toNat

/-- Without wrapping, the bump of the cursor is the sum of the numbers. -/
theorem fastAllocation_of_bumped (buffer : settings.Buffer memory) (fits : Fits settings memory size)
    (bumped : settings.Bumped size memory after) :
    FastAllocation settings memory size after (settings.objectStart memory) := by
  have object := buffer.objectStart_toNat
  have bounded := buffer.bounded
  unfold Fits at fits
  refine ⟨object, by omega, ?_, bumped.limit, bumped.bytes⟩
  rw [bumped.cursor, BitVec.toNat_add, Nat.mod_eq_of_lt (by omega)]

/-- `eden_allocate` checks for wrapping. -/
theorem edenRoom_iff (buffer : settings.Buffer memory) : EdenRoom settings size memory ↔ Fits settings memory size := by
  have object := buffer.objectStart_toNat
  have header := settings.extraHeader_small
  have bounded := buffer.bounded
  have ordered := buffer.ordered
  have small := size.isLt
  rw [EdenRoom, Fits, BitVec.le_def, BitVec.le_def, BitVec.toNat_add]
  omega

/-- C2's sizes are too small to wrap. -/
theorem c2Room_iff (buffer : settings.Buffer memory) (signed : size.toNat < 2 ^ 63) :
    settings.objectStart memory + size < settings.limit memory ↔
      (settings.cursor memory).toNat + settings.extraHeader.toNat + size.toNat < (settings.limit memory).toNat := by
  have object := buffer.objectStart_toNat
  have header := settings.extraHeader_small
  have bounded := buffer.bounded
  have ordered := buffer.ordered
  rw [BitVec.lt_def, BitVec.toNat_add]
  omega

/-- The emitted code of either generator takes its fast path. -/
def Request.TakesFastPath (settings : Settings) (memory : Memory) : Request → Prop
  | .eden call frame => EdenFits settings call { frame with memory }
  | .c2 dtraceAllocProbes node raw env => C2Fits settings dtraceAllocProbes node raw { env with memory }

theorem Request.perform_slow {request : Request} (slow : ¬ request.TakesFastPath settings memory) :
    request.perform settings memory = (memory, none) := by
  cases request with
  | eden call frame =>
    obtain ⟨code, emitted, ends⟩ := edenAllocate_run settings call { frame with memory }
    obtain ⟨exit, same⟩ := ends.2 slow
    simp [perform, emitted, exit, same]
  | c2 dtraceAllocProbes node raw env =>
    obtain ⟨graph, emitted, _, full⟩ := expandAllocate_eval settings dtraceAllocProbes node raw { env with memory }
    simp [perform, emitted, full slow]

theorem Request.perform_fast {request : Request} (buffer : settings.Buffer memory) (valid : request.Valid memory)
    (fast : request.TakesFastPath settings memory) :
    ∃ after, request.perform settings memory = (after, some (settings.objectStart memory)) ∧
      FastAllocation settings memory (request.size memory) after (settings.objectStart memory) := by
  cases request with
  | eden call frame =>
    obtain ⟨code, emitted, ends⟩ := edenAllocate_run settings call { frame with memory }
    obtain ⟨exit, object, bumped⟩ := ends.1 fast
    refine ⟨(X86.run code { frame with memory }).1.memory, by simp [perform, emitted, exit, object], ?_⟩
    exact fastAllocation_of_bumped buffer ((edenRoom_iff buffer).mp fast.room) bumped
  | c2 dtraceAllocProbes node raw env =>
    obtain ⟨graph, emitted, allocates, _⟩ :=
      expandAllocate_eval settings dtraceAllocProbes node raw { env with memory }
    obtain ⟨after, result, bumped⟩ := allocates fast
    have signed : (size memory (.c2 dtraceAllocProbes node raw env)).toNat < 2 ^ 63 := by
      have positive := valid.signed _ _ _ _ rfl
      have bound := BitVec.toInt_pos_iff.mp positive.le
      omega
    refine ⟨after, by simp [perform, emitted, result], ?_⟩
    exact fastAllocation_of_bumped buffer (Nat.le_of_lt ((c2Room_iff buffer signed).mp fast.room)) bumped

end Step

/-- An object returned by a fast allocation. -/
structure Block where
  start : BitVec 64
  size : BitVec 64

def performAll (settings : Settings) : Memory → List Request → Memory × List Block
  | memory, [] => (memory, [])
  | memory, request :: rest =>
    let first := request.perform settings memory
    let others := performAll settings first.1 rest
    (others.1, first.2.toList.map (⟨·, request.size memory⟩) ++ others.2)

/-- Every request of the sequence is valid where it is made. -/
def AllValid (settings : Settings) : Memory → List Request → Prop
  | _, [] => True
  | memory, request :: rest =>
    request.Valid memory ∧ AllValid settings (request.perform settings memory).1 rest

/-- The place of a block's valid-object bit. -/
def Block.bit (settings : Settings) (block : Block) : BitVec 64 × Nat :=
  (metaAddress settings.voBitBase block.start, metaShift block.start)

/-- What a sequence of fast allocations leaves behind: the blocks, headers included,
lie one after the other in the part of the buffer that was used up, and the
valid-object bits are the old ones and those of the blocks. -/
structure Laid (settings : Settings) (memory : Memory) (blocks : List Block) (after : Memory) : Prop where
  limit : settings.limit after = settings.limit memory
  grows : (settings.cursor memory).toNat ≤ (settings.cursor after).toNat
  inside : ∀ block ∈ blocks, (settings.cursor memory).toNat + settings.extraHeader.toNat ≤ block.start.toNat ∧
    block.start.toNat + block.size.toNat ≤ (settings.cursor after).toNat
  aligned : ∀ block ∈ blocks, block.start.toNat % 8 = 0 ∧ 8 ≤ block.size.toNat
  disjoint : blocks.Pairwise fun first second =>
    first.start.toNat + first.size.toNat + settings.extraHeader.toNat ≤ second.start.toNat
  bits : settings.setsVoBit = true → ∀ address position,
    (after.bytes address).getLsbD position = true ↔
      (memory.bytes address).getLsbD position = true ∨ ∃ block ∈ blocks, block.bit settings = (address, position)
  untouched : settings.setsVoBit = false → after.bytes = memory.bytes

section Sequence

variable {settings : Settings} {memory after final : Memory} {blocks : List Block} {size obj : BitVec 64}

theorem laid_nil (settings : Settings) (memory : Memory) : Laid settings memory [] memory where
  limit := rfl
  grows := le_rfl
  inside := by simp
  aligned := by simp
  disjoint := .nil
  bits := by simp
  untouched _ := rfl

theorem FastAllocation.buffer (allocation : FastAllocation settings memory size after obj)
    (buffer : settings.Buffer memory) (aligned : size.toNat % 8 = 0) : settings.Buffer after := by
  have header := settings.extraHeader_aligned
  have cursor := buffer.aligned
  obtain ⟨object, inside, next, limit, _⟩ := allocation
  refine ⟨?_, ?_, ?_⟩
  · rw [next]
    omega
  · rw [next, limit]
    exact inside
  · rw [limit]
    exact buffer.bounded

/-- One more allocation in front of a sequence. -/
theorem Laid.cons (laid : Laid settings after blocks final) (buffer : settings.Buffer memory)
    (allocation : FastAllocation settings memory size after obj) (aligned : size.toNat % 8 = 0)
    (positive : 0 < size.toNat) : Laid settings memory (⟨obj, size⟩ :: blocks) final := by
  have header := settings.extraHeader_aligned
  have cursor := buffer.aligned
  obtain ⟨object, _, next, limit, bytes⟩ := allocation
  refine ⟨laid.limit.trans limit, ?_, ?_, ?_, ?_, ?_, ?_⟩
  · have grows := laid.grows
    omega
  · intro block member
    rcases List.mem_cons.mp member with rfl | later
    · have grows := laid.grows
      exact ⟨object.ge, by rw [← next]; exact grows⟩
    · have inside := laid.inside block later
      exact ⟨by omega, inside.2⟩
  · intro block member
    rcases List.mem_cons.mp member with rfl | later
    · exact ⟨by change obj.toNat % 8 = 0; omega, by change 8 ≤ size.toNat; omega⟩
    · exact laid.aligned block later
  · refine List.pairwise_cons.mpr ⟨?_, laid.disjoint⟩
    intro block member
    have inside := (laid.inside block member).1
    change obj.toNat + size.toNat + _ ≤ _
    omega
  · intro sets address position
    rw [laid.bits sets, bytes, if_pos sets, getLsbD_setMetaBit]
    simp only [List.exists_mem_cons_iff, Block.bit, Prod.mk.injEq]
    rw [or_assoc, eq_comm (a := address), eq_comm (a := position)]
  · intro unset
    rw [laid.untouched unset, bytes, if_neg (by simp [unset])]

theorem performAll_laid {requests : List Request} (buffer : settings.Buffer memory)
    (valid : AllValid settings memory requests) :
    settings.Buffer (performAll settings memory requests).1 ∧
      Laid settings memory (performAll settings memory requests).2 (performAll settings memory requests).1 := by
  induction requests generalizing memory with
  | nil => exact ⟨buffer, laid_nil settings memory⟩
  | cons request rest ih =>
    obtain ⟨first, others⟩ := valid
    by_cases fast : request.TakesFastPath settings memory
    · obtain ⟨after, result, allocation⟩ := request.perform_fast buffer first fast
      rw [result] at others
      obtain ⟨kept, laid⟩ := ih (allocation.buffer buffer first.aligned) others
      simp only [performAll, result]
      exact ⟨kept, laid.cons buffer allocation first.aligned first.positive⟩
    · have result := Request.perform_slow fast
      rw [result] at others
      simp only [performAll, result]
      exact ih buffer others

/-- Different blocks have different bits. -/
theorem Laid.bits_nodup (laid : Laid settings memory blocks after) : (blocks.map (Block.bit settings)).Nodup := by
  rw [List.Nodup, List.pairwise_map]
  refine laid.disjoint.imp_of_mem ?_
  intro first second firstMember secondMember gap same
  have granule := same_bit_iff.mp (Prod.mk.inj same)
  have aligned := (laid.aligned first firstMember).2
  omega

end Sequence

/-- Every fast-path allocation either takes its slow path and changes nothing, or
returns the space behind the cursor; along every sequence the returned blocks are
disjoint, aligned and increasing, and exactly their valid-object bits are added. -/
theorem fast_path_allocations_disjoint (settings : Settings) :
    (∀ (memory : Memory) (request : Request), settings.Buffer memory → request.Valid memory →
      request.perform settings memory = (memory, none) ∨
      ∃ after obj, request.perform settings memory = (after, some obj) ∧
        FastAllocation settings memory (request.size memory) after obj) ∧
    (∀ (memory : Memory) (requests : List Request), settings.Buffer memory → AllValid settings memory requests →
      settings.Buffer (performAll settings memory requests).1 ∧
      Laid settings memory (performAll settings memory requests).2 (performAll settings memory requests).1 ∧
      ((performAll settings memory requests).2.map (Block.bit settings)).Nodup) := by
  constructor
  · intro memory request buffer valid
    by_cases fast : request.TakesFastPath settings memory
    · obtain ⟨after, result, allocation⟩ := request.perform_fast buffer valid fast
      exact .inr ⟨after, _, result, allocation⟩
    · exact .inl (Request.perform_slow fast)
  · intro memory requests buffer valid
    obtain ⟨kept, laid⟩ := performAll_laid buffer valid
    exact ⟨kept, laid, laid.bits_nodup⟩

/-- A buffer with room for a few objects. -/
def bufferMemory : Memory where
  thread offset :=
    if offset = immixSettings.offsets.tlabTopOffset then 0x20000000
    else if offset = immixSettings.offsets.tlabEndOffset then 0x20000040
    else 0
  bytes _ := 0

def constantCall : EdenCall where
  size := .con 24
  t1 := .rbx
  t1_ne_obj := by decide
  var_ne := by
    intro register same
    cases same

/-- A constant size by `eden_allocate`, a constant size by C2, and one that does not
fit any more. -/
def mixedRequests : List Request :=
  [.eden constantCall ⟨fun _ => 0, bufferMemory, (0, 0)⟩,
    .c2 false ⟨.conI 0, .conL 32⟩ (fun _ => false) ⟨fun _ => 0, fun _ => 0, bufferMemory⟩,
    .eden constantCall ⟨fun _ => 0, bufferMemory, (0, 0)⟩]

theorem mixed_requests_disjoint :
    (performAll immixSettings bufferMemory mixedRequests).2.map Block.start = [0x20000000, 0x20000018] ∧
      Laid immixSettings bufferMemory (performAll immixSettings bufferMemory mixedRequests).2
        (performAll immixSettings bufferMemory mixedRequests).1 := by
  have buffer : immixSettings.Buffer bufferMemory := ⟨by decide, by decide, by decide⟩
  have valid : AllValid immixSettings bufferMemory mixedRequests := by
    refine ⟨⟨by decide, by decide, ?_⟩, ⟨by decide, by decide, ?_⟩, ⟨by decide, by decide, ?_⟩, trivial⟩
    · intro dtraceAllocProbes node raw env same
      cases same
    · intro dtraceAllocProbes node raw env _
      decide
    · intro dtraceAllocProbes node raw env same
      cases same
  refine ⟨by decide, ?_⟩
  exact ((fast_path_allocations_disjoint immixSettings).2 bufferMemory mixedRequests buffer valid).2.1

end MmtkOpenJDK.Allocation
