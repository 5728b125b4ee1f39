import MmtkOpenJDK.Allocation.FastPath
import MmtkOpenJDK.Foundation.ReprC

/-! The allocators of a thread lie next to each other in its `MMTkMutatorContext`. The fast
paths address the words of one of them and the counter of allocated bytes, and leave
everything else in the thread as it is. -/

namespace MmtkOpenJDK.Allocation

open MmtkOpenJDK.Foundation X86 Ideal

section Layout

open CType (pointer long byte)

def rustDynPtr : CType := .struct [pointer, pointer]

/-! The fields `tls`, `cursor` and `limit` come first in every allocator with a bump
pointer. -/

def bumpAllocatorFields : List CType := [pointer, pointer, pointer, rustDynPtr, pointer]

/-- After five words, `hot`, `copy`, `large_cursor`, `large_limit`, `request_for_large`,
`_align`, `line_opt_tag` and `line_opt`. -/
def immixAllocatorFields : List CType :=
  [pointer, pointer, pointer, pointer, pointer, byte, byte, pointer, pointer, byte, byte.array 7, byte, long]

def largeObjectAllocatorFields : List CType := [pointer, pointer, pointer]

def mallocAllocatorFields : List CType := [pointer, pointer, pointer]

def freeListAllocatorFields : List CType := [pointer, pointer, pointer, pointer, pointer, pointer, pointer]

def markCompactAllocatorFields : List CType := [.struct bumpAllocatorFields]

/-- The struct of an allocator. -/
def Tag.struct : Tag → CType
  | .bumpPointer => .struct bumpAllocatorFields
  | .largeObject => .struct largeObjectAllocatorFields
  | .malloc => .struct mallocAllocatorFields
  | .immix => .struct immixAllocatorFields
  | .freeList => .struct freeListAllocatorFields
  | .markCompact => .struct markCompactAllocatorFields

/-- The fields that the bump pointer of an allocator is among. The mark-compact allocator
starts with a bump allocator. -/
def Tag.bumpFields : Tag → List CType
  | .bumpPointer | .markCompact => bumpAllocatorFields
  | .immix => immixAllocatorFields
  | .largeObject | .malloc | .freeList => []

/-- `MAX_BUMP_ALLOCATORS` and its siblings. -/
def Tag.maxAllocators : Tag → Nat
  | .bumpPointer => 6
  | .largeObject => 2
  | .malloc => 1
  | .immix => 2
  | .freeList => 2
  | .markCompact => 1

/-- The position of an array in `Allocators`. -/
def Tag.field : Tag → Nat
  | .bumpPointer => 0
  | .largeObject => 1
  | .malloc => 2
  | .immix => 3
  | .freeList => 4
  | .markCompact => 5

def allocatorsFields : List CType :=
  [Tag.bumpPointer, .largeObject, .malloc, .immix, .freeList, .markCompact].map fun tag =>
    tag.struct.array tag.maxAllocators

def allocatorsStruct : CType := .struct allocatorsFields

end Layout

namespace AllocatorSelector

def InRange (selector : AllocatorSelector) : Prop := selector.index < selector.tag.maxAllocators

instance (selector : AllocatorSelector) : Decidable selector.InRange := inferInstanceAs (Decidable (_ < _))

/-- Where the selected allocator starts in `Allocators`. -/
def start (selector : AllocatorSelector) : Nat :=
  CType.offsetOf allocatorsFields selector.tag.field + selector.index * selector.tag.struct.size

/-- The words of the selected allocator, from the offset of the allocators in the thread. -/
def Owns (allocatorsBaseOffset : Nat) (selector : AllocatorSelector) (offset : Nat) : Prop :=
  allocatorsBaseOffset + selector.start ≤ offset ∧
    offset + 8 ≤ allocatorsBaseOffset + selector.start + selector.tag.struct.size

theorem field_found (tag : Tag) : allocatorsFields[tag.field]? = some (tag.struct.array tag.maxAllocators) := by
  cases tag <;> rfl

theorem field_injective {tag other : Tag} (same : tag.field = other.field) : tag = other := by
  cases tag <;> cases other <;> first | rfl | cases same

/-- An allocator ends where the array of its kind does, at the latest. -/
theorem InRange.end_le {selector : AllocatorSelector} (inRange : selector.InRange) :
    selector.start + selector.tag.struct.size ≤
      CType.offsetOf allocatorsFields selector.tag.field +
        (selector.tag.struct.array selector.tag.maxAllocators).size := by
  have fits : (selector.index + 1) * selector.tag.struct.size ≤ selector.tag.maxAllocators * selector.tag.struct.size :=
    Nat.mul_le_mul_right _ inRange
  rw [Nat.succ_mul] at fits
  change _ + _ + _ ≤ _ + selector.tag.struct.size * selector.tag.maxAllocators
  rw [Nat.mul_comm selector.tag.struct.size]
  omega

theorem start_ge (selector : AllocatorSelector) :
    CType.offsetOf allocatorsFields selector.tag.field ≤ selector.start := Nat.le_add_right _ _

/-- Of two elements of one array that have a word in common, the first is not behind the second. -/
theorem Owns.index_le {base offset : Nat} {tag : Tag} {index other : Nat} (owns : Owns base ⟨tag, index⟩ offset)
    (otherOwns : Owns base ⟨tag, other⟩ offset) : index ≤ other := by
  have overlap : index * tag.struct.size < (other + 1) * tag.struct.size := by
    simp only [Owns, start] at owns otherOwns
    rw [Nat.succ_mul]
    omega
  exact Nat.le_of_lt_succ (Nat.lt_of_mul_lt_mul_right overlap)

/-- Different allocators have no word in common. -/
theorem Owns.unique {base offset : Nat} {selector other : AllocatorSelector} (inRange : selector.InRange)
    (otherInRange : other.InRange) (owns : selector.Owns base offset) (otherOwns : other.Owns base offset) :
    selector = other := by
  have words := owns
  have otherWords := otherOwns
  simp only [Owns] at words otherWords
  have ends := inRange.end_le
  have otherEnds := otherInRange.end_le
  have starts := start_ge selector
  have otherStarts := start_ge other
  rcases Nat.lt_trichotomy selector.tag.field other.tag.field with before | same | behind
  · have apart := CType.offsetOf_add_size_le (field_found selector.tag) before
    omega
  · obtain ⟨tag, index⟩ := selector
    obtain ⟨otherTag, otherIndex⟩ := other
    obtain rfl : tag = otherTag := field_injective same
    rw [Nat.le_antisymm (owns.index_le otherOwns) (otherOwns.index_le owns)]
  · have apart := CType.offsetOf_add_size_le (field_found other.tag) behind
    omega

/-- No allocator reaches beyond the struct. -/
theorem Owns.inside {base offset : Nat} {selector : AllocatorSelector} (inRange : selector.InRange)
    (owns : selector.Owns base offset) : base ≤ offset ∧ offset + 8 ≤ base + allocatorsStruct.size := by
  have ends := inRange.end_le
  have starts := start_ge selector
  have inside : _ ≤ allocatorsStruct.size := CType.offsetOf_add_size_le_struct (field_found selector.tag)
  obtain ⟨low, high⟩ := owns
  omega

/-- The offsets that the generators compute with are those of the C layout. -/
theorem layout_agrees (tag : Tag) (fast : tag.isSlow = false) :
    CType.offsetOf tag.bumpFields 1 = cursorOffset ∧ CType.offsetOf tag.bumpFields 2 = limitOffset ∧
      limitOffset + 8 ≤ tag.struct.size ∧ ∀ base index,
        getTlabTopAndEndOffsets base ⟨tag, index⟩ =
          .ok ⟨base + CType.offsetOf allocatorsFields tag.field + index * tag.struct.size + cursorOffset,
            base + CType.offsetOf allocatorsFields tag.field + index * tag.struct.size + limitOffset⟩ := by
  cases tag with
  | bumpPointer =>
    have first : CType.offsetOf allocatorsFields Tag.bumpPointer.field = offsetOfBumpPointer := by decide
    have size : Tag.bumpPointer.struct.size = sizeofBumpAllocator := by decide
    exact ⟨by decide, by decide, by decide, fun base index => by rw [first, size]; rfl⟩
  | immix =>
    have first : CType.offsetOf allocatorsFields Tag.immix.field = offsetOfImmix := by decide
    have size : Tag.immix.struct.size = sizeofImmixAllocator := by decide
    exact ⟨by decide, by decide, by decide, fun base index => by rw [first, size]; rfl⟩
  | markCompact =>
    have first : CType.offsetOf allocatorsFields Tag.markCompact.field = offsetOfMarkcompact := by decide
    have size : Tag.markCompact.struct.size = sizeofMarkCompactAllocator := by decide
    exact ⟨by decide, by decide, by decide, fun base index => by rw [first, size]; rfl⟩
  | largeObject | malloc | freeList => cases fast

/-- `get_tlab_top_and_end_offsets` finds the fields `cursor` and `limit` of the selected
allocator. -/
theorem offsets_fields {base : Nat} {selector : AllocatorSelector} {offsets : MMTkAllocatorOffsets}
    (fast : selector.tag.isSlow = false) (found : getTlabTopAndEndOffsets base selector = .ok offsets) :
    offsets.tlabTopOffset = base + selector.start + CType.offsetOf selector.tag.bumpFields 1 ∧
      offsets.tlabEndOffset = base + selector.start + CType.offsetOf selector.tag.bumpFields 2 ∧
      selector.Owns base offsets.tlabTopOffset ∧ selector.Owns base offsets.tlabEndOffset := by
  obtain ⟨cursor, limit, inside, computed⟩ := layout_agrees selector.tag fast
  cases found.symm.trans (computed base selector.index)
  have size : cursorOffset + 8 ≤ selector.tag.struct.size := Nat.le_trans (by decide) inside
  rw [cursor, limit]
  simp only [Owns, start]
  omega

end AllocatorSelector

/-- The register of a variable size is not one that the code for the valid-object bit
overwrites before the size is added to the counter. -/
def EdenCall.KeepsSize (settings : Settings) (call : EdenCall) : Prop :=
  settings.setsVoBit = true → ∀ register, call.size = .var register →
    register ≠ .rdi ∧ register ≠ .r10 ∧ register ≠ .rcx

def Request.KeepsSize (settings : Settings) : Request → Prop
  | .eden call _ => call.KeepsSize settings
  | .c2 _ _ _ _ => True

/-- What a request adds to the counter of allocated bytes: `eden_allocate` counts its objects
with their headers, and C2 counts nothing. -/
def Request.counted (settings : Settings) (memory : Memory) (request : Request) : BitVec 64 :=
  match request, (request.perform settings memory).2 with
  | .eden call frame, some _ => call.sizeInBytes frame + settings.extraHeader
  | _, _ => 0

def countedBytes (settings : Settings) : Memory → List Request → BitVec 64
  | _, [] => 0
  | memory, request :: rest =>
    request.counted settings memory + countedBytes settings (request.perform settings memory).1 rest

/-- The words of the thread after fast paths: the cursor may differ, and the counter has
grown. -/
structure ThreadKept (settings : Settings) (memory after : Memory) (counted : BitVec 64) : Prop where
  others : ∀ offset, (settings.HasFastPath → offset ≠ settings.offsets.tlabTopOffset) →
    offset ≠ settings.allocatedBytesOffset → after.thread offset = memory.thread offset
  counter : after.thread settings.allocatedBytesOffset = memory.thread settings.allocatedBytesOffset + counted

section Frame

variable {settings : Settings} {memory after final : Memory} {counted more : BitVec 64}

theorem ThreadKept.refl (settings : Settings) (memory : Memory) : ThreadKept settings memory memory 0 :=
  ⟨fun _ _ _ => rfl, (BitVec.add_zero _).symm⟩

theorem ThreadKept.trans (first : ThreadKept settings memory after counted)
    (second : ThreadKept settings after final more) : ThreadKept settings memory final (counted + more) where
  others offset top counter := (second.others offset top counter).trans (first.others offset top counter)
  counter := by rw [second.counter, first.counter, BitVec.add_assoc]

section Eden

variable {call : EdenCall} {state : State}

/-- The part of the code in front of the counter. -/
def prepareCode (settings : Settings) (call : EdenCall) (offsets : MMTkAllocatorOffsets) : List (Instr Label) :=
  endCode settings call offsets ++
    .jcc .below .slowCase :: .cmpThread call.t1 offsets.tlabEndOffset :: .jcc .above .slowCase ::
    .storeThread offsets.tlabTopOffset call.t1 :: if settings.setsVoBit then voBitCode settings else []

theorem bumpCode_eq (settings : Settings) (call : EdenCall) (offsets : MMTkAllocatorOffsets) :
    bumpCode settings call offsets = prepareCode settings call offsets ++ counterCode settings call := by
  simp [bumpCode, prepareCode, commitCode]

theorem prepareCode_thread : ∀ instr ∈ prepareCode settings call settings.offsets,
    instr.threadWord = none ∨ instr.threadWord = some settings.offsets.tlabTopOffset := by
  unfold prepareCode endCode voBitCode
  cases call.size <;> by_cases header : settings.selector.tag = .markCompact <;> cases settings.setsVoBit <;>
    simp [header, Instr.threadWord]

theorem prepareCode_target {register : Reg} (isSize : call.size = .var register) (keeps : call.KeepsSize settings) :
    ∀ instr ∈ prepareCode settings call settings.offsets, instr.target ≠ some register := by
  have separate := call.var_ne register isSize
  cases bit : settings.setsVoBit with
  | false =>
    by_cases header : settings.selector.tag = .markCompact <;>
      simp [prepareCode, endCode, isSize, bit, header, Instr.target, separate.1.symm, separate.2.symm]
  | true =>
    have kept := keeps bit register isSize
    by_cases header : settings.selector.tag = .markCompact <;>
      simp [prepareCode, endCode, voBitCode, isSize, bit, header, Instr.target, separate.1.symm, separate.2.symm,
        kept.1.symm, kept.2.1.symm, kept.2.2.symm]

/-- The size that is added is the one that was asked for. -/
theorem sizeInBytes_prepared (keeps : call.KeepsSize settings) {check : List (Instr Label)}
    (passive : ∀ instr ∈ check, instr.target = none) :
    call.sizeInBytes (applyAll (check ++ prepareCode settings call settings.offsets) state) =
      call.sizeInBytes state := by
  unfold EdenCall.sizeInBytes
  cases size : call.size with
  | con bytes => rfl
  | var register =>
    refine applyAll_regs ?_
    intro instr member
    rcases List.mem_append.mp member with early | late
    · simp [passive instr early]
    · exact prepareCode_target size keeps instr late

theorem counterCode_thread (settings : Settings) (call : EdenCall) (state : State) :
    (applyAll (counterCode settings call) state).memory.thread settings.allocatedBytesOffset =
      state.memory.thread settings.allocatedBytesOffset + (call.sizeInBytes state + settings.extraHeader) := by
  have header := signExtend_setWidth settings.extraHeader_small
  unfold counterCode EdenCall.sizeInBytes
  cases call.size with
  | con bytes => simp [applyAll, Instr.apply, header, BitVec.add_assoc]
  | var register => simp [applyAll, Instr.apply, header, BitVec.add_assoc]

/-- The code that is emitted when the fast path can be taken: a check of the size and the
bump allocation. -/
theorem edenAllocate_fast (fits : EdenFits settings call state) :
    ∃ check, (∀ instr ∈ check, instr.threadWord = none ∧ instr.target = none) ∧
      edenAllocate settings call = .ok (check ++ bumpCode settings call settings.offsets) := by
  have enabled := fits.enabled
  have passes := fits.size
  unfold edenAllocate afterSizeCheck
  rw [if_neg (by simp [enabled.1])]
  cases size : call.size with
  | con bytes =>
    simp only [edenSizePasses, size] at passes
    refine ⟨[], by simp, ?_⟩
    simp [BitVec.not_lt.mpr passes, enabled.2, enabled.offsets_eq]
  | var register =>
    refine ⟨[.cmpImm register (settings.largestSize.setWidth 32), .jcc .aboveEqual .slowCase],
      by simp [Instr.threadWord, Instr.target], ?_⟩
    simp [enabled.2, enabled.offsets_eq]

theorem threadKept_eden (fits : EdenFits settings call state) (keeps : call.KeepsSize settings)
    {code : List (Instr Label)} (emitted : edenAllocate settings call = .ok code)
    (ends : (run code state).2 = none) :
    ThreadKept settings state.memory (run code state).1.memory (call.sizeInBytes state + settings.extraHeader) := by
  obtain ⟨check, passive, same⟩ := edenAllocate_fast fits
  obtain ⟨_, counterTop, _⟩ := fits.enabled.separate
  rw [emitted, Except.ok.injEq, bumpCode_eq, ← List.append_assoc] at same
  rw [run_to_end ends, same, applyAll_append]
  have prepared (offset : Nat) (top : offset ≠ settings.offsets.tlabTopOffset) :
      (applyAll (check ++ prepareCode settings call settings.offsets) state).memory.thread offset =
        state.memory.thread offset := by
    refine applyAll_thread ?_
    intro instr member
    rcases List.mem_append.mp member with early | late
    · simp [(passive instr early).1]
    · rcases prepareCode_thread instr late with none | cursor
      · simp [none]
      · simp [cursor, top.symm]
  constructor
  · intro offset top counter
    rw [← prepared offset (top fits.enabled)]
    exact (counterCode_apply settings call _).2.2 offset counter
  · rw [counterCode_thread, sizeInBytes_prepared keeps fun instr member => (passive instr member).2,
      prepared _ counterTop]

end Eden

section C2

variable {dtraceAllocProbes : Bool} {node : AllocateNode} {raw : BitVec 32 → Bool} {env : Env} {oop : BitVec 64}

theorem fastOopRawmem_threadWords (settings : Settings) (node : AllocateNode) (offsets : MMTkAllocatorOffsets) :
    (fastOopRawmem settings node offsets).threadWords = [offsets.tlabTopOffset] := by
  unfold fastOopRawmem
  cases settings.setsVoBit <;> rfl

theorem bumpGraph_memory {offsets : MMTkAllocatorOffsets}
    (result : (bumpGraph settings node offsets).eval raw env = .allocated oop after) :
    after = (fastOopRawmem settings node offsets).eval env := by
  rw [bumpGraph, Graph.eval] at result
  split at result
  · cases result
  · cases result
    rfl

theorem threadKept_c2 {graph : Graph} (emitted : expandAllocate settings dtraceAllocProbes node = .ok graph)
    (result : graph.eval raw env = .allocated oop after) : ThreadKept settings env.memory after 0 := by
  unfold expandAllocate at emitted
  by_cases always : (slowPathDecision settings dtraceAllocProbes node).alwaysSlow = true
  · simp only [always, ↓reduceIte, Except.ok.injEq] at emitted
    subst emitted
    cases result
  · have attempting : (slowPathDecision settings dtraceAllocProbes node).alwaysSlow = false := by simpa using always
    obtain ⟨_, fast⟩ := fast_of_attempting attempting
    have stored : after = (fastOopRawmem settings node settings.offsets).eval env := by
      simp only [attempting, fast.offsets_eq] at emitted
      cases test : (slowPathDecision settings dtraceAllocProbes node).initialSlowTest with
      | none =>
        simp only [test] at emitted
        cases emitted
        exact bumpGraph_memory result
      | some condition =>
        simp only [test] at emitted
        cases emitted
        rw [Graph.eval] at result
        split at result
        · cases result
        · exact bumpGraph_memory result
    have others (offset : Nat) (top : offset ≠ settings.offsets.tlabTopOffset) :
        after.thread offset = env.memory.thread offset := by
      rw [stored]
      exact Node.eval_thread _ (by simpa [fastOopRawmem_threadWords] using top)
    refine ⟨fun offset top _ => others offset (top fast), ?_⟩
    rw [others _ fast.separate.2.1]
    exact (BitVec.add_zero _).symm

end C2

/-- One request. -/
theorem Request.threadKept {request : Request} (keeps : request.KeepsSize settings) :
    ThreadKept settings memory (request.perform settings memory).1 (request.counted settings memory) := by
  by_cases fast : request.TakesFastPath settings memory
  · cases request with
    | eden call frame =>
      obtain ⟨code, emitted, ends⟩ := edenAllocate_run settings call { frame with memory }
      obtain ⟨exit, _, _⟩ := ends.1 fast
      have size : call.sizeInBytes { frame with memory } = call.sizeInBytes frame := rfl
      simpa [counted, perform, emitted, exit, size] using threadKept_eden fast keeps emitted exit
    | c2 dtraceAllocProbes node raw env =>
      obtain ⟨graph, emitted, allocates, _⟩ :=
        expandAllocate_eval settings dtraceAllocProbes node raw { env with memory }
      obtain ⟨after, result, _⟩ := allocates fast
      simpa [counted, perform, emitted, result] using threadKept_c2 emitted result
  · have slow := Request.perform_slow fast
    have nothing : request.counted settings memory = 0 := by
      unfold counted
      rw [slow]
      cases request <;> rfl
    rw [slow, nothing]
    exact .refl settings memory

/-- Any sequence of requests. -/
theorem performAll_threadKept {requests : List Request} (keeps : ∀ request ∈ requests, request.KeepsSize settings) :
    ThreadKept settings memory (performAll settings memory requests).1 (countedBytes settings memory requests) := by
  induction requests generalizing memory with
  | nil => exact .refl settings memory
  | cons request rest ih =>
    exact (Request.threadKept (keeps request List.mem_cons_self)).trans
      (ih fun other member => keeps other (List.mem_cons_of_mem _ member))

end Frame

/-- Along every sequence of fast-path allocations by either generator: every other allocator
of the thread keeps all its words, the selected one keeps all but its cursor, outside of the
allocators only the counter changes, and the counter grows by what `eden_allocate` handed
out. -/
theorem fast_paths_keep_to_their_allocator (settings : Settings) (memory : Memory) (requests : List Request)
    (inRange : settings.selector.InRange)
    (outside : settings.allocatedBytesOffset + 8 ≤ settings.allocatorsBaseOffset ∨
      settings.allocatorsBaseOffset + allocatorsStruct.size ≤ settings.allocatedBytesOffset)
    (keeps : ∀ request ∈ requests, request.KeepsSize settings) :
    let after := (performAll settings memory requests).1
    (∀ other : AllocatorSelector, other.InRange → other ≠ settings.selector → ∀ offset,
      other.Owns settings.allocatorsBaseOffset offset → after.thread offset = memory.thread offset) ∧
    (∀ offset, settings.selector.Owns settings.allocatorsBaseOffset offset →
      offset ≠ settings.allocatorsBaseOffset + settings.selector.start +
        CType.offsetOf settings.selector.tag.bumpFields 1 → after.thread offset = memory.thread offset) ∧
    (∀ offset, offset + 8 ≤ settings.allocatorsBaseOffset ∨
        settings.allocatorsBaseOffset + allocatorsStruct.size ≤ offset →
      offset ≠ settings.allocatedBytesOffset → after.thread offset = memory.thread offset) ∧
    after.thread settings.allocatedBytesOffset =
      memory.thread settings.allocatedBytesOffset + countedBytes settings memory requests := by
  intro after
  have kept : ThreadKept settings memory after (countedBytes settings memory requests) := performAll_threadKept keeps
  have counter {selector : AllocatorSelector} (valid : selector.InRange) {offset : Nat}
      (owns : selector.Owns settings.allocatorsBaseOffset offset) : offset ≠ settings.allocatedBytesOffset := by
    have inside := owns.inside valid
    omega
  refine ⟨?_, ?_, ?_, kept.counter⟩
  · intro other valid different offset owns
    refine kept.others offset ?_ (counter valid owns)
    intro fast same
    have cursor := (AllocatorSelector.offsets_fields fast.2 fast.offsets_eq).2.2.1
    exact different (AllocatorSelector.Owns.unique valid inRange owns (same ▸ cursor))
  · intro offset owns different
    refine kept.others offset ?_ (counter inRange owns)
    intro fast same
    exact different (same.trans (AllocatorSelector.offsets_fields fast.2 fast.offsets_eq).1)
  · intro offset beyond different
    refine kept.others offset ?_ different
    intro fast same
    have cursor := (AllocatorSelector.offsets_fields fast.2 fast.offsets_eq).2.2.1
    have inside := cursor.inside inRange
    omega

theorem rdx_separate (register : Reg) (same : EdenSize.var .rdx = .var register) :
    register ≠ .rax ∧ register ≠ .rbx := by
  cases same
  decide

def variableCall : EdenCall where
  size := .var .rdx
  t1 := constantCall.t1
  t1_ne_obj := constantCall.t1_ne_obj
  var_ne := rdx_separate

/-- The requests of before, and 8 bytes with the size in `rdx`. -/
def countedRequests : List Request :=
  mixedRequests ++ [.eden variableCall ⟨fun register => if register = .rdx then 8 else 0, bufferMemory, (0, 0)⟩]

/-- Of the three objects allocated, the two of `eden_allocate` are counted, and the second
Immix allocator keeps its cursor. -/
theorem mixed_requests_counted :
    (performAll immixSettings bufferMemory countedRequests).1.thread 0x100 = 24 + 8 ∧
      ∀ offset, AllocatorSelector.Owns 0x400 ⟨.immix, 1⟩ offset →
        (performAll immixSettings bufferMemory countedRequests).1.thread offset = bufferMemory.thread offset := by
  have keeps : ∀ request ∈ countedRequests, request.KeepsSize immixSettings := by
    intro request member
    simp only [countedRequests, mixedRequests, List.cons_append, List.nil_append, List.mem_cons, List.not_mem_nil,
      or_false] at member
    rcases member with rfl | rfl | rfl | rfl
    · intro _ register same
      cases same
    · trivial
    · intro _ register same
      cases same
    · intro _ register same
      cases same
      decide
  obtain ⟨others, -, -, counter⟩ := fast_paths_keep_to_their_allocator immixSettings bufferMemory countedRequests
    (by decide) (.inl (by decide)) keeps
  refine ⟨counter.trans (by decide), ?_⟩
  exact others ⟨.immix, 1⟩ (by decide) (by decide)

end MmtkOpenJDK.Allocation
