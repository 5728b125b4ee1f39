import MmtkOpenJDK.Allocation.Settings

/-! `MMTkBarrierSetAssembler::eden_allocate`: the code it emits for constant and for
variable sizes, and what running that code does. -/

namespace MmtkOpenJDK.Allocation

open MmtkOpenJDK.Foundation X86

inductive Label where
  | slowCase
  deriving DecidableEq

/-- `con_size_in_bytes`, or the register `var_size_in_bytes`. -/
inductive EdenSize where
  | con (bytes : BitVec 32)
  | var (register : Reg)

/-- The operands of a call. The object register is `rax`; the source asserts that
the registers are different. -/
structure EdenCall where
  size : EdenSize
  t1 : Reg
  t1_ne_obj : t1 ≠ .rax
  var_ne : ∀ register, size = .var register → register ≠ .rax ∧ register ≠ t1

/-- The size in bytes when the code runs. -/
def EdenCall.sizeInBytes (call : EdenCall) (state : State) : BitVec 64 :=
  match call.size with
  | .con bytes => bytes.signExtend 64
  | .var register => state.regs register

section Code

variable (settings : Settings) (call : EdenCall) (offsets : MMTkAllocatorOffsets)

/-- Load the cursor and compute the object and its end. -/
def endCode : List (Instr Label) :=
  .loadThread .rax offsets.tlabTopOffset ::
    (if settings.selector.tag = .markCompact then [.addImm .rax (settings.extraHeader.setWidth 32)] else []) ++
    [match call.size with
      | .con bytes => .leaDisp call.t1 .rax bytes
      | .var register => .leaIndex call.t1 .rax register,
    .cmp call.t1 .rax]

/-- Set the valid-object bit of the object. -/
def voBitCode : List (Instr Label) :=
  let tmp3 := Reg.rdi
  let tmp2 := Reg.r10
  [.mov tmp3 .rax, .shrImm tmp3 6, .movImm tmp2 settings.voBitBase, .movbLoad tmp2 tmp2 tmp3,
    .mov .rcx .rax, .shrImm .rcx 3, .andImm .rcx 7, .movImm tmp3 1, .shlCl tmp3, .or tmp2 tmp3,
    .mov tmp3 .rax, .shrImm tmp3 6, .movImm .rcx settings.voBitBase, .movbStore .rcx tmp3 tmp2]

/-- `incr_allocated_bytes`. -/
def counterCode : List (Instr Label) :=
  [match call.size with
    | .con bytes => .addThreadImm settings.allocatedBytesOffset bytes
    | .var register => .addThread settings.allocatedBytesOffset register,
  .addThreadImm settings.allocatedBytesOffset (settings.extraHeader.setWidth 32)]

/-- Store the new cursor. -/
def commitCode : List (Instr Label) :=
  .storeThread offsets.tlabTopOffset call.t1 ::
    (if settings.setsVoBit then voBitCode settings else []) ++ counterCode settings call

def bumpCode : List (Instr Label) :=
  endCode settings call offsets ++
    .jcc .below .slowCase :: .cmpThread call.t1 offsets.tlabEndOffset :: .jcc .above .slowCase ::
    commitCode settings call offsets

/-- What follows the size check. -/
def afterSizeCheck (sizeCheck : List (Instr Label)) : Except String (List (Instr Label)) :=
  if settings.selector.tag.isSlow then .ok (sizeCheck ++ [.jmp .slowCase])
  else
    match getTlabTopAndEndOffsets settings.allocatorsBaseOffset settings.selector with
    | .ok offsets => .ok (sizeCheck ++ bumpCode settings call offsets)
    | .error message => .error message

/-- `eden_allocate`. The immediate operand of `cmpptr` has 32 bits. -/
def edenAllocate : Except String (List (Instr Label)) :=
  if settings.enableAllocationFastpath = false then .ok [.jmp .slowCase]
  else
    match call.size with
    | .con bytes =>
      if settings.largestSize < bytes.signExtend 64 then .ok [.jmp .slowCase]
      else afterSizeCheck settings call []
    | .var register =>
      afterSizeCheck settings call
        [.cmpImm register (settings.largestSize.setWidth 32), .jcc .aboveEqual .slowCase]

/-- The emitted code lets this size pass. -/
def edenSizePasses (state : State) : Prop :=
  match call.size with
  | .con bytes => bytes.signExtend 64 ≤ settings.largestSize
  | .var register => state.regs register < (settings.largestSize.setWidth 32).signExtend 64

end Code

section Spec

variable {settings : Settings} {call : EdenCall} {offsets : MMTkAllocatorOffsets} {state : State}

theorem signExtend_setWidth {value : BitVec 64} (small : value.toNat < 2 ^ 31) :
    (value.setWidth 32).signExtend 64 = value := by
  have positive : (value.setWidth 32).msb = false := by
    rw [BitVec.msb_eq_false_iff_two_mul_lt, BitVec.toNat_setWidth]
    omega
  rw [BitVec.signExtend_eq_setWidth_of_msb_false positive]
  apply BitVec.eq_of_toNat_eq
  rw [BitVec.toNat_setWidth, BitVec.toNat_setWidth]
  omega

theorem endCode_straight : ∀ instr ∈ endCode settings call offsets, instr.isJump = false := by
  unfold endCode
  cases call.size <;> by_cases header : settings.selector.tag = .markCompact <;> simp [header, Instr.isJump]

theorem commitCode_straight : ∀ instr ∈ commitCode settings call offsets, instr.isJump = false := by
  unfold commitCode counterCode voBitCode
  cases call.size <;> cases settings.setsVoBit <;> simp [Instr.isJump]

theorem endCode_apply (settings : Settings) (call : EdenCall) (state : State) :
    (applyAll (endCode settings call settings.offsets) state).regs .rax = settings.objectStart state.memory ∧
    (applyAll (endCode settings call settings.offsets) state).regs call.t1 =
      settings.objectStart state.memory + call.sizeInBytes state ∧
    (applyAll (endCode settings call settings.offsets) state).memory = state.memory ∧
    (applyAll (endCode settings call settings.offsets) state).compared =
      (settings.objectStart state.memory + call.sizeInBytes state, settings.objectStart state.memory) := by
  have header := signExtend_setWidth settings.extraHeader_small
  obtain ⟨size, t1, t1_ne, var_ne⟩ := call
  cases size with
  | con bytes =>
    by_cases compact : settings.selector.tag = .markCompact
    · simp [applyAll, endCode, Instr.apply, compact, t1_ne.symm, header, Settings.objectStart, Settings.cursor,
        EdenCall.sizeInBytes]
    · simp [applyAll, endCode, Instr.apply, compact, t1_ne.symm, Settings.objectStart, Settings.cursor,
        EdenCall.sizeInBytes, Settings.extraHeader]
  | var register =>
    have different := var_ne register rfl
    by_cases compact : settings.selector.tag = .markCompact
    · simp [applyAll, endCode, Instr.apply, compact, t1_ne.symm, header, Settings.objectStart, Settings.cursor,
        EdenCall.sizeInBytes, different]
    · simp [applyAll, endCode, Instr.apply, compact, t1_ne.symm, Settings.objectStart, Settings.cursor,
        EdenCall.sizeInBytes, Settings.extraHeader, different]

theorem voBitCode_apply (settings : Settings) (state : State) :
    (applyAll (voBitCode settings) state).regs .rax = state.regs .rax ∧
    (applyAll (voBitCode settings) state).memory =
      { state.memory with bytes := setMetaBit settings.voBitBase state.memory.bytes (state.regs .rax) } := by
  constructor
  · simp [applyAll, voBitCode, Instr.apply]
  · have position : ((state.regs .rax).toNat >>> 3 &&& 7) % 64 = metaShift (state.regs .rax) :=
      masked_shift rfl (by decide)
    simp [applyAll, voBitCode, Instr.apply, State.byteAt, State.shiftCount, position, setMetaBit, metaAddress,
      BitVec.twoPow]

theorem counterCode_apply (settings : Settings) (call : EdenCall) (state : State) :
    (applyAll (counterCode settings call) state).regs = state.regs ∧
    (applyAll (counterCode settings call) state).memory.bytes = state.memory.bytes ∧
    ∀ offset, offset ≠ settings.allocatedBytesOffset →
      (applyAll (counterCode settings call) state).memory.thread offset = state.memory.thread offset := by
  unfold counterCode
  cases call.size with
  | con bytes =>
    refine ⟨rfl, rfl, ?_⟩
    intro offset different
    simp [applyAll, Instr.apply, different]
  | var register =>
    refine ⟨rfl, rfl, ?_⟩
    intro offset different
    simp [applyAll, Instr.apply, different]

/-- Run in a state that holds the object and its end, the rest of the code bumps the
cursor and keeps the object. -/
theorem commitCode_apply {memory : Memory} (fast : settings.HasFastPath) {size : BitVec 64}
    (same : state.memory = memory) (object : state.regs .rax = settings.objectStart memory)
    (finish : state.regs call.t1 = settings.objectStart memory + size) :
    (applyAll (commitCode settings call settings.offsets) state).regs .rax = settings.objectStart memory ∧
      settings.Bumped size memory (applyAll (commitCode settings call settings.offsets) state).memory := by
  obtain ⟨topEnd, counterTop, counterEnd⟩ := fast.separate
  subst same
  let stored := state.setThread settings.offsets.tlabTopOffset (state.regs call.t1)
  let marked := if settings.setsVoBit then applyAll (voBitCode settings) stored else stored
  have split : applyAll (commitCode settings call settings.offsets) state = applyAll (counterCode settings call) marked := by
    by_cases bit : settings.setsVoBit = true
    · simp [applyAll, commitCode, bit, marked, stored, Instr.apply]
    · simp [applyAll, commitCode, bit, marked, stored, Instr.apply]
  have kept : marked.regs .rax = settings.objectStart state.memory ∧
      marked.memory.thread = stored.memory.thread ∧
      marked.memory.bytes = if settings.setsVoBit then
        setMetaBit settings.voBitBase state.memory.bytes (settings.objectStart state.memory)
        else state.memory.bytes := by
    obtain ⟨register, memory⟩ := voBitCode_apply settings stored
    by_cases bit : settings.setsVoBit = true
    · simp [marked, bit, register, memory, stored, object]
    · simp [marked, bit, stored, object]
  obtain ⟨registers, bytes, thread⟩ := counterCode_apply settings call marked
  rw [split, registers]
  refine ⟨kept.1, ⟨?_, ?_, bytes.trans kept.2.2⟩⟩
  · rw [Settings.cursor, thread _ counterTop.symm, kept.2.1]
    simp [stored, finish]
  · rw [Settings.limit, thread _ counterEnd.symm, kept.2.1]
    simp [stored, Settings.limit, topEnd.symm]

/-- The object does not wrap around and ends within the buffer. -/
def EdenRoom (settings : Settings) (size : BitVec 64) (memory : Memory) : Prop :=
  settings.objectStart memory ≤ settings.objectStart memory + size ∧
    settings.objectStart memory + size ≤ settings.limit memory

/-- The emitted code takes its fast path. -/
structure EdenFits (settings : Settings) (call : EdenCall) (state : State) : Prop where
  enabled : settings.HasFastPath
  size : edenSizePasses settings call state
  room : EdenRoom settings (call.sizeInBytes state) state.memory

/-- The two ways the emitted code can end. -/
def Ends (settings : Settings) (call : EdenCall) (state : State) (fits : Prop) (result : State × Option Label) : Prop :=
  (fits → result.2 = none ∧ result.1.regs .rax = settings.objectStart state.memory ∧
    settings.Bumped (call.sizeInBytes state) state.memory result.1.memory) ∧
  (¬ fits → result.2 = some .slowCase ∧ result.1.memory = state.memory)

theorem bumpCode_run (call : EdenCall) (state : State) (fast : settings.HasFastPath) :
    Ends settings call state (EdenRoom settings (call.sizeInBytes state) state.memory)
      (run (bumpCode settings call settings.offsets) state) := by
  obtain ⟨object, finish, memory, compared⟩ := endCode_apply settings call state
  rw [bumpCode, run_append endCode_straight]
  generalize applyAll (endCode settings call settings.offsets) state = ready at object finish memory compared ⊢
  have against : ((Instr.cmpThread call.t1 settings.offsets.tlabEndOffset : Instr Label).apply ready).compared =
      (settings.objectStart state.memory + call.sizeInBytes state, settings.limit state.memory) := by
    simp [Instr.apply, finish, memory, Settings.limit]
  rw [run_jcc, compared, run_cons rfl, run_jcc, against]
  constructor
  · rintro ⟨forward, inside⟩
    rw [if_neg (by simpa using forward), if_neg (by simpa using inside), ← List.append_nil (commitCode _ _ _),
      run_append commitCode_straight]
    exact ⟨rfl, commitCode_apply fast memory object finish⟩
  · intro outside
    by_cases wraps : settings.objectStart state.memory + call.sizeInBytes state < settings.objectStart state.memory
    · rw [if_pos (by simpa using wraps)]
      exact ⟨rfl, memory⟩
    · have beyond : settings.limit state.memory < settings.objectStart state.memory + call.sizeInBytes state := by
        rw [← BitVec.not_le]
        exact fun inside => outside ⟨BitVec.not_lt.mp wraps, inside⟩
      rw [if_neg (by simpa using wraps), if_pos (by simpa using beyond)]
      exact ⟨rfl, memory⟩

/-- The check of a variable size changes no register and no memory. -/
theorem bumpCode_run_compared (fast : settings.HasFastPath) (left right : BitVec 64) :
    Ends settings call state (EdenRoom settings (call.sizeInBytes state) state.memory)
      (run (bumpCode settings call settings.offsets) (state.compare left right)) := by
  have same : call.sizeInBytes (state.compare left right) = call.sizeInBytes state := by
    unfold EdenCall.sizeInBytes
    cases call.size <;> rfl
  have ends := bumpCode_run call (state.compare left right) fast
  rw [same] at ends
  simpa [Ends, same] using ends

theorem Ends.slow {fits : Prop} (never : ¬ fits) {final : State} (memory : final.memory = state.memory) :
    Ends settings call state fits (final, some .slowCase) :=
  ⟨fun holds => absurd holds never, fun _ => ⟨rfl, memory⟩⟩

theorem Ends.congr {fits fits' : Prop} {result : State × Option Label} (ends : Ends settings call state fits result)
    (same : fits ↔ fits') : Ends settings call state fits' result :=
  ⟨fun holds => ends.1 (same.mpr holds), fun never => ends.2 (fun holds => never (same.mp holds))⟩

/-- The code for the part behind the size check, given what the check does. -/
theorem afterSizeCheck_run {check : List (Instr Label)} (enabled : settings.enableAllocationFastpath = true)
    (passes : edenSizePasses settings call state → ∀ rest, ∃ left right,
      run (check ++ rest) state = run rest (state.compare left right))
    (fails : ¬ edenSizePasses settings call state → ∀ rest, ∃ final,
      run (check ++ rest) state = (final, some .slowCase) ∧ final.memory = state.memory) :
    ∃ code, afterSizeCheck settings call check = .ok code ∧
      Ends settings call state (EdenFits settings call state) (run code state) := by
  unfold afterSizeCheck
  by_cases slow : settings.selector.tag.isSlow = true
  · rw [if_pos slow]
    refine ⟨_, rfl, ?_⟩
    have never : ¬ EdenFits settings call state := by
      intro fits
      rw [fits.enabled.2] at slow
      cases slow
    by_cases size : edenSizePasses settings call state
    · obtain ⟨left, right, same⟩ := passes size [.jmp .slowCase]
      rw [same]
      exact Ends.slow never rfl
    · obtain ⟨final, same, memory⟩ := fails size [.jmp .slowCase]
      rw [same]
      exact Ends.slow never memory
  · have fast : settings.HasFastPath := ⟨enabled, by simpa using slow⟩
    rw [if_neg slow, fast.offsets_eq]
    refine ⟨_, rfl, ?_⟩
    by_cases size : edenSizePasses settings call state
    · obtain ⟨left, right, same⟩ := passes size (bumpCode settings call settings.offsets)
      rw [same]
      exact (bumpCode_run_compared fast left right).congr ⟨fun room => ⟨fast, size, room⟩, fun fits => fits.room⟩
    · obtain ⟨final, same, memory⟩ := fails size (bumpCode settings call settings.offsets)
      rw [same]
      exact Ends.slow (fun fits => size fits.size) memory

/-- The emitted code takes its fast path exactly when the size passes the check and
the object fits the buffer, and changes nothing otherwise. -/
theorem edenAllocate_run (settings : Settings) (call : EdenCall) (state : State) :
    ∃ code, edenAllocate settings call = .ok code ∧
      Ends settings call state (EdenFits settings call state) (run code state) := by
  unfold edenAllocate
  by_cases disabled : settings.enableAllocationFastpath = false
  · rw [if_pos disabled]
    refine ⟨_, rfl, Ends.slow ?_ rfl⟩
    intro fits
    rw [fits.enabled.1] at disabled
    cases disabled
  · rw [if_neg disabled]
    have enabled : settings.enableAllocationFastpath = true := by simpa using disabled
    cases size : call.size with
    | con bytes =>
      by_cases large : settings.largestSize < bytes.signExtend 64
      · simp only [if_pos large]
        refine ⟨_, rfl, Ends.slow ?_ rfl⟩
        intro fits
        have passes := fits.size
        simp only [edenSizePasses, size] at passes
        exact absurd large (BitVec.not_lt.mpr passes)
      · simp only [if_neg large]
        have passes : edenSizePasses settings call state := by
          simpa [edenSizePasses, size] using large
        refine afterSizeCheck_run enabled ?_ (fun fails => absurd passes fails)
        intro _ rest
        exact ⟨state.compared.1, state.compared.2, rfl⟩
    | var register =>
      have check : ∀ rest : List (Instr Label),
          run ([.cmpImm register (settings.largestSize.setWidth 32), .jcc .aboveEqual .slowCase] ++ rest) state =
            if (settings.largestSize.setWidth 32).signExtend 64 ≤ state.regs register then
              (state.compare (state.regs register) ((settings.largestSize.setWidth 32).signExtend 64), some .slowCase)
            else run rest (state.compare (state.regs register) ((settings.largestSize.setWidth 32).signExtend 64)) := by
        intro rest
        rw [List.cons_append, run_cons rfl, List.cons_append, run_jcc]
        simp [Instr.apply]
      refine afterSizeCheck_run enabled ?_ ?_
      · intro passes rest
        have small : state.regs register < (settings.largestSize.setWidth 32).signExtend 64 := by
          simpa [edenSizePasses, size] using passes
        exact ⟨_, _, (check rest).trans (if_neg (BitVec.not_le.mpr small))⟩
      · intro fails rest
        have large : (settings.largestSize.setWidth 32).signExtend 64 ≤ state.regs register := by
          simpa [edenSizePasses, size] using fails
        exact ⟨_, (check rest).trans (if_pos large), rfl⟩

end Spec

end MmtkOpenJDK.Allocation
