import MmtkOpenJDK.Foundation.ByteMemory

/-! Straight x86-64 code with jumps to labels outside of it. The words of the
current thread's structure are named by their offset from the thread register and
kept apart from the rest of memory. -/

namespace MmtkOpenJDK.Foundation.X86

inductive Reg where
  | rax | rcx | rdx | rbx | rsp | rbp | rsi | rdi
  | r8 | r9 | r10 | r11 | r12 | r13 | r14 | r15
  deriving DecidableEq

structure Memory where
  thread : Nat → BitVec 64
  bytes : ByteMemory 64

/-- `compared` holds the operands of the last comparison. -/
structure State where
  regs : Reg → BitVec 64
  memory : Memory
  compared : BitVec 64 × BitVec 64

inductive Condition where
  | equal
  | notEqual
  | below
  | above
  | aboveEqual

def Condition.holds : Condition → BitVec 64 × BitVec 64 → Bool
  | .equal, (left, right) => left == right
  | .notEqual, (left, right) => left != right
  | .below, (left, right) => left.ult right
  | .above, (left, right) => right.ult left
  | .aboveEqual, (left, right) => right.ule left

/-- Immediate operands of 32 bits are sign-extended. Byte addresses are a base and
an index register. -/
inductive Instr (Label : Type) where
  | mov (dst src : Reg)
  | movImm (dst : Reg) (value : BitVec 64)
  | movl (dst src : Reg)
  | movbLoad (dst base index : Reg)
  | movzblLoad (dst base index : Reg)
  | movbStore (base index src : Reg)
  | loadThread (dst : Reg) (offset : Nat)
  | storeThread (offset : Nat) (src : Reg)
  | addThread (offset : Nat) (src : Reg)
  | addThreadImm (offset : Nat) (value : BitVec 32)
  | addImm (dst : Reg) (value : BitVec 32)
  | andImm (dst : Reg) (value : BitVec 32)
  | or (dst src : Reg)
  | shrImm (dst : Reg) (count : Nat)
  | shrCl (dst : Reg)
  | shlCl (dst : Reg)
  | leaDisp (dst base : Reg) (disp : BitVec 32)
  | leaIndex (dst base index : Reg)
  | cmp (left right : Reg)
  | cmpImm (left : Reg) (value : BitVec 32)
  | cmpThread (left : Reg) (offset : Nat)
  | jcc (condition : Condition) (label : Label)
  | jmp (label : Label)

namespace State

def set (state : State) (dst : Reg) (value : BitVec 64) : State :=
  { state with regs := Function.update state.regs dst value }

def setThread (state : State) (offset : Nat) (value : BitVec 64) : State :=
  { state with memory := { state.memory with thread := Function.update state.memory.thread offset value } }

def compare (state : State) (left right : BitVec 64) : State := { state with compared := (left, right) }

def byteAt (state : State) (base index : Reg) : BitVec 8 :=
  state.memory.bytes (state.regs base + state.regs index)

def setByte (state : State) (address : BitVec 64) (value : BitVec 8) : State :=
  { state with memory := { state.memory with bytes := Function.update state.memory.bytes address value } }

/-- The count of a shift by `cl`. -/
def shiftCount (state : State) : Nat := (state.regs .rcx).toNat % 64

end State

/-- Replace the low byte and keep the rest of the register. -/
def mergeByte (old : BitVec 64) (byte : BitVec 8) : BitVec 64 := (old >>> 8).setWidth 56 ++ byte

variable {Label : Type}

/-- The effect of an instruction that is not a jump. -/
def Instr.apply (state : State) : Instr Label → State
  | .mov dst src => state.set dst (state.regs src)
  | .movImm dst value => state.set dst value
  | .movl dst src => state.set dst (((state.regs src).setWidth 32).setWidth 64)
  | .movbLoad dst base index => state.set dst (mergeByte (state.regs dst) (state.byteAt base index))
  | .movzblLoad dst base index => state.set dst ((state.byteAt base index).setWidth 64)
  | .movbStore base index src =>
    state.setByte (state.regs base + state.regs index) ((state.regs src).setWidth 8)
  | .loadThread dst offset => state.set dst (state.memory.thread offset)
  | .storeThread offset src => state.setThread offset (state.regs src)
  | .addThread offset src => state.setThread offset (state.memory.thread offset + state.regs src)
  | .addThreadImm offset value =>
    state.setThread offset (state.memory.thread offset + value.signExtend 64)
  | .addImm dst value => state.set dst (state.regs dst + value.signExtend 64)
  | .andImm dst value => state.set dst (state.regs dst &&& value.signExtend 64)
  | .or dst src => state.set dst (state.regs dst ||| state.regs src)
  | .shrImm dst count => state.set dst (state.regs dst >>> count)
  | .shrCl dst => state.set dst (state.regs dst >>> state.shiftCount)
  | .shlCl dst => state.set dst (state.regs dst <<< state.shiftCount)
  | .leaDisp dst base disp => state.set dst (state.regs base + disp.signExtend 64)
  | .leaIndex dst base index => state.set dst (state.regs base + state.regs index)
  | .cmp left right => state.compare (state.regs left) (state.regs right)
  | .cmpImm left value => state.compare (state.regs left) (value.signExtend 64)
  | .cmpThread left offset => state.compare (state.regs left) (state.memory.thread offset)
  | .jcc _ _ => state
  | .jmp _ => state

/-- Run the code to its end, or to the label it jumps to. -/
def run : List (Instr Label) → State → State × Option Label
  | [], state => (state, none)
  | .jmp label :: _, state => (state, some label)
  | .jcc condition label :: rest, state =>
    if condition.holds state.compared then (state, some label) else run rest state
  | instr :: rest, state => run rest (instr.apply state)

def Instr.isJump : Instr Label → Bool
  | .jcc _ _ => true
  | .jmp _ => true
  | _ => false

/-- The effect of code without jumps. -/
def applyAll (code : List (Instr Label)) (state : State) : State := code.foldl Instr.apply state

theorem run_jcc {condition : Condition} {label : Label} {rest : List (Instr Label)} {state : State} :
    run (.jcc condition label :: rest) state =
      if condition.holds state.compared then (state, some label) else run rest state := rfl

theorem run_cons {instr : Instr Label} {rest : List (Instr Label)} {state : State}
    (straight : instr.isJump = false) : run (instr :: rest) state = run rest (instr.apply state) := by
  cases instr
  case jcc | jmp => cases straight
  all_goals rfl

/-- Code without jumps runs to its end. -/
theorem run_append {code rest : List (Instr Label)} {state : State}
    (straight : ∀ instr ∈ code, instr.isJump = false) :
    run (code ++ rest) state = run rest (applyAll code state) := by
  induction code generalizing state with
  | nil => rfl
  | cons instr code ih =>
    rw [List.cons_append, run_cons (straight instr (by simp))]
    exact ih (fun other member => straight other (List.mem_cons_of_mem _ member))

section Conditions

variable {left right : BitVec 64}

@[simp] theorem holds_below : Condition.below.holds (left, right) = true ↔ left < right := by
  simp [Condition.holds, BitVec.ult_iff_lt]

@[simp] theorem holds_above : Condition.above.holds (left, right) = true ↔ right < left := by
  simp [Condition.holds, BitVec.ult_iff_lt]

@[simp] theorem holds_aboveEqual : Condition.aboveEqual.holds (left, right) = true ↔ right ≤ left := by
  simp [Condition.holds, BitVec.ule_iff_le]

end Conditions

section Fields

variable {state : State} {dst src other : Reg} {value left right : BitVec 64}

@[simp] theorem set_regs_self : (state.set dst value).regs dst = value := by simp [State.set]

@[simp] theorem set_regs_other (different : other ≠ dst) :
    (state.set dst value).regs other = state.regs other := by
  simp [State.set, different]

@[simp] theorem set_memory : (state.set dst value).memory = state.memory := rfl
@[simp] theorem setThread_regs (offset : Nat) : (state.setThread offset value).regs = state.regs := rfl
@[simp] theorem setThread_memory (offset : Nat) : (state.setThread offset value).memory =
    { state.memory with thread := Function.update state.memory.thread offset value } := rfl
@[simp] theorem setByte_memory (byte : BitVec 8) : (state.setByte value byte).memory =
    { state.memory with bytes := Function.update state.memory.bytes value byte } := rfl
@[simp] theorem setByte_regs (byte : BitVec 8) : (state.setByte value byte).regs = state.regs := rfl
@[simp] theorem compare_regs : (state.compare left right).regs = state.regs := rfl
@[simp] theorem compare_memory : (state.compare left right).memory = state.memory := rfl
@[simp] theorem compare_compared : (state.compare left right).compared = (left, right) := rfl

theorem getLsbD_mergeByte (old : BitVec 64) (byte : BitVec 8) {position : Nat} (low : position < 8) :
    (mergeByte old byte).getLsbD position = byte.getLsbD position :=
  BitVec.getLsbD_append.trans (if_pos low)

@[simp] theorem mergeByte_low (old : BitVec 64) (byte : BitVec 8) : (mergeByte old byte).setWidth 8 = byte := by
  apply BitVec.eq_of_getLsbD_eq
  intro position low
  rw [BitVec.getLsbD_setWidth, getLsbD_mergeByte old byte low]
  simp [low]

end Fields

section Frames

variable {state : State} {code : List (Instr Label)} {reg : Reg} {offset : Nat}

/-- The word of the thread that an instruction writes. -/
def Instr.threadWord : Instr Label → Option Nat
  | .storeThread offset _ => some offset
  | .addThread offset _ => some offset
  | .addThreadImm offset _ => some offset
  | _ => none

/-- The register that an instruction writes. -/
def Instr.target : Instr Label → Option Reg
  | .mov dst _ | .movImm dst _ | .movl dst _ | .movbLoad dst _ _ | .movzblLoad dst _ _ | .loadThread dst _ => some dst
  | .addImm dst _ | .andImm dst _ | .or dst _ | .shrImm dst _ | .shrCl dst | .shlCl dst => some dst
  | .leaDisp dst _ _ | .leaIndex dst _ _ => some dst
  | .movbStore _ _ _ | .storeThread _ _ | .addThread _ _ | .addThreadImm _ _ => none
  | .cmp _ _ | .cmpImm _ _ | .cmpThread _ _ | .jcc _ _ | .jmp _ => none

theorem Instr.apply_thread {instr : Instr Label} (other : instr.threadWord ≠ some offset) :
    (instr.apply state).memory.thread offset = state.memory.thread offset := by
  cases instr
  case storeThread | addThread | addThreadImm =>
    have different : offset ≠ _ := fun same => other (congrArg some same.symm)
    simp [Instr.apply, different]
  all_goals rfl

theorem Instr.apply_regs {instr : Instr Label} (other : instr.target ≠ some reg) :
    (instr.apply state).regs reg = state.regs reg := by
  cases instr
  case movbStore | storeThread | addThread | addThreadImm | cmp | cmpImm | cmpThread | jcc | jmp => rfl
  all_goals exact set_regs_other fun same => other (congrArg some same.symm)

theorem applyAll_thread (others : ∀ instr ∈ code, instr.threadWord ≠ some offset) :
    (applyAll code state).memory.thread offset = state.memory.thread offset := by
  induction code generalizing state with
  | nil => rfl
  | cons instr code ih =>
    exact (ih fun other member => others other (List.mem_cons_of_mem _ member)).trans
      (Instr.apply_thread (others instr List.mem_cons_self))

theorem applyAll_regs (others : ∀ instr ∈ code, instr.target ≠ some reg) :
    (applyAll code state).regs reg = state.regs reg := by
  induction code generalizing state with
  | nil => rfl
  | cons instr code ih =>
    exact (ih fun other member => others other (List.mem_cons_of_mem _ member)).trans
      (Instr.apply_regs (others instr List.mem_cons_self))

theorem applyAll_append (code rest : List (Instr Label)) (state : State) :
    applyAll (code ++ rest) state = applyAll rest (applyAll code state) := List.foldl_append

/-- Code that runs to its end has taken no jump. -/
theorem run_to_end (ends : (run code state).2 = none) : (run code state).1 = applyAll code state := by
  induction code generalizing state with
  | nil => rfl
  | cons instr code ih =>
    cases instr
    case jmp => cases ends
    case jcc condition label =>
      rw [run_jcc] at ends ⊢
      split at ends
      · cases ends
      · rename_i falls
        rw [if_neg falls]
        exact ih ends
    all_goals exact ih ends

end Frames

end MmtkOpenJDK.Foundation.X86
