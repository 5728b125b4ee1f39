import MmtkOpenJDK.Barriers.UnlogBit

/-! The barriers of all tiers with and without the fast path, over an arbitrary
slow path. -/

namespace MmtkOpenJDK.Barriers

open MmtkOpenJDK.Foundation X86 Ideal

/-- The places that test the unlog bit. The interpreter's code runs in any register
state, C2's in any environment. -/
inductive Site where
  | objectProbableWrite
  | objectRuntime
  | satbRuntime
  | objectInterpreter (registers : ObjectBarrierRegisters) (frame : X86.State)
  | satbInterpreter (registers : SATBBarrierRegisters) (frame : X86.State)
  | objectC1
  | satbC1
  | objectC2 (env : Env)
  | satbC2 (env : Env)

/-- The frame with the object in its register and the metadata in memory. -/
def loadFrame (frame : X86.State) (obj : Reg) (a : BitVec 64) (bytes : ByteMemory 64) : X86.State :=
  { frame with
    regs := Function.update frame.regs obj a
    memory := { frame.memory with bytes } }

def loadEnv (env : Env) (a : BitVec 64) (bytes : ByteMemory 64) : Env :=
  { env with longs := fun _ => a, memory := { env.memory with bytes } }

/-- The object passed on to the slow path by a fast path, if it takes it. -/
def Site.slowPath (base : BitVec 64) (bytes : ByteMemory 64) (a : BitVec 64) : Site → Option (BitVec 64)
  | .objectProbableWrite => if MMTkObjectBarrierSetRuntime.probableWriteTest base bytes a then some a else none
  | .objectRuntime => if MMTkObjectBarrierSetRuntime.writePostTest base bytes a then some a else none
  | .satbRuntime => if MMTkSATBBarrierSetRuntime.writePreTest base bytes a then some a else none
  | .objectInterpreter registers frame =>
    slowCallObject (MMTkObjectBarrierSetAssembler.fastPath base registers) registers.obj
      (loadFrame frame registers.obj a bytes)
  | .satbInterpreter registers frame =>
    slowCallObject (MMTkSATBBarrierSetAssembler.fastPath base registers) registers.base
      (loadFrame frame registers.base a bytes)
  | .objectC1 => if MMTkObjectBarrierSetC1.writePostTest base bytes a then some a else none
  | .satbC1 => if MMTkSATBBarrierSetC1.writePreTest base bytes a then some a else none
  | .objectC2 env =>
    if (MMTkObjectBarrierSetC2.writePostCondition base (.parmL 0)).eval (loadEnv env a bytes) then some a else none
  | .satbC2 env =>
    if (MMTkSATBBarrierSetC2.writePreCondition base (.parmL 0)).eval (loadEnv env a bytes) then some a else none

/-- Every fast path tests the unlog bit of the object. -/
theorem Site.slowPath_eq (site : Site) (base : BitVec 64) (bytes : ByteMemory 64) {a : BitVec 64}
    (positive : a.toNat < 2 ^ 63) :
    site.slowPath base bytes a = if metaBit base bytes a then some a else none := by
  cases site with
  | objectProbableWrite => rw [slowPath, MMTkObjectBarrierSetRuntime.probableWriteTest, runtimeTest_eq positive]
  | objectRuntime => rw [slowPath, MMTkObjectBarrierSetRuntime.writePostTest, runtimeTest_eq positive]
  | satbRuntime => rw [slowPath, MMTkSATBBarrierSetRuntime.writePreTest, kUnloggedValue, runtimeTest_eq positive]
  | objectInterpreter registers frame =>
    refine (slowCallObject_fastPathCode registers.separate).trans ?_
    simp [loadFrame]
  | satbInterpreter registers frame =>
    refine (slowCallObject_fastPathCode registers.separate).trans ?_
    simp [loadFrame]
  | objectC1 => rw [slowPath, MMTkObjectBarrierSetC1.writePostTest, c1Test_eq]
  | satbC1 => rw [slowPath, MMTkSATBBarrierSetC1.writePreTest, c1Test_eq]
  | objectC2 env =>
    rw [slowPath, MMTkObjectBarrierSetC2.writePostCondition, c2Condition_eq]
    rfl
  | satbC2 env =>
    rw [slowPath, MMTkSATBBarrierSetC2.writePreCondition, c2Condition_eq]
    rfl

/-- The arguments of a call into mmtk-core. -/
structure Call where
  src : BitVec 64
  slot : BitVec 64
  target : BitVec 64
  deriving DecidableEq

/-- mmtk-core's state, the side metadata in it, and the effect of the slow path. -/
structure BarrierCore (Core : Type) where
  bytes : Core → ByteMemory 64
  slow : Core → Call → Core

variable {Core : Type}

/-- The slow path, and the record that it was called. -/
def BarrierCore.slowCall (core : BarrierCore Core) (state : Core) (call : Call) : Core × List Call :=
  (core.slow state call, [call])

/-- The full barrier: test the bit, then the slow path. -/
def BarrierCore.fullBarrier (core : BarrierCore Core) (base : BitVec 64) (state : Core) (call : Call) :
    Core × List Call :=
  if metaBit base (core.bytes state) call.src then core.slowCall state call else (state, [])

structure Write where
  site : Site
  src : BitVec 64
  slot : BitVec 64
  target : BitVec 64

/-- The probable write has no slot, and the interpreter's object barrier passes null
for the slot and the target. -/
def Write.call (write : Write) (src : BitVec 64) : Call :=
  match write.site with
  | .objectProbableWrite | .objectInterpreter _ _ => ⟨src, 0, 0⟩
  | _ => ⟨src, write.slot, write.target⟩

/-- What is called when the fast path finds the bit set: for a probable write, the
full barrier once more. -/
def Write.slow (write : Write) (core : BarrierCore Core) (base : BitVec 64) (state : Core) (src : BitVec 64) :
    Core × List Call :=
  match write.site with
  | .objectProbableWrite => core.fullBarrier base state (write.call src)
  | _ => core.slowCall state (write.call src)

def Write.perform (enableBarrierFastpath : Bool) (core : BarrierCore Core) (base : BitVec 64) (state : Core)
    (write : Write) : Core × List Call :=
  if enableBarrierFastpath then
    match write.site.slowPath base (core.bytes state) write.src with
    | some src => write.slow core base state src
    | none => (state, [])
  else core.fullBarrier base state (write.call write.src)

/-- A sequence of writes: the final state and all slow-path calls in order. -/
def performAll (enableBarrierFastpath : Bool) (core : BarrierCore Core) (base : BitVec 64) :
    Core → List Write → Core × List Call
  | state, [] => (state, [])
  | state, write :: rest =>
    let first := write.perform enableBarrierFastpath core base state
    let others := performAll enableBarrierFastpath core base first.1 rest
    (others.1, first.2 ++ others.2)

@[simp] theorem Write.call_src (write : Write) (src : BitVec 64) : (write.call src).src = src := by
  unfold Write.call
  split <;> rfl

/-- One write has the same effect with and without its fast path. -/
theorem Write.perform_eq (core : BarrierCore Core) (base : BitVec 64) (state : Core) {write : Write}
    (positive : write.src.toNat < 2 ^ 63) :
    write.perform true core base state = write.perform false core base state := by
  have test := write.site.slowPath_eq base (core.bytes state) positive
  cases bit : metaBit base (core.bytes state) write.src with
  | false => simp [Write.perform, test, bit, BarrierCore.fullBarrier]
  | true =>
    have slow : write.slow core base state write.src = core.slowCall state (write.call write.src) := by
      unfold Write.slow
      split
      · simp [BarrierCore.fullBarrier, bit]
      · rfl
    simp [Write.perform, test, bit, BarrierCore.fullBarrier, slow]

theorem performAll_eq (core : BarrierCore Core) (base : BitVec 64) {writes : List Write}
    (positive : ∀ write ∈ writes, write.src.toNat < 2 ^ 63) (state : Core) :
    performAll true core base state writes = performAll false core base state writes := by
  induction writes generalizing state with
  | nil => rfl
  | cons write rest ih =>
    have first := Write.perform_eq core base state (positive write (by simp))
    have others := ih (fun other member => positive other (List.mem_cons_of_mem _ member))
    simp only [performAll, first, others]

/-- Every fast path takes the slow path exactly when the bit `(a >> 3) & 7` of the
byte at `base + (a >> 6)` is set, the bits of two addresses are the same exactly
when the addresses are in one granule, and leaving the fast paths out changes no
slow-path call of any sequence of writes. -/
theorem fast_paths_agree (core : BarrierCore Core) (base : BitVec 64) :
    (∀ site : Site, ∀ bytes a, a.toNat < 2 ^ 63 → site.slowPath base bytes a =
      if (bytes (base + (a >>> 6))).getLsbD ((a >>> 3) &&& 7).toNat then some a else none) ∧
    (∀ a b : BitVec 64, a.toNat < 2 ^ 63 → b.toNat < 2 ^ 63 →
      (base + (a >>> 6) = base + (b >>> 6) ∧ ((a >>> 3) &&& 7).toNat = ((b >>> 3) &&& 7).toNat ↔
        a.toNat / 8 = b.toNat / 8)) ∧
    (∀ state writes, (∀ write ∈ writes, write.src.toNat < 2 ^ 63) →
      performAll true core base state writes = performAll false core base state writes) := by
  refine ⟨?_, ?_, ?_⟩
  · intro site bytes a positive
    exact site.slowPath_eq base bytes positive
  · intro a b _ _
    exact same_bit_iff
  · intro state writes positive
    exact performAll_eq core base positive state

/-- A core in which every bit is set but those in the bytes that slow calls have cleared. -/
def clearingCore : BarrierCore (List (BitVec 64)) where
  bytes cleared byte := if byte ∈ cleared then 0 else 0xFF
  slow cleared call := (0x1000 + (call.src >>> 6)) :: cleared

def idleFrame : X86.State := ⟨fun _ => 0, ⟨fun _ => 0, fun _ => 0⟩, (0, 0)⟩

def interpreterRegisters : ObjectBarrierRegisters := ⟨.rdx, .rbx, by decide, by decide, by decide, by decide⟩

def idleEnv : Env := ⟨fun _ => 0, fun _ => 0, idleFrame.memory⟩

/-- Two writes to each of two objects, by the interpreter and C1 and by C2 and the runtime. -/
def mixedTierWrites : List Write :=
  [⟨.objectInterpreter interpreterRegisters idleFrame, 0x7F0000000008, 0x7F0000000018, 0⟩,
    ⟨.objectC1, 0x7F0000000008, 0x7F0000000020, 0⟩,
    ⟨.objectC2 idleEnv, 0x7F0000001008, 0x7F0000001018, 0x7F0000000008⟩,
    ⟨.objectRuntime, 0x7F0000001008, 0x7F0000001020, 0⟩]

/-- The first write to an object takes the slow path, with the fast paths and without. -/
theorem fast_paths_agree_mixed_tiers :
    (performAll true clearingCore 0x1000 [] mixedTierWrites).2 =
        [⟨0x7F0000000008, 0, 0⟩, ⟨0x7F0000001008, 0x7F0000001018, 0x7F0000000008⟩] ∧
      performAll true clearingCore 0x1000 [] mixedTierWrites =
        performAll false clearingCore 0x1000 [] mixedTierWrites := by
  refine ⟨by decide +kernel, ?_⟩
  exact (fast_paths_agree clearingCore 0x1000).2.2 [] mixedTierWrites (by simp [mixedTierWrites])

end MmtkOpenJDK.Barriers
