import MmtkOpenJDK.Foundation.IdealGraph
import MmtkOpenJDK.Foundation.SideMetadata

/-! The fast paths of the write barriers. The C++ runtime, the interpreter's
assembly, C1's LIR and C2's graph each compute the address and the position of an
object's unlog bit in their own way and call the slow path when the bit is set. -/

namespace MmtkOpenJDK.Barriers

open MmtkOpenJDK.Foundation X86 Ideal

section Runtime

/-- The test of the C++ runtimes: `addr` is a signed word and the byte is promoted
to `int`. -/
def runtimeTest (base : BitVec 64) (bytes : ByteMemory 64) (unloggedValue : BitVec 32) (addr : BitVec 64) :
    Bool :=
  let metaAddr := base + addr.sshiftRight 6
  let shift := addr.sshiftRight 3 &&& 0b111
  let byteVal : BitVec 32 := (bytes metaAddr).setWidth 32
  byteVal.sshiftRight shift.toNat &&& 1 == unloggedValue

def MMTkObjectBarrierSetRuntime.probableWriteTest (base : BitVec 64) (bytes : ByteMemory 64) (newObj : BitVec 64) :
    Bool :=
  runtimeTest base bytes 1 newObj

def MMTkObjectBarrierSetRuntime.writePostTest (base : BitVec 64) (bytes : ByteMemory 64) (src : BitVec 64) : Bool :=
  runtimeTest base bytes 1 src

def kUnloggedValue : BitVec 32 := 1

def MMTkSATBBarrierSetRuntime.writePreTest (base : BitVec 64) (bytes : ByteMemory 64) (src : BitVec 64) : Bool :=
  runtimeTest base bytes kUnloggedValue src

end Runtime

section Interpreter

/-- The label behind the call of the slow path. -/
inductive Exit where
  | done
  deriving DecidableEq

/-- The interpreter's test. The two barriers differ in how the byte is loaded: SATB
clears the rest of the register. -/
def unlogTestCode (zeroExtend : Bool) (base : BitVec 64) (unloggedValue : BitVec 32) (obj tmp : Reg) :
    List (Instr Exit) :=
  let tmp3 := Reg.r10
  let tmp4 := Reg.r11
  [.mov tmp3 obj, .shrImm tmp3 6, .movImm tmp base,
    if zeroExtend then .movzblLoad tmp tmp tmp3 else .movbLoad tmp tmp tmp3,
    .mov tmp3 obj, .shrImm tmp3 3, .andImm tmp3 7,
    .mov tmp4 .rcx, .movl .rcx tmp3, .shrCl tmp, .mov .rcx tmp4,
    .andImm tmp 1, .cmpImm tmp unloggedValue]

def fastPathCode (zeroExtend : Bool) (base : BitVec 64) (unloggedValue : BitVec 32) (obj tmp : Reg) :
    List (Instr Exit) :=
  unlogTestCode zeroExtend base unloggedValue obj tmp ++ [.jcc .notEqual .done]

/-- An object register and a temporary that the test may be emitted with: neither
is a scratch register, and the temporary is not the register of shift counts. -/
structure Separate (obj tmp : Reg) : Prop where
  different : obj ≠ tmp
  objScratch : obj ≠ .r10 ∧ obj ≠ .r11
  tmpScratch : tmp ≠ .r10 ∧ tmp ≠ .r11
  tmpCount : tmp ≠ .rcx

/-- The registers of the object barrier. The source asserts a part of what makes
them separate; the interpreter passes `rbx` as the temporary. -/
structure ObjectBarrierRegisters where
  obj : Reg
  tmp2 : Reg
  separate : Separate obj tmp2

def MMTkObjectBarrierSetAssembler.fastPath (base : BitVec 64) (registers : ObjectBarrierRegisters) :
    List (Instr Exit) :=
  fastPathCode false base 1 registers.obj registers.tmp2

/-- The registers of the SATB barrier: the base and the index of the destination
and two temporaries. The first may be the base, and is not used then. -/
structure SATBBarrierRegisters where
  base : Reg
  index : Option Reg
  tmp1 : Reg
  tmp2 : Reg
  first : tmp1 = base ∨ Separate base tmp1
  second : Separate base tmp2

def SATBBarrierRegisters.tmp5 (registers : SATBBarrierRegisters) : Reg :=
  if registers.tmp1 = registers.base ∨ some registers.tmp1 = registers.index then registers.tmp2
  else registers.tmp1

def MMTkSATBBarrierSetAssembler.fastPath (base : BitVec 64) (registers : SATBBarrierRegisters) :
    List (Instr Exit) :=
  fastPathCode true base kUnloggedValue registers.base registers.tmp5

/-- The object that the code following the test passes to the slow path, if it is
reached. -/
def slowCallObject (code : List (Instr Exit)) (obj : Reg) (state : X86.State) : Option (BitVec 64) :=
  match run code state with
  | (_, some .done) => none
  | (after, none) => some (after.regs obj)

end Interpreter

section Compilers

/-- C1's LIR for a resolved slot: the byte is loaded sign-extended into an `int`
register, and the shift count comes from the low half of the address. -/
def c1Test (base : BitVec 64) (bytes : ByteMemory 64) (addr : BitVec 64) : Bool :=
  let offset := addr >>> 6
  let byteVal : BitVec 32 := (bytes (base + offset)).signExtend 32
  let shift : BitVec 32 := addr.setWidth 32
  let shift := shift >>> 3
  let shift := shift &&& 0b111
  let result := byteVal >>> (shift.toNat % 32)
  let result := result &&& 1
  result == 1

def MMTkObjectBarrierSetC1.writePostTest (base : BitVec 64) (bytes : ByteMemory 64) (src : BitVec 64) : Bool :=
  c1Test base bytes src

def MMTkSATBBarrierSetC1.writePreTest (base : BitVec 64) (bytes : ByteMemory 64) (src : BitVec 64) : Bool :=
  c1Test base bytes src

/-- C2's graph: the condition `result != 0` over the object `src`. -/
def c2Condition (base : BitVec 64) (src : Node .long) : Node .bool :=
  let metaAddr := Node.addL (.conL base) (.urShiftL src (.conI 6))
  let byte := Node.loadB .parmMemory metaAddr
  let shift := Node.urShiftL src (.conI 3)
  let shift := Node.andI (.convL2I shift) (.conI 7)
  let result := Node.andI (.urShiftI byte shift) (.conI 1)
  .bool (.cmpI result (.conI 0)) .ne

def MMTkObjectBarrierSetC2.writePostCondition (base : BitVec 64) (src : Node .long) : Node .bool :=
  c2Condition base src

def MMTkSATBBarrierSetC2.writePreCondition (base : BitVec 64) (src : Node .long) : Node .bool :=
  c2Condition base src

end Compilers

section Bits

variable {base a : BitVec 64} {bytes : ByteMemory 64}

/-- Shifting a word and masking it with 1 leaves one of its bits. -/
theorem shifted_bit {width : Nat} (value : BitVec (width + 1)) (count : Nat) :
    (value >>> count &&& 1 == 1) = value.getLsbD count := by
  have low : (value >>> count).getLsbD 0 = value.getLsbD count := by simp
  rw [BitVec.ofNat_eq_ofNat, BitVec.and_one_eq_setWidth_ofBool_getLsbD, low]
  cases value.getLsbD count
  · simp
  · simp

theorem runtimeTest_eq (positive : a.toNat < 2 ^ 63) : runtimeTest base bytes 1 a = metaBit base bytes a := by
  have sign : a.msb = false := by
    rw [BitVec.msb_eq_false_iff_two_mul_lt]
    omega
  have byteSign : ∀ byte : BitVec 8, (byte.setWidth 32).msb = false := by
    intro byte
    rw [BitVec.msb_eq_false_iff_two_mul_lt, BitVec.toNat_setWidth]
    have small := byte.isLt
    omega
  simp only [runtimeTest, BitVec.sshiftRight_eq_of_msb_false sign, BitVec.sshiftRight_eq_of_msb_false (byteSign _)]
  have short : metaShift a < 32 := Nat.lt_trans metaShift_lt (by decide)
  refine (shifted_bit ((bytes (metaAddress base a)).setWidth 32) (metaShift a)).trans ?_
  rw [BitVec.getLsbD_setWidth, metaBit]
  simp [short]

theorem getLsbD_signExtend_byte (byte : BitVec 8) {position : Nat} (low : position < 8) :
    (byte.signExtend 32).getLsbD position = byte.getLsbD position := by
  rw [BitVec.getLsbD_signExtend, if_pos low]
  simp [Nat.lt_trans low (by decide : 8 < 32)]

/-- The signed byte shifted in 32 bits, by a count that is the bit's position. -/
theorem shifted_byte {count : Nat} (position : count = metaShift a) :
    ((bytes (metaAddress base a)).signExtend 32 >>> (count % 32) &&& 1 == 1) = metaBit base bytes a := by
  have short : count % 32 = metaShift a := by
    rw [position]
    exact Nat.mod_eq_of_lt (Nat.lt_trans metaShift_lt (by decide))
  rw [short, metaBit, ← getLsbD_signExtend_byte _ metaShift_lt]
  exact shifted_bit ((bytes (metaAddress base a)).signExtend 32) (metaShift a)

theorem c1Test_eq : c1Test base bytes a = metaBit base bytes a := by
  refine shifted_byte ?_
  rw [toNat_and_seven (by decide), BitVec.toNat_ushiftRight, BitVec.toNat_setWidth, Nat.shiftRight_eq_div_pow,
    metaShift_eq]
  omega

/-- C2 compares the masked bit with 0 instead. -/
theorem masked_ne_zero (value : BitVec 32) :
    BoolTest.ne.holds (compare (value &&& 1).toInt (0 : BitVec 32).toInt) = (value &&& 1 == 1) := by
  rw [BitVec.ofNat_eq_ofNat, BitVec.and_one_eq_setWidth_ofBool_getLsbD]
  cases value.getLsbD 0
  · rfl
  · rfl

theorem c2Condition_eq {env : Env} {src : Node .long} :
    (c2Condition base src).eval env = metaBit base env.memory.bytes (src.eval env) := by
  have position : (((src.eval env >>> 3).setWidth 32) &&& 7).toNat = metaShift (src.eval env) := by
    rw [toNat_and_seven (by decide), BitVec.toNat_setWidth, BitVec.toNat_ushiftRight,
      Nat.shiftRight_eq_div_pow, metaShift_eq]
    omega
  exact (masked_ne_zero _).trans (shifted_byte position)

end Bits

section Assembly

variable {base : BitVec 64} {zeroExtend : Bool} {obj tmp : Reg} {state : X86.State}

/-- The register after the load of the byte. -/
def loadedByte (zeroExtend : Bool) (old : BitVec 64) (byte : BitVec 8) : BitVec 64 :=
  if zeroExtend then byte.setWidth 64 else mergeByte old byte

theorem loadedByte_low (old : BitVec 64) (byte : BitVec 8) {position : Nat} (low : position < 8) :
    (loadedByte zeroExtend old byte).getLsbD position = byte.getLsbD position := by
  cases zeroExtend with
  | false => exact getLsbD_mergeByte old byte low
  | true =>
    rw [loadedByte, if_pos rfl, BitVec.getLsbD_setWidth]
    simp [Nat.lt_trans low (by decide : 8 < 64)]

theorem unlogTestCode_straight : ∀ instr ∈ unlogTestCode zeroExtend base 1 obj tmp, instr.isJump = false := by
  cases zeroExtend <;> simp [unlogTestCode, Instr.isJump]

/-- `rcx` is borrowed for the shift count and restored, so the object survives even
there. -/
theorem unlogTestCode_obj (separate : Separate obj tmp) :
    (applyAll (unlogTestCode zeroExtend base 1 obj tmp) state).regs obj = state.regs obj := by
  obtain ⟨different, objScratch, tmpScratch, tmpCount⟩ := separate
  by_cases count : obj = .rcx
  · subst count
    cases zeroExtend <;>
      simp [applyAll, unlogTestCode, Instr.apply, tmpScratch.2.symm, tmpCount.symm]
  · cases zeroExtend <;>
      simp [applyAll, unlogTestCode, Instr.apply, different, objScratch, tmpScratch.2.symm, tmpCount.symm, count]

/-- The shift count goes through the low half of `rcx`. -/
theorem shiftCount_eq (a : BitVec 64) :
    (a.toNat >>> 3 % 4294967296 % 18446744073709551616 &&& 7) % 64 = metaShift a :=
  masked_shift (by omega) (by decide)

theorem unlogTestCode_compared (separate : Separate obj tmp) :
    (applyAll (unlogTestCode zeroExtend base 1 obj tmp) state).compared =
      (loadedByte zeroExtend base (state.memory.bytes (metaAddress base (state.regs obj))) >>>
        metaShift (state.regs obj) &&& 1, 1) := by
  obtain ⟨different, objScratch, tmpScratch, tmpCount⟩ := separate
  cases zeroExtend <;>
    simp [applyAll, unlogTestCode, Instr.apply, different, objScratch, tmpScratch, tmpCount, tmpScratch.1.symm,
      tmpScratch.2.symm, State.byteAt, State.shiftCount, shiftCount_eq, loadedByte, metaAddress]

/-- The code falls through to the slow call exactly when the bit is set, and the
object is still in its register there. -/
theorem slowCallObject_fastPathCode (separate : Separate obj tmp) :
    slowCallObject (fastPathCode zeroExtend base 1 obj tmp) obj state =
      if metaBit base state.memory.bytes (state.regs obj) then some (state.regs obj) else none := by
  have bit := shifted_bit (loadedByte zeroExtend base (state.memory.bytes (metaAddress base (state.regs obj))))
    (metaShift (state.regs obj))
  rw [loadedByte_low _ _ metaShift_lt] at bit
  rw [slowCallObject, fastPathCode, run_append unlogTestCode_straight, run, unlogTestCode_compared separate,
    Condition.holds, bne, bit, metaBit]
  cases (state.memory.bytes (metaAddress base (state.regs obj))).getLsbD (metaShift (state.regs obj)) with
  | false => rfl
  | true => exact congrArg some (unlogTestCode_obj separate)

theorem SATBBarrierRegisters.separate (registers : SATBBarrierRegisters) :
    Separate registers.base registers.tmp5 := by
  unfold SATBBarrierRegisters.tmp5
  split
  · exact registers.second
  · rename_i unused
    rw [not_or] at unused
    exact registers.first.resolve_left unused.1

end Assembly

end MmtkOpenJDK.Barriers
