import MmtkOpenJDK.Allocation.Settings

/-! `MMTkBarrierSetC2::expand_allocate`: how it decides between the two paths, and
the graph it emits. -/

namespace MmtkOpenJDK.Allocation

open MmtkOpenJDK.Foundation Ideal
open X86 (Memory)

/-- The inputs of the allocation node that is expanded. -/
structure AllocateNode where
  initialTest : Node .int
  sizeInBytes : Node .long

/-- The variables `always_slow` and `initial_slow_test`; `none` is `NULL`. -/
structure Decision (Test : Type) where
  alwaysSlow : Bool
  initialSlowTest : Option Test

/-- A non-negative constant, as tested after `find_int_con` and `find_long_con`. -/
def nonnegative {width : Nat} (constant : Option (BitVec width)) : Option (BitVec width) :=
  constant.filter fun value => decide (0 ≤ value.toInt)

section Decide

variable (settings : Settings) (dtraceAllocProbes : Bool) (node : AllocateNode)

/-- A test that is known at compile time is dropped. -/
def constantTest : Decision (Node .int) :=
  match nonnegative (findIntCon node.initialTest) with
  | some tv => ⟨tv == 1, none⟩
  | none => ⟨false, some node.initialTest⟩

/-- The condition that the size is too large. -/
def mmtkSizeBool : Node .bool := .bool (.cmpL node.sizeInBytes (.conL settings.largestSize)) .ge

/-- The size check: at compile time, or combined with the test there is. -/
def sizeCheck (decision : Decision (Node .int)) : Decision Condition :=
  match nonnegative (findLongCon node.sizeInBytes) with
  | some constSize =>
    if settings.largestSize < constSize then ⟨true, none⟩
    else ⟨decision.alwaysSlow, decision.initialSlowTest.map .int⟩
  | none =>
    match decision.initialSlowTest with
    | none => ⟨decision.alwaysSlow, some (Condition.bool (mmtkSizeBool settings node)).makePredicate⟩
    | some test =>
      let mmtkSizeCmov := Node.cMoveI (mmtkSizeBool settings node) (.conI 0) (.conI 1)
      let newSlowTest := Node.orI mmtkSizeCmov test
      ⟨decision.alwaysSlow, some (Condition.int newSlowTest).makePredicate⟩

/-- The decision at the assertion that its two parts are consistent. -/
def slowPathDecision : Decision Condition :=
  if dtraceAllocProbes || !settings.enableAllocationFastpath || settings.selector.tag.isSlow then ⟨true, none⟩
  else sizeCheck settings node (constantTest node)

end Decide

/-- The control part of the graph: a result carries the new object and the state of
raw memory. -/
inductive Graph where
  | slowCall
  | iff (condition : Condition) (ifTrue ifFalse : Graph)
  | result (oop : Node .long) (memory : Node .memory)

section Emit

variable (settings : Settings) (dtraceAllocProbes : Bool) (node : AllocateNode) (offsets : MMTkAllocatorOffsets)

def oldEdenTop : Node .long :=
  if settings.selector.tag = .markCompact then
    .addL (.loadP .parmMemory offsets.tlabTopOffset) (.conL settings.extraHeader)
  else .loadP .parmMemory offsets.tlabTopOffset

def newEdenTop : Node .long := .addL (oldEdenTop settings offsets) node.sizeInBytes

/-- Set the valid-object bit in the memory state. -/
def setVoBit (fastOop : Node .long) (memory : Node .memory) : Node .memory :=
  let metaOffset := Node.urShiftL fastOop (.conI 6)
  let metaAddr := Node.addL (.conL settings.voBitBase) metaOffset
  let metaVal := Node.loadUB memory metaAddr
  let shiftedAddr := Node.urShiftL fastOop (.conI 3)
  let shiftedMaskedAddr := Node.andL shiftedAddr (.conL 0b111)
  let setBit := Node.lShiftI (.conI 1) (.convL2I shiftedMaskedAddr)
  .storeB memory metaAddr (.orI metaVal setBit)

def fastOopRawmem : Node .memory :=
  let storeEdenTop := Node.storeP .parmMemory offsets.tlabTopOffset (newEdenTop settings node offsets)
  if settings.setsVoBit then setVoBit settings (oldEdenTop settings offsets) storeEdenTop else storeEdenTop

/-- The bump allocation. The initialization of the new object follows it. -/
def bumpGraph : Graph :=
  let edenEnd := Node.loadP .parmMemory offsets.tlabEndOffset
  let needgcBol := Node.bool (.cmpP (newEdenTop settings node offsets) edenEnd) .ge
  .iff (.bool needgcBol) .slowCall
    (.result (oldEdenTop settings offsets) (fastOopRawmem settings node offsets))

/-- The emitted graph, if the assertions are not compiled in. -/
def expandAllocate : Except String Graph :=
  let decision := slowPathDecision settings dtraceAllocProbes node
  if decision.alwaysSlow then .ok .slowCall
  else
    match getTlabTopAndEndOffsets settings.allocatorsBaseOffset settings.selector with
    | .error message => .error message
    | .ok offsets =>
      match decision.initialSlowTest with
      | some condition => .ok (.iff condition .slowCall (bumpGraph settings node offsets))
      | none => .ok (bumpGraph settings node offsets)

end Emit

inductive Outcome where
  | slow
  | allocated (oop : BitVec 64) (memory : Memory)

def Graph.eval (raw : BitVec 32 → Bool) (env : Env) : Graph → Outcome
  | .slowCall => .slow
  | .iff condition ifTrue ifFalse =>
    if condition.eval raw env then ifTrue.eval raw env else ifFalse.eval raw env
  | .result oop memory => .allocated (oop.eval env) (memory.eval env)

/-- The run passes the initial test and comes to the bump allocation. -/
def Decision.Attempts (decision : Decision Condition) (raw : BitVec 32 → Bool) (env : Env) : Prop :=
  decision.alwaysSlow = false ∧ ∀ condition, decision.initialSlowTest = some condition → condition.eval raw env = false

/-- The size check that the compiler makes for a constant size, and the emitted one
for a variable size. -/
def c2SizePasses (settings : Settings) (node : AllocateNode) (env : Env) : Prop :=
  match nonnegative (findLongCon node.sizeInBytes) with
  | some constSize => constSize ≤ settings.largestSize
  | none => (node.sizeInBytes.eval env).toInt < settings.largestSize.toInt

/-- What `expand_allocate` has to get right: the assertion on its two variables, the
kind of the condition, when the bump allocation is attempted, and that its
offsets exist. -/
structure Consistent (settings : Settings) (dtraceAllocProbes : Bool) (node : AllocateNode) : Prop where
  assertion : ¬ ((slowPathDecision settings dtraceAllocProbes node).alwaysSlow = true ∧
    (slowPathDecision settings dtraceAllocProbes node).initialSlowTest.isSome = true)
  condition : ∀ condition, (slowPathDecision settings dtraceAllocProbes node).initialSlowTest = some condition →
    condition.IsBool
  attempts : ∀ raw env, (slowPathDecision settings dtraceAllocProbes node).Attempts raw env ↔
    node.initialTest.eval env = 0 ∧ c2SizePasses settings node env ∧ dtraceAllocProbes = false ∧
      settings.enableAllocationFastpath = true ∧
      (settings.selector.tag = .bumpPointer ∨ settings.selector.tag = .immix ∨
        settings.selector.tag = .markCompact)
  offsets : ∀ message, expandAllocate settings dtraceAllocProbes node ≠ .error message

/-- The initial test is 0, 1 or known at run time only, and a constant size is not
negative. -/
structure AllocateNode.WellFormed (node : AllocateNode) : Prop where
  test : ∀ value, findIntCon node.initialTest = some value → value = 0 ∨ value = 1
  size : ∀ value, findLongCon node.sizeInBytes = some value → 0 ≤ value.toInt

/-- The two combinations that the conditionals leave inconsistent: the test is known
to be true and the size is not known, or the size is known to pass and the test is
not known. -/
def Overlooked (settings : Settings) (dtraceAllocProbes : Bool) (node : AllocateNode) : Prop :=
  dtraceAllocProbes = false ∧ settings.HasFastPath ∧
    (findIntCon node.initialTest = some 1 ∧ findLongCon node.sizeInBytes = none ∨
      findIntCon node.initialTest = none ∧
        ∃ size, findLongCon node.sizeInBytes = some size ∧ size ≤ settings.largestSize)

section Cases

variable {settings : Settings} {dtraceAllocProbes : Bool} {node : AllocateNode} {env : Env}

/-- The slow path is forced. -/
theorem slowPathDecision_forced (forced : ¬ (dtraceAllocProbes = false ∧ settings.HasFastPath)) :
    slowPathDecision settings dtraceAllocProbes node = ⟨true, none⟩ := by
  rw [slowPathDecision, if_pos]
  cases probes : dtraceAllocProbes <;> cases enabled : settings.enableAllocationFastpath <;>
    cases slow : settings.selector.tag.isSlow <;> simp_all [Settings.HasFastPath]

theorem slowPathDecision_fast (probes : dtraceAllocProbes = false) (fast : settings.HasFastPath) :
    slowPathDecision settings dtraceAllocProbes node = sizeCheck settings node (constantTest node) := by
  rw [slowPathDecision, if_neg]
  simp [probes, fast.1, fast.2]

theorem constantTest_runtime (runtime : findIntCon node.initialTest = none) :
    constantTest node = ⟨false, some node.initialTest⟩ := by
  rw [constantTest, runtime]
  rfl

theorem constantTest_constant {value : BitVec 32} (constant : findIntCon node.initialTest = some value)
    (flag : value = 0 ∨ value = 1) : constantTest node = ⟨value == 1, none⟩ := by
  rw [constantTest, constant]
  rcases flag with rfl | rfl <;> rfl

theorem nonnegative_findLongCon (wellFormed : node.WellFormed) :
    nonnegative (findLongCon node.sizeInBytes) = findLongCon node.sizeInBytes := by
  cases found : findLongCon node.sizeInBytes with
  | none => rfl
  | some value => simp [nonnegative, wellFormed.size value found]

theorem mmtkSizeBool_eval :
    (mmtkSizeBool settings node).eval env = true ↔
      settings.largestSize.toInt ≤ (node.sizeInBytes.eval env).toInt :=
  BoolTest.holds_ge

/-- A constant is what the node evaluates to. -/
theorem eval_of_findIntCon {test : Node .int} {value : BitVec 32} (constant : findIntCon test = some value) :
    test.eval env = value := by
  cases test <;> simp [findIntCon] at constant
  exact constant

theorem eval_of_findLongCon {size : Node .long} {value : BitVec 64} (constant : findLongCon size = some value) :
    size.eval env = value := by
  cases size <;> simp [findLongCon] at constant
  exact constant

theorem Settings.HasFastPath.tag_cases (fast : settings.HasFastPath) :
    settings.selector.tag = .bumpPointer ∨ settings.selector.tag = .immix ∨
      settings.selector.tag = .markCompact := by
  have notSlow := fast.2
  cases tag : settings.selector.tag <;> simp [tag, Tag.isSlow] at notSlow ⊢

theorem hasFastPath_iff :
    settings.HasFastPath ↔ settings.enableAllocationFastpath = true ∧
      (settings.selector.tag = .bumpPointer ∨ settings.selector.tag = .immix ∨
        settings.selector.tag = .markCompact) := by
  constructor
  · intro fast
    exact ⟨fast.1, fast.tag_cases⟩
  · rintro ⟨enabled, tag | tag | tag⟩ <;> exact ⟨enabled, by rw [tag]; rfl⟩

/-- A constant size decides at compile time. -/
theorem sizeCheck_constant {size : BitVec 64} (wellFormed : node.WellFormed)
    (constant : findLongCon node.sizeInBytes = some size) (decision : Decision (Node .int)) :
    sizeCheck settings node decision =
      if settings.largestSize < size then ⟨true, none⟩
      else ⟨decision.alwaysSlow, decision.initialSlowTest.map .int⟩ := by
  rw [sizeCheck, nonnegative_findLongCon wellFormed, constant]

theorem c2SizePasses_constant {size : BitVec 64} (wellFormed : node.WellFormed)
    (constant : findLongCon node.sizeInBytes = some size) :
    c2SizePasses settings node env ↔ size ≤ settings.largestSize := by
  rw [c2SizePasses, nonnegative_findLongCon wellFormed, constant]

theorem c2SizePasses_variable (variableSize : findLongCon node.sizeInBytes = none) :
    c2SizePasses settings node env ↔ (node.sizeInBytes.eval env).toInt < settings.largestSize.toInt := by
  rw [c2SizePasses, variableSize]
  rfl

/-- The offsets are asked for only when the allocator has them. -/
theorem fast_of_attempting (attempting : (slowPathDecision settings dtraceAllocProbes node).alwaysSlow = false) :
    dtraceAllocProbes = false ∧ settings.HasFastPath := by
  by_contra forced
  rw [slowPathDecision_forced forced] at attempting
  cases attempting

theorem expandAllocate_ne_error (message : String) :
    expandAllocate settings dtraceAllocProbes node ≠ .error message := by
  unfold expandAllocate
  by_cases always : (slowPathDecision settings dtraceAllocProbes node).alwaysSlow = true
  · simp [always]
  · obtain ⟨_, fast⟩ := fast_of_attempting (by simpa using always)
    simp only [always, fast.offsets_eq]
    cases (slowPathDecision settings dtraceAllocProbes node).initialSlowTest <;> simp

/-- The parts of consistency that concern the decision alone. -/
structure Decision.Sound (decision : Decision Condition) (goal : Env → Prop) : Prop where
  assertion : ¬ (decision.alwaysSlow = true ∧ decision.initialSlowTest.isSome = true)
  condition : ∀ condition, decision.initialSlowTest = some condition → condition.IsBool
  attempts : ∀ raw env, decision.Attempts raw env ↔ goal env

theorem Decision.sound_slow {goal : Env → Prop} (never : ∀ env, ¬ goal env) :
    Decision.Sound ⟨true, none⟩ goal where
  assertion := by simp
  condition := by simp
  attempts raw env := by simp [Decision.Attempts, never env]

theorem Decision.sound_fast {goal : Env → Prop} (always : ∀ env, goal env) :
    Decision.Sound ⟨false, none⟩ goal where
  assertion := by simp
  condition := by simp
  attempts raw env := by simp [Decision.Attempts, always env]

/-- A run-time test that is a predicate. -/
theorem Decision.sound_test {goal : Env → Prop} {condition : Condition} (isBool : condition.IsBool)
    (decides : ∀ raw env, condition.eval raw env = false ↔ goal env) :
    Decision.Sound ⟨false, some condition⟩ goal where
  assertion := by simp
  condition := by simpa using isBool
  attempts raw env := by simp [Decision.Attempts, decides]

/-- The new test is false when the old one is and the size passes. -/
theorem newSlowTest_eval {raw : BitVec 32 → Bool} (variableSize : findLongCon node.sizeInBytes = none) :
    (Condition.int (.orI (.cMoveI (mmtkSizeBool settings node) (.conI 0) (.conI 1)) node.initialTest)).makePredicate.eval
      raw env = false ↔ node.initialTest.eval env = 0 ∧ c2SizePasses settings node env := by
  rw [Condition.eval_makePredicate_int, c2SizePasses_variable variableSize, ← not_le, ← mmtkSizeBool_eval]
  have both : (Node.orI (.cMoveI (mmtkSizeBool settings node) (.conI 0) (.conI 1)) node.initialTest).eval env = 0 ↔
      (if (mmtkSizeBool settings node).eval env = true then 1 else 0 : BitVec 32) = 0 ∧
        node.initialTest.eval env = 0 := BitVec.or_eq_zero_iff
  rw [both]
  cases (mmtkSizeBool settings node).eval env <;> simp

theorem sizeCheck_sound (wellFormed : node.WellFormed)
    (plain : ¬ (findIntCon node.initialTest = some 1 ∧ findLongCon node.sizeInBytes = none ∨
      findIntCon node.initialTest = none ∧
        ∃ size, findLongCon node.sizeInBytes = some size ∧ size ≤ settings.largestSize)) :
    (sizeCheck settings node (constantTest node)).Sound
      (fun env => node.initialTest.eval env = 0 ∧ c2SizePasses settings node env) := by
  rw [not_or] at plain
  cases size : findLongCon node.sizeInBytes with
  | some bytes =>
    rw [sizeCheck_constant wellFormed size]
    by_cases large : settings.largestSize < bytes
    · rw [if_pos large]
      refine Decision.sound_slow ?_
      rintro env ⟨_, passes⟩
      exact absurd large (BitVec.not_lt.mpr ((c2SizePasses_constant wellFormed size).mp passes))
    · rw [if_neg large]
      have small : bytes ≤ settings.largestSize := BitVec.not_lt.mp large
      cases test : findIntCon node.initialTest with
      | none => exact absurd ⟨test, bytes, size, small⟩ plain.2
      | some value =>
        rw [constantTest_constant test (wellFormed.test value test)]
        rcases wellFormed.test value test with rfl | rfl
        · refine Decision.sound_fast ?_
          intro env
          exact ⟨eval_of_findIntCon test, (c2SizePasses_constant wellFormed size).mpr small⟩
        · refine Decision.sound_slow ?_
          rintro env ⟨zero, _⟩
          rw [eval_of_findIntCon test] at zero
          cases zero
  | none =>
    rw [sizeCheck, size]
    cases test : findIntCon node.initialTest with
    | none =>
      rw [constantTest_runtime test]
      exact Decision.sound_test (Condition.makePredicate_isBool _) (fun raw env => newSlowTest_eval size)
    | some value =>
      rw [constantTest_constant test (wellFormed.test value test)]
      rcases wellFormed.test value test with rfl | rfl
      · refine Decision.sound_test (Condition.makePredicate_isBool _) ?_
        intro raw env
        rw [c2SizePasses_variable size, eval_of_findIntCon test, ← not_le, ← mmtkSizeBool_eval]
        simp [Condition.makePredicate, Condition.eval]
      · exact absurd ⟨test, size⟩ plain.1

end Cases

/-- The generator is consistent for all allocations but the two overlooked kinds. -/
theorem expand_allocate_consistent_iff (settings : Settings) (dtraceAllocProbes : Bool) (node : AllocateNode)
    (wellFormed : node.WellFormed) :
    Consistent settings dtraceAllocProbes node ↔ ¬ Overlooked settings dtraceAllocProbes node := by
  constructor
  · rintro consistent ⟨probes, fast, ⟨test, size⟩ | ⟨test, bytes, size, small⟩⟩
    · refine consistent.assertion ?_
      rw [slowPathDecision_fast probes fast, constantTest_constant test (.inr rfl), sizeCheck, size]
      exact ⟨rfl, rfl⟩
    · refine consistent.condition (.int node.initialTest) ?_
      rw [slowPathDecision_fast probes fast, constantTest_runtime test, sizeCheck_constant wellFormed size,
        if_neg (BitVec.not_lt.mpr small)]
      rfl
  · intro plain
    have sound : (slowPathDecision settings dtraceAllocProbes node).Sound (fun env =>
        node.initialTest.eval env = 0 ∧ c2SizePasses settings node env ∧
          dtraceAllocProbes = false ∧ settings.HasFastPath) := by
      by_cases fast : dtraceAllocProbes = false ∧ settings.HasFastPath
      · rw [slowPathDecision_fast fast.1 fast.2]
        have checked := sizeCheck_sound wellFormed (fun bad => plain ⟨fast.1, fast.2, bad⟩)
        refine ⟨checked.assertion, checked.condition, ?_⟩
        intro raw env
        rw [checked.attempts raw env]
        simp [fast]
      · rw [slowPathDecision_forced fast]
        refine Decision.sound_slow ?_
        rintro env ⟨_, _, probes, enabled⟩
        exact fast ⟨probes, enabled⟩
    refine ⟨sound.assertion, sound.condition, ?_, expandAllocate_ne_error⟩
    intro raw env
    rw [sound.attempts raw env, hasFastPath_iff]

/-- A plain instance allocation: no test, and a small constant size. -/
theorem plain_instance_consistent : Consistent immixSettings false ⟨.conI 0, .conL 24⟩ := by
  refine (expand_allocate_consistent_iff immixSettings false ⟨.conI 0, .conL 24⟩ ⟨?_, ?_⟩).mpr ?_
  · intro value found
    cases found
    exact .inl rfl
  · intro value found
    cases found
    decide
  · rintro ⟨_, _, ⟨test, _⟩ | ⟨test, _⟩⟩ <;> cases test

/-- With a test that is known at run time only and a small constant size, the raw
integer becomes the condition; with a test that is known to be true and a variable
size, the assertion fails. -/
theorem runtime_test_constant_size_inconsistent :
    ¬ Consistent immixSettings false ⟨.parmI 0, .conL 24⟩ ∧
      ¬ Consistent immixSettings false ⟨.conI 1, .parmL 0⟩ := by
  constructor
  · intro consistent
    exact consistent.condition (.int (.parmI 0)) rfl
  · intro consistent
    exact consistent.assertion ⟨rfl, rfl⟩

/-! The bump allocation at run time. -/

section Run

variable {settings : Settings} {dtraceAllocProbes : Bool} {node : AllocateNode} {env : Env}
variable {raw : BitVec 32 → Bool}

theorem oldEdenTop_eval : (oldEdenTop settings settings.offsets).eval env = settings.objectStart env.memory := by
  unfold oldEdenTop
  by_cases compact : settings.selector.tag = .markCompact
  · rw [if_pos compact]
    rfl
  · rw [if_neg compact]
    simp [Node.eval, Settings.objectStart, Settings.extraHeader, compact, Settings.cursor]

theorem newEdenTop_eval : (newEdenTop settings node settings.offsets).eval env =
    settings.objectStart env.memory + node.sizeInBytes.eval env :=
  congrArg (· + node.sizeInBytes.eval env) oldEdenTop_eval

theorem setVoBit_eval {fastOop : Node .long} {memory : Node .memory} :
    (setVoBit settings fastOop memory).eval env =
      { memory.eval env with
        bytes := setMetaBit settings.voBitBase (memory.eval env).bytes (fastOop.eval env) } := by
  have position : ((fastOop.eval env).toNat >>> 3 % 4294967296 &&& 7) % 32 = metaShift (fastOop.eval env) :=
    masked_shift (by omega) (by decide)
  simp [setVoBit, Node.eval, setMetaBit, metaAddress, position, BitVec.twoPow]

theorem fastOopRawmem_bumped (fast : settings.HasFastPath) :
    settings.Bumped (node.sizeInBytes.eval env) env.memory ((fastOopRawmem settings node settings.offsets).eval env) := by
  have separate := fast.separate.1
  unfold fastOopRawmem
  by_cases bit : settings.setsVoBit = true
  · rw [if_pos bit, setVoBit_eval, oldEdenTop_eval]
    refine ⟨?_, ?_, ?_⟩
    · simp [Settings.cursor, Node.eval, newEdenTop_eval]
    · simp [Settings.limit, Node.eval, separate.symm]
    · simp [bit, Node.eval]
  · rw [if_neg bit]
    refine ⟨?_, ?_, ?_⟩
    · simp [Settings.cursor, Node.eval, newEdenTop_eval]
    · simp [Settings.limit, Node.eval, separate.symm]
    · simp [bit, Node.eval]

/-- The emitted graph takes its fast path. -/
structure C2Fits (settings : Settings) (dtraceAllocProbes : Bool) (node : AllocateNode) (raw : BitVec 32 → Bool)
    (env : Env) : Prop where
  attempts : (slowPathDecision settings dtraceAllocProbes node).Attempts raw env
  room : settings.objectStart env.memory + node.sizeInBytes.eval env < settings.limit env.memory

theorem bumpGraph_eval (node : AllocateNode) (raw : BitVec 32 → Bool) (env : Env) (fast : settings.HasFastPath) :
    (settings.objectStart env.memory + node.sizeInBytes.eval env < settings.limit env.memory →
      ∃ after, (bumpGraph settings node settings.offsets).eval raw env =
          .allocated (settings.objectStart env.memory) after ∧
        settings.Bumped (node.sizeInBytes.eval env) env.memory after) ∧
    (¬ settings.objectStart env.memory + node.sizeInBytes.eval env < settings.limit env.memory →
      (bumpGraph settings node settings.offsets).eval raw env = .slow) := by
  have needgc : (Condition.bool (.bool (.cmpP (newEdenTop settings node settings.offsets)
      (.loadP .parmMemory settings.offsets.tlabEndOffset)) .ge)).eval raw env = true ↔
      ¬ settings.objectStart env.memory + node.sizeInBytes.eval env < settings.limit env.memory := by
    rw [BitVec.not_lt, BitVec.le_def, ← newEdenTop_eval]
    exact BoolTest.holds_geU
  constructor
  · intro room
    refine ⟨(fastOopRawmem settings node settings.offsets).eval env, ?_, fastOopRawmem_bumped fast⟩
    rw [bumpGraph, Graph.eval, if_neg (fun full => needgc.mp full room), Graph.eval, oldEdenTop_eval]
  · intro full
    rw [bumpGraph, Graph.eval, if_pos (needgc.mpr full), Graph.eval]

/-- The emitted graph allocates exactly when the allocation is attempted and the
object ends before the limit, and changes nothing otherwise. -/
theorem expandAllocate_eval (settings : Settings) (dtraceAllocProbes : Bool) (node : AllocateNode)
    (raw : BitVec 32 → Bool) (env : Env) :
    ∃ graph, expandAllocate settings dtraceAllocProbes node = .ok graph ∧
      (C2Fits settings dtraceAllocProbes node raw env →
        ∃ after, graph.eval raw env = .allocated (settings.objectStart env.memory) after ∧
          settings.Bumped (node.sizeInBytes.eval env) env.memory after) ∧
      (¬ C2Fits settings dtraceAllocProbes node raw env → graph.eval raw env = .slow) := by
  unfold expandAllocate
  by_cases always : (slowPathDecision settings dtraceAllocProbes node).alwaysSlow = true
  · refine ⟨.slowCall, by simp [always], ?_, fun _ => rfl⟩
    intro fits
    rw [fits.attempts.1] at always
    cases always
  · have attempting : (slowPathDecision settings dtraceAllocProbes node).alwaysSlow = false := by simpa using always
    obtain ⟨_, fast⟩ := fast_of_attempting attempting
    obtain ⟨allocates, full⟩ := bumpGraph_eval node raw env fast
    simp only [attempting, fast.offsets_eq]
    cases test : (slowPathDecision settings dtraceAllocProbes node).initialSlowTest with
    | none =>
      refine ⟨_, rfl, fun fits => allocates fits.room, ?_⟩
      intro never
      exact full (fun room => never ⟨⟨attempting, by simp [test]⟩, room⟩)
    | some condition =>
      refine ⟨_, rfl, ?_, ?_⟩
      · intro fits
        rw [Graph.eval, if_neg (by simp [fits.attempts.2 condition test])]
        exact allocates fits.room
      · intro never
        rw [Graph.eval]
        by_cases slow : condition.eval raw env = true
        · rw [if_pos slow]
          rfl
        · rw [if_neg slow]
          refine full (fun room => never ⟨⟨attempting, ?_⟩, room⟩)
          intro other same
          rw [test, Option.some.injEq] at same
          simpa [← same] using slow

end Run

end MmtkOpenJDK.Allocation
