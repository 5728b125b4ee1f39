import Mathlib.Order.Compare
import MmtkOpenJDK.Foundation.X86

/-! C2's ideal graph. A node is a tree over its inputs; a load names the memory
state it reads, so that its value does not change when memory does. -/

namespace MmtkOpenJDK.Foundation.Ideal

open X86 (Memory)

inductive Kind where
  | int
  | long
  | flags
  | bool
  | memory

/-- `ge` and `ne` of the tests that a `BoolNode` makes on flags. -/
inductive BoolTest where
  | ne
  | ge

/-- Pointers are longs. Thread words are addressed by their offset from the thread. -/
inductive Node : Kind → Type where
  | conI (value : BitVec 32) : Node .int
  | parmI (index : Nat) : Node .int
  | loadB (memory : Node .memory) (address : Node .long) : Node .int
  | loadUB (memory : Node .memory) (address : Node .long) : Node .int
  | andI (left right : Node .int) : Node .int
  | orI (left right : Node .int) : Node .int
  | urShiftI (value count : Node .int) : Node .int
  | lShiftI (value count : Node .int) : Node .int
  | convL2I (value : Node .long) : Node .int
  | cMoveI (condition : Node .bool) (ifFalse ifTrue : Node .int) : Node .int
  | conL (value : BitVec 64) : Node .long
  | parmL (index : Nat) : Node .long
  | loadP (memory : Node .memory) (offset : Nat) : Node .long
  | addL (left right : Node .long) : Node .long
  | andL (left right : Node .long) : Node .long
  | urShiftL (value : Node .long) (count : Node .int) : Node .long
  | cmpI (left right : Node .int) : Node .flags
  | cmpL (left right : Node .long) : Node .flags
  | cmpP (left right : Node .long) : Node .flags
  | bool (flags : Node .flags) (test : BoolTest) : Node .bool
  | parmMemory : Node .memory
  | storeP (memory : Node .memory) (offset : Nat) (value : Node .long) : Node .memory
  | storeB (memory : Node .memory) (address : Node .long) (value : Node .int) : Node .memory

@[reducible] def Kind.Value : Kind → Type
  | .int => BitVec 32
  | .long => BitVec 64
  | .flags => Ordering
  | .bool => Bool
  | .memory => Memory

/-- The run-time values of the graph's inputs. -/
structure Env where
  ints : Nat → BitVec 32
  longs : Nat → BitVec 64
  memory : Memory

def BoolTest.holds : BoolTest → Ordering → Bool
  | .ne, flags => flags != .eq
  | .ge, flags => flags != .lt

def Node.eval (env : Env) : {kind : Kind} → Node kind → kind.Value
  | _, .conI value => value
  | _, .parmI index => env.ints index
  | _, .loadB memory address =>
    ((memory.eval env).bytes (address.eval env)).signExtend 32
  | _, .loadUB memory address =>
    ((memory.eval env).bytes (address.eval env)).setWidth 32
  | _, .andI left right => left.eval env &&& right.eval env
  | _, .orI left right => left.eval env ||| right.eval env
  | _, .urShiftI value count => value.eval env >>> ((count.eval env).toNat % 32)
  | _, .lShiftI value count => value.eval env <<< ((count.eval env).toNat % 32)
  | _, .convL2I value => (value.eval env).setWidth 32
  | _, .cMoveI condition ifFalse ifTrue =>
    if condition.eval env then ifTrue.eval env else ifFalse.eval env
  | _, .conL value => value
  | _, .parmL index => env.longs index
  | _, .loadP memory offset => (memory.eval env).thread offset
  | _, .addL left right => left.eval env + right.eval env
  | _, .andL left right => left.eval env &&& right.eval env
  | _, .urShiftL value count => value.eval env >>> ((count.eval env).toNat % 64)
  | _, .cmpI left right => compare (left.eval env).toInt (right.eval env).toInt
  | _, .cmpL left right => compare (left.eval env).toInt (right.eval env).toInt
  | _, .cmpP left right => compare (left.eval env).toNat (right.eval env).toNat
  | _, .bool flags test => test.holds (flags.eval env)
  | _, .parmMemory => env.memory
  | _, .storeP memory offset value =>
    { memory.eval env with
      thread := Function.update (memory.eval env).thread offset (value.eval env) }
  | _, .storeB memory address value =>
    { memory.eval env with
      bytes := Function.update (memory.eval env).bytes (address.eval env)
        ((value.eval env).setWidth 8) }

/-- A node that a variable of the compiler may hold where a condition is meant. -/
inductive Condition where
  | int (node : Node .int)
  | bool (node : Node .bool)

/-- `BoolNode::make_predicate`: a condition that is true when the value is not 0. -/
def Condition.makePredicate : Condition → Condition
  | .bool node => .bool node
  | .int node => .bool (.bool (.cmpI node (.conI 0)) .ne)

def Condition.IsBool : Condition → Prop
  | .int _ => False
  | .bool _ => True

instance : (condition : Condition) → Decidable condition.IsBool
  | .int _ => isFalse id
  | .bool _ => isTrue trivial

/-- What an `IfNode` decides. It has no meaning for an integer; `raw` is whatever
the backend makes of one. -/
def Condition.eval (raw : BitVec 32 → Bool) (env : Env) : Condition → Bool
  | .int node => raw (node.eval env)
  | .bool node => node.eval env

section Predicates

variable {raw : BitVec 32 → Bool} {env : Env}

theorem BoolTest.holds_ge {left right : Int} : BoolTest.ge.holds (compare left right) = true ↔ right ≤ left := by
  rw [BoolTest.holds, bne_iff_ne, ne_eq, compare_lt_iff_lt, not_lt]

theorem BoolTest.holds_geU {left right : Nat} : BoolTest.ge.holds (compare left right) = true ↔ right ≤ left := by
  rw [BoolTest.holds, bne_iff_ne, ne_eq, compare_lt_iff_lt, not_lt]

theorem Condition.makePredicate_isBool (condition : Condition) : condition.makePredicate.IsBool := by
  cases condition <;> trivial

theorem Condition.eval_makePredicate_int {node : Node .int} :
    (Condition.int node).makePredicate.eval raw env = false ↔ node.eval env = 0 := by
  change BoolTest.ne.holds (compare (node.eval env).toInt (0 : BitVec 32).toInt) = false ↔ _
  rw [BoolTest.holds, bne_eq_false_iff_eq, compare_eq_iff_eq, BitVec.toInt_inj]

end Predicates

/-- The words of the thread that a memory state has stores to. -/
def Node.threadWords : {kind : Kind} → Node kind → List Nat
  | _, .storeP memory offset _ => offset :: memory.threadWords
  | _, .storeB memory _ _ => memory.threadWords
  | _, _ => []

theorem Node.eval_thread {env : Env} {offset : Nat} :
    (node : Node .memory) → offset ∉ node.threadWords → (node.eval env).thread offset = env.memory.thread offset
  | .parmMemory, _ => rfl
  | .storeP memory stored value, other => by
    rw [Node.threadWords, List.mem_cons, not_or] at other
    rw [Node.eval, ← Node.eval_thread memory other.2]
    exact Function.update_of_ne other.1 _ _
  | .storeB memory address value, other => by
    rw [Node.eval, ← Node.eval_thread memory other]

/-- `find_int_con` and `find_long_con`. -/
def findIntCon : Node .int → Option (BitVec 32)
  | .conI value => some value
  | _ => none

def findLongCon : Node .long → Option (BitVec 64)
  | .conL value => some value
  | _ => none

end MmtkOpenJDK.Foundation.Ideal
