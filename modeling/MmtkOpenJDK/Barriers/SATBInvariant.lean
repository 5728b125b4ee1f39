import MmtkOpenJDK.Barriers.Mutators

/-! The SATB runtime preserves the snapshot: whatever the mutators do, a reference
of the heap at the start of marking is still in its slot or has been recorded. -/

namespace MmtkOpenJDK.Barriers

open MmtkOpenJDK.Foundation

variable {Oop Thread : Type} [DecidableEq Oop] [DecidableEq Thread]

/-- Concurrent marking: an object may be cloned into when it was allocated after
the snapshot, and C2 leaves out no barrier for a null value. -/
def satbConfig (fields : Oop → List Nat) (compressed enableBarrierFastpath enableAllocationFastpath : Bool) :
    Config Oop where
  runtime := mmtkSATBBarrierSetRuntime fields compressed enableBarrierFastpath
  fields := fields
  compressed := compressed
  enableAllocationFastpath := enableAllocationFastpath
  skipConstNull := false
  mayClone memory dst := memory.new dst
  mayAllocate _ _ := true

/-- The snapshot objects have their unlog bit set. -/
def AllUnlogged (memory : Memory Oop) : Prop := ∀ object, memory.Allocated object → memory.unlogged object = true

section Snapshot

variable (fields : Oop → List Nat) (origin : Memory Oop)

/-- A reference slot of a snapshot object. -/
def Tracked (slot : Slot Oop) : Prop := origin.Allocated slot.base ∧ slot.offset ∈ fields slot.base

/-- The reference of the snapshot in this slot has been recorded. -/
def Secured (memory : Memory Oop) (slot : Slot Oop) : Prop :=
  Tracked fields origin slot → ∀ value, origin.slots slot = some value → value ∈ memory.recorded

/-- A slot that is written is secured before, a bit is cleared when the whole
object is secured. `known` are the slots secured by the thread's past. -/
def Covered (known : Slot Oop → Prop) : BarrierCode Oop → Prop
  | .done => True
  | .act (.store slot _) rest => (Tracked fields origin slot → known slot) ∧ Covered known rest
  | .act (.cmpxchg slot _ _) rest => (Tracked fields origin slot → known slot) ∧ Covered known rest
  | .act (.record slot) rest => Covered (fun other => other = slot ∨ known other) rest
  | .act (.clearUnlog src) rest => (∀ offset ∈ fields src, known ⟨src, offset⟩) ∧ Covered known rest
  | .act (.enqueue _) rest => Covered known rest
  | .act (.recordRange _) rest => Covered known rest
  | .act (.exitAllocation newObj) rest => ¬ origin.Allocated newObj ∧ Covered known rest
  | .branch (.isUnlogged src) taken other =>
    Covered known taken ∧
      Covered (fun slot => (slot.base = src ∧ slot.offset ∈ fields src) ∨ known slot) other
  | .branch (.tryLog src) taken other =>
    (∀ offset ∈ fields src, known ⟨src, offset⟩) ∧ Covered known taken ∧ Covered known other

structure Snapshot (memory : Memory Oop) : Prop where
  kept : ∀ slot value, Tracked fields origin slot → origin.slots slot = some value →
    memory.slots slot = some value ∨ value ∈ memory.recorded
  cleared : ∀ src, memory.unlogged src = false → ∀ offset ∈ fields src, Secured fields origin memory ⟨src, offset⟩
  new : ∀ object, memory.new object = true → ¬ origin.Allocated object
  fresh : ∀ object, memory.fresh object = true → ¬ origin.Allocated object
  allocated : ∀ object, origin.Allocated object → memory.Allocated object

/-- Nothing recorded is forgotten. -/
def Remembers (memory after : Memory Oop) : Prop := ∀ value ∈ memory.recorded, value ∈ after.recorded

def SecuredCode (memory : Memory Oop) (code : BarrierCode Oop) : Prop :=
  ∃ known, (∀ slot, known slot → Secured fields origin memory slot) ∧ Covered fields origin known code

end Snapshot

variable {fields : Oop → List Nat} {origin memory : Memory Oop}

omit [DecidableEq Oop] in
theorem Covered.securedCode {code : BarrierCode Oop} (covered : Covered fields origin (fun _ => False) code) :
    SecuredCode fields origin memory code :=
  ⟨fun _ => False, by simp, covered⟩

omit [DecidableEq Oop] in
theorem securedCode_done : SecuredCode fields origin memory .done := Covered.securedCode trivial

/-- Recording the current value of a slot secures it. -/
theorem Snapshot.secured_record (valid : Snapshot fields origin memory) (slot : Slot Oop) :
    Secured fields origin (memory.apply (.record slot)) slot := by
  intro tracked value same
  rcases valid.kept slot value tracked same with current | recorded
  · simp [Memory.apply, current]
  · simp [Memory.apply, recorded]

omit [DecidableEq Oop] in
theorem Secured.mono {after : Memory Oop} {slot : Slot Oop} (secured : Secured fields origin memory slot)
    (remembers : Remembers memory after) : Secured fields origin after slot :=
  fun tracked value same => remembers value (secured tracked value same)

/-- Writing a slot that is secured, or not of the snapshot, keeps the snapshot. -/
theorem Snapshot.write (valid : Snapshot fields origin memory) {slot : Slot Oop}
    (secured : Secured fields origin memory slot) (value : Option Oop) :
    Snapshot fields origin (memory.write slot value) where
  kept := by
    intro other old tracked same
    by_cases written : other = slot
    · exact .inr (secured (written ▸ tracked) old (written ▸ same))
    · simpa [Memory.write, written] using valid.kept other old tracked same
  cleared := valid.cleared
  new := valid.new
  fresh := valid.fresh
  allocated := valid.allocated

theorem Snapshot.clear (valid : Snapshot fields origin memory) {src : Oop}
    (secured : ∀ offset ∈ fields src, Secured fields origin memory ⟨src, offset⟩) :
    Snapshot fields origin (memory.clear src) where
  kept := valid.kept
  cleared := by
    intro object clear
    by_cases same : object = src
    · exact same ▸ secured
    · exact valid.cleared object (by simpa [Memory.clear, same] using clear)
  new := valid.new
  fresh := valid.fresh
  allocated := valid.allocated

/-- A thread's next action keeps the snapshot and what the thread has secured. -/
theorem SecuredCode.apply {action : Action Oop} {rest : BarrierCode Oop} (valid : Snapshot fields origin memory)
    (correct : SecuredCode fields origin memory (.act action rest)) :
    Snapshot fields origin (memory.apply action) ∧ SecuredCode fields origin (memory.apply action) rest ∧
      Remembers memory (memory.apply action) := by
  obtain ⟨known, secured, covered⟩ := correct
  cases action with
  | store slot value =>
    have own : Secured fields origin memory slot := fun tracked => secured slot (covered.1 tracked) tracked
    exact ⟨valid.write own value, ⟨known, secured, covered.2⟩, fun _ member => member⟩
  | cmpxchg slot newValue compareValue =>
    have own : Secured fields origin memory slot := fun tracked => secured slot (covered.1 tracked) tracked
    by_cases equal : memory.slots slot = compareValue
    · rw [Memory.apply, if_pos equal]
      exact ⟨valid.write own newValue, ⟨known, secured, covered.2⟩, fun _ member => member⟩
    · rw [Memory.apply, if_neg equal]
      exact ⟨valid, ⟨known, secured, covered.2⟩, fun _ member => member⟩
  | record slot =>
    have remembers : Remembers memory (memory.apply (.record slot)) :=
      fun value member => List.mem_append_right _ member
    refine ⟨⟨?_, ?_, valid.new, valid.fresh, valid.allocated⟩, ⟨_, ?_, covered⟩, remembers⟩
    · intro other value tracked same
      exact (valid.kept other value tracked same).imp_right (remembers value)
    · intro src clear offset member
      exact (valid.cleared src clear offset member).mono remembers
    · rintro other (same | earlier)
      · exact same ▸ valid.secured_record slot
      · exact (secured other earlier).mono remembers
  | clearUnlog src =>
    refine ⟨valid.clear ?_, ⟨known, secured, covered.2⟩, fun _ member => member⟩
    intro offset member
    exact secured _ (covered.1 offset member)
  | enqueue src =>
    exact ⟨⟨valid.kept, valid.cleared, valid.new, valid.fresh, valid.allocated⟩,
      ⟨known, secured, covered⟩, fun _ member => member⟩
  | recordRange slots =>
    exact ⟨⟨valid.kept, valid.cleared, valid.new, valid.fresh, valid.allocated⟩,
      ⟨known, secured, covered⟩, fun _ member => member⟩
  | exitAllocation newObj =>
    refine ⟨⟨valid.kept, valid.cleared, valid.new, ?_, valid.allocated⟩,
      ⟨known, secured, covered.2⟩, fun _ member => member⟩
    intro object isFresh
    by_cases same : object = newObj
    · exact same ▸ covered.1
    · exact valid.fresh object (by simpa [Memory.apply, same] using isFresh)

/-- A thread that finds the bit cleared knows that the whole object is secured. -/
theorem SecuredCode.test {test : Test Oop} {taken other : BarrierCode Oop} (valid : Snapshot fields origin memory)
    (correct : SecuredCode fields origin memory (.branch test taken other)) :
    Snapshot fields origin (memory.test test).2 ∧
      SecuredCode fields origin (memory.test test).2 (if (memory.test test).1 then taken else other) ∧
      Remembers memory (memory.test test).2 := by
  obtain ⟨known, secured, covered⟩ := correct
  cases test with
  | isUnlogged src =>
    refine ⟨valid, ?_, fun _ member => member⟩
    by_cases bit : (memory.test (.isUnlogged src)).1 = true
    · rw [if_pos bit]
      exact ⟨known, secured, covered.1⟩
    · rw [if_neg bit]
      refine ⟨_, ?_, covered.2⟩
      rintro slot (⟨same, member⟩ | earlier)
      · have clear : memory.unlogged src = false := by simpa [Memory.test] using bit
        exact same ▸ valid.cleared src clear slot.offset member
      · exact secured _ earlier
  | tryLog src =>
    refine ⟨valid.clear (fun offset member => secured _ (covered.1 offset member)), ?_, fun _ member => member⟩
    by_cases bit : (memory.test (.tryLog src)).1 = true
    · rw [if_pos bit]
      exact ⟨known, secured, covered.2.1⟩
    · rw [if_neg bit]
      exact ⟨known, secured, covered.2.2⟩

def satbDiscipline (fields : Oop → List Nat) (origin : Memory Oop) : (machine Oop).Discipline where
  invariant := Snapshot fields origin
  correct := SecuredCode fields origin
  relies := Remembers
  sound := by
    intro memory code valid correct
    cases code with
    | done => exact ⟨valid, correct, fun _ member => member⟩
    | act action rest => exact correct.apply valid
    | branch test taken other => exact correct.test valid
  stable := by
    intro memory after code remembers correct
    obtain ⟨known, secured, covered⟩ := correct
    exact ⟨known, fun slot isKnown => (secured slot isKnown).mono remembers, covered⟩

/-! The code of every access is covered. -/

omit [DecidableEq Oop] in
theorem Covered.mono {known more : Slot Oop → Prop} {code : BarrierCode Oop}
    (covered : Covered fields origin known code) (weaker : ∀ slot, known slot → more slot) :
    Covered fields origin more code := by
  induction code generalizing known more with
  | done => trivial
  | act action rest ih =>
    cases action with
    | store slot value => exact ⟨fun tracked => weaker slot (covered.1 tracked), ih covered.2 weaker⟩
    | cmpxchg slot newValue compareValue =>
      exact ⟨fun tracked => weaker slot (covered.1 tracked), ih covered.2 weaker⟩
    | record slot => exact ih covered (fun other => Or.imp_right (weaker other))
    | clearUnlog src => exact ⟨fun offset member => weaker _ (covered.1 offset member), ih covered.2 weaker⟩
    | enqueue src => exact ih covered weaker
    | recordRange slots => exact ih covered weaker
    | exitAllocation newObj => exact ⟨covered.1, ih covered.2 weaker⟩
  | branch test taken other ihTaken ihOther =>
    cases test with
    | isUnlogged src =>
      exact ⟨ihTaken covered.1 weaker, ihOther covered.2 (fun slot => Or.imp_right (weaker slot))⟩
    | tryLog src =>
      exact ⟨fun offset member => weaker _ (covered.1 offset member), ihTaken covered.2.1 weaker,
        ihOther covered.2.2 weaker⟩

omit [DecidableEq Oop] in
theorem covered_records {known : Slot Oop → Prop} {slots : List (Slot Oop)} {rest : BarrierCode Oop}
    (covered : Covered fields origin (fun slot => slot ∈ slots ∨ known slot) rest) :
    Covered fields origin known (.acts (slots.map .record) rest) := by
  induction slots generalizing known with
  | nil => simpa using covered
  | cons slot slots ih =>
    refine ih (covered.mono ?_)
    rintro other (member | isKnown)
    · rcases List.mem_cons.mp member with same | later
      · exact .inr (.inl same)
      · exact .inl later
    · exact .inr (.inr isKnown)

omit [DecidableEq Oop] in
/-- After the pre-barrier of an object all its reference fields are secured. -/
theorem covered_pre (compressed enableBarrierFastpath : Bool) {known : Slot Oop → Prop} (src : Oop) (slot : Slot Oop)
    (target : Option Oop) {rest : BarrierCode Oop}
    (covered : Covered fields origin (fun slot => (slot.base = src ∧ slot.offset ∈ fields src) ∨ known slot) rest) :
    Covered fields origin known
      ((mmtkSATBBarrierSetRuntime fields compressed enableBarrierFastpath).objectReferenceWritePre src slot target
        rest) := by
  have slow : Covered fields origin known (SATBBarrier.objectReferenceWriteSlow fields src rest) := by
    refine covered_records ⟨?_, covered.mono ?_⟩
    · intro offset member
      exact .inl (List.mem_map.mpr ⟨offset, member, rfl⟩)
    · rintro ⟨base, offset⟩ (⟨same, member⟩ | isKnown)
      · exact .inl (List.mem_map.mpr ⟨offset, member, by rw [← same]⟩)
      · exact .inr isKnown
  cases enableBarrierFastpath with
  | true => exact ⟨slow, covered⟩
  | false => exact ⟨slow, covered⟩

omit [DecidableEq Oop] in
/-- After the array-copy pre-barrier the destination range is secured. -/
theorem covered_arrayCopyPre (compressed enableBarrierFastpath : Bool) {known : Slot Oop → Prop} (src dst : Slot Oop)
    {count : Nat} {rest : BarrierCode Oop}
    (covered : Covered fields origin
      (fun slot => (∃ index < count, slot = dst.element compressed index) ∨ known slot) rest) :
    Covered fields origin known
      ((mmtkSATBBarrierSetRuntime fields compressed enableBarrierFastpath).objectReferenceArrayCopyPre src dst count
        rest) := by
  by_cases empty : count = 0
  · simp only [mmtkSATBBarrierSetRuntime, empty, ↓reduceIte]
    refine covered.mono ?_
    rintro slot (⟨index, bound, _⟩ | isKnown)
    · omega
    · exact isKnown
  · simp only [mmtkSATBBarrierSetRuntime, empty, ↓reduceIte]
    refine covered_records (covered.mono ?_)
    rintro slot (element | isKnown)
    · exact .inl (mem_regionSlots.mpr element)
    · exact .inr isKnown

omit [DecidableEq Oop] in
theorem covered_stores {known : Slot Oop → Prop} {Item : Type} {items : List Item} {slotOf : Item → Slot Oop}
    {valueOf : Item → Option Oop} {rest : BarrierCode Oop}
    (secured : ∀ item ∈ items, Tracked fields origin (slotOf item) → known (slotOf item))
    (covered : Covered fields origin known rest) :
    Covered fields origin known (.acts (items.map fun item => .store (slotOf item) (valueOf item)) rest) := by
  induction items with
  | nil => simpa using covered
  | cons item items ih =>
    exact ⟨secured item (by simp), ih (fun other member => secured other (List.mem_cons_of_mem _ member))⟩

omit [DecidableEq Oop] in
/-- Every access through the barrier set secures the slots before it writes them. -/
theorem Snapshot.securedCode {compressed enableBarrierFastpath enableAllocationFastpath : Bool}
    (valid : Snapshot fields origin memory) {operation : Operation Oop}
    (promised : operation.Valid
      (satbConfig fields compressed enableBarrierFastpath enableAllocationFastpath) memory) :
    SecuredCode fields origin memory
      (operation.code (satbConfig fields compressed enableBarrierFastpath enableAllocationFastpath)) := by
  have stored : ∀ base offset value, SecuredCode fields origin memory (AccessBarrier.oopStoreInHeapAt
      (mmtkSATBBarrierSetRuntime fields compressed enableBarrierFastpath) base offset value) := by
    intro base offset value
    exact ⟨fun _ => False, by simp,
      covered_pre compressed enableBarrierFastpath base _ value ⟨fun tracked => .inl ⟨rfl, tracked.2⟩, trivial⟩⟩
  cases operation with
  | store base offset value => exact stored base offset value
  | cmpxchg newValue base offset compareValue =>
    exact ⟨fun _ => False, by simp,
      covered_pre compressed enableBarrierFastpath base _ newValue ⟨fun tracked => .inl ⟨rfl, tracked.2⟩, trivial⟩⟩
  | xchg newValue base offset => exact stored base offset newValue
  | arraycopy srcObj srcOffsetInBytes srcRaw dstObj dstOffsetInBytes dstRaw length copied =>
    refine ⟨fun _ => False, by simp, covered_arrayCopyPre compressed enableBarrierFastpath _ _ ?_⟩
    refine covered_stores ?_ trivial
    intro element member _
    exact .inl ⟨element.1, (promised.2 element member).1, rfl⟩
  | clone src dst copied =>
    refine ⟨fun _ => False, by simp, covered_stores ?_ trivial⟩
    intro field _ tracked
    exact valid.new dst promised.1 tracked.1
  | slowpathAllocationExit newObj => exact ⟨fun _ => False, by simp, valid.new newObj promised, trivial⟩
  | c2Store base offset value node =>
    by_cases removed : canRemoveBarrier enableAllocationFastpath node false = true
    · have fresh : memory.fresh base = true := by
        simpa using fresh_of_canRemoveBarrier promised.2.2.2 removed
      simp only [Operation.code, satbConfig, removed, ↓reduceIte]
      exact ⟨fun _ => False, by simp, fun tracked => valid.fresh base fresh tracked.1, trivial⟩
    · simp only [Operation.code, satbConfig, removed]
      exact stored base offset value

/-- A new object is not part of the snapshot. -/
theorem Snapshot.allocate (valid : Snapshot fields origin memory) {newObj : Oop} (space : Space) (unlogged : Bool)
    (unused : memory.space newObj = .unallocated) :
    Snapshot fields origin (memory.allocate newObj space unlogged) := by
  have outside : ¬ origin.Allocated newObj := fun allocated => valid.allocated newObj allocated unused
  have different : ∀ object, origin.Allocated object → object ≠ newObj :=
    fun object allocated same => outside (same ▸ allocated)
  refine ⟨?_, ?_, ?_, ?_, ?_⟩
  · intro slot value tracked same
    simpa [Memory.allocate, different slot.base tracked.1] using valid.kept slot value tracked same
  · intro src clear offset member tracked value same
    have other := different src tracked.1
    exact valid.cleared src (by simpa [Memory.allocate, other] using clear) offset member tracked value same
  · intro object isNew
    by_cases same : object = newObj
    · exact same ▸ outside
    · exact valid.new object (by simpa [Memory.allocate, same] using isNew)
  · intro object isFresh
    by_cases same : object = newObj
    · exact same ▸ outside
    · exact valid.fresh object (by simpa [Memory.allocate, same] using isFresh)
  · intro object allocated
    have other := different object allocated
    simpa [Memory.Allocated, Memory.allocate, other] using valid.allocated object allocated

omit [DecidableEq Oop] in
theorem Snapshot.initial (unlogged : AllUnlogged memory) (notNew : ∀ object, memory.new object = false)
    (notFresh : ∀ object, memory.fresh object = false) : Snapshot fields memory memory := by
  refine ⟨fun _ _ _ same => .inl same, ?_, by simp [notNew], by simp [notFresh], fun _ allocated => allocated⟩
  intro src clear offset _ tracked
  simp [unlogged src tracked.1] at clear

omit [DecidableEq Oop] in
theorem Snapshot.safepoint (valid : Snapshot fields origin memory) :
    Snapshot fields origin { memory with fresh := fun _ => false } := by
  refine ⟨valid.kept, valid.cleared, valid.new, ?_, valid.allocated⟩
  intro object isFresh
  cases isFresh

/-- In every run of any number of mutators, every reference that was in a slot of a
snapshot object is still in that slot or has been recorded. -/
theorem satb_preserves_snapshot (fields : Oop → List Nat)
    (compressed enableBarrierFastpath enableAllocationFastpath : Bool)
    {start state : State Oop Thread} {events : List (Event Oop Thread)}
    (initial : (mutatorSystem (satbConfig fields compressed enableBarrierFastpath enableAllocationFastpath)
      AllUnlogged).initial start)
    (run : (mutatorSystem (satbConfig fields compressed enableBarrierFastpath enableAllocationFastpath)
      AllUnlogged).Run start events state)
    (object : Oop) (snapshot : start.memory.Allocated object) (offset : Nat) (field : offset ∈ fields object)
    (value : Oop) (held : start.memory.slots ⟨object, offset⟩ = some value) :
    state.memory.slots ⟨object, offset⟩ = some value ∨ value ∈ state.memory.recorded := by
  obtain ⟨unlogged, idle, notNew, notFresh⟩ := initial
  have holds : (satbDiscipline fields start.memory).Holds state.memory state.codes := by
    refine run.invariant (fun state => (satbDiscipline fields start.memory).Holds state.memory state.codes) ?_ ?_
    · refine ⟨.initial unlogged notNew notFresh, fun thread => ?_⟩
      rw [Code.eq_done (idle thread)]
      exact securedCode_done
    · intro state event valid allowed
      cases event with
      | start thread operation => exact valid.start thread (valid.1.securedCode allowed.2)
      | step thread => exact valid.step thread
      | allocate newObj space bit =>
        exact valid.change (valid.1.allocate space bit allowed.1) (fun _ member => member)
      | safepoint => exact valid.change valid.1.safepoint (fun _ member => member)
  exact holds.1.kept ⟨object, offset⟩ value ⟨snapshot, field⟩ held

/-- Object 0 has one reference field and refers to object 1. -/
def pairMemory : Memory Nat where
  slots slot := if slot = ⟨0, 8⟩ then some 1 else none
  unlogged _ := true
  space object := if object < 2 then .mature else .unallocated
  new _ := false
  fresh _ := false
  recorded := []
  logged := []
  ranges := []

def pairFields (object : Nat) : List Nat := if object = 0 then [8] else []

/-- Two threads overwrite the field and both find the unlog bit set. -/
def racingStores : List (Event Nat Bool) :=
  [.start true (.store 0 8 none), .step true, .start false (.xchg (some 0) 0 8), .step false,
    .step true, .step true, .step true]

def racingState : State Nat Bool :=
  racingStores.foldl (next (satbConfig pairFields true true true)) ⟨pairMemory, fun _ => .done⟩

theorem racing_stores_recorded :
    racingState.memory.slots ⟨0, 8⟩ = none ∧ 1 ∈ racingState.memory.recorded := by
  have allowed : (mutatorSystem (satbConfig pairFields true true true) AllUnlogged).Allowed
      ⟨pairMemory, fun _ => .done⟩ racingStores := by
    refine ⟨⟨rfl, by decide, by decide, ?_⟩, rfl, ⟨rfl, by decide, by decide, ?_⟩, rfl, rfl, rfl, rfl, trivial⟩
    · intro object same
      cases same
    · intro object same
      cases same
      decide
  have overwritten : racingState.memory.slots ⟨0, 8⟩ = none := by decide
  have kept := satb_preserves_snapshot pairFields true true true
    ⟨fun _ _ => rfl, fun _ => rfl, fun _ => rfl, fun _ => rfl⟩ allowed.run 0 (by decide) 8 (by decide) 1 (by decide)
  refine ⟨overwritten, kept.resolve_left ?_⟩
  intro still
  exact absurd (overwritten.symm.trans still) (by simp)

end MmtkOpenJDK.Barriers
