import MmtkOpenJDK.Barriers.Mutators

/-! The generational object barrier: at a safepoint, a slot of a mature object
that holds a nursery object belongs to a logged object or to a recorded range. -/

namespace MmtkOpenJDK.Barriers

open MmtkOpenJDK.Foundation

variable {Oop Thread : Type} [DecidableEq Oop] [DecidableEq Thread]

/-- A generational plan: an object may be cloned into when it is fresh, C2 leaves
barriers for null values out, and a new object has its unlog bit set exactly when
it has already been promoted. -/
def objectConfig (fields : Oop → List Nat) (compressed enableBarrierFastpath enableAllocationFastpath : Bool) :
    Config Oop where
  runtime := mmtkObjectBarrierSetRuntime compressed enableBarrierFastpath
  fields := fields
  compressed := compressed
  enableAllocationFastpath := enableAllocationFastpath
  skipConstNull := true
  mayClone memory dst := memory.fresh dst
  mayAllocate space unlogged := unlogged == decide (space = .mature)

/-- The heap after a GC: mature objects are unlogged and refer to no nursery object. -/
structure AfterGC (memory : Memory Oop) : Prop where
  unlogged : ∀ object, memory.space object = .mature → memory.unlogged object = true
  references : ∀ slot value, memory.space slot.base = .mature → memory.slots slot = some value →
    memory.space value ≠ .nursery
  live : ∀ slot, memory.Live (memory.slots slot)

/-- The unlog bit of the object is clear, or the slot is in a recorded range. -/
def Settled (memory : Memory Oop) (slot : Slot Oop) : Prop :=
  memory.unlogged slot.base = false ∨ slot ∈ memory.ranges

/-- Running the code settles the slot. -/
def Owes (slot : Slot Oop) : BarrierCode Oop → Prop
  | .done => False
  | .act (.recordRange slots) rest => slot ∈ slots ∨ Owes slot rest
  | .act _ rest => Owes slot rest
  | .branch (.isUnlogged src) taken other => Owes slot taken ∧ (src = slot.base ∨ Owes slot other)
  | .branch (.tryLog src) taken other => src = slot.base ∨ (Owes slot taken ∧ Owes slot other)

/-- Running the code logs the object. -/
def Enqueues (object : Oop) : BarrierCode Oop → Prop
  | .done => False
  | .act (.enqueue src) rest => src = object ∨ Enqueues object rest
  | .act _ rest => Enqueues object rest
  | .branch _ taken other => Enqueues object taken ∧ Enqueues object other

/-- Writes to the object need no barrier any more. -/
def Exempt (memory : Memory Oop) (object : Oop) : Prop :=
  memory.space object = .nursery ∨ (memory.space object = .mature ∧ memory.unlogged object = false)

/-- A write is of null, to an object known to be exempt, or followed by a barrier;
a bit is cleared only by who then logs the object. -/
def Checked (memory : Memory Oop) (known : Oop → Prop) : BarrierCode Oop → Prop
  | .done => True
  | .act (.store slot value) rest =>
    memory.Live value ∧ (value = none ∨ known slot.base ∨ Owes slot rest) ∧ Checked memory known rest
  | .act (.cmpxchg slot newValue _) rest =>
    memory.Live newValue ∧ (newValue = none ∨ known slot.base ∨ Owes slot rest) ∧ Checked memory known rest
  | .act (.record _) rest => Checked memory known rest
  | .act (.clearUnlog _) _ => False
  | .act (.enqueue _) rest => Checked memory known rest
  | .act (.recordRange _) rest => Checked memory known rest
  | .act (.exitAllocation newObj) rest => known newObj ∧ Checked memory known rest
  | .branch (.isUnlogged src) taken other =>
    memory.Allocated src ∧ Checked memory known taken ∧
      Checked memory (fun object => object = src ∨ known object) other
  | .branch (.tryLog src) taken other =>
    memory.Allocated src ∧ Enqueues src taken ∧
      Checked memory (fun object => object = src ∨ known object) taken ∧
      Checked memory (fun object => object = src ∨ known object) other

/-- References are to allocated objects, and fresh objects are exempt. -/
structure Generational (memory : Memory Oop) : Prop where
  live : ∀ slot, memory.Live (memory.slots slot)
  fresh : ∀ object, memory.fresh object = true → Exempt memory object
  new : ∀ object, memory.new object = true → memory.Allocated object

/-- Allocated objects stay where they are, and cleared bits stay clear. -/
def Grows (memory after : Memory Oop) : Prop :=
  ∀ object, memory.Allocated object →
    after.space object = memory.space object ∧ (memory.unlogged object = false → after.unlogged object = false)

def CheckedCode (memory : Memory Oop) (code : BarrierCode Oop) : Prop :=
  ∃ known, (∀ object, known object → Exempt memory object) ∧ Checked memory known code

variable {memory after : Memory Oop} {code : BarrierCode Oop}

omit [DecidableEq Oop] in
theorem checkedCode_done : CheckedCode memory .done := ⟨fun _ => False, by simp, trivial⟩

omit [DecidableEq Oop] in
theorem Exempt.allocated {object : Oop} (exempt : Exempt memory object) : memory.Allocated object := by
  rcases exempt with nursery | ⟨mature, _⟩
  · simp [Memory.Allocated, nursery]
  · simp [Memory.Allocated, mature]

omit [DecidableEq Oop] in
theorem Exempt.grows {object : Oop} (exempt : Exempt memory object) (grows : Grows memory after) :
    Exempt after object := by
  obtain ⟨space, cleared⟩ := grows object exempt.allocated
  rcases exempt with nursery | ⟨mature, clear⟩
  · exact .inl (space.trans nursery)
  · exact .inr ⟨space.trans mature, cleared clear⟩

omit [DecidableEq Oop] in
theorem Grows.allocated (grows : Grows memory after) {object : Oop} (allocated : memory.Allocated object) :
    after.Allocated object := by
  rw [Memory.Allocated, (grows object allocated).1]
  exact allocated

omit [DecidableEq Oop] in
theorem Grows.live (grows : Grows memory after) {value : Option Oop} (live : memory.Live value) :
    after.Live value :=
  fun object same => grows.allocated (live object same)

omit [DecidableEq Oop] in
theorem Checked.grows {known : Oop → Prop} (checked : Checked memory known code) (grows : Grows memory after) :
    Checked after known code := by
  induction code generalizing known with
  | done => trivial
  | act action rest ih =>
    cases action with
    | store slot value => exact ⟨grows.live checked.1, checked.2.1, ih checked.2.2⟩
    | cmpxchg slot newValue compareValue => exact ⟨grows.live checked.1, checked.2.1, ih checked.2.2⟩
    | record slot => exact ih checked
    | clearUnlog src => exact checked
    | enqueue src => exact ih checked
    | recordRange slots => exact ih checked
    | exitAllocation newObj => exact ⟨checked.1, ih checked.2⟩
  | branch test taken other ihTaken ihOther =>
    cases test with
    | isUnlogged src => exact ⟨grows.allocated checked.1, ihTaken checked.2.1, ihOther checked.2.2⟩
    | tryLog src =>
      exact ⟨grows.allocated checked.1, checked.2.1, ihTaken checked.2.2.1, ihOther checked.2.2.2⟩

omit [DecidableEq Oop] in
theorem CheckedCode.grows (correct : CheckedCode memory code) (grows : Grows memory after) :
    CheckedCode after code := by
  obtain ⟨known, exempt, checked⟩ := correct
  exact ⟨known, fun object isKnown => (exempt object isKnown).grows grows, checked.grows grows⟩

omit [DecidableEq Oop] in
/-- Only the unlog bits and the spaces matter to the others. -/
theorem Grows.of_eq (space : after.space = memory.space) (unlogged : after.unlogged = memory.unlogged) :
    Grows memory after := by
  intro object _
  exact ⟨by rw [space], by rw [unlogged]; exact id⟩

theorem grows_clear (src : Oop) : Grows memory (memory.clear src) := by
  intro object _
  refine ⟨rfl, ?_⟩
  intro clear
  by_cases same : object = src
  · simp [Memory.clear, same]
  · simpa [Memory.clear, same] using clear

theorem Generational.write (valid : Generational memory) {slot : Slot Oop} {value : Option Oop}
    (live : memory.Live value) : Generational (memory.write slot value) where
  live := by
    intro other object found
    by_cases same : other = slot
    · exact live object (by simpa [Memory.write, same] using found)
    · exact valid.live other object (by simpa [Memory.write, same] using found)
  fresh := valid.fresh
  new := valid.new

theorem CheckedCode.apply {action : Action Oop} {rest : BarrierCode Oop} (valid : Generational memory)
    (correct : CheckedCode memory (.act action rest)) :
    Generational (memory.apply action) ∧ CheckedCode (memory.apply action) rest ∧
      Grows memory (memory.apply action) := by
  obtain ⟨known, exempt, checked⟩ := correct
  cases action with
  | store slot value =>
    have grows : Grows memory (memory.write slot value) := .of_eq rfl rfl
    exact ⟨valid.write checked.1, CheckedCode.grows ⟨known, exempt, checked.2.2⟩ grows, grows⟩
  | cmpxchg slot newValue compareValue =>
    by_cases equal : memory.slots slot = compareValue
    · rw [Memory.apply, if_pos equal]
      have grows : Grows memory (memory.write slot newValue) := .of_eq rfl rfl
      exact ⟨valid.write checked.1, CheckedCode.grows ⟨known, exempt, checked.2.2⟩ grows, grows⟩
    · rw [Memory.apply, if_neg equal]
      exact ⟨valid, ⟨known, exempt, checked.2.2⟩, .of_eq rfl rfl⟩
  | record slot =>
    have grows : Grows memory (memory.apply (.record slot)) := .of_eq rfl rfl
    exact ⟨⟨valid.live, valid.fresh, valid.new⟩, CheckedCode.grows ⟨known, exempt, checked⟩ grows, grows⟩
  | clearUnlog src => exact checked.elim
  | enqueue src =>
    have grows : Grows memory (memory.apply (.enqueue src)) := .of_eq rfl rfl
    exact ⟨⟨valid.live, valid.fresh, valid.new⟩, CheckedCode.grows ⟨known, exempt, checked⟩ grows, grows⟩
  | recordRange slots =>
    have grows : Grows memory (memory.apply (.recordRange slots)) := .of_eq rfl rfl
    exact ⟨⟨valid.live, valid.fresh, valid.new⟩, CheckedCode.grows ⟨known, exempt, checked⟩ grows, grows⟩
  | exitAllocation newObj =>
    have grows : Grows memory (memory.apply (.exitAllocation newObj)) := .of_eq rfl rfl
    refine ⟨⟨valid.live, ?_, valid.new⟩, CheckedCode.grows ⟨known, exempt, checked.2⟩ grows, grows⟩
    intro object isFresh
    by_cases same : object = newObj
    · exact same ▸ exempt newObj checked.1
    · exact valid.fresh object (by simpa [Memory.apply, same] using isFresh)

omit [DecidableEq Oop] in
theorem Memory.Allocated.nursery_or_mature {object : Oop} (allocated : memory.Allocated object) :
    memory.space object = .nursery ∨ memory.space object = .mature := by
  cases space : memory.space object with
  | unallocated => exact absurd space allocated
  | nursery => exact .inl rfl
  | mature => exact .inr rfl

omit [DecidableEq Oop] in
theorem exempt_of_clear {object : Oop} (allocated : memory.Allocated object) (clear : memory.unlogged object = false) :
    Exempt memory object := by
  rcases allocated.nursery_or_mature with nursery | mature
  · exact .inl nursery
  · exact .inr ⟨mature, clear⟩

/-- After its own test a thread knows the bit to be clear, unless it goes on to
the slow path. -/
theorem CheckedCode.test {test : Test Oop} {taken other : BarrierCode Oop} (valid : Generational memory)
    (correct : CheckedCode memory (.branch test taken other)) :
    Generational (memory.test test).2 ∧
      CheckedCode (memory.test test).2 (if (memory.test test).1 then taken else other) ∧
      Grows memory (memory.test test).2 := by
  obtain ⟨known, exempt, checked⟩ := correct
  cases test with
  | isUnlogged src =>
    refine ⟨valid, ?_, .of_eq rfl rfl⟩
    by_cases bit : (memory.test (.isUnlogged src)).1 = true
    · rw [if_pos bit]
      exact ⟨known, exempt, checked.2.1⟩
    · rw [if_neg bit]
      refine ⟨_, ?_, checked.2.2⟩
      rintro object (same | isKnown)
      · rw [same]
        exact exempt_of_clear checked.1 (by simpa [Memory.test] using bit)
      · exact exempt object isKnown
  | tryLog src =>
    have grows : Grows memory (memory.clear src) := grows_clear src
    have cleared : ∀ object, object = src ∨ known object → Exempt (memory.clear src) object := by
      rintro object (same | isKnown)
      · rw [same]
        exact exempt_of_clear (grows.allocated checked.1) (by simp [Memory.clear])
      · exact (exempt object isKnown).grows grows
    refine ⟨⟨valid.live, fun object isFresh => (valid.fresh object isFresh).grows grows, valid.new⟩, ?_, grows⟩
    by_cases bit : (memory.test (.tryLog src)).1 = true
    · rw [if_pos bit]
      exact ⟨_, cleared, checked.2.2.1.grows grows⟩
    · rw [if_neg bit]
      exact ⟨_, cleared, checked.2.2.2.grows grows⟩

def objectDiscipline (Oop : Type) [DecidableEq Oop] : (machine Oop).Discipline where
  invariant := Generational
  correct := CheckedCode
  relies := Grows
  sound := by
    intro memory code valid correct
    cases code with
    | done => exact ⟨valid, correct, .of_eq rfl rfl⟩
    | act action rest => exact correct.apply valid
    | branch test taken other => exact correct.test valid
  stable := fun _ _ _ grows correct => correct.grows grows

/-- A slot of a mature object that holds a nursery object. -/
def Remote (memory : Memory Oop) (slot : Slot Oop) : Prop :=
  memory.space slot.base = .mature ∧ ∃ value, memory.slots slot = some value ∧ memory.space value = .nursery

/-- Every remote slot is settled or some thread still owes it, and every object
with a clear bit is logged or some thread is about to log it. -/
structure Accounted (memory : Memory Oop) (codes : Thread → BarrierCode Oop) : Prop where
  references : ∀ slot, Remote memory slot → Settled memory slot ∨ ∃ thread, Owes slot (codes thread)
  logs : ∀ object, memory.space object = .mature → memory.unlogged object = false →
    object ∈ memory.logged ∨ ∃ thread, Enqueues object (codes thread)

section Step

variable {slot : Slot Oop} {object : Oop}

theorem Settled.clear (settled : Settled memory slot) (src : Oop) : Settled (memory.clear src) slot := by
  refine settled.imp_left ?_
  intro clear
  by_cases same : slot.base = src
  · simp [Memory.clear, same]
  · simpa [Memory.clear, same] using clear

/-- The parts of the memory that a step changes in one direction only. -/
theorem step_monotone (memory : Memory Oop) (code : BarrierCode Oop) :
    ((machine Oop).step memory code).1.space = memory.space ∧
      (∀ slot, Settled memory slot → Settled ((machine Oop).step memory code).1 slot) ∧
      ∀ object ∈ memory.logged, object ∈ ((machine Oop).step memory code).1.logged := by
  cases code with
  | done => exact ⟨rfl, fun _ settled => settled, fun _ member => member⟩
  | act action rest =>
    cases action with
    | store slot value => exact ⟨rfl, fun _ settled => settled, fun _ member => member⟩
    | cmpxchg slot newValue compareValue =>
      simp only [Machine.step, machine, Memory.apply]
      split <;> exact ⟨rfl, fun _ settled => settled, fun _ member => member⟩
    | record slot => exact ⟨rfl, fun _ settled => settled, fun _ member => member⟩
    | clearUnlog src => exact ⟨rfl, fun _ settled => settled.clear src, fun _ member => member⟩
    | enqueue src => exact ⟨rfl, fun _ settled => settled, fun _ member => List.mem_cons_of_mem _ member⟩
    | recordRange slots =>
      exact ⟨rfl, fun _ settled => settled.imp_right (List.mem_append_right _), fun _ member => member⟩
    | exitAllocation newObj => exact ⟨rfl, fun _ settled => settled, fun _ member => member⟩
  | branch test taken other =>
    cases test with
    | isUnlogged src => exact ⟨rfl, fun _ settled => settled, fun _ member => member⟩
    | tryLog src => exact ⟨rfl, fun _ settled => settled.clear src, fun _ member => member⟩

theorem Owes.step (owes : Owes slot code) :
    Settled ((machine Oop).step memory code).1 slot ∨ Owes slot ((machine Oop).step memory code).2 := by
  cases code with
  | done => exact owes.elim
  | act action rest =>
    cases action with
    | recordRange slots =>
      refine owes.imp_left ?_
      intro member
      exact .inr (List.mem_append_left _ member)
    | store | cmpxchg | record | clearUnlog | enqueue | exitAllocation => exact .inr owes
  | branch test taken other =>
    cases test with
    | isUnlogged src =>
      by_cases bit : memory.unlogged src = true
      · right
        simpa [Machine.step, machine, Memory.test, bit] using owes.1
      · rcases owes.2 with same | owed
        · left
          left
          simpa [Machine.step, machine, Memory.test, same] using bit
        · right
          simpa [Machine.step, machine, Memory.test, bit] using owed
    | tryLog src =>
      rcases owes with same | ⟨owedTaken, owedOther⟩
      · left
        left
        simp [Machine.step, machine, Memory.test, Memory.clear, same]
      · right
        by_cases bit : memory.unlogged src = true
        · simpa [Machine.step, machine, Memory.test, bit] using owedTaken
        · simpa [Machine.step, machine, Memory.test, bit] using owedOther

theorem Enqueues.step (enqueues : Enqueues object code) :
    object ∈ ((machine Oop).step memory code).1.logged ∨
      Enqueues object ((machine Oop).step memory code).2 := by
  cases code with
  | done => exact enqueues.elim
  | act action rest =>
    cases action with
    | enqueue src =>
      refine enqueues.imp_left ?_
      intro same
      simp [Machine.step, machine, Memory.apply, same]
    | store | cmpxchg | record | clearUnlog | recordRange | exitAllocation => exact .inr enqueues
  | branch test taken other =>
    right
    by_cases bit : (memory.test test).1 = true
    · simpa [Machine.step, machine, bit] using enqueues.1
    · simpa [Machine.step, machine, bit] using enqueues.2

/-- A write makes a slot remote only if the slot is settled or the code that
follows settles it. -/
theorem remote_write {known : Oop → Prop} {written : Slot Oop} {value : Option Oop} {rest : BarrierCode Oop}
    (exempt : ∀ object, known object → Exempt memory object)
    (checked : value = none ∨ known written.base ∨ Owes written rest) (remote : Remote (memory.write written value) slot) :
    Remote memory slot ∨ Settled (memory.write written value) slot ∨ Owes slot rest := by
  obtain ⟨mature, held, found, nursery⟩ := remote
  by_cases same : slot = written
  · subst same
    right
    rcases checked with null | isKnown | owed
    · simp [Memory.write, null] at found
    · rcases exempt slot.base isKnown with inNursery | ⟨_, clear⟩
      · rw [show memory.space slot.base = .mature from mature] at inNursery
        cases inNursery
      · exact .inl (.inl clear)
    · exact .inr owed
  · left
    exact ⟨mature, held, by simpa [Memory.write, same] using found, nursery⟩

theorem CheckedCode.remote_step (correct : CheckedCode memory code)
    (remote : Remote ((machine Oop).step memory code).1 slot) :
    Remote memory slot ∨ Settled ((machine Oop).step memory code).1 slot ∨
      Owes slot ((machine Oop).step memory code).2 := by
  obtain ⟨known, exempt, checked⟩ := correct
  cases code with
  | done => exact .inl remote
  | act action rest =>
    cases action with
    | store written value => exact remote_write exempt checked.2.1 remote
    | cmpxchg written newValue compareValue =>
      simp only [Machine.step, machine, Memory.apply] at remote ⊢
      by_cases equal : memory.slots written = compareValue
      · rw [if_pos equal] at remote ⊢
        exact remote_write exempt checked.2.1 remote
      · rw [if_neg equal] at remote
        exact .inl remote
    | record | clearUnlog | enqueue | recordRange | exitAllocation => exact .inl remote
  | branch test taken other =>
    cases test with
    | isUnlogged src => exact .inl remote
    | tryLog src => exact .inl remote

/-- A thread that clears a bit goes on to log the object. -/
theorem CheckedCode.cleared_step (correct : CheckedCode memory code)
    (clear : ((machine Oop).step memory code).1.unlogged object = false) :
    memory.unlogged object = false ∨ Enqueues object ((machine Oop).step memory code).2 := by
  obtain ⟨known, exempt, checked⟩ := correct
  cases code with
  | done => exact .inl clear
  | act action rest =>
    cases action with
    | clearUnlog src => exact checked.elim
    | cmpxchg written newValue compareValue =>
      left
      simp only [Machine.step, machine, Memory.apply] at clear
      split at clear <;> exact clear
    | store | record | enqueue | recordRange | exitAllocation => exact .inl clear
  | branch test taken other =>
    cases test with
    | isUnlogged src => exact .inl clear
    | tryLog src =>
      by_cases same : object = src
      · subst same
        cases bit : memory.unlogged object with
        | false => exact .inl rfl
        | true =>
          right
          simpa [Machine.step, machine, Memory.test, bit] using checked.2.1
      · left
        simpa [Machine.step, machine, Memory.test, Memory.clear, same] using clear

theorem Accounted.step {codes : Thread → BarrierCode Oop} (accounted : Accounted memory codes) {thread : Thread}
    (correct : CheckedCode memory (codes thread)) :
    Accounted ((machine Oop).step memory (codes thread)).1
      (Function.update codes thread ((machine Oop).step memory (codes thread)).2) := by
  obtain ⟨space, settles, logs⟩ := step_monotone memory (codes thread)
  constructor
  · intro slot remote
    rcases correct.remote_step remote with before | settled | owed
    · rcases accounted.references slot before with settled | someone
      · exact .inl (settles slot settled)
      · exact Machine.exists_update someone Owes.step
    · exact .inl settled
    · exact .inr ⟨thread, by simpa using owed⟩
  · intro object mature clear
    rw [space] at mature
    rcases correct.cleared_step clear with before | enqueues
    · rcases accounted.logs object mature before with logged | someone
      · exact .inl (logs object logged)
      · exact Machine.exists_update someone Enqueues.step
    · exact .inr ⟨thread, by simpa using enqueues⟩

omit [DecidableEq Oop] in
/-- A thread that starts an access owed nothing. -/
theorem Accounted.start {codes : Thread → BarrierCode Oop} (accounted : Accounted memory codes) {thread : Thread}
    (idle : (codes thread).isDone = true) (started : BarrierCode Oop) :
    Accounted memory (Function.update codes thread started) := by
  have done : codes thread = .done := Code.eq_done idle
  constructor
  · intro slot remote
    rcases accounted.references slot remote with settled | someone
    · exact .inl settled
    · refine Machine.exists_update someone ?_
      intro owed
      rw [done] at owed
      exact owed.elim
  · intro object mature clear
    rcases accounted.logs object mature clear with logged | someone
    · exact .inl logged
    · refine Machine.exists_update someone ?_
      intro enqueues
      rw [done] at enqueues
      exact enqueues.elim

end Step

/-! The code of every access is checked. -/

section Operations

variable {known : Oop → Prop} {rest : BarrierCode Oop} {src : Oop}

omit [DecidableEq Oop] in
theorem checked_slow (allocated : memory.Allocated src)
    (checked : ∀ more : Oop → Prop, more src → Checked memory more rest) :
    Checked memory known (ObjectBarrier.objectReferenceWriteSlow src rest) :=
  ⟨allocated, .inl rfl, checked _ (.inl rfl), checked _ (.inl rfl)⟩

omit [DecidableEq Oop] in
theorem checked_probableWrite (compressed enableBarrierFastpath : Bool) (allocated : memory.Allocated src)
    (checked : ∀ more : Oop → Prop, more src → Checked memory more rest) :
    Checked memory known
      ((mmtkObjectBarrierSetRuntime compressed enableBarrierFastpath).objectProbableWrite src rest) := by
  have full : ∀ known, Checked memory known (ObjectBarrier.objectProbableWrite src rest) :=
    fun _ => ⟨allocated, checked_slow allocated checked, checked _ (.inl rfl)⟩
  cases enableBarrierFastpath with
  | true => exact ⟨allocated, full _, checked _ (.inl rfl)⟩
  | false => exact full known

omit [DecidableEq Oop] in
theorem checked_post (compressed enableBarrierFastpath : Bool) (slot : Slot Oop) (target : Option Oop)
    (allocated : memory.Allocated src) :
    Checked memory known
      ((mmtkObjectBarrierSetRuntime compressed enableBarrierFastpath).objectReferenceWritePost src slot target .done) := by
  have full : Checked memory known (ObjectBarrier.objectReferenceWritePost src .done) :=
    ⟨allocated, checked_slow allocated (fun _ _ => trivial), trivial⟩
  cases enableBarrierFastpath <;> exact full

omit [DecidableEq Oop] in
/-- The post-barrier of an object settles all its slots. -/
theorem owes_post (compressed enableBarrierFastpath : Bool) (slot : Slot Oop) (target : Option Oop) :
    Owes slot ((mmtkObjectBarrierSetRuntime compressed enableBarrierFastpath).objectReferenceWritePost
      slot.base slot target .done) := by
  have full : Owes slot (ObjectBarrier.objectReferenceWritePost slot.base .done) := ⟨.inl rfl, .inl rfl⟩
  cases enableBarrierFastpath <;> exact full

omit [DecidableEq Oop] in
theorem owes_stores {Item : Type} {slot : Slot Oop} (items : List Item) (slotOf : Item → Slot Oop)
    (valueOf : Item → Option Oop) (owes : Owes slot rest) :
    Owes slot (.acts (items.map fun item => .store (slotOf item) (valueOf item)) rest) := by
  induction items with
  | nil => simpa using owes
  | cons item items ih => exact ih

omit [DecidableEq Oop] in
theorem checked_stores {Item : Type} {items : List Item} {slotOf : Item → Slot Oop}
    {valueOf : Item → Option Oop} (live : ∀ item ∈ items, memory.Live (valueOf item))
    (barrier : ∀ item ∈ items, known (slotOf item).base ∨ Owes (slotOf item) rest)
    (checked : Checked memory known rest) :
    Checked memory known (.acts (items.map fun item => .store (slotOf item) (valueOf item)) rest) := by
  induction items with
  | nil => simpa using checked
  | cons item items ih =>
    refine ⟨live item (by simp), .inr ?_, ih (fun other member => live other (List.mem_cons_of_mem _ member))
      (fun other member => barrier other (List.mem_cons_of_mem _ member))⟩
    exact (barrier item (by simp)).imp_right (owes_stores items slotOf valueOf)

omit [DecidableEq Oop] in
/-- Every access through the barrier set, and every store of C2, is followed by the
barrier it needs. -/
theorem Generational.checkedCode {fields : Oop → List Nat}
    {compressed enableBarrierFastpath enableAllocationFastpath : Bool} (valid : Generational memory)
    {operation : Operation Oop}
    (promised : operation.Valid
      (objectConfig fields compressed enableBarrierFastpath enableAllocationFastpath) memory) :
    CheckedCode memory
      (operation.code (objectConfig fields compressed enableBarrierFastpath enableAllocationFastpath)) := by
  have stored : ∀ base offset value, memory.Allocated base → memory.Live value →
      CheckedCode memory (AccessBarrier.oopStoreInHeapAt
        (mmtkObjectBarrierSetRuntime compressed enableBarrierFastpath) base offset value) := by
    intro base offset value allocated live
    exact ⟨fun _ => False, by simp, live,
      .inr (.inr (owes_post compressed enableBarrierFastpath ⟨base, offset⟩ value)),
      checked_post compressed enableBarrierFastpath _ _ allocated⟩
  cases operation with
  | store base offset value => exact stored base offset value promised.1 promised.2.2
  | cmpxchg newValue base offset compareValue =>
    exact ⟨fun _ => False, by simp, promised.2.2,
      .inr (.inr (owes_post compressed enableBarrierFastpath ⟨base, offset⟩ newValue)),
      checked_post compressed enableBarrierFastpath _ _ promised.1⟩
  | xchg newValue base offset => exact stored base offset newValue promised.1 promised.2.2
  | arraycopy srcObj srcOffsetInBytes srcRaw dstObj dstOffsetInBytes dstRaw length copied =>
    refine ⟨fun _ => False, by simp, checked_stores ?_ ?_ trivial⟩
    · intro element member
      exact (promised.2 element member).2
    · intro element member
      exact .inr (.inl (mem_regionSlots.mpr ⟨element.1, (promised.2 element member).1, rfl⟩))
  | clone src dst copied =>
    refine ⟨fun object => object = dst, ?_, checked_stores promised.2 (fun _ _ => .inl rfl) trivial⟩
    intro object same
    exact same ▸ valid.fresh dst promised.1
  | slowpathAllocationExit newObj =>
    exact ⟨fun _ => False, by simp, checked_probableWrite compressed enableBarrierFastpath
      (valid.new newObj promised) (fun _ isKnown => ⟨isKnown, trivial⟩)⟩
  | c2Store base offset value node =>
    obtain ⟨allocated, _, live, facts⟩ := promised
    by_cases removed : canRemoveBarrier enableAllocationFastpath node true = true
    · simp only [Operation.code, objectConfig, removed, ↓reduceIte]
      rcases fresh_of_canRemoveBarrier facts removed with ⟨_, null⟩ | fresh
      · exact ⟨fun _ => False, by simp, live, .inl null, trivial⟩
      · refine ⟨fun object => object = base, ?_, live, .inr (.inl rfl), trivial⟩
        intro object same
        exact same ▸ valid.fresh base fresh
    · simp only [Operation.code, objectConfig, removed]
      exact stored base offset value allocated live

end Operations

section Allocation

variable {newObj : Oop} {space : Space} {unlogged : Bool}

theorem grows_allocate (unused : memory.space newObj = .unallocated) :
    Grows memory (memory.allocate newObj space unlogged) := by
  intro object allocated
  have other : object ≠ newObj := fun same => allocated (same ▸ unused)
  exact ⟨by simp [Memory.allocate, other], by simp [Memory.allocate, other]⟩

theorem Generational.allocate (valid : Generational memory) (unused : memory.space newObj = .unallocated)
    (real : space ≠ .unallocated) : Generational (memory.allocate newObj space unlogged) := by
  have grows : Grows memory (memory.allocate newObj space unlogged) := grows_allocate unused
  refine ⟨?_, ?_, ?_⟩
  · intro slot object found
    by_cases same : slot.base = newObj
    · simp [Memory.allocate, same] at found
    · exact grows.live (valid.live slot) object (by simpa [Memory.allocate, same] using found)
  · intro object isFresh
    by_cases same : object = newObj
    · left
      simpa [Memory.allocate, same] using isFresh
    · exact (valid.fresh object (by simpa [Memory.allocate, same] using isFresh)).grows grows
  · intro object isNew
    by_cases same : object = newObj
    · simpa [Memory.Allocated, Memory.allocate, same] using real
    · exact grows.allocated (valid.new object (by simpa [Memory.allocate, same] using isNew))

omit [DecidableEq Thread] in
/-- A new object refers to nothing, nothing refers to it, and its bit is set if it
was promoted. -/
theorem Accounted.allocate {codes : Thread → BarrierCode Oop} (accounted : Accounted memory codes)
    (valid : Generational memory) (unused : memory.space newObj = .unallocated)
    (bit : (unlogged == decide (space = .mature)) = true) :
    Accounted (memory.allocate newObj space unlogged) codes := by
  constructor
  · rintro slot ⟨mature, value, found, nursery⟩
    by_cases own : slot.base = newObj
    · simp [Memory.allocate, own] at found
    · have held : memory.slots slot = some value := by simpa [Memory.allocate, own] using found
      have other : value ≠ newObj := fun same => valid.live slot value held (same ▸ unused)
      have remote : Remote memory slot := by
        refine ⟨?_, value, held, ?_⟩
        · simpa [Memory.allocate, own] using mature
        · simpa [Memory.allocate, other] using nursery
      refine (accounted.references slot remote).imp_left ?_
      intro settled
      refine settled.imp_left ?_
      intro clear
      simpa [Memory.allocate, own] using clear
  · intro object mature clear
    by_cases own : object = newObj
    · simp only [Memory.allocate, own, Function.update_self] at mature clear
      simp [mature, clear] at bit
    · refine accounted.logs object ?_ ?_
      · simpa [Memory.allocate, own] using mature
      · simpa [Memory.allocate, own] using clear

end Allocation

omit [DecidableEq Oop] [DecidableEq Thread] in
/-- When no thread is inside an access, nothing is left to be done. -/
theorem Accounted.idle {codes : Thread → BarrierCode Oop} (accounted : Accounted memory codes)
    (idle : ∀ thread, (codes thread).isDone = true) {slot : Slot Oop} (remote : Remote memory slot) :
    slot.base ∈ memory.logged ∨ slot ∈ memory.ranges := by
  have nothing : ∀ {owes : BarrierCode Oop → Prop}, ¬ owes .done → ¬ ∃ thread, owes (codes thread) := by
    rintro owes free ⟨thread, owed⟩
    rw [Code.eq_done (idle thread)] at owed
    exact free owed
  rcases (accounted.references slot remote).resolve_right (nothing id) with clear | recorded
  · exact .inl ((accounted.logs slot.base remote.1 clear).resolve_right (nothing id))
  · exact .inr recorded

section Run

variable {state : State Oop Thread}

/-- What holds between two collections. -/
structure Remembering (state : State Oop Thread) : Prop where
  checked : (objectDiscipline Oop).Holds state.memory state.codes
  accounted : Accounted state.memory state.codes

omit [DecidableEq Thread] in
theorem Remembering.initial (afterGC : AfterGC state.memory) (idle : ∀ thread, (state.codes thread).isDone = true)
    (notNew : ∀ object, state.memory.new object = false) (notFresh : ∀ object, state.memory.fresh object = false) :
    Remembering state := by
  refine ⟨⟨⟨afterGC.live, by simp [notFresh], by simp [notNew]⟩, ?_⟩, ?_, ?_⟩
  · intro thread
    rw [Code.eq_done (idle thread)]
    exact checkedCode_done
  · rintro slot ⟨mature, value, found, nursery⟩
    exact absurd nursery (afterGC.references slot value mature found)
  · intro object mature clear
    simp [afterGC.unlogged object mature] at clear

/-- Every event keeps it. -/
theorem Remembering.next {fields : Oop → List Nat} {compressed enableBarrierFastpath enableAllocationFastpath : Bool}
    {event : Event Oop Thread} (valid : Remembering state)
    (allowed : enabled (objectConfig fields compressed enableBarrierFastpath enableAllocationFastpath) state event) :
    Remembering
      (next (objectConfig fields compressed enableBarrierFastpath enableAllocationFastpath) state event) := by
  have memory := valid.checked.1
  cases event with
  | start thread operation =>
    exact ⟨valid.checked.start thread (memory.checkedCode allowed.2), valid.accounted.start allowed.1 _⟩
  | step thread => exact ⟨valid.checked.step thread, valid.accounted.step (valid.checked.2 thread)⟩
  | allocate newObj space bit =>
    obtain ⟨unused, real, promised⟩ := allowed
    exact ⟨valid.checked.change (memory.allocate unused real) (grows_allocate unused),
      valid.accounted.allocate memory unused promised⟩
  | safepoint =>
    refine ⟨valid.checked.change ⟨memory.live, ?_, memory.new⟩ (.of_eq rfl rfl),
      ⟨valid.accounted.references, valid.accounted.logs⟩⟩
    intro object isFresh
    cases isFresh

end Run

/-- In every run of any number of mutators between two GCs, when a safepoint is
reached, a slot of a mature object that holds a nursery object belongs to a logged
object or to a recorded range. -/
theorem object_barrier_remembers (fields : Oop → List Nat)
    (compressed enableBarrierFastpath enableAllocationFastpath : Bool)
    {start state : State Oop Thread} {events : List (Event Oop Thread)}
    (initial : (mutatorSystem (objectConfig fields compressed enableBarrierFastpath enableAllocationFastpath)
      AfterGC).initial start)
    (run : (mutatorSystem (objectConfig fields compressed enableBarrierFastpath enableAllocationFastpath)
      AfterGC).Run start events state)
    (safepoint : enabled (objectConfig fields compressed enableBarrierFastpath enableAllocationFastpath)
      state .safepoint)
    (slot : Slot Oop) (value : Oop) (mature : state.memory.space slot.base = .mature)
    (held : state.memory.slots slot = some value) (nursery : state.memory.space value = .nursery) :
    slot.base ∈ state.memory.logged ∨ slot ∈ state.memory.ranges := by
  obtain ⟨afterGC, startIdle, notNew, notFresh⟩ := initial
  have valid : Remembering state :=
    run.invariant Remembering (.initial afterGC startIdle notNew notFresh) fun _ _ valid allowed => valid.next allowed
  exact valid.accounted.idle safepoint ⟨mature, value, held, nursery⟩

/-- Object 0 is mature and refers to nothing. -/
def matureMemory : Memory Nat where
  slots _ := none
  unlogged object := object == 0
  space object := if object = 0 then .mature else .unallocated
  new _ := false
  fresh _ := false
  recorded := []
  logged := []
  ranges := []

def justAllocatedNode : StoreNode where
  valIsConstNull := false
  srcIsJustAllocated := true
  offsetIsBot := false
  hasAlloc := true
  controlIsInitialize := false
  initializesAlloc := false

/-- Object 2 is promoted while it is allocated and then initialized without a
barrier, while another thread stores to object 0. -/
def promotedAllocation : List (Event Nat Bool) :=
  [.allocate 1 .nursery false, .allocate 2 .mature true, .start true (.slowpathAllocationExit 2),
    .start false (.store 0 8 (some 1)), .step true, .step true, .step false, .step true, .step true, .step true,
    .start true (.c2Store 2 8 (some 1) justAllocatedNode), .step false, .step true, .step false, .step false]

def promotedState : State Nat Bool :=
  promotedAllocation.foldl (next (objectConfig (fun _ => [8]) true true true)) ⟨matureMemory, fun _ => .done⟩

theorem promoted_allocation_logged :
    (promotedState.memory.slots ⟨2, 8⟩ = some 1 ∧ 2 ∈ promotedState.memory.logged) ∧
      promotedState.memory.slots ⟨0, 8⟩ = some 1 ∧ 0 ∈ promotedState.memory.logged := by
  have allowed : (mutatorSystem (objectConfig (fun _ => [8]) true true true) AfterGC).Allowed
      ⟨matureMemory, fun _ => .done⟩ promotedAllocation := by
    refine ⟨⟨rfl, by decide, rfl⟩, ⟨by decide, by decide, rfl⟩, ⟨rfl, rfl⟩,
      ⟨rfl, by decide, by decide, ?_⟩, rfl, rfl, rfl, rfl, rfl, rfl,
      ⟨rfl, by decide, by decide, ?_, ?_⟩, rfl, rfl, rfl, rfl, trivial⟩
    · intro object same
      cases same
      decide
    · intro object same
      cases same
      decide
    · exact ⟨by decide, fun _ => by decide, by decide⟩
  have initial : (mutatorSystem (objectConfig (fun _ => [8]) true true true) AfterGC).initial
      (⟨matureMemory, fun _ => .done⟩ : State Nat Bool) := by
    refine ⟨⟨?_, ?_, ?_⟩, fun _ => rfl, fun _ => rfl, fun _ => rfl⟩
    · intro object mature
      by_cases same : object = 0
      · simp [matureMemory, same]
      · simp [matureMemory, same] at mature
    · intro slot value _ found
      cases found
    · intro slot object found
      cases found
  have remembers := object_barrier_remembers (fun _ => [8]) true true true initial allowed.run
    (by intro thread; cases thread <;> rfl)
  have unrecorded : ∀ slot : Slot Nat, slot ∉ promotedState.memory.ranges := fun _ member => by cases member
  refine ⟨⟨by decide, ?_⟩, by decide, ?_⟩
  · exact (remembers ⟨2, 8⟩ 1 (by decide) (by decide) (by decide)).resolve_right (unrecorded _)
  · exact (remembers ⟨0, 8⟩ 1 (by decide) (by decide) (by decide)).resolve_right (unrecorded _)

end MmtkOpenJDK.Barriers
