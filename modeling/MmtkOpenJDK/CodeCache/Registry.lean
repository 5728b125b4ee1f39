import MmtkOpenJDK.CodeCache.Scan
import MmtkOpenJDK.Foundation.TransitionSystem
import Mathlib.Data.Fintype.Basic

/-! The code-cache root registry under any number of threads, and the ledger of
registrations that says what the registry is for. Every lock-protected section
is one event; a registration or unregistration of an nmethod overlaps neither
another one of the same nmethod nor a scan. -/

namespace MmtkOpenJDK.CodeCache

open MmtkOpenJDK.Heap MmtkOpenJDK.Foundation

/-- The thread-local `NMETHOD_SLOTS` and the two global maps
`NURSERY_CODE_CACHE_ROOTS` and `MATURE_CODE_CACHE_ROOTS`. -/
structure Registry (Thread : Type) where
  nmethodSlots : Thread → List Address
  nursery : RootMap
  mature : RootMap

variable {Thread : Type} [DecidableEq Thread]

def mmtkAddNmethodOop (registry : Registry Thread) (thread : Thread) (addr : Address) : Registry Thread :=
  { registry with
    nmethodSlots := Function.update registry.nmethodSlots thread (registry.nmethodSlots thread ++ [addr]) }

def mmtkRegisterNmethod (registry : Registry Thread) (thread : Thread) (nm : Address) : Registry Thread :=
  if (registry.nmethodSlots thread).isEmpty then registry
  else
    { registry with
      nmethodSlots := Function.update registry.nmethodSlots thread []
      nursery := registry.nursery.insert nm (registry.nmethodSlots thread) }

/-- The first locked section of `mmtk_unregister_nmethod`. -/
def Registry.removeNursery (registry : Registry Thread) (nm : Address) : Registry Thread :=
  { registry with nursery := registry.nursery.erase nm }

/-- The second locked section of `mmtk_unregister_nmethod`. -/
def Registry.removeMature (registry : Registry Thread) (nm : Address) : Registry Thread :=
  { registry with mature := registry.mature.erase nm }

/-- What a thread is in the middle of. -/
inductive Activity where
  | idle
  | registering (nm : Address)
  | unregistering (nm : Address)
deriving DecidableEq

def Activity.nmethod : Activity → Option Address
  | .idle => none
  | .registering nm => some nm
  | .unregistering nm => some nm

structure State (Thread : Type) where
  registry : Registry Thread
  activity : Thread → Activity

inductive Event (Thread : Type) where
  | beginRegister (thread : Thread) (nm : Address)
  | addOop (thread : Thread) (nm slot : Address)
  | register (thread : Thread) (nm : Address)
  | unregisterNursery (thread : Thread) (nm : Address)
  | unregisterMature (thread : Thread) (nm : Address)
  | scan (isCurrentGcNursery : Bool) (matureOrder nurseryOrder : List Entry)

def State.Untouched (state : State Thread) (nm : Address) : Prop :=
  ∀ thread, (state.activity thread).nmethod ≠ some nm

/-- The two maps yield their entries in some order. -/
def State.Scannable (state : State Thread) (matureOrder nurseryOrder : List Entry) : Prop :=
  (∀ thread, state.activity thread = .idle) ∧
    matureOrder.Perm state.registry.mature.entries ∧ nurseryOrder.Perm state.registry.nursery.entries

def enabled (state : State Thread) : Event Thread → Prop
  | .beginRegister thread nm => state.activity thread = .idle ∧ state.Untouched nm
  | .addOop thread nm _ => state.activity thread = .registering nm
  | .register thread nm => state.activity thread = .registering nm
  | .unregisterNursery thread nm => state.activity thread = .idle ∧ state.Untouched nm
  | .unregisterMature thread nm => state.activity thread = .unregistering nm
  | .scan _ matureOrder nurseryOrder => state.Scannable matureOrder nurseryOrder

/-- `register_nmethod` is `beginRegister`, one `addOop` for each slot, and
`register`; `unregister_nmethod` is the two removals. -/
def next (compressed : Bool) (capacity : Nat) (state : State Thread) : Event Thread → State Thread
  | .beginRegister thread nm =>
    { state with activity := Function.update state.activity thread (.registering nm) }
  | .addOop thread _ slot => { state with registry := mmtkAddNmethodOop state.registry thread slot }
  | .register thread nm =>
    { registry := mmtkRegisterNmethod state.registry thread nm
      activity := Function.update state.activity thread .idle }
  | .unregisterNursery thread nm =>
    { registry := state.registry.removeNursery nm
      activity := Function.update state.activity thread (.unregistering nm) }
  | .unregisterMature thread nm =>
    { registry := state.registry.removeMature nm
      activity := Function.update state.activity thread .idle }
  | .scan isCurrentGcNursery matureOrder nurseryOrder =>
    { state with registry := { state.registry with
        nursery := ∅
        mature := (doWork compressed capacity isCurrentGcNursery state.registry.mature
          matureOrder nurseryOrder).mature } }

instance [Fintype Thread] (state : State Thread) (event : Event Thread) : Decidable (enabled state event) :=
  match event with
  | .beginRegister _ _ => inferInstanceAs (Decidable (_ ∧ ∀ _, _))
  | .addOop _ _ _ => inferInstanceAs (Decidable (_ = _))
  | .register _ _ => inferInstanceAs (Decidable (_ = _))
  | .unregisterNursery _ _ => inferInstanceAs (Decidable (_ ∧ ∀ _, _))
  | .unregisterMature _ _ => inferInstanceAs (Decidable (_ = _))
  | .scan _ _ _ => inferInstanceAs (Decidable ((∀ _, _) ∧ _ ∧ _))

def emptyState : State Thread := ⟨⟨fun _ => [], ∅, ∅⟩, fun _ => .idle⟩

def registrySystem (Thread : Type) [DecidableEq Thread] (compressed : Bool) (capacity : Nat) :
    System (State Thread) (Event Thread) where
  initial state := state = emptyState
  enabled := enabled
  next := next compressed capacity

instance [Fintype Thread] (compressed : Bool) (capacity : Nat) (state : State Thread) (event : Event Thread) :
    Decidable ((registrySystem Thread compressed capacity).enabled state event) :=
  inferInstanceAs (Decidable (enabled state event))

/-- The registrations of each nmethod since its last unregistration, the latest
first: those since the previous scan, and those before it. -/
structure Ledger (Thread : Type) where
  reported : Thread → List Address
  recent : Address → List (List Address)
  older : Address → List (List Address)

namespace Ledger

def empty : Ledger Thread := ⟨fun _ => [], fun _ => [], fun _ => []⟩

def advance (ledger : Ledger Thread) : Event Thread → Ledger Thread
  | .beginRegister thread _ => { ledger with reported := Function.update ledger.reported thread [] }
  | .addOop thread _ slot =>
    { ledger with reported := Function.update ledger.reported thread (ledger.reported thread ++ [slot]) }
  | .register thread nm =>
    { ledger with recent := Function.update ledger.recent nm (ledger.reported thread :: ledger.recent nm) }
  | .unregisterNursery _ nm =>
    { ledger with
      recent := Function.update ledger.recent nm []
      older := Function.update ledger.older nm [] }
  | .unregisterMature _ _ => ledger
  | .scan _ _ _ =>
    { ledger with recent := fun _ => [], older := fun nm => ledger.recent nm ++ ledger.older nm }

def ofEvents (events : List (Event Thread)) : Ledger Thread := events.foldl advance empty

def registrations (ledger : Ledger Thread) (nm : Address) : List (List Address) :=
  ledger.recent nm ++ ledger.older nm

def latest (ledger : Ledger Thread) (nm : Address) : Option (List Address) :=
  (ledger.registrations nm).head?

end Ledger

/-- The latest non-empty one of some registrations. -/
def latestNonempty (registrations : List (List Address)) : Option (List Address) :=
  registrations.find? (fun slots => !slots.isEmpty)

/-- No two threads work on the same nmethod. -/
def Exclusive (activity : Thread → Activity) : Prop :=
  ∀ first second nm, (activity first).nmethod = some nm → (activity second).nmethod = some nm → first = second

/-- The maps hold what the ledger says: the latest non-empty registration since
the previous scan, and the latest non-empty one before it. -/
structure Coupled (ledger : Ledger Thread) (state : State Thread) : Prop where
  exclusive : Exclusive state.activity
  reporting : ∀ thread nm, state.activity thread = .registering nm →
    state.registry.nmethodSlots thread = ledger.reported thread
  quiet : ∀ thread, (∀ nm, state.activity thread ≠ .registering nm) →
    state.registry.nmethodSlots thread = []
  nursery : ∀ nm, state.registry.nursery.lookup nm = latestNonempty (ledger.recent nm)
  mature : ∀ nm, (∀ thread, state.activity thread ≠ .unregistering nm) →
    state.registry.mature.lookup nm = latestNonempty (ledger.older nm)
  leaving : ∀ thread nm, state.activity thread = .unregistering nm →
    ledger.recent nm = [] ∧ ledger.older nm = []

omit [DecidableEq Thread] in
theorem Coupled.initial : Coupled (Ledger.empty : Ledger Thread) emptyState where
  exclusive := by simp [emptyState, Exclusive, Activity.nmethod]
  reporting := by simp [emptyState]
  quiet := by simp [emptyState]
  nursery := by simp [emptyState, Ledger.empty, latestNonempty]
  mature := by simp [emptyState, Ledger.empty, latestNonempty]
  leaving := by simp [emptyState]

theorem Exclusive.update {activity : Thread → Activity} {changed : Activity} (exclusive : Exclusive activity)
    (thread : Thread) (free : ∀ nm, changed.nmethod = some nm → ∀ other, (activity other).nmethod ≠ some nm) :
    Exclusive (Function.update activity thread changed) := by
  intro first second nm firstWorks secondWorks
  by_cases firstSame : first = thread <;> by_cases secondSame : second = thread
  · exact firstSame.trans secondSame.symm
  · subst firstSame
    rw [Function.update_self] at firstWorks
    rw [Function.update_of_ne secondSame] at secondWorks
    exact absurd secondWorks (free nm firstWorks second)
  · subst secondSame
    rw [Function.update_self] at secondWorks
    rw [Function.update_of_ne firstSame] at firstWorks
    exact absurd firstWorks (free nm secondWorks first)
  · rw [Function.update_of_ne firstSame] at firstWorks
    rw [Function.update_of_ne secondSame] at secondWorks
    exact exclusive first second nm firstWorks secondWorks

section Steps

variable {ledger : Ledger Thread} {state : State Thread} {thread : Thread} {nm slot : Address}
variable (compressed : Bool) (capacity : Nat)

theorem Coupled.beginRegister (valid : Coupled ledger state)
    (allowed : enabled state (.beginRegister thread nm)) :
    Coupled (ledger.advance (.beginRegister thread nm))
      (next compressed capacity state (.beginRegister thread nm)) := by
  obtain ⟨idle, untouched⟩ := allowed
  have empty := valid.quiet thread (by simp [idle])
  refine ⟨?_, ?_, ?_, valid.nursery, ?_, ?_⟩
  · apply valid.exclusive.update
    intro name same other
    cases same
    exact untouched other
  · intro other name working
    by_cases same : other = thread
    · subst same
      simpa [next, Ledger.advance] using empty
    · have before : state.activity other = .registering name := by
        simpa [next, same] using working
      simpa [next, Ledger.advance, same] using valid.reporting other name before
  · intro other notRegistering
    by_cases same : other = thread
    · exact same ▸ empty
    · exact valid.quiet other (by simpa [next, same] using notRegistering)
  · intro name notLeaving
    apply valid.mature name
    intro other
    by_cases same : other = thread
    · simp [same, idle]
    · simpa [next, same] using notLeaving other
  · intro other name working
    by_cases same : other = thread
    · simp [next, same] at working
    · exact valid.leaving other name (by simpa [next, same] using working)

theorem Coupled.addOop (valid : Coupled ledger state) (allowed : enabled state (.addOop thread nm slot)) :
    Coupled (ledger.advance (.addOop thread nm slot))
      (next compressed capacity state (.addOop thread nm slot)) := by
  have working : state.activity thread = .registering nm := allowed
  refine ⟨valid.exclusive, ?_, ?_, valid.nursery, valid.mature, valid.leaving⟩
  · intro other name registering
    have before := valid.reporting other name registering
    by_cases same : other = thread
    · subst same
      simpa [next, mmtkAddNmethodOop, Ledger.advance] using before
    · simpa [next, mmtkAddNmethodOop, Ledger.advance, same] using before
  · intro other notRegistering
    have different : other ≠ thread := by
      intro same
      exact notRegistering nm (same ▸ working)
    simpa [next, mmtkAddNmethodOop, different] using valid.quiet other notRegistering

/-- Registration moves the reported slots to the nursery map, unless there are
none, and leaves the thread's buffer empty. -/
theorem mmtkRegisterNmethod_spec (registry : Registry Thread) (thread : Thread) (nm : Address) :
    (mmtkRegisterNmethod registry thread nm).nmethodSlots =
        Function.update registry.nmethodSlots thread [] ∧
      (mmtkRegisterNmethod registry thread nm).mature = registry.mature ∧
      ∀ name, (mmtkRegisterNmethod registry thread nm).nursery.lookup name =
        if name = nm ∧ registry.nmethodSlots thread ≠ [] then some (registry.nmethodSlots thread)
        else registry.nursery.lookup name := by
  unfold mmtkRegisterNmethod
  split
  · rename_i empty
    have none := List.isEmpty_iff.mp empty
    refine ⟨?_, rfl, by simp [none]⟩
    rw [← none, Function.update_eq_self]
  · rename_i nonempty
    have some : registry.nmethodSlots thread ≠ [] := by simpa using nonempty
    refine ⟨rfl, rfl, ?_⟩
    intro name
    by_cases same : name = nm
    · subst same
      simp [some]
    · simp [same, AList.lookup_insert_ne same]

theorem Coupled.register (valid : Coupled ledger state) (allowed : enabled state (.register thread nm)) :
    Coupled (ledger.advance (.register thread nm))
      (next compressed capacity state (.register thread nm)) := by
  have working : state.activity thread = .registering nm := allowed
  have reported := valid.reporting thread nm working
  obtain ⟨slots, mature, nursery⟩ := mmtkRegisterNmethod_spec state.registry thread nm
  refine ⟨?_, ?_, ?_, ?_, ?_, ?_⟩
  · exact valid.exclusive.update thread (by simp [Activity.nmethod])
  · intro other name registering
    have different : other ≠ thread := by
      intro same
      simp [next, same] at registering
    have before : state.activity other = .registering name := by
      simpa [next, different] using registering
    simpa [next, Ledger.advance, slots, different] using valid.reporting other name before
  · intro other notRegistering
    by_cases same : other = thread
    · simp [next, slots, same]
    · simpa [next, slots, same] using valid.quiet other (by simpa [next, same] using notRegistering)
  · intro name
    change (mmtkRegisterNmethod state.registry thread nm).nursery.lookup name = _
    rw [nursery name, reported, valid.nursery name]
    by_cases same : name = nm
    · subst same
      cases slotsReported : ledger.reported thread <;>
        simp [Ledger.advance, latestNonempty, slotsReported]
    · simp [Ledger.advance, same]
  · intro name notLeaving
    change (mmtkRegisterNmethod state.registry thread nm).mature.lookup name = _
    rw [mature]
    apply valid.mature name
    intro other
    by_cases same : other = thread
    · simp [same, working]
    · simpa [next, same] using notLeaving other
  · intro other name leaving
    have different : other ≠ thread := by
      intro same
      simp [next, same] at leaving
    have before : state.activity other = .unregistering name := by
      simpa [next, different] using leaving
    have otherName : name ≠ nm := by
      intro same
      subst same
      exact different (valid.exclusive other thread name (by simp [before, Activity.nmethod])
        (by simp [working, Activity.nmethod]))
    simpa [Ledger.advance, otherName] using valid.leaving other name before

theorem Coupled.unregisterNursery (valid : Coupled ledger state)
    (allowed : enabled state (.unregisterNursery thread nm)) :
    Coupled (ledger.advance (.unregisterNursery thread nm))
      (next compressed capacity state (.unregisterNursery thread nm)) := by
  obtain ⟨idle, untouched⟩ := allowed
  refine ⟨?_, ?_, ?_, ?_, ?_, ?_⟩
  · apply valid.exclusive.update
    intro name same other
    cases same
    exact untouched other
  · intro other name registering
    have different : other ≠ thread := by
      intro same
      simp [next, same] at registering
    exact valid.reporting other name (by simpa [next, different] using registering)
  · intro other notRegistering
    by_cases same : other = thread
    · exact valid.quiet other (by simp [same, idle])
    · exact valid.quiet other (by simpa [next, same] using notRegistering)
  · intro name
    by_cases same : name = nm
    · subst same
      simp [next, Registry.removeNursery, Ledger.advance, latestNonempty]
    · simpa [next, Registry.removeNursery, Ledger.advance, same, AList.lookup_erase_ne same] using
        valid.nursery name
  · intro name notLeaving
    have otherName : name ≠ nm := by
      intro same
      exact notLeaving thread (by simp [next, same])
    have before : ∀ other, state.activity other ≠ .unregistering name := by
      intro other
      by_cases same : other = thread
      · simp [same, idle]
      · simpa [next, same] using notLeaving other
    simpa [next, Registry.removeNursery, Ledger.advance, otherName] using valid.mature name before
  · intro other name leaving
    by_cases same : other = thread
    · subst same
      have sameName : nm = name := by simpa [next] using leaving
      simp [Ledger.advance, sameName]
    · have before : state.activity other = .unregistering name := by simpa [next, same] using leaving
      obtain ⟨recent, older⟩ := valid.leaving other name before
      by_cases sameName : name = nm
      · simp [Ledger.advance, sameName]
      · simp [Ledger.advance, sameName, recent, older]

theorem Coupled.unregisterMature (valid : Coupled ledger state)
    (allowed : enabled state (.unregisterMature thread nm)) :
    Coupled (ledger.advance (.unregisterMature thread nm))
      (next compressed capacity state (.unregisterMature thread nm)) := by
  have working : state.activity thread = .unregistering nm := allowed
  refine ⟨?_, ?_, ?_, valid.nursery, ?_, ?_⟩
  · exact valid.exclusive.update thread (by simp [Activity.nmethod])
  · intro other name registering
    have different : other ≠ thread := by
      intro same
      simp [next, same] at registering
    exact valid.reporting other name (by simpa [next, different] using registering)
  · intro other notRegistering
    by_cases same : other = thread
    · exact valid.quiet other (by simp [same, working])
    · exact valid.quiet other (by simpa [next, same] using notRegistering)
  · intro name notLeaving
    by_cases sameName : name = nm
    · subst sameName
      simp [next, Registry.removeMature, Ledger.advance, latestNonempty,
        (valid.leaving thread name working).2]
    · have before : ∀ other, state.activity other ≠ .unregistering name := by
        intro other
        by_cases same : other = thread
        · simpa [same, working] using Ne.symm sameName
        · simpa [next, same] using notLeaving other
      simpa [next, Registry.removeMature, Ledger.advance, AList.lookup_erase_ne sameName] using
        valid.mature name before
  · intro other name leaving
    have different : other ≠ thread := by
      intro same
      simp [next, same] at leaving
    exact valid.leaving other name (by simpa [next, different] using leaving)

omit [DecidableEq Thread] in
/-- With no thread in the middle of an operation, both maps agree with the ledger. -/
theorem Coupled.atScan {matureOrder nurseryOrder : List Entry} (valid : Coupled ledger state)
    (scannable : state.Scannable matureOrder nurseryOrder) (nm : Address) :
    state.registry.nursery.lookup nm = latestNonempty (ledger.recent nm) ∧
      state.registry.mature.lookup nm = latestNonempty (ledger.older nm) :=
  ⟨valid.nursery nm, valid.mature nm (fun thread => by simp [scannable.1 thread])⟩

theorem Coupled.scan {isCurrentGcNursery : Bool} {matureOrder nurseryOrder : List Entry}
    (valid : Coupled ledger state)
    (allowed : enabled state (.scan isCurrentGcNursery matureOrder nurseryOrder)) :
    Coupled (ledger.advance (.scan isCurrentGcNursery matureOrder nurseryOrder))
      (next compressed capacity state (.scan isCurrentGcNursery matureOrder nurseryOrder)) := by
  have scannable : state.Scannable matureOrder nurseryOrder := allowed
  refine ⟨valid.exclusive, ?_, valid.quiet, ?_, ?_, ?_⟩
  · intro other name registering
    exact absurd registering (by simp [next, scannable.1 other])
  · simp [next, Ledger.advance, latestNonempty]
  · intro name _
    obtain ⟨nursery, mature⟩ := valid.atScan scannable name
    change (doWork compressed capacity isCurrentGcNursery state.registry.mature
      matureOrder nurseryOrder).mature.lookup name = _
    rw [doWork_mature _ _ _ state.registry.nursery _ _ _ scannable.2.2, nursery, mature]
    simp [Ledger.advance, latestNonempty, List.find?_append]
  · intro other name leaving
    exact absurd leaving (by simp [next, scannable.1 other])

/-- Along every run the maps hold what the ledger of its events says. -/
theorem coupled_of_run {events : List (Event Thread)} {start : State Thread}
    (initial : (registrySystem Thread compressed capacity).initial start)
    (run : (registrySystem Thread compressed capacity).Run start events state) :
    Coupled (Ledger.ofEvents events) state := by
  have base : Coupled (Ledger.ofEvents []) start := by
    have same : start = emptyState := initial
    exact same ▸ Coupled.initial
  refine run.history (fun events state => Coupled (Ledger.ofEvents events) state) base ?_
  intro events state event valid allowed
  rw [Ledger.ofEvents, List.foldl_append]
  cases event with
  | beginRegister thread nm => exact valid.beginRegister compressed capacity allowed
  | addOop thread nm slot => exact valid.addOop compressed capacity allowed
  | register thread nm => exact valid.register compressed capacity allowed
  | unregisterNursery thread nm => exact valid.unregisterNursery compressed capacity allowed
  | unregisterMature thread nm => exact valid.unregisterMature compressed capacity allowed
  | scan isCurrentGcNursery matureOrder nurseryOrder => exact valid.scan compressed capacity allowed

end Steps

end MmtkOpenJDK.CodeCache
