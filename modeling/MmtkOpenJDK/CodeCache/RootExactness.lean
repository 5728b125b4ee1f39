import MmtkOpenJDK.CodeCache.RootCompleteness

/-! Duplicated and stale code-cache roots: exactly which scans of a run hand
over every slot once and only slots of the latest registrations. -/

namespace MmtkOpenJDK.CodeCache

open MmtkOpenJDK.Heap MmtkOpenJDK.Slots MmtkOpenJDK.Foundation

variable {Thread : Type} {ledger : Ledger Thread} {state : State Thread}
variable {compressed : Bool} {capacity : Nat} {isCurrentGcNursery : Bool}
variable {matureOrder nurseryOrder : List Entry}

/-- Each registration reports distinct slots, and different live nmethods report
different ones. -/
structure Ledger.Separated (ledger : Ledger Thread) : Prop where
  distinct : ∀ nm, ∀ slots ∈ ledger.registrations nm, slots.Nodup
  disjoint : ∀ nm other, nm ≠ other → ∀ slots ∈ ledger.registrations nm,
    ∀ slots' ∈ ledger.registrations other, slots.Disjoint slots'

/-- No slot is handed over twice, every slot belongs to the latest registration
of a registered nmethod, and no nmethod is a source in both maps. -/
structure ScanExact (ledger : Ledger Thread) (compressed : Bool) (capacity : Nat)
    (isCurrentGcNursery : Bool) (state : State Thread) (matureOrder nurseryOrder : List Entry) : Prop where
  nodup : (handedOver compressed capacity isCurrentGcNursery state matureOrder nurseryOrder).Nodup
  latest : ∀ slot ∈ handedOver compressed capacity isCurrentGcNursery state matureOrder nurseryOrder,
    ∃ nm roots, ledger.latest nm = some roots ∧ slot.addr ∈ roots
  oneSource : isCurrentGcNursery = false →
    ∀ nm, nm ∈ state.registry.mature → nm ∉ state.registry.nursery

/-- The registrations whose roots a scan reads. -/
def Ledger.scanned (ledger : Ledger Thread) (isCurrentGcNursery : Bool) (nm : Address) : List (List Address) :=
  if isCurrentGcNursery then ledger.recent nm else ledger.registrations nm

/-- The history a scan can cope with: an nmethod with roots to read was not
registered without slots afterwards, and before a full-heap scan no nmethod with
roots from an earlier scan was registered with slots again. -/
structure Ledger.Undisturbed (ledger : Ledger Thread) (isCurrentGcNursery : Bool) : Prop where
  notEmptied : ∀ nm, HasRoots (ledger.scanned isCurrentGcNursery nm) → ledger.latest nm ≠ some []
  notRenewed : isCurrentGcNursery = false →
    ∀ nm, HasRoots (ledger.recent nm) → ¬ HasRoots (ledger.older nm)

theorem latestNonempty_eq_head {registrations : List (List Address)} {roots : List Address}
    (found : latestNonempty registrations = some roots) (kept : registrations.head? ≠ some []) :
    registrations.head? = some roots := by
  cases registrations with
  | nil => simp [latestNonempty] at found
  | cons first rest =>
    have nonempty : first ≠ [] := by simpa using kept
    simpa [latestNonempty, nonempty] using found

/-- Both sources of a scan's entries are registrations of the nmethod. -/
theorem Coupled.scanned_registration (valid : Coupled ledger state)
    (scannable : state.Scannable matureOrder nurseryOrder) {entry : Entry}
    (member : entry ∈ scannedEntries isCurrentGcNursery matureOrder nurseryOrder) :
    entry.2 ∈ ledger.registrations entry.1 := by
  rcases (valid.mem_scannedEntries scannable entry).mp member with recent | ⟨_, older⟩
  · exact List.mem_append_left _ (latestNonempty_mem recent).1
  · exact List.mem_append_right _ (latestNonempty_mem older).1

/-- After an undisturbed history a scan reads latest registrations only. -/
theorem Coupled.scanned_latest (valid : Coupled ledger state)
    (scannable : state.Scannable matureOrder nurseryOrder)
    (undisturbed : ledger.Undisturbed isCurrentGcNursery) {entry : Entry}
    (member : entry ∈ scannedEntries isCurrentGcNursery matureOrder nurseryOrder) :
    ledger.latest entry.1 = some entry.2 := by
  have whole := ledger.latestNonempty_registrations entry.1
  rcases (valid.mem_scannedEntries scannable entry).mp member with recent | ⟨full, older⟩
  · have found : latestNonempty (ledger.registrations entry.1) = some entry.2 := by
      rw [whole, recent, Option.some_or]
    apply latestNonempty_eq_head found
    apply undisturbed.notEmptied entry.1
    cases isCurrentGcNursery with
    | true => exact hasRoots_iff.mpr ⟨_, recent⟩
    | false => exact hasRoots_iff.mpr ⟨_, found⟩
  · have noneRecent : latestNonempty (ledger.recent entry.1) = none := by
      cases renewed : latestNonempty (ledger.recent entry.1) with
      | none => rfl
      | some newer =>
        exact absurd (hasRoots_iff.mpr ⟨_, older⟩)
          (undisturbed.notRenewed full entry.1 (hasRoots_iff.mpr ⟨_, renewed⟩))
    have found : latestNonempty (ledger.registrations entry.1) = some entry.2 := by
      rw [whole, noneRecent, Option.none_or, older]
    apply latestNonempty_eq_head found
    apply undisturbed.notEmptied entry.1
    subst full
    exact hasRoots_iff.mpr ⟨_, found⟩

/-- A full-heap scan reads no nmethod from both maps when none was renewed. -/
theorem Coupled.oneSource (valid : Coupled ledger state)
    (scannable : state.Scannable matureOrder nurseryOrder) (nm : Address) :
    (nm ∈ state.registry.mature ∧ nm ∈ state.registry.nursery) ↔
      HasRoots (ledger.older nm) ∧ HasRoots (ledger.recent nm) := by
  obtain ⟨nursery, mature⟩ := valid.atScan scannable nm
  rw [hasRoots_iff, hasRoots_iff, ← nursery, ← mature, ← Option.isSome_iff_exists,
    ← Option.isSome_iff_exists, AList.lookup_isSome, AList.lookup_isSome]

private theorem pairwise_of_nodupKeys {entries : List Entry} (distinct : entries.NodupKeys) :
    entries.Pairwise (fun first second => first.1 ≠ second.1) :=
  List.nodupKeys_iff_pairwise.mp distinct

/-- The entries of a scan have different keys when no nmethod was renewed. -/
theorem Coupled.scanned_keys (valid : Coupled ledger state)
    (scannable : state.Scannable matureOrder nurseryOrder)
    (undisturbed : ledger.Undisturbed isCurrentGcNursery) :
    (scannedEntries isCurrentGcNursery matureOrder nurseryOrder).Pairwise
      (fun first second => first.1 ≠ second.1) := by
  have nursery : nurseryOrder.Pairwise (fun first second => first.1 ≠ second.1) :=
    pairwise_of_nodupKeys ((List.perm_nodupKeys scannable.2.2).mpr state.registry.nursery.nodupKeys)
  have mature : matureOrder.Pairwise (fun first second => first.1 ≠ second.1) :=
    pairwise_of_nodupKeys ((List.perm_nodupKeys scannable.2.1).mpr state.registry.mature.nodupKeys)
  cases isCurrentGcNursery with
  | true => simpa [scannedEntries] using nursery
  | false =>
    simp only [scannedEntries, Bool.false_eq_true, ↓reduceIte]
    refine List.pairwise_append.mpr ⟨mature, nursery, ?_⟩
    intro first firstMember second secondMember same
    have inMature : first.1 ∈ state.registry.mature :=
      AList.mem_keys.mpr (List.mem_keys_of_mem (scannable.2.1.mem_iff.mp firstMember))
    have inNursery : first.1 ∈ state.registry.nursery := by
      rw [same]
      exact AList.mem_keys.mpr (List.mem_keys_of_mem (scannable.2.2.mem_iff.mp secondMember))
    obtain ⟨older, recent⟩ := (valid.oneSource scannable first.1).mp ⟨inMature, inNursery⟩
    exact undisturbed.notRenewed rfl first.1 recent older

theorem Coupled.exact_of_undisturbed (valid : Coupled ledger state)
    (scannable : state.Scannable matureOrder nurseryOrder) (separated : ledger.Separated)
    (undisturbed : ledger.Undisturbed isCurrentGcNursery) :
    ScanExact ledger compressed capacity isCurrentGcNursery state matureOrder nurseryOrder where
  nodup := by
    rw [handedOver, (doWork_packets _ _ _ _ _ _).1]
    refine List.Nodup.map (fun first second same => OpenJDKSlot.mk.inj same) ?_
    refine List.nodup_flatMap.mpr ⟨?_, ?_⟩
    · intro entry member
      exact separated.distinct entry.1 entry.2 (valid.scanned_registration scannable member)
    · refine (valid.scanned_keys scannable undisturbed).imp_of_mem ?_
      intro first second firstMember secondMember different
      exact separated.disjoint first.1 second.1 different
        first.2 (valid.scanned_registration scannable firstMember)
        second.2 (valid.scanned_registration scannable secondMember)
  latest := by
    intro slot member
    obtain ⟨entry, scanned, contains⟩ := mem_handedOver.mp member
    exact ⟨entry.1, entry.2, valid.scanned_latest scannable undisturbed scanned, contains⟩
  oneSource := by
    intro full nm inMature inNursery
    obtain ⟨older, recent⟩ := (valid.oneSource scannable nm).mp ⟨inMature, inNursery⟩
    exact undisturbed.notRenewed full nm recent older

theorem Coupled.undisturbed_of_exact (valid : Coupled ledger state)
    (scannable : state.Scannable matureOrder nurseryOrder) (separated : ledger.Separated)
    (exactly : ScanExact ledger compressed capacity isCurrentGcNursery state matureOrder nurseryOrder) :
    ledger.Undisturbed isCurrentGcNursery where
  notEmptied := by
    intro nm rooted emptied
    have read : isCurrentGcNursery = false ∨ HasRoots (ledger.recent nm) := by
      cases isCurrentGcNursery with
      | true => exact .inr rooted
      | false => exact .inl rfl
    have some : HasRoots (ledger.registrations nm) := by
      cases isCurrentGcNursery with
      | true =>
        obtain ⟨slots, member, nonempty⟩ := rooted
        exact ⟨slots, List.mem_append_left _ member, nonempty⟩
      | false => exact rooted
    obtain ⟨roots, found⟩ := hasRoots_iff.mp some
    obtain ⟨member, nonempty⟩ := latestNonempty_mem found
    obtain ⟨slot, rest, same⟩ := List.exists_cons_of_ne_nil nonempty
    have contains : slot ∈ roots := by simp [same]
    have handed := valid.handsOver compressed capacity scannable read found slot contains
    obtain ⟨owner, latest, owned, inLatest⟩ := exactly.latest _ handed
    by_cases own : nm = owner
    · subst own
      rw [emptied] at owned
      cases owned
      simp at inLatest
    · exact separated.disjoint nm owner own roots member latest
        (List.mem_of_mem_head? owned) contains inLatest
  notRenewed := by
    intro full nm recent older
    obtain ⟨inMature, inNursery⟩ := (valid.oneSource scannable nm).mpr ⟨older, recent⟩
    exact exactly.oneSource full nm inMature inNursery

/-- In every run, a scan hands over each slot once and only latest registrations
exactly when the history since the previous scans left it undisturbed. -/
theorem scan_exact_iff_undisturbed [DecidableEq Thread] (compressed : Bool) (capacity : Nat)
    {start : State Thread} {events : List (Event Thread)}
    (initial : (registrySystem Thread compressed capacity).initial start)
    (run : (registrySystem Thread compressed capacity).Run start events state)
    (separated : (Ledger.ofEvents events).Separated)
    (isCurrentGcNursery : Bool) (matureOrder nurseryOrder : List Entry)
    (allowed : enabled state (.scan isCurrentGcNursery matureOrder nurseryOrder)) :
    ScanExact (Ledger.ofEvents events) compressed capacity isCurrentGcNursery state matureOrder nurseryOrder ↔
      (Ledger.ofEvents events).Undisturbed isCurrentGcNursery := by
  have valid := coupled_of_run compressed capacity initial run
  constructor
  · exact valid.undisturbed_of_exact allowed separated
  · exact valid.exact_of_undisturbed allowed separated

/-- The slots need only be compared for the nmethods that have registrations. -/
theorem Ledger.Separated.among (names : List Address) (others : ∀ other ∉ names, ledger.registrations other = [])
    (distinct : ∀ slots ∈ names.flatMap ledger.registrations, slots.Nodup)
    (apart : names.Pairwise fun nm other => ∀ slots ∈ ledger.registrations nm, ∀ slots' ∈ ledger.registrations other,
      (slots ++ slots').Nodup) : ledger.Separated where
  distinct := by
    intro nm slots member
    by_cases named : nm ∈ names
    · exact distinct slots (List.mem_flatMap.mpr ⟨nm, named, member⟩)
    · simp [others nm named] at member
  disjoint := by
    intro first second different slots member slots' member'
    by_cases named : first ∈ names
    · by_cases named' : second ∈ names
      · have : Std.Symm fun nm other => ∀ slots ∈ ledger.registrations nm, ∀ slots' ∈ ledger.registrations other,
            (slots ++ slots').Nodup :=
          ⟨fun _ _ apart slots member slots' member' => List.nodup_append_comm.mp (apart slots' member' slots member)⟩
        exact List.disjoint_of_nodup_append (apart.forall named named' different slots member slots' member')
      · simp [others second named'] at member'
    · simp [others first named] at member

/-- An nmethod that no event registers has no registrations. -/
theorem Ledger.registrations_ofEvents_eq_nil [DecidableEq Thread] {events : List (Event Thread)} {nm : Address}
    (untouched : ∀ thread, .register thread nm ∉ events) :
    (Ledger.ofEvents events).registrations nm = [] := by
  induction events using List.reverseRecOn with
  | nil => rfl
  | append_singleton events event ih =>
    have before := ih (fun thread member => untouched thread (List.mem_append_left _ member))
    obtain ⟨recent, older⟩ := List.append_eq_nil_iff.mp before
    rw [Ledger.ofEvents, List.foldl_append] at *
    cases event with
    | beginRegister thread name => simpa [Ledger.advance, Ledger.registrations] using before
    | addOop thread name slot => simpa [Ledger.advance, Ledger.registrations] using before
    | register thread name =>
      have different : nm ≠ name := by
        intro same
        exact untouched thread (by simp [same])
      simpa [Ledger.advance, Ledger.registrations, different] using before
    | unregisterNursery thread name =>
      by_cases same : nm = name <;>
        simp_all [Ledger.advance, Ledger.registrations]
    | unregisterMature thread name => simpa [Ledger.advance, Ledger.registrations] using before
    | scan nursery matureOrder nurseryOrder =>
      simpa [Ledger.advance, Ledger.registrations, Ledger.ofEvents] using before

/-- After a scan of two nmethods one of them is unregistered and registered again, and a third
one is registered. -/
def undisturbedRenewal : List (Event Bool) :=
  registerNmethod true 0x1000 [0x1008] ++ registerNmethod false 0x2000 [0x2010, 0x2020] ++
    [.scan false [] [⟨0x2000, [0x2010, 0x2020]⟩, ⟨0x1000, [0x1008]⟩],
      .unregisterNursery true 0x1000, .unregisterMature true 0x1000] ++
    registerNmethod true 0x1000 [0x1030] ++ registerNmethod false 0x3000 [0x3010]

/-- The following full-heap scan is exact, although it reads both maps. -/
theorem undisturbed_renewal_exact :
    ScanExact (Ledger.ofEvents undisturbedRenewal) true 4096 false
      (undisturbedRenewal.foldl (next true 4096) emptyState) [⟨0x2000, [0x2010, 0x2020]⟩]
      [⟨0x1000, [0x1030]⟩, ⟨0x3000, [0x3010]⟩] := by
  have allowed : (registrySystem Bool true 4096).Allowed emptyState undisturbedRenewal := by decide +kernel
  have others : ∀ other ∉ [0x1000, 0x2000, 0x3000],
      (Ledger.ofEvents undisturbedRenewal).registrations other = [] := by
    intro other different
    obtain ⟨first, second, third⟩ : ¬ other = 0x1000#64 ∧ ¬ other = 0x2000#64 ∧ ¬ other = 0x3000#64 := by
      simpa using different
    apply Ledger.registrations_ofEvents_eq_nil
    intro thread
    cases thread with
    | false => simpa [undisturbedRenewal, registerNmethod] using ⟨second, third⟩
    | true => simpa [undisturbedRenewal, registerNmethod] using first
  have separated := Ledger.Separated.among _ others (by decide +kernel) (by decide +kernel)
  refine (scan_exact_iff_undisturbed true 4096 rfl allowed.run separated false [⟨0x2000, [0x2010, 0x2020]⟩]
    [⟨0x1000, [0x1030]⟩, ⟨0x3000, [0x3010]⟩] (by decide +kernel)).mpr ⟨?_, ?_⟩
  · intro nm _
    by_cases named : nm ∈ [0x1000, 0x2000, 0x3000]
    · simp only [List.mem_cons, List.not_mem_nil, or_false] at named
      rcases named with rfl | rfl | rfl <;> decide +kernel
    · rw [Ledger.latest, others nm named]
      simp
  · intro _ nm ⟨slots, recent, _⟩ ⟨slots', older, _⟩
    by_cases named : nm ∈ [0x1000, 0x2000, 0x3000]
    · have once : (Ledger.ofEvents undisturbedRenewal).recent nm = [] ∨
          (Ledger.ofEvents undisturbedRenewal).older nm = [] := by
        simp only [List.mem_cons, List.not_mem_nil, or_false] at named
        rcases named with rfl | rfl | rfl <;> decide +kernel
      rcases once with none | none
      · simp [none] at recent
      · simp [none] at older
    · obtain ⟨none, _⟩ := List.append_eq_nil_iff.mp (others nm named)
      simp [none] at recent

/-- The same nmethod registered, scanned, and registered again as after patching. -/
def patchedRenewal : List (Event Unit) :=
  registerNmethod () 0x1000 [0x1008] ++ [.scan false [] [⟨0x1000, [0x1008]⟩]] ++
    registerNmethod () 0x1000 [0x1008]

/-- The full-heap scan after the second registration finds the nmethod in both
maps and hands its slot over twice. -/
theorem patched_renewal_handed_over_twice :
    ∃ state, (registrySystem Unit true 4096).Run emptyState patchedRenewal state ∧
      (Ledger.ofEvents patchedRenewal).Separated ∧
      enabled state (.scan false [⟨0x1000, [0x1008]⟩] [⟨0x1000, [0x1008]⟩]) ∧
      handedOver true 4096 false state [⟨0x1000, [0x1008]⟩] [⟨0x1000, [0x1008]⟩] = [⟨0x1008⟩, ⟨0x1008⟩] ∧
      ¬ ScanExact (Ledger.ofEvents patchedRenewal) true 4096 false state
        [⟨0x1000, [0x1008]⟩] [⟨0x1000, [0x1008]⟩] := by
  have allowed : (registrySystem Unit true 4096).Allowed emptyState patchedRenewal := by decide
  have twice : handedOver true 4096 false (patchedRenewal.foldl (next true 4096) emptyState)
      [⟨0x1000, [0x1008]⟩] [⟨0x1000, [0x1008]⟩] = [⟨0x1008⟩, ⟨0x1008⟩] := by decide
  refine ⟨_, allowed.run, ?_, by decide, twice, ?_⟩
  · refine Ledger.Separated.among [0x1000] ?_ (by decide +kernel) (by decide +kernel)
    intro other different
    apply Ledger.registrations_ofEvents_eq_nil
    simpa [patchedRenewal, registerNmethod] using different
  · intro exactly
    have nodup := exactly.nodup
    have once : ([⟨0x1008⟩, ⟨0x1008⟩] : List (OpenJDKSlot true)).Nodup := twice ▸ nodup
    simp at once

end MmtkOpenJDK.CodeCache
