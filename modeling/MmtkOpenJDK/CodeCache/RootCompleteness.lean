import MmtkOpenJDK.CodeCache.Registry

/-! No code-cache root is lost: what every scan of every run hands over. -/

namespace MmtkOpenJDK.CodeCache

open MmtkOpenJDK.Heap MmtkOpenJDK.Slots MmtkOpenJDK.Foundation

variable {Thread : Type} {ledger : Ledger Thread} {state : State Thread}
variable {isCurrentGcNursery : Bool} {matureOrder nurseryOrder : List Entry} {nm : Address}

/-- Some registration reported a slot. -/
def HasRoots (registrations : List (List Address)) : Prop := ∃ slots ∈ registrations, slots ≠ []

theorem hasRoots_iff {registrations : List (List Address)} :
    HasRoots registrations ↔ ∃ roots, latestNonempty registrations = some roots := by
  rw [← Option.isSome_iff_exists, latestNonempty, List.find?_isSome]
  simp [HasRoots]

theorem latestNonempty_mem {registrations : List (List Address)} {roots : List Address}
    (found : latestNonempty registrations = some roots) : roots ∈ registrations ∧ roots ≠ [] :=
  ⟨List.mem_of_find?_eq_some found, by simpa using List.find?_some found⟩

theorem Ledger.latestNonempty_registrations (ledger : Ledger Thread) (nm : Address) :
    latestNonempty (ledger.registrations nm) =
      (latestNonempty (ledger.recent nm)).or (latestNonempty (ledger.older nm)) := by
  simp [latestNonempty, Ledger.registrations, List.find?_append]

/-- The entries of a scan: the latest roots since the previous scan, and in a
full-heap scan also the latest ones before it. -/
theorem Coupled.mem_scannedEntries (valid : Coupled ledger state)
    (scannable : state.Scannable matureOrder nurseryOrder) (entry : Entry) :
    entry ∈ scannedEntries isCurrentGcNursery matureOrder nurseryOrder ↔
      latestNonempty (ledger.recent entry.1) = some entry.2 ∨
        (isCurrentGcNursery = false ∧ latestNonempty (ledger.older entry.1) = some entry.2) := by
  obtain ⟨nursery, mature⟩ := valid.atScan scannable entry.1
  have inNursery : entry ∈ nurseryOrder ↔ latestNonempty (ledger.recent entry.1) = some entry.2 := by
    rw [scannable.2.2.mem_iff, ← nursery, ← Option.mem_def, AList.mem_lookup_iff]
  have inMature : entry ∈ matureOrder ↔ latestNonempty (ledger.older entry.1) = some entry.2 := by
    rw [scannable.2.1.mem_iff, ← mature, ← Option.mem_def, AList.mem_lookup_iff]
  cases isCurrentGcNursery <;> simp [scannedEntries, inNursery, inMature, or_comm]

theorem mem_slotsOf {entries : List Entry} {slot : Address} :
    slot ∈ slotsOf entries ↔ ∃ entry ∈ entries, slot ∈ entry.2 :=
  List.mem_flatMap

/-- The slots a scan passes to the factory, all packets together. -/
def handedOver (compressed : Bool) (capacity : Nat) (isCurrentGcNursery : Bool) (state : State Thread)
    (matureOrder nurseryOrder : List Entry) : List (OpenJDKSlot compressed) :=
  (doWork compressed capacity isCurrentGcNursery state.registry.mature matureOrder nurseryOrder).packets.flatten

theorem mem_handedOver {compressed : Bool} {capacity : Nat} {slot : OpenJDKSlot compressed} :
    slot ∈ handedOver compressed capacity isCurrentGcNursery state matureOrder nurseryOrder ↔
      ∃ entry ∈ scannedEntries isCurrentGcNursery matureOrder nurseryOrder, slot.addr ∈ entry.2 := by
  rw [handedOver, (doWork_packets _ _ _ _ _ _).1, List.mem_map]
  constructor
  · rintro ⟨root, member, rfl⟩
    exact mem_slotsOf.mp member
  · intro found
    exact ⟨slot.addr, mem_slotsOf.mpr found, rfl⟩

/-- Roots registered since the previous scan are handed over by any scan, and
all registered roots by a full-heap scan. -/
theorem Coupled.handsOver (valid : Coupled ledger state) (compressed : Bool) (capacity : Nat)
    (scannable : state.Scannable matureOrder nurseryOrder)
    (read : isCurrentGcNursery = false ∨ HasRoots (ledger.recent nm)) {roots : List Address}
    (found : latestNonempty (ledger.registrations nm) = some roots) :
    ∀ slot ∈ roots, (⟨slot⟩ : OpenJDKSlot compressed) ∈
      handedOver compressed capacity isCurrentGcNursery state matureOrder nurseryOrder := by
  intro slot member
  rw [mem_handedOver]
  refine ⟨⟨nm, roots⟩, (valid.mem_scannedEntries scannable _).mpr ?_, member⟩
  rw [ledger.latestNonempty_registrations] at found
  cases recent : latestNonempty (ledger.recent nm) with
  | some newer =>
    left
    simpa [recent] using found
  | none =>
    right
    rcases read with full | renewed
    · exact ⟨full, by simpa [recent] using found⟩
    · obtain ⟨newer, present⟩ := hasRoots_iff.mp renewed
      simp [recent] at present

section Runs

variable [DecidableEq Thread] (compressed : Bool) (capacity : Nat)

/-- In every run, every scan hands over the latest non-empty registration of
each nmethod that was registered with some slot since the previous scan and not
unregistered; a full-heap scan does so for every registered nmethod. The packets
split exactly the slots of the entries read. -/
theorem scan_hands_over_latest_registrations {start : State Thread} {events : List (Event Thread)}
    (initial : (registrySystem Thread compressed capacity).initial start)
    (run : (registrySystem Thread compressed capacity).Run start events state)
    (isCurrentGcNursery : Bool) (matureOrder nurseryOrder : List Entry)
    (allowed : enabled state (.scan isCurrentGcNursery matureOrder nurseryOrder)) :
    (∀ nm roots, HasRoots ((Ledger.ofEvents events).recent nm) →
      latestNonempty ((Ledger.ofEvents events).registrations nm) = some roots →
      ∀ slot ∈ roots, (⟨slot⟩ : OpenJDKSlot compressed) ∈
        handedOver compressed capacity isCurrentGcNursery state matureOrder nurseryOrder) ∧
    (isCurrentGcNursery = false → ∀ nm roots,
      latestNonempty ((Ledger.ofEvents events).registrations nm) = some roots →
      ∀ slot ∈ roots, (⟨slot⟩ : OpenJDKSlot compressed) ∈
        handedOver compressed capacity isCurrentGcNursery state matureOrder nurseryOrder) ∧
    handedOver compressed capacity isCurrentGcNursery state matureOrder nurseryOrder =
      (slotsOf (scannedEntries isCurrentGcNursery matureOrder nurseryOrder)).map OpenJDKSlot.mk ∧
    ∀ packet ∈ (doWork compressed capacity isCurrentGcNursery state.registry.mature
        matureOrder nurseryOrder).packets,
      packet ≠ [] ∧ packet.length ≤ max 1 capacity := by
  have valid := coupled_of_run compressed capacity initial run
  obtain ⟨concatenation, bounded⟩ := doWork_packets compressed capacity isCurrentGcNursery
    state.registry.mature matureOrder nurseryOrder
  refine ⟨?_, ?_, concatenation, bounded⟩
  · intro nm roots renewed found
    exact valid.handsOver compressed capacity allowed (.inr renewed) found
  · intro full nm roots found
    exact valid.handsOver compressed capacity allowed (.inl full) found

end Runs

/-- The events of `register_nmethod(nm)` on one thread. -/
def registerNmethod (thread : Thread) (nm : Address) (slots : List Address) : List (Event Thread) :=
  .beginRegister thread nm :: slots.map (.addOop thread nm) ++ [.register thread nm]

/-- Two threads register three nmethods. After a scan one of them is registered again with
another slot, and one is unregistered. -/
def severalNmethods : List (Event Bool) :=
  registerNmethod true 0x1000 [0x1008] ++ registerNmethod false 0x2000 [0x2010, 0x2020] ++
    registerNmethod true 0x3000 [0x3010] ++
    [.scan true [] [⟨0x2000, [0x2010, 0x2020]⟩, ⟨0x1000, [0x1008]⟩, ⟨0x3000, [0x3010]⟩]] ++
    registerNmethod false 0x1000 [0x1030] ++ [.unregisterNursery true 0x2000, .unregisterMature true 0x2000]

/-- The next nursery scan finds the renewed slot, and a full-heap scan also the slot that was
registered before. -/
theorem renewed_registration_handed_over :
    (⟨0x1030⟩ : OpenJDKSlot true) ∈ handedOver true 4096 true
        (severalNmethods.foldl (next true 4096) emptyState) [⟨0x1000, [0x1008]⟩, ⟨0x3000, [0x3010]⟩]
        [⟨0x1000, [0x1030]⟩] ∧
      (⟨0x3010⟩ : OpenJDKSlot true) ∈ handedOver true 4096 false
        (severalNmethods.foldl (next true 4096) emptyState) [⟨0x1000, [0x1008]⟩, ⟨0x3000, [0x3010]⟩]
        [⟨0x1000, [0x1030]⟩] := by
  have allowed : (registrySystem Bool true 4096).Allowed emptyState severalNmethods := by decide +kernel
  have nursery := scan_hands_over_latest_registrations true 4096 rfl allowed.run
    true [⟨0x1000, [0x1008]⟩, ⟨0x3000, [0x3010]⟩] [⟨0x1000, [0x1030]⟩] (by decide +kernel)
  have full := scan_hands_over_latest_registrations true 4096 rfl allowed.run
    false [⟨0x1000, [0x1008]⟩, ⟨0x3000, [0x3010]⟩] [⟨0x1000, [0x1030]⟩] (by decide +kernel)
  exact ⟨nursery.1 0x1000 [0x1030] ⟨[0x1030], by decide +kernel, by decide⟩ (by decide +kernel) 0x1030 (by decide),
    full.2.1 rfl 0x3000 [0x3010] (by decide +kernel) 0x3010 (by decide)⟩

/-- An nmethod scanned with one slot and then registered again without slots:
registered since the previous scan, its latest non-empty registration is not
handed over by a nursery scan. -/
def emptyRenewal : List (Event Unit) :=
  registerNmethod () 0x1000 [0x1008] ++ [.scan false [] [⟨0x1000, [0x1008]⟩]] ++ registerNmethod () 0x1000 []

theorem empty_renewal_not_handed_over :
    ∃ state, (registrySystem Unit true 4096).Run emptyState emptyRenewal state ∧
      enabled state (.scan true [⟨0x1000, [0x1008]⟩] []) ∧
      (Ledger.ofEvents emptyRenewal).recent 0x1000 ≠ [] ∧
      latestNonempty ((Ledger.ofEvents emptyRenewal).registrations 0x1000) = some [0x1008] ∧
      (⟨0x1008⟩ : OpenJDKSlot true) ∉
        handedOver true 4096 true state [⟨0x1000, [0x1008]⟩] [] := by
  have allowed : (registrySystem Unit true 4096).Allowed emptyState emptyRenewal := by decide
  exact ⟨_, allowed.run, by decide, by decide, by decide, by decide⟩

end MmtkOpenJDK.CodeCache
