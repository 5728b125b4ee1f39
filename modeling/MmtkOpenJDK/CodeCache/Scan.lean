import Mathlib.Data.List.AList
import MmtkOpenJDK.Slots.SlotAccess

/-! One code-cache root scan, `ScanCodeCacheRoots::do_work`. The order in which
a hash map yields its entries is arbitrary, so both orders are inputs. -/

namespace MmtkOpenJDK.CodeCache

open MmtkOpenJDK.Heap MmtkOpenJDK.Slots

/-- The cached slots of each nmethod, `HashMap<Address, Vec<Address>>`. -/
abbrev RootMap := AList (fun _ : Address => List Address)

abbrev Entry := Sigma (fun _ : Address => List Address)

/-- The slots of the given entries, in iteration order. -/
def slotsOf (entries : List Entry) : List Address := entries.flatMap Sigma.snd

/-- The packet under construction and the packets already passed to
`create_process_roots_work`. -/
structure Packets (compressed : Bool) where
  slots : List (OpenJDKSlot compressed)
  created : List (List (OpenJDKSlot compressed))

variable {compressed : Bool} {capacity : Nat}

/-- The body of the loop of the closure `add_roots`. -/
def addRoot (capacity : Nat) (packets : Packets compressed) (root : Address) : Packets compressed :=
  let slots := packets.slots ++ [⟨root⟩]
  if capacity ≤ slots.length then ⟨[], packets.created ++ [slots]⟩
  else ⟨slots, packets.created⟩

def addRoots (capacity : Nat) (packets : Packets compressed) (roots : List Address) : Packets compressed :=
  roots.foldl (addRoot capacity) packets

structure ScanState (compressed : Bool) where
  packets : Packets compressed
  mature : RootMap
  nurserySlots : Nat
  matureSlots : Nat

def scanMature (capacity : Nat) (state : ScanState compressed) (entry : Entry) : ScanState compressed :=
  { state with
    packets := addRoots capacity state.packets entry.2
    matureSlots := state.matureSlots + entry.2.length }

def drainNursery (capacity : Nat) (state : ScanState compressed) (entry : Entry) : ScanState compressed :=
  { state with
    packets := addRoots capacity state.packets entry.2
    mature := state.mature.insert entry.1 entry.2
    nurserySlots := state.nurserySlots + entry.2.length }

/-- The last packet is created only if it is not empty. -/
def Packets.finish (packets : Packets compressed) : List (List (OpenJDKSlot compressed)) :=
  if packets.slots.isEmpty then packets.created else packets.created ++ [packets.slots]

structure ScanResult (compressed : Bool) where
  packets : List (List (OpenJDKSlot compressed))
  mature : RootMap
  nurserySlots : Nat
  matureSlots : Nat

/-- `ScanCodeCacheRoots::do_work` with `WORK_PACKET_CAPACITY` as a parameter. The
drained nursery map is left empty. -/
def doWork (compressed : Bool) (capacity : Nat) (isCurrentGcNursery : Bool) (mature : RootMap)
    (matureOrder nurseryOrder : List Entry) : ScanResult compressed :=
  let start : ScanState compressed := ⟨⟨[], []⟩, mature, 0, 0⟩
  let scanned := if isCurrentGcNursery then start else matureOrder.foldl (scanMature capacity) start
  let drained := nurseryOrder.foldl (drainNursery capacity) scanned
  ⟨drained.packets.finish, drained.mature, drained.nurserySlots, drained.matureSlots⟩

/-- The entries a scan reads, in the order it reads them. -/
def scannedEntries (isCurrentGcNursery : Bool) (matureOrder nurseryOrder : List Entry) : List Entry :=
  (if isCurrentGcNursery then [] else matureOrder) ++ nurseryOrder

/-- Everything handed over or still held back, in order. -/
def Packets.contents (packets : Packets compressed) : List (OpenJDKSlot compressed) :=
  packets.created.flatten ++ packets.slots

/-- Created packets are neither empty nor too large, and the packet under
construction is still below the capacity. -/
structure Packets.Bounded (capacity : Nat) (packets : Packets compressed) : Prop where
  created : ∀ packet ∈ packets.created, packet ≠ [] ∧ packet.length ≤ max 1 capacity
  slots : packets.slots.length < max 1 capacity

theorem addRoot_contents (packets : Packets compressed) (root : Address) :
    (addRoot capacity packets root).contents = packets.contents ++ [⟨root⟩] := by
  simp only [addRoot]
  split <;> simp [Packets.contents]

theorem addRoots_contents (packets : Packets compressed) (roots : List Address) :
    (addRoots capacity packets roots).contents = packets.contents ++ roots.map OpenJDKSlot.mk := by
  induction roots generalizing packets with
  | nil => simp [addRoots]
  | cons root rest ih =>
    have step : addRoots capacity packets (root :: rest) =
        addRoots capacity (addRoot capacity packets root) rest := rfl
    rw [step, ih, addRoot_contents]
    simp

theorem addRoot_bounded {packets : Packets compressed} (bounded : packets.Bounded capacity) (root : Address) :
    (addRoot capacity packets root).Bounded capacity := by
  have room := bounded.slots
  have size : (packets.slots ++ [(⟨root⟩ : OpenJDKSlot compressed)]).length =
      packets.slots.length + 1 := by simp
  simp only [addRoot]
  split
  · refine ⟨?_, by simp⟩
    intro packet member
    rcases List.mem_append.mp member with earlier | last
    · exact bounded.created packet earlier
    · have same : packet = packets.slots ++ [⟨root⟩] := by simpa using last
      subst same
      exact ⟨by simp, by rw [size]; omega⟩
  · rename_i below
    refine ⟨bounded.created, ?_⟩
    change (packets.slots ++ [_]).length < _
    omega

theorem addRoots_bounded {packets : Packets compressed} (bounded : packets.Bounded capacity)
    (roots : List Address) : (addRoots capacity packets roots).Bounded capacity := by
  induction roots generalizing packets with
  | nil => exact bounded
  | cons root rest ih => exact ih (addRoot_bounded bounded root)

theorem Packets.finish_flatten (packets : Packets compressed) :
    packets.finish.flatten = packets.contents := by
  unfold Packets.finish Packets.contents
  split
  · rename_i empty
    simp [List.isEmpty_iff.mp empty]
  · simp

theorem Packets.Bounded.finish {packets : Packets compressed} (bounded : packets.Bounded capacity) :
    ∀ packet ∈ packets.finish, packet ≠ [] ∧ packet.length ≤ max 1 capacity := by
  intro packet member
  unfold Packets.finish at member
  split at member
  · exact bounded.created packet member
  · rename_i nonempty
    rcases List.mem_append.mp member with earlier | last
    · exact bounded.created packet earlier
    · have same : packet = packets.slots := by simpa using last
      subst same
      exact ⟨by simpa using nonempty, Nat.le_of_lt bounded.slots⟩

section Folds

variable (state : ScanState compressed) (entries : List Entry)

private theorem scanMature_fold :
    (entries.foldl (scanMature capacity) state).packets =
        addRoots capacity state.packets (slotsOf entries) ∧
      (entries.foldl (scanMature capacity) state).mature = state.mature := by
  induction entries generalizing state with
  | nil => exact ⟨rfl, rfl⟩
  | cons entry rest ih =>
    obtain ⟨packets, mature⟩ := ih (scanMature capacity state entry)
    rw [List.foldl_cons]
    refine ⟨?_, mature⟩
    rw [packets]
    simp [scanMature, addRoots, slotsOf]

private theorem drainNursery_packets :
    (entries.foldl (drainNursery capacity) state).packets =
      addRoots capacity state.packets (slotsOf entries) := by
  induction entries generalizing state with
  | nil => rfl
  | cons entry rest ih =>
    rw [List.foldl_cons, ih]
    simp [drainNursery, addRoots, slotsOf]

private theorem drainNursery_mature (distinct : entries.NodupKeys) (nm : Address) :
    (entries.foldl (drainNursery capacity) state).mature.lookup nm =
      (entries.dlookup nm).or (state.mature.lookup nm) := by
  induction entries generalizing state with
  | nil => simp
  | cons entry rest ih =>
    obtain ⟨key, roots⟩ := entry
    obtain ⟨absent, distinctRest⟩ := List.nodupKeys_cons.mp distinct
    rw [List.foldl_cons, ih _ distinctRest]
    by_cases same : nm = key
    · subst same
      have missing : rest.dlookup nm = none := List.dlookup_eq_none.mpr absent
      simp [drainNursery, missing]
    · simp [drainNursery, AList.lookup_insert_ne same, List.dlookup_cons_ne rest ⟨key, roots⟩ same]

end Folds

/-- The packets of a scan, concatenated, are exactly the slots of the entries it
reads; every packet is non-empty and within the capacity. -/
theorem doWork_packets (compressed : Bool) (capacity : Nat) (isCurrentGcNursery : Bool) (mature : RootMap)
    (matureOrder nurseryOrder : List Entry) :
    (doWork compressed capacity isCurrentGcNursery mature matureOrder nurseryOrder).packets.flatten =
        (slotsOf (scannedEntries isCurrentGcNursery matureOrder nurseryOrder)).map OpenJDKSlot.mk ∧
      ∀ packet ∈ (doWork compressed capacity isCurrentGcNursery mature matureOrder nurseryOrder).packets,
        packet ≠ [] ∧ packet.length ≤ max 1 capacity := by
  have empty : Packets.Bounded capacity (⟨[], []⟩ : Packets compressed) := ⟨by simp, by simp⟩
  have whole : ∃ packets : Packets compressed,
      (doWork compressed capacity isCurrentGcNursery mature matureOrder nurseryOrder).packets =
        packets.finish ∧
      packets = addRoots capacity ⟨[], []⟩
        (slotsOf (scannedEntries isCurrentGcNursery matureOrder nurseryOrder)) := by
    refine ⟨_, rfl, ?_⟩
    rw [drainNursery_packets]
    cases isCurrentGcNursery with
    | true => simp [scannedEntries]
    | false =>
      simp only [Bool.false_eq_true, ↓reduceIte, scannedEntries]
      rw [(scanMature_fold _ matureOrder).1]
      simp [addRoots, slotsOf]
  obtain ⟨packets, created, same⟩ := whole
  rw [created]
  refine ⟨?_, ?_⟩
  · rw [Packets.finish_flatten, same, addRoots_contents]
    simp [Packets.contents]
  · exact (same ▸ addRoots_bounded empty _).finish

/-- A scan moves every nursery entry to the mature map, over an older one. -/
theorem doWork_mature (compressed : Bool) (capacity : Nat) (isCurrentGcNursery : Bool)
    (nursery mature : RootMap) (matureOrder nurseryOrder : List Entry)
    (order : nurseryOrder.Perm nursery.entries) (nm : Address) :
    (doWork compressed capacity isCurrentGcNursery mature matureOrder nurseryOrder).mature.lookup nm =
      (nursery.lookup nm).or (mature.lookup nm) := by
  have distinct : nurseryOrder.NodupKeys := (List.perm_nodupKeys order).mpr nursery.nodupKeys
  have found : nurseryOrder.dlookup nm = nursery.lookup nm :=
    List.perm_dlookup nm distinct order
  unfold doWork
  rw [drainNursery_mature _ _ distinct, found]
  cases isCurrentGcNursery with
  | true => rfl
  | false =>
    simp only [Bool.false_eq_true, ↓reduceIte]
    rw [(scanMature_fold _ matureOrder).2]

end MmtkOpenJDK.CodeCache
