import Mathlib.Algebra.BigOperators.Group.Finset.Piecewise
import Mathlib.Data.Fintype.Sum
import Mathlib.Tactic.DeriveFintype
import MmtkOpenJDK.Foundation.TransitionSystem
import MmtkOpenJDK.Roots.RootsClosure

/-! Root scanning by many workers. Every packet of `scan_vm_specific_roots` apart from
`ScanCodeCacheRoots`, and every mutator thread, has a closure of its own; the closures share
the memory that their buffers come from with each other and with the packets that process
the roots. -/

namespace MmtkOpenJDK.Roots

open MmtkOpenJDK.Heap MmtkOpenJDK.Foundation

/-- The packets whose `do_work` passes a closure to the VM. `ScanCodeCacheRoots` does not
use one. -/
inductive RootPacket (Mutator : Type) where
  | scanUniverseRoots
  | scanJNIHandlesRoots
  | scanObjectSynchronizerRoots
  | scanManagementRoots
  | scanJvmtiExportRoots
  | scanAOTLoaderRoots
  | scanSystemDictionaryRoots
  | scanStringTableRoots
  | scanClassLoaderDataGraphRoots
  | scanWeakProcessorRoots
  | scanVMThreadRoots
  | scanRootsInMutatorThread (mutator : Mutator)
  deriving DecidableEq, Fintype

/-- A vector that `Vec::with_capacity` can return. -/
structure Allocation where
  buffer : NewBuffer
  nonNull : buffer.ptr ≠ 0
  capacity_pos : 1 ≤ buffer.capacity

def Allocation.supply (allocation : Allocation) : Supply where
  buffer _ := allocation.buffer
  nonNull _ := allocation.nonNull
  capacity_pos _ := allocation.capacity_pos

/-- Where the execution of a packet is. An active one has a closure, the calls of `do_oop`
that have been made and those to come. -/
inductive Phase where
  | waiting
  | active (buffer : Address) (cap cursor : Nat) (past rest : List DoOop)
  | finished

def Phase.buffer? : Phase → Option Address
  | .active buffer _ _ _ _ => some buffer
  | .waiting | .finished => none

/-- The vectors that were handed over and not processed yet are in `pending`. `sent` and
`processed` record which packet created a vector, and what was found in it. -/
structure ParallelScan (Packet : Type) where
  buffers : Buffers
  phase : Packet → Phase
  pending : List RawVec
  sent : Packet → List RawVec
  processed : List (RawVec × List Address)

inductive ScanEvent (Packet : Type) where
  | begin (packet : Packet) (new : Allocation)
  | doOop (packet : Packet) (new : Allocation)
  | finish (packet : Packet) (new : Allocation)
  | process (vector : RawVec)

section System

variable {Packet : Type} (useCompressedOops : Bool) (calls : Packet → List DoOop)

/-- The allocator returns memory that is not in use. -/
def ParallelScan.Fresh (state : ParallelScan Packet) (new : Allocation) : Prop :=
  (∀ packet, (state.phase packet).buffer? ≠ some new.buffer.ptr) ∧ ∀ vector ∈ state.pending, vector.ptr ≠ new.buffer.ptr

def scanEnabled (state : ParallelScan Packet) : ScanEvent Packet → Prop
  | .begin packet new => state.phase packet = .waiting ∧ state.Fresh new
  | .doOop packet new => state.Fresh new ∧ ∃ buffer cap cursor past call rest,
    state.phase packet = .active buffer cap cursor past (call :: rest) ∧ call.Guaranteed useCompressedOops
  | .finish packet new => state.Fresh new ∧ ∃ buffer cap cursor past,
    state.phase packet = .active buffer cap cursor past []
  | .process vector => vector ∈ state.pending

variable [DecidableEq Packet]

/-- The packet has worked on its closure. -/
def ParallelScan.advance (state : ParallelScan Packet) (packet : Packet) (phase : Phase) (after : Buffers) :
    ParallelScan Packet :=
  let new := after.handed.drop state.buffers.handed.length
  { state with
    buffers := after
    phase := Function.update state.phase packet phase
    pending := state.pending ++ new
    sent := Function.update state.sent packet (state.sent packet ++ new) }

/-- What a packet that processes roots reads. -/
def Buffers.contents (buffers : Buffers) (vector : RawVec) : List Address :=
  (List.range vector.elements.length).map (buffers.words vector.ptr)

def scanNext (state : ParallelScan Packet) : ScanEvent Packet → ParallelScan Packet
  | .begin packet new =>
    let closure := MMTkRootsClosure.construct new.supply state.buffers
    state.advance packet (.active closure.buffer closure.cap closure.cursor [] (calls packet)) closure.buffers
  | .doOop packet new =>
    match state.phase packet with
    | .active buffer cap cursor past (call :: rest) =>
      match (⟨buffer, cap, cursor, state.buffers⟩ : MMTkRootsClosure).doOopWork new.supply useCompressedOops call with
      | .ok closure =>
        state.advance packet (.active closure.buffer closure.cap closure.cursor (past ++ [call]) rest) closure.buffers
      | .error _ => state
    | _ => state
  | .finish packet new =>
    match state.phase packet with
    | .active buffer cap cursor _ [] =>
      state.advance packet .finished ((⟨buffer, cap, cursor, state.buffers⟩ : MMTkRootsClosure).destroy new.supply)
    | _ => state
  | .process vector =>
    { state with
      pending := state.pending.erase vector
      processed := state.processed ++ [(vector, state.buffers.contents vector)] }

def ParallelScan.start : ParallelScan Packet := ⟨.none, fun _ => .waiting, [], fun _ => [], []⟩

def scanSystem : System (ParallelScan Packet) (ScanEvent Packet) where
  initial state := state = .start
  enabled := scanEnabled useCompressedOops
  next := scanNext useCompressedOops calls

end System

section Single

variable {useCompressedOops : Bool} {new : Allocation} {shared single : MMTkRootsClosure}

/-- A closure in shared memory and one that has the memory for itself, as far as the
closure can tell. -/
structure Agrees (shared single : MMTkRootsClosure) : Prop where
  buffer : shared.buffer = single.buffer
  cap : shared.cap = single.cap
  cursor : shared.cursor = single.cursor
  words : ∀ index < single.cursor, shared.buffers.words single.buffer index = single.buffers.words single.buffer index

/-- The effect of a closure's work on the shared buffers. It writes to no buffer but its
own; it hands that one over in exchange for the new one, or gives it up. -/
structure Effect (before after : Buffers) (own held : Option Address) (new : Allocation) (vectors : List RawVec) :
    Prop where
  handed : after.handed = before.handed ++ vectors
  frame : ∀ ptr, own ≠ some ptr → after.words ptr = before.words ptr
  offered : vectors = [] ∨ ∃ vector, vectors = [vector] ∧ own = some vector.ptr ∧ after.contents vector = vector.elements
  holds : held = none ∨ held = some new.buffer.ptr ∨ held = own ∧ vectors = []

theorem contents_fromRawParts (buffers : Buffers) (ptr : Address) (length capacity : Nat) :
    buffers.contents (buffers.fromRawParts ptr length capacity) = (buffers.fromRawParts ptr length capacity).elements := by
  simp [Buffers.contents, Buffers.fromRawParts]

theorem effect_construct (new : Allocation) (buffers : Buffers) :
    Effect buffers (MMTkRootsClosure.construct new.supply buffers).buffers none
      (some (MMTkRootsClosure.construct new.supply buffers).buffer) new [] where
  handed := by simp [MMTkRootsClosure.construct, reportSlotsAndRenewBuffer]
  frame := fun _ _ => rfl
  offered := .inl rfl
  holds := .inr (.inl rfl)

/-- Handing the buffer over. -/
theorem Agrees.flush (agrees : Agrees shared single) (new : Allocation) (pending : 0 < single.cursor)
    (nonNull : single.buffer ≠ 0) :
    Agrees (shared.flush new.supply) (single.flush new.supply) ∧
      ∃ vector, (single.flush new.supply).buffers.handed = single.buffers.handed ++ [vector] ∧
        Effect shared.buffers (shared.flush new.supply).buffers (some shared.buffer)
          (some (shared.flush new.supply).buffer) new [vector] := by
  obtain ⟨buffer, cap, cursor, words⟩ := agrees
  have same : shared.buffers.fromRawParts single.buffer single.cursor single.cap =
      single.buffers.fromRawParts single.buffer single.cursor single.cap := by
    rw [Buffers.fromRawParts, Buffers.fromRawParts]
    congr 1
    refine List.map_congr_left ?_
    intro index member
    exact words index (List.mem_range.mp member)
  rw [MMTkRootsClosure.flush, MMTkRootsClosure.flush, cursor, if_pos pending, if_pos pending, buffer, cap,
    reportSlotsAndRenewBuffer, reportSlotsAndRenewBuffer]
  simp only [if_neg nonNull]
  refine ⟨⟨rfl, rfl, rfl, fun _ below => absurd below (Nat.not_lt_zero _)⟩,
    single.buffers.fromRawParts single.buffer single.cursor single.cap, rfl, ?_⟩
  refine ⟨by rw [same], fun _ _ => rfl, .inr ⟨_, rfl, rfl, ?_⟩, .inr (.inl rfl)⟩
  rw [← same]
  exact contents_fromRawParts shared.buffers single.buffer single.cursor single.cap

/-- A write to the end of the words in the buffer. -/
theorem Agrees.write (agrees : Agrees shared single) (word : Address) :
    Agrees
      { shared with
        buffers := shared.buffers.write shared.buffer shared.cursor shared.cap word
        cursor := shared.cursor + 1 }
      { single with
        buffers := single.buffers.write single.buffer single.cursor single.cap word
        cursor := single.cursor + 1 } := by
  obtain ⟨buffer, cap, cursor, words⟩ := agrees
  refine ⟨buffer, cap, by simp only [cursor], ?_⟩
  intro index bound
  simp only [Buffers.write, buffer, cursor, Function.update_self]
  by_cases last : index = single.cursor
  · simp [last]
  · have below : index < single.cursor := Nat.lt_of_le_of_ne (Nat.le_of_lt_succ bound) last
    rw [Function.update_of_ne last, Function.update_of_ne last, words index below]

theorem frame_write {buffers : Buffers} {ptr own : Address} (different : own ≠ ptr) (index capacity : Nat)
    (word : Address) : (buffers.write own index capacity word).words ptr = buffers.words ptr := by
  simp [Buffers.write, Function.update_of_ne different.symm]

theorem Agrees.push (agrees : Agrees shared single) (new : Allocation) (nonNull : single.buffer ≠ 0) (word : Address) :
    Agrees (shared.push new.supply word) (single.push new.supply word) ∧
      ∃ vectors, (single.push new.supply word).buffers.handed = single.buffers.handed ++ vectors ∧
        Effect shared.buffers (shared.push new.supply word).buffers (some shared.buffer)
          (some (shared.push new.supply word).buffer) new vectors := by
  have written := agrees.write word
  have same : (shared.cap ≤ shared.cursor + 1) = (single.cap ≤ single.cursor + 1) := by
    rw [agrees.cap, agrees.cursor]
  rw [MMTkRootsClosure.push, MMTkRootsClosure.push]
  simp only [same]
  by_cases full : single.cap ≤ single.cursor + 1
  · simp only [if_pos full]
    obtain ⟨flushed, vector, handed, effect⟩ := written.flush new (Nat.succ_pos _) nonNull
    refine ⟨flushed, [vector], handed, effect.handed, ?_, effect.offered, effect.holds⟩
    intro ptr different
    rw [effect.frame ptr different]
    exact frame_write (fun same => different (congrArg some same)) _ _ _
  · simp only [if_neg full]
    refine ⟨written, [], by simp [Buffers.write], by simp [Buffers.write], ?_, .inl rfl, .inr (.inr ⟨rfl, rfl⟩)⟩
    intro ptr different
    exact frame_write (fun same => different (congrArg some same)) _ _ _

/-- One call of `do_oop`, which the closure cannot tell from one in memory of its own. -/
theorem Agrees.doOopWork {call : DoOop} {past : List DoOop} (agrees : Agrees shared single) (new : Allocation)
    (collecting : Collecting useCompressedOops past single) (guaranteed : call.Guaranteed useCompressedOops) :
    ∃ shared' single' vectors, shared.doOopWork new.supply useCompressedOops call = .ok shared' ∧
      Agrees shared' single' ∧ Collecting useCompressedOops (past ++ [call]) single' ∧
      single'.buffers.handed = single.buffers.handed ++ vectors ∧
      Effect shared.buffers shared'.buffers (some shared.buffer) (some shared'.buffer) new vectors := by
  obtain ⟨single', done, collected⟩ := collecting.doOopWork new.supply guaranteed
  rw [MMTkRootsClosure.doOopWork] at done ⊢
  by_cases null : call.heapOop = 0
  · rw [if_pos null] at done ⊢
    obtain rfl := Except.ok.inj done
    exact ⟨shared, single, [], rfl, agrees, collected, by simp, by simp, fun _ _ => rfl, .inl rfl, .inr (.inr ⟨rfl, rfl⟩)⟩
  · rw [if_neg null, reportedSlot_of_guaranteed guaranteed null] at done ⊢
    obtain rfl := Except.ok.inj done
    obtain ⟨pushed, vectors, handed, effect⟩ := agrees.push new collecting.1.nonNull (call.word useCompressedOops)
    exact ⟨_, _, vectors, rfl, pushed, collected, handed, effect⟩

/-- The destructor. -/
theorem Agrees.destroy {past : List DoOop} (agrees : Agrees shared single) (new : Allocation)
    (collecting : Collecting useCompressedOops past single) :
    ∃ vectors, (single.destroy new.supply).handed = single.buffers.handed ++ vectors ∧
      Effect shared.buffers (shared.destroy new.supply) (some shared.buffer) none new vectors := by
  have nonNull := collecting.1.nonNull
  rw [MMTkRootsClosure.destroy, MMTkRootsClosure.destroy, agrees.cursor]
  by_cases pending : 0 < single.cursor
  · obtain ⟨flushed, vector, handed, effect⟩ := agrees.flush new pending nonNull
    have singleNonNull : (single.flush new.supply).buffer ≠ 0 := (collecting.1.flush new.supply pending).1.1.nonNull
    have sharedNonNull : (shared.flush new.supply).buffer ≠ 0 := flushed.buffer ▸ singleNonNull
    simp only [if_pos pending, if_pos singleNonNull, if_pos sharedNonNull]
    exact ⟨[vector], handed, effect.handed, effect.frame, effect.offered, .inl rfl⟩
  · have sharedNonNull : shared.buffer ≠ 0 := agrees.buffer ▸ nonNull
    simp only [if_neg pending, if_pos nonNull, if_pos sharedNonNull]
    exact ⟨[], by simp [releaseBuffer], by simp [releaseBuffer], fun _ _ => rfl, .inl rfl, .inl rfl⟩

end Single

section Invariant

variable {Packet : Type} {useCompressedOops : Bool} {calls : Packet → List DoOop} {state : ParallelScan Packet}
variable {packet : Packet} {new : Allocation} {after : Buffers} {vectors : List RawVec} {phase : Phase}

/-- What a packet has done is what its closure would have done alone. -/
def Alone (useCompressedOops : Bool) (calls : List DoOop) (buffers : Buffers) (sent : List RawVec) : Phase → Prop
  | .waiting => sent = []
  | .active buffer cap cursor past rest =>
    past ++ rest = calls ∧ ∃ single, Collecting useCompressedOops past single ∧
      Agrees ⟨buffer, cap, cursor, buffers⟩ single ∧ single.buffers.handed = sent
  | .finished => ∃ single, Delivered useCompressedOops calls single ∧ single.handed = sent

/-- No buffer has two owners, and the vectors that wait to be processed are as they were
handed over. -/
structure Separate (state : ParallelScan Packet) : Prop where
  active : ∀ packet other ptr, (state.phase packet).buffer? = some ptr → (state.phase other).buffer? = some ptr →
    packet = other
  apart : ∀ packet, ∀ vector ∈ state.pending, (state.phase packet).buffer? ≠ some vector.ptr
  pending : state.pending.Pairwise fun vector other => vector.ptr ≠ other.ptr
  intact : ∀ vector ∈ state.pending, state.buffers.contents vector = vector.elements

theorem Alone.congr {buffers : Buffers} {list : List DoOop} {sent : List RawVec}
    (alone : Alone useCompressedOops list buffers sent phase)
    (same : ∀ ptr, phase.buffer? = some ptr → after.words ptr = buffers.words ptr) :
    Alone useCompressedOops list after sent phase := by
  cases phase with
  | waiting => exact alone
  | finished => exact alone
  | active buffer cap cursor past rest =>
    obtain ⟨parts, single, collecting, agrees, handed⟩ := alone
    refine ⟨parts, single, collecting, ⟨agrees.buffer, agrees.cap, agrees.cursor, ?_⟩, handed⟩
    intro index bound
    have own : after.words single.buffer = buffers.words single.buffer := same _ (congrArg some agrees.buffer)
    rw [own]
    exact agrees.words index bound

section Packets

variable [Fintype Packet]

structure Scanning (useCompressedOops : Bool) (calls : Packet → List DoOop) (state : ParallelScan Packet) : Prop where
  alone : ∀ packet, Alone useCompressedOops (calls packet) state.buffers (state.sent packet) (state.phase packet)
  separate : Separate state
  faithful : ∀ entry ∈ state.processed, entry.2 = entry.1.elements
  shares : (state.pending : Multiset RawVec) + (state.processed.map Prod.fst : List RawVec) =
    ∑ packet, (state.sent packet : Multiset RawVec)

theorem Scanning.start : Scanning useCompressedOops calls (.start : ParallelScan Packet) where
  alone _ := rfl
  separate := ⟨nofun, nofun, .nil, nofun⟩
  faithful := nofun
  shares := by simp [ParallelScan.start]

end Packets

variable [DecidableEq Packet]

/-- The work of one packet keeps the owners apart. -/
theorem Separate.advance (separate : Separate state) (fresh : state.Fresh new)
    (effect : Effect state.buffers after (state.phase packet).buffer? phase.buffer? new vectors) :
    Separate (state.advance packet phase after) := by
  have drop : after.handed.drop state.buffers.handed.length = vectors := by
    rw [effect.handed, List.drop_left]
  -- whoever holds a buffer afterwards held it before, or the allocator has just returned it
  have held {other : Packet} {ptr : Address}
      (holds : (Function.update state.phase packet phase other).buffer? = some ptr) :
      other = packet ∧ ptr = new.buffer.ptr ∨
        (state.phase other).buffer? = some ptr ∧ (other = packet → vectors = []) := by
    by_cases same : other = packet
    · subst same
      rw [Function.update_self] at holds
      rcases effect.holds with none | fresh | ⟨kept, nothing⟩
      · rw [none] at holds
        cases holds
      · exact .inl ⟨rfl, Option.some.inj (holds.symm.trans fresh)⟩
      · exact .inr ⟨kept ▸ holds, fun _ => nothing⟩
    · rw [Function.update_of_ne same] at holds
      exact .inr ⟨holds, fun equal => absurd equal same⟩
  have offered {vector : RawVec} (member : vector ∈ vectors) :
      (state.phase packet).buffer? = some vector.ptr ∧ after.contents vector = vector.elements ∧ vectors = [vector] := by
    rcases effect.offered with nothing | ⟨only, single, own, contents⟩
    · simp [nothing] at member
    · obtain rfl : vector = only := by simpa [single] using member
      exact ⟨own, contents, single⟩
  refine ⟨?_, ?_, ?_, ?_⟩
  · intro first second ptr firstHolds secondHolds
    rcases held firstHolds with ⟨own, address⟩ | ⟨before, _⟩ <;>
      rcases held secondHolds with ⟨own', address'⟩ | ⟨before', _⟩
    · exact own.trans own'.symm
    · exact absurd (address ▸ before') (fresh.1 second)
    · exact absurd (address' ▸ before) (fresh.1 first)
    · exact separate.active first second ptr before before'
  · intro other vector member holds
    simp only [ParallelScan.advance, drop] at member
    rcases held holds with ⟨rfl, address⟩ | ⟨before, kept⟩ <;> rcases List.mem_append.mp member with old | recent
    · exact fresh.2 vector old address
    · exact fresh.1 other (address ▸ (offered recent).1)
    · exact separate.apart other vector old before
    · obtain ⟨own, _, single⟩ := offered recent
      have same := separate.active other packet _ before own
      simp [kept same] at single
  · simp only [ParallelScan.advance, drop]
    rw [List.pairwise_append]
    refine ⟨separate.pending, ?_, ?_⟩
    · rcases effect.offered with nothing | ⟨vector, single, _⟩
      · simp [nothing]
      · simp [single]
    · intro vector old other recent address
      exact separate.apart packet vector old (address ▸ (offered recent).1)
  · intro vector member
    simp only [ParallelScan.advance, drop] at member ⊢
    rcases List.mem_append.mp member with old | recent
    · rw [Buffers.contents, effect.frame vector.ptr (separate.apart packet vector old)]
      exact separate.intact vector old
    · exact (offered recent).2.1

variable [Fintype Packet]

theorem sum_update_append (sent : Packet → List RawVec) (packet : Packet) (vectors : List RawVec) :
    ∑ other, (Function.update sent packet (sent packet ++ vectors) other : Multiset RawVec) =
      (∑ other, (sent other : Multiset RawVec)) + vectors := by
  have split (other : Packet) : (Function.update sent packet (sent packet ++ vectors) other : Multiset RawVec) =
      (sent other : Multiset RawVec) + if other = packet then (vectors : Multiset RawVec) else 0 := by
    by_cases same : other = packet
    · subst same
      simp
    · simp [same]
  simp only [split, Finset.sum_add_distrib, Finset.sum_ite_eq', Finset.mem_univ, if_true]

theorem Scanning.advance (scanning : Scanning useCompressedOops calls state) (fresh : state.Fresh new)
    (effect : Effect state.buffers after (state.phase packet).buffer? phase.buffer? new vectors)
    (own : Alone useCompressedOops (calls packet) after (state.sent packet ++ vectors) phase) :
    Scanning useCompressedOops calls (state.advance packet phase after) := by
  have drop : after.handed.drop state.buffers.handed.length = vectors := by
    rw [effect.handed, List.drop_left]
  refine ⟨?_, scanning.separate.advance fresh effect, scanning.faithful, ?_⟩
  · intro other
    simp only [ParallelScan.advance, drop]
    by_cases same : other = packet
    · subst same
      simpa using own
    · rw [Function.update_of_ne same, Function.update_of_ne same]
      refine (scanning.alone other).congr ?_
      intro ptr holds
      apply effect.frame
      intro shared
      exact same (scanning.separate.active other packet ptr holds shared)
  · simp only [ParallelScan.advance, drop]
    rw [sum_update_append, ← scanning.shares, ← Multiset.coe_add]
    exact add_right_comm _ _ _

theorem Scanning.process (scanning : Scanning useCompressedOops calls state) {vector : RawVec}
    (member : vector ∈ state.pending) :
    Scanning useCompressedOops calls (scanNext useCompressedOops calls state (.process vector)) := by
  obtain ⟨alone, ⟨active, apart, pending, intact⟩, faithful, shares⟩ := scanning
  have subset : (state.pending.erase vector).Sublist state.pending := List.erase_sublist
  refine ⟨alone, ⟨active, ?_, pending.sublist subset, ?_⟩, ?_, ?_⟩
  · intro packet other present
    exact apart packet other (subset.subset present)
  · intro other present
    exact intact other (subset.subset present)
  · intro entry present
    rcases List.mem_append.mp present with earlier | last
    · exact faithful entry earlier
    · obtain rfl := List.mem_singleton.mp last
      exact intact vector member
  · have cons : (state.pending : Multiset RawVec) = vector ::ₘ (state.pending.erase vector : Multiset RawVec) := by
      rw [← Multiset.coe_erase]
      exact (Multiset.cons_erase member).symm
    have moved : scanNext useCompressedOops calls state (.process vector) =
      { state with
        pending := state.pending.erase vector
        processed := state.processed ++ [(vector, state.buffers.contents vector)] } := rfl
    rw [moved]
    simp only [List.map_append, List.map_singleton]
    rw [← shares, cons, ← Multiset.coe_add, ← Multiset.singleton_add]
    simp only [Multiset.coe_singleton]
    ac_rfl

theorem Scanning.next (scanning : Scanning useCompressedOops calls state) {event : ScanEvent Packet}
    (allowed : scanEnabled useCompressedOops state event) :
    Scanning useCompressedOops calls (scanNext useCompressedOops calls state event) := by
  cases event with
  | begin packet new =>
    obtain ⟨waiting, fresh⟩ := allowed
    have alone := scanning.alone packet
    rw [waiting] at alone
    have effect := effect_construct new state.buffers
    rw [show none = (state.phase packet).buffer? by rw [waiting]; rfl] at effect
    refine scanning.advance fresh effect ?_
    rw [show state.sent packet = [] from alone]
    exact ⟨rfl, _, Collecting.construct new.supply, ⟨rfl, rfl, rfl, nofun⟩, rfl⟩
  | doOop packet new =>
    obtain ⟨fresh, buffer, cap, cursor, past, call, rest, phase, guaranteed⟩ := allowed
    have alone := scanning.alone packet
    rw [phase] at alone
    obtain ⟨parts, single, collecting, agrees, handed⟩ := alone
    obtain ⟨shared', single', vectors, done, agrees', collected, sent, effect⟩ :=
      agrees.doOopWork new collecting guaranteed
    have own : some buffer = (state.phase packet).buffer? := by rw [phase]; rfl
    simp only [own] at effect
    simp only [scanNext, phase, done]
    refine scanning.advance fresh effect ?_
    exact ⟨by simpa using parts, single', collected, agrees', by rw [sent, handed]⟩
  | finish packet new =>
    obtain ⟨fresh, buffer, cap, cursor, past, phase⟩ := allowed
    have alone := scanning.alone packet
    rw [phase] at alone
    obtain ⟨parts, single, collecting, agrees, handed⟩ := alone
    obtain ⟨vectors, sent, effect⟩ := agrees.destroy new collecting
    have own : some buffer = (state.phase packet).buffer? := by rw [phase]; rfl
    simp only [own] at effect
    simp only [scanNext, phase]
    refine scanning.advance fresh effect ?_
    rw [List.append_nil] at parts
    exact ⟨_, parts ▸ collecting.destroy new.supply, by rw [sent, handed]⟩
  | process vector => exact scanning.process allowed

end Invariant

/-- The roots in a collection of vectors. -/
def elementsOf : Multiset RawVec →+ Multiset Address where
  toFun vectors := vectors.bind fun vector => vector.elements
  map_zero' := Multiset.zero_bind _
  map_add' first second := Multiset.add_bind first second _

theorem elementsOf_coe (vectors : List RawVec) : elementsOf vectors = (vectors.map RawVec.elements).flatten := by
  rw [← List.flatMap_def]
  exact Multiset.coe_bind vectors RawVec.elements

/-- In every interleaving: a vector is processed with the roots that it was handed over
with, every packet sends the roots that are reported to it in order, and once all is done
every root has been processed as often as it was reported. -/
theorem roots_scanned_in_parallel {Mutator : Type} [DecidableEq Mutator] [Fintype Mutator] (useCompressedOops : Bool)
    (calls : RootPacket Mutator → List DoOop) (state : ParallelScan (RootPacket Mutator))
    (reachable : (scanSystem useCompressedOops calls).Reachable state) :
    (∀ vector ∈ state.pending, state.buffers.contents vector = vector.elements ∧
      ∀ packet, (state.phase packet).buffer? ≠ some vector.ptr) ∧
    (∀ entry ∈ state.processed, entry.2 = entry.1.elements) ∧
    (∀ packet, state.phase packet = .finished →
      ((state.sent packet).map RawVec.elements).flatten = reportedWords useCompressedOops (calls packet) ∧
      ∀ vector ∈ state.sent packet, vector.elements ≠ [] ∧ vector.elements.length ≤ vector.capacity) ∧
    ((∀ packet, state.phase packet = .finished) → state.pending = [] →
      ((state.processed.map Prod.snd).flatten : Multiset Address) =
        ∑ packet, (reportedWords useCompressedOops (calls packet) : Multiset Address)) := by
  have scanning : Scanning useCompressedOops calls state :=
    reachable.invariant (Scanning useCompressedOops calls) (by rintro _ rfl; exact .start)
      fun _ _ scanning allowed => scanning.next allowed
  have complete (packet : RootPacket Mutator) (finished : state.phase packet = .finished) :
      ((state.sent packet).map RawVec.elements).flatten = reportedWords useCompressedOops (calls packet) ∧
      ∀ vector ∈ state.sent packet, vector.elements ≠ [] ∧ vector.elements.length ≤ vector.capacity := by
    have alone := scanning.alone packet
    rw [finished] at alone
    obtain ⟨single, delivered, sent⟩ := alone
    rw [← sent]
    exact ⟨delivered.delivered, delivered.vectors⟩
  refine ⟨?_, scanning.faithful, complete, ?_⟩
  · intro vector member
    exact ⟨scanning.separate.intact vector member, fun packet => scanning.separate.apart packet vector member⟩
  · intro finished empty
    have found : state.processed.map Prod.snd = (state.processed.map Prod.fst).map RawVec.elements := by
      rw [List.map_map]
      exact List.map_congr_left scanning.faithful
    have shares := scanning.shares
    rw [empty, Multiset.coe_nil, zero_add] at shares
    calc ((state.processed.map Prod.snd).flatten : Multiset Address)
        _ = elementsOf (state.processed.map Prod.fst : List RawVec) := by rw [found, elementsOf_coe]
        _ = ∑ packet, elementsOf (state.sent packet) := by rw [shares, map_sum]
        _ = ∑ packet, (reportedWords useCompressedOops (calls packet) : Multiset Address) := by
          refine Finset.sum_congr rfl ?_
          intro packet _
          rw [elementsOf_coe, (complete packet (finished packet)).1]

def vectorAt (ptr : Address) (nonNull : ptr ≠ 0) : Allocation := ⟨⟨ptr, 1⟩, nonNull, Nat.le_refl 1⟩

/-- Two packets take turns; the first root is processed before the packet that found it
has finished. -/
def interleavedScan : List (ScanEvent (RootPacket Empty)) :=
  [.begin .scanUniverseRoots (vectorAt 0x1000 (by decide)), .begin .scanVMThreadRoots (vectorAt 0x2000 (by decide)),
    .doOop .scanUniverseRoots (vectorAt 0x3000 (by decide)), .process ⟨0x1000, [0x80007f0000001000], 1⟩,
    .doOop .scanVMThreadRoots (vectorAt 0x1000 (by decide)), .finish .scanUniverseRoots (vectorAt 0x4000 (by decide))]

def twoRoots : RootPacket Empty → List DoOop
  | .scanUniverseRoots => [⟨0x7f0000001000, false, 8⟩]
  | .scanVMThreadRoots => [⟨0x7f0000002000, true, 16⟩]
  | _ => []

theorem interleaved_scan_delivers :
    (((interleavedScan.foldl (scanNext true twoRoots) .start).sent .scanUniverseRoots).map RawVec.elements).flatten =
      [0x80007f0000001000] := by
  have allowed : (scanSystem true twoRoots).Allowed .start interleavedScan := by
    refine ⟨⟨rfl, ?_, ?_⟩, ⟨rfl, ?_, ?_⟩, ⟨⟨?_, ?_⟩, _, _, _, _, _, _, rfl, by decide⟩,
      show (_ : RawVec) ∈ (_ : List RawVec) from ?_, ⟨⟨?_, ?_⟩, _, _, _, _, _, _, rfl, by decide⟩,
      ⟨⟨?_, ?_⟩, _, _, _, _, rfl⟩, trivial⟩
    all_goals decide
  have finished : (interleavedScan.foldl (scanNext true twoRoots) .start).phase .scanUniverseRoots = .finished := rfl
  exact ((roots_scanned_in_parallel true twoRoots _ ⟨_, _, rfl, allowed.run⟩).2.2.1 _ finished).1

end MmtkOpenJDK.Roots
