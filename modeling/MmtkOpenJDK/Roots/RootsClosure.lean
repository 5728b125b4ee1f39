import MmtkOpenJDK.Slots.SlotAccess

/-! `MMTkRootsClosure`: root slots are collected in a buffer that mmtk-core owns. A
full buffer is handed over to the root work factory in exchange for a new one,
and the destructor hands over or releases the last one. -/

namespace MmtkOpenJDK.Roots

open MmtkOpenJDK.Heap MmtkOpenJDK.Slots

structure NewBuffer where
  ptr : Address
  capacity : Nat
  deriving DecidableEq

/-- A Rust vector made from raw parts, with its elements. -/
structure RawVec where
  ptr : Address
  elements : List Address
  capacity : Nat
  deriving DecidableEq

/-- The allocation behind a vector. -/
def RawVec.buffer (vector : RawVec) : NewBuffer := ⟨vector.ptr, vector.capacity⟩

/-- The buffers that `Vec::with_capacity` returns one after the other. The pointer
of a vector is never null. -/
structure Supply where
  buffer : Nat → NewBuffer
  nonNull : ∀ index, (buffer index).ptr ≠ 0
  capacity_pos : ∀ index, 1 ≤ (buffer index).capacity

/-- A write to a buffer, with the capacity of the buffer. -/
structure Write where
  index : Nat
  capacity : Nat
  deriving DecidableEq

/-- The memory of the buffers, by pointer and index, and the history: which buffers
were obtained, which vectors the factory got and which were released, and all
writes. -/
structure Buffers where
  words : Address → Nat → Address
  obtained : List NewBuffer
  handed : List RawVec
  released : List RawVec
  writes : List Write

def Buffers.none : Buffers := ⟨fun _ _ => 0, [], [], [], []⟩

/-- `Vec::from_raw_parts`. -/
def Buffers.fromRawParts (buffers : Buffers) (ptr : Address) (length capacity : Nat) : RawVec :=
  ⟨ptr, (List.range length).map (buffers.words ptr), capacity⟩

def Buffers.write (buffers : Buffers) (ptr : Address) (index capacity : Nat) (word : Address) : Buffers :=
  { buffers with
    words := Function.update buffers.words ptr (Function.update (buffers.words ptr) index word)
    writes := buffers.writes ++ [⟨index, capacity⟩] }

/-- `report_slots_and_renew_buffer`. -/
def reportSlotsAndRenewBuffer (supply : Supply) (buffers : Buffers) (ptr : Address) (length capacity : Nat) :
    NewBuffer × Buffers :=
  let reported : Buffers :=
    if ptr = 0 then buffers
    else { buffers with handed := buffers.handed ++ [buffers.fromRawParts ptr length capacity] }
  let new := supply.buffer reported.obtained.length
  (new, { reported with obtained := reported.obtained ++ [new] })

/-- `release_buffer`: the vector is dropped. -/
def releaseBuffer (buffers : Buffers) (ptr : Address) (length capacity : Nat) : Buffers :=
  { buffers with released := buffers.released ++ [buffers.fromRawParts ptr length capacity] }

/-- The fields of the closure, and the world around it. -/
structure MMTkRootsClosure where
  buffer : Address
  cap : Nat
  cursor : Nat
  buffers : Buffers

/-- A call of `do_oop`: the slot pointer, its type, and what `oop_load` reads there. -/
structure DoOop where
  p : Address
  narrow : Bool
  heapOop : Nat
  deriving DecidableEq

namespace MMTkRootsClosure

def construct (supply : Supply) (buffers : Buffers) : MMTkRootsClosure :=
  let buf := reportSlotsAndRenewBuffer supply buffers 0 0 0
  ⟨buf.1.ptr, buf.1.capacity, 0, buf.2⟩

def flush (supply : Supply) (closure : MMTkRootsClosure) : MMTkRootsClosure :=
  if 0 < closure.cursor then
    let buf := reportSlotsAndRenewBuffer supply closure.buffers closure.buffer closure.cursor closure.cap
    ⟨buf.1.ptr, buf.1.capacity, 0, buf.2⟩
  else closure

/-- The part of `do_oop_work` after the tag is set. -/
def push (supply : Supply) (closure : MMTkRootsClosure) (word : Address) : MMTkRootsClosure :=
  let written : MMTkRootsClosure :=
    { closure with
      buffers := closure.buffers.write closure.buffer closure.cursor closure.cap word
      cursor := closure.cursor + 1 }
  if written.cap ≤ written.cursor then written.flush supply else written

/-- `do_oop_work`. The failure is that of the `guarantee`. -/
def doOopWork (supply : Supply) (useCompressedOops : Bool) (closure : MMTkRootsClosure) (call : DoOop) :
    Except String MMTkRootsClosure :=
  if call.heapOop = 0 then .ok closure
  else
    match Slots.MMTkRootsClosure.reportedSlot useCompressedOops call.narrow call.p with
    | .error message => .error message
    | .ok word => .ok (closure.push supply word)

/-- All calls of `do_oop`, in order. -/
def doOops (supply : Supply) (useCompressedOops : Bool) (closure : MMTkRootsClosure) :
    List DoOop → Except String MMTkRootsClosure
  | [] => .ok closure
  | call :: rest =>
    match closure.doOopWork supply useCompressedOops call with
    | .error message => .error message
    | .ok next => next.doOops supply useCompressedOops rest

def destroy (supply : Supply) (closure : MMTkRootsClosure) : Buffers :=
  let flushed := if 0 < closure.cursor then closure.flush supply else closure
  if flushed.buffer ≠ 0 then releaseBuffer flushed.buffers flushed.buffer flushed.cursor flushed.cap
  else flushed.buffers

end MMTkRootsClosure

/-- The life of a closure. -/
def scanRoots (supply : Supply) (useCompressedOops : Bool) (calls : List DoOop) : Except String Buffers :=
  match (MMTkRootsClosure.construct supply .none).doOops supply useCompressedOops calls with
  | .error message => .error message
  | .ok closure => .ok (closure.destroy supply)

/-- The pointer of a wide slot has no tag yet when it is reported. -/
def DoOop.Guaranteed (useCompressedOops : Bool) (call : DoOop) : Prop :=
  call.heapOop ≠ 0 → useCompressedOops = true → call.narrow = false → call.p &&& tagMask = 0

instance (useCompressedOops : Bool) (call : DoOop) : Decidable (call.Guaranteed useCompressedOops) :=
  inferInstanceAs (Decidable (_ → _ → _ → _))

/-- The word for a slot. -/
def DoOop.word (useCompressedOops : Bool) (call : DoOop) : Address :=
  if useCompressedOops && !call.narrow then call.p ||| tagMask else call.p

/-- The words for all slots that are not null. -/
def reportedWords (useCompressedOops : Bool) (calls : List DoOop) : List Address :=
  (calls.filter (·.heapOop ≠ 0)).map (DoOop.word useCompressedOops)

/-- What a closure leaves behind when it is destroyed. -/
structure Delivered (useCompressedOops : Bool) (calls : List DoOop) (buffers : Buffers) : Prop where
  inBounds : ∀ write ∈ buffers.writes, write.index < write.capacity
  delivered : (buffers.handed.map RawVec.elements).flatten = reportedWords useCompressedOops calls
  vectors : ∀ vector ∈ buffers.handed, vector.elements ≠ [] ∧ vector.elements.length ≤ vector.capacity
  linear : buffers.obtained = (buffers.handed ++ buffers.released).map RawVec.buffer

/-- The closure owns the buffer it obtained last, and the words in it are what is
still to be delivered. -/
structure Holding (useCompressedOops : Bool) (calls : List DoOop) (closure : MMTkRootsClosure) : Prop where
  bound : closure.cursor ≤ closure.cap
  nonNull : closure.buffer ≠ 0
  inBounds : ∀ write ∈ closure.buffers.writes, write.index < write.capacity
  delivered : (closure.buffers.handed.map RawVec.elements).flatten ++
    (List.range closure.cursor).map (closure.buffers.words closure.buffer) = reportedWords useCompressedOops calls
  vectors : ∀ vector ∈ closure.buffers.handed, vector.elements ≠ [] ∧ vector.elements.length ≤ vector.capacity
  linear : closure.buffers.obtained = closure.buffers.handed.map RawVec.buffer ++ [⟨closure.buffer, closure.cap⟩]
  unreleased : closure.buffers.released = []

/-- Between two calls of `do_oop` there is room for one more word. -/
def Collecting (useCompressedOops : Bool) (calls : List DoOop) (closure : MMTkRootsClosure) : Prop :=
  Holding useCompressedOops calls closure ∧ closure.cursor < closure.cap

section Steps

variable (supply : Supply) {useCompressedOops : Bool} {calls : List DoOop} {closure : MMTkRootsClosure}

theorem Collecting.construct : Collecting useCompressedOops [] (.construct supply .none) := by
  have positive := supply.capacity_pos 0
  refine ⟨⟨Nat.zero_le _, supply.nonNull 0, ?_, ?_, ?_, ?_, ?_⟩, positive⟩ <;>
    simp [MMTkRootsClosure.construct, reportSlotsAndRenewBuffer, Buffers.none, reportedWords]

/-- A buffer with words in it is handed over as it is, and a new one is obtained. -/
theorem Holding.flush (holding : Holding useCompressedOops calls closure) (pending : 0 < closure.cursor) :
    Collecting useCompressedOops calls (closure.flush supply) ∧ (closure.flush supply).cursor = 0 := by
  obtain ⟨bound, nonNull, inBounds, delivered, vectors, linear, unreleased⟩ := holding
  have positive := supply.capacity_pos closure.buffers.obtained.length
  have another := supply.nonNull closure.buffers.obtained.length
  rw [MMTkRootsClosure.flush, if_pos pending, reportSlotsAndRenewBuffer]
  simp only [if_neg nonNull]
  refine ⟨⟨⟨Nat.zero_le _, another, inBounds, ?_, ?_, ?_, unreleased⟩, positive⟩, trivial⟩
  · simpa [Buffers.fromRawParts] using delivered
  · intro vector member
    rcases List.mem_append.mp member with earlier | last
    · exact vectors vector earlier
    · obtain rfl := List.mem_singleton.mp last
      simp only [Buffers.fromRawParts, ne_eq, List.map_eq_nil_iff, List.range_eq_nil, List.length_map, List.length_range]
      exact ⟨Nat.pos_iff_ne_zero.mp pending, bound⟩
  · simp [linear, Buffers.fromRawParts, RawVec.buffer]

/-- The write goes to the end of the words in the buffer. -/
theorem Collecting.write (collecting : Collecting useCompressedOops calls closure) {call : DoOop}
    (nonNull : call.heapOop ≠ 0) :
    Holding useCompressedOops (calls ++ [call])
      { closure with
        buffers := closure.buffers.write closure.buffer closure.cursor closure.cap (call.word useCompressedOops)
        cursor := closure.cursor + 1 } := by
  obtain ⟨holding, room⟩ := collecting
  refine ⟨room, holding.nonNull, ?_, ?_, holding.vectors, holding.linear, holding.unreleased⟩
  · intro write member
    rcases List.mem_append.mp member with earlier | last
    · exact holding.inBounds write earlier
    · obtain rfl := List.mem_singleton.mp last
      exact room
  · have earlier : (List.range closure.cursor).map
        (Function.update (closure.buffers.words closure.buffer) closure.cursor (call.word useCompressedOops)) =
        (List.range closure.cursor).map (closure.buffers.words closure.buffer) := by
      refine List.map_congr_left ?_
      intro index member
      exact Function.update_of_ne (List.mem_range.mp member).ne _ _
    have before := holding.delivered
    simp only [Buffers.write, Function.update_self, List.range_succ, List.map_append, List.map_singleton]
    rw [earlier, ← List.append_assoc, before]
    simp [reportedWords, nonNull]

theorem Collecting.push (collecting : Collecting useCompressedOops calls closure) {call : DoOop}
    (nonNull : call.heapOop ≠ 0) :
    Collecting useCompressedOops (calls ++ [call]) (closure.push supply (call.word useCompressedOops)) := by
  have written := collecting.write nonNull
  rw [MMTkRootsClosure.push]
  by_cases full : closure.cap ≤ closure.cursor + 1
  · rw [if_pos full]
    exact (written.flush supply (Nat.succ_pos _)).1
  · rw [if_neg full]
    exact ⟨written, Nat.lt_of_not_le full⟩

theorem reportedSlot_of_guaranteed {call : DoOop} (guaranteed : call.Guaranteed useCompressedOops)
    (nonNull : call.heapOop ≠ 0) :
    Slots.MMTkRootsClosure.reportedSlot useCompressedOops call.narrow call.p = .ok (call.word useCompressedOops) := by
  rw [Slots.MMTkRootsClosure.reportedSlot, taggedSlot, DoOop.word]
  by_cases tagged : (useCompressedOops && !call.narrow) = true
  · have untagged : call.p &&& tagMask = 0 := by
      have kind : useCompressedOops = true ∧ call.narrow = false := by simpa using tagged
      exact guaranteed nonNull kind.1 kind.2
    rw [if_pos tagged, if_pos untagged, if_pos tagged]
  · rw [if_neg tagged, if_neg tagged]

theorem Collecting.doOopWork (collecting : Collecting useCompressedOops calls closure) {call : DoOop}
    (guaranteed : call.Guaranteed useCompressedOops) :
    ∃ after, closure.doOopWork supply useCompressedOops call = .ok after ∧
      Collecting useCompressedOops (calls ++ [call]) after := by
  rw [MMTkRootsClosure.doOopWork]
  by_cases null : call.heapOop = 0
  · rw [if_pos null]
    refine ⟨closure, rfl, ?_⟩
    have same : reportedWords useCompressedOops (calls ++ [call]) = reportedWords useCompressedOops calls := by
      simp [reportedWords, null]
    obtain ⟨holding, room⟩ := collecting
    exact ⟨{ holding with delivered := same ▸ holding.delivered }, room⟩
  · rw [if_neg null, reportedSlot_of_guaranteed guaranteed null]
    exact ⟨_, rfl, collecting.push supply null⟩

theorem Collecting.doOops (collecting : Collecting useCompressedOops calls closure) {more : List DoOop}
    (guaranteed : ∀ call ∈ more, call.Guaranteed useCompressedOops) :
    ∃ after, closure.doOops supply useCompressedOops more = .ok after ∧
      Collecting useCompressedOops (calls ++ more) after := by
  induction more generalizing calls closure with
  | nil => exact ⟨closure, rfl, by simpa using collecting⟩
  | cons call rest ih =>
    obtain ⟨next, worked, collected⟩ := collecting.doOopWork supply (guaranteed call List.mem_cons_self)
    obtain ⟨after, done, complete⟩ := ih collected (fun call member => guaranteed call (List.mem_cons_of_mem _ member))
    refine ⟨after, ?_, by simpa using complete⟩
    rw [MMTkRootsClosure.doOops, worked]
    exact done

/-- The last buffer is empty when it is released. -/
theorem Collecting.release (collecting : Collecting useCompressedOops calls closure) (empty : closure.cursor = 0) :
    Delivered useCompressedOops calls
      (releaseBuffer closure.buffers closure.buffer closure.cursor closure.cap) := by
  obtain ⟨⟨_, _, inBounds, delivered, vectors, linear, unreleased⟩, _⟩ := collecting
  refine ⟨inBounds, ?_, vectors, ?_⟩
  · simpa [empty, releaseBuffer] using delivered
  · simp [releaseBuffer, linear, unreleased, Buffers.fromRawParts, RawVec.buffer]

theorem Collecting.destroy (collecting : Collecting useCompressedOops calls closure) :
    Delivered useCompressedOops calls (closure.destroy supply) := by
  rw [MMTkRootsClosure.destroy]
  by_cases pending : 0 < closure.cursor
  · obtain ⟨flushed, empty⟩ := collecting.1.flush supply pending
    simp only [if_pos pending, if_pos flushed.1.nonNull]
    exact flushed.release empty
  · simp only [if_neg pending, if_pos collecting.1.nonNull]
    exact collecting.release (Nat.eq_zero_of_not_pos pending)

end Steps

/-- Every root that is not null is delivered once and in order, every write is inside
the current buffer, and every buffer is handed over or released, once. -/
theorem roots_delivered_once (supply : Supply) (useCompressedOops : Bool) (calls : List DoOop)
    (guaranteed : ∀ call ∈ calls, call.Guaranteed useCompressedOops) :
    ∃ buffers, scanRoots supply useCompressedOops calls = .ok buffers ∧
      Delivered useCompressedOops calls buffers := by
  obtain ⟨closure, done, collecting⟩ := (Collecting.construct supply).doOops supply guaranteed
  refine ⟨closure.destroy supply, ?_, ?_⟩
  · rw [scanRoots, done]
  · simpa using collecting.destroy supply

/-- Buffers of two words, one word and four words. -/
def unevenSupply : Supply where
  buffer index := if index = 0 then ⟨0x1000, 2⟩ else if index = 1 then ⟨0x2000, 1⟩ else ⟨0x3000, 4⟩
  nonNull index := by split_ifs <;> decide
  capacity_pos index := by split_ifs <;> decide

/-- A null slot among slots of both kinds; the first two buffers are filled. -/
def mixedSlots : List DoOop :=
  [⟨0x7f0000001000, false, 8⟩, ⟨0x7f0000001008, false, 0⟩, ⟨0x7f0000002000, true, 8⟩, ⟨0x7f0000002004, true, 16⟩,
    ⟨0x7f0000003000, false, 24⟩]

theorem mixed_slots_delivered :
    ∃ buffers, scanRoots unevenSupply true mixedSlots = .ok buffers ∧
      buffers.handed.map RawVec.buffer = [⟨0x1000, 2⟩, ⟨0x2000, 1⟩, ⟨0x3000, 4⟩] ∧
      (buffers.handed.map RawVec.elements).flatten =
        [0x80007f0000001000, 0x7f0000002000, 0x7f0000002004, 0x80007f0000003000] := by
  obtain ⟨buffers, done, delivered⟩ := roots_delivered_once unevenSupply true mixedSlots (by decide)
  refine ⟨buffers, done, ?_, delivered.delivered.trans (by decide)⟩
  obtain rfl := Except.ok.inj done
  decide

end MmtkOpenJDK.Roots
